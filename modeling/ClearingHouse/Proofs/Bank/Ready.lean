import ClearingHouse.Proofs.Bank.Applied

/-!
# Legs that are ready to be committed

Of the calls for a transfer, only a release of the leg itself ends that the leg is
ready, and only a commit asks whether it is.
-/

namespace ClearingHouse.Banks

variable {banks after : Banks} {now : Nat} {name : BankName} {call : BankCall}
  {attempt : Bank.Attempt BankReply} {transfer : Transfer} {side : Side}

theorem find?_put (banks : Banks) (name other : BankName) (bank : Bank) :
    Table.find? (banks.put name bank) other =
      if name = other then some bank else Table.find? banks other :=
  Table.find?_insert banks name other bank

/-- Writing one bank takes none away. -/
theorem exists_find?_put {bank : Bank} {other : BankName}
    (found : ∃ bank, Table.find? banks other = some bank) :
    ∃ bank', Table.find? (banks.put name bank) other = some bank' := by
  rw [find?_put]
  split
  · exact ⟨bank, rfl⟩
  · exact found

theorem AgreeOn.symm {id : TransferId} (agree : AgreeOn banks after id side) :
    AgreeOn after banks id side where
  holds := fun party hold about onSide =>
    (agree.holds party hold about onSide).symm
  legs := fun name => (agree.legs name).symm

theorem IsReady.of_agreeOn (ready : IsReady banks transfer side)
    (agree : AgreeOn banks after transfer.id side) :
    IsReady after transfer side := by
  obtain ⟨held, record, known, prepared⟩ := ready
  constructor
  · exact (agree.holds _ _ rfl rfl).mpr held
  · exact ⟨record, (agree.legs _).trans known, prepared⟩

theorem Same.isReady (same : Same banks after)
    (ready : IsReady banks transfer side) : IsReady after transfer side :=
  ready.of_agreeOn (same.agreeOn transfer.id side)

/-- A further prepare of the same leg leaves it ready. -/
theorem Turn.isReady_prepare
    (turn : Turn banks now (transfer.party side).bank
      (.prepare (transfer.legOrder side)) after attempt)
    (ready : IsReady banks transfer side) : IsReady after transfer side := by
  cases turn with
  | prepareRefused order refusal same => exact same.isReady ready
  | prepareAgain order pause number same => exact same.isReady ready
  | prepareKnown order record known committed same => exact same.isReady ready
  | prepared order account possible writes legs =>
      constructor
      · rw [writes.hold?]
        exact if_pos rfl
      · refine ⟨.prepared (transfer.party side).account, ?_, rfl, rfl⟩
        rw [legs]
        exact if_pos ⟨rfl, rfl, rfl⟩

theorem Turn.not_isReady_release
    (turn : Turn banks now (transfer.party side).bank
      (.release (transfer.releaseOrder side)) after attempt) :
    ¬ IsReady after transfer side := by
  rintro ⟨held, -⟩
  cases turn with
  | idle order result notHeld same =>
      rw [same.hold?] at held
      exact notHeld _ held rfl
  | released order account hold wasHeld holder writes legs =>
      rw [writes.hold?] at held
      have freed := (if_pos rfl).symm.trans held
      cases freed

/-- A release of the other leg of the transfer leaves a leg ready. -/
theorem Turn.isReady_release_of_ne {other : Side}
    (turn : Turn banks now (transfer.party side).bank
      (.release (transfer.releaseOrder side)) after attempt)
    (distinct : transfer.sender ≠ transfer.recipient) (otherSide : other ≠ side)
    (ready : IsReady banks transfer other) : IsReady after transfer other := by
  have apart := Transfer.party_ne distinct otherSide
  cases turn with
  | idle order result notHeld same => exact same.isReady ready
  | released order account hold wasHeld holder writes legs =>
      obtain ⟨held, record, known, prepared, sameAccount⟩ := ready
      constructor
      · rw [writes.hold?]
        exact (if_neg apart).trans held
      · refine ⟨record, ?_, prepared, sameAccount⟩
        rw [legs, known]
        split
        · -- At one bank the two legs are on different accounts.
          rename_i here
          have elsewhere : record.account ≠ (transfer.party side).account := by
            intro same
            apply apart
            cases first : transfer.party other
            cases second : transfer.party side
            rw [first, second] at here
            rw [sameAccount, first, second] at same
            simp only at here same
            rw [here.1, same]
          simp [LegRecord.unwound, elsewhere, Transfer.releaseOrder]
        · rfl

/-- A commit is acknowledged only if the leg was ready, or had been committed
before. -/
theorem Turn.isReady_of_commit {reply : BankReply}
    (turn : Turn banks now (transfer.party side).bank
      (.commit (transfer.legOrder side)) after (.finished (.ok reply)))
    (uncommitted : ¬ banks.Committed (transfer.party side).bank transfer.id
      side) : IsReady banks transfer side := by
  cases turn with
  | commitKnown order record known committed same =>
      exact absurd ⟨record, known, committed⟩ uncommitted
  | applied order account balance record held fits known prepared sameAccount
      writes legs =>
      constructor
      · exact (hold?_of_account? writes.found).trans held
      · exact ⟨record, known, prepared, sameAccount⟩

end ClearingHouse.Banks
