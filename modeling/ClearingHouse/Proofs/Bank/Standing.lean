import ClearingHouse.Proofs.Bank.Turn
import ClearingHouse.Transfer.Settlement

/-!
# How far the legs of a transfer have come

A leg is idle, held or moved.  `Banks.Stands` says what this means for all banks
at once: where holds for this leg can be, and what is remembered of it.  A call
about one leg leaves the others as they are, and moves its own leg on.
-/

namespace ClearingHouse

/-- How far a leg has come. -/
inductive LegStanding where
  /-- No account is held for the leg, and nothing has been moved. -/
  | idle
  | held
  | moved
  deriving DecidableEq

/-- Whether a call is about a leg. -/
def BankCall.Touches (transfer : TransferId) (side : Side) : BankCall → Prop
  | .prepare order => order.transfer = transfer ∧ order.side = side
  | .commit order => order.transfer = transfer ∧ order.side = side
  | .release order => order.transfer = transfer
  | .balance _ => False

/-- The calls of a stage are about its own transfer. -/
theorem Settlement.Stage.id_of_touches_call {stage : Settlement.Stage} {transfer : Transfer}
    {id : TransferId} {side : Side}
    (touches : (stage.call transfer).Touches id side) : id = transfer.id := by
  cases stage with
  | prepareDebit | prepareCredit | commitDebit | commitCredit =>
      exact touches.1.symm
  | releaseDebit cause creditNext => exact touches.symm
  | releaseCredit cause => exact touches.symm

theorem Transfer.party_ne {transfer : Transfer}
    (distinct : transfer.sender ≠ transfer.recipient) {side other : Side}
    (otherSide : other ≠ side) : transfer.party other ≠ transfer.party side := by
  cases side <;> cases other
  · exact absurd rfl otherSide
  · exact fun same => distinct same.symm
  · exact distinct
  · exact absurd rfl otherSide

namespace Banks

variable {banks after : Banks} {now : Nat} {name : BankName} {call : BankCall}
  {attempt : Bank.Attempt BankReply}

/-! ## Legs that a call leaves alone -/

/-- One leg is the same for all banks before and after. -/
structure AgreeOn (banks after : Banks) (transfer : TransferId) (side : Side) :
    Prop where
  holds : ∀ party hold, hold.transfer = transfer → hold.side = side →
    (after.hold? party = some hold ↔ banks.hold? party = some hold)
  legs : ∀ name,
    after.leg? name transfer side = banks.leg? name transfer side

theorem Same.agreeOn (same : Same banks after) (transfer : TransferId)
    (side : Side) : AgreeOn banks after transfer side where
  holds := by
    intro party hold _ _
    rw [same.hold?]
  legs := fun name => same.legs name transfer side

/-- Holds of a leg survive a write that neither brings nor takes one. -/
theorem Writes.holds_iff {party : Party} {old new : Account} {hold : Hold}
    (writes : Writes banks after party old new)
    (unwritten : new.hold ≠ some hold) (unread : old.hold ≠ some hold)
    (other : Party) :
    after.hold? other = some hold ↔ banks.hold? other = some hold := by
  rw [writes.hold?]
  split
  · rename_i here
    subst here
    rw [hold?_of_account? writes.found]
    exact ⟨fun held => (unwritten held).elim, fun held => (unread held).elim⟩
  · rfl

/-- A call leaves the legs alone that it is not about. -/
theorem Turn.agreeOn (turn : Turn banks now name call after attempt)
    {transfer : TransferId} {side : Side}
    (untouched : ¬ call.Touches transfer side) :
    AgreeOn banks after transfer side := by
  cases turn with
  | prepareRefused order refusal same => exact same.agreeOn transfer side
  | prepareAgain order pause number same => exact same.agreeOn transfer side
  | prepareKnown order record known committed same =>
      exact same.agreeOn transfer side
  | prepared order account ready writes legs =>
      have other : ∀ hold : Hold, hold.transfer = transfer →
          hold.side = side → order.hold ≠ hold := by
        rintro hold rfl rfl rfl
        exact untouched ⟨rfl, rfl⟩
      constructor
      · intro party hold about onSide
        apply writes.holds_iff
        · simpa using other hold about onSide
        · rcases ready with held | ⟨free, -⟩
          · simpa [held] using other hold about onSide
          · simp [free]
      · intro otherName
        rw [legs, if_neg]
        rintro ⟨-, rfl, rfl⟩
        exact untouched ⟨rfl, rfl⟩
  | commitRefused order refusal same => exact same.agreeOn transfer side
  | commitKnown order record known committed same =>
      exact same.agreeOn transfer side
  | applied order account balance record held fits known prepared sameAccount
      writes legs =>
      constructor
      · intro party hold about onSide
        apply writes.holds_iff
        · simp
        · rw [held]
          rintro ⟨⟩
          exact untouched ⟨about, onSide⟩
      · intro otherName
        rw [legs, if_neg]
        rintro ⟨-, rfl, rfl⟩
        exact untouched ⟨rfl, rfl⟩
  | idle order result notHeld same => exact same.agreeOn transfer side
  | released order account hold held holder writes legs =>
      constructor
      · intro party other about onSide
        apply writes.holds_iff
        · simp
        · rw [held]
          rintro ⟨⟩
          exact untouched (holder.symm.trans about)
      · intro otherName
        rw [legs, if_neg]
        rintro ⟨-, rfl⟩
        exact untouched rfl
  | told number result same => exact same.agreeOn transfer side

/-! ## Holds that can be applied -/

/-- Every leg that holds an account could be applied to it now. -/
def Funded (banks : Banks) : Prop :=
  ∀ party account hold, banks.account? party = some account →
    account.hold = some hold →
      ∃ balance, account.moved hold.side hold.amount = .ok balance

theorem Same.funded (same : Same banks after) (funded : banks.Funded) :
    after.Funded := by
  intro party account hold found held
  rw [same.accounts] at found
  exact funded party account hold found held

theorem Writes.funded {party : Party} {old new : Account}
    (writes : Writes banks after party old new) (funded : banks.Funded)
    (written : ∀ hold, new.hold = some hold →
      ∃ balance, new.moved hold.side hold.amount = .ok balance) :
    after.Funded := by
  intro other account hold found held
  rw [writes.accounts] at found
  split at found
  · cases found
    exact written hold held
  · exact funded other account hold found held

theorem Turn.funded (turn : Turn banks now name call after attempt)
    (funded : banks.Funded) : after.Funded := by
  cases turn with
  | prepareRefused order refusal same => exact same.funded funded
  | prepareAgain order pause number same => exact same.funded funded
  | prepareKnown order record known committed same => exact same.funded funded
  | prepared order account ready writes legs =>
      apply writes.funded funded
      rintro hold ⟨⟩
      rcases ready with held | ⟨-, fits⟩
      · exact funded _ account order.hold writes.found held
      · exact fits
  | commitRefused order refusal same => exact same.funded funded
  | commitKnown order record known committed same => exact same.funded funded
  | applied order account balance record held fits known prepared sameAccount
      writes legs =>
      apply writes.funded funded
      rintro hold ⟨⟩
  | idle order result notHeld same => exact same.funded funded
  | released order account hold held holder writes legs =>
      apply writes.funded funded
      rintro hold ⟨⟩
  | told number result same => exact same.funded funded

/-! ## Legs that are ready -/

/-- The bank of a leg holds the account for exactly this leg, and remembers the leg
as prepared. -/
structure IsReady (banks : Banks) (transfer : Transfer) (side : Side) :
    Prop where
  held : banks.hold? (transfer.party side) =
    some (transfer.legOrder side).hold
  prepared : ∃ record, banks.leg? (transfer.party side).bank transfer.id side =
    some record ∧ record.status = .prepared ∧
      record.account = (transfer.party side).account

/-- The bank of a leg that is ready applies it when it is asked to. -/
theorem IsReady.commit_succeeds {bank : Bank} {transfer : Transfer} {side : Side}
    (ready : IsReady banks transfer side) (funded : banks.Funded)
    (named : transfer.id.isBlank = false)
    (positive : transfer.amount.isZero = false)
    (found : Table.find? banks (transfer.party side).bank = some bank)
    (now : Nat) :
    (bank.receive now (.commit (transfer.legOrder side))).2 =
      .finished (.ok .done) := by
  obtain ⟨isHeld, record, known, prepared, sameAccount⟩ := ready
  obtain ⟨account, present, accountHold⟩ := hold?_eq_some.mp isHeld
  obtain ⟨balance, fits⟩ :=
    funded _ account _ present accountHold
  have here : banks.account? ⟨(transfer.party side).bank,
      (transfer.party side).account⟩ = some account := present
  rw [account?_of_find? found] at here
  rw [leg?_of_find? found] at known
  have committed := Bank.commit_of_prepared now named positive known prepared
    sameAccount here accountHold fits
  simp [Bank.receive, committed, Except.map]

/-! ## The standing of a leg -/

/-- A leg of a transfer stands like this at the banks.  Where legs that have
moved are not `kept`, the banks may have forgotten them. -/
structure Stands (kept : Bool) (banks : Banks) (transfer : Transfer)
    (side : Side) (standing : LegStanding) : Prop where
  /-- Only the account of the party is held for the leg. -/
  hold : ∀ party hold, banks.hold? party = some hold →
    hold.transfer = transfer.id → hold.side = side →
      standing = .held ∧ party = transfer.party side
  /-- A leg that is remembered has been released, or is the one of the party. -/
  leg : ∀ name record, banks.leg? name transfer.id side = some record →
    record.status = .released ∨
      name = (transfer.party side).bank ∧
        (standing = .held ∧ record.status = .prepared ∨
          standing = .moved ∧ record.status = .committed)
  held : standing = .held →
    banks.hold? (transfer.party side) = some (transfer.legOrder side).hold ∧
      banks.leg? (transfer.party side).bank transfer.id side =
        some (.prepared (transfer.party side).account)
  moved : standing = .moved → kept = true →
    ∃ record, banks.leg? (transfer.party side).bank transfer.id side =
      some record ∧ record.status = .committed

variable {kept : Bool} {transfer : Transfer} {side : Side}
  {standing : LegStanding}

theorem Stands.of_agreeOn (stands : Stands kept banks transfer side standing)
    (agree : AgreeOn banks after transfer.id side) :
    Stands kept after transfer side standing := by
  constructor
  · intro party hold held about onSide
    exact stands.hold party hold ((agree.holds party hold about onSide).mp held)
      about onSide
  · intro name record known
    rw [agree.legs] at known
    exact stands.leg name record known
  · intro isHeld
    obtain ⟨held, known⟩ := stands.held isHeld
    refine ⟨(agree.holds _ _ rfl rfl).mpr held, ?_⟩
    rw [agree.legs]
    exact known
  · intro isMoved isKept
    rw [agree.legs]
    exact stands.moved isMoved isKept

theorem Stands.unheld_of_idle {party : Party} {hold : Hold}
    (idle : Stands kept banks transfer side .idle)
    (held : banks.hold? party = some hold)
    (about : hold.transfer = transfer.id) : hold.side ≠ side := by
  intro onSide
  cases (idle.hold party hold held about onSide).1

theorem Stands.released_of_idle {name : BankName} {record : LegRecord}
    (idle : Stands kept banks transfer side .idle)
    (known : banks.leg? name transfer.id side = some record) :
    record.status = .released := by
  rcases idle.leg name record known with released | ⟨-, ⟨⟨⟩, -⟩ | ⟨⟨⟩, -⟩⟩
  exact released

/-- An idle leg is idle for every transfer of its name. -/
theorem Stands.rename {other : Transfer}
    (stands : Stands kept banks transfer side .idle)
    (sameId : other.id = transfer.id) :
    Stands kept banks other side .idle := by
  constructor
  · intro party hold held about onSide
    exact absurd onSide (stands.unheld_of_idle held (about.trans sameId))
  · intro name record known
    rw [sameId] at known
    exact Or.inl (stands.released_of_idle known)
  · rintro ⟨⟩
  · rintro ⟨⟩

/-- A prepare of an idle leg takes hold of its account, or changes nothing. -/
theorem Turn.stands_prepare
    (turn : Turn banks now (transfer.party side).bank
      (.prepare (transfer.legOrder side)) after attempt)
    (idle : Stands kept banks transfer side .idle) :
    (attempt = .finished (.ok .done) ∧ Stands kept after transfer side .held) ∨
      attempt ≠ .finished (.ok .done) ∧ Stands kept after transfer side .idle := by
  cases turn with
  | prepareRefused order refusal same =>
      exact Or.inr ⟨by simp, idle.of_agreeOn (same.agreeOn _ _)⟩
  | prepareAgain order pause number same =>
      exact Or.inr ⟨by simp, idle.of_agreeOn (same.agreeOn _ _)⟩
  | prepareKnown order record known committed same =>
      have released := idle.released_of_idle known
      rw [committed] at released
      cases released
  | prepared order account ready writes legs =>
      refine Or.inl ⟨rfl, ?_⟩
      constructor
      · intro party hold held about onSide
        rw [writes.hold?] at held
        split at held
        · rename_i here
          exact ⟨rfl, here⟩
        · exact absurd onSide (idle.unheld_of_idle held about)
      · intro name record known
        rw [legs] at known
        split at known
        · rename_i here
          cases known
          exact Or.inr ⟨here.1, Or.inl ⟨rfl, rfl⟩⟩
        · exact Or.inl (idle.released_of_idle known)
      · intro _
        constructor
        · rw [writes.hold?]
          exact if_pos rfl
        · rw [legs]
          exact if_pos ⟨rfl, rfl, rfl⟩
      · rintro ⟨⟩

/-- A commit of a held leg that is acknowledged has applied it. -/
theorem Turn.stands_commit
    (turn : Turn banks now (transfer.party side).bank
      (.commit (transfer.legOrder side)) after (.finished (.ok .done)))
    (held : Stands kept banks transfer side .held) :
    Stands kept after transfer side .moved ∧
      ∃ account balance,
        account.moved side transfer.amount = .ok balance ∧
          Writes banks after (transfer.party side) account ⟨balance, none⟩ := by
  cases turn with
  | commitKnown order record known committed same =>
      rcases held.leg _ record known with
        released | ⟨-, ⟨-, prepared⟩ | ⟨⟨⟩, -⟩⟩
      · rw [committed] at released
        cases released
      · rw [committed] at prepared
        cases prepared
  | applied order account balance record accountHeld fits known prepared
      sameAccount writes legs =>
      refine ⟨?_, account, balance, fits, writes⟩
      constructor
      · intro party hold isHeld about onSide
        rw [writes.hold?] at isHeld
        split at isHeld
        · cases isHeld
        · rename_i elsewhere
          exact absurd (held.hold party hold isHeld about onSide).2 elsewhere
      · intro name other remembered
        rw [legs] at remembered
        split at remembered
        · rename_i here
          cases remembered
          exact Or.inr ⟨here.1, Or.inr ⟨rfl, rfl⟩⟩
        · rename_i elsewhere
          rcases held.leg name other remembered with released | ⟨here, -⟩
          · exact Or.inl released
          · exact absurd ⟨here, rfl, rfl⟩ elsewhere
      · rintro ⟨⟩
      · intro _ _
        refine ⟨record.settle now .committed, ?_, rfl⟩
        rw [legs]
        exact if_pos ⟨rfl, rfl, rfl⟩

theorem unwound_status_of_released {record : LegRecord} {now : Nat}
    {account : AccountNumber} (released : record.status = .released) :
    (record.unwound now account).status = .released := by
  simp [LegRecord.unwound, released]

theorem status_of_unwound {record : LegRecord} {now : Nat}
    {account : AccountNumber}
    (committed : (record.unwound now account).status = .committed) :
    record.status = .committed := by
  unfold LegRecord.unwound at committed
  split at committed
  · cases committed
  · exact committed

/-- A release leaves nothing of a leg that has not been moved. -/
theorem Turn.stands_release
    (turn : Turn banks now (transfer.party side).bank
      (.release (transfer.releaseOrder side)) after attempt)
    (stands : Stands kept banks transfer side standing)
    (unmoved : standing ≠ .moved) : Stands kept after transfer side .idle := by
  cases turn with
  | idle order result notHeld same =>
      cases standing with
      | idle => exact stands.of_agreeOn (same.agreeOn _ _)
      | held => exact absurd rfl (notHeld _ (stands.held rfl).1)
      | moved => exact absurd rfl unmoved
  | released order account hold held holder writes legs =>
      constructor
      · intro party other isHeld about onSide
        rw [writes.hold?] at isHeld
        split at isHeld
        · cases isHeld
        · rename_i elsewhere
          exact absurd (stands.hold party other isHeld about onSide).2 elsewhere
      · intro name record known
        rw [legs] at known
        split at known
        · rename_i here
          obtain ⟨former, was, rfl⟩ := Option.map_eq_some_iff.mp known
          left
          rcases stands.leg name former was with
            released | ⟨-, ⟨isHeld, prepared⟩ | ⟨isMoved, -⟩⟩
          · exact unwound_status_of_released released
          · have formerIs := (stands.held isHeld).2
            rw [here.1] at was
            have same := Option.some.inj (was.symm.trans formerIs)
            subst same
            simp [LegRecord.unwound, LegRecord.prepared, LegRecord.settle,
              Transfer.releaseOrder]
          · exact absurd isMoved unmoved
        · rename_i elsewhere
          rcases stands.leg name record known with released | ⟨here, -⟩
          · exact Or.inl released
          · exact absurd ⟨here, rfl⟩ elsewhere
      · rintro ⟨⟩
      · rintro ⟨⟩

/-- A release leaves the other leg of its transfer as it stands. -/
theorem Turn.stands_release_of_ne {other : Side}
    (turn : Turn banks now (transfer.party side).bank
      (.release (transfer.releaseOrder side)) after attempt)
    (distinct : transfer.sender ≠ transfer.recipient) (otherSide : other ≠ side)
    (stands : Stands kept banks transfer other standing) :
    Stands kept after transfer other standing := by
  cases turn with
  | idle order result notHeld same => exact stands.of_agreeOn (same.agreeOn _ _)
  | released order account hold held holder writes legs =>
      have elsewhere : transfer.party other ≠
          ⟨(transfer.party side).bank, (transfer.party side).account⟩ :=
        Transfer.party_ne distinct otherSide
      constructor
      · intro party otherHold isHeld about onSide
        rw [writes.hold?] at isHeld
        split at isHeld
        · cases isHeld
        · exact stands.hold party otherHold isHeld about onSide
      · intro name record known
        rw [legs] at known
        split at known
        · obtain ⟨former, was, rfl⟩ := Option.map_eq_some_iff.mp known
          rcases stands.leg name former was with
            released | ⟨here, ⟨isHeld, prepared⟩ | ⟨isMoved, committed⟩⟩
          · exact Or.inl (unwound_status_of_released released)
          · by_cases unwinds : former.account = (transfer.party side).account
            · left
              simp [LegRecord.unwound, LegRecord.settle, unwinds, prepared,
                Transfer.releaseOrder]
            · right
              refine ⟨here, Or.inl ⟨isHeld, ?_⟩⟩
              simp [LegRecord.unwound, unwinds, prepared, Transfer.releaseOrder]
          · right
            refine ⟨here, Or.inr ⟨isMoved, ?_⟩⟩
            simp [LegRecord.unwound, committed]
        · exact stands.leg name record known
      · intro isHeld
        obtain ⟨held, known⟩ := stands.held isHeld
        refine ⟨?_, ?_⟩
        · rw [writes.hold?]
          exact (if_neg elsewhere).trans held
        · rw [legs, known]
          split
          · rename_i here
            have otherAccount : (transfer.party other).account ≠
                (transfer.party side).account := by
              intro same
              apply Transfer.party_ne distinct otherSide
              cases first : transfer.party other
              cases second : transfer.party side
              rw [first, second] at here same
              simp only at here same
              rw [here.1, same]
            simp [LegRecord.unwound, LegRecord.prepared, otherAccount,
              Transfer.releaseOrder]
          · rfl
      · intro isMoved isKept
        obtain ⟨record, known, committed⟩ := stands.moved isMoved isKept
        rw [legs]
        split
        · rw [known]
          exact ⟨_, rfl, by simp [LegRecord.unwound, committed]⟩
        · exact ⟨record, known, committed⟩

theorem Stands.isReady (held : Stands kept banks transfer side .held) :
    IsReady banks transfer side := by
  obtain ⟨isHeld, known⟩ := held.held rfl
  exact ⟨isHeld, _, known, rfl, rfl⟩

/-- The bank of a held leg applies it when it is asked to. -/
theorem Stands.commit_succeeds {bank : Bank}
    (held : Stands kept banks transfer side .held) (funded : banks.Funded)
    (named : transfer.id.isBlank = false)
    (positive : transfer.amount.isZero = false)
    (found : Table.find? banks (transfer.party side).bank = some bank)
    (now : Nat) :
    (bank.receive now (.commit (transfer.legOrder side))).2 =
      .finished (.ok .done) :=
  held.isReady.commit_succeeds funded named positive found now

/-! ## Sweeps -/

theorem account?_sweep {bank : Bank} (found : Table.find? banks name = some bank)
    (retention : Nat) (party : Party) :
    (banks.put name (bank.sweep now retention)).account? party =
      banks.account? party := by
  apply account?_put_of_accounts found
  rfl

theorem leg?_sweep {bank : Bank} (found : Table.find? banks name = some bank)
    (retention : Nat) (other : BankName) (id : TransferId) (side : Side) :
    (banks.put name (bank.sweep now retention)).leg? other id side =
      if name = other then
        (banks.leg? other id side).filter fun record =>
          record.isKept now retention
      else banks.leg? other id side := by
  rw [leg?_put]
  split
  · rename_i here
    subst here
    rw [leg?_of_find? found]
    exact Table.find?_retain _ _ _
  · rfl

/-- A sweep can only make a bank forget legs that have been moved or released. -/
theorem Stands.sweep {bank : Bank}
    (stands : Stands false banks transfer side standing)
    (found : Table.find? banks name = some bank) (retention : Nat) :
    Stands false (banks.put name (bank.sweep now retention)) transfer side
      standing := by
  have holdOf : ∀ party,
      (banks.put name (bank.sweep now retention)).hold? party =
        banks.hold? party := by
    intro party
    simp only [hold?, account?_sweep found]
  constructor
  · intro party hold held about onSide
    rw [holdOf] at held
    exact stands.hold party hold held about onSide
  · intro other record known
    rw [leg?_sweep found] at known
    split at known
    · exact stands.leg other record (Option.filter_eq_some_iff.mp known).1
    · exact stands.leg other record known
  · intro isHeld
    obtain ⟨held, known⟩ := stands.held isHeld
    rw [holdOf, leg?_sweep found, known]
    refine ⟨held, ?_⟩
    split <;> rfl
  · rintro - ⟨⟩

end Banks

end ClearingHouse
