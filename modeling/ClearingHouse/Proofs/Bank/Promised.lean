import ClearingHouse.Proofs.Bank.Ready

/-!
# What an acknowledged prepare promises

A bank acknowledges a prepare in one of two ways.  It takes the account for the
leg, or it remembers that it has committed this leg before and does nothing.  The
commit that follows moves the amount in the first case and nothing in the second,
and so it does if the bank has meanwhile forgotten what it remembered.
-/

namespace ClearingHouse.Banks

/-- The account is held for a leg, which its bank has just prepared. -/
structure Taken (banks : Banks) (transfer : Transfer) (side : Side) : Prop where
  held : banks.hold? (transfer.party side) = some (transfer.legOrder side).hold
  leg : banks.leg? (transfer.party side).bank transfer.id side =
    some (.prepared (transfer.party side).account)

/-- All that the bank of a leg can remember of it is that it has been committed. -/
def Bygone (banks : Banks) (transfer : Transfer) (side : Side) : Prop :=
  ∀ record, banks.leg? (transfer.party side).bank transfer.id side = some record →
    record.status = .committed

/-- The prepare of a leg has been acknowledged: the bank has `found` the leg
committed, or has taken the account. -/
def Promised (found : Prop) (banks : Banks) (transfer : Transfer) (side : Side) :
    Prop :=
  (found ∧ Bygone banks transfer side) ∨ (¬ found ∧ Taken banks transfer side)

variable {banks after : Banks} {now : Nat} {name : BankName} {transfer : Transfer}
  {side : Side} {found : Prop}

theorem Committed.bygone
    (committed : banks.Committed (transfer.party side).bank transfer.id side) :
    Bygone banks transfer side := by
  obtain ⟨record, known, isCommitted⟩ := committed
  intro other present
  rw [known] at present
  cases present
  exact isCommitted

/-! ## Calls about other legs, and sweeps -/

theorem Committed.of_agreeOn {id : TransferId} {other : BankName}
    (agree : AgreeOn banks after id side) (committed : after.Committed other id side) :
    banks.Committed other id side := by
  obtain ⟨record, known, isCommitted⟩ := committed
  exact ⟨record, (agree.legs other).symm.trans known, isCommitted⟩

theorem Promised.of_agreeOn (promised : Promised found banks transfer side)
    (agree : AgreeOn banks after transfer.id side) :
    Promised found after transfer side := by
  rcases promised with ⟨isFound, bygone⟩ | ⟨notFound, taken⟩
  · refine Or.inl ⟨isFound, ?_⟩
    intro record known
    rw [agree.legs] at known
    exact bygone record known
  · refine Or.inr ⟨notFound, ?_, ?_⟩
    · exact (agree.holds _ _ rfl rfl).mpr taken.held
    · exact (agree.legs _).trans taken.leg

variable {bank : Bank}

theorem Committed.of_sweep {retention : Nat} {id : TransferId} {other : BankName}
    (present : Table.find? banks name = some bank)
    (committed : (banks.put name (bank.sweep now retention)).Committed other id side) :
    banks.Committed other id side := by
  obtain ⟨record, known, isCommitted⟩ := committed
  rw [leg?_sweep present] at known
  split at known
  · exact ⟨record, (Option.filter_eq_some_iff.mp known).1, isCommitted⟩
  · exact ⟨record, known, isCommitted⟩

/-- A sweep can make a bank forget a bygone leg, but none that has been taken. -/
theorem Promised.sweep (promised : Promised found banks transfer side)
    (present : Table.find? banks name = some bank) (retention : Nat) :
    Promised found (banks.put name (bank.sweep now retention)) transfer side := by
  rcases promised with ⟨isFound, bygone⟩ | ⟨notFound, taken⟩
  · refine Or.inl ⟨isFound, ?_⟩
    intro record known
    rw [leg?_sweep present] at known
    split at known
    · exact bygone record (Option.filter_eq_some_iff.mp known).1
    · exact bygone record known
  · refine Or.inr ⟨notFound, ?_, ?_⟩
    · rw [hold?, account?_sweep present]
      exact taken.held
    · rw [leg?_sweep present, taken.leg]
      split <;> rfl

/-! ## Prepares and commits of the leg itself -/

/-- A leg that its bank has not committed is taken by a prepare that succeeds. -/
theorem Turn.taken_of_prepare {reply : BankReply}
    (turn : Turn banks now (transfer.party side).bank
      (.prepare (transfer.legOrder side)) after (.finished (.ok reply)))
    (uncommitted : ¬ banks.Committed (transfer.party side).bank transfer.id side) :
    Taken after transfer side := by
  cases turn with
  | prepareKnown order record known committed same =>
      exact absurd ⟨record, known, committed⟩ uncommitted
  | prepared order account ready writes legs =>
      constructor
      · rw [writes.hold?]
        exact if_pos rfl
      · rw [legs]
        exact if_pos ⟨rfl, rfl, rfl⟩

/-- A commit that succeeds applies a leg that was taken, and does nothing for one
that was found committed. -/
theorem Turn.commit_of_promised {reply : BankReply}
    (turn : Turn banks now (transfer.party side).bank
      (.commit (transfer.legOrder side)) after (.finished (.ok reply)))
    (promised : Promised found banks transfer side) :
    (found ∧ Same banks after) ∨
      (¬ found ∧ ∃ account balance, account.moved side transfer.amount = .ok balance ∧
        Writes banks after (transfer.party side) account ⟨balance, none⟩) := by
  cases turn with
  | commitKnown order record known committed same =>
      rcases promised with ⟨isFound, -⟩ | ⟨-, taken⟩
      · exact Or.inl ⟨isFound, same⟩
      · have prepared := known.symm.trans taken.leg
        cases prepared
        cases committed
  | applied order account balance record held fits known prepared sameAccount writes
      legs =>
      rcases promised with ⟨-, bygone⟩ | ⟨notFound, -⟩
      · have committed := bygone record known
        rw [prepared] at committed
        cases committed
      · exact Or.inr ⟨notFound, account, balance, fits, writes⟩

end ClearingHouse.Banks
