import ClearingHouse.Proofs.Bank.Standing

/-!
# Legs that have been applied

Money moves when a leg is committed, and at no other time.  A leg that has been
committed stays so, unless it is prepared anew.
-/

namespace ClearingHouse.Banks

/-- A bank remembers that it has committed a leg. -/
def Committed (banks : Banks) (name : BankName) (transfer : TransferId)
    (side : Side) : Prop :=
  ∃ record, banks.leg? name transfer side = some record ∧
    record.status = .committed

/-- Whether the bank of a leg has committed it. -/
def hasApplied (banks : Banks) (transfer : Transfer) (side : Side) : Bool :=
  match banks.leg? (transfer.party side).bank transfer.id side with
  | some record => decide (record.status = .committed)
  | none => false

theorem hasApplied_eq_true {banks : Banks} {transfer : Transfer} {side : Side} :
    banks.hasApplied transfer side = true ↔
      banks.Committed (transfer.party side).bank transfer.id side := by
  unfold hasApplied Committed
  cases banks.leg? (transfer.party side).bank transfer.id side <;> simp

def balance? (banks : Banks) (party : Party) : Option Amount :=
  (banks.account? party).map Account.balance

variable {banks after : Banks} {transfer : Transfer}

theorem AgreeOn.hasApplied {side : Side}
    (agree : AgreeOn banks after transfer.id side) :
    after.hasApplied transfer side = banks.hasApplied transfer side := by
  unfold Banks.hasApplied
  rw [agree.legs]

/-- No bank has committed a leg that is idle. -/
theorem Stands.not_committed {side : Side}
    (stands : Stands true banks transfer side .idle) (name : BankName) :
    ¬ banks.Committed name transfer.id side := by
  rintro ⟨record, known, committed⟩
  have released := stands.released_of_idle known
  rw [committed] at released
  cases released

theorem Stands.hasApplied {side : Side} {standing : LegStanding}
    (stands : Stands true banks transfer side standing) :
    banks.hasApplied transfer side = decide (standing = .moved) := by
  cases standing with
  | moved =>
      obtain ⟨record, known, committed⟩ := stands.moved rfl rfl
      simp [Banks.hasApplied, known, committed]
  | held => simp [Banks.hasApplied, (stands.held rfl).2, LegRecord.prepared]
  | idle =>
      apply Bool.eq_false_iff.mpr
      intro applied
      exact stands.not_committed _ (hasApplied_eq_true.mp applied)

/-! ## What a call moves -/

variable {now : Nat} {name : BankName} {call : BankCall}
  {attempt : Bank.Attempt BankReply}

theorem Same.balance? (same : Same banks after) (party : Party) :
    after.balance? party = banks.balance? party := by
  simp only [Banks.balance?, same.accounts]

theorem Same.committed (same : Same banks after) {other : BankName}
    {id : TransferId} {side : Side} (committed : after.Committed other id side) :
    banks.Committed other id side := by
  unfold Committed
  rw [← same.legs]
  exact committed

theorem Writes.balance? {party : Party} {old new : Account}
    (writes : Writes banks after party old new) (other : Party) :
    after.balance? other =
      if other = party then some new.balance else banks.balance? other := by
  simp only [Banks.balance?, writes.accounts]
  split <;> rfl

theorem Writes.balance?_of_found {party : Party} {old new : Account}
    (writes : Writes banks after party old new) :
    banks.balance? party = some old.balance := by
  simp [Banks.balance?, writes.found]

theorem Writes.balance?_of_eq {party : Party} {old new : Account}
    (writes : Writes banks after party old new)
    (unchanged : new.balance = old.balance) (other : Party) :
    after.balance? other = banks.balance? other := by
  rw [writes.balance?]
  split
  · rename_i here
    rw [here, unchanged, writes.balance?_of_found]
  · rfl

/-- A call moves nothing and commits nothing, or applies the leg that it asks to
commit. -/
inductive Moves (banks after : Banks) (name : BankName) (call : BankCall)
    (attempt : Bank.Attempt BankReply) : Prop where
  | nothing
      (balances : ∀ party, after.balance? party = banks.balance? party)
      (total : after.total = banks.total)
      (committed : ∀ other id side, after.Committed other id side →
        banks.Committed other id side)
      (acknowledged : ∀ order reply, call = .commit order →
        attempt = .finished (.ok reply) →
          banks.Committed name order.transfer order.side)
  | applied (order : LegOrder) (account : Account) (balance : Amount)
      (isCommit : call = .commit order)
      (done : attempt = .finished (.ok .done))
      (fits : account.moved order.side order.amount = .ok balance)
      (writes : Writes banks after ⟨name, order.account⟩ account ⟨balance, none⟩)
      (committed : ∀ other id side, after.Committed other id side →
        other = name ∧ id = order.transfer ∧ side = order.side ∨
          banks.Committed other id side)

theorem Same.moves (same : Same banks after)
    (acknowledged : ∀ order reply, call = .commit order →
      attempt = .finished (.ok reply) →
        banks.Committed name order.transfer order.side) :
    Moves banks after name call attempt :=
  .nothing same.balance? same.total (fun _ _ _ => same.committed) acknowledged

theorem Turn.moves (turn : Turn banks now name call after attempt) :
    Moves banks after name call attempt := by
  cases turn with
  | prepareRefused order refusal same =>
      apply same.moves
      rintro other reply ⟨⟩
  | prepareAgain order pause number same =>
      apply same.moves
      rintro other reply ⟨⟩
  | prepareKnown order record known committed same =>
      apply same.moves
      rintro other reply ⟨⟩
  | prepared order account ready writes legs =>
      refine .nothing (writes.balance?_of_eq rfl) ?_ ?_ ?_
      · have total := writes.total
        simp only at total
        omega
      · rintro other id side ⟨record, known, committed⟩
        rw [legs] at known
        split at known
        · cases known
          cases committed
        · exact ⟨record, known, committed⟩
      · rintro other reply ⟨⟩
  | commitRefused order refusal same =>
      apply same.moves
      rintro other reply - ⟨⟩
  | commitKnown order record known committed same =>
      apply same.moves
      rintro other reply ⟨⟩ -
      exact ⟨record, known, committed⟩
  | applied order account balance record held fits known prepared sameAccount
      writes legs =>
      refine .applied order account balance rfl rfl fits writes ?_
      rintro other id side ⟨found, isKnown, committed⟩
      rw [legs] at isKnown
      split at isKnown
      · rename_i here
        exact Or.inl here
      · exact Or.inr ⟨found, isKnown, committed⟩
  | idle order result notHeld same =>
      apply same.moves
      rintro other reply ⟨⟩
  | released order account hold held holder writes legs =>
      refine .nothing (writes.balance?_of_eq rfl) ?_ ?_ ?_
      · have total := writes.total
        simp only at total
        omega
      · rintro other id side ⟨record, known, committed⟩
        rw [legs] at known
        split at known
        · obtain ⟨former, was, rfl⟩ := Option.map_eq_some_iff.mp known
          exact ⟨former, was, status_of_unwound committed⟩
        · exact ⟨record, known, committed⟩
      · rintro other reply ⟨⟩
  | told number result same =>
      apply same.moves
      rintro other reply ⟨⟩

/-- Nothing but a commit moves money. -/
theorem Turn.balance? (turn : Turn banks now name call after attempt)
    (notCommit : ∀ order, call ≠ .commit order) (party : Party) :
    after.balance? party = banks.balance? party := by
  cases turn.moves with
  | nothing balances total committed acknowledged => exact balances party
  | applied order account balance isCommit done fits writes committed =>
      exact absurd isCommit (notCommit order)

theorem Turn.total (turn : Turn banks now name call after attempt)
    (notCommit : ∀ order, call ≠ .commit order) : after.total = banks.total := by
  cases turn.moves with
  | nothing balances total committed acknowledged => exact total
  | applied order account balance isCommit done fits writes committed =>
      exact absurd isCommit (notCommit order)

/-- Nothing but a commit makes a leg committed. -/
theorem Turn.hasApplied (turn : Turn banks now name call after attempt)
    (notCommit : ∀ order, call ≠ .commit order) {side : Side}
    (applied : after.hasApplied transfer side = true) :
    banks.hasApplied transfer side = true := by
  rw [hasApplied_eq_true] at applied ⊢
  cases turn.moves with
  | nothing balances total committed acknowledged =>
      exact committed _ _ _ applied
  | applied order account balance isCommit done fits writes committed =>
      exact absurd isCommit (notCommit order)

/-- A committed leg stays committed, unless it is prepared anew. -/
theorem Turn.committed (turn : Turn banks now name call after attempt)
    (unprepared : ∀ order, call = .prepare order →
      ¬ banks.Committed name order.transfer order.side)
    {other : BankName} {id : TransferId} {side : Side}
    (was : banks.Committed other id side) : after.Committed other id side := by
  obtain ⟨record, known, committed⟩ := was
  have still : Same banks after → after.Committed other id side := fun same =>
    ⟨record, (same.legs _ _ _).trans known, committed⟩
  cases turn with
  | prepareRefused order refusal same => exact still same
  | prepareAgain order pause number same => exact still same
  | prepareKnown order found isKnown isCommitted same => exact still same
  | prepared order account ready writes legs =>
      unfold Committed
      rw [legs]
      split
      · rename_i here
        obtain ⟨rfl, rfl, rfl⟩ := here
        exact absurd ⟨record, known, committed⟩ (unprepared order rfl)
      · exact ⟨record, known, committed⟩
  | commitRefused order refusal same => exact still same
  | commitKnown order found isKnown isCommitted same => exact still same
  | applied order account balance found held fits isKnown prepared sameAccount
      writes legs =>
      unfold Committed
      rw [legs]
      split
      · exact ⟨_, rfl, rfl⟩
      · exact ⟨record, known, committed⟩
  | idle order result notHeld same => exact still same
  | released order account hold held holder writes legs =>
      unfold Committed
      rw [legs]
      split
      · rw [known]
        exact ⟨_, rfl, by simp [LegRecord.unwound, committed]⟩
      · exact ⟨record, known, committed⟩
  | told number result same => exact still same

end ClearingHouse.Banks
