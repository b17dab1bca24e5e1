import ClearingHouse.Transfer.Settlement

/-!
# How settlements end

Whatever the answers to its calls are, a settlement concludes with the receipt
of its transfer, with a failure that may be stored, or by dropping the transfer.
The conclusion settles or drops the entry of this transfer in the journal, and
leaves every other entry alone.
-/

namespace ClearingHouse

/-- Whether the failure may become the final outcome of a transfer. -/
def TransferFailure.isStorable : TransferFailure → Bool
  | .busy | .inProgress | .unreachable _ => false
  | _ => true

theorem TransferFailure.isStorable_of_not_isRetryable
    {failure : TransferFailure} (final : failure.isRetryable = false) :
    failure.isStorable = true := by
  cases failure with
  | busy | inProgress | unreachable _ => cases final
  | _ => rfl

namespace Settlement

/-- What a settlement of this transfer may conclude with. -/
def Conclusion.Proper (transfer : Transfer) : Conclusion → Prop
  | .settled (.ok receipt) => receipt = transfer.receipt
  | .settled (.error failure) => failure.isStorable = true
  | .dropped _ => True

theorem abandoned_proper (transfer : Transfer) (cause : TransferFailure) :
    (abandoned cause).Proper transfer := by
  unfold abandoned
  by_cases retryable : cause.isRetryable = true
  · rw [if_pos retryable]
    trivial
  · rw [if_neg retryable]
    exact TransferFailure.isStorable_of_not_isRetryable (by simpa using retryable)

theorem isStorable_incomplete (progress : String) (failure : TransferFailure) :
    (incomplete progress failure).isStorable = true := by
  cases failure <;> rfl

/-- Whatever the answers are, a settlement concludes properly. -/
theorem proper_of_next {transfer : Transfer} {stage : Stage}
    {answer : Except TransferFailure Unit} {conclusion : Conclusion}
    (concluded : next transfer stage answer = .conclude conclusion) :
    conclusion.Proper transfer := by
  cases stage with
  | prepareDebit =>
      cases answer with
      | ok done => cases concluded
      | error cause =>
          simp only [next] at concluded
          split at concluded
          · cases concluded
          · cases concluded
            exact abandoned_proper transfer cause
  | prepareCredit =>
      cases answer <;> cases concluded
  | releaseDebit cause creditNext =>
      cases creditNext with
      | true => cases answer <;> cases concluded
      | false =>
          cases answer <;>
            · cases concluded
              exact abandoned_proper transfer cause
  | releaseCredit cause =>
      cases answer <;>
        · cases concluded
          exact abandoned_proper transfer cause
  | commitDebit =>
      cases answer with
      | ok done => cases concluded
      | error failure =>
          cases concluded
          exact isStorable_incomplete _ failure
  | commitCredit =>
      cases answer with
      | ok done =>
          cases concluded
          exact (rfl : transfer.receipt = transfer.receipt)
      | error failure =>
          cases concluded
          exact isStorable_incomplete _ failure

end Settlement

/-- What an entry of the journal can look like. -/
inductive JournalEntry.WellFormed : JournalEntry → Prop where
  | running (transfer : Transfer) : WellFormed (.running transfer)
  | succeeded (transfer : Transfer) (settledAt : Nat) :
      WellFormed ⟨transfer, .succeeded, some (.ok transfer.receipt),
        some settledAt⟩
  | failed (transfer : Transfer) (failure : TransferFailure)
      (settledAt : Nat) (storable : failure.isStorable = true) :
      WellFormed ⟨transfer, .failed, some (.error failure), some settledAt⟩

theorem JournalEntry.WellFormed.eq_running {entry : JournalEntry}
    (wellFormed : entry.WellFormed) (unfinished : entry.status.isFinal = false) :
    entry = .running entry.transfer := by
  cases wellFormed with
  | running transfer => rfl
  | succeeded transfer settledAt => cases unfinished
  | failed transfer failure settledAt storable => cases unfinished

namespace Journal

@[simp]
theorem entryOf?_empty (transfer : TransferId) :
    Journal.empty.entryOf? transfer = none := rfl

@[simp]
theorem entryOf?_insert (journal : Journal) (transfer other : TransferId)
    (entry : JournalEntry) :
    entryOf? (Table.insert journal transfer entry) other =
      if transfer = other then some entry else journal.entryOf? other :=
  Table.find?_insert journal transfer other entry

theorem entryOf?_erase (journal : Journal) (transfer other : TransferId) :
    entryOf? (Table.erase journal transfer) other =
      if other = transfer then none else journal.entryOf? other :=
  Table.find?_erase journal transfer other

theorem entryOf?_sweep (journal : Journal) (now retention : Nat)
    (transfer : TransferId) :
    (journal.sweep now retention).entryOf? transfer =
      (journal.entryOf? transfer).filter fun entry =>
        entry.isKept now retention :=
  Table.find?_retain journal _ transfer

/-- A conclusion leaves the entries of other transfers alone. -/
theorem entryOf?_conclude_of_ne (journal : Journal) (now : Nat)
    {transfer other : TransferId} (different : other ≠ transfer)
    (conclusion : Settlement.Conclusion) :
    (journal.conclude now transfer conclusion).entryOf? other =
      journal.entryOf? other := by
  have reversed : ¬ transfer = other := fun same => different same.symm
  cases conclusion with
  | settled outcome =>
      simp only [conclude, finish]
      split
      · simp [reversed]
      · rfl
  | dropped failure =>
      simp only [conclude, forget]
      split
      · simp [entryOf?_erase, different]
      · rfl

/-- The entry of a transfer whose settlement has concluded. -/
def concluded (transfer : Transfer) (now : Nat) :
    Settlement.Conclusion → Option JournalEntry
  | .settled outcome => some ((JournalEntry.running transfer).finish now outcome)
  | .dropped _ => none

/-- A conclusion settles the entry of its transfer, or drops it. -/
theorem entryOf?_conclude {journal : Journal} {transfer : Transfer}
    (running : journal.entryOf? transfer.id = some (.running transfer))
    (now : Nat) (conclusion : Settlement.Conclusion) :
    (journal.conclude now transfer.id conclusion).entryOf? transfer.id =
      concluded transfer now conclusion := by
  cases conclusion with
  | settled outcome => simp [conclude, finish, running, concluded]
  | dropped failure =>
      have isRunning : journal.isRunning transfer.id = true := by
        simp [Journal.isRunning, running, JournalEntry.running,
          TransferStatus.isFinal]
      simp [conclude, forget, isRunning, entryOf?_erase, concluded]

theorem wellFormed_of_concluded {transfer : Transfer} {now : Nat}
    {conclusion : Settlement.Conclusion} {entry : JournalEntry}
    (proper : conclusion.Proper transfer)
    (settled : concluded transfer now conclusion = some entry) :
    entry.transfer = transfer ∧ entry.WellFormed ∧
      entry.status.isFinal = true := by
  cases conclusion with
  | dropped failure => cases settled
  | settled outcome =>
      cases settled
      cases outcome with
      | ok receipt =>
          have same : receipt = transfer.receipt := proper
          subst same
          exact ⟨rfl, .succeeded transfer now, rfl⟩
      | error failure => exact ⟨rfl, .failed transfer failure now proper, rfl⟩

theorem settledAt_of_concluded {transfer : Transfer} {now settledAt : Nat}
    {conclusion : Settlement.Conclusion} {entry : JournalEntry}
    (settled : concluded transfer now conclusion = some entry)
    (ended : entry.settledAt = some settledAt) : settledAt = now := by
  cases conclusion with
  | dropped failure => cases settled
  | settled outcome =>
      cases settled
      cases ended
      rfl

end Journal

end ClearingHouse
