import ClearingHouse.Proofs.Floor.Replay

/-!
# A journal that is not swept

As long as the journal is not swept, it remembers how every settlement has ended
whose outcome is to last, and it has no outcome but those of settlements.  An
outcome lasts unless it is a failure after which the transfer may be asked for
again.
-/

namespace ClearingHouse

/-- Whether a further order of the same transfer could not change the outcome. -/
def Outcome.IsLasting (outcome : Outcome) : Prop :=
  ∀ failure, outcome = .error failure → failure.isRetryable = false

namespace Settlement

theorem isRetryable_of_abandoned {cause failure : TransferFailure}
    (dropped : abandoned cause = .dropped failure) : failure.isRetryable = true := by
  unfold abandoned at dropped
  split at dropped
  · rename_i retryable
    cases dropped
    exact retryable
  · cases dropped

/-- A transfer is dropped for no other reason than a failure that may pass. -/
theorem isRetryable_of_next {transfer : Transfer} {stage : Stage}
    {answer : Except TransferFailure Unit} {failure : TransferFailure}
    (concluded : next transfer stage answer = .conclude (.dropped failure)) :
    failure.isRetryable = true := by
  cases stage with
  | prepareDebit =>
      cases answer with
      | ok done => cases concluded
      | error cause =>
          simp only [next] at concluded
          split at concluded
          · cases concluded
          · exact isRetryable_of_abandoned (Next.conclude.inj concluded)
  | prepareCredit => cases answer <;> cases concluded
  | releaseDebit cause creditNext =>
      cases creditNext with
      | true => cases answer <;> cases concluded
      | false =>
          cases answer <;> exact isRetryable_of_abandoned (Next.conclude.inj concluded)
  | releaseCredit cause =>
      cases answer <;> exact isRetryable_of_abandoned (Next.conclude.inj concluded)
  | commitDebit | commitCredit => cases answer <;> cases concluded

end Settlement

theorem JournalEntry.WellFormed.isFinal_of_outcome {entry : JournalEntry}
    {outcome : Outcome} (wellFormed : entry.WellFormed)
    (settled : entry.outcome = some outcome) : entry.status.isFinal = true := by
  cases wellFormed with
  | running transfer => cases settled
  | succeeded transfer settledAt => rfl
  | failed transfer failure settledAt storable => rfl

namespace Floor

variable {floor next : Floor} {event : Event}

/-- The journal has this outcome for a transfer. -/
def Notes (floor : Floor) (transfer : Transfer) (outcome : Outcome) : Prop :=
  ∃ entry, floor.entryOf? transfer.id = some entry ∧ entry.transfer = transfer ∧
    entry.outcome = some outcome

/-- Journal and settlements remember the same outcomes. -/
structure Remembered (floor : Floor) : Prop where
  dropped : ∀ (number : Nat) (run : SettlementRun) failure,
    floor.runs[number]? = some run → run.phase = .concluding (.dropped failure) →
      failure.isRetryable = true
  ended : ∀ (number : Nat) (run : SettlementRun) outcome,
    floor.runs[number]? = some run → run.phase = .ended outcome →
      Outcome.IsLasting outcome → floor.Notes run.transfer outcome
  settled : ∀ id entry outcome, floor.entryOf? id = some entry →
    entry.outcome = some outcome →
      ∃ (number : Nat) (run : SettlementRun), floor.runs[number]? = some run ∧
        run.transfer = entry.transfer ∧ run.phase = .ended outcome

theorem remembered_of_isOpening (opening : floor.IsOpening) : floor.Remembered where
  dropped := by
    intro number run failure found
    simp [opening.runs] at found
  ended := by
    intro number run outcome found
    simp [opening.runs] at found
  settled := by
    intro id entry outcome present
    simp [entryOf?, opening.journal] at present

/-- The entry of a transfer that has ended stays if the journal is not swept. -/
theorem Sound.entryOf?_of_isFinal {id : TransferId} {entry : JournalEntry}
    (sound : floor.Sound) (present : floor.entryOf? id = some entry)
    (final : entry.status.isFinal = true)
    (keeps : ∀ retention, event ≠ .sweep retention)
    (stepped : floor.step event = some next) : next.entryOf? id = some entry := by
  rcases kept_or_swept_of_step sound present final stepped with stays | ⟨-, -⟩
  · exact stays
  · exact absurd rfl (keeps _)

theorem Sound.notes_of_step {transfer : Transfer} {outcome : Outcome}
    (sound : floor.Sound) (notes : floor.Notes transfer outcome)
    (keeps : ∀ retention, event ≠ .sweep retention)
    (stepped : floor.step event = some next) : next.Notes transfer outcome := by
  obtain ⟨entry, present, sameTransfer, settled⟩ := notes
  have final := (sound.entries _ entry present).2.isFinal_of_outcome settled
  exact ⟨entry, sound.entryOf?_of_isFinal present final keeps stepped, sameTransfer,
    settled⟩

/-- An entry was there before an event, or the event has begun or ended its
transfer. -/
theorem Sound.entry_before_step {id : TransferId} {entry : JournalEntry}
    (sound : floor.Sound) (stepped : floor.step event = some next)
    (present : next.entryOf? id = some entry) :
    floor.entryOf? id = some entry ∨
    (event = .order entry.transfer ∧ entry = .running entry.transfer ∧
      entry.transfer.id = id) ∨
    ∃ (number : Nat) (run : SettlementRun) (conclusion : Settlement.Conclusion),
      event = .conclude number ∧ floor.runs[number]? = some run ∧
      run.phase = .concluding conclusion ∧ run.transfer.id = id ∧
      Journal.concluded run.transfer floor.now conclusion = some entry := by
  cases event with
  | order transfer =>
      cases stepped
      rcases floor.order_cases transfer with
        ⟨outcome, answered⟩ | ⟨checked, absent, accepted⟩
      · rw [answered] at present
        exact Or.inl present
      · rw [accepted, entryOf?_started] at present
        split at present
        · rename_i same
          cases present
          exact Or.inr (Or.inl ⟨rfl, rfl, same⟩)
        · exact Or.inl present
  | answer number answer =>
      obtain ⟨run, stage, found, calling, rfl⟩ := answer_eq_some stepped
      exact Or.inl present
  | conclude number =>
      obtain ⟨run, conclusion, found, concluding, rfl⟩ := conclude_eq_some stepped
      have running := sound.live number run (isLive_of_concluding found concluding)
      rw [entryOf?_ended running] at present
      split at present
      · rename_i same
        exact Or.inr (Or.inr
          ⟨number, run, conclusion, rfl, found, concluding, same.symm, present⟩)
      · exact Or.inl present
  | leave number =>
      obtain ⟨run, found, rfl⟩ := leave_eq_some stepped
      exact Or.inl present
  | sweep retention =>
      cases stepped
      rw [entryOf?_sweep] at present
      exact Or.inl (Option.filter_eq_some_iff.mp present).1
  | rest milliseconds =>
      cases stepped
      exact Or.inl present

/-- A settlement that has ended stays as it is. -/
theorem run_of_ended {number : Nat} {run : SettlementRun} {outcome : Outcome}
    (found : floor.runs[number]? = some run) (ended : run.phase = .ended outcome)
    (stepped : floor.step event = some next) :
    ∃ current, next.runs[number]? = some current ∧
      current.transfer = run.transfer ∧ current.phase = .ended outcome := by
  obtain ⟨current, present, sameTransfer, goesOn⟩ := run_after_step stepped found
  rcases goesOn with
    ⟨stage, answer, -, calling, -⟩ | ⟨conclusion, -, concluding, -⟩ | ⟨samePhase, -⟩
  · rw [ended] at calling
    cases calling
  · rw [ended] at concluding
    cases concluding
  · exact ⟨current, present, sameTransfer, samePhase.trans ended⟩

/-- A conclusion with a lasting outcome settles the entry. -/
theorem concluded_of_isLasting (transfer : Transfer) (now : Nat)
    {conclusion : Settlement.Conclusion}
    (lasting : Outcome.IsLasting conclusion.outcome)
    (dropped : ∀ failure, conclusion = .dropped failure →
      failure.isRetryable = true) :
    ∃ entry, Journal.concluded transfer now conclusion = some entry ∧
      entry.transfer = transfer ∧ entry.outcome = some conclusion.outcome := by
  cases conclusion with
  | settled outcome => exact ⟨_, rfl, rfl, rfl⟩
  | dropped failure =>
      have final := lasting failure rfl
      rw [dropped failure rfl] at final
      cases final

theorem eq_conclude_of_entering {following : Settlement.Next}
    {conclusion : Settlement.Conclusion}
    (entered : RunPhase.entering following = .concluding conclusion) :
    following = .conclude conclusion := by
  cases following with
  | proceed stage => cases entered
  | conclude reached =>
      cases entered
      rfl

theorem Remembered.step (remembered : floor.Remembered) (sound : floor.Sound)
    (keeps : ∀ retention, event ≠ .sweep retention)
    (stepped : floor.step event = some next) : next.Remembered := by
  constructor
  · intro number run failure present concluding
    cases was : floor.runs[number]? with
    | none =>
        rw [run_of_step_of_none stepped was present] at concluding
        cases concluding
    | some former =>
        obtain ⟨current, found, sameTransfer, goesOn⟩ := run_after_step stepped was
        rw [present] at found
        cases found
        rcases goesOn with ⟨stage, answer, -, -, entered⟩ |
          ⟨conclusion, -, -, ended, -⟩ | ⟨samePhase, -⟩
        · rw [concluding] at entered
          exact Settlement.isRetryable_of_next (eq_conclude_of_entering entered.symm)
        · rw [concluding] at ended
          cases ended
        · exact remembered.dropped number former failure was
            (samePhase.symm.trans concluding)
  · intro number run outcome present ended lasting
    cases was : floor.runs[number]? with
    | none =>
        rw [run_of_step_of_none stepped was present] at ended
        cases ended
    | some former =>
        obtain ⟨current, found, sameTransfer, goesOn⟩ := run_after_step stepped was
        rw [present] at found
        cases found
        rcases goesOn with ⟨stage, answer, -, -, entered⟩ |
          ⟨conclusion, -, concluding, concluded, isEnded⟩ | ⟨samePhase, -⟩
        · rw [ended] at entered
          cases following : Settlement.next former.transfer stage answer <;>
            · rw [following] at entered
              cases entered
        · -- The outcome has just been noted.
          rw [ended] at concluded
          cases concluded
          have running := sound.live number former (isLive_of_concluding was concluding)
          obtain ⟨entry, noted, isTransfer, settled⟩ :=
            concluded_of_isLasting former.transfer floor.now lasting
              fun failure isDropped =>
                remembered.dropped number former failure was
                  (isDropped ▸ concluding)
          refine ⟨entry, ?_, isTransfer.trans sameTransfer.symm, settled⟩
          rw [isEnded, sameTransfer, entryOf?_ended running, if_pos rfl]
          exact noted
        · rw [sameTransfer]
          exact sound.notes_of_step
            (remembered.ended number former outcome was (samePhase.symm.trans ended)
              lasting) keeps stepped
  · intro id entry outcome present settled
    rcases sound.entry_before_step stepped present with
      before | ⟨-, isRunning, -⟩ |
        ⟨number, run, conclusion, rfl, found, concluding, -, noted⟩
    · obtain ⟨number, run, found, sameTransfer, ended⟩ :=
        remembered.settled id entry outcome before settled
      obtain ⟨current, currentFound, currentTransfer, currentEnded⟩ :=
        run_of_ended found ended stepped
      exact ⟨number, current, currentFound, currentTransfer.trans sameTransfer,
        currentEnded⟩
    · rw [isRunning] at settled
      cases settled
    · have isOutcome : outcome = conclusion.outcome ∧ entry.transfer = run.transfer := by
        cases conclusion with
        | settled reached =>
            cases noted
            cases settled
            exact ⟨rfl, rfl⟩
        | dropped failure => cases noted
      obtain ⟨rfl, sameTransfer⟩ := isOutcome
      have ended := conclude_of_concluding found concluding
      rw [show floor.conclude number = some next from stepped] at ended
      cases ended
      exact ⟨number, { run with phase := .ended conclusion.outcome },
        (getElem?_withRun found _ number).trans (if_pos rfl), sameTransfer.symm, rfl⟩

end Floor

end ClearingHouse
