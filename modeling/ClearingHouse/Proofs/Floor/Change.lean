import ClearingHouse.Proofs.Floor.Basic
import ClearingHouse.Proofs.Floor.Conclusion

/-!
# What can happen on a floor

Every event changes little.  An order changes nothing or starts one settlement.
An answer, a conclusion and a caller who leaves change one settlement, and of
these only a conclusion changes the journal, at the entry of its transfer.
-/

namespace ClearingHouse

/-! ## What the house checks -/

/-- A transfer that has passed the checks of a house. -/
structure Transfer.Checked (transfer : Transfer) : Prop where
  named : transfer.id.isBlank = false
  positive : transfer.amount.isZero = false
  distinct : transfer.sender ≠ transfer.recipient

namespace House

theorem checked_of_check {house : House} {transfer : Transfer}
    (passed : house.check transfer = .ok ()) : transfer.Checked := by
  unfold check at passed
  by_cases blank : transfer.id.isBlank = true
  · simp [blank] at passed
  by_cases zero : transfer.amount.isZero = true
  · simp [blank, zero] at passed
  by_cases same : transfer.sender = transfer.recipient
  · simp [blank, zero, same] at passed
  · exact ⟨by simpa using blank, by simpa using zero, same⟩

theorem receive_of_refused {house : House} {transfer : Transfer}
    {failure : TransferFailure}
    (refused : house.check transfer = .error failure) :
    house.receive transfer = (house, .answered (.error failure)) := by
  simp [receive, refused]

theorem receive_of_absent {house : House} {transfer : Transfer}
    (passed : house.check transfer = .ok ())
    (absent : house.journal.entryOf? transfer.id = none) :
    house.receive transfer =
      ({ house with
          journal := Table.insert house.journal transfer.id
            (.running transfer) },
        .accepted) := by
  simp [receive, passed, Journal.begin, absent]

theorem receive_of_running {house : House} {transfer : Transfer}
    {entry : JournalEntry} (passed : house.check transfer = .ok ())
    (present : house.journal.entryOf? transfer.id = some entry)
    (running : entry.outcome = none) :
    house.receive transfer = (house, .answered (.error .inProgress)) := by
  simp [receive, passed, Journal.begin, present, running]

theorem receive_of_settled {house : House} {transfer : Transfer}
    {entry : JournalEntry} {outcome : Outcome}
    (passed : house.check transfer = .ok ())
    (present : house.journal.entryOf? transfer.id = some entry)
    (settled : entry.outcome = some outcome) :
    house.receive transfer = (house, .answered outcome) := by
  simp [receive, passed, Journal.begin, present, settled]

end House

/-- How the phase of a settlement can change in one step. -/
inductive RunPhase.GoesOn (transfer : Transfer) : RunPhase → RunPhase → Prop where
  | same (phase : RunPhase) : GoesOn transfer phase phase
  | answered (stage : Settlement.Stage) (answer : Except TransferFailure Unit) :
      GoesOn transfer (.calling stage)
        (.entering (Settlement.next transfer stage answer))
  | noted (conclusion : Settlement.Conclusion) :
      GoesOn transfer (.concluding conclusion) (.ended conclusion.outcome)

namespace Floor

/-- The floor after the order for a transfer has been accepted. -/
def started (floor : Floor) (transfer : Transfer) : Floor :=
  { floor with
    house :=
      { floor.house with
        journal := Table.insert floor.house.journal transfer.id
          (.running transfer) }
    runs := floor.runs ++ [⟨transfer, .calling .prepareDebit, true⟩] }

/-- The floor after the end of a settlement has been noted. -/
def ended (floor : Floor) (number : Nat) (run : SettlementRun)
    (conclusion : Settlement.Conclusion) : Floor :=
  { floor.withRun number { run with phase := .ended conclusion.outcome } with
    house := floor.house.conclude floor.now run.transfer.id conclusion }

/-- An order is answered and changes nothing, or starts a settlement of a
transfer that the journal does not know. -/
theorem order_cases (floor : Floor) (transfer : Transfer) :
    (∃ outcome, floor.order transfer = (floor, .answered outcome)) ∨
      (transfer.Checked ∧ floor.entryOf? transfer.id = none ∧
        floor.order transfer = (floor.started transfer, .accepted)) := by
  unfold order
  cases passed : floor.house.check transfer with
  | error failure =>
      left
      rw [House.receive_of_refused passed]
      exact ⟨_, rfl⟩
  | ok done =>
      cases present : floor.house.journal.entryOf? transfer.id with
      | none =>
          right
          refine ⟨House.checked_of_check passed, present, ?_⟩
          rw [House.receive_of_absent passed present]
          rfl
      | some entry =>
          left
          cases ended : entry.outcome with
          | none =>
              rw [House.receive_of_running passed present ended]
              exact ⟨_, rfl⟩
          | some outcome =>
              rw [House.receive_of_settled passed present ended]
              exact ⟨_, rfl⟩

theorem answer_eq_some {floor next : Floor} {number : Nat}
    {answer : Except TransferFailure Unit}
    (answered : floor.answer number answer = some next) :
    ∃ run stage, floor.runs[number]? = some run ∧
      run.phase = .calling stage ∧
      next = floor.withRun number
        { run with
          phase := .entering (Settlement.next run.transfer stage answer) } := by
  unfold Floor.answer at answered
  split at answered
  · rename_i transfer stage awaited found
    cases answered
    exact ⟨_, stage, found, rfl, rfl⟩
  · cases answered

theorem answer_of_calling {floor : Floor} {number : Nat} {run : SettlementRun}
    {stage : Settlement.Stage} {answer : Except TransferFailure Unit}
    (found : floor.runs[number]? = some run)
    (calling : run.phase = .calling stage) :
    floor.answer number answer =
      some (floor.withRun number
        { run with
          phase := .entering (Settlement.next run.transfer stage answer) }) := by
  obtain ⟨transfer, phase, awaited⟩ := run
  cases calling
  simp only [Floor.answer, found]

theorem conclude_eq_some {floor next : Floor} {number : Nat}
    (concluded : floor.conclude number = some next) :
    ∃ run conclusion, floor.runs[number]? = some run ∧
      run.phase = .concluding conclusion ∧
      next = floor.ended number run conclusion := by
  unfold Floor.conclude at concluded
  split at concluded
  · rename_i transfer conclusion awaited found
    cases concluded
    exact ⟨_, conclusion, found, rfl, rfl⟩
  · cases concluded

theorem conclude_of_concluding {floor : Floor} {number : Nat} {run : SettlementRun}
    {conclusion : Settlement.Conclusion} (found : floor.runs[number]? = some run)
    (concluding : run.phase = .concluding conclusion) :
    floor.conclude number = some (floor.ended number run conclusion) := by
  obtain ⟨transfer, phase, awaited⟩ := run
  cases concluding
  simp only [Floor.conclude, found]
  rfl

theorem leave_eq_some {floor next : Floor} {number : Nat}
    (left : floor.leave number = some next) :
    ∃ run, floor.runs[number]? = some run ∧
      next = floor.withRun number { run with awaited := false } := by
  unfold Floor.leave at left
  split at left
  · rename_i run found
    cases left
    exact ⟨run, found, rfl⟩
  · cases left

theorem isLive_of_calling {floor : Floor} {number : Nat} {run : SettlementRun}
    {stage : Settlement.Stage} (found : floor.runs[number]? = some run)
    (calling : run.phase = .calling stage) : floor.IsLive number run := by
  refine ⟨found, ?_⟩
  rw [calling]
  rfl

theorem isLive_of_concluding {floor : Floor} {number : Nat}
    {run : SettlementRun} {conclusion : Settlement.Conclusion}
    (found : floor.runs[number]? = some run)
    (concluding : run.phase = .concluding conclusion) :
    floor.IsLive number run := by
  refine ⟨found, ?_⟩
  rw [concluding]
  rfl

/-! ## The settlements after an event -/

theorem getElem?_withRun {floor : Floor} {number : Nat}
    {run : SettlementRun} (found : floor.runs[number]? = some run)
    (changed : SettlementRun) (other : Nat) :
    (floor.withRun number changed).runs[other]? =
      if number = other then some changed else floor.runs[other]? := by
  have inside : number < floor.runs.length :=
    (List.getElem?_eq_some_iff.mp found).1
  simp only [withRun, List.getElem?_set]
  by_cases same : number = other
  · simp [same, same ▸ inside]
  · simp [same]

/-- Of a settlement, the change may be the only thing that is new. -/
theorem run_of_withRun {floor : Floor} {number other : Nat}
    {run changed current : SettlementRun}
    (found : floor.runs[number]? = some run)
    (present : (floor.withRun number changed).runs[other]? = some current) :
    number = other ∧ current = changed ∨
      number ≠ other ∧ floor.runs[other]? = some current := by
  rw [getElem?_withRun found] at present
  split at present
  · rename_i same
    cases present
    exact Or.inl ⟨same, rfl⟩
  · rename_i different
    exact Or.inr ⟨different, present⟩

theorem run_withRun {floor : Floor} {number other : Nat}
    {run changed : SettlementRun} (found : floor.runs[number]? = some run)
    (different : number ≠ other) :
    (floor.withRun number changed).runs[other]? = floor.runs[other]? := by
  rw [getElem?_withRun found, if_neg different]

theorem run_of_leave {floor next : Floor} {number other : Nat}
    {current : SettlementRun} (left : floor.leave number = some next)
    (present : next.runs[other]? = some current) :
    ∃ former, floor.runs[other]? = some former ∧
      current.transfer = former.transfer ∧ current.phase = former.phase := by
  obtain ⟨run, found, rfl⟩ := leave_eq_some left
  rcases run_of_withRun found present with ⟨rfl, rfl⟩ | ⟨-, was⟩
  · exact ⟨run, found, rfl, rfl⟩
  · exact ⟨current, was, rfl, rfl⟩

theorem run_leave {floor next : Floor} {number other : Nat}
    {former : SettlementRun} (left : floor.leave number = some next)
    (was : floor.runs[other]? = some former) :
    ∃ current, next.runs[other]? = some current ∧
      current.transfer = former.transfer ∧ current.phase = former.phase := by
  obtain ⟨run, found, rfl⟩ := leave_eq_some left
  by_cases same : number = other
  · subst same
    rw [found] at was
    cases was
    exact ⟨_, (getElem?_withRun found _ number).trans (if_pos rfl), rfl, rfl⟩
  · exact ⟨former, (run_withRun found same).trans was, rfl, rfl⟩

theorem run_of_started {floor : Floor} {transfer : Transfer} {number : Nat}
    {run : SettlementRun}
    (present : (floor.started transfer).runs[number]? = some run) :
    floor.runs[number]? = some run ∨ number = floor.runs.length ∧
      run = ⟨transfer, .calling .prepareDebit, true⟩ :=
  eq_or_eq_of_getElem?_append present

theorem run_started {floor : Floor} {number : Nat} {run : SettlementRun}
    (found : floor.runs[number]? = some run) (transfer : Transfer) :
    (floor.started transfer).runs[number]? = some run :=
  getElem?_append_of_some found _

/-- A settlement was there before an event, or has been started by it. -/
theorem run_of_step {floor next : Floor} {event : Event} {number : Nat}
    {run : SettlementRun} (stepped : floor.step event = some next)
    (present : next.runs[number]? = some run) :
    (∃ former, floor.runs[number]? = some former ∧
      run.transfer = former.transfer ∧
      former.phase.GoesOn former.transfer run.phase) ∨
    (event = .order run.transfer ∧ floor.entryOf? run.transfer.id = none) := by
  have old : floor.runs[number]? = some run →
      ∃ former, floor.runs[number]? = some former ∧
        run.transfer = former.transfer ∧
        former.phase.GoesOn former.transfer run.phase :=
    fun was => ⟨run, was, rfl, .same _⟩
  cases event with
  | order transfer =>
      cases stepped
      rcases floor.order_cases transfer with
        ⟨outcome, answered⟩ | ⟨checked, absent, accepted⟩
      · rw [answered] at present
        exact Or.inl (old present)
      · rw [accepted] at present
        rcases run_of_started present with was | ⟨-, rfl⟩
        · exact Or.inl (old was)
        · exact Or.inr ⟨rfl, absent⟩
  | answer other answer =>
      obtain ⟨current, stage, found, calling, rfl⟩ := answer_eq_some stepped
      rcases run_of_withRun found present with ⟨rfl, rfl⟩ | ⟨-, was⟩
      · refine Or.inl ⟨current, found, rfl, ?_⟩
        rw [calling]
        exact .answered stage answer
      · exact Or.inl (old was)
  | conclude other =>
      obtain ⟨current, conclusion, found, concluding, rfl⟩ :=
        conclude_eq_some stepped
      rcases run_of_withRun found present with ⟨rfl, rfl⟩ | ⟨-, was⟩
      · refine Or.inl ⟨current, found, rfl, ?_⟩
        rw [concluding]
        exact .noted conclusion
      · exact Or.inl (old was)
  | leave other =>
      obtain ⟨former, was, sameTransfer, samePhase⟩ := run_of_leave stepped present
      refine Or.inl ⟨former, was, sameTransfer, ?_⟩
      rw [samePhase]
      exact .same _
  | sweep retention =>
      cases stepped
      exact Or.inl (old present)
  | rest milliseconds =>
      cases stepped
      exact Or.inl (old present)

/-- A settlement that an event has started waits for its first call. -/
theorem run_of_step_of_none {floor next : Floor} {event : Event} {number : Nat}
    {run : SettlementRun} (stepped : floor.step event = some next)
    (absent : floor.runs[number]? = none)
    (present : next.runs[number]? = some run) :
    run.phase = .calling .prepareDebit := by
  rcases run_of_step stepped present with ⟨former, was, -, -⟩ | ⟨rfl, -⟩
  · rw [absent] at was
    cases was
  · cases stepped
    rcases floor.order_cases run.transfer with ⟨outcome, answered⟩ | ⟨-, -, accepted⟩
    · rw [answered, absent] at present
      cases present
    · rw [accepted] at present
      rcases run_of_started present with was | ⟨-, isNew⟩
      · rw [absent] at was
        cases was
      · rw [isNew]

/-- Only its own events change the phase of a settlement. -/
theorem run_after_step {floor next : Floor} {event : Event} {number : Nat}
    {run : SettlementRun} (stepped : floor.step event = some next)
    (found : floor.runs[number]? = some run) :
    ∃ current, next.runs[number]? = some current ∧
      current.transfer = run.transfer ∧
      ((∃ stage answer, event = .answer number answer ∧
          run.phase = .calling stage ∧
          current.phase = .entering (Settlement.next run.transfer stage answer)) ∨
        (∃ conclusion, event = .conclude number ∧
          run.phase = .concluding conclusion ∧
          current.phase = .ended conclusion.outcome ∧
          next = floor.ended number run conclusion) ∨
        (current.phase = run.phase ∧ (∀ answer, event ≠ .answer number answer) ∧
          event ≠ .conclude number)) := by
  cases event with
  | order transfer =>
      cases stepped
      refine ⟨run, ?_, rfl, Or.inr (Or.inr ⟨rfl, by simp, by simp⟩)⟩
      rcases floor.order_cases transfer with
        ⟨outcome, answered⟩ | ⟨-, -, accepted⟩
      · rw [answered]
        exact found
      · rw [accepted]
        exact run_started found transfer
  | answer other answer =>
      obtain ⟨current, stage, otherFound, calling, rfl⟩ := answer_eq_some stepped
      by_cases same : other = number
      · subst same
        rw [found] at otherFound
        cases otherFound
        exact ⟨_, (getElem?_withRun found _ other).trans (if_pos rfl), rfl,
          Or.inl ⟨stage, answer, rfl, calling, rfl⟩⟩
      · exact ⟨run, (run_withRun otherFound same).trans found, rfl,
          Or.inr (Or.inr ⟨rfl, by simp [same], by simp⟩)⟩
  | conclude other =>
      obtain ⟨current, conclusion, otherFound, concluding, rfl⟩ :=
        conclude_eq_some stepped
      by_cases same : other = number
      · subst same
        rw [found] at otherFound
        cases otherFound
        exact ⟨_, (getElem?_withRun found _ other).trans (if_pos rfl), rfl,
          Or.inr (Or.inl ⟨conclusion, rfl, concluding, rfl, rfl⟩)⟩
      · exact ⟨run, (run_withRun otherFound same).trans found, rfl,
          Or.inr (Or.inr ⟨rfl, by simp, by simp [same]⟩)⟩
  | leave other =>
      obtain ⟨current, present, sameTransfer, samePhase⟩ := run_leave stepped found
      exact ⟨current, present, sameTransfer,
        Or.inr (Or.inr ⟨samePhase, by simp, by simp⟩)⟩
  | sweep retention =>
      cases stepped
      exact ⟨run, found, rfl, Or.inr (Or.inr ⟨rfl, by simp, by simp⟩)⟩
  | rest milliseconds =>
      cases stepped
      exact ⟨run, found, rfl, Or.inr (Or.inr ⟨rfl, by simp, by simp⟩)⟩

/-- A caller who has gone away does not come back. -/
theorem awaited_of_step {floor next : Floor} {event : Event} {number : Nat}
    {run current : SettlementRun} (stepped : floor.step event = some next)
    (found : floor.runs[number]? = some run)
    (present : next.runs[number]? = some current)
    (awaited : current.awaited = true) : run.awaited = true := by
  have old : floor.runs[number]? = some current → run.awaited = true := by
    intro was
    rw [found] at was
    cases was
    exact awaited
  cases event with
  | order transfer =>
      cases stepped
      rcases floor.order_cases transfer with
        ⟨outcome, answered⟩ | ⟨checked, absent, accepted⟩
      · rw [answered] at present
        exact old present
      · rw [accepted, run_started found transfer] at present
        cases present
        exact awaited
  | answer other answer =>
      obtain ⟨former, stage, was, calling, rfl⟩ := answer_eq_some stepped
      rcases run_of_withRun was present with ⟨rfl, rfl⟩ | ⟨-, same⟩
      · rw [found] at was
        cases was
        exact awaited
      · exact old same
  | conclude other =>
      obtain ⟨former, conclusion, was, concluding, rfl⟩ := conclude_eq_some stepped
      rcases run_of_withRun was present with ⟨rfl, rfl⟩ | ⟨-, same⟩
      · rw [found] at was
        cases was
        exact awaited
      · exact old same
  | leave other =>
      obtain ⟨former, was, rfl⟩ := leave_eq_some stepped
      rcases run_of_withRun was present with ⟨rfl, rfl⟩ | ⟨-, same⟩
      · cases awaited
      · exact old same
  | sweep retention | rest milliseconds =>
      cases stepped
      exact old present

/-- Nothing but the journal of a house changes. -/
theorem house_of_step {floor next : Floor} {event : Event}
    (stepped : floor.step event = some next) :
    next.house = { floor.house with journal := next.house.journal } := by
  cases event with
  | order transfer =>
      cases stepped
      rcases floor.order_cases transfer with
        ⟨outcome, answered⟩ | ⟨checked, absent, accepted⟩
      · rw [answered]
      · rw [accepted]
        rfl
  | answer number answer =>
      obtain ⟨run, stage, found, calling, rfl⟩ := answer_eq_some stepped
      rfl
  | conclude number =>
      obtain ⟨run, conclusion, found, concluding, rfl⟩ := conclude_eq_some stepped
      rfl
  | leave number =>
      obtain ⟨run, found, rfl⟩ := leave_eq_some stepped
      rfl
  | sweep retention | rest milliseconds =>
      cases stepped
      rfl

/-! ## The journal after an event -/

theorem entryOf?_started (floor : Floor) (transfer : Transfer)
    (id : TransferId) :
    (floor.started transfer).entryOf? id =
      if transfer.id = id then some (.running transfer)
      else floor.entryOf? id :=
  Journal.entryOf?_insert floor.house.journal transfer.id id _

/-- The end of a settlement leaves the entries of all other transfers alone. -/
theorem entryOf?_ended {floor : Floor} {run : SettlementRun}
    (known : floor.entryOf? run.transfer.id = some (.running run.transfer))
    (number : Nat) (conclusion : Settlement.Conclusion) (id : TransferId) :
    (floor.ended number run conclusion).entryOf? id =
      if id = run.transfer.id then
        Journal.concluded run.transfer floor.now conclusion
      else floor.entryOf? id := by
  by_cases same : id = run.transfer.id
  · subst same
    rw [if_pos rfl]
    exact Journal.entryOf?_conclude known floor.now conclusion
  · rw [if_neg same]
    exact Journal.entryOf?_conclude_of_ne floor.house.journal floor.now same
      conclusion

theorem entryOf?_sweep (floor : Floor) (retention : Nat) (id : TransferId) :
    (floor.sweep retention).entryOf? id =
      (floor.entryOf? id).filter fun entry => entry.isKept floor.now retention :=
  Journal.entryOf?_sweep floor.house.journal floor.now retention id

/-- A sweep keeps every running entry. -/
theorem entryOf?_sweep_running {floor : Floor} {id : TransferId}
    {transfer : Transfer} (running : floor.entryOf? id = some (.running transfer))
    (retention : Nat) :
    (floor.sweep retention).entryOf? id = some (.running transfer) := by
  rw [entryOf?_sweep, running]
  rfl

end Floor

end ClearingHouse
