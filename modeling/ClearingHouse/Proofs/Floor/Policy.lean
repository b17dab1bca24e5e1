import ClearingHouse.Proofs.Floor.Course
import ClearingHouse.Proofs.Floor.Sound
import ClearingHouse.Proofs.Sample

/-!
# What a settlement does with the answers it gets

However the settlements on a floor interleave, what one of them does depends on
the results of its own calls alone.  Given these results, its calls are one of the
courses that `Settlement.Course` lists, and the journal notes how it has gone.
-/

namespace ClearingHouse

namespace Floor

open Settlement

/-- The call that a settlement waits for: the bank, and what it is asked. -/
def callOf? (floor : Floor) (number : Nat) : Option (BankName × BankCall) :=
  match floor.runs[number]? with
  | some ⟨transfer, .calling stage, _⟩ =>
      some (stage.bank transfer, stage.call transfer)
  | _ => none

theorem callOf?_of_calling {floor : Floor} {number : Nat} {run : SettlementRun}
    {stage : Stage} (found : floor.runs[number]? = some run)
    (calling : run.phase = .calling stage) :
    floor.callOf? number = some (stage.step.addressed run.transfer) := by
  obtain ⟨transfer, phase, awaited⟩ := run
  cases calling
  simp only [callOf?, found, Stage.addressed_step]

/-- The call of a settlement that an event brings to its end. -/
def callOver (number : Nat) (last : Floor) (event : Event) (_ : Floor) :
    List (BankName × BankCall) :=
  match event with
  | .answer other _ => if other = number then (last.callOf? number).toList else []
  | _ => []

/-- The calls of a settlement, in their order. -/
def callsOf (number : Nat) (start : Floor) (events : List Event) :
    List (BankName × BankCall) :=
  collect step (callOver number) start events

/-- A settlement is answered otherwise than by the result of its call. -/
def Strays (number : Nat) (results : Step → CallResult) (last : Floor)
    (event : Event) (_ : Floor) : Prop :=
  ∃ run stage answer, event = .answer number answer ∧
    last.runs[number]? = some run ∧ run.phase = .calling stage ∧
    answer ≠ heardAt run.transfer results stage

/-- A settlement is concluded, and the journal notes how its calls have gone. -/
def Records (number : Nat) (transfer : Transfer) (results : Step → CallResult)
    (steps : List Step) (outcome : Outcome) (last : Floor) (event : Event)
    (next : Floor) : Prop :=
  event = .conclude number ∧
    last.entryOf? transfer.id = some (.running transfer) ∧
    Recorded transfer results steps last.now (next.entryOf? transfer.id) outcome

section History

variable {transfer : Transfer} {results : Step → CallResult} {start : Floor}
  {number : Nat} {past : List Event}

/-- How far a settlement has come that has the given results. -/
inductive Follows (number : Nat) (transfer : Transfer)
    (results : Step → CallResult) (start : Floor) (past : List Event) :
    RunPhase → Prop where
  | calling {stage : Stage} (steps : List Step)
      (made : callsOf number start past = steps.map (Step.addressed transfer))
      (leads : ∀ {rest conclusion}, Script transfer results stage rest conclusion →
        Script transfer results .prepareDebit (steps ++ rest) conclusion) :
      Follows number transfer results start past (.calling stage)
  | concluding {conclusion : Conclusion} (steps : List Step)
      (made : callsOf number start past = steps.map (Step.addressed transfer))
      (script : Script transfer results .prepareDebit steps conclusion) :
      Follows number transfer results start past (.concluding conclusion)
  | ended {outcome : Outcome} (steps : List Step)
      (made : callsOf number start past = steps.map (Step.addressed transfer))
      (orderly : Orderly results steps)
      (recorded : Occurs step start past
        (Records number transfer results steps outcome)) :
      Follows number transfer results start past (.ended outcome)

theorem callsOf_concat {last next : Floor} {event : Event}
    (reached : runThrough step start past = some last)
    (stepped : last.step event = some next) :
    callsOf number start (past ++ [event]) =
      callsOf number start past ++ callOver number last event next :=
  collect_concat reached stepped

/-- An answer is one more call, and the settlement goes on as its script says. -/
theorem follows_of_answer {last next : Floor} {run : SettlementRun} {stage : Stage}
    (follows : Follows number run.transfer results start past (.calling stage))
    (reached : runThrough step start past = some last)
    (found : last.runs[number]? = some run) (calling : run.phase = .calling stage)
    (stepped : last.step (.answer number (heardAt run.transfer results stage)) =
      some next) :
    Follows number run.transfer results start
      (past ++ [.answer number (heardAt run.transfer results stage)])
      (.entering (Settlement.next run.transfer stage
        (heardAt run.transfer results stage))) := by
  cases follows with
  | calling steps made leads =>
      have ownCall : callOver number last
          (.answer number (heardAt run.transfer results stage)) next =
            [stage.step.addressed run.transfer] := by
        simp [callOver, callOf?_of_calling found calling]
      have madeNow : callsOf number start
          (past ++ [.answer number (heardAt run.transfer results stage)]) =
            (steps ++ [stage.step]).map (Step.addressed run.transfer) := by
        rw [callsOf_concat reached stepped, made, ownCall, List.map_append]
        rfl
      cases goes : Settlement.next run.transfer stage
          (heardAt run.transfer results stage) with
      | proceed later =>
          refine .calling (steps ++ [stage.step]) madeNow fun rest => ?_
          rw [List.append_assoc]
          exact leads (.more goes rest)
      | conclude conclusion =>
          exact .concluding (steps ++ [stage.step]) madeNow (leads (.last goes))

/-- A conclusion is noted, and makes no call. -/
theorem follows_of_conclude {last next : Floor} {run : SettlementRun}
    {conclusion : Conclusion} (sound : last.Sound)
    (follows : Follows number run.transfer results start past
      (.concluding conclusion))
    (reached : runThrough step start past = some last)
    (found : last.runs[number]? = some run)
    (concluding : run.phase = .concluding conclusion)
    (stepped : last.step (.conclude number) = some next)
    (ended : next = last.ended number run conclusion) :
    Follows number run.transfer results start (past ++ [.conclude number])
      (.ended conclusion.outcome) := by
  cases follows with
  | concluding steps made script =>
      have course := course_of_script script
      have madeNow : callsOf number start (past ++ [.conclude number]) =
          steps.map (Step.addressed run.transfer) := by
        rw [callsOf_concat reached stepped, made]
        exact List.append_nil _
      have running := sound.live number run (isLive_of_concluding found concluding)
      have noted : next.entryOf? run.transfer.id =
          Journal.concluded run.transfer last.now conclusion := by
        rw [ended, entryOf?_ended running, if_pos rfl]
      refine .ended steps madeNow course.orderly
        ((occurs_concat reached stepped).mpr (Or.inr ⟨rfl, running, ?_⟩))
      rw [noted]
      exact course.recorded last.now

/-- Whatever else happens leaves a settlement where it is. -/
theorem Follows.elsewhere {last next : Floor} {event : Event} {phase : RunPhase}
    (follows : Follows number transfer results start past phase)
    (reached : runThrough step start past = some last)
    (stepped : last.step event = some next)
    (unanswered : ∀ answer, event ≠ .answer number answer) :
    Follows number transfer results start (past ++ [event]) phase := by
  have nothing : callOver number last event next = [] := by
    cases event with
    | answer other answer =>
        have different : other ≠ number := by
          rintro rfl
          exact unanswered answer rfl
        simp [callOver, different]
    | _ => rfl
  have sameCalls : callsOf number start (past ++ [event]) =
      callsOf number start past := by
    rw [callsOf_concat reached stepped, nothing, List.append_nil]
  cases follows with
  | calling steps made leads => exact .calling steps (sameCalls.trans made) leads
  | concluding steps made script =>
      exact .concluding steps (sameCalls.trans made) script
  | ended steps made orderly recorded =>
      exact .ended steps (sameCalls.trans made) orderly
        ((occurs_concat reached stepped).mpr (Or.inl recorded))

end History

/-- Where a settlement is if it has got the given results so far. -/
def Tracks (number : Nat) (first : SettlementRun) (results : Step → CallResult)
    (start : Floor) (past : List Event) (floor : Floor) : Prop :=
  ¬ Occurs step start past (Strays number results) →
    floor.Sound ∧ ∃ run, floor.runs[number]? = some run ∧
      run.transfer = first.transfer ∧
      Follows number first.transfer results start past run.phase

theorem Tracks.step {start last next : Floor} {past : List Event} {event : Event}
    {number : Nat} {first : SettlementRun} {results : Step → CallResult}
    (tracks : Tracks number first results start past last)
    (reached : runThrough step start past = some last)
    (stepped : last.step event = some next) :
    Tracks number first results start (past ++ [event]) next := by
  intro obeys
  rw [occurs_concat reached stepped, not_or] at obeys
  obtain ⟨sound, run, found, sameTransfer, follows⟩ := tracks obeys.1
  obtain ⟨current, present, transfer, goes⟩ := run_after_step stepped found
  refine ⟨sound.step stepped, current, present, transfer.trans sameTransfer, ?_⟩
  rw [← sameTransfer] at follows ⊢
  rcases goes with ⟨stage, answer, rfl, runCalling, phase⟩ |
    ⟨conclusion, rfl, concluding, phase, ended⟩ | ⟨phase, unanswered, -⟩
  · have given : answer = heardAt run.transfer results stage := by
      by_contra otherwise
      exact obeys.2 ⟨run, stage, answer, rfl, found, runCalling, otherwise⟩
    subst given
    rw [runCalling] at follows
    rw [phase]
    exact follows_of_answer follows reached found runCalling stepped
  · rw [concluding] at follows
    rw [phase]
    exact follows_of_conclude sound follows reached found concluding stepped ended
  · rw [phase]
    exact follows.elsewhere reached stepped unanswered

/-- A settlement that gets the given results does as its course says. -/
theorem tracks_of_runThrough {start final : Floor} {events : List Event}
    {number : Nat} {first : SettlementRun} (sound : start.Sound)
    (began : start.runs[number]? = some first)
    (calling : first.phase = .calling .prepareDebit)
    (results : Step → CallResult)
    (ran : runThrough step start events = some final) :
    Tracks number first results start events final := by
  refine history_of_runThrough ?_ ?_ ran
  · intro _
    refine ⟨sound, first, began, rfl, ?_⟩
    rw [calling]
    exact .calling [] rfl id
  · exact fun reached tracks stepped => tracks.step reached stepped

/-! ## Every settlement can come to its end -/

theorem not_strays {floor next : Floor} {number : Nat} {run : SettlementRun}
    {stage : Stage} {results : Step → CallResult} {answer : Except TransferFailure Unit}
    (found : floor.runs[number]? = some run) (calling : run.phase = .calling stage)
    (given : answer = heardAt run.transfer results stage) :
    ¬ Strays number results floor (.answer number answer) next := by
  rintro ⟨other, otherStage, answer, same, otherFound, otherCalling, otherwise⟩
  cases same
  rw [found] at otherFound
  cases otherFound
  rw [calling] at otherCalling
  cases otherCalling
  exact otherwise given

theorem not_strays_conclude {floor next : Floor} {number other : Nat}
    {results : Step → CallResult} :
    ¬ Strays number results floor (.conclude other) next := by
  rintro ⟨run, stage, answer, same, -⟩
  cases same

theorem exists_answered {floor : Floor} {number : Nat} {run : SettlementRun}
    {stage : Stage} (found : floor.runs[number]? = some run)
    (calling : run.phase = .calling stage) (answer : Except TransferFailure Unit) :
    ∃ next current, floor.step (.answer number answer) = some next ∧
      next.runs[number]? = some current ∧ current.transfer = run.transfer ∧
      current.phase = .entering (Settlement.next run.transfer stage answer) :=
  ⟨_, _, answer_of_calling found calling,
    (getElem?_withRun found _ number).trans (if_pos rfl), rfl, rfl⟩

theorem exists_concluded {floor : Floor} {number : Nat} {run : SettlementRun}
    {conclusion : Conclusion} (found : floor.runs[number]? = some run)
    (concluding : run.phase = .concluding conclusion) :
    ∃ next current, floor.step (.conclude number) = some next ∧
      next.runs[number]? = some current ∧
      current.phase = .ended conclusion.outcome :=
  ⟨_, { run with phase := .ended conclusion.outcome },
    conclude_of_concluding found concluding,
    (getElem?_withRun found _ number).trans (if_pos rfl), rfl⟩

/-- From a stage on, the results lead to the end of the settlement. -/
theorem exists_end {transfer : Transfer} {results : Step → CallResult}
    {stage : Stage} {steps : List Step} {conclusion : Conclusion}
    (script : Script transfer results stage steps conclusion) {floor : Floor}
    {number : Nat} {run : SettlementRun} (found : floor.runs[number]? = some run)
    (sameTransfer : run.transfer = transfer) (calling : run.phase = .calling stage) :
    ∃ events final ended, runThrough step floor events = some final ∧
      ¬ Occurs step floor events (Strays number results) ∧
      final.runs[number]? = some ended ∧
      ended.phase = .ended conclusion.outcome := by
  induction script generalizing floor run with
  | @last stage conclusion concludes =>
      subst sameTransfer
      obtain ⟨next, concluding, answered, foundNext, -, phase⟩ :=
        exists_answered found calling (heardAt run.transfer results stage)
      rw [concludes] at phase
      obtain ⟨final, ended, concluded, foundLast, outcome⟩ :=
        exists_concluded foundNext phase
      refine ⟨[.answer number (heardAt run.transfer results stage), .conclude number],
        final, ended, ?_, ?_, foundLast, outcome⟩
      · simp only [runThrough, answered, concluded]
      · apply not_occurs_cons answered (not_strays found calling rfl)
        exact not_occurs_cons concluded not_strays_conclude not_occurs_nil
  | @more stage later steps conclusion proceeds rest ih =>
      subst sameTransfer
      obtain ⟨next, current, answered, foundNext, sameTransfer, phase⟩ :=
        exists_answered found calling (heardAt run.transfer results stage)
      rw [proceeds] at phase
      obtain ⟨events, final, ended, ran, obeys, present, outcome⟩ :=
        ih foundNext sameTransfer phase
      refine ⟨.answer number (heardAt run.transfer results stage) :: events, final,
        ended, ?_, ?_, present, outcome⟩
      · simp only [runThrough, answered]
        exact ran
      · exact not_occurs_cons answered (not_strays found calling rfl) obeys

/-- Whatever the results of its calls are, a settlement that has been accepted can
come to its end.  Whenever it does, its calls have been made in the order and for
the reasons that the policy names, and the journal notes what has come of them. -/
theorem policy_of_order {start floor next : Floor} {past : List Event}
    {transfer : Transfer} (opening : start.IsOpening)
    (ran : runThrough step start past = some floor)
    (accepted : floor.order transfer = (next, .accepted))
    (results : Step → CallResult) :
    (∃ events final run outcome, runThrough step next events = some final ∧
      ¬ Occurs step next events (Strays floor.runs.length results) ∧
      final.runs[floor.runs.length]? = some run ∧ run.phase = .ended outcome) ∧
    ∀ events final run outcome, runThrough step next events = some final →
      ¬ Occurs step next events (Strays floor.runs.length results) →
      final.runs[floor.runs.length]? = some run → run.phase = .ended outcome →
        ∃ steps, callsOf floor.runs.length next events =
            steps.map (Step.addressed transfer) ∧
          Orderly results steps ∧
          Occurs step next events
            (Records floor.runs.length transfer results steps outcome) := by
  have nextSound : next.Sound := by
    have ordered : floor.step (.order transfer) = some (floor.order transfer).1 := rfl
    rw [accepted] at ordered
    exact (sound_of_runThrough opening ran).step ordered
  have began : next.runs[floor.runs.length]? =
      some ⟨transfer, .calling .prepareDebit, true⟩ := by
    rcases floor.order_cases transfer with ⟨outcome, answered⟩ | ⟨-, -, started⟩
    · rw [accepted] at answered
      cases answered
    · rw [accepted] at started
      cases started
      exact List.getElem?_concat_length
  constructor
  · obtain ⟨steps, conclusion, script⟩ := exists_script transfer results .prepareDebit
    obtain ⟨events, final, run, finished, obeys, present, phase⟩ :=
      exists_end script began rfl rfl
    exact ⟨events, final, run, _, finished, obeys, present, phase⟩
  · intro events final run outcome finished obeys present phase
    obtain ⟨-, current, found, -, follows⟩ :=
      tracks_of_runThrough nextSound began rfl results finished obeys
    rw [present] at found
    cases found
    rw [phase] at follows
    cases follows with
    | ended steps made orderly recorded => exact ⟨steps, made, orderly, recorded⟩

/-- The bank of the payee may or may not have prepared its leg, and nothing can be
released at once. -/
def unreachedPayee : Step → CallResult
  | .prepare .credit => .unreachable "lost"
  | .release .debit => .refused (.invalidRequest "no")
  | .release .credit => .silent
  | _ => .done

/-- The answers that a payment gets then, and its conclusion. -/
def unreachedAnswers : List Event :=
  [.answer 0 (.ok ()), .answer 0 (.error (.unreachable "south: lost")),
    .answer 0 (.error (.invalidRequest "no")), .answer 0 (.error .timeout),
    .conclude 0]

theorem policy_of_unreachedPayee :
    ∃ begun final run,
      order ⟨Sample.house, 0, []⟩ Sample.payment = (begun, .accepted) ∧
      runThrough step begun unreachedAnswers = some final ∧
      ¬ Occurs step begun unreachedAnswers (Strays 0 unreachedPayee) ∧
      final.runs[0]? = some run ∧
      run.phase = .ended (.error (.unreachable "south: lost")) ∧
      callsOf 0 begun unreachedAnswers =
        [.prepare .debit, .prepare .credit, .release .debit,
          .release .credit].map (Step.addressed Sample.payment) ∧
      ∃ steps, callsOf 0 begun unreachedAnswers =
          steps.map (Step.addressed Sample.payment) ∧
        Orderly unreachedPayee steps ∧
        Occurs step begun unreachedAnswers
          (Records 0 Sample.payment unreachedPayee steps
            (.error (.unreachable "south: lost"))) := by
  have opening : IsOpening ⟨Sample.house, 0, []⟩ := ⟨rfl, rfl⟩
  have accepted : order ⟨Sample.house, 0, []⟩ Sample.payment = (_, .accepted) := rfl
  have policy := policy_of_order opening (rfl : runThrough step _ [] = _) accepted
    unreachedPayee
  have ran : runThrough step (order ⟨Sample.house, 0, []⟩ Sample.payment).1
      unreachedAnswers = some _ := rfl
  have obeys : ¬ Occurs step (order ⟨Sample.house, 0, []⟩ Sample.payment).1
      unreachedAnswers (Strays 0 unreachedPayee) := by
    rw [unreachedAnswers]
    refine not_occurs_cons rfl (not_strays rfl rfl rfl) ?_
    refine not_occurs_cons rfl (not_strays rfl rfl rfl) ?_
    refine not_occurs_cons rfl (not_strays rfl rfl rfl) ?_
    refine not_occurs_cons rfl (not_strays rfl rfl rfl) ?_
    exact not_occurs_cons rfl not_strays_conclude not_occurs_nil
  exact ⟨_, _, _, accepted, ran, obeys, rfl, rfl, rfl,
    policy.2 _ _ _ _ ran obeys rfl rfl⟩

end Floor

end ClearingHouse
