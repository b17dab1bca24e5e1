import ClearingHouse.Proofs.Bank.Promised
import ClearingHouse.Proofs.Hall.Sound

/-!
# What no sweep disturbs

`Hall.Sound` is lost when the journal is swept: it can forget a transfer whose
legs the banks remember.  Less than that holds whatever is forgotten.  Journal
and settlements agree, a prepare pauses only while its bank does not remember the
leg as committed, and what a bank has promised to a settlement stays.
-/

namespace ClearingHouse

theorem Settlement.Stage.Pauses.call_eq {stage : Settlement.Stage}
    (pauses : stage.Pauses) (transfer : Transfer) :
    stage.call transfer = .prepare (transfer.legOrder stage.side) := by
  rcases pauses with rfl | rfl <;> rfl

theorem Settlement.Stage.pauses_of_call {stage : Settlement.Stage}
    {transfer : Transfer} {order : LegOrder}
    (isPrepare : stage.call transfer = .prepare order) : stage.Pauses := by
  cases stage with
  | prepareDebit => exact Or.inl rfl
  | prepareCredit => exact Or.inr rfl
  | releaseDebit cause creditNext => cases isPrepare
  | releaseCredit cause => cases isPrepare
  | commitDebit | commitCredit => cases isPrepare

namespace Banks

/-- A bank that remembers having committed a leg does nothing when it is asked to
prepare the leg. -/
theorem same_prepare_of_committed {banks : Banks} {name : BankName} {bank : Bank}
    (present : Table.find? banks name = some bank) (now : Nat) {order : LegOrder}
    (committed : banks.Committed name order.transfer order.side) :
    Same banks (banks.put name (bank.receive now (.prepare order)).1) ∧
      ∀ pause later, (bank.receive now (.prepare order)).2 ≠ .again pause later := by
  obtain ⟨record, known, isCommitted⟩ := committed
  rw [leg?_of_find? present] at known
  have status : bank.legStatus order.transfer order.side = some .committed := by
    simp [Bank.legStatus, known, isCommitted]
  obtain ⟨result, prepared⟩ := Bank.prepare_of_committed status
  simp only [Bank.receive, prepared]
  constructor
  · exact same_put present
  · intro pause later again
    cases result <;> cases again

end Banks

namespace Hall

/-- Journal and settlements agree, and no prepare pauses whose bank remembers
having committed the leg. -/
structure Regular (hall : Hall) : Prop where
  floor : hall.floor.Sound
  pausing : ∀ number attempt, hall.pauses number = some attempt →
    ∃ run stage, hall.floor.runs[number]? = some run ∧
      run.phase = .calling stage ∧ stage.Pauses ∧
      ¬ hall.banks.Committed (stage.bank run.transfer) run.transfer.id stage.side

/-- The call of a settlement has reached its bank, and the settlement goes on with
the answer or waits for a further attempt. -/
structure Calls (hall next : Hall) (number : Nat) (run : SettlementRun)
    (stage : Settlement.Stage) (attempt : Bank.Attempt BankReply) : Prop where
  found : hall.floor.runs[number]? = some run
  calling : run.phase = .calling stage
  turn : Banks.Turn hall.banks hall.floor.now (stage.bank run.transfer)
    (stage.call run.transfer) next.banks attempt
  known : stage.Pauses →
    hall.banks.Committed (stage.bank run.transfer) run.transfer.id stage.side →
      Banks.Same hall.banks next.banks ∧
        ∀ pause later, attempt ≠ .again pause later
  goesOn :
    (∃ answer, Heard (stage.bank run.transfer) attempt answer ∧
      hall.floor.answer number answer = some next.floor ∧
      next.pauses = hall.pausesWith number none) ∨
    (∃ pause later, attempt = .again pause later ∧ next.floor = hall.floor ∧
      next.pauses = hall.pausesWith number (some later))

variable {hall next : Hall} {event : Event} {number : Nat} {run : SettlementRun}
  {stage : Settlement.Stage}

theorem regular_of_isOpening (opening : hall.IsOpening) : hall.Regular where
  floor := Floor.sound_of_isOpening opening.floor
  pausing := by
    intro number attempt pausing
    rw [opening.pauses] at pausing
    cases pausing

theorem Regular.pauses_of_calling {attempt : Nat} (regular : hall.Regular)
    (found : hall.floor.runs[number]? = some run)
    (calling : run.phase = .calling stage)
    (pausing : hall.pauses number = some attempt) :
    stage.Pauses ∧
      ¬ hall.banks.Committed (stage.bank run.transfer) run.transfer.id
        stage.side := by
  obtain ⟨current, currentStage, present, currentCalling, pauses, uncommitted⟩ :=
    regular.pausing number attempt pausing
  rw [found] at present
  cases present
  rw [calling] at currentCalling
  cases currentCalling
  exact ⟨pauses, uncommitted⟩

/-- The call of a settlement has one of the turns that calls have.  A prepare of a
committed leg is over at once. -/
theorem Regular.turn_of_call {bank : Bank} (regular : hall.Regular)
    (found : hall.floor.runs[number]? = some run)
    (calling : run.phase = .calling stage)
    (present : Table.find? hall.banks (stage.bank run.transfer) = some bank)
    {turn : Bank × Bank.Attempt BankReply}
    (result : turn =
      match hall.pauses number with
      | none => bank.receive hall.floor.now (stage.call run.transfer)
      | some attempt => bank.resume attempt (stage.call run.transfer)) :
    Banks.Turn hall.banks hall.floor.now (stage.bank run.transfer)
        (stage.call run.transfer)
        (hall.banks.put (stage.bank run.transfer) turn.1) turn.2 ∧
      (stage.Pauses →
        hall.banks.Committed (stage.bank run.transfer) run.transfer.id stage.side →
          Banks.Same hall.banks
              (hall.banks.put (stage.bank run.transfer) turn.1) ∧
            ∀ pause later, turn.2 ≠ .again pause later) := by
  subst result
  cases pausing : hall.pauses number with
  | none =>
      refine ⟨Banks.turn_receive present _ _, ?_⟩
      intro pauses committed
      rw [pauses.call_eq]
      exact Banks.same_prepare_of_committed present _ committed
  | some attempt =>
      obtain ⟨pauses, uncommitted⟩ :=
        regular.pauses_of_calling found calling pausing
      rw [pauses.call_eq]
      refine ⟨Banks.turn_resume present _ _ _, ?_⟩
      intro _ committed
      exact absurd committed uncommitted

theorem Regular.calls (regular : hall.Regular)
    (called : hall.call number = some next) :
    ∃ run stage attempt, Calls hall next number run stage attempt := by
  obtain ⟨run, stage, bank, found, calling, present, digested⟩ :=
    call_eq_some called
  obtain ⟨turn, known⟩ := regular.turn_of_call found calling present rfl
  rcases digest_eq_some digested with
    ⟨answer, floor, heard, answered, rfl⟩ | ⟨pause, later, again, rfl⟩
  · exact ⟨run, stage, _, found, calling, turn, known,
      Or.inl ⟨answer, heard, answered, rfl⟩⟩
  · exact ⟨run, stage, _, found, calling, turn, known,
      Or.inr ⟨pause, later, again, rfl, rfl⟩⟩

/-! ## Floor and pauses after an event -/

/-- An event changes nothing on the floor, or is an event of the floor.  An answer
comes from a call, or from a caller who stops waiting. -/
theorem Regular.floor_of_step (regular : hall.Regular)
    (stepped : hall.step event = some next) :
    next.floor = hall.floor ∨
      ∃ floorEvent, hall.floor.step floorEvent = some next.floor ∧
        ∀ number answer, floorEvent = .answer number answer →
          next.pauses number = none ∧
            (event = .call number ∨ answer = .error .timeout) := by
  cases event with
  | order transfer =>
      cases stepped
      exact Or.inr ⟨.order transfer, rfl, nofun⟩
  | call number =>
      obtain ⟨run, stage, attempt, calls⟩ := regular.calls stepped
      rcases calls.goesOn with
        ⟨answer, heard, answered, pauses⟩ | ⟨pause, later, again, sameFloor, pauses⟩
      · refine Or.inr ⟨.answer number answer, answered, ?_⟩
        rintro other given ⟨⟩
        rw [pauses]
        exact ⟨pausesWith_self none, Or.inl rfl⟩
      · exact Or.inl sameFloor
  | expire number =>
      obtain ⟨attempt, floor, pausing, answered, rfl⟩ := expire_eq_some stepped
      refine Or.inr ⟨.answer number (.error .timeout), answered, ?_⟩
      rintro other given ⟨⟩
      exact ⟨pausesWith_self none, Or.inr rfl⟩
  | conclude number =>
      obtain ⟨floor, concluded, rfl⟩ := Option.map_eq_some_iff.mp stepped
      exact Or.inr ⟨.conclude number, concluded, nofun⟩
  | leave number =>
      obtain ⟨floor, left, rfl⟩ := Option.map_eq_some_iff.mp stepped
      exact Or.inr ⟨.leave number, left, nofun⟩
  | sweepJournal retention =>
      cases stepped
      exact Or.inr ⟨.sweep retention, rfl, nofun⟩
  | sweepLegs name retention =>
      obtain ⟨bank, present, rfl⟩ := Option.map_eq_some_iff.mp stepped
      exact Or.inl rfl
  | rest milliseconds =>
      cases stepped
      exact Or.inr ⟨.rest milliseconds, rfl, nofun⟩

/-- Only the call of a settlement makes it pause. -/
theorem Regular.pauses_of_step {attempt : Nat} (regular : hall.Regular)
    (stepped : hall.step event = some next) (notCalled : event ≠ .call number)
    (pausing : next.pauses number = some attempt) :
    hall.pauses number = some attempt := by
  cases event with
  | call other =>
      have different : number ≠ other := by
        rintro rfl
        exact notCalled rfl
      obtain ⟨run, stage, made, calls⟩ := regular.calls stepped
      rcases calls.goesOn with
        ⟨answer, heard, answered, pauses⟩ | ⟨pause, later, again, sameFloor, pauses⟩
      · rw [pauses, pausesWith_of_ne different] at pausing
        exact pausing
      · rw [pauses, pausesWith_of_ne different] at pausing
        exact pausing
  | expire other =>
      obtain ⟨made, floor, wasPausing, answered, rfl⟩ := expire_eq_some stepped
      by_cases same : number = other
      · subst same
        simp [pausesWith_self] at pausing
      · rw [← pausing]
        exact (pausesWith_of_ne same none).symm
  | order transfer | sweepJournal retention | rest milliseconds =>
      cases stepped
      exact pausing
  | conclude other | leave other | sweepLegs name retention =>
      obtain ⟨changed, -, rfl⟩ := Option.map_eq_some_iff.mp stepped
      exact pausing

/-! ## A leg while its settlement waits -/

/-- An event other than the call of a settlement leaves the legs of its transfer
alone, unless a bank is swept. -/
theorem Regular.leg_of_step (regular : hall.Regular)
    (stepped : hall.step event = some next) (live : hall.floor.IsLive number run)
    (notCalled : event ≠ .call number) (side : Side) :
    Banks.AgreeOn hall.banks next.banks run.transfer.id side ∨
      ∃ name bank retention, Table.find? hall.banks name = some bank ∧
        next.banks = hall.banks.put name (bank.sweep hall.floor.now retention) := by
  have untouched : next.banks = hall.banks →
      Banks.AgreeOn hall.banks next.banks run.transfer.id side := by
    intro same
    rw [same]
    exact ⟨fun _ _ _ _ => Iff.rfl, fun _ => rfl⟩
  cases event with
  | call other =>
      obtain ⟨otherRun, stage, attempt, calls⟩ := regular.calls stepped
      have otherLive := Floor.isLive_of_calling calls.found calls.calling
      refine Or.inl (calls.turn.agreeOn ?_)
      intro touches
      have sameId := Settlement.Stage.id_of_touches_call touches
      have sameNumber :=
        regular.floor.single number other run otherRun live otherLive sameId
      exact notCalled (by rw [sameNumber])
  | expire other =>
      obtain ⟨attempt, floor, pausing, answered, rfl⟩ := expire_eq_some stepped
      exact Or.inl (untouched rfl)
  | order transfer | sweepJournal retention | rest milliseconds =>
      cases stepped
      exact Or.inl (untouched rfl)
  | conclude other | leave other =>
      obtain ⟨floor, -, rfl⟩ := Option.map_eq_some_iff.mp stepped
      exact Or.inl (untouched rfl)
  | sweepLegs name retention =>
      obtain ⟨bank, present, rfl⟩ := Option.map_eq_some_iff.mp stepped
      exact Or.inr ⟨name, bank, retention, present, rfl⟩

theorem Regular.uncommitted_of_step {side : Side} {name : BankName}
    (regular : hall.Regular) (stepped : hall.step event = some next)
    (live : hall.floor.IsLive number run) (notCalled : event ≠ .call number)
    (uncommitted : ¬ hall.banks.Committed name run.transfer.id side) :
    ¬ next.banks.Committed name run.transfer.id side := by
  intro committed
  rcases regular.leg_of_step stepped live notCalled side with
    agree | ⟨swept, bank, retention, present, banks⟩
  · exact uncommitted (committed.of_agreeOn agree)
  · rw [banks] at committed
    exact uncommitted (committed.of_sweep present)

theorem Regular.promised_of_step {side : Side} {found : Prop}
    (regular : hall.Regular) (stepped : hall.step event = some next)
    (live : hall.floor.IsLive number run) (notCalled : event ≠ .call number)
    (promised : Banks.Promised found hall.banks run.transfer side) :
    Banks.Promised found next.banks run.transfer side := by
  rcases regular.leg_of_step stepped live notCalled side with
    agree | ⟨swept, bank, retention, present, banks⟩
  · exact promised.of_agreeOn agree
  · rw [banks]
    exact promised.sweep present retention

/-! ## The invariant -/

/-- A settlement that pauses after a step waits with the same call as before. -/
theorem Regular.calling_of_step {attempt : Nat} (regular : hall.Regular)
    (stepped : hall.step event = some next)
    (found : hall.floor.runs[number]? = some run)
    (calling : run.phase = .calling stage)
    (pausing : next.pauses number = some attempt) :
    ∃ current, next.floor.runs[number]? = some current ∧
      current.transfer = run.transfer ∧ current.phase = .calling stage := by
  rcases regular.floor_of_step stepped with
    sameFloor | ⟨floorEvent, floorStepped, answers⟩
  · rw [sameFloor]
    exact ⟨run, found, rfl, calling⟩
  · obtain ⟨current, present, sameTransfer, goesOn⟩ :=
      Floor.run_after_step floorStepped found
    rcases goesOn with
      ⟨called, answer, isAnswer, -, -⟩ | ⟨conclusion, -, concluding, -⟩ |
        ⟨samePhase, -⟩
    · have noPause := (answers number answer isAnswer).1
      rw [noPause] at pausing
      cases pausing
    · rw [calling] at concluding
      cases concluding
    · exact ⟨current, present, sameTransfer, samePhase.trans calling⟩

theorem Regular.step (regular : hall.Regular)
    (stepped : hall.step event = some next) : next.Regular := by
  constructor
  · rcases regular.floor_of_step stepped with
      sameFloor | ⟨floorEvent, floorStepped, -⟩
    · rw [sameFloor]
      exact regular.floor
    · exact regular.floor.step floorStepped
  · intro number attempt pausing
    by_cases isCall : event = .call number
    · subst isCall
      obtain ⟨run, stage, made, calls⟩ := regular.calls stepped
      rcases calls.goesOn with
        ⟨answer, heard, answered, pauses⟩ | ⟨pause, later, rfl, sameFloor, pauses⟩
      · rw [pauses, pausesWith_self] at pausing
        cases pausing
      · -- Only a prepare pauses, and it has found the leg uncommitted.
        obtain ⟨order, isPrepare⟩ := calls.turn.prepare_of_again rfl
        have isPausing := Settlement.Stage.pauses_of_call isPrepare
        have same := calls.turn.same_of_again
        refine ⟨run, stage, sameFloor ▸ calls.found, calls.calling, isPausing, ?_⟩
        intro committed
        exact (calls.known isPausing (same.committed committed)).2 pause later rfl
    · have wasPausing := regular.pauses_of_step stepped isCall pausing
      obtain ⟨run, stage, found, calling, pauses, uncommitted⟩ :=
        regular.pausing number attempt wasPausing
      obtain ⟨current, present, sameTransfer, stillCalling⟩ :=
        regular.calling_of_step stepped found calling pausing
      refine ⟨current, stage, present, stillCalling, pauses, ?_⟩
      rw [sameTransfer]
      have live := Floor.isLive_of_calling found calling
      exact regular.uncommitted_of_step stepped live isCall uncommitted

end Hall

end ClearingHouse
