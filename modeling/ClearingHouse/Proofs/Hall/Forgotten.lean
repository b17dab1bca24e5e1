import ClearingHouse.Proofs.Hall.Regular
import ClearingHouse.Proofs.Hall.Wealth
import Mathlib.Algebra.Ring.Int.Defs

/-!
# Transfers that are forgotten and ordered again

The journal and the banks forget at times of their own.  A transfer that the
journal has forgotten can be ordered again.  A bank that remembers having
committed a leg of it acknowledges all calls for this leg and does nothing; a bank
that has forgotten the leg applies it once more.  So the settlement applies
exactly the legs that were forgotten, and if this was one of the two, the money on
all accounts changes although the transfer succeeds.
-/

namespace ClearingHouse

/-- What applying a leg adds to the balance of its party. -/
def Transfer.change (transfer : Transfer) : Side → Int
  | .debit => -transfer.amount.minor
  | .credit => transfer.amount.minor

/-- How far a leg has come whose calls have all succeeded so far. -/
inductive LegProgress where
  | untouched
  /-- Its prepare has been acknowledged. -/
  | promised
  /-- Its commit has been acknowledged. -/
  | finished

namespace RunPhase

/-- How far the legs have come in a phase of a settlement, as long as none of its
calls has failed. -/
def progress? : RunPhase → Option (Side → LegProgress)
  | .calling .prepareDebit => some fun _ => .untouched
  | .calling .prepareCredit => some fun
      | .debit => .promised
      | .credit => .untouched
  | .calling .commitDebit => some fun _ => .promised
  | .calling .commitCredit => some fun
      | .debit => .finished
      | .credit => .promised
  | .concluding (.settled (.ok _)) | .ended (.ok _) => some fun _ => .finished
  | _ => none

variable {transfer : Transfer} {stage : Settlement.Stage}
  {answer : Except TransferFailure Unit}

theorem progress?_abandoned (cause : TransferFailure) :
    (concluding (Settlement.abandoned cause)).progress? = none := by
  unfold Settlement.abandoned
  split <;> rfl

theorem progress?_of_error (transfer : Transfer) (stage : Settlement.Stage)
    (failure : TransferFailure) :
    (entering (Settlement.next transfer stage (.error failure))).progress? =
      none := by
  cases stage with
  | prepareDebit =>
      simp only [Settlement.next]
      split
      · rfl
      · exact progress?_abandoned failure
  | prepareCredit | commitDebit | commitCredit => rfl
  | releaseDebit cause creditNext =>
      cases creditNext with
      | true => rfl
      | false => exact progress?_abandoned cause
  | releaseCredit cause => exact progress?_abandoned cause

theorem progress?_of_ended {conclusion : Settlement.Conclusion}
    {progress : Side → LegProgress}
    (reached : (ended conclusion.outcome).progress? = some progress) :
    (concluding conclusion).progress? = some progress := by
  cases conclusion with
  | dropped failure => cases reached
  | settled outcome =>
      cases outcome with
      | ok receipt => exact reached
      | error failure => cases reached

/-- A settlement whose leg is promised is still under way. -/
theorem isLive_of_promised {phase : RunPhase} {progress : Side → LegProgress}
    {side : Side} (reached : phase.progress? = some progress)
    (promised : progress side = .promised) : phase.isLive = true := by
  cases phase with
  | calling stage => rfl
  | concluding conclusion => rfl
  | ended outcome =>
      cases outcome with
      | ok receipt =>
          cases reached
          cases promised
      | error failure => cases reached

/-- A call that has succeeded brings its own leg one step further. -/
theorem progress?_of_entering {after : Side → LegProgress}
    (reached :
      (entering (Settlement.next transfer stage answer)).progress? = some after) :
    answer = .ok () ∧ ∃ before, (calling stage).progress? = some before ∧
      (∀ side, side ≠ stage.side → after side = before side) ∧
      (before stage.side = .untouched ∧ after stage.side = .promised ∧
          stage.call transfer = .prepare (transfer.legOrder stage.side) ∨
        before stage.side = .promised ∧ after stage.side = .finished ∧
          stage.call transfer = .commit (transfer.legOrder stage.side)) := by
  cases answer with
  | error failure =>
      rw [progress?_of_error] at reached
      cases reached
  | ok done =>
      refine ⟨rfl, ?_⟩
      cases stage with
      | prepareDebit | prepareCredit =>
          cases reached
          refine ⟨_, rfl, ?_, Or.inl ⟨rfl, rfl, rfl⟩⟩
          intro side otherSide
          cases side <;> first | rfl | exact absurd rfl otherSide
      | commitDebit | commitCredit =>
          cases reached
          refine ⟨_, rfl, ?_, Or.inr ⟨rfl, rfl, rfl⟩⟩
          intro side otherSide
          cases side <;> first | rfl | exact absurd rfl otherSide
      | releaseDebit cause creditNext =>
          cases creditNext with
          | true => cases reached
          | false =>
              rw [Settlement.next, entering, progress?_abandoned] at reached
              cases reached
      | releaseCredit cause =>
          rw [Settlement.next, entering, progress?_abandoned] at reached
          cases reached

end RunPhase

/-! ## One leg -/

namespace Banks

/-- The balance of a party in minor units, zero if there is no such account. -/
def minorOf (banks : Banks) (party : Party) : Int :=
  match banks.balance? party with
  | some balance => balance.minor
  | none => 0

variable {banks after : Banks} {now : Nat} {transfer : Transfer} {side : Side}
  {found : Prop} {gain : Int} {progress : LegProgress}

theorem minorOf_congr {party : Party}
    (same : after.balance? party = banks.balance? party) :
    after.minorOf party = banks.minorOf party := by
  simp only [minorOf, same]

theorem Writes.minorOf_of_moved {account : Account} {balance : Amount}
    (writes : Writes banks after (transfer.party side) account ⟨balance, none⟩)
    (fits : account.moved side transfer.amount = .ok balance) :
    after.minorOf (transfer.party side) =
      banks.minorOf (transfer.party side) + transfer.change side := by
  simp only [minorOf, writes.balance?, if_pos, writes.balance?_of_found]
  cases side with
  | debit =>
      have paid := Account.minor_of_moved_debit fits
      simp only [Transfer.change]
      omega
  | credit =>
      have received := Account.minor_of_moved_credit fits
      simp only [Transfer.change]
      omega

/-- What the call of a stage adds to all money is what it adds to the balance of
its own party.  No other balance changes. -/
theorem Turn.gains {stage : Settlement.Stage} {attempt : Bank.Attempt BankReply}
    (turn : Turn banks now (stage.bank transfer) (stage.call transfer) after
      attempt) :
    (after.total : Int) - banks.total =
        after.minorOf (transfer.party stage.side) -
          banks.minorOf (transfer.party stage.side) ∧
      ∀ party, party ≠ transfer.party stage.side →
        after.minorOf party = banks.minorOf party := by
  cases turn.moves with
  | nothing balances total committed acknowledged =>
      constructor
      · rw [total, minorOf_congr (balances _)]
        omega
      · intro party _
        exact minorOf_congr (balances party)
  | applied order account balance isCommit done fits writes committed =>
      have isOrder : order = transfer.legOrder stage.side := by
        cases stage with
        | commitDebit | commitCredit =>
            cases isCommit
            rfl
        | prepareDebit | prepareCredit => cases isCommit
        | releaseDebit cause creditNext => cases isCommit
        | releaseCredit cause => cases isCommit
      subst isOrder
      constructor
      · have known : banks.balance? (transfer.party stage.side) =
            some account.balance := writes.balance?_of_found
        have changed : after.balance? (transfer.party stage.side) = some balance :=
          (writes.balance? _).trans (if_pos rfl)
        have total := writes.total
        simp only at total
        simp only [minorOf, known, changed]
        omega
      · intro party other
        apply minorOf_congr
        rw [writes.balance?]
        exact if_neg other

/-- What has become of a leg: whether its bank has `found` it committed, and what
its commit has added to the balance of its party. -/
inductive LegTrail (found : Prop) (gain : Int) (banks : Banks)
    (transfer : Transfer) (side : Side) : LegProgress → Prop where
  | untouched (unfound : ¬ found) (nothing : gain = 0) :
      LegTrail found gain banks transfer side .untouched
  | promised (promised : Promised found banks transfer side) (nothing : gain = 0) :
      LegTrail found gain banks transfer side .promised
  | finished (nothing : found → gain = 0)
      (whole : ¬ found → gain = transfer.change side) :
      LegTrail found gain banks transfer side .finished

theorem LegTrail.carry (trail : LegTrail found gain banks transfer side progress)
    (keeps : progress = .promised → Promised found banks transfer side →
      Promised found after transfer side) :
    LegTrail found gain after transfer side progress := by
  cases trail with
  | untouched unfound nothing => exact .untouched unfound nothing
  | promised promised nothing => exact .promised (keeps rfl promised) nothing
  | finished nothing whole => exact .finished nothing whole

/-- A prepare that succeeds finds the leg committed, or takes its account. -/
theorem LegTrail.prepare {reply : BankReply}
    (trail : LegTrail found gain banks transfer side .untouched)
    (turn : Turn banks now (transfer.party side).bank
      (.prepare (transfer.legOrder side)) after (.finished (.ok reply)))
    (known : banks.Committed (transfer.party side).bank transfer.id side →
      Same banks after) :
    LegTrail (found ∨ banks.Committed (transfer.party side).bank transfer.id side)
      gain after transfer side .promised := by
  cases trail with
  | untouched unfound nothing =>
      refine .promised ?_ nothing
      by_cases committed :
          banks.Committed (transfer.party side).bank transfer.id side
      · refine Or.inl ⟨Or.inr committed, ?_⟩
        intro record isKnown
        rw [(known committed).legs] at isKnown
        exact committed.bygone record isKnown
      · have taken := turn.taken_of_prepare committed
        exact Or.inr ⟨not_or.mpr ⟨unfound, committed⟩, taken⟩

/-- A commit that succeeds applies the leg, unless it was found committed. -/
theorem LegTrail.commit {reply : BankReply}
    (trail : LegTrail found gain banks transfer side .promised)
    (turn : Turn banks now (transfer.party side).bank
      (.commit (transfer.legOrder side)) after (.finished (.ok reply))) :
    LegTrail found
      (gain + (after.minorOf (transfer.party side) -
        banks.minorOf (transfer.party side))) after transfer side .finished := by
  cases trail with
  | promised promised nothing =>
      subst nothing
      rcases turn.commit_of_promised promised with
        ⟨isFound, same⟩ | ⟨unfound, account, balance, fits, writes⟩
      · refine .finished (fun _ => ?_) (fun unfound => absurd isFound unfound)
        rw [minorOf_congr (same.balance? _)]
        omega
      · refine .finished (fun isFound => absurd isFound unfound) (fun _ => ?_)
        rw [writes.minorOf_of_moved fits]
        omega

end Banks

/-! ## One settlement -/

namespace Hall

/-- A settlement asks for a leg to be prepared, and the bank of the leg remembers
having committed it. -/
def Remembers (number : Nat) (side : Side) (hall : Hall) (event : Event)
    (_ : Hall) : Prop :=
  event = .call number ∧ ∃ run stage, hall.floor.runs[number]? = some run ∧
    run.phase = .calling stage ∧
    stage.call run.transfer = .prepare (run.transfer.legOrder side) ∧
    hall.banks.Committed (run.transfer.party side).bank run.transfer.id side

/-- What a step adds to a figure, if it is a call of this settlement. -/
def gainIn (number : Nat) (figure : Banks → Int) (hall : Hall) (event : Event)
    (next : Hall) : List Int :=
  match event with
  | .call other =>
      if other = number then [figure next.banks - figure hall.banks] else []
  | _ => []

/-- What the calls of a settlement add to a figure altogether. -/
def gain (number : Nat) (figure : Banks → Int) (start : Hall)
    (events : List Event) : Int :=
  (collect step (gainIn number figure) start events).sum

/-- A settlement has applied exactly those legs that their banks did not remember
as committed when they were to be prepared.  So its calls have left the total of
all balances as it was if and only if both banks remembered their legs, or none. -/
structure AppliesForgotten (start : Hall) (events : List Event) (number : Nat)
    (transfer : Transfer) : Prop where
  remembered : ∀ side, Occurs step start events (Remembers number side) →
    gain number (fun banks => banks.minorOf (transfer.party side)) start events = 0
  forgotten : ∀ side, ¬ Occurs step start events (Remembers number side) →
    gain number (fun banks => banks.minorOf (transfer.party side)) start events =
      transfer.change side
  total : gain number (fun banks => banks.total) start events =
    gain number (fun banks => banks.minorOf transfer.sender) start events +
      gain number (fun banks => banks.minorOf transfer.recipient) start events
  conserves : gain number (fun banks => banks.total) start events = 0 ↔
    (Occurs step start events (Remembers number .debit) ↔
      Occurs step start events (Remembers number .credit))

variable {start hall next : Hall} {past : List Event} {event : Event}
  {number : Nat} {run : SettlementRun} {stage : Settlement.Stage}
  {attempt : Bank.Attempt BankReply}

theorem gain_call (reached : runThrough step start past = some hall)
    (stepped : hall.step (.call number) = some next) (figure : Banks → Int) :
    gain number figure start (past ++ [.call number]) =
      gain number figure start past + (figure next.banks - figure hall.banks) := by
  simp [gain, collect_concat reached stepped, gainIn]

theorem gain_of_not_called (reached : runThrough step start past = some hall)
    (stepped : hall.step event = some next) (notCalled : event ≠ .call number)
    (figure : Banks → Int) :
    gain number figure start (past ++ [event]) = gain number figure start past := by
  have nothing : gainIn number figure hall event next = [] := by
    cases event with
    | call other =>
        have different : other ≠ number := by
          rintro rfl
          exact notCalled rfl
        simp [gainIn, different]
    | _ => rfl
  simp [gain, collect_concat reached stepped, nothing]

theorem occurs_of_not_called {side : Side}
    (reached : runThrough step start past = some hall)
    (stepped : hall.step event = some next) (notCalled : event ≠ .call number) :
    Occurs step start (past ++ [event]) (Remembers number side) ↔
      Occurs step start past (Remembers number side) := by
  rw [occurs_concat reached stepped]
  constructor
  · rintro (before | ⟨isCall, -⟩)
    · exact before
    · exact absurd isCall notCalled
  · exact Or.inl

/-- What has become of the legs of a settlement in a phase of it. -/
def Trails (found : Side → Prop) (gained : Side → Int) (banks : Banks)
    (transfer : Transfer) (phase : RunPhase) : Prop :=
  ∀ progress, phase.progress? = some progress → ∀ side,
    Banks.LegTrail (found side) (gained side) banks transfer side (progress side)

/-! ## Its own calls -/

theorem Calls.remembers_iff (calls : Calls hall next number run stage attempt)
    (side : Side) :
    Remembers number side hall (.call number) next ↔
      side = stage.side ∧ stage.Pauses ∧
        hall.banks.Committed (stage.bank run.transfer) run.transfer.id
          stage.side := by
  constructor
  · rintro ⟨-, current, currentStage, found, calling, prepares, committed⟩
    rw [calls.found] at found
    cases found
    rw [calls.calling] at calling
    cases calling
    have pauses := Settlement.Stage.pauses_of_call prepares
    rw [pauses.call_eq] at prepares
    have sameSide : stage.side = side :=
      congrArg LegOrder.side (BankCall.prepare.inj prepares)
    subst sameSide
    exact ⟨rfl, pauses, committed⟩
  · rintro ⟨rfl, pauses, committed⟩
    exact ⟨rfl, run, stage, calls.found, calls.calling, pauses.call_eq _, committed⟩

/-- The leg of a call that has succeeded comes one step further. -/
theorem Calls.legTrail_own {found : Prop} {gained : Int} {before after : LegProgress}
    {reply : BankReply}
    (calls : Calls hall next number run stage (.finished (.ok reply)))
    (trail : Banks.LegTrail found gained hall.banks run.transfer stage.side before)
    (own : before = .untouched ∧ after = .promised ∧
        stage.call run.transfer = .prepare (run.transfer.legOrder stage.side) ∨
      before = .promised ∧ after = .finished ∧
        stage.call run.transfer = .commit (run.transfer.legOrder stage.side)) :
    Banks.LegTrail (found ∨ Remembers number stage.side hall (.call number) next)
      (gained + (next.banks.minorOf (run.transfer.party stage.side) -
        hall.banks.minorOf (run.transfer.party stage.side)))
      next.banks run.transfer stage.side after := by
  have turn := calls.turn
  rw [propext (calls.remembers_iff stage.side)]
  rcases own with ⟨rfl, rfl, isPrepare⟩ | ⟨rfl, rfl, isCommit⟩
  · have pauses := Settlement.Stage.pauses_of_call isPrepare
    have balance := turn.balance? (by rw [isPrepare]; nofun)
      (run.transfer.party stage.side)
    rw [Banks.minorOf_congr balance, Int.sub_self, Int.add_zero]
    rw [isPrepare] at turn
    simp only [true_and, pauses]
    exact trail.prepare turn fun committed => (calls.known pauses committed).1
  · have notPauses : ¬ stage.Pauses := by
      intro pauses
      rw [pauses.call_eq] at isCommit
      cases isCommit
    rw [isCommit] at turn
    simp only [notPauses, false_and, and_false, or_false]
    exact trail.commit turn

/-- A prepare or commit of one leg leaves the other leg where it is. -/
theorem Calls.legTrail_other {found : Prop} {gained : Int} {progress : LegProgress}
    {side : Side} (calls : Calls hall next number run stage attempt)
    (distinct : run.transfer.sender ≠ run.transfer.recipient)
    (trail : Banks.LegTrail found gained hall.banks run.transfer side progress)
    (otherSide : side ≠ stage.side)
    (own : stage.call run.transfer = .prepare (run.transfer.legOrder stage.side) ∨
      stage.call run.transfer = .commit (run.transfer.legOrder stage.side)) :
    Banks.LegTrail (found ∨ Remembers number side hall (.call number) next)
      (gained + (next.banks.minorOf (run.transfer.party side) -
        hall.banks.minorOf (run.transfer.party side)))
      next.banks run.transfer side progress := by
  have unchanged := calls.turn.gains.2 _ (Transfer.party_ne distinct otherSide)
  rw [propext (calls.remembers_iff side), unchanged, Int.sub_self, Int.add_zero]
  simp only [otherSide, false_and, or_false]
  have untouched : ¬ (stage.call run.transfer).Touches run.transfer.id side := by
    rcases own with isPrepare | isCommit
    · rw [isPrepare]
      rintro ⟨-, isOwn⟩
      exact otherSide isOwn.symm
    · rw [isCommit]
      rintro ⟨-, isOwn⟩
      exact otherSide isOwn.symm
  exact trail.carry fun _ promised =>
    promised.of_agreeOn (calls.turn.agreeOn untouched)

theorem Calls.trails {found : Side → Prop} {gained : Side → Int}
    (calls : Calls hall next number run stage attempt)
    (distinct : run.transfer.sender ≠ run.transfer.recipient)
    (trails : Trails found gained hall.banks run.transfer run.phase) :
    ∃ current, next.floor.runs[number]? = some current ∧
      current.transfer = run.transfer ∧
      Trails (fun side => found side ∨ Remembers number side hall (.call number) next)
        (fun side => gained side + (next.banks.minorOf (run.transfer.party side) -
          hall.banks.minorOf (run.transfer.party side)))
        next.banks run.transfer current.phase := by
  rcases calls.goesOn with
    ⟨answer, heard, answered, -⟩ | ⟨pause, later, rfl, sameFloor, -⟩
  · rw [Floor.answer_of_calling calls.found calls.calling] at answered
    have floor := Option.some.inj answered
    rw [← floor, Floor.getElem?_withRun calls.found, if_pos rfl]
    refine ⟨_, rfl, rfl, ?_⟩
    intro after reached
    obtain ⟨rfl, before, wasReached, others, own⟩ :=
      RunPhase.progress?_of_entering reached
    rw [← calls.calling] at wasReached
    have was := trails before wasReached
    intro side
    cases heard
    by_cases ownSide : side = stage.side
    · subst ownSide
      exact calls.legTrail_own (was stage.side) own
    · rw [others side ownSide]
      exact calls.legTrail_other distinct (was side) ownSide
        (own.imp (fun prepares => prepares.2.2) (fun commits => commits.2.2))
  · rw [sameFloor]
    refine ⟨run, calls.found, rfl, ?_⟩
    intro progress reached side
    have same := calls.turn.same_of_again
    have notRemembered : ¬ Remembers number side hall (.call number) next := by
      rw [calls.remembers_iff]
      rintro ⟨-, pauses, committed⟩
      exact (calls.known pauses committed).2 pause later rfl
    have trail := trails progress reached side
    simp only [notRemembered, or_false, Banks.minorOf_congr (same.balance? _),
      Int.sub_self, Int.add_zero]
    exact trail.carry fun _ promised =>
      promised.of_agreeOn (same.agreeOn run.transfer.id side)

/-! ## All other events -/

theorem Regular.trails_of_step {found : Side → Prop} {gained : Side → Int}
    (regular : hall.Regular) (stepped : hall.step event = some next)
    (notCalled : event ≠ .call number)
    (present : hall.floor.runs[number]? = some run)
    (trails : Trails found gained hall.banks run.transfer run.phase) :
    ∃ current, next.floor.runs[number]? = some current ∧
      current.transfer = run.transfer ∧
      Trails found gained next.banks run.transfer current.phase := by
  have carried : ∀ phase : RunPhase,
      (∀ progress, phase.progress? = some progress →
        run.phase.progress? = some progress) →
      Trails found gained next.banks run.transfer phase := by
    intro phase before progress reached side
    have wasReached := before progress reached
    refine (trails progress wasReached side).carry fun isPromised promised => ?_
    have live := RunPhase.isLive_of_promised wasReached isPromised
    exact regular.promised_of_step stepped ⟨present, live⟩ notCalled promised
  rcases regular.floor_of_step stepped with
    sameFloor | ⟨floorEvent, floorStepped, answers⟩
  · rw [sameFloor]
    exact ⟨run, present, rfl, carried _ fun _ reached => reached⟩
  · obtain ⟨current, found, sameTransfer, goesOn⟩ :=
      Floor.run_after_step floorStepped present
    refine ⟨current, found, sameTransfer, carried _ ?_⟩
    intro progress reached
    rcases goesOn with
      ⟨stage, answer, isAnswer, calling, entered⟩ |
        ⟨conclusion, -, concluding, ended, -⟩ | ⟨samePhase, -⟩
    · rcases (answers number answer isAnswer).2 with isCall | rfl
      · exact absurd isCall notCalled
      · rw [entered, RunPhase.progress?_of_error] at reached
        cases reached
    · rw [ended] at reached
      rw [concluding]
      exact RunPhase.progress?_of_ended reached
    · rw [← samePhase]
      exact reached

/-! ## Whole runs -/

/-- What is known of a settlement after the events so far. -/
structure Recalls (start : Hall) (number : Nat) (past : List Event) (hall : Hall) :
    Prop where
  regular : hall.Regular
  absent : hall.floor.runs[number]? = none →
    (∀ side, ¬ Occurs step start past (Remembers number side)) ∧
      ∀ figure, gain number figure start past = 0
  trails : ∀ run, hall.floor.runs[number]? = some run →
    Trails (fun side => Occurs step start past (Remembers number side))
      (fun side => gain number
        (fun banks => banks.minorOf (run.transfer.party side)) start past)
      hall.banks run.transfer run.phase
  total : ∀ run, hall.floor.runs[number]? = some run →
    gain number (fun banks => banks.total) start past =
      gain number (fun banks => banks.minorOf run.transfer.sender) start past +
        gain number (fun banks => banks.minorOf run.transfer.recipient) start past

theorem recalls_of_isOpening (opening : start.IsOpening) :
    Recalls start number [] start where
  regular := regular_of_isOpening opening
  absent := fun _ => ⟨fun _ => not_occurs_nil, fun _ => rfl⟩
  trails := by
    intro run present
    simp [opening.floor.runs] at present
  total := by
    intro run present
    simp [opening.floor.runs] at present

theorem Recalls.call (recalls : Recalls start number past hall)
    (reached : runThrough step start past = some hall)
    (stepped : hall.step (.call number) = some next) :
    Recalls start number (past ++ [.call number]) next := by
  obtain ⟨run, stage, attempt, calls⟩ := recalls.regular.calls stepped
  have distinct := (recalls.regular.floor.checked number run calls.found).distinct
  obtain ⟨current, present, sameTransfer, trails⟩ :=
    calls.trails distinct (recalls.trails run calls.found)
  constructor
  · exact recalls.regular.step stepped
  · intro absent
    rw [present] at absent
    cases absent
  · intro other otherPresent
    rw [present] at otherPresent
    cases otherPresent
    have occurs : ∀ side, Occurs step start (past ++ [.call number])
        (Remembers number side) = _ := fun side =>
      propext (occurs_concat reached stepped)
    simp only [occurs, gain_call reached stepped, sameTransfer]
    exact trails
  · intro other otherPresent
    rw [present] at otherPresent
    cases otherPresent
    have before := recalls.total run calls.found
    obtain ⟨total, others⟩ := calls.turn.gains
    simp only [gain_call reached stepped, sameTransfer, before]
    cases side : stage.side with
    | debit =>
        have unchanged := others (run.transfer.party .credit)
          (Transfer.party_ne distinct (by simp [side]))
        rw [side] at total
        simp only [Transfer.party] at total unchanged
        omega
    | credit =>
        have unchanged := others (run.transfer.party .debit)
          (Transfer.party_ne distinct (by simp [side]))
        rw [side] at total
        simp only [Transfer.party] at total unchanged
        omega

theorem Recalls.other (recalls : Recalls start number past hall)
    (reached : runThrough step start past = some hall)
    (stepped : hall.step event = some next) (notCalled : event ≠ .call number) :
    Recalls start number (past ++ [event]) next := by
  have occurs : ∀ side, Occurs step start (past ++ [event])
      (Remembers number side) = _ := fun side =>
    propext (occurs_of_not_called reached stepped notCalled)
  have gains := gain_of_not_called reached stepped notCalled
  have regular := recalls.regular.step stepped
  cases was : hall.floor.runs[number]? with
  | some run =>
      obtain ⟨current, present, sameTransfer, trails⟩ :=
        recalls.regular.trails_of_step stepped notCalled was (recalls.trails run was)
      constructor
      · exact regular
      · intro absent
        rw [present] at absent
        cases absent
      · intro other otherPresent
        rw [present] at otherPresent
        cases otherPresent
        simp only [occurs, gains, sameTransfer]
        exact trails
      · intro other otherPresent
        rw [present] at otherPresent
        cases otherPresent
        simp only [gains, sameTransfer]
        exact recalls.total run was
  | none =>
      obtain ⟨unremembered, nothing⟩ := recalls.absent was
      constructor
      · exact regular
      · intro _
        simp only [occurs, gains]
        exact ⟨unremembered, nothing⟩
      · intro run present progress reached side
        have isFirst : run.phase = .calling .prepareDebit := by
          rcases recalls.regular.floor_of_step stepped with
            sameFloor | ⟨floorEvent, floorStepped, -⟩
          · rw [sameFloor, was] at present
            cases present
          · exact Floor.run_of_step_of_none floorStepped was present
        rw [isFirst] at reached
        cases reached
        simp only [occurs, gains]
        exact .untouched (unremembered side) (nothing _)
      · intro run _
        simp only [gains, nothing]
        rfl

theorem recalls_of_runThrough {final : Hall} {events : List Event}
    (opening : start.IsOpening) (ran : runThrough step start events = some final)
    (number : Nat) : Recalls start number events final := by
  refine history_of_runThrough (recalls_of_isOpening opening) ?_ ran
  intro past hall event next reached recalls stepped
  by_cases isCall : event = .call number
  · subst isCall
    exact recalls.call reached stepped
  · exact recalls.other reached stepped isCall

/-- Whatever is swept, and whenever: a settlement that succeeds has applied
exactly the legs of its transfer that had been forgotten or had never been applied
before. -/
theorem appliesForgotten_of_runThrough {final : Hall} {events : List Event}
    {receipt : Receipt} (opening : start.IsOpening)
    (ran : runThrough step start events = some final)
    (present : final.floor.runs[number]? = some run)
    (paid : run.phase = .ended (.ok receipt)) :
    AppliesForgotten start events number run.transfer := by
  have recalls := recalls_of_runThrough opening ran number
  have reached : run.phase.progress? = some fun _ => .finished := by
    rw [paid]
    rfl
  have trails := recalls.trails run present _ reached
  have positive := (recalls.regular.floor.checked number run present).positive
  have remembered : ∀ side, Occurs step start events (Remembers number side) →
      gain number (fun banks => banks.minorOf (run.transfer.party side)) start
        events = 0 := by
    intro side
    cases trails side with
    | finished nothing whole => exact nothing
  have forgotten : ∀ side, ¬ Occurs step start events (Remembers number side) →
      gain number (fun banks => banks.minorOf (run.transfer.party side)) start
        events = run.transfer.change side := by
    intro side
    cases trails side with
    | finished nothing whole => exact whole
  have total := recalls.total run present
  have notZero : run.transfer.amount.minor ≠ 0 := by
    simpa [Amount.isZero] using positive
  refine ⟨remembered, forgotten, total, ?_⟩
  rw [total]
  by_cases debit : Occurs step start events (Remembers number .debit)
  · have unpaid := remembered .debit debit
    by_cases credit : Occurs step start events (Remembers number .credit)
    · have unreceived := remembered .credit credit
      simp only [Transfer.party] at unpaid unreceived
      simp [debit, credit, unpaid, unreceived]
    · have received := forgotten .credit credit
      simp only [Transfer.party, Transfer.change] at unpaid received
      simp [debit, credit, unpaid, received, notZero]
  · have paid := forgotten .debit debit
    by_cases credit : Occurs step start events (Remembers number .credit)
    · have unreceived := remembered .credit credit
      simp only [Transfer.party, Transfer.change] at paid unreceived
      simp [debit, credit, paid, unreceived, notZero]
    · have received := forgotten .credit credit
      simp only [Transfer.party, Transfer.change] at paid received
      simp only [debit, credit, paid, received, iff_self, iff_true]
      omega

/-- A payment is made, the journal forgets it, and of the two banks only that of
the payer does.  Then the same payment is ordered again. -/
def halfForgotten : List Event :=
  [.order Sample.payment, .call 0, .call 0, .call 0, .call 0, .conclude 0,
    .rest 1000, .sweepJournal 1000, .sweepLegs Sample.payer.bank 1000,
    .order Sample.payment, .call 1, .call 1, .call 1, .call 1, .conclude 1]

/-- The payer pays once more, and the payee gets nothing. -/
theorem appliesForgotten_of_halfForgotten :
    ∃ final run,
      runThrough step sample halfForgotten = some final ∧
        final.floor.runs[1]? = some run ∧
        run.transfer = Sample.payment ∧
        run.phase = .ended (.ok Sample.payment.receipt) ∧
        AppliesForgotten sample halfForgotten 1 run.transfer ∧
        gain 1 (fun banks => banks.total) sample halfForgotten = -500 ∧
        (sample.banks.total, final.banks.total) = (10100, 9600) := by
  have ran : runThrough step sample halfForgotten = some _ := rfl
  have lost : gain 1 (fun banks => banks.total) sample halfForgotten = -500 := by
    decide +kernel
  exact ⟨_, _, ran, rfl, rfl, rfl,
    appliesForgotten_of_runThrough isOpening_sample ran rfl rfl, lost, rfl⟩

end Hall

end ClearingHouse
