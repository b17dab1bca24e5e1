import ClearingHouse.Proofs.Floor.Conclusion

/-!
# The courses that a settlement can take

A settlement makes at most six calls: it prepares, commits or releases each of its
two legs.  What it does next depends on what has come of its calls.  Here every
call is given a result beforehand, and `Course` lists what follows from the
results: which calls are made, in which order, and how the settlement concludes.
-/

namespace ClearingHouse

/-- What comes of a call to a bank, as the clearing house sees it. -/
inductive CallResult where
  | done
  | refused (refusal : Refusal)
  | unreachable (detail : String)
  /-- No answer has come in time. -/
  | silent

namespace CallResult

/-- What a settlement hears of a call to the bank of this name. -/
def heard (bank : BankName) : CallResult → Except TransferFailure Unit
  | .done => .ok ()
  | .refused refusal => .error (.ofCallFailure bank (.refused refusal))
  | .unreachable detail => .error (.ofCallFailure bank (.unreachable detail))
  | .silent => .error .timeout

/-- The bank may or may not have done what it was asked. -/
def IsUnknown : CallResult → Prop
  | .unreachable _ | .silent => True
  | .done | .refused _ => False

/-- Another attempt may have a better result. -/
def MayPass (result : CallResult) : Prop :=
  result = .refused .busy ∨ result.IsUnknown

variable {result : CallResult}

@[simp]
theorem not_isUnknown_done : ¬ IsUnknown .done := id

@[simp]
theorem not_isUnknown_refused (refusal : Refusal) :
    ¬ IsUnknown (.refused refusal) := id

theorem IsUnknown.ne_done (unknown : result.IsUnknown) : result ≠ .done := by
  rintro rfl
  exact unknown

theorem IsUnknown.mayPass (unknown : result.IsUnknown) : result.MayPass :=
  Or.inr unknown

@[simp]
theorem not_mayPass_done : ¬ MayPass .done := by
  simp [MayPass]

@[simp]
theorem mayPass_refused (refusal : Refusal) :
    MayPass (.refused refusal) ↔ refusal = .busy := by
  simp [MayPass]

end CallResult

theorem TransferFailure.leavesDoubt_ofRefusal (refusal : Refusal) :
    (ofRefusal refusal).leavesDoubt = false := by
  cases refusal <;> rfl

theorem TransferFailure.isRetryable_ofRefusal (refusal : Refusal) :
    (ofRefusal refusal).isRetryable = true ↔ refusal = .busy := by
  cases refusal <;> simp [ofRefusal, isRetryable]

namespace Settlement

/-- One of the calls that a settlement can make. -/
inductive Step where
  | prepare (side : Side)
  | release (side : Side)
  | commit (side : Side)
  deriving DecidableEq

/-- The bank that is called, and the call: each names the bank and the account of
its own leg and the transfer, and the orders its amount as well. -/
def Step.addressed (transfer : Transfer) : Step → BankName × BankCall
  | .prepare side =>
      ((transfer.party side).bank,
        .prepare ⟨side, (transfer.party side).account, transfer.amount,
          transfer.id⟩)
  | .release side =>
      ((transfer.party side).bank,
        .release ⟨(transfer.party side).account, transfer.id⟩)
  | .commit side =>
      ((transfer.party side).bank,
        .commit ⟨side, (transfer.party side).account, transfer.amount,
          transfer.id⟩)

def Stage.step : Stage → Step
  | .prepareDebit => .prepare .debit
  | .prepareCredit => .prepare .credit
  | .releaseDebit _ _ => .release .debit
  | .releaseCredit _ => .release .credit
  | .commitDebit => .commit .debit
  | .commitCredit => .commit .credit

theorem Stage.addressed_step (stage : Stage) (transfer : Transfer) :
    stage.step.addressed transfer = (stage.bank transfer, stage.call transfer) := by
  cases stage <;> rfl

variable {transfer : Transfer} {results : Step → CallResult}

def heardAt (transfer : Transfer) (results : Step → CallResult) (stage : Stage) :
    Except TransferFailure Unit :=
  (results stage.step).heard (stage.bank transfer)

/-- From a stage on, these are the calls and this is the conclusion. -/
inductive Script (transfer : Transfer) (results : Step → CallResult) :
    Stage → List Step → Conclusion → Prop where
  | last {stage : Stage} {conclusion : Conclusion}
      (concludes : next transfer stage (heardAt transfer results stage) =
        .conclude conclusion) :
      Script transfer results stage [stage.step] conclusion
  | more {stage later : Stage} {steps : List Step} {conclusion : Conclusion}
      (proceeds : next transfer stage (heardAt transfer results stage) =
        .proceed later)
      (rest : Script transfer results later steps conclusion) :
      Script transfer results stage (stage.step :: steps) conclusion

/-- How far a settlement has come whose commit of this leg fails. -/
def progress : Side → String
  | .debit => "debit leg not committed, credit leg still prepared"
  | .credit => "debit leg committed, credit leg not committed"

/-- Everything that can come of the first call on, and what it depends on. -/
inductive Course (transfer : Transfer) (results : Step → CallResult) :
    List Step → Conclusion → Prop where
  | debitRefused (refusal : Refusal)
      (refused : results (.prepare .debit) = .refused refusal) :
      Course transfer results [.prepare .debit] (abandoned (.ofRefusal refusal))
  | debitUnknown (failure : TransferFailure)
      (unknown : (results (.prepare .debit)).IsUnknown)
      (heard : heardAt transfer results .prepareDebit = .error failure) :
      Course transfer results [.prepare .debit, .release .debit]
        (.dropped failure)
  | creditRefused (refusal : Refusal)
      (debit : results (.prepare .debit) = .done)
      (refused : results (.prepare .credit) = .refused refusal) :
      Course transfer results
        [.prepare .debit, .prepare .credit, .release .debit]
        (abandoned (.ofRefusal refusal))
  | creditUnknown (failure : TransferFailure)
      (debit : results (.prepare .debit) = .done)
      (unknown : (results (.prepare .credit)).IsUnknown)
      (heard : heardAt transfer results .prepareCredit = .error failure) :
      Course transfer results
        [.prepare .debit, .prepare .credit, .release .debit, .release .credit]
        (.dropped failure)
  | debitUncommitted (failure : TransferFailure)
      (prepared : ∀ side, results (.prepare side) = .done)
      (heard : heardAt transfer results .commitDebit = .error failure) :
      Course transfer results
        [.prepare .debit, .prepare .credit, .commit .debit]
        (.settled (.error (incomplete (progress .debit) failure)))
  | creditUncommitted (failure : TransferFailure)
      (prepared : ∀ side, results (.prepare side) = .done)
      (committed : results (.commit .debit) = .done)
      (heard : heardAt transfer results .commitCredit = .error failure) :
      Course transfer results
        [.prepare .debit, .prepare .credit, .commit .debit, .commit .credit]
        (.settled (.error (incomplete (progress .credit) failure)))
  | succeeds (prepared : ∀ side, results (.prepare side) = .done)
      (committed : ∀ side, results (.commit side) = .done) :
      Course transfer results
        [.prepare .debit, .prepare .credit, .commit .debit, .commit .credit]
        (.settled (.ok transfer.receipt))

/-! ## From stage to stage -/

variable {stage later : Stage} {steps : List Step}
  {conclusion reached : Conclusion} {cause failure : TransferFailure}

theorem Script.eq_of_conclude (script : Script transfer results stage steps conclusion)
    (concludes : next transfer stage (heardAt transfer results stage) =
      .conclude reached) :
    steps = [stage.step] ∧ conclusion = reached := by
  cases script with
  | last other =>
      rw [concludes] at other
      cases other
      exact ⟨rfl, rfl⟩
  | more proceeds rest =>
      rw [concludes] at proceeds
      cases proceeds

theorem Script.of_proceed (script : Script transfer results stage steps conclusion)
    (proceeds : next transfer stage (heardAt transfer results stage) =
      .proceed later) :
    ∃ rest, steps = stage.step :: rest ∧
      Script transfer results later rest conclusion := by
  cases script with
  | last concludes =>
      rw [proceeds] at concludes
      cases concludes
  | more other rest =>
      rw [proceeds] at other
      cases other
      exact ⟨_, rfl, rest⟩

/-- What is heard is one of three: it has been done, the bank has refused, or it is
not known what the bank has done. -/
theorem heardAt_cases (transfer : Transfer) (results : Step → CallResult)
    (stage : Stage) :
    (results stage.step = .done ∧ heardAt transfer results stage = .ok ()) ∨
    (∃ refusal, results stage.step = .refused refusal ∧
      heardAt transfer results stage = .error (.ofRefusal refusal)) ∨
    (∃ failure, (results stage.step).IsUnknown ∧
      heardAt transfer results stage = .error failure ∧
      failure.leavesDoubt = true ∧ failure.isRetryable = true) := by
  unfold heardAt
  cases results stage.step with
  | done => exact Or.inl ⟨rfl, rfl⟩
  | refused refusal => exact Or.inr (Or.inl ⟨refusal, rfl, rfl⟩)
  | unreachable detail =>
      exact Or.inr (Or.inr ⟨_, trivial, rfl, rfl, rfl⟩)
  | silent => exact Or.inr (Or.inr ⟨_, trivial, rfl, rfl, rfl⟩)

theorem done_or_error (transfer : Transfer) (results : Step → CallResult)
    (stage : Stage) :
    (results stage.step = .done ∧ heardAt transfer results stage = .ok ()) ∨
      ∃ failure, heardAt transfer results stage = .error failure := by
  rcases heardAt_cases transfer results stage with
    done | ⟨refusal, -, heard⟩ | ⟨failure, -, heard, -⟩
  · exact Or.inl done
  · exact Or.inr ⟨_, heard⟩
  · exact Or.inr ⟨_, heard⟩

theorem abandoned_of_isRetryable (retryable : cause.isRetryable = true) :
    abandoned cause = .dropped cause :=
  if_pos retryable

/-- Whatever comes of its releases, a settlement that gives up concludes with its
first failure. -/
theorem Script.releases {creditNext : Bool}
    (script : Script transfer results (.releaseDebit cause creditNext) steps
      conclusion) :
    steps = .release .debit ::
        (if creditNext = true then [.release .credit] else []) ∧
      conclusion = abandoned cause := by
  cases creditNext with
  | false =>
      have concludes : ∀ answer, next transfer (.releaseDebit cause false) answer =
          .conclude (abandoned cause) := fun answer => by cases answer <;> rfl
      exact script.eq_of_conclude (concludes _)
  | true =>
      have proceeds : ∀ answer, next transfer (.releaseDebit cause true) answer =
          .proceed (.releaseCredit cause) := fun answer => by cases answer <;> rfl
      have concludes : ∀ answer, next transfer (.releaseCredit cause) answer =
          .conclude (abandoned cause) := fun answer => by cases answer <;> rfl
      obtain ⟨rest, rfl, tail⟩ := script.of_proceed (proceeds _)
      obtain ⟨rfl, same⟩ := tail.eq_of_conclude (concludes _)
      exact ⟨rfl, same⟩

theorem course_of_commits
    (script : Script transfer results .commitDebit steps conclusion)
    (prepared : ∀ side, results (.prepare side) = .done) :
    Course transfer results (.prepare .debit :: .prepare .credit :: steps)
      conclusion := by
  rcases done_or_error transfer results .commitDebit with
    ⟨debitDone, heard⟩ | ⟨failure, heard⟩
  · obtain ⟨rest, rfl, tail⟩ := script.of_proceed (by rw [heard]; rfl)
    rcases done_or_error transfer results .commitCredit with
      ⟨creditDone, creditHeard⟩ | ⟨failure, creditHeard⟩
    · obtain ⟨rfl, rfl⟩ := tail.eq_of_conclude (by rw [creditHeard]; rfl)
      refine .succeeds prepared fun side => ?_
      cases side with
      | debit => exact debitDone
      | credit => exact creditDone
    · obtain ⟨rfl, rfl⟩ := tail.eq_of_conclude (by rw [creditHeard]; rfl)
      exact .creditUncommitted failure prepared debitDone creditHeard
  · obtain ⟨rfl, rfl⟩ := script.eq_of_conclude (by rw [heard]; rfl)
    exact .debitUncommitted failure prepared heard

/-- The script of a settlement is one of the courses. -/
theorem course_of_script
    (script : Script transfer results .prepareDebit steps conclusion) :
    Course transfer results steps conclusion := by
  rcases heardAt_cases transfer results .prepareDebit with
    ⟨debit, heard⟩ | ⟨refusal, refused, heard⟩ |
      ⟨failure, unknown, heard, doubt, retryable⟩
  · obtain ⟨rest, rfl, tail⟩ := script.of_proceed (by rw [heard]; rfl)
    rcases heardAt_cases transfer results .prepareCredit with
      ⟨credit, creditHeard⟩ | ⟨refusal, refused, creditHeard⟩ |
        ⟨failure, unknown, creditHeard, doubt, retryable⟩
    · obtain ⟨commits, rfl, last⟩ := tail.of_proceed (by rw [creditHeard]; rfl)
      apply course_of_commits last
      intro side
      cases side with
      | debit => exact debit
      | credit => exact credit
    · obtain ⟨releases, rfl, last⟩ := tail.of_proceed (by rw [creditHeard]; rfl)
      obtain ⟨rfl, rfl⟩ := last.releases
      rw [TransferFailure.leavesDoubt_ofRefusal]
      exact .creditRefused refusal debit refused
    · obtain ⟨releases, rfl, last⟩ := tail.of_proceed (by rw [creditHeard]; rfl)
      obtain ⟨rfl, rfl⟩ := last.releases
      rw [doubt, abandoned_of_isRetryable retryable]
      exact .creditUnknown failure debit unknown creditHeard
  · have concludes : next transfer .prepareDebit
        (heardAt transfer results .prepareDebit) =
          .conclude (abandoned (.ofRefusal refusal)) := by
      simp [heard, next, TransferFailure.leavesDoubt_ofRefusal]
    obtain ⟨rfl, rfl⟩ := script.eq_of_conclude concludes
    exact .debitRefused refusal refused
  · have proceeds : next transfer .prepareDebit
        (heardAt transfer results .prepareDebit) =
          .proceed (.releaseDebit failure false) := by
      simp [heard, next, doubt]
    obtain ⟨releases, rfl, last⟩ := script.of_proceed proceeds
    obtain ⟨rfl, rfl⟩ := last.releases
    rw [abandoned_of_isRetryable retryable]
    exact .debitUnknown failure unknown heard

/-! ## Every settlement comes to its end -/

/-- How many calls may follow after the call of a stage. -/
def Stage.left : Stage → Nat
  | .prepareDebit => 4
  | .prepareCredit => 3
  | .releaseDebit _ _ => 1
  | .releaseCredit _ => 0
  | .commitDebit => 1
  | .commitCredit => 0

theorem Stage.left_lt_of_next {answer : Except TransferFailure Unit}
    (proceeds : next transfer stage answer = .proceed later) :
    later.left < stage.left := by
  cases stage with
  | prepareDebit =>
      cases answer with
      | ok done =>
          cases proceeds
          simp [left]
      | error cause =>
          simp only [next] at proceeds
          split at proceeds
          · cases proceeds
            simp [left]
          · cases proceeds
  | prepareCredit =>
      cases answer <;>
        · cases proceeds
          simp [left]
  | releaseDebit cause creditNext =>
      cases creditNext with
      | true =>
          cases answer <;>
            · cases proceeds
              simp [left]
      | false => cases answer <;> cases proceeds
  | releaseCredit cause => cases answer <;> cases proceeds
  | commitDebit =>
      cases answer with
      | ok done =>
          cases proceeds
          simp [left]
      | error failure => cases proceeds
  | commitCredit => cases answer <;> cases proceeds

theorem exists_script (transfer : Transfer) (results : Step → CallResult)
    (stage : Stage) :
    ∃ steps conclusion, Script transfer results stage steps conclusion := by
  induction calls : stage.left using Nat.strongRecOn generalizing stage with
  | ind calls ih =>
      cases proceeds : next transfer stage (heardAt transfer results stage) with
      | conclude conclusion => exact ⟨_, conclusion, .last proceeds⟩
      | proceed later =>
          have fewer := Stage.left_lt_of_next proceeds
          obtain ⟨steps, conclusion, rest⟩ := ih _ (calls ▸ fewer) later rfl
          exact ⟨_, conclusion, .more proceeds rest⟩

/-! ## What every course keeps to -/

/-- The order of the calls, and what each of them is made for. -/
structure Orderly (results : Step → CallResult) (steps : List Step) : Prop where
  /-- The calls come in this order, none of them twice. -/
  ordered : steps.Sublist
    [.prepare .debit, .prepare .credit, .release .debit, .release .credit,
      .commit .debit, .commit .credit]
  prepareDebit : .prepare .debit ∈ steps
  prepareCredit : .prepare .credit ∈ steps ↔ results (.prepare .debit) = .done
  releaseDebit : .release .debit ∈ steps ↔
    (results (.prepare .debit)).IsUnknown ∨
      results (.prepare .debit) = .done ∧ results (.prepare .credit) ≠ .done
  releaseCredit : .release .credit ∈ steps ↔
    results (.prepare .debit) = .done ∧ (results (.prepare .credit)).IsUnknown
  commitDebit : .commit .debit ∈ steps ↔
    ∀ side, results (.prepare side) = .done
  commitCredit : .commit .credit ∈ steps ↔
    (∀ side, results (.prepare side) = .done) ∧
      results (.commit .debit) = .done
  /-- Nothing is released in a settlement that commits. -/
  exclusive : ∀ first second, ¬ (.release first ∈ steps ∧ .commit second ∈ steps)

theorem forall_side {holds : Side → Prop} :
    (∀ side, holds side) ↔ holds .debit ∧ holds .credit := by
  constructor
  · exact fun all => ⟨all .debit, all .credit⟩
  · rintro ⟨debit, credit⟩ side
    cases side with
    | debit => exact debit
    | credit => exact credit

theorem ne_done_of_heardAt
    (heard : heardAt transfer results stage = .error failure) :
    results stage.step ≠ .done := by
  intro done
  simp [heardAt, done, CallResult.heard] at heard

theorem Course.orderly (course : Course transfer results steps conclusion) :
    Orderly results steps := by
  cases course with
  | debitRefused refusal refused =>
      constructor <;> simp [refused, forall_side]
  | debitUnknown failure unknown heard =>
      have notDone := unknown.ne_done
      constructor <;> simp [unknown, notDone, forall_side]
  | creditRefused refusal debit refused =>
      constructor <;> simp [debit, refused, forall_side]
  | creditUnknown failure debit unknown heard =>
      have notDone := unknown.ne_done
      constructor <;> simp [debit, unknown, notDone, forall_side]
  | debitUncommitted failure prepared heard =>
      have notDone : results (.commit .debit) ≠ .done := ne_done_of_heardAt heard
      constructor <;> simp [prepared, notDone]
  | creditUncommitted failure prepared committed heard =>
      constructor <;> simp [prepared, committed]
  | succeeds prepared committed =>
      constructor <;> simp [prepared, committed]

def failed (transfer : Transfer) (now : Nat) (failure : TransferFailure) :
    JournalEntry :=
  ⟨transfer, .failed, some (.error failure), some now⟩

/-- The failure of a settlement whose commit of this leg has failed for another
reason than its time. -/
def unfinished (side : Side) (failure : TransferFailure) : TransferFailure :=
  .commitIncomplete s!"{progress side} ({failure.message})"

/-- The entry that a settlement leaves in the journal, and what its caller is
told. -/
structure Recorded (transfer : Transfer) (results : Step → CallResult)
    (steps : List Step) (now : Nat) (entry : Option JournalEntry)
    (outcome : Outcome) : Prop where
  succeeded : entry.map JournalEntry.status = some .succeeded ↔
    ∀ side, results (.prepare side) = .done ∧ results (.commit side) = .done
  receipt : entry.map JournalEntry.status = some .succeeded →
    entry = some ⟨transfer, .succeeded, some (.ok transfer.receipt), some now⟩
  dropped : entry = none ↔
    ∃ side, .prepare side ∈ steps ∧ (results (.prepare side)).MayPass
  /-- Every other settlement fails. -/
  status : entry = none ∨ entry.map JournalEntry.status = some .succeeded ∨
    ∃ failure, entry = some (failed transfer now failure)
  refused : ∀ side refusal, .prepare side ∈ steps →
    results (.prepare side) = .refused refusal → refusal ≠ .busy →
      entry = some (failed transfer now (.ofRefusal refusal))
  overdue : ∀ side, .commit side ∈ steps → results (.commit side) = .silent →
    entry = some (failed transfer now .timeout)
  uncommitted : ∀ side failure, .commit side ∈ steps →
    (results (.commit side)).heard (transfer.party side).bank =
      .error failure → failure ≠ .timeout →
        entry = some (failed transfer now (unfinished side failure))
  /-- The caller is told what the entry says. -/
  told : ∀ kept, entry = some kept → kept.outcome = some outcome
  /-- The caller of a transfer that is dropped is told what has been heard. -/
  retold : ∀ side failure, .prepare side ∈ steps →
    (results (.prepare side)).MayPass →
      (results (.prepare side)).heard (transfer.party side).bank =
        .error failure → outcome = .error failure

variable {side : Side} {refusal : Refusal}

theorem incomplete_of_ne_timeout (notLate : failure ≠ .timeout) (side : Side) :
    incomplete (progress side) failure = unfinished side failure := by
  cases failure with
  | timeout => exact absurd rfl notLate
  | _ => rfl

/-- The transfer is dropped if a leg could not be prepared this time. -/
theorem recorded_of_mayPass
    (mayPass : (results (.prepare side)).MayPass)
    (heard : (results (.prepare side)).heard (transfer.party side).bank =
      .error failure)
    (asked : .prepare side ∈ steps)
    (others : ∀ other, .prepare other ∈ steps →
      results (.prepare other) = .done ∨ other = side)
    (idle : ∀ other, .commit other ∉ steps) (now : Nat) :
    Recorded transfer results steps now none (.error failure) := by
  have notAll : ¬ ∀ side,
      results (.prepare side) = .done ∧ results (.commit side) = .done := by
    intro done
    simp [(done side).1] at mayPass
  have only : ∀ other, .prepare other ∈ steps →
      results (.prepare other) ≠ .done → other = side := fun other isAsked =>
    (others other isAsked).resolve_left
  refine
    { succeeded := by simp [notAll]
      receipt := by simp
      dropped := iff_of_true rfl ⟨side, asked, mayPass⟩
      status := Or.inl rfl
      refused := ?refused
      overdue := fun other isAsked => absurd isAsked (idle other)
      uncommitted := fun other _ isAsked => absurd isAsked (idle other)
      told := by simp
      retold := ?retold }
  case refused =>
    intro other refusal isAsked isRefused notBusy
    obtain rfl := only other isAsked (by simp [isRefused])
    rw [isRefused, CallResult.mayPass_refused] at mayPass
    exact absurd mayPass notBusy
  case retold =>
    intro other otherFailure isAsked otherPasses otherHeard
    obtain rfl := only other isAsked fun done => by simp [done] at otherPasses
    rw [heard] at otherHeard
    cases otherHeard
    rfl

/-- A refusal to prepare that will not pass is final. -/
theorem recorded_of_final
    (refused : results (.prepare side) = .refused refusal)
    (notBusy : refusal ≠ .busy)
    (others : ∀ other, .prepare other ∈ steps →
      results (.prepare other) = .done ∨ other = side)
    (idle : ∀ other, .commit other ∉ steps) (now : Nat) :
    Recorded transfer results steps now
      (some (failed transfer now (.ofRefusal refusal)))
      (.error (.ofRefusal refusal)) := by
  have notAll : ¬ ∀ side,
      results (.prepare side) = .done ∧ results (.commit side) = .done := by
    intro done
    simpa [refused] using (done side).1
  have only : ∀ other, .prepare other ∈ steps →
      results (.prepare other) ≠ .done → other = side := fun other isAsked =>
    (others other isAsked).resolve_left
  have notPassing : ∀ other, .prepare other ∈ steps →
      ¬ (results (.prepare other)).MayPass := by
    intro other isAsked mayPass
    obtain rfl := only other isAsked fun done => by simp [done] at mayPass
    simp [refused, notBusy] at mayPass
  refine
    { succeeded := iff_of_false (by rintro ⟨⟩) notAll
      receipt := by rintro ⟨⟩
      dropped := iff_of_false (by rintro ⟨⟩) ?dropped
      status := Or.inr (Or.inr ⟨_, rfl⟩)
      refused := ?refused
      overdue := fun other isAsked => absurd isAsked (idle other)
      uncommitted := fun other _ isAsked => absurd isAsked (idle other)
      told := by
        rintro kept ⟨⟩
        rfl
      retold := fun other _ isAsked mayPass =>
        absurd mayPass (notPassing other isAsked) }
  case dropped =>
    rintro ⟨other, isAsked, mayPass⟩
    exact notPassing other isAsked mayPass
  case refused =>
    intro other otherRefusal isAsked isRefused _
    obtain rfl := only other isAsked (by simp [isRefused])
    rw [refused] at isRefused
    cases isRefused
    rfl

theorem recorded_of_refused
    (refused : results (.prepare side) = .refused refusal)
    (asked : .prepare side ∈ steps)
    (others : ∀ other, .prepare other ∈ steps →
      results (.prepare other) = .done ∨ other = side)
    (idle : ∀ other, .commit other ∉ steps) (now : Nat) :
    Recorded transfer results steps now
      (Journal.concluded transfer now (abandoned (.ofRefusal refusal)))
      (abandoned (.ofRefusal refusal)).outcome := by
  by_cases passing : refusal = .busy
  · subst passing
    have mayPass : (results (.prepare side)).MayPass := by
      simp [refused]
    have heard : (results (.prepare side)).heard (transfer.party side).bank =
        .error (.ofRefusal .busy) := by
      rw [refused]
      rfl
    exact recorded_of_mayPass mayPass heard asked others idle now
  · have settled : abandoned (.ofRefusal refusal) =
        .settled (.error (.ofRefusal refusal)) := by
      simp [abandoned, TransferFailure.isRetryable_ofRefusal, passing]
    rw [settled]
    exact recorded_of_final refused passing others idle now

theorem recorded_of_uncommitted
    (prepared : ∀ other, results (.prepare other) = .done)
    (heard : (results (.commit side)).heard (transfer.party side).bank =
      .error failure)
    (others : ∀ other, .commit other ∈ steps →
      results (.commit other) = .done ∨ other = side) (now : Nat) :
    Recorded transfer results steps now
      (some (failed transfer now (incomplete (progress side) failure)))
      (.error (incomplete (progress side) failure)) := by
  have notDone : results (.commit side) ≠ .done := by
    intro done
    simp [done, CallResult.heard] at heard
  have only : ∀ other, .commit other ∈ steps →
      results (.commit other) ≠ .done → other = side := fun other isAsked =>
    (others other isAsked).resolve_left
  refine
    { succeeded := iff_of_false (by rintro ⟨⟩) fun done => notDone (done side).2
      receipt := by rintro ⟨⟩
      dropped := by simp [prepared]
      status := Or.inr (Or.inr ⟨_, rfl⟩)
      refused := by simp [prepared]
      overdue := ?overdue
      uncommitted := ?uncommitted
      told := by
        rintro kept ⟨⟩
        rfl
      retold := by simp [prepared] }
  case overdue =>
    intro other isAsked silent
    obtain rfl := only other isAsked (by simp [silent])
    rw [silent] at heard
    cases heard
    rfl
  case uncommitted =>
    intro other otherFailure isAsked otherHeard notLate
    have otherNotDone : results (.commit other) ≠ .done := by
      intro done
      simp [done, CallResult.heard] at otherHeard
    obtain rfl := only other isAsked otherNotDone
    rw [heard] at otherHeard
    cases otherHeard
    rw [incomplete_of_ne_timeout notLate]

theorem recorded_of_success (prepared : ∀ other, results (.prepare other) = .done)
    (committed : ∀ other, results (.commit other) = .done) (now : Nat) :
    Recorded transfer results steps now
      (some ⟨transfer, .succeeded, some (.ok transfer.receipt), some now⟩)
      (.ok transfer.receipt) where
  succeeded := by simp [prepared, committed]
  receipt := fun _ => rfl
  dropped := by simp [prepared]
  status := Or.inr (Or.inl rfl)
  refused := by simp [prepared]
  overdue := by simp [committed]
  uncommitted := by
    intro other failure isAsked heard
    simp [committed, CallResult.heard] at heard
  told := by
    rintro kept ⟨⟩
    rfl
  retold := by simp [prepared]

/-- Every course is noted in the journal as it has gone. -/
theorem Course.recorded (course : Course transfer results steps conclusion)
    (now : Nat) :
    Recorded transfer results steps now
      (Journal.concluded transfer now conclusion) conclusion.outcome := by
  cases course with
  | debitRefused refusal refused =>
      exact recorded_of_refused refused (by simp) (by simp) (by simp) now
  | debitUnknown failure unknown heard =>
      exact recorded_of_mayPass unknown.mayPass heard (by simp) (by simp) (by simp)
        now
  | creditRefused refusal debit refused =>
      exact recorded_of_refused refused (by simp) (by simp [debit]) (by simp) now
  | creditUnknown failure debit unknown heard =>
      exact recorded_of_mayPass unknown.mayPass heard (by simp) (by simp [debit])
        (by simp) now
  | debitUncommitted failure prepared heard =>
      exact recorded_of_uncommitted prepared heard (by simp [Stage.side]) now
  | creditUncommitted failure prepared committed heard =>
      exact recorded_of_uncommitted prepared heard
        (by simp [committed, Stage.side]) now
  | succeeds prepared committed =>
      exact recorded_of_success prepared committed now

end Settlement

end ClearingHouse
