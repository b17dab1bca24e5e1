import ClearingHouse.Proofs.Mail.Change

/-!
# What a settlement owes for what it has prepared

A settlement that has asked to prepare a leg, and has not been refused, asks to
commit or to release it later.  Until it has done so it is under way, in a stage
that leads there.
-/

namespace ClearingHouse

namespace Settlement.Stage

/-- A stage in which the settlement has still to do something about a leg.  Its
prepare is the letter with the given number, and the settlement may wait for the
answer to a letter. -/
inductive Owes (index : Nat) : Option Nat → Stage → Side → Prop where
  | debitAsked : Owes index (some index) .prepareDebit .debit
  | creditAsked : Owes index (some index) .prepareCredit .credit
  | prepared {awaited : Option Nat} {stage : Stage} {side : Side}
      (prepared : stage.HasPrepared side) : Owes index awaited stage side
  | debitDue (cause : TransferFailure) (creditNext : Bool) :
      Owes index none (.releaseDebit cause creditNext) .debit
  | creditNext {awaited : Option Nat} (cause : TransferFailure) :
      Owes index awaited (.releaseDebit cause true) .credit
  | creditDue (cause : TransferFailure) :
      Owes index none (.releaseCredit cause) .credit

variable {index place : Nat} {stage : Stage} {side : Side} {transfer : Transfer}

/-- When a settlement sends the letter of its stage, it may pay what it owes. -/
theorem Owes.sending (owes : Owes index none stage side) (transfer : Transfer)
    (place : Nat) :
    Owes index (some place) stage side ∨
      (stage.side = side ∧
        stage.call transfer = .release (transfer.releaseOrder side)) ∨
      ∃ other, (stage.call transfer).Commits transfer.id other := by
  cases owes with
  | debitDue cause creditNext => exact Or.inr (Or.inl ⟨rfl, rfl⟩)
  | creditDue cause => exact Or.inr (Or.inl ⟨rfl, rfl⟩)
  | creditNext cause => exact Or.inl (.creditNext cause)
  | prepared prepared =>
      cases stage with
      | prepareCredit => exact Or.inl (.prepared prepared)
      | commitDebit => exact Or.inr (Or.inr ⟨.debit, rfl, rfl⟩)
      | commitCredit => exact Or.inr (Or.inr ⟨.credit, rfl, rfl⟩)
      | prepareDebit => cases prepared
      | releaseDebit cause creditNext => cases prepared
      | releaseCredit cause => cases prepared

/-- A settlement that has not come to its commits still owes the same after an
answer, unless the answer refuses the very prepare. -/
theorem Owes.proceeds {answer : Except TransferFailure Unit}
    (owes : Owes index (some place) stage side)
    (uncommitted : ∀ other, ¬ (stage.call transfer).Commits transfer.id other)
    (doubt : ∀ cause, answer = .error cause → place = index →
      cause.leavesDoubt = true) :
    ∃ later, next transfer stage answer = .proceed later ∧
      Owes index none later side := by
  cases owes with
  | debitAsked =>
      cases answer with
      | ok done => exact ⟨.prepareCredit, rfl, .prepared trivial⟩
      | error cause =>
          refine ⟨.releaseDebit cause false, ?_, .debitDue cause false⟩
          exact if_pos (doubt cause rfl rfl)
  | creditAsked =>
      cases answer with
      | ok done => exact ⟨.commitDebit, rfl, .prepared trivial⟩
      | error cause =>
          refine ⟨.releaseDebit cause true, ?_, .creditNext cause⟩
          rw [← doubt cause rfl rfl]
          rfl
  | creditNext cause =>
      cases answer <;> exact ⟨.releaseCredit cause, rfl, .creditDue cause⟩
  | prepared prepared =>
      cases stage with
      | prepareCredit =>
          cases side with
          | credit => cases prepared
          | debit =>
              cases answer with
              | ok done => exact ⟨.commitDebit, rfl, .prepared trivial⟩
              | error cause => exact ⟨_, rfl, .debitDue cause cause.leavesDoubt⟩
      | commitDebit => exact absurd ⟨rfl, rfl⟩ (uncommitted .debit)
      | commitCredit => exact absurd ⟨rfl, rfl⟩ (uncommitted .credit)
      | prepareDebit => cases prepared
      | releaseDebit cause creditNext => cases prepared
      | releaseCredit cause => cases prepared

end Settlement.Stage

def Letter.Prepares (letter : Letter) (party : Party) (transfer : TransferId) :
    Prop :=
  ∃ order, letter.call = .prepare order ∧ order.transfer = transfer ∧
    party = ⟨letter.bank, order.account⟩

def Letter.Releases (letter : Letter) (party : Party) (transfer : TransferId) :
    Prop :=
  ∃ order, letter.call = .release order ∧ order.transfer = transfer ∧
    party = ⟨letter.bank, order.account⟩

theorem Letter.Prepares.of_same {letter current : Letter} {party : Party}
    {transfer : TransferId} (prepares : letter.Prepares party transfer)
    (sameBank : current.bank = letter.bank) (sameCall : current.call = letter.call) :
    current.Prepares party transfer := by
  rw [Prepares, sameBank, sameCall]
  exact prepares

theorem Letter.Releases.of_same {letter current : Letter} {party : Party}
    {transfer : TransferId} (releases : letter.Releases party transfer)
    (sameBank : current.bank = letter.bank) (sameCall : current.call = letter.call) :
    current.Releases party transfer := by
  rw [Releases, sameBank, sameCall]
  exact releases

namespace Mail

open Settlement (Stage)

variable {mail next : Mail} {number index : Nat} {event : Event}
  {party : Party} {transfer : TransferId}

/-- Why an account does not stay held for the prepare with this number: it has been
refused, a release has been sent after it, a commit has been asked for, or its
settlement is still under way and will come to that. -/
inductive Covered (mail : Mail) (party : Party) (transfer : TransferId)
    (index : Nat) : Prop where
  | refused (letter : Letter) (refusal : Refusal)
      (found : mail.letters[index]? = some letter)
      (refused : letter.state = .answered (.error refusal))
  | released (later : Nat) (release : Letter) (after : index < later)
      (found : mail.letters[later]? = some release)
      (releases : release.Releases party transfer)
  | asked (side : Side) (asked : mail.Asked transfer side)
  | owed (number : Nat) (run : SettlementRun) (stage : Stage) (side : Side)
      (found : mail.floor.runs[number]? = some run)
      (calling : run.phase = .calling stage) (about : run.transfer.id = transfer)
      (here : run.transfer.party side = party)
      (owes : stage.Owes index (mail.awaits number) side)

/-! ## What stays of letters -/

/-- After a step every letter is still there, and one that has been answered is as
it was. -/
theorem letter_after_step {letter : Letter}
    (stepped : mail.step event = some next)
    (found : mail.letters[index]? = some letter) :
    ∃ current, next.letters[index]? = some current ∧
      current.bank = letter.bank ∧ current.call = letter.call ∧
      ∀ result, letter.state = .answered result → current = letter := by
  by_cases delivered : ∃ place, event = .deliver place
  · obtain ⟨place, rfl⟩ := delivered
    obtain ⟨other, bank, turn, otherFound, -, state, rfl⟩ := deliver_eq_some stepped
    rw [getElem?_afterTurn otherFound]
    by_cases same : place = index
    · subst same
      rw [found] at otherFound
      cases otherFound
      refine ⟨_, if_pos rfl, rfl, rfl, ?_⟩
      intro result answered
      rcases state with ⟨underway, -⟩ | ⟨attempt, pausing, -⟩
      · rw [underway] at answered
        cases answered
      · rw [pausing] at answered
        cases answered
    · exact ⟨letter, (if_neg same).trans found, rfl, rfl, fun _ _ => rfl⟩
  · have kept := letter_undelivered stepped (fun place same => delivered ⟨place, same⟩)
      found
    exact ⟨letter, kept, rfl, rfl, fun _ _ => rfl⟩

theorem Asked.step {side : Side} (isAsked : mail.Asked transfer side)
    (stepped : mail.step event = some next) : next.Asked transfer side := by
  obtain ⟨place, letter, found, commits⟩ := isAsked
  obtain ⟨current, present, -, sameCall, -⟩ := letter_after_step stepped found
  exact ⟨place, current, present, sameCall ▸ commits⟩

/-! ## A settlement pays what it owes -/

section Owed

variable {run : SettlementRun} {stage : Stage} {side : Side}

theorem releases_releaseOrder (ordered : Transfer) (side : Side)
    (state : LetterState) :
    Letter.Releases ⟨(ordered.party side).bank,
      .release (ordered.releaseOrder side), state⟩ (ordered.party side) ordered.id :=
  ⟨_, rfl, rfl, rfl⟩

theorem covered_after_send (found : mail.floor.runs[number]? = some run)
    (calling : run.phase = .calling stage) (inside : index < mail.letters.length)
    (owes : stage.Owes index none side) :
    (mail.sent number run.transfer stage).Covered (run.transfer.party side)
      run.transfer.id index := by
  have present : (mail.sent number run.transfer stage).letters[mail.letters.length]? =
      some ⟨stage.bank run.transfer, stage.call run.transfer, .underway⟩ :=
    List.getElem?_concat_length
  rcases owes.sending run.transfer mail.letters.length with
    stillOwes | ⟨sameSide, isRelease⟩ | ⟨other, commits⟩
  · refine .owed number run stage side found calling rfl rfl ?_
    rw [show (mail.sent number run.transfer stage).awaits number =
      some mail.letters.length from awaitsWith_self _]
    exact stillOwes
  · refine .released mail.letters.length _ inside present ?_
    rw [isRelease, Stage.bank, sameSide]
    exact releases_releaseOrder run.transfer side .underway
  · exact .asked other ⟨_, _, present, commits⟩

/-- A settlement that waits for the answer to a commit has asked for it. -/
theorem Sound.asked_of_awaits {place : Nat} (sound : mail.Sound)
    (found : mail.floor.runs[number]? = some run)
    (calling : run.phase = .calling stage)
    (awaited : mail.awaits number = some place)
    (commits : (stage.call run.transfer).Commits run.transfer.id side) :
    mail.Asked run.transfer.id side := by
  obtain ⟨current, currentStage, letter, -, -, present, -⟩ :=
    sound.awaiting number place awaited
  have isCall := sound.call_of_calling found calling awaited present
  exact ⟨place, letter, present, isCall.symm ▸ commits⟩

/-- A settlement that is left alone owes what it did. -/
theorem covered_of_untouched {current : SettlementRun}
    (present : next.floor.runs[number]? = some current)
    (sameTransfer : current.transfer = run.transfer)
    (calling : current.phase = .calling stage)
    (sameAwaits : next.awaits number = mail.awaits number)
    (owes : stage.Owes index (mail.awaits number) side) :
    next.Covered (run.transfer.party side) run.transfer.id index := by
  rw [← sameTransfer]
  rw [← sameAwaits] at owes
  exact .owed number current stage side present calling rfl rfl owes

theorem covered_of_proceed {place : Nat} {answer : Except TransferFailure Unit}
    (sound : mail.Sound) (found : mail.floor.runs[number]? = some run)
    (calling : run.phase = .calling stage)
    (owes : stage.Owes index (mail.awaits number) side)
    (awaited : mail.awaits number = some place)
    (doubt : ∀ cause, answer = .error cause → place = index →
      cause.leavesDoubt = true)
    (proceeded : mail.proceed number answer = some next) :
    next.Covered (run.transfer.party side) run.transfer.id index := by
  obtain ⟨floor, answered, rfl⟩ := proceed_eq_some proceeded
  rw [Floor.answer_of_calling found calling] at answered
  cases answered
  by_cases commits : ∃ other, (stage.call run.transfer).Commits run.transfer.id other
  · obtain ⟨other, isCommit⟩ := commits
    exact .asked other (sound.asked_of_awaits found calling awaited isCommit)
  · rw [awaited] at owes
    obtain ⟨later, goes, stillOwes⟩ :=
      owes.proceeds (not_exists.mp commits) doubt
    refine .owed number _ later side
      ((Floor.getElem?_withRun found _ number).trans (if_pos rfl)) ?_ rfl rfl ?_
    · rw [goes]
      rfl
    · show later.Owes index (mail.awaitsWith number none number) side
      rw [awaitsWith_self]
      exact stillOwes

/-- Answers to other settlements change nothing of what this one owes. -/
theorem covered_of_answer {other place : Nat} {answer : Except TransferFailure Unit}
    (sound : mail.Sound) (found : mail.floor.runs[number]? = some run)
    (calling : run.phase = .calling stage)
    (owes : stage.Owes index (mail.awaits number) side)
    (awaited : mail.awaits other = some place)
    (doubt : ∀ cause, answer = .error cause → place = index →
      cause.leavesDoubt = true)
    (proceeded : mail.proceed other answer = some next) :
    next.Covered (run.transfer.party side) run.transfer.id index := by
  by_cases same : number = other
  · subst same
    exact covered_of_proceed sound found calling owes awaited doubt proceeded
  · obtain ⟨floor, answered, rfl⟩ := proceed_eq_some proceeded
    obtain ⟨otherRun, otherStage, otherFound, -, rfl⟩ :=
      Floor.answer_eq_some answered
    have different : other ≠ number := fun equal => same equal.symm
    exact covered_of_untouched ((Floor.run_withRun otherFound different).trans found)
      rfl calling (awaitsWith_of_ne same none) owes

theorem covered_of_owed (sound : mail.Sound)
    (stepped : mail.step event = some next) (inside : index < mail.letters.length)
    (found : mail.floor.runs[number]? = some run)
    (calling : run.phase = .calling stage)
    (owes : stage.Owes index (mail.awaits number) side) :
    next.Covered (run.transfer.party side) run.transfer.id index := by
  cases event with
  | order ordered =>
      cases stepped
      have present : (mail.floor.order ordered).1.runs[number]? = some run := by
        rcases mail.floor.order_cases ordered with
          ⟨outcome, answered⟩ | ⟨-, -, accepted⟩
        · rw [answered]
          exact found
        · rw [accepted]
          exact Floor.run_started found ordered
      exact covered_of_untouched present rfl calling rfl owes
  | send other =>
      obtain ⟨otherRun, otherStage, otherFound, otherCalling, idle, rfl⟩ :=
        send_eq_some stepped
      by_cases same : number = other
      · subst same
        rw [found] at otherFound
        cases otherFound
        rw [calling] at otherCalling
        cases otherCalling
        rw [idle] at owes
        exact covered_after_send found calling inside owes
      · exact covered_of_untouched found rfl calling (awaitsWith_of_ne same _) owes
  | deliver place =>
      obtain ⟨letter, bank, turn, -, -, -, rfl⟩ := deliver_eq_some stepped
      exact covered_of_untouched found rfl calling rfl owes
  | hear other =>
      obtain ⟨place, letter, result, awaited, sent, answered, proceeded⟩ :=
        hear_eq_some stepped
      cases result with
      | ok reply =>
          exact covered_of_answer sound found calling owes awaited (by rintro _ ⟨⟩)
            proceeded
      | error refusal =>
          by_cases same : place = index
          · subst same
            obtain ⟨floor, -, rfl⟩ := proceed_eq_some proceeded
            exact .refused letter refusal sent answered
          · exact covered_of_answer sound found calling owes awaited
              (fun _ _ equal => absurd equal same) proceeded
  | fail other failure =>
      obtain ⟨place, awaited, doubt, proceeded⟩ := fail_eq_some stepped
      refine covered_of_answer sound found calling owes awaited ?_ proceeded
      rintro cause ⟨⟩ -
      exact doubt
  | conclude other =>
      obtain ⟨floor, concluded, rfl⟩ := Option.map_eq_some_iff.mp stepped
      obtain ⟨otherRun, conclusion, otherFound, concluding, rfl⟩ :=
        Floor.conclude_eq_some concluded
      have different : other ≠ number := by
        rintro rfl
        rw [found] at otherFound
        cases otherFound
        rw [calling] at concluding
        cases concluding
      exact covered_of_untouched ((Floor.run_withRun otherFound different).trans found)
        rfl calling rfl owes
  | leave other =>
      obtain ⟨floor, left, rfl⟩ := Option.map_eq_some_iff.mp stepped
      obtain ⟨current, present, sameTransfer, samePhase⟩ := Floor.run_leave left found
      exact covered_of_untouched present sameTransfer (samePhase.trans calling) rfl
        owes
  | rest milliseconds =>
      cases stepped
      exact covered_of_untouched found rfl calling rfl owes

end Owed

/-! ## Every prepare is covered -/

theorem Covered.step (covered : mail.Covered party transfer index)
    (sound : mail.Sound) (inside : index < mail.letters.length)
    (stepped : mail.step event = some next) :
    next.Covered party transfer index := by
  cases covered with
  | refused letter refusal found refused =>
      obtain ⟨current, present, -, -, kept⟩ := letter_after_step stepped found
      rw [kept _ refused] at present
      exact .refused letter refusal present refused
  | released later release after found releases =>
      obtain ⟨current, present, sameBank, sameCall, -⟩ :=
        letter_after_step stepped found
      exact .released later current after present (releases.of_same sameBank sameCall)
  | asked side isAsked => exact .asked side (isAsked.step stepped)
  | owed number run stage side found calling about here owes =>
      subst about here
      exact covered_of_owed sound stepped inside found calling owes

/-- The account that a new letter asks to prepare is owed for. -/
theorem covered_of_sent {run : SettlementRun} {stage : Stage}
    (found : mail.floor.runs[number]? = some run)
    (calling : run.phase = .calling stage)
    (prepares : Letter.Prepares
      ⟨stage.bank run.transfer, stage.call run.transfer, .underway⟩ party transfer) :
    (mail.sent number run.transfer stage).Covered party transfer
      mail.letters.length := by
  have awaits : (mail.sent number run.transfer stage).awaits number =
      some mail.letters.length := awaitsWith_self _
  obtain ⟨order, isPrepare, rfl, rfl⟩ := prepares
  cases stage with
  | prepareDebit =>
      cases isPrepare
      refine .owed number run .prepareDebit .debit found calling rfl rfl ?_
      rw [awaits]
      exact .debitAsked
  | prepareCredit =>
      cases isPrepare
      refine .owed number run .prepareCredit .credit found calling rfl rfl ?_
      rw [awaits]
      exact .creditAsked
  | releaseDebit cause creditNext => cases isPrepare
  | releaseCredit cause => cases isPrepare
  | commitDebit | commitCredit => cases isPrepare

/-- Every letter that asks to prepare a leg is covered. -/
def Pledged (mail : Mail) : Prop :=
  ∀ (index : Nat) (letter : Letter) party transfer,
    mail.letters[index]? = some letter → letter.Prepares party transfer →
      mail.Covered party transfer index

theorem Pledged.step (pledged : mail.Pledged) (sound : mail.Sound)
    (stepped : mail.step event = some next) : next.Pledged := by
  intro index letter party transfer present prepares
  have ofFormer : ∀ former : Letter, mail.letters[index]? = some former →
      letter.bank = former.bank → letter.call = former.call →
        next.Covered party transfer index := by
    intro former found sameBank sameCall
    have formerPrepares := prepares.of_same sameBank.symm sameCall.symm
    have inside := (List.getElem?_eq_some_iff.mp found).1
    exact (pledged index former party transfer found formerPrepares).step sound inside
      stepped
  by_cases delivered : ∃ place, event = .deliver place
  · obtain ⟨place, rfl⟩ := delivered
    obtain ⟨other, bank, turn, found, -, -, rfl⟩ := deliver_eq_some stepped
    obtain ⟨former, was, sameBank, sameCall⟩ := letter_of_afterTurn found present
    exact ofFormer former was sameBank sameCall
  · rcases (sent_of_step stepped fun place same => delivered ⟨place, same⟩).2 with
      same | ⟨number, run, stage, found, calling, rfl⟩
    · rw [same] at present
      exact ofFormer letter present rfl rfl
    · rcases letter_of_sent present with old | ⟨rfl, rfl⟩
      · exact ofFormer letter old rfl rfl
      · exact covered_of_sent found calling prepares

theorem pledged_of_isOpening (opening : mail.IsOpening) : mail.Pledged := by
  intro index letter party transfer found
  simp [opening.letters] at found

theorem pledged_of_runThrough {start final : Mail} {events : List Event}
    (opening : start.IsOpening)
    (ran : runThrough step start events = some final) : final.Pledged := by
  have both : ∀ {mail next : Mail} {event : Event}, mail.Sound ∧ mail.Pledged →
      mail.step event = some next → next.Sound ∧ next.Pledged :=
    fun ⟨sound, pledged⟩ stepped =>
      ⟨sound.step stepped, pledged.step sound stepped⟩
  exact (invariant_of_runThrough both
    ⟨sound_of_isOpening opening, pledged_of_isOpening opening⟩ ran).2

end Mail

end ClearingHouse
