import ClearingHouse.Proofs.Pursuit.Basic
import ClearingHouse.Proofs.Sample

/-!
# Pursuits are bounded

Whatever others do with the bank meanwhile, a hold is pursued in as many attempts as the
policy allows at most, with pauses between them that grow from each to the next.  Only
an account that is held for something else is tried again.  Nothing is written but the
hold itself, in the attempt that ends the pursuit, and that attempt has found the
account free and the funds sufficient.
-/

namespace ClearingHouse

/-- When the next attempt is due if so many have been in vain. -/
def HoldPolicy.dueAfter (policy : HoldPolicy) (start : Nat) : (vain : Nat) → Nat
  | 0 => start
  | vain + 1 => policy.dueAfter start vain + policy.backoff * (vain + 1)

namespace Pursuit

/-- The bank after an event, as far as others change it. -/
def Event.leaves (bank : Bank) : Event → Bank
  | .others changed => changed
  | .rest _ | .attempt | .drop => bank

/-- The bank as others alone would have left it. -/
def leftByOthers (begun : Bank) (events : List Event) : Bank :=
  events.foldl Event.leaves begun

/-- The banks that the attempts find, if nobody but others changes the bank. -/
def met (begun : Bank) : List Event → List Bank
  | [] => []
  | .attempt :: events => begun :: met begun events
  | event :: events => met (event.leaves begun) events

theorem leftByOthers_concat (begun : Bank) (events : List Event) (event : Event) :
    leftByOthers begun (events ++ [event]) = event.leaves (leftByOthers begun events) := by
  simp [leftByOthers]

theorem met_concat_attempt (begun : Bank) (events : List Event) :
    met begun (events ++ [.attempt]) = met begun events ++ [leftByOthers begun events] := by
  induction events generalizing begun with
  | nil => rfl
  | cons event events ih =>
      cases event with
      | attempt => simp only [List.cons_append, met, ih]; rfl
      | others | rest | drop => exact ih _

theorem met_concat_of_ne {event : Event} (other : event ≠ .attempt) (begun : Bank)
    (events : List Event) : met begun (events ++ [event]) = met begun events := by
  induction events generalizing begun with
  | nil => cases event <;> first | rfl | exact absurd rfl other
  | cons first events ih =>
      cases first with
      | attempt => simp only [List.cons_append, met, ih]
      | others | rest | drop => exact ih _

/-! ## The course of a pursuit -/

variable (number : AccountNumber) (hold : Hold) (policy : HoldPolicy) (start : Nat)
  (begun : Bank)

/-- How a pursuit has gone so far. -/
structure Course (events : List Event) (pursuit : Pursuit) : Prop where
  kept : pursuit.bank.policy = policy
  bounded : pursuit.tries.length ≤ max policy.attempts 1
  /-- The first attempt is made at once, and each further one exactly after its pause. -/
  times : pursuit.tries.map HoldTry.time =
    (List.range pursuit.tries.length).map (policy.dueAfter start)
  /-- Every attempt finds the bank as the others have left it, and looks at nothing
  else. -/
  banks : pursuit.tries.map HoldTry.bank = met begun events
  found : ∀ made ∈ pursuit.tries, ∃ next, made.bank.Tries number hold made.result next
  /-- No attempt is followed by another unless the account was held. -/
  busy : ∀ made ∈ pursuit.tries.dropLast, made.result = .error .busy
  waiting : ∀ time attempt, pursuit.phase = .due time attempt →
    attempt = pursuit.tries.length + 1 ∧ attempt ≤ max policy.attempts 1 ∧
      time = policy.dueAfter start pursuit.tries.length ∧ pursuit.now ≤ time ∧
      ∀ made ∈ pursuit.tries, made.result = .error .busy
  /-- The last attempt is told at once, and is in vain only if it was the last one
  allowed. -/
  told : ∀ time result, pursuit.phase = .ended time result →
    ∃ last, pursuit.tries.getLast? = some last ∧ last.time = time ∧
      last.result = result ∧
      (result = .error .busy → pursuit.tries.length = max policy.attempts 1)
  dropped : pursuit.phase = .dropped →
    ∀ made ∈ pursuit.tries, made.result = .error .busy
  /-- Nothing has been written before the hold is taken, nor if it is never taken. -/
  untouched : (∀ time, pursuit.phase ≠ .ended time (.ok .acquired)) →
    pursuit.bank = leftByOthers begun events

variable {number hold policy start begun} {events : List Event} {event : Event}
  {pursuit next final : Pursuit}

theorem course_begin (bank : Bank) (now : Nat) :
    Course number hold bank.policy now bank [] (begin bank now) where
  kept := rfl
  bounded := Nat.zero_le _
  times := rfl
  banks := rfl
  found := by simp [begin]
  busy := by simp [begin]
  waiting := by
    rintro time attempt ⟨⟩
    exact ⟨rfl, Nat.le_max_right _ _, rfl, Nat.le_refl _, by simp [begin]⟩
  told := by rintro time result ⟨⟩
  dropped := by rintro ⟨⟩
  untouched _ := rfl

/-- Whatever others do with the bank, the course is the same. -/
theorem Course.others (course : Course number hold policy start begun events pursuit)
    {changed : Bank} (same : changed.policy = pursuit.bank.policy) :
    Course number hold policy start begun (events ++ [.others changed])
      { pursuit with bank := changed } where
  kept := same.trans course.kept
  bounded := course.bounded
  times := course.times
  banks := by rw [met_concat_of_ne (by simp), ← course.banks]
  found := course.found
  busy := course.busy
  waiting := course.waiting
  told := course.told
  dropped := course.dropped
  untouched _ := by rw [leftByOthers_concat]; rfl

theorem Course.rest (course : Course number hold policy start begun events pursuit)
    {milliseconds : Nat} (may : pursuit.mayRest milliseconds = true) :
    Course number hold policy start begun (events ++ [.rest milliseconds])
      { pursuit with now := pursuit.now + milliseconds } where
  kept := course.kept
  bounded := course.bounded
  times := course.times
  banks := by rw [met_concat_of_ne (by simp), ← course.banks]
  found := course.found
  busy := course.busy
  waiting := by
    intro time attempt due
    obtain ⟨isNext, allowed, isTime, -, vain⟩ := course.waiting time attempt due
    refine ⟨isNext, allowed, isTime, ?_, vain⟩
    simpa [mayRest, show pursuit.phase = .due time attempt from due] using may
  told := course.told
  dropped := course.dropped
  untouched notTaken := by
    rw [leftByOthers_concat]
    exact course.untouched notTaken

theorem Course.drop (course : Course number hold policy start begun events pursuit)
    {time attempt : Nat} (due : pursuit.phase = .due time attempt) :
    Course number hold policy start begun (events ++ [.drop])
      { pursuit with phase := .dropped } where
  kept := course.kept
  bounded := course.bounded
  times := course.times
  banks := by rw [met_concat_of_ne (by simp), ← course.banks]
  found := course.found
  busy := course.busy
  waiting := by rintro _ _ ⟨⟩
  told := by rintro _ _ ⟨⟩
  dropped _ := (course.waiting time attempt due).2.2.2.2
  untouched _ := by
    rw [leftByOthers_concat]
    exact course.untouched (by simp [due])

/-! ## Attempts -/

/-- The attempts after one more. -/
def withTry (pursuit : Pursuit) (result : Except Refusal HoldOutcome) : List HoldTry :=
  pursuit.tries ++ [⟨pursuit.now, pursuit.bank, result⟩]

theorem attempted_eq (attempt : Nat) :
    pursuit.attempted number hold attempt =
      { bank := (pursuit.bank.tryHold number hold).1
        now := pursuit.now
        phase :=
          if (pursuit.bank.tryHold number hold).2 = .error .busy ∧
              attempt < max pursuit.bank.policy.attempts 1 then
            .due (pursuit.now + pursuit.bank.policy.backoff * attempt) (attempt + 1)
          else .ended pursuit.now (pursuit.bank.tryHold number hold).2
        tries := pursuit.withTry (pursuit.bank.tryHold number hold).2 } := by
  rw [attempted, Bank.attemptHold_eq]
  split <;> rfl

/-- An attempt is made when it is due, and finds the bank as the others have left it. -/
theorem Course.attempt (course : Course number hold policy start begun events pursuit)
    {time attempt : Nat} (due : pursuit.phase = .due time attempt)
    (come : time ≤ pursuit.now) :
    Course number hold policy start begun (events ++ [.attempt])
      (pursuit.attempted number hold attempt) := by
  obtain ⟨isNext, allowed, isTime, notPast, vain⟩ := course.waiting time attempt due
  have isNow : pursuit.now = policy.dueAfter start pursuit.tries.length := by omega
  have undisturbed : pursuit.bank = leftByOthers begun events :=
    course.untouched (by simp [due])
  have tries := pursuit.bank.tries_tryHold number hold
  rw [attempted_eq]
  generalize pursuit.bank.tryHold number hold = turn at tries
  obtain ⟨left, result⟩ := turn
  have times : (pursuit.withTry result).map HoldTry.time =
      (List.range (pursuit.tries.length + 1)).map (policy.dueAfter start) := by
    simp [withTry, course.times, isNow, List.range_succ]
  have banks : (pursuit.withTry result).map HoldTry.bank =
      met begun (events ++ [.attempt]) := by
    simp [withTry, met_concat_attempt, course.banks, undisturbed]
  have length : (pursuit.withTry result).length = pursuit.tries.length + 1 := by
    simp [withTry]
  constructor
  · exact tries.policy_eq.trans course.kept
  · show (pursuit.withTry result).length ≤ _
    omega
  · rw [length]
    exact times
  · exact banks
  · intro made member
    rcases List.mem_append.mp member with earlier | last
    · exact course.found made earlier
    · rw [List.mem_singleton.mp last]
      exact ⟨left, tries⟩
  · simpa [withTry] using vain
  · intro later number isDue
    split at isDue
    · rename_i again
      cases isDue
      refine ⟨by rw [length, isNext], by rw [course.kept] at again; omega, ?_,
        Nat.le_add_right _ _, ?_⟩
      · rw [length, HoldPolicy.dueAfter, ← isNow, course.kept, isNext]
      · intro made member
        rcases List.mem_append.mp member with earlier | last
        · exact vain made earlier
        · rw [List.mem_singleton.mp last]
          exact again.1
    · cases isDue
  · intro told other isOver
    split at isOver
    · cases isOver
    · rename_i notAgain
      cases isOver
      refine ⟨⟨pursuit.now, pursuit.bank, result⟩, by simp [withTry], rfl, rfl, ?_⟩
      intro busy
      rw [course.kept] at notAgain
      have spent : ¬ attempt < max policy.attempts 1 := fun more => notAgain ⟨busy, more⟩
      rw [length]
      omega
  · intro isDropped
    split at isDropped <;> cases isDropped
  · intro notTaken
    have notAcquired : result ≠ .ok .acquired := by
      rintro rfl
      exact notTaken pursuit.now (by simp)
    rw [leftByOthers_concat]
    exact (tries.eq_of_ne_acquired notAcquired).trans undisturbed

theorem Course.step (course : Course number hold policy start begun events pursuit)
    (stepped : pursuit.step number hold event = some next) :
    Course number hold policy start begun (events ++ [event]) next := by
  cases event with
  | others changed =>
      simp only [Pursuit.step] at stepped
      split at stepped <;> cases stepped
      exact course.others ‹_›
  | rest milliseconds =>
      simp only [Pursuit.step] at stepped
      split at stepped <;> cases stepped
      exact course.rest ‹_›
  | attempt =>
      simp only [Pursuit.step] at stepped
      split at stepped
      · rename_i time attempt due
        split at stepped <;> cases stepped
        exact course.attempt due ‹_›
      · cases stepped
  | drop =>
      simp only [Pursuit.step] at stepped
      split at stepped <;> cases stepped
      exact course.drop ‹_›

theorem course_of_runThrough {bank : Bank} {now : Nat}
    (ran : runThrough (step number hold) (begin bank now) events = some final) :
    Course number hold bank.policy now bank events final :=
  @history_of_runThrough Pursuit Event (step number hold) (begin bank now)
    (Course number hold bank.policy now bank) (course_begin bank now)
    (fun _ course stepped => course.step stepped) events final ran

/-! ## What a pursuit writes, and how it ends -/

/-- What a step of a pursuit may do to the bank. -/
inductive Writes (number : AccountNumber) (hold : Hold) (pursuit next : Pursuit) :
    Event → Prop
  /-- The change is the others' own. -/
  | others (changed : Bank) (same : next.bank = changed) :
      Writes number hold pursuit next (.others changed)
  | nothing (event : Event) (same : next.bank = pursuit.bank) :
      Writes number hold pursuit next event
  /-- The hold is taken of a free account that covers it now, and this is told at
  once. -/
  | taken (account : Account)
      (found : pursuit.bank.accounts.find? number = some account)
      (free : account.hold = none)
      (covered : account.Covers hold.amount hold.side)
      (same : next.bank =
        pursuit.bank.withAccount number { account with hold := some hold })
      (isOver : next.phase = .ended pursuit.now (.ok .acquired)) :
      Writes number hold pursuit next .attempt

theorem writes_attempted (attempt : Nat) :
    Writes number hold pursuit (pursuit.attempted number hold attempt) .attempt := by
  have tries := pursuit.bank.tries_tryHold number hold
  rw [attempted_eq]
  generalize pursuit.bank.tryHold number hold = turn at tries
  obtain ⟨left, result⟩ := turn
  by_cases acquires : result = .ok .acquired
  · subst acquires
    cases tries with
    | acquired account found free covered =>
        exact .taken account found free covered rfl (by simp)
  · exact .nothing _ (tries.eq_of_ne_acquired acquires)

theorem writes_of_step (stepped : pursuit.step number hold event = some next) :
    Writes number hold pursuit next event := by
  cases event with
  | others changed =>
      simp only [step] at stepped
      split at stepped <;> cases stepped
      exact .others changed rfl
  | rest milliseconds =>
      simp only [step] at stepped
      split at stepped <;> cases stepped
      exact .nothing _ rfl
  | attempt =>
      simp only [step] at stepped
      split at stepped
      · split at stepped <;> cases stepped
        exact writes_attempted _
      · cases stepped
  | drop =>
      simp only [step] at stepped
      split at stepped <;> cases stepped
      exact .nothing _ rfl

/-- What somebody does who pursues a hold and does not go away. -/
def Event.IsOwn : Event → Prop
  | .rest _ | .attempt => True
  | .others _ | .drop => False

/-- The attempt that is due can be made after its pause, and ends the pursuit or makes
the next one due. -/
theorem Course.goesOn (course : Course number hold policy start begun events pursuit)
    {time attempt : Nat} (due : pursuit.phase = .due time attempt) :
    ∃ next pause, runThrough (Pursuit.step number hold) pursuit [.rest pause, .attempt] =
        some next ∧
      Course number hold policy start begun (events ++ [.rest pause] ++ [.attempt]) next ∧
      ((∃ result, next.phase = .ended time result) ∨
        ∃ later, next.phase = .due later (attempt + 1)) := by
  have notPast := (course.waiting time attempt due).2.2.2.1
  have reached : pursuit.now + (time - pursuit.now) = time := by omega
  have may : pursuit.mayRest (time - pursuit.now) = true := by
    simp [mayRest, due, reached]
  refine ⟨{ pursuit with now := time }.attempted number hold attempt,
    time - pursuit.now, ?_, ?_, ?_⟩
  · simp [runThrough, Pursuit.step, may, due, reached]
  · have rested := course.rest may
    rw [reached] at rested
    exact rested.attempt due (Nat.le_refl _)
  · rw [attempted_eq]
    dsimp only
    split
    · exact Or.inr ⟨_, rfl⟩
    · exact Or.inl ⟨_, rfl⟩

/-- A pursuit that is still going on comes to a result. -/
theorem Course.ends {time attempt : Nat}
    (course : Course number hold policy start begun events pursuit)
    (due : pursuit.phase = .due time attempt) :
    ∃ later final ended result, (∀ event ∈ later, event.IsOwn) ∧
      runThrough (Pursuit.step number hold) pursuit later = some final ∧
      final.phase = .ended ended result := by
  obtain ⟨left, isLeft⟩ : ∃ left, attempt + left = max policy.attempts 1 := by
    have allowed := (course.waiting time attempt due).2.1
    exact ⟨_, Nat.add_sub_of_le allowed⟩
  have own : ∀ pause, ∀ event ∈ [Event.rest pause, .attempt], event.IsOwn := by
    simp [Event.IsOwn]
  -- on the attempts that the policy still allows
  induction left generalizing pursuit events time attempt with
  | zero =>
      obtain ⟨next, pause, ran, courseNext, ⟨result, isOver⟩ | ⟨later, isDue⟩⟩ :=
        course.goesOn due
      · exact ⟨_, next, time, result, own pause, ran, isOver⟩
      · have allowed := (courseNext.waiting later _ isDue).2.1
        omega
  | succ left ih =>
      obtain ⟨next, pause, ran, courseNext, ⟨result, isOver⟩ | ⟨later, isDue⟩⟩ :=
        course.goesOn due
      · exact ⟨_, next, time, result, own pause, ran, isOver⟩
      · obtain ⟨further, final, ended, result, ownFurther, ranFurther, isOver⟩ :=
          ih courseNext isDue (by omega)
        refine ⟨[.rest pause, .attempt] ++ further, final, ended, result, ?_, ?_, isOver⟩
        · intro event member
          rcases List.mem_append.mp member with now | afterwards
          · exact own pause event now
          · exact ownFurther event afterwards
        · rw [runThrough_append, ran]
          exact ranFurther

/-! ## The law of pursuits -/

/-- What can be relied on when a hold is pursued, whatever others do meanwhile. -/
structure Bounded (number : AccountNumber) (hold : Hold) (bank : Bank) (now : Nat)
    (events : List Event) (final : Pursuit) : Prop where
  course : Course number hold bank.policy now bank events final
  writes : Throughout (step number hold) (begin bank now) events fun pursuit event next =>
    Writes number hold pursuit next event
  ends : ∀ time attempt, final.phase = .due time attempt →
    ∃ later last ended result, (∀ event ∈ later, event.IsOwn) ∧
      runThrough (step number hold) final later = some last ∧
      last.phase = .ended ended result

/-- A hold is pursued in a bounded number of attempts, each of which sees the bank as
others have left it, and taken in the last one or not at all. -/
theorem bounded_of_runThrough {bank : Bank} {now : Nat}
    (ran : runThrough (step number hold) (begin bank now) events = some final) :
    Bounded number hold bank now events final where
  course := course_of_runThrough ran
  writes := fun _ _ _ _ _ _ _ stepped => writes_of_step stepped
  ends := fun _ _ due => (course_of_runThrough ran).ends due

/-- Another transfer holds the account of the payer, at a bank that allows two attempts
with a pause of seventy milliseconds between them. -/
def heldForAnother : Bank :=
  { Sample.payerBank with
    policy := ⟨2, 70⟩
    accounts := Table.insert Sample.payerBank.accounts Sample.payer.account
      ⟨⟨9900, by decide⟩, some ⟨⟨"t0"⟩, .debit, ⟨2400, by decide⟩⟩⟩ }

def paidAnother : Bank :=
  { heldForAnother with
    accounts := Table.insert heldForAnother.accounts Sample.payer.account
      ⟨⟨7500, by decide⟩, none⟩ }

/-- The pause outlasts the other transfer, and the funds are checked anew. -/
theorem bounded_of_outlasting :
    ∃ final, runThrough (step Sample.payer.account ⟨⟨"t1"⟩, .debit, ⟨7500, by decide⟩⟩)
        (begin heldForAnother 40)
        [.attempt, .rest 30, .others paidAnother, .rest 40, .attempt] = some final ∧
      final.phase = .ended 110 (.ok .acquired) ∧
      Bounded Sample.payer.account ⟨⟨"t1"⟩, .debit, ⟨7500, by decide⟩⟩ heldForAnother 40
        [.attempt, .rest 30, .others paidAnother, .rest 40, .attempt] final :=
  ⟨_, rfl, rfl, bounded_of_runThrough rfl⟩

end Pursuit

end ClearingHouse
