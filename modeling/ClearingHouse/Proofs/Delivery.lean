import ClearingHouse.Client.Delivery

/-!
# Delivery over a channel that reacts

On such a channel it is laid down for every attempt what comes back, and after what
delay, if anything does.  The channel keeps the time, and notes what is sent on it.
A client that delivers an instruction over the channel makes its attempts one after
another, until one is conclusive or there are no more, and its pauses between them grow
from each to the next.
-/

namespace ClearingHouse

/-- What comes back of an attempt, and after how many milliseconds. -/
structure Reaction where
  delay : Nat
  result : Except TransferFailure Answer

/-- The reactions to the attempts, by their numbers from one on.  There is none to an
attempt that is never answered. -/
abbrev Reactions : Type := Nat → Option Reaction

/-- What has passed on a channel. -/
structure Traffic where
  /-- The time in milliseconds. -/
  now : Nat
  /-- All attempts, with the times at which they were made. -/
  sent : List (Nat × Instruction)

namespace Reactions

variable (reactions : Reactions) (timeout number : Nat)

/-- What an attempt comes to within some time. -/
def within? : Option (Except TransferFailure Answer) :=
  match reactions number with
  | some reaction => if reaction.delay ≤ timeout then some reaction.result else none
  | none => none

/-- How long an attempt takes if nobody waits longer than some time. -/
def lasting : Nat :=
  match reactions number with
  | some reaction => min reaction.delay timeout
  | none => timeout

/-- The channel with these reactions. -/
def channel : Channel (StateM Traffic) where
  send timeout instruction := modifyGet fun traffic =>
    let number := traffic.sent.length + 1
    (reactions.within? timeout number,
      { now := traffic.now + reactions.lasting timeout number
        sent := traffic.sent ++ [(traffic.now, instruction)] })
  pause time := modify fun traffic => { traffic with now := traffic.now + time }

end Reactions

namespace RetryPolicy

variable (policy : RetryPolicy) (reactions : Reactions)

/-- What an attempt comes to.  Without a result in time it is a timeout. -/
def outcome (number : Nat) : Except TransferFailure Answer :=
  (reactions.within? policy.timeout number).getD (.error .timeout)

/-- When the next attempt is due if so many have failed. -/
def dueAfter (start : Nat) : (failed : Nat) → Nat
  | 0 => start
  | failed + 1 =>
      dueAfter start failed + reactions.lasting policy.timeout (failed + 1) +
        policy.backoff * (failed + 1)

/-- The traffic when an attempt is over. -/
def attempted (traffic : Traffic) (instruction : Instruction) : Traffic where
  now := traffic.now + reactions.lasting policy.timeout (traffic.sent.length + 1)
  sent := traffic.sent ++ [(traffic.now, instruction)]

theorem run_attempt (traffic : Traffic) (instruction : Instruction) :
    (policy.attempt reactions.channel instruction).run traffic =
      (policy.outcome reactions (traffic.sent.length + 1),
        policy.attempted reactions traffic instruction) := by
  have sent : (reactions.channel.send policy.timeout instruction).run traffic =
      (reactions.within? policy.timeout (traffic.sent.length + 1),
        policy.attempted reactions traffic instruction) := rfl
  rw [attempt, StateT.run_bind, sent]
  cases came : reactions.within? policy.timeout (traffic.sent.length + 1) with
  | none => simp only [outcome, came, Option.getD_none]; rfl
  | some result => simp only [outcome, came, Option.getD_some]; rfl

theorem run_attemptsFrom (traffic : Traffic) (instruction : Instruction)
    (remaining number : Nat) :
    (policy.attemptsFrom reactions.channel instruction (remaining + 1) number).run
        traffic =
      match policy.after number (policy.outcome reactions (traffic.sent.length + 1)) with
      | .finished result => (result, policy.attempted reactions traffic instruction)
      | .again pause next =>
          (policy.attemptsFrom reactions.channel instruction remaining next).run
            { policy.attempted reactions traffic instruction with
              now := (policy.attempted reactions traffic instruction).now + pause } := by
  rw [attemptsFrom, StateT.run_bind, run_attempt]
  simp only [bind]
  cases policy.after number (policy.outcome reactions (traffic.sent.length + 1)) <;> rfl

/-! ## The course of a delivery -/

/-- An attempt has failed in a way that may pass. -/
def MayPass (outcome : Except TransferFailure Answer) : Prop :=
  ∃ failure, outcome = .error failure ∧ failure.isRetryable = true

/-- What the client is told after the last attempt. -/
def verdict : Except TransferFailure Answer → Except ClientFailure Answer
  | .ok answer => .ok answer
  | .error failure =>
      .error (if failure.isRetryable then .timedOut policy.attempts failure
        else .rejected failure)

/-- What has passed when an attempt is due after so many failures. -/
structure Underway (instruction : Instruction) (start failed : Nat) (traffic : Traffic) :
    Prop where
  now : traffic.now = policy.dueAfter reactions start failed
  sent : traffic.sent = (List.range failed).map fun earlier =>
    (policy.dueAfter reactions start earlier, instruction)
  passing : ∀ number, 1 ≤ number → number ≤ failed →
    MayPass (policy.outcome reactions number)

/-- How a delivery has gone of which so many attempts failed before the last one. -/
structure Course (instruction : Instruction) (start failed : Nat)
    (result : Except ClientFailure Answer) (traffic : Traffic) : Prop where
  bounded : failed < policy.attempts
  /-- All attempts carry the same instruction, each when it is due. -/
  sent : traffic.sent = (List.range (failed + 1)).map fun earlier =>
    (policy.dueAfter reactions start earlier, instruction)
  passing : ∀ number, 1 ≤ number → number ≤ failed →
    MayPass (policy.outcome reactions number)
  /-- The client gives up further attempts only for a reason. -/
  conclusive : failed + 1 < policy.attempts →
    ¬ MayPass (policy.outcome reactions (failed + 1))
  /-- There is no pause after the last attempt. -/
  now : traffic.now = policy.dueAfter reactions start failed +
    reactions.lasting policy.timeout (failed + 1)
  told : result = policy.verdict (policy.outcome reactions (failed + 1))

/-- What a client can rely on once a delivery is over. -/
structure Reliable (result : Except ClientFailure Answer) (traffic : Traffic) : Prop where
  bounded : traffic.sent.length ≤ policy.attempts
  /-- A rejection is no failure that may pass. -/
  rejected : ∀ failure, result = .error (.rejected failure) → failure.isRetryable = false
  /-- The client gives up only if it has made all attempts in vain. -/
  timedOut : ∀ attempts last, result = .error (.timedOut attempts last) →
    attempts = policy.attempts ∧ traffic.sent.length = attempts ∧
      policy.outcome reactions attempts = .error last ∧
      ∀ number, 1 ≤ number → number ≤ attempts → MayPass (policy.outcome reactions number)

variable {policy reactions} {instruction : Instruction} {start failed number : Nat}
  {traffic : Traffic} {result : Except ClientFailure Answer}
  {outcome : Except TransferFailure Answer}

theorem after_of_mayPass (passes : MayPass outcome) (further : number < policy.attempts) :
    policy.after number outcome = .again (policy.backoff * number) (number + 1) := by
  obtain ⟨failure, rfl, retryable⟩ := passes
  simp [after, retryable, further]

theorem after_of_conclusive (conclusive : number < policy.attempts → ¬ MayPass outcome) :
    policy.after number outcome = .finished (policy.verdict outcome) := by
  cases outcome with
  | ok answer => rfl
  | error failure =>
      cases retryable : failure.isRetryable with
      | false => simp [after, verdict, retryable]
      | true =>
          have spent : ¬ number < policy.attempts :=
            fun further => conclusive further ⟨failure, rfl, retryable⟩
          simp [after, verdict, retryable, spent]

namespace Underway

variable (underway : policy.Underway reactions instruction start failed traffic)
include underway

theorem length_sent : traffic.sent.length = failed := by
  simp [underway.sent]

theorem sent_attempted :
    (policy.attempted reactions traffic instruction).sent =
      (List.range (failed + 1)).map fun earlier =>
        (policy.dueAfter reactions start earlier, instruction) := by
  simp [attempted, underway.sent, underway.now, List.range_succ]

theorem now_attempted :
    (policy.attempted reactions traffic instruction).now =
      policy.dueAfter reactions start failed +
        reactions.lasting policy.timeout (failed + 1) := by
  simp only [attempted, underway.length_sent, underway.now]

/-- After a failure that may pass, and the pause, the next attempt is due. -/
theorem next (passes : MayPass (policy.outcome reactions (failed + 1))) :
    policy.Underway reactions instruction start (failed + 1)
      { policy.attempted reactions traffic instruction with
        now := (policy.attempted reactions traffic instruction).now +
          policy.backoff * (failed + 1) } where
  now := by
    simp only [underway.now_attempted, dueAfter]
  sent := underway.sent_attempted
  passing := by
    intro number positive bounded
    by_cases last : number = failed + 1
    · exact last ▸ passes
    · exact underway.passing number positive (by omega)

/-- The attempts that are left lead to the end of the delivery. -/
theorem course {remaining : Nat} (left : failed + remaining = policy.attempts)
    (some : 0 < remaining) :
    ∃ total result final,
      (policy.attemptsFrom reactions.channel instruction remaining (failed + 1)).run
        traffic = (result, final) ∧
      policy.Course reactions instruction start total result final := by
  induction remaining generalizing failed traffic with
  | zero => omega
  | succ remaining ih =>
      have run := policy.run_attemptsFrom reactions traffic instruction remaining
        (failed + 1)
      rw [underway.length_sent] at run
      by_cases goesOn : failed + 1 < policy.attempts ∧
        MayPass (policy.outcome reactions (failed + 1))
      · obtain ⟨further, passes⟩ := goesOn
        rw [after_of_mayPass passes further] at run
        obtain ⟨total, result, final, ran, course⟩ :=
          ih (underway.next passes) (by omega) (by omega)
        exact ⟨total, result, final, run.trans ran, course⟩
      · have conclusive : failed + 1 < policy.attempts →
            ¬ MayPass (policy.outcome reactions (failed + 1)) :=
          fun further passes => goesOn ⟨further, passes⟩
        rw [after_of_conclusive conclusive] at run
        exact ⟨failed, _, _, run, by omega, underway.sent_attempted, underway.passing,
          conclusive, underway.now_attempted, rfl⟩

end Underway

namespace Course

variable (course : policy.Course reactions instruction start failed result traffic)
include course

theorem length_sent : traffic.sent.length = failed + 1 := by
  simp [course.sent]

/-- A rejection says that no further attempt would help. -/
theorem isRetryable_of_rejected {failure : TransferFailure}
    (rejected : result = .error (.rejected failure)) : failure.isRetryable = false := by
  have told := course.told
  rw [rejected] at told
  cases outcome : policy.outcome reactions (failed + 1) with
  | ok answer => simp [outcome, verdict] at told
  | error cause =>
      cases retryable : cause.isRetryable <;> simp [outcome, verdict, retryable] at told
      rw [told, retryable]

/-- The last attempt of a client that gives up may pass too, so there are no more. -/
theorem mayPass_of_timedOut {attempts : Nat} {last : TransferFailure}
    (timedOut : result = .error (.timedOut attempts last)) :
    attempts = failed + 1 ∧ policy.attempts = failed + 1 ∧
      policy.outcome reactions (failed + 1) = .error last ∧
      MayPass (policy.outcome reactions (failed + 1)) := by
  have told := course.told
  rw [timedOut] at told
  cases outcome : policy.outcome reactions (failed + 1) with
  | ok answer => simp [outcome, verdict] at told
  | error cause =>
      cases retryable : cause.isRetryable <;> simp [outcome, verdict, retryable] at told
      obtain ⟨rfl, rfl⟩ := told
      have passes : MayPass (policy.outcome reactions (failed + 1)) :=
        ⟨last, outcome, retryable⟩
      have bounded := course.bounded
      have spent : policy.attempts = failed + 1 := by
        rcases Nat.lt_or_ge (failed + 1) policy.attempts with further | spent
        · exact absurd passes (course.conclusive further)
        · omega
      exact ⟨spent, spent, rfl, outcome ▸ passes⟩

theorem reliable : policy.Reliable reactions result traffic where
  bounded := by
    rw [course.length_sent]
    exact course.bounded
  rejected _ rejected := course.isRetryable_of_rejected rejected
  timedOut attempts last timedOut := by
    obtain ⟨rfl, spent, outcome, passes⟩ := course.mayPass_of_timedOut timedOut
    refine ⟨spent.symm, course.length_sent, outcome, ?_⟩
    intro number positive within
    by_cases final : number = failed + 1
    · exact final ▸ passes
    · exact course.passing number positive (by omega)

end Course

/-- A delivery goes as its reactions have it, and its result can be relied on. -/
theorem course_of_dispatch (policy : RetryPolicy) (reactions : Reactions)
    (instruction : Instruction) (start : Nat) (some : 0 < policy.attempts) :
    ∃ failed result final,
      (policy.dispatch reactions.channel instruction).run ⟨start, []⟩ = (result, final) ∧
      policy.Course reactions instruction start failed result final ∧
      policy.Reliable reactions result final := by
  have underway : policy.Underway reactions instruction start 0 ⟨start, []⟩ :=
    ⟨rfl, rfl, fun number positive none => by omega⟩
  obtain ⟨failed, result, final, ran, course⟩ := underway.course (Nat.zero_add _) some
  exact ⟨failed, result, final, ran, course, course.reliable⟩

/-- The second attempt comes while the first is still worked at, and the third is
answered just in time. -/
def hesitant : Reactions
  | 2 => some ⟨10, .error .inProgress⟩
  | 3 => some ⟨50, .ok (.paid ⟨⟨"t1"⟩, "SUCCEEDED", "paid"⟩)⟩
  | _ => none

def paySeven : Instruction := .pay ⟨⟨"south"⟩, ⟨"B1"⟩, ⟨700, by decide⟩, ⟨"t1"⟩⟩

theorem course_of_hesitant :
    (dispatch ⟨3, 50, 100⟩ hesitant.channel paySeven).run ⟨0, []⟩ =
        (.ok (.paid ⟨⟨"t1"⟩, "SUCCEEDED", "paid"⟩),
          ⟨410, [(0, paySeven), (150, paySeven), (360, paySeven)]⟩) ∧
      0 < (⟨3, 50, 100⟩ : RetryPolicy).attempts ∧
      ∃ failed result final,
        (dispatch ⟨3, 50, 100⟩ hesitant.channel paySeven).run ⟨0, []⟩ = (result, final) ∧
        Course ⟨3, 50, 100⟩ hesitant paySeven 0 failed result final ∧
        Reliable ⟨3, 50, 100⟩ hesitant result final := by
  have some : 0 < (⟨3, 50, 100⟩ : RetryPolicy).attempts := by decide
  exact ⟨rfl, some, course_of_dispatch ⟨3, 50, 100⟩ hesitant paySeven 0 some⟩

end RetryPolicy

end ClearingHouse
