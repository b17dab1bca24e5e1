import ClearingHouse.Client.Outbox
import ClearingHouse.Rehearsal.Schedule

/-!
# Rehearsals of a client

A script gives a client instructions and takes it offline.  The clearing house
that the client calls answers from a list, one entry for every call that
arrives, and carries everything out once the list is used up.
-/

namespace ClearingHouse.Rehearsal

/-- The answer to one call: after a delay, a failure or success. -/
structure ScriptedAnswer where
  delay : Nat
  failure : Option TransferFailure

/-- A client and what is known of its calls. -/
structure Desk where
  policy : RetryPolicy
  outbox : Outbox
  answers : List ScriptedAnswer
  /-- The calls since the last step, latest first. -/
  sent : List (Nat × Instruction)
  /-- The deliveries from the outbox since the last step, latest first. -/
  reports : List DeliveryReport
  listening : Bool := true

inductive ClientAction where
  | submit (instruction : Instruction)
  /-- Send an instruction whether or not the client is offline. -/
  | dispatch (instruction : Instruction)
  | goOffline
  | isOffline
  | push (instruction : Instruction)
  | front
  | pop
  | answers (answers : List ScriptedAnswer)
  | drain
  /-- Look again and again after an interval whether there is something to deliver. -/
  | drainer (interval : Nat)
  | stopListening
  | describe

inductive ClientReport where
  | nothing
  | queued
  | result (result : Except ClientFailure Answer)
  | flag (value : Bool)
  | instruction (instruction : Option Instruction)
  | count (number : Nat)
  | description (policy : RetryPolicy) (interval : Nat)

inductive Purpose where
  | caller
  /-- The instruction comes from the outbox, after so many others.  With an
  interval, the outbox is looked at again after the last one. -/
  | outbox (delivered : Nat) (interval : Option Nat)

inductive ClientTask where
  | starting (action : ClientAction)
  | attempting (instruction : Instruction) (number wake deadline : Nat)
      (answer : Except TransferFailure Answer) (purpose : Purpose)
  | pausing (instruction : Instruction) (number wake : Nat) (purpose : Purpose)
  | looking (wake interval : Nat)

abbrev ClientTurn : Type := Desk × Turn ClientTask ClientReport

namespace Desk

def carriedOut : Instruction → Answer
  | .balance => .balance ⟨⟨"A1"⟩, Amount.ofMajor 100⟩
  | .pay order =>
      .paid ⟨order.transfer, TransferStatus.succeeded.text,
        s!"paid {order.amount.text}"⟩

def takeAnswer (desk : Desk) : ScriptedAnswer × Desk :=
  match desk.answers with
  | [] => (⟨0, none⟩, desk)
  | answer :: rest => (answer, { desk with answers := rest })

def send (desk : Desk) (now : Nat) (instruction : Instruction) (number : Nat)
    (purpose : Purpose) : Desk × ClientTask :=
  let (answer, rest) := desk.takeAnswer
  let result : Except TransferFailure Answer :=
    match answer.failure with
    | some failure => .error failure
    | none => .ok (carriedOut instruction)
  ({ rest with sent := (now, instruction) :: rest.sent },
    .attempting instruction number (now + answer.delay)
      (now + desk.policy.timeout) result purpose)

/-- Note what came of a delivery, and remove its instruction. -/
def finishDelivery (desk : Desk) (instruction : Instruction)
    (result : Except ClientFailure Answer) : Desk :=
  { desk with
    outbox := desk.outbox.pop
    reports :=
      if desk.listening then ⟨instruction, result⟩ :: desk.reports
      else desk.reports }

def withoutNotes (desk : Desk) : Desk := { desk with sent := [], reports := [] }

end Desk

/-- What a task does next without waiting. -/
inductive ClientMove where
  | wait (task : ClientTask) (wake : Nat)
  | finish (report : ClientReport)
  | proceed (task : ClientTask)
  /-- Deliver the next instruction, after so many others. -/
  | deliver (delivered : Nat) (interval : Option Nat)

def beginSending (desk : Desk) (now : Nat) (instruction : Instruction)
    (purpose : Purpose) : Desk × (ClientTask ⊕ ClientFailure) :=
  match desk.policy.start with
  | some failure => (desk, .inr failure)
  | none =>
      let (next, task) := desk.send now instruction 1 purpose
      (next, .inl task)

def resultMove (desk : Desk) (instruction : Instruction) (purpose : Purpose)
    (result : Except ClientFailure Answer) : Desk × ClientMove :=
  match purpose with
  | .caller => (desk, .finish (.result result))
  | .outbox delivered interval =>
      (desk.finishDelivery instruction result, .deliver (delivered + 1) interval)

def attemptMove (desk : Desk) (now : Nat) (instruction : Instruction)
    (number : Nat) (purpose : Purpose)
    (result : Except TransferFailure Answer) : Desk × ClientMove :=
  match desk.policy.after number result with
  | .finished final => resultMove desk instruction purpose final
  | .again pause later =>
      (desk, .proceed (.pausing instruction later (now + pause) purpose))

/-- Send an instruction, or end at once if no attempt is allowed. -/
def sendMove (desk : Desk) (now : Nat) (instruction : Instruction)
    (purpose : Purpose) : Desk × ClientMove :=
  match beginSending desk now instruction purpose with
  | (next, .inl task) => (next, .proceed task)
  | (next, .inr failure) => resultMove next instruction purpose (.error failure)

def deliverMove (desk : Desk) (now delivered : Nat) (interval : Option Nat) :
    Desk × ClientMove :=
  match desk.outbox.nextDelivery now with
  | (some instruction, outbox) =>
      sendMove { desk with outbox := outbox } now instruction
        (.outbox delivered interval)
  | (none, outbox) =>
      let moved := { desk with outbox := outbox }
      match interval with
      | none => (moved, .finish (.count delivered))
      | some pause => (moved, .wait (.looking (now + pause) pause) (now + pause))

/-- Look whether there is something to deliver, and wait for the next time if
there is nothing. -/
def lookMove (desk : Desk) (now interval : Nat) : Desk × ClientMove :=
  match desk.outbox.isReady now with
  | (true, outbox) => ({ desk with outbox := outbox }, .deliver 0 (some interval))
  | (false, outbox) =>
      ({ desk with outbox := outbox },
        .wait (.looking (now + interval) interval) (now + interval))

def performClient (now : Nat) (desk : Desk) : ClientAction → Desk × ClientMove
  | .submit instruction =>
      match desk.outbox.submit now instruction with
      | (.queued, outbox) => ({ desk with outbox := outbox }, .finish .queued)
      | (.sent, outbox) =>
          sendMove { desk with outbox := outbox } now instruction .caller
  | .dispatch instruction => sendMove desk now instruction .caller
  | .goOffline =>
      ({ desk with outbox := desk.outbox.goOffline now }, .finish .nothing)
  | .isOffline =>
      let (offline, outbox) := desk.outbox.readOffline now
      ({ desk with outbox := outbox }, .finish (.flag offline))
  | .push instruction =>
      let (added, outbox) := desk.outbox.push instruction
      ({ desk with outbox := outbox }, .finish (.flag added))
  | .front => (desk, .finish (.instruction desk.outbox.front?))
  | .pop =>
      ({ desk with outbox := desk.outbox.pop },
        .finish (.instruction desk.outbox.front?))
  | .answers answers =>
      ({ desk with answers := desk.answers ++ answers }, .finish .nothing)
  | .drain => (desk, .deliver 0 none)
  | .drainer interval => lookMove desk now interval
  | .stopListening =>
      ({ desk with listening := false, reports := [] }, .finish .nothing)
  | .describe =>
      (desk, .finish (.description desk.policy desk.outbox.interval))

def clientMove (now : Nat) (desk : Desk) (task : ClientTask) : Desk × ClientMove :=
  match task with
  | .starting action => performClient now desk action
  | .attempting instruction number wake deadline answer purpose =>
      if wake ≤ now then
        attemptMove desk now instruction number purpose answer
      else if deadline ≤ now then
        attemptMove desk now instruction number purpose (.error .timeout)
      else (desk, .wait task (min wake deadline))
  | .pausing instruction number wake purpose =>
      if wake ≤ now then
        let (next, later) := desk.send now instruction number purpose
        (next, .proceed later)
      else (desk, .wait task wake)
  | .looking wake interval =>
      if wake ≤ now then lookMove desk now interval else (desk, .wait task wake)

/-- Follow a task through at most `fuel` moves until it waits or ends. -/
def follow (now : Nat) : Nat → Desk × ClientMove → ClientTurn
  | _, (desk, .wait task wake) => (desk, .waiting task (some wake))
  | _, (desk, .finish report) => (desk, .finished report)
  | 0, (desk, .proceed task) => (desk, .waiting task (some now))
  | 0, (desk, .deliver _ interval) =>
      (desk, .waiting (.looking now (interval.getD 0)) (some now))
  | fuel + 1, (desk, .proceed task) => follow now fuel (clientMove now desk task)
  | fuel + 1, (desk, .deliver delivered interval) =>
      follow now fuel (deliverMove desk now delivered interval)

/-- A number of moves that no task exceeds at an instant: every instruction takes
a delivery, and two moves for every attempt. -/
def moveLimit (desk : Desk) : Nat :=
  (desk.outbox.queue.length + 2) * (2 * desk.policy.attempts + 4)

def clientTurn (now : Nat) (desk : Desk) (task : ClientTask) : ClientTurn :=
  follow now (moveLimit desk) (clientMove now desk task)

def clientPlay : Play Desk ClientAction ClientTask ClientReport where
  begin := fun _ _ action => .starting action
  turn := clientTurn
  background := fun _ desk => (desk, none)

def rehearseClient (policy : RetryPolicy) (interval : Nat)
    (answers : List ScriptedAnswer) (script : List (Step ClientAction)) :
    Option (List (Frame Desk ClientReport)) :=
  let desk : Desk :=
    { policy := policy, outbox := { interval := interval }, answers := answers,
      sent := [], reports := [] }
  run clientPlay Desk.withoutNotes (.initial desk) script

end ClearingHouse.Rehearsal
