import ClearingHouse.Client.Delivery

/-!
# The outbox

While a client is offline its instructions wait in the outbox, in the order in
which they came, and no two of them ask for the same thing.  Being offline ends
by itself after an interval.  Then the instructions are delivered one by one,
each of them staying at the front until its delivery has come to a result.
-/

namespace ClearingHouse

/-- The instructions that wait, and whether the client is offline. -/
structure Outbox where
  /-- For how long the client stays offline, in milliseconds. -/
  interval : Nat
  /-- The instructions that wait, oldest first. -/
  queue : List Instruction := []
  /-- The set of their keys, kept beside them for looking a key up. -/
  keys : List InstructionKey := []
  offlineSince : Option Nat := none
  deriving DecidableEq

/-- What came of an instruction that has waited. -/
structure DeliveryReport where
  instruction : Instruction
  result : Except ClientFailure Answer

namespace Outbox

/-- Go offline now.  Doing so again starts the interval anew. -/
def goOffline (outbox : Outbox) (now : Nat) : Outbox :=
  { outbox with offlineSince := some now }

/-- Whether the client is offline.  Once the interval has passed, the client is
marked as being back. -/
def readOffline (outbox : Outbox) (now : Nat) : Bool × Outbox :=
  match outbox.offlineSince with
  | none => (false, outbox)
  | some since =>
      if outbox.interval ≤ now - since then
        (false, { outbox with offlineSince := none })
      else (true, outbox)

/-- Whether an instruction with a key is waiting, as far as the set of keys
tells. -/
def holds (outbox : Outbox) (key : InstructionKey) : Bool :=
  decide (key ∈ outbox.keys)

def append (outbox : Outbox) (instruction : Instruction) : Outbox :=
  { outbox with
    queue := outbox.queue ++ [instruction]
    keys := instruction.key :: outbox.keys }

/-- Append an instruction, unless one with the same key is waiting.  The answer
is whether it was appended. -/
def push (outbox : Outbox) (instruction : Instruction) : Bool × Outbox :=
  if outbox.holds instruction.key then (false, outbox)
  else (true, outbox.append instruction)

def front? (outbox : Outbox) : Option Instruction := outbox.queue.head?

/-- Remove the instruction that has waited longest, and its key. -/
def pop (outbox : Outbox) : Outbox :=
  match outbox.queue with
  | [] => outbox
  | first :: rest =>
      { outbox with
        queue := rest
        keys := outbox.keys.filter fun key => key != first.key }

/-- The instruction to deliver next.  There is none while the client is offline. -/
def nextDelivery (outbox : Outbox) (now : Nat) : Option Instruction × Outbox :=
  match outbox.readOffline now with
  | (true, next) => (none, next)
  | (false, next) => (next.front?, next)

/-- Whether a client that looks now starts to deliver. -/
def isReady (outbox : Outbox) (now : Nat) : Bool × Outbox :=
  match outbox.readOffline now with
  | (true, next) => (false, next)
  | (false, next) => (!next.queue.isEmpty, next)

end Outbox

/-- What a client does with an instruction that it is given. -/
inductive Submission where
  | queued
  | sent
  deriving DecidableEq

/-- Give a client an instruction.  While it is offline the instruction is put into
the outbox. -/
def Outbox.submit (outbox : Outbox) (now : Nat) (instruction : Instruction) :
    Submission × Outbox :=
  match outbox.readOffline now with
  | (true, next) => (.queued, (next.push instruction).2)
  | (false, next) => (.sent, next)

end ClearingHouse
