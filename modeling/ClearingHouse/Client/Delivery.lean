import ClearingHouse.Client.Instruction

/-!
# Delivery with bounded retries

An instruction is sent again after a failure that may pass, up to a bounded
number of attempts and with growing pauses between them.  Every other failure
is final.
-/

namespace ClearingHouse

/-- How often, how long and with what pauses an instruction is sent. -/
structure RetryPolicy where
  attempts : Nat := 5
  /-- How long one attempt may take, in milliseconds. -/
  timeout : Nat := 5000
  /-- The pause after the first attempt, in milliseconds.  It grows by as much
  with every further attempt. -/
  backoff : Nat := 1000
  deriving DecidableEq

/-- Why an instruction has not been carried out, as far as the client knows. -/
inductive ClientFailure where
  /-- A failure that further attempts will not change. -/
  | rejected (failure : TransferFailure)
  /-- Every attempt failed in a way that may pass; whether a payment has been
  made is not known. -/
  | timedOut (attempts : Nat) (last : TransferFailure)
  deriving DecidableEq

namespace ClientFailure

def message : ClientFailure → String
  | .rejected failure => failure.message
  | .timedOut attempts last =>
      s!"request timed out after {attempts} attempts " ++
        s!"(last error: {last.message})"

def name : ClientFailure → String
  | .rejected failure => failure.name
  | .timedOut _ _ => "TIMED_OUT"

end ClientFailure

/-- A way to the clearing house, each step being an effect of `m`. -/
structure Channel (m : Type → Type) where
  /-- Send an instruction, and wait some milliseconds at most for what it comes to. -/
  send : Nat → Instruction → m (Option (Except TransferFailure Answer))
  /-- Wait for some milliseconds. -/
  pause : Nat → m Unit

inductive AfterAttempt where
  | finished (result : Except ClientFailure Answer)
  /-- Wait, and make the attempt with this number. -/
  | again (pause : Nat) (number : Nat)

namespace RetryPolicy

/-- What a client does before its first attempt: it gives up at once if the
policy allows none. -/
def start (policy : RetryPolicy) : Option ClientFailure :=
  if policy.attempts = 0 then some (.timedOut 0 .timeout) else none

/-- What a client does after the attempt with a number, counted from one, has
come to a result. -/
def after (policy : RetryPolicy) (number : Nat)
    (result : Except TransferFailure Answer) : AfterAttempt :=
  match result with
  | .ok answer => .finished (.ok answer)
  | .error failure =>
      if !failure.isRetryable then .finished (.error (.rejected failure))
      else if number < policy.attempts then
        .again (policy.backoff * number) (number + 1)
      else .finished (.error (.timedOut policy.attempts failure))

variable {m : Type → Type} [Monad m]

/-- Make one attempt.  It has failed if it comes to nothing in time. -/
def attempt (policy : RetryPolicy) (channel : Channel m) (instruction : Instruction) :
    m (Except TransferFailure Answer) := do
  match ← channel.send policy.timeout instruction with
  | some result => return result
  | none => return .error .timeout

/-- Make attempts from the one with this number on; `remaining` of them are
left. -/
def attemptsFrom (policy : RetryPolicy) (channel : Channel m)
    (instruction : Instruction) :
    (remaining number : Nat) → m (Except ClientFailure Answer)
  | 0, _ => return .error (.timedOut policy.attempts .timeout)
  | remaining + 1, number => do
      let result ← policy.attempt channel instruction
      match policy.after number result with
      | .finished result => return result
      | .again pause next => do
          channel.pause pause
          policy.attemptsFrom channel instruction remaining next

def dispatch (policy : RetryPolicy) (channel : Channel m) (instruction : Instruction) :
    m (Except ClientFailure Answer) :=
  policy.attemptsFrom channel instruction policy.attempts 1

end RetryPolicy

end ClearingHouse
