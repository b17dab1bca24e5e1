import ClearingHouse.Api.Bank
import ClearingHouse.Rehearsal.Schedule

/-!
# Rehearsals of a bank

A script asks a single bank to carry out orders, looks at its accounts, and lets
it forget legs from time to time.
-/

namespace ClearingHouse.Rehearsal

inductive BankAction where
  | prepare (order : LegOrder)
  | commit (order : LegOrder)
  | release (order : ReleaseOrder)
  | balance (account : AccountNumber)
  | legStatus (transfer : TransferId) (side : Side)
  | sweep (retention : Nat)
  /-- Sweep at once, and again and again after an interval. -/
  | sweeper (interval retention : Nat)
  | takeHold (account : AccountNumber) (hold : Hold)
  /-- Take a hold in as many attempts as the bank allows. -/
  | acquire (account : AccountNumber) (hold : Hold)
  | giveUpHold (account : AccountNumber) (transfer : TransferId)
  | settleHold (account : AccountNumber) (hold : Hold)
  | moveHeld (side : Side) (account : AccountNumber) (transfer : TransferId)
      (amount : Amount)
  | holder (account : AccountNumber)
  /-- Describe the bank, and tell whether it has an account. -/
  | describe (account : AccountNumber)
  | http (request : Http.Request)

inductive BankReport where
  | done
  | amount (amount : Amount)
  | refused (refusal : Refusal)
  | legStatus (status : Option LegStatus)
  | count (number : Nat)
  | held (outcome : HoldOutcome)
  | givenUp (outcome : ReleaseOutcome)
  | holder (hold : Option Hold)
  | description (bank : Bank) (hasAccount : Bool)
  | response (response : Http.Response)

/-- Work on a bank that may take several attempts. -/
inductive BankWork where
  | prepare (order : LegOrder)
  | acquire (account : AccountNumber) (hold : Hold)
  /-- A call that came over HTTP, with the method of its request. -/
  | answer (method : String) (call : BankCall)

inductive BankTask where
  | starting (action : BankAction)
  /-- Make the attempt with this number when the time has come. -/
  | pausing (wake number : Nat) (work : BankWork)
  | sweeping (wake interval retention : Nat)

namespace BankReport

def ofResult {α : Type} (report : α → BankReport) :
    Except Refusal α → BankReport
  | .ok value => report value
  | .error refusal => .refused refusal

end BankReport

/-- The bank after a step that may have been refused, and the report about it. -/
def stepped {α : Type} (bank : Bank) (report : α → BankReport) :
    Except Refusal (α × Bank) → Bank × Turn BankTask BankReport
  | .ok (value, next) => (next, .finished (report value))
  | .error refusal => (bank, .finished (.refused refusal))

namespace BankWork

/-- Make the first attempt, whose number is one, or a later one. -/
def attempt (now : Nat) (bank : Bank) (number : Nat) :
    BankWork → Bank × Bank.Attempt BankReport
  | .prepare order =>
      let (next, attempt) :=
        if number = 1 then bank.prepare order else bank.attemptPrepare order number
      (next, attempt.map fun _ => .done)
  | .acquire account hold =>
      let (next, attempt) := bank.attemptHold account hold number
      (next, attempt.map .held)
  | .answer _ call =>
      let (next, attempt) :=
        if number = 1 then bank.receive now call else bank.resume number call
      (next, attempt.map fun
        | .done => .done
        | .balance amount => .amount amount)

def replied : BankReport → BankReply
  | .amount amount => .balance amount
  | _ => .done

def report (work : BankWork) (result : Except Refusal BankReport) : BankReport :=
  match work with
  | .answer method call =>
      .response (Api.shown method (Api.bankResponse call (result.map replied)))
  | _ =>
      match result with
      | .ok report => report
      | .error refusal => .refused refusal

/-- Make attempts until one comes to a result or has to wait for the next one.
There are at most as many attempts as the bank allows. -/
def pursue (now : Nat) (work : BankWork) :
    Nat → Bank → Nat → Bank × Turn BankTask BankReport
  | 0, bank, number => (bank, .waiting (.pausing now number work) (some now))
  | fuel + 1, bank, number =>
      match work.attempt now bank number with
      | (next, .finished result) => (next, .finished (work.report result))
      | (next, .again pause later) =>
          if pause = 0 then pursue now work fuel next later
          else
            (next, .waiting (.pausing (now + pause) later work) (some (now + pause)))

def go (now : Nat) (bank : Bank) (number : Nat) (work : BankWork) :
    Bank × Turn BankTask BankReport :=
  work.pursue now (bank.allowedAttempts + 1) bank number

end BankWork

def sweepTurn (now : Nat) (bank : Bank) (wake interval retention : Nat) :
    Bank × Turn BankTask BankReport :=
  if wake ≤ now then
    (bank.sweep now retention,
      .waiting (.sweeping (now + interval) interval retention) (some (now + interval)))
  else (bank, .waiting (.sweeping wake interval retention) (some wake))

def performBank (now : Nat) (bank : Bank) :
    BankAction → Bank × Turn BankTask BankReport
  | .prepare order => (BankWork.prepare order).go now bank 1
  | .commit order =>
      let (next, result) := bank.commit now order
      (next, .finished (.ofResult .amount result))
  | .release order =>
      let (next, result) := bank.release now order
      (next, .finished (.ofResult (fun _ => .done) result))
  | .balance account =>
      (bank, .finished (.ofResult .amount (bank.balance account)))
  | .legStatus transfer side =>
      (bank, .finished (.legStatus (bank.legStatus transfer side)))
  | .sweep retention =>
      let next := bank.sweep now retention
      (next, .finished (.count (bank.legCount - next.legCount)))
  | .sweeper interval retention =>
      if interval = 0 then (bank, .broken)
      else sweepTurn now bank now interval retention
  | .takeHold account hold => stepped bank .held (bank.takeHold account hold)
  | .acquire account hold => (BankWork.acquire account hold).go now bank 1
  | .giveUpHold account transfer =>
      stepped bank .givenUp (bank.giveUpHold account transfer)
  | .settleHold account hold => stepped bank .amount (bank.settleHold account hold)
  | .moveHeld side account transfer amount =>
      stepped bank .amount (bank.moveHeld account transfer side amount)
  | .holder account => (bank, .finished (.ofResult .holder (bank.holder account)))
  | .describe account =>
      (bank, .finished (.description bank (bank.accounts.contains account)))
  | .http request =>
      match Api.bankCall request with
      | .ok call => (BankWork.answer request.method call).go now bank 1
      | .error response =>
          (bank, .finished (.response (Api.shown request.method response)))

def bankTurn (now : Nat) (bank : Bank) : BankTask → Bank × Turn BankTask BankReport
  | .starting action => performBank now bank action
  | .pausing wake number work =>
      if wake ≤ now then work.go now bank number
      else (bank, .waiting (.pausing wake number work) (some wake))
  | .sweeping wake interval retention => sweepTurn now bank wake interval retention

def bankPlay : Play Bank BankAction BankTask BankReport where
  begin := fun _ _ action => .starting action
  turn := bankTurn
  background := fun _ bank => (bank, none)

def rehearseBank (bank : Bank) (script : List (Step BankAction)) :
    Option (List (Frame Bank BankReport)) :=
  run bankPlay id (.initial bank) script

end ClearingHouse.Rehearsal
