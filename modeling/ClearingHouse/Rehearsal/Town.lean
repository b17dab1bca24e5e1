import ClearingHouse.House
import ClearingHouse.Rehearsal.Schedule
import ClearingHouse.Remote.Bank

/-!
# A town of banks around a clearing house

A rehearsal of the clearing house has all banks in the same program.  Some of
them are simulated in full; others agree to everything.  Calls to a bank are
noted, and can be made to fail, to be late, or to break, before or after the
bank has acted on them.
-/

namespace ClearingHouse.Rehearsal

inductive CallKind where
  | prepare
  | commit
  | release
  | balance
  deriving DecidableEq

/-- What goes wrong with a call. -/
structure Fault where
  /-- How long the call is under way before the bank gets it. -/
  delayBefore : Nat := 0
  /-- The failure that comes back in place of reaching the bank. -/
  before : Option CallFailure := none
  /-- How long the answer is under way. -/
  delayAfter : Nat := 0
  /-- The failure that comes back in place of the answer. -/
  after : Option CallFailure := none
  /-- Whether the call breaks the task that makes it. -/
  breaks : Bool := false

/-- The faults of one bank, by the kind of call and the side it is for. -/
abbrev Faults : Type := Table (CallKind × Option Side) Fault

def callKind : BankCall → CallKind × Option Side
  | .prepare order => (.prepare, some order.side)
  | .commit order => (.commit, some order.side)
  | .release _ => (.release, none)
  | .balance _ => (.balance, none)

def callNote : BankCall → String
  | .prepare order => legNote "prepare" order
  | .commit order => legNote "commit" order
  | .release order => s!"release {order.account.text} {order.transfer.text}"
  | .balance account => s!"balance {account.text}"
where
  legNote (verb : String) (order : LegOrder) : String :=
    s!"{verb} {order.side.label} {order.account.text} {order.amount.text} " ++
      order.transfer.text

def Faults.find (faults : Faults) (call : BankCall) : Fault :=
  let (kind, side) := callKind call
  match Table.find? faults (kind, side) with
  | some fault => fault
  | none => (Table.find? faults (kind, none)).getD {}

inductive CallPhase where
  | delayed (wake : Nat)
  | pausing (wake number : Nat)
  /-- The answer is there when the time has come. -/
  | answering (wake : Nat) (answer : Except CallFailure BankReply)

structure OpenCall where
  bank : BankName
  call : BankCall
  /-- When the caller stops waiting. -/
  deadline : Nat
  fault : Fault
  phase : CallPhase

inductive CallTurn where
  | answered (answer : Except TransferFailure BankReply)
  | broken
  | waiting (call : OpenCall) (wake : Nat)

/-- A settlement that is under way, whether or not anybody waits for it. -/
structure Run where
  transfer : Transfer
  stage : Settlement.Stage
  call : Option OpenCall

/-- A clearing house and its surroundings. -/
structure Town where
  house : House
  /-- The time of day at which tokens are checked, in seconds. -/
  clock : Nat
  banks : Table BankName Bank
  attached : Table String BankName
  faults : Table BankName Faults
  /-- The calls since the last step, latest first. -/
  notes : Table BankName (List String)
  runs : Table Nat Run
  /-- The outcomes of ended settlements; those that broke off have none. -/
  ended : Table Nat (Option Outcome)
  nextRun : Nat

/-- How the addresses of banks begin that agree to everything. -/
def agreeingScheme : String := "stub://"

def isAgreeing (address : String) : Bool :=
  agreeingScheme.toList.isPrefixOf (Text.trim address).toList

namespace Town

/-- Connects registrations to the banks of the town, and to remote ones. -/
def connector (town : Town) : Connector := fun registration =>
  if "http".toList.isPrefixOf (Text.trim registration.address).toList then
    Connector.http registration
  else if isAgreeing registration.address then .ok (.inside registration.name)
  else Connector.inside town.attached registration

def note (town : Town) (bank : BankName) (call : BankCall) : Town :=
  { town with
    notes := town.notes.insert bank
      (callNote call :: (town.notes.find? bank).getD []) }

def isInside (town : Town) (bank : BankName) : Bool :=
  match town.house.roster.resolve bank with
  | .ok (.inside _) => true
  | _ => false

/-- The calls to each bank of the town since the last step, earliest first. -/
def calls (town : Town) : List (BankName × List String) :=
  (town.house.roster.names.filter town.isInside).map fun bank =>
    (bank, ((town.notes.find? bank).getD []).reverse)

def withoutNotes (town : Town) : Town := { town with notes := Table.empty }

def agree : BankCall → BankReply
  | .balance _ => .balance Amount.zero
  | _ => .done

/-- Make attempts until one comes to a result, or has to wait for the next one.
There are at most as many attempts as the bank allows. -/
def attempts (now : Nat) (call : BankCall) :
    Nat → Bank → Nat → Bank × Bank.Attempt BankReply
  | 0, bank, number => (bank, .again 0 number)
  | fuel + 1, bank, number =>
      let (next, attempt) :=
        if number = 1 then bank.receive now call else bank.resume number call
      match attempt with
      | .again 0 later => attempts now call fuel next later
      | other => (next, other)

def reach (town : Town) (now : Nat) (name : BankName) (call : BankCall)
    (number : Nat) : Town × Bank.Attempt BankReply ⊕ CallFailure :=
  match Table.find? town.house.roster name with
  | none => .inr (.unreachable "not registered")
  | some entry =>
      match entry.connection with
      | .remote remote base =>
          .inr (({ name := remote, base := base } : RemoteBank).failure call)
      | .inside bankName =>
          if isAgreeing entry.address then .inl (town, .finished (.ok (agree call)))
          else
            match town.banks.find? bankName with
            | none => .inr (.unreachable "not attached")
            | some bank =>
                let (next, attempt) :=
                  attempts now call (bank.allowedAttempts + 1) bank number
                .inl ({ town with banks := town.banks.insert bankName next }, attempt)

/-- Wait for a time, but not beyond the deadline of the call. -/
def waitUntil (now : Nat) (call : OpenCall) (wake : Nat) : CallTurn :=
  if call.deadline ≤ now then .answered (.error .timeout)
  else .waiting call (min wake call.deadline)

def understood (call : OpenCall) (answer : Except CallFailure BankReply) :
    CallTurn :=
  match answer with
  | .ok reply => .answered (.ok reply)
  | .error failure => .answered (.error (.ofCallFailure call.bank failure))

def returnAnswer (now : Nat) (call : OpenCall)
    (answer : Except CallFailure BankReply) : CallTurn :=
  let final :=
    match call.fault.after with
    | some failure => .error failure
    | none => answer
  if call.fault.delayAfter = 0 then understood call final
  else
    let wake := now + call.fault.delayAfter
    waitUntil now { call with phase := .answering wake final } wake

/-- Let a call reach its bank, and go on with what the bank says. -/
def reached (town : Town) (now : Nat) (call : OpenCall) (number : Nat) :
    Town × CallTurn :=
  match town.reach now call.bank call.call number with
  | .inr failure => (town, returnAnswer now call (.error failure))
  | .inl (next, .finished (.ok reply)) => (next, returnAnswer now call (.ok reply))
  | .inl (next, .finished (.error refusal)) =>
      (next, returnAnswer now call (.error (.refused refusal)))
  | .inl (next, .again pause later) =>
      let wake := now + pause
      (next, waitUntil now { call with phase := .pausing wake later } wake)

def callTurn (town : Town) (now : Nat) (call : OpenCall) : Town × CallTurn :=
  match call.phase with
  | .delayed wake =>
      if wake ≤ now then
        match call.fault.before with
        | some failure => (town, understood call (.error failure))
        | none => town.reached now call 1
      else (town, waitUntil now call wake)
  | .pausing wake number =>
      if wake ≤ now then town.reached now call number
      else (town, waitUntil now call wake)
  | .answering wake answer =>
      if wake ≤ now then (town, understood call answer)
      else (town, waitUntil now call wake)

def makeCall (town : Town) (now : Nat) (bank : BankName) (call : BankCall) :
    Town × CallTurn :=
  let noted := town.note bank call
  let fault := ((town.faults.find? bank).getD Table.empty |> Faults.find) call
  if fault.breaks then (noted, .broken)
  else
    noted.callTurn now
      { bank := bank, call := call, deadline := now + town.house.callTimeout,
        fault := fault, phase := .delayed (now + fault.delayBefore) }

/-- The end of a settlement: nobody works on it any more, and its outcome is
there for whoever waits. -/
def endRun (town : Town) (number : Nat) (outcome : Option Outcome) : Town :=
  { town with
    runs := town.runs.erase number
    ended := town.ended.insert number outcome }

/-- Give a settlement its turn, through at most `fuel` of its stages.  The answer
is when it wants the next turn. -/
def runTurn (now number : Nat) (transfer : Transfer) :
    Nat → Town → Settlement.Stage → Option OpenCall → Town × Option Nat
  | 0, town, stage, call =>
      ({ town with runs := town.runs.insert number ⟨transfer, stage, call⟩ }, some now)
  | fuel + 1, town, stage, call =>
      let (moved, turn) :=
        match call with
        | some open_ => town.callTurn now open_
        | none => town.makeCall now (stage.bank transfer) (stage.call transfer)
      match turn with
      | .waiting later wake =>
          ({ moved with
              runs := moved.runs.insert number ⟨transfer, stage, some later⟩ },
            some wake)
      | .broken => (moved.endRun number none, none)
      | .answered answer =>
          match Settlement.next transfer stage (answer.map fun _ => ()) with
          | .proceed later => runTurn now number transfer fuel moved later none
          | .conclude conclusion =>
              let house := moved.house.conclude now transfer.id conclusion
              ({ moved with house := house }.endRun number (some conclusion.outcome),
                none)

/-- A number of stages that no settlement exceeds. -/
def stageBound : Nat := 7

def background (now : Nat) (town : Town) : Town × Option Nat :=
  town.runs.entries.foldl
    (fun (moved, found) (number, run) =>
      let (next, wake) :=
        runTurn now number run.transfer stageBound moved run.stage run.call
      (next, earlier found wake))
    (town, none)

/-- Start a settlement; the answer is its number. -/
def startRun (town : Town) (transfer : Transfer) : Town × Nat :=
  ({ town with
      runs := town.runs.insert town.nextRun ⟨transfer, .prepareDebit, none⟩
      nextRun := town.nextRun + 1 },
    town.nextRun)

end Town

end ClearingHouse.Rehearsal
