import ClearingHouse.Client.Outbox
import ClearingHouse.CommandLine.Machine
import ClearingHouse.Remote.House
import ClearingHouse.Transfer.Roster

/-!
# The program of a client

The program reads commands line by line.  A payment gets a name of its own and is
sent, or waits in the outbox while the client is offline.
-/

namespace ClearingHouse.ClientProgram

variable {m : Type → Type} [Monad m]

/-! ## Commands -/

inductive Command where
  | balance
  | pay (bank : BankName) (account : AccountNumber) (amount : Amount)
  | offline
  | quit
  deriving DecidableEq

namespace Command

def summary : String :=
  "commands: balance | pay <bank> <account> <amount> | offline | quit"

/-- The bank that a word names, by its index or in full. -/
def bankOf (word : String) : BankName :=
  match Text.unsignedBelow? (2 ^ 32) word.toList with
  | some index => BankName.ofIndex index
  | none => ⟨word⟩

/-- Read a line.  A line without words holds no command; any other line without
one is answered with a message. -/
def parse (line : String) : Except String (Option Command) :=
  match Text.words line with
  | [] => .ok none
  | ["balance"] => .ok (some .balance)
  | ["pay", bank, account, amount] =>
      match Amount.parsePositive amount with
      | .ok value => .ok (some (.pay (bankOf bank) ⟨account⟩ value))
      | .error error => .error s!"invalid amount {amount}: {error.message}"
  | ["offline"] => .ok (some .offline)
  | ["quit"] | ["exit"] => .ok (some .quit)
  | _ => .error summary

end Command

/-! ## Sessions -/

structure Session where
  house : RemoteHouse
  policy : RetryPolicy
  outbox : Outbox

namespace Session

/-- The way to a clearing house over HTTP. -/
def channel (machine : Machine m) (house : RemoteHouse) : Channel m where
  send timeout instruction := do
    match house.outgoing instruction with
    | .error failure => return some (.error failure)
    | .ok outgoing =>
        match ← machine.exchange timeout outgoing with
        | .ok response => return some (RemoteHouse.answer instruction response)
        | .error .late => return none
        | .error .unreachable =>
            return some (.error (RemoteHouse.unreachable outgoing.unsentText))
  pause := machine.pause

def dispatch (machine : Machine m) (session : Session) (instruction : Instruction) :
    m (Except ClientFailure Answer) :=
  session.policy.dispatch (channel machine session.house) instruction

/-- Carry out an instruction now or later, and print what came of it. -/
def submit (machine : Machine m) (session : Session) (instruction : Instruction) :
    m Session := do
  match session.outbox.submit (← machine.now) instruction with
  | (.queued, outbox) =>
      machine.printLine s!"queued for later delivery: {instruction.text}"
      return { session with outbox := outbox }
  | (.sent, outbox) =>
      match ← dispatch machine session instruction with
      | .ok answer => machine.printLine answer.text
      | .error failure =>
          machine.printLine s!"{instruction.verb} failed: {failure.message}"
      return { session with outbox := outbox }

def printReport (machine : Machine m) (report : DeliveryReport) : m Unit :=
  let outcome :=
    match report.result with
    | .ok answer => answer.text
    | .error failure => s!"error: {failure.message}"
  machine.printLine s!"[queued] {report.instruction.text} -> {outcome}"

/-- Deliver what waits in the outbox, unless the client is offline; `remaining`
instructions are left. -/
def drainFrom (machine : Machine m) : (remaining : Nat) → Session → m Session
  | 0, session => return session
  | remaining + 1, session => do
      match session.outbox.nextDelivery (← machine.now) with
      | (none, outbox) => return { session with outbox := outbox }
      | (some instruction, outbox) => do
          let result ← dispatch machine session instruction
          printReport machine ⟨instruction, result⟩
          drainFrom machine remaining { session with outbox := outbox.pop }

def drain (machine : Machine m) (session : Session) : m Session :=
  drainFrom machine session.outbox.queue.length session

/-- Carry out a command.  The answer also tells whether the client goes on. -/
def perform (machine : Machine m) (session : Session) :
    Command → m (Session × Bool)
  | .quit => return (session, false)
  | .offline => do
      let outbox := session.outbox.goOffline (← machine.now)
      machine.printLine
        s!"offline for {outbox.interval / 1000}s, requests will be queued"
      return ({ session with outbox := outbox }, true)
  | .balance => return (← submit machine session .balance, true)
  | .pay bank account amount => do
      let order : PaymentOrder := ⟨bank, account, amount, ← machine.newTransfer⟩
      return (← submit machine session (.pay order), true)

/-- Read a line, once what waits has been delivered.  The answer also tells
whether the client goes on. -/
def step (machine : Machine m) (session : Session) (line : String) :
    m (Session × Bool) := do
  let session ← drain machine session
  match Command.parse line with
  | .ok none => return (session, true)
  | .ok (some command) => perform machine session command
  | .error message => do
      machine.printLine message
      return (session, true)

def steps (machine : Machine m) (session : Session) : List String → m Session
  | [] => return session
  | line :: rest => do
      let (next, goesOn) ← step machine session line
      if goesOn then steps machine next rest else return next

/-- Print how many instructions have not been delivered. -/
def close (machine : Machine m) (session : Session) : m Unit :=
  let waiting := session.outbox.queue.length
  if waiting = 0 then return
  else machine.printLine s!"{waiting} queued request(s) not delivered"

end Session

/-! ## The program -/

def missingToken : String :=
  "no token: pass --token or set client.token " ++
    "(see \x60gateway --issue-token <user>\x60)"

def start (machine : Machine m) (arguments : List String) : Program m Session := do
  let environment :=
    (Arguments.valueOf? "--env" arguments).getD Settings.usualEnvironment
  let loaded ← Settings.load machine environment
  loaded.openLog machine "client"
  let settings := loaded.client
  let token := (Arguments.valueOf? "--token" arguments).getD settings.token
  if token.isEmpty then Program.stop missingToken
  else do
    machine.printLine Command.summary
    return {
      house := ⟨Connector.base settings.houseAddress, token⟩
      policy := settings.retryPolicy
      outbox := { interval := settings.offlineInterval } }

def run (machine : Machine m) (arguments lines : List String) : Program m Unit := do
  let session ← start machine arguments
  let last ← (Session.steps machine session lines : m Session)
  (Session.close machine last : m Unit)

end ClearingHouse.ClientProgram
