import ClearingHouse.Api.House
import ClearingHouse.Rehearsal.BankPlay
import ClearingHouse.Rehearsal.Town

/-!
# Rehearsals of the clearing house

A script registers banks, orders transfers, asks for balances, and disturbs the
calls to the banks.  A settlement goes on when the caller who ordered it has
been dropped; if it breaks off, the caller who waits for it drops its entry.
-/

namespace ClearingHouse.Rehearsal

inductive HouseAction where
  | register (registration : Registration)
  | pay (token : String) (order : PaymentOrder)
  | execute (transfer : Transfer)
  | balance (token : String)
  | authenticate (token : String)
  | entry (transfer : TransferId)
  | sweep (retention : Nat)
  | sweeper (interval retention : Nat)
  | resolve (name : BankName)
  | bank (name : BankName) (action : BankAction)
  | http (request : Http.Request)
  /-- Disturb the calls of a kind to a bank, for one side or for every side
  without a fault of its own. -/
  | disturb (bank : BankName) (kind : CallKind) (side : Option Side)
      (fault : Fault)
  | undisturb (bank : BankName)

inductive HouseReport where
  | nothing
  | registered (result : Except TransferFailure Unit)
  | outcome (outcome : Outcome)
  | balance (result : Except TransferFailure (Caller × Amount))
  | caller (result : Except TransferFailure Caller)
  | entry (entry : Option JournalEntry)
  | count (number : Nat)
  | resolved (result : Except TransferFailure BankName)
  | bank (report : BankReport)
  | response (response : Http.Response)

/-- How the caller wants to be answered: directly, or over HTTP to a request with
this method. -/
inductive Channel where
  | direct
  | http (method : String)

inductive HouseTask where
  | starting (action : HouseAction)
  | awaiting (number : Nat) (transfer : TransferId) (channel : Channel)
  | enquiring (caller : Caller) (call : OpenCall) (channel : Channel)
  | sweeping (wake interval retention : Nat)
  | banking (bank : BankName) (task : BankTask)

namespace Channel

def outcome (channel : Channel) (outcome : Outcome) : HouseReport :=
  match channel with
  | .direct => .outcome outcome
  | .http method => .response (Api.shown method (Api.paymentResponse outcome))

def balance (channel : Channel)
    (result : Except TransferFailure (Caller × Amount)) : HouseReport :=
  match channel with
  | .direct => .balance result
  | .http method => .response (Api.shown method (Api.balanceResponse result))

end Channel

abbrev HouseTurn : Type := Town × Turn HouseTask HouseReport

def reporting (town : Town) (report : HouseReport) : HouseTurn :=
  (town, .finished report)

/-- Order a transfer, and wait for its settlement if it has to be settled. -/
def executeTurn (town : Town) (channel : Channel) (transfer : Transfer) :
    HouseTurn :=
  match town.house.receive transfer with
  | (house, .answered outcome) =>
      reporting { town with house := house } (channel.outcome outcome)
  | (house, .accepted) =>
      let (next, number) := { town with house := house }.startRun transfer
      (next, .waiting (.awaiting number transfer.id channel) none)

def payTurn (town : Town) (channel : Channel) (token : String)
    (order : PaymentOrder) : HouseTurn :=
  match town.house.order town.clock token order with
  | .error failure => reporting town (channel.outcome (.error failure))
  | .ok transfer => executeTurn town channel transfer

def enquiryTurn (caller : Caller) (channel : Channel) :
    Town × CallTurn → HouseTurn
  | (town, .broken) => (town, .broken)
  | (town, .waiting later wake) =>
      (town, .waiting (.enquiring caller later channel) (some wake))
  | (town, .answered (.error failure)) =>
      reporting town (channel.balance (.error failure))
  | (town, .answered (.ok (.balance amount))) =>
      reporting town (channel.balance (.ok (caller, amount)))
  | (town, .answered (.ok .done)) =>
      reporting town (channel.balance (.ok (caller, Amount.zero)))

def balanceTurn (now : Nat) (town : Town) (channel : Channel)
    (token : String) : HouseTurn :=
  match town.house.enquirer town.clock token with
  | .error failure => reporting town (channel.balance (.error failure))
  | .ok caller =>
      enquiryTurn caller channel
        (town.makeCall now caller.bank (.balance caller.account))

def registerTurn (town : Town) (registration : Registration) :
    Town × Except TransferFailure Unit :=
  match town.house.register town.connector registration with
  | .ok house => ({ town with house := house }, .ok ())
  | .error failure => (town, .error failure)

def httpTurn (now : Nat) (town : Town) (request : Http.Request) : HouseTurn :=
  let channel : Channel := .http request.method
  let respond (response : Http.Response) : HouseReport :=
    .response (Api.shown request.method response)
  match Api.houseCall request with
  | .error response => reporting town (respond response)
  | .ok .health =>
      reporting town (respond (Api.successResponse (Health.ofHouse town.house)))
  | .ok (.register registration) =>
      let (next, result) := registerTurn town registration
      reporting next (respond (Api.registrationResponse result))
  | .ok (.pay (.ok token) order) => payTurn town channel token order
  | .ok (.pay (.error failure) _) =>
      reporting town (channel.outcome (.error failure))
  | .ok (.balance (.ok token)) => balanceTurn now town channel token
  | .ok (.balance (.error failure)) =>
      reporting town (channel.balance (.error failure))

def bankingTurn (now : Nat) (town : Town) (name : BankName) (task : BankTask) :
    HouseTurn :=
  match town.banks.find? name with
  | none => reporting town .nothing
  | some bank =>
      let (next, turn) := bankTurn now bank task
      let moved := { town with banks := town.banks.insert name next }
      match turn with
      | .finished report => reporting moved (.bank report)
      | .broken => (moved, .broken)
      | .waiting later wake => (moved, .waiting (.banking name later) wake)

def sweepJournalTurn (now : Nat) (town : Town) (wake interval retention : Nat) :
    HouseTurn :=
  if wake ≤ now then
    ({ town with house := town.house.sweep now retention },
      .waiting (.sweeping (now + interval) interval retention) (some (now + interval)))
  else (town, .waiting (.sweeping wake interval retention) (some wake))

def performHouse (now : Nat) (town : Town) : HouseAction → HouseTurn
  | .register registration =>
      let (next, result) := registerTurn town registration
      reporting next (.registered result)
  | .pay token order => payTurn town .direct token order
  | .execute transfer => executeTurn town .direct transfer
  | .balance token => balanceTurn now town .direct token
  | .authenticate token =>
      reporting town (.caller (town.house.credentials.resolve town.clock token))
  | .entry transfer => reporting town (.entry (town.house.journal.entryOf? transfer))
  | .sweep retention =>
      let house := town.house.sweep now retention
      let swept := Table.size town.house.journal - Table.size house.journal
      reporting { town with house := house } (.count swept)
  | .sweeper interval retention =>
      if interval = 0 then (town, .broken)
      else sweepJournalTurn now town now interval retention
  | .resolve name =>
      reporting town (.resolved ((town.house.roster.resolve name).map Connection.bank))
  | .bank name action => bankingTurn now town name (.starting action)
  | .http request => httpTurn now town request
  | .disturb bank kind side fault =>
      let faults := (town.faults.find? bank).getD Table.empty
      reporting
        { town with
          faults := town.faults.insert bank (Table.insert faults (kind, side) fault) }
        .nothing
  | .undisturb bank =>
      reporting { town with faults := town.faults.erase bank } .nothing

def houseTurn (now : Nat) (town : Town) : HouseTask → HouseTurn
  | .starting action => performHouse now town action
  | .awaiting number transfer channel =>
      match town.ended.find? number with
      | none => (town, .waiting (.awaiting number transfer channel) none)
      | some (some outcome) => reporting town (channel.outcome outcome)
      | some none =>
          reporting { town with house := town.house.abandon transfer }
            (channel.outcome (.error House.brokenFailure))
  | .enquiring caller call channel =>
      enquiryTurn caller channel (town.callTurn now call)
  | .sweeping wake interval retention =>
      sweepJournalTurn now town wake interval retention
  | .banking name task => bankingTurn now town name task

def housePlay : Play Town HouseAction HouseTask HouseReport where
  begin := fun _ _ action => .starting action
  turn := houseTurn
  background := fun now town => town.background now

/-- The surroundings of a clearing house at the start of a rehearsal. -/
structure Setting where
  credentials : Credentials
  callTimeout : Nat := 5000
  clock : Nat
  banks : List Bank
  /-- The names of the banks that agree to everything. -/
  agreeing : List BankName
  /-- Whether all banks are registered before the script begins. -/
  registered : Bool := true

namespace Setting

def bankAddress (name : BankName) : String := s!"local://{name.text}"

def town (setting : Setting) : Town :=
  let bare : Town :=
    { house := .opening setting.credentials setting.callTimeout
      clock := setting.clock
      banks := Table.ofList (setting.banks.map fun bank => (bank.name, bank))
      attached := Table.ofList (setting.banks.map fun bank =>
        (bankAddress bank.name, bank.name))
      faults := Table.empty
      notes := Table.empty
      runs := Table.empty
      ended := Table.empty
      nextRun := 0 }
  let registrations : List Registration :=
    (setting.banks.map fun bank => ⟨bank.name, bankAddress bank.name⟩) ++
      setting.agreeing.map fun name => ⟨name, agreeingScheme ++ name.text⟩
  if setting.registered then
    registrations.foldl
      (fun town registration => (registerTurn town registration).1) bare
  else bare

end Setting

def rehearseHouse (setting : Setting) (script : List (Step HouseAction)) :
    Option (List (Frame Town HouseReport)) :=
  run housePlay Town.withoutNotes (.initial setting.town) script

end ClearingHouse.Rehearsal
