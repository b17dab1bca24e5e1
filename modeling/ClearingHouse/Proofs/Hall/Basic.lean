import ClearingHouse.Proofs.Bank.Turn
import ClearingHouse.Proofs.Floor.Basic

/-!
# A clearing house with all banks in the same program

In a hall the calls of settlements reach their banks directly.  A commit and a
release are answered at once.  A prepare that finds the account held pauses, and
meanwhile anything else can happen: other settlements go on, the caller of the
prepare stops waiting, or whoever ordered the transfer goes away.  The order in
which all this happens is open.
-/

namespace ClearingHouse

/-- A clearing house with its banks. -/
structure Hall where
  floor : Floor
  banks : Banks
  /-- For every settlement whose prepare pauses, the number of its next attempt. -/
  pauses : Nat → Option Nat

namespace Hall

/-- The pauses after one of them has begun or ended. -/
def pausesWith (hall : Hall) (number : Nat) (pause : Option Nat) :
    Nat → Option Nat :=
  fun other => if other = number then pause else hall.pauses other

/-- Give a settlement the answer that it waits for. -/
def hear (hall : Hall) (number : Nat) (answer : Except TransferFailure Unit) :
    Option Hall :=
  (hall.floor.answer number answer).map fun floor =>
    { hall with floor := floor, pauses := hall.pausesWith number none }

/-- Go on after a bank has had its turn for a settlement. -/
def digest (hall : Hall) (number : Nat) (name : BankName)
    (turn : Bank × Bank.Attempt BankReply) : Option Hall :=
  let changed := { hall with banks := hall.banks.put name turn.1 }
  match turn.2 with
  | .finished (.ok _) => changed.hear number (.ok ())
  | .finished (.error refusal) =>
      changed.hear number (.error (.ofCallFailure name (.refused refusal)))
  | .again _ later =>
      some { changed with pauses := hall.pausesWith number (some later) }

/-- Let the call of a settlement reach its bank.  A call that pauses has reached
it already, and goes on with its next attempt. -/
def call (hall : Hall) (number : Nat) : Option Hall :=
  match hall.floor.runs[number]? with
  | some ⟨transfer, .calling stage, _⟩ =>
      match Table.find? hall.banks (stage.bank transfer) with
      | some bank =>
          hall.digest number (stage.bank transfer)
            (match hall.pauses number with
            | none => bank.receive hall.floor.now (stage.call transfer)
            | some attempt => bank.resume attempt (stage.call transfer))
      | none => none
  | _ => none

/-- Stop waiting for a prepare that pauses.  The bank will not go on with it. -/
def expire (hall : Hall) (number : Nat) : Option Hall :=
  match hall.pauses number with
  | some _ => hall.hear number (.error .timeout)
  | none => none

/-- Let a bank forget the legs that were settled `retention` ago or longer. -/
def sweepLegs (hall : Hall) (name : BankName) (retention : Nat) : Option Hall :=
  (Table.find? hall.banks name).map fun bank =>
    { hall with
      banks := hall.banks.put name (bank.sweep hall.floor.now retention) }

inductive Event where
  | order (transfer : Transfer)
  | call (number : Nat)
  | expire (number : Nat)
  | conclude (number : Nat)
  | leave (number : Nat)
  | sweepJournal (retention : Nat)
  | sweepLegs (name : BankName) (retention : Nat)
  | rest (milliseconds : Nat)

/-- Whether something is forgotten in an event that has to be kept.  This is so
for the journal, and for legs if they are to be `kept` as well. -/
def Event.Forgets (kept : Bool) : Event → Prop
  | .sweepJournal _ => True
  | .sweepLegs _ _ => kept = true
  | _ => False

def step (hall : Hall) : Event → Option Hall
  | .order transfer => some { hall with floor := (hall.floor.order transfer).1 }
  | .call number => hall.call number
  | .expire number => hall.expire number
  | .conclude number =>
      (hall.floor.conclude number).map fun floor => { hall with floor := floor }
  | .leave number =>
      (hall.floor.leave number).map fun floor => { hall with floor := floor }
  | .sweepJournal retention =>
      some { hall with floor := hall.floor.sweep retention }
  | .sweepLegs name retention => hall.sweepLegs name retention
  | .rest milliseconds =>
      some { hall with floor := hall.floor.rest milliseconds }

/-- A hall in which nothing has happened yet.  Every registered bank is one of
its banks; their accounts may have any balances. -/
structure IsOpening (hall : Hall) : Prop where
  floor : hall.floor.IsOpening
  pauses : ∀ number, hall.pauses number = none
  unheld : ∀ party, hall.banks.hold? party = none
  noLeg : ∀ name transfer side, hall.banks.leg? name transfer side = none
  inside : ∀ name entry, Table.find? hall.floor.house.roster name = some entry →
    entry.connection = .inside name ∧
      ∃ bank, Table.find? hall.banks name = some bank

/-! ## What a step does -/

/-- What a settlement hears from the attempt that its bank has made. -/
inductive Heard (name : BankName) :
    Bank.Attempt BankReply → Except TransferFailure Unit → Prop where
  | done (reply : BankReply) : Heard name (.finished (.ok reply)) (.ok ())
  | refused (refusal : Refusal) :
      Heard name (.finished (.error refusal))
        (.error (.ofCallFailure name (.refused refusal)))

theorem hear_eq_some {hall next : Hall} {number : Nat}
    {answer : Except TransferFailure Unit}
    (heard : hall.hear number answer = some next) :
    ∃ floor, hall.floor.answer number answer = some floor ∧
      next =
        { hall with floor := floor, pauses := hall.pausesWith number none } := by
  obtain ⟨floor, answered, rfl⟩ := Option.map_eq_some_iff.mp heard
  exact ⟨floor, answered, rfl⟩

theorem digest_eq_some {hall next : Hall} {number : Nat} {name : BankName}
    {turn : Bank × Bank.Attempt BankReply}
    (digested : hall.digest number name turn = some next) :
    (∃ answer floor, Heard name turn.2 answer ∧
      hall.floor.answer number answer = some floor ∧
      next = ⟨floor, hall.banks.put name turn.1, hall.pausesWith number none⟩) ∨
    (∃ pause later, turn.2 = .again pause later ∧
      next = ⟨hall.floor, hall.banks.put name turn.1,
        hall.pausesWith number (some later)⟩) := by
  obtain ⟨bank, attempt⟩ := turn
  cases attempt with
  | finished result =>
      left
      cases result with
      | ok reply =>
          obtain ⟨floor, answered, rfl⟩ := hear_eq_some digested
          exact ⟨_, floor, .done reply, answered, rfl⟩
      | error refusal =>
          obtain ⟨floor, answered, rfl⟩ := hear_eq_some digested
          exact ⟨_, floor, .refused refusal, answered, rfl⟩
  | again pause later =>
      right
      cases digested
      exact ⟨pause, later, rfl, rfl⟩

theorem call_eq_some {hall next : Hall} {number : Nat}
    (called : hall.call number = some next) :
    ∃ run stage bank, hall.floor.runs[number]? = some run ∧
      run.phase = .calling stage ∧
      Table.find? hall.banks (stage.bank run.transfer) = some bank ∧
      hall.digest number (stage.bank run.transfer)
        (match hall.pauses number with
        | none => bank.receive hall.floor.now (stage.call run.transfer)
        | some attempt => bank.resume attempt (stage.call run.transfer)) =
          some next := by
  unfold Hall.call at called
  split at called
  · rename_i transfer stage awaited found
    split at called
    · rename_i bank present
      exact ⟨_, stage, bank, found, rfl, present, called⟩
    · cases called
  · cases called

theorem expire_eq_some {hall next : Hall} {number : Nat}
    (expired : hall.expire number = some next) :
    ∃ attempt floor, hall.pauses number = some attempt ∧
      hall.floor.answer number (.error .timeout) = some floor ∧
      next =
        { hall with floor := floor, pauses := hall.pausesWith number none } := by
  unfold Hall.expire at expired
  split at expired
  · rename_i attempt pausing
    obtain ⟨floor, answered, rfl⟩ := hear_eq_some expired
    exact ⟨attempt, floor, pausing, answered, rfl⟩
  · cases expired

/-- An event changes nothing on the floor, or is an event of the floor.  It is an
order, or a sweep of the journal, if that is one. -/
theorem floorEvent_of_step {hall next : Hall} {event : Event}
    (stepped : hall.step event = some next) :
    next.floor = hall.floor ∨
      ∃ floorEvent, hall.floor.step floorEvent = some next.floor ∧
        (∀ transfer, floorEvent = .order transfer → event = .order transfer) ∧
        ∀ retention, floorEvent = .sweep retention →
          event = .sweepJournal retention := by
  cases event with
  | order transfer =>
      cases stepped
      exact Or.inr ⟨.order transfer, rfl, by rintro _ ⟨⟩; rfl, nofun⟩
  | call number =>
      obtain ⟨run, stage, bank, found, calling, present, digested⟩ :=
        call_eq_some stepped
      rcases digest_eq_some digested with
        ⟨answer, floor, heard, answered, rfl⟩ | ⟨pause, later, again, rfl⟩
      · exact Or.inr ⟨.answer number answer, answered, nofun, nofun⟩
      · exact Or.inl rfl
  | expire number =>
      obtain ⟨attempt, floor, pausing, answered, rfl⟩ := expire_eq_some stepped
      exact Or.inr ⟨.answer number (.error .timeout), answered, nofun, nofun⟩
  | conclude number =>
      obtain ⟨floor, concluded, rfl⟩ := Option.map_eq_some_iff.mp stepped
      exact Or.inr ⟨.conclude number, concluded, nofun, nofun⟩
  | leave number =>
      obtain ⟨floor, left, rfl⟩ := Option.map_eq_some_iff.mp stepped
      exact Or.inr ⟨.leave number, left, nofun, nofun⟩
  | sweepJournal retention =>
      cases stepped
      exact Or.inr ⟨.sweep retention, rfl, nofun, by rintro _ ⟨⟩; rfl⟩
  | sweepLegs name retention =>
      obtain ⟨bank, present, rfl⟩ := Option.map_eq_some_iff.mp stepped
      exact Or.inl rfl
  | rest milliseconds =>
      cases stepped
      exact Or.inr ⟨.rest milliseconds, rfl, nofun, nofun⟩

end Hall

end ClearingHouse
