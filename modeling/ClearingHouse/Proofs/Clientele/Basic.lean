import ClearingHouse.Client.Delivery
import ClearingHouse.Proofs.Counter.Basic
import ClearingHouse.Proofs.Hall.Moved

/-!
# Clients in front of a counter

A payment that a client has been told to make is its errand.  An attempt shows the
token of the client at the counter.  If the order is accepted, the client waits for
the settlement, but no longer than its policy allows; then it goes away, and the
settlement goes on without it.  After a failure that may pass there may be a further
attempt.  Every other result ends the errand, and is what the client is told.

No two errands are about transfers of one name.  Nothing that has happened at the
clearing house is forgotten.
-/

namespace ClearingHouse

inductive ErrandPhase where
  /-- The attempt with this number is to be made, at the time `wake` or later. -/
  | due (number wake : Nat)
  /-- The attempt with this number waits for a settlement, until `deadline`. -/
  | waiting (number settlement deadline : Nat)
  | closed (result : Except ClientFailure Answer)
  deriving DecidableEq

/-- A payment that a client has been told to make. -/
structure Errand where
  policy : RetryPolicy
  /-- The token that all attempts show. -/
  token : String
  order : PaymentOrder
  phase : ErrandPhase

namespace Errand

def id (errand : Errand) : TransferId := errand.order.transfer

def begin (policy : RetryPolicy) (token : String) (order : PaymentOrder)
    (now : Nat) : Errand where
  policy := policy
  token := token
  order := order
  phase :=
    match policy.start with
    | some failure => .closed (.error failure)
    | none => .due 1 now

/-- What a client is answered when a payment has come to an outcome. -/
def answerOf (outcome : Outcome) : Except TransferFailure Answer :=
  outcome.map fun receipt => .paid (.ofReceipt receipt)

/-- The errand after the attempt with a number has come to an outcome. -/
def heard (errand : Errand) (now number : Nat) (outcome : Outcome) : Errand :=
  { errand with
    phase :=
      match errand.policy.after number (answerOf outcome) with
      | .finished result => .closed result
      | .again pause later => .due later (now + pause) }

end Errand

/-- Whether a hall goes on by itself in an event: nobody orders anything or goes
away, and nothing is forgotten. -/
def Hall.Event.goesOn : Hall.Event → Bool
  | .call _ | .expire _ | .conclude _ | .rest _ => true
  | .order _ | .leave _ | .sweepJournal _ | .sweepLegs _ _ => false

namespace Hall.Event

theorem ne_order_of_goesOn {event : Hall.Event} (goesOn : event.goesOn = true)
    (transfer : Transfer) : event ≠ .order transfer := by
  rintro rfl
  cases goesOn

theorem not_forgets_of_goesOn {event : Hall.Event} (goesOn : event.goesOn = true) :
    ¬ event.Forgets true := by
  cases event with
  | call number | expire number | conclude number | rest milliseconds => exact id
  | order transfer | leave number => cases goesOn
  | sweepJournal retention | sweepLegs name retention => cases goesOn

end Hall.Event

/-- A counter, and all errands that clients have begun, earliest first. -/
structure Clientele where
  counter : Counter
  errands : List Errand

namespace Clientele

def hall (clientele : Clientele) : Hall := clientele.counter.hall

def now (clientele : Clientele) : Nat := clientele.hall.floor.now

/-- The clientele after an errand has gone on, at a counter that may have
changed. -/
def withErrand (clientele : Clientele) (counter : Counter) (index : Nat)
    (errand : Errand) : Clientele :=
  ⟨counter, clientele.errands.set index errand⟩

/-- Begin an errand.  Its transfer must have a name of its own. -/
def dispatch (clientele : Clientele) (policy : RetryPolicy) (token : String)
    (order : PaymentOrder) : Option Clientele :=
  if ∃ errand ∈ clientele.errands, errand.id = order.transfer then none
  else
    some { clientele with
      errands := clientele.errands ++
        [.begin policy token order clientele.now] }

def attempt (clientele : Clientele) (index : Nat) : Option Clientele :=
  match clientele.errands[index]? with
  | some ⟨policy, token, order, .due number wake⟩ =>
      let errand : Errand := ⟨policy, token, order, .due number wake⟩
      if wake ≤ clientele.now then
        match clientele.counter.pay token order with
        | (counter, .accepted) =>
            let settlement := clientele.hall.floor.runs.length
            let deadline := clientele.now + policy.timeout
            some (clientele.withErrand counter index
              { errand with phase := .waiting number settlement deadline })
        | (counter, .answered outcome) =>
            some (clientele.withErrand counter index
              (errand.heard clientele.now number outcome))
      else none
  | _ => none

/-- Hear how the settlement has ended for which an attempt waits. -/
def hear (clientele : Clientele) (index : Nat) : Option Clientele :=
  match clientele.errands[index]? with
  | some ⟨policy, token, order, .waiting number settlement deadline⟩ =>
      let errand : Errand := ⟨policy, token, order, .waiting number settlement deadline⟩
      match clientele.hall.floor.runs[settlement]? with
      | some ⟨_, .ended outcome, _⟩ =>
          some (clientele.withErrand clientele.counter index
            (errand.heard clientele.now number outcome))
      | _ => none
  | _ => none

/-- Stop waiting for a settlement once an attempt has taken too long. -/
def lapse (clientele : Clientele) (index : Nat) : Option Clientele :=
  match clientele.errands[index]? with
  | some ⟨policy, token, order, .waiting number settlement deadline⟩ =>
      let errand : Errand := ⟨policy, token, order, .waiting number settlement deadline⟩
      if deadline ≤ clientele.now then
        (clientele.counter.step (.inside (.leave settlement))).map fun counter =>
          clientele.withErrand counter index
            (errand.heard clientele.now number (.error .timeout))
      else none
  | _ => none

inductive Event where
  | dispatch (policy : RetryPolicy) (token : String) (order : PaymentOrder)
  | attempt (index : Nat)
  | hear (index : Nat)
  | lapse (index : Nat)
  /-- The hall behind the counter goes on. -/
  | inside (event : Hall.Event)
  /-- The clock goes on against which tokens are checked. -/
  | tick (seconds : Nat)

def step (clientele : Clientele) : Event → Option Clientele
  | .dispatch policy token order => clientele.dispatch policy token order
  | .attempt index => clientele.attempt index
  | .hear index => clientele.hear index
  | .lapse index => clientele.lapse index
  | .inside event =>
      if event.goesOn then
        (clientele.counter.step (.inside event)).map fun counter =>
          { clientele with counter := counter }
      else none
  | .tick seconds =>
      (clientele.counter.step (.tick seconds)).map fun counter =>
        { clientele with counter := counter }

/-- No client has begun an errand yet, and nothing has happened in the hall. -/
structure IsOpening (clientele : Clientele) : Prop where
  hall : clientele.hall.IsOpening
  errands : clientele.errands = []

/-- What a step moves for the transfer with a name. -/
def movedBy (id : TransferId) (clientele : Clientele) (event : Event)
    (next : Clientele) : List (Party × Int) :=
  match event with
  | .inside event => Hall.movedBy id clientele.hall event next.hall
  | _ => []

/-- All that a run moves for the transfer with a name, in the order in which it is
moved. -/
def moved (id : TransferId) (start : Clientele) (events : List Event) :
    List (Party × Int) :=
  collect step (movedBy id) start events

end Clientele

/-! ## What a step does -/

namespace Clientele

variable {clientele next : Clientele} {event : Event}

inductive Changes (clientele : Clientele) : Event → Clientele → Prop where
  | dispatched (policy : RetryPolicy) (token : String) (order : PaymentOrder)
      (fresh : ∀ errand ∈ clientele.errands, errand.id ≠ order.transfer) :
      Changes clientele (.dispatch policy token order)
        { clientele with
          errands := clientele.errands ++ [.begin policy token order clientele.now] }
  | answered (index number wake : Nat) (errand : Errand) (outcome : Outcome)
      (found : clientele.errands[index]? = some errand)
      (due : errand.phase = .due number wake)
      (answers : clientele.counter.Answers errand.token errand.order outcome) :
      Changes clientele (.attempt index)
        (clientele.withErrand clientele.counter index
          (errand.heard clientele.now number outcome))
  | accepted (index number wake deadline : Nat) (errand : Errand) (caller : Caller)
      (counter : Counter) (found : clientele.errands[index]? = some errand)
      (due : errand.phase = .due number wake)
      (resolved : clientele.counter.resolve errand.token = .ok caller)
      (passed :
        clientele.counter.house.check (errand.order.transferOf caller) = .ok ())
      (absent : clientele.hall.floor.entryOf? errand.id = none)
      (started : counter =
        { clientele.counter with
          hall :=
            { clientele.hall with
              floor :=
                clientele.hall.floor.started (errand.order.transferOf caller) } }) :
      Changes clientele (.attempt index)
        (clientele.withErrand counter index
          { errand with
            phase :=
              .waiting number clientele.hall.floor.runs.length deadline })
  | heard (index number settlement deadline : Nat) (errand : Errand)
      (run : SettlementRun) (outcome : Outcome)
      (found : clientele.errands[index]? = some errand)
      (waiting : errand.phase = .waiting number settlement deadline)
      (present : clientele.hall.floor.runs[settlement]? = some run)
      (ended : run.phase = .ended outcome) :
      Changes clientele (.hear index)
        (clientele.withErrand clientele.counter index
          (errand.heard clientele.now number outcome))
  | lapsed (index number settlement deadline : Nat) (errand : Errand) (hall : Hall)
      (found : clientele.errands[index]? = some errand)
      (waiting : errand.phase = .waiting number settlement deadline)
      (left : clientele.hall.step (.leave settlement) = some hall) :
      Changes clientele (.lapse index)
        (clientele.withErrand { clientele.counter with hall := hall } index
          (errand.heard clientele.now number (.error .timeout)))
  | goneOn (event : Hall.Event) (hall : Hall) (goesOn : event.goesOn = true)
      (stepped : clientele.hall.step event = some hall) :
      Changes clientele (.inside event)
        { clientele with counter := { clientele.counter with hall := hall } }
  | ticked (seconds : Nat) :
      Changes clientele (.tick seconds)
        { clientele with
          counter :=
            { clientele.counter with clock := clientele.counter.clock + seconds } }

theorem changes_of_attempt {index : Nat}
    (stepped : clientele.attempt index = some next) :
    Changes clientele (.attempt index) next := by
  unfold attempt at stepped
  split at stepped
  · rename_i policy token order number wake found
    split at stepped
    · have pays := clientele.counter.pays token order
      cases paid : clientele.counter.pay token order with
      | mk counter reception =>
          rw [paid] at pays
          simp only [paid] at stepped
          cases pays with
          | answered outcome answers =>
              cases stepped
              exact .answered index number wake _ outcome found rfl answers
          | accepted caller resolved passed absent =>
              cases stepped
              exact .accepted index number wake _ _ caller _ found rfl resolved passed
                absent rfl
    · cases stepped
  · cases stepped

theorem changes_of_hear {index : Nat} (stepped : clientele.hear index = some next) :
    Changes clientele (.hear index) next := by
  unfold hear at stepped
  split at stepped
  · rename_i policy token order number settlement deadline found
    simp only at stepped
    split at stepped
    · rename_i transfer outcome awaited present
      cases stepped
      exact .heard index number settlement deadline _ _ outcome found rfl present rfl
    · cases stepped
  · cases stepped

theorem changes_of_lapse {index : Nat} (stepped : clientele.lapse index = some next) :
    Changes clientele (.lapse index) next := by
  unfold lapse at stepped
  split at stepped
  · rename_i policy token order number settlement deadline found
    simp only at stepped
    split at stepped
    · obtain ⟨counter, counterStepped, rfl⟩ := Option.map_eq_some_iff.mp stepped
      rw [Counter.step_inside (by rintro transfer ⟨⟩)] at counterStepped
      obtain ⟨hall, left, rfl⟩ := Option.map_eq_some_iff.mp counterStepped
      exact .lapsed index number settlement deadline _ hall found rfl left
    · cases stepped
  · cases stepped

theorem changes_of_step (stepped : clientele.step event = some next) :
    Changes clientele event next := by
  cases event with
  | dispatch policy token order =>
      simp only [step, dispatch] at stepped
      split at stepped
      · cases stepped
      · rename_i fresh
        cases stepped
        exact .dispatched policy token order
          fun errand member same => fresh ⟨errand, member, same⟩
  | attempt index => exact changes_of_attempt stepped
  | hear index => exact changes_of_hear stepped
  | lapse index => exact changes_of_lapse stepped
  | inside event =>
      simp only [step] at stepped
      split at stepped
      · rename_i goesOn
        obtain ⟨counter, counterStepped, rfl⟩ := Option.map_eq_some_iff.mp stepped
        rw [Counter.step_inside (Hall.Event.ne_order_of_goesOn goesOn)]
          at counterStepped
        obtain ⟨hall, hallStepped, rfl⟩ := Option.map_eq_some_iff.mp counterStepped
        exact .goneOn event hall goesOn hallStepped
      · cases stepped
  | tick seconds =>
      cases stepped
      exact .ticked seconds

end Clientele

end ClearingHouse
