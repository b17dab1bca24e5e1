import ClearingHouse.Proofs.Floor.Replay
import ClearingHouse.Proofs.Hall.Regular

/-!
# Callers at the counter

Whoever calls the clearing house shows a token.  The token is resolved to a caller
anew for every call, against a clock that goes on, and what is then ordered is paid
by the caller.  At a counter this is the only way to order a transfer; everything
else goes on in the hall behind it.
-/

namespace ClearingHouse

/-- A hall, and the callers in front of it. -/
structure Counter where
  hall : Hall
  /-- The time against which tokens are checked, in seconds. -/
  clock : Nat

namespace Counter

def house (counter : Counter) : House := counter.hall.floor.house

def resolve (counter : Counter) (token : String) :
    Except TransferFailure Caller :=
  counter.house.credentials.resolve counter.clock token

def pay (counter : Counter) (token : String) (order : PaymentOrder) :
    Counter × Reception :=
  match counter.house.order counter.clock token order with
  | .ok transfer =>
      let (floor, reception) := counter.hall.floor.order transfer
      ({ counter with hall := { counter.hall with floor := floor } }, reception)
  | .error failure => (counter, .answered (.error failure))

inductive Event where
  | pay (token : String) (order : PaymentOrder)
  /-- Something happens in the hall.  It is not an order. -/
  | inside (event : Hall.Event)
  | tick (seconds : Nat)

def step (counter : Counter) : Event → Option Counter
  | .pay token order => some (counter.pay token order).1
  | .inside (.order _) => none
  | .inside event =>
      (counter.hall.step event).map fun hall => { counter with hall := hall }
  | .tick seconds => some { counter with clock := counter.clock + seconds }

end Counter

/-- The transfer that a payment order of this caller asks for. -/
def PaymentOrder.transferOf (order : PaymentOrder) (caller : Caller) : Transfer where
  id := order.transfer
  sender := caller.party
  recipient := order.recipient
  amount := order.amount

/-! ## What a step does -/

theorem House.order_of_resolve {house : House} {clock : Nat} {token : String}
    {caller : Caller}
    (resolved : house.credentials.resolve clock token = .ok caller)
    (order : PaymentOrder) :
    house.order clock token order = .ok (order.transferOf caller) := by
  simp only [House.order, resolved]
  rfl

namespace Floor

def transfers (floor : Floor) : List Transfer :=
  floor.runs.map SettlementRun.transfer

theorem transfers_withRun {floor : Floor} {number : Nat} {run changed : SettlementRun}
    (found : floor.runs[number]? = some run)
    (sameTransfer : changed.transfer = run.transfer) :
    (floor.withRun number changed).transfers = floor.transfers := by
  obtain ⟨inside, rfl⟩ := List.getElem?_eq_some_iff.mp found
  simp only [transfers, withRun, List.map_set, sameTransfer]
  rw [← List.getElem_map SettlementRun.transfer (h := by simpa using inside)]
  exact List.set_getElem_self _

/-- No event but an order starts a settlement, and none changes what is settled. -/
theorem transfers_of_step {floor next : Floor} {event : Event}
    (stepped : floor.step event = some next)
    (notOrder : ∀ transfer, event ≠ .order transfer) :
    next.transfers = floor.transfers := by
  cases event with
  | order transfer => exact absurd rfl (notOrder transfer)
  | answer number answer =>
      obtain ⟨run, stage, found, calling, rfl⟩ := answer_eq_some stepped
      exact transfers_withRun found rfl
  | conclude number =>
      obtain ⟨run, conclusion, found, concluding, rfl⟩ := conclude_eq_some stepped
      exact transfers_withRun found rfl
  | leave number =>
      obtain ⟨run, found, rfl⟩ := leave_eq_some stepped
      exact transfers_withRun found rfl
  | sweep retention | rest milliseconds =>
      cases stepped
      rfl

section Orders

variable {floor : Floor} {transfer : Transfer}

theorem order_of_refused {failure : TransferFailure}
    (refused : floor.house.check transfer = .error failure) :
    floor.order transfer = (floor, .answered (.error failure)) := by
  simp only [order, House.receive_of_refused refused]

theorem order_of_absent (passed : floor.house.check transfer = .ok ())
    (absent : floor.entryOf? transfer.id = none) :
    floor.order transfer = (floor.started transfer, .accepted) := by
  simp only [order, House.receive_of_absent passed absent]
  rfl

theorem order_of_running {entry : JournalEntry}
    (passed : floor.house.check transfer = .ok ())
    (present : floor.entryOf? transfer.id = some entry)
    (running : entry.outcome = none) :
    floor.order transfer = (floor, .answered (.error .inProgress)) := by
  simp only [order, House.receive_of_running passed present running]

end Orders

theorem transfers_started (floor : Floor) (transfer : Transfer) :
    (floor.started transfer).transfers = floor.transfers ++ [transfer] := by
  simp [transfers, started]

end Floor

theorem Hall.transfers_of_step {hall next : Hall} {event : Hall.Event}
    (stepped : hall.step event = some next)
    (notOrder : ∀ transfer, event ≠ .order transfer) :
    next.floor.transfers = hall.floor.transfers := by
  rcases floorEvent_of_step stepped with same | ⟨floorEvent, floorStepped, isOrder, -⟩
  · rw [same]
  · exact Floor.transfers_of_step floorStepped
      fun transfer same => notOrder transfer (isOrder transfer same)

namespace Counter

variable {counter next : Counter} {event : Event} {token : String}
  {order : PaymentOrder}

/-- For what reason an order is answered at once with this outcome. -/
inductive Answers (counter : Counter) (token : String) (order : PaymentOrder) :
    Outcome → Prop where
  | unresolved (failure : TransferFailure)
      (unresolved : counter.resolve token = .error failure) :
      Answers counter token order (.error failure)
  | refused (caller : Caller) (failure : TransferFailure)
      (resolved : counter.resolve token = .ok caller)
      (refused : counter.house.check (order.transferOf caller) = .error failure) :
      Answers counter token order (.error failure)
  | running (entry : JournalEntry)
      (present : counter.hall.floor.entryOf? order.transfer = some entry)
      (running : entry.outcome = none) :
      Answers counter token order (.error .inProgress)
  | settled (entry : JournalEntry) (outcome : Outcome)
      (present : counter.hall.floor.entryOf? order.transfer = some entry)
      (settled : entry.outcome = some outcome) :
      Answers counter token order outcome

/-- What becomes of an order: it is answered for a reason and changes nothing, or
starts the settlement of what the caller has asked for. -/
inductive Pays (counter : Counter) (token : String) (order : PaymentOrder) :
    Counter × Reception → Prop where
  | answered (outcome : Outcome) (answers : Answers counter token order outcome) :
      Pays counter token order (counter, .answered outcome)
  | accepted (caller : Caller) (resolved : counter.resolve token = .ok caller)
      (passed : counter.house.check (order.transferOf caller) = .ok ())
      (absent : counter.hall.floor.entryOf? order.transfer = none) :
      Pays counter token order
        ({ counter with
            hall :=
              { counter.hall with
                floor := counter.hall.floor.started (order.transferOf caller) } },
          .accepted)

theorem pays (counter : Counter) (token : String) (order : PaymentOrder) :
    counter.Pays token order (counter.pay token order) := by
  unfold pay
  cases resolved : counter.resolve token with
  | error failure =>
      have refused : counter.house.order counter.clock token order =
          .error failure := by
        simp only [House.order, show counter.house.credentials.resolve counter.clock
          token = _ from resolved]
        rfl
      simp only [refused]
      exact .answered _ (.unresolved failure resolved)
  | ok caller =>
      have asked : counter.house.order counter.clock token order =
          .ok (order.transferOf caller) := House.order_of_resolve resolved order
      simp only [asked]
      cases passed : counter.house.check (order.transferOf caller) with
      | error failure =>
          rw [Floor.order_of_refused passed]
          exact .answered _ (.refused caller failure resolved passed)
      | ok done =>
          cases present : counter.hall.floor.entryOf? order.transfer with
          | none =>
              rw [Floor.order_of_absent passed present]
              exact .accepted caller resolved passed present
          | some entry =>
              cases ended : entry.outcome with
              | none =>
                  rw [Floor.order_of_running passed present ended]
                  exact .answered _ (.running entry present ended)
              | some outcome =>
                  rw [Floor.order_of_settled present ended passed]
                  exact .answered _ (.settled entry outcome present ended)

theorem step_inside {hallEvent : Hall.Event}
    (notOrder : ∀ transfer, hallEvent ≠ .order transfer) :
    counter.step (.inside hallEvent) =
      (counter.hall.step hallEvent).map fun hall => { counter with hall := hall } := by
  cases hallEvent with
  | order transfer => exact absurd rfl (notOrder transfer)
  | _ => rfl

/-- Every step leaves the hall alone, is a step of the hall other than an order, or
starts the settlement of what a caller has asked for. -/
theorem hall_of_step (stepped : counter.step event = some next) :
    (next.hall = counter.hall ∧ ∀ hallEvent, event ≠ .inside hallEvent) ∨
    (∃ hallEvent, event = .inside hallEvent ∧
      (∀ transfer, hallEvent ≠ .order transfer) ∧
      counter.hall.step hallEvent = some next.hall) ∨
    ∃ token order caller, event = .pay token order ∧
      counter.resolve token = .ok caller ∧
      (counter.pay token order).2 = .accepted ∧
      next.hall.floor = counter.hall.floor.started (order.transferOf caller) ∧
      counter.hall.step (.order (order.transferOf caller)) = some next.hall := by
  cases event with
  | pay token order =>
      cases stepped
      have pays := counter.pays token order
      generalize paid : counter.pay token order = result at pays ⊢
      cases pays with
      | answered outcome answers => exact Or.inl ⟨rfl, nofun⟩
      | accepted caller resolved passed absent =>
          right
          right
          refine ⟨token, order, caller, rfl, resolved, by rw [paid], rfl, ?_⟩
          simp only [Hall.step, Floor.order_of_absent passed absent]
  | inside hallEvent =>
      by_cases isOrder : ∃ transfer, hallEvent = .order transfer
      · obtain ⟨transfer, rfl⟩ := isOrder
        cases stepped
      · have notOrder : ∀ transfer, hallEvent ≠ .order transfer :=
          fun transfer same => isOrder ⟨transfer, same⟩
        rw [step_inside notOrder] at stepped
        obtain ⟨hall, hallStepped, rfl⟩ := Option.map_eq_some_iff.mp stepped
        exact Or.inr (Or.inl ⟨hallEvent, rfl, notOrder, hallStepped⟩)
  | tick seconds =>
      cases stepped
      exact Or.inl ⟨rfl, nofun⟩

theorem regular_of_step (regular : counter.hall.Regular)
    (stepped : counter.step event = some next) : next.hall.Regular := by
  rcases hall_of_step stepped with
    ⟨same, -⟩ | ⟨hallEvent, -, -, hallStepped⟩ |
      ⟨token, order, caller, -, -, -, -, hallStepped⟩
  · rw [same]
    exact regular
  · exact regular.step hallStepped
  · exact regular.step hallStepped

/-! ## Accepted orders -/

/-- The order that is accepted in this step, with the caller that it comes from. -/
def accepted (counter : Counter) (event : Event) (_ : Counter) :
    List (Caller × PaymentOrder) :=
  match event with
  | .pay token order =>
      match counter.resolve token, (counter.pay token order).2 with
      | .ok caller, .accepted => [(caller, order)]
      | _, _ => []
  | .inside _ | .tick _ => []

/-- All orders that are accepted in a run, with their callers. -/
def calls (start : Counter) (events : List Event) : List (Caller × PaymentOrder) :=
  collect step accepted start events

/-- A step starts a settlement for what it accepts, and for nothing else. -/
theorem transfers_of_step (stepped : counter.step event = some next) :
    next.hall.floor.transfers = counter.hall.floor.transfers ++
      (accepted counter event next).map fun call => call.2.transferOf call.1 := by
  cases event with
  | pay token order =>
      cases stepped
      have pays := counter.pays token order
      simp only [accepted]
      generalize counter.pay token order = paid at pays
      cases pays with
      | answered outcome answers => cases counter.resolve token <;> simp
      | accepted caller resolved passed absent =>
          simp [resolved, Floor.transfers_started]
  | inside hallEvent =>
      rcases hall_of_step stepped with
        ⟨-, notInside⟩ | ⟨happens, isInside, notOrder, hallStepped⟩ |
          ⟨token, order, caller, isPay, -⟩
      · exact absurd rfl (notInside hallEvent)
      · simpa [accepted] using Hall.transfers_of_step hallStepped notOrder
      · cases isPay
  | tick seconds =>
      cases stepped
      simp [accepted]

/-- The settlements of a run are those of the orders that it has accepted. -/
theorem transfers_of_runThrough {start final : Counter} {events : List Event}
    (opening : start.hall.floor.runs = [])
    (ran : runThrough step start events = some final) :
    final.hall.floor.transfers =
      (calls start events).map fun call => call.2.transferOf call.1 := by
  refine @history_of_runThrough Counter Event step start
    (fun past counter => counter.hall.floor.transfers =
      (calls start past).map fun call => call.2.transferOf call.1)
    ?_ ?_ events final ran
  · simp [Floor.transfers, opening, calls, collect]
  · intro past counter event next reached before stepped
    rw [transfers_of_step stepped, before, calls, calls,
      collect_concat reached stepped, List.map_append]

end Counter

end ClearingHouse
