import ClearingHouse.Proofs.Outbox.Queue
import ClearingHouse.Proofs.RunThrough

/-!
# A client and its courier

A client is given instructions, and is taken offline, at any time.  While it is
online, an instruction that it is given is sent at once, next to all others that are
under way.  A courier delivers what waits in the outbox, one instruction after the
other.  The clearing house answers an attempt with anything, at any time, or never.

A step is what one task does from one wait to the next, with all tasks on one thread.
Nobody else does anything in the middle of it.  The courier reads the flag, looks at the
front of the outbox and begins the first attempt in one step, and removes an instruction
and reports it in another.  So the client is not taken offline between the reading of the
flag and the first attempt, and nobody looks into an outbox that an instruction has left
unreported.  On several threads both could happen.
-/

namespace ClearingHouse

inductive DeliveryPhase where
  /-- The attempt with this number waits for an answer, until `deadline`. -/
  | attempting (number deadline : Nat)
  /-- The attempt with this number is to be made, at the time `wake` or later. -/
  | pausing (number wake : Nat)
  | closed (result : Except ClientFailure Answer)
  deriving DecidableEq

/-- An instruction that is sent until a result has come. -/
structure Delivery where
  instruction : Instruction
  phase : DeliveryPhase
  deriving DecidableEq

namespace Delivery

inductive Event where
  | answer (result : Except TransferFailure Answer)
  | lapse
  | retry

def begin (policy : RetryPolicy) (now : Nat) (instruction : Instruction) :
    Delivery where
  instruction := instruction
  phase :=
    match policy.start with
    | some failure => .closed (.error failure)
    | none => .attempting 1 (now + policy.timeout)

/-- The delivery after the attempt with a number has come to a result. -/
def heard (policy : RetryPolicy) (now : Nat) (delivery : Delivery) (number : Nat)
    (result : Except TransferFailure Answer) : Delivery :=
  { delivery with
    phase :=
      match policy.after number result with
      | .finished final => .closed final
      | .again pause later => .pausing later (now + pause) }

def step (policy : RetryPolicy) (now : Nat) (delivery : Delivery) :
    Event → Option Delivery
  | .answer result =>
      match delivery.phase with
      | .attempting number _ => some (delivery.heard policy now number result)
      | _ => none
  | .lapse =>
      match delivery.phase with
      | .attempting number deadline =>
          if deadline ≤ now then
            some (delivery.heard policy now number (.error .timeout))
          else none
      | _ => none
  | .retry =>
      match delivery.phase with
      | .pausing number wake =>
          if wake ≤ now then
            some { delivery with phase := .attempting number (now + policy.timeout) }
          else none
      | _ => none

def ofReport (report : DeliveryReport) : Delivery :=
  ⟨report.instruction, .closed report.result⟩

theorem instruction_of_step {policy : RetryPolicy} {now : Nat}
    {delivery later : Delivery} {event : Event}
    (stepped : delivery.step policy now event = some later) :
    later.instruction = delivery.instruction := by
  cases event with
  | answer result =>
      simp only [step] at stepped
      split at stepped <;> cases stepped
      rfl
  | lapse | retry =>
      simp only [step] at stepped
      split at stepped
      · split at stepped <;> cases stepped
        rfl
      · cases stepped

/-- Nothing happens to a delivery that is over. -/
theorem step_ofReport (policy : RetryPolicy) (now : Nat) (report : DeliveryReport)
    (event : Event) : (ofReport report).step policy now event = none := by
  cases event <;> rfl

end Delivery

inductive Courier where
  /-- Nobody has sent for him. -/
  | off
  /-- He looks into the outbox at the time `wake` or later. -/
  | resting (pause wake : Nat)
  /-- He is going to take the next instruction.  After the last one he comes back
  when a pause is over, if he is to. -/
  | ready (pause : Option Nat)
  /-- He waits for the end of the delivery with this number. -/
  | carrying (number : Nat) (pause : Option Nat)
  deriving DecidableEq

def Courier.isCarrying : Courier → Bool
  | .carrying _ _ => true
  | .off | .resting _ _ | .ready _ => false

inductive Sender where
  | caller
  | courier

/-- A client with its outbox, and all that it has sent. -/
structure Client where
  policy : RetryPolicy
  outbox : Outbox
  now : Nat := 0
  courier : Courier := .off
  /-- All deliveries that callers have begun, earliest first. -/
  sent : List Delivery := []
  /-- All deliveries that the courier has begun, earliest first. -/
  carried : List Delivery := []
  /-- What the courier has reported, earliest first. -/
  reports : List DeliveryReport := []

namespace Client

inductive Event where
  | submit (instruction : Instruction)
  /-- An instruction is put into the outbox at once. -/
  | push (instruction : Instruction)
  | goOffline
  | read
  /-- The courier is sent for, to empty the outbox once. -/
  | send
  /-- The courier is sent for, to empty the outbox again and again. -/
  | employ (pause : Nat)
  | look
  | take
  /-- The courier reports what has come of his delivery. -/
  | report
  | proceed (sender : Sender) (number : Nat) (event : Delivery.Event)
  | rest (milliseconds : Nat)

def fresh (policy : RetryPolicy) (interval : Nat) : Client where
  policy := policy
  outbox := { interval := interval }

/-- Whether the client is offline, and the client after it has been asked. -/
def read (client : Client) : Bool × Client :=
  ((client.outbox.readOffline client.now).1,
    { client with outbox := (client.outbox.readOffline client.now).2 })

def delivery (client : Client) (instruction : Instruction) : Delivery :=
  .begin client.policy client.now instruction

def submit (client : Client) (instruction : Instruction) : Client :=
  match client.outbox.submit client.now instruction with
  | (.queued, outbox) => { client with outbox := outbox }
  | (.sent, outbox) =>
      { client with
        outbox := outbox
        sent := client.sent ++ [client.delivery instruction] }

/-- The courier goes away, or comes back after a pause. -/
def dismiss (client : Client) (pause : Option Nat) : Client :=
  { client with
    courier :=
      match pause with
      | none => .off
      | some pause => .resting pause (client.now + pause) }

def look (client : Client) (pause : Nat) : Client :=
  match client.outbox.isReady client.now with
  | (true, outbox) => { client with outbox := outbox, courier := .ready (some pause) }
  | (false, outbox) => { client with outbox := outbox }.dismiss (some pause)

/-- The courier begins with the next delivery, or stops. -/
def take (client : Client) (pause : Option Nat) : Client :=
  match client.outbox.nextDelivery client.now with
  | (some instruction, outbox) =>
      { client with
        outbox := outbox
        courier := .carrying client.carried.length pause
        carried := client.carried ++ [client.delivery instruction] }
  | (none, outbox) => { client with outbox := outbox }.dismiss pause

/-- The courier reports, and his instruction leaves the outbox. -/
def report (client : Client) (pause : Option Nat) (report : DeliveryReport) :
    Client :=
  { client with
    outbox := client.outbox.pop
    courier := .ready pause
    reports := client.reports ++ [report] }

def deliveries (client : Client) : Sender → List Delivery
  | .caller => client.sent
  | .courier => client.carried

def withDeliveries (client : Client) (deliveries : List Delivery) : Sender → Client
  | .caller => { client with sent := deliveries }
  | .courier => { client with carried := deliveries }

def step (client : Client) : Event → Option Client
  | .submit instruction => some (client.submit instruction)
  | .push instruction =>
      some { client with outbox := (client.outbox.push instruction).2 }
  | .goOffline => some { client with outbox := client.outbox.goOffline client.now }
  | .read => some client.read.2
  | .send =>
      match client.courier with
      | .off => some { client with courier := .ready none }
      | _ => none
  | .employ pause =>
      match client.courier with
      | .off => some { client with courier := .resting pause client.now }
      | _ => none
  | .look =>
      match client.courier with
      | .resting pause wake =>
          if wake ≤ client.now then some (client.look pause) else none
      | _ => none
  | .take =>
      match client.courier with
      | .ready pause => some (client.take pause)
      | _ => none
  | .report =>
      match client.courier with
      | .carrying number pause =>
          match client.carried[number]? with
          | some ⟨instruction, .closed result⟩ =>
              some (client.report pause ⟨instruction, result⟩)
          | _ => none
      | _ => none
  | .proceed sender number event => do
      let delivery ← (client.deliveries sender)[number]?
      let later ← delivery.step client.policy client.now event
      return client.withDeliveries ((client.deliveries sender).set number later) sender
  | .rest milliseconds => some { client with now := client.now + milliseconds }

/-- The instructions that an event brings into the outbox. -/
def arrivals (client : Client) : Event → List Instruction
  | .submit instruction =>
      if client.read.1 && (client.outbox.push instruction).1 then [instruction] else []
  | .push instruction => if (client.outbox.push instruction).1 then [instruction] else []
  | .goOffline | .read | .send | .employ _ | .look | .take | .report | .proceed _ _ _
  | .rest _ => []

def departures (client : Client) : Event → List Nat
  | .goOffline => [client.now]
  | .submit _ | .push _ | .read | .send | .employ _ | .look | .take | .report
  | .proceed _ _ _ | .rest _ => []

variable {client next : Client} {event : Event}

inductive Changes (client : Client) : Event → Client → Prop where
  /-- An instruction is put into the outbox, unless its key is there. -/
  | pushes (event : Event) (instruction : Instruction)
      (arrives : client.arrivals event =
        if (client.outbox.push instruction).1 then [instruction] else [])
      (stays : client.departures event = []) :
      Changes client event
        { client with outbox := (client.outbox.push instruction).2 }
  | leaves :
      Changes client .goOffline
        { client with outbox := client.outbox.goOffline client.now }
  /-- Nothing happens to the outbox, apart from a reading of the flag, and nothing
  to the deliveries of the courier. -/
  | idles (event : Event) (outbox : Outbox) (courier : Courier) (sent : List Delivery)
      (quiet : client.arrivals event = []) (stays : client.departures event = [])
      (read : outbox = client.outbox ∨ outbox = client.read.2.outbox)
      (free : courier = client.courier ∨
        client.courier.isCarrying = false ∧ courier.isCarrying = false) :
      Changes client event
        { client with outbox := outbox, courier := courier, sent := sent }
  | takes (pause : Option Nat) (instruction : Instruction)
      (ready : client.courier = .ready pause) (online : client.read.1 = false)
      (first : client.outbox.queue.head? = some instruction) :
      Changes client .take
        { client.read.2 with
          courier := .carrying client.carried.length pause
          carried := client.carried ++ [client.delivery instruction] }
  | reports (number : Nat) (pause : Option Nat) (report : DeliveryReport)
      (carrying : client.courier = .carrying number pause)
      (closed : client.carried[number]? = some (.ofReport report)) :
      Changes client .report (client.report pause report)
  | proceeds (number : Nat) (happening : Delivery.Event) (delivery later : Delivery)
      (was : client.carried[number]? = some delivery)
      (stepped : delivery.step client.policy client.now happening = some later) :
      Changes client (.proceed .courier number happening)
        { client with carried := client.carried.set number later }
  | rests (milliseconds : Nat) :
      Changes client (.rest milliseconds)
        { client with now := client.now + milliseconds }

theorem changes_submit (client : Client) (instruction : Instruction) :
    client.Changes (.submit instruction) (client.submit instruction) := by
  unfold submit Outbox.submit
  cases reading : client.outbox.readOffline client.now with
  | mk offline outbox =>
    cases offline with
    | true =>
        have same := Outbox.readOffline_eq_self (congrArg Prod.fst reading)
        rw [reading] at same
        subst same
        exact .pushes _ instruction (by simp [arrivals, read, reading]) rfl
    | false =>
        exact .idles _ outbox _ _ (by simp [arrivals, read, reading]) rfl
          (Or.inr (by simp [read, reading])) (Or.inl rfl)

theorem changes_look {pause wake : Nat} (resting : client.courier = .resting pause wake) :
    client.Changes .look (client.look pause) := by
  have free : client.courier.isCarrying = false := by rw [resting, Courier.isCarrying]
  unfold look Outbox.isReady
  cases reading : client.outbox.readOffline client.now with
  | mk offline outbox =>
    have isRead : outbox = client.read.2.outbox := by simp [read, reading]
    cases offline with
    | true => exact .idles _ outbox _ _ rfl rfl (Or.inr isRead) (Or.inr ⟨free, rfl⟩)
    | false =>
        dsimp only
        cases outbox.queue.isEmpty <;>
          exact .idles _ outbox _ _ rfl rfl (Or.inr isRead) (Or.inr ⟨free, rfl⟩)

theorem changes_take {pause : Option Nat} (ready : client.courier = .ready pause) :
    client.Changes .take (client.take pause) := by
  have free : client.courier.isCarrying = false := by rw [ready, Courier.isCarrying]
  have stops (outbox : Outbox) (isRead : outbox = client.read.2.outbox) :
      client.Changes .take ({ client with outbox := outbox }.dismiss pause) := by
    refine .idles _ outbox _ _ rfl rfl (Or.inr isRead) (Or.inr ⟨free, ?_⟩)
    cases pause <;> rfl
  unfold take Outbox.nextDelivery
  have sameQueue := (Outbox.sameContent_readOffline client.outbox client.now).queue
  cases reading : client.outbox.readOffline client.now with
  | mk offline outbox =>
    have isRead : outbox = client.read.2.outbox := by simp [read, reading]
    cases offline with
    | true => exact stops outbox isRead
    | false =>
        dsimp only
        cases first : outbox.front? with
        | none => exact stops outbox isRead
        | some instruction =>
            have online : client.read.1 = false := by simp [read, reading]
            -- The reading has left the instruction at the front.
            rw [reading] at sameQueue
            subst isRead
            refine .takes pause instruction ready online ?_
            rw [← sameQueue]
            exact first

theorem changes_of_step (stepped : client.step event = some next) :
    client.Changes event next := by
  cases event with
  | submit instruction =>
      cases stepped
      exact changes_submit client instruction
  | push instruction =>
      cases stepped
      exact .pushes _ instruction rfl rfl
  | goOffline =>
      cases stepped
      exact .leaves
  | read =>
      cases stepped
      exact .idles _ _ _ _ rfl rfl (Or.inr rfl) (Or.inl rfl)
  | send =>
      simp only [step] at stepped
      split at stepped <;> cases stepped
      rename_i off
      exact .idles _ _ _ _ rfl rfl (Or.inl rfl) (Or.inr ⟨by rw [off]; rfl, rfl⟩)
  | employ pause =>
      simp only [step] at stepped
      split at stepped <;> cases stepped
      rename_i off
      exact .idles _ _ _ _ rfl rfl (Or.inl rfl) (Or.inr ⟨by rw [off]; rfl, rfl⟩)
  | look =>
      simp only [step] at stepped
      split at stepped
      · rename_i resting
        split at stepped <;> cases stepped
        exact changes_look resting
      · cases stepped
  | take =>
      simp only [step] at stepped
      split at stepped <;> cases stepped
      rename_i ready
      exact changes_take ready
  | report =>
      simp only [step] at stepped
      split at stepped
      · rename_i number pause carrying
        split at stepped <;> cases stepped
        rename_i closed
        exact .reports number pause _ carrying closed
      · cases stepped
  | proceed sender number happening =>
      simp only [step, Option.bind_eq_bind, Option.bind_eq_some_iff] at stepped
      obtain ⟨delivery, was, later, happened, returned⟩ := stepped
      cases returned
      cases sender with
      | caller => exact .idles _ _ _ _ rfl rfl (Or.inl rfl) (Or.inl rfl)
      | courier => exact .proceeds number happening delivery later was happened
  | rest milliseconds =>
      cases stepped
      exact .rests milliseconds

end Client

end ClearingHouse
