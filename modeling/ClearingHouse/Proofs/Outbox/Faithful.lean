import ClearingHouse.Proofs.Outbox.Offline
import ClearingHouse.Proofs.Sample

/-!
# Nothing gets lost in the outbox

An instruction stays at the front of the outbox while the courier delivers it.  So
what he has reported, followed by what still waits, is all that has ever come into
the outbox, in the order in which it came.  That holds while instructions come in
and the client goes offline in the middle of a delivery.
-/

namespace ClearingHouse

namespace Client

/-- The delivery that the courier waits for. -/
def underWay (client : Client) : Option Delivery :=
  match client.courier with
  | .carrying number _ => client.carried[number]?
  | .off | .resting _ _ | .ready _ => none

/-- The outbox and its courier are in order, after these instructions have arrived.
The courier has made the deliveries that he has reported, and then at most one more,
that of the instruction at the front, for whose end he waits. -/
structure Orderly (arrived : List Instruction) (client : Client) : Prop where
  keyed : client.outbox.Keyed
  inOrder : client.reports.map DeliveryReport.instruction ++ client.outbox.queue =
    arrived
  carried : client.carried =
    client.reports.map Delivery.ofReport ++ client.underWay.toList
  front : ∀ number pause, client.courier = .carrying number pause →
    number = client.reports.length ∧
      ∃ delivery, client.carried[number]? = some delivery ∧
        client.outbox.queue.head? = some delivery.instruction

variable {arrived : List Instruction} {client next : Client} {event : Event}

theorem underWay_of_not_isCarrying (free : client.courier.isCarrying = false) :
    client.underWay = none := by
  unfold underWay
  cases courier : client.courier with
  | carrying => simp [courier, Courier.isCarrying] at free
  | _ => rfl

namespace Orderly

theorem fresh (policy : RetryPolicy) (interval : Nat) :
    (fresh policy interval).Orderly [] where
  keyed := ⟨List.nodup_nil, fun _ => Iff.rfl⟩
  inOrder := rfl
  carried := rfl
  front := by nofun

/-- The courier is not concerned. -/
theorem idle (orderly : client.Orderly arrived)
    (content : client.outbox.SameContent next.outbox)
    (reports : next.reports = client.reports) (carried : next.carried = client.carried)
    (free : next.courier = client.courier ∨
      client.courier.isCarrying = false ∧ next.courier.isCarrying = false) :
    next.Orderly arrived where
  keyed := orderly.keyed.of_sameContent content
  inOrder := by
    rw [reports, content.queue]
    exact orderly.inOrder
  carried := by
    have sameWay : next.underWay = client.underWay := by
      rcases free with same | ⟨was, is⟩
      · simp only [underWay, same, carried]
      · rw [underWay_of_not_isCarrying was, underWay_of_not_isCarrying is]
    rw [carried, reports, sameWay]
    exact orderly.carried
  front := by
    intro number pause carrying
    rw [reports, carried, content.queue]
    rcases free with same | ⟨-, is⟩
    · exact orderly.front number pause (same ▸ carrying)
    · rw [carrying, Courier.isCarrying] at is
      cases is

theorem push (orderly : client.Orderly arrived) (instruction : Instruction) :
    { client with outbox := (client.outbox.push instruction).2 }.Orderly
      (arrived ++ if (client.outbox.push instruction).1 then [instruction] else []) where
  keyed := orderly.keyed.push instruction
  inOrder := by
    rw [← orderly.inOrder, List.append_assoc, Outbox.queue_push]
  carried := orderly.carried
  front := by
    intro number pause carrying
    obtain ⟨isNext, delivery, found, first⟩ := orderly.front number pause carrying
    refine ⟨isNext, delivery, found, ?_⟩
    rw [Outbox.queue_push, List.head?_append, first, Option.some_or]

theorem take (orderly : client.Orderly arrived) {pause : Option Nat}
    {instruction : Instruction} (ready : client.courier = .ready pause)
    (first : client.outbox.queue.head? = some instruction) :
    { client.read.2 with
      courier := .carrying client.carried.length pause
      carried := client.carried ++ [client.delivery instruction] }.Orderly arrived := by
  have content := Outbox.sameContent_readOffline client.outbox client.now
  have free : client.underWay = none :=
    underWay_of_not_isCarrying (by rw [ready, Courier.isCarrying])
  have carried := orderly.carried
  rw [free, Option.toList_none, List.append_nil] at carried
  refine ⟨orderly.keyed.of_sameContent content, ?_, ?_, ?_⟩
  · exact content.queue ▸ orderly.inOrder
  · simp [underWay, read, carried]
  · intro number again carrying
    cases carrying
    refine ⟨by simp [read, carried], client.delivery instruction, by simp, ?_⟩
    exact content.queue ▸ first

theorem report (orderly : client.Orderly arrived) {number : Nat} {pause : Option Nat}
    {report : DeliveryReport} (carrying : client.courier = .carrying number pause)
    (closed : client.carried[number]? = some (.ofReport report)) :
    (client.report pause report).Orderly arrived := by
  obtain ⟨rfl, delivery, found, first⟩ := orderly.front number pause carrying
  rw [closed] at found
  cases found
  refine ⟨orderly.keyed.pop, ?_, ?_, by nofun⟩
  · -- The instruction at the front is the one that has been delivered.
    obtain ⟨rest, queue⟩ := List.head?_eq_some_iff.mp first
    have inOrder := orderly.inOrder
    rw [queue] at inOrder
    simp only [Client.report, Outbox.queue_pop, queue, List.tail_cons, List.map_append,
      List.map_cons, List.map_nil, List.append_assoc]
    exact inOrder
  · have carried := orderly.carried
    simp only [underWay, carrying, closed] at carried
    simp [Client.report, underWay, carried]

/-- Only the delivery that is under way goes on. -/
theorem underWay_of_step (orderly : client.Orderly arrived) {number : Nat}
    {delivery later : Delivery} {happening : Delivery.Event}
    (was : client.carried[number]? = some delivery)
    (stepped : delivery.step client.policy client.now happening = some later) :
    number = client.reports.length ∧ client.underWay = some delivery := by
  have found := was
  rw [orderly.carried, List.getElem?_append, List.length_map] at found
  split at found
  · rw [List.getElem?_map] at found
    obtain ⟨report, -, rfl⟩ := Option.map_eq_some_iff.mp found
    rw [Delivery.step_ofReport] at stepped
    cases stepped
  · rename_i beyond
    cases under : client.underWay with
    | none => simp [under] at found
    | some current =>
        simp only [under, Option.toList_some, List.getElem?_singleton] at found
        split at found
        · cases found
          exact ⟨by omega, rfl⟩
        · cases found

theorem proceed (orderly : client.Orderly arrived) {number : Nat}
    {delivery later : Delivery} {happening : Delivery.Event}
    (was : client.carried[number]? = some delivery)
    (stepped : delivery.step client.policy client.now happening = some later) :
    { client with carried := client.carried.set number later }.Orderly arrived := by
  obtain ⟨isNext, under⟩ := orderly.underWay_of_step was stepped
  have inside := (List.getElem?_eq_some_iff.mp was).1
  have changed : (client.carried.set number later)[number]? = some later := by
    rw [List.getElem?_set_self inside]
  refine ⟨orderly.keyed, orderly.inOrder, ?_, ?_⟩
  · have carried := orderly.carried
    rw [under, Option.toList_some] at carried
    cases courier : client.courier with
    | carrying current pause =>
        obtain ⟨isCurrent, -⟩ := orderly.front current pause courier
        rw [← isNext] at isCurrent
        simp only [underWay, isCurrent, changed, Option.toList_some]
        rw [carried, List.set_append_right _ _ (by simp [isNext])]
        simp [isNext]
    | off | resting | ready => simp [underWay, courier] at under
  · intro current pause carrying
    obtain ⟨isCurrent, former, found, first⟩ := orderly.front current pause carrying
    obtain rfl : current = number := isCurrent.trans isNext.symm
    rw [was] at found
    cases found
    exact ⟨isNext, later, changed, Delivery.instruction_of_step stepped ▸ first⟩

theorem step (orderly : client.Orderly arrived)
    (stepped : client.step event = some next) :
    next.Orderly (arrived ++ client.arrivals event) := by
  cases changes_of_step stepped with
  | pushes _ instruction arrives stays =>
      rw [arrives]
      exact orderly.push instruction
  | leaves =>
      rw [arrivals, List.append_nil]
      exact orderly.idle ⟨rfl, rfl⟩ rfl rfl (Or.inl rfl)
  | idles _ outbox courier sent quiet stays read free =>
      rw [quiet, List.append_nil]
      refine orderly.idle ?_ rfl rfl free
      rcases read with rfl | rfl
      · exact ⟨rfl, rfl⟩
      · exact Outbox.sameContent_readOffline client.outbox client.now
  | takes pause instruction ready online first =>
      rw [arrivals, List.append_nil]
      exact orderly.take ready first
  | reports number pause report carrying closed =>
      rw [arrivals, List.append_nil]
      exact orderly.report carrying closed
  | proceeds number happening delivery later was happened =>
      rw [arrivals, List.append_nil]
      exact orderly.proceed was happened
  | rests milliseconds =>
      rw [arrivals, List.append_nil]
      exact orderly.idle ⟨rfl, rfl⟩ rfl rfl (Or.inl rfl)

end Orderly

def allArrivals (start : Client) (events : List Event) : List Instruction :=
  collect Client.step (fun client event _ => client.arrivals event) start events

theorem orderly_of_runThrough {policy : RetryPolicy} {interval : Nat}
    {events : List Event} {final : Client}
    (ran : runThrough Client.step (fresh policy interval) events = some final) :
    final.Orderly (allArrivals (fresh policy interval) events) := by
  refine @history_of_runThrough Client Event Client.step (fresh policy interval)
    (fun past client => client.Orderly (allArrivals (fresh policy interval) past))
    (.fresh policy interval) ?_ events final ran
  intro past client event next reached orderly stepped
  rw [allArrivals, collect_concat reached stepped]
  exact orderly.step stepped

/-- The courier begins with a delivery only while the client is online. -/
theorem online_of_carried_lt (stepped : client.step event = some next)
    (begins : client.carried.length < next.carried.length) : client.read.1 = false := by
  cases changes_of_step stepped with
  | takes pause instruction ready online first => exact online
  | proceeds => simp at begins
  | _ => exact absurd begins (Nat.lt_irrefl _)

/-- An instruction that is put off leaves its key in the outbox. -/
theorem Orderly.key_mem_submit (orderly : client.Orderly arrived)
    {instruction : Instruction}
    (queued : (client.outbox.submit client.now instruction).1 = .queued) :
    instruction.key ∈
      (client.submit instruction).outbox.queue.map Instruction.key := by
  unfold submit
  unfold Outbox.submit at queued ⊢
  cases reading : client.outbox.readOffline client.now with
  | mk offline outbox =>
    cases offline with
    | true =>
        have same := Outbox.readOffline_eq_self (congrArg Prod.fst reading)
        rw [reading] at same
        subst same
        exact orderly.keyed.key_mem_push instruction
    | false =>
        rw [reading] at queued
        cases queued

/-- What a client can be trusted with.  The run began with a client that had not done
anything. -/
structure Faithful (policy : RetryPolicy) (interval : Nat) (events : List Event)
    (final : Client) : Prop where
  /-- The keys of the instructions that wait are distinct, and the set of keys is the
  set of these. -/
  keyed : final.outbox.Keyed
  /-- Nothing that has come into the outbox has been lost, doubled or overtaken. -/
  inOrder :
    final.reports.map DeliveryReport.instruction ++ final.outbox.queue =
      allArrivals (fresh policy interval) events
  /-- The courier has delivered what he has reported, each once and with the result
  that he has reported, and beyond that at most the delivery that is under way. -/
  carried : final.carried =
    final.reports.map Delivery.ofReport ++ final.underWay.toList
  /-- An instruction that was put off left its key in the outbox. -/
  kept : Throughout Client.step (fresh policy interval) events fun client event next =>
    ∀ instruction, event = .submit instruction →
      (client.outbox.submit client.now instruction).1 = .queued →
        instruction.key ∈ next.outbox.queue.map Instruction.key
  /-- The client is offline just if it last went so less than the interval ago. -/
  offline : final.read.1 = true ↔
    ∃ since, (departureTimes (fresh policy interval) events).getLast? = some since ∧
      final.now < since + interval
  /-- Without one of the readings, the run would have come to the same answer, and to
  the same client after it. -/
  unseen : ∀ before after, events = before ++ .read :: after →
    (runThrough Client.step (fresh policy interval) (before ++ after)).map read =
      some final.read
  /-- The courier began with his deliveries while the client was online. -/
  online : Throughout Client.step (fresh policy interval) events fun client _ next =>
    client.carried.length < next.carried.length → client.read.1 = false

/-- Whatever comes in, and whenever the client goes offline, and whatever the clearing
house answers, the outbox and the courier are faithful. -/
theorem faithful_of_runThrough {policy : RetryPolicy} {interval : Nat}
    {events : List Event} {final : Client}
    (ran : runThrough Client.step (fresh policy interval) events = some final) :
    Faithful policy interval events final where
  keyed := (orderly_of_runThrough ran).keyed
  inOrder := (orderly_of_runThrough ran).inOrder
  carried := (orderly_of_runThrough ran).carried
  kept := by
    rintro before event after last next - reached stepped instruction rfl queued
    cases stepped
    exact (orderly_of_runThrough reached).key_mem_submit queued
  offline := (remembers_of_runThrough ran).read_iff
  unseen := by
    rintro before after rfl
    rw [← map_read_runThrough_of_read, ran, Option.map_some]
  online := fun _ _ _ _ _ _ _ stepped begins => online_of_carried_lt stepped begins

/-- A payment of five units. -/
def samplePayment (transfer : String) : Instruction :=
  .pay ⟨Sample.payee.bank, Sample.payee.account, Sample.payment.amount, ⟨transfer⟩⟩

/-- Two instructions wait.  During the delivery of the first, which takes two
attempts, the same payment is not let in again, another one is sent at once, and
the client goes offline.  After that the payment waits for a second time. -/
def workday : List Event :=
  [.goOffline, .submit (samplePayment "t1"), .submit .balance, .employ 3000, .look,
    .rest 15000, .read, .look, .take, .push (samplePayment "t1"),
    .submit (samplePayment "t2"), .proceed .courier 0 (.answer (.error .timeout)),
    .goOffline, .rest 1000, .proceed .courier 0 .retry, .rest 5000,
    .proceed .courier 0 .lapse, .report, .submit (samplePayment "t1"), .take,
    .rest 9000, .look, .take, .proceed .courier 1 (.answer (.error .invalidToken))]

theorem faithful_of_workday :
    ∃ final, runThrough Client.step (fresh ⟨2, 5000, 1000⟩ 15000) workday = some final ∧
      final.reports.map Delivery.ofReport =
        [⟨samplePayment "t1", .closed (.error (.timedOut 2 .timeout))⟩] ∧
      final.underWay =
        some ⟨.balance, .closed (.error (.rejected .invalidToken))⟩ ∧
      final.outbox.queue = [.balance, samplePayment "t1"] ∧
      Faithful ⟨2, 5000, 1000⟩ 15000 workday final := by
  have evaluated :
      (runThrough Client.step (fresh ⟨2, 5000, 1000⟩ 15000) workday).map (fun final =>
        (final.reports.map Delivery.ofReport, final.underWay, final.outbox.queue)) =
      some
        ([⟨samplePayment "t1", .closed (.error (.timedOut 2 .timeout))⟩],
          some ⟨.balance, .closed (.error (.rejected .invalidToken))⟩,
          [.balance, samplePayment "t1"]) := by
    decide +kernel
  obtain ⟨final, ran, outcome⟩ := Option.map_eq_some_iff.mp evaluated
  obtain ⟨reported, rest⟩ := Prod.mk.inj outcome
  obtain ⟨under, waiting⟩ := Prod.mk.inj rest
  exact ⟨final, ran, reported, under, waiting, faithful_of_runThrough ran⟩

end Client

end ClearingHouse
