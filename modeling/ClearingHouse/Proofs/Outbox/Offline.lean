import ClearingHouse.Proofs.Outbox.Basic

/-!
# Being offline

A client is offline for an interval from the last time at which it went offline.
The flag of the outbox forgets that time when it is read too late.  Nobody can tell
whether it was read: what happens later happens all the same without the reading,
and leaves a client that the next reading cannot tell from the other.
-/

namespace ClearingHouse

namespace Client

theorem read_read (client : Client) : client.read.2.read = client.read := by
  simp only [read, Outbox.readOffline_readOffline_self]

theorem submit_read (client : Client) (instruction : Instruction) :
    client.read.2.submit instruction = client.submit instruction := by
  simp only [submit, Outbox.submit, read, delivery,
    Outbox.readOffline_readOffline_self]

theorem look_read (client : Client) (pause : Nat) :
    client.read.2.look pause = client.look pause := by
  simp only [look, Outbox.isReady, read, dismiss,
    Outbox.readOffline_readOffline_self]

theorem take_read (client : Client) (pause : Option Nat) :
    client.read.2.take pause = client.take pause := by
  simp only [take, Outbox.nextDelivery, read, delivery, dismiss,
    Outbox.readOffline_readOffline_self]

theorem read_report_read (client : Client) (pause : Option Nat)
    (report : DeliveryReport) :
    (client.read.2.report pause report).read = (client.report pause report).read := by
  simp only [Client.report, read, Outbox.pop_readOffline,
    Outbox.readOffline_readOffline_self]

/-- A client that has been asked does in every event what it would have done anyway,
up to a later reading. -/
theorem map_read_step_read (client : Client) (event : Event) :
    (client.read.2.step event).map read = (client.step event).map read := by
  have sameCourier : client.read.2.courier = client.courier := rfl
  have sameTime : client.read.2.now = client.now := rfl
  have sameCarried : client.read.2.carried = client.carried := rfl
  cases event with
  | submit instruction => simp only [step, submit_read]
  | push instruction =>
      simp only [step, read, Option.map_some, Outbox.push_readOffline,
        Outbox.readOffline_readOffline_self]
  | goOffline =>
      simp only [step, read, Outbox.readOffline_eq]
      rfl
  | read => simp only [step, Option.map_some, read_read]
  | send | employ pause =>
      simp only [step, sameCourier]
      split
      · simp only [Option.map_some, read, Outbox.readOffline_readOffline_self]
      · rfl
  | look =>
      simp only [step, sameCourier, sameTime, look_read]
  | take => simp only [step, sameCourier, take_read]
  | report =>
      simp only [step, sameCourier, sameCarried]
      split
      · split
        · simp only [Option.map_some, read_report_read]
        · rfl
      · rfl
  | proceed sender number happening =>
      cases sender <;>
        simp only [step, deliveries, withDeliveries, read, Option.bind_eq_bind,
          Option.pure_def, Option.map_bind, Function.comp_def, Option.map_some,
          Outbox.readOffline_readOffline_self]
  | rest milliseconds =>
      simp only [step, read, Option.map_some,
        Outbox.readOffline_readOffline _ (Nat.le_add_right client.now milliseconds)]

/-- Two clients that a reading makes equal stay so in every event. -/
theorem map_read_step_congr {client other : Client} (same : client.read = other.read)
    (event : Event) : (client.step event).map read = (other.step event).map read := by
  rw [← map_read_step_read client, ← map_read_step_read other, same]

theorem map_read_runThrough_congr {client other : Client}
    (same : client.read = other.read) (events : List Event) :
    (runThrough step client events).map read =
      (runThrough step other events).map read := by
  induction events generalizing client other with
  | nil => exact congrArg some same
  | cons event events ih =>
      have sameStep := map_read_step_congr same event
      simp only [runThrough]
      cases stepped : client.step event with
      | none =>
          rw [stepped, Option.map_none, eq_comm, Option.map_eq_none_iff] at sameStep
          rw [sameStep]
      | some next =>
          rw [stepped, Option.map_some, eq_comm, Option.map_eq_some_iff] at sameStep
          obtain ⟨otherNext, otherStepped, sameNext⟩ := sameStep
          rw [otherStepped]
          exact ih sameNext.symm

/-- A run comes to the same without one of its readings. -/
theorem map_read_runThrough_of_read (start : Client) (before after : List Event) :
    (runThrough step start (before ++ .read :: after)).map read =
      (runThrough step start (before ++ after)).map read := by
  simp only [runThrough_append]
  cases runThrough step start before with
  | none => rfl
  | some client => exact map_read_runThrough_congr client.read_read after

/-- What the flag tells of the times at which a client has gone offline.  It has the
last one, unless that is an interval ago. -/
structure Remembers (interval : Nat) (departures : List Nat) (client : Client) :
    Prop where
  fixed : client.outbox.interval = interval
  past : ∀ since, departures.getLast? = some since → since ≤ client.now
  flag : client.outbox.offlineSince = departures.getLast? ∨
    client.outbox.offlineSince = none ∧
      ∀ since, departures.getLast? = some since → since + interval ≤ client.now

variable {interval : Nat} {departures : List Nat} {client next : Client}
  {event : Event}

theorem read_fst (client : Client) :
    client.read.1 = client.outbox.isAway client.now := by
  rw [read, Outbox.readOffline_eq]

theorem Remembers.read_iff (remembers : client.Remembers interval departures) :
    client.read.1 = true ↔
      ∃ since, departures.getLast? = some since ∧ client.now < since + interval := by
  rw [read_fst, Outbox.isAway, remembers.fixed]
  rcases remembers.flag with known | ⟨forgotten, passed⟩
  · rw [known, Option.any_eq_true]
    refine exists_congr fun since => and_congr_right fun last => ?_
    have past := remembers.past since last
    rw [decide_eq_true_eq]
    omega
  · rw [forgotten]
    simp only [Option.any_none, Bool.false_eq_true, false_iff, not_exists, not_and]
    intro since last
    have := passed since last
    omega

/-- Nothing is forgotten while the client does not go offline and time goes on. -/
theorem Remembers.stay (remembers : client.Remembers interval departures)
    (same : client.outbox.SameFlag next.outbox) (later : client.now ≤ next.now) :
    next.Remembers interval departures where
  fixed := same.interval.trans remembers.fixed
  past := fun since last => Nat.le_trans (remembers.past since last) later
  flag := by
    rw [same.offlineSince]
    exact remembers.flag.imp_right fun ⟨forgotten, passed⟩ =>
      ⟨forgotten, fun since last => Nat.le_trans (passed since last) later⟩

theorem Remembers.read (remembers : client.Remembers interval departures) :
    client.read.2.Remembers interval departures := by
  cases away : client.read.1 with
  | true =>
      have same : client.read.2.outbox = client.outbox :=
        Outbox.readOffline_eq_self away
      exact remembers.stay ⟨congrArg _ same, congrArg _ same⟩ (Nat.le_refl _)
  | false =>
      have notAway := mt remembers.read_iff.mpr (Bool.eq_false_iff.mp away)
      refine ⟨?_, remembers.past, Or.inr ⟨?_, fun since last => ?_⟩⟩
      · rw [Client.read, Outbox.readOffline_eq]
        exact remembers.fixed
      · rw [read_fst] at away
        simp only [Client.read, Outbox.readOffline_eq, Outbox.flag, away,
          Bool.false_eq_true, if_false]
      · have := fun recent => notAway ⟨since, last, recent⟩
        exact Nat.not_lt.mp this

theorem Remembers.step (remembers : client.Remembers interval departures)
    (stepped : client.step event = some next) :
    next.Remembers interval (departures ++ client.departures event) := by
  cases changes_of_step stepped with
  | pushes _ instruction arrives stays =>
      rw [stays, List.append_nil]
      exact remembers.stay (client.outbox.sameFlag_push instruction) (Nat.le_refl _)
  | leaves =>
      have last : (departures ++ [client.now]).getLast? = some client.now := by simp
      refine ⟨remembers.fixed, ?_, Or.inl last.symm⟩
      rintro since isLast
      rw [Client.departures, last] at isLast
      exact Nat.le_of_eq (Option.some.inj isLast).symm
  | idles _ outbox courier sent quiet stays read free =>
      rw [stays, List.append_nil]
      rcases read with rfl | rfl
      · exact remembers.stay ⟨rfl, rfl⟩ (Nat.le_refl _)
      · exact remembers.read.stay ⟨rfl, rfl⟩ (Nat.le_refl _)
  | takes pause instruction ready online first =>
      rw [Client.departures, List.append_nil]
      exact remembers.read.stay ⟨rfl, rfl⟩ (Nat.le_refl _)
  | reports number pause report carrying closed =>
      rw [Client.departures, List.append_nil]
      exact remembers.stay client.outbox.sameFlag_pop (Nat.le_refl _)
  | proceeds number happening delivery later was happened =>
      rw [Client.departures, List.append_nil]
      exact remembers.stay ⟨rfl, rfl⟩ (Nat.le_refl _)
  | rests milliseconds =>
      rw [Client.departures, List.append_nil]
      exact remembers.stay ⟨rfl, rfl⟩ (Nat.le_add_right _ _)

/-- When a run has taken a client offline, earliest first. -/
def departureTimes (start : Client) (events : List Event) : List Nat :=
  collect step (fun client event _ => client.departures event) start events

/-- After every run, the flag tells of the last time at which the client has gone
offline. -/
theorem remembers_of_runThrough {policy : RetryPolicy} {events : List Event}
    {final : Client}
    (ran : runThrough Client.step (fresh policy interval) events = some final) :
    final.Remembers interval (departureTimes (fresh policy interval) events) := by
  refine @history_of_runThrough Client Event Client.step (fresh policy interval)
    (fun past client =>
      client.Remembers interval (departureTimes (fresh policy interval) past))
    ⟨rfl, fun _ never => (by cases never), Or.inl rfl⟩ ?_ events final ran
  intro past client event next reached remembers stepped
  rw [departureTimes, collect_concat reached stepped]
  exact remembers.step stepped

end Client

end ClearingHouse
