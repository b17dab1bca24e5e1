import ClearingHouse.Proofs.Floor.Sound
import ClearingHouse.Proofs.Sample

/-!
# Orders that are repeated

A name that is in use is never settled a second time.  While its settlement is
under way, every further order is told so.  Once it has ended, its entry stays as
it is until a sweep finds it old enough, and every further order gets the outcome
that the entry holds, without a settlement of its own.
-/

namespace ClearingHouse

theorem JournalEntry.not_isKept {entry : JournalEntry} {now retention : Nat}
    (dropped : ¬ entry.isKept now retention = true) :
    ∃ settledAt, entry.settledAt = some settledAt ∧
      retention ≤ now - settledAt := by
  unfold isKept at dropped
  cases settled : entry.settledAt with
  | none => simp [settled] at dropped
  | some settledAt =>
      refine ⟨settledAt, rfl, ?_⟩
      simpa [settled] using dropped

theorem JournalEntry.WellFormed.outcome_of_isFinal {entry : JournalEntry}
    (wellFormed : entry.WellFormed) (final : entry.status.isFinal = true) :
    ∃ outcome, entry.outcome = some outcome := by
  cases wellFormed with
  | running transfer => cases final
  | succeeded transfer settledAt => exact ⟨_, rfl⟩
  | failed transfer failure settledAt storable => exact ⟨_, rfl⟩

/-- The four readings of an entry agree: its status, its outcome, the time at
which it ended, and whether a failure could be stored. -/
structure JournalEntry.Coherent (entry : JournalEntry) : Prop where
  running_iff : entry.status = .inProgress ↔ entry.outcome = none
  unsettled_iff : entry.outcome = none ↔ entry.settledAt = none
  succeeded_iff : entry.status = .succeeded ↔
    entry.outcome = some (.ok entry.transfer.receipt)
  failed_iff : entry.status = .failed ↔
    ∃ failure, entry.outcome = some (.error failure)
  storable : ∀ failure, entry.outcome = some (.error failure) →
    failure ≠ .busy ∧ failure ≠ .inProgress ∧
      ∀ detail, failure ≠ .unreachable detail

theorem JournalEntry.WellFormed.coherent {entry : JournalEntry}
    (wellFormed : entry.WellFormed) : entry.Coherent := by
  cases wellFormed with
  | running transfer => constructor <;> simp [JournalEntry.running]
  | succeeded transfer settledAt => constructor <;> simp
  | failed transfer failure settledAt storable =>
      constructor
      · simp
      · simp
      · simp
      · simp
      · rintro _ ⟨⟩
        refine ⟨?_, ?_, ?_⟩
        · rintro rfl
          cases storable
        · rintro rfl
          cases storable
        · rintro detail rfl
          cases storable

namespace Floor

/-- An order for a transfer whose settlement is under way is told so, whatever
its parameters. -/
theorem order_of_live {floor : Floor} {number : Nat} {run : SettlementRun}
    (sound : floor.Sound) (live : floor.IsLive number run)
    {transfer : Transfer} (same : transfer.id = run.transfer.id)
    (passed : floor.house.check transfer = .ok ()) :
    floor.order transfer = (floor, .answered (.error .inProgress)) := by
  have present := sound.live number run live
  rw [← same] at present
  simp only [order, House.receive_of_running passed present rfl]

/-- An order for a transfer that has ended gets the outcome of its entry, and
starts no settlement. -/
theorem order_of_settled {floor : Floor} {transfer : Transfer}
    {entry : JournalEntry} {outcome : Outcome}
    (present : floor.entryOf? transfer.id = some entry)
    (settled : entry.outcome = some outcome)
    (passed : floor.house.check transfer = .ok ()) :
    floor.order transfer = (floor, .answered outcome) := by
  simp only [order, House.receive_of_settled passed present settled]

/-- A step that drops an entry is a sweep that finds the entry old enough. -/
inductive Sweeps (floor : Floor) (entry : JournalEntry) : Event → Prop where
  | aged {settledAt retention : Nat} (settled : entry.settledAt = some settledAt)
      (old : settledAt + retention ≤ floor.now) :
      Sweeps floor entry (.sweep retention)

/-- One step keeps the entry of a transfer that has ended, or sweeps it. -/
theorem kept_or_swept_of_step {floor next : Floor} {event : Event}
    {id : TransferId} {entry : JournalEntry} (sound : floor.Sound)
    (present : floor.entryOf? id = some entry)
    (final : entry.status.isFinal = true)
    (stepped : floor.step event = some next) :
    next.entryOf? id = some entry ∨ floor.Sweeps entry event := by
  rcases sound.entry_of_step present stepped with
    stays | ⟨number, run, conclusion, -, -, -, rfl, -⟩ | ⟨retention, rfl, dropped⟩
  · exact Or.inl stays
  · cases final
  · right
    obtain ⟨settledAt, settled, old⟩ := JournalEntry.not_isKept dropped
    have past := sound.past id entry settledAt present settled
    exact .aged settled (by omega)

/-- The entry of a transfer that has ended stays as it is until a sweep drops it. -/
theorem kept_or_swept_of_runThrough {floor final : Floor}
    {events : List Event} {id : TransferId} {entry : JournalEntry}
    (sound : floor.Sound) (present : floor.entryOf? id = some entry)
    (ended : entry.status.isFinal = true)
    (ran : runThrough step floor events = some final) :
    final.entryOf? id = some entry ∨
      ∃ before event after swept, events = before ++ event :: after ∧
        runThrough step floor before = some swept ∧
        swept.entryOf? id = some entry ∧ swept.Sweeps entry event := by
  have kept : ∀ {floor next : Floor} {event : Event},
      floor.Sound ∧ floor.entryOf? id = some entry →
        floor.step event = some next →
          (next.Sound ∧ next.entryOf? id = some entry) ∨
            floor.Sweeps entry event := by
    rintro floor next event ⟨sound, present⟩ stepped
    rcases kept_or_swept_of_step sound present ended stepped with stays | swept
    · exact Or.inl ⟨sound.step stepped, stays⟩
    · exact Or.inr swept
  rcases holds_or_breaks_of_runThrough kept ⟨sound, present⟩ ran with
    ⟨-, stays⟩ | ⟨before, event, after, swept, split, reached, ⟨-, had⟩, aged⟩
  · exact Or.inl stays
  · exact Or.inr ⟨before, event, after, swept, split, reached, had, aged⟩

/-- What callers can rely on who order a transfer more than once. -/
structure Idempotent (floor : Floor) : Prop where
  /-- At most one settlement of a transfer is under way. -/
  single : ∀ first second firstRun secondRun,
    floor.IsLive first firstRun → floor.IsLive second secondRun →
      firstRun.transfer.id = secondRun.transfer.id → first = second
  /-- While it is, the journal turns every other claim of its name away. -/
  claimed : ∀ number run, floor.IsLive number run → ∀ transfer : Transfer,
    transfer.id = run.transfer.id →
      floor.house.journal.begin transfer = (floor.house.journal, .running)
  /-- So does the house, once an order has passed its checks. -/
  underway : ∀ number run, floor.IsLive number run → ∀ transfer : Transfer,
    transfer.id = run.transfer.id → floor.house.check transfer = .ok () →
      floor.order transfer = (floor, .answered (.error .inProgress))
  /-- An entry with an outcome stays as it is until a sweep finds it old enough. -/
  settled : ∀ id entry, floor.entryOf? id = some entry →
    entry.status.isFinal = true →
      ∀ events final, runThrough step floor events = some final →
        final.entryOf? id = some entry ∨
          ∃ before event after swept, events = before ++ event :: after ∧
            runThrough step floor before = some swept ∧
            swept.entryOf? id = some entry ∧ swept.Sweeps entry event
  /-- It answers every order for its name, and no settlement is started. -/
  replayed : ∀ (transfer : Transfer) (entry : JournalEntry),
    floor.entryOf? transfer.id = some entry → entry.status.isFinal = true →
      floor.house.check transfer = .ok () →
        ∃ outcome, entry.outcome = some outcome ∧
          floor.order transfer = (floor, .answered outcome)
  /-- A sweep drops no entry of a transfer under way. -/
  unswept : ∀ id entry retention, floor.entryOf? id = some entry →
    entry.status = .inProgress →
      (floor.sweep retention).entryOf? id = some entry
  coherent : ∀ id entry, floor.entryOf? id = some entry →
    entry.transfer.id = id ∧ entry.Coherent

theorem Sound.idempotent {floor : Floor} (sound : floor.Sound) :
    floor.Idempotent where
  single := sound.single
  claimed := by
    intro number run live transfer same
    have present := sound.live number run live
    rw [← same] at present
    simp only [Journal.begin, show
      floor.house.journal.entryOf? transfer.id = some _ from present,
      JournalEntry.running]
  underway := fun number run live transfer same passed =>
    order_of_live sound live same passed
  settled := fun id entry present ended events final ran =>
    kept_or_swept_of_runThrough sound present ended ran
  replayed := by
    intro transfer entry present ended passed
    obtain ⟨outcome, settled⟩ :=
      (sound.entries transfer.id entry present).2.outcome_of_isFinal ended
    exact ⟨outcome, settled, order_of_settled present settled passed⟩
  unswept := by
    intro id entry retention present running
    have wellFormed := (sound.entries id entry present).2
    have isRunning := wellFormed.eq_running (by rw [running]; rfl)
    rw [isRunning] at present ⊢
    exact entryOf?_sweep_running present retention
  coherent := by
    intro id entry present
    obtain ⟨filed, wellFormed⟩ := sound.entries id entry present
    exact ⟨filed, wellFormed.coherent⟩

/-- Orders may be repeated: whatever happens on a floor, no transfer is settled
twice at once, and its outcome is given to everyone who asks while the journal
keeps it. -/
theorem idempotent_of_runThrough {start final : Floor} {events : List Event}
    (opening : start.IsOpening)
    (ran : runThrough step start events = some final) : final.Idempotent :=
  (sound_of_runThrough opening ran).idempotent

/-- A payment is ordered three times, and succeeds after the second. -/
def paidOnce : List Event :=
  [.order Sample.payment, .answer 0 (.ok ()), .answer 0 (.ok ()),
    .order Sample.payment, .answer 0 (.ok ()), .answer 0 (.ok ()), .conclude 0,
    .rest 7, .order Sample.payment, .sweep 8]

theorem idempotent_of_paidOnce :
    ∃ paid swept,
      runThrough step ⟨Sample.house, 0, []⟩ paidOnce = some paid ∧
        paid.Idempotent ∧
        paid.entryOf? Sample.payment.id =
          some ⟨Sample.payment, .succeeded, some (.ok Sample.payment.receipt),
            some 0⟩ ∧
        runThrough step paid [.sweep 7] = some swept ∧
        swept.entryOf? Sample.payment.id = none := by
  have opening : Floor.IsOpening ⟨Sample.house, 0, []⟩ := ⟨rfl, rfl⟩
  have ran : runThrough step ⟨Sample.house, 0, []⟩ paidOnce = some _ := rfl
  exact ⟨_, _, ran, idempotent_of_runThrough opening ran, rfl, rfl, rfl⟩

end Floor

end ClearingHouse
