import ClearingHouse.Client.Outbox
import Mathlib.Data.List.Nodup

/-!
# The outbox and its set of keys

The set of keys goes along with the instructions that wait: a key comes in with its
instruction, and goes when that instruction has gone.  No two keys are equal, so the
set then says of every key whether an instruction with it is waiting.
-/

namespace ClearingHouse

namespace Outbox

variable {outbox : Outbox}

/-- The keys of the instructions that wait are distinct, and are the ones in the
set. -/
structure Keyed (outbox : Outbox) : Prop where
  distinct : (outbox.queue.map Instruction.key).Nodup
  mem_keys : ∀ key, key ∈ outbox.keys ↔ key ∈ outbox.queue.map Instruction.key

structure SameContent (outbox other : Outbox) : Prop where
  queue : other.queue = outbox.queue
  keys : other.keys = outbox.keys

theorem Keyed.of_sameContent {other : Outbox} (keyed : outbox.Keyed)
    (same : outbox.SameContent other) : other.Keyed where
  distinct := by
    rw [same.queue]
    exact keyed.distinct
  mem_keys := by
    rw [same.queue, same.keys]
    exact keyed.mem_keys

theorem sameContent_readOffline (outbox : Outbox) (now : Nat) :
    outbox.SameContent (outbox.readOffline now).2 := by
  unfold readOffline
  split
  · exact ⟨rfl, rfl⟩
  · split <;> exact ⟨rfl, rfl⟩

/-- A push puts its instruction at the end, or leaves the outbox as it is because the
key is there. -/
theorem push_cases (outbox : Outbox) (instruction : Instruction) :
    instruction.key ∉ outbox.keys ∧
        outbox.push instruction = (true, outbox.append instruction) ∨
      instruction.key ∈ outbox.keys ∧ outbox.push instruction = (false, outbox) := by
  by_cases held : instruction.key ∈ outbox.keys
  · exact Or.inr ⟨held, by simp [push, holds, held]⟩
  · exact Or.inl ⟨held, by simp [push, holds, held]⟩

theorem queue_push (outbox : Outbox) (instruction : Instruction) :
    (outbox.push instruction).2.queue =
      outbox.queue ++ if (outbox.push instruction).1 then [instruction] else [] := by
  rcases push_cases outbox instruction with ⟨-, pushed⟩ | ⟨-, pushed⟩
  · simp [pushed, append]
  · simp [pushed]

theorem Keyed.append (keyed : outbox.Keyed) {instruction : Instruction}
    (isNew : instruction.key ∉ outbox.keys) : (outbox.append instruction).Keyed where
  distinct := by
    have notWaiting := mt (keyed.mem_keys _).mpr isNew
    simp only [Outbox.append, List.map_append, List.map_cons, List.map_nil]
    rw [← List.concat_eq_append]
    exact keyed.distinct.concat notWaiting
  mem_keys := by
    intro key
    simp only [Outbox.append, List.map_append, List.map_cons, List.map_nil,
      List.mem_append, List.mem_cons, List.not_mem_nil, or_false, keyed.mem_keys key]
    exact or_comm

theorem Keyed.push (keyed : outbox.Keyed) (instruction : Instruction) :
    (outbox.push instruction).2.Keyed := by
  rcases push_cases outbox instruction with ⟨isNew, pushed⟩ | ⟨-, pushed⟩
  · rw [pushed]
    exact keyed.append isNew
  · rw [pushed]
    exact keyed

/-- Whether or not it was appended, an instruction with its key is waiting after a
push. -/
theorem Keyed.key_mem_push (keyed : outbox.Keyed) (instruction : Instruction) :
    instruction.key ∈ (outbox.push instruction).2.queue.map Instruction.key := by
  rcases push_cases outbox instruction with ⟨-, pushed⟩ | ⟨held, pushed⟩
  · simp [pushed, Outbox.append]
  · rw [pushed]
    exact (keyed.mem_keys _).mp held

theorem queue_pop (outbox : Outbox) : outbox.pop.queue = outbox.queue.tail := by
  unfold pop
  split
  · rename_i empty
    rw [empty, List.tail_nil]
  · rename_i first rest waiting
    rw [waiting, List.tail_cons]

theorem Keyed.pop (keyed : outbox.Keyed) : outbox.pop.Keyed := by
  unfold Outbox.pop
  split
  · exact keyed
  · rename_i first rest waiting
    have distinct := keyed.distinct
    have mem_keys := keyed.mem_keys
    rw [waiting, List.map_cons] at distinct mem_keys
    obtain ⟨firstGone, restDistinct⟩ := List.nodup_cons.mp distinct
    refine ⟨restDistinct, fun key => ?_⟩
    -- The key that goes is not that of another instruction.
    simp only [List.mem_filter, mem_keys key, List.mem_cons, bne_iff_ne, ne_eq]
    constructor
    · rintro ⟨isFirst | isLater, notFirst⟩
      · exact absurd isFirst notFirst
      · exact isLater
    · intro isLater
      refine ⟨Or.inr isLater, ?_⟩
      rintro rfl
      exact firstGone isLater

structure SameFlag (outbox other : Outbox) : Prop where
  interval : other.interval = outbox.interval
  offlineSince : other.offlineSince = outbox.offlineSince

theorem sameFlag_push (outbox : Outbox) (instruction : Instruction) :
    outbox.SameFlag (outbox.push instruction).2 := by
  rcases push_cases outbox instruction with ⟨-, pushed⟩ | ⟨-, pushed⟩ <;>
    · rw [pushed]
      exact ⟨rfl, rfl⟩

theorem sameFlag_pop (outbox : Outbox) : outbox.SameFlag outbox.pop := by
  unfold pop
  split <;> exact ⟨rfl, rfl⟩

/-- Whether the client has gone offline, and less than the interval ago. -/
def isAway (outbox : Outbox) (now : Nat) : Bool :=
  outbox.offlineSince.any fun since => decide (now - since < outbox.interval)

/-- The flag without a time that has passed. -/
def flag (outbox : Outbox) (now : Nat) : Option Nat :=
  if outbox.isAway now then outbox.offlineSince else none

theorem readOffline_eq (outbox : Outbox) (now : Nat) :
    outbox.readOffline now =
      (outbox.isAway now, { outbox with offlineSince := outbox.flag now }) := by
  obtain ⟨interval, queue, keys, since⟩ := outbox
  cases since with
  | none => rfl
  | some since =>
      by_cases passed : interval ≤ now - since
      · simp [readOffline, flag, isAway, passed]
      · simp [readOffline, flag, isAway, passed, Nat.not_le.mp passed]

theorem readOffline_eq_self {now : Nat} (away : (outbox.readOffline now).1 = true) :
    (outbox.readOffline now).2 = outbox := by
  simp only [readOffline_eq] at away ⊢
  rw [flag, if_pos away]

/-- Of two readings, the second answers and leaves what it would have without the
first. -/
theorem readOffline_readOffline (outbox : Outbox) {now later : Nat}
    (order : now ≤ later) :
    (outbox.readOffline now).2.readOffline later = outbox.readOffline later := by
  obtain ⟨interval, queue, keys, since⟩ := outbox
  cases since with
  | none => rfl
  | some since =>
      by_cases away : now - since < interval
      · simp [readOffline_eq, flag, isAway, away]
      · have awayNoMore : ¬ later - since < interval := by omega
        simp [readOffline_eq, flag, isAway, away, awayNoMore]

@[simp]
theorem readOffline_readOffline_self (outbox : Outbox) (now : Nat) :
    (outbox.readOffline now).2.readOffline now = outbox.readOffline now :=
  readOffline_readOffline outbox (Nat.le_refl now)

/-- A push and a reading do not mind their order. -/
theorem push_readOffline (outbox : Outbox) (now : Nat) (instruction : Instruction) :
    (outbox.readOffline now).2.push instruction =
      ((outbox.push instruction).1,
        ((outbox.push instruction).2.readOffline now).2) := by
  have sameKeys := (sameContent_readOffline outbox now).keys
  rcases push_cases outbox instruction with ⟨isNew, pushed⟩ | ⟨held, pushed⟩
  · simp only [push, holds, isNew, decide_false, Bool.false_eq_true, if_false,
      readOffline_eq]
    rfl
  · simp only [push, holds, sameKeys, held, decide_true, if_true]

/-- A pop and a reading do not mind their order. -/
theorem pop_readOffline (outbox : Outbox) (now : Nat) :
    (outbox.readOffline now).2.pop = (outbox.pop.readOffline now).2 := by
  obtain ⟨interval, queue, keys, since⟩ := outbox
  simp only [readOffline_eq]
  cases queue <;> rfl

end Outbox

end ClearingHouse
