import ClearingHouse.Table
import Mathlib.Algebra.GroupWithZero.Nat

/-!
# Sums over tables

A table whose entries carry numbers has a sum.  The lemmas tell how the sum
moves when one key is written or removed, or when the number of one entry
changes.  They speak of `find?` only, as all statements about tables do.
-/

namespace ClearingHouse.Table

variable {κ α : Type} [DecidableEq κ]

theorem mem_of_lookupIn {key : κ} {value : α} {entries : List (κ × α)}
    (found : lookupIn key entries = some value) : (key, value) ∈ entries := by
  induction entries with
  | nil => cases found
  | cons entry rest ih =>
      obtain ⟨other, old⟩ := entry
      simp only [lookupIn] at found
      split at found
      · rename_i same
        cases found
        simp [same]
      · exact List.mem_cons_of_mem _ (ih found)

theorem lookupIn_of_mem {key : κ} {value : α} {entries : List (κ × α)}
    (distinct : (entries.map Prod.fst).Nodup)
    (member : (key, value) ∈ entries) : lookupIn key entries = some value := by
  induction entries with
  | nil => cases member
  | cons entry rest ih =>
      obtain ⟨other, old⟩ := entry
      simp only [List.map_cons, List.nodup_cons] at distinct
      rcases List.mem_cons.mp member with here | later
      · cases here
        simp [lookupIn]
      · have different : ¬ other = key := by
          intro same
          subst same
          exact distinct.1 (List.mem_map.mpr ⟨_, later, rfl⟩)
        simp [lookupIn, different, ih distinct.2 later]

/-- The entries of a table are exactly what `find?` answers. -/
theorem mem_entries_iff (table : Table κ α) (key : κ) (value : α) :
    (key, value) ∈ table.entries ↔ table.find? key = some value :=
  ⟨lookupIn_of_mem table.distinct, mem_of_lookupIn⟩

def sum (table : Table κ α) (number : κ → α → Nat) : Nat :=
  (table.entries.map fun entry => number entry.1 entry.2).sum

private def sumIn (number : κ → α → Nat) (entries : List (κ × α)) : Nat :=
  (entries.map fun entry => number entry.1 entry.2).sum

omit [DecidableEq κ] in
private theorem sumIn_cons (number : κ → α → Nat) (entry : κ × α)
    (rest : List (κ × α)) :
    sumIn number (entry :: rest) =
      number entry.1 entry.2 + sumIn number rest := by
  simp [sumIn]

private theorem sumIn_writeIn (number : κ → α → Nat) (key : κ) (value : α)
    (entries : List (κ × α)) :
    sumIn number (writeIn key value entries) +
        ((lookupIn key entries).map (number key)).getD 0 =
      sumIn number entries + number key value := by
  induction entries with
  | nil => simp [writeIn, lookupIn, sumIn]
  | cons entry rest ih =>
      obtain ⟨other, old⟩ := entry
      by_cases same : other = key
      · subst same
        simp only [writeIn, lookupIn, if_true, sumIn_cons, Option.map_some,
          Option.getD_some]
        omega
      · simp only [writeIn, lookupIn, if_neg same, sumIn_cons]
        omega

/-- Writing a key replaces its share of the sum. -/
theorem sum_insert (table : Table κ α) (number : κ → α → Nat) (key : κ)
    (value : α) :
    (table.insert key value).sum number +
        ((table.find? key).map (number key)).getD 0 =
      table.sum number + number key value :=
  sumIn_writeIn number key value table.entries

theorem sum_insert_of_absent {table : Table κ α} {key : κ}
    (absent : table.find? key = none) (number : κ → α → Nat) (value : α) :
    (table.insert key value).sum number =
      table.sum number + number key value := by
  have written := table.sum_insert number key value
  rw [absent] at written
  exact written

theorem sum_insert_of_present {table : Table κ α} {key : κ} {old : α}
    (present : table.find? key = some old) (number : κ → α → Nat)
    (value : α) :
    (table.insert key value).sum number + number key old =
      table.sum number + number key value := by
  have written := table.sum_insert number key value
  rw [present] at written
  exact written

private theorem sumIn_change {first second : κ → α → Nat} {key : κ}
    {value : α} {entries : List (κ × α)}
    (distinct : (entries.map Prod.fst).Nodup)
    (present : lookupIn key entries = some value)
    (elsewhere : ∀ other ∈ entries, other.1 ≠ key →
      second other.1 other.2 = first other.1 other.2) :
    sumIn second entries + first key value =
      sumIn first entries + second key value := by
  induction entries with
  | nil => cases present
  | cons entry rest ih =>
      obtain ⟨other, old⟩ := entry
      simp only [List.map_cons, List.nodup_cons] at distinct
      by_cases same : other = key
      · subst same
        have oldValue : old = value := by simpa [lookupIn] using present
        subst oldValue
        -- The key is gone from the rest, so both sums agree there.
        have restEqual : sumIn second rest = sumIn first rest := by
          apply congrArg List.sum
          apply List.map_congr_left
          intro entry member
          apply elsewhere entry (List.mem_cons_of_mem _ member)
          intro again
          apply distinct.1
          exact List.mem_map.mpr ⟨entry, member, again⟩
        simp only [sumIn_cons, restEqual]
        omega
      · have later : lookupIn key rest = some value := by
          simpa [lookupIn, same] using present
        have restChange := ih distinct.2 later fun entry member =>
          elsewhere entry (List.mem_cons_of_mem _ member)
        have here := elsewhere (other, old) List.mem_cons_self same
        rw [sumIn_cons, sumIn_cons, here]
        omega

/-- If the number of one entry changes, the sum changes by as much. -/
theorem sum_change {table : Table κ α} (first second : κ → α → Nat)
    {key : κ} {value : α} (present : table.find? key = some value)
    (elsewhere : ∀ other entry, table.find? other = some entry →
      other ≠ key → second other entry = first other entry) :
    table.sum second + first key value =
      table.sum first + second key value := by
  apply sumIn_change table.distinct present
  intro entry member different
  exact elsewhere entry.1 entry.2
    ((table.mem_entries_iff entry.1 entry.2).mp member) different

theorem sum_congr {table : Table κ α} {first second : κ → α → Nat}
    (same : ∀ key value, table.find? key = some value →
      second key value = first key value) :
    table.sum second = table.sum first := by
  apply congrArg List.sum
  apply List.map_congr_left
  intro entry member
  exact same entry.1 entry.2
    ((table.mem_entries_iff entry.1 entry.2).mp member)

omit [DecidableEq κ] in
theorem sum_zero (table : Table κ α) : (table.sum fun _ _ => 0) = 0 := by
  show sumIn (fun _ _ => 0) table.entries = 0
  induction table.entries with
  | nil => rfl
  | cons entry rest ih => rw [sumIn_cons, ih]

private theorem filter_of_notMem {key : κ}
    {entries : List (κ × α)} (absent : key ∉ entries.map Prod.fst) :
    entries.filter (fun entry => decide (entry.1 ≠ key)) = entries := by
  apply List.filter_eq_self.mpr
  intro entry member
  apply decide_eq_true
  intro same
  exact absent (List.mem_map.mpr ⟨entry, member, same⟩)

private theorem sumIn_erase (number : κ → α → Nat) {key : κ} {old : α}
    {entries : List (κ × α)} (distinct : (entries.map Prod.fst).Nodup)
    (present : lookupIn key entries = some old) :
    sumIn number (entries.filter fun entry => decide (entry.1 ≠ key)) +
        number key old = sumIn number entries := by
  induction entries with
  | nil => cases present
  | cons entry rest ih =>
      obtain ⟨other, value⟩ := entry
      simp only [List.map_cons, List.nodup_cons] at distinct
      by_cases same : other = key
      · subst same
        have oldValue : value = old := by simpa [lookupIn] using present
        subst oldValue
        rw [List.filter_cons_of_neg (by simp), filter_of_notMem distinct.1]
        simp only [sumIn_cons]
        omega
      · have later : lookupIn key rest = some old := by
          simpa [lookupIn, same] using present
        have restErase := ih distinct.2 later
        rw [List.filter_cons_of_pos (by simpa using same), sumIn_cons,
          sumIn_cons]
        omega

/-- Removing a key takes its share from the sum. -/
theorem sum_erase {table : Table κ α} {key : κ} {old : α}
    (present : table.find? key = some old) (number : κ → α → Nat) :
    (table.erase key).sum number + number key old = table.sum number :=
  sumIn_erase number table.distinct present

end ClearingHouse.Table
