/-!
# Tables with distinct keys

A table keeps its entries in the order in which their keys first arrived, and
holds every key at most once.  Writing to a key that is present replaces its
value in place.  The lemmas describe each operation by what `find?` answers
afterwards, so later proofs never look inside a table.
-/

namespace ClearingHouse

/-- A finite map that remembers the order in which its keys first arrived. -/
structure Table (κ : Type) (α : Type) where
  /-- The entries, oldest key first. -/
  entries : List (κ × α)
  distinct : (entries.map Prod.fst).Nodup

namespace Table

variable {κ α : Type} [DecidableEq κ]

/-- The value that a list of entries gives to a key: that of its first occurrence. -/
def lookupIn (key : κ) : List (κ × α) → Option α
  | [] => none
  | (other, value) :: rest =>
      if other = key then some value else lookupIn key rest

/-- Replace the value of a key in a list of entries, or append the entry. -/
def writeIn (key : κ) (value : α) : List (κ × α) → List (κ × α)
  | [] => [(key, value)]
  | (other, old) :: rest =>
      if other = key then (key, value) :: rest
      else (other, old) :: writeIn key value rest

theorem keys_writeIn (key : κ) (value : α) (entries : List (κ × α)) :
    (writeIn key value entries).map Prod.fst =
      if key ∈ entries.map Prod.fst then entries.map Prod.fst
      else entries.map Prod.fst ++ [key] := by
  induction entries with
  | nil => simp [writeIn]
  | cons entry rest ih =>
      obtain ⟨other, old⟩ := entry
      by_cases same : other = key
      · simp [writeIn, same]
      · have different : ¬ key = other := fun equal => same equal.symm
        simp only [writeIn, same, if_false, List.map_cons, ih, List.mem_cons,
          different, false_or]
        split <;> simp

theorem nodup_writeIn (key : κ) (value : α) (entries : List (κ × α))
    (distinct : (entries.map Prod.fst).Nodup) :
    ((writeIn key value entries).map Prod.fst).Nodup := by
  rw [keys_writeIn]
  split
  · exact distinct
  · rename_i absent
    rw [List.nodup_append]
    refine ⟨distinct, by simp, ?_⟩
    intro first firstMem second secondMem equal
    simp only [List.mem_singleton] at secondMem
    subst secondMem equal
    exact absent firstMem

theorem writeIn_writeIn (key : κ) (old value : α) (entries : List (κ × α)) :
    writeIn key value (writeIn key old entries) = writeIn key value entries := by
  induction entries with
  | nil => simp [writeIn]
  | cons entry rest ih =>
      obtain ⟨other, present⟩ := entry
      by_cases same : other = key
      · simp [writeIn, same]
      · simp [writeIn, same, ih]

theorem lookupIn_writeIn (key wanted : κ) (value : α)
    (entries : List (κ × α)) :
    lookupIn wanted (writeIn key value entries) =
      if key = wanted then some value else lookupIn wanted entries := by
  induction entries with
  | nil => simp [writeIn, lookupIn]
  | cons entry rest ih =>
      obtain ⟨other, old⟩ := entry
      by_cases same : other = key
      · subst same
        by_cases hit : other = wanted <;> simp [writeIn, lookupIn, hit]
      · by_cases hit : other = wanted
        · subst hit
          have missed : ¬ key = other := fun equal => same equal.symm
          simp [writeIn, lookupIn, same, missed]
        · simp [writeIn, lookupIn, same, hit, ih]

theorem lookupIn_eq_none_of_notMem (key : κ) (entries : List (κ × α))
    (absent : key ∉ entries.map Prod.fst) : lookupIn key entries = none := by
  induction entries with
  | nil => rfl
  | cons entry rest ih =>
      obtain ⟨other, old⟩ := entry
      simp only [List.map_cons, List.mem_cons, not_or] at absent
      have different : ¬ other = key := fun equal => absent.1 equal.symm
      simp [lookupIn, different, ih absent.2]

theorem lookupIn_filter (keep : κ → α → Bool) (key : κ)
    (entries : List (κ × α)) (distinct : (entries.map Prod.fst).Nodup) :
    lookupIn key (entries.filter fun entry => keep entry.1 entry.2) =
      (lookupIn key entries).filter (keep key) := by
  induction entries with
  | nil => rfl
  | cons entry rest ih =>
      obtain ⟨other, old⟩ := entry
      simp only [List.map_cons, List.nodup_cons] at distinct
      have restFilter := ih distinct.2
      by_cases same : other = key
      · subst same
        have gone : lookupIn other rest = none :=
          lookupIn_eq_none_of_notMem other rest distinct.1
        by_cases kept : keep other old = true
        · simp [kept, lookupIn, Option.filter]
        · simp [kept, lookupIn, restFilter, gone, Option.filter]
      · by_cases kept : keep other old = true <;>
          simp [kept, lookupIn, same, restFilter]

def empty : Table κ α := ⟨[], List.nodup_nil⟩

def find? (table : Table κ α) (key : κ) : Option α :=
  lookupIn key table.entries

def contains (table : Table κ α) (key : κ) : Bool :=
  (table.find? key).isSome

def keys (table : Table κ α) : List κ := table.entries.map Prod.fst

def size (table : Table κ α) : Nat := table.entries.length

/-- Give a key a value, replacing the one it had. -/
def insert (table : Table κ α) (key : κ) (value : α) : Table κ α :=
  ⟨writeIn key value table.entries,
    nodup_writeIn key value table.entries table.distinct⟩

/-- Keep the entries that satisfy a test. -/
def retain (table : Table κ α) (keep : κ → α → Bool) : Table κ α :=
  ⟨table.entries.filter fun entry => keep entry.1 entry.2,
    List.Nodup.sublist (List.filter_sublist.map Prod.fst) table.distinct⟩

def erase (table : Table κ α) (key : κ) : Table κ α :=
  table.retain fun other _ => decide (other ≠ key)

/-- The table of a list of entries.  A later value of a key replaces an earlier one. -/
def ofList (entries : List (κ × α)) : Table κ α :=
  entries.foldl (fun table entry => table.insert entry.1 entry.2) empty

@[simp]
theorem find?_empty (key : κ) : (empty : Table κ α).find? key = none := rfl

@[simp]
theorem find?_insert (table : Table κ α) (key wanted : κ) (value : α) :
    (table.insert key value).find? wanted =
      if key = wanted then some value else table.find? wanted :=
  lookupIn_writeIn key wanted value table.entries

@[simp]
theorem insert_insert (table : Table κ α) (key : κ) (old value : α) :
    (table.insert key old).insert key value = table.insert key value := by
  simp only [insert, writeIn_writeIn]

@[simp]
theorem find?_retain (table : Table κ α) (keep : κ → α → Bool) (key : κ) :
    (table.retain keep).find? key = (table.find? key).filter (keep key) :=
  lookupIn_filter keep key table.entries table.distinct

theorem find?_erase (table : Table κ α) (key wanted : κ) :
    (table.erase key).find? wanted =
      if wanted = key then none else table.find? wanted := by
  rw [erase, find?_retain]
  by_cases same : wanted = key
  · cases table.find? wanted <;> simp [same, Option.filter]
  · cases table.find? wanted <;> simp [same, Option.filter]

end Table

end ClearingHouse
