import Mathlib.Data.List.Induction

/-!
# Runs of a stepping system

A system steps from one state to the next when an event happens, unless the
event cannot happen in that state.  A run is a list of events that happen one
after another.  Many systems keep lists that only grow at their ends.
-/

namespace ClearingHouse

variable {σ ε : Type}

/-- Let events happen one after another.  There is no final state if one of them
cannot happen. -/
def runThrough (step : σ → ε → Option σ) : σ → List ε → Option σ
  | state, [] => some state
  | state, event :: events =>
      match step state event with
      | some next => runThrough step next events
      | none => none

theorem runThrough_cons_eq_some {step : σ → ε → Option σ} {state final : σ}
    {event : ε} {events : List ε}
    (ran : runThrough step state (event :: events) = some final) :
    ∃ next, step state event = some next ∧
      runThrough step next events = some final := by
  simp only [runThrough] at ran
  split at ran
  · rename_i next stepped
    exact ⟨next, stepped, ran⟩
  · cases ran

theorem runThrough_of_step {step : σ → ε → Option σ} {state next : σ} {event : ε}
    (stepped : step state event = some next) :
    runThrough step state [event] = some next := by
  simp only [runThrough, stepped]

/-- What every step of a kind keeps holds after every run of such steps. -/
theorem invariant_of_runThrough_of_forall {step : σ → ε → Option σ}
    {invariant : σ → Prop} {allowed : ε → Prop}
    (kept : ∀ {state next event}, invariant state → allowed event →
      step state event = some next → invariant next)
    {events : List ε} (allow : ∀ event ∈ events, allowed event)
    {state final : σ} (holds : invariant state)
    (ran : runThrough step state events = some final) : invariant final := by
  induction events generalizing state with
  | nil =>
      cases ran
      exact holds
  | cons event events ih =>
      obtain ⟨next, stepped, rest⟩ := runThrough_cons_eq_some ran
      have holdsNext := kept holds (allow event List.mem_cons_self) stepped
      exact ih (fun later member => allow later (List.mem_cons_of_mem _ member))
        holdsNext rest

/-- What every step keeps holds after every run. -/
theorem invariant_of_runThrough {step : σ → ε → Option σ}
    {invariant : σ → Prop}
    (kept : ∀ {state next event}, invariant state →
      step state event = some next → invariant next)
    {events : List ε} {state final : σ} (holds : invariant state)
    (ran : runThrough step state events = some final) : invariant final :=
  invariant_of_runThrough_of_forall
    (fun holds _ stepped => kept holds stepped) (fun _ _ => trivial) holds ran

/-- What every step keeps or breaks holds after every run, or until a step that
breaks it. -/
theorem holds_or_breaks_of_runThrough {step : σ → ε → Option σ}
    {holds : σ → Prop} {breaks : σ → ε → Prop}
    (kept : ∀ {state next event}, holds state →
      step state event = some next → holds next ∨ breaks state event)
    {events : List ε} {state final : σ} (start : holds state)
    (ran : runThrough step state events = some final) :
    holds final ∨ ∃ before event after last,
      events = before ++ event :: after ∧
        runThrough step state before = some last ∧ holds last ∧
        breaks last event := by
  induction events generalizing state with
  | nil =>
      cases ran
      exact Or.inl start
  | cons event events ih =>
      obtain ⟨next, stepped, rest⟩ := runThrough_cons_eq_some ran
      rcases kept start stepped with holdsNext | broken
      · rcases ih holdsNext rest with
          stays | ⟨before, breaking, after, last, split, reached, remaining⟩
        · exact Or.inl stays
        · right
          refine ⟨event :: before, breaking, after, last, ?_, ?_, remaining⟩
          · rw [split]
            rfl
          · simp only [runThrough, stepped]
            exact reached
      · exact Or.inr ⟨[], event, events, state, rfl, rfl, start, broken⟩

theorem runThrough_append (step : σ → ε → Option σ) (state : σ)
    (first second : List ε) :
    runThrough step state (first ++ second) =
      (runThrough step state first).bind fun middle =>
        runThrough step middle second := by
  induction first generalizing state with
  | nil => rfl
  | cons event events ih =>
      simp only [List.cons_append, runThrough]
      cases step state event with
      | none => rfl
      | some next => exact ih next

/-- The last event of a run happens after all the others. -/
theorem runThrough_concat_eq_some {step : σ → ε → Option σ} {start final : σ}
    {past : List ε} {event : ε}
    (ran : runThrough step start (past ++ [event]) = some final) :
    ∃ last, runThrough step start past = some last ∧
      step last event = some final := by
  rw [runThrough_append] at ran
  obtain ⟨last, reached, rest⟩ := Option.bind_eq_some_iff.mp ran
  obtain ⟨next, stepped, atEnd⟩ := runThrough_cons_eq_some rest
  cases atEnd
  exact ⟨last, reached, stepped⟩

theorem runThrough_of_split {step : σ → ε → Option σ} {start last next final : σ}
    {before after : List ε} {event : ε}
    (ran : runThrough step start (before ++ event :: after) = some final)
    (reached : runThrough step start before = some last)
    (stepped : step last event = some next) :
    runThrough step next after = some final := by
  rw [runThrough_append, reached] at ran
  simpa only [Option.bind_some, runThrough, stepped] using ran

/-- What is true of the events so far and of the state that they have led to, if
every step carries it on. -/
theorem history_of_runThrough {step : σ → ε → Option σ} {start : σ}
    {history : List ε → σ → Prop} (nothing : history [] start)
    (kept : ∀ {past state event next},
      runThrough step start past = some state → history past state →
        step state event = some next → history (past ++ [event]) next)
    {events : List ε} {final : σ}
    (ran : runThrough step start events = some final) : history events final := by
  induction events using List.reverseRecOn generalizing final with
  | nil =>
      cases ran
      exact nothing
  | append_singleton past event ih =>
      obtain ⟨last, reached, stepped⟩ := runThrough_concat_eq_some ran
      exact kept reached (ih reached) stepped

/-- At some point of a run, a step of this kind is made.  The kind tells of the
states before and after the step. -/
def Occurs (step : σ → ε → Option σ) (start : σ) (events : List ε)
    (kind : σ → ε → σ → Prop) : Prop :=
  ∃ before event after last next, events = before ++ event :: after ∧
    runThrough step start before = some last ∧ step last event = some next ∧
    kind last event next

theorem Occurs.mono {step : σ → ε → Option σ} {start : σ} {events : List ε}
    {kind wider : σ → ε → σ → Prop} (occurs : Occurs step start events kind)
    (widens : ∀ last event next, kind last event next → wider last event next) :
    Occurs step start events wider := by
  obtain ⟨before, event, after, last, next, split, reached, stepped, isKind⟩ := occurs
  exact ⟨before, event, after, last, next, split, reached, stepped,
    widens last event next isKind⟩

theorem not_occurs_nil {step : σ → ε → Option σ} {start : σ}
    {kind : σ → ε → σ → Prop} : ¬ Occurs step start [] kind := by
  rintro ⟨before, event, after, last, next, split, -⟩
  simp at split

theorem occurs_concat {step : σ → ε → Option σ} {start last next : σ}
    {kind : σ → ε → σ → Prop} {past : List ε} {event : ε}
    (reached : runThrough step start past = some last)
    (stepped : step last event = some next) :
    Occurs step start (past ++ [event]) kind ↔
      Occurs step start past kind ∨ kind last event next := by
  constructor
  · rintro ⟨before, found, after, old, new, split, oldReached, oldStepped, isKind⟩
    rcases List.eq_nil_or_concat after with rfl | ⟨later, final, rfl⟩
    · obtain ⟨samePast, sameEvent⟩ := List.append_inj' split rfl
      cases sameEvent
      subst samePast
      rw [reached] at oldReached
      cases oldReached
      rw [stepped] at oldStepped
      cases oldStepped
      exact Or.inr isKind
    · rw [List.concat_eq_append, ← List.cons_append, ← List.append_assoc] at split
      have samePast := (List.append_inj' split rfl).1
      exact Or.inl ⟨before, found, later, old, new, samePast, oldReached,
        oldStepped, isKind⟩
  · rintro (⟨before, found, after, old, new, rfl, oldReached, oldStepped, isKind⟩ |
      isKind)
    · refine ⟨before, found, after ++ [event], old, new, ?_, oldReached,
        oldStepped, isKind⟩
      simp
    · exact ⟨past, event, [], last, next, rfl, reached, stepped, isKind⟩

theorem occurs_cons {step : σ → ε → Option σ} {start next : σ}
    {kind : σ → ε → σ → Prop} {event : ε} {events : List ε}
    (stepped : step start event = some next) :
    Occurs step start (event :: events) kind ↔
      kind start event next ∨ Occurs step next events kind := by
  constructor
  · rintro ⟨before, found, after, old, new, split, reached, oldStepped, isKind⟩
    cases before with
    | nil =>
        cases split
        cases reached
        rw [stepped] at oldStepped
        cases oldStepped
        exact Or.inl isKind
    | cons first before =>
        cases split
        obtain ⟨second, firstStepped, rest⟩ := runThrough_cons_eq_some reached
        rw [stepped] at firstStepped
        cases firstStepped
        exact Or.inr ⟨before, found, after, old, new, rfl, rest, oldStepped,
          isKind⟩
  · rintro (isKind |
      ⟨before, found, after, old, new, rfl, reached, oldStepped, isKind⟩)
    · exact ⟨[], event, events, start, next, rfl, rfl, stepped, isKind⟩
    · refine ⟨event :: before, found, after, old, new, rfl, ?_, oldStepped, isKind⟩
      simp only [runThrough, stepped]
      exact reached

theorem not_occurs_cons {step : σ → ε → Option σ} {start next : σ}
    {kind : σ → ε → σ → Prop} {event : ε} {events : List ε}
    (stepped : step start event = some next) (notNow : ¬ kind start event next)
    (notLater : ¬ Occurs step next events kind) :
    ¬ Occurs step start (event :: events) kind := by
  rw [occurs_cons stepped]
  rintro (now | later)
  · exact notNow now
  · exact notLater later

/-- Every step of a run is of this kind. -/
def Throughout (step : σ → ε → Option σ) (start : σ) (events : List ε)
    (kind : σ → ε → σ → Prop) : Prop :=
  ∀ before event after last next, events = before ++ event :: after →
    runThrough step start before = some last → step last event = some next →
    kind last event next

/-- What the steps of a run contribute, in their order. -/
def collect {α : Type} (step : σ → ε → Option σ) (part : σ → ε → σ → List α) :
    σ → List ε → List α
  | _, [] => []
  | state, event :: events =>
      match step state event with
      | some next => part state event next ++ collect step part next events
      | none => []

theorem collect_concat {α : Type} {step : σ → ε → Option σ}
    {part : σ → ε → σ → List α} {start last next : σ} {past : List ε} {event : ε}
    (reached : runThrough step start past = some last)
    (stepped : step last event = some next) :
    collect step part start (past ++ [event]) =
      collect step part start past ++ part last event next := by
  induction past generalizing start with
  | nil =>
      cases reached
      simp [collect, stepped]
  | cons first past ih =>
      obtain ⟨second, firstStepped, rest⟩ := runThrough_cons_eq_some reached
      simp only [List.cons_append, collect, firstStepped, ih rest,
        List.append_assoc]

/-- What a run has contributed, one of its steps has contributed. -/
theorem occurs_of_mem_collect {α : Type} {step : σ → ε → Option σ}
    {part : σ → ε → σ → List α} {start final : σ} {events : List ε} {value : α}
    (ran : runThrough step start events = some final)
    (member : value ∈ collect step part start events) :
    Occurs step start events fun last event next => value ∈ part last event next := by
  induction events generalizing start with
  | nil => cases member
  | cons event events ih =>
      obtain ⟨next, stepped, rest⟩ := runThrough_cons_eq_some ran
      rw [occurs_cons stepped]
      simp only [collect, stepped] at member
      rcases List.mem_append.mp member with now | later
      · exact Or.inl now
      · exact Or.inr (ih rest later)

/-- What is in a list that has grown was there before, or has just been added. -/
theorem eq_or_eq_of_getElem?_append {α : Type} {list : List α} {added value : α}
    {index : Nat} (found : (list ++ [added])[index]? = some value) :
    list[index]? = some value ∨ index = list.length ∧ value = added := by
  rw [List.getElem?_append] at found
  split at found
  · exact Or.inl found
  · rename_i outside
    right
    rw [List.getElem?_singleton] at found
    split at found
    · cases found
      exact ⟨by omega, rfl⟩
    · cases found

/-- What was in a list is still there after it has grown. -/
theorem getElem?_append_of_some {α : Type} {list : List α} {value : α}
    {index : Nat} (found : list[index]? = some value) (added : List α) :
    (list ++ added)[index]? = some value := by
  have inside := (List.getElem?_eq_some_iff.mp found).1
  rw [List.getElem?_append_left inside]
  exact found

/-- What is in a list after one value has been replaced was there before, or is the
new value. -/
theorem eq_or_of_getElem?_set {α : Type} {list : List α} {changed value : α}
    {index other : Nat} (found : (list.set index changed)[other]? = some value) :
    other = index ∧ value = changed ∨ list[other]? = some value := by
  rw [List.getElem?_set] at found
  split at found
  · rename_i same
    split at found
    · cases found
      exact Or.inl ⟨same.symm, rfl⟩
    · cases found
  · exact Or.inr found

end ClearingHouse
