import Mathlib.Data.List.Forall2
import ClearingHouse.Json.Reader

/-!
# Readers that read alike

Two readers read alike if they take the same characters from the front of every text and
make related values of them, or fail in the same way.  Arrays, objects and records are
read alike if their parts are.
-/

namespace ClearingHouse.Json.Reader

variable {α β γ δ ε ζ : Type}

/-- Two outcomes of reading that differ in their values only, which are related. -/
inductive Matches (related : α → β → Prop) :
    Except Fault (α × List Char) → Except Fault (β × List Char) → Prop
  | done {value : α} {other : β} (isRelated : related value other) (rest : List Char) :
      Matches related (.ok (value, rest)) (.ok (other, rest))
  | failed (fault : Fault) : Matches related (.error fault) (.error fault)

/-- On every text the outcomes of two readers match. -/
def Alike (related : α → β → Prop) (first : Reader α) (second : Reader β) : Prop :=
  ∀ text, Matches related (first text) (second text)

variable {related : α → β → Prop} {first : Reader α} {second : Reader β}

/-! ## Steps -/

theorem Alike.refl (reader : Reader α) : Alike Eq reader reader := by
  intro text
  cases reader text with
  | error fault => exact .failed fault
  | ok outcome => exact .done rfl outcome.2

theorem alike_pure {value : α} {other : β} (isRelated : related value other) :
    Alike related (pure value) (pure other) :=
  fun text => .done isRelated text

theorem alike_fail (fault : Fault) : Alike related (fail fault) (fail fault) :=
  fun _ => .failed fault

theorem Alike.bind {goal : γ → ε → Prop} {next : α → Reader γ} {nextOther : β → Reader ε}
    (alike : Alike related first second)
    (nextAlike : ∀ value other, related value other → Alike goal (next value) (nextOther other)) :
    Alike goal (first >>= next) (second >>= nextOther) := by
  intro text
  have outcomes := alike text
  change Matches goal (Except.bind (first text) _) (Except.bind (second text) _)
  generalize first text = outcome at outcomes ⊢
  generalize second text = other at outcomes ⊢
  cases outcomes with
  | done isRelated rest => exact nextAlike _ _ isRelated rest
  | failed fault => exact .failed fault

/-- The same step in front of two readers. -/
theorem Alike.after {goal : γ → ε → Prop} (step : Reader α) {next : α → Reader γ}
    {nextOther : α → Reader ε} (nextAlike : ∀ value, Alike goal (next value) (nextOther value)) :
    Alike goal (step >>= next) (step >>= nextOther) := by
  refine (Alike.refl step).bind fun value other same => ?_
  subst same
  exact nextAlike value

theorem Alike.ite {condition : Prop} [Decidable condition] {third : Reader α}
    {fourth : Reader β} (isTrue : Alike related first second)
    (isFalse : Alike related third fourth) :
    Alike related (if condition then first else third)
      (if condition then second else fourth) := by
  split
  · exact isTrue
  · exact isFalse

theorem alike_mismatch (character : Char) :
    Alike related (mismatch character) (mismatch character) := by
  have failing : Alike related (fail .mismatched) (fail .mismatched) := alike_fail _
  exact .ite (.after _ fun _ => failing) (.ite (.after _ fun _ => failing)
    (.ite (.after _ fun _ => failing) (.ite (.after _ fun _ => failing)
      (.ite (.after _ fun _ => .after _ fun _ => failing) (.ite failing (alike_fail _))))))

/-! ## Arrays and objects -/

theorem alike_elementsFrom (elements : Alike related first second) (fuel : Nat)
    (isFirst : Bool) :
    Alike (List.Forall₂ related) (elementsFrom first fuel isFirst)
      (elementsFrom second fuel isFirst) := by
  induction fuel generalizing isFirst with
  | zero => exact alike_fail _
  | succ fuel ih =>
      refine .after _ fun isMore => .ite ?_ (alike_pure .nil)
      exact elements.bind fun _ _ isRelated =>
        (ih false).bind fun _ _ areRelated => alike_pure (.cons isRelated areRelated)

theorem alike_list (elements : Alike related first second) :
    Alike (List.Forall₂ related) (list first) (list second) := by
  refine .after _ fun next => ?_
  split
  · exact alike_fail _
  · refine .after _ fun _ => .after _ fun remaining => ?_
    exact (alike_elementsFrom elements _ _).bind fun _ _ areRelated =>
      .after _ fun _ => alike_pure areRelated
  · exact alike_mismatch _

/-- Members of the same name with related values. -/
def SameMember (related : α → β → Prop) (member : String × α) (other : String × β) : Prop :=
  member.1 = other.1 ∧ related member.2 other.2

theorem alike_membersFrom (values : Alike related first second) (fuel : Nat)
    (isFirst : Bool) :
    Alike (List.Forall₂ (SameMember related)) (membersFrom first fuel isFirst)
      (membersFrom second fuel isFirst) := by
  induction fuel generalizing isFirst with
  | zero => exact alike_fail _
  | succ fuel ih =>
      refine .after _ fun next => ?_
      split
      · exact alike_pure .nil
      · refine .after _ fun _ => values.bind fun _ _ isRelated => ?_
        exact (ih false).bind fun _ _ areRelated =>
          alike_pure (.cons ⟨rfl, isRelated⟩ areRelated)

theorem alike_members (values : Alike related first second) :
    Alike (List.Forall₂ (SameMember related)) (members first) (members second) := by
  refine .after _ fun next => ?_
  split
  · exact alike_fail _
  · refine .after _ fun _ => .after _ fun remaining => ?_
    exact (alike_membersFrom values _ _).bind fun _ _ areRelated =>
      .after _ fun _ => alike_pure areRelated
  · exact alike_mismatch _

/-! ## Records -/

/-- Fields of the same name that are read alike into related drafts. -/
structure AlikeField (drafts : δ → ε → Prop) (field : Field δ) (other : Field ε) : Prop where
  name : field.name = other.name
  isFilled : ∀ draft second, drafts draft second →
    field.isFilled draft = other.isFilled second
  fill : ∀ draft second, drafts draft second →
    Alike drafts (field.fill draft) (other.fill second)

variable {drafts : δ → ε → Prop} {fields : List (Field δ)} {others : List (Field ε)}

theorem alikeField_of {name : String} {get : δ → Option α} {set : δ → α → δ}
    {getOther : ε → Option β} {setOther : ε → β → ε} (values : Alike related first second)
    (gets : ∀ draft other, drafts draft other → (get draft).isSome = (getOther other).isSome)
    (sets : ∀ draft other value second, drafts draft other → related value second →
      drafts (set draft value) (setOther other second)) :
    AlikeField drafts (Field.of name get set first)
      (Field.of name getOther setOther second) where
  name := rfl
  isFilled := gets
  fill := fun draft other isRelated => values.bind fun value second areRelated =>
    alike_pure (sets draft other value second isRelated areRelated)

theorem alike_fieldsFromArray (alike : List.Forall₂ (AlikeField drafts) fields others)
    {draft : δ} {other : ε} (isRelated : drafts draft other) (isFirst : Bool) :
    Alike drafts (fieldsFromArray draft isFirst fields)
      (fieldsFromArray other isFirst others) := by
  induction alike generalizing draft other isFirst with
  | nil => exact alike_pure isRelated
  | cons alikeField _ ih =>
      refine .after _ fun isMore => .ite ?_ (alike_fail _)
      exact (alikeField.fill _ _ isRelated).bind fun _ _ filled => ih filled false

/-- The fields with a name are found at the same places. -/
theorem find?_alike (alike : List.Forall₂ (AlikeField drafts) fields others) (name : String) :
    Option.Rel (AlikeField drafts) (fields.find? fun field => field.name == name)
      (others.find? fun field => field.name == name) := by
  induction alike with
  | nil => exact .none
  | cons alikeField _ ih =>
      rw [List.find?_cons, List.find?_cons, alikeField.name]
      split
      · exact .some alikeField
      · exact ih

theorem alike_fieldsFromObject (nameReader : Reader String)
    (alike : List.Forall₂ (AlikeField drafts) fields others) (fuel : Nat) {draft : δ}
    {other : ε} (isRelated : drafts draft other) (isFirst : Bool) :
    Alike drafts (fieldsFromObject nameReader fields fuel draft isFirst)
      (fieldsFromObject nameReader others fuel other isFirst) := by
  induction fuel generalizing draft other isFirst with
  | zero => exact alike_fail _
  | succ fuel ih =>
      refine .after _ fun next => ?_
      split
      · exact alike_pure isRelated
      · rename_i name
        have found := find?_alike alike name
        generalize (fields.find? fun field => field.name == name) = field at found ⊢
        generalize (others.find? fun field => field.name == name) = second at found ⊢
        cases found with
        | none => exact .after _ fun _ => .after _ fun _ => ih isRelated false
        | some alikeField =>
            simp only [alikeField.isFilled _ _ isRelated]
            refine .ite (alike_fail _) (.after _ fun _ => ?_)
            exact (alikeField.fill _ _ isRelated).bind fun _ _ filled => ih filled false

theorem alike_record {draft : δ} {other : ε} {complete : δ → Option α}
    {completeOther : ε → Option β}
    (alike : List.Forall₂ (AlikeField drafts) fields others) (isRelated : drafts draft other)
    (completes : ∀ draft other, drafts draft other →
      Option.Rel related (complete draft) (completeOther other)) :
    Alike related (record fields draft complete) (record others other completeOther) := by
  have completed : ∀ draft other, drafts draft other →
      Alike related (completed complete draft) (completed completeOther other) := by
    intro draft other isRelated
    have outcomes := completes draft other isRelated
    rw [Reader.completed, Reader.completed]
    generalize complete draft = value at outcomes ⊢
    generalize completeOther other = second at outcomes ⊢
    cases outcomes with
    | none => exact alike_fail _
    | some isRelated => exact alike_pure isRelated
  refine .after _ fun next => ?_
  split
  · exact alike_fail _
  · refine .after _ fun _ => (alike_fieldsFromArray alike isRelated true).bind ?_
    intro _ _ filled
    exact (completed _ _ filled).bind fun _ _ isValue => .after _ fun _ => alike_pure isValue
  · refine .after _ fun _ => .after _ fun remaining => ?_
    refine (alike_fieldsFromObject stringBody alike _ isRelated true).bind ?_
    intro _ _ filled
    exact (completed _ _ filled).bind fun _ _ isValue => .after _ fun _ => alike_pure isValue
  · exact alike_mismatch _

/-- Of a whole text, related values are made. -/
theorem Alike.run (alike : Alike related first second) (text : List Char) :
    (∃ value other, Reader.run first text = .ok value ∧ Reader.run second text = .ok other ∧
      related value other) ∨
    ∃ fault, Reader.run first text = .error fault ∧ Reader.run second text = .error fault := by
  have outcomes := alike text
  rw [Reader.run, Reader.run]
  change (∃ value other, Except.bind (first text) _ = .ok value ∧
      Except.bind (second text) _ = .ok other ∧ related value other) ∨
    ∃ fault, Except.bind (first text) _ = .error fault ∧
      Except.bind (second text) _ = .error fault
  generalize first text = outcome at outcomes ⊢
  generalize second text = other at outcomes ⊢
  cases outcomes with
  | @done value other isRelated rest =>
      by_cases ended : rest.all isSpace = true
      · exact .inl ⟨value, other, if_pos ended, if_pos ended, isRelated⟩
      · exact .inr ⟨.malformed, if_neg ended, if_neg ended⟩
  | failed fault => exact .inr ⟨fault, rfl, rfl⟩

end ClearingHouse.Json.Reader
