import ClearingHouse.Proofs.Json.Reads

/-!
# Records that are read back

An object is read member by member.  If every member fills a field of the draft that
was empty before, the draft at the end is the one that all of them have made.
-/

namespace ClearingHouse.Json.Reader

variable {α δ : Type} {fields : List (Field δ)} {draft next final : δ}
  {nameReader : Reader String}

/-- The members of an object fill a draft, one field after the other. -/
inductive Fills (fields : List (Field δ)) : δ → List (String × List Char) → δ → Prop
  | nil (draft : δ) : Fills fields draft [] draft
  | cons {draft next final : δ} {name : String} {text : List Char}
      {others : List (String × List Char)} (field : Field δ)
      (found : (fields.find? fun field => field.name == name) = some field)
      (empty : field.isFilled draft = false)
      (reads : Reads (field.fill draft) text next)
      (rest : Fills fields next others final) :
      Fills fields draft ((name, text) :: others) final

/-- A field that keeps what its reader reads. -/
theorem reads_field {name : String} {get : δ → Option α} {set : δ → α → δ}
    {reader : Reader α} {text : List Char} {value : α} (draft : δ)
    (reads : reader.Reads text value) :
    Reads ((Field.of name get set reader).fill draft) text (set draft value) :=
  reads.map (set draft)

/-! ## Members -/

theorem colon_cons (rest : List Char) : colon (':' :: rest) = .ok ((), rest) := by
  rw [colon, bind_of_ok (peekToken_cons (by decide))]
  rfl

/-- A name is read behind its opening quote, up to its closing one. -/
def ReadsName (nameReader : Reader String) (name : String) : Prop :=
  ∀ rest, nameReader (escapedText name.toList ++ '"' :: rest) = .ok (name, rest)

theorem quoted_cons {name : String} (named : ReadsName nameReader name)
    (rest : List Char) :
    (do
      advance
      let text ← nameReader
      pure (some text) : Reader (Option String)) (Json.string name ++ rest) =
      .ok (some name, rest) := by
  rw [string_append, bind_of_ok (advance_cons _ _), bind_of_ok (named rest)]
  rfl

theorem nextMember_first {name : String} (named : ReadsName nameReader name)
    (rest : List Char) :
    nextMemberBy nameReader true (Json.string name ++ rest) = .ok (some name, rest) :=
  (bind_of_ok (peekToken_cons rfl)).trans (quoted_cons named rest)

theorem nextMember_further {name : String} (named : ReadsName nameReader name)
    (rest : List Char) :
    nextMemberBy nameReader false (',' :: (Json.string name ++ rest)) =
      .ok (some name, rest) := by
  refine (bind_of_ok (peekToken_cons rfl)).trans ?_
  refine (bind_of_ok (advance_cons _ _)).trans ?_
  refine (bind_of_ok (peekToken_cons rfl)).trans ?_
  exact quoted_cons named rest

theorem nextMember_closing (nameReader : Reader String) (first : Bool)
    (rest : List Char) :
    nextMemberBy nameReader first ('}' :: rest) = .ok (none, '}' :: rest) :=
  bind_of_ok (peekToken_cons rfl)

theorem ends_furtherMembers (others : List (String × List Char)) (rest : List Char) :
    Ends (furtherMembers others ++ '}' :: rest) := by
  cases others with
  | nil => exact Or.inr ⟨'}', rest, rfl, by simp⟩
  | cons member others => exact Or.inr ⟨',', _, rfl, by simp⟩

theorem length_le_furtherMembers (others : List (String × List Char)) :
    others.length ≤ (furtherMembers others).length := by
  induction others with
  | nil => exact Nat.le_refl 0
  | cons member others ih =>
      simp only [furtherMembers, List.length_cons, List.length_append]
      omega

/-- One member is read into its field, and reading goes on. -/
theorem fieldsFromObject_member {name : String} {text rest members : List Char}
    {field : Field δ} {fuel : Nat} {first : Bool}
    (named : nextMemberBy nameReader first members = .ok (some name, ':' :: (text ++ rest)))
    (found : (fields.find? fun field => field.name == name) = some field)
    (empty : field.isFilled draft = false) (reads : Reads (field.fill draft) text next)
    (ends : Ends rest) :
    fieldsFromObject nameReader fields (fuel + 1) draft first members =
      fieldsFromObject nameReader fields fuel next false rest := by
  rw [fieldsFromObject, bind_of_ok named]
  simp only [found, empty, Bool.false_eq_true, if_false]
  rw [bind_of_ok (colon_cons _), bind_of_ok (reads rest ends)]

theorem fieldsFromObject_further {others : List (String × List Char)} {fuel : Nat}
    (named : ∀ member ∈ others, ReadsName nameReader member.1)
    (fills : Fills fields draft others final) (enough : others.length < fuel)
    (rest : List Char) :
    fieldsFromObject nameReader fields fuel draft false
      (furtherMembers others ++ '}' :: rest) = .ok (final, '}' :: rest) := by
  induction fills generalizing fuel with
  | nil draft =>
      obtain ⟨fuel, rfl⟩ := Nat.exists_eq_add_one_of_ne_zero (Nat.ne_of_gt enough)
      rw [furtherMembers, List.nil_append, fieldsFromObject,
        bind_of_ok (nextMember_closing _ _ _)]
      rfl
  | cons field found empty reads others ih =>
      rename_i name text members
      obtain ⟨fuel, rfl⟩ := Nat.exists_eq_add_one_of_ne_zero
        (Nat.ne_of_gt (Nat.lt_of_le_of_lt (Nat.zero_le _) enough))
      have isText : furtherMembers ((name, text) :: members) ++ '}' :: rest =
          ',' :: (Json.string name ++
            ':' :: (text ++ (furtherMembers members ++ '}' :: rest))) := by
        simp [furtherMembers]
      rw [isText, fieldsFromObject_member
        (nextMember_further (named _ List.mem_cons_self) _) found empty reads
        (ends_furtherMembers members rest)]
      exact ih (fun member isMember => named member (List.mem_cons_of_mem _ isMember))
        (Nat.lt_of_succ_lt_succ enough)

theorem closeObject_cons (rest : List Char) : closeObject ('}' :: rest) = .ok ((), rest) := by
  rw [closeObject, bind_of_ok (peekToken_cons (by decide))]
  rfl

/-- The fields of an object are read up to its closing bracket. -/
theorem fieldsFromObject_object {members : List (String × List Char)} {fuel : Nat}
    (named : ∀ member ∈ members, ReadsName nameReader member.1)
    (fills : Fills fields draft members final) (enough : members.length < fuel)
    (rest : List Char) :
    fieldsFromObject nameReader fields fuel draft true
      ((Json.object members).tail ++ rest) = .ok (final, '}' :: rest) := by
  obtain ⟨fuel, rfl⟩ := Nat.exists_eq_add_one_of_ne_zero
    (Nat.ne_of_gt (Nat.lt_of_le_of_lt (Nat.zero_le _) enough))
  cases fills with
  | nil draft =>
      rw [object, List.tail_cons, fieldsFromObject]
      simp only [List.cons_append, List.nil_append]
      rw [bind_of_ok (nextMember_closing _ _ _)]
      rfl
  | cons field found empty reads fillsRest =>
      rename_i name text others
      have isText : (Json.object ((name, text) :: others)).tail ++ rest =
          Json.string name ++
            ':' :: (text ++ (furtherMembers others ++ '}' :: rest)) := by
        simp [object]
      rw [isText, fieldsFromObject_member
        (nextMember_first (named _ List.mem_cons_self) _) found empty reads
        (ends_furtherMembers others rest)]
      exact fieldsFromObject_further
        (fun member isMember => named member (List.mem_cons_of_mem _ isMember)) fillsRest
        (Nat.lt_of_succ_lt_succ enough) rest

/-- A record is read from the object that its members make, whatever stands behind. -/
theorem recordObject_object {complete : δ → Option α} {members : List (String × List Char)}
    {value : α} (named : ∀ member ∈ members, ReadsName nameReader member.1)
    (fills : Fills fields draft members final) (whole : complete final = some value)
    (rest : List Char) :
    recordObject nameReader fields draft complete
      ('{' :: ((Json.object members).tail ++ rest)) = .ok (value, rest) := by
  have enough : members.length < ((Json.object members).tail ++ rest).length + 1 := by
    cases members with
    | nil => exact Nat.zero_lt_succ _
    | cons member others =>
        have counted := length_le_furtherMembers others
        simp only [object, List.cons_append, List.tail_cons, List.length_cons,
          List.length_append]
        omega
  have remaining : (get : Reader (List Char)) ((Json.object members).tail ++ rest) =
      .ok ((Json.object members).tail ++ rest, (Json.object members).tail ++ rest) := rfl
  have made : completed complete final ('}' :: rest) = .ok (value, '}' :: rest) := by
    rw [completed, whole]
    rfl
  refine (bind_of_ok (advance_cons _ _)).trans ?_
  refine (bind_of_ok remaining).trans ?_
  refine (bind_of_ok (fieldsFromObject_object named fills enough rest)).trans ?_
  refine (bind_of_ok made).trans ?_
  refine (bind_of_ok (closeObject_cons rest)).trans ?_
  rfl

theorem object_append (members : List (String × List Char)) (rest : List Char) :
    Json.object members ++ rest = '{' :: ((Json.object members).tail ++ rest) := by
  cases members <;> simp [object]

theorem reads_recordBy {complete : δ → Option α} {members : List (String × List Char)}
    {value : α} (named : ∀ member ∈ members, ReadsName nameReader member.1)
    (fills : Fills fields draft members final) (whole : complete final = some value) :
    Reads (recordBy nameReader fields draft complete) (Json.object members) value := by
  intro rest ends
  rw [object_append]
  refine (bind_of_ok (peekToken_cons rfl)).trans ?_
  exact recordObject_object named fills whole rest

/-- A record is read from the object that its members make. -/
theorem reads_record {complete : δ → Option α} {members : List (String × List Char)}
    {value : α} (fills : Fills fields draft members final)
    (whole : complete final = some value) :
    Reads (record fields draft complete) (Json.object members) value :=
  reads_recordBy (fun member _ => stringBody_escapedText member.1) fills whole

end ClearingHouse.Json.Reader
