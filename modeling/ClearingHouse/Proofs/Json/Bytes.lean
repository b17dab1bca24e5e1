import ClearingHouse.Json.Tree
import ClearingHouse.Proofs.Json.Records

/-!
# Reading from bytes

What a token holds is read byte by byte, and a byte is held as the character with its
number.  Only characters of one byte are escaped, so the bytes of an escaped text are
the escaped bytes of the text.  Therefore a string with any characters in it is read back
from its bytes.
-/

namespace ClearingHouse.Json

/-! ## The bytes of a text -/

/-- A byte as the character with its number. -/
def octet (byte : UInt8) : Char := Char.ofNat byte.toNat

/-- The bytes of a text, as the characters with their numbers. -/
def octets (text : List Char) : List Char :=
  text.flatMap fun character => (String.utf8EncodeChar character).map octet

theorem octets_cons (character : Char) (rest : List Char) :
    octets (character :: rest) = octets [character] ++ octets rest := by
  simp [octets]

theorem octets_append (first second : List Char) :
    octets (first ++ second) = octets first ++ octets second := by
  simp [octets]

theorem toNat_octet (byte : UInt8) : (octet byte).toNat = byte.toNat := by
  have isCharacter : byte.toNat.isValidChar := Or.inl (by have := byte.toNat_lt; omega)
  rw [octet, Char.ofNat, dif_pos isCharacter]
  rfl

/-- Whether a character is one byte. -/
def isAscii (character : Char) : Bool := character.toNat < 0x80

theorem octets_singleton_of_isAscii {character : Char} (ascii : isAscii character) :
    octets [character] = [character] := by
  have small : character.val.toNat ≤ 0x7f := Nat.le_of_lt_succ (of_decide_eq_true ascii)
  have whole : (UInt8.ofNat character.val.toNat).toNat = character.toNat := by
    rw [UInt8.toNat_ofNat']
    exact Nat.mod_eq_of_lt (Nat.lt_of_le_of_lt small (by decide))
  rw [octets, List.flatMap_singleton, String.utf8EncodeChar]
  simp only [small, if_true, List.map_cons, List.map_nil, octet, whole, Char.ofNat_toNat]

theorem octets_cons_of_isAscii {character : Char} (ascii : isAscii character)
    (rest : List Char) : octets (character :: rest) = character :: octets rest := by
  rw [octets_cons, octets_singleton_of_isAscii ascii, List.singleton_append]

theorem octets_of_isAscii {text : List Char} (ascii : text.all isAscii) :
    octets text = text := by
  induction text with
  | nil => rfl
  | cons character rest ih =>
      rw [List.all_cons, Bool.and_eq_true] at ascii
      rw [octets_cons_of_isAscii ascii.1, ih ascii.2]

theorem not_isAscii_octet {value lead : Nat} (isLead : 0x80 ≤ lead)
    (small : value + lead < 0x100) : isAscii (octet (UInt8.ofNat (value + lead))) = false := by
  rw [isAscii, toNat_octet, UInt8.toNat_ofNat', Nat.mod_eq_of_lt small]
  exact decide_eq_false (by omega)

/-- No byte of a character of several bytes is a character of one byte. -/
theorem not_isAscii_of_mem_octets {character other : Char}
    (large : isAscii character = false) (isOctet : other ∈ octets [character]) :
    isAscii other = false := by
  have large : ¬ character.val.toNat ≤ 0x7f := fun small =>
    of_decide_eq_false large (Nat.lt_succ_of_le small)
  rw [octets, List.flatMap_singleton, String.utf8EncodeChar] at isOctet
  simp only [large, if_false] at isOctet
  split_ifs at isOctet
  all_goals
    simp only [List.map_cons, List.map_nil, List.mem_cons, List.not_mem_nil, or_false]
      at isOctet
  · rcases isOctet with rfl | rfl <;> exact not_isAscii_octet (by decide) (by omega)
  · rcases isOctet with rfl | rfl | rfl <;> exact not_isAscii_octet (by decide) (by omega)
  · rcases isOctet with rfl | rfl | rfl | rfl <;>
      exact not_isAscii_octet (by decide) (by omega)

/-! ## Escapes -/

theorem escaped_of_not_isAscii {character : Char} (large : isAscii character = false) :
    escaped character = [character] := by
  have differs : ∀ other, isAscii other = true → ¬ character = other := by
    rintro other ascii rfl
    rw [ascii] at large
    cases large
  have notControl : ¬ character.toNat < 0x20 := fun control =>
    of_decide_eq_false large (Nat.lt_trans control (by decide))
  rw [escaped, if_neg (differs _ (by decide)), if_neg (differs _ (by decide)),
    if_neg (differs _ (by decide)), if_neg (differs _ (by decide)),
    if_neg (differs _ (by decide)), if_neg (differs _ (by decide)),
    if_neg (differs _ (by decide)), if_neg notControl]

theorem all_isAscii_escaped {character : Char} (ascii : isAscii character) :
    (escaped character).all isAscii := by
  have all : ∀ number < 0x80, (escaped (Char.ofNat number)).all isAscii := by decide
  have ofNumber := all character.toNat (of_decide_eq_true ascii)
  rwa [Char.ofNat_toNat] at ofNumber

theorem escapedText_append (first second : List Char) :
    escapedText (first ++ second) = escapedText first ++ escapedText second := by
  induction first with
  | nil => rfl
  | cons character rest ih => simp [escapedText, ih]

theorem escapedText_of_not_isAscii {text : List Char}
    (large : ∀ character ∈ text, isAscii character = false) : escapedText text = text := by
  induction text with
  | nil => rfl
  | cons character rest ih =>
      rw [List.forall_mem_cons] at large
      rw [escapedText, escaped_of_not_isAscii large.1, ih large.2, List.singleton_append]

/-- The bytes of an escaped text are the escaped bytes of the text. -/
theorem octets_escapedText (text : List Char) :
    octets (escapedText text) = escapedText (octets text) := by
  induction text with
  | nil => rfl
  | cons character rest ih =>
      rw [escapedText, octets_append, ih, octets_cons character rest, escapedText_append]
      congr 1
      cases ascii : isAscii character with
      | true =>
          rw [octets_of_isAscii (all_isAscii_escaped ascii),
            octets_singleton_of_isAscii ascii, escapedText, escapedText, List.append_nil]
      | false =>
          rw [escaped_of_not_isAscii ascii,
            escapedText_of_not_isAscii fun other => not_isAscii_of_mem_octets ascii]

theorem octets_quote : octets ['"'] = ['"'] := octets_of_isAscii (by decide)

theorem octets_string (text : String) :
    octets (string text) = '"' :: (escapedText (octets text.toList) ++ ['"']) := by
  rw [string, List.cons_append, octets_cons_of_isAscii (by decide), octets_append,
    octets_quote, octets_escapedText]

theorem octets_string_of_isAscii {text : String} (ascii : text.toList.all isAscii) :
    octets (string text) = string text := by
  rw [octets_string, octets_of_isAscii ascii]
  rfl

theorem octets_natural (number : Nat) : octets (natural number) = natural number := by
  refine octets_of_isAscii (List.all_eq_true.mpr fun character isPart => ?_)
  have isDigit : character.isDigit = true := Text.isDigit_of_mem_digits isPart
  rw [Char.isDigit, Bool.and_eq_true, decide_eq_true_eq, decide_eq_true_eq] at isDigit
  exact decide_eq_true (Nat.lt_of_le_of_lt isDigit.2 (by decide))

theorem octets_furtherMembers {members : List (String × List Char)}
    (named : ∀ member ∈ members, member.1.toList.all isAscii) :
    octets (furtherMembers members) =
      furtherMembers (members.map fun member => (member.1, octets member.2)) := by
  induction members with
  | nil => rfl
  | cons member others ih =>
      rw [List.forall_mem_cons] at named
      have comma : ∀ rest, octets (',' :: rest) = ',' :: octets rest :=
        octets_cons_of_isAscii (by decide)
      have colon : ∀ rest, octets (':' :: rest) = ':' :: octets rest :=
        octets_cons_of_isAscii (by decide)
      simp only [furtherMembers, List.map_cons, List.cons_append, octets_append, comma,
        colon, octets_string_of_isAscii named.1, ih named.2]

/-- If the names of an object take one byte each character, the bytes of the object are
the object of the bytes. -/
theorem octets_object {members : List (String × List Char)}
    (named : ∀ member ∈ members, member.1.toList.all isAscii) :
    octets (object members) =
      object (members.map fun member => (member.1, octets member.2)) := by
  cases members with
  | nil => exact octets_of_isAscii (by decide)
  | cons member others =>
      rw [List.forall_mem_cons] at named
      have opening : ∀ rest, octets ('{' :: rest) = '{' :: octets rest :=
        octets_cons_of_isAscii (by decide)
      have closing : octets ['}'] = ['}'] := octets_of_isAscii (by decide)
      have colon : ∀ rest, octets (':' :: rest) = ':' :: octets rest :=
        octets_cons_of_isAscii (by decide)
      simp only [object, List.map_cons, List.cons_append, octets_append, opening, closing,
        colon, octets_string_of_isAscii named.1, octets_furtherMembers named.2]

namespace Reader

/-! ## Strings from their bytes -/

theorem bytes_of_octets (text : List Char) :
    (octets text).map (fun byte => UInt8.ofNat byte.toNat) =
      text.flatMap String.utf8EncodeChar := by
  have back : (fun byte => UInt8.ofNat byte.toNat) ∘ octet = id := by
    funext byte
    rw [Function.comp_apply, toNat_octet, UInt8.ofNat_toNat, id_eq]
  rw [octets, List.map_flatMap]
  simp only [List.map_map, back, List.map_id]

theorem decoded?_octets (text : List Char) : decoded? (octets text) = some text := by
  have isText : (⟨(text.flatMap String.utf8EncodeChar).toArray⟩ : ByteArray) =
      (String.ofList text).toByteArray := by
    rw [String.toByteArray_ofList, List.utf8Encode, ← List.data_toByteArray]
  have valid : (String.ofList text).toByteArray.IsValidUTF8 :=
    (String.ofList text).isValidUTF8
  rw [decoded?, bytes_of_octets, isText, String.fromUTF8?, dif_pos valid, Option.map_some]
  exact congrArg some String.toList_ofList

theorem heldString_octets (text : String) (rest : List Char) :
    heldString (escapedText (octets text.toList) ++ '"' :: rest) =
      .ok (some text, rest) := by
  have taken : (escapedText (octets text.toList) ++ '"' :: rest).take
      ((escapedText (octets text.toList) ++ '"' :: rest).length - rest.length) =
        octets (escapedText text.toList ++ ['"']) := by
    rw [octets_append, octets_quote, octets_escapedText, List.append_cons]
    exact List.take_left' (by simp; omega)
  have decoded : stringFrom [] .plain (escapedText text.toList ++ ['"']) =
      .ok (text.toList, []) := stringFrom_escapedText [] text.toList []
  show Except.bind (stringFrom [] .plain _) _ = _
  rw [stringFrom_escapedText]
  simp only [Except.bind, taken, decoded?_octets]
  show Except.bind (stringFrom [] .plain _) _ = _
  rw [decoded, Except.bind, String.ofList_toList]

theorem readsName_byteString {name : String} (ascii : name.toList.all isAscii) :
    ReadsName byteString name := by
  intro rest
  have read := heldString_octets name rest
  rw [octets_of_isAscii ascii] at read
  rw [byteString, bind_of_ok read]
  rfl

/-! ## Values of any shape -/

theorem tree_of_first {depth : Nat} {first : Char} {others : List Char}
    (notSpace : isSpace first = false) (notList : first ≠ '[') (notObject : first ≠ '{') :
    tree (depth + 1) (first :: others) = atom first (first :: others) := by
  rw [tree, bind_of_ok (peekToken_cons notSpace)]
  refine congrFun (g := atom first) ?_ (first :: others)
  split
  · rename_i isNone
    cases isNone
  · rename_i isList
    exact absurd (Option.some.inj isList) notList
  · rename_i isObject
    exact absurd (Option.some.inj isObject) notObject
  · rename_i other _ _ isFirst
    rw [Option.some.inj isFirst]

theorem tree_octets_string (depth : Nat) (text : String) (rest : List Char) :
    tree (depth + 1) (octets (Json.string text) ++ rest) =
      .ok (some (.text text), rest) := by
  rw [octets_string, List.cons_append, List.append_assoc, List.singleton_append,
    tree_of_first (by decide) (by decide) (by decide)]
  refine (bind_of_ok (advance_cons _ _)).trans ?_
  refine (bind_of_ok (heldString_octets text rest)).trans ?_
  rfl

theorem tree_digits (depth : Nat) {number : Nat} (fits : number < 2 ^ 64)
    {rest : List Char} (ends : Ends rest) :
    tree (depth + 1) (Text.digits number ++ rest) =
      .ok (some (.number (.natural number)), rest) := by
  obtain ⟨first, others, isDigits⟩ :=
    List.exists_cons_of_ne_nil (Text.digits_ne_nil number)
  have ofFirst : first.isDigit = true :=
    Text.isDigit_of_mem_digits (by rw [isDigits]; exact List.mem_cons_self)
  have starts : startsNumber first = true := by simp [startsNumber, isDigit_eq, ofFirst]
  have differs : ∀ other : Char, other.isDigit = false → first ≠ other := by
    rintro other notDigit rfl
    rw [ofFirst] at notDigit
    cases notDigit
  have read : numeral false (Text.digits number ++ rest) = .ok (.natural number, rest) :=
    numeral_digits fits (by simp) ends
  have held : heldNumber first (Text.digits number ++ rest) =
      .ok (some (.natural number), rest) := by
    rw [heldNumber, Reader.number, if_neg (differs _ rfl), read]
  rw [isDigits, List.cons_append] at held ⊢
  rw [tree_of_first (not_isSpace_of_startsNumber starts) (differs _ rfl) (differs _ rfl), atom,
    if_neg (differs _ rfl), if_neg (differs _ rfl), if_neg (differs _ rfl), if_pos starts]
  refine (bind_of_ok held).trans ?_
  rfl

end Reader

end ClearingHouse.Json
