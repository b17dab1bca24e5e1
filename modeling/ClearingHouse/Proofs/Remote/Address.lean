import Mathlib.Data.Bool.AllAny
import Mathlib.Data.List.TakeWhile
import ClearingHouse.Remote.Outgoing

/-!
# Addresses below an origin

An origin is a scheme and a host, possibly with a port.  A path behind it makes an
address on the same host, and that address is asked for under this path.
-/

namespace ClearingHouse

namespace Http.Url

/-- Whether a character can stand in the text of a host. -/
def IsHostCharacter (character : Char) : Prop :=
  0x20 < character.toNat ∧ isSlash true character = false ∧ character ≠ '?' ∧
    character ≠ '#'

instance (character : Char) : Decidable (IsHostCharacter character) :=
  inferInstanceAs (Decidable (_ ∧ _))

/-- The schemes of the web. -/
def IsWeb (scheme : List Char) : Prop :=
  scheme = "http".toList ∨ scheme = "https".toList

variable {scheme host others : List Char}

/-! ## What stands behind the scheme -/

theorem isSpecialScheme_of_isWeb (isWeb : IsWeb scheme) :
    isSpecialScheme scheme = true := by
  rcases isWeb with rfl | rfl <;> decide

theorem cutAt_of_not_mem {divider : Char} {text : List Char} (notMember : divider ∉ text) :
    cutAt divider text = (text, none) := by
  have whole : text.takeWhile (fun character => character != divider) = text := by
    rw [List.takeWhile_eq_self_iff]
    intro character member
    simp only [bne_iff_ne, ne_eq]
    rintro rfl
    exact notMember member
  rw [cutAt]
  simp only [whole, List.drop_length]

theorem cutScheme?_of_isWeb (isWeb : IsWeb scheme) (rest : List Char) :
    cutScheme? (scheme ++ ':' :: rest) = some (scheme, rest) := by
  rcases isWeb with rfl | rfl <;> rfl

theorem shown_of_isWeb (isWeb : IsWeb scheme) :
    ∀ character ∈ scheme, 0x20 < character.toNat := by
  rcases isWeb with rfl | rfl <;> exact List.all_iff_forall_prop.mp (by decide)

/-- A text of shown characters stays as it is when it is cleaned. -/
theorem cleaned_eq_self {text : List Char}
    (shown : ∀ character ∈ text, 0x20 < character.toNat) :
    ((text.dropWhile fun character => decide (character.toNat ≤ 0x20)).reverse.dropWhile
      fun character => decide (character.toNat ≤ 0x20)).reverse.filter
        (fun character => !isDropped character) = text := by
  have kept : ∀ text : List Char, (∀ character ∈ text, 0x20 < character.toNat) →
      text.dropWhile (fun character => decide (character.toNat ≤ 0x20)) = text := by
    intro text shown
    cases text with
    | nil => rfl
    | cons character rest =>
        have first := shown character (by simp)
        exact List.dropWhile_cons_of_neg (by simp; omega)
  rw [kept text shown, kept text.reverse (by simpa using shown), List.reverse_reverse,
    List.filter_eq_self]
  intro character member
  have isShown := shown character member
  simp only [isDropped, Bool.not_eq_true', Bool.or_eq_false_iff, decide_eq_false_iff_not]
  refine ⟨⟨?_, ?_⟩, ?_⟩ <;> rintro rfl <;> revert isShown <;> decide

/-- An address of the web is read from what stands behind its slashes. -/
theorem parse?_of_isWeb {text : String} {behind : List Char} (isWeb : IsWeb scheme)
    (isText : text.toList = scheme ++ ':' :: '/' :: '/' :: behind)
    (shown : ∀ character ∈ behind, 0x20 < character.toNat)
    (noMark : '#' ∉ behind ∧ '?' ∉ behind) :
    parse? text = (hosted? scheme (behind.dropWhile (isSlash true))).map fun place =>
      { scheme := scheme
        authority := place.1
        urlPath := place.2
        query := none
        fragment := none } := by
  have allShown : ∀ character ∈ text.toList, 0x20 < character.toNat := by
    rw [isText]
    intro character member
    simp only [List.mem_append, List.mem_cons] at member
    rcases member with inScheme | rfl | rfl | rfl | inBehind
    · exact shown_of_isWeb isWeb character inScheme
    · decide
    · decide
    · decide
    · exact shown character inBehind
  have notFile : scheme ≠ "file".toList := by
    rcases isWeb with rfl | rfl <;> decide
  have noHash : '#' ∉ '/' :: '/' :: behind := by simpa using noMark.1
  have noQuestion : '?' ∉ '/' :: '/' :: behind := by simpa using noMark.2
  have slashes : ('/' :: '/' :: behind).dropWhile (isSlash true) =
      behind.dropWhile (isSlash true) := rfl
  unfold parse?
  simp only [cleaned_eq_self allShown]
  rw [isText, cutScheme?_of_isWeb isWeb]
  simp only [Option.bind_eq_bind, Option.bind_some, cutAt_of_not_mem noHash,
    cutAt_of_not_mem noQuestion, notFile, if_false, isSpecialScheme_of_isWeb isWeb,
    if_true, slashes]
  cases hosted? scheme (behind.dropWhile (isSlash true)) with
  | none => rfl
  | some place => rfl

/-! ## Hosts in front of a path -/

/-- No character of a text divides the segments of a path. -/
def IsOneSegment (text : List Char) : Prop :=
  ∀ character ∈ text, isSlash true character = false

theorem isSlash_slash : isSlash true '/' = true := rfl

theorem takeWhile_append_path {test : Char → Bool} (text : List Char)
    (stops : test '/' = false) :
    (text ++ '/' :: others).takeWhile test = text.takeWhile test := by
  induction text with
  | nil => exact List.takeWhile_cons_of_neg (by simp [stops])
  | cons character rest ih =>
      rw [List.cons_append, List.takeWhile_cons, List.takeWhile_cons, ih]

/-- Where the text about a user ends does not depend on what follows the host. -/
theorem withoutUser_append {hasUser : Bool} {rest : List Char} (others : List Char)
    (oneSegment : IsOneSegment host) (notEmpty : rest ≠ [])
    (cut : withoutUser true host = some (hasUser, rest)) :
    IsOneSegment rest ∧
      withoutUser true (host ++ '/' :: others) = some (hasUser, rest ++ '/' :: others) := by
  have start : (host ++ '/' :: others).takeWhile
      (fun character => !isSlash true character) = host := by
    rw [takeWhile_append_path _ rfl, List.takeWhile_eq_self_iff]
    simpa [IsOneSegment] using oneSegment
  have alone : host.takeWhile (fun character => !isSlash true character) = host := by
    rw [List.takeWhile_eq_self_iff]
    simpa [IsOneSegment] using oneSegment
  rw [withoutUser] at cut ⊢
  simp only [start, alone, List.drop_length, List.drop_left] at cut ⊢
  cases found : cutAtLast? '@' host with
  | none =>
      rw [found] at cut
      cases cut
      exact ⟨oneSegment, rfl⟩
  | some parts =>
      obtain ⟨user, named⟩ := parts
      rw [found] at cut
      simp only [List.isEmpty_nil, Bool.not_true, Bool.and_false, Bool.false_eq_true,
        if_false, List.append_nil, Option.some.injEq, Prod.mk.injEq] at cut
      obtain ⟨rfl, rfl⟩ := cut
      have isName : named.isEmpty = false := List.isEmpty_eq_false_iff.mpr notEmpty
      refine ⟨?_, by simp [isName]⟩
      intro character member
      refine oneSegment character ?_
      rw [cutAtLast?] at found
      split at found
      · cases found
        exact List.mem_reverse.mp
          ((List.takeWhile_prefix _).subset (List.mem_reverse.mp member))
      · cases found

/-- A host ends at its port or at the end of the text, whatever path follows. -/
theorem hostRun_append (inBrackets : Bool) (others : List Char)
    (oneSegment : IsOneSegment host) :
    hostRun true inBrackets (host ++ '/' :: others) = hostRun true inBrackets host ∧
      (host.drop (hostRun true inBrackets host).length = [] ∨
        ∃ rest, host.drop (hostRun true inBrackets host).length = ':' :: rest) := by
  induction host generalizing inBrackets with
  | nil => exact ⟨by simp [hostRun, isSlash_slash], Or.inl rfl⟩
  | cons character rest ih =>
      have notSlash := oneSegment character (by simp)
      have restIsOne : IsOneSegment rest := fun other member =>
        oneSegment other (List.mem_cons_of_mem _ member)
      simp only [List.cons_append, hostRun, notSlash, Bool.false_or]
      split
      · rename_i isPort
        simp only [Bool.and_eq_true, beq_iff_eq] at isPort
        exact ⟨rfl, Or.inr ⟨rest, by rw [isPort.1]; rfl⟩⟩
      · obtain ⟨same, ends⟩ := ih _ restIsOne
        exact ⟨by rw [same], by simpa using ends⟩

theorem length_hostRun_le (inBrackets : Bool) (text : List Char) :
    (hostRun true inBrackets text).length ≤ text.length := by
  induction text generalizing inBrackets with
  | nil => simp [hostRun]
  | cons character rest ih =>
      rw [hostRun]
      split
      · simp
      · simp only [List.length_cons, Nat.add_le_add_iff_right]
        exact ih _

theorem drop_length_takeWhile (test : Char → Bool) (text : List Char) :
    text.drop (text.takeWhile test).length = text.dropWhile test := by
  induction text with
  | nil => rfl
  | cons character rest ih =>
      rw [List.takeWhile_cons, List.dropWhile_cons]
      split
      · exact ih
      · rfl

/-- A port ends at the path behind it. -/
theorem port?_append {usual port : Option Nat} {text rest : List Char}
    (oneSegment : IsOneSegment text) (others : List Char)
    (read : port? usual text = some (port, rest)) :
    rest = [] ∧
      port? usual (text ++ '/' :: others) = some (port, '/' :: others) := by
  have noSlash : (text.dropWhile Char.isDigit).head?.any (isSlash true) = false := by
    cases found : (text.dropWhile Char.isDigit).head? with
    | none => rfl
    | some character =>
        exact oneSegment character
          ((List.dropWhile_sublist _).subset (List.mem_of_head? found))
  rw [port?] at read ⊢
  simp only [drop_length_takeWhile, noSlash, Bool.or_false] at read
  split at read
  · cases read
  · rename_i fits
    simp only [Bool.or_eq_true, decide_eq_true_eq, Bool.not_eq_true', not_or,
      Bool.not_eq_false, List.isEmpty_iff] at fits
    obtain ⟨small, atEnd⟩ := fits
    have digits : text.takeWhile Char.isDigit = text := by
      have whole := List.takeWhile_append_dropWhile (p := Char.isDigit) (l := text)
      rwa [atEnd, List.append_nil] at whole
    have behind : (text ++ '/' :: others).takeWhile Char.isDigit = text := by
      rw [takeWhile_append_path _ (by decide), digits]
    rw [digits] at small read
    rw [atEnd] at read
    simp only [behind, List.drop_left, List.head?_cons, Option.any_some, isSlash_slash,
      Bool.or_true, Bool.not_true, Bool.or_false, decide_eq_true_eq, small, if_false]
    split at read
    · rename_i isUsual
      cases read
      exact ⟨rfl, if_pos isUsual⟩
    · rename_i notUsual
      cases read
      exact ⟨rfl, if_neg notUsual⟩

/-- A host and a port are read alike with a path behind them. -/
theorem authority?_append {authority : Authority} {rest : List Char}
    (isWeb : IsWeb scheme) (oneSegment : IsOneSegment host)
    (read : authority? scheme host = some (authority, rest)) :
    rest = [] ∧
      authority? scheme (host ++ '/' :: others) = some (authority, '/' :: others) := by
  simp only [authority?, isSpecialScheme_of_isWeb isWeb, Option.bind_eq_bind,
    Option.bind_eq_some_iff, Bool.true_or, Bool.and_true] at read ⊢
  obtain ⟨⟨hasUser, named⟩, cut, read⟩ := read
  split at read
  · cases read
  · rename_i notEmpty
    have isNamed : named ≠ [] := by
      rintro rfl
      exact notEmpty rfl
    obtain ⟨namedIsOne, sameCut⟩ := withoutUser_append others oneSegment isNamed cut
    obtain ⟨sameRun, ends⟩ := hostRun_append false others namedIsOne
    have behind : (named ++ '/' :: others).drop (hostRun true false named).length =
        named.drop (hostRun true false named).length ++ '/' :: others :=
      List.drop_append_of_le_length (length_hostRun_le false named)
    obtain ⟨found, isHost, read⟩ := Option.bind_eq_some_iff.mp read
    rcases ends with atEnd | ⟨text, isPort⟩
    · -- The host has no port.
      simp only [atEnd] at read
      cases read
      refine ⟨rfl, _, sameCut, ?_⟩
      simp only [sameRun, behind, atEnd, List.nil_append, isHost, Option.bind_some,
        if_neg notEmpty]
      rfl
    · simp only [isPort] at read
      obtain ⟨⟨port, rest⟩, isRead, read⟩ := Option.bind_eq_some_iff.mp read
      have textIsOne : IsOneSegment text := by
        intro character member
        have inRest : character ∈ named.drop (hostRun true false named).length := by
          rw [isPort]
          exact List.mem_cons_of_mem _ member
        exact namedIsOne character (List.mem_of_mem_drop inRest)
      obtain ⟨rfl, sameRead⟩ := port?_append textIsOne others isRead
      cases read
      refine ⟨rfl, _, sameCut, ?_⟩
      simp only [sameRun, behind, isPort, List.cons_append, isHost, Option.bind_some,
        if_neg notEmpty, sameRead]

/-- The path behind a host is that of the address. -/
theorem hosted?_append {authority : Option Authority} {path : UrlPath}
    (isWeb : IsWeb scheme) (oneSegment : IsOneSegment host)
    (read : hosted? scheme host = some (authority, path)) :
    hosted? scheme (host ++ '/' :: others) =
      some (authority, .segments (segmentsOf true others)) := by
  simp only [hosted?, Option.bind_eq_bind, Option.bind_eq_some_iff,
    isSpecialScheme_of_isWeb isWeb] at read ⊢
  obtain ⟨⟨found, rest⟩, isFound, isPlace⟩ := read
  obtain ⟨rfl, same⟩ := authority?_append isWeb oneSegment isFound
  cases isPlace
  exact ⟨_, same, by simp [isSlash_slash]⟩

/-- An address of a host and a path is read as the host and what follows it. -/
theorem parse?_of_host {text : String} {path : List Char} (isWeb : IsWeb scheme)
    (areHost : ∀ character ∈ host, IsHostCharacter character)
    (areShown : ∀ character ∈ path, 0x20 < character.toNat ∧ character ≠ '?' ∧
      character ≠ '#')
    (named : host = [] → path = [])
    (isText : text.toList = scheme ++ ':' :: '/' :: '/' :: (host ++ path)) :
    parse? text = (hosted? scheme (host ++ path)).map fun place =>
      { scheme := scheme
        authority := place.1
        urlPath := place.2
        query := none
        fragment := none } := by
  have allowed : ∀ character ∈ host ++ path,
      0x20 < character.toNat ∧ character ≠ '?' ∧ character ≠ '#' := by
    intro character member
    rcases List.mem_append.mp member with inHost | inPath
    · obtain ⟨shown, -, noQuestion, noHash⟩ := areHost character inHost
      exact ⟨shown, noQuestion, noHash⟩
    · exact areShown character inPath
  have noSlash : (host ++ path).dropWhile (isSlash true) = host ++ path := by
    cases host with
    | nil =>
        rw [named rfl]
        rfl
    | cons character rest =>
        exact List.dropWhile_cons_of_neg (by simp [(areHost character (by simp)).2.1])
  have read := parse?_of_isWeb isWeb isText
    (fun character member => (allowed character member).1)
    ⟨fun member => (allowed '#' member).2.2 rfl,
      fun member => (allowed '?' member).2.1 rfl⟩
  rwa [noSlash] at read

end Http.Url

/-! ## Origins -/

open Http (Url)

/-- The start of addresses that is a scheme of the web and a host, and to which
requests can be sent. -/
structure IsOrigin (base : String) : Prop where
  ofParts : ∃ scheme host, base.toList = scheme ++ ':' :: '/' :: '/' :: host ∧
    Url.IsWeb scheme ∧ ∀ character ∈ host, Url.IsHostCharacter character
  sendable : ∃ url, Outgoing.address base = .ok url

/-- A path of shown characters, with no query behind it. -/
def IsPath (path : List Char) : Prop :=
  path.head? = some '/' ∧ ∀ character ∈ path, 0x20 < character.toNat ∧
    character ≠ '?' ∧ character ≠ '#'

instance (path : List Char) : Decidable (IsPath path) :=
  @instDecidableAnd _ _ _ (List.decidableBAll _ path)

theorem Outgoing.address_eq_ok_iff {text : String} {url : Url} :
    Outgoing.address text = .ok url ↔ Url.parse? text = some url ∧ url.isSendable := by
  rw [Outgoing.address]
  split
  · rename_i unread
    simp [unread]
  · rename_i found isFound
    rw [isFound]
    split
    · rename_i sendable
      constructor
      · rintro ⟨⟩
        exact ⟨rfl, sendable⟩
      · rintro ⟨⟨⟩, -⟩
        rfl
    · rename_i notSendable
      simp only [reduceCtorEq, Option.some.injEq, false_iff]
      rintro ⟨rfl, sendable⟩
      exact notSendable sendable

/-- A request to a path of an origin can be sent, and asks for this path. -/
theorem IsOrigin.address_append {base : String} (origin : IsOrigin base) {path : String}
    (isPath : IsPath path.toList) :
    ∃ url, Outgoing.address (base ++ path) = .ok url ∧
      url.target = (Url.segmentsOf true path.toList.tail).flatMap ('/' :: ·) := by
  obtain ⟨⟨scheme, host, isBase, isWeb, areHost⟩, url, isUrl⟩ := origin
  obtain ⟨starts, areShown⟩ := isPath
  obtain ⟨others, isText⟩ := List.head?_eq_some_iff.mp starts
  obtain ⟨isFound, sendable⟩ := Outgoing.address_eq_ok_iff.mp isUrl
  -- The origin alone is an address with an empty path.
  rw [Url.parse?_of_host isWeb areHost (by simp) (fun _ => rfl)
    (isBase.trans (by rw [List.append_nil])), List.append_nil,
    Option.map_eq_some_iff] at isFound
  obtain ⟨⟨authority, basePath⟩, isPlace, rfl⟩ := isFound
  have isNamed : host ≠ [] := by
    rintro rfl
    rcases isWeb with rfl | rfl <;> cases isPlace
  have oneSegment : Url.IsOneSegment host := fun character member =>
    (areHost character member).2.1
  have isWhole : (base ++ path).toList =
      scheme ++ ':' :: '/' :: '/' :: (host ++ path.toList) := by
    simp [isBase]
  have read := Url.parse?_of_host isWeb areHost areShown (absurd · isNamed) isWhole
  rw [isText, Url.hosted?_append isWeb oneSegment isPlace, Option.map_some] at read
  refine ⟨_, Outgoing.address_eq_ok_iff.mpr ⟨read, sendable⟩, ?_⟩
  rw [isText, List.tail_cons]
  exact List.append_nil _

/-- A port of this machine. -/
def loopback : String := "http://127.0.0.1:40001"

theorem isOrigin_loopback : IsOrigin loopback where
  ofParts := ⟨"http".toList, "127.0.0.1:40001".toList, by decide, Or.inl rfl,
    List.all_iff_forall_prop.mp (by decide)⟩
  sendable := by
    have found : (Outgoing.address loopback).toOption.isSome = true := by decide +kernel
    cases isUrl : Outgoing.address loopback with
    | ok url => exact ⟨url, rfl⟩
    | error text =>
        rw [isUrl] at found
        cases found

end ClearingHouse
