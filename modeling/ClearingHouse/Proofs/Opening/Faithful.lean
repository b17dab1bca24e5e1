import ClearingHouse.Proofs.Json.Printed
import ClearingHouse.Proofs.Opening.Listing

/-!
# How faithfully opening balances are read

A balance that is written as a number goes through a binary number and the shortest text
of that, and one that is written as a string goes through a decimal.  What a bank opens
with is the number in the document exactly if this way keeps it.  Integers that fit
sixty-four bits are kept, and so are numbers with at most fifteen digits that are neither
too large nor too small.  No number above the largest amount becomes one, be it kept or not.
-/

namespace ClearingHouse

open Json.Reader (signText)
open Numeral (Spells withoutSeparators)

namespace WrittenBalance

/-! ## What is written -/

/-- The characters of a balance, without blanks around them and without underscores. -/
def characters : WrittenBalance → List Char
  | .number numeral _ => numeral
  | .quoted text => withoutSeparators (Text.trimmed text.toList)

/-- The characters are a numeral, possibly behind a minus sign, and stand for this. -/
def Says (balance : WrittenBalance) (quantity : ℚ) : Prop :=
  ∃ negative unsigned numeral, balance.characters = signText negative ++ unsigned ∧
    Spells unsigned numeral ∧
      quantity = if negative then -numeral.value else numeral.value

/-- What is handed on still says the number, and a decimal can hold it where the text of a
string is read as one. -/
inductive Keeps (quantity : ℚ) : WrittenBalance → Prop
  | number {characters : List Char} {held : Json.Number} {numeral : Numeral}
      (spells : Spells (withoutSeparators (Text.trimmed held.written)) numeral)
      (same : numeral.value = quantity) : Keeps quantity (.number characters held)
  | quoted {text : String} {numeral : Numeral}
      (spells : Spells (withoutSeparators (Text.trimmed text.toList)) numeral)
      (same : numeral.value = quantity) (holdsBase : Decimal.Holds numeral.base)
      (holdsValue : Decimal.Holds numeral.value) : Keeps quantity (.quoted text)

/-- Numbers that are short enough to be kept. -/
inductive IsShort : WrittenBalance → ℚ → Prop
  | natural {digits : List Char} {held : Json.Number} {numeral : Numeral}
      (areDigits : ∀ character ∈ digits, character.isDigit = true)
      (spells : Spells digits numeral) (small : numeral.significand < 2 ^ 64) :
      IsShort (.number digits held) numeral.value
  | decimal {characters : List Char} {held : Json.Number} {numeral : Numeral}
      (spells : Spells characters numeral) (small : numeral.significand < 10 ^ 15)
      (few : (numeral.exponent - numeral.places).natAbs ≤ 22) :
      IsShort (.number characters held) numeral.value

/-- An amount that is kept as a number, or stands as a plain numeral in a string. -/
inductive Presents (amount : Amount) : WrittenBalance → Prop
  | number {characters : List Char} {held : Json.Number}
      (keeps : Keeps amount.value (.number characters held)) :
      Presents amount (.number characters held)
  | quoted {text : String} {numeral : Numeral}
      (isPlain : Numeral.IsPlain (Text.trimmed text.toList) numeral)
      (ended : (Text.trimmed text.toList).getLast? ≠ some '.')
      (same : numeral.value = amount.value) : Presents amount (.quoted text)

variable {balance : WrittenBalance} {amount : Amount} {quantity other : ℚ}

theorem head?_signText {negative : Bool} {unsigned : List Char} {numeral : Numeral}
    (spells : Spells unsigned numeral) :
    (signText negative ++ unsigned).head? = some '-' ↔ negative = true := by
  cases negative with
  | true => simp [signText]
  | false =>
      have notMinus : unsigned.head? ≠ some '-' :=
        Text.ne_some_of_isDigit spells.head (by decide)
      simpa [signText] using notMinus

/-- A text says one thing at most. -/
theorem Says.unique (said : balance.Says quantity) (otherSaid : balance.Says other) :
    quantity = other := by
  obtain ⟨negative, unsigned, numeral, isText, spells, rfl⟩ := said
  obtain ⟨otherNegative, otherUnsigned, otherNumeral, same, otherSpells, rfl⟩ := otherSaid
  rw [isText] at same
  have sameSign : negative = otherNegative := by
    rw [Bool.eq_iff_iff, ← head?_signText spells, same, head?_signText otherSpells]
  subst sameSign
  obtain rfl := List.append_cancel_left same
  rw [spells.unique otherSpells]

/-! ## What becomes of a balance -/

/-- A text that is read as an amount spells a numeral. -/
theorem spells_of_parse {text : String} (accepted : Amount.parse text = .ok amount) :
    ∃ numeral, Spells (withoutSeparators (Text.trimmed text.toList)) numeral := by
  obtain ⟨noSign, noPoint, -, number, done, -⟩ := Amount.parse_eq_ok_iff.mp accepted
  obtain ⟨numeral, spells, -⟩ := Decimal.readsAs_of_read noSign noPoint done
  exact ⟨numeral, spells⟩

/-- A number that is accepted has no sign, and shows the amount. -/
theorem shown_of_parse {negative : Bool} {unsigned : List Char} {numeral : Numeral}
    {held : Json.Number} (heldAs : Json.Reader.HeldAs negative unsigned numeral held)
    (accepted : Amount.parse (String.ofList held.written) = .ok amount) :
    negative = false ∧ held.shown = amount.value ∧
      Amount.Shows amount.value held.written := by
  obtain ⟨text, isWritten, shows⟩ := heldAs.shows
  rw [isWritten] at accepted ⊢
  cases negative with
  | true =>
      obtain ⟨⟨noMinus, -⟩, -⟩ := Amount.parse_eq_ok_iff.mp accepted
      rw [String.toList_ofList, signText, if_pos rfl, List.singleton_append,
        shows.isEdged.trimmed_minus] at noMinus
      exact absurd rfl noMinus
  | false =>
      rw [signText, if_neg (by decide), List.nil_append] at accepted ⊢
      have isShown := shows.parse_iff.mp accepted
      exact ⟨rfl, isShown, isShown ▸ shows⟩

/-- What is accepted says something. -/
theorem says_of_parse (isRead : balance.IsRead)
    (accepted : Amount.parse balance.handedOn = .ok amount) :
    ∃ quantity, balance.Says quantity ∧ 0 ≤ quantity := by
  cases balance with
  | number characters held =>
      obtain ⟨negative, unsigned, numeral, isText, spells, heldAs⟩ := isRead
      obtain ⟨rfl, -⟩ := shown_of_parse heldAs accepted
      exact ⟨_, ⟨false, unsigned, numeral, isText, spells, rfl⟩, numeral.value_nonneg⟩
  | quoted text =>
      obtain ⟨numeral, spells⟩ := spells_of_parse accepted
      exact ⟨_, ⟨false, _, numeral, rfl, spells, rfl⟩, numeral.value_nonneg⟩

/-- The amount is what the document says exactly if that is kept. -/
theorem value_eq_iff_keeps (isRead : balance.IsRead)
    (accepted : Amount.parse balance.handedOn = .ok amount) (said : balance.Says quantity) :
    amount.value = quantity ↔ balance.Keeps quantity := by
  cases balance with
  | number characters held =>
      obtain ⟨negative, unsigned, numeral, isText, spells, heldAs⟩ := isRead
      obtain ⟨-, -, shows⟩ := shown_of_parse heldAs accepted
      obtain ⟨printed, printedSpells, same, -⟩ := shows.spells
      constructor
      · exact fun isAmount => .number printedSpells (same.trans isAmount)
      · intro keeps
        cases keeps with
        | number spells isQuantity =>
            rw [← isQuantity, spells.unique printedSpells, same]
  | quoted text =>
      obtain ⟨numeral, spells⟩ := spells_of_parse accepted
      have isSaid : (quoted text).Says numeral.value :=
        ⟨false, _, numeral, rfl, spells, rfl⟩
      obtain rfl := said.unique isSaid
      rw [eq_comm, Amount.value_eq_iff_of_parse accepted spells]
      constructor
      · exact fun holds => .quoted spells rfl holds.1 holds.2
      · intro keeps
        cases keeps with
        | quoted otherSpells isQuantity holdsBase holdsValue =>
            rw [spells.unique otherSpells]
            exact ⟨holdsBase, holdsValue⟩

/-- Nothing negative is accepted. -/
theorem parse_ne_ok_of_neg (isRead : balance.IsRead) (said : balance.Says quantity)
    (isNegative : quantity < 0) : Amount.parse balance.handedOn ≠ .ok amount := by
  intro accepted
  obtain ⟨other, otherSaid, notNegative⟩ := says_of_parse isRead accepted
  rw [said.unique otherSaid] at isNegative
  exact absurd notNegative (not_le.mpr isNegative)

/-- What is kept and is no amount is not accepted. -/
theorem parse_ne_ok_of_keeps (isRead : balance.IsRead) (keeps : balance.Keeps quantity)
    (said : balance.Says quantity) (notAmount : ∀ amount : Amount, amount.value ≠ quantity) :
    Amount.parse balance.handedOn ≠ .ok amount :=
  fun accepted => notAmount amount ((value_eq_iff_keeps isRead accepted said).mpr keeps)

/-- No number above the largest amount is accepted, be it kept or not. -/
theorem parse_ne_ok_of_large {characters : List Char} {held : Json.Number}
    (isRead : (number characters held).IsRead) (said : (number characters held).Says quantity)
    (large : ((2 : ℚ) ^ 64 - 1) / 100 < quantity) :
    Amount.parse (number characters held).handedOn ≠ .ok amount := by
  intro accepted
  obtain ⟨negative, unsigned, numeral, isText, spells, heldAs⟩ := isRead
  obtain ⟨rfl, isShown, -⟩ := shown_of_parse heldAs accepted
  have isSaid : (number characters held).Says numeral.value :=
    ⟨false, unsigned, numeral, isText, spells, rfl⟩
  rw [said.unique isSaid] at large
  have isLarge := heldAs.shown_of_large large
  rw [isShown, Amount.value] at isLarge
  have bounded : (amount.minor : ℚ) + 1 ≤ 2 ^ 64 := by exact_mod_cast amount.bounded
  linarith

theorem keeps_of_shown {characters unsigned : List Char} {held : Json.Number}
    {numeral : Numeral} (heldAs : Json.Reader.HeldAs false unsigned numeral held)
    (isShown : held.shown = quantity) : (number characters held).Keeps quantity := by
  obtain ⟨text, isWritten, shows⟩ := heldAs.shows
  obtain ⟨printed, spells, same, -⟩ := shows.spells
  rw [signText, if_neg (by decide), List.nil_append] at isWritten
  exact .number (isWritten ▸ spells) (same.trans isShown)

/-- A number that spells a numeral has no sign, and is held as that numeral. -/
theorem heldAs_of_spells {characters : List Char} {held : Json.Number} {numeral : Numeral}
    (isRead : (number characters held).IsRead) (spells : Spells characters numeral) :
    Json.Reader.HeldAs false characters numeral held := by
  obtain ⟨negative, unsigned, found, rfl, foundSpells, heldAs⟩ := isRead
  cases negative with
  | true =>
      exact absurd rfl (Text.ne_some_of_isDigit spells.head (by decide))
  | false =>
      rw [signText, if_neg (by decide), List.nil_append] at spells ⊢
      rwa [spells.unique foundSpells]

/-- Short numbers are kept. -/
theorem IsShort.keeps (isShort : balance.IsShort quantity) (isRead : balance.IsRead) :
    balance.Keeps quantity := by
  cases isShort with
  | natural areDigits spells small =>
      have heldAs := heldAs_of_spells isRead spells
      exact keeps_of_shown heldAs (heldAs.shown_of_digits areDigits small)
  | decimal spells small few =>
      have heldAs := heldAs_of_spells isRead spells
      exact keeps_of_shown heldAs (heldAs.shown_of_short small few)

/-- An amount that is presented is read. -/
theorem Presents.parse (presents : Presents amount balance) (isRead : balance.IsRead) :
    Amount.parse balance.handedOn = .ok amount := by
  cases presents with
  | @number characters held keeps =>
      obtain ⟨negative, unsigned, found, -, -, heldAs⟩ := isRead
      obtain ⟨text, isWritten, shows⟩ := heldAs.shows
      obtain ⟨printed, printedSpells, same, -⟩ := shows.spells
      cases keeps with
      | number spells isAmount =>
          rw [handedOn, isWritten]
          rw [isWritten] at spells
          cases negative with
          | true =>
              rw [signText, if_pos rfl, List.singleton_append, shows.isEdged.trimmed_minus,
                Decimal.withoutSeparators_cons _ (by decide)] at spells
              exact absurd rfl (Text.ne_some_of_isDigit spells.head (by decide))
          | false =>
              rw [signText, if_neg (by decide), List.nil_append] at spells ⊢
              rw [shows.parse_iff, ← isAmount, spells.unique printedSpells, same]
  | quoted isPlain ended same => exact Amount.parse_of_isPlain isPlain ended same

end WrittenBalance

/-! ## Documents -/

namespace OpeningBalances

/-- How faithfully a bank opens with what a document lists for it. -/
structure Faithful (document : String) (bank : BankName) : Prop where
  /-- Every listing has one entry, in the order of the document, and no account has two. -/
  listed : ∀ entries, parse document bank = .ok entries →
    ∃ listings, Listing.listedFor document bank = some listings ∧
      entries.map Prod.fst = listings.map Listing.account ∧ (entries.map Prod.fst).Nodup
  /-- Every balance of a listing says one number, and this is the amount exactly if it is
  kept. -/
  exact : ∀ entries listings, parse document bank = .ok entries →
    Listing.listedFor document bank = some listings →
      List.Forall₂ (fun listing entry => (∃! quantity, listing.balance.Says quantity) ∧
        ∀ quantity, listing.balance.Says quantity →
          (entry.2.value = quantity ↔ listing.balance.Keeps quantity)) listings entries
  /-- Short numbers are kept. -/
  short : ∀ listings, Listing.listedFor document bank = some listings →
    ∀ listing ∈ listings, ∀ quantity, listing.balance.IsShort quantity →
      listing.balance.Keeps quantity
  /-- A document that repeats an account is refused. -/
  repeated : ∀ listings, Listing.listedFor document bank = some listings →
    ¬ (listings.map Listing.account).Nodup → ∀ entries, parse document bank ≠ .ok entries
  /-- So is one with a negative balance. -/
  negative : ∀ listings, Listing.listedFor document bank = some listings →
    ∀ listing ∈ listings, ∀ quantity, listing.balance.Says quantity → quantity < 0 →
      ∀ entries, parse document bank ≠ .ok entries
  /-- So is one with a balance that is kept, but is not a number of hundredths or too
  large. -/
  refused : ∀ listings, Listing.listedFor document bank = some listings →
    ∀ listing ∈ listings, ∀ quantity, listing.balance.Says quantity →
      listing.balance.Keeps quantity → (∀ amount : Amount, amount.value ≠ quantity) →
        ∀ entries, parse document bank ≠ .ok entries
  /-- So is one with a number above the largest amount, be it kept or not. -/
  tooLarge : ∀ listings, Listing.listedFor document bank = some listings →
    ∀ listing ∈ listings, ∀ characters held, listing.balance = .number characters held →
      ∀ quantity, listing.balance.Says quantity → (2 ^ 64 - 1) / 100 < quantity →
        ∀ entries, parse document bank ≠ .ok entries
  /-- A document with different accounts, each with an amount, is accepted. -/
  accepted : ∀ listings, Listing.listedFor document bank = some listings →
    (listings.map Listing.account).Nodup →
      (∀ listing ∈ listings, ∃ amount, listing.balance.Presents amount) →
        ∃ entries, parse document bank = .ok entries

/-- A listing with a balance that is not read as an amount keeps the bank from opening. -/
theorem parse_ne_ok_of_mem {document : String} {bank : BankName} {listings : List Listing}
    {listing : Listing} (areListed : Listing.listedFor document bank = some listings)
    (member : listing ∈ listings)
    (notRead : ∀ amount, Amount.parse listing.balance.handedOn ≠ .ok amount)
    (entries : List (AccountNumber × Amount)) : parse document bank ≠ .ok entries := by
  intro done
  obtain ⟨others, areOthers, -, entered⟩ := parse_eq_ok_iff.mp done
  rw [areListed] at areOthers
  cases areOthers
  have areRead : List.Forall₂ (fun (listing : Listing) entry =>
      (∃ amount, Amount.parse listing.balance.handedOn = .ok amount) ∧
        Enters listing entry) listings entries :=
    entered.imp fun _ entry enters => ⟨⟨entry.2, enters.amount⟩, enters⟩
  obtain ⟨amount, isRead⟩ := ((List.forall₂_and_left _ _).mp areRead).1 listing member
  exact notRead amount isRead

theorem exists_entries {listings : List Listing}
    (areRead : ∀ listing ∈ listings, ∃ amount,
      Amount.parse listing.balance.handedOn = .ok amount) :
    ∃ entries, List.Forall₂ Enters listings entries := by
  induction listings with
  | nil => exact ⟨[], .nil⟩
  | cons listing rest ih =>
      rw [List.forall_mem_cons] at areRead
      obtain ⟨⟨amount, isRead⟩, restRead⟩ := areRead
      obtain ⟨entries, entered⟩ := ih restRead
      exact ⟨(listing.account, amount) :: entries, .cons ⟨rfl, isRead⟩ entered⟩

/-- Opening balances are what the document says, as far as that is kept. -/
theorem faithful_of_listed (document : String) (bank : BankName) :
    Faithful document bank where
  listed := by
    intro entries done
    obtain ⟨listings, areListed, distinct, entered⟩ := parse_eq_ok_iff.mp done
    have sameAccounts : entries.map Prod.fst = listings.map Listing.account := by
      clear done areListed distinct
      induction entered with
      | nil => rfl
      | cons enters _ ih => rw [List.map_cons, List.map_cons, enters.account, ih]
    exact ⟨listings, areListed, sameAccounts, sameAccounts ▸ distinct⟩
  exact := by
    intro entries listings done areListed
    obtain ⟨others, areOthers, -, entered⟩ := parse_eq_ok_iff.mp done
    rw [areListed] at areOthers
    cases areOthers
    have areRead := (List.forall₂_and_left _ _).mpr
      ⟨Listing.isRead_of_listedFor areListed, entered⟩
    refine areRead.imp fun listing entry ⟨isRead, enters⟩ => ?_
    obtain ⟨quantity, said, -⟩ := WrittenBalance.says_of_parse isRead enters.amount
    exact ⟨⟨quantity, said, fun other otherSaid => otherSaid.unique said⟩,
      fun other => WrittenBalance.value_eq_iff_keeps isRead enters.amount⟩
  short := fun listings areListed listing member quantity isShort =>
    isShort.keeps (Listing.isRead_of_listedFor areListed listing member)
  repeated := by
    intro listings areListed repeated entries done
    obtain ⟨others, areOthers, distinct, -⟩ := parse_eq_ok_iff.mp done
    rw [areListed] at areOthers
    cases areOthers
    exact repeated distinct
  negative := fun listings areListed listing member quantity said isNegative =>
    parse_ne_ok_of_mem areListed member fun _ => WrittenBalance.parse_ne_ok_of_neg
      (Listing.isRead_of_listedFor areListed listing member) said isNegative
  refused := fun listings areListed listing member quantity said keeps notAmount =>
    parse_ne_ok_of_mem areListed member fun _ => WrittenBalance.parse_ne_ok_of_keeps
      (Listing.isRead_of_listedFor areListed listing member) keeps said notAmount
  tooLarge := by
    intro listings areListed listing member characters held isNumber quantity said large
    have isRead := Listing.isRead_of_listedFor areListed listing member
    refine parse_ne_ok_of_mem areListed member fun _ => ?_
    rw [isNumber] at said isRead ⊢
    exact WrittenBalance.parse_ne_ok_of_large isRead said large
  accepted := by
    intro listings areListed distinct present
    obtain ⟨entries, entered⟩ := exists_entries fun listing member => by
      obtain ⟨amount, presents⟩ := present listing member
      exact ⟨amount, presents.parse (Listing.isRead_of_listedFor areListed listing member)⟩
    exact ⟨entries, parse_eq_ok_iff.mpr ⟨listings, areListed, distinct, entered⟩⟩

/-- A number of seventeen digits is rounded to the nearest even one. -/
example : parse
    "\x7b\"b\":[[\"x\",\"A1\",9007199254740993.0]]\x7d" ⟨"b"⟩ =
      .ok [(⟨"A1"⟩, ⟨900719925474099400, by decide⟩)] := by
  decide +kernel

end OpeningBalances

end ClearingHouse
