import ClearingHouse.Bank.OpeningBalances
import ClearingHouse.Proofs.Json.Alike
import ClearingHouse.Proofs.Json.Numbers

/-!
# What a document lists

A listing is a customer as the document has it, with the characters of the balance still
there.  Reading a document for its listings and reading it for its customers is the same,
but for the balances: a customer has only the text that is handed on to be read as an
amount.
-/

namespace ClearingHouse

open Json.Reader (Alike Matches signText)

/-- A balance as it stands in a document. -/
inductive WrittenBalance where
  /-- The characters of a number, and what the number is held as. -/
  | number (numeral : List Char) (held : Json.Number)
  /-- What stands between the quotes of a string. -/
  | quoted (text : String)

namespace WrittenBalance

/-- The text that is read as an amount. -/
def handedOn : WrittenBalance → String
  | .number _ held => String.ofList held.written
  | .quoted text => text

/-- The number is held as it is because of its characters. -/
def IsRead : WrittenBalance → Prop
  | .number numeral held => ∃ negative unsigned found,
      numeral = signText negative ++ unsigned ∧ Numeral.Spells unsigned found ∧
        Json.Reader.HeldAs negative unsigned found held
  | .quoted _ => True

def reader : Json.Reader WrittenBalance := do
  match ← Json.Reader.peekToken with
  | none => Json.Reader.fail .truncated
  | some first =>
      if Json.Reader.startsNumber first then do
        let before ← get
        let held ← Json.Reader.number first
        let after ← get
        pure (.number (before.take (before.length - after.length)) held)
      else do
        let text ← Json.Reader.string
        pure (.quoted text)

/-- A balance and the text that is handed on for it. -/
def HandsOn (balance : WrittenBalance) (text : String) : Prop :=
  text = balance.handedOn ∧ balance.IsRead

theorem alike_reader : Alike HandsOn reader Customer.balanceReader := by
  intro text
  obtain ⟨rest, isRest⟩ : ∃ rest, Json.Reader.peekToken text = .ok (rest.head?, rest) :=
    ⟨_, rfl⟩
  rw [reader, Customer.balanceReader, Json.Reader.bind_of_ok isRest,
    Json.Reader.bind_of_ok isRest]
  cases isFirst : rest.head? with
  | none => exact .failed .truncated
  | some first =>
      simp only
      split
      · have isGet : (get : Json.Reader (List Char)) rest = .ok (rest, rest) := rfl
        rw [Json.Reader.bind_of_ok isGet]
        cases isNumber : Json.Reader.number first rest with
        | error fault =>
            rw [Json.Reader.bind_of_error isNumber, Json.Reader.bind_of_error isNumber]
            exact .failed fault
        | ok outcome =>
            obtain ⟨negative, unsigned, found, isText, spells, isHeld⟩ :=
              Json.Reader.of_number isFirst isNumber
            rw [Json.Reader.bind_of_ok isNumber, Json.Reader.bind_of_ok isNumber]
            refine .done ⟨rfl, negative, unsigned, found, ?_, spells, isHeld⟩ outcome.2
            rw [isText, List.length_append, Nat.add_sub_cancel, List.take_left']
            rfl
      · cases isString : Json.Reader.string rest with
        | error fault =>
            rw [Json.Reader.bind_of_error isString]
            exact .failed fault
        | ok outcome =>
            rw [Json.Reader.bind_of_ok isString]
            exact .done ⟨rfl, trivial⟩ outcome.2

end WrittenBalance

/-! ## Customers -/

structure Listing where
  name : String
  account : AccountNumber
  balance : WrittenBalance

namespace Listing

structure Draft where
  name : Option String := none
  account : Option AccountNumber := none
  balance : Option WrittenBalance := none

def Draft.complete (draft : Draft) : Option Listing := do
  return ⟨← draft.name, ← draft.account, ← draft.balance⟩

def fields : List (Json.Reader.Field Draft) :=
  [Message.field "customer_name" Draft.name fun draft name =>
      { draft with name := some name },
    Message.field "acc_no" Draft.account fun draft account =>
      { draft with account := some account },
    Json.Reader.Field.of "curr_balance" Draft.balance
      (fun draft balance => { draft with balance := some balance })
      WrittenBalance.reader]

def reader : Json.Reader Listing := Json.Reader.record fields {} Draft.complete

def documentReader : Json.Reader (List (String × List Listing)) :=
  Json.Reader.members (Json.Reader.list reader)

/-- What a document lists for a bank: the last list under its name. -/
def listedFor (document : String) (bank : BankName) : Option (List Listing) :=
  match Json.Reader.run documentReader document.toList with
  | .error _ => none
  | .ok lists => OpeningBalances.lastNamed bank.text lists

/-- A listing and the customer that is read of it. -/
structure IsOf (listing : Listing) (customer : Customer) : Prop where
  account : customer.account = listing.account
  balance : listing.balance.HandsOn customer.balance

structure IsDraftOf (draft : Draft) (other : Customer.Draft) : Prop where
  name : draft.name = other.name
  account : draft.account = other.account
  balance : Option.Rel WrittenBalance.HandsOn draft.balance other.balance

theorem alike_fields : List.Forall₂ (Json.Reader.AlikeField IsDraftOf) fields
    Customer.fields := by
  refine .cons (Json.Reader.alikeField_of (Alike.refl _) ?_ ?_)
    (.cons (Json.Reader.alikeField_of (Alike.refl _) ?_ ?_)
      (.cons (Json.Reader.alikeField_of WrittenBalance.alike_reader ?_ ?_) .nil))
  · exact fun _ _ isDraft => by rw [isDraft.name]
  · exact fun _ _ _ _ isDraft same => { isDraft with name := congrArg some same }
  · exact fun _ _ isDraft => by rw [isDraft.account]
  · exact fun _ _ _ _ isDraft same => { isDraft with account := congrArg some same }
  · intro draft other isDraft
    have handsOn := isDraft.balance
    generalize draft.balance = balance at handsOn ⊢
    generalize other.balance = text at handsOn ⊢
    cases handsOn <;> rfl
  · exact fun _ _ _ _ isDraft handsOn => { isDraft with balance := .some handsOn }

theorem alike_reader : Alike IsOf reader Customer.reader := by
  refine Json.Reader.alike_record alike_fields ⟨rfl, rfl, .none⟩ fun draft other isDraft => ?_
  obtain ⟨name, account, balance⟩ := draft
  obtain ⟨otherName, otherAccount, otherBalance⟩ := other
  obtain ⟨sameName, sameAccount, handsOn⟩ := isDraft
  simp only at sameName sameAccount handsOn
  subst sameName sameAccount
  cases name with
  | none => exact .none
  | some name =>
      cases account with
      | none => exact .none
      | some account =>
          cases handsOn with
          | none => exact .none
          | some handsOn => exact .some ⟨rfl, handsOn⟩

theorem alike_documentReader :
    Alike (List.Forall₂ (Json.Reader.SameMember (List.Forall₂ IsOf))) documentReader
      OpeningBalances.documentReader :=
  Json.Reader.alike_members (Json.Reader.alike_list alike_reader)

end Listing

/-! ## Balances -/

namespace OpeningBalances

/-- The last lists under a name are related if all lists are. -/
theorem lastNamed_alike {α β : Type} {related : α → β → Prop} {lists : List (String × α)}
    {others : List (String × β)}
    (alike : List.Forall₂ (Json.Reader.SameMember related) lists others) (name : String) :
    Option.Rel related (lastNamed name lists) (lastNamed name others) := by
  induction alike with
  | nil => exact .none
  | @cons member other rest others sameMember _ ih =>
      obtain ⟨memberName, value⟩ := member
      obtain ⟨otherName, second⟩ := other
      obtain ⟨rfl, isRelated⟩ := sameMember
      simp only [lastNamed]
      generalize lastNamed name rest = later at ih ⊢
      generalize lastNamed name others = otherLater at ih ⊢
      cases ih with
      | some laterRelated => exact .some laterRelated
      | none =>
          simp only
          split
          · exact .some isRelated
          · exact .none

/-- What becomes of the listings of a bank: an entry for each of them, with its account and
the amount that is read of its balance. -/
structure Enters (listing : Listing) (entry : AccountNumber × Amount) : Prop where
  account : entry.1 = listing.account
  amount : Amount.parse listing.balance.handedOn = .ok entry.2

/-- Accounts are new and different from each other if the first one is new, and the
others are once it has been seen. -/
theorem unseen_cons_iff {seen : List AccountNumber} {listing : Listing}
    {listings : List Listing} :
    ((listing :: listings).map Listing.account).Nodup ∧
        (∀ other ∈ listing :: listings, other.account ∉ seen) ↔
      listing.account ∉ seen ∧ (listings.map Listing.account).Nodup ∧
        ∀ other ∈ listings, other.account ∉ listing.account :: seen := by
  rw [List.map_cons, List.nodup_cons, List.forall_mem_cons]
  constructor
  · rintro ⟨⟨notIn, distinct⟩, notSeen, unseen⟩
    refine ⟨notSeen, distinct, fun other member isSeen => ?_⟩
    rcases List.mem_cons.mp isSeen with same | isSeen
    · exact notIn (same ▸ List.mem_map_of_mem member)
    · exact unseen other member isSeen
  · rintro ⟨notSeen, distinct, unseen⟩
    refine ⟨⟨fun member => ?_, distinct⟩, notSeen, fun other member isSeen =>
      unseen other member (List.mem_cons_of_mem _ isSeen)⟩
    obtain ⟨other, isOther, same⟩ := List.mem_map.mp member
    exact unseen other isOther (same ▸ List.mem_cons_self)

theorem balancesFrom_eq_ok_iff {bank : BankName} {seen : List AccountNumber}
    {listings : List Listing} {customers : List Customer}
    {entries : List (AccountNumber × Amount)}
    (areOf : List.Forall₂ Listing.IsOf listings customers) :
    balancesFrom bank seen customers = .ok entries ↔
      (listings.map Listing.account).Nodup ∧
        (∀ listing ∈ listings, listing.account ∉ seen) ∧
          List.Forall₂ Enters listings entries := by
  induction areOf generalizing seen entries with
  | nil =>
      rw [balancesFrom, Except.ok.injEq]
      simp [eq_comm]
  | @cons listing customer listings customers isOf _ ih =>
      rw [balancesFrom, isOf.account, isOf.balance.1, ← and_assoc, unseen_cons_iff]
      split
      · rename_i isSeen
        simp [isSeen]
      · rename_i notSeen
        split
        · rename_i cause refused
          constructor
          · rintro ⟨⟩
          · rintro ⟨-, entered⟩
            cases entered with
            | cons enters _ =>
                rw [enters.amount] at refused
                cases refused
        · rename_i amount accepted
          constructor
          · intro done
            cases isRest : balancesFrom bank (listing.account :: seen) customers with
            | error fault =>
                rw [isRest] at done
                cases done
            -- The others were read with this account among those that have been seen.
            | ok others =>
                rw [isRest] at done
                cases done
                obtain ⟨distinct, unseen, entered⟩ := ih.mp isRest
                exact ⟨⟨notSeen, distinct, unseen⟩, .cons ⟨rfl, accepted⟩ entered⟩
          · rintro ⟨⟨-, distinct, unseen⟩, entered⟩
            cases entered with
            | @cons _ entry _ others enters entered =>
                rw [ih.mpr ⟨distinct, unseen, entered⟩]
                rw [enters.amount] at accepted
                cases accepted
                obtain ⟨account, amount⟩ := entry
                obtain rfl := enters.account
                rfl

/-- The entries of a bank are those of the listings that the document has for it. -/
theorem parse_eq_ok_iff {document : String} {bank : BankName}
    {entries : List (AccountNumber × Amount)} :
    parse document bank = .ok entries ↔
      ∃ listings, Listing.listedFor document bank = some listings ∧
        (listings.map Listing.account).Nodup ∧ List.Forall₂ Enters listings entries := by
  rw [parse, Listing.listedFor]
  rcases Listing.alike_documentReader.run document.toList with
    ⟨lists, others, isRun, otherRun, alike⟩ | ⟨fault, isRun, otherRun⟩
  · rw [isRun, otherRun]
    simp only
    have found := lastNamed_alike alike bank.text
    generalize lastNamed bank.text lists = listings at found ⊢
    generalize lastNamed bank.text others = customers at found ⊢
    cases found with
    | none => simp
    | some areOf => simp [balancesFrom_eq_ok_iff areOf]
  · rw [isRun, otherRun]
    simp

end OpeningBalances

theorem Listing.isRead_of_listedFor {document : String} {bank : BankName}
    {listings : List Listing} (areListed : Listing.listedFor document bank = some listings) :
    ∀ listing ∈ listings, listing.balance.IsRead := by
  rw [Listing.listedFor] at areListed
  rcases Listing.alike_documentReader.run document.toList with
    ⟨lists, others, isRun, -, alike⟩ | ⟨fault, isRun, -⟩
  · rw [isRun] at areListed
    have found := OpeningBalances.lastNamed_alike alike bank.text
    simp only at areListed
    rw [areListed] at found
    generalize OpeningBalances.lastNamed bank.text others = customers at found
    cases found with
    | some areOf =>
        exact ((List.forall₂_and_left _ _).mp
          (areOf.imp fun _ _ isOf => ⟨isOf.balance.2, isOf⟩)).1
  · rw [isRun] at areListed
    cases areListed

end ClearingHouse
