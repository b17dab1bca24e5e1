import ClearingHouse.Message.Basic
import ClearingHouse.Text.Quoted

/-!
# Opening balances

A bank opens with the balances that a JSON document lists for it.  The document
maps names of banks to lists of customers.  A balance is written as a number or
as a string; a number is first written out and then read as an amount, just as
the string is.
-/

namespace ClearingHouse

inductive OpeningError where
  | malformed
  | noCustomers (bank : BankName)
  | duplicateAccount (account : AccountNumber) (bank : BankName)
  | invalidBalance (text : String) (account : AccountNumber)
      (cause : AmountError)
  deriving DecidableEq

namespace OpeningError

def message : OpeningError → String
  | .malformed => "Malformed customer seed"
  | .noCustomers bank => s!"No customers for {bank.text} in seed data"
  | .duplicateAccount account bank =>
      s!"Duplicate account {account.text} for {bank.text}"
  | .invalidBalance text account _ =>
      "Invalid balance " ++ Text.quoted text ++ s!" for account {account.text}"

def cause? : OpeningError → Option AmountError
  | .invalidBalance _ _ cause => some cause
  | _ => none

end OpeningError

/-- A customer as the document has it. -/
structure Customer where
  name : String
  account : AccountNumber
  /-- The balance as it is written. -/
  balance : String
  deriving DecidableEq

namespace Customer

def balanceReader : Json.Reader String := do
  match ← Json.Reader.peekToken with
  | none => Json.Reader.fail .truncated
  | some first =>
      if Json.Reader.startsNumber first then do
        let number ← Json.Reader.number first
        pure (String.ofList number.written)
      else Json.Reader.string

structure Draft where
  name : Option String := none
  account : Option AccountNumber := none
  balance : Option String := none

def Draft.complete (draft : Draft) : Option Customer := do
  return ⟨← draft.name, ← draft.account, ← draft.balance⟩

def fields : List (Json.Reader.Field Draft) :=
  [Message.field "customer_name" Draft.name fun draft name =>
      { draft with name := some name },
    Message.field "acc_no" Draft.account fun draft account =>
      { draft with account := some account },
    Json.Reader.Field.of "curr_balance" Draft.balance
      (fun draft balance => { draft with balance := some balance })
      balanceReader]

def reader : Json.Reader Customer :=
  Json.Reader.record fields {} Draft.complete

end Customer

namespace OpeningBalances

/-- Read the lists of customers by the names of their banks. -/
def documentReader : Json.Reader (List (String × List Customer)) :=
  Json.Reader.members (Json.Reader.list Customer.reader)

def lastNamed {α : Type} (name : String) : List (String × α) → Option α
  | [] => none
  | (other, value) :: rest =>
      match lastNamed name rest with
      | some later => some later
      | none => if other = name then some value else none

/-- The balances of a list of customers, of whom those with an account in
`seen` have come before. -/
def balancesFrom (bank : BankName) (seen : List AccountNumber) :
    List Customer → Except OpeningError (List (AccountNumber × Amount))
  | [] => .ok []
  | customer :: rest =>
      if customer.account ∈ seen then
        .error (.duplicateAccount customer.account bank)
      else
        match Amount.parse customer.balance with
        | .error cause =>
            .error (.invalidBalance customer.balance customer.account cause)
        | .ok amount => do
            let others ← balancesFrom bank (customer.account :: seen) rest
            .ok ((customer.account, amount) :: others)

/-- The balances that a document lists for a bank, in order. -/
def parse (document : String) (bank : BankName) :
    Except OpeningError (List (AccountNumber × Amount)) :=
  match Json.Reader.run documentReader document.toList with
  | .error _ => .error .malformed
  | .ok lists =>
      match lastNamed bank.text lists with
      | none => .error (.noCustomers bank)
      | some customers => balancesFrom bank [] customers

end OpeningBalances

end ClearingHouse
