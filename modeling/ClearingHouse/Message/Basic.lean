import ClearingHouse.Json.Reader
import ClearingHouse.Json.Text
import ClearingHouse.LegOrder

/-!
# Messages

A message is a value that programs send to one another as JSON text.  Its type
fixes how it is written and how it is read.  Names and amounts are written as
strings, and a side by its keyword.
-/

namespace ClearingHouse

/-- A type of values that travel as JSON. -/
class Message (α : Type) where
  encode : α → List Char
  reader : Json.Reader α

namespace Message

/-- Read a whole text as one message. -/
def decode (α : Type) [Message α] (text : List Char) : Except Json.Fault α :=
  Json.Reader.run reader text

def text {α : Type} [Message α] (value : α) : String :=
  String.ofList (encode value)

def amountReader : Json.Reader Amount := do
  let text ← Json.Reader.string
  match Amount.parse text with
  | .ok amount => pure amount
  | .error _ => Json.Reader.fail .mismatched

end Message

instance : Message Amount where
  encode amount := Json.string amount.text
  reader := Message.amountReader

instance : Message AccountNumber where
  encode account := Json.string account.text
  reader := return ⟨← Json.Reader.string⟩

instance : Message BankName where
  encode bank := Json.string bank.text
  reader := return ⟨← Json.Reader.string⟩

instance : Message TransferId where
  encode transfer := Json.string transfer.text
  reader := return ⟨← Json.Reader.string⟩

instance : Message String where
  encode := Json.string
  reader := Json.Reader.string

instance : Message Side where
  encode side := Json.string side.keyword
  reader := Json.Reader.choice Side.ofKeyword?

/-- The field of a record that is read as a message. -/
def Message.field {δ α : Type} [Message α] (name : String)
    (get : δ → Option α) (set : δ → α → δ) : Json.Reader.Field δ :=
  .of name get set Message.reader

end ClearingHouse
