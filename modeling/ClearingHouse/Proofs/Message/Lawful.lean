import ClearingHouse.Message.Envelope
import ClearingHouse.Message.Order
import ClearingHouse.Message.Payment
import ClearingHouse.Proofs.Amount.Written
import ClearingHouse.Proofs.Json.Records

/-!
# Messages are read back

Every message that programs send to one another is read from its text as it was
written, whatever characters its names hold and however large its amounts are.
-/

namespace ClearingHouse

open Json.Reader (Reads Fills)

/-- A type of messages that are read back from their texts. -/
class LawfulMessage (α : Type) [Message α] : Prop where
  reads : ∀ value : α, Reads Message.reader (Message.encode value) value
  /-- The text of a message is neither blank in front nor that of nothing. -/
  starts : ∀ value : α, ∃ first others, Message.encode value = first :: others ∧
    Json.Reader.isSpace first = false ∧ first ≠ 'n'

namespace Message

/-- A whole text is read as the message that it is of. -/
theorem decode_of_reads {α : Type} [Message α] {text : List Char} {value : α}
    (reads : Reads Message.reader text value) : decode α text = .ok value :=
  Json.Reader.run_of_reads reads

/-- A message is read back from its text. -/
theorem decode_encode {α : Type} [Message α] [LawfulMessage α] (value : α) :
    decode α (encode value) = .ok value :=
  decode_of_reads (LawfulMessage.reads value)

/-- A member of an object fills its field with the message that was written. -/
theorem reads_field {δ α : Type} [Message α] [LawfulMessage α] {name : String}
    {get : δ → Option α} {set : δ → α → δ} (draft : δ) (value : α) :
    Reads ((field name get set).fill draft) (encode value) (set draft value) :=
  Json.Reader.reads_field draft (LawfulMessage.reads value)

end Message

/-! ## Names and amounts -/

theorem starts_string (text : String) : ∃ first others,
    Json.string text = first :: others ∧ Json.Reader.isSpace first = false ∧ first ≠ 'n' :=
  ⟨'"', _, rfl, rfl, by decide⟩

theorem starts_object (members : List (String × List Char)) : ∃ first others,
    Json.object members = first :: others ∧ Json.Reader.isSpace first = false ∧
      first ≠ 'n' := by
  cases members with
  | nil => exact ⟨'{', _, rfl, rfl, by decide⟩
  | cons member others => exact ⟨'{', _, rfl, rfl, by decide⟩

instance : LawfulMessage String where
  reads := Json.Reader.reads_string
  starts := starts_string

instance : LawfulMessage AccountNumber where
  reads account := (Json.Reader.reads_string account.text).map AccountNumber.mk
  starts account := starts_string account.text

instance : LawfulMessage BankName where
  reads bank := (Json.Reader.reads_string bank.text).map BankName.mk
  starts bank := starts_string bank.text

instance : LawfulMessage TransferId where
  reads transfer := (Json.Reader.reads_string transfer.text).map TransferId.mk
  starts transfer := starts_string transfer.text

instance : LawfulMessage Amount where
  reads amount := by
    intro rest ends
    show Message.amountReader (Json.string amount.text ++ rest) = _
    rw [Message.amountReader,
      Json.Reader.bind_of_ok (Json.Reader.string_apply amount.text rest),
      Amount.parse_text]
    rfl
  starts amount := starts_string amount.text

theorem Side.ofKeyword?_keyword (side : Side) : ofKeyword? side.keyword = some side := by
  cases side <;> decide

instance : LawfulMessage Side where
  reads side := Json.Reader.reads_choice side.ofKeyword?_keyword
  starts side := starts_string side.keyword

/-! ## Orders and answers -/

instance : LawfulMessage LegOrder where
  reads order := Json.Reader.reads_record
    (.cons _ rfl rfl (Message.reads_field _ order.side)
      (.cons _ rfl rfl (Message.reads_field _ order.account)
        (.cons _ rfl rfl (Message.reads_field _ order.amount)
          (.cons _ rfl rfl (Message.reads_field _ order.transfer) (.nil _))))) rfl
  starts _ := starts_object _

instance : LawfulMessage ReleaseOrder where
  reads order := Json.Reader.reads_record
    (.cons _ rfl rfl (Message.reads_field _ order.account)
      (.cons _ rfl rfl (Message.reads_field _ order.transfer) (.nil _))) rfl
  starts _ := starts_object _

instance : LawfulMessage Acknowledgement where
  reads _ := Json.Reader.reads_record (.nil _) rfl
  starts _ := starts_object _

instance : LawfulMessage AccountBalance where
  reads data := Json.Reader.reads_record
    (.cons _ rfl rfl (Message.reads_field _ data.account)
      (.cons _ rfl rfl (Message.reads_field _ data.balance) (.nil _))) rfl
  starts _ := starts_object _

instance : LawfulMessage Registration where
  reads registration := Json.Reader.reads_record
    (.cons _ rfl rfl (Message.reads_field _ registration.name)
      (.cons _ rfl rfl (Message.reads_field _ registration.address) (.nil _))) rfl
  starts _ := starts_object _

instance : LawfulMessage PaymentOrder where
  reads order := Json.Reader.reads_record
    (.cons _ rfl rfl (Message.reads_field _ order.bank)
      (.cons _ rfl rfl (Message.reads_field _ order.account)
        (.cons _ rfl rfl (Message.reads_field _ order.amount)
          (.cons _ rfl rfl (Message.reads_field _ order.transfer) (.nil _))))) rfl
  starts _ := starts_object _

instance : LawfulMessage PaymentAnswer where
  reads answer := Json.Reader.reads_record
    (.cons _ rfl rfl (Message.reads_field _ answer.transfer)
      (.cons _ rfl rfl (Message.reads_field _ answer.status)
        (.cons _ rfl rfl (Message.reads_field _ answer.message) (.nil _)))) rfl
  starts _ := starts_object _

end ClearingHouse
