import ClearingHouse.Message.Basic

/-!
# Envelopes

Every answer travels in an envelope of the same shape: a number, which is zero
for success, a text, and for success the data that were asked for.
-/

namespace ClearingHouse

open Json.Reader (record)

/-- An answer with data of some type. -/
structure Envelope (α : Type) where
  code : Int
  message : String
  data : Option α
  deriving DecidableEq

namespace Envelope

variable {α : Type}

def successCode : Int := 0

/-- The number of a failure inside the answering program. -/
def internalCode : Int := 5000

def success (data : α) : Envelope α := ⟨successCode, "ok", some data⟩

def failure (code : Int) (message : String) : Envelope α := ⟨code, message, none⟩

/-- The data of an envelope, or the number and the text of the failure. -/
def result (envelope : Envelope α) : Except (Int × String) α :=
  if envelope.code = successCode then
    match envelope.data with
    | some data => .ok data
    | none => .error (internalCode, "success response without data")
  else .error (envelope.code, envelope.message)

structure Draft (α : Type) where
  code : Option Int := none
  message : Option String := none
  data : Option (Option α) := none

/-- The envelope, once its number and its text are there. -/
def Draft.complete (draft : Draft α) : Option (Envelope α) := do
  return ⟨← draft.code, ← draft.message, draft.data.join⟩

def fields [Message α] : List (Json.Reader.Field (Draft α)) :=
  [Json.Reader.Field.of "code" Draft.code
      (fun draft code => { draft with code := some code })
      (Json.Reader.integer (-(2 ^ 31)) (2 ^ 31 - 1)),
    Message.field "msg" Draft.message fun draft message =>
      { draft with message := some message },
    Json.Reader.Field.of "data" Draft.data
      (fun draft data => { draft with data := some data })
      (Json.Reader.optional Message.reader)]

end Envelope

instance {α : Type} [Message α] : Message (Envelope α) where
  encode envelope := Json.object <|
    [("code", Json.integer envelope.code),
      ("msg", Message.encode envelope.message)] ++
    envelope.data.toList.map fun data => ("data", Message.encode data)
  reader := record Envelope.fields {} Envelope.Draft.complete

end ClearingHouse
