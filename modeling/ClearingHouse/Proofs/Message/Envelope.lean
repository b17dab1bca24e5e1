import ClearingHouse.Api.Body
import ClearingHouse.Proofs.Message.Lawful
import ClearingHouse.Remote.Outgoing

/-!
# Envelopes are read back

An envelope around data is read as it was written, and one of a failure is read so
whatever data are expected in it.  The number of an envelope has to fit thirty-two
bits.
-/

namespace ClearingHouse

open Json.Reader (Reads Fills)

namespace Envelope

variable {α : Type} [Message α]

/-- Whether the number of an answer fits thirty-two bits. -/
def Fits (code : Int) : Prop := -(2 ^ 31) ≤ code ∧ code ≤ 2 ^ 31 - 1

instance (code : Int) : Decidable (Fits code) :=
  inferInstanceAs (Decidable (_ ∧ _))

theorem fits_successCode : Fits successCode := by decide

theorem reads_code {code : Int} (fits : Fits code) :
    Reads (Json.Reader.integer (-(2 ^ 31)) (2 ^ 31 - 1)) (Json.integer code) code := by
  unfold Fits at fits
  exact Json.Reader.reads_integer (by omega) (by omega) fits

/-- The number and the text are the first two members of every envelope. -/
theorem fills_head {code : Int} {text : String} {data : List (String × List Char)}
    {final : Draft α} (fits : Fits code)
    (rest : Fills fields ({ code := some code, message := some text } : Draft α) data
      final) :
    Fills fields ({} : Draft α)
      ([("code", Json.integer code), ("msg", Message.encode text)] ++ data) final :=
  .cons _ rfl rfl (Json.Reader.reads_field _ (reads_code fits))
    (.cons _ rfl rfl (Message.reads_field _ text) rest)

/-- The envelope of a failure is read whatever data are expected in it. -/
theorem reads_failure {β : Type} [Message β] {code : Int} (text : String)
    (fits : Fits code) :
    Reads (Message.reader : Json.Reader (Envelope α))
      (Message.encode (failure code text : Envelope β)) (failure code text) :=
  Json.Reader.reads_record (fills_head fits (.nil _)) rfl

/-- An envelope around data is read back. -/
theorem reads_data [LawfulMessage α] {code : Int} (text : String) (data : α)
    (fits : Fits code) :
    Reads (Message.reader : Json.Reader (Envelope α))
      (Message.encode (⟨code, text, some data⟩ : Envelope α)) ⟨code, text, some data⟩ := by
  obtain ⟨first, others, isText, notSpace, notNull⟩ := LawfulMessage.starts data
  have present : Reads (Json.Reader.optional Message.reader) (Message.encode data)
      (some data) :=
    Json.Reader.reads_optional (LawfulMessage.reads data) isText notSpace notNull
  exact Json.Reader.reads_record
    (fills_head fits (.cons _ rfl rfl (Json.Reader.reads_field _ present) (.nil _))) rfl

theorem reads [LawfulMessage α] (envelope : Envelope α) (fits : Fits envelope.code) :
    Reads Message.reader (Message.encode envelope) envelope := by
  obtain ⟨code, text, data⟩ := envelope
  cases data with
  | none => exact reads_failure text fits
  | some data => exact reads_data text data fits

/-! ## Envelopes in responses -/

theorem ofResponse?_failureResponse (status : Nat) {code : Int} (text : String)
    (fits : Fits code) :
    ofResponse? α (Api.failureResponse status code text) = some (failure code text) := by
  simp only [ofResponse?, Api.failureResponse, Option.bind_some]
  rw [Message.decode_of_reads (reads_failure text fits)]
  rfl

theorem ofResponse?_successResponse [LawfulMessage α] (data : α) :
    ofResponse? α (Api.successResponse data) = some (success data) := by
  simp only [ofResponse?, Api.successResponse, Option.bind_some]
  rw [Message.decode_of_reads (reads (success data) fits_successCode)]
  rfl

end Envelope

end ClearingHouse
