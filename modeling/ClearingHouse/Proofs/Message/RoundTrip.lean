import ClearingHouse.Proofs.Message.Envelope

/-!
# Messages across the wire

What one program writes, the other reads.  Data come out of their envelope unchanged.
So does a failure, whose envelope is written without data of any type and is read where
data of another type are expected.
-/

namespace ClearingHouse

/-- The result in an answer, if the answer can be read. -/
def Message.resultOf (α : Type) [Message α] (text : String) :
    Except Json.Fault (Except (Int × String) α) :=
  (decode (Envelope α) text.toList).map Envelope.result

/-- Messages of a type, and answers that carry them, arrive as they were sent. -/
structure GetsThrough (α : Type) [Message α] : Prop where
  message : ∀ value : α, Message.decode α (Message.text value).toList = .ok value
  success : ∀ value : α,
    Message.resultOf α (Message.text (Envelope.success value)) = .ok (.ok value)
  failure : ∀ (β : Type) [Message β] (code : Int) (text : String),
    Envelope.Fits code → code ≠ Envelope.successCode →
      Message.resultOf α (Message.text (Envelope.failure code text : Envelope β)) =
        .ok (.error (code, text))

namespace Message

variable {α : Type} [Message α]

theorem toList_text (value : α) : (text value).toList = encode value :=
  String.toList_ofList

theorem resultOf_text {β : Type} [Message β] {sent : Envelope β} {arrived : Envelope α}
    (reads : Json.Reader.Reads reader (encode sent) arrived) :
    resultOf α (text sent) = .ok arrived.result := by
  rw [resultOf, toList_text, decode_of_reads reads]
  rfl

end Message

theorem getsThrough_of_lawful (α : Type) [Message α] [LawfulMessage α] :
    GetsThrough α where
  message value := by
    rw [Message.toList_text, Message.decode_encode]
  success value := by
    have reads := Envelope.reads (Envelope.success value) Envelope.fits_successCode
    rw [Message.resultOf_text reads]
    rfl
  failure β _ code text fits notSuccess := by
    have reads : Json.Reader.Reads (Message.reader : Json.Reader (Envelope α))
        (Message.encode (Envelope.failure code text : Envelope β))
        (Envelope.failure code text) :=
      Envelope.reads_failure text fits
    rw [Message.resultOf_text reads, Envelope.result, Envelope.failure]
    rw [if_neg notSuccess]

/-- Every message of both protocols gets through. -/
theorem all_getThrough :
    GetsThrough LegOrder ∧ GetsThrough ReleaseOrder ∧ GetsThrough AccountBalance ∧
      GetsThrough Acknowledgement ∧ GetsThrough Registration ∧
      GetsThrough PaymentOrder ∧ GetsThrough PaymentAnswer :=
  ⟨getsThrough_of_lawful _, getsThrough_of_lawful _, getsThrough_of_lawful _,
    getsThrough_of_lawful _, getsThrough_of_lawful _, getsThrough_of_lawful _,
    getsThrough_of_lawful _⟩

end ClearingHouse
