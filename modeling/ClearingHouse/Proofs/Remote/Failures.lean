import ClearingHouse.Api.Bank
import ClearingHouse.Api.House
import ClearingHouse.Client.Delivery
import ClearingHouse.Proofs.Message.Envelope
import ClearingHouse.Remote.Bank
import ClearingHouse.Remote.House

/-!
# Failures keep their meaning

A refusal of a bank reaches the clearing house as that refusal, and a failure of the
clearing house reaches the client as that failure, whatever characters their details
hold.  A number that no bank uses is no refusal.
-/

namespace ClearingHouse

/-! ## Numbers and details -/

namespace Refusal

theorem fits_code (refusal : Refusal) : Envelope.Fits refusal.code := by
  cases refusal <;> simp only [code] <;> decide

theorem code_ne_success (refusal : Refusal) : refusal.code ≠ Envelope.successCode := by
  cases refusal <;> simp only [code] <;> decide

/-- A refusal is restored from its number and its detail. -/
theorem ofCode?_code (refusal : Refusal) :
    ofCode? refusal.code refusal.detail = some refusal := by
  cases refusal <;> rfl

/-- A number stands for a refusal only if a refusal has it. -/
theorem ofCode?_eq_none {code : Int} (foreign : ∀ refusal : Refusal, refusal.code ≠ code)
    (text : String) : ofCode? code text = none := by
  have unknownAccount : ¬ code = 3002 := Ne.symm (foreign (.unknownAccount text))
  have insufficientFunds : ¬ code = 3003 := Ne.symm (foreign .insufficientFunds)
  have busy : ¬ code = 4001 := Ne.symm (foreign .busy)
  have tooLarge : ¬ code = 3005 := Ne.symm (foreign .tooLarge)
  have invalidRequest : ¬ code = 1001 := Ne.symm (foreign (.invalidRequest text))
  have violation : ¬ code = 5002 := Ne.symm (foreign (.violation text))
  simp only [ofCode?, unknownAccount, insufficientFunds, busy, tooLarge, invalidRequest,
    violation, if_false]

end Refusal

namespace TransferFailure

theorem fits_code (failure : TransferFailure) : Envelope.Fits failure.code := by
  cases failure <;> simp only [code] <;> decide

theorem code_ne_success (failure : TransferFailure) :
    failure.code ≠ Envelope.successCode := by
  cases failure <;> simp only [code] <;> decide

/-- A failure is restored from its number and its detail. -/
theorem ofCode_code (failure : TransferFailure) :
    ofCode failure.code failure.detail = failure := by
  cases failure <;> rfl

/-- The number and the detail of a refusal stand for the same failure as the
refusal. -/
theorem ofCode_refusal (refusal : Refusal) :
    ofCode refusal.code refusal.detail = ofRefusal refusal := by
  cases refusal <;> rfl

end TransferFailure

/-! ## Responses -/

theorem Envelope.result_failure {α : Type} {code : Int} (text : String)
    (notSuccess : code ≠ successCode) :
    (failure code text : Envelope α).result = .error (code, text) :=
  if_neg notSuccess

namespace RemoteBank

theorem data_refusalResponse (α : Type) [Message α] (bank : RemoteBank)
    (refusal : Refusal) :
    bank.data α (Api.refusalResponse refusal) = .error (.refused refusal) := by
  simp only [data, Api.refusalResponse,
    Envelope.ofResponse?_failureResponse _ _ refusal.fits_code, opened,
    Envelope.result_failure _ refusal.code_ne_success, refusal.ofCode?_code]

/-- A bank behind HTTP refuses as the bank does. -/
theorem reply_refused (bank : RemoteBank) (call : BankCall) (refusal : Refusal) :
    bank.reply call (Api.bankResponse call (.error refusal)) =
      .error (.refused refusal) := by
  simp only [reply, Api.bankResponse, data_refusalResponse]
  cases call <;> rfl

theorem data_foreign {α : Type} [Message α] (bank : RemoteBank) {response : Http.Response}
    {envelope : Envelope α} (read : Envelope.ofResponse? α response = some envelope)
    (notSuccess : envelope.code ≠ Envelope.successCode)
    (foreign : ∀ refusal : Refusal, refusal.code ≠ envelope.code) :
    bank.data α response = .error (.unreachable
      s!"{bank.name.text} answered code {envelope.code}: {envelope.message}") := by
  simp only [data, read, opened, Envelope.result, notSuccess, if_false,
    Refusal.ofCode?_eq_none foreign]

end RemoteBank

namespace RemoteHouse

theorem data_transferFailureResponse (α : Type) [Message α] (failure : TransferFailure) :
    data α (Api.transferFailureResponse failure) = .error failure := by
  simp only [data, Api.transferFailureResponse,
    Envelope.ofResponse?_failureResponse _ _ failure.fits_code,
    Envelope.result_failure _ failure.code_ne_success, failure.ofCode_code]

/-- A clearing house behind HTTP fails as the clearing house does. -/
theorem answer_failed (instruction : Instruction) (failure : TransferFailure) :
    answer instruction (Api.transferFailureResponse failure) = .error failure := by
  simp only [answer, data_transferFailureResponse]
  cases instruction <;> rfl

end RemoteHouse

/-! ## Across all programs -/

/-- What failures mean to the program that hears of them. -/
structure FailuresAreKept : Prop where
  /-- The clearing house hears of the refusal of a bank. -/
  refused : ∀ (bank : RemoteBank) (call : BankCall) (refusal : Refusal),
    bank.reply call (Api.bankResponse call (.error refusal)) = .error (.refused refusal)
  /-- A client hears of the failure of the clearing house. -/
  failed : ∀ (instruction : Instruction) (failure : TransferFailure),
    RemoteHouse.answer instruction (Api.transferFailureResponse failure) = .error failure
  /-- A client hears of the refusal of a bank through the clearing house. -/
  relayed : ∀ (bank : RemoteBank) (call : BankCall) (instruction : Instruction)
      (refusal : Refusal) (failure : CallFailure),
    bank.reply call (Api.bankResponse call (.error refusal)) = .error failure →
      RemoteHouse.answer instruction
        (Api.transferFailureResponse (.ofCallFailure bank.name failure)) =
          .error (.ofRefusal refusal)
  /-- A client goes on exactly after the failures that may pass. -/
  classified : ∀ (policy : RetryPolicy) (number : Nat) (instruction : Instruction)
      (failure : TransferFailure),
    policy.after number
        (RemoteHouse.answer instruction (Api.transferFailureResponse failure)) =
      if failure.isRetryable then
        if number < policy.attempts then .again (policy.backoff * number) (number + 1)
        else .finished (.error (.timedOut policy.attempts failure))
      else .finished (.error (.rejected failure))
  /-- The number and the detail of a refusal stand for one failure of a transfer. -/
  restored : ∀ refusal : Refusal,
    TransferFailure.ofCode refusal.code refusal.detail = .ofRefusal refusal
  /-- A number that no bank uses is not heard as a refusal. -/
  foreign : ∀ (bank : RemoteBank) (α : Type) [Message α] (response : Http.Response)
      (envelope : Envelope α),
    Envelope.ofResponse? α response = some envelope →
      envelope.code ≠ Envelope.successCode →
        (∀ refusal : Refusal, refusal.code ≠ envelope.code) →
          bank.data α response = .error (.unreachable
            s!"{bank.name.text} answered code {envelope.code}: {envelope.message}")

/-- Failures mean the same to every program, whatever their details hold. -/
theorem failures_are_kept : FailuresAreKept where
  refused := RemoteBank.reply_refused
  failed := RemoteHouse.answer_failed
  relayed := by
    intro bank call instruction refusal failure heard
    rw [RemoteBank.reply_refused] at heard
    cases heard
    exact RemoteHouse.answer_failed instruction _
  classified := by
    intro policy number instruction failure
    rw [RemoteHouse.answer_failed, RetryPolicy.after]
    cases failure.isRetryable <;> rfl
  restored := TransferFailure.ofCode_refusal
  foreign := fun bank _ _ _ _ read notSuccess foreign =>
    bank.data_foreign read notSuccess foreign

end ClearingHouse
