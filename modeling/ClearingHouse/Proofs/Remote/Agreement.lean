import ClearingHouse.Proofs.Remote.Address
import ClearingHouse.Proofs.Remote.Failures
import ClearingHouse.Proofs.Sample
import ClearingHouse.Transfer.Roster

/-!
# Banks over HTTP agree with banks inside

A call to a bank over HTTP becomes a request, the request becomes the same call at the
bank, and what the bank says becomes a response and the same answer again.  So an order
comes to the same and leaves the bank the same, wherever the bank is.
-/

namespace ClearingHouse

/-! ## Calls through a connection -/

/-- Go on with a call through some pauses.  In each of them others do something with
the bank. -/
def Bank.resumeThrough (call : BankCall) :
    List (Bank → Bank) → Bank × Attempt BankReply → Bank × Attempt BankReply
  | others :: rest, (bank, .again _ number) =>
      resumeThrough call rest ((others bank).resume number call)
  | _, turn => turn

/-- Let a bank take a call, and go on with it through some pauses. -/
def Bank.takeThrough (bank : Bank) (now : Nat) (call : BankCall)
    (pauses : List (Bank → Bank)) : Bank × Attempt BankReply :=
  resumeThrough call pauses (bank.receive now call)

/-- The answer that an attempt has come to, as its caller understands it.  There is none
yet while the bank pauses. -/
def Bank.Attempt.answer?
    (understood : Except Refusal BankReply → Except CallFailure BankReply) :
    Attempt BankReply → Option (Except CallFailure BankReply)
  | .finished result => some (understood result)
  | .again _ _ => none

/-- Make a call to a bank through a connection, up to the last of some pauses.  HTTP
hands requests and responses over as they are. -/
def Connection.callThrough (connection : Connection) (bank : Bank) (now : Nat)
    (call : BankCall) (pauses : List (Bank → Bank)) :
    Bank × Option (Except CallFailure BankReply) :=
  match connection with
  | .inside _ =>
      let (final, attempt) := bank.takeThrough now call pauses
      (final, attempt.answer? (Except.mapError .refused))
  | .remote name base =>
      let remote : RemoteBank := ⟨name, base⟩
      match remote.outgoing call with
      | .error failure => (bank, some (.error failure))
      | .ok outgoing =>
          match Api.bankCall outgoing.request with
          | .error response => (bank, some (remote.reply call response))
          | .ok received =>
              let (final, attempt) := bank.takeThrough now received pauses
              (final, attempt.answer? fun result =>
                remote.reply call (Api.bankResponse received result))

/-- A call that orders something. -/
def BankCall.IsOrder (call : BankCall) : Prop := ∀ account, call ≠ .balance account

/-! ## What a bank says to an order -/

namespace Bank

variable {call : BankCall}

/-- An attempt that has nothing to tell but that the order is done. -/
def Attempt.IsPlain (attempt : Attempt BankReply) : Prop :=
  ∀ reply, attempt = .finished (.ok reply) → reply = .done

theorem Attempt.isPlain_map {α : Type} (attempt : Attempt α) :
    (attempt.map fun _ => BankReply.done).IsPlain := by
  intro reply isReply
  cases attempt with
  | finished result =>
      cases result with
      | ok value =>
          cases isReply
          rfl
      | error refusal => cases isReply
  | again pause number => cases isReply

theorem isPlain_of_result {α : Type} (result : Except Refusal α) :
    (Attempt.finished (result.map fun _ => BankReply.done)).IsPlain := by
  intro reply isReply
  cases result with
  | ok value =>
      cases isReply
      rfl
  | error refusal => cases isReply

theorem isPlain_receive (isOrder : call.IsOrder) (bank : Bank) (now : Nat) :
    (bank.receive now call).2.IsPlain := by
  cases call with
  | prepare order => exact Attempt.isPlain_map _
  | commit order => exact isPlain_of_result _
  | release order => exact isPlain_of_result _
  | balance account => exact absurd rfl (isOrder account)

theorem isPlain_resume (bank : Bank) (number : Nat) :
    (bank.resume number call).2.IsPlain := by
  cases call with
  | prepare order => exact Attempt.isPlain_map _
  | commit | release | balance =>
      intro reply isReply
      cases isReply
      rfl

theorem isPlain_resumeThrough (pauses : List (Bank → Bank))
    {turn : Bank × Attempt BankReply} (isPlain : turn.2.IsPlain) :
    (resumeThrough call pauses turn).2.IsPlain := by
  induction pauses generalizing turn with
  | nil => exact isPlain
  | cons others rest ih =>
      obtain ⟨bank, attempt⟩ := turn
      cases attempt with
      | finished result => exact isPlain
      | again pause number => exact ih (isPlain_resume _ _)

theorem isPlain_takeThrough (isOrder : call.IsOrder) (bank : Bank) (now : Nat)
    (pauses : List (Bank → Bank)) : (bank.takeThrough now call pauses).2.IsPlain :=
  isPlain_resumeThrough pauses (isPlain_receive isOrder bank now)

end Bank

/-! ## From the call to the bank and back -/

namespace RemoteBank

theorem plainPath_of_isPath {request : Http.Request} {path : List Char}
    (isPath : IsPath path) (same : request.path.toList = path) :
    request.plainPath = path := by
  have goesOn : ∀ character ∈ path, (!Http.Request.endsPath character) = true := by
    intro character member
    obtain ⟨-, notQuestion, notHash⟩ := isPath.2 character member
    simp [Http.Request.endsPath, notQuestion, notHash]
  rw [Http.Request.plainPath]
  simp only [same, isPath.1, if_true, List.takeWhile_eq_self_iff]
  exact goesOn

/-- The request for an order goes to its path, and holds the order. -/
theorem posted_of_isOrigin {α : Type} [Message α] [LawfulMessage α] (remote : RemoteBank)
    (origin : IsOrigin remote.base) (path : String) (isPath : IsPath path.toList)
    (stays : (Http.Url.segmentsOf true path.toList.tail).flatMap ('/' :: ·) = path.toList)
    (order : α) :
    ∃ outgoing, remote.posted path order = .ok outgoing ∧
      outgoing.request.method = "POST" ∧ outgoing.request.plainPath = path.toList ∧
        Api.body α outgoing.request = .ok order := by
  obtain ⟨url, isAddress, isTarget⟩ := origin.address_append isPath
  refine ⟨Outgoing.post url [] order, ?_, rfl, ?_, ?_⟩
  · simp only [posted, isAddress]
  · refine plainPath_of_isPath isPath ?_
    rw [Outgoing.post, String.toList_ofList, isTarget, stays]
  · have announced : (Outgoing.post url [] order).request.header? "content-type" =
        some "application/json" := rfl
    have isJson : Http.isJson "application/json" = true := by decide
    simp only [Api.body, announced, isJson, if_true]
    rw [Outgoing.post, Message.text, String.toList_ofList, Message.decode_encode]

/-- The request for an order stands for the order at the bank. -/
theorem outgoing_of_isOrigin (remote : RemoteBank) (origin : IsOrigin remote.base)
    {call : BankCall} (isOrder : call.IsOrder) :
    ∃ outgoing, remote.outgoing call = .ok outgoing ∧
      Api.bankCall outgoing.request = .ok call := by
  cases call with
  | prepare order =>
      obtain ⟨outgoing, isSent, isPost, isPath, isBody⟩ :=
        remote.posted_of_isOrigin origin Api.preparePath (by decide) (by decide) order
      refine ⟨outgoing, isSent, ?_⟩
      simp only [Api.bankCall, isPath, isPost, isBody, if_true]
      rfl
  | commit order =>
      obtain ⟨outgoing, isSent, isPost, isPath, isBody⟩ :=
        remote.posted_of_isOrigin origin Api.commitPath (by decide) (by decide) order
      have notPrepare : ¬ Api.commitPath.toList = Api.preparePath.toList := by decide
      refine ⟨outgoing, isSent, ?_⟩
      simp only [Api.bankCall, isPath, isPost, isBody, notPrepare, if_true, if_false]
      rfl
  | release order =>
      obtain ⟨outgoing, isSent, isPost, isPath, isBody⟩ :=
        remote.posted_of_isOrigin origin Api.releasePath (by decide) (by decide) order
      have notPrepare : ¬ Api.releasePath.toList = Api.preparePath.toList := by decide
      have notCommit : ¬ Api.releasePath.toList = Api.commitPath.toList := by decide
      refine ⟨outgoing, isSent, ?_⟩
      simp only [Api.bankCall, isPath, isPost, isBody, notPrepare, notCommit, if_true,
        if_false]
      rfl
  | balance account => exact absurd rfl (isOrder account)

theorem reply_done (remote : RemoteBank) {call : BankCall} (isOrder : call.IsOrder) :
    remote.reply call (Api.bankResponse call (.ok .done)) = .ok .done := by
  have acknowledged : remote.data Acknowledgement
      (Api.successResponse ({} : Acknowledgement)) = .ok {} := by
    simp only [data, Envelope.ofResponse?_successResponse]
    rfl
  cases call with
  | prepare | commit | release =>
      simp only [reply, Api.bankResponse, acknowledged]
      rfl
  | balance account => exact absurd rfl (isOrder account)

/-- The answer to an order is heard over HTTP as it is given. -/
theorem answer?_response (remote : RemoteBank) {call : BankCall} (isOrder : call.IsOrder)
    {attempt : Bank.Attempt BankReply} (isPlain : attempt.IsPlain) :
    (attempt.answer? fun result => remote.reply call (Api.bankResponse call result)) =
      attempt.answer? (Except.mapError .refused) := by
  cases attempt with
  | again pause number => rfl
  | finished result =>
      cases result with
      | error refusal =>
          simp only [Bank.Attempt.answer?, reply_refused]
          rfl
      | ok reply =>
          obtain rfl := isPlain reply rfl
          simp only [Bank.Attempt.answer?, remote.reply_done isOrder]
          rfl

end RemoteBank

/-! ## Agreement -/

/-- An order over HTTP comes to the same as inside, and leaves the bank the same,
whatever the bank and the order hold and whatever others do in its pauses. -/
theorem Connection.callThrough_remote_eq_inside {base : String} (origin : IsOrigin base)
    {call : BankCall} (isOrder : call.IsOrder) (name : BankName) (bank : Bank) (now : Nat)
    (pauses : List (Bank → Bank)) :
    (remote name base).callThrough bank now call pauses =
      (inside name).callThrough bank now call pauses := by
  obtain ⟨outgoing, isSent, isReceived⟩ :=
    RemoteBank.outgoing_of_isOrigin ⟨name, base⟩ origin isOrder
  have same := RemoteBank.answer?_response ⟨name, base⟩ isOrder
    (bank.isPlain_takeThrough isOrder now pauses)
  simp only [callThrough, isSent, isReceived, same]

namespace Sample

/-- The bank of the payer while another transfer holds the account. -/
def heldBank : Bank :=
  (payerBank.prepare ⟨.debit, payer.account, payment.amount, ⟨"t0"⟩⟩).1

/-- The other transfer gives the account up. -/
def giveUp (bank : Bank) : Bank := (bank.release 0 ⟨payer.account, ⟨"t0"⟩⟩).1

def debitOrder : BankCall :=
  .prepare ⟨.debit, payer.account, payment.amount, payment.id⟩

/-- The account is held at first, and is given up in the pause. -/
theorem callThrough_loopback :
    ((Connection.remote payer.bank loopback).callThrough heldBank 0 debitOrder []).2 = none ∧
      ((Connection.remote payer.bank loopback).callThrough heldBank 0 debitOrder
        [giveUp]).2 = some (.ok .done) ∧
      ((Connection.remote payer.bank loopback).callThrough heldBank 0 debitOrder
        [id, id]).2 = some (.error (.refused .busy)) := by
  have isOrder : debitOrder.IsOrder := nofun
  rw [Connection.callThrough_remote_eq_inside isOrigin_loopback isOrder,
    Connection.callThrough_remote_eq_inside isOrigin_loopback isOrder,
    Connection.callThrough_remote_eq_inside isOrigin_loopback isOrder]
  decide +kernel

end Sample

end ClearingHouse
