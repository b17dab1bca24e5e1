import ClearingHouse.Proofs.Bank.Applied
import ClearingHouse.Proofs.Floor.Basic

/-!
# A clearing house that writes to its banks

Here every call of a settlement is a letter.  A letter reaches its bank at any
time or never, and so does the answer on its way back.  Letters overtake each
other.  A settlement goes on with the answer, or without it once it has waited
long enough or the transport has failed; then the letter may still reach the
bank, and the bank may still go on with it.  No letter is delivered twice.
-/

namespace ClearingHouse

inductive LetterState where
  /-- The bank has not got it yet. -/
  | underway
  /-- The bank makes the attempt with this number later. -/
  | pausing (attempt : Nat)
  | answered (result : Except Refusal BankReply)

/-- A call that has been sent to a bank. -/
structure Letter where
  bank : BankName
  call : BankCall
  state : LetterState

/-- An amount that has been moved on an account for a leg. -/
structure Posting where
  transfer : TransferId
  side : Side
  party : Party
  amount : Amount
  deriving DecidableEq

/-- What a bank posts that commits a leg. -/
def LegOrder.posting (order : LegOrder) (bank : BankName) : Posting :=
  ⟨order.transfer, order.side, ⟨bank, order.account⟩, order.amount⟩

def Transfer.posting (transfer : Transfer) (side : Side) : Posting :=
  (transfer.legOrder side).posting (transfer.party side).bank

/-- Where a letter is after its bank has had a turn. -/
def LetterState.ofAttempt : Bank.Attempt BankReply → LetterState
  | .finished result => .answered result
  | .again _ attempt => .pausing attempt

/-- A clearing house with its banks and the letters between them. -/
structure Mail where
  floor : Floor
  banks : Banks
  /-- All letters, earliest first. -/
  letters : List Letter
  /-- For every settlement that waits for an answer, the number of its letter. -/
  awaits : Nat → Option Nat
  /-- All that has been posted, earliest first. -/
  postings : List Posting

namespace Mail

/-- What settlements wait for after one of them has begun or stopped waiting. -/
def awaitsWith (mail : Mail) (number : Nat) (letter : Option Nat) :
    Nat → Option Nat :=
  fun other => if other = number then letter else mail.awaits other

/-- Send the call of a settlement on its way. -/
def send (mail : Mail) (number : Nat) : Option Mail :=
  match mail.floor.runs[number]?, mail.awaits number with
  | some ⟨transfer, .calling stage, _⟩, none =>
      some { mail with
        letters := mail.letters ++
          [⟨stage.bank transfer, stage.call transfer, .underway⟩]
        awaits := mail.awaitsWith number (some mail.letters.length) }
  | _, _ => none

/-- What a call has posted: the amount of its order, if the balance of the account
has changed. -/
def postingsOf (before after : Banks) (bank : BankName) : BankCall → List Posting
  | .commit order =>
      if after.balance? ⟨bank, order.account⟩ =
          before.balance? ⟨bank, order.account⟩ then []
      else [order.posting bank]
  | _ => []

/-- The mail after the bank of a letter has had a turn. -/
def afterTurn (mail : Mail) (index : Nat) (letter : Letter)
    (turn : Bank × Bank.Attempt BankReply) : Mail :=
  let banks := mail.banks.put letter.bank turn.1
  { mail with
    banks := banks
    letters := mail.letters.set index
      { letter with state := .ofAttempt turn.2 }
    postings := mail.postings ++
      postingsOf mail.banks banks letter.bank letter.call }

/-- Let a letter reach its bank, or let the bank go on with it. -/
def deliver (mail : Mail) (index : Nat) : Option Mail :=
  match mail.letters[index]? with
  | some letter =>
      match Table.find? mail.banks letter.bank, letter.state with
      | some bank, .underway =>
          some (mail.afterTurn index letter
            (bank.receive mail.floor.now letter.call))
      | some bank, .pausing attempt =>
          some (mail.afterTurn index letter (bank.resume attempt letter.call))
      | _, _ => none
  | none => none

/-- Give a settlement an answer, or a failure in place of one. -/
def proceed (mail : Mail) (number : Nat)
    (answer : Except TransferFailure Unit) : Option Mail :=
  (mail.floor.answer number answer).map fun floor =>
    { mail with floor := floor, awaits := mail.awaitsWith number none }

/-- The answer of a bank, as the settlement understands it. -/
def understood (bank : BankName) :
    Except Refusal BankReply → Except TransferFailure Unit
  | .ok _ => .ok ()
  | .error refusal => .error (.ofCallFailure bank (.refused refusal))

/-- Let the answer that a settlement waits for arrive. -/
def hear (mail : Mail) (number : Nat) : Option Mail :=
  match mail.awaits number with
  | some index =>
      match mail.letters[index]? with
      | some ⟨bank, _, .answered result⟩ =>
          mail.proceed number (understood bank result)
      | _ => none
  | none => none

/-- Let a settlement go on without an answer.  The failure leaves open what the
bank does. -/
def fail (mail : Mail) (number : Nat) (failure : TransferFailure) :
    Option Mail :=
  match mail.awaits number with
  | some _ =>
      if failure.leavesDoubt then mail.proceed number (.error failure) else none
  | none => none

inductive Event where
  | order (transfer : Transfer)
  | send (number : Nat)
  | deliver (index : Nat)
  | hear (number : Nat)
  | fail (number : Nat) (failure : TransferFailure)
  | conclude (number : Nat)
  | leave (number : Nat)
  | rest (milliseconds : Nat)

def step (mail : Mail) : Event → Option Mail
  | .order transfer => some { mail with floor := (mail.floor.order transfer).1 }
  | .send number => mail.send number
  | .deliver index => mail.deliver index
  | .hear number => mail.hear number
  | .fail number failure => mail.fail number failure
  | .conclude number =>
      (mail.floor.conclude number).map fun floor => { mail with floor := floor }
  | .leave number =>
      (mail.floor.leave number).map fun floor => { mail with floor := floor }
  | .rest milliseconds =>
      some { mail with floor := mail.floor.rest milliseconds }

/-- Nothing has happened yet.  There may be any banks, and accounts with any
balances. -/
structure IsOpening (mail : Mail) : Prop where
  floor : mail.floor.IsOpening
  letters : mail.letters = []
  awaits : ∀ number, mail.awaits number = none
  postings : mail.postings = []
  noLeg : ∀ name transfer side, mail.banks.leg? name transfer side = none

/-! ## What a step does -/

/-- The mail after the call of a settlement has been sent. -/
def sent (mail : Mail) (number : Nat) (transfer : Transfer)
    (stage : Settlement.Stage) : Mail :=
  { mail with
    letters := mail.letters ++
      [⟨stage.bank transfer, stage.call transfer, .underway⟩]
    awaits := mail.awaitsWith number (some mail.letters.length) }

variable {mail next : Mail} {number index : Nat}

theorem send_eq_some (sends : mail.send number = some next) :
    ∃ run stage, mail.floor.runs[number]? = some run ∧
      run.phase = .calling stage ∧ mail.awaits number = none ∧
      next = mail.sent number run.transfer stage := by
  unfold send at sends
  split at sends
  · rename_i transfer stage awaited found idle
    cases sends
    exact ⟨_, stage, found, rfl, idle, rfl⟩
  · cases sends

theorem letter_of_sent {transfer : Transfer} {stage : Settlement.Stage}
    {letter : Letter}
    (found : (mail.sent number transfer stage).letters[index]? = some letter) :
    mail.letters[index]? = some letter ∨ index = mail.letters.length ∧
      letter = ⟨stage.bank transfer, stage.call transfer, .underway⟩ :=
  eq_or_eq_of_getElem?_append found

theorem letter_sent {letter : Letter}
    (found : mail.letters[index]? = some letter) (number : Nat)
    (transfer : Transfer) (stage : Settlement.Stage) :
    (mail.sent number transfer stage).letters[index]? = some letter :=
  getElem?_append_of_some found _

theorem deliver_eq_some (delivered : mail.deliver index = some next) :
    ∃ letter bank turn, mail.letters[index]? = some letter ∧
      Table.find? mail.banks letter.bank = some bank ∧
      (letter.state = .underway ∧
          turn = bank.receive mail.floor.now letter.call ∨
        ∃ attempt, letter.state = .pausing attempt ∧
          turn = bank.resume attempt letter.call) ∧
      next = mail.afterTurn index letter turn := by
  unfold deliver at delivered
  split at delivered
  · rename_i letter found
    split at delivered
    · rename_i bank present underway
      cases delivered
      exact ⟨letter, bank, _, found, present, Or.inl ⟨underway, rfl⟩, rfl⟩
    · rename_i bank attempt present pausing
      cases delivered
      exact ⟨letter, bank, _, found, present, Or.inr ⟨attempt, pausing, rfl⟩,
        rfl⟩
    · cases delivered
  · cases delivered

theorem proceed_eq_some {answer : Except TransferFailure Unit}
    (proceeded : mail.proceed number answer = some next) :
    ∃ floor, mail.floor.answer number answer = some floor ∧
      next =
        { mail with floor := floor, awaits := mail.awaitsWith number none } := by
  obtain ⟨floor, answered, rfl⟩ := Option.map_eq_some_iff.mp proceeded
  exact ⟨floor, answered, rfl⟩

theorem hear_eq_some (heard : mail.hear number = some next) :
    ∃ index letter result, mail.awaits number = some index ∧
      mail.letters[index]? = some letter ∧
      letter.state = .answered result ∧
      mail.proceed number (understood letter.bank result) = some next := by
  unfold hear at heard
  split at heard
  · rename_i index awaited
    split at heard
    · rename_i bank call result found
      exact ⟨index, _, result, awaited, found, rfl, heard⟩
    · cases heard
  · cases heard

theorem fail_eq_some {failure : TransferFailure}
    (failed : mail.fail number failure = some next) :
    ∃ index, mail.awaits number = some index ∧
      failure.leavesDoubt = true ∧
      mail.proceed number (.error failure) = some next := by
  unfold fail at failed
  split at failed
  · rename_i index awaited
    split at failed
    · rename_i doubt
      exact ⟨index, awaited, doubt, failed⟩
    · cases failed
  · cases failed

theorem awaitsWith_self (letter : Option Nat) :
    mail.awaitsWith number letter number = letter := by
  simp [awaitsWith]

theorem awaitsWith_of_ne {other : Nat} (different : other ≠ number)
    (letter : Option Nat) :
    mail.awaitsWith number letter other = mail.awaits other := by
  simp [awaitsWith, different]

end Mail

end ClearingHouse
