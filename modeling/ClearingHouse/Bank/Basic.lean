import ClearingHouse.Bank.Account
import ClearingHouse.Bank.Leg
import ClearingHouse.Table

/-!
# Banks

A bank has a fixed set of accounts and remembers the legs it has been asked to
prepare.  This module holds what can be done to a single account: taking a
hold, giving it up, and applying the leg that it was taken for.
-/

namespace ClearingHouse

/-- How often, and with what pauses, a bank tries to take a hold. -/
structure HoldPolicy where
  /-- The number of attempts.  Zero counts as one. -/
  attempts : Nat := 3
  /-- The pause after the first attempt, in milliseconds.  It grows by as much
  with every further attempt. -/
  backoff : Nat := 100
  deriving DecidableEq

/-- A bank: its accounts, and the legs that it remembers. -/
structure Bank where
  name : BankName
  policy : HoldPolicy
  accounts : Table AccountNumber Account
  legs : Table (TransferId × Side) LegRecord

/-- What became of an attempt to take a hold that was not refused. -/
inductive HoldOutcome where
  | acquired
  /-- The same hold was there already. -/
  | alreadyHeld
  deriving DecidableEq

inductive ReleaseOutcome where
  | released
  | notHeld
  /-- Another transfer holds the account, and goes on holding it. -/
  | heldByOther (holder : TransferId)
  deriving DecidableEq

namespace Bank

/-- A bank that opens with the given balances.  Of two balances for one account
the later one counts. -/
def opening (name : BankName) (policy : HoldPolicy)
    (balances : List (AccountNumber × Amount)) : Bank where
  name := name
  policy := policy
  accounts := Table.ofList
    (balances.map fun entry => (entry.1, { balance := entry.2 }))
  legs := Table.empty

def account (bank : Bank) (number : AccountNumber) : Except Refusal Account :=
  match bank.accounts.find? number with
  | some account => .ok account
  | none => .error (.unknownAccount number.text)

def balance (bank : Bank) (number : AccountNumber) : Except Refusal Amount := do
  return (← bank.account number).balance

def holder (bank : Bank) (number : AccountNumber) :
    Except Refusal (Option Hold) := do
  return (← bank.account number).hold

def withAccount (bank : Bank) (number : AccountNumber) (account : Account) :
    Bank :=
  { bank with accounts := bank.accounts.insert number account }

/-- Take a hold, if the account is free and the leg could be applied to it now. -/
def takeHold (bank : Bank) (number : AccountNumber) (hold : Hold) :
    Except Refusal (HoldOutcome × Bank) := do
  let account ← bank.account number
  match account.hold with
  | some held =>
      if held = hold then .ok (.alreadyHeld, bank) else .error .busy
  | none => do
      let _ ← account.moved hold.side hold.amount
      .ok (.acquired, bank.withAccount number { account with hold := some hold })

def giveUpHold (bank : Bank) (number : AccountNumber) (transfer : TransferId) :
    Except Refusal (ReleaseOutcome × Bank) := do
  let account ← bank.account number
  match account.hold with
  | none => .ok (.notHeld, bank)
  | some held =>
      if held.transfer = transfer then
        .ok (.released, bank.withAccount number { account with hold := none })
      else .ok (.heldByOther held.transfer, bank)

/-- Apply the leg that a hold was taken for, and give up the hold.  It has to be
exactly the hold on the account. -/
def settleHold (bank : Bank) (number : AccountNumber) (hold : Hold) :
    Except Refusal (Amount × Bank) := do
  let account ← bank.account number
  if account.hold = some hold then
    match account.moved hold.side hold.amount with
    | .ok balance => .ok (balance, bank.withAccount number ⟨balance, none⟩)
    | .error cause =>
        .error (.violation (s!"{hold.side.label} re-validation on " ++
          s!"{number.text} failed: {cause.message}"))
  else
    .error (.violation (s!"{hold.side.label} commit on {number.text} by " ++
      s!"{hold.transfer.text} does not match the held lock"))

/-- Move an amount on an account that a transfer holds.  The hold stays. -/
def moveHeld (bank : Bank) (number : AccountNumber) (transfer : TransferId)
    (side : Side) (amount : Amount) : Except Refusal (Amount × Bank) := do
  let account ← bank.account number
  if account.isHeldBy transfer then do
    let balance ← account.moved side amount
    .ok (balance, bank.withAccount number { account with balance := balance })
  else
    .error (.violation (s!"{side.keyword} on {number.text} without a lock " ++
      s!"held by {transfer.text}"))

/-! ## Repeated attempts -/

/-- What an attempt comes to. -/
inductive Attempt (α : Type) where
  | finished (result : Except Refusal α)
  /-- Try again after a pause; the number of the next attempt goes with it. -/
  | again (pause : Nat) (number : Nat)

def allowedAttempts (bank : Bank) : Nat := max bank.policy.attempts 1

/-- Make one of several attempts to take a hold.  Only a hold of another
transfer is worth a further attempt. -/
def attemptHold (bank : Bank) (number : AccountNumber) (hold : Hold)
    (attempt : Nat) : Bank × Attempt HoldOutcome :=
  match bank.takeHold number hold with
  | .ok (outcome, held) => (held, .finished (.ok outcome))
  | .error refusal =>
      if refusal = .busy ∧ attempt < bank.allowedAttempts then
        (bank, .again (bank.policy.backoff * attempt) (attempt + 1))
      else (bank, .finished (.error refusal))

end Bank

end ClearingHouse
