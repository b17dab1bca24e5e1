import ClearingHouse.Proofs.Branch.Promise

/-!
# Pursuing a hold

Somebody pursues a hold on an account in several attempts.  Between them others do with
the bank what they like, and the one who pursues the hold may go away.  An attempt is
made as soon as it is due: time does not pass over it.
-/

namespace ClearingHouse

/-- Why a leg that an account does not cover is refused. -/
def Side.shortage : Side → Refusal
  | .debit => .insufficientFunds
  | .credit => .tooLarge

theorem Account.covers_or_shortage (account : Account) (amount : Amount) (side : Side) :
    (account.Covers amount side ∧ ∃ balance, account.moved side amount = .ok balance) ∨
      ¬ account.Covers amount side ∧ account.moved side amount = .error side.shortage := by
  cases side with
  | debit =>
      by_cases enough : amount.minor ≤ account.balance.minor
      · exact Or.inl ⟨enough, by simp [moved, Amount.sub?, enough]⟩
      · exact Or.inr ⟨enough, by simp [moved, Amount.sub?, enough, Side.shortage]⟩
  | credit =>
      by_cases fits : account.balance.minor + amount.minor ≤ 2 ^ 64 - 1
      · have below : account.balance.minor + amount.minor < 2 ^ 64 := by omega
        exact Or.inl ⟨fits, by simp [moved, Amount.add?, Amount.ofMinor?, below]⟩
      · have notBelow : ¬ account.balance.minor + amount.minor < 2 ^ 64 := by omega
        exact Or.inr ⟨fits, by simp [moved, Amount.add?, Amount.ofMinor?, notBelow,
          Side.shortage]⟩

namespace Bank

variable (bank : Bank) (number : AccountNumber) (hold : Hold)

/-- Try once to take a hold.  A bank that refuses stays as it is. -/
def tryHold : Bank × Except Refusal HoldOutcome :=
  match bank.takeHold number hold with
  | .ok (outcome, held) => (held, .ok outcome)
  | .error refusal => (bank, .error refusal)

/-- What an attempt to take a hold comes to, and what it leaves of the bank. -/
inductive Tries : Except Refusal HoldOutcome → Bank → Prop
  | unknown (absent : bank.accounts.find? number = none) :
      Tries (.error (.unknownAccount number.text)) bank
  | busy (account : Account) (other : Hold)
      (found : bank.accounts.find? number = some account)
      (held : account.hold = some other) (foreign : other ≠ hold) :
      Tries (.error .busy) bank
  | alreadyHeld (account : Account) (found : bank.accounts.find? number = some account)
      (held : account.hold = some hold) : Tries (.ok .alreadyHeld) bank
  | uncovered (account : Account) (found : bank.accounts.find? number = some account)
      (free : account.hold = none) (short : ¬ account.Covers hold.amount hold.side) :
      Tries (.error hold.side.shortage) bank
  | acquired (account : Account) (found : bank.accounts.find? number = some account)
      (free : account.hold = none) (covered : account.Covers hold.amount hold.side) :
      Tries (.ok .acquired) (bank.withAccount number { account with hold := some hold })

theorem tries_tryHold :
    bank.Tries number hold (bank.tryHold number hold).2 (bank.tryHold number hold).1 := by
  cases found : bank.accounts.find? number with
  | none =>
      have unknown : bank.tryHold number hold =
          (bank, .error (.unknownAccount number.text)) := by
        simp [tryHold, takeHold, Bank.account, found, bind, Except.bind]
      rw [unknown]
      exact .unknown found
  | some account =>
      have present := account_of_find? found
      cases held : account.hold with
      | some other =>
          by_cases own : other = hold
          · subst own
            have retaken : bank.tryHold number other = (bank, .ok .alreadyHeld) := by
              simp [tryHold, takeHold, present, held, bind, Except.bind]
            rw [retaken]
            exact .alreadyHeld account found held
          · have occupied : bank.tryHold number hold = (bank, .error .busy) := by
              simp [tryHold, takeHold, present, held, own, bind, Except.bind]
            rw [occupied]
            exact .busy account other found held own
      | none =>
          rcases account.covers_or_shortage hold.amount hold.side with
            ⟨covered, balance, moved⟩ | ⟨short, refused⟩
          · have taken : bank.tryHold number hold =
                (bank.withAccount number { account with hold := some hold },
                  .ok .acquired) := by
              simp [tryHold, takeHold, present, held, moved, bind, Except.bind]
            rw [taken]
            exact .acquired account found held covered
          · have refusal : bank.tryHold number hold =
                (bank, .error hold.side.shortage) := by
              simp [tryHold, takeHold, present, held, refused, bind, Except.bind]
            rw [refusal]
            exact .uncovered account found held short

/-- Only an account that is held for something else is worth a further attempt. -/
theorem attemptHold_eq (attempt : Nat) :
    bank.attemptHold number hold attempt =
      ((bank.tryHold number hold).1,
        if (bank.tryHold number hold).2 = .error .busy ∧
            attempt < max bank.policy.attempts 1 then
          .again (bank.policy.backoff * attempt) (attempt + 1)
        else .finished (bank.tryHold number hold).2) := by
  cases taken : bank.takeHold number hold with
  | ok pair => simp [attemptHold, tryHold, taken]
  | error refusal =>
      have allowed : max bank.policy.attempts 1 = bank.allowedAttempts := rfl
      by_cases again : refusal = .busy ∧ attempt < bank.allowedAttempts
      · simp only [attemptHold, tryHold, taken, allowed, Except.error.injEq, if_pos again]
      · simp only [attemptHold, tryHold, taken, allowed, Except.error.injEq, if_neg again]

variable {bank number hold} {result : Except Refusal HoldOutcome} {next : Bank}

/-- Nothing is written but a hold that is taken. -/
theorem Tries.eq_of_ne_acquired (tries : bank.Tries number hold result next)
    (notTaken : result ≠ .ok .acquired) : next = bank := by
  cases tries with
  | unknown | busy | alreadyHeld | uncovered => rfl
  | acquired => exact absurd rfl notTaken

theorem Tries.policy_eq (tries : bank.Tries number hold result next) :
    next.policy = bank.policy := by
  cases tries <;> rfl

end Bank

/-! ## Pursuits -/

/-- One attempt to take a hold. -/
structure HoldTry where
  time : Nat
  /-- The bank as the attempt found it. -/
  bank : Bank
  result : Except Refusal HoldOutcome

inductive PursuitPhase where
  /-- The attempt with this number is due at this time. -/
  | due (time attempt : Nat)
  /-- The result has been told at this time. -/
  | ended (time : Nat) (result : Except Refusal HoldOutcome)
  /-- The one who pursued the hold has gone away during a pause. -/
  | dropped

/-- What follows an attempt that is made at a time. -/
def PursuitPhase.after (time : Nat) : Bank.Attempt HoldOutcome → PursuitPhase
  | .finished result => .ended time result
  | .again pause attempt => .due (time + pause) attempt

/-- A bank with somebody who pursues a hold. -/
structure Pursuit where
  bank : Bank
  /-- The time in milliseconds. -/
  now : Nat
  phase : PursuitPhase
  /-- All attempts so far. -/
  tries : List HoldTry

namespace Pursuit

def begin (bank : Bank) (now : Nat) : Pursuit := ⟨bank, now, .due now 1, []⟩

inductive Event where
  /-- Others have done with the bank what they like.  They cannot change its policy. -/
  | others (changed : Bank)
  | rest (milliseconds : Nat)
  | attempt
  | drop

/-- Whether some time may pass before the next attempt. -/
def mayRest (pursuit : Pursuit) (milliseconds : Nat) : Bool :=
  match pursuit.phase with
  | .due time _ => pursuit.now + milliseconds ≤ time
  | _ => true

def attempted (pursuit : Pursuit) (number : AccountNumber) (hold : Hold)
    (attempt : Nat) : Pursuit where
  bank := (pursuit.bank.attemptHold number hold attempt).1
  now := pursuit.now
  phase := .after pursuit.now (pursuit.bank.attemptHold number hold attempt).2
  tries := pursuit.tries ++
    [⟨pursuit.now, pursuit.bank, (pursuit.bank.tryHold number hold).2⟩]

def step (number : AccountNumber) (hold : Hold) (pursuit : Pursuit) :
    Event → Option Pursuit
  | .others changed =>
      if changed.policy = pursuit.bank.policy then some { pursuit with bank := changed }
      else none
  | .rest milliseconds =>
      if pursuit.mayRest milliseconds then
        some { pursuit with now := pursuit.now + milliseconds }
      else none
  | .attempt =>
      match pursuit.phase with
      | .due time attempt =>
          if time ≤ pursuit.now then some (pursuit.attempted number hold attempt) else none
      | _ => none
  | .drop =>
      match pursuit.phase with
      | .due _ _ => some { pursuit with phase := .dropped }
      | _ => none

end Pursuit

end ClearingHouse
