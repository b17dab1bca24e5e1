import ClearingHouse.Proofs.Bank.Effect
import ClearingHouse.Proofs.RunThrough

/-!
# A bank at work

A branch is a bank with the prepares that pause between two attempts.  During
their pauses it carries out any other orders, from anyone and in any order.  A
prepare that pauses goes on at any time later, or is given up by its caller.
-/

namespace ClearingHouse

/-- A prepare that pauses. -/
structure Waiting where
  order : LegOrder
  /-- The number of the next attempt. -/
  attempt : Nat

/-- A bank with the prepares that pause. -/
structure Branch where
  bank : Bank
  waiting : List Waiting
  /-- The time in milliseconds. -/
  now : Nat

def Bank.hold? (bank : Bank) (number : AccountNumber) : Option Hold :=
  (bank.accounts.find? number).bind Account.hold

namespace Branch

def prepare (branch : Branch) (order : LegOrder) : Branch :=
  match branch.bank.prepare order with
  | (bank, .finished _) => { branch with bank := bank }
  | (bank, .again _ attempt) =>
      { branch with
        bank := bank
        waiting := branch.waiting ++ [⟨order, attempt⟩] }

def resume (branch : Branch) (index : Nat) : Option Branch :=
  match branch.waiting[index]? with
  | some waiting =>
      match branch.bank.attemptPrepare waiting.order waiting.attempt with
      | (bank, .finished _) =>
          some { branch with
            bank := bank
            waiting := branch.waiting.eraseIdx index }
      | (bank, .again _ attempt) =>
          some { branch with
            bank := bank
            waiting := branch.waiting.set index ⟨waiting.order, attempt⟩ }
  | none => none

inductive Event where
  | prepare (order : LegOrder)
  | commit (order : LegOrder)
  | release (order : ReleaseOrder)
  | resume (index : Nat)
  /-- The caller of a prepare that pauses goes away. -/
  | drop (index : Nat)
  | sweep (retention : Nat)
  | rest (milliseconds : Nat)

def step (branch : Branch) : Event → Option Branch
  | .prepare order => some (branch.prepare order)
  | .commit order =>
      some { branch with bank := (branch.bank.commit branch.now order).1 }
  | .release order =>
      some { branch with bank := (branch.bank.release branch.now order).1 }
  | .resume index => branch.resume index
  | .drop index =>
      some { branch with waiting := branch.waiting.eraseIdx index }
  | .sweep retention =>
      some { branch with bank := branch.bank.sweep branch.now retention }
  | .rest milliseconds => some { branch with now := branch.now + milliseconds }

def IsWaiting (branch : Branch) (transfer : TransferId) (side : Side) : Prop :=
  ∃ waiting ∈ branch.waiting, waiting.order.transfer = transfer ∧
    waiting.order.side = side

/-! ## What a step does -/

variable {branch next : Branch} {index : Nat}

theorem prepare_cases (branch : Branch) (order : LegOrder) :
    branch.prepare order =
        { branch with bank := (branch.bank.prepare order).1 } ∨
      ∃ pause number, (branch.bank.prepare order).2 = .again pause number ∧
        branch.prepare order =
          { branch with
            bank := (branch.bank.prepare order).1
            waiting := branch.waiting ++ [⟨order, number⟩] } := by
  unfold Branch.prepare
  cases branch.bank.prepare order with
  | mk bank attempt =>
      cases attempt with
      | finished outcome => exact Or.inl rfl
      | again pause number => exact Or.inr ⟨pause, number, rfl, rfl⟩

theorem effect_prepare (branch : Branch) (order : LegOrder) :
    branch.bank.Effect branch.now (.prepare order)
      ((branch.bank.prepare order).1,
        (branch.bank.prepare order).2.map fun _ => .done) :=
  Bank.effect_prepare order

theorem effect_attempt (branch : Branch) (waiting : Waiting) :
    branch.bank.Effect branch.now (.prepare waiting.order)
      ((branch.bank.attemptPrepare waiting.order waiting.attempt).1,
        (branch.bank.attemptPrepare waiting.order waiting.attempt).2.map
          fun _ => .done) :=
  Bank.effect_attemptPrepare waiting.order waiting.attempt

theorem resume_eq_some (resumed : branch.resume index = some next) :
    ∃ waiting, branch.waiting[index]? = some waiting ∧
      next.bank =
        (branch.bank.attemptPrepare waiting.order waiting.attempt).1 ∧
      ∀ later ∈ next.waiting, later ∈ branch.waiting ∨
        later.order = waiting.order := by
  unfold Branch.resume at resumed
  split at resumed
  · rename_i waiting found
    refine ⟨waiting, found, ?_⟩
    split at resumed
    · rename_i bank outcome result
      cases resumed
      rw [result]
      exact ⟨rfl, fun later member =>
        Or.inl (List.mem_of_mem_eraseIdx member)⟩
    · rename_i bank pause attempt result
      cases resumed
      rw [result]
      refine ⟨rfl, fun later member => ?_⟩
      rcases List.mem_or_eq_of_mem_set member with old | rfl
      · exact Or.inl old
      · exact Or.inr rfl
  · cases resumed

end Branch

end ClearingHouse
