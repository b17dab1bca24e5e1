import ClearingHouse.House
import ClearingHouse.Proofs.RunThrough

/-!
# The floor of a clearing house

The floor is the house with the settlements that it has started.  Any number of
callers order transfers, the calls of the settlements are answered in any order
and in any way, and the journal is swept at any time.  Where the answers come
from is left open here: banks in the same program or far away give them.
-/

namespace ClearingHouse

inductive RunPhase where
  /-- The call of this stage has no answer yet. -/
  | calling (stage : Settlement.Stage)
  /-- The conclusion has not been noted in the journal yet. -/
  | concluding (conclusion : Settlement.Conclusion)
  | ended (outcome : Outcome)

namespace RunPhase

def isLive : RunPhase → Bool
  | .ended _ => false
  | _ => true

/-- The phase that a settlement enters after an answer. -/
def entering : Settlement.Next → RunPhase
  | .proceed stage => .calling stage
  | .conclude conclusion => .concluding conclusion

end RunPhase

/-- A settlement that has been started. -/
structure SettlementRun where
  transfer : Transfer
  phase : RunPhase
  /-- Whether the caller who ordered the transfer waits for the outcome. -/
  awaited : Bool

/-- A clearing house with the settlements that it has started. -/
structure Floor where
  house : House
  /-- The time in milliseconds. -/
  now : Nat
  /-- All settlements, earliest first. -/
  runs : List SettlementRun

namespace Floor

def entryOf? (floor : Floor) (transfer : TransferId) : Option JournalEntry :=
  floor.house.journal.entryOf? transfer

/-- Whether a settlement is under way, and whether it is one of this transfer. -/
def IsLive (floor : Floor) (number : Nat) (run : SettlementRun) : Prop :=
  floor.runs[number]? = some run ∧ run.phase.isLive = true

def withRun (floor : Floor) (number : Nat) (run : SettlementRun) : Floor :=
  { floor with runs := floor.runs.set number run }

/-- Take the order for a transfer.  If it is accepted, its settlement starts on
its own. -/
def order (floor : Floor) (transfer : Transfer) : Floor × Reception :=
  match floor.house.receive transfer with
  | (house, .accepted) =>
      ({ floor with
          house := house
          runs := floor.runs ++ [⟨transfer, .calling .prepareDebit, true⟩] },
        .accepted)
  | (house, .answered outcome) =>
      ({ floor with house := house }, .answered outcome)

/-- Answer the call that a settlement waits for. -/
def answer (floor : Floor) (number : Nat)
    (answer : Except TransferFailure Unit) : Option Floor :=
  match floor.runs[number]? with
  | some ⟨transfer, .calling stage, awaited⟩ =>
      some (floor.withRun number
        ⟨transfer, .entering (Settlement.next transfer stage answer), awaited⟩)
  | _ => none

/-- Note the conclusion of a settlement in the journal.  This ends it. -/
def conclude (floor : Floor) (number : Nat) : Option Floor :=
  match floor.runs[number]? with
  | some ⟨transfer, .concluding conclusion, awaited⟩ =>
      some { floor.withRun number ⟨transfer, .ended conclusion.outcome, awaited⟩ with
        house := floor.house.conclude floor.now transfer.id conclusion }
  | _ => none

/-- The caller who waits for a settlement goes away. -/
def leave (floor : Floor) (number : Nat) : Option Floor :=
  match floor.runs[number]? with
  | some run => some (floor.withRun number { run with awaited := false })
  | none => none

/-- Drop entries of transfers that ended `retention` ago or longer. -/
def sweep (floor : Floor) (retention : Nat) : Floor :=
  { floor with house := floor.house.sweep floor.now retention }

def rest (floor : Floor) (milliseconds : Nat) : Floor :=
  { floor with now := floor.now + milliseconds }

inductive Event where
  | order (transfer : Transfer)
  | answer (number : Nat) (answer : Except TransferFailure Unit)
  | conclude (number : Nat)
  | leave (number : Nat)
  | sweep (retention : Nat)
  | rest (milliseconds : Nat)

def step (floor : Floor) : Event → Option Floor
  | .order transfer => some (floor.order transfer).1
  | .answer number answer => floor.answer number answer
  | .conclude number => floor.conclude number
  | .leave number => floor.leave number
  | .sweep retention => some (floor.sweep retention)
  | .rest milliseconds => some (floor.rest milliseconds)

/-- A floor on which nothing has happened yet.  The house may know any banks and
any callers. -/
structure IsOpening (floor : Floor) : Prop where
  journal : floor.house.journal = Journal.empty
  runs : floor.runs = []

end Floor

end ClearingHouse
