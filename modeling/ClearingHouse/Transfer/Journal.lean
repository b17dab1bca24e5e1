import ClearingHouse.Table
import ClearingHouse.Transfer.Basic

/-!
# The journal of transfers

The journal has an entry for every transfer that is under way or has ended not
long ago.  An entry is made before any bank is called, so that a transfer is
settled at most once at a time, and the outcome of a transfer that has ended is
given to everyone who asks for it again.
-/

namespace ClearingHouse

structure JournalEntry where
  transfer : Transfer
  status : TransferStatus
  outcome : Option Outcome
  settledAt : Option Nat

namespace JournalEntry

def running (transfer : Transfer) : JournalEntry :=
  ⟨transfer, .inProgress, none, none⟩

/-- The entry after the transfer has ended.  An entry that has ended already
stays as it is. -/
def finish (entry : JournalEntry) (now : Nat) (outcome : Outcome) :
    JournalEntry :=
  if entry.status.isFinal then entry
  else
    { entry with
      status :=
        match outcome with
        | .ok _ => .succeeded
        | .error _ => .failed
      outcome := some outcome
      settledAt := some now }

/-- Whether the entry is still needed.  One that has ended is kept for less than
`retention`. -/
def isKept (entry : JournalEntry) (now retention : Nat) : Bool :=
  match entry.settledAt with
  | some settledAt => decide (now - settledAt < retention)
  | none => true

end JournalEntry

abbrev Journal : Type := Table TransferId JournalEntry

/-- What a caller learns who wants to begin a transfer. -/
inductive Admission where
  /-- The transfer was not known; the caller has to settle it. -/
  | fresh
  | running
  | settled (outcome : Outcome)

namespace Journal

def empty : Journal := Table.empty

def entryOf? (journal : Journal) (transfer : TransferId) : Option JournalEntry :=
  Table.find? journal transfer

/-- Ask to begin a transfer.  A name that is in use is answered from its entry,
whatever the parameters. -/
def begin (journal : Journal) (transfer : Transfer) : Journal × Admission :=
  match journal.entryOf? transfer.id with
  | none => (Table.insert journal transfer.id (.running transfer), .fresh)
  | some entry =>
      match entry.outcome with
      | some outcome => (journal, .settled outcome)
      | none => (journal, .running)

def finish (journal : Journal) (now : Nat) (transfer : TransferId)
    (outcome : Outcome) : Journal :=
  match journal.entryOf? transfer with
  | some entry => Table.insert journal transfer (entry.finish now outcome)
  | none => journal

def isRunning (journal : Journal) (transfer : TransferId) : Bool :=
  match journal.entryOf? transfer with
  | some entry => !entry.status.isFinal
  | none => false

/-- Drop the entry of a transfer that has not ended. -/
def forget (journal : Journal) (transfer : TransferId) : Journal :=
  if journal.isRunning transfer then Table.erase journal transfer
  else journal

/-- Drop the entries of transfers that ended `retention` ago or longer. -/
def sweep (journal : Journal) (now retention : Nat) : Journal :=
  Table.retain journal fun _ entry => entry.isKept now retention

end Journal

/-- When, and after how long, ended transfers are dropped from the journal. -/
structure SweepSchedule where
  /-- The time between two sweeps, in milliseconds. -/
  interval : Nat := 60000
  /-- For how long an ended transfer is remembered, in milliseconds. -/
  retention : Nat := 3600000
  deriving DecidableEq

end ClearingHouse
