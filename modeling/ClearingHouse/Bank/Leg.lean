import ClearingHouse.Identifier

/-!
# Legs that a bank remembers

A leg that a bank has prepared is remembered until some time after it has been
committed or released, so that a repeated order is recognised.
-/

namespace ClearingHouse

/-- How far a leg has come at its bank. -/
inductive LegStatus where
  /-- The account is held, and nothing has been moved yet. -/
  | prepared
  /-- The amount has been moved and the hold is gone. -/
  | committed
  /-- The hold is gone and nothing has been moved. -/
  | released
  deriving DecidableEq

namespace LegStatus

/-- Every status, in the order in which legs can reach them. -/
def all : List LegStatus := [.prepared, .committed, .released]

def text : LegStatus → String
  | .prepared => "PREPARED"
  | .committed => "COMMITTED"
  | .released => "RELEASED"

def ofText? (text : String) : Option LegStatus :=
  all.find? fun status => status.text == text

/-- Whether the status never changes again. -/
def isFinal : LegStatus → Bool
  | .prepared => false
  | .committed | .released => true

def canBecome : LegStatus → LegStatus → Bool
  | .prepared, next => next.isFinal
  | _, _ => false

end LegStatus

/-- What a bank remembers of a leg. -/
structure LegRecord where
  account : AccountNumber
  status : LegStatus
  settledAt : Option Nat
  deriving DecidableEq

namespace LegRecord

def prepared (account : AccountNumber) : LegRecord := ⟨account, .prepared, none⟩

def settle (record : LegRecord) (now : Nat) (status : LegStatus) : LegRecord :=
  { record with status := status, settledAt := some now }

/-- Whether the record is still needed.  A settled one is kept for less than
`retention`. -/
def isKept (record : LegRecord) (now retention : Nat) : Bool :=
  match record.settledAt with
  | some settledAt => decide (now - settledAt < retention)
  | none => true

end LegRecord

end ClearingHouse
