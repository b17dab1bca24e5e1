import ClearingHouse.Bank.Basic

/-!
# Carrying out orders

A bank prepares a leg by taking a hold for it, commits the leg by applying it
under that very hold, and releases it by giving the hold up.  Preparing may take
several attempts with pauses between them, in which the bank carries out other
orders; committing and releasing are one step each.
-/

namespace ClearingHouse.Bank

/-- Refuse an order that names no transfer or moves nothing. -/
def checkOrder (order : LegOrder) : Except Refusal Unit :=
  if order.transfer.isBlank then
    .error (.invalidRequest "tx_id is required")
  else if order.amount.isZero then
    .error (.invalidRequest "amount must be positive")
  else .ok ()

def leg (bank : Bank) (transfer : TransferId) (side : Side) :
    Option LegRecord :=
  bank.legs.find? (transfer, side)

def legStatus (bank : Bank) (transfer : TransferId) (side : Side) :
    Option LegStatus :=
  (bank.leg transfer side).map LegRecord.status

def withLeg (bank : Bank) (transfer : TransferId) (side : Side)
    (record : LegRecord) : Bank :=
  { bank with legs := bank.legs.insert (transfer, side) record }

/-- Make one attempt to prepare a leg.  Taking the hold and remembering the leg
are one step. -/
def attemptPrepare (bank : Bank) (order : LegOrder) (attempt : Nat) :
    Bank × Attempt Unit :=
  match bank.attemptHold order.account order.hold attempt with
  | (held, .finished (.ok _)) =>
      (held.withLeg order.transfer order.side (.prepared order.account),
        .finished (.ok ()))
  | (same, .finished (.error refusal)) => (same, .finished (.error refusal))
  | (same, .again pause number) => (same, .again pause number)

/-- Begin to prepare a leg.  A leg that has been committed is acknowledged. -/
def prepare (bank : Bank) (order : LegOrder) : Bank × Attempt Unit :=
  match checkOrder order with
  | .error refusal => (bank, .finished (.error refusal))
  | .ok () =>
      if bank.legStatus order.transfer order.side = some .committed then
        (bank, .finished (.ok ()))
      else bank.attemptPrepare order 1

/-- Commit a leg that has been prepared.  A leg that has been committed is
acknowledged with the balance of the account. -/
def commit (bank : Bank) (now : Nat) (order : LegOrder) :
    Bank × Except Refusal Amount :=
  match checkOrder order with
  | .error refusal => (bank, .error refusal)
  | .ok () =>
      match bank.leg order.transfer order.side with
      | none => (bank, .error (.violation "commit without prepare"))
      | some record =>
          match record.status with
          | .committed => (bank, bank.balance order.account)
          | .released => (bank, .error (.violation "commit after release"))
          | .prepared =>
              if record.account = order.account then
                match bank.settleHold order.account order.hold with
                | .ok (balance, settled) =>
                    (settled.withLeg order.transfer order.side
                      (record.settle now .committed), .ok balance)
                | .error refusal => (bank, .error refusal)
              else
                (bank, .error (.violation
                  (s!"prepared on {record.account.text}, commit names " ++
                    s!"{order.account.text}")))

/-- Mark one leg of a transfer as released, if it is prepared on this account. -/
def releaseLeg (bank : Bank) (now : Nat) (order : ReleaseOrder)
    (side : Side) : Bank :=
  match bank.leg order.transfer side with
  | some record =>
      if record.account = order.account ∧
          record.status.canBecome .released = true then
        bank.withLeg order.transfer side (record.settle now .released)
      else bank
  | none => bank

/-- Release what a transfer has prepared on an account.  An account that another
transfer holds, or none, is left alone. -/
def release (bank : Bank) (now : Nat) (order : ReleaseOrder) :
    Bank × Except Refusal Unit :=
  match bank.giveUpHold order.account order.transfer with
  | .error refusal => (bank, .error refusal)
  | .ok (.released, freed) =>
      ((freed.releaseLeg now order .debit).releaseLeg now order .credit, .ok ())
  | .ok (_, same) => (same, .ok ())

/-- Forget the legs that were settled `retention` ago or longer. -/
def sweep (bank : Bank) (now retention : Nat) : Bank :=
  { bank with legs := bank.legs.retain fun _ record =>
      record.isKept now retention }

def legCount (bank : Bank) : Nat := bank.legs.size

end ClearingHouse.Bank
