import ClearingHouse.Bank.Call
import ClearingHouse.Transfer.Journal

/-!
# Settling a transfer

A transfer is settled by calls to the two banks, one after the other.  First
both legs are prepared, then both are committed, the debit leg before the
credit leg.  If a leg cannot be prepared, what has been prepared is released.
Once a commit has been asked for, nothing is released any more.

A failure to prepare that may pass drops the transfer, so that it can be asked
for again.  Every other failure is final.
-/

namespace ClearingHouse

def TransferFailure.ofCallFailure (bank : BankName) :
    CallFailure → TransferFailure
  | .refused refusal => .ofRefusal refusal
  | .unreachable detail => .unreachable s!"{bank.text}: {detail}"

namespace Settlement

/-- The call that a settlement waits for. -/
inductive Stage where
  | prepareDebit
  | prepareCredit
  /-- The settlement fails with `cause`.  The credit leg is released next if it
  is not known whether it has been prepared. -/
  | releaseDebit (cause : TransferFailure) (creditNext : Bool)
  | releaseCredit (cause : TransferFailure)
  | commitDebit
  | commitCredit
  deriving DecidableEq

inductive Conclusion where
  /-- The outcome is final. -/
  | settled (outcome : Outcome)
  /-- The transfer may be asked for again. -/
  | dropped (failure : TransferFailure)

def Conclusion.outcome : Conclusion → Outcome
  | .settled outcome => outcome
  | .dropped failure => .error failure

inductive Next where
  | proceed (stage : Stage)
  | conclude (conclusion : Conclusion)

namespace Stage

def side : Stage → Side
  | .prepareDebit | .releaseDebit _ _ | .commitDebit => .debit
  | .prepareCredit | .releaseCredit _ | .commitCredit => .credit

def bank (stage : Stage) (transfer : Transfer) : BankName :=
  (transfer.party stage.side).bank

def call (stage : Stage) (transfer : Transfer) : BankCall :=
  match stage with
  | .prepareDebit => .prepare (transfer.legOrder .debit)
  | .prepareCredit => .prepare (transfer.legOrder .credit)
  | .releaseDebit _ _ => .release (transfer.releaseOrder .debit)
  | .releaseCredit _ => .release (transfer.releaseOrder .credit)
  | .commitDebit => .commit (transfer.legOrder .debit)
  | .commitCredit => .commit (transfer.legOrder .credit)

end Stage

/-- The end of a settlement whose legs could not both be prepared. -/
def abandoned (cause : TransferFailure) : Conclusion :=
  if cause.isRetryable then .dropped cause else .settled (.error cause)

/-- The failure of a settlement in which a commit has failed. -/
def incomplete (progress : String) : TransferFailure → TransferFailure
  | .timeout => .timeout
  | failure => .commitIncomplete s!"{progress} ({failure.message})"

/-- What a settlement does after the call of a stage has been answered. -/
def next (transfer : Transfer) (stage : Stage)
    (answer : Except TransferFailure Unit) : Next :=
  match stage, answer with
  | .prepareDebit, .ok () => .proceed .prepareCredit
  | .prepareDebit, .error cause =>
      if cause.leavesDoubt then .proceed (.releaseDebit cause false)
      else .conclude (abandoned cause)
  | .prepareCredit, .ok () => .proceed .commitDebit
  | .prepareCredit, .error cause =>
      .proceed (.releaseDebit cause cause.leavesDoubt)
  | .releaseDebit cause true, _ => .proceed (.releaseCredit cause)
  | .releaseDebit cause false, _ => .conclude (abandoned cause)
  | .releaseCredit cause, _ => .conclude (abandoned cause)
  | .commitDebit, .ok () => .proceed .commitCredit
  | .commitDebit, .error failure =>
      .conclude (.settled (.error (incomplete
        "debit leg not committed, credit leg still prepared" failure)))
  | .commitCredit, .ok () => .conclude (.settled (.ok transfer.receipt))
  | .commitCredit, .error failure =>
      .conclude (.settled (.error (incomplete
        "debit leg committed, credit leg not committed" failure)))

end Settlement

def Journal.conclude (journal : Journal) (now : Nat) (transfer : TransferId) :
    Settlement.Conclusion → Journal
  | .settled outcome => journal.finish now transfer outcome
  | .dropped _ => journal.forget transfer

end ClearingHouse
