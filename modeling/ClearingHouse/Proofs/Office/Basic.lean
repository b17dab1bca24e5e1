import ClearingHouse.Proofs.Bank.Effect
import ClearingHouse.Proofs.RunThrough
import ClearingHouse.Proofs.Sample

/-!
# A bank and the calls that are made to it

An office is a bank that anybody may call, with a note of what has become of every
call.  A call is known by its ticket.  A prepare that pauses goes on at any time
later, or its caller goes away; meanwhile the bank takes all other calls.
-/

namespace ClearingHouse

namespace Bank

/-- Take a call.  A commit is answered with the balance that it leaves. -/
def serve (bank : Bank) (now : Nat) : BankCall → Bank × Attempt BankReply
  | .commit order =>
      let (next, result) := bank.commit now order
      (next, .finished (result.map .balance))
  | call => bank.receive now call

theorem serve_eq_or_succeeds (bank : Bank) (now : Nat) (call : BankCall) :
    (bank.serve now call).1 = bank ∨
      ∃ reply, (bank.serve now call).2 = .finished (.ok reply) := by
  cases call with
  | commit order =>
      rcases (effect_commit order).eq_or_done with same | done
      · exact Or.inl same
      · right
        cases result : (bank.commit now order).2 with
        | ok balance => exact ⟨.balance balance, by simp [serve, result, Except.map]⟩
        | error refusal => simp [result, Except.map] at done
  | prepare | release | balance =>
      rcases (@effect_receive bank now _).eq_or_done with same | done
      · exact Or.inl same
      · exact Or.inr ⟨.done, done⟩

theorem resume_eq_or_succeeds (bank : Bank) (number : Nat) (call : BankCall) :
    (bank.resume number call).1 = bank ∨
      ∃ reply, (bank.resume number call).2 = .finished (.ok reply) := by
  cases call with
  | prepare order =>
      rcases (@effect_resume bank 0 number order).eq_or_done with same | done
      · exact Or.inl same
      · exact Or.inr ⟨.done, done⟩
  | commit | release | balance => exact Or.inl rfl

end Bank

inductive CallPhase where
  /-- The call pauses before the attempt with this number. -/
  | pausing (call : BankCall) (attempt : Nat)
  | answered (result : Except Refusal BankReply)
  /-- The caller has gone away during a pause. -/
  | dropped
  deriving DecidableEq

/-- What has become of a call after an attempt. -/
def CallPhase.after (call : BankCall) : Bank.Attempt BankReply → CallPhase
  | .finished result => .answered result
  | .again _ attempt => .pausing call attempt

/-- A bank with all calls that have been made to it. -/
structure Office where
  bank : Bank
  /-- What has become of the calls, by their tickets. -/
  calls : Table Nat CallPhase
  /-- The time in milliseconds. -/
  now : Nat

namespace Office

/-- The office after the bank has given a call its turn. -/
def turned (office : Office) (ticket : Nat) (call : BankCall)
    (turn : Bank × Bank.Attempt BankReply) : Office :=
  { office with
    bank := turn.1
    calls := office.calls.insert ticket (.after call turn.2) }

@[simp]
theorem find?_turned (office : Office) (ticket : Nat) (call : BankCall)
    (turn : Bank × Bank.Attempt BankReply) :
    (office.turned ticket call turn).calls.find? ticket = some (.after call turn.2) := by
  simp [turned]

theorem find?_turned_of_ne (office : Office) {ticket other : Nat} (apart : other ≠ ticket)
    (call : BankCall) (turn : Bank × Bank.Attempt BankReply) :
    (office.turned ticket call turn).calls.find? other = office.calls.find? other := by
  simp [turned, apart.symm]

inductive Event where
  /-- A call is made, with a ticket that has not been used. -/
  | call (ticket : Nat) (call : BankCall)
  | resume (ticket : Nat)
  | drop (ticket : Nat)
  | sweep (retention : Nat)
  | rest (milliseconds : Nat)

def Event.ticket? : Event → Option Nat
  | .call ticket _ | .resume ticket | .drop ticket => some ticket
  | .sweep _ | .rest _ => none

def step (office : Office) : Event → Option Office
  | .call ticket call =>
      match office.calls.find? ticket with
      | none => some (office.turned ticket call (office.bank.serve office.now call))
      | some _ => none
  | .resume ticket =>
      match office.calls.find? ticket with
      | some (.pausing call attempt) =>
          some (office.turned ticket call (office.bank.resume attempt call))
      | _ => none
  | .drop ticket =>
      match office.calls.find? ticket with
      | some (.pausing _ _) =>
          some { office with calls := office.calls.insert ticket .dropped }
      | _ => none
  | .sweep retention =>
      some { office with bank := office.bank.sweep office.now retention }
  | .rest milliseconds => some { office with now := office.now + milliseconds }

/-! ## What a step does -/

variable {office next : Office} {event : Event}

inductive Changes (office : Office) : Event → Office → Prop where
  /-- A call has its turn, and succeeds if it changes the bank. -/
  | turns (event : Event) (ticket : Nat) (call : BankCall)
      (turn : Bank × Bank.Attempt BankReply) (own : event.ticket? = some ticket)
      (unanswered : ∀ result, office.calls.find? ticket ≠ some (.answered result))
      (writes : turn.1 = office.bank ∨ ∃ reply, turn.2 = .finished (.ok reply)) :
      Changes office event (office.turned ticket call turn)
  | drops (ticket : Nat)
      (unanswered : ∀ result, office.calls.find? ticket ≠ some (.answered result)) :
      Changes office (.drop ticket)
        { office with calls := office.calls.insert ticket .dropped }
  /-- No call has a turn. -/
  | passes (event : Event) (bank : Bank) (now : Nat) (nobody : event.ticket? = none) :
      Changes office event { office with bank := bank, now := now }

theorem changes_of_step (stepped : office.step event = some next) :
    office.Changes event next := by
  cases event with
  | call ticket call =>
      simp only [step] at stepped
      split at stepped <;> cases stepped
      rename_i unused
      exact .turns _ ticket call _ rfl (by simp [unused])
        (office.bank.serve_eq_or_succeeds office.now call)
  | resume ticket =>
      simp only [step] at stepped
      split at stepped <;> cases stepped
      rename_i call attempt pausing
      exact .turns _ ticket call _ rfl (by simp [pausing])
        (office.bank.resume_eq_or_succeeds attempt call)
  | drop ticket =>
      simp only [step] at stepped
      split at stepped <;> cases stepped
      rename_i call attempt pausing
      exact .drops ticket (by simp [pausing])
  | sweep retention =>
      cases stepped
      exact .passes _ _ _ rfl
  | rest milliseconds =>
      cases stepped
      exact .passes _ _ _ rfl

/-- An answer is final. -/
theorem answered_of_step {ticket : Nat} {result : Except Refusal BankReply}
    (answered : office.calls.find? ticket = some (.answered result))
    (stepped : office.step event = some next) :
    next.calls.find? ticket = some (.answered result) := by
  cases changes_of_step stepped with
  | turns _ other call turn own unanswered writes =>
      have elsewhere : ticket ≠ other := by
        rintro rfl
        exact unanswered result answered
      rw [office.find?_turned_of_ne elsewhere, answered]
  | drops other unanswered =>
      have elsewhere : other ≠ ticket := by
        rintro rfl
        exact unanswered result answered
      simp [elsewhere, answered]
  | passes _ bank now nobody => exact answered

/-- A step of a call that writes anything answers the call with a success. -/
theorem succeeds_of_step {ticket : Nat} (own : event.ticket? = some ticket)
    (stepped : office.step event = some next) :
    next.bank = office.bank ∨
      ∃ reply, next.calls.find? ticket = some (.answered (.ok reply)) := by
  cases changes_of_step stepped with
  | turns _ other call turn ownOther unanswered writes =>
      obtain rfl : other = ticket := Option.some.inj (ownOther.symm.trans own)
      rcases writes with same | ⟨reply, succeeded⟩
      · exact Or.inl same
      · exact Or.inr ⟨reply, by rw [find?_turned, succeeded, CallPhase.after]⟩
  | drops other unanswered => exact Or.inl rfl
  | passes _ bank now nobody =>
      rw [nobody] at own
      cases own

/-! ## A small office -/

/-- The bank of the payer, which makes two attempts, while nobody has called it. -/
def quietOffice : Office where
  bank := { Sample.payerBank with policy := ⟨2, 100⟩ }
  calls := Table.empty
  now := 0

/-- The order to take five units from the payer for a transfer. -/
def debitFor (transfer : String) : LegOrder :=
  ⟨.debit, Sample.payer.account, Sample.payment.amount, ⟨transfer⟩⟩

end Office

end ClearingHouse
