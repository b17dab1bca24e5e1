import ClearingHouse.Proofs.Hall.Wealth

/-!
# What can fail in a hall

A bank has reasons not to prepare a leg, but in a hall no bank has a reason not
to commit one.  So a transfer fails only for what the parties' accounts are, or
because an account was held for too long.  `failsOrderly_of_runThrough` collects
what this means for the calls, for the callers and for the journal.
-/

namespace ClearingHouse

/-- Whether a bank may refuse to prepare a leg for this reason. -/
def Refusal.isOrdinary : Refusal → Bool
  | .unknownAccount _ | .insufficientFunds | .tooLarge | .busy => true
  | .invalidRequest _ | .violation _ => false

namespace TransferFailure

/-- Whether the accounts of the parties do not allow the transfer. -/
def isRejection : TransferFailure → Bool
  | .unknownAccount _ | .insufficientFunds | .tooLarge => true
  | _ => false

/-- Whether the accounts do not allow the transfer, or are held. -/
def isOrdinary : TransferFailure → Bool
  | .busy | .timeout => true
  | failure => failure.isRejection

/-- Whether the banks have got out of step with the settlement. -/
def isBreakdown : TransferFailure → Bool
  | .violation _ | .commitIncomplete _ => true
  | _ => false

theorem isOrdinary_ofRefusal {refusal : Refusal}
    (ordinary : refusal.isOrdinary = true) (bank : BankName) :
    (ofCallFailure bank (.refused refusal)).isOrdinary = true := by
  cases refusal with
  | invalidRequest detail | violation detail => cases ordinary
  | _ => rfl

theorem isRejection_of_isOrdinary {failure : TransferFailure}
    (ordinary : failure.isOrdinary = true)
    (final : failure.isRetryable = false) : failure.isRejection = true := by
  cases failure with
  | busy | timeout => cases final
  | _ => exact ordinary

theorem not_isBreakdown_of_isOrdinary {failure : TransferFailure}
    (ordinary : failure.isOrdinary = true) : failure.isBreakdown = false := by
  cases failure with
  | violation detail | commitIncomplete detail => cases ordinary
  | _ => rfl

theorem isOrdinary_of_isRejection {failure : TransferFailure}
    (rejection : failure.isRejection = true) : failure.isOrdinary = true := by
  cases failure with
  | busy | timeout => cases rejection
  | _ => exact rejection

end TransferFailure

namespace Bank

variable {bank : Bank} {refusal : Refusal}

/-! ## Refusals to prepare -/

theorem isOrdinary_of_moved {account : Account} {side : Side} {amount : Amount}
    (refused : account.moved side amount = .error refusal) :
    refusal.isOrdinary = true := by
  unfold Account.moved at refused
  cases side with
  | debit =>
      cases left : account.balance.sub? amount with
      | some balance => simp [left] at refused
      | none =>
          simp only [left] at refused
          cases refused
          rfl
  | credit =>
      cases sum : account.balance.add? amount with
      | some balance => simp [sum] at refused
      | none =>
          simp only [sum] at refused
          cases refused
          rfl

theorem eq_unknownAccount_of_account {number : AccountNumber}
    (absent : bank.account number = .error refusal) :
    refusal = .unknownAccount number.text := by
  unfold Bank.account at absent
  split at absent
  · cases absent
  · cases absent
    rfl

theorem isOrdinary_of_takeHold {number : AccountNumber} {hold : Hold}
    (refused : bank.takeHold number hold = .error refusal) :
    refusal.isOrdinary = true := by
  unfold takeHold at refused
  cases found : bank.account number with
  | error missing =>
      simp only [found, bind, Except.bind] at refused
      cases refused
      rw [eq_unknownAccount_of_account found]
      rfl
  | ok account =>
      simp only [found, bind, Except.bind] at refused
      cases held : account.hold with
      | some other =>
          by_cases same : other = hold
          · simp [held, same] at refused
          · simp only [held, same, if_false] at refused
            cases refused
            rfl
      | none =>
          cases fits : account.moved hold.side hold.amount with
          | error missing =>
              simp only [held, fits] at refused
              cases refused
              exact isOrdinary_of_moved fits
          | ok balance => simp [held, fits] at refused

theorem isOrdinary_of_attemptPrepare {order : LegOrder} {number : Nat}
    (refused : (bank.attemptPrepare order number).2 =
      .finished (.error refusal)) : refusal.isOrdinary = true := by
  unfold attemptPrepare attemptHold at refused
  cases taken : bank.takeHold order.account order.hold with
  | ok pair => simp [taken] at refused
  | error missing =>
      by_cases again : missing = .busy ∧ number < bank.allowedAttempts
      · simp [taken, again] at refused
      · simp only [taken, again, if_false] at refused
        cases refused
        exact isOrdinary_of_takeHold taken

theorem isOrdinary_of_prepare {order : LegOrder}
    (named : order.transfer.isBlank = false)
    (positive : order.amount.isZero = false)
    (refused : (bank.prepare order).2 = .finished (.error refusal)) :
    refusal.isOrdinary = true := by
  have passed : checkOrder order = .ok () := by
    simp [checkOrder, named, positive]
  unfold prepare at refused
  rw [passed] at refused
  by_cases committed :
      bank.legStatus order.transfer order.side = some .committed
  · simp [committed] at refused
  · simp only [committed, if_false] at refused
    exact isOrdinary_of_attemptPrepare refused

theorem eq_finished_of_map {α β : Type} {f : α → β} {attempt : Attempt α}
    (refused : attempt.map f = .finished (.error refusal)) :
    attempt = .finished (.error refusal) := by
  cases attempt with
  | finished result =>
      cases result with
      | ok value => cases refused
      | error other =>
          cases refused
          rfl
  | again pause number => cases refused

end Bank

/-! ## Failures of settlements -/

namespace RunPhase

/-- The failures that a phase names are ordinary, and one that is to be stored is
a rejection. -/
def IsOrdinary : RunPhase → Prop
  | .calling (.releaseDebit cause _) => cause.isOrdinary = true
  | .calling (.releaseCredit cause) => cause.isOrdinary = true
  | .calling _ => True
  | .concluding (.settled (.error failure)) => failure.isRejection = true
  | .concluding (.dropped failure) => failure.isOrdinary = true
  | .concluding (.settled (.ok _)) => True
  | .ended (.error failure) => failure.isOrdinary = true
  | .ended (.ok _) => True

theorem isOrdinary_abandoned {cause : TransferFailure}
    (ordinary : cause.isOrdinary = true) :
    (concluding (Settlement.abandoned cause)).IsOrdinary := by
  unfold Settlement.abandoned
  by_cases retryable : cause.isRetryable = true
  · rw [if_pos retryable]
    exact ordinary
  · rw [if_neg retryable]
    exact TransferFailure.isRejection_of_isOrdinary ordinary
      (by simpa using retryable)

/-- A settlement whose commits are acknowledged and whose prepares fail
ordinarily goes on ordinarily. -/
theorem isOrdinary_entering {transfer : Transfer} {stage : Settlement.Stage}
    {answer : Except TransferFailure Unit}
    (before : (calling stage).IsOrdinary)
    (prepares : stage.Pauses → ∀ failure, answer = .error failure →
      failure.isOrdinary = true)
    (commits : stage = .commitDebit ∨ stage = .commitCredit →
      answer = .ok ()) :
    (entering (Settlement.next transfer stage answer)).IsOrdinary := by
  cases stage with
  | prepareDebit =>
      cases answer with
      | ok done => trivial
      | error cause =>
          have ordinary := prepares (Or.inl rfl) cause rfl
          simp only [Settlement.next]
          split
          · exact ordinary
          · exact isOrdinary_abandoned ordinary
  | prepareCredit =>
      cases answer with
      | ok done => trivial
      | error cause => exact prepares (Or.inr rfl) cause rfl
  | releaseDebit cause creditNext =>
      cases creditNext with
      | true => cases answer <;> exact before
      | false => cases answer <;> exact isOrdinary_abandoned before
  | releaseCredit cause => cases answer <;> exact isOrdinary_abandoned before
  | commitDebit =>
      rw [commits (Or.inl rfl)]
      trivial
  | commitCredit =>
      rw [commits (Or.inr rfl)]
      trivial

theorem isOrdinary_ended {conclusion : Settlement.Conclusion}
    (before : (concluding conclusion).IsOrdinary) :
    (ended conclusion.outcome).IsOrdinary := by
  cases conclusion with
  | dropped failure => exact before
  | settled outcome =>
      cases outcome with
      | ok receipt => trivial
      | error failure => exact TransferFailure.isOrdinary_of_isRejection before

end RunPhase

theorem House.not_isBreakdown_of_check {house : House} {transfer : Transfer}
    {failure : TransferFailure}
    (refused : house.check transfer = .error failure) :
    failure.isBreakdown = false := by
  have ofResolve : ∀ name unknown, house.roster.resolve name = .error unknown →
      unknown.isBreakdown = false := by
    intro name unknown missing
    unfold Roster.resolve at missing
    split at missing
    · cases missing
    · cases missing
      rfl
  unfold check at refused
  split at refused
  · cases refused
    rfl
  split at refused
  · cases refused
    rfl
  split at refused
  · cases refused
    rfl
  cases sender : house.roster.resolve transfer.sender.bank with
  | error unknown =>
      simp only [sender, bind, Except.bind] at refused
      cases refused
      exact ofResolve _ _ sender
  | ok connection =>
      cases recipient : house.roster.resolve transfer.recipient.bank with
      | error unknown =>
          simp only [sender, recipient, bind, Except.bind] at refused
          cases refused
          exact ofResolve _ _ recipient
      | ok other =>
          simp [sender, recipient, bind, Except.bind, pure, Except.pure]
            at refused

namespace Floor

variable {floor : Floor}

/-- Settlements fail for ordinary reasons, and the journal has stored nothing but
rejections. -/
structure Ordinary (floor : Floor) : Prop where
  phases : ∀ (number : Nat) (run : SettlementRun),
    floor.runs[number]? = some run → run.phase.IsOrdinary
  entries : ∀ id entry failure, floor.entryOf? id = some entry →
    entry.outcome = some (.error failure) → failure.isRejection = true

theorem ordinary_of_isOpening (opening : floor.IsOpening) : floor.Ordinary where
  phases := by
    intro number run found
    simp [opening.runs] at found
  entries := by
    intro id entry failure present
    simp [Floor.entryOf?, opening.journal] at present

theorem Ordinary.withRun {number : Nat} {run changed : SettlementRun}
    (ordinary : floor.Ordinary) (found : floor.runs[number]? = some run)
    (phase : changed.phase.IsOrdinary) :
    (floor.withRun number changed).Ordinary where
  phases := by
    intro other current present
    rcases run_of_withRun found present with ⟨rfl, rfl⟩ | ⟨-, was⟩
    · exact phase
    · exact ordinary.phases other current was
  entries := ordinary.entries

theorem Ordinary.order (ordinary : floor.Ordinary) (transfer : Transfer) :
    (floor.order transfer).1.Ordinary := by
  rcases floor.order_cases transfer with
    ⟨outcome, answered⟩ | ⟨checked, absent, accepted⟩
  · rw [answered]
    exact ordinary
  · rw [accepted]
    constructor
    · intro number run present
      rcases run_of_started present with old | ⟨-, rfl⟩
      · exact ordinary.phases number run old
      · trivial
    · intro id entry failure present stored
      rw [entryOf?_started] at present
      split at present
      · cases present
        cases stored
      · exact ordinary.entries id entry failure present stored

theorem Ordinary.conclude {next : Floor} {number : Nat}
    (ordinary : floor.Ordinary) (sound : floor.Sound)
    (concluded : floor.conclude number = some next) : next.Ordinary := by
  obtain ⟨run, conclusion, found, concluding, rfl⟩ :=
    conclude_eq_some concluded
  have live := isLive_of_concluding found concluding
  have entryOf := entryOf?_ended (sound.live number run live) number conclusion
  have before := ordinary.phases number run found
  rw [concluding] at before
  constructor
  · intro other current present
    rcases run_of_withRun found present with ⟨rfl, rfl⟩ | ⟨-, was⟩
    · exact RunPhase.isOrdinary_ended before
    · exact ordinary.phases other current was
  · intro id entry failure present stored
    rw [entryOf] at present
    split at present
    · cases conclusion with
      | dropped cause => cases present
      | settled outcome =>
          cases present
          cases stored
          exact before
    · exact ordinary.entries id entry failure present stored

theorem Ordinary.leave {next : Floor} {number : Nat}
    (ordinary : floor.Ordinary) (left : floor.leave number = some next) :
    next.Ordinary := by
  obtain ⟨run, found, rfl⟩ := leave_eq_some left
  exact ordinary.withRun found (ordinary.phases number run found)

theorem Ordinary.not_isBreakdown_of_order {transfer : Transfer}
    {failure : TransferFailure} (ordinary : floor.Ordinary)
    (answered : (floor.order transfer).2 = .answered (.error failure)) :
    failure.isBreakdown = false := by
  unfold Floor.order at answered
  cases passed : floor.house.check transfer with
  | error refusal =>
      rw [House.receive_of_refused passed] at answered
      cases answered
      exact House.not_isBreakdown_of_check passed
  | ok done =>
      cases present : floor.house.journal.entryOf? transfer.id with
      | none =>
          rw [House.receive_of_absent passed present] at answered
          cases answered
      | some entry =>
          cases ended : entry.outcome with
          | none =>
              rw [House.receive_of_running passed present ended] at answered
              cases answered
              rfl
          | some outcome =>
              rw [House.receive_of_settled passed present ended] at answered
              cases answered
              exact TransferFailure.not_isBreakdown_of_isOrdinary
                (TransferFailure.isOrdinary_of_isRejection
                  (ordinary.entries transfer.id entry failure present ended))

end Floor

namespace Hall

variable {hall next : Hall} {number : Nat}

/-- The turn of a bank that the call of a settlement reaches, or that goes on with
it after a pause. -/
def turn (hall : Hall) (number : Nat) (bank : Bank) (call : BankCall) :
    Bank × Bank.Attempt BankReply :=
  match hall.pauses number with
  | none => bank.receive hall.floor.now call
  | some attempt => bank.resume attempt call

theorem isOrdinary_of_turn {bank : Bank} {transfer : Transfer}
    {stage : Settlement.Stage} {refusal : Refusal} (checked : transfer.Checked)
    (pauses : stage.Pauses)
    (refused : (hall.turn number bank (stage.call transfer)).2 =
      .finished (.error refusal)) : refusal.isOrdinary = true := by
  -- Both prepares are orders for a leg of the transfer.
  have asked : ∃ side, stage.call transfer =
      .prepare (transfer.legOrder side) := by
    rcases pauses with rfl | rfl
    · exact ⟨.debit, rfl⟩
    · exact ⟨.credit, rfl⟩
  obtain ⟨side, isPrepare⟩ := asked
  unfold turn at refused
  rw [isPrepare] at refused
  split at refused
  · exact Bank.isOrdinary_of_prepare checked.named checked.positive
      (Bank.eq_finished_of_map refused)
  · exact Bank.isOrdinary_of_attemptPrepare (Bank.eq_finished_of_map refused)

theorem Sound.commit_succeeds {run : SettlementRun} {stage : Settlement.Stage}
    (sound : hall.Sound false) (found : hall.floor.runs[number]? = some run)
    (calling : run.phase = .calling stage)
    (commits : stage = .commitDebit ∨ stage = .commitCredit) :
    ∃ bank, Table.find? hall.banks (stage.bank run.transfer) = some bank ∧
      (hall.turn number bank (stage.call run.transfer)).2 =
        .finished (.ok .done) := by
  obtain ⟨standing, allowed, stands⟩ :=
    sound.stand_of_calling found calling stage.side
  have isHeld : standing = .held := by
    rcases commits with rfl | rfl <;> exact allowed
  obtain ⟨account, present, -⟩ :=
    Banks.hold?_eq_some.mp (stands.held isHeld).1
  obtain ⟨bank, here, -⟩ := Option.bind_eq_some_iff.mp present
  exact ⟨bank, here, (sound.turn_of_call found calling here rfl).2 commits⟩

theorem Sound.ordinary_call (sound : hall.Sound false)
    (ordinary : hall.floor.Ordinary)
    (called : hall.call number = some next) : next.floor.Ordinary := by
  obtain ⟨run, stage, bank, found, calling, present, digested⟩ :=
    call_eq_some called
  have before := ordinary.phases number run found
  rw [calling] at before
  have turned : hall.digest number (stage.bank run.transfer)
      (hall.turn number bank (stage.call run.transfer)) = some next := digested
  rcases digest_eq_some turned with
    ⟨answer, floor, heard, answered, rfl⟩ | ⟨pause, later, again, rfl⟩
  · rw [Floor.answer_of_calling found calling] at answered
    cases answered
    apply ordinary.withRun found
    apply RunPhase.isOrdinary_entering before
    · rintro pauses failure rfl
      have checked := sound.floor.checked number run found
      generalize attempted :
        (hall.turn number bank (stage.call run.transfer)).2 = attempt at heard
      cases heard with
      | refused refusal =>
          exact TransferFailure.isOrdinary_ofRefusal
            (isOrdinary_of_turn checked pauses attempted) _
    · intro commits
      have acknowledged :
          (hall.turn number bank (stage.call run.transfer)).2 =
            .finished (.ok .done) :=
        (sound.turn_of_call found calling present rfl).2 commits
      rw [acknowledged] at heard
      cases heard
      rfl
  · exact ordinary

theorem Sound.ordinary_expire (sound : hall.Sound false)
    (ordinary : hall.floor.Ordinary)
    (expired : hall.expire number = some next) : next.floor.Ordinary := by
  obtain ⟨attempt, floor, pause, answered, rfl⟩ := expire_eq_some expired
  obtain ⟨run, stage, found, calling, rfl⟩ := Floor.answer_eq_some answered
  have before := ordinary.phases number run found
  rw [calling] at before
  have pauses := sound.pauses_of_calling found calling pause
  apply ordinary.withRun found
  apply RunPhase.isOrdinary_entering before
  · rintro - failure ⟨⟩
    rfl
  · -- A commit never pauses, so it is not given up either.
    rcases pauses with rfl | rfl
    · rintro (⟨⟨⟩⟩ | ⟨⟨⟩⟩)
    · rintro (⟨⟨⟩⟩ | ⟨⟨⟩⟩)

theorem Sound.ordinary_step {event : Event} (sound : hall.Sound false)
    (ordinary : hall.floor.Ordinary) (keeps : ¬ event.Forgets false)
    (stepped : hall.step event = some next) : next.floor.Ordinary := by
  cases event with
  | order transfer =>
      cases stepped
      exact ordinary.order transfer
  | call number => exact sound.ordinary_call ordinary stepped
  | expire number => exact sound.ordinary_expire ordinary stepped
  | conclude number =>
      obtain ⟨floor, concluded, rfl⟩ := Option.map_eq_some_iff.mp stepped
      exact ordinary.conclude sound.floor concluded
  | leave number =>
      obtain ⟨floor, left, rfl⟩ := Option.map_eq_some_iff.mp stepped
      exact ordinary.leave left
  | sweepJournal retention => exact absurd trivial keeps
  | sweepLegs name retention =>
      obtain ⟨bank, found, rfl⟩ := Option.map_eq_some_iff.mp stepped
      exact ordinary
  | rest milliseconds =>
      cases stepped
      exact ⟨ordinary.phases, ordinary.entries⟩

/-- What can fail in a hall is a prepare, for an ordinary reason. -/
structure FailsOrderly (hall : Hall) : Prop where
  /-- A commit that is to be sent reaches a bank that acknowledges it. -/
  commits : ∀ number run stage, hall.floor.runs[number]? = some run →
    run.phase = .calling stage →
      stage = .commitDebit ∨ stage = .commitCredit →
        ∃ bank, Table.find? hall.banks (stage.bank run.transfer) = some bank ∧
          (hall.turn number bank (stage.call run.transfer)).2 =
            .finished (.ok .done)
  prepares : ∀ number run stage bank refusal,
    hall.floor.runs[number]? = some run → run.phase = .calling stage →
      stage.Pauses →
        Table.find? hall.banks (stage.bank run.transfer) = some bank →
          (hall.turn number bank (stage.call run.transfer)).2 =
            .finished (.error refusal) → refusal.isOrdinary = true
  /-- What callers are told when they order, or when the settlement has ended. -/
  answers : ∀ transfer failure,
    (hall.floor.order transfer).2 = .answered (.error failure) →
      failure.isBreakdown = false
  outcomes : ∀ (number : Nat) (run : SettlementRun) (failure : TransferFailure),
    hall.floor.runs[number]? = some run → run.phase = .ended (.error failure) →
      failure.isBreakdown = false
  entries : ∀ id entry, hall.floor.entryOf? id = some entry →
    entry.status = .failed → ∃ failure,
      entry.outcome = some (.error failure) ∧ failure.isRejection = true

theorem Sound.failsOrderly (sound : hall.Sound false)
    (ordinary : hall.floor.Ordinary) : hall.FailsOrderly where
  commits := fun number run stage found calling commits =>
    sound.commit_succeeds found calling commits
  prepares := by
    intro number run stage bank refusal found calling pauses present refused
    exact isOrdinary_of_turn (sound.floor.checked number run found) pauses
      refused
  answers := fun transfer failure answered =>
    ordinary.not_isBreakdown_of_order answered
  outcomes := by
    intro number run failure found ended
    have phase := ordinary.phases number run found
    rw [ended] at phase
    exact TransferFailure.not_isBreakdown_of_isOrdinary phase
  entries := by
    intro id entry present failed
    have wellFormed := (sound.floor.entries id entry present).2
    cases wellFormed with
    | running transfer => cases failed
    | succeeded transfer settledAt => cases failed
    | failed transfer failure settledAt storable =>
        exact ⟨failure, rfl, ordinary.entries id _ failure present rfl⟩

/-- Whatever happens in a hall, commits are acknowledged, prepares are refused
for ordinary reasons only, and no breakdown is told or stored. -/
theorem failsOrderly_of_runThrough {start final : Hall} {events : List Event}
    (opening : start.IsOpening)
    (keeps : ∀ event ∈ events, ¬ event.Forgets false)
    (ran : runThrough step start events = some final) :
    final.FailsOrderly := by
  have kept : ∀ {hall next : Hall} {event : Event},
      hall.Sound false ∧ hall.floor.Ordinary → ¬ event.Forgets false →
        hall.step event = some next →
          next.Sound false ∧ next.floor.Ordinary :=
    fun before keeps stepped => ⟨before.1.step keeps stepped,
      before.1.ordinary_step before.2 keeps stepped⟩
  have atStart : start.Sound false ∧ start.floor.Ordinary :=
    ⟨sound_of_isOpening opening, Floor.ordinary_of_isOpening opening.floor⟩
  obtain ⟨sound, ordinary⟩ :=
    invariant_of_runThrough_of_forall kept keeps atStart ran
  exact sound.failsOrderly ordinary

/-- A payment of more than there is on the account. -/
def overdraft : Transfer :=
  { Sample.payment with id := ⟨"t2"⟩, amount := ⟨20000, by decide⟩ }

/-- An overdraft has failed, and another payment is about to be committed. -/
theorem failsOrderly_of_overdraft :
    ∃ hall bank,
      runThrough step sample [.order overdraft, .call 0, .conclude 0,
          .order Sample.payment, .call 1, .call 1] = some hall ∧
        hall.FailsOrderly ∧
        (hall.floor.entryOf? overdraft.id).bind JournalEntry.outcome =
          some (.error .insufficientFunds) ∧
        Table.find? hall.banks Sample.payer.bank = some bank ∧
        (hall.turn 1 bank
          (.commit (Sample.payment.legOrder .debit))).2 =
            .finished (.ok .done) := by
  have ran : runThrough step sample [.order overdraft, .call 0, .conclude 0,
      .order Sample.payment, .call 1, .call 1] = some _ := rfl
  have keeps : ∀ event ∈ [Event.order overdraft, .call 0, .conclude 0,
      .order Sample.payment, .call 1, .call 1], ¬ event.Forgets false := by
    simp [Event.Forgets]
  exact ⟨_, _, ran, failsOrderly_of_runThrough isOpening_sample keeps ran, rfl,
    rfl, rfl⟩

end Hall

end ClearingHouse
