import ClearingHouse.Proofs.Branch.ExactlyOnce

/-!
# What a bank promises with a prepared leg

A bank that has acknowledged a prepare must be able to commit the leg whenever
it is asked to.  This depends on the hold and the balance of an account and on the
record of the leg, which are written apart from each other.  `Bank.Steady` ties
them together, every call and every sweep keeps it, and
`promise_of_runThrough` reads the promise off it.
-/

namespace ClearingHouse

/-- An order that names a transfer and moves something. -/
structure LegOrder.Checked (order : LegOrder) : Prop where
  named : order.transfer.isBlank = false
  positive : order.amount.isZero = false

namespace Account

/-- The amount can be moved on this side of the account. -/
def Covers (account : Account) (amount : Amount) : Side → Prop
  | .debit => amount.minor ≤ account.balance.minor
  | .credit => account.balance.minor + amount.minor ≤ 2 ^ 64 - 1

/-- A balance is what is left after exactly this amount has been moved. -/
def Becomes (account : Account) (amount balance : Amount) : Side → Prop
  | .debit => balance.minor + amount.minor = account.balance.minor
  | .credit => balance.minor = account.balance.minor + amount.minor

variable {account : Account} {amount balance : Amount} {side : Side}

theorem becomes_of_moved (fits : account.moved side amount = .ok balance) :
    account.Becomes amount balance side := by
  cases side with
  | debit => exact minor_of_moved_debit fits
  | credit => exact minor_of_moved_credit fits

theorem Becomes.covers (becomes : account.Becomes amount balance side) :
    account.Covers amount side := by
  have bounded := balance.bounded
  cases side with
  | debit =>
      simp only [Becomes] at becomes
      simp only [Covers]
      omega
  | credit =>
      simp only [Becomes] at becomes
      simp only [Covers]
      omega

end Account

namespace Bank

variable {bank : Bank} {now : Nat}

theorem checked_of_checkOrder {order : LegOrder} {result : Unit}
    (passed : checkOrder order = .ok result) : order.Checked := by
  unfold checkOrder at passed
  split at passed
  · cases passed
  · split at passed
    · cases passed
    · rename_i named positive
      exact ⟨by simpa using named, by simpa using positive⟩

/-! ## Holds and prepared legs -/

/-- The holds on the accounts of a bank could all be applied now, and every
prepared leg has its hold on the account that its record names. -/
structure Steady (bank : Bank) : Prop where
  held : ∀ number account hold,
    bank.accounts.find? number = some account → account.hold = some hold →
      hold.transfer.isBlank = false ∧ hold.amount.isZero = false ∧
        ∃ balance, account.moved hold.side hold.amount = .ok balance
  prepared : ∀ transfer side record, bank.leg transfer side = some record →
    record.status = .prepared →
      ∃ account hold, bank.accounts.find? record.account = some account ∧
        account.hold = some hold ∧ hold.transfer = transfer ∧ hold.side = side

theorem steady_of_unheld
    (unheld : ∀ number, bank.hold? number = none)
    (unknown : ∀ transfer side, bank.leg transfer side = none) :
    bank.Steady where
  held := by
    intro number account hold found isHeld
    have free := unheld number
    simp [hold?, found, isHeld] at free
  prepared := by
    intro transfer side record known
    rw [unknown] at known
    cases known

theorem Steady.taking {order : LegOrder} {account : Account} {balance : Amount}
    (steady : bank.Steady) (checked : order.Checked)
    (found : bank.accounts.find? order.account = some account)
    (free : account.hold = none)
    (fits : account.moved order.side order.amount = .ok balance) :
    (bank.taking order account).Steady := by
  constructor
  · intro number other hold present isHeld
    rw [find?_taking_accounts] at present
    split at present
    · cases present
      cases isHeld
      exact ⟨checked.named, checked.positive, balance, fits⟩
    · exact steady.held number other hold present isHeld
  · intro transfer side record known status
    rw [leg_taking] at known
    split at known
    · rename_i same
      cases same
      cases known
      refine ⟨{ account with hold := some order.hold }, order.hold, ?_, rfl,
        rfl, rfl⟩
      rw [find?_taking_accounts]
      exact if_pos rfl
    · obtain ⟨other, hold, present, isHeld, about⟩ :=
        steady.prepared transfer side record known status
      refine ⟨other, hold, ?_, isHeld, about⟩
      -- The account of another prepared leg is held, and this one was free.
      have elsewhere : order.account ≠ record.account := by
        intro same
        rw [← same, found] at present
        cases present
        rw [free] at isHeld
        cases isHeld
      rw [find?_taking_accounts, if_neg elsewhere]
      exact present

theorem Steady.retaking {order : LegOrder} {account : Account}
    (steady : bank.Steady)
    (found : bank.accounts.find? order.account = some account)
    (isHeld : account.hold = some order.hold) :
    (bank.withLeg order.transfer order.side (.prepared order.account)).Steady
      where
  held := steady.held
  prepared := by
    intro transfer side record known status
    rw [leg_withLeg] at known
    split at known
    · rename_i same
      cases same
      cases known
      exact ⟨account, order.hold, found, isHeld, rfl, rfl⟩
    · exact steady.prepared transfer side record known status

theorem Steady.applying {order : LegOrder} {account : Account}
    {balance : Amount} {record : LegRecord} (steady : bank.Steady)
    (found : bank.accounts.find? order.account = some account)
    (isHeld : account.hold = some order.hold) :
    (bank.applying now order balance record).Steady := by
  constructor
  · intro number other hold present otherHeld
    rw [find?_applying_accounts] at present
    split at present
    · cases present
      cases otherHeld
    · exact steady.held number other hold present otherHeld
  · intro transfer side other known status
    rw [leg_applying] at known
    split at known
    · cases known
      cases status
    · rename_i different
      obtain ⟨account', hold, present, otherHeld, about, onSide⟩ :=
        steady.prepared transfer side other known status
      refine ⟨account', hold, ?_, otherHeld, about, onSide⟩
      -- The hold that goes was the hold of the leg that is applied.
      have elsewhere : order.account ≠ other.account := by
        intro same
        rw [← same, found] at present
        cases present
        rw [isHeld] at otherHeld
        cases otherHeld
        apply different
        rw [← about, ← onSide]
        rfl
      rw [find?_applying_accounts, if_neg elsewhere]
      exact present

theorem prepared_of_unwound {record : LegRecord} {account : AccountNumber}
    (status : (record.unwound now account).status = .prepared) :
    record.unwound now account = record ∧ record.status = .prepared ∧
      record.account ≠ account := by
  unfold LegRecord.unwound at status ⊢
  split at status
  · cases status
  · rename_i stays
    rw [if_neg stays]
    refine ⟨rfl, status, ?_⟩
    intro same
    exact stays ⟨same, status⟩

theorem Steady.releasing {order : ReleaseOrder} {account : Account}
    {hold : Hold} (steady : bank.Steady)
    (found : bank.accounts.find? order.account = some account)
    (isHeld : account.hold = some hold)
    (holder : hold.transfer = order.transfer) :
    (bank.releasing now order account).Steady := by
  constructor
  · intro number other otherHold present otherHeld
    rw [find?_releasing_accounts] at present
    split at present
    · cases present
      cases otherHeld
    · exact steady.held number other otherHold present otherHeld
  · intro transfer side record known status
    -- A leg that is still prepared was so before, and on another account.
    have before : bank.leg transfer side = some record ∧
        record.status = .prepared ∧
        (order.transfer = transfer → record.account ≠ order.account) := by
      rw [leg_releasing] at known
      split at known
      · obtain ⟨former, was, rfl⟩ := Option.map_eq_some_iff.mp known
        obtain ⟨same, wasPrepared, elsewhere⟩ := prepared_of_unwound status
        rw [same]
        exact ⟨was, wasPrepared, fun _ => elsewhere⟩
      · rename_i otherTransfer
        exact ⟨known, status, fun same => absurd same otherTransfer⟩
    obtain ⟨was, wasPrepared, apart⟩ := before
    obtain ⟨other, otherHold, present, otherHeld, about, onSide⟩ :=
      steady.prepared transfer side record was wasPrepared
    refine ⟨other, otherHold, ?_, otherHeld, about, onSide⟩
    have elsewhere : order.account ≠ record.account := by
      intro same
      rw [← same, found] at present
      cases present
      rw [isHeld] at otherHeld
      cases otherHeld
      exact apart (holder.symm.trans about) same.symm
    rw [find?_releasing_accounts, if_neg elsewhere]
    exact present

/-- A call keeps a bank steady, unless it is a prepare of an order that would not
pass the check. -/
theorem Effect.steady {call : BankCall} {result : Bank × Attempt BankReply}
    (effect : bank.Effect now call result)
    (checked : ∀ order, call = .prepare order → order.Checked)
    (steady : bank.Steady) : result.1.Steady := by
  cases effect with
  | prepareRefused order refusal => exact steady
  | prepareAgain order pause number => exact steady
  | prepareKnown order committed => exact steady
  | taken order account balance found free fits =>
      exact steady.taking (checked order rfl) found free fits
  | retaken order account found isHeld => exact steady.retaking found isHeld
  | commitRefused order refusal => exact steady
  | commitKnown order committed => exact steady
  | applied order account balance found isHeld fits prepared preparedStatus
      preparedAccount =>
      exact steady.applying found isHeld
  | releaseRefused order refusal absent => exact steady
  | releaseIdle order account found notHeld => exact steady
  | released order account hold found isHeld holder =>
      exact steady.releasing found isHeld holder
  | told number result => exact steady

theorem Steady.sweep (steady : bank.Steady) (retention : Nat) :
    (bank.sweep now retention).Steady where
  held := steady.held
  prepared := by
    intro transfer side record known status
    have legOf : (bank.sweep now retention).leg transfer side =
        (bank.leg transfer side).filter fun record =>
          record.isKept now retention :=
      Table.find?_retain _ _ _
    rw [legOf] at known
    exact steady.prepared transfer side record
      (Option.filter_eq_some_iff.mp known).1 status

/-! ## The promise -/

/-- The bank stands by an order: the account is held for it and covers it, and a
commit applies exactly this order and touches nothing else. -/
structure Promises (bank : Bank) (now : Nat) (order : LegOrder)
    (account : Account) (balance : Amount) : Prop where
  found : bank.accounts.find? order.account = some account
  held : account.hold = some order.hold
  positive : 0 < order.amount.minor
  covered : account.Covers order.amount order.side
  becomes : account.Becomes order.amount balance order.side
  committed : (bank.commit now order).2 = .ok balance
  accounts : ∀ number,
    (bank.commit now order).1.accounts.find? number =
      if number = order.account then some ⟨balance, none⟩
      else bank.accounts.find? number
  legs : ∀ transfer side, (bank.commit now order).1.leg transfer side =
    if transfer = order.transfer ∧ side = order.side then
      some ⟨order.account, .committed, some now⟩
    else bank.leg transfer side

theorem Steady.promises (steady : bank.Steady) (now : Nat)
    {transfer : TransferId} {side : Side} {record : LegRecord}
    (known : bank.leg transfer side = some record)
    (prepared : record.status = .prepared) :
    ∃ amount account balance,
      bank.Promises now ⟨side, record.account, amount, transfer⟩ account
        balance := by
  obtain ⟨account, hold, found, isHeld, rfl, rfl⟩ :=
    steady.prepared transfer side record known prepared
  obtain ⟨named, positive, balance, fits⟩ :=
    steady.held record.account account hold found isHeld
  let order : LegOrder :=
    ⟨hold.side, record.account, hold.amount, hold.transfer⟩
  have applied : bank.commit now order =
      (bank.applying now order balance record, .ok balance) :=
    commit_of_prepared now named positive known prepared rfl found isHeld fits
  have becomes := Account.becomes_of_moved fits
  refine ⟨hold.amount, account, balance, ?_⟩
  constructor
  · exact found
  · exact isHeld
  · have notZero : hold.amount.minor ≠ 0 := by
      simpa [Amount.isZero] using positive
    exact Nat.pos_of_ne_zero notZero
  · exact becomes.covers
  · exact becomes
  · exact congrArg Prod.snd applied
  · intro number
    rw [show (bank.commit now _).1 = _ from congrArg Prod.fst applied,
      find?_applying_accounts]
    simp only [order, eq_comm]
  · intro other otherSide
    rw [show (bank.commit now _).1 = _ from congrArg Prod.fst applied,
      leg_applying]
    simp only [order, LegRecord.settle, Prod.mk.injEq, eq_comm]

end Bank

namespace Branch

variable {start branch next : Branch}

/-! ## Branches -/

/-- The bank is steady, and the prepares that pause have passed the check. -/
structure Steady (branch : Branch) : Prop where
  bank : branch.bank.Steady
  waiting : ∀ waiting ∈ branch.waiting, waiting.order.Checked

theorem Steady.prepare (steady : branch.Steady) (order : LegOrder) :
    (branch.prepare order).Steady := by
  cases passed : Bank.checkOrder order with
  | error refusal =>
      have refused : branch.bank.prepare order =
          (branch.bank, .finished (.error refusal)) := by
        simp [Bank.prepare, passed]
      have unchanged : branch.prepare order = branch := by
        simp only [Branch.prepare, refused]
      rw [unchanged]
      exact steady
  | ok result =>
      have checked := Bank.checked_of_checkOrder passed
      have bankSteady : (branch.bank.prepare order).1.Steady := by
        apply (effect_prepare branch order).steady _ steady.bank
        rintro asked ⟨⟩
        exact checked
      rcases branch.prepare_cases order with
        answered | ⟨pause, number, again, paused⟩
      · rw [answered]
        exact ⟨bankSteady, steady.waiting⟩
      · rw [paused]
        refine ⟨bankSteady, ?_⟩
        intro waiting member
        rcases List.mem_append.mp member with old | new
        · exact steady.waiting waiting old
        · rw [List.mem_singleton.mp new]
          exact checked

theorem Steady.step {event : Event} (steady : branch.Steady)
    (stepped : branch.step event = some next) : next.Steady := by
  cases event with
  | prepare order =>
      cases stepped
      exact steady.prepare order
  | commit order =>
      cases stepped
      exact ⟨(Bank.effect_commit order).steady (by rintro asked ⟨⟩) steady.bank,
        steady.waiting⟩
  | release order =>
      cases stepped
      exact ⟨(Bank.effect_release order).steady (by rintro asked ⟨⟩) steady.bank,
        steady.waiting⟩
  | resume index =>
      obtain ⟨waiting, found, sameBank, waitingOf⟩ := resume_eq_some stepped
      have checked := steady.waiting waiting (List.mem_of_getElem? found)
      constructor
      · rw [sameBank]
        apply (effect_attempt branch waiting).steady _ steady.bank
        rintro asked ⟨⟩
        exact checked
      · intro later member
        rcases waitingOf later member with old | sameOrder
        · exact steady.waiting later old
        · rw [sameOrder]
          exact checked
  | drop index =>
      cases stepped
      exact ⟨steady.bank, fun waiting member =>
        steady.waiting waiting (List.mem_of_mem_eraseIdx member)⟩
  | sweep retention =>
      cases stepped
      exact ⟨steady.bank.sweep retention, steady.waiting⟩
  | rest milliseconds =>
      cases stepped
      exact ⟨steady.bank, steady.waiting⟩

theorem steady_of_idle (idle : start.waiting = [])
    (unheld : ∀ number, start.bank.hold? number = none)
    (unknown : ∀ transfer side, start.bank.leg transfer side = none) :
    start.Steady where
  bank := Bank.steady_of_unheld unheld unknown
  waiting := by
    intro waiting member
    rw [idle] at member
    cases member

/-- Whatever a bank has been asked since it opened, it can commit every leg that
it remembers as prepared. -/
theorem promise_of_runThrough {events : List Event}
    (idle : start.waiting = [])
    (unheld : ∀ number, start.bank.hold? number = none)
    (unknown : ∀ transfer side, start.bank.leg transfer side = none)
    (ran : runThrough step start events = some branch)
    {transfer : TransferId} {side : Side} {record : LegRecord}
    (known : branch.bank.leg transfer side = some record)
    (prepared : record.status = .prepared) :
    ∃ amount account balance,
      branch.bank.Promises branch.now
        ⟨side, record.account, amount, transfer⟩ account balance := by
  have steady : branch.Steady :=
    invariant_of_runThrough Steady.step (steady_of_idle idle unheld unknown) ran
  exact steady.bank.promises branch.now known prepared

/-- The account is held by another transfer at first, so that the prepare
pauses. -/
def preparedLate : List Event :=
  [.prepare { sampleOrder with transfer := ⟨"t0"⟩ }, .prepare sampleOrder,
    .release ⟨Sample.payer.account, ⟨"t0"⟩⟩, .rest 100, .resume 0,
    .sweep 0]

theorem promise_of_preparedLate :
    ∃ branch account balance,
      runThrough step sample preparedLate = some branch ∧
        branch.bank.Promises 100 sampleOrder account balance ∧
        account.balance.minor = 10000 ∧ balance.minor = 8000 := by
  have unheld : ∀ number, sample.bank.hold? number = none := fun number =>
    Sample.hold?_opening ..
  have ran : runThrough step sample preparedLate = some _ := rfl
  obtain ⟨amount, account, balance, promises⟩ :=
    promise_of_runThrough rfl unheld (fun _ _ => rfl) ran
      (show Bank.leg _ sampleOrder.transfer .debit = some _ from rfl) rfl
  have found := promises.found
  have held := promises.held
  cases found
  cases held
  refine ⟨_, _, balance, ran, promises, rfl, ?_⟩
  have becomes := promises.becomes
  simp only [Account.Becomes] at becomes
  exact Nat.add_right_cancel becomes

end Branch

end ClearingHouse
