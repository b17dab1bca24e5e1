import ClearingHouse.Bank.Call

/-!
# What a call does to a bank

A call leaves its bank alone, takes a hold, applies a leg, or unwinds what a
transfer has prepared.  `Bank.Effect` lists these possibilities with all that
is known about the bank in each of them, and every call that is received or
taken up again has one of these effects.  Later statements about banks split
on the effects and never look into the orders again.
-/

namespace ClearingHouse

namespace LegRecord

/-- The record after a release of what is prepared on an account. -/
def unwound (record : LegRecord) (now : Nat) (account : AccountNumber) :
    LegRecord :=
  if record.account = account ∧ record.status = .prepared then
    record.settle now .released
  else record

end LegRecord

namespace Bank

/-- The bank after an order has taken a free account. -/
def taking (bank : Bank) (order : LegOrder) (account : Account) : Bank :=
  (bank.withAccount order.account
    { account with hold := some order.hold }).withLeg order.transfer order.side
      (.prepared order.account)

/-- The bank after a leg has been applied. -/
def applying (bank : Bank) (now : Nat) (order : LegOrder) (balance : Amount)
    (record : LegRecord) : Bank :=
  (bank.withAccount order.account ⟨balance, none⟩).withLeg order.transfer
    order.side (record.settle now .committed)

def releasing (bank : Bank) (now : Nat) (order : ReleaseOrder)
    (account : Account) : Bank :=
  ((bank.withAccount order.account { account with hold := none }).releaseLeg
    now order .debit).releaseLeg now order .credit

/-! ## What the changed banks hold

Accounts and legs are looked up in the changed banks through these lemmas. -/

@[simp]
theorem find?_taking_accounts (bank : Bank) (order : LegOrder)
    (account : Account) (number : AccountNumber) :
    (bank.taking order account).accounts.find? number =
      if order.account = number then
        some { account with hold := some order.hold }
      else bank.accounts.find? number := by
  simp [taking, withAccount, withLeg]

@[simp]
theorem leg_withLeg (bank : Bank) (transfer other : TransferId)
    (side otherSide : Side) (record : LegRecord) :
    (bank.withLeg transfer side record).leg other otherSide =
      if (transfer, side) = (other, otherSide) then some record
      else bank.leg other otherSide := by
  simp [leg, withLeg]

@[simp]
theorem withLeg_withLeg (bank : Bank) (transfer : TransferId) (side : Side)
    (old record : LegRecord) :
    (bank.withLeg transfer side old).withLeg transfer side record =
      bank.withLeg transfer side record := by
  simp only [withLeg, Table.insert_insert]

@[simp]
theorem accounts_withLeg (bank : Bank) (transfer : TransferId) (side : Side)
    (record : LegRecord) :
    (bank.withLeg transfer side record).accounts = bank.accounts := rfl

@[simp]
theorem leg_withAccount (bank : Bank) (number : AccountNumber)
    (account : Account) (transfer : TransferId) (side : Side) :
    (bank.withAccount number account).leg transfer side =
      bank.leg transfer side := rfl

@[simp]
theorem leg_taking (bank : Bank) (order : LegOrder) (account : Account)
    (transfer : TransferId) (side : Side) :
    (bank.taking order account).leg transfer side =
      if (order.transfer, order.side) = (transfer, side) then
        some (.prepared order.account)
      else bank.leg transfer side := by
  simp [taking]

@[simp]
theorem find?_applying_accounts (bank : Bank) (now : Nat) (order : LegOrder)
    (balance : Amount) (record : LegRecord) (number : AccountNumber) :
    (bank.applying now order balance record).accounts.find? number =
      if order.account = number then some ⟨balance, none⟩
      else bank.accounts.find? number := by
  simp [applying, withAccount]

@[simp]
theorem leg_applying (bank : Bank) (now : Nat) (order : LegOrder)
    (balance : Amount) (record : LegRecord) (transfer : TransferId)
    (side : Side) :
    (bank.applying now order balance record).leg transfer side =
      if (order.transfer, order.side) = (transfer, side) then
        some (record.settle now .committed)
      else bank.leg transfer side := by
  simp [applying]

@[simp]
theorem accounts_releaseLeg (bank : Bank) (now : Nat) (order : ReleaseOrder)
    (side : Side) :
    (bank.releaseLeg now order side).accounts = bank.accounts := by
  unfold releaseLeg
  split
  · split <;> rfl
  · rfl

theorem leg_releaseLeg (bank : Bank) (now : Nat) (order : ReleaseOrder)
    (transfer : TransferId) (side released : Side) :
    (bank.releaseLeg now order released).leg transfer side =
      if (order.transfer, released) = (transfer, side) then
        (bank.leg transfer side).map fun record =>
          record.unwound now order.account
      else bank.leg transfer side := by
  unfold releaseLeg
  by_cases same : (order.transfer, released) = (transfer, side)
  · cases same
    cases known : bank.leg order.transfer side with
    | none => simp [known]
    | some record =>
        obtain ⟨account, status, settledAt⟩ := record
        cases status <;> by_cases here : account = order.account <;>
          simp [here, LegRecord.unwound, LegStatus.canBecome,
            LegStatus.isFinal, known]
  · simp only [same, if_false]
    split
    · split
      · simp [same]
      · rfl
    · rfl

@[simp]
theorem find?_releasing_accounts (bank : Bank) (now : Nat)
    (order : ReleaseOrder) (account : Account) (number : AccountNumber) :
    (bank.releasing now order account).accounts.find? number =
      if order.account = number then some { account with hold := none }
      else bank.accounts.find? number := by
  simp [releasing, withAccount]

@[simp]
theorem leg_releasing (bank : Bank) (now : Nat) (order : ReleaseOrder)
    (account : Account) (transfer : TransferId) (side : Side) :
    (bank.releasing now order account).leg transfer side =
      if order.transfer = transfer then
        (bank.leg transfer side).map fun record =>
          record.unwound now order.account
      else bank.leg transfer side := by
  simp only [releasing, leg_releaseLeg, leg_withAccount]
  by_cases same : order.transfer = transfer
  · cases side <;> simp [same]
  · simp [same]

/-! ## Effects -/

/-- The possible effects of a call: the bank afterwards, and what the call comes
to. -/
inductive Effect (bank : Bank) (now : Nat) :
    BankCall → Bank × Attempt BankReply → Prop where
  | prepareRefused (order : LegOrder) (refusal : Refusal) :
      Effect bank now (.prepare order) (bank, .finished (.error refusal))
  /-- Another transfer holds the account, and there is another attempt. -/
  | prepareAgain (order : LegOrder) (pause number : Nat) :
      Effect bank now (.prepare order) (bank, .again pause number)
  /-- The leg has been committed before. -/
  | prepareKnown (order : LegOrder)
      (committed : bank.legStatus order.transfer order.side =
        some .committed) :
      Effect bank now (.prepare order) (bank, .finished (.ok .done))
  | taken (order : LegOrder) (account : Account) (balance : Amount)
      (found : bank.accounts.find? order.account = some account)
      (free : account.hold = none)
      (fits : account.moved order.side order.amount = .ok balance) :
      Effect bank now (.prepare order)
        (bank.taking order account, .finished (.ok .done))
  /-- The very hold was there already. -/
  | retaken (order : LegOrder) (account : Account)
      (found : bank.accounts.find? order.account = some account)
      (held : account.hold = some order.hold) :
      Effect bank now (.prepare order)
        (bank.withLeg order.transfer order.side (.prepared order.account),
          .finished (.ok .done))
  | commitRefused (order : LegOrder) (refusal : Refusal) :
      Effect bank now (.commit order) (bank, .finished (.error refusal))
  | commitKnown (order : LegOrder)
      (committed : bank.legStatus order.transfer order.side =
        some .committed) :
      Effect bank now (.commit order) (bank, .finished (.ok .done))
  | applied (order : LegOrder) (account : Account) (balance : Amount)
      (found : bank.accounts.find? order.account = some account)
      (held : account.hold = some order.hold)
      (fits : account.moved order.side order.amount = .ok balance)
      (prepared : bank.leg order.transfer order.side =
        some (record : LegRecord))
      (preparedStatus : record.status = .prepared)
      (preparedAccount : record.account = order.account) :
      Effect bank now (.commit order)
        (bank.applying now order balance record, .finished (.ok .done))
  | releaseRefused (order : ReleaseOrder) (refusal : Refusal)
      (absent : bank.accounts.find? order.account = none) :
      Effect bank now (.release order) (bank, .finished (.error refusal))
  /-- The transfer does not hold the account. -/
  | releaseIdle (order : ReleaseOrder) (account : Account)
      (found : bank.accounts.find? order.account = some account)
      (notHeld : ∀ hold, account.hold = some hold →
        hold.transfer ≠ order.transfer) :
      Effect bank now (.release order) (bank, .finished (.ok .done))
  | released (order : ReleaseOrder) (account : Account) (hold : Hold)
      (found : bank.accounts.find? order.account = some account)
      (held : account.hold = some hold)
      (holder : hold.transfer = order.transfer) :
      Effect bank now (.release order)
        (bank.releasing now order account, .finished (.ok .done))
  | told (number : AccountNumber) (result : Except Refusal BankReply) :
      Effect bank now (.balance number) (bank, .finished result)

variable {bank : Bank} {now : Nat}

theorem account_eq_ok {number : AccountNumber} {account : Account}
    (found : bank.account number = .ok account) :
    bank.accounts.find? number = some account := by
  unfold Bank.account at found
  split at found
  · rename_i present
    cases found
    exact present
  · cases found

theorem account_of_find? {number : AccountNumber} {account : Account}
    (found : bank.accounts.find? number = some account) :
    bank.account number = .ok account := by
  simp only [Bank.account, found]

theorem takeHold_eq_ok {number : AccountNumber} {hold : Hold}
    {outcome : HoldOutcome} {next : Bank}
    (taken : bank.takeHold number hold = .ok (outcome, next)) :
    ∃ account, bank.accounts.find? number = some account ∧
      ((account.hold = some hold ∧ next = bank) ∨
        (account.hold = none ∧
          (∃ balance, account.moved hold.side hold.amount = .ok balance) ∧
          next = bank.withAccount number { account with hold := some hold })) := by
  unfold takeHold at taken
  cases found : bank.account number with
  | error refusal => simp [found, bind, Except.bind] at taken
  | ok account =>
      refine ⟨account, account_eq_ok found, ?_⟩
      simp only [found, bind, Except.bind] at taken
      cases held : account.hold with
      | some other =>
          by_cases same : other = hold
          · subst same
            simp only [held, if_true] at taken
            cases taken
            exact Or.inl ⟨rfl, rfl⟩
          · simp [held, same] at taken
      | none =>
          cases fits : account.moved hold.side hold.amount with
          | error refusal => simp [held, fits] at taken
          | ok balance =>
              simp only [held, fits] at taken
              cases taken
              exact Or.inr ⟨rfl, ⟨balance, rfl⟩, rfl⟩

/-- What becomes of one attempt to prepare a leg. -/
theorem effect_attemptPrepare (order : LegOrder) (number : Nat) :
    Effect bank now (.prepare order)
      ((bank.attemptPrepare order number).1,
        (bank.attemptPrepare order number).2.map fun _ => .done) := by
  unfold attemptPrepare attemptHold
  cases taken : bank.takeHold order.account order.hold with
  | error refusal =>
      by_cases again : refusal = .busy ∧ number < bank.allowedAttempts
      · simp only [again, and_self, if_true]
        exact .prepareAgain ..
      · simp only [again, if_false]
        exact .prepareRefused ..
  | ok pair =>
      obtain ⟨outcome, next⟩ := pair
      obtain ⟨account, found, held | free⟩ := takeHold_eq_ok taken
      · obtain ⟨held, rfl⟩ := held
        exact .retaken order account found held
      · obtain ⟨free, ⟨balance, fits⟩, rfl⟩ := free
        exact .taken order account balance found free fits

theorem effect_prepare (order : LegOrder) :
    Effect bank now (.prepare order)
      ((bank.prepare order).1, (bank.prepare order).2.map fun _ => .done) := by
  unfold prepare
  cases checkOrder order with
  | error refusal => exact .prepareRefused ..
  | ok checked =>
      by_cases committed :
          bank.legStatus order.transfer order.side = some .committed
      · simp only [committed, if_true]
        exact .prepareKnown order committed
      · simp only [committed, if_false]
        exact effect_attemptPrepare order 1

theorem settleHold_eq_ok {number : AccountNumber} {hold : Hold}
    {balance : Amount} {next : Bank}
    (settled : bank.settleHold number hold = .ok (balance, next)) :
    ∃ account, bank.accounts.find? number = some account ∧
      account.hold = some hold ∧
      account.moved hold.side hold.amount = .ok balance ∧
      next = bank.withAccount number ⟨balance, none⟩ := by
  unfold settleHold at settled
  cases found : bank.account number with
  | error refusal => simp [found, bind, Except.bind] at settled
  | ok account =>
      refine ⟨account, account_eq_ok found, ?_⟩
      simp only [found, bind, Except.bind] at settled
      by_cases held : account.hold = some hold
      · simp only [held, if_true] at settled
        cases fits : account.moved hold.side hold.amount with
        | error refusal => simp [fits] at settled
        | ok moved =>
            simp only [fits] at settled
            cases settled
            exact ⟨held, rfl, rfl⟩
      · simp [held] at settled

theorem effect_commit (order : LegOrder) :
    Effect bank now (.commit order)
      ((bank.commit now order).1,
        .finished ((bank.commit now order).2.map fun _ => .done)) := by
  unfold commit
  cases checkOrder order with
  | error refusal => exact .commitRefused ..
  | ok checked =>
      cases known : bank.leg order.transfer order.side with
      | none => exact .commitRefused ..
      | some record =>
          cases status : record.status with
          | committed =>
              have committed : bank.legStatus order.transfer order.side =
                  some .committed := by
                simp [legStatus, known, status]
              simp only [status]
              cases bank.balance order.account with
              | error refusal => exact .commitRefused ..
              | ok balance => exact .commitKnown order committed
          | released =>
              simp only [status]
              exact .commitRefused ..
          | prepared =>
              by_cases same : record.account = order.account
              · cases settled : bank.settleHold order.account order.hold with
                | error refusal =>
                    simp only [status, same, if_true]
                    exact .commitRefused ..
                | ok pair =>
                    obtain ⟨balance, next⟩ := pair
                    obtain ⟨account, found, held, fits, rfl⟩ :=
                      settleHold_eq_ok settled
                    simp only [status, same, if_true]
                    exact .applied order account balance found held fits known
                      status same
              · simp only [status, same, if_false]
                exact .commitRefused ..

theorem effect_release (order : ReleaseOrder) :
    Effect bank now (.release order)
      ((bank.release now order).1,
        .finished ((bank.release now order).2.map fun _ => .done)) := by
  unfold release giveUpHold
  cases found : bank.account order.account with
  | error refusal =>
      have absent : bank.accounts.find? order.account = none := by
        unfold Bank.account at found
        split at found
        · cases found
        · assumption
      exact .releaseRefused order refusal absent
  | ok account =>
      have present := account_eq_ok found
      cases held : account.hold with
      | none =>
          simp only [bind, Except.bind, held]
          apply Effect.releaseIdle order account present
          intro hold same
          rw [held] at same
          cases same
      | some hold =>
          by_cases holder : hold.transfer = order.transfer
          · simp only [bind, Except.bind, held, holder, if_true]
            exact .released order account hold present held holder
          · simp only [bind, Except.bind, held, holder, if_false]
            apply Effect.releaseIdle order account present
            intro other same
            rw [held] at same
            cases same
            exact holder

/-- Every call that is received has one of the effects. -/
theorem effect_receive (call : BankCall) :
    Effect bank now call (bank.receive now call) := by
  cases call with
  | prepare order => exact effect_prepare order
  | commit order => exact effect_commit order
  | release order => exact effect_release order
  | balance number => exact .told ..

/-- Every prepare that is taken up again has one of the effects. -/
theorem effect_resume (number : Nat) (order : LegOrder) :
    Effect bank now (.prepare order) (bank.resume number (.prepare order)) :=
  effect_attemptPrepare order number

/-- Only a call that is done changes anything. -/
theorem Effect.eq_or_done {call : BankCall} {result : Bank × Attempt BankReply}
    (effect : bank.Effect now call result) :
    result.1 = bank ∨ result.2 = .finished (.ok .done) := by
  cases effect with
  | taken | retaken | applied | released => exact Or.inr rfl
  | _ => exact Or.inl rfl

/-- An account that a bank has is still there after a call. -/
theorem Effect.find?_accounts {call : BankCall}
    {result : Bank × Attempt BankReply} (effect : bank.Effect now call result)
    {number : AccountNumber} {account : Account}
    (found : bank.accounts.find? number = some account) :
    ∃ later, result.1.accounts.find? number = some later := by
  cases effect with
  | taken order taken balance present free fits =>
      rw [find?_taking_accounts]
      split
      · exact ⟨_, rfl⟩
      · exact ⟨account, found⟩
  | applied order taken balance present held fits prepared status sameAccount =>
      rw [find?_applying_accounts]
      split
      · exact ⟨_, rfl⟩
      · exact ⟨account, found⟩
  | released order taken hold present held holder =>
      rw [find?_releasing_accounts]
      split
      · exact ⟨_, rfl⟩
      · exact ⟨account, found⟩
  | _ => exact ⟨account, found⟩

/-- A prepare that pauses has found its account. -/
theorem account_of_again {order : LegOrder} {number pause later : Nat}
    (again : (bank.attemptPrepare order number).2 = .again pause later) :
    ∃ account, bank.accounts.find? order.account = some account := by
  cases found : bank.account order.account with
  | ok account => exact ⟨account, account_eq_ok found⟩
  | error refusal =>
      have notBusy : refusal ≠ .busy := by
        unfold Bank.account at found
        split at found
        · cases found
        · cases found
          exact fun same => by cases same
      simp [attemptPrepare, attemptHold, takeHold, found, bind, Except.bind,
        notBusy] at again

/-! ## Calls that succeed -/

/-- A prepare takes a free account to which its leg could be applied. -/
theorem attemptPrepare_of_free (number : Nat) {order : LegOrder}
    {account : Account} {balance : Amount}
    (found : bank.accounts.find? order.account = some account)
    (free : account.hold = none)
    (fits : account.moved order.side order.amount = .ok balance) :
    bank.attemptPrepare order number =
      (bank.taking order account, .finished (.ok ())) := by
  have present := account_of_find? found
  have holdFits : account.moved order.hold.side order.hold.amount =
      .ok balance := fits
  simp [attemptPrepare, attemptHold, takeHold, present, bind, Except.bind, free,
    holdFits, taking]

theorem prepare_of_committed {order : LegOrder}
    (committed : bank.legStatus order.transfer order.side = some .committed) :
    ∃ result, bank.prepare order = (bank, .finished result) := by
  unfold prepare
  cases checkOrder order with
  | error refusal => exact ⟨_, rfl⟩
  | ok checked => exact ⟨.ok (), by simp [committed]⟩

theorem checkOrder_eq_ok {order : LegOrder} (named : order.transfer.isBlank = false)
    (positive : order.amount.isZero = false) : checkOrder order = .ok () := by
  simp [checkOrder, named, positive]

theorem prepare_of_unknown {order : LegOrder}
    (named : order.transfer.isBlank = false)
    (positive : order.amount.isZero = false)
    (unknown : bank.leg order.transfer order.side = none) :
    bank.prepare order = bank.attemptPrepare order 1 := by
  have passed := checkOrder_eq_ok named positive
  simp [prepare, passed, legStatus, unknown]

/-- A commit of a committed leg changes nothing. -/
theorem commit_of_committed {order : LegOrder}
    (committed : bank.legStatus order.transfer order.side = some .committed) :
    (bank.commit now order).1 = bank := by
  obtain ⟨record, known, status⟩ := Option.map_eq_some_iff.mp committed
  unfold commit
  cases checkOrder order with
  | error refusal => rfl
  | ok checked => simp [known, status]

/-- A prepared leg is applied when a commit asks for exactly what is held, and
the balance allows it. -/
theorem commit_of_prepared (now : Nat) {order : LegOrder} {record : LegRecord}
    {account : Account} {balance : Amount}
    (named : order.transfer.isBlank = false)
    (positive : order.amount.isZero = false)
    (known : bank.leg order.transfer order.side = some record)
    (prepared : record.status = .prepared)
    (sameAccount : record.account = order.account)
    (found : bank.accounts.find? order.account = some account)
    (held : account.hold = some order.hold)
    (fits : account.moved order.side order.amount = .ok balance) :
    bank.commit now order =
      (bank.applying now order balance record, .ok balance) := by
  have present := account_of_find? found
  have settled : bank.settleHold order.account order.hold =
      .ok (balance, bank.withAccount order.account ⟨balance, none⟩) := by
    have holdFits : account.moved order.hold.side order.hold.amount =
        .ok balance := fits
    simp [settleHold, present, bind, Except.bind, held, holdFits]
  have passed := checkOrder_eq_ok named positive
  simp [commit, passed, known, prepared, sameAccount, settled, applying]

/-- A release by its transfer frees an account. -/
theorem release_of_held (now : Nat) {order : ReleaseOrder} {account : Account}
    {hold : Hold} (found : bank.accounts.find? order.account = some account)
    (held : account.hold = some hold)
    (holder : hold.transfer = order.transfer) :
    bank.release now order = (bank.releasing now order account, .ok ()) := by
  have present := account_of_find? found
  simp [release, giveUpHold, present, bind, Except.bind, held, holder, releasing]

/-- A release frees no account that its transfer does not hold. -/
theorem release_of_idle (now : Nat) {order : ReleaseOrder} {account : Account}
    (found : bank.accounts.find? order.account = some account)
    (notHeld : ∀ hold, account.hold = some hold → hold.transfer ≠ order.transfer) :
    bank.release now order = (bank, .ok ()) := by
  have present := account_of_find? found
  cases held : account.hold with
  | none => simp [release, giveUpHold, present, bind, Except.bind, held]
  | some hold =>
      simp [release, giveUpHold, present, bind, Except.bind, held, notHeld hold held]

theorem release_of_unknown (now : Nat) {order : ReleaseOrder} {refusal : Refusal}
    (unknown : bank.account order.account = .error refusal) :
    bank.release now order = (bank, .error refusal) := by
  simp [release, giveUpHold, unknown, bind, Except.bind]

end Bank

end ClearingHouse
