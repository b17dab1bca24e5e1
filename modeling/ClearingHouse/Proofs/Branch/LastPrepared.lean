import ClearingHouse.Proofs.Branch.Promise

/-!
# Which held account a bank remembers

A bank keeps its holds by account and its legs by transfer and side.  A prepare
writes both, and looks only at the account that it names.  So one leg can be
prepared on two accounts: both are then held for it, and the bank remembers the
later one.  The hold on the other account has lost its leg.  It cannot be committed
any more, though its transfer can still release it.

`holdsByLast_of_runThrough` says exactly which holds have their leg, after every
run: those on the account that the leg was last prepared on.
-/

namespace ClearingHouse

def Bank.Attempt.isDone {α : Type} : Bank.Attempt α → Bool
  | .finished (.ok _) => true
  | .finished (.error _) | .again _ _ => false

/-- The order to commit exactly what is held on an account. -/
def Hold.order (hold : Hold) (number : AccountNumber) : LegOrder :=
  ⟨hold.side, number, hold.amount, hold.transfer⟩

namespace Bank

variable {bank next : Bank} {now : Nat} {order : LegOrder}
  {transfer : TransferId} {side : Side} {number : AccountNumber}

/-- The bank remembers the leg as prepared on this account. -/
def IsPreparedOn (bank : Bank) (transfer : TransferId) (side : Side)
    (number : AccountNumber) : Prop :=
  ∃ record, bank.leg transfer side = some record ∧
    record.status = .prepared ∧ record.account = number

/-- The account is held for the leg, with some amount. -/
def IsHeldFor (bank : Bank) (transfer : TransferId) (side : Side)
    (number : AccountNumber) : Prop :=
  ∃ amount, bank.hold? number = some ⟨transfer, side, amount⟩

/-! ## Prepares that succeed -/

/-- A prepare has secured its account: the account was free, or had the very hold
before, and now it has the hold and the leg is remembered there. -/
structure Secures (bank : Bank) (order : LegOrder) (next : Bank) : Prop where
  before : bank.hold? order.account = none ∨
    bank.hold? order.account = some order.hold
  holds : ∀ number, next.hold? number =
    if order.account = number then some order.hold else bank.hold? number
  legs : ∀ transfer side, next.leg transfer side =
    if (order.transfer, order.side) = (transfer, side) then
      some (.prepared order.account)
    else bank.leg transfer side

theorem secures_taking {account : Account}
    (found : bank.accounts.find? order.account = some account)
    (free : account.hold = none) :
    bank.Secures order (bank.taking order account) where
  before := Or.inl (by simp [hold?, found, free])
  holds := by
    intro number
    rw [hold?, find?_taking_accounts]
    split
    · rfl
    · rfl
  legs := leg_taking bank order account

theorem secures_withLeg {account : Account}
    (found : bank.accounts.find? order.account = some account)
    (held : account.hold = some order.hold) :
    bank.Secures order
      (bank.withLeg order.transfer order.side (.prepared order.account)) where
  before := Or.inr (by simp [hold?, found, held])
  holds := by
    intro number
    rw [hold?, accounts_withLeg]
    split
    · rename_i here
      rw [← here]
      simp [found, held]
    · rfl
  legs := fun transfer side =>
    leg_withLeg bank order.transfer transfer order.side side _

/-- An attempt to prepare secures its account, or has no effect. -/
theorem secures_of_attemptPrepare (bank : Bank) (order : LegOrder)
    (attempt : Nat) :
    if (bank.attemptPrepare order attempt).2.isDone then
      bank.Secures order (bank.attemptPrepare order attempt).1
    else (bank.attemptPrepare order attempt).1 = bank := by
  unfold attemptPrepare attemptHold
  cases taken : bank.takeHold order.account order.hold with
  | error refusal =>
      by_cases again : refusal = .busy ∧ attempt < bank.allowedAttempts
      · simp [again, Attempt.isDone]
      · simp [again, Attempt.isDone]
  | ok pair =>
      obtain ⟨outcome, held⟩ := pair
      obtain ⟨account, found, ⟨isHeld, rfl⟩ | ⟨free, fits, rfl⟩⟩ :=
        takeHold_eq_ok taken
      · exact secures_withLeg found isHeld
      · exact secures_taking found free

/-- Beginning to prepare secures the account, or has no effect.  A committed leg is
acknowledged without effect. -/
theorem secures_of_prepare (bank : Bank) (order : LegOrder) :
    if (bank.prepare order).2.isDone ∧
        bank.legStatus order.transfer order.side ≠ some .committed then
      bank.Secures order (bank.prepare order).1
    else (bank.prepare order).1 = bank := by
  unfold prepare
  cases checkOrder order with
  | error refusal => simp [Attempt.isDone]
  | ok checked =>
      by_cases committed :
          bank.legStatus order.transfer order.side = some .committed
      · simp [committed]
      · simpa [committed] using secures_of_attemptPrepare bank order 1

/-! ## Holds and legs together -/

/-- A leg is prepared on an account exactly if the account is held for it and it was
the last one for the leg. -/
structure RemembersLast (bank : Bank)
    (last : TransferId → Side → Option AccountNumber) : Prop where
  prepared : ∀ transfer side number,
    bank.IsPreparedOn transfer side number ↔
      bank.IsHeldFor transfer side number ∧ last transfer side = some number
  /-- No sweep forgets a prepared leg. -/
  unsettled : ∀ transfer side record, bank.leg transfer side = some record →
    record.status = .prepared → record.settledAt = none

variable {last : TransferId → Side → Option AccountNumber}

theorem isHeldFor_iff_of_eq (same : next.hold? number = bank.hold? number) :
    next.IsHeldFor transfer side number ↔
      bank.IsHeldFor transfer side number := by
  simp only [IsHeldFor, same]

theorem not_isHeldFor_of_other {hold : Hold} (held : bank.hold? number = some hold)
    (other : (hold.transfer, hold.side) ≠ (transfer, side)) :
    ¬ bank.IsHeldFor transfer side number := by
  rintro ⟨amount, wanted⟩
  rw [held] at wanted
  cases wanted
  exact other rfl

theorem not_isHeldFor_of_free (free : bank.hold? number = none) :
    ¬ bank.IsHeldFor transfer side number := by
  rintro ⟨amount, wanted⟩
  rw [free] at wanted
  cases wanted

theorem isPreparedOn_iff_of_eq
    (same : next.leg transfer side = bank.leg transfer side) :
    next.IsPreparedOn transfer side number ↔
      bank.IsPreparedOn transfer side number := by
  simp only [IsPreparedOn, same]

theorem remembersLast_of_unheld (unheld : ∀ number, bank.hold? number = none)
    (unknown : ∀ transfer side, bank.leg transfer side = none) :
    bank.RemembersLast last where
  prepared := by
    intro transfer side number
    constructor
    · rintro ⟨record, known, -⟩
      rw [unknown] at known
      cases known
    · rintro ⟨held, -⟩
      exact absurd held (not_isHeldFor_of_free (unheld number))
  unsettled := by
    intro transfer side record known
    rw [unknown] at known
    cases known

theorem Secures.remembersLast (secures : bank.Secures order next)
    (remembers : bank.RemembersLast last) :
    next.RemembersLast fun transfer side =>
      if (order.transfer, order.side) = (transfer, side) then some order.account
      else last transfer side where
  prepared := by
    intro transfer side number
    by_cases same : (order.transfer, order.side) = (transfer, side)
    · cases same
      simp only [IsPreparedOn, IsHeldFor, secures.legs, secures.holds, if_true]
      constructor
      · rintro ⟨record, known, -, rfl⟩
        cases known
        exact ⟨⟨order.amount, if_pos rfl⟩, rfl⟩
      · rintro ⟨-, here⟩
        exact ⟨_, rfl, rfl, Option.some.inj here⟩
    · have sameLeg : next.leg transfer side = bank.leg transfer side := by
        rw [secures.legs, if_neg same]
      have sameHeld : next.IsHeldFor transfer side number ↔
          bank.IsHeldFor transfer side number := by
        by_cases here : order.account = number
        · -- The account is held for another leg now, and was free or so before.
          subst here
          have heldNow : next.hold? order.account = some order.hold := by
            rw [secures.holds, if_pos rfl]
          have notBefore : ¬ bank.IsHeldFor transfer side order.account := by
            rcases secures.before with free | held
            · exact not_isHeldFor_of_free free
            · exact not_isHeldFor_of_other held same
          exact iff_of_false (not_isHeldFor_of_other heldNow same) notBefore
        · apply isHeldFor_iff_of_eq
          rw [secures.holds, if_neg here]
      rw [isPreparedOn_iff_of_eq sameLeg, sameHeld, if_neg same]
      exact remembers.prepared transfer side number
  unsettled := by
    intro transfer side record known status
    rw [secures.legs] at known
    split at known
    · cases known
      rfl
    · exact remembers.unsettled transfer side record known status

theorem RemembersLast.applying {account : Account} {balance : Amount}
    {record : LegRecord} (remembers : bank.RemembersLast last)
    (found : bank.accounts.find? order.account = some account)
    (held : account.hold = some order.hold)
    (known : bank.leg order.transfer order.side = some record)
    (status : record.status = .prepared)
    (here : record.account = order.account) :
    (bank.applying now order balance record).RemembersLast last where
  prepared := by
    intro transfer side number
    have freed : (bank.applying now order balance record).hold? order.account =
        none := by
      rw [hold?, find?_applying_accounts, if_pos rfl]
      rfl
    have sameHold : order.account ≠ number →
        (bank.applying now order balance record).hold? number =
          bank.hold? number := by
      intro elsewhere
      rw [hold?, find?_applying_accounts, if_neg elsewhere]
      rfl
    by_cases same : (order.transfer, order.side) = (transfer, side)
    · cases same
      -- The leg was last prepared on the account that is free now.
      have wasLast := ((remembers.prepared _ _ _).mp ⟨record, known, status, here⟩).2
      apply iff_of_false
      · rintro ⟨later, isLater, laterStatus, -⟩
        rw [leg_applying, if_pos rfl] at isLater
        cases isLater
        cases laterStatus
      · rintro ⟨stillHeld, isLast⟩
        rw [wasLast] at isLast
        cases isLast
        exact not_isHeldFor_of_free freed stillHeld
    · have sameLeg : (bank.applying now order balance record).leg transfer side =
          bank.leg transfer side := by
        rw [leg_applying, if_neg same]
      have sameHeld :
          (bank.applying now order balance record).IsHeldFor transfer side number ↔
            bank.IsHeldFor transfer side number := by
        by_cases atAccount : order.account = number
        · subst atAccount
          have wasHeld : bank.hold? order.account = some order.hold := by
            simp [hold?, found, held]
          exact iff_of_false (not_isHeldFor_of_free freed)
            (not_isHeldFor_of_other wasHeld same)
        · exact isHeldFor_iff_of_eq (sameHold atAccount)
      rw [isPreparedOn_iff_of_eq sameLeg, sameHeld]
      exact remembers.prepared transfer side number
  unsettled := by
    intro transfer side other otherKnown otherStatus
    rw [leg_applying] at otherKnown
    split at otherKnown
    · cases otherKnown
      cases otherStatus
    · exact remembers.unsettled transfer side other otherKnown otherStatus

theorem isPreparedOn_releasing {order : ReleaseOrder} {account : Account} :
    (bank.releasing now order account).IsPreparedOn transfer side number ↔
      bank.IsPreparedOn transfer side number ∧
        ¬ (order.transfer = transfer ∧ order.account = number) := by
  simp only [IsPreparedOn, leg_releasing]
  by_cases same : order.transfer = transfer
  · simp only [same, if_true, true_and]
    constructor
    · rintro ⟨record, known, status, rfl⟩
      obtain ⟨former, was, rfl⟩ := Option.map_eq_some_iff.mp known
      obtain ⟨unchanged, wasPrepared, elsewhere⟩ := prepared_of_unwound status
      rw [unchanged]
      exact ⟨⟨former, was, wasPrepared, rfl⟩, fun here => elsewhere here.symm⟩
    · rintro ⟨⟨record, known, status, rfl⟩, elsewhere⟩
      refine ⟨record.unwound now order.account, by rw [known]; rfl, ?_⟩
      have unchanged : record.unwound now order.account = record := by
        rw [LegRecord.unwound, if_neg]
        rintro ⟨here, -⟩
        exact elsewhere here.symm
      rw [unchanged]
      exact ⟨status, rfl⟩
  · simp [same]

theorem RemembersLast.releasing {order : ReleaseOrder} {account : Account}
    {hold : Hold} (remembers : bank.RemembersLast last)
    (found : bank.accounts.find? order.account = some account)
    (held : account.hold = some hold)
    (holder : hold.transfer = order.transfer) :
    (bank.releasing now order account).RemembersLast last where
  prepared := by
    intro transfer side number
    have sameHeld :
        (bank.releasing now order account).IsHeldFor transfer side number ↔
          bank.IsHeldFor transfer side number ∧
            ¬ (order.transfer = transfer ∧ order.account = number) := by
      by_cases here : order.account = number
      · subst here
        have freed : (bank.releasing now order account).hold? order.account =
            none := by
          rw [hold?, find?_releasing_accounts, if_pos rfl]
          rfl
        have wasHeld : bank.hold? order.account = some hold := by
          simp [hold?, found, held]
        apply iff_of_false (not_isHeldFor_of_free freed)
        rintro ⟨⟨amount, wasFor⟩, other⟩
        rw [wasHeld] at wasFor
        cases wasFor
        exact other ⟨holder.symm, rfl⟩
      · have sameHold : (bank.releasing now order account).hold? number =
            bank.hold? number := by
          rw [hold?, find?_releasing_accounts, if_neg here]
          rfl
        rw [isHeldFor_iff_of_eq sameHold]
        simp [here]
    rw [isPreparedOn_releasing, sameHeld, remembers.prepared transfer side number]
    exact and_right_comm
  unsettled := by
    intro transfer side record known status
    rw [leg_releasing] at known
    split at known
    · obtain ⟨former, was, rfl⟩ := Option.map_eq_some_iff.mp known
      obtain ⟨unchanged, wasPrepared, -⟩ := prepared_of_unwound status
      rw [unchanged]
      exact remembers.unsettled transfer side former was wasPrepared
    · exact remembers.unsettled transfer side record known status

theorem RemembersLast.sweep (remembers : bank.RemembersLast last)
    (retention : Nat) : (bank.sweep now retention).RemembersLast last := by
  have legOf : ∀ transfer side, (bank.sweep now retention).leg transfer side =
      (bank.leg transfer side).filter fun record => record.isKept now retention :=
    fun transfer side => Table.find?_retain _ _ _
  constructor
  · intro transfer side number
    have samePrepared :
        (bank.sweep now retention).IsPreparedOn transfer side number ↔
          bank.IsPreparedOn transfer side number := by
      simp only [IsPreparedOn, legOf, Option.filter_eq_some_iff]
      constructor
      · rintro ⟨record, ⟨known, -⟩, status⟩
        exact ⟨record, known, status⟩
      · rintro ⟨record, known, status, here⟩
        have unsettled := remembers.unsettled transfer side record known status
        refine ⟨record, ⟨known, ?_⟩, status, here⟩
        simp [LegRecord.isKept, unsettled]
    rw [samePrepared]
    exact remembers.prepared transfer side number
  · intro transfer side record known status
    rw [legOf] at known
    exact remembers.unsettled transfer side record
      (Option.filter_eq_some_iff.mp known).1 status

/-- No call but a prepare changes where a leg was last prepared. -/
theorem Effect.remembersLast {call : BankCall}
    {result : Bank × Attempt BankReply} (effect : bank.Effect now call result)
    (notPrepare : ∀ order, call ≠ .prepare order)
    (remembers : bank.RemembersLast last) : result.1.RemembersLast last := by
  cases effect with
  | prepareRefused order | prepareAgain order | prepareKnown order
  | taken order | retaken order => exact absurd rfl (notPrepare order)
  | applied order account balance found held fits known status here =>
      exact remembers.applying found held known status here
  | released order account hold found held holder =>
      exact remembers.releasing found held holder
  | commitRefused | commitKnown | releaseRefused | releaseIdle | told =>
      exact remembers

/-! ## What becomes of a hold -/

/-- A commit of exactly what is held frees the account if the leg was last prepared
there. -/
theorem RemembersLast.hold?_commit (remembers : bank.RemembersLast last)
    (steady : bank.Steady) (now : Nat) {hold : Hold}
    (held : bank.hold? number = some hold)
    (isLast : last hold.transfer hold.side = some number) :
    (bank.commit now (hold.order number)).1.hold? number = none := by
  obtain ⟨record, known, status, here⟩ :=
    (remembers.prepared hold.transfer hold.side number).mpr
      ⟨⟨hold.amount, held⟩, isLast⟩
  obtain ⟨account, found, isHeld⟩ := Option.bind_eq_some_iff.mp held
  obtain ⟨named, positive, balance, fits⟩ :=
    steady.held number account hold found isHeld
  have applied : bank.commit now (hold.order number) =
      (bank.applying now (hold.order number) balance record, .ok balance) :=
    commit_of_prepared now named positive known status here found isHeld fits
  rw [applied, hold?, find?_applying_accounts]
  exact congrArg (Option.bind · Account.hold) (if_pos rfl)

/-- A commit on an account that the leg was not last prepared on has no effect. -/
theorem RemembersLast.commit_eq_self (remembers : bank.RemembersLast last)
    (now : Nat) (order : LegOrder)
    (notLast : last order.transfer order.side ≠ some order.account) :
    (bank.commit now order).1 = bank := by
  have effect : Effect bank now (.commit order)
      ((bank.commit now order).1,
        .finished ((bank.commit now order).2.map fun _ => .done)) :=
    effect_commit order
  generalize (bank.commit now order).1 = later,
    (bank.commit now order).2.map (fun _ => BankReply.done) = answer at effect ⊢
  cases effect with
  | commitRefused | commitKnown => rfl
  | applied _ account balance found held fits known status here =>
      have isLast := ((remembers.prepared _ _ _).mp
        ⟨_, known, status, here⟩).2
      exact absurd isLast notLast

theorem hold?_release (now : Nat) {hold : Hold}
    (held : bank.hold? number = some hold) :
    (bank.release now ⟨number, hold.transfer⟩).1.hold? number = none := by
  obtain ⟨account, found, isHeld⟩ := Option.bind_eq_some_iff.mp held
  rw [release_of_held now found isHeld rfl, hold?, find?_releasing_accounts]
  exact congrArg (Option.bind · Account.hold) (if_pos rfl)

end Bank

namespace Branch

variable {start branch next final : Branch}

/-! ## Runs -/

/-- The order of a prepare that has its hold after this step, because the step takes
it or finds it there. -/
def Event.secured? (branch : Branch) : Event → Option LegOrder
  | .prepare order =>
      if (branch.bank.prepare order).2.isDone ∧
          branch.bank.legStatus order.transfer order.side ≠ some .committed then
        some order
      else none
  | .resume index =>
      match branch.waiting[index]? with
      | some waiting =>
          if (branch.bank.attemptPrepare waiting.order waiting.attempt).2.isDone then
            some waiting.order
          else none
      | none => none
  | .commit _ | .release _ | .drop _ | .sweep _ | .rest _ => none

/-- The account on which a step prepares this leg, if it does. -/
def securedOn (transfer : TransferId) (side : Side) (branch : Branch)
    (event : Event) (_ : Branch) : List AccountNumber :=
  match event.secured? branch with
  | some order =>
      if (order.transfer, order.side) = (transfer, side) then [order.account] else []
  | none => []

/-- The account that a leg was last prepared on in a run. -/
def lastPrepared (start : Branch) (events : List Event) (transfer : TransferId)
    (side : Side) : Option AccountNumber :=
  (collect step (securedOn transfer side) start events).getLast?

/-- A step that prepares a leg secures its account, and every other step leaves
alone where the legs were last prepared. -/
theorem remembersLast_of_step {event : Event}
    {last : TransferId → Side → Option AccountNumber}
    (stepped : branch.step event = some next)
    (remembers : branch.bank.RemembersLast last) :
    next.bank.RemembersLast fun transfer side =>
      match event.secured? branch with
      | some order =>
          if (order.transfer, order.side) = (transfer, side) then some order.account
          else last transfer side
      | none => last transfer side := by
  cases event with
  | prepare order =>
      cases stepped
      have sameBank : (branch.prepare order).bank = (branch.bank.prepare order).1 := by
        rcases branch.prepare_cases order with answered | ⟨_, _, _, paused⟩
        · rw [answered]
        · rw [paused]
      have secures := Bank.secures_of_prepare branch.bank order
      rw [sameBank]
      simp only [Event.secured?]
      split at secures
      · rename_i done
        simp only [if_pos done]
        exact secures.remembersLast remembers
      · rename_i notDone
        simp only [if_neg notDone]
        rw [secures]
        exact remembers
  | resume index =>
      obtain ⟨waiting, found, sameBank, -⟩ := resume_eq_some stepped
      have secures := Bank.secures_of_attemptPrepare branch.bank waiting.order
        waiting.attempt
      rw [sameBank]
      simp only [Event.secured?, found]
      split at secures
      · rename_i done
        simp only [if_pos done]
        exact secures.remembersLast remembers
      · rename_i notDone
        simp only [if_neg notDone]
        rw [secures]
        exact remembers
  | commit order =>
      cases stepped
      exact (Bank.effect_commit order).remembersLast (by rintro _ ⟨⟩) remembers
  | release order =>
      cases stepped
      exact (Bank.effect_release order).remembersLast (by rintro _ ⟨⟩) remembers
  | drop index =>
      cases stepped
      exact remembers
  | sweep retention =>
      cases stepped
      exact remembers.sweep retention
  | rest milliseconds =>
      cases stepped
      exact remembers

theorem lastPrepared_concat {past : List Event} {event : Event}
    (reached : runThrough step start past = some branch)
    (stepped : branch.step event = some next) (transfer : TransferId)
    (side : Side) :
    lastPrepared start (past ++ [event]) transfer side =
      match event.secured? branch with
      | some order =>
          if (order.transfer, order.side) = (transfer, side) then some order.account
          else lastPrepared start past transfer side
      | none => lastPrepared start past transfer side := by
  rw [lastPrepared, collect_concat reached stepped, securedOn]
  cases event.secured? branch with
  | none => simp [lastPrepared]
  | some order =>
      by_cases same : (order.transfer, order.side) = (transfer, side)
      · simp [same]
      · simp [same, lastPrepared]

theorem remembersLast_of_runThrough {events : List Event}
    (unheld : ∀ number, start.bank.hold? number = none)
    (unknown : ∀ transfer side, start.bank.leg transfer side = none)
    (ran : runThrough step start events = some final) :
    final.bank.RemembersLast (lastPrepared start events) := by
  refine @history_of_runThrough Branch Event step start
    (fun past state => state.bank.RemembersLast (lastPrepared start past))
    ?_ ?_ events final ran
  · exact Bank.remembersLast_of_unheld unheld unknown
  · intro past branch event next reached before stepped
    have after := remembersLast_of_step stepped before
    simpa only [← lastPrepared_concat reached stepped] using after

/-- Which holds of a bank have their leg: a leg is remembered as prepared on an
account exactly if the account is held for it and it was last prepared there.  Such a
hold can be committed.  Any other hold no commit can end, but every hold ends with a
release by its transfer. -/
structure HoldsByLast (branch : Branch)
    (last : TransferId → Side → Option AccountNumber) : Prop where
  prepared : ∀ transfer side number,
    branch.bank.IsPreparedOn transfer side number ↔
      branch.bank.IsHeldFor transfer side number ∧ last transfer side = some number
  committed : ∀ number hold, branch.bank.hold? number = some hold →
    ((branch.bank.commit branch.now (hold.order number)).1.hold? number = none ↔
      last hold.transfer hold.side = some number)
  refused : ∀ order : LegOrder,
    last order.transfer order.side ≠ some order.account →
      (branch.bank.commit branch.now order).1 = branch.bank
  released : ∀ number hold, branch.bank.hold? number = some hold →
    (branch.bank.release branch.now ⟨number, hold.transfer⟩).1.hold? number = none

/-- Whatever a bank has been asked since it opened, the holds that have their leg are
those on the account that the leg was last prepared on. -/
theorem holdsByLast_of_runThrough {events : List Event}
    (idle : start.waiting = [])
    (unheld : ∀ number, start.bank.hold? number = none)
    (unknown : ∀ transfer side, start.bank.leg transfer side = none)
    (ran : runThrough step start events = some final) :
    final.HoldsByLast (lastPrepared start events) := by
  have steady : final.Steady :=
    invariant_of_runThrough Steady.step (steady_of_idle idle unheld unknown) ran
  have remembers := remembersLast_of_runThrough unheld unknown ran
  constructor
  · exact remembers.prepared
  · intro number hold held
    constructor
    · intro freed
      by_contra notLast
      rw [remembers.commit_eq_self final.now (hold.order number) notLast,
        held] at freed
      cases freed
    · exact remembers.hold?_commit steady.bank final.now held
  · exact fun order notLast => remembers.commit_eq_self final.now order notLast
  · exact fun number hold held => Bank.hold?_release final.now held

def otherAccount : AccountNumber := ⟨"A2"⟩

def twoAccounts : Branch where
  bank := Bank.opening Sample.payer.bank {}
    [(Sample.payer.account, .ofMajor 100), (otherAccount, .ofMajor 50)]
  waiting := []
  now := 0

theorem hold?_twoAccounts (number : AccountNumber) :
    twoAccounts.bank.hold? number = none := by
  by_cases other : otherAccount = number
  · simp [Bank.hold?, twoAccounts, Bank.opening, Table.ofList, other]
  · by_cases first : Sample.payer.account = number <;>
      simp [Bank.hold?, twoAccounts, Bank.opening, Table.ofList, other, first]

def preparedTwice : List Event :=
  [.prepare sampleOrder, .prepare { sampleOrder with account := otherAccount }]

/-- Both accounts are held for the leg.  The second has the leg, and the first
refuses its own commit. -/
theorem holdsByLast_of_preparedTwice :
    ∃ final, runThrough step twoAccounts preparedTwice = some final ∧
      final.HoldsByLast (lastPrepared twoAccounts preparedTwice) ∧
      final.bank.hold? Sample.payer.account = some sampleOrder.hold ∧
      final.bank.hold? otherAccount = some sampleOrder.hold ∧
      lastPrepared twoAccounts preparedTwice sampleOrder.transfer .debit =
        some otherAccount ∧
      (final.bank.commit final.now sampleOrder).1 = final.bank := by
  have ran : runThrough step twoAccounts preparedTwice = some _ := rfl
  have holdsByLast := holdsByLast_of_runThrough rfl hold?_twoAccounts
    (fun _ _ => rfl) ran
  exact ⟨_, ran, holdsByLast, rfl, rfl, rfl,
    holdsByLast.refused sampleOrder (by decide)⟩

end Branch

end ClearingHouse
