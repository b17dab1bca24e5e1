import ClearingHouse.Proofs.Branch.Promise

/-!
# Who may touch an account

An account has at most one hold, and while it has one it belongs to the transfer
that took it.  Money moves only when this transfer commits exactly what is held,
and then the hold is gone.  Otherwise the hold ends only when its own transfer
releases the account.  Whatever other transfers ask for in the meantime, through
the front door or after a pause, leaves the account as it is.

`Bank.Touch` lists what one call can do to one account.  The laws about a step and
about a whole run are read off it.
-/

namespace ClearingHouse

def BankCall.transfer? : BankCall → Option TransferId
  | .prepare order | .commit order => some order.transfer
  | .release order => some order.transfer
  | .balance _ => none

namespace Bank

variable {bank : Bank} {now : Nat} {call : BankCall} {number : AccountNumber}
  {account later : Account} {hold : Hold}

/-- What a call can do to the account with this number. -/
inductive Touch (number : AccountNumber) (account : Account) :
    BankCall → Account → Prop where
  | nothing (call : BankCall) : Touch number account call account
  | takes (order : LegOrder) (here : order.account = number)
      (free : account.hold = none) :
      Touch number account (.prepare order)
        { account with hold := some order.hold }
  | applies (order : LegOrder) (balance : Amount) (here : order.account = number)
      (held : account.hold = some order.hold)
      (becomes : account.Becomes order.amount balance order.side) :
      Touch number account (.commit order) ⟨balance, none⟩
  | frees (hold : Hold) (held : account.hold = some hold) :
      Touch number account (.release ⟨number, hold.transfer⟩)
        { account with hold := none }

theorem Effect.touch {result : Bank × Attempt BankReply}
    (effect : bank.Effect now call result)
    (found : bank.accounts.find? number = some account) :
    ∃ later, result.1.accounts.find? number = some later ∧
      Touch number account call later := by
  cases effect with
  | taken order free balance present isFree fits =>
      rw [find?_taking_accounts]
      by_cases here : order.account = number
      · rw [← here, present] at found
        cases found
        exact ⟨_, if_pos here, .takes order here isFree⟩
      · exact ⟨account, (if_neg here).trans found, .nothing _⟩
  | applied order held balance present isHeld fits prepared status sameAccount =>
      rw [find?_applying_accounts]
      by_cases here : order.account = number
      · rw [← here, present] at found
        cases found
        exact ⟨_, if_pos here, .applies order balance here isHeld
          (Account.becomes_of_moved fits)⟩
      · exact ⟨account, (if_neg here).trans found, .nothing _⟩
  | released order held holds present isHeld holder =>
      obtain ⟨place, transfer⟩ := order
      rw [find?_releasing_accounts]
      by_cases here : place = number
      · subst here
        rw [present] at found
        cases found
        cases holder
        exact ⟨_, if_pos rfl, .frees holds isHeld⟩
      · exact ⟨account, (if_neg here).trans found, .nothing _⟩
  | _ => exact ⟨account, found, .nothing _⟩

theorem Effect.find?_eq_none {result : Bank × Attempt BankReply}
    (effect : bank.Effect now call result)
    (absent : bank.accounts.find? number = none) :
    result.1.accounts.find? number = none := by
  -- An account that is written has been found before.
  have elsewhere : ∀ {place : AccountNumber} {other : Account},
      bank.accounts.find? place = some other → place ≠ number := by
    rintro place other present rfl
    rw [absent] at present
    cases present
  cases effect with
  | taken order other balance present free fits =>
      rw [find?_taking_accounts, if_neg (elsewhere present)]
      exact absent
  | applied order other balance present held fits prepared status sameAccount =>
      rw [find?_applying_accounts, if_neg (elsewhere present)]
      exact absent
  | released order other held present isHeld holder =>
      rw [find?_releasing_accounts, if_neg (elsewhere present)]
      exact absent
  | _ => exact absent

/-! ## What a touch says of holds and balances -/

theorem Touch.commits_of_balance_ne (touch : Touch number account call later)
    (moved : later.balance ≠ account.balance) :
    ∃ order, call = .commit order ∧ order.account = number ∧
      account.hold = some order.hold ∧
      account.Becomes order.amount later.balance order.side ∧
      later.hold = none := by
  cases touch with
  | nothing call => exact absurd rfl moved
  | takes order here free => exact absurd rfl moved
  | applies order balance here held becomes =>
      exact ⟨order, rfl, here, held, becomes, rfl⟩
  | frees other held => exact absurd rfl moved

/-- How a hold on an account comes to its end: its transfer commits exactly what is
held, or releases the account. -/
inductive Ends (number : AccountNumber) (account : Account) (hold : Hold) :
    BankCall → Account → Prop where
  | committed (order : LegOrder) (balance : Amount)
      (here : order.account = number) (exact : order.hold = hold)
      (becomes : account.Becomes hold.amount balance hold.side) :
      Ends number account hold (.commit order) ⟨balance, none⟩
  | released :
      Ends number account hold (.release ⟨number, hold.transfer⟩)
        { account with hold := none }

theorem Ends.transfer? (ends : Ends number account hold call later) :
    call.transfer? = some hold.transfer := by
  cases ends with
  | committed order balance here same becomes =>
      subst same
      rfl
  | released => rfl

theorem Ends.hold_eq_none (ends : Ends number account hold call later) :
    later.hold = none := by
  cases ends <;> rfl

/-- An account that is held stays exactly as it is, or its hold ends. -/
theorem Touch.eq_or_ends (touch : Touch number account call later)
    (held : account.hold = some hold) :
    later = account ∨ Ends number account hold call later := by
  cases touch with
  | nothing call => exact Or.inl rfl
  | takes order here free =>
      rw [free] at held
      cases held
  | applies order balance here isHeld becomes =>
      have exact : order.hold = hold := Option.some.inj (isHeld.symm.trans held)
      subst exact
      exact Or.inr (.committed order balance here rfl becomes)
  | frees other isHeld =>
      have same : other = hold := Option.some.inj (isHeld.symm.trans held)
      subst same
      exact Or.inr .released

end Bank

namespace Branch

variable {start branch next final : Branch} {event : Event}

/-- The call that a bank carries out in an event.  A prepare that goes on after a
pause is the call that it was before. -/
def Event.call? (branch : Branch) : Event → Option BankCall
  | .prepare order => some (.prepare order)
  | .commit order => some (.commit order)
  | .release order => some (.release order)
  | .resume index =>
      (branch.waiting[index]?).map fun waiting => .prepare waiting.order
  | .drop _ | .sweep _ | .rest _ => none

/-- A step has one of the effects that its call can have, or touches no account. -/
theorem effect_of_step (stepped : branch.step event = some next) :
    (∃ call result, event.call? branch = some call ∧
      branch.bank.Effect branch.now call result ∧ next.bank = result.1) ∨
    (event.call? branch = none ∧
      next.bank.accounts = branch.bank.accounts) := by
  cases event with
  | prepare order =>
      cases stepped
      have effect := effect_prepare branch order
      rcases branch.prepare_cases order with
        answered | ⟨pause, number, again, paused⟩
      · exact Or.inl ⟨_, _, rfl, effect, by rw [answered]⟩
      · exact Or.inl ⟨_, _, rfl, effect, by rw [paused]⟩
  | commit order =>
      cases stepped
      exact Or.inl ⟨_, _, rfl, Bank.effect_commit order, rfl⟩
  | release order =>
      cases stepped
      exact Or.inl ⟨_, _, rfl, Bank.effect_release order, rfl⟩
  | resume index =>
      obtain ⟨waiting, found, sameBank, -⟩ := resume_eq_some stepped
      have isCall : Event.call? branch (.resume index) =
          some (.prepare waiting.order) := by
        simp [Event.call?, found]
      exact Or.inl ⟨_, _, isCall, effect_attempt branch waiting, sameBank⟩
  | drop index =>
      cases stepped
      exact Or.inr ⟨rfl, rfl⟩
  | sweep retention =>
      cases stepped
      exact Or.inr ⟨rfl, rfl⟩
  | rest milliseconds =>
      cases stepped
      exact Or.inr ⟨rfl, rfl⟩

/-- Every account is still there after a step, and has been touched by its call
only. -/
theorem touch_of_step {number : AccountNumber} {account : Account}
    (stepped : branch.step event = some next)
    (found : branch.bank.accounts.find? number = some account) :
    ∃ later, next.bank.accounts.find? number = some later ∧
      (later = account ∨ ∃ call, event.call? branch = some call ∧
        Bank.Touch number account call later) := by
  rcases effect_of_step stepped with
    ⟨call, result, isCall, effect, sameBank⟩ | ⟨-, sameAccounts⟩
  · obtain ⟨later, present, touch⟩ := effect.touch found
    rw [← sameBank] at present
    exact ⟨later, present, Or.inr ⟨call, isCall, touch⟩⟩
  · rw [sameAccounts]
    exact ⟨account, found, Or.inl rfl⟩

theorem isSome_of_step (stepped : branch.step event = some next)
    (number : AccountNumber) :
    (next.bank.accounts.find? number).isSome =
      (branch.bank.accounts.find? number).isSome := by
  cases found : branch.bank.accounts.find? number with
  | some account =>
      obtain ⟨later, present, -⟩ := touch_of_step stepped found
      rw [present]
      rfl
  | none =>
      rcases effect_of_step stepped with
        ⟨call, result, -, effect, sameBank⟩ | ⟨-, sameAccounts⟩
      · rw [sameBank, effect.find?_eq_none found]
      · rw [sameAccounts, found]

/-- The laws of holds and balances for one step. -/
structure Guards (branch next : Branch) (event : Event) : Prop where
  /-- Accounts neither come nor go. -/
  accounts : ∀ number, (next.bank.accounts.find? number).isSome =
    (branch.bank.accounts.find? number).isSome
  /-- There is one hold at a time: none takes the place of another. -/
  single : ∀ number hold, branch.bank.hold? number = some hold →
    next.bank.hold? number = some hold ∨ next.bank.hold? number = none
  /-- A balance changes by exactly what was held, for a commit of exactly this, and
  the account is free afterwards. -/
  moved : ∀ number account later,
    branch.bank.accounts.find? number = some account →
    next.bank.accounts.find? number = some later →
    later.balance ≠ account.balance →
      ∃ order, event = .commit order ∧ order.account = number ∧
        account.hold = some order.hold ∧
        account.Becomes order.amount later.balance order.side ∧
        later.hold = none
  /-- What is done for another transfer, or for none, leaves a held account as it
  is. -/
  foreign : ∀ number account hold,
    branch.bank.accounts.find? number = some account →
    account.hold = some hold →
    (event.call? branch).bind BankCall.transfer? ≠ some hold.transfer →
      next.bank.accounts.find? number = some account
  /-- A hold ends by its own commit or by a release in the name of its transfer. -/
  freed : ∀ number account hold,
    branch.bank.accounts.find? number = some account →
    account.hold = some hold → next.bank.hold? number ≠ some hold →
      ∃ call later, event.call? branch = some call ∧
        next.bank.accounts.find? number = some later ∧
        Bank.Ends number account hold call later

/-- One step leaves a held account as it is, or ends its hold. -/
theorem eq_or_ends_of_step {number : AccountNumber} {account : Account}
    {hold : Hold} (stepped : branch.step event = some next)
    (found : branch.bank.accounts.find? number = some account)
    (held : account.hold = some hold) :
    next.bank.accounts.find? number = some account ∨
      ∃ call later, event.call? branch = some call ∧
        next.bank.accounts.find? number = some later ∧
        Bank.Ends number account hold call later := by
  obtain ⟨later, present, rfl | ⟨call, isCall, touch⟩⟩ :=
    touch_of_step stepped found
  · exact Or.inl present
  · rcases touch.eq_or_ends held with rfl | ends
    · exact Or.inl present
    · exact Or.inr ⟨call, later, isCall, present, ends⟩

theorem guards_of_step (stepped : branch.step event = some next) :
    branch.Guards next event where
  accounts := isSome_of_step stepped
  single := by
    intro number hold held
    obtain ⟨account, found, isHeld⟩ := Option.bind_eq_some_iff.mp held
    rcases eq_or_ends_of_step stepped found isHeld with
      present | ⟨call, later, -, present, ends⟩
    · left
      simp [Bank.hold?, present, isHeld]
    · right
      simp [Bank.hold?, present, ends.hold_eq_none]
  moved := by
    intro number account later found present moved
    obtain ⟨other, otherPresent, rfl | ⟨call, isCall, touch⟩⟩ :=
      touch_of_step stepped found
    · rw [present] at otherPresent
      cases otherPresent
      exact absurd rfl moved
    · rw [present] at otherPresent
      cases otherPresent
      obtain ⟨order, rfl, here, held, becomes, free⟩ :=
        touch.commits_of_balance_ne moved
      refine ⟨order, ?_, here, held, becomes, free⟩
      -- Of the events only a commit calls for a commit.
      cases event with
      | commit asked =>
          cases isCall
          rfl
      | resume index =>
          obtain ⟨waiting, -, ⟨⟩⟩ := Option.map_eq_some_iff.mp isCall
      | _ => cases isCall
  foreign := by
    intro number account hold found held other
    rcases eq_or_ends_of_step stepped found held with
      present | ⟨call, later, isCall, present, ends⟩
    · exact present
    · rw [isCall] at other
      exact absurd ends.transfer? other
  freed := by
    intro number account hold found held gone
    rcases eq_or_ends_of_step stepped found held with present | ends
    · have still : next.bank.hold? number = some hold := by
        simp [Bank.hold?, present, held]
      exact absurd still gone
    · exact ends

/-- What the holder of an account can rely on in a run: the laws hold in each of
its steps, and an account stays exactly as it was when it was taken, until the
step in which its hold ends. -/
structure Custody (start final : Branch) (events : List Event) : Prop where
  steps : ∀ before event after, events = before ++ event :: after →
    ∃ branch next, runThrough step start before = some branch ∧
      branch.step event = some next ∧ branch.Guards next event
  lasting : ∀ number account hold,
    start.bank.accounts.find? number = some account →
    account.hold = some hold →
      final.bank.accounts.find? number = some account ∨
        Occurs step start events fun branch event next =>
          branch.bank.accounts.find? number = some account ∧
            ∃ call later, event.call? branch = some call ∧
              next.bank.accounts.find? number = some later ∧
              Bank.Ends number account hold call later

/-- Whatever a bank is asked, by whomever and in whatever order: an account is
touched for the transfer that holds it, and for no other. -/
theorem custody_of_runThrough {events : List Event}
    (ran : runThrough step start events = some final) :
    start.Custody final events where
  steps := by
    rintro before event after rfl
    rw [runThrough_append] at ran
    obtain ⟨branch, reached, rest⟩ := Option.bind_eq_some_iff.mp ran
    obtain ⟨next, stepped, -⟩ := runThrough_cons_eq_some rest
    exact ⟨branch, next, reached, stepped, guards_of_step stepped⟩
  lasting := by
    intro number account hold found held
    have kept : ∀ {branch next : Branch} {event : Event},
        branch.bank.accounts.find? number = some account →
          branch.step event = some next →
            next.bank.accounts.find? number = some account ∨
              ∃ next, branch.step event = some next ∧
                ∃ call later, event.call? branch = some call ∧
                  next.bank.accounts.find? number = some later ∧
                  Bank.Ends number account hold call later := by
      intro branch next event present stepped
      rcases eq_or_ends_of_step stepped present held with stays | ends
      · exact Or.inl stays
      · exact Or.inr ⟨next, stepped, ends⟩
    rcases holds_or_breaks_of_runThrough kept found ran with
      stays | ⟨before, event, after, last, split, reached, present, next, stepped,
        ends⟩
    · exact Or.inl stays
    · exact Or.inr ⟨before, event, after, last, next, split, reached, stepped,
        present, ends⟩

/-- The bank of the payer, with the account of the payer taken. -/
def taken : Branch := sample.prepare sampleOrder

/-- Another transfer asks for the account, tries to release it and waits for it; its
own transfer asks to commit too much, and then the right amount. -/
def disputed : List Event :=
  [.prepare { sampleOrder with transfer := ⟨"t2"⟩ },
    .release ⟨Sample.payer.account, ⟨"t2"⟩⟩, .resume 0,
    .commit { sampleOrder with amount := ⟨2001, by decide⟩ }, .sweep 0,
    .commit sampleOrder]

theorem custody_of_disputed :
    ∃ final, runThrough step taken disputed = some final ∧
      taken.Custody final disputed ∧
      taken.bank.hold? Sample.payer.account = some sampleOrder.hold ∧
      final.bank.hold? Sample.payer.account = none ∧
      [taken, final].map sampleBalance = [some 10000, some 8000] := by
  have ran : runThrough step taken disputed = some _ := rfl
  exact ⟨_, ran, custody_of_runThrough ran, rfl, rfl, rfl⟩

end Branch

end ClearingHouse
