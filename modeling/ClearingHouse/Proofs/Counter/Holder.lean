import ClearingHouse.Proofs.Counter.Basic
import ClearingHouse.Proofs.Hall.Wealth

/-!
# Only the holder of an account is debited

Callers share the names of transfers.  One may use the name of another's transfer
while it is under way, after it has ended or after everybody has forgotten it, and
may go away at any time.  Whatever is left behind under a name, a balance only goes
down when the settlement of an accepted order commits its debit leg, and the account
of that leg is the one that the token of the order stood for.

Nothing has to be remembered for this: it holds under every sweep.
-/

namespace ClearingHouse

namespace Banks

variable {banks after : Banks} {now : Nat} {name : BankName} {call : BankCall}
  {attempt : Bank.Attempt BankReply}

/-- A call that lowers a balance commits the debit leg that the account is held
for. -/
theorem Turn.lowers {party : Party} {old new : Amount}
    (turn : Turn banks now name call after attempt)
    (before : banks.balance? party = some old)
    (later : after.balance? party = some new) (less : new.minor < old.minor) :
    ∃ order, call = .commit order ∧ order.side = .debit ∧
      party = ⟨name, order.account⟩ ∧ banks.hold? party = some order.hold ∧
      new.minor + order.amount.minor = old.minor := by
  have moved : after.balance? party ≠ banks.balance? party := by
    rw [before, later]
    rintro ⟨⟩
    exact absurd less (Nat.lt_irrefl _)
  cases turn with
  | prepareRefused order refusal same => exact absurd (same.balance? party) moved
  | prepareAgain order pause number same => exact absurd (same.balance? party) moved
  | prepareKnown order record known committed same =>
      exact absurd (same.balance? party) moved
  | prepared order account ready writes legs =>
      exact absurd (writes.balance?_of_eq rfl party) moved
  | commitRefused order refusal same => exact absurd (same.balance? party) moved
  | commitKnown order record known committed same =>
      exact absurd (same.balance? party) moved
  | applied order account balance record held fits known prepared sameAccount
      writes legs =>
      rw [writes.balance?] at moved later
      split at moved
      · rename_i here
        subst here
        rw [if_pos rfl] at later
        cases later
        rw [writes.balance?_of_found] at before
        cases before
        have lowered : balance.minor < account.balance.minor := less
        have onDebit : order.side = .debit := by
          cases side : order.side with
          | debit => rfl
          | credit =>
              rw [side] at fits
              have raised := Account.minor_of_moved_credit fits
              omega
        refine ⟨order, rfl, onDebit, rfl, ?_, ?_⟩
        · rw [hold?_of_account? writes.found]
          exact held
        · rw [onDebit] at fits
          exact Account.minor_of_moved_debit fits
      · exact absurd rfl moved
  | idle order result notHeld same => exact absurd (same.balance? party) moved
  | released order account hold held holder writes legs =>
      exact absurd (writes.balance?_of_eq rfl party) moved
  | told number result same => exact absurd (same.balance? party) moved

end Banks

namespace Hall

variable {hall next : Hall} {event : Event}

/-- Nothing but the call of a settlement changes a balance. -/
theorem balance?_of_not_called (stepped : hall.step event = some next)
    (notCalled : ∀ number, event ≠ .call number) (party : Party) :
    next.banks.balance? party = hall.banks.balance? party := by
  cases event with
  | call number => exact absurd rfl (notCalled number)
  | expire number =>
      obtain ⟨attempt, floor, pausing, answered, rfl⟩ := expire_eq_some stepped
      rfl
  | order transfer | sweepJournal retention | rest milliseconds =>
      cases stepped
      rfl
  | conclude number | leave number =>
      obtain ⟨floor, -, rfl⟩ := Option.map_eq_some_iff.mp stepped
      rfl
  | sweepLegs name retention =>
      obtain ⟨bank, present, rfl⟩ := Option.map_eq_some_iff.mp stepped
      simp only [Banks.balance?, Banks.account?_sweep present]

/-- A balance goes down when a settlement commits the debit leg of its transfer, and
only by what the account was held for. -/
theorem Regular.lowers {party : Party} {old new : Amount} (regular : hall.Regular)
    (stepped : hall.step event = some next)
    (before : hall.banks.balance? party = some old)
    (later : next.banks.balance? party = some new) (less : new.minor < old.minor) :
    ∃ number run, event = .call number ∧
      hall.floor.runs[number]? = some run ∧ run.transfer.sender = party ∧
      hall.banks.hold? party = some (run.transfer.legOrder .debit).hold ∧
      new.minor + run.transfer.amount.minor = old.minor := by
  by_cases isCall : ∃ number, event = .call number
  · obtain ⟨number, rfl⟩ := isCall
    obtain ⟨run, stage, attempt, calls⟩ := regular.calls stepped
    obtain ⟨order, isCommit, onDebit, rfl, held, paid⟩ :=
      calls.turn.lowers before later less
    have isOrder : order = run.transfer.legOrder .debit ∧
        stage.bank run.transfer = run.transfer.sender.bank := by
      cases stage with
      | commitDebit =>
          cases isCommit
          exact ⟨rfl, rfl⟩
      | commitCredit =>
          cases isCommit
          cases onDebit
      | prepareDebit | prepareCredit => cases isCommit
      | releaseDebit cause creditNext => cases isCommit
      | releaseCredit cause => cases isCommit
    obtain ⟨rfl, atBank⟩ := isOrder
    refine ⟨number, run, rfl, calls.found, ?_, held, paid⟩
    rw [atBank]
    rfl
  · have unchanged := balance?_of_not_called stepped
      (fun number same => isCall ⟨number, same⟩) party
    rw [unchanged, before] at later
    cases later
    exact absurd less (Nat.lt_irrefl _)

end Hall

namespace Counter

variable {start counter next : Counter} {events past : List Event} {event : Event}

/-- A caller has ordered a payment with a token that stood for the caller then, and
the order has been accepted. -/
def OrderedBy (caller : Caller) (order : PaymentOrder) (counter : Counter)
    (event : Event) (_ : Counter) : Prop :=
  ∃ token, event = .pay token order ∧ counter.resolve token = .ok caller ∧
    (counter.pay token order).2 = .accepted

theorem orderedBy_of_accepted {call : Caller × PaymentOrder}
    (member : call ∈ accepted counter event next) :
    OrderedBy call.1 call.2 counter event next := by
  cases event with
  | pay token order =>
      simp only [accepted] at member
      split at member
      · rename_i caller resolved accepts
        rw [List.mem_singleton.mp member]
        exact ⟨token, rfl, resolved, accepts⟩
      · cases member
  | inside hallEvent => cases member
  | tick seconds => cases member

/-- How a step of a run can lower a balance: it is the call of a settlement.  The order
of this settlement came from the holder of the account, who has shown a token that
stood for the holder, and it named the transfer and the amount that the account is held
for. -/
structure DebitsHolder (start : Counter) (before : List Event) (counter : Counter)
    (event : Event) (party : Party) (paid : Nat) (number : Nat) (caller : Caller)
    (order : PaymentOrder) : Prop where
  isCall : event = .inside (.call number)
  /-- This and no other accepted order has started the settlement. -/
  started : (calls start before)[number]? = some (caller, order)
  ordered : Occurs step start before (OrderedBy caller order)
  holder : caller.party = party
  held : counter.hall.banks.hold? party =
    some ⟨order.transfer, .debit, order.amount⟩
  amount : order.amount.minor = paid

/-- Who is debited at a counter.  In every step of a run a balance goes down only on
the order of its holder.  So what a caller has ordered lowers no balance but that of
the account that the token of the order stood for, and a token that stands for nobody
changes nothing at all. -/
structure HoldersOnly (start : Counter) (before : List Event) (counter : Counter)
    (event : Event) (next : Counter) : Prop where
  lowered : ∀ party old new, counter.hall.banks.balance? party = some old →
    next.hall.banks.balance? party = some new → new.minor < old.minor →
      ∃ number caller order,
        DebitsHolder start before counter event party (old.minor - new.minor) number
          caller order
  others : ∀ number caller order, event = .inside (.call number) →
    (calls start before)[number]? = some (caller, order) →
      ∀ party old new, caller.party ≠ party →
        counter.hall.banks.balance? party = some old →
        next.hall.banks.balance? party = some new → old.minor ≤ new.minor
  refused : ∀ token order failure, event = .pay token order →
    counter.resolve token = .error failure → next = counter

theorem debitsHolder_of_step {start counter next : Counter} {before : List Event}
    {event : Event} {party : Party} {old new : Amount}
    (opening : start.hall.IsOpening)
    (reached : runThrough step start before = some counter)
    (stepped : counter.step event = some next)
    (known : counter.hall.banks.balance? party = some old)
    (later : next.hall.banks.balance? party = some new)
    (less : new.minor < old.minor) :
    ∃ number caller order,
      DebitsHolder start before counter event party (old.minor - new.minor) number
        caller order := by
  have regular : counter.hall.Regular :=
    invariant_of_runThrough regular_of_step
      (Hall.regular_of_isOpening opening) reached
  rcases hall_of_step stepped with
    ⟨same, -⟩ | ⟨hallEvent, rfl, -, hallStepped⟩ |
      ⟨token, order, caller, -, -, -, -, hallStepped⟩
  · rw [same, known] at later
    cases later
    exact absurd less (Nat.lt_irrefl _)
  · obtain ⟨number, run, rfl, found, rfl, held, paid⟩ :=
      regular.lowers hallStepped known later less
    -- The settlement with this number is that of the order with this number.
    have transfers := transfers_of_runThrough opening.floor.runs reached
    have isTransfer : counter.hall.floor.transfers[number]? =
        some run.transfer := by
      simp [Floor.transfers, found]
    rw [transfers, List.getElem?_map] at isTransfer
    obtain ⟨⟨caller, order⟩, isCall, asked⟩ :=
      Option.map_eq_some_iff.mp isTransfer
    have member := List.mem_of_getElem? isCall
    have occurs := (occurs_of_mem_collect reached member).mono
      fun _ _ _ => orderedBy_of_accepted
    rw [← asked] at held paid ⊢
    refine ⟨number, caller, order, rfl, isCall, occurs, rfl, held, ?_⟩
    simp only [PaymentOrder.transferOf] at paid
    omega
  · obtain ⟨number, run, isCall, -⟩ := regular.lowers hallStepped known later less
    cases isCall

/-- Whatever callers order, under whatever names, and however the settlements go on:
only the holder of an account is debited. -/
theorem holdersOnly_of_runThrough {final : Counter} {before after : List Event}
    (opening : start.hall.IsOpening)
    (ran : runThrough step start (before ++ event :: after) = some final) :
    ∃ counter next, runThrough step start before = some counter ∧
      counter.step event = some next ∧
      HoldersOnly start before counter event next := by
  rw [runThrough_append] at ran
  obtain ⟨counter, reached, rest⟩ := Option.bind_eq_some_iff.mp ran
  obtain ⟨next, stepped, -⟩ := runThrough_cons_eq_some rest
  refine ⟨counter, next, reached, stepped, ?_, ?_, ?_⟩
  · intro party old new known later less
    exact debitsHolder_of_step opening reached stepped known later less
  · intro number caller order isCall isOrder party old new other known later
    by_contra less
    obtain ⟨found, holder, debited, debits⟩ :=
      debitsHolder_of_step opening reached stepped known later (Nat.lt_of_not_le less)
    have sameNumber := debits.isCall
    rw [isCall] at sameNumber
    cases sameNumber
    have sameOrder := debits.started
    rw [isOrder] at sameOrder
    cases sameOrder
    exact other debits.holder
  · rintro token order failure rfl unresolved
    cases stepped
    have pays := counter.pays token order
    generalize counter.pay token order = paid at pays
    cases pays with
    | answered outcome answers => rfl
    | accepted caller resolved passed absent =>
        rw [unresolved] at resolved
        cases resolved

def sample : Counter where
  hall :=
    { Hall.sample with
      floor :=
        { Hall.sample.floor with
          house :=
            { Sample.house with
              credentials := .listed
                (Table.insert
                  (Table.insert Table.empty "a"
                    ⟨"payer", Sample.payer.bank, Sample.payer.account⟩)
                  "b" ⟨"payee", Sample.payee.bank, Sample.payee.account⟩) } } }
  clock := 0

theorem isOpening_sample : sample.hall.IsOpening where
  floor := ⟨rfl, rfl⟩
  pauses := fun _ => rfl
  unheld := Sample.hold?_banks
  noLeg := Sample.leg?_banks
  inside := Sample.inside_house

def sampleOrder : PaymentOrder :=
  ⟨Sample.payee.bank, Sample.payee.account, Sample.payment.amount, Sample.payment.id⟩

/-- While the payment is prepared, the payee and a stranger order payments under its
name. -/
def disputed : List Event :=
  [.pay "a" sampleOrder, .inside (.call 0),
    .pay "b" { sampleOrder with bank := Sample.payer.bank, account := Sample.payer.account },
    .pay "c" sampleOrder, .inside (.call 0)]

/-- The commit of the debit leg takes the payment from the payer, who has ordered
it. -/
theorem holdersOnly_of_disputed :
    ∃ counter next, runThrough step sample disputed = some counter ∧
      counter.step (.inside (.call 0)) = some next ∧
      HoldersOnly sample disputed counter (.inside (.call 0)) next ∧
      calls sample disputed =
        [(⟨"payer", Sample.payer.bank, Sample.payer.account⟩, sampleOrder)] ∧
      ([counter, next].map fun counter =>
        (counter.hall.banks.balance? Sample.payer).map Amount.minor) =
          [some 10000, some 9500] := by
  have ran : runThrough step sample (disputed ++ .inside (.call 0) :: []) =
      some _ := rfl
  obtain ⟨counter, next, reached, stepped, holdersOnly⟩ :=
    holdersOnly_of_runThrough isOpening_sample ran
  cases reached
  cases stepped
  exact ⟨_, _, rfl, rfl, holdersOnly, rfl, rfl⟩

end Counter

end ClearingHouse
