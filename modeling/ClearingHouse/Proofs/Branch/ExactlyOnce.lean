import ClearingHouse.Proofs.Branch.Basic
import ClearingHouse.Proofs.Sample
import ClearingHouse.Proofs.TableSum

/-!
# When a committed leg stays committed

A committed leg is acknowledged from then on, so it should be applied only once.
But a prepare looks for a committed leg before its first attempt, and not after
its pauses.  If one is still pausing for the leg when the leg is committed, it may
take the account again and prepare the leg anew, and the next commit applies the
leg a second time.  `isFinal_iff_not_isWaiting` shows that nothing else can do
this.
-/

namespace ClearingHouse

theorem LegRecord.not_isKept {record : LegRecord} {now retention : Nat}
    (dropped : ¬ record.isKept now retention = true) :
    ∃ settledAt, record.settledAt = some settledAt ∧
      retention ≤ now - settledAt := by
  unfold LegRecord.isKept at dropped
  cases settled : record.settledAt with
  | none => simp [settled] at dropped
  | some settledAt =>
      refine ⟨settledAt, rfl, ?_⟩
      simpa [settled] using dropped

namespace Bank

variable {bank : Bank} {now : Nat} {transfer : TransferId} {side : Side}
  {record : LegRecord}

/-- A call that is not a prepare of a committed leg leaves the leg as it is, and
takes no account for it. -/
theorem Effect.keeps_committed {call : BankCall}
    {result : Bank × Attempt BankReply} (effect : bank.Effect now call result)
    (known : bank.leg transfer side = some record)
    (committed : record.status = .committed)
    (other : ∀ order, call = .prepare order →
      ¬ (order.transfer = transfer ∧ order.side = side)) :
    result.1.leg transfer side = some record ∧
      ∀ number hold, result.1.hold? number = some hold →
        hold.transfer = transfer → hold.side = side →
          bank.hold? number = some hold := by
  cases effect with
  | prepareRefused order refusal => exact ⟨known, fun _ _ held _ _ => held⟩
  | prepareAgain order pause number => exact ⟨known, fun _ _ held _ _ => held⟩
  | prepareKnown order isCommitted => exact ⟨known, fun _ _ held _ _ => held⟩
  | taken order account balance found free fits =>
      have elsewhere := other order rfl
      constructor
      · rw [leg_taking, if_neg]
        · exact known
        · rintro ⟨⟩
          exact elsewhere ⟨rfl, rfl⟩
      · intro number hold held about onSide
        simp only [hold?, find?_taking_accounts] at held
        split at held
        · cases held
          exact absurd ⟨about, onSide⟩ elsewhere
        · exact held
  | retaken order account found isHeld =>
      have elsewhere := other order rfl
      constructor
      · rw [leg_withLeg, if_neg]
        · exact known
        · rintro ⟨⟩
          exact elsewhere ⟨rfl, rfl⟩
      · exact fun _ _ held _ _ => held
  | commitRefused order refusal => exact ⟨known, fun _ _ held _ _ => held⟩
  | commitKnown order isCommitted => exact ⟨known, fun _ _ held _ _ => held⟩
  | applied order account balance found isHeld fits prepared preparedStatus
      preparedAccount =>
      constructor
      · rw [leg_applying, if_neg]
        · exact known
        · rintro ⟨⟩
          rw [known] at prepared
          cases prepared
          rw [committed] at preparedStatus
          cases preparedStatus
      · intro number hold held about onSide
        simp only [hold?, find?_applying_accounts] at held
        split at held
        · cases held
        · exact held
  | releaseRefused order refusal absent =>
      exact ⟨known, fun _ _ held _ _ => held⟩
  | releaseIdle order account found notHeld =>
      exact ⟨known, fun _ _ held _ _ => held⟩
  | released order account hold found isHeld holder =>
      constructor
      · rw [leg_releasing, known]
        split <;> simp [LegRecord.unwound, committed]
      · intro number other held about onSide
        simp only [hold?, find?_releasing_accounts] at held
        split at held
        · cases held
        · exact held
  | told number result => exact ⟨known, fun _ _ held _ _ => held⟩

end Bank

namespace Branch

/-- An event is a sweep that finds a settled leg old enough. -/
def Forgets (branch : Branch) (record : LegRecord) : Event → Prop
  | .sweep retention => ∃ settledAt, record.settledAt = some settledAt ∧
      retention ≤ branch.now - settledAt
  | _ => False

/-- A leg is as it was at the start: its record has not changed, no account has
become held for it, and a further commit of it changes nothing. -/
structure Lasts (start branch : Branch) (transfer : TransferId) (side : Side)
    (record : LegRecord) : Prop where
  known : branch.bank.leg transfer side = some record
  holds : ∀ number hold, branch.bank.hold? number = some hold →
    hold.transfer = transfer → hold.side = side →
      start.bank.hold? number = some hold
  inert : ∀ order : LegOrder, order.transfer = transfer → order.side = side →
    (branch.bank.commit branch.now order).1 = branch.bank

/-- Whatever happens from now on, the leg stays as it is until a sweep finds it
old enough. -/
def IsFinal (start : Branch) (transfer : TransferId) (side : Side)
    (record : LegRecord) : Prop :=
  ∀ events final, runThrough step start events = some final →
    start.Lasts final transfer side record ∨
      ∃ before event after swept, events = before ++ event :: after ∧
        runThrough step start before = some swept ∧
        start.Lasts swept transfer side record ∧ swept.Forgets record event

variable {start branch next : Branch} {transfer : TransferId} {side : Side}
  {record : LegRecord}

theorem lasts_of_committed
    (known : branch.bank.leg transfer side = some record)
    (committed : record.status = .committed)
    (holds : ∀ number hold, branch.bank.hold? number = some hold →
      hold.transfer = transfer → hold.side = side →
        start.bank.hold? number = some hold) :
    start.Lasts branch transfer side record where
  known := known
  holds := holds
  inert := by
    rintro order rfl rfl
    apply Bank.commit_of_committed
    simp [Bank.legStatus, known, committed]

/-- If no prepare of a committed leg pauses, one step keeps the leg as it is and
lets no prepare of it pause, or sweeps it. -/
theorem Lasts.step {event : Event}
    (lasts : start.Lasts branch transfer side record)
    (committed : record.status = .committed)
    (quiet : ¬ branch.IsWaiting transfer side)
    (stepped : branch.step event = some next) :
    (start.Lasts next transfer side record ∧ ¬ next.IsWaiting transfer side) ∨
      branch.Forgets record event := by
  have keeps : ∀ {call result}, branch.bank.Effect branch.now call result →
      (∀ order, call = .prepare order →
        ¬ (order.transfer = transfer ∧ order.side = side)) →
      ∀ later : Branch, later.bank = result.1 →
        start.Lasts later transfer side record := by
    intro call result effect other later sameBank
    obtain ⟨known, holds⟩ := effect.keeps_committed lasts.known committed other
    rw [← sameBank] at known holds
    apply lasts_of_committed known committed
    intro number hold held about onSide
    exact lasts.holds number hold (holds number hold held about onSide) about
      onSide
  cases event with
  | prepare order =>
      cases stepped
      left
      by_cases same : order.transfer = transfer ∧ order.side = side
      · -- The leg is known to be committed, so the prepare is answered at once.
        obtain ⟨rfl, rfl⟩ := same
        have status : branch.bank.legStatus order.transfer order.side =
            some .committed := by
          simp [Bank.legStatus, lasts.known, committed]
        obtain ⟨result, answered⟩ := Bank.prepare_of_committed status
        have unchanged : branch.prepare order = branch := by
          simp only [Branch.prepare, answered]
        rw [unchanged]
        exact ⟨lasts, quiet⟩
      · have other : ∀ asked, BankCall.prepare order = .prepare asked →
            ¬ (asked.transfer = transfer ∧ asked.side = side) := by
          rintro asked ⟨⟩
          exact same
        rcases branch.prepare_cases order with
          answered | ⟨pause, number, again, paused⟩
        · rw [answered]
          exact ⟨keeps (effect_prepare branch order) other _ rfl, quiet⟩
        · rw [paused]
          refine ⟨keeps (effect_prepare branch order) other _ rfl, ?_⟩
          rintro ⟨waiting, member, about⟩
          rcases List.mem_append.mp member with old | new
          · exact quiet ⟨waiting, old, about⟩
          · rw [List.mem_singleton.mp new] at about
            exact same about
  | commit order =>
      cases stepped
      exact Or.inl ⟨keeps (Bank.effect_commit order) (by rintro asked ⟨⟩) _ rfl,
        quiet⟩
  | release order =>
      cases stepped
      exact Or.inl ⟨keeps (Bank.effect_release order) (by rintro asked ⟨⟩) _ rfl,
        quiet⟩
  | resume index =>
      obtain ⟨waiting, found, sameBank, waitingOf⟩ := resume_eq_some stepped
      have member := List.mem_of_getElem? found
      have other : ∀ asked, BankCall.prepare waiting.order = .prepare asked →
          ¬ (asked.transfer = transfer ∧ asked.side = side) := by
        rintro asked ⟨⟩ about
        exact quiet ⟨waiting, member, about⟩
      refine Or.inl ⟨keeps (effect_attempt branch waiting) other next sameBank, ?_⟩
      rintro ⟨later, laterMember, about⟩
      rcases waitingOf later laterMember with old | sameOrder
      · exact quiet ⟨later, old, about⟩
      · rw [sameOrder] at about
        exact quiet ⟨waiting, member, about⟩
  | drop index =>
      cases stepped
      refine Or.inl ⟨⟨lasts.known, lasts.holds, lasts.inert⟩, ?_⟩
      rintro ⟨waiting, member, about⟩
      exact quiet ⟨waiting, List.mem_of_mem_eraseIdx member, about⟩
  | sweep retention =>
      cases stepped
      have legOf : (branch.bank.sweep branch.now retention).leg transfer side =
          (branch.bank.leg transfer side).filter fun record =>
            record.isKept branch.now retention :=
        Table.find?_retain _ _ _
      by_cases kept : record.isKept branch.now retention = true
      · left
        refine ⟨lasts_of_committed ?_ committed lasts.holds, quiet⟩
        rw [show Bank.leg _ transfer side = _ from legOf, lasts.known]
        simp [kept]
      · exact Or.inr (LegRecord.not_isKept kept)
  | rest milliseconds =>
      cases stepped
      exact Or.inl ⟨lasts_of_committed lasts.known committed lasts.holds, quiet⟩

/-- If no prepare of a committed leg pauses, the leg is applied once and for all. -/
theorem isFinal_of_not_isWaiting
    (known : start.bank.leg transfer side = some record)
    (committed : record.status = .committed)
    (quiet : ¬ start.IsWaiting transfer side) :
    start.IsFinal transfer side record := by
  intro events final ran
  have lasts : start.Lasts start transfer side record :=
    lasts_of_committed known committed fun _ _ held _ _ => held
  have kept : ∀ {branch next : Branch} {event : Event},
      start.Lasts branch transfer side record ∧
          ¬ branch.IsWaiting transfer side →
        branch.step event = some next →
          (start.Lasts next transfer side record ∧
              ¬ next.IsWaiting transfer side) ∨
            branch.Forgets record event :=
    fun holds stepped => holds.1.step committed holds.2 stepped
  rcases holds_or_breaks_of_runThrough kept ⟨lasts, quiet⟩ ran with
    ⟨stays, -⟩ | ⟨before, event, after, swept, split, reached, ⟨had, -⟩, forgets⟩
  · exact Or.inl stays
  · exact Or.inr ⟨before, event, after, swept, split, reached, had, forgets⟩

/-! ## Prepares that pause -/

/-- The prepares that pause have found their accounts. -/
def Placed (branch : Branch) : Prop :=
  ∀ waiting ∈ branch.waiting, ∃ account,
    branch.bank.accounts.find? waiting.order.account = some account

/-- One state leads to another, and no bank forgets anything on the way. -/
def LeadsTo (branch next : Branch) : Prop :=
  ∃ events, (∀ event ∈ events, ∀ retention, event ≠ .sweep retention) ∧
    runThrough step branch events = some next

theorem LeadsTo.refl (branch : Branch) : branch.LeadsTo branch :=
  ⟨[], by simp, rfl⟩

theorem LeadsTo.trans {later : Branch} (first : branch.LeadsTo next)
    (second : next.LeadsTo later) : branch.LeadsTo later := by
  obtain ⟨firstEvents, firstKeeps, firstRan⟩ := first
  obtain ⟨secondEvents, secondKeeps, secondRan⟩ := second
  refine ⟨firstEvents ++ secondEvents, ?_, ?_⟩
  · intro event member
    rcases List.mem_append.mp member with early | late
    · exact firstKeeps event early
    · exact secondKeeps event late
  · rw [runThrough_append, firstRan]
    exact secondRan

theorem LeadsTo.of_step {event : Event}
    (stepped : branch.step event = some next)
    (keeps : ∀ retention, event ≠ .sweep retention) : branch.LeadsTo next := by
  refine ⟨[event], ?_, ?_⟩
  · simpa using keeps
  · simp [runThrough, stepped]

/-- An account that is held can be freed by the transfer that holds it. -/
theorem leadsTo_free {number : AccountNumber} {account : Account}
    (found : branch.bank.accounts.find? number = some account) :
    ∃ next free, branch.LeadsTo next ∧ next.waiting = branch.waiting ∧
      next.bank.accounts.find? number = some free ∧ free.hold = none := by
  cases held : account.hold with
  | none => exact ⟨branch, account, .refl branch, rfl, found, held⟩
  | some hold =>
      let order : ReleaseOrder := ⟨number, hold.transfer⟩
      have released : branch.bank.release branch.now order =
          (branch.bank.releasing branch.now order account, .ok ()) :=
        Bank.release_of_held branch.now found held rfl
      have stepped : branch.step (.release order) =
          some { branch with
            bank := branch.bank.releasing branch.now order account } := by
        simp [Branch.step, released]
      refine ⟨_, { account with hold := none },
        .of_step stepped (by rintro retention ⟨⟩), rfl, ?_, rfl⟩
      rw [Bank.find?_releasing_accounts]
      exact if_pos rfl

/-- If an amount cannot be moved on an account, it can after another one has been
moved there. -/
theorem exists_room (account : Account) (side : Side) (amount : Amount) :
    (∃ balance, account.moved side amount = .ok balance) ∨
      ∃ other room between balance, room.isZero = false ∧
        account.moved other room = .ok between ∧
        (⟨between, none⟩ : Account).moved side amount = .ok balance := by
  have accountBound := account.balance.bounded
  have amountBound := amount.bounded
  cases side with
  | debit =>
      by_cases enough : amount.minor ≤ account.balance.minor
      · left
        refine ⟨⟨account.balance.minor - amount.minor, by omega⟩, ?_⟩
        simp only [Account.moved, Amount.sub?, if_pos enough]
      · right
        have sum : account.balance.minor +
            (amount.minor - account.balance.minor) = amount.minor := by omega
        refine ⟨.credit, ⟨amount.minor - account.balance.minor, by omega⟩, amount,
          Amount.zero, ?_, ?_, ?_⟩
        · simp only [Amount.isZero, beq_eq_false_iff_ne]
          omega
        · simp only [Account.moved, Amount.add?, sum, Amount.ofMinor?_minor]
        · simp [Account.moved, Amount.sub?, Amount.zero]
  | credit =>
      by_cases fits : account.balance.minor + amount.minor < 2 ^ 64
      · left
        refine ⟨⟨account.balance.minor + amount.minor, fits⟩, ?_⟩
        simp only [Account.moved, Amount.add?, Amount.ofMinor?, dif_pos fits]
      · right
        obtain ⟨excess, sum⟩ : ∃ excess,
            account.balance.minor + amount.minor = 2 ^ 64 + excess :=
          ⟨_, (Nat.add_sub_cancel' (Nat.le_of_not_lt fits)).symm⟩
        have less : excess + 1 ≤ account.balance.minor := by omega
        have full : account.balance.minor - (excess + 1) + amount.minor <
            2 ^ 64 := by omega
        refine ⟨.debit, ⟨excess + 1, by omega⟩,
          ⟨account.balance.minor - (excess + 1), by omega⟩, ⟨_, full⟩, ?_, ?_,
          ?_⟩
        · simp only [Amount.isZero, beq_eq_false_iff_ne]
          omega
        · simp only [Account.moved, Amount.sub?, if_pos less]
        · simp only [Account.moved, Amount.add?, Amount.ofMinor?, dif_pos full]

theorem exists_bound (ids : List TransferId) :
    ∃ bound, ∀ id ∈ ids, id.text.length ≤ bound := by
  induction ids with
  | nil => exact ⟨0, by simp⟩
  | cons id ids ih =>
      obtain ⟨bound, bounds⟩ := ih
      refine ⟨max id.text.length bound, ?_⟩
      intro other member
      rcases List.mem_cons.mp member with rfl | later
      · exact Nat.le_max_left _ _
      · exact Nat.le_trans (bounds other later) (Nat.le_max_right _ _)

/-- There is always a name left that a bank has not heard of. -/
theorem exists_unknown (bank : Bank) :
    ∃ id : TransferId, id.isBlank = false ∧
      ∀ side, bank.leg id side = none := by
  obtain ⟨bound, bounds⟩ :=
    exists_bound (bank.legs.entries.map fun entry => entry.1.1)
  refine ⟨⟨String.ofList (List.replicate (bound + 1) 'x')⟩, ?_, ?_⟩
  · have solid : Text.isBlank 'x' = false := by decide
    simp [TransferId.isBlank, Text.isAllBlank, List.replicate_succ, solid]
  · intro side
    cases known : bank.leg ⟨String.ofList (List.replicate (bound + 1) 'x')⟩ side
      with
    | none => rfl
    | some record =>
        have member := (bank.legs.mem_entries_iff _ record).mpr known
        have short := bounds _ (List.mem_map.mpr ⟨_, member, rfl⟩)
        simp only [String.length_ofList, List.length_replicate] at short
        omega

/-- On a free account there can be made room for a leg. -/
theorem leadsTo_room {number : AccountNumber} {account : Account}
    (found : branch.bank.accounts.find? number = some account)
    (free : account.hold = none) (side : Side) (amount : Amount) :
    ∃ next roomy balance, branch.LeadsTo next ∧ next.waiting = branch.waiting ∧
      next.bank.accounts.find? number = some roomy ∧ roomy.hold = none ∧
      roomy.moved side amount = .ok balance := by
  rcases exists_room account side amount with
    ⟨balance, fits⟩ | ⟨other, room, between, balance, positive, makes, fits⟩
  · exact ⟨branch, account, balance, .refl branch, rfl, found, free, fits⟩
  · obtain ⟨id, named, unknown⟩ := exists_unknown branch.bank
    let order : LegOrder := ⟨other, number, room, id⟩
    -- Another transfer prepares and commits a leg that makes the room.
    let taken := branch.bank.taking order account
    have prepared : branch.bank.prepare order = (taken, .finished (.ok ())) :=
      (Bank.prepare_of_unknown named positive (unknown other)).trans
        (Bank.attemptPrepare_of_free 1 found free makes)
    have preparedStep : branch.step (.prepare order) =
        some { branch with bank := taken } := by
      simp [Branch.step, Branch.prepare, prepared]
    have takenAccount : taken.accounts.find? number =
        some { account with hold := some order.hold } :=
      (Bank.find?_taking_accounts ..).trans (if_pos rfl)
    have takenLeg : taken.leg id other = some (.prepared number) :=
      (Bank.leg_taking ..).trans (if_pos rfl)
    let settled := taken.applying branch.now order between (.prepared number)
    have committed : taken.commit branch.now order = (settled, .ok between) :=
      Bank.commit_of_prepared branch.now named positive takenLeg rfl rfl
        takenAccount rfl makes
    have committedStep :
        Branch.step { branch with bank := taken } (.commit order) =
          some { branch with bank := settled } := by
      simp [Branch.step, committed]
    have settledAccount : settled.accounts.find? number = some ⟨between, none⟩ :=
      (Bank.find?_applying_accounts ..).trans (if_pos rfl)
    refine ⟨{ branch with bank := settled }, ⟨between, none⟩, balance, ?_, rfl,
      settledAccount, rfl, fits⟩
    exact (LeadsTo.of_step preparedStep (by rintro retention ⟨⟩)).trans
      (.of_step committedStep (by rintro retention ⟨⟩))

/-- A prepare that pauses can still get its account, and prepares its leg anew. -/
theorem leadsTo_prepared (placed : branch.Placed)
    (waits : branch.IsWaiting transfer side) :
    ∃ next account, branch.LeadsTo next ∧
      next.bank.leg transfer side = some (.prepared account) := by
  obtain ⟨waiting, member, rfl, rfl⟩ := waits
  obtain ⟨account, found⟩ := placed waiting member
  obtain ⟨freed, free, leadsToFree, freeWaiting, freeFound, isFree⟩ :=
    leadsTo_free found
  obtain ⟨roomy, room, balance, leadsToRoom, roomyWaiting, roomFound, roomFree,
    fits⟩ :=
      leadsTo_room freeFound isFree waiting.order.side waiting.order.amount
  have still : waiting ∈ roomy.waiting := by
    rw [roomyWaiting, freeWaiting]
    exact member
  obtain ⟨index, inside, isWaiting⟩ := List.mem_iff_getElem.mp still
  have present : roomy.waiting[index]? = some waiting := by
    rw [List.getElem?_eq_getElem inside, isWaiting]
  have taken := Bank.attemptPrepare_of_free waiting.attempt roomFound roomFree
    fits
  have resumed : roomy.step (.resume index) =
      some { roomy with
        bank := roomy.bank.taking waiting.order room
        waiting := roomy.waiting.eraseIdx index } := by
    simp [Branch.step, Branch.resume, present, taken]
  refine ⟨_, waiting.order.account, (leadsToFree.trans leadsToRoom).trans
    (.of_step resumed (by rintro retention ⟨⟩)), ?_⟩
  exact (Bank.leg_taking ..).trans (if_pos rfl)

theorem Placed.of_accounts (placed : branch.Placed)
    (accounts : ∀ number account,
      branch.bank.accounts.find? number = some account →
        ∃ later, next.bank.accounts.find? number = some later)
    (waitingOf : ∀ later ∈ next.waiting, ∃ waiting ∈ branch.waiting,
      later.order = waiting.order) : next.Placed := by
  intro later member
  obtain ⟨waiting, wasMember, sameOrder⟩ := waitingOf later member
  obtain ⟨account, found⟩ := placed waiting wasMember
  rw [sameOrder]
  exact accounts _ account found

theorem account_of_paused {order : LegOrder} {pause number : Nat}
    (again : (branch.bank.prepare order).2 = .again pause number) :
    ∃ account, branch.bank.accounts.find? order.account = some account := by
  unfold Bank.prepare at again
  split at again
  · cases again
  · split at again
    · cases again
    · exact Bank.account_of_again again

theorem Placed.step {event : Event} (placed : branch.Placed)
    (stepped : branch.step event = some next) : next.Placed := by
  cases event with
  | prepare order =>
      cases stepped
      have accounts : ∀ number account,
          branch.bank.accounts.find? number = some account →
            ∃ later, (branch.bank.prepare order).1.accounts.find? number =
              some later :=
        fun number account found =>
          (effect_prepare branch order).find?_accounts found
      rcases branch.prepare_cases order with
        answered | ⟨pause, number, again, paused⟩
      · rw [answered]
        exact placed.of_accounts accounts fun later member =>
          ⟨later, member, rfl⟩
      · rw [paused]
        intro later member
        rcases List.mem_append.mp member with old | new
        · obtain ⟨account, found⟩ := placed later old
          exact accounts _ account found
        · rw [List.mem_singleton.mp new]
          obtain ⟨account, found⟩ := account_of_paused again
          exact accounts _ account found
  | commit order =>
      cases stepped
      exact placed.of_accounts
        (fun number account found =>
          (Bank.effect_commit order).find?_accounts found)
        fun later member => ⟨later, member, rfl⟩
  | release order =>
      cases stepped
      exact placed.of_accounts
        (fun number account found =>
          (Bank.effect_release order).find?_accounts found)
        fun later member => ⟨later, member, rfl⟩
  | resume index =>
      obtain ⟨waiting, found, sameBank, waitingOf⟩ := resume_eq_some stepped
      apply placed.of_accounts
      · intro number account present
        rw [sameBank]
        exact (effect_attempt branch waiting).find?_accounts present
      · intro later member
        rcases waitingOf later member with old | sameOrder
        · exact ⟨later, old, rfl⟩
        · exact ⟨waiting, List.mem_of_getElem? found, sameOrder⟩
  | drop index =>
      cases stepped
      exact placed.of_accounts (fun number account found => ⟨account, found⟩)
        fun later member => ⟨later, List.mem_of_mem_eraseIdx member, rfl⟩
  | sweep retention =>
      cases stepped
      exact placed.of_accounts (fun number account found => ⟨account, found⟩)
        fun later member => ⟨later, member, rfl⟩
  | rest milliseconds =>
      cases stepped
      exact placed.of_accounts (fun number account found => ⟨account, found⟩)
        fun later member => ⟨later, member, rfl⟩

/-- A committed leg is final exactly if no prepare of it pauses.  One that pauses
can overtake the commit. -/
theorem isFinal_iff_not_isWaiting {events : List Event}
    (idle : start.waiting = [])
    (ran : runThrough step start events = some branch)
    (known : branch.bank.leg transfer side = some record)
    (committed : record.status = .committed) :
    branch.IsFinal transfer side record ↔ ¬ branch.IsWaiting transfer side := by
  constructor
  · intro isFinal waits
    have placedAtStart : start.Placed := by
      intro waiting member
      rw [idle] at member
      cases member
    have placed : branch.Placed :=
      invariant_of_runThrough Placed.step placedAtStart ran
    obtain ⟨next, account, ⟨later, keeps, reached⟩, prepared⟩ :=
      leadsTo_prepared placed waits
    rcases isFinal later next reached with
      lasts | ⟨before, event, after, swept, split, -, -, forgets⟩
    · have same := Option.some.inj (lasts.known.symm.trans prepared)
      rw [same] at committed
      cases committed
    · cases event with
      | sweep retention =>
          refine keeps (.sweep retention) ?_ retention rfl
          rw [split]
          exact List.mem_append_right before List.mem_cons_self
      | _ => exact forgets
  · exact isFinal_of_not_isWaiting known committed

def sample : Branch where
  bank := Sample.payerBank
  waiting := []
  now := 0

def sampleOrder : LegOrder :=
  ⟨.debit, Sample.payer.account, ⟨2000, by decide⟩, ⟨"t1"⟩⟩

/-- The leg is prepared and committed while a first prepare of it pauses, as the
account was held by another transfer. -/
def overtaken : List Event :=
  [.prepare { sampleOrder with transfer := ⟨"t0"⟩ }, .prepare sampleOrder,
    .release ⟨Sample.payer.account, ⟨"t0"⟩⟩, .prepare sampleOrder,
    .commit sampleOrder]

def sampleBalance (branch : Branch) : Option Nat :=
  (branch.bank.accounts.find? Sample.payer.account).map fun account =>
    account.balance.minor

/-- With no prepare pausing the leg is final.  With one, going on with it and
committing again takes the twenty units twice. -/
theorem not_isFinal_of_overtaken :
    ∃ settled branch final record,
      runThrough step sample [.prepare sampleOrder, .commit sampleOrder] =
          some settled ∧
        settled.IsFinal sampleOrder.transfer .debit record ∧
        runThrough step sample overtaken = some branch ∧
        ¬ branch.IsFinal sampleOrder.transfer .debit record ∧
        runThrough step branch [.resume 0, .commit sampleOrder] = some final ∧
        [sample, settled, branch, final].map sampleBalance =
          [some 10000, some 8000, some 8000, some 6000] := by
  have settledRan : runThrough step sample
      [.prepare sampleOrder, .commit sampleOrder] = some _ := rfl
  have overtakenRan : runThrough step sample overtaken = some _ := rfl
  refine ⟨_, _, _, ⟨Sample.payer.account, .committed, some 0⟩, settledRan, ?_,
    overtakenRan, ?_, rfl, rfl⟩
  · apply (isFinal_iff_not_isWaiting rfl settledRan rfl rfl).mpr
    rintro ⟨waiting, member, -⟩
    cases member
  · intro isFinal
    apply (isFinal_iff_not_isWaiting rfl overtakenRan rfl rfl).mp isFinal
    exact ⟨⟨sampleOrder, 2⟩, List.mem_cons_self, rfl, rfl⟩

end Branch

end ClearingHouse
