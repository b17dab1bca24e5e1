import ClearingHouse.Proofs.Bank.Effect
import ClearingHouse.Proofs.TableSum
import ClearingHouse.Transfer.Basic

/-!
# Several banks side by side

A call reaches one of several banks.  What the call does is told here in terms
of all of them: which account is held for which leg, what is remembered of the
legs, and how much money there is altogether.  `Banks.Turn` lists what can come
of a call, and the later proofs about whole systems split on it.
-/

namespace ClearingHouse

theorem Account.minor_of_moved_debit {account : Account}
    {amount balance : Amount} (fits : account.moved .debit amount = .ok balance) :
    balance.minor + amount.minor = account.balance.minor := by
  unfold moved at fits
  cases left : account.balance.sub? amount with
  | none => simp [left] at fits
  | some rest =>
      simp only [left] at fits
      cases fits
      exact Amount.minor_of_sub? left

theorem Account.minor_of_moved_credit {account : Account}
    {amount balance : Amount}
    (fits : account.moved .credit amount = .ok balance) :
    balance.minor = account.balance.minor + amount.minor := by
  unfold moved at fits
  cases sum : account.balance.add? amount with
  | none => simp [sum] at fits
  | some together =>
      simp only [sum] at fits
      cases fits
      exact Amount.minor_of_add? sum

theorem Account.minor_of_moved {account : Account} {side : Side}
    {amount balance : Amount} (fits : account.moved side amount = .ok balance) :
    balance.minor + (if side = .debit then amount.minor else 0) =
      account.balance.minor + if side = .credit then amount.minor else 0 := by
  cases side with
  | debit =>
      have moved := minor_of_moved_debit fits
      simpa using moved
  | credit =>
      have moved := minor_of_moved_credit fits
      simpa using moved

/-- Moving an amount that is not zero changes the balance. -/
theorem Account.balance_ne_of_moved {account : Account} {side : Side}
    {amount balance : Amount} (positive : amount.isZero = false)
    (fits : account.moved side amount = .ok balance) :
    balance ≠ account.balance := by
  rintro rfl
  have notZero : amount.minor ≠ 0 := by
    simpa [Amount.isZero] using positive
  cases side with
  | debit =>
      have moved := minor_of_moved_debit fits
      omega
  | credit =>
      have moved := minor_of_moved_credit fits
      omega

abbrev Banks : Type := Table BankName Bank

namespace Banks

def put (banks : Banks) (name : BankName) (bank : Bank) : Banks :=
  Table.insert banks name bank

def account? (banks : Banks) (party : Party) : Option Account :=
  (Table.find? banks party.bank).bind fun bank =>
    bank.accounts.find? party.account

def hold? (banks : Banks) (party : Party) : Option Hold :=
  (banks.account? party).bind Account.hold

def leg? (banks : Banks) (name : BankName) (transfer : TransferId)
    (side : Side) : Option LegRecord :=
  (Table.find? banks name).bind fun bank => bank.leg transfer side

def holdings (bank : Bank) : Nat :=
  bank.accounts.sum fun _ account => account.balance.minor

def total (banks : Banks) : Nat := Table.sum banks fun _ bank => holdings bank

variable {banks after : Banks} {name : BankName} {bank next : Bank}

theorem hold?_eq_some {party : Party} {hold : Hold} :
    banks.hold? party = some hold ↔
      ∃ account, banks.account? party = some account ∧
        account.hold = some hold := by
  unfold hold?
  exact Option.bind_eq_some_iff

theorem hold?_of_account? {party : Party} {account : Account}
    (found : banks.account? party = some account) :
    banks.hold? party = account.hold := by
  simp [hold?, found]

theorem account?_put (banks : Banks) (name : BankName) (bank : Bank)
    (party : Party) :
    (banks.put name bank).account? party =
      if name = party.bank then bank.accounts.find? party.account
      else banks.account? party := by
  unfold account? put
  rw [Table.find?_insert]
  split <;> rfl

theorem account?_of_find? (found : Table.find? banks name = some bank)
    (number : AccountNumber) :
    banks.account? ⟨name, number⟩ = bank.accounts.find? number := by
  simp [account?, found]

theorem account?_put_of_accounts (found : Table.find? banks name = some bank)
    (unwritten : next.accounts = bank.accounts) (party : Party) :
    (banks.put name next).account? party = banks.account? party := by
  rw [account?_put, unwritten]
  split
  · rename_i here
    subst here
    exact (account?_of_find? found party.account).symm
  · rfl

theorem leg?_put (banks : Banks) (name other : BankName) (bank : Bank)
    (transfer : TransferId) (side : Side) :
    (banks.put name bank).leg? other transfer side =
      if name = other then bank.leg transfer side
      else banks.leg? other transfer side := by
  unfold leg? put
  rw [Table.find?_insert]
  split <;> rfl

theorem leg?_of_find? (found : Table.find? banks name = some bank)
    (transfer : TransferId) (side : Side) :
    banks.leg? name transfer side = bank.leg transfer side := by
  simp [leg?, found]

theorem total_put (found : Table.find? banks name = some bank) (next : Bank) :
    (banks.put name next).total + holdings bank =
      banks.total + holdings next :=
  Table.sum_insert_of_present found _ next

/-! ## Changes of banks -/

/-- Nothing that can be seen has changed. -/
structure Same (banks after : Banks) : Prop where
  accounts : ∀ party, after.account? party = banks.account? party
  legs : ∀ name transfer side,
    after.leg? name transfer side = banks.leg? name transfer side
  total : after.total = banks.total

/-- No account but that of `party` has changed. -/
structure Writes (banks after : Banks) (party : Party) (old new : Account) :
    Prop where
  found : banks.account? party = some old
  accounts : ∀ other, after.account? other =
    if other = party then some new else banks.account? other
  total : after.total + old.balance.minor = banks.total + new.balance.minor

theorem Same.hold? (same : Same banks after) (party : Party) :
    after.hold? party = banks.hold? party := by
  simp only [Banks.hold?, same.accounts]

theorem Writes.hold? {party : Party} {old new : Account}
    (writes : Writes banks after party old new) (other : Party) :
    after.hold? other =
      if other = party then new.hold else banks.hold? other := by
  simp only [Banks.hold?, writes.accounts]
  split <;> rfl

theorem same_put (found : Table.find? banks name = some bank) :
    Same banks (banks.put name bank) where
  accounts := account?_put_of_accounts found rfl
  legs := by
    intro other transfer side
    rw [leg?_put]
    split
    · rename_i same
      subst same
      exact (leg?_of_find? found transfer side).symm
    · rfl
  total := by
    have written := total_put found bank
    omega

/-- A bank that has written one of its accounts. -/
theorem writes_put (found : Table.find? banks name = some bank)
    {number : AccountNumber} {old new : Account}
    (present : bank.accounts.find? number = some old)
    (written : next.accounts = bank.accounts.insert number new) :
    Writes banks (banks.put name next) ⟨name, number⟩ old new where
  found := (account?_of_find? found number).trans present
  accounts := by
    intro party
    obtain ⟨partyBank, partyAccount⟩ := party
    rw [account?_put, written, Table.find?_insert]
    by_cases here : name = partyBank
    · subst here
      by_cases same : number = partyAccount
      · simp [same]
      · have different : ¬ partyAccount = number := fun equal =>
          same equal.symm
        simp [same, different, account?_of_find? found]
    · have elsewhere : ¬ partyBank = name := fun equal => here equal.symm
      simp [here, elsewhere]
  total := by
    have within := Table.sum_insert_of_present present
      (fun _ (account : Account) => account.balance.minor) new
    have altogether := total_put found next
    unfold holdings at altogether
    rw [written] at altogether
    omega

/-- A bank that has written an account as it was. -/
theorem writes_put_of_accounts (found : Table.find? banks name = some bank)
    {number : AccountNumber} {account : Account}
    (present : bank.accounts.find? number = some account)
    (unwritten : next.accounts = bank.accounts) :
    Writes banks (banks.put name next) ⟨name, number⟩ account account where
  found := (account?_of_find? found number).trans present
  accounts := by
    intro party
    rw [account?_put_of_accounts found unwritten]
    split
    · rename_i here
      rw [here, account?_of_find? found, present]
    · rfl
  total := by
    have altogether := total_put found next
    unfold holdings at altogether
    rw [unwritten] at altogether
    omega

/-- The legs after the record of one of them has been written. -/
theorem leg?_put_of_write (found : Table.find? banks name = some bank)
    {transfer : TransferId} {side : Side} {record : LegRecord}
    (written : ∀ other otherSide, next.leg other otherSide =
      if (transfer, side) = (other, otherSide) then some record
      else bank.leg other otherSide)
    (otherName : BankName) (other : TransferId) (otherSide : Side) :
    (banks.put name next).leg? otherName other otherSide =
      if otherName = name ∧ other = transfer ∧ otherSide = side then
        some record
      else banks.leg? otherName other otherSide := by
  rw [leg?_put]
  by_cases here : name = otherName
  · subst here
    rw [if_pos rfl, written, leg?_of_find? found]
    by_cases same : (transfer, side) = (other, otherSide)
    · cases same
      simp
    · have different : ¬ (other = transfer ∧ otherSide = side) := by
        rintro ⟨rfl, rfl⟩
        exact same rfl
      simp [same, different]
  · have elsewhere : ¬ otherName = name := fun equal => here equal.symm
    simp [here, elsewhere]

/-! ## What comes of a call -/

/-- What can come of a call to the bank of this name: the banks afterwards, and
what the call comes to. -/
inductive Turn (banks : Banks) (now : Nat) (name : BankName) :
    BankCall → Banks → Bank.Attempt BankReply → Prop where
  | prepareRefused (order : LegOrder) (refusal : Refusal) {after : Banks}
      (same : Same banks after) :
      Turn banks now name (.prepare order) after (.finished (.error refusal))
  | prepareAgain (order : LegOrder) (pause number : Nat) {after : Banks}
      (same : Same banks after) :
      Turn banks now name (.prepare order) after (.again pause number)
  /-- The leg has been committed before. -/
  | prepareKnown (order : LegOrder) (record : LegRecord) {after : Banks}
      (known : banks.leg? name order.transfer order.side = some record)
      (committed : record.status = .committed) (same : Same banks after) :
      Turn banks now name (.prepare order) after (.finished (.ok .done))
  /-- The account was free and the leg could be applied, or the very hold was
  there already. -/
  | prepared (order : LegOrder) (account : Account) {after : Banks}
      (ready : account.hold = some order.hold ∨
        account.hold = none ∧
          ∃ balance, account.moved order.side order.amount = .ok balance)
      (writes : Writes banks after ⟨name, order.account⟩ account
        { account with hold := some order.hold })
      (legs : ∀ other transfer side, after.leg? other transfer side =
        if other = name ∧ transfer = order.transfer ∧ side = order.side then
          some (.prepared order.account)
        else banks.leg? other transfer side) :
      Turn banks now name (.prepare order) after (.finished (.ok .done))
  | commitRefused (order : LegOrder) (refusal : Refusal) {after : Banks}
      (same : Same banks after) :
      Turn banks now name (.commit order) after (.finished (.error refusal))
  | commitKnown (order : LegOrder) (record : LegRecord) {after : Banks}
      (known : banks.leg? name order.transfer order.side = some record)
      (committed : record.status = .committed) (same : Same banks after) :
      Turn banks now name (.commit order) after (.finished (.ok .done))
  | applied (order : LegOrder) (account : Account) (balance : Amount)
      (record : LegRecord) {after : Banks}
      (held : account.hold = some order.hold)
      (fits : account.moved order.side order.amount = .ok balance)
      (known : banks.leg? name order.transfer order.side = some record)
      (prepared : record.status = .prepared)
      (sameAccount : record.account = order.account)
      (writes : Writes banks after ⟨name, order.account⟩ account
        ⟨balance, none⟩)
      (legs : ∀ other transfer side, after.leg? other transfer side =
        if other = name ∧ transfer = order.transfer ∧ side = order.side then
          some (record.settle now .committed)
        else banks.leg? other transfer side) :
      Turn banks now name (.commit order) after (.finished (.ok .done))
  /-- The transfer does not hold the account. -/
  | idle (order : ReleaseOrder) (result : Except Refusal BankReply)
      {after : Banks}
      (notHeld : ∀ hold, banks.hold? ⟨name, order.account⟩ = some hold →
        hold.transfer ≠ order.transfer)
      (same : Same banks after) :
      Turn banks now name (.release order) after (.finished result)
  | released (order : ReleaseOrder) (account : Account) (hold : Hold)
      {after : Banks} (held : account.hold = some hold)
      (holder : hold.transfer = order.transfer)
      (writes : Writes banks after ⟨name, order.account⟩ account
        { account with hold := none })
      (legs : ∀ other transfer side, after.leg? other transfer side =
        if other = name ∧ transfer = order.transfer then
          (banks.leg? other transfer side).map fun record =>
            record.unwound now order.account
        else banks.leg? other transfer side) :
      Turn banks now name (.release order) after (.finished (.ok .done))
  | told (number : AccountNumber) (result : Except Refusal BankReply)
      {after : Banks} (same : Same banks after) :
      Turn banks now name (.balance number) after (.finished result)

theorem leg?_of_legStatus {transfer : TransferId} {side : Side}
    {status : LegStatus} (found : Table.find? banks name = some bank)
    (known : bank.legStatus transfer side = some status) :
    ∃ record, banks.leg? name transfer side = some record ∧
      record.status = status := by
  rw [leg?_of_find? found]
  exact Option.map_eq_some_iff.mp known

/-- Every effect that a call can have on its bank is one of the turns. -/
theorem turn_of_effect {now : Nat} {call : BankCall}
    {result : Bank × Bank.Attempt BankReply}
    (found : Table.find? banks name = some bank)
    (effect : bank.Effect now call result) :
    Turn banks now name call (banks.put name result.1) result.2 := by
  cases effect with
  | prepareRefused order refusal =>
      exact .prepareRefused order refusal (same_put found)
  | prepareAgain order pause number =>
      exact .prepareAgain order pause number (same_put found)
  | prepareKnown order committed =>
      obtain ⟨record, known, status⟩ := leg?_of_legStatus found committed
      exact .prepareKnown order record known status (same_put found)
  | taken order account balance present free fits =>
      exact .prepared order account (Or.inr ⟨free, balance, fits⟩)
        (writes_put found present rfl)
        (leg?_put_of_write found (bank.leg_taking order account))
  | retaken order account present held =>
      have unchanged : { account with hold := some order.hold } = account := by
        rw [← held]
      refine .prepared order account (Or.inl held) ?_
        (leg?_put_of_write found fun other otherSide => by
          rw [Bank.leg_withLeg])
      rw [unchanged]
      exact writes_put_of_accounts found present rfl
  | commitRefused order refusal =>
      exact .commitRefused order refusal (same_put found)
  | commitKnown order committed =>
      obtain ⟨record, known, status⟩ := leg?_of_legStatus found committed
      exact .commitKnown order record known status (same_put found)
  | applied order account balance present held fits known status sameAccount =>
      exact .applied order account balance _ held fits
        ((leg?_of_find? found _ _).trans known) status sameAccount
        (writes_put found present rfl)
        (leg?_put_of_write found (bank.leg_applying now order balance _))
  | releaseRefused order refusal absent =>
      refine .idle order _ ?_ (same_put found)
      intro hold held
      obtain ⟨account, present, -⟩ := hold?_eq_some.mp held
      rw [account?_of_find? found, absent] at present
      cases present
  | releaseIdle order account present notHeld =>
      refine .idle order _ ?_ (same_put found)
      intro hold held
      rw [hold?_of_account? ((account?_of_find? found _).trans present)] at held
      exact notHeld hold held
  | released order account hold present held holder =>
      refine .released order account hold held holder
        (writes_put found present (by simp [Bank.releasing, Bank.withAccount]))
        ?_
      intro other transfer side
      rw [leg?_put, Bank.leg_releasing]
      by_cases here : name = other
      · subst here
        simp only [if_true, true_and, leg?_of_find? found]
        by_cases same : order.transfer = transfer
        · simp [same]
        · have different : ¬ transfer = order.transfer := fun equal =>
            same equal.symm
          simp [same, different]
      · have elsewhere : ¬ other = name := fun equal => here equal.symm
        simp [here, elsewhere]
  | told number result => exact .told number result (same_put found)

theorem turn_receive (found : Table.find? banks name = some bank) (now : Nat)
    (call : BankCall) :
    Turn banks now name call (banks.put name (bank.receive now call).1)
      (bank.receive now call).2 :=
  turn_of_effect found (Bank.effect_receive call)

theorem turn_resume (found : Table.find? banks name = some bank)
    (now number : Nat) (order : LegOrder) :
    Turn banks now name (.prepare order)
      (banks.put name (bank.resume number (.prepare order)).1)
      (bank.resume number (.prepare order)).2 :=
  turn_of_effect found (Bank.effect_resume number order)

/-- Nothing but a prepare pauses. -/
theorem Turn.prepare_of_again {now pause number : Nat} {call : BankCall}
    {attempt : Bank.Attempt BankReply}
    (turn : Turn banks now name call after attempt)
    (again : attempt = .again pause number) :
    ∃ order, call = .prepare order := by
  subst again
  cases turn with
  | prepareAgain order pause number same => exact ⟨order, rfl⟩

/-- A prepare that pauses has changed nothing. -/
theorem Turn.same_of_again {now pause number : Nat} {call : BankCall}
    (turn : Turn banks now name call after (.again pause number)) :
    Same banks after := by
  cases turn with
  | prepareAgain order pause number same => exact same

end Banks

end ClearingHouse
