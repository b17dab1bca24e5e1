import ClearingHouse.Proofs.Hall.Sound
import ClearingHouse.Proofs.Sample

/-!
# Transfers in a hall are atomic

Between the two commits of a transfer its amount is on neither account.  Counted
as the payee's already, it makes the wealth of a party: the balance and all that
is owed to the account.  Seen through wealth, every step of a hall does nothing
at all, or makes one whole transfer.
-/

namespace ClearingHouse

namespace Banks

/-- What a transfer still owes to a party: its amount, between the two commits. -/
def owed (banks : Banks) (party : Party) (transfer : Transfer) : Nat :=
  if transfer.recipient = party ∧ banks.hasApplied transfer .debit = true ∧
      banks.hasApplied transfer .credit = false then
    transfer.amount.minor
  else 0

variable {banks after : Banks} {transfer : Transfer}

theorem owed_of_stands {debit credit : LegStanding}
    (debitStands : Stands true banks transfer .debit debit)
    (creditStands : Stands true banks transfer .credit credit)
    (party : Party) :
    banks.owed party transfer =
      if transfer.recipient = party ∧ debit = .moved ∧ credit ≠ .moved then
        transfer.amount.minor
      else 0 := by
  simp [owed, debitStands.hasApplied, creditStands.hasApplied]

theorem owed_of_unmoved {debit : LegStanding}
    (stands : Stands true banks transfer .debit debit)
    (unmoved : debit ≠ .moved) (party : Party) :
    banks.owed party transfer = 0 := by
  simp [owed, stands.hasApplied, unmoved]

theorem owed_of_moved
    (stands : Stands true banks transfer .credit .moved) (party : Party) :
    banks.owed party transfer = 0 := by
  simp [owed, stands.hasApplied]

theorem owed_of_agreeOn
    (agree : ∀ side, AgreeOn banks after transfer.id side) (party : Party) :
    after.owed party transfer = banks.owed party transfer := by
  simp only [owed, (agree .debit).hasApplied, (agree .credit).hasApplied]

end Banks

namespace Hall

/-- What all transfers in the journal still owe to a party. -/
def owed (hall : Hall) (party : Party) : Nat :=
  Table.sum hall.floor.house.journal fun _ entry =>
    hall.banks.owed party entry.transfer

/-- The balance of a party together with what is owed to it. -/
def wealth (hall : Hall) (party : Party) : Option Nat :=
  (hall.banks.balance? party).map fun balance =>
    balance.minor + hall.owed party

/-- A step has made one whole transfer: by it the bank of the payer has committed
the debit leg. -/
structure Transfers (hall next : Hall) (transfer : Transfer) : Prop where
  running : hall.floor.entryOf? transfer.id = some (.running transfer)
  distinct : transfer.sender ≠ transfer.recipient
  unapplied : hall.banks.hasApplied transfer .debit = false
  applied : next.banks.hasApplied transfer .debit = true
  paid : ∃ rest,
    hall.wealth transfer.sender = some (rest + transfer.amount.minor) ∧
      next.wealth transfer.sender = some rest
  received : ∃ wealth,
    hall.wealth transfer.recipient = some wealth ∧
      next.wealth transfer.recipient = some (wealth + transfer.amount.minor)
  others : ∀ party, party ≠ transfer.sender → party ≠ transfer.recipient →
    next.wealth party = hall.wealth party

variable {hall next : Hall} {number : Nat}

/-- Without a settlement under way nothing is owed to anyone. -/
theorem Sound.owed_of_quiet (sound : hall.Sound true)
    (quiet : ∀ number run, ¬ hall.floor.IsLive number run) (party : Party) :
    hall.owed party = 0 := by
  have none : hall.owed party =
      Table.sum hall.floor.house.journal fun _ _ => 0 := by
    apply Table.sum_congr
    intro id entry present
    cases final : entry.status.isFinal with
    | false =>
        have wellFormed := (sound.floor.entries id entry present).2
        have running := wellFormed.eq_running final
        rw [running] at present
        obtain ⟨number, run, live, -⟩ := sound.floor.attended id _ present
        exact absurd live (quiet number run)
    | true =>
        have stands := sound.ended id entry present final
        by_cases succeeded : entry.status = .succeeded
        · have moved : entry.standing = .moved := by
            simp [JournalEntry.standing, succeeded]
          exact Banks.owed_of_moved (moved ▸ stands .credit) party
        · apply Banks.owed_of_unmoved (stands .debit)
          simp [JournalEntry.standing, succeeded]
  rw [none]
  exact Table.sum_zero hall.floor.house.journal

/-- When a settlement has its turn, what is owed changes by what its transfer
owes. -/
theorem Sound.owed_turned {run : SettlementRun} (sound : hall.Sound true)
    (live : hall.floor.IsLive number run)
    (sameJournal : next.floor.house.journal = hall.floor.house.journal)
    (agree : ∀ id, id ≠ run.transfer.id → ∀ side,
      Banks.AgreeOn hall.banks next.banks id side) (party : Party) :
    next.owed party + hall.banks.owed party run.transfer =
      hall.owed party + next.banks.owed party run.transfer := by
  unfold owed
  rw [sameJournal]
  refine Table.sum_change (fun _ entry => hall.banks.owed party entry.transfer)
    (fun _ entry => next.banks.owed party entry.transfer)
    (sound.floor.live number run live) ?_
  intro other entry present different
  apply Banks.owed_of_agreeOn
  intro side
  apply agree
  rw [(sound.floor.entries other entry present).1]
  exact different

theorem wealth_congr (party : Party)
    (sameBalance : next.banks.balance? party = hall.banks.balance? party)
    (sameOwed : next.owed party = hall.owed party) :
    next.wealth party = hall.wealth party := by
  unfold wealth
  rw [sameBalance, sameOwed]

/-- A call gives its bank a turn, and leaves the journal alone. -/
theorem Sound.turn_of_step (sound : hall.Sound true)
    (called : hall.call number = some next) :
    ∃ run stage attempt, hall.floor.IsLive number run ∧
      run.phase = .calling stage ∧
      Banks.Turn hall.banks hall.floor.now (stage.bank run.transfer)
        (stage.call run.transfer) next.banks attempt ∧
      (stage = .commitDebit ∨ stage = .commitCredit →
        attempt = .finished (.ok .done)) ∧
      next.floor.house = hall.floor.house := by
  obtain ⟨run, stage, bank, found, calling, present, digested⟩ :=
    call_eq_some called
  have live := Floor.isLive_of_calling found calling
  obtain ⟨turn, acknowledged⟩ := sound.turn_of_call found calling present rfl
  refine ⟨run, stage, _, live, calling, ?_, acknowledged, ?_⟩
  · rcases digest_eq_some digested with
      ⟨answer, floor, heard, answered, rfl⟩ | ⟨pause, later, again, rfl⟩
    · exact turn
    · exact turn
  · rcases digest_eq_some digested with
      ⟨answer, floor, heard, answered, rfl⟩ | ⟨pause, later, again, rfl⟩
    · obtain ⟨_, _, _, _, rfl⟩ := Floor.answer_eq_some answered
      rfl
    · rfl

/-- Before the debit leg is committed, calls other than commits leave all wealth
as it is. -/
theorem Sound.wealth_of_unmoved {run : SettlementRun} {debit : LegStanding}
    {name : BankName} {call : BankCall} {attempt : Bank.Attempt BankReply}
    (stands : hall.banks.Stands true run.transfer .debit debit)
    (unmoved : debit ≠ .moved)
    (turn : Banks.Turn hall.banks hall.floor.now name call next.banks attempt)
    (notCommit : ∀ order, call ≠ .commit order)
    (owed : ∀ party,
      next.owed party + hall.banks.owed party run.transfer =
        hall.owed party + next.banks.owed party run.transfer)
    (party : Party) : next.wealth party = hall.wealth party := by
  apply wealth_congr party (turn.balance? notCommit party)
  have before := Banks.owed_of_unmoved stands unmoved party
  have after : next.banks.owed party run.transfer = 0 := by
    unfold Banks.owed
    apply if_neg
    rintro ⟨-, applied, -⟩
    have was := turn.hasApplied notCommit applied
    rw [stands.hasApplied] at was
    exact unmoved (of_decide_eq_true was)
  have changed := owed party
  omega

theorem wealth_eq {party : Party} {balance : Amount}
    (known : hall.banks.balance? party = some balance) :
    hall.wealth party = some (balance.minor + hall.owed party) := by
  simp [wealth, known]

theorem balance?_of_held {banks : Banks} {transfer : Transfer} {side : Side}
    (held : banks.Stands true transfer side .held) :
    ∃ balance, banks.balance? (transfer.party side) = some balance := by
  obtain ⟨account, found, -⟩ := Banks.hold?_eq_some.mp (held.held rfl).1
  exact ⟨account.balance, by simp [Banks.balance?, found]⟩

/-- The commit of the debit leg makes the whole transfer. -/
theorem Sound.transfers_of_commitDebit {run : SettlementRun}
    {attempt : Bank.Attempt BankReply} (sound : hall.Sound true)
    (live : hall.floor.IsLive number run)
    (debitHeld : hall.banks.Stands true run.transfer .debit .held)
    (creditHeld : hall.banks.Stands true run.transfer .credit .held)
    (turn : Banks.Turn hall.banks hall.floor.now (run.transfer.party .debit).bank
      (.commit (run.transfer.legOrder .debit)) next.banks attempt)
    (done : attempt = .finished (.ok .done))
    (owed : ∀ party,
      next.owed party + hall.banks.owed party run.transfer =
        hall.owed party + next.banks.owed party run.transfer) :
    hall.Transfers next run.transfer := by
  subst done
  have distinct := (sound.floor.checked number run live.1).distinct
  obtain ⟨debitMoved, account, balance, fits, writes⟩ :=
    turn.stands_commit debitHeld
  have creditAfter : next.banks.Stands true run.transfer .credit .held :=
    creditHeld.of_agreeOn (turn.agreeOn (by rintro ⟨-, ⟨⟩⟩))
  have unowed : ∀ party, hall.banks.owed party run.transfer = 0 :=
    Banks.owed_of_unmoved debitHeld LegStanding.held_ne_moved
  have owedAfter : ∀ party, next.owed party = hall.owed party +
      if run.transfer.recipient = party then run.transfer.amount.minor else 0 := by
    intro party
    have changed := owed party
    rw [unowed, Banks.owed_of_stands debitMoved creditAfter] at changed
    simpa using changed
  have balanceAfter : ∀ party, next.banks.balance? party =
      if party = run.transfer.sender then some balance
      else hall.banks.balance? party := writes.balance?
  have balanceBefore : hall.banks.balance? run.transfer.sender =
      some account.balance := by
    simp [Banks.balance?, show hall.banks.account? run.transfer.sender = _ from
      writes.found]
  have paid := Account.minor_of_moved_debit fits
  constructor
  · exact sound.floor.live number run live
  · exact distinct
  · rw [debitHeld.hasApplied]
    rfl
  · rw [debitMoved.hasApplied]
    rfl
  · refine ⟨balance.minor + hall.owed run.transfer.sender, ?_, ?_⟩
    · rw [wealth_eq balanceBefore]
      congr 1
      omega
    · rw [wealth_eq ((balanceAfter _).trans (if_pos rfl)), owedAfter,
        if_neg distinct.symm]
      rfl
  · obtain ⟨received, known⟩ := balance?_of_held creditHeld
    refine ⟨_, wealth_eq known, ?_⟩
    have knownAfter := (balanceAfter run.transfer.recipient).trans
      ((if_neg distinct.symm).trans known)
    rw [wealth_eq knownAfter, owedAfter, if_pos rfl]
    congr 1
    omega
  · intro party notSender notRecipient
    apply wealth_congr party ((balanceAfter party).trans (if_neg notSender))
    rw [owedAfter, if_neg notRecipient.symm]
    rfl

/-- The commit of the credit leg pays what is owed. -/
theorem Sound.wealth_of_commitCredit {run : SettlementRun}
    {attempt : Bank.Attempt BankReply}
    (debitMoved : hall.banks.Stands true run.transfer .debit .moved)
    (creditHeld : hall.banks.Stands true run.transfer .credit .held)
    (turn : Banks.Turn hall.banks hall.floor.now (run.transfer.party .credit).bank
      (.commit (run.transfer.legOrder .credit)) next.banks attempt)
    (done : attempt = .finished (.ok .done))
    (owed : ∀ party,
      next.owed party + hall.banks.owed party run.transfer =
        hall.owed party + next.banks.owed party run.transfer)
    (party : Party) : next.wealth party = hall.wealth party := by
  subst done
  obtain ⟨creditMoved, account, balance, fits, writes⟩ :=
    turn.stands_commit creditHeld
  have owedAfter := owed party
  rw [Banks.owed_of_moved creditMoved,
    Banks.owed_of_stands debitMoved creditHeld] at owedAfter
  have balanceAfter : next.banks.balance? party =
      if party = run.transfer.recipient then some balance
      else hall.banks.balance? party := writes.balance? party
  by_cases here : party = run.transfer.recipient
  · subst here
    have balanceBefore : hall.banks.balance? run.transfer.recipient =
        some account.balance := by
      simp [Banks.balance?, show hall.banks.account? run.transfer.recipient = _
        from writes.found]
    have received := Account.minor_of_moved_credit fits
    rw [wealth_eq (balanceAfter.trans (if_pos rfl)), wealth_eq balanceBefore]
    simp at owedAfter
    congr 1
    omega
  · have elsewhere : ¬ run.transfer.recipient = party := fun same =>
      here same.symm
    apply wealth_congr party (balanceAfter.trans (if_neg here))
    simpa [elsewhere] using owedAfter

/-- A call of a settlement changes no wealth, or makes its whole transfer. -/
theorem Sound.transfers_of_call (sound : hall.Sound true)
    (called : hall.call number = some next) :
    (∀ party, next.wealth party = hall.wealth party) ∨
      ∃ transfer, hall.Transfers next transfer := by
  obtain ⟨run, stage, attempt, live, calling, turn, acknowledged, sameHouse⟩ :=
    sound.turn_of_step called
  have owed := sound.owed_turned live (congrArg House.journal sameHouse)
    fun id different side =>
      turn.agreeOn fun touches => different
        (Settlement.Stage.id_of_touches_call touches)
  have stand := sound.stand_of_calling live.1 calling
  obtain ⟨debit, debitAllowed, debitStands⟩ := stand .debit
  obtain ⟨credit, creditAllowed, creditStands⟩ := stand .credit
  cases stage with
  | prepareDebit =>
      cases debitAllowed
      exact Or.inl (wealth_of_unmoved debitStands LegStanding.idle_ne_moved turn
        (by rintro order ⟨⟩) owed)
  | prepareCredit =>
      cases debitAllowed
      exact Or.inl (wealth_of_unmoved debitStands LegStanding.held_ne_moved turn
        (by rintro order ⟨⟩) owed)
  | releaseDebit cause creditNext =>
      exact Or.inl (wealth_of_unmoved debitStands debitAllowed turn
        (by rintro order ⟨⟩) owed)
  | releaseCredit cause =>
      cases debitAllowed
      exact Or.inl (wealth_of_unmoved debitStands LegStanding.idle_ne_moved turn
        (by rintro order ⟨⟩) owed)
  | commitDebit =>
      cases debitAllowed
      cases creditAllowed
      exact Or.inr ⟨run.transfer, sound.transfers_of_commitDebit live debitStands
        creditStands turn (acknowledged (Or.inl rfl)) owed⟩
  | commitCredit =>
      cases debitAllowed
      cases creditAllowed
      exact Or.inl (wealth_of_commitCredit debitStands creditStands turn
        (acknowledged (Or.inr rfl)) owed)

/-- A transfer that has just been ordered owes nothing yet. -/
theorem Sound.owed_order (sound : hall.Sound true) (transfer : Transfer)
    (party : Party) :
    owed { hall with floor := (hall.floor.order transfer).1 } party =
      hall.owed party := by
  apply hall.floor.sum_order transfer (hall.banks.owed party)
  intro absent
  exact Banks.owed_of_unmoved (sound.unknown transfer absent .debit)
    LegStanding.idle_ne_moved party

/-- The end of a settlement changes nothing of what is owed. -/
theorem Sound.owed_conclude {floor : Floor} (sound : hall.Sound true)
    (concluded : hall.floor.conclude number = some floor) (party : Party) :
    owed { hall with floor := floor } party = hall.owed party := by
  apply sound.floor.sum_conclude concluded (hall.banks.owed party)
  intro run failure found dropped
  obtain ⟨debit, debitAllowed, debitStands⟩ :=
    sound.stand_of_concluding found dropped .debit
  cases debitAllowed
  exact Banks.owed_of_unmoved debitStands LegStanding.idle_ne_moved party

/-- Every step changes no wealth, or makes one whole transfer. -/
theorem Sound.transfers_of_step {event : Event} (sound : hall.Sound true)
    (keeps : ¬ event.Forgets true) (stepped : hall.step event = some next) :
    (∀ party, next.wealth party = hall.wealth party) ∨
      ∃ transfer, hall.Transfers next transfer := by
  cases event with
  | order transfer =>
      cases stepped
      exact Or.inl fun party =>
        wealth_congr party rfl (sound.owed_order transfer party)
  | call number => exact sound.transfers_of_call stepped
  | expire number =>
      obtain ⟨attempt, floor, pause, answered, rfl⟩ := expire_eq_some stepped
      obtain ⟨run, stage, found, calling, rfl⟩ := Floor.answer_eq_some answered
      exact Or.inl fun party => rfl
  | conclude number =>
      obtain ⟨floor, concluded, rfl⟩ := Option.map_eq_some_iff.mp stepped
      exact Or.inl fun party =>
        wealth_congr party rfl (sound.owed_conclude concluded party)
  | leave number =>
      obtain ⟨floor, left, rfl⟩ := Option.map_eq_some_iff.mp stepped
      obtain ⟨run, found, rfl⟩ := Floor.leave_eq_some left
      exact Or.inl fun party => rfl
  | sweepJournal retention => exact absurd trivial keeps
  | sweepLegs name retention => exact absurd rfl keeps
  | rest milliseconds =>
      cases stepped
      exact Or.inl fun party => rfl

/-- A settlement prepares no leg that has been committed. -/
theorem Sound.not_committed_of_prepare {run : SettlementRun}
    {stage : Settlement.Stage} {order : LegOrder} (sound : hall.Sound true)
    (found : hall.floor.runs[number]? = some run)
    (calling : run.phase = .calling stage)
    (prepares : stage.call run.transfer = .prepare order) (name : BankName) :
    ¬ hall.banks.Committed name order.transfer order.side := by
  have stand := sound.stand_of_calling found calling
  cases stage with
  | prepareDebit =>
      cases prepares
      obtain ⟨debit, debitAllowed, debitStands⟩ := stand .debit
      cases debitAllowed
      exact debitStands.not_committed name
  | prepareCredit =>
      cases prepares
      obtain ⟨credit, creditAllowed, creditStands⟩ := stand .credit
      cases creditAllowed
      exact creditStands.not_committed name
  | releaseDebit cause creditNext => cases prepares
  | releaseCredit cause => cases prepares
  | commitDebit | commitCredit => cases prepares

/-- A committed leg is never unmade. -/
theorem Sound.hasApplied_of_step {event : Event} (sound : hall.Sound true)
    (keeps : ¬ event.Forgets true) (stepped : hall.step event = some next)
    {transfer : Transfer} {side : Side}
    (applied : hall.banks.hasApplied transfer side = true) :
    next.banks.hasApplied transfer side = true := by
  cases event with
  | order other =>
      cases stepped
      exact applied
  | call number =>
      obtain ⟨run, stage, attempt, live, calling, turn, -, -⟩ :=
        sound.turn_of_step stepped
      rw [Banks.hasApplied_eq_true] at applied ⊢
      refine turn.committed ?_ applied
      intro order prepares
      exact sound.not_committed_of_prepare live.1 calling prepares _
  | expire number =>
      obtain ⟨attempt, floor, pause, answered, rfl⟩ := expire_eq_some stepped
      exact applied
  | conclude number =>
      obtain ⟨floor, concluded, rfl⟩ := Option.map_eq_some_iff.mp stepped
      exact applied
  | leave number =>
      obtain ⟨floor, left, rfl⟩ := Option.map_eq_some_iff.mp stepped
      exact applied
  | sweepJournal retention => exact absurd trivial keeps
  | sweepLegs name retention => exact absurd rfl keeps
  | rest milliseconds =>
      cases stepped
      exact applied

/-- A hall makes its transfers one at a time and as a whole, and none of them
twice.  When nothing is under way, wealth is what is on the accounts. -/
theorem transfers_atomically {start hall next : Hall} {events : List Event}
    {event : Event} (opening : start.IsOpening)
    (keeps : ∀ event ∈ events, ¬ event.Forgets true)
    (ran : runThrough step start events = some hall)
    (keepsNext : ¬ event.Forgets true)
    (stepped : hall.step event = some next) :
    ((∀ party, next.wealth party = hall.wealth party) ∨
      ∃ transfer, hall.Transfers next transfer) ∧
    (∀ transfer side, hall.banks.hasApplied transfer side = true →
      next.banks.hasApplied transfer side = true) ∧
    ((∀ number run, ¬ hall.floor.IsLive number run) → ∀ party,
      hall.wealth party = (hall.banks.balance? party).map Amount.minor) := by
  have sound : hall.Sound true := sound_of_runThrough opening keeps ran
  refine ⟨sound.transfers_of_step keepsNext stepped,
    fun transfer side => sound.hasApplied_of_step keepsNext stepped, ?_⟩
  intro quiet party
  simp [wealth, sound.owed_of_quiet quiet party]

def sample : Hall := ⟨⟨Sample.house, 0, []⟩, Sample.banks, fun _ => none⟩

theorem isOpening_sample : sample.IsOpening where
  floor := ⟨rfl, rfl⟩
  pauses := fun _ => rfl
  unheld := Sample.hold?_banks
  noLeg := Sample.leg?_banks
  inside := Sample.inside_house

/-- The commit of the debit leg of a payment, seen through the wealth of both
parties. -/
theorem transfers_atomically_at_commit :
    ∃ hall next,
      runThrough step sample [.order Sample.payment, .call 0, .call 0] =
          some hall ∧
        hall.step (.call 0) = some next ∧
        (hall.wealth Sample.payer, hall.wealth Sample.payee) =
          (some 10000, some 100) ∧
        (next.wealth Sample.payer, next.wealth Sample.payee) =
          (some 9500, some 600) ∧
        ((∀ party, next.wealth party = hall.wealth party) ∨
          ∃ transfer, hall.Transfers next transfer) := by
  have ran : runThrough step sample
      [.order Sample.payment, .call 0, .call 0] = some _ := rfl
  have keeps : ∀ event ∈ [Event.order Sample.payment, .call 0, .call 0],
      ¬ event.Forgets true := by
    simp [Event.Forgets]
  have keepsNext : ¬ (Event.call 0).Forgets true := id
  exact ⟨_, _, ran, rfl, rfl, rfl,
    (transfers_atomically isOpening_sample keeps ran keepsNext rfl).1⟩

end Hall

end ClearingHouse
