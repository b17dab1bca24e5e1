import ClearingHouse.Proofs.Hall.Forgotten

/-!
# What has been moved for a transfer

A settlement moves money by its commits.  As long as nothing is forgotten, what the
settlements of a transfer have moved is what its applied legs add to their parties:
every leg that counts as applied has been applied once, and the debit leg before the
credit leg.
-/

namespace ClearingHouse

/-- What the applied legs of a transfer add to the balances of their parties. -/
def Banks.applied (banks : Banks) (transfer : Transfer) : List (Party × Int) :=
  ([.debit, .credit].filter (banks.hasApplied transfer)).map fun side =>
    (transfer.party side, transfer.change side)

def Transfer.legs (transfer : Transfer) : List (Party × Int) :=
  [(transfer.sender, -transfer.amount.minor),
    (transfer.recipient, transfer.amount.minor)]

namespace Banks

variable {banks after : Banks} {transfer : Transfer}

theorem applied_congr
    (same : ∀ side, after.hasApplied transfer side = banks.hasApplied transfer side) :
    after.applied transfer = banks.applied transfer := by
  have sameFunction : after.hasApplied transfer = banks.hasApplied transfer :=
    funext same
  rw [applied, applied, sameFunction]

theorem applied_of_stands {debit credit : LegStanding}
    (debitStands : Stands true banks transfer .debit debit)
    (creditStands : Stands true banks transfer .credit credit) :
    banks.applied transfer =
      (if debit = .moved then [(transfer.sender, transfer.change .debit)] else []) ++
        if credit = .moved then [(transfer.recipient, transfer.change .credit)]
        else [] := by
  simp only [applied, List.filter_cons, List.filter_nil, debitStands.hasApplied,
    creditStands.hasApplied]
  by_cases debitMoved : debit = .moved <;> by_cases creditMoved : credit = .moved <;>
    simp [debitMoved, creditMoved, Transfer.party]

end Banks

theorem Transfer.change_ne_zero {transfer : Transfer} (checked : transfer.Checked)
    (side : Side) : transfer.change side ≠ 0 := by
  have positive : transfer.amount.minor ≠ 0 := by
    simpa [Amount.isZero] using checked.positive
  cases side with
  | debit => simpa [change] using positive
  | credit => simpa [change] using positive

/-- The calls of two stages are commits. -/
theorem Settlement.Stage.commits_or_not (stage : Settlement.Stage)
    (transfer : Transfer) :
    (stage = .commitDebit ∨ stage = .commitCredit) ∨
      ∀ order, stage.call transfer ≠ .commit order := by
  cases stage with
  | commitDebit => exact Or.inl (Or.inl rfl)
  | commitCredit => exact Or.inl (Or.inr rfl)
  | prepareDebit | prepareCredit => exact Or.inr nofun
  | releaseDebit cause creditNext => exact Or.inr nofun
  | releaseCredit cause => exact Or.inr nofun

namespace Hall

/-- What the call of a settlement under this name adds to the balance of the party
whose leg it is about, if it changes this balance.  No call changes another one. -/
def movedBy (id : TransferId) (hall : Hall) (event : Event) (next : Hall) :
    List (Party × Int) :=
  match event with
  | .call number =>
      match hall.floor.runs[number]? with
      | some ⟨transfer, .calling stage, _⟩ =>
          let party := transfer.party stage.side
          let change := next.banks.minorOf party - hall.banks.minorOf party
          if transfer.id = id ∧ change ≠ 0 then [(party, change)] else []
      | _ => []
  | _ => []

variable {hall next : Hall} {number : Nat} {run : SettlementRun}
  {stage : Settlement.Stage} {id : TransferId}

theorem movedBy_call (found : hall.floor.runs[number]? = some run)
    (calling : run.phase = .calling stage) :
    movedBy id hall (.call number) next =
      if run.transfer.id = id ∧
          next.banks.minorOf (run.transfer.party stage.side) -
            hall.banks.minorOf (run.transfer.party stage.side) ≠ 0 then
        [(run.transfer.party stage.side,
          next.banks.minorOf (run.transfer.party stage.side) -
            hall.banks.minorOf (run.transfer.party stage.side))]
      else [] := by
  obtain ⟨transfer, phase, awaited⟩ := run
  cases calling
  simp only [movedBy, found]

/-- A commit applies its leg, and moves the amount of the transfer. -/
theorem Sound.applied_of_commit {attempt : Bank.Attempt BankReply}
    (sound : hall.Sound true) (found : hall.floor.runs[number]? = some run)
    (calling : run.phase = .calling stage)
    (commits : stage = .commitDebit ∨ stage = .commitCredit)
    (turn : Banks.Turn hall.banks hall.floor.now (stage.bank run.transfer)
      (stage.call run.transfer) next.banks attempt)
    (done : attempt = .finished (.ok .done)) :
    next.banks.applied run.transfer =
        hall.banks.applied run.transfer ++
          [(run.transfer.party stage.side, run.transfer.change stage.side)] ∧
      next.banks.minorOf (run.transfer.party stage.side) -
        hall.banks.minorOf (run.transfer.party stage.side) =
          run.transfer.change stage.side := by
  subst done
  have stand := sound.stand_of_calling found calling
  rcases commits with rfl | rfl
  · obtain ⟨debit, debitAllowed, debitHeld⟩ := stand .debit
    obtain ⟨credit, creditAllowed, creditHeld⟩ := stand .credit
    cases debitAllowed
    cases creditAllowed
    obtain ⟨debitMoved, account, balance, fits, writes⟩ := turn.stands_commit debitHeld
    have creditAfter : next.banks.Stands true run.transfer .credit .held :=
      creditHeld.of_agreeOn (turn.agreeOn (by rintro ⟨-, ⟨⟩⟩))
    constructor
    · rw [Banks.applied_of_stands debitMoved creditAfter,
        Banks.applied_of_stands debitHeld creditHeld]
      rfl
    · have moved : next.banks.minorOf (run.transfer.party .debit) =
          hall.banks.minorOf (run.transfer.party .debit) +
            run.transfer.change .debit := writes.minorOf_of_moved fits
      simp only [Settlement.Stage.side]
      omega
  · obtain ⟨debit, debitAllowed, debitMoved⟩ := stand .debit
    obtain ⟨credit, creditAllowed, creditHeld⟩ := stand .credit
    cases debitAllowed
    cases creditAllowed
    obtain ⟨creditMoved, account, balance, fits, writes⟩ :=
      turn.stands_commit creditHeld
    have debitAfter : next.banks.Stands true run.transfer .debit .moved :=
      debitMoved.of_agreeOn (turn.agreeOn (by rintro ⟨-, ⟨⟩⟩))
    constructor
    · rw [Banks.applied_of_stands debitAfter creditMoved,
        Banks.applied_of_stands debitMoved creditHeld]
      rfl
    · have moved : next.banks.minorOf (run.transfer.party .credit) =
          hall.banks.minorOf (run.transfer.party .credit) +
            run.transfer.change .credit := writes.minorOf_of_moved fits
      simp only [Settlement.Stage.side]
      omega

/-- A step applies those legs of a transfer for which it moves money. -/
theorem Sound.applied_of_step {event : Event} {transfer : Transfer}
    (sound : hall.Sound true) (keeps : ¬ event.Forgets true)
    (stepped : hall.step event = some next)
    (same : ∀ (number : Nat) (run : SettlementRun),
      hall.floor.runs[number]? = some run → run.transfer.id = transfer.id →
        run.transfer = transfer) :
    next.banks.applied transfer =
      hall.banks.applied transfer ++ movedBy transfer.id hall event next := by
  have unchanged : next.banks = hall.banks → movedBy transfer.id hall event next = [] →
      next.banks.applied transfer =
        hall.banks.applied transfer ++ movedBy transfer.id hall event next := by
    intro sameBanks nothing
    rw [sameBanks, nothing, List.append_nil]
  cases event with
  | call number =>
      obtain ⟨run, stage, attempt, ⟨found, isLive⟩, calling, turn, acknowledged, -⟩ :=
        sound.turn_of_step stepped
      rw [movedBy_call found calling]
      by_cases own : run.transfer.id = transfer.id
      · obtain rfl := same number run found own
        rcases Settlement.Stage.commits_or_not stage run.transfer with
          commits | notCommit
        · obtain ⟨applied, moved⟩ := sound.applied_of_commit found calling commits turn
            (acknowledged commits)
          have checked := sound.floor.checked number run found
          rw [applied, moved,
            if_pos ⟨rfl, Transfer.change_ne_zero checked stage.side⟩]
        · have sameBalance := Banks.minorOf_congr
            (turn.balance? notCommit (run.transfer.party stage.side))
          rw [sameBalance, if_neg (by simp), List.append_nil]
          apply Banks.applied_congr
          intro side
          rw [Bool.eq_iff_iff]
          exact ⟨turn.hasApplied notCommit, sound.hasApplied_of_step keeps stepped⟩
      · rw [if_neg (fun both => own both.1), List.append_nil]
        apply Banks.applied_congr
        intro side
        exact (turn.agreeOn fun touches => own
          (Settlement.Stage.id_of_touches_call touches).symm).hasApplied
  | expire number =>
      obtain ⟨attempt, floor, pausing, answered, rfl⟩ := expire_eq_some stepped
      exact unchanged rfl rfl
  | conclude number | leave number =>
      obtain ⟨floor, -, rfl⟩ := Option.map_eq_some_iff.mp stepped
      exact unchanged rfl rfl
  | order other | rest milliseconds =>
      cases stepped
      exact unchanged rfl rfl
  | sweepJournal retention => exact absurd trivial keeps
  | sweepLegs name retention => exact absurd rfl keeps

/-- Nothing has been moved for a transfer that is not known, or has failed. -/
theorem Sound.applied_of_not_settled {transfer : Transfer} (sound : hall.Sound true)
    (unsettled : ∀ entry, hall.floor.entryOf? transfer.id = some entry →
      entry.status = .failed) :
    hall.banks.applied transfer = [] := by
  have idle : ∀ side, hall.banks.Stands true transfer side .idle := by
    cases present : hall.floor.entryOf? transfer.id with
    | none => exact sound.unknown transfer present
    | some entry =>
        intro side
        have failed := unsettled entry present
        have stands := sound.ended transfer.id entry present (by rw [failed]; rfl) side
        have isIdle : entry.standing = .idle := by
          simp [JournalEntry.standing, failed]
        rw [isIdle] at stands
        exact stands.rename (sound.floor.entries transfer.id entry present).1.symm
  rw [Banks.applied_of_stands (idle .debit) (idle .credit)]
  rfl

/-- Both legs have been moved for a transfer that has succeeded. -/
theorem Sound.applied_of_succeeded {id : TransferId} {entry : JournalEntry}
    (sound : hall.Sound true) (present : hall.floor.entryOf? id = some entry)
    (succeeded : entry.status = .succeeded) :
    hall.banks.applied entry.transfer = entry.transfer.legs := by
  have moved : ∀ side, hall.banks.Stands true entry.transfer side .moved := by
    intro side
    have stands := sound.ended id entry present (by rw [succeeded]; rfl) side
    rwa [show entry.standing = .moved by simp [JournalEntry.standing, succeeded]]
      at stands
  rw [Banks.applied_of_stands (moved .debit) (moved .credit)]
  rfl

end Hall

end ClearingHouse
