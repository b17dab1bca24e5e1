import ClearingHouse.Proofs.Bank.Applied
import ClearingHouse.Proofs.Floor.Sound
import ClearingHouse.Proofs.Hall.Basic

/-!
# Settlements and banks agree

In a hall the phase of a settlement tells how far both legs of its transfer have
come, and so does the journal once the settlement has ended.  `Hall.Sound` says
this of a hall.  As all that holds an account can be applied to it, no commit is
ever refused.
-/

namespace ClearingHouse

theorem Side.credit_ne_debit : Side.credit ≠ .debit := by decide

namespace LegStanding

theorem idle_ne_moved : idle ≠ moved := by decide

theorem held_ne_moved : held ≠ moved := by decide

end LegStanding

/-- How far a leg may have come in a phase of its settlement. -/
def RunPhase.Allows : RunPhase → Side → LegStanding → Prop
  | .calling .prepareDebit, _, standing => standing = .idle
  | .calling .prepareCredit, .debit, standing => standing = .held
  | .calling .prepareCredit, .credit, standing => standing = .idle
  | .calling (.releaseDebit _ _), .debit, standing => standing ≠ .moved
  | .calling (.releaseDebit _ _), .credit, standing => standing = .idle
  | .calling (.releaseCredit _), _, standing => standing = .idle
  | .calling .commitDebit, _, standing => standing = .held
  | .calling .commitCredit, .debit, standing => standing = .moved
  | .calling .commitCredit, .credit, standing => standing = .held
  | .concluding (.settled (.ok _)), _, standing => standing = .moved
  | .concluding _, _, standing => standing = .idle
  | .ended _, _, _ => True

/-- How far the legs of a transfer have come whose settlement has ended. -/
def JournalEntry.standing (entry : JournalEntry) : LegStanding :=
  if entry.status = .succeeded then .moved else .idle

/-- Whether the call of a stage may pause. -/
def Settlement.Stage.Pauses (stage : Settlement.Stage) : Prop :=
  stage = .prepareDebit ∨ stage = .prepareCredit

theorem Settlement.allows_abandoned (cause : TransferFailure) (side : Side) :
    (RunPhase.concluding (abandoned cause)).Allows side .idle := by
  unfold abandoned
  split <;> rfl

namespace Banks

/-- Both legs of a transfer stand as a phase of its settlement allows. -/
def Stand (kept : Bool) (banks : Banks) (transfer : Transfer)
    (phase : RunPhase) : Prop :=
  ∀ side, ∃ standing, phase.Allows side standing ∧
    Stands kept banks transfer side standing

variable {kept : Bool} {banks after : Banks} {now : Nat} {transfer : Transfer}
  {attempt : Bank.Attempt BankReply}

theorem Stand.of_sides {phase : RunPhase} {debit credit : LegStanding}
    (debitAllowed : phase.Allows .debit debit)
    (debitStands : Stands kept banks transfer .debit debit)
    (creditAllowed : phase.Allows .credit credit)
    (creditStands : Stands kept banks transfer .credit credit) :
    Stand kept banks transfer phase := by
  intro side
  cases side with
  | debit => exact ⟨debit, debitAllowed, debitStands⟩
  | credit => exact ⟨credit, creditAllowed, creditStands⟩

theorem Stand.of_agreeOn {phase : RunPhase}
    (stand : Stand kept banks transfer phase)
    (agree : ∀ side, AgreeOn banks after transfer.id side) :
    Stand kept after transfer phase := by
  intro side
  obtain ⟨standing, allowed, stands⟩ := stand side
  exact ⟨standing, allowed, stands.of_agreeOn (agree side)⟩

/-- A release leaves a transfer idle of which no leg has been moved. -/
theorem Turn.idle_release {side other : Side} {standing : LegStanding}
    (turn : Turn banks now (transfer.party side).bank
      (.release (transfer.releaseOrder side)) after attempt)
    (distinct : transfer.sender ≠ transfer.recipient) (otherSide : other ≠ side)
    (unmoved : standing ≠ .moved)
    (stands : Stands kept banks transfer side standing)
    (otherIdle : Stands kept banks transfer other .idle) :
    Stands kept after transfer side .idle ∧
      Stands kept after transfer other .idle :=
  ⟨turn.stands_release stands unmoved,
    turn.stands_release_of_ne distinct otherSide otherIdle⟩

/-- After the call of a stage, both legs stand as they may in the phase that the
settlement enters.  A prepare that pauses leaves them as they stood. -/
theorem Turn.stand {stage : Settlement.Stage}
    (turn : Turn banks now (stage.bank transfer) (stage.call transfer) after
      attempt)
    (distinct : transfer.sender ≠ transfer.recipient)
    (acknowledged : stage = .commitDebit ∨ stage = .commitCredit →
      attempt = .finished (.ok .done))
    (before : Stand kept banks transfer (.calling stage)) :
    (∀ answer, Hall.Heard (stage.bank transfer) attempt answer →
      Stand kept after transfer
        (.entering (Settlement.next transfer stage answer))) ∧
    (∀ pause later, attempt = .again pause later →
      stage.Pauses ∧ Stand kept after transfer (.calling stage)) := by
  obtain ⟨debit, debitAllowed, debitStands⟩ := before .debit
  obtain ⟨credit, creditAllowed, creditStands⟩ := before .credit
  cases stage with
  | prepareDebit =>
      cases debitAllowed
      cases creditAllowed
      have creditIdle : Stands kept after transfer .credit .idle :=
        creditStands.of_agreeOn (turn.agreeOn (by rintro ⟨-, ⟨⟩⟩))
      rcases turn.stands_prepare debitStands with
        ⟨rfl, debitHeld⟩ | ⟨notDone, debitIdle⟩
      · constructor
        · rintro answer ⟨reply⟩
          exact .of_sides rfl debitHeld rfl creditIdle
        · rintro pause later ⟨⟩
      · constructor
        · intro answer heard
          cases heard with
          | done reply =>
              cases reply with
              | done => exact absurd rfl notDone
              | balance amount => cases turn
          | refused refusal =>
              simp only [Settlement.next]
              split
              · exact .of_sides LegStanding.idle_ne_moved debitIdle rfl creditIdle
              · exact .of_sides (Settlement.allows_abandoned _ _) debitIdle
                  (Settlement.allows_abandoned _ _) creditIdle
        · rintro pause later rfl
          exact ⟨Or.inl rfl, .of_sides rfl debitIdle rfl creditIdle⟩
  | prepareCredit =>
      cases debitAllowed
      cases creditAllowed
      have debitHeld : Stands kept after transfer .debit .held :=
        debitStands.of_agreeOn (turn.agreeOn (by rintro ⟨-, ⟨⟩⟩))
      rcases turn.stands_prepare creditStands with
        ⟨rfl, creditHeld⟩ | ⟨notDone, creditIdle⟩
      · constructor
        · rintro answer ⟨reply⟩
          exact .of_sides rfl debitHeld rfl creditHeld
        · rintro pause later ⟨⟩
      · constructor
        · intro answer heard
          cases heard with
          | done reply =>
              cases reply with
              | done => exact absurd rfl notDone
              | balance amount => cases turn
          | refused refusal =>
              exact .of_sides LegStanding.held_ne_moved debitHeld rfl creditIdle
        · rintro pause later rfl
          exact ⟨Or.inr rfl, .of_sides rfl debitHeld rfl creditIdle⟩
  | releaseDebit cause creditNext =>
      cases creditAllowed
      obtain ⟨debitIdle, creditIdle⟩ :=
        turn.idle_release distinct Side.credit_ne_debit debitAllowed debitStands
          creditStands
      constructor
      · intro answer heard
        cases creditNext with
        | true =>
            cases heard <;> exact .of_sides rfl debitIdle rfl creditIdle
        | false =>
            cases heard <;>
              exact .of_sides (Settlement.allows_abandoned _ _) debitIdle
                (Settlement.allows_abandoned _ _) creditIdle
      · rintro pause later rfl
        cases turn
  | releaseCredit cause =>
      cases debitAllowed
      cases creditAllowed
      obtain ⟨creditIdle, debitIdle⟩ :=
        turn.idle_release distinct Side.credit_ne_debit.symm
          LegStanding.idle_ne_moved creditStands debitStands
      constructor
      · intro answer heard
        cases heard <;>
          exact .of_sides (Settlement.allows_abandoned _ _) debitIdle
            (Settlement.allows_abandoned _ _) creditIdle
      · rintro pause later rfl
        cases turn
  | commitDebit =>
      cases debitAllowed
      cases creditAllowed
      cases acknowledged (Or.inl rfl)
      have creditHeld : Stands kept after transfer .credit .held :=
        creditStands.of_agreeOn (turn.agreeOn (by rintro ⟨-, ⟨⟩⟩))
      constructor
      · rintro answer ⟨reply⟩
        exact .of_sides rfl (turn.stands_commit debitStands).1 rfl creditHeld
      · rintro pause later ⟨⟩
  | commitCredit =>
      cases debitAllowed
      cases creditAllowed
      cases acknowledged (Or.inr rfl)
      have debitMoved : Stands kept after transfer .debit .moved :=
        debitStands.of_agreeOn (turn.agreeOn (by rintro ⟨-, ⟨⟩⟩))
      constructor
      · rintro answer ⟨reply⟩
        exact .of_sides rfl debitMoved rfl (turn.stands_commit creditStands).1
      · rintro pause later ⟨⟩

end Banks

/-! ## The invariant -/

namespace Hall

/-- Settlements, journal and banks agree. -/
structure Sound (kept : Bool) (hall : Hall) : Prop where
  floor : hall.floor.Sound
  funded : hall.banks.Funded
  live : ∀ number run, hall.floor.IsLive number run →
    hall.banks.Stand kept run.transfer run.phase
  ended : ∀ id entry, hall.floor.entryOf? id = some entry →
    entry.status.isFinal = true → ∀ side,
      hall.banks.Stands kept entry.transfer side entry.standing
  unknown : ∀ transfer : Transfer, hall.floor.entryOf? transfer.id = none →
    ∀ side, hall.banks.Stands kept transfer side .idle
  pausing : ∀ number attempt, hall.pauses number = some attempt →
    ∃ run stage, hall.floor.runs[number]? = some run ∧
      run.phase = .calling stage ∧ stage.Pauses

variable {kept : Bool} {hall next : Hall} {number : Nat}

theorem sound_of_isOpening (opening : hall.IsOpening) : hall.Sound kept := by
  have noEntry : ∀ id, hall.floor.entryOf? id = none := by
    intro id
    simp [Floor.entryOf?, opening.floor.journal]
  constructor
  · exact Floor.sound_of_isOpening opening.floor
  · intro party account hold found held
    have free := opening.unheld party
    rw [Banks.hold?_of_account? found, held] at free
    cases free
  · rintro number run ⟨found, -⟩
    simp [opening.floor.runs] at found
  · intro id entry present
    rw [noEntry] at present
    cases present
  · intro transfer _ side
    constructor
    · intro party hold held
      rw [opening.unheld] at held
      cases held
    · intro name record known
      rw [opening.noLeg] at known
      cases known
    · rintro ⟨⟩
    · rintro ⟨⟩
  · intro number attempt pausing
    rw [opening.pauses] at pausing
    cases pausing

/-- A settlement under way has had its turn: its legs stand as its new phase
allows, and the legs of all other transfers are as before. -/
theorem Sound.turned {run changed : SettlementRun} {after : Banks}
    {pauses : Nat → Option Nat} (sound : hall.Sound kept)
    (live : hall.floor.IsLive number run)
    (floorSound : (hall.floor.withRun number changed).Sound)
    (funded : after.Funded)
    (agree : ∀ id, id ≠ run.transfer.id → ∀ side,
      Banks.AgreeOn hall.banks after id side)
    (stand : after.Stand kept changed.transfer changed.phase)
    (pausing : ∀ attempt, pauses number = some attempt →
      ∃ stage, changed.phase = .calling stage ∧ stage.Pauses)
    (otherPauses : ∀ other, other ≠ number →
      pauses other = hall.pauses other) :
    Sound kept ⟨hall.floor.withRun number changed, after, pauses⟩ := by
  have running := sound.floor.live number run live
  constructor
  · exact floorSound
  · exact funded
  · rintro other current ⟨present, currentLive⟩
    rcases Floor.run_of_withRun live.1 present with ⟨rfl, rfl⟩ | ⟨different, was⟩
    · exact stand
    · have wasLive : hall.floor.IsLive other current := ⟨was, currentLive⟩
      apply (sound.live other current wasLive).of_agreeOn
      apply agree
      intro sameId
      exact different
        (sound.floor.single other number current run wasLive live sameId).symm
  · intro id entry present final side
    have different : entry.transfer.id ≠ run.transfer.id := by
      rw [(sound.floor.entries id entry present).1]
      rintro rfl
      rw [show hall.floor.entryOf? run.transfer.id = some entry from present]
        at running
      cases running
      cases final
    exact (sound.ended id entry present final side).of_agreeOn
      (agree _ different side)
  · intro transfer absent side
    have different : transfer.id ≠ run.transfer.id := by
      intro sameId
      rw [← sameId, show hall.floor.entryOf? transfer.id = none from absent]
        at running
      cases running
    exact (sound.unknown transfer absent side).of_agreeOn
      (agree _ different side)
  · intro other attempt pause
    by_cases same : other = number
    · subst same
      obtain ⟨stage, calling, pauses⟩ := pausing attempt pause
      exact ⟨changed, stage, by simp [Floor.getElem?_withRun live.1], calling,
        pauses⟩
    · have paused := (otherPauses other same).symm.trans pause
      obtain ⟨current, stage, found, calling, pauses⟩ :=
        sound.pausing other attempt paused
      have different : number ≠ other := fun equal => same equal.symm
      exact ⟨current, stage, (Floor.run_withRun live.1 different).trans found,
        calling, pauses⟩

theorem withRun_self {floor : Floor} {run : SettlementRun}
    (found : floor.runs[number]? = some run) : floor.withRun number run = floor := by
  obtain ⟨inside, rfl⟩ := List.getElem?_eq_some_iff.mp found
  simp [Floor.withRun]

theorem pausesWith_of_ne {other : Nat} (different : other ≠ number)
    (pause : Option Nat) :
    hall.pausesWith number pause other = hall.pauses other := by
  simp [pausesWith, different]

theorem pausesWith_self (pause : Option Nat) :
    hall.pausesWith number pause number = pause := by
  simp [pausesWith]

theorem Sound.stand_of_calling {run : SettlementRun}
    {stage : Settlement.Stage} (sound : hall.Sound kept)
    (found : hall.floor.runs[number]? = some run)
    (calling : run.phase = .calling stage) :
    hall.banks.Stand kept run.transfer (.calling stage) := by
  rw [← calling]
  exact sound.live number run (Floor.isLive_of_calling found calling)

theorem Sound.stand_of_concluding {run : SettlementRun}
    {conclusion : Settlement.Conclusion} (sound : hall.Sound kept)
    (found : hall.floor.runs[number]? = some run)
    (concluding : run.phase = .concluding conclusion) :
    hall.banks.Stand kept run.transfer (.concluding conclusion) := by
  rw [← concluding]
  exact sound.live number run (Floor.isLive_of_concluding found concluding)

theorem Sound.pauses_of_calling {run : SettlementRun}
    {stage : Settlement.Stage} {attempt : Nat} (sound : hall.Sound kept)
    (found : hall.floor.runs[number]? = some run)
    (calling : run.phase = .calling stage)
    (pause : hall.pauses number = some attempt) : stage.Pauses := by
  obtain ⟨current, currentStage, wasFound, wasCalling, pauses⟩ :=
    sound.pausing number attempt pause
  rw [found] at wasFound
  cases wasFound
  rw [calling] at wasCalling
  cases wasCalling
  exact pauses

/-- The call of a settlement has one of the turns that calls have.  A commit is
acknowledged. -/
theorem Sound.turn_of_call {run : SettlementRun} {stage : Settlement.Stage}
    {bank : Bank} (sound : hall.Sound kept)
    (found : hall.floor.runs[number]? = some run)
    (calling : run.phase = .calling stage)
    (present : Table.find? hall.banks (stage.bank run.transfer) = some bank)
    {turn : Bank × Bank.Attempt BankReply}
    (result : turn =
      match hall.pauses number with
      | none => bank.receive hall.floor.now (stage.call run.transfer)
      | some attempt => bank.resume attempt (stage.call run.transfer)) :
    Banks.Turn hall.banks hall.floor.now (stage.bank run.transfer)
        (stage.call run.transfer)
        (hall.banks.put (stage.bank run.transfer) turn.1) turn.2 ∧
      (stage = .commitDebit ∨ stage = .commitCredit →
        turn.2 = .finished (.ok .done)) := by
  subst result
  have checked := sound.floor.checked number run found
  have stand := sound.stand_of_calling found calling
  cases pause : hall.pauses number with
  | none =>
      refine ⟨Banks.turn_receive present _ _, ?_⟩
      rintro (rfl | rfl)
      · obtain ⟨standing, held, stands⟩ := stand .debit
        cases held
        exact stands.commit_succeeds sound.funded checked.named checked.positive
          present _
      · obtain ⟨standing, held, stands⟩ := stand .credit
        cases held
        exact stands.commit_succeeds sound.funded checked.named checked.positive
          present _
  | some attempt =>
      rcases sound.pauses_of_calling found calling pause with rfl | rfl
      · refine ⟨Banks.turn_resume present _ _ _, ?_⟩
        rintro (⟨⟨⟩⟩ | ⟨⟨⟩⟩)
      · refine ⟨Banks.turn_resume present _ _ _, ?_⟩
        rintro (⟨⟨⟩⟩ | ⟨⟨⟩⟩)

theorem Sound.call (sound : hall.Sound kept)
    (called : hall.call number = some next) : next.Sound kept := by
  obtain ⟨run, stage, bank, found, calling, present, digested⟩ :=
    call_eq_some called
  have live := Floor.isLive_of_calling found calling
  have checked := sound.floor.checked number run found
  obtain ⟨turn, acknowledged⟩ := sound.turn_of_call found calling present rfl
  obtain ⟨heardStand, pausedStand⟩ :=
    turn.stand checked.distinct acknowledged (sound.stand_of_calling found calling)
  have agree : ∀ id, id ≠ run.transfer.id → ∀ side, Banks.AgreeOn hall.banks _
      id side := fun id different side =>
    turn.agreeOn fun touches => different
      (Settlement.Stage.id_of_touches_call touches)
  rcases digest_eq_some digested with
    ⟨answer, floor, heard, answered, rfl⟩ | ⟨pause, later, again, rfl⟩
  · have floorSound := sound.floor.answer answered
    rw [Floor.answer_of_calling found calling] at answered
    cases answered
    refine sound.turned live floorSound (turn.funded sound.funded) agree
      (heardStand answer heard) ?_ fun other different =>
        pausesWith_of_ne different none
    intro attempt paused
    rw [pausesWith_self] at paused
    cases paused
  · obtain ⟨pauses, stand⟩ := pausedStand pause later again
    have unchanged := withRun_self found
    rw [← unchanged]
    refine sound.turned live (unchanged.symm ▸ sound.floor)
      (turn.funded sound.funded) agree (calling.symm ▸ stand) ?_
      fun other different => pausesWith_of_ne different (some later)
    intro attempt paused
    exact ⟨stage, calling, pauses⟩

/-- A prepare that is given up has left nothing behind. -/
theorem Sound.expire (sound : hall.Sound kept)
    (expired : hall.expire number = some next) : next.Sound kept := by
  obtain ⟨attempt, floor, pause, answered, rfl⟩ := expire_eq_some expired
  have floorSound := sound.floor.answer answered
  obtain ⟨run, stage, found, calling, rfl⟩ := Floor.answer_eq_some answered
  have live := Floor.isLive_of_calling found calling
  have before := sound.stand_of_calling found calling
  have stand : hall.banks.Stand kept run.transfer
      (.entering (Settlement.next run.transfer stage (.error .timeout))) := by
    obtain ⟨debit, debitAllowed, debitStands⟩ := before .debit
    obtain ⟨credit, creditAllowed, creditStands⟩ := before .credit
    rcases sound.pauses_of_calling found calling pause with rfl | rfl
    · cases debitAllowed
      cases creditAllowed
      exact .of_sides LegStanding.idle_ne_moved debitStands rfl creditStands
    · cases debitAllowed
      cases creditAllowed
      exact .of_sides LegStanding.held_ne_moved debitStands rfl creditStands
  refine sound.turned live floorSound sound.funded (fun id different side => ?_)
    stand ?_ fun other different => pausesWith_of_ne different none
  · exact ⟨fun party hold _ _ => Iff.rfl, fun name => rfl⟩
  · intro attempt paused
    rw [pausesWith_self] at paused
    cases paused

theorem Sound.order (sound : hall.Sound kept) (transfer : Transfer) :
    Sound kept { hall with floor := (hall.floor.order transfer).1 } := by
  have floorSound := sound.floor.order transfer
  rcases hall.floor.order_cases transfer with
    ⟨outcome, answered⟩ | ⟨checked, absent, accepted⟩
  · rw [answered]
    exact sound
  · rw [accepted] at floorSound ⊢
    refine { sound with
      floor := floorSound, live := ?live, ended := ?ended,
      unknown := ?unknown, pausing := ?pausing }
    case live =>
      rintro number run ⟨found, live⟩
      rcases Floor.run_of_started found with old | ⟨-, rfl⟩
      · exact sound.live number run ⟨old, live⟩
      · intro side
        exact ⟨.idle, rfl, sound.unknown transfer absent side⟩
    case ended =>
      intro id entry present final side
      rw [Floor.entryOf?_started] at present
      split at present
      · cases present
        cases final
      · exact sound.ended id entry present final side
    case unknown =>
      intro other otherAbsent side
      rw [Floor.entryOf?_started] at otherAbsent
      split at otherAbsent
      · cases otherAbsent
      · exact sound.unknown other otherAbsent side
    case pausing =>
      intro number attempt pause
      obtain ⟨run, stage, found, calling, pauses⟩ :=
        sound.pausing number attempt pause
      exact ⟨run, stage, Floor.run_started found transfer, calling, pauses⟩

theorem Sound.conclude {floor : Floor} (sound : hall.Sound kept)
    (concluded : hall.floor.conclude number = some floor) :
    Sound kept { hall with floor := floor } := by
  have floorSound := sound.floor.conclude concluded
  obtain ⟨run, conclusion, found, concluding, rfl⟩ :=
    Floor.conclude_eq_some concluded
  have live := Floor.isLive_of_concluding found concluding
  have proper := sound.floor.conclusions number run conclusion found concluding
  have stand := sound.stand_of_concluding found concluding
  have entryOf := Floor.entryOf?_ended (sound.floor.live number run live) number
    conclusion
  refine { sound with
    floor := floorSound, live := ?live, ended := ?ended, unknown := ?unknown,
    pausing := ?pausing }
  case live =>
    rintro other current ⟨present, currentLive⟩
    rcases Floor.run_of_withRun found present with ⟨rfl, rfl⟩ | ⟨-, was⟩
    · cases currentLive
    · exact sound.live other current ⟨was, currentLive⟩
  case ended =>
    intro id entry present final side
    rw [entryOf] at present
    split at present
    · obtain ⟨standing, allowed, stands⟩ := stand side
      cases conclusion with
      | dropped failure => cases present
      | settled outcome =>
          cases present
          cases outcome with
          | ok receipt =>
              cases allowed
              exact stands
          | error failure =>
              cases allowed
              exact stands
    · exact sound.ended id entry present final side
  case unknown =>
    intro transfer absent side
    rw [entryOf] at absent
    split at absent
    · rename_i sameId
      obtain ⟨standing, allowed, stands⟩ := stand side
      cases conclusion with
      | settled outcome => cases absent
      | dropped failure =>
          cases allowed
          exact stands.rename sameId
    · exact sound.unknown transfer absent side
  case pausing =>
    intro other attempt pause
    obtain ⟨current, stage, was, calling, pauses⟩ :=
      sound.pausing other attempt pause
    have different : number ≠ other := by
      rintro rfl
      rw [found] at was
      cases was
      rw [concluding] at calling
      cases calling
    exact ⟨current, stage, (Floor.run_withRun found different).trans was,
      calling, pauses⟩

theorem Sound.leave {floor : Floor} (sound : hall.Sound kept)
    (left : hall.floor.leave number = some floor) :
    Sound kept { hall with floor := floor } := by
  have floorSound := sound.floor.leave left
  obtain ⟨run, found, rfl⟩ := Floor.leave_eq_some left
  refine { sound with floor := floorSound, live := ?live, pausing := ?pausing }
  case live =>
    rintro other current ⟨present, currentLive⟩
    obtain ⟨former, was, sameTransfer, samePhase⟩ :=
      Floor.run_of_leave left present
    rw [sameTransfer, samePhase]
    exact sound.live other former ⟨was, samePhase ▸ currentLive⟩
  case pausing =>
    intro other attempt pause
    obtain ⟨former, stage, was, calling, pauses⟩ :=
      sound.pausing other attempt pause
    obtain ⟨current, present, -, samePhase⟩ := Floor.run_leave left was
    exact ⟨current, stage, present, samePhase.trans calling, pauses⟩

theorem Sound.sweepLegs {name : BankName} {retention : Nat}
    (sound : hall.Sound false)
    (swept : hall.sweepLegs name retention = some next) :
    next.Sound false := by
  obtain ⟨bank, found, rfl⟩ := Option.map_eq_some_iff.mp swept
  refine { sound with
    funded := ?funded, live := ?live, ended := ?ended, unknown := ?unknown }
  case funded =>
    intro party account hold present held
    rw [Banks.account?_sweep found] at present
    exact sound.funded party account hold present held
  case live =>
    intro number run live side
    obtain ⟨standing, allowed, stands⟩ := sound.live number run live side
    exact ⟨standing, allowed, stands.sweep found retention⟩
  case ended =>
    intro id entry present final side
    exact (sound.ended id entry present final side).sweep found retention
  case unknown =>
    intro transfer absent side
    exact (sound.unknown transfer absent side).sweep found retention

theorem Sound.rest (sound : hall.Sound kept) (milliseconds : Nat) :
    Sound kept { hall with floor := hall.floor.rest milliseconds } :=
  { sound with floor := sound.floor.rest milliseconds }

/-- Whatever happens in a hall, settlements, journal and banks go on agreeing,
unless something is forgotten that has to be kept. -/
theorem Sound.step {event : Event} (sound : hall.Sound kept)
    (keeps : ¬ event.Forgets kept) (stepped : hall.step event = some next) :
    next.Sound kept := by
  cases event with
  | order transfer =>
      cases stepped
      exact sound.order transfer
  | call number => exact sound.call stepped
  | expire number => exact sound.expire stepped
  | conclude number =>
      obtain ⟨floor, concluded, rfl⟩ := Option.map_eq_some_iff.mp stepped
      exact sound.conclude concluded
  | leave number =>
      obtain ⟨floor, left, rfl⟩ := Option.map_eq_some_iff.mp stepped
      exact sound.leave left
  | sweepJournal retention => exact absurd trivial keeps
  | sweepLegs name retention =>
      cases kept with
      | true => exact absurd rfl keeps
      | false => exact sound.sweepLegs stepped
  | rest milliseconds =>
      cases stepped
      exact sound.rest milliseconds

theorem sound_of_runThrough {start final : Hall} {events : List Event}
    (opening : start.IsOpening)
    (keeps : ∀ event ∈ events, ¬ event.Forgets kept)
    (ran : runThrough step start events = some final) : final.Sound kept :=
  invariant_of_runThrough_of_forall Sound.step keeps (sound_of_isOpening opening)
    ran

end Hall

end ClearingHouse
