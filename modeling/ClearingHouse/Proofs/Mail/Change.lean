import ClearingHouse.Proofs.Bank.Ready
import ClearingHouse.Proofs.Mail.Sound

/-!
# What one step changes between settlements and banks

A step is one event on the floor or leaves it alone, and adds at most one letter
or changes the state of one.  So what all settlements of one transfer have in
common is kept, and a settlement that has come to its commits depends only on
banks that are there.
-/

namespace ClearingHouse

namespace Settlement.Stage

/-- Whether the bank of a leg has acknowledged its prepare before this stage. -/
def HasPrepared : Stage → Side → Prop
  | .prepareCredit, .debit => True
  | .commitDebit, _ | .commitCredit, _ => True
  | _, _ => False

theorem hasPrepared_of_next {transfer : Transfer} {stage later : Stage}
    {answer : Except TransferFailure Unit} {side : Side}
    (proceeds : next transfer stage answer = .proceed later)
    (prepared : later.HasPrepared side) :
    stage.HasPrepared side ∨ answer = .ok () ∧ stage.side = side := by
  cases stage with
  | prepareDebit =>
      cases answer with
      | ok done =>
          cases proceeds
          cases side with
          | debit => exact Or.inr ⟨rfl, rfl⟩
          | credit => cases prepared
      | error cause =>
          simp only [next] at proceeds
          split at proceeds
          · cases proceeds
            cases prepared
          · cases proceeds
  | prepareCredit =>
      cases answer with
      | ok done =>
          cases side with
          | debit => exact Or.inl trivial
          | credit => exact Or.inr ⟨rfl, rfl⟩
      | error cause =>
          cases proceeds
          cases prepared
  | releaseDebit cause creditNext =>
      cases creditNext with
      | true =>
          cases answer <;>
            · cases proceeds
              cases prepared
      | false => cases answer <;> cases proceeds
  | releaseCredit cause => cases answer <;> cases proceeds
  | commitDebit => exact Or.inl trivial
  | commitCredit => exact Or.inl trivial

end Settlement.Stage

namespace Mail

variable {mail next : Mail} {number index : Nat} {event : Event}
  {transfer : Transfer}

/-! ## Settlements and letters after a step -/

/-- What an event of the mail is on its floor, where nothing is swept. -/
inductive Event.OnFloor : Event → Floor.Event → Prop where
  | order (transfer : Transfer) : OnFloor (.order transfer) (.order transfer)
  | hear (number : Nat) (answer : Except TransferFailure Unit) :
      OnFloor (.hear number) (.answer number answer)
  | fail (number : Nat) (failure : TransferFailure) :
      OnFloor (.fail number failure) (.answer number (.error failure))
  | conclude (number : Nat) : OnFloor (.conclude number) (.conclude number)
  | leave (number : Nat) : OnFloor (.leave number) (.leave number)
  | rest (milliseconds : Nat) : OnFloor (.rest milliseconds) (.rest milliseconds)

theorem floor_of_step (stepped : mail.step event = some next) :
    next.floor = mail.floor ∨ ∃ onFloor, event.OnFloor onFloor ∧
      mail.floor.step onFloor = some next.floor := by
  cases event with
  | order ordered =>
      cases stepped
      exact Or.inr ⟨_, .order ordered, rfl⟩
  | send other =>
      obtain ⟨run, stage, found, calling, idle, rfl⟩ := send_eq_some stepped
      exact Or.inl rfl
  | deliver place =>
      obtain ⟨letter, bank, turn, found, here, state, rfl⟩ :=
        deliver_eq_some stepped
      exact Or.inl rfl
  | hear other =>
      obtain ⟨place, letter, result, awaited, found, answered, proceeded⟩ :=
        hear_eq_some stepped
      obtain ⟨floor, floorAnswered, rfl⟩ := proceed_eq_some proceeded
      exact Or.inr ⟨_, .hear other _, floorAnswered⟩
  | fail other failure =>
      obtain ⟨place, awaited, doubt, proceeded⟩ := fail_eq_some stepped
      obtain ⟨floor, floorAnswered, rfl⟩ := proceed_eq_some proceeded
      exact Or.inr ⟨_, .fail other failure, floorAnswered⟩
  | conclude other =>
      obtain ⟨floor, concluded, rfl⟩ := Option.map_eq_some_iff.mp stepped
      exact Or.inr ⟨_, .conclude other, concluded⟩
  | leave other =>
      obtain ⟨floor, left, rfl⟩ := Option.map_eq_some_iff.mp stepped
      exact Or.inr ⟨_, .leave other, left⟩
  | rest milliseconds =>
      cases stepped
      exact Or.inr ⟨_, .rest milliseconds, rfl⟩

theorem run_of_step {run : SettlementRun}
    (stepped : mail.step event = some next)
    (present : next.floor.runs[number]? = some run) :
    (∃ former, mail.floor.runs[number]? = some former ∧
      run.transfer = former.transfer ∧
      former.phase.GoesOn former.transfer run.phase) ∨
    (event = .order run.transfer ∧
      mail.floor.entryOf? run.transfer.id = none) := by
  rcases floor_of_step stepped with same | ⟨onFloor, isOnFloor, floorStepped⟩
  · rw [same] at present
    exact Or.inl ⟨run, present, rfl, .same _⟩
  · rcases Floor.run_of_step floorStepped present with old | ⟨rfl, absent⟩
    · exact Or.inl old
    · cases isOnFloor
      exact Or.inr ⟨rfl, absent⟩

/-- A settlement has come to the call of a letter that is on its way. -/
def SentBy (mail : Mail) (letter : Letter) : Prop :=
  ∃ (number : Nat) (run : SettlementRun) (stage : Settlement.Stage),
    mail.floor.runs[number]? = some run ∧ run.phase = .calling stage ∧
      letter = ⟨stage.bank run.transfer, stage.call run.transfer, .underway⟩

/-- Without a delivery no bank changes, and no letter but one that is sent. -/
theorem sent_of_step (stepped : mail.step event = some next)
    (undelivered : ∀ place, event ≠ .deliver place) :
    next.banks = mail.banks ∧
      (next.letters = mail.letters ∨
        ∃ (number : Nat) (run : SettlementRun) (stage : Settlement.Stage),
          mail.floor.runs[number]? = some run ∧ run.phase = .calling stage ∧
            next = mail.sent number run.transfer stage) := by
  cases event with
  | order ordered =>
      cases stepped
      exact ⟨rfl, Or.inl rfl⟩
  | send other =>
      obtain ⟨run, stage, found, calling, idle, rfl⟩ := send_eq_some stepped
      exact ⟨rfl, Or.inr ⟨other, run, stage, found, calling, rfl⟩⟩
  | deliver place => exact absurd rfl (undelivered place)
  | hear other =>
      obtain ⟨place, letter, result, awaited, found, answered, proceeded⟩ :=
        hear_eq_some stepped
      obtain ⟨floor, floorAnswered, rfl⟩ := proceed_eq_some proceeded
      exact ⟨rfl, Or.inl rfl⟩
  | fail other failure =>
      obtain ⟨place, awaited, doubt, proceeded⟩ := fail_eq_some stepped
      obtain ⟨floor, floorAnswered, rfl⟩ := proceed_eq_some proceeded
      exact ⟨rfl, Or.inl rfl⟩
  | conclude other =>
      obtain ⟨floor, concluded, rfl⟩ := Option.map_eq_some_iff.mp stepped
      exact ⟨rfl, Or.inl rfl⟩
  | leave other =>
      obtain ⟨floor, left, rfl⟩ := Option.map_eq_some_iff.mp stepped
      exact ⟨rfl, Or.inl rfl⟩
  | rest milliseconds =>
      cases stepped
      exact ⟨rfl, Or.inl rfl⟩

theorem letters_of_step (stepped : mail.step event = some next)
    (undelivered : ∀ place, event ≠ .deliver place) :
    next.banks = mail.banks ∧
      (next.letters = mail.letters ∨
        ∃ letter, mail.SentBy letter ∧
          next.letters = mail.letters ++ [letter]) := by
  obtain ⟨sameBanks, same | ⟨number, run, stage, found, calling, rfl⟩⟩ :=
    sent_of_step stepped undelivered
  · exact ⟨sameBanks, Or.inl same⟩
  · exact ⟨sameBanks, Or.inr ⟨_, ⟨number, run, stage, found, calling, rfl⟩, rfl⟩⟩

theorem letter_of_undelivered {letter : Letter}
    (stepped : mail.step event = some next)
    (undelivered : ∀ place, event ≠ .deliver place)
    (present : next.letters[index]? = some letter) :
    mail.letters[index]? = some letter ∨ mail.SentBy letter := by
  rcases (letters_of_step stepped undelivered).2 with
    same | ⟨sent, sentBy, grown⟩
  · rw [same] at present
    exact Or.inl present
  · rw [grown] at present
    rcases eq_or_eq_of_getElem?_append present with old | ⟨-, rfl⟩
    · exact Or.inl old
    · exact Or.inr sentBy

theorem letter_undelivered {letter : Letter}
    (stepped : mail.step event = some next)
    (undelivered : ∀ place, event ≠ .deliver place)
    (found : mail.letters[index]? = some letter) :
    next.letters[index]? = some letter := by
  rcases (letters_of_step stepped undelivered).2 with
    same | ⟨sent, sentBy, grown⟩
  · rw [same]
    exact found
  · rw [grown]
    exact getElem?_append_of_some found _

/-- A letter was there before a step, or a settlement has just sent it. -/
theorem letter_of_step {letter : Letter}
    (stepped : mail.step event = some next)
    (present : next.letters[index]? = some letter) :
    (∃ former, mail.letters[index]? = some former ∧
      letter.bank = former.bank ∧ letter.call = former.call) ∨
    mail.SentBy letter := by
  by_cases delivered : ∃ place, event = .deliver place
  · obtain ⟨place, rfl⟩ := delivered
    obtain ⟨former, bank, turn, found, here, state, rfl⟩ :=
      deliver_eq_some stepped
    exact Or.inl (letter_of_afterTurn found present)
  · have undelivered : ∀ place, event ≠ .deliver place := fun place same =>
      delivered ⟨place, same⟩
    rcases letter_of_undelivered stepped undelivered present with old | sent
    · exact Or.inl ⟨letter, old, rfl, rfl⟩
    · exact Or.inr sent

/-! ## Attempts of one transfer -/

/-- Everything that goes by the name of a transfer is an attempt of this very
transfer. -/
structure Repeats (mail : Mail) (transfer : Transfer) : Prop where
  runs : ∀ (number : Nat) (run : SettlementRun),
    mail.floor.runs[number]? = some run → run.transfer.id = transfer.id →
      run.transfer = transfer
  letters : ∀ (index : Nat) (letter : Letter) side,
    mail.letters[index]? = some letter →
      letter.call.Touches transfer.id side → ∃ stage : Settlement.Stage,
        letter.bank = stage.bank transfer ∧
          letter.call = stage.call transfer

theorem repeats_of_isOpening (opening : mail.IsOpening) (transfer : Transfer) :
    mail.Repeats transfer where
  runs := by
    intro number run found
    simp [opening.floor.runs] at found
  letters := by
    intro index letter side found
    simp [opening.letters] at found

theorem Repeats.step (repeats : mail.Repeats transfer)
    (same : ∀ other, event = .order other → other.id = transfer.id →
      mail.floor.entryOf? transfer.id = none → other = transfer)
    (stepped : mail.step event = some next) : next.Repeats transfer where
  runs := by
    intro number run present sameId
    rcases run_of_step stepped present with
      ⟨former, was, sameTransfer, -⟩ | ⟨ordered, absent⟩
    · rw [sameTransfer] at sameId ⊢
      exact repeats.runs number former was sameId
    · exact same run.transfer ordered sameId (sameId ▸ absent)
  letters := by
    intro index letter side present touches
    rcases letter_of_step stepped present with
      ⟨former, was, sameBank, sameCall⟩ |
        ⟨number, run, stage, found, calling, rfl⟩
    · rw [sameBank, sameCall]
      exact repeats.letters index former side was (sameCall ▸ touches)
    · have sameTransfer := repeats.runs number run found
        (Settlement.Stage.id_of_touches_call touches).symm
      exact ⟨stage, by rw [sameTransfer], by rw [sameTransfer]⟩

/-! ## Banks that are there -/

/-- The banks that settlements have heard from are there, and all holds at them
could be applied. -/
structure Founded (mail : Mail) : Prop where
  funded : mail.banks.Funded
  answered : ∀ (index : Nat) (letter : Letter) result,
    mail.letters[index]? = some letter → letter.state = .answered result →
      ∃ bank, Table.find? mail.banks letter.bank = some bank
  /-- A settlement waits for the bank that its stage calls. -/
  awaited : ∀ number index (run : SettlementRun) stage (letter : Letter),
    mail.awaits number = some index → mail.floor.runs[number]? = some run →
      run.phase = .calling stage → mail.letters[index]? = some letter →
        letter.bank = stage.bank run.transfer
  prepared : ∀ (number : Nat) (run : SettlementRun) stage side,
    mail.floor.runs[number]? = some run → run.phase = .calling stage →
      stage.HasPrepared side →
        ∃ bank, Table.find? mail.banks (run.transfer.party side).bank =
          some bank

theorem founded_of_isOpening (opening : mail.IsOpening)
    (unheld : ∀ party, mail.banks.hold? party = none) : mail.Founded where
  funded := by
    intro party account hold found held
    have free := unheld party
    rw [Banks.hold?_of_account? found, held] at free
    cases free
  answered := by
    intro index letter result found
    simp [opening.letters] at found
  awaited := by
    intro number index run stage letter awaited
    rw [opening.awaits] at awaited
    cases awaited
  prepared := by
    intro number run stage side found
    simp [opening.floor.runs] at found

theorem Founded.order (founded : mail.Founded) (sound : mail.Sound)
    (ordered : Transfer) :
    Founded { mail with floor := (mail.floor.order ordered).1 } := by
  rcases mail.floor.order_cases ordered with
    ⟨outcome, answered⟩ | ⟨checked, absent, accepted⟩
  · rw [answered]
    exact founded
  · rw [accepted]
    refine { founded with awaited := ?awaited, prepared := ?prepared }
    case awaited =>
      intro number index run stage letter awaited present calling sent
      obtain ⟨former, -, -, was, -⟩ := sound.awaiting number index awaited
      have same := Option.some.inj
        (present.symm.trans (Floor.run_started was ordered))
      subst same
      exact founded.awaited number index run stage letter awaited was calling sent
    case prepared =>
      intro number run stage side present calling prepared
      rcases Floor.run_of_started present with old | ⟨-, rfl⟩
      · exact founded.prepared number run stage side old calling prepared
      · cases calling
        cases prepared

theorem Founded.send (founded : mail.Founded) (sound : mail.Sound)
    (sends : mail.send number = some next) : next.Founded := by
  obtain ⟨run, stage, found, calling, idle, rfl⟩ := send_eq_some sends
  refine { founded with answered := ?answered, awaited := ?awaited }
  case answered =>
    intro index letter result present answered
    rcases letter_of_sent present with old | ⟨-, rfl⟩
    · exact founded.answered index letter result old answered
    · cases answered
  case awaited =>
    intro other index current currentStage letter awaited present currentCalling
      sent
    by_cases same : other = number
    · subst same
      rw [show mail.floor.runs[other]? = some current from present] at found
      cases found
      rw [calling] at currentCalling
      cases currentCalling
      have sentNow : mail.awaitsWith other (some mail.letters.length) other =
          some index := awaited
      rw [awaitsWith_self] at sentNow
      cases sentNow
      have isNew := List.getElem?_concat_length.symm.trans sent
      cases isNew
      rfl
    · have before : mail.awaitsWith number (some mail.letters.length) other =
          some index := awaited
      rw [awaitsWith_of_ne same] at before
      obtain ⟨-, -, former, -, -, was, -⟩ := sound.awaiting other index before
      have isOld := Option.some.inj
        ((letter_sent was number run.transfer stage).symm.trans sent)
      subst isOld
      exact founded.awaited other index current currentStage former before present
        currentCalling was

theorem Founded.deliver (founded : mail.Founded) (sound : mail.Sound)
    (delivered : mail.deliver index = some next) : next.Founded := by
  obtain ⟨letter, turn, found, unanswered, isTurn, rfl⟩ :=
    sound.turn_of_deliver delivered
  refine ⟨isTurn.funded founded.funded, ?answered, ?awaited, ?prepared⟩
  case answered =>
    intro place current result present answered
    rw [getElem?_afterTurn found] at present
    split at present
    · cases present
      exact ⟨turn.1, (Banks.find?_put ..).trans (if_pos rfl)⟩
    · exact Banks.exists_find?_put
        (founded.answered place current result present answered)
  case awaited =>
    intro number place run stage current awaited runFound calling present
    obtain ⟨former, was, sameBank, -⟩ := letter_of_afterTurn found present
    rw [sameBank]
    exact founded.awaited number place run stage former awaited runFound calling
      was
  case prepared =>
    intro number run stage side runFound calling prepared
    exact Banks.exists_find?_put
      (founded.prepared number run stage side runFound calling prepared)

/-- A settlement that goes on because of an acknowledgement has heard from the
bank. -/
theorem Founded.proceed {answer : Except TransferFailure Unit}
    (founded : mail.Founded)
    (reached : answer = .ok () → ∀ run stage,
      mail.floor.runs[number]? = some run → run.phase = .calling stage →
        ∃ bank, Table.find? mail.banks (stage.bank run.transfer) = some bank)
    (proceeded : mail.proceed number answer = some next) : next.Founded := by
  obtain ⟨floor, answered, rfl⟩ := proceed_eq_some proceeded
  obtain ⟨run, stage, found, calling, rfl⟩ := Floor.answer_eq_some answered
  refine { founded with awaited := ?awaited, prepared := ?prepared }
  case awaited =>
    intro other index current currentStage letter awaited present currentCalling
      sent
    have waits : mail.awaitsWith number none other = some index := awaited
    rcases Floor.run_of_withRun found present with ⟨rfl, rfl⟩ | ⟨different, was⟩
    · rw [awaitsWith_self] at waits
      cases waits
    · rw [awaitsWith_of_ne different.symm] at waits
      exact founded.awaited other index current currentStage letter waits was
        currentCalling sent
  case prepared =>
    intro other current currentStage side present currentCalling prepared
    rcases Floor.run_of_withRun found present with ⟨rfl, rfl⟩ | ⟨-, was⟩
    · cases following : Settlement.next run.transfer stage answer with
      | conclude conclusion =>
          simp [following, RunPhase.entering] at currentCalling
      | proceed later =>
          simp only [following, RunPhase.entering, RunPhase.calling.injEq]
            at currentCalling
          subst currentCalling
          rcases Settlement.Stage.hasPrepared_of_next following prepared with
            before | ⟨acknowledged, rfl⟩
          · exact founded.prepared number run stage side found calling before
          · exact reached acknowledged run stage found calling
    · exact founded.prepared other current currentStage side was currentCalling
        prepared

theorem Founded.hear (founded : mail.Founded)
    (heard : mail.hear number = some next) : next.Founded := by
  obtain ⟨index, letter, result, awaited, found, answered, proceeded⟩ :=
    hear_eq_some heard
  apply founded.proceed _ proceeded
  intro _ run stage runFound calling
  rw [← founded.awaited number index run stage letter awaited runFound calling
    found]
  exact founded.answered index letter result found answered

theorem Founded.conclude {floor : Floor} (founded : mail.Founded)
    (concluded : mail.floor.conclude number = some floor) :
    Founded { mail with floor := floor } := by
  obtain ⟨run, conclusion, found, concluding, rfl⟩ :=
    Floor.conclude_eq_some concluded
  -- The settlement that has ended calls no bank.
  have before : ∀ (other : Nat) (current : SettlementRun) stage,
      (mail.floor.ended number run conclusion).runs[other]? = some current →
        current.phase = .calling stage →
          mail.floor.runs[other]? = some current := by
    intro other current stage present calling
    rcases Floor.run_of_withRun found present with ⟨rfl, rfl⟩ | ⟨-, was⟩
    · cases calling
    · exact was
  refine { founded with awaited := ?awaited, prepared := ?prepared }
  case awaited =>
    intro other index current stage letter awaited present calling
    exact founded.awaited other index current stage letter awaited
      (before other current stage present calling) calling
  case prepared =>
    intro other current stage side present calling
    exact founded.prepared other current stage side
      (before other current stage present calling) calling

theorem Founded.leave {floor : Floor} (founded : mail.Founded)
    (left : mail.floor.leave number = some floor) :
    Founded { mail with floor := floor } := by
  refine { founded with awaited := ?awaited, prepared := ?prepared }
  case awaited =>
    intro other index current stage letter awaited present calling
    obtain ⟨former, was, sameTransfer, samePhase⟩ :=
      Floor.run_of_leave left present
    rw [sameTransfer]
    exact founded.awaited other index former stage letter awaited was
      (samePhase.symm.trans calling)
  case prepared =>
    intro other current stage side present calling
    obtain ⟨former, was, sameTransfer, samePhase⟩ :=
      Floor.run_of_leave left present
    rw [sameTransfer]
    exact founded.prepared other former stage side was
      (samePhase.symm.trans calling)

theorem Founded.step (founded : mail.Founded) (sound : mail.Sound)
    (stepped : mail.step event = some next) : next.Founded := by
  cases event with
  | order ordered =>
      cases stepped
      exact founded.order sound ordered
  | send number => exact founded.send sound stepped
  | deliver index => exact founded.deliver sound stepped
  | hear number => exact founded.hear stepped
  | fail number failure =>
      obtain ⟨index, awaited, doubt, proceeded⟩ := fail_eq_some stepped
      exact founded.proceed (by rintro ⟨⟩) proceeded
  | conclude number =>
      obtain ⟨floor, concluded, rfl⟩ := Option.map_eq_some_iff.mp stepped
      exact founded.conclude concluded
  | leave number =>
      obtain ⟨floor, left, rfl⟩ := Option.map_eq_some_iff.mp stepped
      exact founded.leave left
  | rest milliseconds =>
      cases stepped
      exact ⟨founded.funded, founded.answered, founded.awaited,
        founded.prepared⟩

end Mail

end ClearingHouse
