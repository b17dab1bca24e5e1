import ClearingHouse.Proofs.Mail.Money
import ClearingHouse.Proofs.Mail.Pledge

/-!
# Prepares that their own releases overtake

A settlement that gives up releases what its prepares may have taken.  A release
that finds the account free is acknowledged and leaves no trace, so a prepare that
reaches its bank after it takes the account, and nobody releases it any more.
`heldFor_iff_overtaken` shows that this is the only way in which an account stays
held for a transfer that has been given up.
-/

namespace ClearingHouse

namespace Banks

def HeldFor (banks : Banks) (party : Party) (transfer : TransferId) : Prop :=
  ∃ hold, banks.hold? party = some hold ∧ hold.transfer = transfer

variable {banks after : Banks} {now : Nat} {name : BankName} {call : BankCall}
  {attempt : Bank.Attempt BankReply} {party : Party} {transfer : TransferId}

theorem Same.heldFor_iff (same : Same banks after) :
    after.HeldFor party transfer ↔ banks.HeldFor party transfer := by
  rw [HeldFor, same.hold?]
  rfl

theorem Writes.heldFor_iff {wrote : Party} {old new : Account}
    (writes : Writes banks after wrote old new) :
    after.HeldFor party transfer ↔
      (party = wrote ∧ ∃ hold, new.hold = some hold ∧ hold.transfer = transfer) ∨
        (party ≠ wrote ∧ banks.HeldFor party transfer) := by
  rw [HeldFor, writes.hold?]
  by_cases here : party = wrote
  · simp [here]
  · simp [here, HeldFor]

/-- An account is held after a call that was held before and is not released by it,
or it is taken by a prepare that is acknowledged. -/
theorem Turn.heldFor (turn : Turn banks now name call after attempt)
    (held : after.HeldFor party transfer) :
    (banks.HeldFor party transfer ∧ ∀ order, call = .release order →
      order.transfer = transfer → party ≠ ⟨name, order.account⟩) ∨
    ∃ order, call = .prepare order ∧ order.transfer = transfer ∧
      party = ⟨name, order.account⟩ ∧ attempt = .finished (.ok .done) := by
  have before : Same banks after → (∀ order, call ≠ .release order) →
      banks.HeldFor party transfer ∧ ∀ order, call = .release order →
        order.transfer = transfer → party ≠ ⟨name, order.account⟩ :=
    fun same noRelease => ⟨same.heldFor_iff.mp held, fun order isRelease =>
      absurd isRelease (noRelease order)⟩
  cases turn with
  | prepareRefused order refusal same => exact Or.inl (before same nofun)
  | prepareAgain order pause number same => exact Or.inl (before same nofun)
  | prepareKnown order record known committed same => exact Or.inl (before same nofun)
  | commitRefused order refusal same => exact Or.inl (before same nofun)
  | commitKnown order record known committed same => exact Or.inl (before same nofun)
  | told number result same => exact Or.inl (before same nofun)
  | prepared order account ready writes legs =>
      rcases writes.heldFor_iff.mp held with ⟨here, hold, isHold, about⟩ | ⟨-, was⟩
      · cases isHold
        exact Or.inr ⟨order, rfl, about, here, rfl⟩
      · exact Or.inl ⟨was, nofun⟩
  | applied order account balance record isHeld fits known prepared sameAccount writes
      legs =>
      rcases writes.heldFor_iff.mp held with ⟨-, hold, isHold, -⟩ | ⟨-, was⟩
      · cases isHold
      · exact Or.inl ⟨was, nofun⟩
  | idle order result notHeld same =>
      have was := same.heldFor_iff.mp held
      refine Or.inl ⟨was, ?_⟩
      rintro _ ⟨⟩ about rfl
      obtain ⟨hold, isHeld, sameTransfer⟩ := was
      exact notHeld hold isHeld (sameTransfer.trans about.symm)
  | released order account hold isHeld holder writes legs =>
      rcases writes.heldFor_iff.mp held with ⟨-, hold, isHold, -⟩ | ⟨elsewhere, was⟩
      · cases isHold
      · refine Or.inl ⟨was, ?_⟩
        rintro _ ⟨⟩ -
        exact elsewhere

/-- An account stays held until its own transfer commits or releases it. -/
theorem Turn.heldFor_of_held (turn : Turn banks now name call after attempt)
    (held : banks.HeldFor party transfer)
    (uncommitted : ∀ side, ¬ call.Commits transfer side)
    (unreleased : ∀ order, call = .release order → order.transfer = transfer →
      party ≠ ⟨name, order.account⟩) :
    after.HeldFor party transfer := by
  cases turn with
  | prepareRefused order refusal same => exact same.heldFor_iff.mpr held
  | prepareAgain order pause number same => exact same.heldFor_iff.mpr held
  | prepareKnown order record known committed same =>
      exact same.heldFor_iff.mpr held
  | commitRefused order refusal same => exact same.heldFor_iff.mpr held
  | commitKnown order record known committed same => exact same.heldFor_iff.mpr held
  | told number result same => exact same.heldFor_iff.mpr held
  | idle order result notHeld same => exact same.heldFor_iff.mpr held
  | prepared order account ready writes legs =>
      refine writes.heldFor_iff.mpr ?_
      by_cases here : party = ⟨name, order.account⟩
      · subst here
        obtain ⟨hold, isHeld, about⟩ := held
        rw [hold?_of_account? writes.found] at isHeld
        rcases ready with again | ⟨free, -⟩
        · rw [again] at isHeld
          cases isHeld
          exact Or.inl ⟨rfl, _, rfl, about⟩
        · rw [free] at isHeld
          cases isHeld
      · exact Or.inr ⟨here, held⟩
  | applied order account balance record isHold fits known prepared sameAccount writes
      legs =>
      refine writes.heldFor_iff.mpr (Or.inr ⟨?_, held⟩)
      rintro rfl
      obtain ⟨hold, isHeld, about⟩ := held
      rw [hold?_of_account? writes.found, isHold] at isHeld
      cases isHeld
      exact uncommitted order.side ⟨about, rfl⟩
  | released order account hold isHold holder writes legs =>
      refine writes.heldFor_iff.mpr (Or.inr ⟨?_, held⟩)
      rintro rfl
      obtain ⟨other, isHeld, about⟩ := held
      rw [hold?_of_account? writes.found, isHold] at isHeld
      cases isHeld
      exact unreleased order rfl (holder.symm.trans about) rfl

end Banks

namespace Mail

variable {mail next start final last : Mail} {events : List Event} {event : Event}
  {party : Party} {transfer : TransferId}

/-- All letters have been answered, and no settlement is under way. -/
structure IsQuiet (mail : Mail) : Prop where
  answered : ∀ letter ∈ mail.letters, ∃ result, letter.state = .answered result
  ended : ∀ run ∈ mail.floor.runs, run.phase.isLive = false

/-- The transfer has been dropped, or it has failed before any commit. -/
def IsGivenUp (mail : Mail) (transfer : TransferId) : Prop :=
  ∀ entry, mail.floor.entryOf? transfer = some entry →
    ∃ failure, entry.outcome = some (.error failure) ∧ failure ≠ .timeout ∧
      ∀ detail, failure ≠ .commitIncomplete detail

/-- A prepare reaches its bank and takes an account, although a later letter asks to
release it.  Every letter that ever asks for this has been answered before. -/
inductive Overtaken (party : Party) (transfer : TransferId) (final last : Mail) :
    Event → Mail → Prop where
  | late {index later : Nat} {next : Mail} (prepare release : Letter)
      (arrived : next.letters[index]? = some prepare)
      (prepares : prepare.Prepares party transfer)
      (acknowledged : prepare.state = .answered (.ok .done))
      (held : next.banks.HeldFor party transfer) (after : index < later)
      (sent : final.letters[later]? = some release)
      (releases : release.Releases party transfer)
      (answered : ∀ (place : Nat) (letter : Letter),
        final.letters[place]? = some letter → letter.Releases party transfer →
          last.letters[place]? = some letter ∧
            ∃ result, letter.state = .answered result) :
      Overtaken party transfer final last (.deliver index) next

/-! ## What a step does to a hold -/

theorem letter_after_runThrough {index : Nat} {letter : Letter}
    (ran : runThrough step mail events = some final)
    (found : mail.letters[index]? = some letter) :
    ∃ current, final.letters[index]? = some current ∧
      current.bank = letter.bank ∧ current.call = letter.call ∧
      ∀ result, letter.state = .answered result → current = letter := by
  have kept : ∀ {state next : Mail} {event : Event},
      (∃ current, state.letters[index]? = some current ∧
        current.bank = letter.bank ∧ current.call = letter.call ∧
        ∀ result, letter.state = .answered result → current = letter) →
      state.step event = some next →
      ∃ current, next.letters[index]? = some current ∧
        current.bank = letter.bank ∧ current.call = letter.call ∧
        ∀ result, letter.state = .answered result → current = letter := by
    rintro state next event ⟨former, was, sameBank, sameCall, same⟩ stepped
    obtain ⟨current, present, bank, call, unchanged⟩ := letter_after_step stepped was
    refine ⟨current, present, bank.trans sameBank, call.trans sameCall, ?_⟩
    intro result answered
    have isLetter := same result answered
    subst isLetter
    exact unchanged result answered
  exact invariant_of_runThrough kept ⟨letter, found, rfl, rfl, fun _ _ => rfl⟩ ran

/-- If an account is held after a step, it was held before, or a prepare has just
taken it.  No release of it has been answered by this step. -/
theorem heldFor_of_step (sound : mail.Sound)
    (stepped : mail.step event = some next)
    (held : next.banks.HeldFor party transfer) :
    (∀ (place : Nat) (letter : Letter) result, next.letters[place]? = some letter →
      letter.Releases party transfer → letter.state = .answered result →
        mail.letters[place]? = some letter) ∧
    (mail.banks.HeldFor party transfer ∨
      ∃ index prepare, event = .deliver index ∧
        next.letters[index]? = some prepare ∧ prepare.Prepares party transfer ∧
        prepare.state = .answered (.ok .done)) := by
  by_cases delivered : ∃ index, event = .deliver index
  · obtain ⟨index, rfl⟩ := delivered
    obtain ⟨letter, turn, found, unanswered, isTurn, rfl⟩ :=
      sound.turn_of_deliver stepped
    have here : (mail.afterTurn index letter turn).letters[index]? = some _ :=
      (getElem?_afterTurn found index).trans (if_pos rfl)
    have elsewhere : (¬ letter.Releases party transfer) →
        ∀ (place : Nat) (current : Letter) result,
          (mail.afterTurn index letter turn).letters[place]? = some current →
            current.Releases party transfer → current.state = .answered result →
              mail.letters[place]? = some current := by
      intro other place current result present releases answered
      rw [getElem?_afterTurn found] at present
      split at present
      · cases present
        exact absurd releases other
      · exact present
    rcases isTurn.heldFor held with ⟨was, kept⟩ | ⟨order, isPrepare, about, same, done⟩
    · refine ⟨elsewhere ?_, Or.inl was⟩
      rintro ⟨order, isRelease, about, same⟩
      exact kept order isRelease about same
    · refine ⟨elsewhere ?_, Or.inr ⟨index, _, rfl, here, ⟨order, isPrepare, about, same⟩,
        ?_⟩⟩
      · rintro ⟨other, isRelease, -⟩
        rw [isPrepare] at isRelease
        cases isRelease
      · rw [done]
        rfl
  · have undelivered : ∀ place, event ≠ .deliver place := fun place same =>
      delivered ⟨place, same⟩
    rw [(letters_of_step stepped undelivered).1] at held
    refine ⟨?_, Or.inl held⟩
    intro place letter result present releases answered
    rcases letter_of_undelivered stepped undelivered present with old | sent
    · exact old
    · obtain ⟨number, run, stage, -, -, rfl⟩ := sent
      cases answered

/-- An account stays held in a step, if its transfer does not commit and the step
does not deliver a release of it. -/
theorem heldFor_step (sound : mail.Sound) (stepped : mail.step event = some next)
    (held : mail.banks.HeldFor party transfer)
    (unasked : ∀ side, ¬ mail.Asked transfer side)
    (answered : ∀ (place : Nat) (letter : Letter),
      mail.letters[place]? = some letter → letter.Releases party transfer →
        ∃ result, letter.state = .answered result) :
    next.banks.HeldFor party transfer := by
  by_cases delivered : ∃ index, event = .deliver index
  · obtain ⟨index, rfl⟩ := delivered
    obtain ⟨letter, turn, found, unanswered, isTurn, rfl⟩ :=
      sound.turn_of_deliver stepped
    apply isTurn.heldFor_of_held held
    · exact fun side commits => unasked side ⟨index, letter, found, commits⟩
    · intro order isRelease about same
      obtain ⟨result, isAnswered⟩ :=
        answered index letter found ⟨order, isRelease, about, same⟩
      exact unanswered result isAnswered
  · have undelivered : ∀ place, event ≠ .deliver place := fun place same =>
      delivered ⟨place, same⟩
    rw [(letters_of_step stepped undelivered).1]
    exact held

/-! ## Holds that stay -/

/-- Once all releases of an account have been answered, it stays held for a transfer
that never commits. -/
theorem heldFor_of_runThrough (sound : mail.Sound)
    (ran : runThrough step mail events = some final)
    (held : mail.banks.HeldFor party transfer)
    (unasked : ∀ side, ¬ final.Asked transfer side)
    (answered : ∀ (place : Nat) (letter : Letter),
      final.letters[place]? = some letter → letter.Releases party transfer →
        mail.letters[place]? = some letter ∧
          ∃ result, letter.state = .answered result) :
    final.banks.HeldFor party transfer := by
  induction events generalizing mail with
  | nil =>
      cases ran
      exact held
  | cons event events ih =>
      obtain ⟨next, stepped, rest⟩ := runThrough_cons_eq_some ran
      have heldNext : next.banks.HeldFor party transfer := by
        apply heldFor_step sound stepped held
        · rintro side ⟨place, letter, found, commits⟩
          obtain ⟨current, present, -, sameCall, -⟩ := letter_after_runThrough ran found
          exact unasked side ⟨place, current, present, sameCall ▸ commits⟩
        · intro place letter found releases
          obtain ⟨current, present, sameBank, sameCall, -⟩ :=
            letter_after_runThrough ran found
          obtain ⟨known, isAnswered⟩ :=
            answered place current present (releases.of_same sameBank sameCall)
          rw [found] at known
          cases known
          exact isAnswered
      refine ih (sound.step stepped) rest heldNext ?_
      intro place letter present releases
      obtain ⟨known, result, isAnswered⟩ := answered place letter present releases
      obtain ⟨current, found, -, -, same⟩ := letter_after_step stepped known
      rw [same result isAnswered] at found
      exact ⟨found, result, isAnswered⟩

/-! ## How an account has come to be held -/

/-- A prepare takes an account.  By now no release of it has been answered that had
not been answered before. -/
inductive Takes (party : Party) (transfer : TransferId) (now last : Mail) :
    Event → Mail → Prop where
  | took {index : Nat} {next : Mail} (prepare : Letter)
      (arrived : next.letters[index]? = some prepare)
      (prepares : prepare.Prepares party transfer)
      (acknowledged : prepare.state = .answered (.ok .done))
      (held : next.banks.HeldFor party transfer)
      (answered : ∀ (place : Nat) (letter : Letter) result,
        now.letters[place]? = some letter → letter.Releases party transfer →
          letter.state = .answered result → last.letters[place]? = some letter) :
      Takes party transfer now last (.deliver index) next

/-- Where an account is held, it has been taken. -/
def Traced (start : Mail) (party : Party) (transfer : TransferId)
    (past : List Event) (mail : Mail) : Prop :=
  mail.banks.HeldFor party transfer →
    Occurs step start past (Takes party transfer mail)

theorem Traced.step {past : List Event} (sound : mail.Sound)
    (reached : runThrough step start past = some mail)
    (traced : Traced start party transfer past mail)
    (stepped : mail.step event = some next) :
    Traced start party transfer (past ++ [event]) next := by
  intro held
  obtain ⟨answered, was | ⟨index, prepare, rfl, arrived, prepares, acknowledged⟩⟩ :=
    heldFor_of_step sound stepped held
  · refine (occurs_concat reached stepped).mpr (Or.inl ((traced was).mono ?_))
    rintro last _ later ⟨prepare, arrived, prepares, acknowledged, taken, known⟩
    refine .took prepare arrived prepares acknowledged taken ?_
    intro place letter result present releases isAnswered
    exact known place letter result
      (answered place letter result present releases isAnswered) releases isAnswered
  · exact (occurs_concat reached stepped).mpr
      (Or.inr (.took prepare arrived prepares acknowledged held answered))

theorem traced_of_runThrough (opening : start.IsOpening)
    (unheld : ∀ party, start.banks.hold? party = none)
    (ran : runThrough step start events = some final) :
    Traced start party transfer events final := by
  refine history_of_runThrough ?_ ?_ ran
  · rintro ⟨hold, isHeld, -⟩
    rw [unheld] at isHeld
    cases isHeld
  · intro past mail event next reached traced stepped
    exact Traced.step (sound_of_runThrough opening reached) reached traced stepped

/-! ## Accounts of transfers that have been given up -/

theorem Sound.not_asked_of_isGivenUp (sound : mail.Sound)
    (givenUp : mail.IsGivenUp transfer) (side : Side) :
    ¬ mail.Asked transfer side := by
  cases known : mail.floor.entryOf? transfer with
  | none => exact sound.absent transfer known side
  | some entry =>
      obtain ⟨failure, outcome, notTimeout, notIncomplete⟩ := givenUp entry known
      exact sound.settled transfer entry _ known outcome notTimeout notIncomplete side

/-- When nothing is on its way any more, an account is held for a transfer that has
been given up if and only if its prepare was overtaken by its releases. -/
theorem heldFor_iff_overtaken (opening : start.IsOpening)
    (unheld : ∀ party, start.banks.hold? party = none)
    (ran : runThrough step start events = some final) (quiet : final.IsQuiet)
    (givenUp : final.IsGivenUp transfer) :
    final.banks.HeldFor party transfer ↔
      Occurs step start events (Overtaken party transfer final) := by
  have sound := sound_of_runThrough opening ran
  have unasked := sound.not_asked_of_isGivenUp givenUp
  constructor
  · intro held
    obtain ⟨before, event, after, last, next, rfl, reached, stepped, takes⟩ :=
      traced_of_runThrough opening unheld ran held
    refine ⟨before, event, after, last, next, rfl, reached, stepped, ?_⟩
    have rest := runThrough_of_split ran reached stepped
    cases takes with
    | @took index _ prepare arrived prepares acknowledged taken answered =>
        obtain ⟨kept, present, -, -, same⟩ := letter_after_runThrough rest arrived
        rw [same _ acknowledged] at present
        have covered := pledged_of_runThrough opening ran index prepare party transfer
          present prepares
        cases covered with
        | refused letter refusal found refused =>
            rw [present] at found
            cases found
            rw [acknowledged] at refused
            cases refused
        | asked side isAsked => exact absurd isAsked (unasked side)
        | owed number run stage side found calling =>
            have live := quiet.ended run (List.mem_of_getElem? found)
            rw [calling] at live
            cases live
        | released later release after found releases =>
            refine .late prepare release arrived prepares acknowledged taken after found
              releases ?_
            intro place letter isPresent isRelease
            obtain ⟨result, isAnswered⟩ :=
              quiet.answered letter (List.mem_of_getElem? isPresent)
            exact ⟨answered place letter result isPresent isRelease isAnswered, result,
              isAnswered⟩
  · rintro ⟨before, event, after, last, next, rfl, reached, stepped, overtaken⟩
    have rest := runThrough_of_split ran reached stepped
    have lastSound := sound_of_runThrough opening reached
    cases overtaken with
    | late prepare release arrived prepares acknowledged held after sent releases
        answered =>
        refine heldFor_of_runThrough (lastSound.step stepped) rest held unasked ?_
        intro place letter present isRelease
        obtain ⟨known, result, isAnswered⟩ := answered place letter present isRelease
        obtain ⟨current, found, -, -, same⟩ := letter_after_step stepped known
        rw [same result isAnswered] at found
        exact ⟨found, result, isAnswered⟩

/-- The payer's account is released before its prepare arrives. -/
def freedTooEarly : List Event :=
  [.order Sample.payment, .send 0, .fail 0 .timeout, .send 0, .deliver 1, .hear 0,
    .conclude 0, .deliver 0]

/-- The payer's account is released after its prepare has arrived. -/
def freedInTime : List Event :=
  [.order Sample.payment, .send 0, .fail 0 .timeout, .send 0, .deliver 0, .deliver 1,
    .hear 0, .conclude 0]

theorem heldFor_of_freedTooEarly :
    ∃ early late,
      runThrough step sample freedTooEarly = some early ∧ early.IsQuiet ∧
      early.IsGivenUp Sample.payment.id ∧
      early.banks.HeldFor Sample.payer Sample.payment.id ∧
      Occurs step sample freedTooEarly
        (Overtaken Sample.payer Sample.payment.id early) ∧
      runThrough step sample freedInTime = some late ∧ late.IsQuiet ∧
      late.IsGivenUp Sample.payment.id ∧
      ¬ late.banks.HeldFor Sample.payer Sample.payment.id := by
  have opening : sample.IsOpening :=
    ⟨⟨rfl, rfl⟩, rfl, fun _ => rfl, rfl, Sample.leg?_banks⟩
  have quietOf : ∀ {mail : Mail} {first second : Letter} {run : SettlementRun},
      mail.letters = [first, second] → mail.floor.runs = [run] →
        (∃ result, first.state = .answered result) →
        (∃ result, second.state = .answered result) → run.phase.isLive = false →
          mail.IsQuiet := by
    intro mail first second run letters runs firstAnswered secondAnswered ended
    constructor
    · simp [letters, firstAnswered, secondAnswered]
    · simp [runs, ended]
  have givenUpOf : ∀ {mail : Mail}, mail.floor.entryOf? Sample.payment.id = none →
      mail.IsGivenUp Sample.payment.id := by
    intro mail absent entry present
    rw [absent] at present
    cases present
  have early : ∃ early, runThrough step sample freedTooEarly = some early ∧
      early.IsQuiet ∧ early.IsGivenUp Sample.payment.id ∧
      early.banks.HeldFor Sample.payer Sample.payment.id :=
    ⟨_, rfl, quietOf rfl rfl ⟨_, rfl⟩ ⟨_, rfl⟩ rfl, givenUpOf rfl, _, rfl, rfl⟩
  have late : ∃ late, runThrough step sample freedInTime = some late ∧
      late.IsQuiet ∧ late.IsGivenUp Sample.payment.id ∧
      late.banks.hold? Sample.payer = none :=
    ⟨_, rfl, quietOf rfl rfl ⟨_, rfl⟩ ⟨_, rfl⟩ rfl, givenUpOf rfl, rfl⟩
  obtain ⟨early, ranEarly, quietEarly, givenUpEarly, held⟩ := early
  obtain ⟨late, ranLate, quietLate, givenUpLate, free⟩ := late
  refine ⟨early, late, ranEarly, quietEarly, givenUpEarly, held, ?_, ranLate, quietLate,
    givenUpLate, ?_⟩
  · exact (heldFor_iff_overtaken opening Sample.hold?_banks ranEarly quietEarly
      givenUpEarly).mp held
  · rintro ⟨hold, isHeld, -⟩
    rw [free] at isHeld
    cases isHeld

end Mail

end ClearingHouse
