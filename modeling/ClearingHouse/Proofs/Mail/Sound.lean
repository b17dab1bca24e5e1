import ClearingHouse.Proofs.Floor.Sound
import ClearingHouse.Proofs.Mail.Basic

/-!
# Commits are asked for once

However late letters are, at most one commit of each leg is ever asked for, and
the credit leg is asked for only after the debit leg has been posted.
`Mail.Sound` ties the letters and the postings to the phases of the settlements
and to the journal.
-/

namespace ClearingHouse

def BankCall.Commits (transfer : TransferId) (side : Side) : BankCall → Prop
  | .commit order => order.transfer = transfer ∧ order.side = side
  | _ => False

theorem Settlement.Stage.commits_call {stage : Settlement.Stage}
    {transfer : Transfer} {id : TransferId} {side : Side}
    (commits : (stage.call transfer).Commits id side) :
    transfer.id = id ∧ (stage = .commitDebit ∧ side = .debit ∨
      stage = .commitCredit ∧ side = .credit) := by
  cases stage with
  | prepareDebit | prepareCredit => cases commits
  | releaseDebit cause creditNext => cases commits
  | releaseCredit cause => cases commits
  | commitDebit =>
      obtain ⟨rfl, rfl⟩ := commits
      exact ⟨rfl, Or.inl ⟨rfl, rfl⟩⟩
  | commitCredit =>
      obtain ⟨rfl, rfl⟩ := commits
      exact ⟨rfl, Or.inr ⟨rfl, rfl⟩⟩

namespace Mail

/-- A letter asks to commit this leg, wherever the letter is. -/
def Asked (mail : Mail) (transfer : TransferId) (side : Side) : Prop :=
  ∃ (index : Nat) (letter : Letter), mail.letters[index]? = some letter ∧
    letter.call.Commits transfer side

def Posted (mail : Mail) (transfer : TransferId) (side : Side) : Prop :=
  ∃ posting ∈ mail.postings, posting.transfer = transfer ∧ posting.side = side

/-- An outcome of a transfer is true.  A timeout and an incomplete commit leave
open what has been posted; any other failure says that no commit was asked for. -/
def Upholds (mail : Mail) (transfer : TransferId) : Outcome → Prop
  | .ok _ => ∀ side, mail.Posted transfer side
  | .error failure => failure ≠ .timeout →
      (∀ detail, failure ≠ .commitIncomplete detail) →
        ∀ side, ¬ mail.Asked transfer side

/-- Letters and postings are as they may be in a phase of a settlement. -/
def Agrees (mail : Mail) (number : Nat) (transfer : TransferId) :
    RunPhase → Prop
  | .calling .commitDebit =>
      (mail.Asked transfer .debit → mail.awaits number ≠ none) ∧
        ¬ mail.Asked transfer .credit
  | .calling .commitCredit =>
      (mail.Asked transfer .credit → mail.awaits number ≠ none) ∧
        mail.Posted transfer .debit
  | .concluding (.settled outcome) => mail.Upholds transfer outcome
  | .ended _ => True
  | _ => ∀ side, ¬ mail.Asked transfer side

/-- Letters, postings, settlements and journal agree. -/
structure Sound (mail : Mail) : Prop where
  floor : mail.floor.Sound
  /-- A commit is asked for as the journal has the transfer. -/
  letters : ∀ (index : Nat) (letter : Letter) (order : LegOrder),
    mail.letters[index]? = some letter → letter.call = .commit order →
      order.amount.isZero = false ∧
      ∃ entry, mail.floor.entryOf? order.transfer = some entry ∧
        order = entry.transfer.legOrder order.side ∧
        letter.bank = (entry.transfer.party order.side).bank
  /-- No commit is asked for twice. -/
  single : ∀ (first second : Nat) (firstLetter secondLetter : Letter) transfer
    side, mail.letters[first]? = some firstLetter →
      mail.letters[second]? = some secondLetter →
      firstLetter.call.Commits transfer side →
      secondLetter.call.Commits transfer side → first = second
  pausing : ∀ (index : Nat) (letter : Letter) attempt,
    mail.letters[index]? = some letter → letter.state = .pausing attempt →
      ∃ order, letter.call = .prepare order
  acknowledged : ∀ (index : Nat) (letter : Letter) reply transfer side,
    mail.letters[index]? = some letter → letter.call.Commits transfer side →
      letter.state = .answered (.ok reply) → mail.Posted transfer side
  committed : ∀ name transfer side record,
    mail.banks.leg? name transfer side = some record →
      record.status = .committed → mail.Posted transfer side
  /-- What has been posted was asked for, and the letter has been answered. -/
  posted : ∀ posting ∈ mail.postings, ∃ (index : Nat) (letter : Letter)
    (order : LegOrder) (result : Except Refusal BankReply),
      mail.letters[index]? = some letter ∧ letter.call = .commit order ∧
        letter.state = .answered result ∧ posting = order.posting letter.bank
  distinct : (mail.postings.map fun posting =>
    (posting.transfer, posting.side)).Nodup
  debitFirst : ∀ transfer, mail.Asked transfer .credit →
    mail.Posted transfer .debit
  /-- The debit of a transfer is posted before its credit. -/
  ordered : ∀ (later : Nat) (credit : Posting),
    mail.postings[later]? = some credit → credit.side = .credit →
      ∃ (earlier : Nat) (debit : Posting), earlier < later ∧
        mail.postings[earlier]? = some debit ∧
        debit.transfer = credit.transfer ∧ debit.side = .debit
  live : ∀ number run, mail.floor.IsLive number run →
    mail.Agrees number run.transfer.id run.phase
  awaiting : ∀ number index, mail.awaits number = some index →
    ∃ run stage letter, mail.floor.runs[number]? = some run ∧
      run.phase = .calling stage ∧ mail.letters[index]? = some letter ∧
      letter.call = stage.call run.transfer
  settled : ∀ id entry outcome, mail.floor.entryOf? id = some entry →
    entry.outcome = some outcome → mail.Upholds id outcome
  absent : ∀ id, mail.floor.entryOf? id = none → ∀ side, ¬ mail.Asked id side

variable {mail next : Mail} {number index : Nat} {transfer : Transfer}

/-! ## What stays true -/

theorem Upholds.mono {id : TransferId} {outcome : Outcome}
    (asked : ∀ side, next.Asked id side → mail.Asked id side)
    (posted : ∀ side, mail.Posted id side → next.Posted id side)
    (upholds : mail.Upholds id outcome) :
    next.Upholds id outcome := by
  cases outcome with
  | ok receipt => exact fun side => posted side (upholds side)
  | error failure =>
      intro notTimeout notIncomplete side isAsked
      exact upholds notTimeout notIncomplete side (asked side isAsked)

theorem Agrees.mono {id : TransferId} {phase : RunPhase}
    (asked : ∀ side, next.Asked id side → mail.Asked id side)
    (posted : ∀ side, mail.Posted id side → next.Posted id side)
    (awaits : next.awaits number = mail.awaits number)
    (agrees : mail.Agrees number id phase) :
    next.Agrees number id phase := by
  cases phase with
  | calling stage =>
      cases stage with
      | commitDebit =>
          obtain ⟨waits, unasked⟩ := agrees
          exact ⟨fun isAsked => awaits.symm ▸ waits (asked .debit isAsked),
            fun isAsked => unasked (asked .credit isAsked)⟩
      | commitCredit =>
          obtain ⟨waits, debit⟩ := agrees
          exact ⟨fun isAsked => awaits.symm ▸ waits (asked .credit isAsked),
            posted .debit debit⟩
      | prepareDebit | prepareCredit =>
          exact fun side isAsked => agrees side (asked side isAsked)
      | releaseDebit cause creditNext =>
          exact fun side isAsked => agrees side (asked side isAsked)
      | releaseCredit cause =>
          exact fun side isAsked => agrees side (asked side isAsked)
  | concluding conclusion =>
      cases conclusion with
      | settled outcome => exact Upholds.mono asked posted agrees
      | dropped failure =>
          exact fun side isAsked => agrees side (asked side isAsked)
  | ended outcome => exact trivial

theorem sound_of_isOpening (opening : mail.IsOpening) : mail.Sound := by
  have noEntry : ∀ id, mail.floor.entryOf? id = none := by
    intro id
    simp [Floor.entryOf?, opening.floor.journal]
  have noLetter : ∀ index : Nat, mail.letters[index]? = none := by
    intro index
    simp [opening.letters]
  constructor
  · exact Floor.sound_of_isOpening opening.floor
  · intro index letter order found
    rw [noLetter] at found
    cases found
  · intro first second firstLetter secondLetter transfer side found
    rw [noLetter] at found
    cases found
  · intro index letter attempt found
    rw [noLetter] at found
    cases found
  · intro index letter reply transfer side found
    rw [noLetter] at found
    cases found
  · intro name transfer side record known
    rw [opening.noLeg] at known
    cases known
  · intro posting member
    rw [opening.postings] at member
    cases member
  · rw [opening.postings]
    exact List.nodup_nil
  · rintro transfer ⟨index, letter, found, -⟩
    rw [noLetter] at found
    cases found
  · intro later credit found
    simp [opening.postings] at found
  · rintro number run ⟨found, -⟩
    simp [opening.floor.runs] at found
  · intro number index awaited
    rw [opening.awaits] at awaited
    cases awaited
  · intro id entry outcome present
    rw [noEntry] at present
    cases present
  · rintro id - side ⟨index, letter, found, -⟩
    rw [noLetter] at found
    cases found

theorem Sound.agrees_of_calling {run : SettlementRun}
    {stage : Settlement.Stage} (sound : mail.Sound)
    (found : mail.floor.runs[number]? = some run)
    (calling : run.phase = .calling stage) :
    mail.Agrees number run.transfer.id (.calling stage) := by
  rw [← calling]
  exact sound.live number run (Floor.isLive_of_calling found calling)

theorem Sound.agrees_of_concluding {run : SettlementRun}
    {conclusion : Settlement.Conclusion} (sound : mail.Sound)
    (found : mail.floor.runs[number]? = some run)
    (concluding : run.phase = .concluding conclusion) :
    mail.Agrees number run.transfer.id (.concluding conclusion) := by
  rw [← concluding]
  exact sound.live number run (Floor.isLive_of_concluding found concluding)

theorem Sound.call_of_calling {run : SettlementRun}
    {stage : Settlement.Stage} {letter : Letter} (sound : mail.Sound)
    (found : mail.floor.runs[number]? = some run)
    (calling : run.phase = .calling stage)
    (awaited : mail.awaits number = some index)
    (sent : mail.letters[index]? = some letter) :
    letter.call = stage.call run.transfer := by
  obtain ⟨current, currentStage, wasSent, was, wasCalling, isLetter, isCall⟩ :=
    sound.awaiting number index awaited
  rw [found] at was
  cases was
  rw [calling] at wasCalling
  cases wasCalling
  rw [sent] at isLetter
  cases isLetter
  exact isCall

/-! ## Sending -/

/-- Before the commit of a stage is sent, nothing has asked for it. -/
theorem Sound.not_asked_of_idle {run : SettlementRun}
    {stage : Settlement.Stage} {side : Side} (sound : mail.Sound)
    (found : mail.floor.runs[number]? = some run)
    (calling : run.phase = .calling stage) (idle : mail.awaits number = none)
    (commits : (stage.call run.transfer).Commits run.transfer.id side) :
    ¬ mail.Asked run.transfer.id side := by
  have agrees := sound.agrees_of_calling found calling
  rcases (Settlement.Stage.commits_call commits).2 with
    ⟨rfl, rfl⟩ | ⟨rfl, rfl⟩
  · exact fun isAsked => agrees.1 isAsked idle
  · exact fun isAsked => agrees.1 isAsked idle

/-- A commit has been asked for before, or a letter that has just been sent asks
for it. -/
theorem asked_of_sent {stage : Settlement.Stage} {id : TransferId} {side : Side}
    (isAsked : (mail.sent number transfer stage).Asked id side) :
    mail.Asked id side ∨ (stage.call transfer).Commits id side := by
  obtain ⟨place, letter, present, commits⟩ := isAsked
  rcases letter_of_sent present with old | ⟨-, rfl⟩
  · exact Or.inl ⟨place, letter, old, commits⟩
  · exact Or.inr commits

theorem asked_of_sent_of_ne {stage : Settlement.Stage} {id : TransferId}
    {side : Side} (different : id ≠ transfer.id)
    (isAsked : (mail.sent number transfer stage).Asked id side) :
    mail.Asked id side := by
  rcases asked_of_sent isAsked with old | commits
  · exact old
  · exact absurd (Settlement.Stage.commits_call commits).1.symm different

/-- Once its letter has been sent, a settlement awaits the answer to it. -/
theorem Agrees.sent {stage : Settlement.Stage}
    (agrees : mail.Agrees number transfer.id (.calling stage)) :
    (mail.sent number transfer stage).Agrees number transfer.id
      (.calling stage) := by
  have awaited : mail.awaitsWith number (some mail.letters.length) number ≠
      none := by
    rw [awaitsWith_self]
    exact Option.some_ne_none _
  have stillUnasked : ∀ side, ¬ mail.Asked transfer.id side →
      ¬ (stage.call transfer).Commits transfer.id side →
        ¬ (mail.sent number transfer stage).Asked transfer.id side :=
    fun side unasked other isAsked => (asked_of_sent isAsked).elim unasked other
  cases stage with
  | commitDebit =>
      refine ⟨fun _ => awaited, stillUnasked .credit agrees.2 ?_⟩
      rintro ⟨-, ⟨⟩⟩
  | commitCredit => exact ⟨fun _ => awaited, agrees.2⟩
  | prepareDebit | prepareCredit =>
      exact fun side => stillUnasked side (agrees side) id
  | releaseDebit cause creditNext =>
      exact fun side => stillUnasked side (agrees side) id
  | releaseCredit cause =>
      exact fun side => stillUnasked side (agrees side) id

theorem Sound.send (sound : mail.Sound) (sends : mail.send number = some next) :
    next.Sound := by
  obtain ⟨run, stage, found, calling, idle, rfl⟩ := send_eq_some sends
  have live := Floor.isLive_of_calling found calling
  have running := sound.floor.live number run live
  have checked := sound.floor.checked number run found
  have agrees := sound.agrees_of_calling found calling
  refine { sound with
    letters := ?letters, single := ?single, pausing := ?pausing,
    acknowledged := ?acknowledged, posted := ?posted,
    debitFirst := ?debitFirst, live := ?live, awaiting := ?awaiting,
    settled := ?settled, absent := ?absent }
  case letters =>
    intro place letter order present isCommit
    rcases letter_of_sent present with old | ⟨-, rfl⟩
    · exact sound.letters place letter order old isCommit
    · cases stage with
      | commitDebit | commitCredit =>
          cases isCommit
          exact ⟨checked.positive, _, running, rfl, rfl⟩
      | prepareDebit | prepareCredit => cases isCommit
      | releaseDebit cause creditNext => cases isCommit
      | releaseCredit cause => cases isCommit
  case single =>
    intro first second firstLetter secondLetter id side firstFound secondFound
      firstCommits secondCommits
    have fresh : ∀ (place : Nat) (letter : Letter),
        mail.letters[place]? = some letter → letter.call.Commits id side →
          ¬ (stage.call run.transfer).Commits id side := by
      intro place letter present commits newCommits
      obtain ⟨rfl, -⟩ := Settlement.Stage.commits_call newCommits
      exact sound.not_asked_of_idle found calling idle newCommits
        ⟨place, letter, present, commits⟩
    rcases letter_of_sent firstFound with firstOld | ⟨firstIndex, rfl⟩ <;>
    rcases letter_of_sent secondFound with secondOld | ⟨secondIndex, rfl⟩
    · exact sound.single first second _ _ id side firstOld secondOld
        firstCommits secondCommits
    · exact absurd secondCommits (fresh first _ firstOld firstCommits)
    · exact absurd firstCommits (fresh second _ secondOld secondCommits)
    · rw [firstIndex, secondIndex]
  case pausing =>
    intro place letter attempt present pausing
    rcases letter_of_sent present with old | ⟨-, rfl⟩
    · exact sound.pausing place letter attempt old pausing
    · cases pausing
  case acknowledged =>
    intro place letter reply id side present commits answered
    rcases letter_of_sent present with old | ⟨-, rfl⟩
    · exact sound.acknowledged place letter reply id side old commits answered
    · cases answered
  case posted =>
    intro posting member
    obtain ⟨place, letter, order, result, present, rest⟩ :=
      sound.posted posting member
    exact ⟨place, letter, order, result, letter_sent present _ _ _, rest⟩
  case debitFirst =>
    intro id isAsked
    rcases asked_of_sent isAsked with old | commits
    · exact sound.debitFirst id old
    · obtain ⟨rfl, ⟨-, ⟨⟩⟩ | ⟨rfl, -⟩⟩ := Settlement.Stage.commits_call commits
      exact agrees.2
  case live =>
    intro other current currentLive
    by_cases same : other = number
    · subst same
      have sameRun := Option.some.inj (found.symm.trans currentLive.1)
      subst sameRun
      rw [calling]
      exact agrees.sent
    · apply (sound.live other current currentLive).mono
      · intro side
        apply asked_of_sent_of_ne
        intro sameId
        exact same (sound.floor.single other number current run currentLive live
          sameId)
      · exact fun side posted => posted
      · exact awaitsWith_of_ne same _
  case awaiting =>
    intro other place awaited
    by_cases same : other = number
    · subst same
      have sentNow : mail.awaitsWith other (some mail.letters.length) other =
          some place := awaited
      rw [awaitsWith_self] at sentNow
      cases sentNow
      exact ⟨run, stage, _, found, calling, List.getElem?_concat_length, rfl⟩
    · have before : mail.awaitsWith number (some mail.letters.length) other =
          some place := awaited
      rw [awaitsWith_of_ne same] at before
      obtain ⟨current, currentStage, letter, wasFound, wasCalling, present,
        sameCall⟩ := sound.awaiting other place before
      exact ⟨current, currentStage, letter, wasFound, wasCalling,
        letter_sent present _ _ _, sameCall⟩
  case settled =>
    intro id entry outcome present ended
    have different : id ≠ run.transfer.id := by
      rintro rfl
      rw [show mail.floor.entryOf? run.transfer.id = some entry from present]
        at running
      cases running
      cases ended
    exact (sound.settled id entry outcome present ended).mono
      (fun side => asked_of_sent_of_ne different) fun side posted => posted
  case absent =>
    intro id absent side isAsked
    have different : id ≠ run.transfer.id := by
      rintro rfl
      rw [show mail.floor.entryOf? run.transfer.id = none from absent] at running
      cases running
    exact sound.absent id absent side (asked_of_sent_of_ne different isAsked)

/-! ## Delivering -/

theorem postingsOf_of_balances {before after : Banks} {bank : BankName}
    (same : ∀ party, after.balance? party = before.balance? party)
    (call : BankCall) : postingsOf before after bank call = [] := by
  cases call with
  | commit order => exact if_pos (same _)
  | prepare order => rfl
  | release order => rfl
  | balance account => rfl

theorem postingsOf_of_writes {before after : Banks} {bank : BankName}
    {order : LegOrder} {account : Account} {balance : Amount}
    (positive : order.amount.isZero = false)
    (fits : account.moved order.side order.amount = .ok balance)
    (writes : Banks.Writes before after ⟨bank, order.account⟩ account
      ⟨balance, none⟩) :
    postingsOf before after bank (.commit order) = [order.posting bank] := by
  apply if_neg
  rw [writes.balance?, if_pos rfl, writes.balance?_of_found]
  exact fun same =>
    Account.balance_ne_of_moved positive fits (Option.some.inj same)

/-- A letter that is delivered gives its bank a turn.  It had no answer before, and
unless it asks to prepare a leg, it has not reached the bank before. -/
theorem Sound.bank_of_deliver (sound : mail.Sound)
    (delivered : mail.deliver index = some next) :
    ∃ letter bank turn, mail.letters[index]? = some letter ∧
      Table.find? mail.banks letter.bank = some bank ∧
      (∀ result, letter.state ≠ .answered result) ∧
      ((∀ order, letter.call ≠ .prepare order) →
        letter.state = .underway ∧
          turn = bank.receive mail.floor.now letter.call) ∧
      Banks.Turn mail.banks mail.floor.now letter.bank letter.call
        (mail.banks.put letter.bank turn.1) turn.2 ∧
      next = mail.afterTurn index letter turn := by
  obtain ⟨letter, bank, turn, found, present, state, rfl⟩ :=
    deliver_eq_some delivered
  rcases state with ⟨underway, rfl⟩ | ⟨attempt, pausing, rfl⟩
  · refine ⟨letter, bank, _, found, present, ?_, fun _ => ⟨underway, rfl⟩,
      Banks.turn_receive present _ _, rfl⟩
    intro result answered
    rw [answered] at underway
    cases underway
  · obtain ⟨order, isPrepare⟩ :=
      sound.pausing index letter attempt found pausing
    refine ⟨letter, bank, _, found, present, ?_,
      fun other => absurd isPrepare (other order), ?_, rfl⟩
    · intro result answered
      rw [answered] at pausing
      cases pausing
    · rw [isPrepare]
      exact Banks.turn_resume present _ _ _

theorem Sound.turn_of_deliver (sound : mail.Sound)
    (delivered : mail.deliver index = some next) :
    ∃ letter turn, mail.letters[index]? = some letter ∧
      (∀ result, letter.state ≠ .answered result) ∧
      Banks.Turn mail.banks mail.floor.now letter.bank letter.call
        (mail.banks.put letter.bank turn.1) turn.2 ∧
      next = mail.afterTurn index letter turn := by
  obtain ⟨letter, bank, turn, found, -, unanswered, -, isTurn, same⟩ :=
    sound.bank_of_deliver delivered
  exact ⟨letter, turn, found, unanswered, isTurn, same⟩

variable {letter : Letter} {turn : Bank × Bank.Attempt BankReply}

theorem getElem?_afterTurn (found : mail.letters[index]? = some letter)
    (place : Nat) :
    (mail.afterTurn index letter turn).letters[place]? =
      if index = place then some { letter with state := .ofAttempt turn.2 }
      else mail.letters[place]? := by
  have inside : index < mail.letters.length :=
    (List.getElem?_eq_some_iff.mp found).1
  simp only [afterTurn, List.getElem?_set]
  by_cases same : index = place
  · simp [same, same ▸ inside]
  · simp [same]

/-- A turn changes nothing of a letter but its state. -/
theorem letter_of_afterTurn (found : mail.letters[index]? = some letter)
    {place : Nat} {current : Letter}
    (present : (mail.afterTurn index letter turn).letters[place]? =
      some current) :
    ∃ former, mail.letters[place]? = some former ∧
      current.bank = former.bank ∧ current.call = former.call := by
  rw [getElem?_afterTurn found] at present
  split at present
  · rename_i same
    subst same
    cases present
    exact ⟨letter, found, rfl, rfl⟩
  · exact ⟨current, present, rfl, rfl⟩

theorem letter_afterTurn (found : mail.letters[index]? = some letter)
    {place : Nat} {former : Letter}
    (present : mail.letters[place]? = some former) :
    ∃ current, (mail.afterTurn index letter turn).letters[place]? =
      some current ∧ current.bank = former.bank ∧ current.call = former.call := by
  rw [getElem?_afterTurn found]
  by_cases same : index = place
  · subst same
    rw [found] at present
    cases present
    exact ⟨_, if_pos rfl, rfl, rfl⟩
  · exact ⟨former, by rw [if_neg same, present], rfl, rfl⟩

theorem asked_afterTurn (found : mail.letters[index]? = some letter)
    {id : TransferId} {side : Side}
    (isAsked : (mail.afterTurn index letter turn).Asked id side) :
    mail.Asked id side := by
  obtain ⟨place, current, present, commits⟩ := isAsked
  obtain ⟨former, was, -, sameCall⟩ := letter_of_afterTurn found present
  exact ⟨place, former, was, sameCall ▸ commits⟩

/-- Of the invariant only the clauses about postings are left to show after a
turn. -/
theorem Sound.afterTurn (sound : mail.Sound)
    (found : mail.letters[index]? = some letter)
    (isTurn : Banks.Turn mail.banks mail.floor.now letter.bank letter.call
      (mail.banks.put letter.bank turn.1) turn.2)
    (grown : ∀ id side, mail.Posted id side →
      (mail.afterTurn index letter turn).Posted id side)
    (acknowledged : ∀ reply id side, letter.call.Commits id side →
      turn.2 = .finished (.ok reply) →
        (mail.afterTurn index letter turn).Posted id side)
    (committed : ∀ name id side,
      Banks.Committed (mail.banks.put letter.bank turn.1) name id side →
        (mail.afterTurn index letter turn).Posted id side)
    (posted : ∀ posting ∈ (mail.afterTurn index letter turn).postings,
      ∃ (place : Nat) (current : Letter) (order : LegOrder)
        (result : Except Refusal BankReply),
        (mail.afterTurn index letter turn).letters[place]? = some current ∧
          current.call = .commit order ∧ current.state = .answered result ∧
          posting = order.posting current.bank)
    (distinct : ((mail.afterTurn index letter turn).postings.map fun posting =>
      (posting.transfer, posting.side)).Nodup)
    (ordered : ∀ (later : Nat) (credit : Posting),
      (mail.afterTurn index letter turn).postings[later]? = some credit →
        credit.side = .credit →
          ∃ (earlier : Nat) (debit : Posting), earlier < later ∧
            (mail.afterTurn index letter turn).postings[earlier]? =
              some debit ∧
            debit.transfer = credit.transfer ∧ debit.side = .debit) :
    (mail.afterTurn index letter turn).Sound := by
  have asked : ∀ id side, (mail.afterTurn index letter turn).Asked id side →
      mail.Asked id side := fun id side => asked_afterTurn found
  constructor
  · exact sound.floor
  · intro place current order present isCommit
    obtain ⟨former, was, sameBank, sameCall⟩ := letter_of_afterTurn found present
    rw [sameBank]
    exact sound.letters place former order was (sameCall ▸ isCommit)
  · intro first second firstLetter secondLetter id side firstPresent
      secondPresent firstCommits secondCommits
    obtain ⟨firstFormer, firstWas, -, firstCall⟩ :=
      letter_of_afterTurn found firstPresent
    obtain ⟨secondFormer, secondWas, -, secondCall⟩ :=
      letter_of_afterTurn found secondPresent
    exact sound.single first second _ _ id side firstWas secondWas
      (firstCall ▸ firstCommits) (secondCall ▸ secondCommits)
  · intro place current attempt present pausing
    rw [getElem?_afterTurn found] at present
    split at present
    · cases present
      obtain ⟨pause, again⟩ : ∃ pause, turn.2 = .again pause attempt := by
        cases result : turn.2 with
        | finished outcome => simp [LetterState.ofAttempt, result] at pausing
        | again pause later =>
            simp only [LetterState.ofAttempt, result,
              LetterState.pausing.injEq] at pausing
            exact ⟨pause, by rw [pausing]⟩
      exact isTurn.prepare_of_again again
    · exact sound.pausing place current attempt present pausing
  · intro place current reply id side present commits answered
    rw [getElem?_afterTurn found] at present
    split at present
    · cases present
      apply acknowledged reply id side commits
      cases result : turn.2 with
      | finished outcome =>
          simp only [LetterState.ofAttempt, result,
            LetterState.answered.injEq] at answered
          rw [answered]
      | again pause later => simp [LetterState.ofAttempt, result] at answered
    · exact grown id side
        (sound.acknowledged place current reply id side present commits answered)
  · intro name id side record known isCommitted
    exact committed name id side ⟨record, known, isCommitted⟩
  · exact posted
  · exact distinct
  · intro id isAsked
    exact grown id .debit (sound.debitFirst id (asked id .credit isAsked))
  · exact ordered
  · intro number run live
    exact (sound.live number run live).mono (asked run.transfer.id)
      (grown run.transfer.id) rfl
  · intro number place awaited
    obtain ⟨run, stage, former, wasFound, calling, present, sameCall⟩ :=
      sound.awaiting number place awaited
    obtain ⟨current, isPresent, -, isCall⟩ := letter_afterTurn found present
    exact ⟨run, stage, current, wasFound, calling, isPresent,
      isCall.trans sameCall⟩
  · intro id entry outcome present ended
    exact (sound.settled id entry outcome present ended).mono (asked id)
      (grown id)
  · intro id absent side isAsked
    exact sound.absent id absent side (asked id side isAsked)

/-- The letter of a posting is another one than a letter without an answer, and
is there unchanged after the turn. -/
theorem Sound.posted_afterTurn (sound : mail.Sound)
    (turn : Bank × Bank.Attempt BankReply)
    (found : mail.letters[index]? = some letter)
    (unanswered : ∀ result, letter.state ≠ .answered result)
    {posting : Posting} (member : posting ∈ mail.postings) :
    ∃ (place : Nat) (current : Letter) (order : LegOrder)
      (result : Except Refusal BankReply), place ≠ index ∧
        mail.letters[place]? = some current ∧
        (mail.afterTurn index letter turn).letters[place]? = some current ∧
        current.call = .commit order ∧ current.state = .answered result ∧
        posting = order.posting current.bank := by
  obtain ⟨place, current, order, result, present, isCommit, answered, same⟩ :=
    sound.posted posting member
  have different : place ≠ index := by
    rintro rfl
    rw [found] at present
    cases present
    exact unanswered result answered
  refine ⟨place, current, order, result, different, present, ?_, isCommit,
    answered, same⟩
  rw [getElem?_afterTurn found, if_neg different.symm]
  exact present

theorem Posted.append {id : TransferId} {side : Side} {added : List Posting}
    (same : next.postings = mail.postings ++ added)
    (posted : mail.Posted id side) : next.Posted id side := by
  obtain ⟨posting, member, about⟩ := posted
  refine ⟨posting, ?_, about⟩
  rw [same]
  exact List.mem_append_left added member

/-- A turn that moves nothing keeps the invariant. -/
theorem Sound.afterTurn_of_nothing (sound : mail.Sound)
    (found : mail.letters[index]? = some letter)
    (unanswered : ∀ result, letter.state ≠ .answered result)
    (isTurn : Banks.Turn mail.banks mail.floor.now letter.bank letter.call
      (mail.banks.put letter.bank turn.1) turn.2)
    (empty : postingsOf mail.banks (mail.banks.put letter.bank turn.1) letter.bank
      letter.call = [])
    (committed : ∀ name id side,
      Banks.Committed (mail.banks.put letter.bank turn.1) name id side →
        mail.banks.Committed name id side)
    (acknowledged : ∀ order reply, letter.call = .commit order →
      turn.2 = .finished (.ok reply) →
        mail.banks.Committed letter.bank order.transfer order.side) :
    (mail.afterTurn index letter turn).Sound := by
  have same : (mail.afterTurn index letter turn).postings = mail.postings := by
    simp only [Mail.afterTurn, empty, List.append_nil]
  have grown : ∀ id side, mail.Posted id side →
      (mail.afterTurn index letter turn).Posted id side := by
    intro id side posted
    exact posted.append (same.trans (List.append_nil _).symm)
  have postedOf : ∀ name id side, mail.banks.Committed name id side →
      (mail.afterTurn index letter turn).Posted id side := by
    rintro name id side ⟨record, known, isCommitted⟩
    exact grown id side (sound.committed name id side record known isCommitted)
  apply sound.afterTurn found isTurn grown
  · intro reply id side commits done
    cases isCommit : letter.call with
    | commit order =>
        rw [isCommit] at commits
        obtain ⟨rfl, rfl⟩ := commits
        exact postedOf _ _ _ (acknowledged order reply isCommit done)
    | prepare order =>
        rw [isCommit] at commits
        cases commits
    | release order =>
        rw [isCommit] at commits
        cases commits
    | balance account =>
        rw [isCommit] at commits
        cases commits
  · intro name id side isCommitted
    exact postedOf name id side (committed name id side isCommitted)
  · intro posting member
    rw [same] at member
    obtain ⟨place, current, order, result, -, -, present, rest⟩ :=
      sound.posted_afterTurn turn found unanswered member
    exact ⟨place, current, order, result, present, rest⟩
  · rw [same]
    exact sound.distinct
  · intro later credit present isCredit
    rw [same] at present ⊢
    exact sound.ordered later credit present isCredit

/-- A turn that applies a leg posts it, for the first time. -/
theorem Sound.afterTurn_of_applied {order : LegOrder} (sound : mail.Sound)
    (found : mail.letters[index]? = some letter)
    (unanswered : ∀ result, letter.state ≠ .answered result)
    (isTurn : Banks.Turn mail.banks mail.floor.now letter.bank letter.call
      (mail.banks.put letter.bank turn.1) turn.2)
    (isCommit : letter.call = .commit order)
    (done : turn.2 = .finished (.ok .done))
    (added : postingsOf mail.banks (mail.banks.put letter.bank turn.1) letter.bank
      letter.call = [order.posting letter.bank])
    (committed : ∀ name id side,
      Banks.Committed (mail.banks.put letter.bank turn.1) name id side →
        name = letter.bank ∧ id = order.transfer ∧ side = order.side ∨
          mail.banks.Committed name id side) :
    (mail.afterTurn index letter turn).Sound := by
  have grew : (mail.afterTurn index letter turn).postings =
      mail.postings ++ [order.posting letter.bank] := by
    simp only [Mail.afterTurn, added]
  have grown : ∀ id side, mail.Posted id side →
      (mail.afterTurn index letter turn).Posted id side :=
    fun id side posted => posted.append grew
  have here : (mail.afterTurn index letter turn).Posted order.transfer
      order.side :=
    ⟨order.posting letter.bank, by simp [grew], rfl, rfl⟩
  have letterCommits : letter.call.Commits order.transfer order.side := by
    rw [isCommit]
    exact ⟨rfl, rfl⟩
  have answeredNow : (mail.afterTurn index letter turn).letters[index]? =
      some { letter with state := .answered (.ok .done) } := by
    rw [getElem?_afterTurn found, if_pos rfl, done]
    rfl
  apply sound.afterTurn found isTurn grown
  · intro reply id side commits _
    rw [isCommit] at commits
    obtain ⟨rfl, rfl⟩ := commits
    exact here
  · intro name id side isCommitted
    rcases committed name id side isCommitted with
      ⟨-, rfl, rfl⟩ | ⟨record, known, wasCommitted⟩
    · exact here
    · exact grown id side (sound.committed name id side record known wasCommitted)
  · intro posting member
    rw [grew] at member
    rcases List.mem_append.mp member with old | new
    · obtain ⟨place, current, otherOrder, result, -, -, present, rest⟩ :=
        sound.posted_afterTurn turn found unanswered old
      exact ⟨place, current, otherOrder, result, present, rest⟩
    · rw [List.mem_singleton.mp new]
      exact ⟨index, _, order, _, answeredNow, isCommit, rfl, rfl⟩
  · rw [grew, List.map_append, List.nodup_append]
    refine ⟨sound.distinct, by simp, ?_⟩
    -- A posting for the same leg had the same letter, which would be answered.
    intro key member other isNew same
    obtain ⟨posting, old, rfl⟩ := List.mem_map.mp member
    simp only [List.map_cons, List.map_nil, List.mem_singleton] at isNew
    subst isNew
    obtain ⟨place, current, otherOrder, result, different, present, -,
      otherCommit, -, rfl⟩ :=
        sound.posted_afterTurn turn found unanswered old
    have otherCommits : current.call.Commits order.transfer order.side := by
      rw [otherCommit]
      exact ⟨congrArg Prod.fst same, congrArg Prod.snd same⟩
    exact different (sound.single place index current letter _ _ present found
      otherCommits letterCommits)
  · intro later credit present isCredit
    rw [grew] at present ⊢
    rcases eq_or_eq_of_getElem?_append present with old | ⟨rfl, rfl⟩
    · obtain ⟨earlier, debit, before, was, about⟩ :=
        sound.ordered later credit old isCredit
      exact ⟨earlier, debit, before, getElem?_append_of_some was _, about⟩
    · have isAsked : mail.Asked order.transfer .credit := by
        refine ⟨index, letter, found, ?_⟩
        rw [← show order.side = .credit from isCredit]
        exact letterCommits
      obtain ⟨debit, member, about⟩ := sound.debitFirst order.transfer isAsked
      obtain ⟨earlier, inside, rfl⟩ := List.mem_iff_getElem.mp member
      exact ⟨earlier, _, inside,
        getElem?_append_of_some (List.getElem?_eq_getElem inside) _, about⟩

theorem Sound.deliver (sound : mail.Sound)
    (delivered : mail.deliver index = some next) : next.Sound := by
  obtain ⟨letter, turn, found, unanswered, isTurn, rfl⟩ :=
    sound.turn_of_deliver delivered
  cases isTurn.moves with
  | nothing balances total committed acknowledged =>
      exact sound.afterTurn_of_nothing found unanswered isTurn
        (postingsOf_of_balances balances letter.call) committed acknowledged
  | applied order account balance isCommit done fits writes committed =>
      have positive := (sound.letters index letter order found isCommit).1
      refine sound.afterTurn_of_applied found unanswered isTurn isCommit done ?_
        committed
      rw [isCommit]
      exact postingsOf_of_writes positive fits writes

/-! ## Going on with an answer -/

theorem upholds_incomplete (id : TransferId) (progress : String)
    (failure : TransferFailure) :
    mail.Upholds id (.error (Settlement.incomplete progress failure)) := by
  intro notTimeout notIncomplete
  cases failure with
  | timeout => exact absurd rfl notTimeout
  | _ => exact absurd rfl (notIncomplete _)

theorem agrees_abandoned {id : TransferId}
    (unasked : ∀ side, ¬ mail.Asked id side) (cause : TransferFailure) :
    mail.Agrees number id (.concluding (Settlement.abandoned cause)) := by
  unfold Settlement.abandoned
  split
  · exact unasked
  · exact fun _ _ => unasked

/-- Letters and postings are as they may be in the phase that a settlement enters
with an answer.  An acknowledged commit has been posted. -/
theorem Agrees.entering {transfer : Transfer} {stage : Settlement.Stage}
    {answer : Except TransferFailure Unit}
    (agrees : mail.Agrees number transfer.id (.calling stage))
    (asked : ∀ side,
      next.Asked transfer.id side → mail.Asked transfer.id side)
    (posted : ∀ side,
      mail.Posted transfer.id side → next.Posted transfer.id side)
    (acknowledged : answer = .ok () → ∀ side,
      (stage.call transfer).Commits transfer.id side →
        mail.Posted transfer.id side) :
    next.Agrees number transfer.id
      (.entering (Settlement.next transfer stage answer)) := by
  have unasked : (∀ side, ¬ mail.Asked transfer.id side) →
      ∀ side, ¬ next.Asked transfer.id side :=
    fun before side isAsked => before side (asked side isAsked)
  cases stage with
  | prepareDebit =>
      cases answer with
      | ok done => exact unasked agrees
      | error cause =>
          simp only [Settlement.next]
          split
          · exact unasked agrees
          · exact agrees_abandoned (unasked agrees) cause
  | prepareCredit =>
      cases answer with
      | ok done =>
          exact ⟨fun isAsked => absurd isAsked (unasked agrees .debit),
            unasked agrees .credit⟩
      | error cause => exact unasked agrees
  | releaseDebit cause creditNext =>
      cases creditNext with
      | true => cases answer <;> exact unasked agrees
      | false =>
          cases answer <;> exact agrees_abandoned (unasked agrees) cause
  | releaseCredit cause =>
      cases answer <;> exact agrees_abandoned (unasked agrees) cause
  | commitDebit =>
      cases answer with
      | ok done =>
          exact ⟨fun isAsked => absurd (asked .credit isAsked) agrees.2,
            posted .debit (acknowledged rfl .debit ⟨rfl, rfl⟩)⟩
      | error failure => exact upholds_incomplete _ _ failure
  | commitCredit =>
      cases answer with
      | ok done =>
          intro side
          cases side with
          | debit => exact posted .debit agrees.2
          | credit => exact posted .credit (acknowledged rfl .credit ⟨rfl, rfl⟩)
      | error failure => exact upholds_incomplete _ _ failure

/-- A settlement goes on with an answer.  If it acknowledges a commit, the leg
has been posted. -/
theorem Sound.proceed {answer : Except TransferFailure Unit}
    (sound : mail.Sound)
    (acknowledged : answer = .ok () → ∀ run stage side,
      mail.floor.runs[number]? = some run → run.phase = .calling stage →
        (stage.call run.transfer).Commits run.transfer.id side →
          mail.Posted run.transfer.id side)
    (proceeded : mail.proceed number answer = some next) : next.Sound := by
  obtain ⟨floor, answered, rfl⟩ := proceed_eq_some proceeded
  have floorSound := sound.floor.answer answered
  obtain ⟨run, stage, found, calling, rfl⟩ := Floor.answer_eq_some answered
  have agrees := sound.agrees_of_calling found calling
  refine { sound with
    floor := floorSound, live := ?live, awaiting := ?awaiting }
  case live =>
    rintro other current ⟨present, currentLive⟩
    rcases Floor.run_of_withRun found present with ⟨rfl, rfl⟩ | ⟨different, was⟩
    · exact agrees.entering (fun side isAsked => isAsked)
        (fun side posted => posted)
        fun isOk side => acknowledged isOk run stage side found calling
    · apply (sound.live other current ⟨was, currentLive⟩).mono
      · exact fun side isAsked => isAsked
      · exact fun side posted => posted
      · exact awaitsWith_of_ne (fun same => different same.symm) none
  case awaiting =>
    intro other place awaited
    by_cases same : other = number
    · subst same
      have nothing : mail.awaitsWith other none other = some place := awaited
      rw [awaitsWith_self] at nothing
      cases nothing
    · have before : mail.awaitsWith number none other = some place := awaited
      rw [awaitsWith_of_ne same] at before
      obtain ⟨current, currentStage, letter, was, rest⟩ :=
        sound.awaiting other place before
      have different : number ≠ other := fun equal => same equal.symm
      exact ⟨current, currentStage, letter,
        (Floor.run_withRun found different).trans was, rest⟩

theorem Sound.hear (sound : mail.Sound)
    (heard : mail.hear number = some next) : next.Sound := by
  obtain ⟨index, letter, result, awaited, found, answered, proceeded⟩ :=
    hear_eq_some heard
  apply sound.proceed ?_ proceeded
  intro isOk run stage side runFound calling commits
  have isCall := sound.call_of_calling runFound calling awaited found
  cases result with
  | ok reply =>
      exact sound.acknowledged index letter reply _ side found
        (isCall.symm ▸ commits) answered
  | error refusal => cases isOk

theorem Sound.fail {failure : TransferFailure} (sound : mail.Sound)
    (failed : mail.fail number failure = some next) : next.Sound := by
  obtain ⟨index, awaited, doubt, proceeded⟩ := fail_eq_some failed
  exact sound.proceed (by rintro ⟨⟩) proceeded

/-! ## The journal -/

theorem Sound.order (sound : mail.Sound) (transfer : Transfer) :
    Sound { mail with floor := (mail.floor.order transfer).1 } := by
  have floorSound := sound.floor.order transfer
  rcases mail.floor.order_cases transfer with
    ⟨outcome, answered⟩ | ⟨checked, absent, accepted⟩
  · rw [answered]
    exact sound
  · rw [accepted] at floorSound ⊢
    refine { sound with
      floor := floorSound, letters := ?letters, live := ?live,
      awaiting := ?awaiting, settled := ?settled, absent := ?absent }
    case letters =>
      intro place letter order present isCommit
      obtain ⟨positive, entry, known, rest⟩ :=
        sound.letters place letter order present isCommit
      have different : transfer.id ≠ order.transfer := by
        intro same
        rw [← same, absent] at known
        cases known
      refine ⟨positive, entry, ?_, rest⟩
      rw [Floor.entryOf?_started, if_neg different]
      exact known
    case live =>
      rintro number run ⟨present, live⟩
      rcases Floor.run_of_started present with old | ⟨-, rfl⟩
      · exact (sound.live number run ⟨old, live⟩).mono (fun _ isAsked => isAsked)
          (fun _ posted => posted) rfl
      · exact sound.absent transfer.id absent
    case awaiting =>
      intro number place awaited
      obtain ⟨run, stage, letter, found, rest⟩ :=
        sound.awaiting number place awaited
      exact ⟨run, stage, letter, Floor.run_started found transfer, rest⟩
    case settled =>
      intro id entry outcome present ended
      rw [Floor.entryOf?_started] at present
      split at present
      · cases present
        cases ended
      · exact (sound.settled id entry outcome present ended).mono
          (fun _ isAsked => isAsked) (fun _ posted => posted)
    case absent =>
      intro id isAbsent side
      rw [Floor.entryOf?_started] at isAbsent
      split at isAbsent
      · cases isAbsent
      · exact sound.absent id isAbsent side

theorem Sound.conclude {floor : Floor} (sound : mail.Sound)
    (concluded : mail.floor.conclude number = some floor) :
    Sound { mail with floor := floor } := by
  have floorSound := sound.floor.conclude concluded
  obtain ⟨run, conclusion, found, concluding, rfl⟩ :=
    Floor.conclude_eq_some concluded
  have live := Floor.isLive_of_concluding found concluding
  have agrees := sound.agrees_of_concluding found concluding
  have running := sound.floor.live number run live
  have entryOf := Floor.entryOf?_ended running number conclusion
  refine { sound with
    floor := floorSound, letters := ?letters, live := ?live,
    awaiting := ?awaiting, settled := ?settled, absent := ?absent }
  case letters =>
    intro place letter order present isCommit
    obtain ⟨positive, entry, known, about⟩ :=
      sound.letters place letter order present isCommit
    by_cases same : order.transfer = run.transfer.id
    · rw [same, running] at known
      cases known
      have isAsked : mail.Asked run.transfer.id order.side :=
        ⟨place, letter, present, by rw [isCommit]; exact ⟨same, rfl⟩⟩
      cases conclusion with
      | dropped failure => exact absurd isAsked (agrees order.side)
      | settled outcome =>
          exact ⟨positive, _, (entryOf order.transfer).trans (if_pos same), about⟩
    · exact ⟨positive, entry,
        (entryOf order.transfer).trans ((if_neg same).trans known), about⟩
  case live =>
    rintro other current ⟨present, currentLive⟩
    rcases Floor.run_of_withRun found present with ⟨rfl, rfl⟩ | ⟨-, was⟩
    · cases currentLive
    · exact (sound.live other current ⟨was, currentLive⟩).mono
        (fun _ isAsked => isAsked) (fun _ posted => posted) rfl
  case awaiting =>
    intro other place awaited
    obtain ⟨current, stage, letter, was, calling, rest⟩ :=
      sound.awaiting other place awaited
    have different : number ≠ other := by
      rintro rfl
      rw [found] at was
      cases was
      rw [concluding] at calling
      cases calling
    exact ⟨current, stage, letter, (Floor.run_withRun found different).trans was,
      calling, rest⟩
  case settled =>
    intro id entry outcome present ended
    rw [entryOf] at present
    split at present
    · rename_i same
      subst same
      cases conclusion with
      | dropped failure => cases present
      | settled reached =>
          cases present
          cases ended
          exact agrees
    · exact (sound.settled id entry outcome present ended).mono
        (fun _ isAsked => isAsked) (fun _ posted => posted)
  case absent =>
    intro id isAbsent side
    rw [entryOf] at isAbsent
    split at isAbsent
    · rename_i same
      subst same
      cases conclusion with
      | settled outcome => cases isAbsent
      | dropped failure => exact agrees side
    · exact sound.absent id isAbsent side

theorem Sound.leave {floor : Floor} (sound : mail.Sound)
    (left : mail.floor.leave number = some floor) :
    Sound { mail with floor := floor } := by
  have floorSound := sound.floor.leave left
  obtain ⟨run, found, rfl⟩ := Floor.leave_eq_some left
  refine { sound with
    floor := floorSound, live := ?live, awaiting := ?awaiting }
  case live =>
    rintro other current ⟨present, currentLive⟩
    obtain ⟨former, was, sameTransfer, samePhase⟩ :=
      Floor.run_of_leave left present
    rw [sameTransfer, samePhase]
    exact (sound.live other former ⟨was, samePhase ▸ currentLive⟩).mono
      (fun _ isAsked => isAsked) (fun _ posted => posted) rfl
  case awaiting =>
    intro other place awaited
    obtain ⟨former, stage, letter, was, calling, sent, isCall⟩ :=
      sound.awaiting other place awaited
    obtain ⟨current, present, sameTransfer, samePhase⟩ := Floor.run_leave left was
    exact ⟨current, stage, letter, present, samePhase.trans calling, sent,
      sameTransfer ▸ isCall⟩

theorem Sound.rest (sound : mail.Sound) (milliseconds : Nat) :
    Sound { mail with floor := mail.floor.rest milliseconds } :=
  { sound with floor := sound.floor.rest milliseconds }

theorem Sound.step {event : Event} (sound : mail.Sound)
    (stepped : mail.step event = some next) : next.Sound := by
  cases event with
  | order transfer =>
      cases stepped
      exact sound.order transfer
  | send number => exact sound.send stepped
  | deliver index => exact sound.deliver stepped
  | hear number => exact sound.hear stepped
  | fail number failure => exact sound.fail stepped
  | conclude number =>
      obtain ⟨floor, concluded, rfl⟩ := Option.map_eq_some_iff.mp stepped
      exact sound.conclude concluded
  | leave number =>
      obtain ⟨floor, left, rfl⟩ := Option.map_eq_some_iff.mp stepped
      exact sound.leave left
  | rest milliseconds =>
      cases stepped
      exact sound.rest milliseconds

theorem sound_of_runThrough {start final : Mail} {events : List Event}
    (opening : start.IsOpening)
    (ran : runThrough step start events = some final) : final.Sound :=
  invariant_of_runThrough Sound.step (sound_of_isOpening opening) ran

end Mail

end ClearingHouse
