import ClearingHouse.Proofs.Mail.Change
import ClearingHouse.Proofs.Mail.Money

/-!
# What late releases do to later attempts

A release names a transfer and an account, and not the attempt that has sent it.
An attempt that is given up sends releases, and the transfer may be ordered
again.  If such a release comes late, it gives up what the next attempt has
prepared, even after both banks have acknowledged their prepares; then a commit
is refused, possibly the credit after the debit has been posted.
`honours_iff` shows that nothing else can go wrong: both commits are certain if
and only if both legs are ready and no release of them is on its way.
-/

namespace ClearingHouse

namespace Settlement.Stage

def commit : Side → Stage
  | .debit => .commitDebit
  | .credit => .commitCredit

variable {transfer : Transfer} {stage : Stage} {side : Side}

theorem call_commit : (commit side).call transfer =
    .commit (transfer.legOrder side) := by
  cases side <;> rfl

theorem bank_commit : (commit side).bank transfer =
    (transfer.party side).bank := by
  cases side <;> rfl

theorem hasPrepared_commit (other : Side) : (commit side).HasPrepared other := by
  cases side <;> trivial

/-- A call of a settlement that is about one of its legs asks to prepare or to
commit this leg, or it is a release. -/
theorem call_of_touches (touches : (stage.call transfer).Touches transfer.id side) :
    (stage.side = side ∧ stage.call transfer = .prepare (transfer.legOrder side)) ∨
    (stage.side = side ∧ stage.call transfer = .commit (transfer.legOrder side)) ∨
    stage.call transfer = .release (transfer.releaseOrder stage.side) := by
  cases stage with
  | prepareDebit | prepareCredit =>
      obtain ⟨-, rfl⟩ := touches
      exact Or.inl ⟨rfl, rfl⟩
  | commitDebit | commitCredit =>
      obtain ⟨-, rfl⟩ := touches
      exact Or.inr (Or.inl ⟨rfl, rfl⟩)
  | releaseDebit cause creditNext => exact Or.inr (Or.inr rfl)
  | releaseCredit cause => exact Or.inr (Or.inr rfl)

end Settlement.Stage

/-- Whether a settlement has come to its commits, or has ended. -/
def RunPhase.IsCommitting : RunPhase → Prop
  | .calling .commitDebit | .calling .commitCredit => True
  | .concluding (.settled _) | .ended _ => True
  | _ => False

theorem RunPhase.IsCommitting.goesOn {transfer : Transfer}
    {phase later : RunPhase} (committing : phase.IsCommitting)
    (goesOn : phase.GoesOn transfer later) : later.IsCommitting := by
  cases goesOn with
  | same => exact committing
  | noted conclusion => trivial
  | answered stage answer =>
      cases stage with
      | commitDebit | commitCredit => cases answer <;> trivial
      | prepareDebit | prepareCredit => cases committing
      | releaseDebit cause creditNext => cases committing
      | releaseCredit cause => cases committing

namespace Mail

/-- A release of a leg has been sent and has not reached its bank. -/
def HasStray (mail : Mail) (transfer : Transfer) (side : Side) : Prop :=
  ∃ index : Nat, mail.letters[index]? =
    some ⟨(transfer.party side).bank, .release (transfer.releaseOrder side),
      .underway⟩

theorem HasStray.mem_calls {mail : Mail} {transfer : Transfer} {side : Side}
    (stray : mail.HasStray transfer side) :
    .release (transfer.releaseOrder side) ∈ mail.letters.map Letter.call := by
  obtain ⟨index, found⟩ := stray
  exact List.mem_map.mpr ⟨_, List.mem_of_getElem? found, rfl⟩

/-- Every commit of a transfer that has reached its bank was acknowledged, and its
leg has been posted. -/
def Pays (mail : Mail) (transfer : Transfer) : Prop :=
  ∀ (index : Nat) (letter : Letter) side result,
    mail.letters[index]? = some letter →
      letter.call.Commits transfer.id side → letter.state = .answered result →
        result = .ok .done ∧ transfer.posting side ∈ mail.postings

/-- Whatever happens from now on, the commits of a transfer are acknowledged and
posted. -/
def Honours (mail : Mail) (transfer : Transfer) : Prop :=
  ∀ events final, runThrough step mail events = some final →
    final.Pays transfer

variable {mail next : Mail} {transfer : Transfer} {side : Side}
  {number index : Nat} {event : Event}

/-! ## Legs that are certain -/

/-- A leg is ready, nothing on its way can change this, and its commit has not
reached the bank. -/
structure Secure (mail : Mail) (transfer : Transfer) (side : Side) : Prop where
  ready : mail.banks.IsReady transfer side
  noStray : ¬ mail.HasStray transfer side
  unanswered : ∀ (index : Nat) (letter : Letter) result,
    mail.letters[index]? = some letter →
      letter.call.Commits transfer.id side → letter.state ≠ .answered result

/-- The commit of a leg has been acknowledged by its bank. -/
def Acknowledged (mail : Mail) (transfer : Transfer) (side : Side) : Prop :=
  ∃ (index : Nat) (letter : Letter), mail.letters[index]? = some letter ∧
    letter.call.Commits transfer.id side ∧ letter.state = .answered (.ok .done)

/-- Both legs of a transfer are certain, and all of its attempts but the one that
commits them are over. -/
structure Assured (mail : Mail) (transfer : Transfer) : Prop where
  repeats : mail.Repeats transfer
  known : ∃ entry, mail.floor.entryOf? transfer.id = some entry ∧
    entry.transfer = transfer
  committing : ∀ (number : Nat) (run : SettlementRun),
    mail.floor.runs[number]? = some run → run.transfer.id = transfer.id →
      run.phase.IsCommitting
  legs : ∀ side, mail.Secure transfer side ∨ mail.Acknowledged transfer side

theorem Assured.pays (assured : mail.Assured transfer) (sound : mail.Sound) :
    mail.Pays transfer := by
  intro index letter side result found commits answered
  rcases assured.legs side with secure | ⟨place, other, present, alsoCommits, done⟩
  · exact absurd answered (secure.unanswered index letter result found commits)
  · have same : index = place := sound.single index place letter other
      transfer.id side found present commits alsoCommits
    subst same
    rw [found] at present
    cases present
    rw [done] at answered
    cases answered
    obtain ⟨entry, known, rfl⟩ := assured.known
    exact ⟨rfl, sound.posting_mem known
      (sound.acknowledged index letter .done _ side found commits done)⟩

/-! ### Steps without a delivery -/

theorem Assured.not_release_of_sentBy {letter : Letter} {order : ReleaseOrder}
    (assured : mail.Assured transfer) (sent : mail.SentBy letter)
    (about : order.transfer = transfer.id) : letter.call ≠ .release order := by
  obtain ⟨number, run, stage, found, calling, rfl⟩ := sent
  intro isRelease
  have sameCall : stage.call run.transfer = .release order := isRelease
  have touches : (stage.call run.transfer).Touches order.transfer .debit := by
    rw [sameCall]
    exact rfl
  have sameId := Settlement.Stage.id_of_touches_call touches
  have committing := assured.committing number run found
    (sameId.symm.trans about)
  rw [calling] at committing
  cases stage with
  | commitDebit | commitCredit => cases sameCall
  | prepareDebit | prepareCredit => cases committing
  | releaseDebit cause creditNext => cases committing
  | releaseCredit cause => cases committing

theorem Assured.leg_of_undelivered (assured : mail.Assured transfer)
    (stepped : mail.step event = some next)
    (undelivered : ∀ place, event ≠ .deliver place) (side : Side) :
    next.Secure transfer side ∨ next.Acknowledged transfer side := by
  rcases assured.legs side with secure | ⟨index, letter, found, acknowledged⟩
  · left
    constructor
    · rw [(letters_of_step stepped undelivered).1]
      exact secure.ready
    · rintro ⟨index, present⟩
      rcases letter_of_undelivered stepped undelivered present with old | sent
      · exact secure.noStray ⟨index, old⟩
      · exact assured.not_release_of_sentBy sent rfl rfl
    · intro index letter result present commits answered
      rcases letter_of_undelivered stepped undelivered present with old | sent
      · exact secure.unanswered index letter result old commits answered
      · obtain ⟨number, run, stage, found, calling, rfl⟩ := sent
        cases answered
  · exact Or.inr ⟨index, letter, letter_undelivered stepped undelivered found,
      acknowledged⟩

/-! ### Deliveries -/

theorem ofAttempt_ne_underway (attempt : Bank.Attempt BankReply) :
    LetterState.ofAttempt attempt ≠ .underway := by
  cases attempt <;> rintro ⟨⟩

theorem Secure.afterTurn {letter : Letter}
    {turn : Bank × Bank.Attempt BankReply}
    (secure : mail.Secure transfer side)
    (found : mail.letters[index]? = some letter)
    (uncommitted : ¬ letter.call.Commits transfer.id side)
    (ready : Banks.IsReady (mail.banks.put letter.bank turn.1) transfer side) :
    (mail.afterTurn index letter turn).Secure transfer side where
  ready := ready
  noStray := by
    rintro ⟨place, present⟩
    rw [getElem?_afterTurn found] at present
    split at present
    · exact ofAttempt_ne_underway turn.2
        (congrArg Letter.state (Option.some.inj present))
    · exact secure.noStray ⟨place, present⟩
  unanswered := by
    intro place current result present commits
    rw [getElem?_afterTurn found] at present
    split at present
    · cases present
      exact absurd commits uncommitted
    · exact secure.unanswered place current result present commits

theorem Acknowledged.afterTurn {letter : Letter}
    (turn : Bank × Bank.Attempt BankReply)
    (acknowledged : mail.Acknowledged transfer side)
    (found : mail.letters[index]? = some letter)
    (unanswered : ∀ result, letter.state ≠ .answered result) :
    (mail.afterTurn index letter turn).Acknowledged transfer side := by
  obtain ⟨place, current, present, commits, done⟩ := acknowledged
  refine ⟨place, current, ?_, commits, done⟩
  rw [getElem?_afterTurn found, if_neg]
  · exact present
  · rintro rfl
    rw [found] at present
    cases present
    exact unanswered _ done

/-- A delivery leaves a secure leg secure, or it is the commit and is acknowledged. -/
theorem Secure.deliver (secure : mail.Secure transfer side) (sound : mail.Sound)
    (funded : mail.banks.Funded) (checked : transfer.Checked)
    (repeats : mail.Repeats transfer)
    (delivered : mail.deliver index = some next) :
    next.Secure transfer side ∨ next.Acknowledged transfer side := by
  obtain ⟨⟨bankName, call, state⟩, bank, turn, found, present, unanswered,
    received, isTurn, rfl⟩ := sound.bank_of_deliver delivered
  by_cases touches : call.Touches transfer.id side
  · obtain ⟨stage, rfl, rfl⟩ := repeats.letters index _ side found touches
    rcases Settlement.Stage.call_of_touches touches with
      ⟨rfl, isPrepare⟩ | ⟨rfl, isCommit⟩ | isRelease
    · left
      apply secure.afterTurn found
      · simp only [isPrepare]
        exact id
      · simp only [isPrepare] at isTurn
        exact isTurn.isReady_prepare secure.ready
    · right
      have notPrepare : ∀ order, stage.call transfer ≠ .prepare order := by
        rw [isCommit]
        rintro order ⟨⟩
      obtain ⟨-, rfl⟩ := received notPrepare
      have done := secure.ready.commit_succeeds funded checked.named
        checked.positive present mail.floor.now
      rw [← isCommit] at done
      refine ⟨index, _, (getElem?_afterTurn found index).trans (if_pos rfl), ?_, ?_⟩
      · simp only [isCommit]
        exact ⟨rfl, rfl⟩
      · simp only [done]
        rfl
    · left
      have notPrepare : ∀ order, stage.call transfer ≠ .prepare order := by
        rw [isRelease]
        rintro order ⟨⟩
      obtain ⟨underway, -⟩ := received notPrepare
      have otherSide : side ≠ stage.side := by
        rintro rfl
        apply secure.noStray
        refine ⟨index, ?_⟩
        rw [found, isRelease]
        simp only at underway
        rw [underway]
        rfl
      apply secure.afterTurn found
      · simp only [isRelease]
        exact id
      · simp only [isRelease] at isTurn
        exact isTurn.isReady_release_of_ne checked.distinct otherSide secure.ready
  · left
    apply secure.afterTurn found
    · intro commits
      apply touches
      cases call with
      | commit order => exact commits
      | prepare order => cases commits
      | release order => cases commits
      | balance account => cases commits
    · exact secure.ready.of_agreeOn (isTurn.agreeOn touches)

theorem Assured.known_of_step (assured : mail.Assured transfer)
    (sound : mail.Sound) (stepped : mail.step event = some next) :
    ∃ entry, next.floor.entryOf? transfer.id = some entry ∧
      entry.transfer = transfer := by
  obtain ⟨entry, known, sameTransfer⟩ := assured.known
  rcases floor_of_step stepped with same | ⟨onFloor, isOnFloor, floorStepped⟩
  · exact ⟨entry, (congrArg (Floor.entryOf? · transfer.id) same).trans known,
      sameTransfer⟩
  · rcases sound.floor.entry_of_step known floorStepped with
      stays | ⟨number, run, conclusion, found, concluding, sameId, rfl, noted⟩ |
        ⟨retention, rfl, -⟩
    · exact ⟨entry, stays, sameTransfer⟩
    · -- A settlement that commits never drops the entry.
      have committing := assured.committing number run found sameId
      rw [concluding] at committing
      cases conclusion with
      | dropped failure => cases committing
      | settled outcome => exact ⟨_, noted, sameTransfer⟩
    · cases isOnFloor

theorem Assured.step (assured : mail.Assured transfer) (sound : mail.Sound)
    (founded : mail.Founded) (checked : transfer.Checked)
    (stepped : mail.step event = some next) : next.Assured transfer where
  repeats := by
    apply assured.repeats.step _ stepped
    intro other _ _ absent
    obtain ⟨entry, known, -⟩ := assured.known
    rw [known] at absent
    cases absent
  known := assured.known_of_step sound stepped
  committing := by
    intro number run present sameId
    rcases run_of_step stepped present with
      ⟨former, was, sameTransfer, goesOn⟩ | ⟨-, absent⟩
    · rw [sameTransfer] at sameId
      exact (assured.committing number former was sameId).goesOn goesOn
    · obtain ⟨entry, known, -⟩ := assured.known
      rw [sameId, known] at absent
      cases absent
  legs := by
    intro side
    by_cases delivered : ∃ place, event = .deliver place
    · obtain ⟨place, rfl⟩ := delivered
      rcases assured.legs side with secure | acknowledged
      · exact secure.deliver sound founded.funded checked assured.repeats stepped
      · obtain ⟨letter, turn, found, unanswered, -, rfl⟩ :=
          sound.turn_of_deliver stepped
        exact Or.inr (acknowledged.afterTurn turn found unanswered)
    · exact assured.leg_of_undelivered stepped
        (fun place same => delivered ⟨place, same⟩) side

theorem Assured.honours (assured : mail.Assured transfer) (sound : mail.Sound)
    (founded : mail.Founded) (checked : transfer.Checked) :
    mail.Honours transfer := by
  intro events final ran
  have kept : ∀ {mail next : Mail} {event : Event},
      mail.Sound ∧ mail.Founded ∧ mail.Assured transfer →
        mail.step event = some next →
          next.Sound ∧ next.Founded ∧ next.Assured transfer := by
    rintro mail next event ⟨sound, founded, assured⟩ stepped
    exact ⟨sound.step stepped, founded.step sound stepped,
      assured.step sound founded checked stepped⟩
  obtain ⟨finalSound, -, finalAssured⟩ :=
    invariant_of_runThrough kept ⟨sound, founded, assured⟩ ran
  exact finalAssured.pays finalSound

theorem Repeats.assured {run : SettlementRun}
    (repeats : mail.Repeats run.transfer) (sound : mail.Sound)
    (found : mail.floor.runs[number]? = some run)
    (calling : run.phase = .calling .commitDebit)
    (idle : mail.awaits number = none)
    (certain : ∀ side, mail.banks.IsReady run.transfer side ∧
      ¬ mail.HasStray run.transfer side) : mail.Assured run.transfer where
  repeats := repeats
  known := ⟨.running run.transfer, sound.floor.live number run
    (Floor.isLive_of_calling found calling), rfl⟩
  committing := by
    intro other current present sameId
    by_cases live : current.phase.isLive = true
    · -- Of the settlements under way, only this one is of the transfer.
      have same := sound.floor.single other number current run ⟨present, live⟩
        (Floor.isLive_of_calling found calling) sameId
      subst same
      rw [found] at present
      cases present
      rw [calling]
      trivial
    · cases ended : current.phase with
      | ended outcome => trivial
      | calling stage => simp [ended, RunPhase.isLive] at live
      | concluding conclusion => simp [ended, RunPhase.isLive] at live
  legs := by
    intro side
    obtain ⟨ready, noStray⟩ := certain side
    refine Or.inl ⟨ready, noStray, ?_⟩
    intro index letter result present commits _
    have asked : mail.Asked run.transfer.id side :=
      ⟨index, letter, present, commits⟩
    have agrees := sound.agrees_of_calling found calling
    cases side with
    | debit => exact agrees.1 asked idle
    | credit => exact agrees.2 asked

/-! ## Commits that are not certain -/

theorem send_of_calling {run : SettlementRun} {stage : Settlement.Stage}
    (found : mail.floor.runs[number]? = some run)
    (calling : run.phase = .calling stage) (idle : mail.awaits number = none) :
    mail.step (.send number) =
      some (mail.sent number run.transfer stage) := by
  obtain ⟨transfer, phase, awaited⟩ := run
  cases calling
  simp only [step, send, found, idle, sent]

theorem deliver_of_underway {letter : Letter} {bank : Bank}
    (found : mail.letters[index]? = some letter)
    (underway : letter.state = .underway)
    (present : Table.find? mail.banks letter.bank = some bank) :
    mail.step (.deliver index) =
      some (mail.afterTurn index letter
        (bank.receive mail.floor.now letter.call)) := by
  simp only [step, deliver, found, present, underway]

/-- The mail after the commit of a leg has been sent and has reached its bank. -/
def afterCommit (mail : Mail) (number : Nat) (transfer : Transfer) (side : Side)
    (bank : Bank) : Mail :=
  (mail.sent number transfer (.commit side)).afterTurn mail.letters.length
    ⟨(transfer.party side).bank, .commit (transfer.legOrder side), .underway⟩
    (bank.receive mail.floor.now (.commit (transfer.legOrder side)))

theorem letter_sent_commit (mail : Mail) (number : Nat) (transfer : Transfer)
    (side : Side) :
    (mail.sent number transfer (.commit side)).letters[mail.letters.length]? =
      some ⟨(transfer.party side).bank, .commit (transfer.legOrder side),
        .underway⟩ := by
  rw [← Settlement.Stage.bank_commit, ← Settlement.Stage.call_commit]
  exact List.getElem?_concat_length

theorem runThrough_afterCommit {run : SettlementRun} {bank : Bank}
    (found : mail.floor.runs[number]? = some run)
    (calling : run.phase = .calling (.commit side))
    (idle : mail.awaits number = none)
    (present : Table.find? mail.banks (run.transfer.party side).bank =
      some bank) :
    runThrough step mail [.send number, .deliver mail.letters.length] =
      some (mail.afterCommit number run.transfer side bank) := by
  have delivered := deliver_of_underway
    (letter_sent_commit mail number run.transfer side) rfl present
  simp only [runThrough, send_of_calling found calling idle, delivered]
  rfl

theorem letter_afterCommit (mail : Mail) (number : Nat) (transfer : Transfer)
    (side : Side) (bank : Bank) :
    (mail.afterCommit number transfer side bank).letters[mail.letters.length]? =
      some ⟨(transfer.party side).bank, .commit (transfer.legOrder side),
        .answered ((bank.commit mail.floor.now
          (transfer.legOrder side)).2.map fun _ => .done)⟩ :=
  (getElem?_afterTurn (letter_sent_commit mail number transfer side) _).trans
    (if_pos rfl)

theorem Honours.runThrough {events : List Event} (honours : mail.Honours transfer)
    (ran : runThrough step mail events = some next) : next.Honours transfer := by
  intro later final laterRan
  apply honours (events ++ later) final
  rw [runThrough_append, ran]
  exact laterRan

theorem Honours.isReady {run : SettlementRun} (sound : mail.Sound)
    (founded : mail.Founded) (found : mail.floor.runs[number]? = some run)
    (calling : run.phase = .calling (.commit side))
    (idle : mail.awaits number = none) (honours : mail.Honours run.transfer) :
    mail.banks.IsReady run.transfer side := by
  obtain ⟨bank, present⟩ := founded.prepared number run (.commit side) side found
    calling (Settlement.Stage.hasPrepared_commit side)
  obtain ⟨done, -⟩ := honours _ _
    (runThrough_afterCommit found calling idle present) _ _ side _
    (letter_afterCommit mail number run.transfer side bank) ⟨rfl, rfl⟩ rfl
  have turn := Banks.turn_receive present mail.floor.now
    (.commit (run.transfer.legOrder side))
  have acknowledged : (bank.receive mail.floor.now
      (.commit (run.transfer.legOrder side))).2 = .finished (.ok .done) :=
    congrArg Bank.Attempt.finished done
  rw [acknowledged] at turn
  apply turn.isReady_of_commit
  rintro ⟨record, known, committed⟩
  have asked := sound.asked_of_posted
    (sound.committed _ _ _ record known committed)
  refine sound.not_asked_of_idle found calling idle ?_ asked
  rw [Settlement.Stage.call_commit]
  exact ⟨rfl, rfl⟩

/-- A release that is on its way can reach the bank before the commit does. -/
theorem Honours.not_hasStray {run : SettlementRun} (sound : mail.Sound)
    (founded : mail.Founded) (found : mail.floor.runs[number]? = some run)
    (calling : run.phase = .calling (.commit side))
    (idle : mail.awaits number = none) (honours : mail.Honours run.transfer) :
    ¬ mail.HasStray run.transfer side := by
  rintro ⟨index, isStray⟩
  obtain ⟨bank, present⟩ := founded.prepared number run (.commit side) side found
    calling (Settlement.Stage.hasPrepared_commit side)
  have delivered := deliver_of_underway isStray rfl present
  have ran := runThrough_of_step delivered
  have turn := Banks.turn_receive present mail.floor.now
    (.release (run.transfer.releaseOrder side))
  apply turn.not_isReady_release
  exact (honours.runThrough ran).isReady (sound.step delivered)
    (founded.step sound delivered) found calling idle

/-- If the debit is ready, its commit can be sent, delivered and heard at once.
This leaves the credit as it is. -/
theorem exists_commitCredit {run : SettlementRun} (sound : mail.Sound)
    (founded : mail.Founded) (found : mail.floor.runs[number]? = some run)
    (calling : run.phase = .calling (.commit .debit))
    (idle : mail.awaits number = none)
    (ready : mail.banks.IsReady run.transfer .debit) :
    ∃ events next, runThrough step mail events = some next ∧
      next.floor.runs[number]? =
        some { run with phase := .calling .commitCredit } ∧
      next.awaits number = none ∧
      mail.banks.AgreeOn next.banks run.transfer.id .credit ∧
      ∀ (index : Nat) (letter : Letter), mail.letters[index]? = some letter →
        next.letters[index]? = some letter := by
  obtain ⟨bank, present⟩ := founded.prepared number run (.commit .debit) .debit
    found calling trivial
  have checked := sound.floor.checked number run found
  have done := ready.commit_succeeds founded.funded checked.named
    checked.positive present mail.floor.now
  have ran := runThrough_afterCommit found calling idle present
  have isLetter := letter_afterCommit mail number run.transfer .debit bank
  have result : (bank.commit mail.floor.now
      (run.transfer.legOrder .debit)).2.map (fun _ => BankReply.done) =
        .ok .done := Bank.Attempt.finished.inj done
  rw [result] at isLetter
  let committed := mail.afterCommit number run.transfer .debit bank
  let next : Mail :=
    { committed with
      floor := mail.floor.withRun number
        { run with phase := .calling .commitCredit }
      awaits := committed.awaitsWith number none }
  have awaited : committed.awaits number = some mail.letters.length :=
    awaitsWith_self _
  have heard : committed.step (.hear number) = some next := by
    have answered : committed.floor.answer number (.ok ()) =
        some next.floor := Floor.answer_of_calling found calling
    have present : committed.letters[mail.letters.length]? = some _ := isLetter
    simp only [step, hear, awaited, present, proceed, understood, answered,
      Option.map_some, next]
  refine ⟨[.send number, .deliver mail.letters.length] ++ [.hear number], next,
    ?_, ?_, awaitsWith_self _, ?_, ?_⟩
  · rw [runThrough_append, ran]
    simp only [Option.bind_some, runThrough]
    rw [heard]
  · exact (Floor.getElem?_withRun found _ number).trans (if_pos rfl)
  · have turn := Banks.turn_receive present mail.floor.now
      (.commit (run.transfer.legOrder .debit))
    apply turn.agreeOn
    rintro ⟨-, ⟨⟩⟩
  · intro index letter old
    have inside := (List.getElem?_eq_some_iff.mp old).1
    show committed.letters[index]? = some letter
    rw [show committed.letters[index]? = _ from getElem?_afterTurn
      (letter_sent_commit mail number run.transfer .debit) index, if_neg]
    · exact letter_sent old number run.transfer _
    · omega

theorem Honours.certain {run : SettlementRun} (sound : mail.Sound)
    (founded : mail.Founded) (found : mail.floor.runs[number]? = some run)
    (calling : run.phase = .calling .commitDebit)
    (idle : mail.awaits number = none) (honours : mail.Honours run.transfer)
    (side : Side) :
    mail.banks.IsReady run.transfer side ∧
      ¬ mail.HasStray run.transfer side := by
  have commitsDebit : run.phase = .calling (.commit .debit) := calling
  have debitReady := honours.isReady sound founded found commitsDebit idle
  cases side with
  | debit =>
      exact ⟨debitReady,
        honours.not_hasStray sound founded found commitsDebit idle⟩
  | credit =>
      -- Once the debit has been committed, the same holds for the credit.
      obtain ⟨events, next, ran, isRun, isIdle, agree, letters⟩ :=
        exists_commitCredit sound founded found commitsDebit idle debitReady
      have kept : ∀ {mail next : Mail} {event : Event},
          mail.Sound ∧ mail.Founded → mail.step event = some next →
            next.Sound ∧ next.Founded := fun both stepped =>
        ⟨both.1.step stepped, both.2.step both.1 stepped⟩
      obtain ⟨nextSound, nextFounded⟩ :=
        invariant_of_runThrough kept ⟨sound, founded⟩ ran
      have nextHonours := honours.runThrough ran
      have commitsCredit : ({ run with phase := .calling .commitCredit } :
          SettlementRun).phase = .calling (.commit .credit) := rfl
      have ready := nextHonours.isReady nextSound nextFounded isRun commitsCredit
        isIdle
      have noStray := nextHonours.not_hasStray nextSound nextFounded isRun
        commitsCredit isIdle
      constructor
      · exact ready.of_agreeOn agree.symm
      · rintro ⟨index, stray⟩
        exact noStray ⟨index, letters index _ stray⟩

/-- When both prepares of an attempt have been acknowledged, its commits are
certain if and only if both legs are still ready and no release of them, from an
earlier attempt, is on its way. -/
theorem honours_iff {start : Mail} {events : List Event} {run : SettlementRun}
    (opening : start.IsOpening)
    (unheld : ∀ party, start.banks.hold? party = none)
    (ran : runThrough step start events = some mail)
    (found : mail.floor.runs[number]? = some run)
    (calling : run.phase = .calling .commitDebit)
    (idle : mail.awaits number = none)
    (repeated : ∀ other, .order other ∈ events →
      other.id = run.transfer.id → other = run.transfer) :
    mail.Honours run.transfer ↔ ∀ side,
      mail.banks.IsReady run.transfer side ∧
        ¬ mail.HasStray run.transfer side := by
  have kept : ∀ {mail next : Mail} {event : Event},
      mail.Sound ∧ mail.Founded ∧ mail.Repeats run.transfer →
        event ∈ events → mail.step event = some next →
          next.Sound ∧ next.Founded ∧ next.Repeats run.transfer := by
    rintro mail next event ⟨sound, founded, repeats⟩ member stepped
    refine ⟨sound.step stepped, founded.step sound stepped,
      repeats.step ?_ stepped⟩
    rintro other rfl sameId -
    exact repeated other member sameId
  obtain ⟨sound, founded, repeats⟩ :=
    invariant_of_runThrough_of_forall kept (fun _ member => member)
      ⟨sound_of_isOpening opening, founded_of_isOpening opening unheld,
        repeats_of_isOpening opening run.transfer⟩ ran
  constructor
  · exact fun honours => honours.certain sound founded found calling idle
  · intro certain
    exact (repeats.assured sound found calling idle certain).honours sound
      founded (sound.floor.checked number run found)

def preparedOnce : List Event :=
  [.order Sample.payment, .send 0, .deliver 0, .hear 0, .send 0, .deliver 1,
    .hear 0]

/-- The second prepare of a payment times out, and so does the release that
follows.  The payment is ordered again and prepared. -/
def preparedTwice : List Event :=
  [.order Sample.payment, .send 0, .deliver 0, .hear 0, .send 0,
    .fail 0 .timeout, .send 0, .deliver 2, .hear 0, .send 0, .fail 0 .timeout,
    .conclude 0, .order Sample.payment, .send 1, .deliver 4, .hear 1, .send 1,
    .deliver 5, .hear 1]

/-- The debit is committed, then the late release arrives, then the commit of the
credit. -/
def releasedLate : List Event :=
  [.send 1, .deliver 6, .hear 1, .deliver 3, .send 1, .deliver 7, .hear 1,
    .conclude 1]

/-- The commits of the payment are certain if it has been prepared once.  If it has
been prepared twice, a late release lets the debit be posted alone. -/
theorem honours_of_preparedOnce :
    ∃ once twice final,
      runThrough step sample preparedOnce = some once ∧
        once.Honours Sample.payment ∧
        runThrough step sample preparedTwice = some twice ∧
        ¬ twice.Honours Sample.payment ∧
        runThrough step twice releasedLate = some final ∧
        final.postings = [Sample.payment.posting .debit] ∧
        (final.floor.entryOf? Sample.payment.id).bind JournalEntry.outcome =
          some (.error (.commitIncomplete
            ("debit leg committed, credit leg not committed " ++
              "(Internal invariant violated: commit after release)"))) := by
  have opening : sample.IsOpening :=
    ⟨⟨rfl, rfl⟩, rfl, fun _ => rfl, rfl, Sample.leg?_banks⟩
  have onceRan : runThrough step sample preparedOnce = some _ := rfl
  have twiceRan : runThrough step sample preparedTwice = some _ := rfl
  have sameOnce : ∀ other, .order other ∈ preparedOnce →
      other.id = Sample.payment.id → other = Sample.payment := by
    simp [preparedOnce]
  have sameTwice : ∀ other, .order other ∈ preparedTwice →
      other.id = Sample.payment.id → other = Sample.payment := by
    simp [preparedTwice]
  refine ⟨_, _, _, onceRan, ?_, twiceRan, ?_, rfl, rfl, rfl⟩
  · apply (@honours_iff _ 0 _ _ ⟨Sample.payment, .calling .commitDebit, true⟩
      opening Sample.hold?_banks onceRan rfl rfl rfl sameOnce).mpr
    intro side
    constructor
    · cases side with
      | debit => exact ⟨rfl, _, rfl, rfl, rfl⟩
      | credit => exact ⟨rfl, _, rfl, rfl, rfl⟩
    · intro stray
      have member : BankCall.release (Sample.payment.releaseOrder side) ∈
          [BankCall.prepare (Sample.payment.legOrder .debit),
            .prepare (Sample.payment.legOrder .credit)] := stray.mem_calls
      simp at member
  · intro honours
    have certain :=
      (@honours_iff _ 1 _ _ ⟨Sample.payment, .calling .commitDebit, true⟩
        opening Sample.hold?_banks twiceRan rfl rfl rfl sameTwice).mp honours
    exact (certain .credit).2 ⟨3, rfl⟩

end Mail

end ClearingHouse
