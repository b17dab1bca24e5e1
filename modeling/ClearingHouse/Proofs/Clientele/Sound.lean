import ClearingHouse.Proofs.Clientele.Result

/-!
# What clients are told, and what has become of their payments

`Clientele.Sound` says how the errands of clients agree with the settlements and the
journal.  Every settlement belongs to one errand.  One that nobody waits for has been
left behind by an attempt of its errand, or has failed; so when an attempt finds its
transfer in the journal, either the journal tells how it has ended, or an earlier
attempt has left its settlement behind.
-/

namespace ClearingHouse

namespace Clientele

/-- No two errands are about transfers of one name. -/
def Distinct (errands : List Errand) : Prop :=
  ∀ (first second : Nat) (firstErrand secondErrand : Errand),
    errands[first]? = some firstErrand → errands[second]? = some secondErrand →
      firstErrand.id = secondErrand.id → first = second

/-- One of the errands has asked for a transfer. -/
def AskedFor (house : House) (errands : List Errand) (transfer : Transfer) : Prop :=
  ∃ (index : Nat) (errand : Errand), errands[index]? = some errand ∧
    house.Asked errand transfer

section Errands

variable {errands : List Errand} {index : Nat} {errand changed : Errand}

theorem Distinct.set (distinct : Distinct errands)
    (found : errands[index]? = some errand) (sameId : changed.id = errand.id) :
    Distinct (errands.set index changed) := by
  have former : ∀ (other : Nat) (current : Errand),
      (errands.set index changed)[other]? = some current →
        ∃ old, errands[other]? = some old ∧ current.id = old.id := by
    intro other current present
    rcases eq_or_of_getElem?_set present with ⟨rfl, rfl⟩ | old
    · exact ⟨errand, found, sameId⟩
    · exact ⟨current, old, rfl⟩
  intro first second firstErrand secondErrand firstFound secondFound same
  obtain ⟨firstOld, firstWas, firstId⟩ := former first firstErrand firstFound
  obtain ⟨secondOld, secondWas, secondId⟩ := former second secondErrand secondFound
  exact distinct first second firstOld secondOld firstWas secondWas
    (by rw [← firstId, same, secondId])

theorem Distinct.append (distinct : Distinct errands) {added : Errand}
    (fresh : ∀ errand ∈ errands, errand.id ≠ added.id) :
    Distinct (errands ++ [added]) := by
  intro first second firstErrand secondErrand firstFound secondFound same
  rcases eq_or_eq_of_getElem?_append firstFound with firstOld | ⟨firstIndex, rfl⟩ <;>
    rcases eq_or_eq_of_getElem?_append secondFound with
      secondOld | ⟨secondIndex, rfl⟩
  · exact distinct first second firstErrand secondErrand firstOld secondOld same
  · exact absurd same (fresh firstErrand (List.mem_of_getElem? firstOld))
  · exact absurd same.symm (fresh secondErrand (List.mem_of_getElem? secondOld))
  · rw [firstIndex, secondIndex]

theorem AskedFor.set {house : House} {transfer : Transfer}
    (asked : AskedFor house errands transfer) (found : errands[index]? = some errand)
    (sameToken : changed.token = errand.token) (sameOrder : changed.order = errand.order) :
    AskedFor house (errands.set index changed) transfer := by
  obtain ⟨other, asker, askerFound, isAsked⟩ := asked
  by_cases same : other = index
  · subst same
    rw [found] at askerFound
    cases askerFound
    refine ⟨other, changed, ?_, ?_⟩
    · exact List.getElem?_set_self (List.getElem?_eq_some_iff.mp found).1
    · rw [House.Asked, sameToken, sameOrder]
      exact isAsked
  · exact ⟨other, asker,
      (List.getElem?_set_ne (Ne.symm same)).trans askerFound, isAsked⟩

end Errands

/-- Errands, settlements and journal agree. -/
structure Sound (clientele : Clientele) : Prop where
  hall : clientele.hall.Sound true
  remembered : clientele.hall.floor.Remembered
  distinct : Distinct clientele.errands
  asked : ∀ (number : Nat) (run : SettlementRun),
    clientele.hall.floor.runs[number]? = some run →
      AskedFor clientele.counter.house clientele.errands run.transfer
  waiting : ∀ (index : Nat) (errand : Errand) number settlement deadline,
    clientele.errands[index]? = some errand →
      errand.phase = .waiting number settlement deadline →
        ∃ run, clientele.hall.floor.runs[settlement]? = some run ∧
          run.transfer.id = errand.id
  /-- Somebody waits for a settlement only as long as its errand does, or it has
  failed. -/
  awaited : ∀ (index number : Nat) (errand : Errand) (run : SettlementRun),
    clientele.errands[index]? = some errand →
      clientele.hall.floor.runs[number]? = some run → run.transfer.id = errand.id →
        run.awaited = true →
          (∃ failure, run.phase = .ended (.error failure)) ∨
          (∃ attempt deadline, errand.phase = .waiting attempt number deadline) ∨
          ∃ result, errand.phase = .closed result
  closed : ∀ (index : Nat) (errand : Errand) result,
    clientele.errands[index]? = some errand → errand.phase = .closed result →
      clientele.hall.floor.Bears errand.id result

variable {clientele next : Clientele} {event : Event}

theorem sound_of_isOpening (opening : clientele.IsOpening) : clientele.Sound where
  hall := Hall.sound_of_isOpening opening.hall
  remembered := Floor.remembered_of_isOpening opening.hall.floor
  distinct := by
    intro first second firstErrand secondErrand found
    simp [opening.errands] at found
  asked := by
    intro number run found
    simp [opening.hall.floor.runs] at found
  waiting := by
    intro index errand number settlement deadline found
    simp [opening.errands] at found
  awaited := by
    intro index number errand run found
    simp [opening.errands] at found
  closed := by
    intro index errand result found
    simp [opening.errands] at found

/-! ## Reading the invariant -/

/-- The errand of a transfer has asked for it. -/
theorem Sound.asked_by {index number : Nat} {errand : Errand} {run : SettlementRun}
    (sound : clientele.Sound) (found : clientele.errands[index]? = some errand)
    (present : clientele.hall.floor.runs[number]? = some run)
    (sameId : run.transfer.id = errand.id) :
    clientele.counter.house.Asked errand run.transfer := by
  obtain ⟨other, otherErrand, otherFound, asked⟩ := sound.asked number run present
  have same : other = index := by
    obtain ⟨clock, caller, -, isTransfer, -⟩ := asked
    apply sound.distinct other index otherErrand errand otherFound found
    rw [← sameId, isTransfer]
    rfl
  subst same
  rw [found] at otherFound
  cases otherFound
  exact asked

/-- The journal knows a transfer by its settlements. -/
theorem Sound.run_of_entry {id : TransferId} {entry : JournalEntry}
    (sound : clientele.Sound)
    (present : clientele.hall.floor.entryOf? id = some entry) :
    ∃ (number : Nat) (run : SettlementRun),
      clientele.hall.floor.runs[number]? = some run ∧
      run.transfer = entry.transfer ∧ run.transfer.id = id ∧
      ((∃ failure, run.phase = .ended (.error failure)) → entry.status = .failed) := by
  obtain ⟨filed, wellFormed⟩ := sound.hall.floor.entries id entry present
  cases wellFormed with
  | running transfer =>
      obtain ⟨number, run, ⟨found, isLive⟩, rfl⟩ :=
        sound.hall.floor.attended id transfer present
      refine ⟨number, run, found, rfl, filed, ?_⟩
      rintro ⟨failure, ended⟩
      rw [ended] at isLive
      cases isLive
  | succeeded transfer settledAt =>
      obtain ⟨number, run, found, sameTransfer, ended⟩ :=
        sound.remembered.settled id _ _ present rfl
      refine ⟨number, run, found, sameTransfer, by rw [sameTransfer]; exact filed, ?_⟩
      rintro ⟨failure, failed⟩
      rw [ended] at failed
      cases failed
  | failed transfer failure settledAt storable =>
      obtain ⟨number, run, found, sameTransfer, ended⟩ :=
        sound.remembered.settled id _ _ present rfl
      exact ⟨number, run, found, sameTransfer, by rw [sameTransfer]; exact filed,
        fun _ => rfl⟩

/-- An attempt that is due finds nothing in the journal but a failure, or an earlier
attempt has left a settlement behind. -/
theorem Sound.spares_or_abandons {index number wake : Nat} {errand : Errand}
    (sound : clientele.Sound) (found : clientele.errands[index]? = some errand)
    (due : errand.phase = .due number wake) :
    clientele.hall.floor.Spares errand.id ∨
      clientele.hall.floor.Abandons errand.id := by
  by_cases spares : clientele.hall.floor.Spares errand.id
  · exact Or.inl spares
  · right
    simp only [Floor.Spares, not_forall] at spares
    obtain ⟨entry, present, notFailed⟩ := spares
    obtain ⟨settlement, run, runFound, -, sameId, failed⟩ := sound.run_of_entry present
    refine ⟨settlement, run, runFound, sameId, ?_⟩
    rw [Bool.eq_false_iff]
    intro awaited
    rcases sound.awaited index settlement errand run found runFound sameId awaited with
      isFailed | ⟨attempt, deadline, waits⟩ | ⟨result, isClosed⟩
    · exact notFailed (failed isFailed)
    · rw [due] at waits
      cases waits
    · rw [due] at isClosed
      cases isClosed

/-- If nothing has ever been settled for an errand, the journal knows nothing of
it. -/
theorem Sound.spares_of_unasked {index : Nat} {errand : Errand}
    (sound : clientele.Sound) (found : clientele.errands[index]? = some errand)
    (unasked : ∀ transfer, ¬ clientele.counter.house.Asked errand transfer) :
    clientele.hall.floor.Spares errand.id := by
  intro entry present
  obtain ⟨number, run, runFound, -, sameId, -⟩ := sound.run_of_entry present
  exact absurd (sound.asked_by found runFound sameId) (unasked _)

/-! ## Steps -/

/-- The hall goes on, or somebody stops waiting. -/
theorem Sound.inHall {hallEvent : Hall.Event} {hall : Hall} (sound : clientele.Sound)
    (notOrder : ∀ transfer, hallEvent ≠ .order transfer)
    (keeps : ¬ hallEvent.Forgets true)
    (stepped : clientele.hall.step hallEvent = some hall) (clock : Nat) :
    Sound ⟨⟨hall, clock⟩, clientele.errands⟩ := by
  have continues := Hall.continues_of_step stepped notOrder keeps
  have before : ∀ (number : Nat) (current : SettlementRun),
      hall.floor.runs[number]? = some current →
        ∃ run, clientele.hall.floor.runs[number]? = some run ∧
          current.transfer = run.transfer ∧
          (current.awaited = true → run.awaited = true) ∧
          ∀ outcome, run.phase = .ended outcome → current.phase = .ended outcome := by
    intro number current present
    obtain ⟨run, found⟩ := continues.former number current present
    obtain ⟨later, laterPresent, same⟩ := continues.later number run found
    rw [present] at laterPresent
    cases laterPresent
    exact ⟨run, found, same⟩
  refine
    { hall := sound.hall.step keeps stepped
      remembered := continues.remembered sound.hall.floor sound.remembered
      distinct := sound.distinct
      asked := ?asked
      waiting := ?waiting
      awaited := ?awaited
      closed := ?closed }
  case asked =>
    intro number current present
    obtain ⟨run, found, sameTransfer, -⟩ := before number current present
    obtain ⟨index, errand, errandFound, asked⟩ := sound.asked number run found
    refine ⟨index, errand, errandFound, ?_⟩
    rw [sameTransfer, Counter.house, continues.house]
    exact asked
  case waiting =>
    intro index errand number settlement deadline found waits
    obtain ⟨run, runFound, sameId⟩ :=
      sound.waiting index errand number settlement deadline found waits
    obtain ⟨current, present, sameTransfer, -⟩ := continues.later settlement run runFound
    exact ⟨current, present, by rw [sameTransfer, sameId]⟩
  case awaited =>
    intro index number errand current found present sameId isAwaited
    obtain ⟨run, runFound, sameTransfer, wasAwaited, stays⟩ :=
      before number current present
    rw [sameTransfer] at sameId
    rcases sound.awaited index number errand run found runFound sameId
      (wasAwaited isAwaited) with ⟨failure, ended⟩ | waits | isClosed
    · exact Or.inl ⟨failure, stays _ ended⟩
    · exact Or.inr (Or.inl waits)
    · exact Or.inr (Or.inr isClosed)
  case closed =>
    intro index errand result found isClosed
    exact continues.bears sound.hall.floor _ _
      (sound.closed index errand result found isClosed)

/-- An errand goes on, and nothing happens in the hall. -/
theorem Sound.withErrand {index : Nat} {errand changed : Errand}
    (sound : clientele.Sound) (found : clientele.errands[index]? = some errand)
    (sameToken : changed.token = errand.token) (sameOrder : changed.order = errand.order)
    (waiting : ∀ number settlement deadline,
      changed.phase ≠ .waiting number settlement deadline)
    (awaited : ∀ (number : Nat) (run : SettlementRun),
      clientele.hall.floor.runs[number]? = some run → run.transfer.id = errand.id →
        run.awaited = true →
          (∃ failure, run.phase = .ended (.error failure)) ∨
          ∃ result, changed.phase = .closed result)
    (closed : ∀ result, changed.phase = .closed result →
      clientele.hall.floor.Bears errand.id result) :
    Sound (clientele.withErrand clientele.counter index changed) := by
  have sameId : changed.id = errand.id := by
    rw [Errand.id, sameOrder]
    rfl
  refine
    { hall := sound.hall
      remembered := sound.remembered
      distinct := sound.distinct.set found sameId
      asked := fun number run present =>
        (sound.asked number run present).set found sameToken sameOrder
      waiting := ?waiting
      awaited := ?awaited
      closed := ?closed }
  case waiting =>
    intro other current number settlement deadline present waits
    rcases eq_or_of_getElem?_set present with ⟨rfl, rfl⟩ | old
    · exact absurd waits (waiting _ _ _)
    · exact sound.waiting other current number settlement deadline old waits
  case awaited =>
    intro other number current run present runFound isSame isAwaited
    rcases eq_or_of_getElem?_set present with ⟨rfl, rfl⟩ | old
    · rw [sameId] at isSame
      rcases awaited number run runFound isSame isAwaited with failed | isClosed
      · exact Or.inl failed
      · exact Or.inr (Or.inr isClosed)
    · exact sound.awaited other number current run old runFound isSame isAwaited
  case closed =>
    intro other current result present isClosed
    rcases eq_or_of_getElem?_set present with ⟨rfl, rfl⟩ | old
    · rw [sameId]
      exact closed result isClosed
    · exact sound.closed other current result old isClosed

/-- The order of an errand is accepted, and the errand waits for the settlement. -/
theorem Sound.accepted {index number wake attempt deadline : Nat}
    {errand changed : Errand} {caller : Caller} {counter : Counter}
    (sound : clientele.Sound) (found : clientele.errands[index]? = some errand)
    (due : errand.phase = .due number wake) (sameToken : changed.token = errand.token)
    (sameOrder : changed.order = errand.order)
    (waits : changed.phase =
      .waiting attempt clientele.hall.floor.runs.length deadline)
    (resolved : clientele.counter.resolve errand.token = .ok caller)
    (passed : clientele.counter.house.check (errand.order.transferOf caller) = .ok ())
    (absent : clientele.hall.floor.entryOf? errand.id = none)
    (started : counter =
      { clientele.counter with
        hall :=
          { clientele.hall with
            floor :=
              clientele.hall.floor.started (errand.order.transferOf caller) } }) :
    Sound (clientele.withErrand counter index changed) := by
  subst started
  have sameId : changed.id = errand.id := by
    rw [Errand.id, sameOrder]
    rfl
  have accepts : clientele.hall.floor.order (errand.order.transferOf caller) =
      (clientele.hall.floor.started (errand.order.transferOf caller), .accepted) :=
    Floor.order_of_absent passed absent
  have stepped : clientele.hall.floor.step (.order (errand.order.transferOf caller)) =
      some (clientele.hall.floor.started (errand.order.transferOf caller)) := by
    simp only [Floor.step, accepts]
  have hallSound := sound.hall.order (errand.order.transferOf caller)
  rw [accepts] at hallSound
  refine
    { hall := hallSound
      remembered := sound.remembered.step sound.hall.floor (by rintro _ ⟨⟩) stepped
      distinct := sound.distinct.set found sameId
      asked := ?asked
      waiting := ?waiting
      awaited := ?awaited
      closed := ?closed }
  case asked =>
    intro settlement run present
    rcases Floor.run_of_started present with old | ⟨-, rfl⟩
    · exact (sound.asked settlement run old).set found sameToken sameOrder
    · have asked : AskedFor clientele.counter.house clientele.errands
          (errand.order.transferOf caller) :=
        ⟨index, errand, found, clientele.counter.clock, caller, resolved, rfl, passed⟩
      exact asked.set found sameToken sameOrder
  case waiting =>
    intro other current otherAttempt settlement otherDeadline present currentWaits
    rcases eq_or_of_getElem?_set present with ⟨rfl, rfl⟩ | old
    · rw [waits] at currentWaits
      cases currentWaits
      exact ⟨_, List.getElem?_concat_length, sameId.symm⟩
    · obtain ⟨run, runFound, isSame⟩ := sound.waiting other current otherAttempt
        settlement otherDeadline old currentWaits
      exact ⟨run, Floor.run_started runFound _, isSame⟩
  case awaited =>
    intro other settlement current run present runPresent isSame isAwaited
    rcases eq_or_of_getElem?_set present with ⟨rfl, rfl⟩ | old
    · rcases Floor.run_of_started runPresent with oldRun | ⟨rfl, rfl⟩
      · -- Of what the errand has ordered before, only failures may be awaited.
        rw [sameId] at isSame
        rcases sound.awaited other settlement errand run found oldRun isSame isAwaited
          with failed | ⟨_, _, stillWaits⟩ | ⟨result, isClosed⟩
        · exact Or.inl failed
        · rw [due] at stillWaits
          cases stillWaits
        · rw [due] at isClosed
          cases isClosed
      · exact Or.inr (Or.inl ⟨attempt, deadline, waits⟩)
    · rcases Floor.run_of_started runPresent with oldRun | ⟨rfl, rfl⟩
      · exact sound.awaited other settlement current run old oldRun isSame isAwaited
      · -- Only the errand that has ordered the new settlement has its name.
        have same := sound.distinct other index current errand old found isSame.symm
        subst same
        have isChanged := List.getElem?_set_self
          (a := changed) (List.getElem?_eq_some_iff.mp found).1
        rw [show (clientele.errands.set other changed)[other]? = some current from
          present] at isChanged
        cases isChanged
        exact Or.inr (Or.inl ⟨attempt, deadline, waits⟩)
  case closed =>
    intro other current result present isClosed
    rcases eq_or_of_getElem?_set present with ⟨rfl, rfl⟩ | old
    · rw [waits] at isClosed
      cases isClosed
    · refine sound.hall.floor.bears_of_step
        (sound.closed other current result old isClosed) (by rintro _ ⟨⟩) ?_ stepped
      rintro transfer ⟨⟩ isSame
      have same := sound.distinct other index current errand old found isSame.symm
      subst same
      rw [found] at old
      cases old
      rw [due] at isClosed
      cases isClosed

/-! ## Results -/

/-- What becomes of an errand when an attempt has come to an outcome: a result that
says of its transfer what the outcome says, or a further attempt. -/
theorem heard_cases (errand : Errand) (now number : Nat) (outcome : Outcome) :
    (∃ receipt, outcome = .ok receipt ∧
      (errand.heard now number outcome).phase =
        .closed (.ok (.paid (.ofReceipt receipt)))) ∨
    ∃ failure, outcome = .error failure ∧
      (failure.isRetryable = false ∧
          (errand.heard now number outcome).phase = .closed (.error (.rejected failure)) ∨
        failure.isRetryable = true ∧
          ((errand.heard now number outcome).phase =
              .closed (.error (.timedOut errand.policy.attempts failure)) ∨
            (errand.heard now number outcome).phase =
              .due (number + 1) (now + errand.policy.backoff * number))) := by
  cases outcome with
  | ok receipt => exact Or.inl ⟨receipt, rfl, rfl⟩
  | error failure =>
      refine Or.inr ⟨failure, rfl, ?_⟩
      cases retryable : failure.isRetryable with
      | false =>
          left
          simp [Errand.heard, Errand.answerOf, Except.map, RetryPolicy.after, retryable]
      | true =>
          right
          by_cases further : number < errand.policy.attempts
          · simp [Errand.heard, Errand.answerOf, Except.map, RetryPolicy.after,
              retryable, further]
          · simp [Errand.heard, Errand.answerOf, Except.map, RetryPolicy.after,
              retryable, further]

/-- An attempt has come to an outcome that is true of its transfer. -/
theorem Sound.heard {index number : Nat} {errand : Errand} {outcome : Outcome}
    (sound : clientele.Sound) (found : clientele.errands[index]? = some errand)
    (paid : ∀ receipt, outcome = .ok receipt →
      ∃ entry, clientele.hall.floor.entryOf? errand.id = some entry ∧
        entry.outcome = some (.ok receipt))
    (refused : ∀ failure, outcome = .error failure → failure.isRetryable = false →
      clientele.hall.floor.Bears errand.id (.error (.rejected failure)))
    (awaited : ∀ (settlement : Nat) (run : SettlementRun),
      clientele.hall.floor.runs[settlement]? = some run → run.transfer.id = errand.id →
        run.awaited = true → (∃ failure, run.phase = .ended (.error failure)) ∨
          ∃ receipt, outcome = .ok receipt) :
    Sound (clientele.withErrand clientele.counter index
      (errand.heard clientele.now number outcome)) := by
  have cases := heard_cases errand clientele.now number outcome
  refine sound.withErrand found rfl rfl ?_ ?_ ?_
  · intro other settlement deadline waits
    rcases cases with
      ⟨receipt, -, ended⟩ | ⟨failure, -, ⟨-, ended⟩ | ⟨-, ended | ended⟩⟩ <;>
      · rw [waits] at ended
        cases ended
  · intro settlement run runFound sameId isAwaited
    rcases awaited settlement run runFound sameId isAwaited with failed | ⟨receipt, rfl⟩
    · exact Or.inl failed
    · exact Or.inr ⟨_, rfl⟩
  · intro result isClosed
    rcases cases with
      ⟨receipt, rfl, ended⟩ | ⟨failure, rfl, ⟨final, ended⟩ | ⟨-, ended | isDue⟩⟩
    · rw [isClosed] at ended
      cases ended
      obtain ⟨entry, present, settled⟩ := paid receipt rfl
      exact ⟨entry, receipt, present, settled, rfl⟩
    · rw [isClosed] at ended
      cases ended
      exact refused failure rfl final
    · rw [isClosed] at ended
      cases ended
      trivial
    · rw [isClosed] at isDue
      cases isDue

/-- A failure with which an order is turned away before the journal is asked is true
of its transfer, unless the token is no longer valid and a settlement has been left
behind. -/
theorem Sound.bears_of_turned {index number wake : Nat} {errand : Errand}
    {failure : TransferFailure} (sound : clientele.Sound)
    (found : clientele.errands[index]? = some errand)
    (due : errand.phase = .due number wake)
    (turned : clientele.counter.resolve errand.token = .error failure ∨
      ∃ caller, clientele.counter.resolve errand.token = .ok caller ∧
        clientele.counter.house.check (errand.order.transferOf caller) =
          .error failure) :
    clientele.hall.floor.Bears errand.id (.error (.rejected failure)) := by
  rcases turned with unresolved | ⟨caller, resolved, refused⟩
  · by_cases expired : failure = .invalidToken
    · rcases sound.spares_or_abandons found due with spares | abandons
      · exact Or.inl spares
      · exact Or.inr ⟨expired, abandons⟩
    · -- A token that is refused for another reason has never stood for anybody.
      refine Or.inl (sound.spares_of_unasked found ?_)
      rintro transfer ⟨clock, caller, resolved, -⟩
      rcases Credentials.resolve_of_resolve resolved clientele.counter.clock with
        still | invalid
      · rw [show clientele.counter.house.credentials.resolve _ _ = _ from
          unresolved] at still
        cases still
      · rw [show clientele.counter.house.credentials.resolve _ _ = _ from
          unresolved] at invalid
        cases invalid
        exact expired rfl
  · -- What the house refuses now it has always refused.
    refine Or.inl (sound.spares_of_unasked found ?_)
    rintro transfer ⟨clock, formerCaller, wasResolved, rfl, passed⟩
    rcases Credentials.resolve_of_resolve wasResolved clientele.counter.clock with
      still | invalid
    · rw [show clientele.counter.house.credentials.resolve _ _ = _ from
        resolved] at still
      cases still
      rw [refused] at passed
      cases passed
    · rw [show clientele.counter.house.credentials.resolve _ _ = _ from
        resolved] at invalid
      cases invalid

/-- The order of an errand is answered at once. -/
theorem Sound.answered {index number wake : Nat} {errand : Errand} {outcome : Outcome}
    (sound : clientele.Sound) (found : clientele.errands[index]? = some errand)
    (due : errand.phase = .due number wake)
    (answers : clientele.counter.Answers errand.token errand.order outcome) :
    Sound (clientele.withErrand clientele.counter index
      (errand.heard clientele.now number outcome)) := by
  refine sound.heard found ?_ ?_ ?_
  · rintro receipt rfl
    cases answers with
    | settled entry outcome present settled => exact ⟨entry, present, settled⟩
  · rintro failure rfl final
    cases answers with
    | unresolved failure unresolved =>
        exact sound.bears_of_turned found due (Or.inl unresolved)
    | refused caller failure resolved refused =>
        exact sound.bears_of_turned found due (Or.inr ⟨caller, resolved, refused⟩)
    | running entry present running => cases final
    | settled entry outcome present settled =>
        left
        intro other otherPresent
        rw [show clientele.hall.floor.entryOf? errand.id = some entry from present]
          at otherPresent
        cases otherPresent
        have coherent := (sound.hall.floor.entries _ entry present).2.coherent
        exact coherent.failed_iff.mpr ⟨failure, settled⟩
  · intro settlement run runFound sameId isAwaited
    rcases sound.awaited index settlement errand run found runFound sameId isAwaited with
      failed | ⟨attempt, deadline, waits⟩ | ⟨result, isClosed⟩
    · exact Or.inl failed
    · rw [due] at waits
      cases waits
    · rw [due] at isClosed
      cases isClosed

/-- An attempt hears how its settlement has ended. -/
theorem Sound.hears {index number settlement deadline : Nat} {errand : Errand}
    {run : SettlementRun} {outcome : Outcome} (sound : clientele.Sound)
    (found : clientele.errands[index]? = some errand)
    (waits : errand.phase = .waiting number settlement deadline)
    (present : clientele.hall.floor.runs[settlement]? = some run)
    (ended : run.phase = .ended outcome) :
    Sound (clientele.withErrand clientele.counter index
      (errand.heard clientele.now number outcome)) := by
  have sameId : run.transfer.id = errand.id := by
    obtain ⟨other, otherFound, same⟩ :=
      sound.waiting index errand number settlement deadline found waits
    rw [present] at otherFound
    cases otherFound
    exact same
  have notes := sound.remembered.ended settlement run outcome present ended
  refine sound.heard found ?_ ?_ ?_
  · rintro receipt rfl
    obtain ⟨entry, isEntry, -, settled⟩ := notes nofun
    rw [sameId] at isEntry
    exact ⟨entry, isEntry, settled⟩
  · rintro failure rfl final
    obtain ⟨entry, isEntry, -, settled⟩ := notes (by rintro _ ⟨⟩; exact final)
    rw [sameId] at isEntry
    left
    intro other otherEntry
    rw [isEntry] at otherEntry
    cases otherEntry
    have coherent := (sound.hall.floor.entries _ entry isEntry).2.coherent
    exact coherent.failed_iff.mpr ⟨failure, settled⟩
  · intro other otherRun otherFound isSame isAwaited
    rcases sound.awaited index other errand otherRun found otherFound isSame isAwaited with
      failed | ⟨attempt, until_, alsoWaits⟩ | ⟨result, isClosed⟩
    · exact Or.inl failed
    · rw [waits] at alsoWaits
      cases alsoWaits
      rw [present] at otherFound
      cases otherFound
      cases outcome with
      | ok receipt => exact Or.inr ⟨receipt, rfl⟩
      | error failure => exact Or.inl ⟨failure, ended⟩
    · rw [waits] at isClosed
      cases isClosed

/-- An attempt stops waiting for its settlement. -/
theorem Sound.lapsed {index number settlement deadline : Nat} {errand : Errand}
    {hall : Hall} (sound : clientele.Sound)
    (found : clientele.errands[index]? = some errand)
    (waits : errand.phase = .waiting number settlement deadline)
    (left : clientele.hall.step (.leave settlement) = some hall) :
    Sound (clientele.withErrand { clientele.counter with hall := hall } index
      (errand.heard clientele.now number (.error .timeout))) := by
  have leaves := sound.inHall (by rintro _ ⟨⟩) id left clientele.counter.clock
  obtain ⟨floor, leftFloor, rfl⟩ := Option.map_eq_some_iff.mp left
  have sameNow : floor.now = clientele.now := by
    obtain ⟨run, runFound, rfl⟩ := Floor.leave_eq_some leftFloor
    rfl
  rw [← sameNow]
  refine Sound.heard leaves found nofun ?_ ?_
  · rintro failure ⟨⟩ final
    cases final
  · intro other otherRun otherFound isSame isAwaited
    rcases leaves.awaited index other errand otherRun found otherFound isSame
      isAwaited with failed | ⟨attempt, until_, alsoWaits⟩ | ⟨result, isClosed⟩
    · exact Or.inl failed
    · -- Nobody waits for the settlement that has been left.
      rw [waits] at alsoWaits
      cases alsoWaits
      obtain ⟨run, runFound, rfl⟩ := Floor.leave_eq_some leftFloor
      have unawaited := (Floor.getElem?_withRun runFound
        { run with awaited := false } settlement).trans (if_pos rfl)
      rw [show (clientele.hall.floor.withRun settlement _).runs[settlement]? = _ from
        otherFound] at unawaited
      cases unawaited
      cases isAwaited
    · rw [waits] at isClosed
      cases isClosed

/-- Another errand begins. -/
theorem Sound.dispatched {policy : RetryPolicy} {token : String} {order : PaymentOrder}
    (sound : clientele.Sound)
    (fresh : ∀ errand ∈ clientele.errands, errand.id ≠ order.transfer) :
    Sound { clientele with
      errands := clientele.errands ++ [.begin policy token order clientele.now] } := by
  refine
    { hall := sound.hall
      remembered := sound.remembered
      distinct := sound.distinct.append fresh
      asked := ?asked
      waiting := ?waiting
      awaited := ?awaited
      closed := ?closed }
  case asked =>
    intro number run present
    obtain ⟨index, errand, found, asked⟩ := sound.asked number run present
    exact ⟨index, errand, getElem?_append_of_some found _, asked⟩
  case waiting =>
    intro index errand number settlement deadline found waits
    rcases eq_or_eq_of_getElem?_append found with old | ⟨-, rfl⟩
    · exact sound.waiting index errand number settlement deadline old waits
    · simp only [Errand.begin] at waits
      split at waits <;> cases waits
  case awaited =>
    intro index number errand run found runFound sameId isAwaited
    rcases eq_or_eq_of_getElem?_append found with old | ⟨-, rfl⟩
    · exact sound.awaited index number errand run old runFound sameId isAwaited
    · obtain ⟨other, asker, askerFound, clock, caller, -, isTransfer, -⟩ :=
        sound.asked number run runFound
      rw [isTransfer] at sameId
      exact absurd sameId (fresh asker (List.mem_of_getElem? askerFound))
  case closed =>
    intro index errand result found isClosed
    rcases eq_or_eq_of_getElem?_append found with old | ⟨-, rfl⟩
    · exact sound.closed index errand result old isClosed
    · simp only [Errand.begin, RetryPolicy.start] at isClosed
      split at isClosed
      · rename_i failure gaveUp
        split at gaveUp
        · cases gaveUp
          cases isClosed
          trivial
        · cases gaveUp
      · cases isClosed

theorem Sound.step (sound : clientele.Sound)
    (stepped : clientele.step event = some next) : next.Sound := by
  cases changes_of_step stepped with
  | dispatched policy token order fresh => exact sound.dispatched fresh
  | answered index number wake errand outcome found due answers =>
      exact sound.answered found due answers
  | accepted index number wake deadline errand caller counter found due resolved passed
      absent started =>
      exact sound.accepted found due rfl rfl rfl resolved passed absent started
  | heard index number settlement deadline errand run outcome found waits present
      ended =>
      exact sound.hears found waits present ended
  | lapsed index number settlement deadline errand hall found waits left =>
      exact sound.lapsed found waits left
  | goneOn event hall goesOn hallStepped =>
      exact sound.inHall (Hall.Event.ne_order_of_goesOn goesOn)
        (Hall.Event.not_forgets_of_goesOn goesOn) hallStepped _
  | ticked seconds => exact { sound with }

theorem sound_of_runThrough {start final : Clientele} {events : List Event}
    (opening : start.IsOpening) (ran : runThrough step start events = some final) :
    final.Sound :=
  invariant_of_runThrough Sound.step (sound_of_isOpening opening) ran

end Clientele

end ClearingHouse
