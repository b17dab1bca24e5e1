import ClearingHouse.Proofs.Clientele.Sound
import ClearingHouse.Proofs.Counter.Holder
import ClearingHouse.Proofs.Hall.Holds

/-!
# The verdict of a client on its payment

A client that is told of a success has paid: both legs of the transfer have been
moved, each of them once.  A client that is told of a final failure has not paid, and
never will, with one exception.  It shows its token anew for every attempt.  If the
token is no longer valid at a further attempt, the client is told so, although the
settlement that an earlier attempt has left behind may still succeed.
-/

namespace ClearingHouse.Clientele

variable {start clientele next : Clientele} {event : Event} {index : Nat}
  {errand : Errand} {transfer : Transfer}

/-! ## What stays -/

/-- An errand that is over stays as it is. -/
theorem errand_of_closed {result : Except ClientFailure Answer}
    (found : clientele.errands[index]? = some errand)
    (closed : errand.phase = .closed result) (stepped : clientele.step event = some next) :
    next.errands[index]? = some errand := by
  have unchanged : ∀ other otherErrand changed,
      clientele.errands[other]? = some otherErrand →
        otherErrand.phase ≠ .closed result →
          (clientele.errands.set other changed)[index]? = some errand := by
    intro other otherErrand changed otherFound notClosed
    have different : other ≠ index := by
      rintro rfl
      rw [found] at otherFound
      cases otherFound
      exact notClosed closed
    rw [List.getElem?_set_ne different]
    exact found
  cases changes_of_step stepped with
  | dispatched policy token order fresh => exact getElem?_append_of_some found _
  | answered other number wake otherErrand outcome otherFound due answers =>
      exact unchanged other otherErrand _ otherFound (by rw [due]; nofun)
  | accepted other number wake deadline otherErrand caller counter otherFound due
      resolved passed absent started =>
      exact unchanged other otherErrand _ otherFound (by rw [due]; nofun)
  | heard other number settlement deadline otherErrand run outcome otherFound waits
      present ended =>
      exact unchanged other otherErrand _ otherFound (by rw [waits]; nofun)
  | lapsed other number settlement deadline otherErrand hall otherFound waits left =>
      exact unchanged other otherErrand _ otherFound (by rw [waits]; nofun)
  | goneOn hallEvent hall goesOn hallStepped => exact found
  | ticked seconds => exact found

/-- An event leaves the hall alone, or is an event of the hall.  If it is an order, it
is that of an errand that is due. -/
theorem hall_of_step (stepped : clientele.step event = some next) :
    (next.hall = clientele.hall ∧ ∀ id, movedBy id clientele event next = []) ∨
    ∃ hallEvent, clientele.hall.step hallEvent = some next.hall ∧
      ¬ hallEvent.Forgets true ∧
      (∀ id, movedBy id clientele event next =
        Hall.movedBy id clientele.hall hallEvent next.hall) ∧
      ∀ transfer, hallEvent = .order transfer →
        ∃ (index : Nat) (errand : Errand) (number wake : Nat),
          clientele.errands[index]? = some errand ∧
          errand.phase = .due number wake ∧ transfer.id = errand.id := by
  cases changes_of_step stepped with
  | dispatched policy token order fresh => exact Or.inl ⟨rfl, fun _ => rfl⟩
  | answered index number wake errand outcome found due answers =>
      exact Or.inl ⟨rfl, fun _ => rfl⟩
  | accepted index number wake deadline errand caller counter found due resolved passed
      absent started =>
      right
      refine ⟨.order (errand.order.transferOf caller), ?_, id, fun _ => rfl, ?_⟩
      · have accepts : clientele.hall.floor.order (errand.order.transferOf caller) = _ :=
          Floor.order_of_absent passed absent
        simp only [Hall.step, accepts, started]
        rfl
      · rintro transfer ⟨⟩
        exact ⟨index, errand, number, wake, found, due, rfl⟩
  | heard index number settlement deadline errand run outcome found waits present
      ended =>
      exact Or.inl ⟨rfl, fun _ => rfl⟩
  | lapsed index number settlement deadline errand hall found waits left =>
      refine Or.inr ⟨.leave settlement, left, id, fun _ => rfl, ?_⟩
      rintro transfer ⟨⟩
  | goneOn hallEvent hall goesOn hallStepped =>
      refine Or.inr ⟨hallEvent, hallStepped,
        Hall.Event.not_forgets_of_goesOn goesOn, fun _ => rfl, ?_⟩
      intro transfer isOrder
      exact absurd isOrder (Hall.Event.ne_order_of_goesOn goesOn transfer)
  | ticked seconds => exact Or.inl ⟨rfl, fun _ => rfl⟩

/-- A settlement stays one of the same transfer. -/
theorem run_of_step {number : Nat} {run : SettlementRun}
    (found : clientele.hall.floor.runs[number]? = some run)
    (stepped : clientele.step event = some next) :
    ∃ current, next.hall.floor.runs[number]? = some current ∧
      current.transfer = run.transfer := by
  rcases hall_of_step stepped with ⟨same, -⟩ | ⟨hallEvent, hallStepped, -⟩
  · rw [same]
    exact ⟨run, found, rfl⟩
  · rcases Hall.floorEvent_of_step hallStepped with
      same | ⟨floorEvent, floorStepped, -⟩
    · rw [same]
      exact ⟨run, found, rfl⟩
    · obtain ⟨current, present, sameTransfer, -⟩ :=
        Floor.run_after_step floorStepped found
      exact ⟨current, present, sameTransfer⟩

/-- Once an errand is over, its transfer is not ordered again. -/
theorem Sound.spares_of_step {result : Except ClientFailure Answer}
    (sound : clientele.Sound) (found : clientele.errands[index]? = some errand)
    (closed : errand.phase = .closed result)
    (spares : clientele.hall.floor.Spares errand.id)
    (stepped : clientele.step event = some next) :
    next.hall.floor.Spares errand.id := by
  rcases hall_of_step stepped with
    ⟨same, -⟩ | ⟨hallEvent, hallStepped, -, -, isDue⟩
  · rw [same]
    exact spares
  · rcases Hall.floorEvent_of_step hallStepped with
      same | ⟨floorEvent, floorStepped, isOrder, -⟩
    · rw [same]
      exact spares
    · refine sound.hall.floor.spares_of_step spares ?_ floorStepped
      intro transfer ordered sameId
      obtain ⟨other, otherErrand, number, wake, otherFound, due, isOwn⟩ :=
        isDue transfer (isOrder transfer ordered)
      have same := sound.distinct other index otherErrand errand otherFound found
        (isOwn.symm.trans sameId)
      subst same
      rw [found] at otherFound
      cases otherFound
      rw [closed] at due
      cases due

/-! ## What is moved -/

/-- Every settlement with the name of a transfer is one of this transfer. -/
def OnlyOf (clientele : Clientele) (transfer : Transfer) : Prop :=
  ∀ (number : Nat) (run : SettlementRun),
    clientele.hall.floor.runs[number]? = some run → run.transfer.id = transfer.id →
      run.transfer = transfer

/-- All settlements of an errand are those of one transfer. -/
theorem Sound.exists_onlyOf (sound : clientele.Sound)
    (found : clientele.errands[index]? = some errand) :
    ∃ transfer, transfer.id = errand.id ∧ clientele.OnlyOf transfer := by
  by_cases settled : ∃ (number : Nat) (run : SettlementRun),
      clientele.hall.floor.runs[number]? = some run ∧ run.transfer.id = errand.id
  · obtain ⟨first, firstRun, firstFound, firstId⟩ := settled
    refine ⟨firstRun.transfer, firstId, ?_⟩
    intro second secondRun secondFound sameId
    obtain ⟨firstClock, firstCaller, firstResolved, firstAsked, -⟩ :=
      sound.asked_by found firstFound firstId
    obtain ⟨secondClock, secondCaller, secondResolved, secondAsked, -⟩ :=
      sound.asked_by found secondFound (sameId.trans firstId)
    -- The token has stood for the same caller both times.
    rcases Credentials.resolve_of_resolve firstResolved secondClock with still | invalid
    · rw [secondResolved] at still
      cases still
      rw [firstAsked, secondAsked]
    · rw [secondResolved] at invalid
      cases invalid
  · -- The parties and the amount do not matter for a transfer that was never settled.
    let nobody : Party := ⟨⟨""⟩, ⟨""⟩⟩
    exact ⟨⟨errand.id, nobody, nobody, Amount.zero⟩, rfl,
      fun number run present sameId => absurd ⟨number, run, present, sameId⟩ settled⟩

theorem Sound.applied_of_step (sound : clientele.Sound)
    (only : clientele.OnlyOf transfer) (stepped : clientele.step event = some next) :
    next.hall.banks.applied transfer =
      clientele.hall.banks.applied transfer ++
        movedBy transfer.id clientele event next := by
  rcases hall_of_step stepped with
    ⟨same, nothing⟩ | ⟨hallEvent, hallStepped, keeps, moves, -⟩
  · rw [same, nothing, List.append_nil]
  · rw [moves]
    exact sound.hall.applied_of_step keeps hallStepped only

/-- What a run has moved for a transfer are its applied legs. -/
theorem moved_eq_applied {final : Clientele} {events : List Event}
    (opening : start.IsOpening) (ran : runThrough step start events = some final)
    (only : final.OnlyOf transfer) :
    moved transfer.id start events = final.hall.banks.applied transfer := by
  refine @history_of_runThrough Clientele Event step start
    (fun past clientele => clientele.OnlyOf transfer →
      moved transfer.id start past = clientele.hall.banks.applied transfer)
    ?_ ?_ events final ran only
  · intro _
    have nothing : ∀ side, start.hall.banks.hasApplied transfer side = false := by
      intro side
      simp [Banks.hasApplied, opening.hall.noLeg]
    simp [moved, collect, Banks.applied, nothing]
  · intro past clientele event next reached before stepped only
    have onlyBefore : clientele.OnlyOf transfer := by
      intro number run found sameId
      obtain ⟨current, present, sameTransfer⟩ := run_of_step found stepped
      rw [← sameTransfer] at sameId ⊢
      exact only number current present sameId
    have sound := sound_of_runThrough opening reached
    rw [sound.applied_of_step onlyBefore stepped, ← before onlyBefore]
    exact collect_concat reached stepped

/-! ## The verdict -/

/-- What is true when a client has been told the `result` of its errand in the state
`last`, and the run has gone on to a `final` state. -/
structure Tells (start : Clientele) (events : List Event) (last final : Clientele)
    (errand : Errand) (result : Except ClientFailure Answer) : Prop where
  /-- A client that is told of a success has paid, once. -/
  paid : ∀ answer, result = .ok answer →
    ∃ clock caller,
      start.counter.house.credentials.resolve clock errand.token = .ok caller ∧
      answer = .paid (.ofReceipt (errand.order.transferOf caller).receipt) ∧
      moved errand.id start events = (errand.order.transferOf caller).legs
  /-- A client that is told of a final failure has paid nothing and never will, unless
  it is told that its token is invalid after nobody waited any more for a settlement of
  its payment. -/
  rejected : ∀ failure, result = .error (.rejected failure) →
    moved errand.id start events = [] ∨
      failure = .invalidToken ∧ last.hall.floor.Abandons errand.id
  /-- Once nothing is under way for the payment, it has been made in whole or not at
  all, as the journal says. -/
  settled : final.hall.IsOver errand.id →
    (moved errand.id start events = [] ↔
      ¬ ∃ entry, final.hall.floor.entryOf? errand.id = some entry ∧
        entry.status = .succeeded)

theorem moved_of_spares {events : List Event} (opening : start.IsOpening)
    (ran : runThrough step start events = some clientele)
    (found : clientele.errands[index]? = some errand)
    (spares : clientele.hall.floor.Spares errand.id) :
    moved errand.id start events = [] := by
  have sound := sound_of_runThrough opening ran
  obtain ⟨transfer, sameId, only⟩ := sound.exists_onlyOf found
  rw [← sameId] at spares ⊢
  rw [moved_eq_applied opening ran only]
  exact sound.hall.applied_of_not_settled spares

/-- Nothing but the journal of the house changes. -/
theorem credentials_of_step (stepped : clientele.step event = some next) :
    next.hall.floor.house.credentials = clientele.hall.floor.house.credentials := by
  rcases hall_of_step stepped with ⟨same, -⟩ | ⟨hallEvent, hallStepped, -⟩
  · rw [same]
  · rcases Hall.floorEvent_of_step hallStepped with
      same | ⟨floorEvent, floorStepped, -⟩
    · rw [same]
    · rw [Floor.house_of_step floorStepped]

theorem credentials_of_runThrough {events : List Event}
    (ran : runThrough step start events = some clientele) :
    clientele.counter.house.credentials = start.counter.house.credentials :=
  invariant_of_runThrough
    (fun same stepped => (credentials_of_step stepped).trans same) rfl ran

/-- Both legs of a transfer that has succeeded have been moved, on the order of its
errand. -/
theorem moved_of_succeeded {events : List Event} {entry : JournalEntry}
    (opening : start.IsOpening) (ran : runThrough step start events = some clientele)
    (found : clientele.errands[index]? = some errand)
    (present : clientele.hall.floor.entryOf? errand.id = some entry)
    (succeeded : entry.status = .succeeded) :
    ∃ clock caller,
      start.counter.house.credentials.resolve clock errand.token = .ok caller ∧
      entry.transfer = errand.order.transferOf caller ∧
      moved errand.id start events = entry.transfer.legs := by
  have sound := sound_of_runThrough opening ran
  obtain ⟨number, run, runFound, sameTransfer, sameId, -⟩ := sound.run_of_entry present
  obtain ⟨clock, caller, resolved, isAsked, -⟩ := sound.asked_by found runFound sameId
  rw [credentials_of_runThrough ran] at resolved
  refine ⟨clock, caller, resolved, sameTransfer.symm.trans isAsked, ?_⟩
  obtain ⟨transfer, transferId, only⟩ := sound.exists_onlyOf found
  have isTransfer := only number run runFound (sameId.trans transferId.symm)
  rw [← transferId, moved_eq_applied opening ran only, ← isTransfer, sameTransfer]
  exact sound.hall.applied_of_succeeded present succeeded

theorem moved_iff_of_isClosed {events : List Event} (opening : start.IsOpening)
    (ran : runThrough step start events = some clientele)
    (found : clientele.errands[index]? = some errand)
    (isClosed : clientele.hall.IsOver errand.id) :
    moved errand.id start events = [] ↔
      ¬ ∃ entry, clientele.hall.floor.entryOf? errand.id = some entry ∧
        entry.status = .succeeded := by
  constructor
  · rintro nothing ⟨entry, present, succeeded⟩
    obtain ⟨clock, caller, -, -, both⟩ :=
      moved_of_succeeded opening ran found present succeeded
    rw [nothing] at both
    cases both
  · intro unsuccessful
    apply moved_of_spares opening ran found
    intro entry present
    have final := isClosed entry present
    cases status : entry.status with
    | inProgress =>
        rw [status] at final
        cases final
    | succeeded => exact absurd ⟨entry, present, status⟩ unsuccessful
    | failed => rfl

/-- Whatever happens, and at whatever times: a client that is told of a success has
paid once, and a client that is told of a final failure has not paid and never will,
unless it is told that its token is invalid after a settlement has been left behind. -/
theorem tells_of_runThrough {last final : Clientele} {before after : List Event}
    {result : Except ClientFailure Answer} (opening : start.IsOpening)
    (reached : runThrough step start before = some last)
    (found : last.errands[index]? = some errand) (closed : errand.phase = .closed result)
    (goesOn : runThrough step last after = some final) :
    Tells start (before ++ after) last final errand result := by
  have ran : runThrough step start (before ++ after) = some final := by
    rw [runThrough_append, reached]
    exact goesOn
  have lastSound := sound_of_runThrough opening reached
  have stays : final.errands[index]? = some errand :=
    invariant_of_runThrough (fun found stepped => errand_of_closed found closed stepped)
      found goesOn
  have bears := lastSound.closed index errand result found closed
  constructor
  · rintro answer rfl
    obtain ⟨entry, receipt, present, settled, rfl⟩ :=
      (sound_of_runThrough opening ran).closed index errand _ stays closed
    have wellFormed :=
      ((sound_of_runThrough opening ran).hall.floor.entries _ entry present).2
    cases wellFormed with
    | succeeded transfer settledAt =>
        cases settled
        obtain ⟨clock, caller, resolved, asked, both⟩ :=
          moved_of_succeeded opening ran stays present rfl
        refine ⟨clock, caller, resolved, ?_, asked ▸ both⟩
        rw [← asked]
    | running transfer => cases settled
    | failed transfer failure settledAt storable => cases settled
  · rintro failure rfl
    rcases bears with spares | abandoned
    · left
      have kept : ∀ {state next : Clientele} {event : Event},
          state.Sound ∧ state.errands[index]? = some errand ∧
              state.hall.floor.Spares errand.id →
            state.step event = some next →
              next.Sound ∧ next.errands[index]? = some errand ∧
                next.hall.floor.Spares errand.id := by
        rintro state next event ⟨sound, found, spares⟩ stepped
        exact ⟨sound.step stepped, errand_of_closed found closed stepped,
          sound.spares_of_step found closed spares stepped⟩
      obtain ⟨-, -, spared⟩ :=
        invariant_of_runThrough kept ⟨lastSound, found, spares⟩ goesOn
      exact moved_of_spares opening ran stays spared
    · exact Or.inr abandoned
  · exact fun isClosed => moved_iff_of_isClosed opening ran stays isClosed

/-- A token of the payer.  It is accepted until the hundred and sixtieth second. -/
def sampleToken : String :=
  "eyJhbGciOiJIUzI1NiJ9.eyJzdWIiOiJhIiwicm9sZSI6ImN1c3RvbWVyIiwiZXhwIjoxMDB9." ++
    "IXNbmKYfN3T5dtkWQXLDuvWBQPZQ233wma6yhMvss5o"

/-- A counter that checks signed tokens, two seconds before this one is too old. -/
def sample : Clientele where
  counter :=
    { hall :=
        { Hall.sample with
          floor :=
            { Hall.sample.floor with
              house :=
                { Sample.house with
                  credentials := .signed "s"
                    (.ofUsers
                      [⟨"a", "customer", Sample.payer.account, Sample.payer.bank⟩]) } } }
      clock := 158 }
  errands := []

theorem isOpening_sample : sample.IsOpening where
  hall :=
    { floor := ⟨rfl, rfl⟩
      pauses := fun _ => rfl
      unheld := Sample.hold?_banks
      noLeg := Sample.leg?_banks
      inside := Sample.inside_house }
  errands := rfl

/-- The first attempt waits too long for its settlement, and the second one shows the
token too late. -/
def tooLate : List Event :=
  [.dispatch {} sampleToken Counter.sampleOrder, .attempt 0, .inside (.rest 5000),
    .tick 5, .lapse 0, .inside (.rest 1000), .tick 1, .attempt 0]

/-- The settlement goes on. -/
def carriedOn : List Event :=
  [.inside (.call 0), .inside (.call 0), .inside (.call 0), .inside (.call 0),
    .inside (.conclude 0)]

/-- The client is told that its token is invalid, and pays nevertheless. -/
theorem tells_of_tooLate :
    ∃ last errand final, runThrough step sample tooLate = some last ∧
      last.errands[0]? = some errand ∧
      errand.phase = .closed (.error (.rejected .invalidToken)) ∧
      runThrough step last carriedOn = some final ∧
      Tells sample (tooLate ++ carriedOn) last final errand
        (.error (.rejected .invalidToken)) ∧
      [sample, last, final].map (fun clientele =>
          (clientele.hall.banks.minorOf Sample.payer,
            clientele.hall.banks.minorOf Sample.payee)) =
        [(10000, 100), (10000, 100), (9500, 600)] := by
  have evaluated :
      ((runThrough step sample tooLate).bind fun last =>
        last.errands[0]?.bind fun errand =>
          (runThrough step last carriedOn).map fun final =>
            (errand.phase, [sample, last, final].map fun clientele =>
              (clientele.hall.banks.minorOf Sample.payer,
                clientele.hall.banks.minorOf Sample.payee))) =
        some (.closed (.error (.rejected .invalidToken)),
          [(10000, 100), (10000, 100), (9500, 600)]) := by
    decide +kernel
  obtain ⟨last, reached, evaluated⟩ := Option.bind_eq_some_iff.mp evaluated
  obtain ⟨errand, found, evaluated⟩ := Option.bind_eq_some_iff.mp evaluated
  obtain ⟨final, goesOn, evaluated⟩ := Option.map_eq_some_iff.mp evaluated
  obtain ⟨closed, balances⟩ := Prod.mk.inj evaluated
  exact ⟨last, errand, final, reached, found, closed, goesOn,
    tells_of_runThrough isOpening_sample reached found closed goesOn, balances⟩

end ClearingHouse.Clientele
