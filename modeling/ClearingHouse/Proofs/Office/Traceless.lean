import ClearingHouse.Proofs.Office.Basic

/-!
# Refused calls leave no trace

A call that is refused has had one turn or several, with any other calls between them.
It has written nothing in any of them.  So the bank is as the others have left it, and
they have been answered as if the call had never been made.
-/

namespace ClearingHouse.Office

/-- Two offices differ at most in what has become of one call. -/
structure AgreesApart (first second : Office) (ticket : Nat) : Prop where
  bank : first.bank = second.bank
  now : first.now = second.now
  calls : ∀ other, other ≠ ticket →
    first.calls.find? other = second.calls.find? other

variable {start office next other final : Office} {event : Event}
  {events : List Event} {ticket : Nat} {result : Except Refusal BankReply}

theorem AgreesApart.turned (agree : office.AgreesApart other ticket) (own : Nat)
    (call : BankCall) (turn : Bank × Bank.Attempt BankReply) :
    (office.turned own call turn).AgreesApart (other.turned own call turn) ticket where
  bank := rfl
  now := agree.now
  calls := by
    intro third apart
    simp only [Office.turned, Table.find?_insert, agree.calls third apart]

/-- The steps of all other calls go on in the same way. -/
theorem AgreesApart.step (agree : office.AgreesApart other ticket)
    (foreign : event.ticket? ≠ some ticket) (stepped : office.step event = some next) :
    ∃ later, other.step event = some later ∧ next.AgreesApart later ticket := by
  cases event with
  | call own call =>
      have same := agree.calls own (fun here => foreign (congrArg some here))
      simp only [Office.step, same, agree.bank, agree.now] at stepped ⊢
      split at stepped <;> cases stepped
      exact ⟨_, rfl, agree.turned own call _⟩
  | resume own =>
      have same := agree.calls own (fun here => foreign (congrArg some here))
      simp only [Office.step, same, agree.bank] at stepped ⊢
      split at stepped <;> cases stepped
      exact ⟨_, rfl, agree.turned own _ _⟩
  | drop own =>
      have same := agree.calls own (fun here => foreign (congrArg some here))
      simp only [Office.step, same] at stepped ⊢
      split at stepped <;> cases stepped
      refine ⟨_, rfl, agree.bank, agree.now, ?_⟩
      intro third apart
      simp only [Table.find?_insert, agree.calls third apart]
  | sweep retention =>
      cases stepped
      refine ⟨_, rfl, ?_, agree.now, agree.calls⟩
      simp only [agree.bank, agree.now]
  | rest milliseconds =>
      cases stepped
      refine ⟨_, rfl, agree.bank, ?_, agree.calls⟩
      simp only [agree.now]

/-- A step of the call itself changes nothing for the others if it writes nothing. -/
theorem AgreesApart.of_own_step (agree : office.AgreesApart other ticket)
    (own : event.ticket? = some ticket) (stepped : office.step event = some next)
    (silent : next.bank = office.bank) : next.AgreesApart other ticket := by
  cases changes_of_step stepped with
  | turns _ mine call turn isOwn unanswered writes =>
      obtain rfl : mine = ticket := Option.some.inj (isOwn.symm.trans own)
      refine ⟨silent.trans agree.bank, agree.now, ?_⟩
      intro third apart
      rw [office.find?_turned_of_ne apart, agree.calls third apart]
  | drops mine unanswered =>
      obtain rfl : mine = ticket := Option.some.inj own
      refine ⟨agree.bank, agree.now, ?_⟩
      intro third apart
      simp [apart.symm, agree.calls third apart]
  | passes _ bank now nobody =>
      rw [nobody] at own
      cases own

theorem answered_of_runThrough
    (answered : office.calls.find? ticket = some (.answered result))
    (ran : runThrough step office events = some final) :
    final.calls.find? ticket = some (.answered result) :=
  @invariant_of_runThrough Office Event step
    (fun office => office.calls.find? ticket = some (.answered result))
    (fun answered stepped => answered_of_step answered stepped) events office final
    answered ran

/-- A call that does not succeed in the end has not written anything. -/
theorem silent_of_step (own : event.ticket? = some ticket)
    (stepped : office.step event = some next)
    (ran : runThrough step next events = some final)
    (fails : ∀ reply, final.calls.find? ticket ≠ some (.answered (.ok reply))) :
    next.bank = office.bank := by
  rcases succeeds_of_step own stepped with same | ⟨reply, succeeded⟩
  · exact same
  · exact absurd (answered_of_runThrough succeeded ran) (fails reply)

/-- The events of a run that belong to others than one call. -/
def eventsOfOthers (ticket : Nat) (events : List Event) : List Event :=
  events.filter fun event => event.ticket? ≠ some ticket

/-- Without a call that does not succeed, the run of the others leads to the same. -/
theorem exists_runThrough_eventsOfOthers (agree : office.AgreesApart other ticket)
    (ran : runThrough step office events = some final)
    (fails : ∀ reply, final.calls.find? ticket ≠ some (.answered (.ok reply))) :
    ∃ last, runThrough step other (eventsOfOthers ticket events) = some last ∧
      final.AgreesApart last ticket := by
  induction events generalizing office other with
  | nil =>
      cases ran
      exact ⟨other, rfl, agree⟩
  | cons event events ih =>
      obtain ⟨next, stepped, rest⟩ := runThrough_cons_eq_some ran
      by_cases own : event.ticket? = some ticket
      · have silent := silent_of_step own stepped rest fails
        obtain ⟨last, reached, agrees⟩ :=
          ih (agree.of_own_step own stepped silent) rest
        refine ⟨last, ?_, agrees⟩
        simpa [eventsOfOthers, own] using reached
      · obtain ⟨later, otherStepped, agreeNext⟩ := agree.step own stepped
        obtain ⟨last, reached, agrees⟩ := ih agreeNext rest
        refine ⟨last, ?_, agrees⟩
        simpa [eventsOfOthers, own, runThrough, otherStepped] using reached

/-- A call has left no trace in a run. -/
structure Traceless (start : Office) (events : List Event) (final : Office)
    (ticket : Nat) : Prop where
  /-- No turn of the call has written anything to the bank. -/
  silent : Throughout step start events fun office event next =>
    event.ticket? = some ticket → next.bank = office.bank
  /-- Without the call, the others leave the same bank, and are answered the same. -/
  apart : ∃ last, runThrough step start (eventsOfOthers ticket events) = some last ∧
    final.AgreesApart last ticket

/-- A call that is refused leaves no trace, whatever the bank was before and whatever
others have done between its turns. -/
theorem traceless_of_runThrough {refusal : Refusal}
    (ran : runThrough step start events = some final)
    (refused : final.calls.find? ticket = some (.answered (.error refusal))) :
    Traceless start events final ticket := by
  have fails : ∀ reply, final.calls.find? ticket ≠ some (.answered (.ok reply)) := by
    intro reply succeeded
    rw [refused] at succeeded
    cases succeeded
  constructor
  · rintro before event after office next rfl reached stepped own
    exact silent_of_step own stepped (runThrough_of_split ran reached stepped) fails
  · exact exists_runThrough_eventsOfOthers ⟨rfl, rfl, fun _ _ => rfl⟩ ran fails

/-- The second call waits until the first transfer has been committed, and is too late
again.  The last call wants to commit what nobody has prepared. -/
def overtaken : List Event :=
  [.call 0 (.prepare (debitFor "t0")), .call 1 (.prepare (debitFor "t1")),
    .call 2 (.commit (debitFor "t0")), .call 3 (.prepare (debitFor "t2")), .rest 100,
    .resume 1, .call 4 (.commit (debitFor "t1"))]

theorem traceless_of_overtaken :
    ∃ final, runThrough step quietOffice overtaken = some final ∧
      final.calls.find? 1 = some (.answered (.error .busy)) ∧
      Traceless quietOffice overtaken final 1 ∧
      final.calls.find? 4 =
        some (.answered (.error (.violation "commit without prepare"))) ∧
      Traceless quietOffice overtaken final 4 := by
  have evaluated :
      (runThrough step quietOffice overtaken).map (fun final =>
        (final.calls.find? 1, final.calls.find? 4)) =
      some (some (.answered (.error .busy)),
        some (.answered (.error (.violation "commit without prepare")))) := by
    decide +kernel
  obtain ⟨final, ran, outcome⟩ := Option.map_eq_some_iff.mp evaluated
  obtain ⟨busy, unprepared⟩ := Prod.mk.inj outcome
  exact ⟨final, ran, busy, traceless_of_runThrough ran busy, unprepared,
    traceless_of_runThrough ran unprepared⟩

end ClearingHouse.Office
