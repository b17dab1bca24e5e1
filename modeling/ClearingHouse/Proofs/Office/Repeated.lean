import ClearingHouse.Proofs.Office.Basic

/-!
# Repeated calls

A caller that has not heard the answer makes the same call again.  If nobody else has
been served meanwhile, the second call is answered like the first, with as many pauses,
and the bank stays exactly as the first call has left it.
-/

namespace ClearingHouse

namespace Bank

variable {bank next : Bank} {now later : Nat} {order : LegOrder}

/-! ## Orders that are repeated at once -/

theorem commit_acknowledged (accepted : checkOrder order = .ok ())
    (committed : bank.legStatus order.transfer order.side = some .committed) :
    bank.commit now order = (bank, bank.balance order.account) := by
  obtain ⟨record, known, status⟩ := Option.map_eq_some_iff.mp committed
  simp only [commit, accepted, known, status]

/-- The leg that has just been applied is acknowledged with the balance that it left. -/
theorem commit_applying (accepted : checkOrder order = .ok ()) (balance : Amount)
    (record : LegRecord) :
    (bank.applying now order balance record).commit later order =
      (bank.applying now order balance record, .ok balance) := by
  have committed : (bank.applying now order balance record).legStatus order.transfer
      order.side = some .committed := by
    simp [legStatus, LegRecord.settle]
  have found : (bank.applying now order balance record).accounts.find? order.account =
      some ⟨balance, none⟩ := by
    simp
  rw [commit_acknowledged accepted committed]
  simp only [Bank.balance, account_of_find? found, bind, Except.bind, pure, Except.pure]

/-- The time of a commit matters to nothing but the leg that it applies. -/
theorem commit_unchanged_or_applying (bank : Bank) (order : LegOrder) :
    (∃ result, ∀ time, bank.commit time order = (bank, result)) ∨
      checkOrder order = .ok () ∧ ∃ balance record, ∀ time,
        bank.commit time order = (bank.applying time order balance record, .ok balance) := by
  cases accepted : checkOrder order with
  | error refusal =>
      refine Or.inl ⟨.error refusal, fun time => ?_⟩
      simp only [commit, accepted]
  | ok checked =>
      cases known : bank.leg order.transfer order.side with
      | none =>
          refine Or.inl ⟨.error (.violation "commit without prepare"), fun time => ?_⟩
          simp only [commit, accepted, known]
      | some record =>
          cases status : record.status with
          | committed =>
              refine Or.inl ⟨bank.balance order.account, fun time => ?_⟩
              simp only [commit, accepted, known, status]
          | released =>
              refine Or.inl ⟨.error (.violation "commit after release"), fun time => ?_⟩
              simp only [commit, accepted, known, status]
          | prepared =>
              by_cases here : record.account = order.account
              · cases settled : bank.settleHold order.account order.hold with
                | error refusal =>
                    refine Or.inl ⟨.error refusal, fun time => ?_⟩
                    simp only [commit, accepted, known, status, here, if_true, settled]
                | ok pair =>
                    obtain ⟨balance, moved⟩ := pair
                    obtain ⟨account, found, held, fits, rfl⟩ := settleHold_eq_ok settled
                    refine Or.inr ⟨rfl, balance, record, fun time => ?_⟩
                    simp only [commit, accepted, known, status, here, if_true, settled,
                      applying]
              · refine Or.inl ⟨(bank.commit 0 order).2, fun time => ?_⟩
                simp only [commit, accepted, known, status, here, if_false]

theorem commit_again (bank : Bank) (now later : Nat) (order : LegOrder) :
    (bank.commit now order).1.commit later order = bank.commit now order := by
  rcases bank.commit_unchanged_or_applying order with
    ⟨result, unchanged⟩ | ⟨accepted, balance, record, applies⟩
  · rw [unchanged now, unchanged later]
  · rw [applies now]
    exact commit_applying accepted balance record

/-- A transfer that has given up an account does not hold it any more. -/
theorem release_again (bank : Bank) (now later : Nat) (order : ReleaseOrder) :
    (bank.release now order).1.release later order = bank.release now order := by
  cases present : bank.account order.account with
  | error refusal => rw [release_of_unknown now present, release_of_unknown later present]
  | ok account =>
      have found := account_eq_ok present
      by_cases holds : ∃ hold, account.hold = some hold ∧ hold.transfer = order.transfer
      · obtain ⟨hold, held, holder⟩ := holds
        have freed : (bank.releasing now order account).accounts.find? order.account =
            some { account with hold := none } := by
          simp
        rw [release_of_held now found held holder]
        exact release_of_idle later freed (fun hold isHeld => by cases isHeld)
      · have notHeld : ∀ hold, account.hold = some hold →
            hold.transfer ≠ order.transfer :=
          fun hold held holder => holds ⟨hold, held, holder⟩
        rw [release_of_idle now found notHeld, release_of_idle later found notHeld]

/-- An account that is held for the order is simply found held. -/
theorem prepare_retaken {account : Account} (accepted : checkOrder order = .ok ())
    (found : bank.accounts.find? order.account = some account)
    (held : account.hold = some order.hold)
    (known : bank.leg order.transfer order.side = some (.prepared order.account)) :
    bank.prepare order =
      (bank.withLeg order.transfer order.side (.prepared order.account),
        .finished (.ok ())) := by
  have status : bank.legStatus order.transfer order.side = some .prepared := by
    simp [legStatus, known, LegRecord.prepared]
  simp [prepare, accepted, status, attemptPrepare, attemptHold, takeHold,
    account_of_find? found, bind, Except.bind, held]

theorem held_of_takeHold {number : AccountNumber} {hold : Hold} {outcome : HoldOutcome}
    (taken : bank.takeHold number hold = .ok (outcome, next)) :
    ∃ account, next.accounts.find? number = some account ∧ account.hold = some hold := by
  obtain ⟨account, found, ⟨already, rfl⟩ | ⟨free, fits, rfl⟩⟩ := takeHold_eq_ok taken
  · exact ⟨account, found, already⟩
  · exact ⟨{ account with hold := some hold }, by simp [withAccount], rfl⟩

/-- An order to prepare waits while another transfer holds its account. -/
structure Waits (bank : Bank) (order : LegOrder) : Prop where
  accepted : checkOrder order = .ok ()
  unsettled : bank.legStatus order.transfer order.side ≠ some .committed
  busy : bank.takeHold order.account order.hold = .error .busy

theorem Waits.resume (waits : bank.Waits order) (number : Nat) :
    bank.resume number (.prepare order) =
      if number < bank.allowedAttempts then
        (bank, .again (bank.policy.backoff * number) (number + 1))
      else (bank, .finished (.error .busy)) := by
  by_cases early : number < bank.allowedAttempts <;>
    simp [Bank.resume, attemptPrepare, attemptHold, waits.busy, early, Attempt.map]

theorem Waits.serve (waits : bank.Waits order) :
    bank.serve now (.prepare order) = bank.resume 1 (.prepare order) := by
  simp only [Bank.serve, receive, prepare, waits.accepted, waits.unsettled, if_false,
    Bank.resume]

/-- A prepare that need not wait is answered at once, and answered the same again. -/
theorem waits_or_prepare_again (bank : Bank) (order : LegOrder) :
    bank.Waits order ∨ ∃ next result, bank.prepare order = (next, .finished result) ∧
      next.prepare order = (next, .finished result) := by
  cases accepted : checkOrder order with
  | error refusal =>
      have refused : bank.prepare order = (bank, .finished (.error refusal)) := by
        simp only [prepare, accepted]
      exact Or.inr ⟨_, _, refused, refused⟩
  | ok checked =>
      by_cases settled : bank.legStatus order.transfer order.side = some .committed
      · have known : bank.prepare order = (bank, .finished (.ok ())) := by
          simp only [prepare, accepted, settled, if_true]
        exact Or.inr ⟨_, _, known, known⟩
      · have first : bank.prepare order = bank.attemptPrepare order 1 := by
          simp only [prepare, accepted, settled, if_false]
        cases taken : bank.takeHold order.account order.hold with
        | error refusal =>
            by_cases busy : refusal = .busy
            · exact Or.inl ⟨accepted, settled, by rw [taken, busy]⟩
            · have refused : bank.prepare order = (bank, .finished (.error refusal)) := by
                simp [first, attemptPrepare, attemptHold, taken, busy]
              exact Or.inr ⟨_, _, refused, refused⟩
        | ok pair =>
            obtain ⟨outcome, held⟩ := pair
            have done : bank.prepare order =
                (held.withLeg order.transfer order.side (.prepared order.account),
                  .finished (.ok ())) := by
              simp only [first, attemptPrepare, attemptHold, taken]
            obtain ⟨account, found, isHeld⟩ := held_of_takeHold taken
            have repeated := @prepare_retaken
              (held.withLeg order.transfer order.side (.prepared order.account)) order
              account accepted found isHeld (by simp)
            rw [withLeg_withLeg] at repeated
            exact Or.inr ⟨_, _, done, repeated⟩

/-- A call that need not wait is answered at once, and answered the same again. -/
theorem waits_or_serve_again (bank : Bank) (now : Nat) (call : BankCall) :
    (∃ order, call = .prepare order ∧ bank.Waits order) ∨
      ∃ next result, bank.serve now call = (next, .finished result) ∧
        ∀ later, next.serve later call = (next, .finished result) := by
  cases call with
  | prepare order =>
      rcases bank.waits_or_prepare_again order with waits | ⟨next, result, once, twice⟩
      · exact Or.inl ⟨order, rfl, waits⟩
      · right
        refine ⟨next, result.map fun _ => .done, ?_, fun later => ?_⟩
        · cases result <;> simp only [serve, receive, once] <;> rfl
        · cases result <;> simp only [serve, receive, twice] <;> rfl
  | commit order =>
      right
      refine ⟨(bank.commit now order).1, (bank.commit now order).2.map .balance, rfl, ?_⟩
      intro later
      change (((bank.commit now order).1.commit later order).1, Attempt.finished
        (((bank.commit now order).1.commit later order).2.map BankReply.balance)) = _
      rw [commit_again]
  | release order =>
      right
      refine ⟨(bank.release now order).1, (bank.release now order).2.map fun _ => .done,
        rfl, ?_⟩
      intro later
      change (((bank.release now order).1.release later order).1, Attempt.finished
        (((bank.release now order).1.release later order).2.map fun _ =>
          BankReply.done)) = _
      rw [release_again]
  | balance number => exact Or.inr ⟨bank, _, rfl, fun _ => rfl⟩

end Bank

namespace Office

variable {office : Office} {ticket : Nat} {call : BankCall} {order : LegOrder}

/-- The caller goes on after every pause. -/
def goingOn (ticket : Nat) (pauses : List Nat) : List Event :=
  pauses.flatMap fun pause => [.rest pause, .resume ticket]

/-- A call from the first turn to the last, with nobody else served meanwhile. -/
def visit (ticket : Nat) (call : BankCall) (pauses : List Nat) : List Event :=
  .call ticket call :: goingOn ticket pauses

/-- The events happen, and lead to the answer to one call. -/
structure Ends (office : Office) (events : List Event) (ticket : Nat)
    (result : Except Refusal BankReply) (final : Office) : Prop where
  ran : runThrough step office events = some final
  answered : final.calls.find? ticket = some (.answered result)
  others : ∀ other, other ≠ ticket → final.calls.find? other = office.calls.find? other

theorem ends_visit_of_served {next : Bank} {result : Except Refusal BankReply}
    (unused : office.calls.find? ticket = none)
    (served : office.bank.serve office.now call = (next, .finished result)) :
    ∃ final, office.Ends (visit ticket call []) ticket result final ∧
      final.bank = next := by
  have stepped : office.step (.call ticket call) =
      some (office.turned ticket call (next, .finished result)) := by
    simp only [step, unused, served]
  refine ⟨_, ⟨runThrough_of_step stepped, ?_, ?_⟩, rfl⟩
  · rw [find?_turned, CallPhase.after]
  · intro other apart
    exact office.find?_turned_of_ne apart _ _

/-- A prepare that goes on waiting is refused after the last attempt. -/
theorem ends_goingOn_of_waits (waits : office.bank.Waits order) {number : Nat}
    {pauses : List Nat} (left : number + pauses.length = office.bank.allowedAttempts) :
    ∃ final, (office.turned ticket (.prepare order)
        (office.bank.resume number (.prepare order))).Ends
        (goingOn ticket pauses) ticket (.error .busy) final ∧
      final.bank = office.bank := by
  induction pauses generalizing office number with
  | nil =>
      have last : ¬ number < office.bank.allowedAttempts := by
        simp only [List.length_nil] at left
        omega
      refine ⟨_, ⟨rfl, ?_, fun _ _ => rfl⟩, ?_⟩ <;>
        simp [turned, waits.resume, last, CallPhase.after]
  | cons pause pauses ih =>
      simp only [List.length_cons] at left
      have early : number < office.bank.allowedAttempts := by omega
      let waiting : Office :=
        { office with
          calls := office.calls.insert ticket (.pausing (.prepare order) (number + 1))
          now := office.now + pause }
      have turn : office.turned ticket (.prepare order)
          (office.bank.resume number (.prepare order)) =
          { waiting with now := office.now } := by
        simp only [turned, waits.resume, early, if_true, CallPhase.after, waiting]
      obtain ⟨final, ends, same⟩ := @ih waiting waits (number + 1) (by
        change _ = office.bank.allowedAttempts
        omega)
      have goesOn : runThrough step { waiting with now := office.now }
          (goingOn ticket (pause :: pauses)) =
          runThrough step (waiting.turned ticket (.prepare order)
            (waiting.bank.resume (number + 1) (.prepare order)))
            (goingOn ticket pauses) := by
        simp [goingOn, runThrough, step, waiting]
      rw [turn]
      refine ⟨final, ⟨goesOn.trans ends.ran, ends.answered, ?_⟩, same⟩
      intro other apart
      rw [ends.others other apart, waiting.find?_turned_of_ne apart]

theorem ends_visit_of_waits (unused : office.calls.find? ticket = none)
    (waits : office.bank.Waits order) {pauses : List Nat}
    (length : pauses.length + 1 = office.bank.allowedAttempts) :
    ∃ final, office.Ends (visit ticket (.prepare order) pauses) ticket (.error .busy)
        final ∧
      final.bank = office.bank := by
  obtain ⟨final, ends, same⟩ := @ends_goingOn_of_waits office ticket order waits 1 pauses
    (by omega)
  have called : office.step (.call ticket (.prepare order)) =
      some (office.turned ticket (.prepare order)
        (office.bank.resume 1 (.prepare order))) := by
    simp only [step, unused, waits.serve]
  refine ⟨final, ⟨?_, ends.answered, ?_⟩, same⟩
  · simp only [visit, runThrough, called]
    exact ends.ran
  · intro other apart
    rw [ends.others other apart, office.find?_turned_of_ne apart]

/-- A call that is made twice takes as many pauses the second time, and is answered the
same, and the bank stays as it is. -/
def RepeatsAlike (office : Office) (call : BankCall) (first second : Nat) : Prop :=
  ∃ count result, ∀ pauses rest laterPauses,
    pauses.length = count → laterPauses.length = count →
    ∃ once twice,
      office.Ends (visit first call pauses) first result once ∧
      once.Ends (.rest rest :: visit second call laterPauses) second result twice ∧
      twice.bank = once.bank

theorem Ends.rest {events : List Event} {result : Except Refusal BankReply}
    {final : Office} {rest : Nat}
    (ends : Ends { office with now := office.now + rest } events ticket result final) :
    office.Ends (.rest rest :: events) ticket result final :=
  ⟨ends.ran, ends.answered, ends.others⟩

theorem repeatsAlike_of_unused (call : BankCall) {first second : Nat}
    (unused : office.calls.find? first = none)
    (alsoUnused : office.calls.find? second = none) (distinct : second ≠ first) :
    office.RepeatsAlike call first second := by
  rcases office.bank.waits_or_serve_again office.now call with
    ⟨order, rfl, waits⟩ | ⟨next, result, served, again⟩
  · refine ⟨office.bank.allowedAttempts - 1, .error .busy, ?_⟩
    intro pauses rest laterPauses length laterLength
    have positive : 0 < office.bank.allowedAttempts :=
      Nat.lt_of_lt_of_le Nat.one_pos (Nat.le_max_right _ 1)
    obtain ⟨once, ends, same⟩ := @ends_visit_of_waits office first order unused waits
      pauses (by omega)
    have stillUnused : once.calls.find? second = none :=
      (ends.others second distinct).trans alsoUnused
    rw [← same] at waits positive laterLength
    obtain ⟨twice, endsAgain, sameAgain⟩ := @ends_visit_of_waits
      { once with now := once.now + rest } second order stillUnused waits laterPauses (by
        change _ = once.bank.allowedAttempts
        omega)
    exact ⟨once, twice, ends, endsAgain.rest, sameAgain⟩
  · refine ⟨0, result, ?_⟩
    intro pauses rest laterPauses length laterLength
    obtain rfl := List.eq_nil_of_length_eq_zero length
    obtain rfl := List.eq_nil_of_length_eq_zero laterLength
    obtain ⟨once, ends, same⟩ := @ends_visit_of_served office first call next result unused
      served
    have stillUnused : once.calls.find? second = none :=
      (ends.others second distinct).trans alsoUnused
    obtain ⟨twice, endsAgain, sameAgain⟩ := @ends_visit_of_served
      { once with now := once.now + rest } second call next result stillUnused (by
        rw [same]
        exact again _)
    exact ⟨once, twice, ends, endsAgain.rest, sameAgain.trans same.symm⟩

/-- A transfer that waits for the account of another one is refused twice. -/
theorem repeatsAlike_of_held :
    ∃ held, runThrough step quietOffice [.call 0 (.prepare (debitFor "t0"))] = some held ∧
      held.calls.find? 0 = some (.answered (.ok .done)) ∧
      held.calls.find? 1 = none ∧ held.calls.find? 2 = none ∧
      held.RepeatsAlike (.prepare (debitFor "t1")) 1 2 := by
  have evaluated :
      (runThrough step quietOffice [.call 0 (.prepare (debitFor "t0"))]).map (fun held =>
        (held.calls.find? 0, held.calls.find? 1, held.calls.find? 2)) =
      some (some (.answered (.ok .done)), none, none) := by
    decide +kernel
  obtain ⟨held, ran, outcome⟩ := Option.map_eq_some_iff.mp evaluated
  simp only [Prod.mk.injEq] at outcome
  obtain ⟨holds, unused, alsoUnused⟩ := outcome
  exact ⟨held, ran, holds, unused, alsoUnused,
    repeatsAlike_of_unused _ unused alsoUnused (by decide)⟩

end Office

end ClearingHouse
