import ClearingHouse.Proofs.Clientele.Basic
import ClearingHouse.Proofs.Floor.Remembered

/-!
# What a result says of a transfer

A client that is told of a success is told what the journal says.  What a client that
is told of a final failure may conclude depends on why it is told so: because the
journal says so, because the house has never taken such an order, or because its token
is no longer valid.  All this stays true as the hall goes on.
-/

namespace ClearingHouse

/-! ## Tokens -/

/-- A token that has been accepted once is accepted as long as it has not expired,
and always with the same claims. -/
theorem Token.verify_of_verify {secret token : String} {now : Nat} {claims : Claims}
    (accepted : verify secret now token = some claims) (later : Nat) :
    verify secret later token =
      if claims.expiry < later - leeway then none else some claims := by
  unfold verify at accepted ⊢
  obtain ⟨⟨message, signed⟩, cut, accepted⟩ := Option.bind_eq_some_iff.mp accepted
  obtain ⟨⟨header, payload⟩, headerCut, accepted⟩ :=
    Option.bind_eq_some_iff.mp accepted
  obtain ⟨headerText, decoded, accepted⟩ := Option.bind_eq_some_iff.mp accepted
  obtain ⟨named, read, accepted⟩ := Option.bind_eq_some_iff.mp accepted
  split at accepted
  · cases accepted
  · rename_i isAlgorithm
    split at accepted
    · cases accepted
    · rename_i isSigned
      obtain ⟨claimsText, claimsDecoded, accepted⟩ :=
        Option.bind_eq_some_iff.mp accepted
      obtain ⟨found, claimsRead, accepted⟩ := Option.bind_eq_some_iff.mp accepted
      split at accepted
      · cases accepted
      · cases accepted
        simp [cut, headerCut, decoded, read, not_not.mp isAlgorithm,
          not_not.mp isSigned, claimsDecoded, claimsRead]

/-- A token that stands for a caller stands for nobody else later, and is not refused
for another reason than being no longer valid. -/
theorem Credentials.resolve_of_resolve {credentials : Credentials} {now : Nat}
    {token : String} {caller : Caller}
    (resolved : credentials.resolve now token = .ok caller) (later : Nat) :
    credentials.resolve later token = .ok caller ∨
      credentials.resolve later token = .error .invalidToken := by
  unfold resolve at resolved ⊢
  by_cases empty : token.isEmpty = true
  · rw [if_pos empty] at resolved
    cases resolved
  · rw [if_neg empty] at resolved ⊢
    cases credentials with
    | listed callers => exact Or.inl resolved
    | signed secret directory =>
        simp only [resolveSigned] at resolved ⊢
        cases accepted : Token.verify secret now token with
        | none =>
            rw [accepted] at resolved
            cases resolved
        | some claims =>
            rw [accepted] at resolved
            rw [Token.verify_of_verify accepted later]
            by_cases expired : claims.expiry < later - Token.leeway
            · rw [if_pos expired]
              exact Or.inr rfl
            · rw [if_neg expired]
              exact Or.inl resolved
/-! ## What a result says of a transfer -/

/-- An errand has asked for this transfer, at some time at which its token stood for
the payer, and the house does not refuse it. -/
def House.Asked (house : House) (errand : Errand) (transfer : Transfer) : Prop :=
  ∃ clock caller, house.credentials.resolve clock errand.token = .ok caller ∧
    transfer = errand.order.transferOf caller ∧ house.check transfer = .ok ()

namespace Floor

/-- The journal knows nothing of a transfer but that it has failed. -/
def Spares (floor : Floor) (id : TransferId) : Prop :=
  ∀ entry, floor.entryOf? id = some entry → entry.status = .failed

/-- Nobody waits for a settlement of a transfer. -/
def Abandons (floor : Floor) (id : TransferId) : Prop :=
  ∃ (number : Nat) (run : SettlementRun), floor.runs[number]? = some run ∧
    run.transfer.id = id ∧ run.awaited = false

/-- What is true of the transfer of an errand that has ended with a result.  A client
that is told of a success is told what the journal says.  A client that is told of a
failure that further attempts will not change is told the truth, unless its token was
no longer valid and a settlement has been left behind. -/
def Bears (floor : Floor) (id : TransferId) : Except ClientFailure Answer → Prop
  | .ok answer => ∃ entry receipt, floor.entryOf? id = some entry ∧
      entry.outcome = some (.ok receipt) ∧ answer = .paid (.ofReceipt receipt)
  | .error (.rejected failure) =>
      floor.Spares id ∨ failure = .invalidToken ∧ floor.Abandons id
  | .error (.timedOut _ _) => True

variable {floor next : Floor} {event : Event} {id : TransferId}

theorem Sound.spares_of_step (sound : floor.Sound) (spares : floor.Spares id)
    (notOrder : ∀ transfer, event = .order transfer → transfer.id ≠ id)
    (stepped : floor.step event = some next) : next.Spares id := by
  intro entry present
  rcases sound.entry_before_step stepped present with
    before | ⟨isOrder, -, sameId⟩ | ⟨number, run, conclusion, -, found, concluding, rfl, -⟩
  · exact spares entry before
  · exact absurd sameId (notOrder _ isOrder)
  · have running := spares _
      (sound.live number run (isLive_of_concluding found concluding))
    cases running

theorem abandons_of_step (abandons : floor.Abandons id)
    (stepped : floor.step event = some next) : next.Abandons id := by
  obtain ⟨number, run, found, sameId, alone⟩ := abandons
  obtain ⟨current, present, sameTransfer, -⟩ := run_after_step stepped found
  refine ⟨number, current, present, by rw [sameTransfer, sameId], ?_⟩
  rw [Bool.eq_false_iff]
  intro awaited
  rw [awaited_of_step stepped found present awaited] at alone
  cases alone

theorem Sound.bears_of_step {result : Except ClientFailure Answer}
    (sound : floor.Sound) (bears : floor.Bears id result)
    (keeps : ∀ retention, event ≠ .sweep retention)
    (notOrder : ∀ transfer, event = .order transfer → transfer.id ≠ id)
    (stepped : floor.step event = some next) : next.Bears id result := by
  cases result with
  | ok answer =>
      obtain ⟨entry, receipt, present, settled, isAnswer⟩ := bears
      have final := (sound.entries _ entry present).2.isFinal_of_outcome settled
      exact ⟨entry, receipt, sound.entryOf?_of_isFinal present final keeps stepped,
        settled, isAnswer⟩
  | error failure =>
      cases failure with
      | timedOut attempts last => trivial
      | rejected failure =>
          rcases bears with spares | ⟨expired, abandons⟩
          · exact Or.inl (sound.spares_of_step spares notOrder stepped)
          · exact Or.inr ⟨expired, abandons_of_step abandons stepped⟩

/-- No settlement is started between two states of a floor, nobody who has gone away
comes back, and what has ended stays as it is. -/
structure Continues (floor next : Floor) : Prop where
  later : ∀ (number : Nat) (run : SettlementRun), floor.runs[number]? = some run →
    ∃ current, next.runs[number]? = some current ∧
      current.transfer = run.transfer ∧
      (current.awaited = true → run.awaited = true) ∧
      ∀ outcome, run.phase = .ended outcome → current.phase = .ended outcome
  former : ∀ (number : Nat) (current : SettlementRun),
    next.runs[number]? = some current → ∃ run, floor.runs[number]? = some run
  house : next.house = { floor.house with journal := next.house.journal }
  remembered : floor.Sound → floor.Remembered → next.Remembered
  bears : floor.Sound → ∀ id result, floor.Bears id result → next.Bears id result

theorem continues_refl (floor : Floor) : Continues floor floor where
  later := fun _ run found => ⟨run, found, rfl, id, fun _ => id⟩
  former := fun _ run found => ⟨run, found⟩
  house := rfl
  remembered := fun _ => id
  bears := fun _ _ _ => id

theorem continues_of_step (stepped : floor.step event = some next)
    (notOrder : ∀ transfer, event ≠ .order transfer)
    (keeps : ∀ retention, event ≠ .sweep retention) : Continues floor next where
  later := by
    intro number run found
    obtain ⟨current, present, sameTransfer, -⟩ := run_after_step stepped found
    refine ⟨current, present, sameTransfer, awaited_of_step stepped found present, ?_⟩
    intro outcome ended
    obtain ⟨later, laterPresent, -, laterEnded⟩ := run_of_ended found ended stepped
    rw [present] at laterPresent
    cases laterPresent
    exact laterEnded
  former := by
    intro number current present
    rcases run_of_step stepped present with ⟨run, found, -⟩ | ⟨isOrder, -⟩
    · exact ⟨run, found⟩
    · exact absurd isOrder (notOrder _)
  house := house_of_step stepped
  remembered := fun sound remembered => remembered.step sound keeps stepped
  bears := fun sound _ _ bears => sound.bears_of_step bears keeps
    (fun _ isOrder => absurd isOrder (notOrder _)) stepped

end Floor

/-- Unless somebody orders something or the journal is swept, a floor goes on with
what it has. -/
theorem Hall.continues_of_step {hall next : Hall} {event : Hall.Event}
    (stepped : hall.step event = some next)
    (notOrder : ∀ transfer, event ≠ .order transfer) (keeps : ¬ event.Forgets true) :
    hall.floor.Continues next.floor := by
  rcases floorEvent_of_step stepped with
    same | ⟨floorEvent, floorStepped, isOrder, isSweep⟩
  · rw [same]
    exact Floor.continues_refl _
  · refine Floor.continues_of_step floorStepped
      (fun transfer same => notOrder transfer (isOrder transfer same)) ?_
    intro retention same
    rw [isSweep retention same] at keeps
    exact keeps trivial

end ClearingHouse
