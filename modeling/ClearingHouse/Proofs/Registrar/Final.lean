import ClearingHouse.Proofs.Registrar.Basic
import ClearingHouse.Proofs.Floor.Change

/-!
# Registration is final

However the steps of registrations come one after another, the first bank that is
entered under a name is the only one, and keeps its address and its connection for
good.  A connection leads to the bank under whose name it is entered, so the calls of
a settlement go to the banks that the parties name.
-/

namespace ClearingHouse

/-! ## Connections lead to the banks they are made for -/

namespace Connector

variable {registration : Registration} {connection : Connection}

theorem bank_of_http (made : http registration = .ok connection) :
    connection.bank = registration.name := by
  simp only [http] at made
  split at made
  · cases made
    rfl
  · cases made

theorem bank_of_inside {attached : Table String BankName}
    (made : inside attached registration = .ok connection) :
    connection.bank = registration.name := by
  simp only [inside] at made
  split at made
  · cases made
  · rename_i bank _
    split at made
    · rename_i same
      cases made
      exact same
    · cases made

theorem isUsual_http : http.IsUsual := fun _ => Or.inl rfl

theorem isUsual_inside (attached : Table String BankName) : (inside attached).IsUsual :=
  fun _ => Or.inr ⟨attached, rfl⟩

theorem IsUsual.bank_eq {connect : Connector} (usual : connect.IsUsual)
    (made : connect registration = .ok connection) :
    connection.bank = registration.name := by
  rcases usual registration with overHttp | ⟨attached, isInside⟩
  · exact bank_of_http (overHttp ▸ made)
  · exact bank_of_inside (isInside ▸ made)

end Connector

/-- A transfer passes the checks of a house only if the banks of both parties are
registered. -/
theorem House.resolve_of_check {house : House} {transfer : Transfer}
    (passed : house.check transfer = .ok ()) (side : Side) :
    ∃ connection, house.roster.resolve (transfer.party side).bank = .ok connection := by
  have checked := checked_of_check passed
  simp only [check, checked.named, checked.positive, checked.distinct, if_false,
    Bool.false_eq_true] at passed
  cases ofSender : house.roster.resolve transfer.sender.bank with
  | error failure =>
      rw [ofSender] at passed
      cases passed
  | ok senderConnection =>
      cases ofRecipient : house.roster.resolve transfer.recipient.bank with
      | error failure =>
          rw [ofSender, ofRecipient] at passed
          cases passed
      | ok recipientConnection =>
          cases side with
          | debit => exact ⟨senderConnection, ofSender⟩
          | credit => exact ⟨recipientConnection, ofRecipient⟩

namespace Registrar

variable {registrar next : Registrar} {event : Event}

/-! ## Who is registered -/

/-- The banks that have been told so are registered, each under its name with its
address and its connection, and no two of them under one name. -/
structure Sound (registrar : Registrar) : Prop where
  registered : ∀ (number : Nat) (registration : Registration) (connection : Connection),
    registrar.enrolments[number]? = some ⟨registration, .entered connection⟩ →
      Table.find? registrar.roster registration.name =
        some ⟨registration.address, connection⟩
  once : ∀ (first second : Nat) (registration other : Registration)
      (connection otherConnection : Connection),
    registrar.enrolments[first]? = some ⟨registration, .entered connection⟩ →
      registrar.enrolments[second]? = some ⟨other, .entered otherConnection⟩ →
        registration.name = other.name → first = second

theorem sound_opening : opening.Sound where
  registered := by simp [opening]
  once := by simp [opening]

/-- A bank that has been told that it is registered was told so before, or its name was
free until now and it is entered now. -/
theorem entered_of_step (stepped : registrar.step event = some next) {number : Nat}
    {registration : Registration} {connection : Connection}
    (found : next.enrolments[number]? = some ⟨registration, .entered connection⟩) :
    registrar.enrolments[number]? = some ⟨registration, .entered connection⟩ ∨
      (∃ connect, event = .proceed number connect) ∧
        Table.find? registrar.roster registration.name = none ∧
        Table.find? next.roster registration.name =
          some ⟨registration.address, connection⟩ := by
  rcases enrolment_of_step stepped found with
    old | arrived | ⟨connect, phase, isEvent, was, advances⟩
  · exact Or.inl old
  · cases arrived
  · generalize isRoster : next.roster = roster at advances ⊢
    cases advances with
    | stays _ _ notEntered => exact absurd rfl (notEntered connection)
    | enters _ free =>
        refine Or.inr ⟨⟨connect, isEvent⟩, free, ?_⟩
        rw [Table.find?_insert, if_pos rfl]
    | remains => exact Or.inl was

theorem Sound.step (sound : registrar.Sound)
    (stepped : registrar.step event = some next) : next.Sound where
  registered := by
    intro number registration connection found
    rcases entered_of_step stepped found with old | ⟨-, -, now⟩
    · exact find?_of_step stepped (sound.registered _ _ _ old)
    · exact now
  once := by
    intro first second registration other connection otherConnection
      foundFirst foundSecond sameName
    rcases entered_of_step stepped foundFirst with oldFirst | ⟨⟨connect, isFirst⟩, free, -⟩ <;>
      rcases entered_of_step stepped foundSecond with
        oldSecond | ⟨⟨otherConnect, isSecond⟩, otherFree, -⟩
    · exact sound.once _ _ _ _ _ _ oldFirst oldSecond sameName
    · rw [← sameName, sound.registered _ _ _ oldFirst] at otherFree
      cases otherFree
    · rw [sameName, sound.registered _ _ _ oldSecond] at free
      cases free
    · rw [isFirst] at isSecond
      cases isSecond
      rfl

theorem sound_of_runThrough {events : List Event} {final : Registrar}
    (ran : runThrough Registrar.step opening events = some final) : final.Sound :=
  invariant_of_runThrough (fun sound stepped => sound.step stepped) sound_opening ran

/-! ## What lasts through a run -/

section Lasting

variable {events : List Event} {final : Registrar}

theorem find?_of_runThrough {name : BankName} {entry : RosterEntry}
    (registered : Table.find? registrar.roster name = some entry)
    (ran : runThrough Registrar.step registrar events = some final) :
    Table.find? final.roster name = some entry :=
  invariant_of_runThrough
    (fun registered stepped => find?_of_step stepped registered) registered ran

theorem ended_of_runThrough {number : Nat} {enrolment : Enrolment}
    (found : registrar.enrolments[number]? = some enrolment)
    (ended : (∃ connection, enrolment.phase = .entered connection) ∨
      ∃ failure, enrolment.phase = .refused failure)
    (ran : runThrough Registrar.step registrar events = some final) :
    final.enrolments[number]? = some enrolment :=
  invariant_of_runThrough
    (fun found stepped => ended_of_step stepped found ended) found ran

/-- A step that changes the roster is one of a registration that ends well by it. -/
theorem entered_of_roster_ne (stepped : registrar.step event = some next) {number : Nat}
    {connect : Connector} (isStep : event = .proceed number connect)
    (changed : next.roster ≠ registrar.roster) :
    ∃ registration connection,
      next.enrolments[number]? = some ⟨registration, .entered connection⟩ := by
  subst isStep
  cases changes_of_step stepped with
  | proceeds _ _ registration phase roster later was advances =>
      have inside := (List.getElem?_eq_some_iff.mp was).1
      cases advances with
      | stays | remains => exact absurd rfl changed
      | enters connection free =>
          exact ⟨registration, connection, List.getElem?_set_self inside⟩

end Lasting

/-! ## Whose connections are in the roster -/

/-- Every connection, in the roster or on its way there, leads to the bank under whose
name it is or will be entered. -/
structure WellConnected (registrar : Registrar) : Prop where
  roster : ∀ name entry, Table.find? registrar.roster name = some entry →
    entry.connection.bank = name
  entering : ∀ (number : Nat) (registration : Registration) (connection : Connection),
    registrar.enrolments[number]? = some ⟨registration, .entering connection⟩ →
      connection.bank = registration.name

theorem wellConnected_opening : opening.WellConnected where
  roster := by simp [opening, Roster.empty]
  entering := by simp [opening]

theorem WellConnected.step (connected : registrar.WellConnected)
    (usual : ∀ number connect, event = .proceed number connect → connect.IsUsual)
    (stepped : registrar.step event = some next) : next.WellConnected where
  roster := by
    intro name entry registered
    cases changes_of_step stepped with
    | asks registration => exact connected.roster name entry registered
    | proceeds number connect registration phase roster later was advances =>
        cases advances with
        | stays | remains => exact connected.roster name entry registered
        | enters connection free =>
            rw [Table.find?_insert] at registered
            split at registered
            · rename_i same
              cases registered
              exact same ▸ connected.entering number registration connection was
            · exact connected.roster name entry registered
  entering := by
    intro number registration connection found
    rcases enrolment_of_step stepped found with
      old | arrived | ⟨connect, phase, isEvent, -, advances⟩
    · exact connected.entering number registration connection old
    · cases arrived
    · generalize next.roster = roster at advances
      cases advances with
      | stays _ _ _ _ _ _ connects =>
          exact (usual number connect isEvent).bank_eq (connects connection rfl)

theorem wellConnected_of_runThrough {events : List Event} {final : Registrar}
    (usual : AreUsual events)
    (ran : runThrough Registrar.step opening events = some final) :
    final.WellConnected := by
  have allowed : ∀ event ∈ events, ∀ number connect, event = .proceed number connect →
      connect.IsUsual := by
    rintro event member number connect rfl
    exact usual number connect member
  exact invariant_of_runThrough_of_forall
    (fun connected usual stepped => connected.step usual stepped) allowed
    wellConnected_opening ran

/-- Every call of a settlement goes to the bank that the party on its side names. -/
theorem WellConnected.leads (connected : registrar.WellConnected) {house : House}
    (sameRoster : house.roster = registrar.roster) {transfer : Transfer}
    (passed : house.check transfer = .ok ()) (stage : Settlement.Stage) :
    ∃ connection, house.roster.resolve (stage.bank transfer) = .ok connection ∧
      connection.bank = (transfer.party stage.side).bank := by
  obtain ⟨connection, resolved⟩ := House.resolve_of_check passed stage.side
  refine ⟨connection, resolved, ?_⟩
  rw [sameRoster, Roster.resolve] at resolved
  split at resolved
  · rename_i entry registered
    cases resolved
    exact connected.roster _ entry registered
  · cases resolved

/-! ## What banks and payers can rely on -/

/-- What registrations come to.  The run began with an empty roster. -/
structure ForGood (events : List Event) (final : Registrar) : Prop where
  /-- At most one bank of a name has been told that it is registered. -/
  once : ∀ (first second : Nat) (registration other : Registration)
      (connection otherConnection : Connection),
    final.enrolments[first]? = some ⟨registration, .entered connection⟩ →
      final.enrolments[second]? = some ⟨other, .entered otherConnection⟩ →
        registration.name = other.name → first = second
  /-- Once a bank has been told so, its name stands for its connection and its
  address. -/
  lasting : ∀ before after middle, events = before ++ after →
    runThrough Registrar.step opening before = some middle →
      ∀ (number : Nat) (registration : Registration) (connection : Connection),
        middle.enrolments[number]? = some ⟨registration, .entered connection⟩ →
          final.roster.resolve registration.name = .ok connection ∧
            final.roster.address? registration.name = some registration.address
  /-- A registration that was refused has not changed the roster in any of its
  steps. -/
  unchanged : ∀ (number : Nat) (registration : Registration) (failure : TransferFailure),
    final.enrolments[number]? = some ⟨registration, .refused failure⟩ →
      Throughout Registrar.step opening events fun last event next =>
        ∀ connect, event = .proceed number connect → next.roster = last.roster
  /-- A registration is refused only for a name that is blank or taken, or because no
  connection can be made. -/
  reasons : Throughout Registrar.step opening events fun last event next =>
    ∀ number connect registration failure, event = .proceed number connect →
      next.enrolments[number]? = some ⟨registration, .refused failure⟩ →
        last.enrolments[number]? = next.enrolments[number]? ∨
          EnrolmentPhase.Refuses last.roster connect registration failure
  /-- The connection of a name leads to the bank of that name. -/
  named : AreUsual events → ∀ name connection,
    final.roster.resolve name = .ok connection → connection.bank = name
  /-- Every call of a settlement goes to the bank that the party on its side names. -/
  legs : AreUsual events → ∀ (house : House) (transfer : Transfer),
    house.roster = final.roster → house.check transfer = .ok () →
      ∀ stage : Settlement.Stage, ∃ connection,
        house.roster.resolve (stage.bank transfer) = .ok connection ∧
          connection.bank = (transfer.party stage.side).bank

/-- However the registrations of banks come between each other, and whatever names and
addresses they have, a registration is for good. -/
theorem forGood_of_runThrough {events : List Event} {final : Registrar}
    (ran : runThrough Registrar.step opening events = some final) :
    ForGood events final where
  once := (sound_of_runThrough ran).once
  lasting := by
    rintro before after middle rfl reached number registration connection entered
    have registered :=
      (sound_of_runThrough reached).registered number registration connection entered
    rw [runThrough_append, reached] at ran
    have stays := find?_of_runThrough registered ran
    simp only [Roster.resolve, Roster.address?, stays, Option.map_some, and_self]
  unchanged := by
    rintro number registration failure refused before event after last next rfl reached
      stepped connect isStep
    by_contra changed
    obtain ⟨entered, connection, found⟩ := entered_of_roster_ne stepped isStep changed
    -- It would have ended well, and would have stayed so.
    have later := runThrough_of_split ran reached stepped
    rw [ended_of_runThrough found (Or.inl ⟨connection, rfl⟩) later] at refused
    cases refused
  reasons := by
    rintro before event after last next - - stepped number connect registration failure
      rfl found
    rcases enrolment_of_step stepped found with
      old | arrived | ⟨otherConnect, phase, isEvent, was, advances⟩
    · exact Or.inl (old.trans found.symm)
    · cases arrived
    · cases isEvent
      generalize next.roster = roster at advances
      cases advances with
      | stays _ _ _ _ _ refuses _ =>
          rcases refuses failure rfl with same | because
          · exact Or.inl (was.trans (same ▸ found.symm))
          · exact Or.inr because
  named := by
    intro usual name connection resolved
    rw [Roster.resolve] at resolved
    split at resolved
    · rename_i entry registered
      cases resolved
      exact (wellConnected_of_runThrough usual ran).roster name entry registered
    · cases resolved
  legs := fun usual _ _ sameRoster passed stage =>
    (wellConnected_of_runThrough usual ran).leads sameRoster passed stage

/-- The bank `north` is attached at the address `hall`. -/
def insideHall : Connector :=
  Connector.inside (Table.insert Table.empty "hall" ⟨"north"⟩)

/-- Two banks of one name find it free, and both get a connection.  The second one is
entered first.  A third bank has no name. -/
def rivals : List Event :=
  [.ask ⟨⟨"north"⟩, "http://10.0.0.1/"⟩, .ask ⟨⟨"north"⟩, "hall"⟩, .ask ⟨⟨" "⟩, "hall"⟩,
    .proceed 0 .http, .proceed 1 insideHall, .proceed 0 .http, .proceed 2 insideHall,
    .proceed 1 insideHall, .proceed 1 insideHall, .proceed 0 .http]

theorem areUsual_rivals : AreUsual rivals := by
  intro number connect member
  have isOne : connect = .http ∨ connect = insideHall := by
    unfold rivals at member
    generalize insideHall = connector at member ⊢
    generalize Connector.http = other at member ⊢
    simp only [List.mem_cons, reduceCtorEq, Event.proceed.injEq, List.not_mem_nil,
      false_or, or_false] at member
    grind
  rcases isOne with rfl | rfl
  · exact Connector.isUsual_http
  · exact Connector.isUsual_inside _

theorem forGood_of_rivals :
    ∃ final, runThrough Registrar.step opening rivals = some final ∧
      final.enrolments =
        [⟨⟨⟨"north"⟩, "http://10.0.0.1/"⟩, .refused (.alreadyRegistered "north")⟩,
          ⟨⟨⟨"north"⟩, "hall"⟩, .entered (.inside ⟨"north"⟩)⟩,
          ⟨⟨⟨" "⟩, "hall"⟩, .refused (.invalidRequest "bank name is required")⟩] ∧
      AreUsual rivals ∧ ForGood rivals final := by
  have evaluated :
      (runThrough Registrar.step opening rivals).map Registrar.enrolments =
        some [⟨⟨⟨"north"⟩, "http://10.0.0.1/"⟩, .refused (.alreadyRegistered "north")⟩,
          ⟨⟨⟨"north"⟩, "hall"⟩, .entered (.inside ⟨"north"⟩)⟩,
          ⟨⟨⟨" "⟩, "hall"⟩, .refused (.invalidRequest "bank name is required")⟩] := by
    decide +kernel
  obtain ⟨final, ran, outcome⟩ := Option.map_eq_some_iff.mp evaluated
  exact ⟨final, ran, outcome, areUsual_rivals, forGood_of_runThrough ran⟩

end Registrar

end ClearingHouse
