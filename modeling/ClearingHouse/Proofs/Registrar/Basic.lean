import ClearingHouse.House
import ClearingHouse.Proofs.RunThrough

/-!
# Banks that register

Any number of banks register at once, with any names and addresses.  A registration
looks whether the name is free, then makes a connection, and then enters the bank in
the roster.  Between two of these steps other registrations make any of theirs, so
that several may have found the same name free.
-/

namespace ClearingHouse

inductive EnrolmentPhase where
  /-- The name has not been looked up yet. -/
  | arrived
  /-- The name was free when it was looked up. -/
  | connecting
  /-- The connection is made, and the bank is not in the roster yet. -/
  | entering (connection : Connection)
  /-- The bank was told that it is registered. -/
  | entered (connection : Connection)
  /-- The bank was told that it is not registered. -/
  | refused (failure : TransferFailure)
  deriving DecidableEq

structure Enrolment where
  registration : Registration
  phase : EnrolmentPhase
  deriving DecidableEq

/-- The roster of a clearing house, with the registrations that have been asked for. -/
structure Registrar where
  roster : Roster
  /-- All registrations, earliest first. -/
  enrolments : List Enrolment

/-- Make the next step of a registration.  One that has ended stays as it is. -/
def EnrolmentPhase.advance (roster : Roster) (connect : Connector)
    (registration : Registration) : EnrolmentPhase → Roster × EnrolmentPhase
  | .arrived =>
      if registration.name.isBlank then
        (roster, .refused (.invalidRequest "bank name is required"))
      else if Table.contains roster registration.name then
        (roster, .refused (.alreadyRegistered registration.name.text))
      else (roster, .connecting)
  | .connecting =>
      match connect registration with
      | .ok connection => (roster, .entering connection)
      | .error failure => (roster, .refused failure)
  | .entering connection =>
      match roster.add registration.name ⟨registration.address, connection⟩ with
      | .ok later => (later, .entered connection)
      | .error failure => (roster, .refused failure)
  | .entered connection => (roster, .entered connection)
  | .refused failure => (roster, .refused failure)

/-- A connector that reaches every bank over HTTP or in the same program.  Which
banks are attached there may differ from one registration to the next. -/
def Connector.IsUsual (connect : Connector) : Prop :=
  ∀ registration, connect registration = Connector.http registration ∨
    ∃ attached, connect registration = Connector.inside attached registration

namespace Registrar

def opening : Registrar := ⟨Roster.empty, []⟩

inductive Event where
  | ask (registration : Registration)
  /-- A registration makes its next step.  If that is to make a connection, the
  connector makes it. -/
  | proceed (number : Nat) (connect : Connector)

def step (registrar : Registrar) : Event → Option Registrar
  | .ask registration =>
      some { registrar with
        enrolments := registrar.enrolments ++ [⟨registration, .arrived⟩] }
  | .proceed number connect =>
      match registrar.enrolments[number]? with
      | some ⟨registration, phase⟩ =>
          let (roster, later) := phase.advance registrar.roster connect registration
          some ⟨roster, registrar.enrolments.set number ⟨registration, later⟩⟩
      | none => none

def AreUsual (events : List Event) : Prop :=
  ∀ number connect, .proceed number connect ∈ events → connect.IsUsual

end Registrar

/-! ## What a step does -/

namespace EnrolmentPhase

variable {roster : Roster} {connect : Connector} {registration : Registration}

/-- Make all steps of a registration with nothing between them. -/
def undisturbed (roster : Roster) (connect : Connector) (registration : Registration) :
    Roster × EnrolmentPhase :=
  let looked := arrived.advance roster connect registration
  let connected := looked.2.advance looked.1 connect registration
  connected.2.advance connected.1 connect registration

/-- Without others between its steps, a registration is the registration of a bank at
the house, which is one step. -/
theorem register_eq_undisturbed (roster : Roster) (connect : Connector)
    (registration : Registration) :
    roster.register connect registration =
      match undisturbed roster connect registration with
      | (_, .refused failure) => .error failure
      | (later, _) => .ok later := by
  unfold undisturbed Roster.register
  by_cases blank : registration.name.isBlank = true
  · simp [advance, blank]
  · by_cases taken : Table.contains roster registration.name = true
    · simp [advance, blank, taken]
    · cases made : connect registration with
      | error failure => simp [advance, blank, taken, made]
      | ok connection => simp [advance, Roster.add, blank, taken, made]

/-- Why a registration is refused. -/
inductive Refuses (roster : Roster) (connect : Connector) (registration : Registration) :
    TransferFailure → Prop where
  | blank (isBlank : registration.name.isBlank = true) :
      Refuses roster connect registration (.invalidRequest "bank name is required")
  | taken (registered : Table.contains roster registration.name = true) :
      Refuses roster connect registration (.alreadyRegistered registration.name.text)
  | unconnected (failure : TransferFailure) (failed : connect registration = .error failure) :
      Refuses roster connect registration failure

/-- Only entering a bank under a free name changes the roster. -/
inductive Advances (roster : Roster) (connect : Connector)
    (registration : Registration) : EnrolmentPhase → Roster × EnrolmentPhase → Prop where
  /-- The registration goes on, or is refused. -/
  | stays (phase later : EnrolmentPhase)
      (notEntered : ∀ connection, later ≠ .entered connection)
      (notEnded : ∀ connection, phase ≠ .entered connection)
      (final : ∀ failure, phase = .refused failure → later = phase)
      (refuses : ∀ failure, later = .refused failure →
        phase = later ∨ Refuses roster connect registration failure)
      (connects : ∀ connection, later = .entering connection →
        connect registration = .ok connection) :
      Advances roster connect registration phase (roster, later)
  | enters (connection : Connection)
      (free : Table.find? roster registration.name = none) :
      Advances roster connect registration (.entering connection)
        (Table.insert roster registration.name ⟨registration.address, connection⟩,
          .entered connection)
  | remains (connection : Connection) :
      Advances roster connect registration (.entered connection)
        (roster, .entered connection)

/-- A registration that is refused has not ended well, and nothing changes. -/
theorem Advances.refuse {phase : EnrolmentPhase} {failure : TransferFailure}
    (notEntered : ∀ connection, phase ≠ .entered connection)
    (notRefused : ∀ failure, phase ≠ .refused failure)
    (refuses : Refuses roster connect registration failure) :
    Advances roster connect registration phase (roster, .refused failure) := by
  refine .stays phase _ nofun notEntered ?_ ?_ nofun
  · intro other refused
    exact absurd refused (notRefused other)
  · rintro _ ⟨⟩
    exact Or.inr refuses

theorem advances_advance (phase : EnrolmentPhase) :
    Advances roster connect registration phase
      (phase.advance roster connect registration) := by
  cases phase with
  | arrived =>
      simp only [advance]
      split
      · rename_i blank
        exact .refuse nofun nofun (.blank blank)
      · split
        · rename_i taken
          exact .refuse nofun nofun (.taken taken)
        · exact .stays _ _ nofun nofun nofun nofun nofun
  | connecting =>
      simp only [advance]
      split
      · rename_i connection made
        refine .stays _ _ nofun nofun nofun nofun ?_
        rintro _ ⟨⟩
        exact made
      · rename_i failure failed
        exact .refuse nofun nofun (.unconnected failure failed)
  | entering connection =>
      simp only [advance, Roster.add]
      by_cases taken : Table.contains roster registration.name = true
      · simp only [taken, if_true]
        exact .refuse nofun nofun (.taken taken)
      · simp only [taken, if_false, Bool.false_eq_true]
        refine .enters connection ?_
        simpa [Table.contains] using taken
  | entered connection => exact .remains connection
  | refused failure =>
      refine .stays _ _ nofun nofun (fun _ _ => rfl) ?_ nofun
      rintro _ ⟨⟩
      exact Or.inl rfl

end EnrolmentPhase

namespace Registrar

variable {registrar next : Registrar} {event : Event}

inductive Changes (registrar : Registrar) : Event → Registrar → Prop where
  | asks (registration : Registration) :
      Changes registrar (.ask registration)
        { registrar with
          enrolments := registrar.enrolments ++ [⟨registration, .arrived⟩] }
  | proceeds (number : Nat) (connect : Connector) (registration : Registration)
      (phase : EnrolmentPhase) (roster : Roster) (later : EnrolmentPhase)
      (found : registrar.enrolments[number]? = some ⟨registration, phase⟩)
      (advances : phase.Advances registrar.roster connect registration (roster, later)) :
      Changes registrar (.proceed number connect)
        ⟨roster, registrar.enrolments.set number ⟨registration, later⟩⟩

theorem changes_of_step (stepped : registrar.step event = some next) :
    Changes registrar event next := by
  cases event with
  | ask registration =>
      cases stepped
      exact .asks registration
  | proceed number connect =>
      simp only [step] at stepped
      split at stepped
      · rename_i registration phase found
        cases stepped
        exact .proceeds number connect registration phase _ _ found
          (EnrolmentPhase.advances_advance phase)
      · cases stepped

/-- A bank that is in the roster stays there as it is. -/
theorem find?_of_step (stepped : registrar.step event = some next) {name : BankName}
    {entry : RosterEntry} (registered : Table.find? registrar.roster name = some entry) :
    Table.find? next.roster name = some entry := by
  cases changes_of_step stepped with
  | asks registration => exact registered
  | proceeds number connect registration phase roster later found advances =>
      cases advances with
      | stays | remains => exact registered
      | enters connection free =>
          by_cases same : registration.name = name
          · rw [same, registered] at free
            cases free
          · simpa [same] using registered

/-- What the registration with a number was, or whether it is a new one. -/
theorem enrolment_of_step (stepped : registrar.step event = some next) {number : Nat}
    {enrolment : Enrolment} (found : next.enrolments[number]? = some enrolment) :
    registrar.enrolments[number]? = some enrolment ∨
      enrolment.phase = .arrived ∨
      ∃ connect phase, event = .proceed number connect ∧
        registrar.enrolments[number]? = some ⟨enrolment.registration, phase⟩ ∧
        phase.Advances registrar.roster connect enrolment.registration
          (next.roster, enrolment.phase) := by
  cases changes_of_step stepped with
  | asks registration =>
      rcases eq_or_eq_of_getElem?_append found with old | ⟨-, rfl⟩
      · exact Or.inl old
      · exact Or.inr (Or.inl rfl)
  | proceeds other connect registration phase roster later was advances =>
      rcases eq_or_of_getElem?_set found with ⟨rfl, rfl⟩ | old
      · exact Or.inr (Or.inr ⟨connect, phase, rfl, was, advances⟩)
      · exact Or.inl old

/-- A registration that has ended stays as it is. -/
theorem ended_of_step (stepped : registrar.step event = some next) {number : Nat}
    {enrolment : Enrolment} (found : registrar.enrolments[number]? = some enrolment)
    (ended : (∃ connection, enrolment.phase = .entered connection) ∨
      ∃ failure, enrolment.phase = .refused failure) :
    next.enrolments[number]? = some enrolment := by
  cases changes_of_step stepped with
  | asks registration => exact getElem?_append_of_some found _
  | proceeds other connect registration phase roster later was advances =>
      by_cases here : other = number
      · subst here
        rw [was] at found
        cases found
        have inside := (List.getElem?_eq_some_iff.mp was).1
        have same : later = phase := by
          rcases ended with ⟨connection, rfl⟩ | ⟨failure, rfl⟩
          · cases advances with
            | stays _ _ _ notEnded => exact absurd rfl (notEnded connection)
            | remains => rfl
          · cases advances with
            | stays _ _ _ _ final => exact final failure rfl
        rw [same, List.getElem?_set_self inside]
      · rw [List.getElem?_set_ne here]
        exact found

end Registrar

end ClearingHouse
