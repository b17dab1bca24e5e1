import ClearingHouse.Proofs.Hall.Wealth

/-!
# What a settlement leaves behind

A hold never runs out by itself, so one that outlives its settlement would keep
its account from everyone else for good.  In a hall every way out of a
settlement gives up what has been taken before the journal learns of the end.
-/

namespace ClearingHouse.Hall

variable {hall : Hall} {id : TransferId}

/-- The journal does not know a transfer, or knows how it has ended. -/
def IsOver (hall : Hall) (id : TransferId) : Prop :=
  ∀ entry, hall.floor.entryOf? id = some entry → entry.status.isFinal = true

/-- Nothing is held at any bank for a transfer, and no leg of it is prepared. -/
structure LeavesNothing (hall : Hall) (id : TransferId) : Prop where
  holds : ∀ party hold, hall.banks.hold? party = some hold →
    hold.transfer ≠ id
  legs : ∀ name side record, hall.banks.leg? name id side = some record →
    record.status ≠ .prepared

/-- Once a settlement is over, its legs are idle or have been moved. -/
theorem Sound.stands_of_isOver (sound : hall.Sound false)
    (isOver : hall.IsOver id) (side : Side) :
    ∃ transfer standing, transfer.id = id ∧ standing ≠ .held ∧
      hall.banks.Stands false transfer side standing := by
  cases present : hall.floor.entryOf? id with
  | none =>
      -- The parties and the amount do not matter for a leg that is idle.
      let nobody : Party := ⟨⟨""⟩, ⟨""⟩⟩
      let transfer : Transfer := ⟨id, nobody, nobody, Amount.zero⟩
      exact ⟨transfer, .idle, rfl, by decide, sound.unknown transfer present side⟩
  | some entry =>
      have final := isOver entry present
      have filed := (sound.floor.entries id entry present).1
      refine ⟨entry.transfer, entry.standing, filed, ?_,
        sound.ended id entry present final side⟩
      unfold JournalEntry.standing
      split <;> decide

theorem Sound.leavesNothing (sound : hall.Sound false)
    (isOver : hall.IsOver id) : hall.LeavesNothing id := by
  constructor
  · intro party hold held about
    obtain ⟨transfer, standing, rfl, notHeld, stands⟩ :=
      sound.stands_of_isOver isOver hold.side
    exact notHeld (stands.hold party hold held about rfl).1
  · intro name side record known prepared
    obtain ⟨transfer, standing, rfl, notHeld, stands⟩ :=
      sound.stands_of_isOver isOver side
    rcases stands.leg name record known with
      released | ⟨-, ⟨isHeld, -⟩ | ⟨-, committed⟩⟩
    · rw [prepared] at released
      cases released
    · exact notHeld isHeld
    · rw [prepared] at committed
      cases committed

/-- Whatever happens in a hall, a transfer that is over holds no account, and
none of its legs is left prepared. -/
theorem leavesNothing_of_runThrough {start final : Hall} {events : List Event}
    (opening : start.IsOpening)
    (keeps : ∀ event ∈ events, ¬ event.Forgets false)
    (ran : runThrough step start events = some final)
    (isOver : final.IsOver id) : final.LeavesNothing id :=
  (sound_of_runThrough opening keeps ran).leavesNothing isOver

def rival : Transfer := { Sample.payment with id := ⟨"t2"⟩ }

/-- The rival waits for an account until its caller gives up. -/
def givenUp : List Event :=
  [.order Sample.payment, .call 0, .order rival, .call 1, .leave 1, .expire 1,
    .call 1, .conclude 1]

theorem leavesNothing_of_givenUp :
    ∃ hall, runThrough step sample givenUp = some hall ∧
      hall.floor.entryOf? rival.id = none ∧ hall.LeavesNothing rival.id ∧
      (hall.banks.hold? Sample.payer).map Hold.transfer =
        some Sample.payment.id := by
  have ran : runThrough step sample givenUp = some _ := rfl
  have keeps : ∀ event ∈ givenUp, ¬ event.Forgets false := by
    simp [givenUp, Event.Forgets]
  have isOver : ∀ entry : JournalEntry, none = some entry →
      entry.status.isFinal = true := by
    rintro entry ⟨⟩
  exact ⟨_, ran, rfl,
    leavesNothing_of_runThrough isOpening_sample keeps ran isOver, rfl⟩

end ClearingHouse.Hall
