import ClearingHouse.Proofs.Floor.Replay
import ClearingHouse.Proofs.Mail.Sound
import ClearingHouse.Proofs.Sample

/-!
# No money is created

The postings tell of every change of a balance.  An amount that has been posted
as a debit and not yet as a credit is in transit; balances and amounts in transit
always make the same sum.  So letters may be late or lost as they will: there is
never more money than at the beginning.
-/

namespace ClearingHouse

namespace Mail

/-- Whether something has been posted for this leg. -/
def hasPosted (postings : List Posting) (transfer : TransferId)
    (side : Side) : Bool :=
  postings.any fun posting =>
    decide (posting.transfer = transfer ∧ posting.side = side)

/-- What has been posted on one side for an account. -/
def moved (postings : List Posting) (side : Side) (party : Party) : Nat :=
  (postings.map fun posting =>
    if posting.side = side ∧ posting.party = party then posting.amount.minor
    else 0).sum

/-- The amount of a transfer between the postings of its two legs. -/
def carried (postings : List Posting) (transfer : Transfer) : Nat :=
  if hasPosted postings transfer.id .debit = true ∧
      hasPosted postings transfer.id .credit = false then
    transfer.amount.minor
  else 0

/-- All amounts in transit. -/
def transit (mail : Mail) : Nat :=
  Table.sum mail.floor.house.journal fun _ entry =>
    carried mail.postings entry.transfer

/-- What can be relied on although letters are late, lost and out of order. -/
structure Safe (start mail : Mail) : Prop where
  /-- No leg is applied twice. -/
  once : (mail.postings.map fun posting =>
    (posting.transfer, posting.side)).Nodup
  /-- What is posted is a leg of the transfer that the journal has. -/
  claimed : ∀ posting ∈ mail.postings, ∃ entry,
    mail.floor.entryOf? posting.transfer = some entry ∧
      posting = entry.transfer.posting posting.side
  /-- Before a credit, the debit of the same transfer has been posted. -/
  debitFirst : ∀ (later : Nat) (credit : Posting),
    mail.postings[later]? = some credit → credit.side = .credit →
      ∃ (entry : JournalEntry) (earlier : Nat), earlier < later ∧
        mail.floor.entryOf? credit.transfer = some entry ∧
        credit = entry.transfer.posting .credit ∧
        mail.postings[earlier]? = some (entry.transfer.posting .debit)
  /-- Every balance is the one at the beginning with what has been posted. -/
  accounts : ∀ party,
    (mail.banks.balance? party).map
        (fun balance => balance.minor + moved mail.postings .debit party) =
      (start.banks.balance? party).map
        fun balance => balance.minor + moved mail.postings .credit party
  /-- There is no more money than at the beginning. -/
  total : mail.banks.total ≤ start.banks.total
  succeeded : ∀ id entry, mail.floor.entryOf? id = some entry →
    entry.status = .succeeded → ∀ side,
      entry.transfer.posting side ∈ mail.postings
  /-- A transfer that is unknown has moved nothing. -/
  unknown : ∀ id, mail.floor.entryOf? id = none →
    ∀ posting ∈ mail.postings, posting.transfer ≠ id
  /-- Nor has one that failed, unless its commit has timed out or was found to
  be incomplete. -/
  failed : ∀ id entry failure, mail.floor.entryOf? id = some entry →
    entry.status = .failed → entry.outcome = some (.error failure) →
      failure ≠ .timeout → (∀ detail, failure ≠ .commitIncomplete detail) →
        ∀ posting ∈ mail.postings, posting.transfer ≠ id

variable {start mail next : Mail} {number index : Nat}

/-! ## What has been posted -/

theorem hasPosted_eq_true {id : TransferId} {side : Side} :
    hasPosted mail.postings id side = true ↔ mail.Posted id side := by
  simp [hasPosted, Posted]

theorem hasPosted_append (postings : List Posting) (added : Posting)
    (id : TransferId) (side : Side) :
    hasPosted (postings ++ [added]) id side =
      (hasPosted postings id side ||
        decide (added.transfer = id ∧ added.side = side)) := by
  simp [hasPosted]

theorem moved_append (postings : List Posting) (added : Posting) (side : Side)
    (party : Party) :
    moved (postings ++ [added]) side party = moved postings side party +
      if added.side = side ∧ added.party = party then added.amount.minor
      else 0 := by
  simp [moved]

/-- What is posted is a leg of the transfer that the journal has. -/
theorem Sound.entry_of_posting (sound : mail.Sound) {posting : Posting}
    (member : posting ∈ mail.postings) :
    ∃ entry, mail.floor.entryOf? posting.transfer = some entry ∧
      posting = entry.transfer.posting posting.side := by
  obtain ⟨index, letter, order, result, found, isCommit, -, rfl⟩ :=
    sound.posted posting member
  obtain ⟨-, entry, known, isLeg, isBank⟩ :=
    sound.letters index letter order found isCommit
  refine ⟨entry, known, ?_⟩
  rw [isBank, isLeg]
  rfl

theorem Sound.asked_of_posted (sound : mail.Sound) {id : TransferId}
    {side : Side} (posted : mail.Posted id side) : mail.Asked id side := by
  obtain ⟨posting, member, rfl, rfl⟩ := posted
  obtain ⟨index, letter, order, result, found, isCommit, -, rfl⟩ :=
    sound.posted posting member
  refine ⟨index, letter, found, ?_⟩
  rw [isCommit]
  exact ⟨rfl, rfl⟩

/-- Nothing is in transit for a transfer of which no commit was asked for. -/
theorem Sound.carried_of_not_asked (sound : mail.Sound) {transfer : Transfer}
    (unasked : ∀ side, ¬ mail.Asked transfer.id side) :
    carried mail.postings transfer = 0 := by
  apply if_neg
  rintro ⟨posted, -⟩
  exact unasked .debit (sound.asked_of_posted (hasPosted_eq_true.mp posted))

theorem Sound.debit_of_credit (sound : mail.Sound) {id : TransferId}
    (posted : mail.Posted id .credit) : mail.Posted id .debit :=
  sound.debitFirst id (sound.asked_of_posted posted)

/-! ## Conservation -/

/-- A delivered letter moves nothing, or posts one leg of a transfer. -/
theorem Sound.posting_of_deliver (sound : mail.Sound)
    (delivered : mail.deliver index = some next) :
    next.floor = mail.floor ∧
      (next.postings = mail.postings ∧
          (∀ party, next.banks.balance? party = mail.banks.balance? party) ∧
          next.banks.total = mail.banks.total ∨
        ∃ entry side account balance,
          mail.floor.entryOf? entry.transfer.id = some entry ∧
          account.moved side entry.transfer.amount = .ok balance ∧
          Banks.Writes mail.banks next.banks (entry.transfer.party side) account
            ⟨balance, none⟩ ∧
          next.postings = mail.postings ++ [entry.transfer.posting side]) := by
  obtain ⟨letter, turn, found, unanswered, isTurn, rfl⟩ :=
    sound.turn_of_deliver delivered
  refine ⟨rfl, ?_⟩
  cases isTurn.moves with
  | nothing balances total committed acknowledged =>
      refine Or.inl ⟨?_, balances, total⟩
      have empty : postingsOf mail.banks (mail.banks.put letter.bank turn.1)
          letter.bank letter.call = [] :=
        postingsOf_of_balances balances letter.call
      simp only [Mail.afterTurn, empty, List.append_nil]
  | applied order account balance isCommit done fits writes committed =>
      obtain ⟨positive, entry, known, isLeg, isBank⟩ :=
        sound.letters index letter order found isCommit
      have added := postingsOf_of_writes positive fits writes
      rw [← isCommit] at added
      have sameId : order.transfer = entry.transfer.id := by
        rw [isLeg]
        rfl
      refine Or.inr ⟨entry, order.side, account, balance, sameId ▸ known, ?_, ?_,
        ?_⟩
      · rw [isLeg] at fits
        exact fits
      · have sameParty : (⟨letter.bank, order.account⟩ : Party) =
            entry.transfer.party order.side := by
          rw [isBank, isLeg]
          rfl
        rw [← sameParty]
        exact writes
      · have samePosting : order.posting letter.bank =
            entry.transfer.posting order.side := by
          rw [isBank, isLeg]
          rfl
        simp only [Mail.afterTurn, added, samePosting]

/-- What is in transit changes by what a posting sends or brings. -/
theorem Sound.transit_append {entry : JournalEntry} {side : Side}
    (sound : mail.Sound) (nextSound : next.Sound)
    (known : mail.floor.entryOf? entry.transfer.id = some entry)
    (sameFloor : next.floor = mail.floor)
    (grew : next.postings = mail.postings ++ [entry.transfer.posting side]) :
    next.transit +
        (if side = .credit then entry.transfer.amount.minor else 0) =
      mail.transit +
        if side = .debit then entry.transfer.amount.minor else 0 := by
  have unposted : hasPosted mail.postings entry.transfer.id side = false := by
    rw [Bool.eq_false_iff]
    intro was
    obtain ⟨posting, member, sameId, sameSide⟩ := hasPosted_eq_true.mp was
    have distinct := nextSound.distinct
    rw [grew, List.map_append, List.nodup_append] at distinct
    refine distinct.2.2 _ (List.mem_map.mpr ⟨posting, member, rfl⟩) _
      (List.mem_map.mpr ⟨_, List.mem_singleton.mpr rfl, rfl⟩) ?_
    rw [sameId, sameSide]
    rfl
  have nextPosted : ∀ otherSide,
      hasPosted next.postings entry.transfer.id otherSide =
        (hasPosted mail.postings entry.transfer.id otherSide ||
          decide (side = otherSide)) := by
    intro otherSide
    rw [grew, hasPosted_append]
    simp [Transfer.posting, LegOrder.posting, Transfer.legOrder]
  have changed : next.transit + carried mail.postings entry.transfer =
      mail.transit + carried next.postings entry.transfer := by
    unfold transit
    rw [sameFloor]
    refine Table.sum_change (fun _ entry => carried mail.postings entry.transfer)
      (fun _ entry => carried next.postings entry.transfer) known ?_
    intro id other present different
    have otherId : ¬ entry.transfer.id = other.transfer.id := by
      rw [(sound.floor.entries id other present).1]
      exact fun same => different same.symm
    have otherKey : ∀ otherSide,
        ¬ ((entry.transfer.posting side).transfer = other.transfer.id ∧
          (entry.transfer.posting side).side = otherSide) :=
      fun _ same => otherId same.1
    simp only [carried, grew, hasPosted_append, otherKey, decide_false,
      Bool.or_false]
  cases side with
  | debit =>
      have uncredited : hasPosted mail.postings entry.transfer.id .credit =
          false := by
        rw [Bool.eq_false_iff]
        intro was
        have debit := sound.debit_of_credit (hasPosted_eq_true.mp was)
        rw [← hasPosted_eq_true, unposted] at debit
        cases debit
      simpa [carried, nextPosted, unposted, uncredited] using changed
  | credit =>
      have debited : hasPosted mail.postings entry.transfer.id .debit = true := by
        have posted : next.Posted entry.transfer.id .credit :=
          ⟨entry.transfer.posting .credit, by simp [grew], rfl, rfl⟩
        have debit := nextSound.debit_of_credit posted
        rw [← hasPosted_eq_true, nextPosted] at debit
        simpa using debit
      simpa [carried, nextPosted, unposted, debited] using changed

/-- Orders and ends of settlements leave alone what is in transit. -/
theorem Sound.transit_order (sound : mail.Sound) (transfer : Transfer) :
    transit { mail with floor := (mail.floor.order transfer).1 } =
      mail.transit := by
  apply mail.floor.sum_order transfer
    (fun transfer => carried mail.postings transfer)
  exact fun absent =>
    sound.carried_of_not_asked (sound.absent transfer.id absent)

theorem Sound.transit_conclude {floor : Floor} (sound : mail.Sound)
    (concluded : mail.floor.conclude number = some floor) :
    transit { mail with floor := floor } = mail.transit := by
  refine sound.floor.sum_conclude concluded
    (fun transfer => carried mail.postings transfer) ?_
  intro run failure found dropped
  exact sound.carried_of_not_asked (sound.agrees_of_concluding found dropped)

/-- Balances and amounts in transit make the sum that they made at the beginning,
and every balance is explained by the postings. -/
structure Balanced (start mail : Mail) : Prop where
  total : mail.banks.total + mail.transit = start.banks.total
  accounts : ∀ party,
    (mail.banks.balance? party).map
        (fun balance => balance.minor + moved mail.postings .debit party) =
      (start.banks.balance? party).map
        fun balance => balance.minor + moved mail.postings .credit party

theorem balanced_of_isOpening (opening : start.IsOpening) :
    start.Balanced start where
  total := by
    have nothing : start.transit = 0 := by
      unfold transit
      rw [opening.floor.journal]
      rfl
    omega
  accounts := by
    intro party
    simp [moved, opening.postings]

theorem Balanced.deliver (balanced : start.Balanced mail) (sound : mail.Sound)
    (delivered : mail.deliver index = some next) : start.Balanced next := by
  have nextSound := sound.deliver delivered
  obtain ⟨sameFloor, ⟨samePostings, sameBalances, sameTotal⟩ |
    ⟨entry, side, account, balance, known, fits, writes, grew⟩⟩ :=
      sound.posting_of_deliver delivered
  · constructor
    · have sameTransit : next.transit = mail.transit := by
        simp only [transit, sameFloor, samePostings]
      rw [sameTotal, sameTransit]
      exact balanced.total
    · intro party
      rw [samePostings, sameBalances]
      exact balanced.accounts party
  · have booked := Account.minor_of_moved fits
    constructor
    · have carriedOn := sound.transit_append nextSound known sameFloor grew
      have altogether := writes.total
      have before := balanced.total
      simp only at altogether
      omega
    · intro party
      have before := balanced.accounts party
      rw [grew, moved_append, moved_append, writes.balance?]
      by_cases here : party = entry.transfer.party side
      · subst here
        rw [writes.balance?_of_found] at before
        cases was : start.banks.balance? (entry.transfer.party side) with
        | none => simp [was] at before
        | some opened =>
            simp only [was, Option.map_some, Option.some.injEq] at before
            simp only [if_true, Option.map_some, Transfer.posting,
              LegOrder.posting, Transfer.legOrder, and_true]
            congr 1
            omega
      · have elsewhere : ∀ otherSide,
            ¬ ((entry.transfer.posting side).side = otherSide ∧
              (entry.transfer.posting side).party = party) :=
          fun _ same => here same.2.symm
        simp only [if_neg here, if_neg (elsewhere _), Nat.add_zero]
        exact before

theorem Balanced.step {event : Event} (balanced : start.Balanced mail)
    (sound : mail.Sound) (stepped : mail.step event = some next) :
    start.Balanced next := by
  cases event with
  | order transfer =>
      cases stepped
      exact ⟨(congrArg _ (sound.transit_order transfer)).trans balanced.total,
        balanced.accounts⟩
  | send number =>
      obtain ⟨run, stage, found, calling, idle, rfl⟩ := send_eq_some stepped
      exact ⟨balanced.total, balanced.accounts⟩
  | deliver index => exact balanced.deliver sound stepped
  | hear number =>
      obtain ⟨index, letter, result, awaited, found, answered, proceeded⟩ :=
        hear_eq_some stepped
      obtain ⟨floor, floorAnswered, rfl⟩ := proceed_eq_some proceeded
      obtain ⟨run, stage, runFound, calling, rfl⟩ :=
        Floor.answer_eq_some floorAnswered
      exact ⟨balanced.total, balanced.accounts⟩
  | fail number failure =>
      obtain ⟨index, awaited, doubt, proceeded⟩ := fail_eq_some stepped
      obtain ⟨floor, floorAnswered, rfl⟩ := proceed_eq_some proceeded
      obtain ⟨run, stage, runFound, calling, rfl⟩ :=
        Floor.answer_eq_some floorAnswered
      exact ⟨balanced.total, balanced.accounts⟩
  | conclude number =>
      obtain ⟨floor, concluded, rfl⟩ := Option.map_eq_some_iff.mp stepped
      exact ⟨(congrArg _ (sound.transit_conclude concluded)).trans balanced.total,
        balanced.accounts⟩
  | leave number =>
      obtain ⟨floor, left, rfl⟩ := Option.map_eq_some_iff.mp stepped
      obtain ⟨run, found, rfl⟩ := Floor.leave_eq_some left
      exact ⟨balanced.total, balanced.accounts⟩
  | rest milliseconds =>
      cases stepped
      exact ⟨balanced.total, balanced.accounts⟩

theorem balanced_of_runThrough {final : Mail} {events : List Event}
    (opening : start.IsOpening)
    (ran : runThrough step start events = some final) :
    start.Balanced final := by
  have kept : ∀ {mail next : Mail} {event : Event},
      mail.Sound ∧ start.Balanced mail → step mail event = some next →
        next.Sound ∧ start.Balanced next :=
    fun holds stepped =>
      ⟨holds.1.step stepped, holds.2.step holds.1 stepped⟩
  have both := invariant_of_runThrough kept
    ⟨sound_of_isOpening opening, balanced_of_isOpening opening⟩ ran
  exact both.2

/-- What is posted for a leg is the posting of the transfer that the journal has. -/
theorem Sound.posting_mem (sound : mail.Sound) {id : TransferId}
    {entry : JournalEntry} (present : mail.floor.entryOf? id = some entry)
    {side : Side} (posted : mail.Posted id side) :
    entry.transfer.posting side ∈ mail.postings := by
  obtain ⟨posting, member, rfl, rfl⟩ := posted
  obtain ⟨known, isKnown, same⟩ := sound.entry_of_posting member
  rw [present] at isKnown
  cases isKnown
  rw [← same]
  exact member

theorem Sound.safe (sound : mail.Sound) (balanced : start.Balanced mail) :
    start.Safe mail where
  once := sound.distinct
  claimed := fun posting member => sound.entry_of_posting member
  debitFirst := by
    intro later credit found isCredit
    obtain ⟨entry, present, isPosting⟩ :=
      sound.entry_of_posting (List.mem_of_getElem? found)
    obtain ⟨earlier, debit, before, was, sameId, isDebit⟩ :=
      sound.ordered later credit found isCredit
    obtain ⟨other, otherPresent, isOther⟩ :=
      sound.entry_of_posting (List.mem_of_getElem? was)
    rw [sameId, present] at otherPresent
    cases otherPresent
    rw [isDebit] at isOther
    rw [isCredit] at isPosting
    exact ⟨entry, earlier, before, present, isPosting, isOther ▸ was⟩
  accounts := balanced.accounts
  total := by
    have altogether := balanced.total
    omega
  succeeded := by
    intro id entry present succeeded side
    have wellFormed := (sound.floor.entries id entry present).2
    have outcome := wellFormed.coherent.succeeded_iff.mp succeeded
    exact sound.posting_mem present
      (sound.settled id entry _ present outcome side)
  unknown := by
    rintro id absent posting member rfl
    obtain ⟨entry, present, -⟩ := sound.entry_of_posting member
    rw [absent] at present
    cases present
  failed := by
    rintro id entry failure present - outcome notTimeout notIncomplete posting
      member rfl
    exact sound.settled _ entry _ present outcome notTimeout notIncomplete
      posting.side (sound.asked_of_posted ⟨posting, member, rfl, rfl⟩)

/-- Letters may be late, lost and out of order: no leg is applied twice, no credit
without its debit, no money is created, and the journal tells the truth. -/
theorem safe_of_runThrough {final : Mail} {events : List Event}
    (opening : start.IsOpening)
    (ran : runThrough step start events = some final) : start.Safe final :=
  (sound_of_runThrough opening ran).safe (balanced_of_runThrough opening ran)

def sample : Mail := ⟨⟨Sample.house, 0, []⟩, Sample.banks, [], fun _ => none, []⟩

/-- A payment is given up, ordered again and made, while the prepare of the first
attempt reaches its bank at last. -/
def paidLate : List Event :=
  [.order Sample.payment, .send 0, .fail 0 .timeout, .send 0, .deliver 1,
    .hear 0, .conclude 0, .order Sample.payment, .send 1, .deliver 0,
    .deliver 2, .hear 1, .send 1, .deliver 3, .hear 1, .send 1, .deliver 4,
    .hear 1, .send 1, .deliver 5, .fail 1 .timeout, .conclude 1]

theorem safe_of_paidLate :
    ∃ paid, runThrough step sample paidLate = some paid ∧
      sample.Safe paid ∧
      paid.postings = [Sample.payment.posting .debit,
        Sample.payment.posting .credit] ∧
      (paid.floor.entryOf? Sample.payment.id).map JournalEntry.status =
        some .failed := by
  have opening : sample.IsOpening :=
    ⟨⟨rfl, rfl⟩, rfl, fun _ => rfl, rfl, Sample.leg?_banks⟩
  have ran : runThrough step sample paidLate = some _ := rfl
  exact ⟨_, ran, safe_of_runThrough opening ran, rfl, rfl⟩

end Mail

end ClearingHouse
