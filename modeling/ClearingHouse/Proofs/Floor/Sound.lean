import ClearingHouse.Proofs.Floor.Change
import ClearingHouse.Proofs.TableSum

/-!
# Journal and settlements agree

The journal has a running entry for a transfer exactly as long as one settlement
of this transfer is under way, and a final entry tells how its settlement has
ended.  `Floor.Sound` says this of a floor.  It holds at the opening and is kept
by everything that can happen, so it holds after every run.
-/

namespace ClearingHouse

namespace Floor

/-- Journal and settlements agree. -/
structure Sound (floor : Floor) : Prop where
  /-- Every entry is about the transfer that it is filed under. -/
  entries : ∀ id entry, floor.entryOf? id = some entry →
    entry.transfer.id = id ∧ entry.WellFormed
  /-- The transfer of a settlement under way has a running entry. -/
  live : ∀ number run, floor.IsLive number run →
    floor.entryOf? run.transfer.id = some (.running run.transfer)
  /-- No two settlements of one transfer are under way. -/
  single : ∀ first second firstRun secondRun,
    floor.IsLive first firstRun → floor.IsLive second secondRun →
      firstRun.transfer.id = secondRun.transfer.id → first = second
  /-- A running entry has a settlement under way. -/
  attended : ∀ id transfer, floor.entryOf? id = some (.running transfer) →
    ∃ number run, floor.IsLive number run ∧ run.transfer = transfer
  conclusions : ∀ (number : Nat) (run : SettlementRun)
    (conclusion : Settlement.Conclusion), floor.runs[number]? = some run →
      run.phase = .concluding conclusion → conclusion.Proper run.transfer
  checked : ∀ (number : Nat) (run : SettlementRun),
    floor.runs[number]? = some run → run.transfer.Checked
  past : ∀ id entry settledAt, floor.entryOf? id = some entry →
    entry.settledAt = some settledAt → settledAt ≤ floor.now

theorem sound_of_isOpening {floor : Floor} (opening : floor.IsOpening) :
    floor.Sound := by
  have noEntry : ∀ id, floor.entryOf? id = none := by
    intro id
    simp [Floor.entryOf?, opening.journal]
  have noRun : ∀ number : Nat, floor.runs[number]? = none := by
    intro number
    simp [opening.runs]
  constructor
  · intro id entry present
    rw [noEntry] at present
    cases present
  · rintro number run ⟨found, -⟩
    rw [noRun] at found
    cases found
  · rintro first second firstRun secondRun ⟨found, -⟩
    rw [noRun] at found
    cases found
  · intro id transfer present
    rw [noEntry] at present
    cases present
  · intro number run conclusion found
    rw [noRun] at found
    cases found
  · intro number run found
    rw [noRun] at found
    cases found
  · intro id entry settledAt present
    rw [noEntry] at present
    cases present

/-- A change of a settlement that leaves its transfer alone, and does not end
it, keeps the invariant. -/
theorem Sound.withRun {floor : Floor} {number : Nat} {run : SettlementRun}
    (sound : floor.Sound) (found : floor.runs[number]? = some run)
    (changed : SettlementRun)
    (sameTransfer : changed.transfer = run.transfer)
    (sameLife : changed.phase.isLive = run.phase.isLive)
    (proper : ∀ conclusion, changed.phase = .concluding conclusion →
      conclusion.Proper run.transfer) :
    (floor.withRun number changed).Sound := by
  -- Every settlement of the new floor has a counterpart on the old one.
  have before : ∀ (other : Nat) (current : SettlementRun),
      (floor.withRun number changed).runs[other]? = some current →
        ∃ former, floor.runs[other]? = some former ∧
          current.transfer = former.transfer ∧
          current.phase.isLive = former.phase.isLive := by
    intro other current present
    rcases run_of_withRun found present with ⟨rfl, rfl⟩ | ⟨-, was⟩
    · exact ⟨run, found, sameTransfer, sameLife⟩
    · exact ⟨current, was, rfl, rfl⟩
  have liveBefore : ∀ (other : Nat) (current : SettlementRun),
      (floor.withRun number changed).IsLive other current →
        ∃ former, floor.IsLive other former ∧
          current.transfer = former.transfer := by
    rintro other current ⟨present, live⟩
    obtain ⟨former, was, transfer, life⟩ := before other current present
    exact ⟨former, ⟨was, life ▸ live⟩, transfer⟩
  constructor
  · exact sound.entries
  · intro other current live
    obtain ⟨former, wasLive, transfer⟩ := liveBefore other current live
    rw [transfer]
    exact sound.live other former wasLive
  · intro first second firstRun secondRun firstLive secondLive sameId
    obtain ⟨firstFormer, firstWas, firstTransfer⟩ :=
      liveBefore first firstRun firstLive
    obtain ⟨secondFormer, secondWas, secondTransfer⟩ :=
      liveBefore second secondRun secondLive
    rw [firstTransfer, secondTransfer] at sameId
    exact sound.single first second _ _ firstWas secondWas sameId
  · intro id transfer running
    obtain ⟨other, former, ⟨was, live⟩, transferEq⟩ :=
      sound.attended id transfer running
    by_cases same : number = other
    · subst same
      rw [found] at was
      cases was
      refine ⟨number, changed, ⟨?_, sameLife ▸ live⟩,
        sameTransfer.trans transferEq⟩
      simp [getElem?_withRun found]
    · exact ⟨other, former, ⟨(run_withRun found same).trans was, live⟩,
        transferEq⟩
  · intro other current conclusion present concluding
    rcases run_of_withRun found present with ⟨rfl, rfl⟩ | ⟨-, was⟩
    · rw [sameTransfer]
      exact proper conclusion concluding
    · exact sound.conclusions other current conclusion was concluding
  · intro other current present
    obtain ⟨former, was, transfer, -⟩ := before other current present
    rw [transfer]
    exact sound.checked other former was
  · exact sound.past

theorem Sound.order {floor : Floor} (sound : floor.Sound)
    (transfer : Transfer) : (floor.order transfer).1.Sound := by
  rcases floor.order_cases transfer with
    ⟨outcome, answered⟩ | ⟨checked, absent, accepted⟩
  · rw [answered]
    exact sound
  · rw [accepted]
    -- The transfer of an old settlement under way is not the new one.
    have otherId : ∀ number run, floor.IsLive number run →
        transfer.id ≠ run.transfer.id := by
      intro number run live same
      have running := sound.live number run live
      rw [← same, absent] at running
      cases running
    constructor
    · intro id entry present
      rw [entryOf?_started] at present
      split at present
      · rename_i same
        cases present
        exact ⟨same, .running transfer⟩
      · exact sound.entries id entry present
    · rintro number run ⟨present, live⟩
      rw [entryOf?_started]
      rcases run_of_started present with old | ⟨-, rfl⟩
      · rw [if_neg (otherId number run ⟨old, live⟩)]
        exact sound.live number run ⟨old, live⟩
      · exact if_pos rfl
    · rintro first second firstRun secondRun ⟨firstFound, firstLive⟩
        ⟨secondFound, secondLive⟩ sameId
      rcases run_of_started firstFound with firstOld | ⟨firstNumber, rfl⟩ <;>
      rcases run_of_started secondFound with secondOld | ⟨secondNumber, rfl⟩
      · exact sound.single first second _ _ ⟨firstOld, firstLive⟩
          ⟨secondOld, secondLive⟩ sameId
      · exact (otherId first firstRun ⟨firstOld, firstLive⟩ sameId.symm).elim
      · exact (otherId second secondRun ⟨secondOld, secondLive⟩ sameId).elim
      · rw [firstNumber, secondNumber]
    · intro id other running
      rw [entryOf?_started] at running
      split at running
      · cases running
        exact ⟨floor.runs.length, ⟨transfer, .calling .prepareDebit, true⟩,
          ⟨List.getElem?_concat_length, rfl⟩, rfl⟩
      · obtain ⟨number, run, ⟨found, live⟩, same⟩ :=
          sound.attended id other running
        exact ⟨number, run, ⟨run_started found transfer, live⟩, same⟩
    · intro number run conclusion present concluding
      rcases run_of_started present with old | ⟨-, rfl⟩
      · exact sound.conclusions number run conclusion old concluding
      · cases concluding
    · intro number run present
      rcases run_of_started present with old | ⟨-, rfl⟩
      · exact sound.checked number run old
      · exact checked
    · intro id entry settledAt present settled
      rw [entryOf?_started] at present
      split at present
      · cases present
        cases settled
      · exact sound.past id entry settledAt present settled

theorem Sound.answer {floor next : Floor} {number : Nat}
    {answer : Except TransferFailure Unit} (sound : floor.Sound)
    (answered : floor.answer number answer = some next) : next.Sound := by
  obtain ⟨run, stage, found, calling, rfl⟩ := answer_eq_some answered
  refine sound.withRun found _ rfl ?_ ?_
  · rw [calling]
    cases Settlement.next run.transfer stage answer <;> rfl
  · intro conclusion concluding
    cases following : Settlement.next run.transfer stage answer with
    | proceed later => simp [following, RunPhase.entering] at concluding
    | conclude reached =>
        simp only [following, RunPhase.entering, RunPhase.concluding.injEq]
          at concluding
        subst concluding
        exact Settlement.proper_of_next following

theorem Sound.leave {floor next : Floor} {number : Nat}
    (sound : floor.Sound) (left : floor.leave number = some next) :
    next.Sound := by
  obtain ⟨run, found, rfl⟩ := leave_eq_some left
  refine sound.withRun found _ rfl rfl ?_
  intro conclusion concluding
  exact sound.conclusions number run conclusion found concluding

theorem Sound.conclude {floor next : Floor} {number : Nat}
    (sound : floor.Sound) (concluded : floor.conclude number = some next) :
    next.Sound := by
  obtain ⟨run, conclusion, found, concluding, rfl⟩ :=
    conclude_eq_some concluded
  have live := isLive_of_concluding found concluding
  have proper : conclusion.Proper run.transfer :=
    sound.conclusions number run conclusion found concluding
  have entryOf := entryOf?_ended (sound.live number run live) number conclusion
  -- A settlement that is still under way is another one, of another transfer.
  have otherLive : ∀ (other : Nat) (current : SettlementRun),
      (floor.ended number run conclusion).IsLive other current →
        floor.IsLive other current ∧ current.transfer.id ≠ run.transfer.id := by
    rintro other current ⟨present, currentLive⟩
    rcases run_of_withRun found present with ⟨rfl, rfl⟩ | ⟨different, was⟩
    · cases currentLive
    · refine ⟨⟨was, currentLive⟩, ?_⟩
      intro sameId
      exact different
        (sound.single other number current run ⟨was, currentLive⟩ live
          sameId).symm
  constructor
  · intro id entry present
    rw [entryOf] at present
    split at present
    · rename_i same
      obtain ⟨about, wellFormed, -⟩ :=
        Journal.wellFormed_of_concluded proper present
      exact ⟨about ▸ same.symm, wellFormed⟩
    · exact sound.entries id entry present
  · intro other current currentLive
    obtain ⟨wasLive, different⟩ := otherLive other current currentLive
    rw [entryOf, if_neg different]
    exact sound.live other current wasLive
  · intro first second firstRun secondRun firstLive secondLive sameId
    exact sound.single first second firstRun secondRun
      (otherLive first firstRun firstLive).1
      (otherLive second secondRun secondLive).1 sameId
  · intro id transfer running
    rw [entryOf] at running
    split at running
    · obtain ⟨-, -, final⟩ := Journal.wellFormed_of_concluded proper running
      cases final
    · rename_i different
      obtain ⟨other, current, ⟨was, wasLive⟩, same⟩ :=
        sound.attended id transfer running
      have distinct : number ≠ other := by
        rintro rfl
        rw [found] at was
        cases was
        have filed := (sound.entries id _ running).1
        exact different (filed.symm.trans (same ▸ rfl))
      exact ⟨other, current, ⟨(run_withRun found distinct).trans was, wasLive⟩,
        same⟩
  · intro other current reached present currentConcluding
    rcases run_of_withRun found present with ⟨rfl, rfl⟩ | ⟨-, was⟩
    · cases currentConcluding
    · exact sound.conclusions other current reached was currentConcluding
  · intro other current present
    rcases run_of_withRun found present with ⟨rfl, rfl⟩ | ⟨-, was⟩
    · exact sound.checked number run found
    · exact sound.checked other current was
  · intro id entry settledAt present settled
    rw [entryOf] at present
    split at present
    · have now : settledAt = floor.now :=
        Journal.settledAt_of_concluded present settled
      exact Nat.le_of_eq now
    · exact sound.past id entry settledAt present settled

theorem Sound.sweep {floor : Floor} (sound : floor.Sound) (retention : Nat) :
    (floor.sweep retention).Sound := by
  have before : ∀ id entry, (floor.sweep retention).entryOf? id = some entry →
      floor.entryOf? id = some entry := by
    intro id entry present
    rw [entryOf?_sweep] at present
    exact (Option.filter_eq_some_iff.mp present).1
  refine { sound with
    entries := ?entries, live := ?live, attended := ?attended, past := ?past }
  case entries =>
    intro id entry present
    exact sound.entries id entry (before id entry present)
  case live =>
    intro number run live
    exact entryOf?_sweep_running (sound.live number run live) retention
  case attended =>
    intro id transfer running
    exact sound.attended id transfer (before id _ running)
  case past =>
    intro id entry settledAt present settled
    exact sound.past id entry settledAt (before id entry present) settled

/-- A sum over the transfers in the journal does not change when a settlement
ends, if a transfer that is dropped has added nothing. -/
theorem Sound.sum_conclude {floor next : Floor} {number : Nat}
    (sound : floor.Sound) (concluded : floor.conclude number = some next)
    (share : Transfer → Nat)
    (dropped : ∀ (run : SettlementRun) failure,
      floor.runs[number]? = some run →
        run.phase = .concluding (.dropped failure) → share run.transfer = 0) :
    Table.sum next.house.journal (fun _ entry => share entry.transfer) =
      Table.sum floor.house.journal fun _ entry => share entry.transfer := by
  obtain ⟨run, conclusion, found, concluding, rfl⟩ := conclude_eq_some concluded
  have live := isLive_of_concluding found concluding
  have known : floor.house.journal.entryOf? run.transfer.id =
      some (.running run.transfer) := sound.live number run live
  cases conclusion with
  | settled outcome =>
      have written := Table.sum_insert_of_present known
        (fun _ entry => share entry.transfer)
        ((JournalEntry.running run.transfer).finish floor.now outcome)
      have finished : floor.house.journal.conclude floor.now run.transfer.id
          (.settled outcome) =
            Table.insert floor.house.journal run.transfer.id
              ((JournalEntry.running run.transfer).finish floor.now outcome) := by
        simp [Journal.conclude, Journal.finish, known]
      show Table.sum (floor.house.journal.conclude floor.now run.transfer.id
        (.settled outcome)) _ = _
      rw [finished]
      exact Nat.add_right_cancel written
  | dropped failure =>
      have erased := Table.sum_erase known fun _ entry => share entry.transfer
      have forgotten : floor.house.journal.conclude floor.now run.transfer.id
          (.dropped failure) =
            Table.erase floor.house.journal run.transfer.id := by
        simp [Journal.conclude, Journal.forget, Journal.isRunning, known,
          JournalEntry.running, TransferStatus.isFinal]
      have nothing : share (JournalEntry.running run.transfer).transfer = 0 :=
        dropped run failure found concluding
      rw [nothing] at erased
      show Table.sum (floor.house.journal.conclude floor.now run.transfer.id
        (.dropped failure)) _ = _
      rw [forgotten]
      exact erased

/-- Likewise when an order is taken, if a transfer that was not known has added
nothing. -/
theorem sum_order (floor : Floor) (transfer : Transfer)
    (share : Transfer → Nat)
    (unknown : floor.entryOf? transfer.id = none → share transfer = 0) :
    Table.sum (floor.order transfer).1.house.journal
        (fun _ entry => share entry.transfer) =
      Table.sum floor.house.journal fun _ entry => share entry.transfer := by
  rcases floor.order_cases transfer with
    ⟨outcome, answered⟩ | ⟨checked, absent, accepted⟩
  · rw [answered]
  · rw [accepted]
    have inserted := Table.sum_insert_of_absent absent
      (fun _ entry => share entry.transfer) (.running transfer)
    have nothing : share (JournalEntry.running transfer).transfer = 0 :=
      unknown absent
    rw [nothing] at inserted
    exact inserted

theorem Sound.rest {floor : Floor} (sound : floor.Sound) (milliseconds : Nat) :
    (floor.rest milliseconds).Sound :=
  { sound with
    past := fun id entry settledAt present settled =>
      Nat.le_add_right_of_le (sound.past id entry settledAt present settled) }

theorem Sound.step {floor next : Floor} {event : Event} (sound : floor.Sound)
    (stepped : floor.step event = some next) : next.Sound := by
  cases event with
  | order transfer =>
      cases stepped
      exact sound.order transfer
  | answer number answer => exact sound.answer stepped
  | conclude number => exact sound.conclude stepped
  | leave number => exact sound.leave stepped
  | sweep retention =>
      cases stepped
      exact sound.sweep retention
  | rest milliseconds =>
      cases stepped
      exact sound.rest milliseconds

/-- One step leaves the entry of a transfer as it is, notes the end of its
settlement in it, or sweeps it. -/
theorem Sound.entry_of_step {floor next : Floor} {event : Event}
    {id : TransferId} {entry : JournalEntry} (sound : floor.Sound)
    (present : floor.entryOf? id = some entry)
    (stepped : floor.step event = some next) :
    next.entryOf? id = some entry ∨
    (∃ (number : Nat) (run : SettlementRun) (conclusion : Settlement.Conclusion),
      floor.runs[number]? = some run ∧
      run.phase = .concluding conclusion ∧ run.transfer.id = id ∧
      entry = .running run.transfer ∧
      next.entryOf? id =
        Journal.concluded run.transfer floor.now conclusion) ∨
    (∃ retention, event = .sweep retention ∧
      ¬ entry.isKept floor.now retention = true) := by
  cases event with
  | order transfer =>
      cases stepped
      left
      rcases floor.order_cases transfer with
        ⟨outcome, answered⟩ | ⟨checked, absent, accepted⟩
      · rw [answered]
        exact present
      · rw [accepted]
        have different : transfer.id ≠ id := by
          rintro rfl
          rw [absent] at present
          cases present
        exact (entryOf?_started floor transfer id).trans
          ((if_neg different).trans present)
  | answer number answer =>
      obtain ⟨run, stage, found, calling, rfl⟩ := answer_eq_some stepped
      exact Or.inl present
  | conclude number =>
      obtain ⟨run, conclusion, found, concluding, rfl⟩ :=
        conclude_eq_some stepped
      have running := sound.live number run (isLive_of_concluding found concluding)
      have entryOf := entryOf?_ended running number conclusion id
      by_cases same : id = run.transfer.id
      · subst same
        rw [running] at present
        cases present
        exact Or.inr (Or.inl ⟨number, run, conclusion, found, concluding, rfl, rfl,
          entryOf.trans (if_pos rfl)⟩)
      · exact Or.inl (entryOf.trans ((if_neg same).trans present))
  | leave number =>
      obtain ⟨run, found, rfl⟩ := leave_eq_some stepped
      exact Or.inl present
  | sweep retention =>
      cases stepped
      by_cases kept : entry.isKept floor.now retention = true
      · left
        rw [entryOf?_sweep, present]
        simp [kept]
      · exact Or.inr (Or.inr ⟨retention, rfl, kept⟩)
  | rest milliseconds =>
      cases stepped
      exact Or.inl present

theorem sound_of_runThrough {start final : Floor} {events : List Event}
    (opening : start.IsOpening)
    (ran : runThrough step start events = some final) : final.Sound :=
  invariant_of_runThrough Sound.step (sound_of_isOpening opening) ran

end Floor

end ClearingHouse
