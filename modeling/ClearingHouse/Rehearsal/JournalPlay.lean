import ClearingHouse.Rehearsal.Schedule
import ClearingHouse.Transfer.Journal
import ClearingHouse.Transfer.Roster

/-!
# Rehearsals of the journal and of the roster

A script makes, ends and drops entries of a journal, or adds banks to a roster
and looks them up.
-/

namespace ClearingHouse.Rehearsal

inductive JournalAction where
  | begin (transfer : Transfer)
  | finish (transfer : TransferId) (outcome : Outcome)
  | forget (transfer : TransferId)
  | entry (transfer : TransferId)
  | sweep (retention : Nat)

inductive JournalReport where
  | done
  | admission (admission : Admission)
  | forgotten (known : Bool)
  | entry (entry : Option JournalEntry)
  | count (number : Nat)

def performJournal (now : Nat) (journal : Journal) :
    JournalAction → Journal × Turn JournalAction JournalReport
  | .begin transfer =>
      let (next, admission) := journal.begin transfer
      (next, .finished (.admission admission))
  | .finish transfer outcome =>
      (journal.finish now transfer outcome, .finished .done)
  | .forget transfer =>
      (journal.forget transfer, .finished (.forgotten (journal.isRunning transfer)))
  | .entry transfer => (journal, .finished (.entry (journal.entryOf? transfer)))
  | .sweep retention =>
      let next := journal.sweep now retention
      (next, .finished (.count (Table.size journal - Table.size next)))

def journalPlay : Play Journal JournalAction JournalAction JournalReport where
  begin := fun _ _ action => action
  turn := performJournal
  background := fun _ journal => (journal, none)

def rehearseJournal (script : List (Step JournalAction)) :
    Option (List (Frame Journal JournalReport)) :=
  run journalPlay id (.initial Journal.empty) script

inductive RosterAction where
  | add (registration : Registration)
  | resolve (name : BankName)
  | lookUp (name : BankName)

inductive RosterReport where
  | added (registration : Registration)
  | resolved (bank : BankName)
  | failed (failure : TransferFailure)
  | found (known : Bool) (address : Option String)

def performRoster (roster : Roster) :
    RosterAction → Roster × Turn RosterAction RosterReport
  | .add registration =>
      let entry : RosterEntry :=
        ⟨registration.address, .inside registration.name⟩
      match roster.add registration.name entry with
      | .ok next => (next, .finished (.added registration))
      | .error failure => (roster, .finished (.failed failure))
  | .resolve name =>
      match roster.resolve name with
      | .ok connection => (roster, .finished (.resolved connection.bank))
      | .error failure => (roster, .finished (.failed failure))
  | .lookUp name =>
      (roster, .finished (.found (Table.contains roster name) (roster.address? name)))

def rosterPlay : Play Roster RosterAction RosterAction RosterReport where
  begin := fun _ _ action => action
  turn := fun _ => performRoster
  background := fun _ roster => (roster, none)

def rehearseRoster (script : List (Step RosterAction)) :
    Option (List (Frame Roster RosterReport)) :=
  run rosterPlay id (.initial Roster.empty) script

end ClearingHouse.Rehearsal
