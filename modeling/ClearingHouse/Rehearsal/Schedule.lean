import ClearingHouse.Table

/-!
# Rehearsals on simulated time

A rehearsal plays a script on a world.  Time is simulated: whatever can happen
at an instant happens first, and only when every task waits does the clock move
on to the next instant at which one of them wakes.  A script performs one step
after another, and may start tasks that go on beside it.
-/

namespace ClearingHouse.Rehearsal

/-- One step of a script whose world takes actions of type `σ`. -/
inductive Step (σ : Type) where
  | rest (milliseconds : Nat)
  | spawn (name : String) (step : Step σ)
  | join (name : String)
  /-- Drop a task where it waits. -/
  | cancel (name : String)
  | act (action : σ)

instance {σ : Type} : Inhabited (Step σ) := ⟨.rest 0⟩

inductive Reply (ρ : Type) where
  | nothing
  | result (value : ρ)
  /-- The task that was waited for ended at this time. -/
  | joined (endedAt : Nat) (reply : Reply ρ)
  /-- The task that was waited for was dropped. -/
  | aborted
  /-- The task that was waited for broke. -/
  | broken

inductive Turn (τ ρ : Type) where
  | finished (reply : ρ)
  | broken
  /-- The task wants another turn at a time, or whenever something happens. -/
  | waiting (task : τ) (wake : Option Nat)

/-- How a world of type `ω` plays: what an action begins with, what a task does in
its turn, and what the world does by itself. -/
structure Play (ω σ τ ρ : Type) where
  begin : Nat → ω → σ → τ
  turn : Nat → ω → τ → ω × Turn τ ρ
  /-- Give the world its turn; the answer is when it wants the next one. -/
  background : Nat → ω → ω × Option Nat

inductive Position (σ τ : Type) where
  | starting (step : Step σ)
  | resting (wake : Nat)
  | joining (name : String)
  | acting (task : τ)

inductive Task (σ τ ρ : Type) where
  | running (position : Position σ τ) (wake : Option Nat)
  | ended (endedAt : Nat) (reply : Reply ρ)
  | dropped
  | broken

/-- A world with its clock and its tasks. -/
structure Stage (ω σ τ ρ : Type) where
  now : Nat
  world : ω
  tasks : Table String (Task σ τ ρ)

/-- The earlier of two times, where there may be none. -/
def earlier : Option Nat → Option Nat → Option Nat
  | some first, some second => some (min first second)
  | some first, none => some first
  | none, second => second

namespace Stage

variable {ω σ τ ρ : Type}

def initial (world : ω) : Stage ω σ τ ρ where
  now := 0
  world := world
  tasks := Table.empty

def withTask (stage : Stage ω σ τ ρ) (name : String) (task : Task σ τ ρ) :
    Stage ω σ τ ρ :=
  { stage with tasks := stage.tasks.insert name task }

/-- Start a task under a name.  A running task of that name goes on under another
one, at which nobody waits for it. -/
def started (stage : Stage ω σ τ ρ) (name : String) (step : Step σ) :
    Stage ω σ τ ρ :=
  let cleared :=
    match stage.tasks.find? name with
    | some (.running position wake) =>
        stage.withTask s!"{name}\x00{stage.tasks.size}" (.running position wake)
    | _ => stage
  cleared.withTask name (.running (.starting step) none)

def turnActing (play : Play ω σ τ ρ) (stage : Stage ω σ τ ρ) (task : τ) :
    Stage ω σ τ ρ × Turn (Position σ τ) (Reply ρ) :=
  match play.turn stage.now stage.world task with
  | (world, .finished value) => ({ stage with world := world }, .finished (.result value))
  | (world, .broken) => ({ stage with world := world }, .broken)
  | (world, .waiting next wake) =>
      ({ stage with world := world }, .waiting (.acting next) wake)

/-- How many milliseconds a rest lasts at most: thirty years of 365 days. -/
def longestRest : Nat := 30 * 365 * 24 * 60 * 60 * 1000

def turn (play : Play ω σ τ ρ) (stage : Stage ω σ τ ρ) :
    Position σ τ → Stage ω σ τ ρ × Turn (Position σ τ) (Reply ρ)
  | .starting (.rest milliseconds) =>
      if milliseconds = 0 then (stage, .finished .nothing)
      else
        let wake := stage.now + min milliseconds longestRest
        (stage, .waiting (.resting wake) (some wake))
  | .starting (.spawn name step) =>
      (stage.started name step, .finished .nothing)
  | .starting (.join name) => (stage, .waiting (.joining name) none)
  | .starting (.cancel name) =>
      match stage.tasks.find? name with
      | some (.running _ _) => (stage.withTask name .dropped, .finished .nothing)
      | _ => (stage, .finished .nothing)
  | .starting (.act action) =>
      turnActing play stage (play.begin stage.now stage.world action)
  | .resting wake =>
      if wake ≤ stage.now then (stage, .finished .nothing)
      else (stage, .waiting (.resting wake) (some wake))
  | .joining name =>
      match stage.tasks.find? name with
      | some (.running _ _) => (stage, .waiting (.joining name) none)
      | some (.ended endedAt reply) => (stage, .finished (.joined endedAt reply))
      | some .dropped => (stage, .finished .aborted)
      | some .broken => (stage, .finished .broken)
      | none => (stage, .finished .nothing)
  | .acting task => turnActing play stage task

def turnNamed (play : Play ω σ τ ρ) (stage : Stage ω σ τ ρ) (name : String) :
    Stage ω σ τ ρ :=
  match stage.tasks.find? name with
  | some (.running position _) =>
      match stage.turn play position with
      | (next, .finished reply) => next.withTask name (.ended next.now reply)
      | (next, .broken) => next.withTask name .broken
      | (next, .waiting later wake) => next.withTask name (.running later wake)
  | _ => stage

/-- Give the world and every task a turn. -/
def round (play : Play ω σ τ ρ) (stage : Stage ω σ τ ρ) : Stage ω σ τ ρ :=
  let (world, _) := play.background stage.now stage.world
  let moved := { stage with world := world }
  moved.tasks.keys.foldl (turnNamed play) moved

def rounds (play : Play ω σ τ ρ) : Nat → Stage ω σ τ ρ → Stage ω σ τ ρ
  | 0, stage => stage
  | count + 1, stage => rounds play count (stage.round play)

/-- A number of rounds after which nothing more happens at an instant: a task
waits at most for every other task and for the world. -/
def roundBound (stage : Stage ω σ τ ρ) : Nat := 2 * stage.tasks.size + 4

/-- Let everything happen that can happen at this instant. -/
def quiet (play : Play ω σ τ ρ) (stage : Stage ω σ τ ρ) : Stage ω σ τ ρ :=
  stage.rounds play stage.roundBound

/-- When the next task wants its turn, as far as that depends on time. -/
def nextWake (play : Play ω σ τ ρ) (stage : Stage ω σ τ ρ) : Option Nat :=
  stage.tasks.entries.foldl
    (fun found entry =>
      match entry.2 with
      | .running _ wake => earlier found wake
      | _ => found)
    (play.background stage.now stage.world).2

/-- Let everything happen at this instant, the step of the script first in every
round.  The step gets as many turns as there are rounds. -/
def playInstant (play : Play ω σ τ ρ) : Nat → Stage ω σ τ ρ → Position σ τ →
    Stage ω σ τ ρ × Turn (Position σ τ) (Reply ρ)
  | 0, stage, position => (stage, .waiting position none)
  | count + 1, stage, position =>
      match stage.turn play position with
      | (next, .waiting later wake) =>
          let moved := next.round play
          if count = 0 then (moved, .waiting later wake)
          else playInstant play count moved later
      | (next, ended) => (next, ended)

/-- Play a step of the script to its end.  The clock moves at most `moves` times.
A step that breaks, or would wait forever, has no reply. -/
def playStep (play : Play ω σ τ ρ) : Nat → Stage ω σ τ ρ → Position σ τ →
    Stage ω σ τ ρ × Option (Reply ρ)
  | 0, stage, _ => (stage, none)
  | moves + 1, stage, position =>
      match stage.playInstant play stage.roundBound position with
      | (next, .finished reply) => (next.quiet play, some reply)
      | (next, .broken) => (next.quiet play, none)
      | (next, .waiting later wake) =>
          match earlier wake (next.nextWake play) with
          | none => (next, none)
          | some instant =>
              playStep play moves { next with now := max next.now instant } later

/-- How often the clock may move during one step of a script. -/
def moveBound : Nat := 1000000

end Stage

/-- What is known after a step: the time, its reply, and the world. -/
structure Frame (ω ρ : Type) where
  now : Nat
  reply : Reply ρ
  world : ω

/-- Play a script.  The world is noted after every step, and `settle` prepares it
for the next one.  A step that breaks ends the rehearsal without an answer. -/
def run {ω σ τ ρ : Type} (play : Play ω σ τ ρ) (settle : ω → ω) :
    Stage ω σ τ ρ → List (Step σ) → Option (List (Frame ω ρ))
  | _, [] => some []
  | stage, step :: steps =>
      match stage.playStep play Stage.moveBound (.starting step) with
      | (_, none) => none
      | (next, some reply) => do
          let frames ← run play settle
            { next with world := settle next.world } steps
          some ({ now := next.now, reply := reply, world := next.world } :: frames)

end ClearingHouse.Rehearsal
