import ClearingHouse.Settings.Basic
import ClearingHouse.Yaml.Node

/-!
# Reading settings

Settings are written as a YAML mapping.  What concerns the log has to be there;
the sections may be missing, or any of their entries.  Entries without a meaning
are passed over, and an entry with one may not be given twice.
-/

namespace ClearingHouse.Settings

open Yaml (Document Node)

/-! ## Scalars with a meaning -/

/-- The characters of a scalar. -/
def text? (document : Document) (node : Node) : Option String :=
  match document.resolve node with
  | some (.scalar text _ _) => some text
  | _ => none

/-- The characters of a scalar that may stand for something else than text: of a
plain one, or of a literal one with the tag for it. -/
def bare? (kind : String) (document : Document) (node : Node) :
    Option (List Char) :=
  match document.resolve node with
  | some (.scalar text .plain _) => some text.toList
  | some (.scalar text .literal (some tag)) =>
      if tag = "tag:yaml.org,2002:" ++ kind then some text.toList else none
  | _ => none

/-- A natural number as it is written in settings: in decimal digits without
leading zeros, or to another base behind a mark; a plus sign may stand in
front. -/
def numeral? (text : List Char) : Option Nat :=
  let unsigned :=
    match text with
    | '+' :: rest => rest
    | other => other
  match unsigned with
  | '0' :: 'x' :: digits => Text.valueToBase? 16 digits
  | '0' :: 'o' :: digits => Text.valueToBase? 8 digits
  | '0' :: 'b' :: digits => Text.valueToBase? 2 digits
  | '0' :: _ :: _ => none
  | digits => Text.valueToBase? 10 digits

def number? (bound : Nat) (document : Document) (node : Node) : Option Nat := do
  let value ← numeral? (← bare? "int" document node)
  if value < bound then some value else none

def truth? (document : Document) (node : Node) : Option Bool := do
  let text := String.ofList (← bare? "bool" document node)
  if text = "true" ∨ text = "True" ∨ text = "TRUE" then some true
  else if text = "false" ∨ text = "False" ∨ text = "FALSE" then some false
  else none

/-! ## Entries -/

/-- An entry with a meaning for a value of type `α`. -/
structure Entry (α : Type) where
  name : String
  /-- Change the value as the node says. -/
  apply : Document → Node → α → Option α

def Entry.of {α β : Type} (name : String) (read : Document → Node → Option β)
    (set : α → β → α) : Entry α :=
  ⟨name, fun document node value => (read document node).map (set value)⟩

/-- Apply the entries of a mapping, of which those named in `seen` have been
given before.  The answer also names all that have been given. -/
def applyEntries {α : Type} (entries : List (Entry α)) (document : Document) :
    List String → α → List (Node × Node) → Option (List String × α)
  | seen, value, [] => some (seen, value)
  | seen, value, (key, node) :: rest => do
      let name ← text? document key
      match entries.find? fun entry => entry.name == name with
      | none => applyEntries entries document seen value rest
      | some entry =>
          if name ∈ seen then none
          else do
            let changed ← entry.apply document node value
            applyEntries entries document (name :: seen) changed rest

/-- The entries of a mapping.  A missing node counts as an empty mapping. -/
def mapping? (document : Document) (node : Node) : Option (List (Node × Node)) :=
  match document.resolve node with
  | some (.mapping entries) => some entries
  | some (.scalar "" .plain _) => some []
  | _ => none

/-- Read a section, in which no entry has to be given. -/
def section? {α : Type} (entries : List (Entry α)) (initial : α)
    (document : Document) (node : Node) : Option α := do
  let given ← mapping? document node
  let (_, value) ← applyEntries entries document [] initial given
  some value

/-- Numbers of 16 bits. -/
abbrev short? : Document → Node → Option Nat := number? (2 ^ 16)

/-- Numbers of 32 bits. -/
abbrev medium? : Document → Node → Option Nat := number? (2 ^ 32)

/-- Numbers of 64 bits. -/
abbrev long? : Document → Node → Option Nat := number? (2 ^ 64)

/-- The milliseconds of a number of seconds. -/
def seconds? (document : Document) (node : Node) : Option Nat :=
  (long? document node).map (· * 1000)

def houseEntries : List (Entry HouseSettings) :=
  [.of "host" text? fun settings host => { settings with host := host },
    .of "port" short? fun settings port => { settings with port := port },
    .of "users_file" text? fun settings file => { settings with usersFile := file },
    .of "jwt_secret" text? fun settings secret => { settings with secret := secret },
    .of "rpc_timeout_ms" long? fun settings timeout =>
      { settings with callTimeout := timeout },
    .of "retention_secs" seconds? fun settings retention =>
      { settings with retention := retention },
    .of "sweep_interval_secs" seconds? fun settings interval =>
      { settings with sweepInterval := interval }]

def bankEntries : List (Entry BankSettings) :=
  [.of "host" text? fun settings host => { settings with host := host },
    .of "port" short? fun settings port => { settings with port := port },
    .of "customers_file" text? fun settings file =>
      { settings with customersFile := file },
    .of "gateway_url" text? fun settings address =>
      { settings with houseAddress := address },
    .of "lock_attempts" medium? fun settings attempts =>
      { settings with holdAttempts := attempts },
    .of "lock_backoff_ms" long? fun settings backoff =>
      { settings with holdBackoff := backoff },
    .of "leg_retention_secs" seconds? fun settings retention =>
      { settings with retention := retention },
    .of "sweep_interval_secs" seconds? fun settings interval =>
      { settings with sweepInterval := interval }]

def clientEntries : List (Entry ClientSettings) :=
  [.of "gateway_url" text? fun settings address =>
      { settings with houseAddress := address },
    .of "token" text? fun settings token => { settings with token := token },
    .of "max_attempts" medium? fun settings attempts =>
      { settings with maxAttempts := attempts },
    .of "attempt_timeout_ms" long? fun settings timeout =>
      { settings with attemptTimeout := timeout },
    .of "backoff_step_ms" long? fun settings backoff =>
      { settings with backoff := backoff },
    .of "offline_interval_secs" seconds? fun settings interval =>
      { settings with offlineInterval := interval },
    .of "drain_poll_ms" long? fun settings interval =>
      { settings with drainInterval := interval }]

def logEntries : List (Entry LogSettings) :=
  [.of "log_level" text? fun settings level => { settings with level := level },
    .of "log_dir" text? fun settings directory =>
      { settings with directory := directory },
    .of "log_file" text? fun settings file => { settings with file := file },
    .of "use_json" truth? fun settings asJson => { settings with asJson := asJson },
    .of "rotation" text? fun settings rotation =>
      { settings with rotation := rotation }]

def Entry.ofLog (entry : Entry LogSettings) : Entry Settings :=
  ⟨entry.name, fun document node settings =>
    (entry.apply document node settings.log).map fun log =>
      { settings with log := log }⟩

def entries : List (Entry Settings) :=
  logEntries.map Entry.ofLog ++
    [.of "gateway" (section? houseEntries {}) fun settings house =>
        { settings with house := house },
      .of "bank" (section? bankEntries {}) fun settings bank =>
        { settings with bank := bank },
      .of "client" (section? clientEntries {}) fun settings client =>
        { settings with client := client }]

/-- Read settings; `none` if the text is no document, or its entries are not
those of settings. -/
def parse? (text : String) : Option Settings := do
  let document ← Yaml.parse? text
  let given ← mapping? document document.root
  let (seen, settings) ← applyEntries entries document [] {} given
  if logEntries.all fun entry => seen.contains entry.name then some settings
  else none

end ClearingHouse.Settings
