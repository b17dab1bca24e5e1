import ClearingHouse.Yaml.Token

/-!
# Documents of YAML

A document is a tree of scalars, sequences and mappings.  A node may carry an
anchor, and an alias stands for the node that carries it; since a node may hold
an alias of itself, an alias is kept as the number of its anchor, and the
document knows the nodes under all numbers.  The number of an anchor says how
many other names there were before it, so that a name that is given once more
leaves its number to the next new name, and with it all aliases for it.
-/

namespace ClearingHouse.Yaml

inductive Node where
  | scalar (text : String) (style : ScalarStyle) (tag : Option String)
  | sequence (items : List Node)
  | mapping (entries : List (Node × Node))
  | alias (anchor : Nat)

structure Document where
  root : Node
  /-- The nodes that carry anchors, by the numbers of their anchors. -/
  anchored : List (Nat × Node)

namespace Document

/-- The node itself, or the node that an alias stands for. -/
def resolve (document : Document) : Node → Option Node
  | .alias anchor =>
      (document.anchored.find? fun entry => entry.1 == anchor).map Prod.snd
  | node => some node

end Document

/-- Tokens of which a part has been made into nodes. -/
structure Composing where
  tokens : List Token
  /-- What the handles of tags stand for. -/
  handles : List (List Char × List Char)
  /-- The numbers of the anchors so far, last one first. -/
  names : List (List Char × Nat) := []
  /-- The anchored nodes that are complete, by their places among `names`. -/
  complete : List (Nat × Node) := []

/-- A step that makes tokens into a value, or refuses them. -/
abbrev Composer (α : Type) : Type := StateT Composing Option α

namespace Composer

def peek : Composer (Option Token) := do
  return (← get).tokens.head?

def skip : Composer Unit :=
  modify fun composing => { composing with tokens := composing.tokens.tail }

/-- Whether the next token is one of these; the end of the tokens is none. -/
def isAhead (expected : List Token) : Composer Bool := do
  return (← peek).any expected.contains

def skipIf (expected : Token) : Composer Bool := do
  if ← isAhead [expected] then
    skip
    return true
  else return false

def refuse {α : Type} : Composer α := StateT.lift none

/-- A scalar without any characters, as it stands for a missing node. -/
def emptyNode (tag : Option String) : Node := .scalar "" .plain tag

/-- What a node carries: an anchor, given by its place among all of them, and a
tag. -/
structure Properties where
  anchor : Option Nat := none
  tag : Option String := none

def Properties.isEmpty (properties : Properties) : Bool :=
  properties.anchor.isNone && properties.tag.isNone

/-- Give a number to an anchor: the count of the names before it.  The answer is
its place among all anchors. -/
def number (name : List Char) : Composer Nat := do
  let composing ← get
  let known := (composing.names.map Prod.fst).eraseDups.length
  set { composing with names := (name, known) :: composing.names }
  return composing.names.length

/-- What a tag means, once its handle is replaced. -/
def meaning (handle suffix : List Char) : Composer String := do
  if handle.isEmpty then return String.ofList suffix
  else
    match (← get).handles.lookup handle with
    | some start => return String.ofList (start ++ suffix)
    | none => refuse

def anchor? : Composer (Option Nat) := do
  match ← peek with
  | some (.anchor name) =>
      skip
      return some (← number name)
  | _ => return none

def tag? : Composer (Option String) := do
  match ← peek with
  | some (.tag handle suffix) =>
      skip
      return some (← meaning handle suffix)
  | _ => return none

/-- Take an anchor and a tag, in either order. -/
def properties : Composer Properties := do
  let early ← anchor?
  let tag ← tag?
  let late ← if early.isNone && tag.isSome then anchor? else pure none
  return ⟨early.or late, tag⟩

def keep (properties : Properties) (node : Node) : Composer Node := do
  match properties.anchor with
  | none => return node
  | some anchor =>
      modify fun composing =>
        { composing with complete := (anchor, node) :: composing.complete }
      return node

/-- Pass over the comma in front of an item, which the first one does not have. -/
def divided (isFirst : Bool) : Composer Bool :=
  if isFirst then pure true else skipIf .flowEntry

mutual

/-- Take a node.  A block collection may stand here only if `block` holds, and a
sequence that is not indented only if `indentless` holds. -/
def node : Nat → (block indentless : Bool) → Composer Node
  | 0, _, _ => refuse
  | fuel + 1, block, indentless => do
      match ← peek with
      | some (.alias name) =>
          skip
          match (← get).names.lookup name with
          | some anchor => return .alias anchor
          | none => refuse
      | _ => do
          let carried ← properties
          keep carried (← content fuel block indentless carried)

/-- Take what a node is, behind its anchor and its tag. -/
def content : Nat → (block indentless : Bool) → Properties → Composer Node
  | 0, _, _, _ => refuse
  | fuel + 1, block, indentless, carried => do
      match ← peek with
      | some (.scalar text style) =>
          skip
          return .scalar (String.ofList text) style carried.tag
      | some .flowSequence =>
          skip
          return .sequence (← flowItems fuel true)
      | some .flowMapping =>
          skip
          return .mapping (← flowEntries fuel true)
      | some .blockEntry =>
          if indentless then return .sequence (← indentlessItems fuel)
          else if carried.isEmpty then refuse
          else return emptyNode carried.tag
      | some .blockSequence =>
          if block then
            skip
            return .sequence (← blockItems fuel)
          else if carried.isEmpty then refuse
          else return emptyNode carried.tag
      | some .blockMapping =>
          if block then
            skip
            return .mapping (← blockEntries fuel)
          else if carried.isEmpty then refuse
          else return emptyNode carried.tag
      | _ => if carried.isEmpty then refuse else return emptyNode carried.tag

/-- Take a node, or nothing in front of the tokens `before`. -/
def nodeUnless : Nat → (before : List Token) → (block indentless : Bool) →
    Composer Node
  | 0, _, _, _ => refuse
  | fuel + 1, before, block, indentless => do
      if ← isAhead before then return emptyNode none
      else node fuel block indentless

def blockItems : Nat → Composer (List Node)
  | 0 => refuse
  | fuel + 1 => do
      if ← skipIf .blockEntry then
        let item ← nodeUnless fuel [.blockEntry, .blockEnd] true false
        return item :: (← blockItems fuel)
      else if ← skipIf .blockEnd then return []
      else refuse

/-- Take the items of a sequence that is indented no further than the mapping
around it. -/
def indentlessItems : Nat → Composer (List Node)
  | 0 => refuse
  | fuel + 1 => do
      if ← skipIf .blockEntry then
        let item ←
          nodeUnless fuel [.blockEntry, .key, .value, .blockEnd] true false
        return item :: (← indentlessItems fuel)
      else return []

def blockEntries : Nat → Composer (List (Node × Node))
  | 0 => refuse
  | fuel + 1 => do
      if ← skipIf .key then
        let key ← nodeUnless fuel [.key, .value, .blockEnd] true true
        let value ←
          if ← skipIf .value then
            nodeUnless fuel [.key, .value, .blockEnd] true true
          else pure (emptyNode none)
        return (key, value) :: (← blockEntries fuel)
      else if ← skipIf .blockEnd then return []
      else refuse

/-- Take the items of a flow sequence, with its end.  An item with a key is a
mapping of one entry. -/
def flowItems : Nat → (isFirst : Bool) → Composer (List Node)
  | 0, _ => refuse
  | fuel + 1, isFirst => do
      if ← skipIf .flowSequenceEnd then return []
      else if !(← divided isFirst) then refuse
      else if ← skipIf .flowSequenceEnd then return []
      else if ← skipIf .key then
        let key ←
          if ← isAhead [.value, .flowEntry, .flowSequenceEnd] then
            skip
            pure (emptyNode none)
          else node fuel false false
        let value ←
          if ← skipIf .value then
            nodeUnless fuel [.flowEntry, .flowSequenceEnd] false false
          else pure (emptyNode none)
        return .mapping [(key, value)] :: (← flowItems fuel false)
      else
        let item ← node fuel false false
        return item :: (← flowItems fuel false)

def flowEntries : Nat → (isFirst : Bool) → Composer (List (Node × Node))
  | 0, _ => refuse
  | fuel + 1, isFirst => do
      if ← skipIf .flowMappingEnd then return []
      else if !(← divided isFirst) then refuse
      else if ← skipIf .flowMappingEnd then return []
      else if ← skipIf .key then
        let key ←
          nodeUnless fuel [.value, .flowEntry, .flowMappingEnd] false false
        let value ←
          if ← skipIf .value then
            nodeUnless fuel [.flowEntry, .flowMappingEnd] false false
          else pure (emptyNode none)
        return (key, value) :: (← flowEntries fuel false)
      else
        let key ← node fuel false false
        return (key, emptyNode none) :: (← flowEntries fuel false)

end

end Composer

/-! ## Whole documents -/

structure Directives where
  hasVersion : Bool := false
  handles : List (List Char × List Char) := []
  isAny : Bool := false

/-- Take the directives in front of a document.  The version is 1.1 or 1.2, and
nothing is said twice. -/
def takeDirectives (said : Directives) :
    List Token → Option (Directives × List Token)
  | .version major minor :: rest =>
      if said.hasVersion || major != 1 || (minor != 1 && minor != 2) then none
      else takeDirectives { said with hasVersion := true, isAny := true } rest
  | .tagHandle handle start :: rest =>
      if (said.handles.lookup handle).isSome then none
      else
        takeDirectives
          { said with handles := (handle, start) :: said.handles, isAny := true }
          rest
  | tokens => some (said, tokens)

/-- What the handles of tags stand for without any directive. -/
def standardHandles : List (List Char × List Char) :=
  [(['!'], ['!']), (['!', '!'], "tag:yaml.org,2002:".toList)]

/-- Take the root of a document, which may be missing behind a mark. -/
def rootNode (isMarked : Bool) : Composer Node := do
  let tokens := (← get).tokens
  if isMarked && (tokens.isEmpty || tokens.head? == some .documentStart ||
      tokens.head? == some .documentEnd) then
    return Composer.emptyNode none
  else Composer.node (4 * tokens.length + 4) true false

/-- The nodes that carry anchors, under the numbers of their anchors.  A number
stands for the last node that got it. -/
def Composing.anchored (composing : Composing) : List (Nat × Node) :=
  composing.names.zipIdx.filterMap fun ((_, number), index) =>
    (composing.complete.lookup (composing.names.length - 1 - index)).map
      fun node => (number, node)

/-- Read a text that holds a single document. -/
def parse? (text : String) : Option Document := do
  let tokens ← tokens? text.toList
  let (said, tokens) ← takeDirectives {} tokens
  let isMarked := tokens.head? == some .documentStart
  if said.isAny && !isMarked then none
  else do
    let start : Composing :=
      { tokens := if isMarked then tokens.tail else tokens
        handles := said.handles ++ standardHandles }
    let (root, rest) ← (rootNode isMarked).run start
    if rest.tokens.all fun token => token == .documentEnd then
      some { root := root, anchored := rest.anchored }
    else none

end ClearingHouse.Yaml
