import ChatOptions.Reading.Format
import ChatOptions.Yaml.Document
import ChatOptions.Yaml.Scalar

/-! Typed readers of YAML documents, with the fault and the node that each refusal reports. -/

namespace ChatOptions

namespace Yaml

/-- How deep collections may nest. -/
def depthLimit : Nat := 128

/-- What a reader knows of the surroundings of a node. -/
structure Scope where
  /-- How many collections may yet be entered. -/
  depth : Nat
  path : Path
  /-- The nodes with anchors, the last first. -/
  anchors : List (Nat × Node)
  /-- How many references may be followed in all. -/
  repetitions : Nat

/-- The outcome of reading, with the number of references that have been followed. -/
abbrev Outcome := StateT Nat (Except Fault)

/-- A reader of nodes. -/
def Reader (α : Type) : Type := Scope → Node → Outcome α

namespace Scope

/-- The scope of a node on a way. -/
def along (scope : Scope) (path : Path) : Scope := { scope with path := path }

/-- The scope of an item. -/
def item (scope : Scope) (index : Nat) : Scope := scope.along (.item scope.path index)

/-- The scope of the value of a key. -/
def entry (scope : Scope) (key : Node) : Scope :=
  match key with
  | .scalar _ scalar => scope.along (.entry scope.path scalar.text)
  | _ => scope.along (.unnamed scope.path)

/-- The scope inside of a collection. -/
def enter (scope : Scope) (start : Mark) : Outcome Scope :=
  match scope.depth with
  | 0 => throw (.tooDeep start)
  | depth + 1 => return { scope with depth := depth }

/-- An outcome in which a refusal has a place: the node that begins at a mark, unless it has one already. -/
def settle {α : Type} (scope : Scope) (start : Mark) (outcome : Outcome α) : Outcome α :=
  fun followed => (outcome followed).mapError (·.settled start scope.path)

/-- The node itself, or the one that it refers to. -/
def target (scope : Scope) (node : Node) : Outcome Node :=
  match node with
  | .reference _ anchor => do
    modify (· + 1)
    -- References are counted over the whole document, so that they cannot multiply without end.
    if scope.repetitions < (← get) then throw .tooManyRepetitions
    match scope.anchors.lookup anchor with
    | some node => return node
    | none => throw .endOfDocument
  | .broken fault => throw fault
  | node => return node

end Scope

namespace Node

/-- The fault of a node that stands where something else is expected. -/
def mismatch (node : Node) (expected : String) : Fault :=
  match node with
  | .scalar properties leaf =>
    match leaf.found properties.tag with
    | .ok found => .unplaced (.wrongType found expected)
    | .error refusal => .unplaced refusal
  | .sequence _ _ => .unplaced (.wrongType .sequence expected)
  | .mapping _ _ => .unplaced (.wrongType .map expected)
  | .broken fault => fault
  | .reference _ _ | .absent _ => .endOfDocument

/-- What stands in a node whose type is not known. -/
inductive Shape where
  | leaf (found : Found)
  | sequence (items : List Node)
  | mapping (entries : List (Node × Node))
  /-- A node whose tag names a choice. -/
  | choice

/-- The shape of a node. -/
def shape : Node → Outcome Shape
  -- A tag of an application comes before what the node is.
  | .scalar ⟨_, some (.application (some _)), _⟩ _ => return .choice
  | .sequence ⟨_, some (.application (some _)), _⟩ _ => return .choice
  | .mapping ⟨_, some (.application (some _)), _⟩ _ => return .choice
  | .scalar properties leaf =>
    match leaf.found properties.tag with
    | .ok found => return .leaf found
    | .error refusal => throw (.unplaced refusal)
  | .sequence _ items => return .sequence items
  | .mapping _ entries => return .mapping entries
  | .absent _ => return .leaf .nothing
  | .broken fault => throw fault
  | .reference _ _ => throw .endOfDocument

/-- The tag of a node, if it names a choice. -/
def choiceTag? : Node → Option String
  | .scalar ⟨_, some (.application name), _⟩ _ => name
  | .sequence ⟨_, some (.application name), _⟩ _ => name
  | .mapping ⟨_, some (.application name), _⟩ _ => name
  | _ => none

/-- Whether a node may stand for a collection without parts. -/
def isNothing : Node → Bool
  | .scalar _ leaf => leaf.isEmpty
  | .absent _ => true
  | _ => false

end Node

namespace Reader

/-- Refuses data. -/
def refuse {α : Type} (refusal : Refusal) : Outcome α := throw (.unplaced refusal)

/-- What a check gives, or its refusal. -/
def orRefuse {α : Type} : Except Refusal α → Outcome α
  | .ok value => return value
  | .error refusal => refuse refusal

/-- Reads a node, or the one that it refers to. Refusals are placed there. -/
def placed {α : Type} (reader : Reader α) : Reader α := fun scope node => do
  let node ← scope.target node
  scope.settle node.start (reader scope node)

/-- Reads a scalar that may be of a type, where a text can spell a value of it. -/
def spelled {α : Type} (type : CoreType) (expected : String) (spell : String → Option α) :
    Reader α :=
  placed fun _ node =>
    match node with
    | .scalar properties scalar =>
      if scalar.mayBe properties.tag type then
        match spell scalar.text with
        | some value => return value
        | none => throw (node.mismatch expected)
      else throw (node.mismatch expected)
    | _ => throw (node.mismatch expected)

/-- Reads the text of a scalar, and what it is checked for. -/
def checked {α : Type} (expected : String) (check : String → Except Refusal α) : Reader α :=
  placed fun _ node =>
    match node with
    | .scalar _ scalar => orRefuse (check scalar.text)
    | _ => throw (node.mismatch expected)

/-- Reads a text. -/
def string : Reader String := checked "a string" .ok

/-- Reads a truth value. -/
def boolean : Reader Bool := spelled .bool "a boolean" Plain.bool?

/-- Reads a double. -/
def float : Reader Float := spelled .float "f64" Plain.float?

/-- Reads a whole number that a word holds, below a bound. -/
def natural (bound : Nat) (expected : String) : Reader Nat := fun scope node => do
  let node ← scope.target node
  let value ← spelled .integer expected (fun text => Plain.natural? UInt64.size text.toList) scope node
  -- A number that is too large for its type is refused as a value.
  if value < bound then return value
  else scope.settle node.start (refuse (.wrongValue (.integer (.natural value)) expected))

/-- Whether a scalar with a tag or without one stands for nothing where that is possible. -/
def isNone (scalar : Scalar) (tag : Option Tag) : Except Refusal Bool :=
  -- What is quoted is a text.
  if scalar.style != .plain then .ok false
  else
    match tag with
    | none => .ok (scalar.text.isEmpty || Plain.isNull scalar.text)
    -- A tag that asks for null has to be true.
    | some (.core .null) =>
      if Plain.isNull scalar.text then .ok true else Scalar.refuse scalar.text "null"
    | some _ => .ok false

/-- Reads what may be absent. -/
def optional {α : Type} (reader : Reader α) : Reader (Option α) := fun scope node => do
  let node ← scope.target node
  match node with
  | .absent _ => return none
  | .scalar properties scalar =>
    if ← orRefuse (isNone scalar properties.tag) then return none
    else return some (← reader scope node)
  | _ => return some (← reader scope node)

/-- Reads items in turn. -/
def items {α : Type} (reader : Reader α) (scope : Scope) : Nat → List Node → Outcome (List α)
  | _, [] => return []
  | index, item :: rest => do
    let first ← reader (scope.item index) item
    return first :: (← items reader scope (index + 1) rest)

/-- Reads a list. -/
def list {α : Type} (reader : Reader α) : Reader (List α) :=
  placed fun scope node =>
    match node with
    | .sequence properties parts => do items reader (← scope.enter properties.start) 0 parts
    -- Nothing at all stands for an empty collection.
    | _ => if node.isNothing then return [] else throw (node.mismatch "a sequence")

/-- Reads entries in turn, with the reader for a key given by the number of entries before it. -/
def entries {α β : Type} (key : Nat → Reader α) (value : Reader β) (scope : Scope) :
    Nat → List (Node × Node) → Outcome (List (α × β))
  | _, [] => return []
  | count, (keyNode, valueNode) :: rest => do
    let name ← key count scope keyNode
    let first ← value (scope.entry keyNode) valueNode
    return (name, first) :: (← entries key value scope (count + 1) rest)

/-- Reads a mapping as its entries. -/
def members {α : Type} (reader : Reader α) : Reader (List (String × α)) :=
  placed fun scope node =>
    match node with
    | .mapping properties parts => do
      entries (fun _ => string) reader (← scope.enter properties.start) 0 parts
    | _ => if node.isNothing then return [] else throw (node.mismatch "a map")

/-- A scalar as a JSON tree. -/
def foundJson : Found → Except Refusal Json
  | .bool value => .ok (.bool value)
  | .integer value =>
    match Number.ofInt? value.toInt with
    | some number => .ok (.number number)
    | none => .error .wideNumber
  | .wideInteger _ => .error .wideNumber
  | .float value => .ok (.ofFloat value)
  | .string value => .ok (.string value)
  | .nothing | .sequence | .map | .enumeration => .ok .null

/-- Reads the key of an object. -/
def jsonKey (count : Nat) : Reader String :=
  checked (if count = 0 then "a string key" else "a string") .ok

/-- Reads a JSON tree, in which so many collections may be entered. -/
def json : Nat → Reader Json := fun depth =>
  placed fun scope node => do
    match ← node.shape, depth with
    | .leaf found, _ => orRefuse (foundJson found)
    | .choice, _ => refuse (.wrongType .enumeration "any valid JSON value")
    -- The parts are read by this reader itself, so depth is counted by its recursion.
    | .sequence _, 0 | .mapping _, 0 => throw (.tooDeep node.start)
    | .sequence parts, depth + 1 => return .array (← items (json depth) scope 0 parts)
    | .mapping parts, depth + 1 =>
      return .object (← entries jsonKey (json depth) scope 0 parts)

/-- Reads a JSON value. -/
def value : Reader Value := fun scope node => return .ofJson (← json scope.depth scope node)

/-- A scalar as content. -/
def foundContent (expected : String) : Found → Except Refusal Content
  | .bool value => .ok (.bool value)
  | .integer value => .ok (.integer value)
  | .wideInteger value => .error (.wrongType (.wideInteger value) expected)
  | .float value => .ok (.float value)
  | .string value => .ok (.string value)
  | .nothing | .sequence | .map | .enumeration => .ok .nothing

/-- Reads any content, in which so many collections may be entered. Messages say what the outermost node is expected to be. -/
def content : Nat → String → Reader Content := fun depth expected =>
  placed fun scope node => do
    match ← node.shape, depth with
    | .leaf found, _ => orRefuse (foundContent expected found)
    | .choice, _ => refuse .heldBackChoice
    | .sequence _, 0 | .mapping _, 0 => throw (.tooDeep node.start)
    | .sequence parts, depth + 1 =>
      return .sequence (← items (content depth "any value") scope 0 parts)
    | .mapping parts, depth + 1 =>
      return .map (← entries (fun _ => content depth "any value") (content depth "any value")
        scope 0 parts)

/-- Reads any content. -/
def anyContent : Reader Content := fun scope node => content scope.depth "any value" scope node

/-- Reads any content, and then that content. -/
def heldBack {α : Type} (reader : ContentReader α) : Reader α := fun scope node => do
  orRefuse (reader (← anyContent scope node))

/-- Reads nothing where a choice has been made and there is no more to it. -/
def nothing : Reader Unit := placed fun _ node =>
  match node with
  | .scalar _ ⟨.plain, text⟩ =>
    if text.isEmpty || Plain.isNull text then return () else orRefuse (Scalar.refuse text "null")
  | .scalar _ scalar => orRefuse (Scalar.refuse scalar.text "null")
  | _ => throw (node.mismatch "unit")

/-- Reads a choice from the name that a node spells, or from its tag. -/
def namedChoice {α : Type} (choices : List (String × α)) : Reader α := fun scope node =>
  match node.choiceTag? with
  | some name => do
    let chosen ← orRefuse (ContentReader.chosen choices name)
    nothing scope node
    return chosen
  | none =>
    match node with
    | .sequence _ _ | .mapping _ _ =>
      scope.settle node.start (throw (node.mismatch "a YAML tag starting with '!'"))
    | _ => checked "variant identifier" (ContentReader.chosen choices) scope node

/-- Reads a choice. A tag that names none is refused where the node is referred to, or else where it belongs. -/
def choice {α : Type} (choices : List (String × α)) : Reader α := fun scope node => do
  let target ← scope.target node
  match node with
  | .reference start _ => scope.settle start (namedChoice choices scope target)
  | _ => namedChoice choices scope target

/-- Reads the fields of a record from the entries of a mapping. -/
def named {σ : Type} (record : Record Reader σ) (scope : Scope) :
    List (Node × Node) → List String → σ → Outcome σ
  | [], seen, state => orRefuse (record.finish seen state)
  | (key, value) :: rest, seen, state => do
    let find (name : String) := (record.find name).map ((name, ·))
    match ← checked "field identifier" find scope key with
    | (_, none) =>
      -- What no field stands for is passed over, but it must be well formed.
      value.skip
      named record scope rest seen state
    | (name, some field) =>
      orRefuse (Record.once seen name)
      let update ← field.read (scope.entry key) value
      named record scope rest (name :: seen) (update state)

/-- Reads a record from a mapping of its fields. -/
def record {σ : Type} (record : Record Reader σ) : Reader σ :=
  placed fun scope node =>
    match node with
    | .mapping properties parts => do
      named record (← scope.enter properties.start) parts [] record.blank
    | _ =>
      if node.isNothing then orRefuse (record.finish [] record.blank)
      else throw (node.mismatch record.name)

/-- Reads the name of a choice. -/
def tag {α : Type} (choices : List (String × α)) : Reader α :=
  checked "variant identifier" (ContentReader.chosen choices)

/-- Reads the entries of a mapping in which one names a choice: the choice, and the other entries. -/
def taggedEntries {α : Type} (shape : Tagged α) (scope : Scope) :
    List (Node × Node) → Option α → List (Content × Content) → Outcome (α × Content)
  | [], some chosen, others => return (chosen, .map others.reverse)
  | [], none, _ => refuse (.missingField shape.tag)
  | (key, value) :: rest, chosen, others => do
    let expected := "a type tag `" ++ shape.tag ++ "` or any other value"
    let inner := scope.entry key
    match ← content scope.depth expected scope key with
    | .string name =>
      if name = shape.tag then
        if chosen.isSome then refuse (.repeatedField shape.tag)
        let found ← tag shape.choices inner value
        taggedEntries shape scope rest (some found) others
      else
        let other ← anyContent inner value
        taggedEntries shape scope rest chosen ((.string name, other) :: others)
    | name =>
      -- A key that is no text cannot be the tag, and is kept like the others.
      let other ← anyContent inner value
      taggedEntries shape scope rest chosen ((name, other) :: others)

/-- Reads the items of a sequence of which the first names a choice: the choice, and the other items. -/
def taggedItems {α : Type} (shape : Tagged α) (scope : Scope) :
    List Node → Outcome (α × Content)
  | [] => refuse (.missingField shape.tag)
  | first :: rest => do
    let chosen ← tag shape.choices (scope.item 0) first
    return (chosen, .sequence (← items anyContent scope 1 rest))

/-- Reads data with a choice among its parts: the choice, and the other parts. -/
def taggedContent {α : Type} (shape : Tagged α) : Reader (α × Content) :=
  placed fun scope node => do
    match ← node.shape with
    | .leaf found => refuse (.wrongType found shape.name)
    | .choice => refuse (.wrongType .enumeration shape.name)
    | .sequence parts => taggedItems shape (← scope.enter node.start) parts
    | .mapping parts => taggedEntries shape (← scope.enter node.start) parts none []

/-- Reads a choice by its tag, and what else there is. -/
def tagged {α β : Type} (shape : Tagged α) (further : α → ContentReader β) : Reader β :=
  fun scope node => do
    let (chosen, content) ← taggedContent shape scope node
    orRefuse (further chosen content)

instance : DocumentFormat Reader where
  map f reader := fun scope node => f <$> reader scope node
  string := string
  boolean := boolean
  value := value
  optional := optional
  choice := choice
  record := record
  float := float
  word32 := fun scope node => UInt32.ofNat <$> natural UInt32.size "u32" scope node
  word64 := fun scope node => UInt64.ofNat <$> natural UInt64.size "u64" scope node
  list := list
  members := members
  tagged := tagged
  heldBack := heldBack

/-- Reads a whole text. -/
def read {α : Type} (reader : Reader α) (text : String) : Except Fault α := do
  let document := Document.ofText text
  let root := document.root
  -- The budget of references grows with the size of the document.
  let scope : Scope := {
    depth := depthLimit, path := .root, anchors := (root.anchored []).reverse
    repetitions := root.size * 100 }
  let (result, _) ← reader scope root 0
  match document.fault with
  | none => return result
  | some fault => throw fault

end Reader

end Yaml

end ChatOptions
