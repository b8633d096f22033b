import ChatOptions.Json.Document
import ChatOptions.Reading.Format

/-! Typed readers of JSON texts, with the fault and the place that each refusal reports. -/

namespace ChatOptions

namespace Json

/-- How deep arrays and objects may nest. -/
def depthLimit : Nat := 128

/-- Content that a part without parts holds. -/
def Leaf.content : Leaf → Except Fault Content
  | .null => .ok .nothing
  | .bool value => .ok (.bool value)
  | .number (.ok (.integer value _)) => .ok (.integer (.ofInt value))
  | .number (.ok (.float value _)) => .ok (.float value)
  | .number (.error fault) => .error fault
  | .string (.ok value) => .ok (.string value)
  | .string (.error fault) => .error fault

namespace Document

/-- The depth that is left inside an array or object at a place. -/
def enter (depth : Nat) (start : Position) : Except Fault Nat :=
  if depth ≤ 1 then .error (.defect .tooDeep (start.plus 1)) else .ok (depth - 1)

mutual

/-- Passes over a tree, minding only its spelling. -/
def skip : Document → Except Fault Unit
  | .leaf _ _ _ => .ok ()
  | .array _ items ending =>
    match skipItems items with
    | .error fault => .error fault
    | .ok () =>
      match ending with
      | .closed _ => .ok ()
      | .broken breach _ => .error breach.skipped
  | .object _ members ending =>
    match skipMembers members with
    | .error fault => .error fault
    | .ok () =>
      match ending with
      | .closed _ => .ok ()
      | .broken breach => .error breach.skipped
  | .broken _ breach _ => .error breach.skipped

/-- Passes over items. -/
def skipItems : List (Document × Position) → Except Fault Unit
  | [] => .ok ()
  | (item, _) :: rest =>
    match item.skip with
    | .error fault => .error fault
    | .ok () => skipItems rest

/-- Passes over members. -/
def skipMembers : List (Key × Document × Position) → Except Fault Unit
  | [] => .ok ()
  | (_, value, _) :: rest =>
    match value.skip with
    | .error fault => .error fault
    | .ok () => skipMembers rest

end

mutual

/-- The content of a tree, if it does not nest too deep. -/
def content (depth : Nat) : Document → Except Fault Content
  | .leaf _ _ plain => plain.content
  | .array start items ending => do
    let held ← contentItems (← enter depth start) items
    match ending with
    | .closed _ => return .sequence held
    | .broken breach _ => throw breach.wanted
  | .object start members ending => do
    let held ← contentMembers (← enter depth start) members
    match ending with
    | .closed _ => return .map held
    | .broken breach => throw breach.wanted
  | .broken _ breach _ => .error breach.wanted

/-- The contents of items. -/
def contentItems (depth : Nat) : List (Document × Position) → Except Fault (List Content)
  | [] => .ok []
  | (item, _) :: rest => do
    let first ← item.content depth
    return first :: (← contentItems depth rest)

/-- The contents of members. -/
def contentMembers (depth : Nat) :
    List (Key × Document × Position) → Except Fault (List (Content × Content))
  | [] => .ok []
  | (key, value, _) :: rest => do
    let name ← key.name
    let first ← value.content depth
    return (.string name, first) :: (← contentMembers depth rest)

end

end Document

/-- A reader of JSON trees, with the depth to which they may nest. -/
def Reader (α : Type) : Type := Nat → Document → Except Fault α

namespace Reader

/-- What a reader makes of a part, with the place of a fault that has none yet. -/
def settle {α : Type} (result : Except Fault α) (left : Position) : Except Fault α :=
  result.mapError (·.settled left)

/-- Reads a text. -/
def string : Reader String
  | _, .leaf _ _ (.string text) => text
  | _, tree => .error (tree.mismatch "a string")

/-- Reads a truth value. -/
def boolean : Reader Bool
  | _, .leaf _ _ (.bool value) => .ok value
  | _, tree => .error (tree.mismatch "a boolean")

/-- Reads a double; a whole number is rounded to one. -/
def float : Reader Float
  | _, .leaf _ _ (.number (.ok (.float value _))) => .ok value
  | _, .leaf _ _ (.number (.ok (.integer value _))) =>
    -- A word is rounded without its sign, and the sign is put back.
    .ok (if value < 0 then -value.natAbs.toUInt64.toFloat else value.toNat.toUInt64.toFloat)
  | _, tree => .error (tree.mismatch "f64")

/-- Reads a whole number below a bound. -/
def natural (bound : Nat) (expected : String) : Reader Nat
  | _, .leaf _ stop (.number (.ok (.integer value _))) =>
    -- A number that is too large is refused as a value, not as a type.
    if 0 ≤ value ∧ value.toNat < bound then .ok value.toNat
    else .error (.refusal (.wrongValue (.integer (.ofInt value)) expected) stop)
  | _, tree => .error (tree.mismatch expected)

/-- Reads what may be absent. -/
def optional {α : Type} (reader : Reader α) : Reader (Option α)
  -- Null is seen before the reader is asked.
  | _, .leaf _ _ .null => .ok none
  | depth, tree => (reader depth tree).map some

/-- Reads the items of an array, one after the other. -/
def items {α : Type} (reader : Document → Except Fault α) :
    List (Document × Position) → Except Fault (List α)
  | [] => .ok []
  | (item, left) :: rest => do
    let first ← settle (reader item) left
    return first :: (← items reader rest)

/-- Reads a list. -/
def list {α : Type} (reader : Reader α) : Reader (List α)
  | depth, .array start parts ending => do
    let inner ← Document.enter depth start
    let held ← items (reader inner) parts
    match ending with
    | .closed _ => return held
    | .broken breach _ => throw breach.wanted
  | _, tree => .error (tree.mismatch "a sequence")

/-- Reads the members of an object, one after the other. -/
def entries {α : Type} (reader : Document → Except Fault α) :
    List (Key × Document × Position) → Except Fault (List (String × α))
  | [] => .ok []
  | (key, value, left) :: rest => do
    let name ← key.name
    let first ← settle (reader value) left
    return (name, first) :: (← entries reader rest)

/-- Reads an object as its members. -/
def members {α : Type} (reader : Reader α) : Reader (List (String × α))
  | depth, .object start parts ending => do
    let inner ← Document.enter depth start
    let held ← entries (reader inner) parts
    match ending with
    | .closed _ => return held
    | .broken breach => throw breach.wanted
  | _, tree => .error (tree.mismatch "a map")

/-- Reads any content, and then that content. -/
def heldBack {α : Type} (reader : ContentReader α) : Reader α := fun depth tree => do
  let content ← tree.content depth
  -- What is held back has lost its places, so a refusal of it has none.
  (reader content).mapError .unplaced

/-- Reads a JSON value. -/
def value : Reader Value := heldBack ContentReader.value

/-- The choice of a name among those known, with the place of a refusal. -/
def chosen {α : Type} (choices : List (String × α)) (name : String) (place : Position) :
    Except Fault α :=
  (ContentReader.chosen choices name).mapError (.refusal · place)

/-- Reads nothing where a choice has been made and there is no more to it. -/
def nothing : Document → Except Fault Unit
  | .leaf _ _ .null => .ok ()
  | tree => .error (tree.mismatch "unit")

/-- Reads a choice from its name, or from an object of its name and null. -/
def choice {α : Type} (choices : List (String × α)) : Reader α
  | _, .leaf _ stop (.string name) => do chosen choices (← name) stop
  | depth, .object start parts ending => do
    let _ ← Document.enter depth start
    match parts, ending with
    | [], .closed stop => throw (.defect .noValue stop)
    | [], .broken breach => throw breach.wanted
    | (key, value, left) :: more, ending => do
      let chosen ← chosen choices (← key.name) key.stop
      nothing value
      match more, ending with
      | [], .closed _ => return chosen
      -- An object that only lacks its brace is reported as such.
      | [], .broken ⟨⟨.defect .endOfObject, place⟩, _⟩ => throw ⟨.defect .endOfObject, place⟩
      | _, _ => throw (.defect .noValue left)
  | _, .broken _ _ fault => .error fault
  | _, tree => .error (.defect .noValue tree.ahead)

/-- Reads the fields of a record from an array, in their order. -/
def listed {σ : Type} (record : Record Reader σ) (depth : Nat) (ending : ArrayEnd) :
    List (Field Reader σ) → List (Document × Position) → Nat → σ → Except Fault σ
  | [], [], _, state =>
    match ending with
    | .closed _ => .ok state
    | .broken _ leftOver => .error leftOver
  | [], (item, _) :: _, _, _ => .error (.defect .trailingCharacters item.ahead)
  | field :: fields, [], place, state =>
    match ending with
    | .closed stop =>
      -- Items that are missing at the end count as absent, where a default makes up for them.
      if field.presence == .defaulted then listed record depth ending fields [] (place + 1) state
      else .error (.refusal (record.tooShort place) stop)
    | .broken breach _ => .error breach.wanted
  | field :: fields, (item, left) :: rest, place, state => do
    let update ← settle (field.read depth item) left
    listed record depth ending fields rest (place + 1) (update state)

/-- Reads the fields of a record from the members of an object. -/
def named {σ : Type} (record : Record Reader σ) (depth : Nat) (ending : ObjectEnd) :
    List (Key × Document × Position) → List String → σ → Except Fault σ
  | [], seen, state =>
    match ending with
    | .closed stop => (record.finish seen state).mapError (.refusal · stop)
    | .broken breach => .error breach.wanted
  | (key, value, left) :: rest, seen, state => do
    let name ← key.name
    match ← (record.find name).mapError (.refusal · key.left) with
    | none =>
      -- A member of no field is passed over, but it must be spelled well.
      value.skip
      named record depth ending rest seen state
    | some field =>
      (Record.once seen name).mapError (.refusal · key.left)
      let update ← settle (field.read depth value) left
      named record depth ending rest (name :: seen) (update state)

/-- Reads a record from an object of its fields, or from an array of them in order. -/
def record {σ : Type} (record : Record Reader σ) : Reader σ
  | depth, .array start parts ending => do
    listed record (← Document.enter depth start) ending record.fields parts 0 record.blank
  | depth, .object start parts ending => do
    named record (← Document.enter depth start) ending parts [] record.blank
  | _, tree => .error (tree.mismatch record.name)

/-- Reads the name of a choice. -/
def tag {α : Type} (choices : List (String × α)) : Document → Except Fault α
  | .leaf _ stop (.string name) => do chosen choices (← name) stop
  | tree => .error (tree.mismatch "variant identifier")

/-- Reads the members of an object in which one names a choice: the choice, and the other members. -/
def taggedMembers {α : Type} (shape : Tagged α) (depth : Nat) (ending : ObjectEnd) :
    List (Key × Document × Position) → Option α → List (Content × Content) →
      Except Fault (α × Content)
  | [], chosen, others =>
    match ending, chosen with
    | .closed _, some chosen => .ok (chosen, .map others.reverse)
    | .closed stop, none => .error (.refusal (.missingField shape.tag) stop)
    | .broken breach, _ => .error breach.wanted
  | (key, value, left) :: rest, chosen, others => do
    let name ← key.name
    if name = shape.tag then
      -- The tag may stand anywhere among the members, but only once.
      if chosen.isSome then throw (.refusal (.repeatedField shape.tag) key.left)
      let found ← tag shape.choices value
      taggedMembers shape depth ending rest (some found) others
    else
      -- Other members wait until the choice is known, the last one first.
      let content ← settle (value.content depth) left
      taggedMembers shape depth ending rest chosen ((.string name, content) :: others)

/-- Reads the items of an array of which the first names a choice: the choice, and the other items. -/
def taggedItems {α : Type} (shape : Tagged α) (depth : Nat) (ending : ArrayEnd) :
    List (Document × Position) → Except Fault (α × Content)
  | [] =>
    match ending with
    | .closed stop => .error (.refusal (.missingField shape.tag) stop)
    | .broken breach _ => .error breach.wanted
  | (first, _) :: rest => do
    let chosen ← tag shape.choices first
    let others ← Document.contentItems depth rest
    match ending with
    | .closed _ => return (chosen, .sequence others)
    | .broken breach _ => throw breach.wanted

/-- Reads data with a choice among its parts: the choice, and the other parts. -/
def taggedContent {α : Type} (shape : Tagged α) : Reader (α × Content)
  | depth, .array start parts ending => do
    taggedItems shape (← Document.enter depth start) ending parts
  | depth, .object start parts ending => do
    taggedMembers shape (← Document.enter depth start) ending parts none []
  | _, tree => .error (tree.mismatch shape.name)

/-- Reads a choice by its tag, and what else there is. -/
def tagged {α β : Type} (shape : Tagged α) (further : α → ContentReader β) : Reader β :=
  fun depth tree => do
    let (chosen, content) ← taggedContent shape depth tree
    (further chosen content).mapError .unplaced

instance : DocumentFormat Reader where
  map f reader := fun depth tree => (reader depth tree).map f
  string := string
  boolean := boolean
  value := value
  optional := optional
  choice := choice
  record := record
  float := float
  word32 := fun depth tree => (natural UInt32.size "u32" depth tree).map UInt32.ofNat
  word64 := fun depth tree => (natural UInt64.size "u64" depth tree).map UInt64.ofNat
  list := list
  members := members
  tagged := tagged
  heldBack := heldBack

/-- Reads a whole text. -/
def read {α : Type} (reader : Reader α) (text : String) : Except Fault α := do
  let (tree, leftOver) := document text.toList
  let result ← reader depthLimit tree
  -- What stands behind the value is reported only if the value itself is read.
  match leftOver with
  | none => return result
  | some fault => throw fault

end Reader

end Json

end ChatOptions
