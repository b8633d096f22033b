import ChatOptions.Json.Basic
import ChatOptions.Reading.Record

/-! Data held back until it is known what it stands for. -/

namespace ChatOptions

/-- Data of any shape, read before its type is known. -/
inductive Content where
  | nothing
  | bool (value : Bool)
  | integer (value : WholeNumber)
  | float (value : Float)
  | string (value : String)
  | sequence (items : List Content)
  | map (entries : List (Content × Content))
deriving Inhabited

namespace Content

/-- The content as messages name it. -/
def found : Content → Found
  | .nothing => .nothing
  | .bool value => .bool value
  | .integer value => .integer value
  | .float value => .float value
  | .string value => .string value
  | .sequence _ => .sequence
  | .map _ => .map

/-- A key as a text, or why it is none where a text is expected. -/
def keyText (key : Content) (expected : String) : Except Refusal String :=
  match key with
  | .string name => .ok name
  | other => .error (.wrongType other.found expected)

mutual

/-- The content as a JSON tree, for which every key of a map has to be a text. -/
def toJson : Content → Except Refusal Json
  | .nothing => .ok .null
  | .bool value => .ok (.bool value)
  | .integer value =>
    match Number.ofInt? value.toInt with
    | some fitting => .ok (.number fitting)
    | none => .error .wideNumber
  | .float value => .ok (.ofFloat value)
  | .string value => .ok (.string value)
  | .sequence items => do return .array (← itemsToJson items)
  | .map entries => do return .object (← entriesToJson "a string key" entries)

/-- The contents of a list as JSON trees. -/
def itemsToJson : List Content → Except Refusal (List Json)
  | [] => .ok []
  | item :: rest => do
    let first ← item.toJson
    return first :: (← itemsToJson rest)

/-- The entries of a map as members. The first key is expected in words of its own. -/
def entriesToJson (expected : String) :
    List (Content × Content) → Except Refusal (List (String × Json))
  | [] => .ok []
  | (key, value) :: rest => do
    let name ← key.keyText expected
    let first ← value.toJson
    return (name, first) :: (← entriesToJson "a string" rest)

end

end Content

/-- A reader of content held back. -/
def ContentReader (α : Type) : Type := Content → Except Refusal α

namespace ContentReader

/-- Reads the fields of a record from a list, in their order. -/
def listed {σ : Type} (record : Record ContentReader σ) :
    List (Field ContentReader σ) → List Content → Nat → σ → Except Refusal σ
  | [], [], _, state => .ok state
  | [], rest@(_ :: _), place, _ =>
    .error (.wrongLength (place + rest.length) (elementCount place ++ " in sequence"))
  | field :: fields, [], place, state =>
    -- Items that are missing at the end count as absent, where a default makes up for them.
    if field.presence == .defaulted then listed record fields [] (place + 1) state
    else .error (record.tooShort place)
  | field :: fields, item :: items, place, state => do
    let update ← field.read item
    listed record fields items (place + 1) (update state)

/-- The name of the field that a key stands for, if it stands for one. -/
def keyName {σ : Type} (record : Record ContentReader σ) (key : Content) :
    Except Refusal (Option String) :=
  match key with
  | .string name => .ok (some name)
  -- A field may also be named by its place among the fields.
  | .integer (.natural place) => .ok ((record.fields[place]?).map (·.name))
  | _ => .error (.wrongType key.found "field identifier")

/-- Reads the fields of a record from the entries of a map. -/
def named {σ : Type} (record : Record ContentReader σ) :
    List (Content × Content) → List String → σ → Except Refusal σ
  | [], seen, state => record.finish seen state
  | (key, value) :: entries, seen, state => do
    match ← keyName record key with
    | none => named record entries seen state
    | some name =>
      match ← record.find name with
      -- An entry of no field is passed over.
      | none => named record entries seen state
      | some field =>
        Record.once seen name
        let update ← field.read value
        named record entries (name :: seen) (update state)

/-- Reads a record from a map of its fields, or from a list of them in order. -/
def record {σ : Type} (record : Record ContentReader σ) : ContentReader σ
  | .sequence items => listed record record.fields items 0 record.blank
  | .map entries => named record entries [] record.blank
  | other => .error (.wrongType other.found record.name)

/-- The choice of a name among those known. -/
def chosen {α : Type} (choices : List (String × α)) (name : String) : Except Refusal α :=
  match choices.find? (·.1 == name) with
  | some (_, value) => .ok value
  | none => .error (.unknownChoice name (choices.map Prod.fst))

/-- The choice that a content names by a text, or by its place among those known. -/
def choiceName {α : Type} (choices : List (String × α)) : Content → Except Refusal α
  | .string name => chosen choices name
  | .integer (.natural place) =>
    match choices[place]? with
    | some (_, value) => .ok value
    | none =>
      .error (.wrongValue (.integer (.natural place))
        ("variant index 0 <= i < " ++ toString choices.length))
  | other => .error (.wrongType other.found "variant identifier")

/-- Reads a choice from its name, or from a map of its name to nothing. -/
def choice {α : Type} (choices : List (String × α)) : ContentReader α
  | .string name => chosen choices name
  -- The name may also be the one key of a map that holds nothing under it.
  | .map [(key, value)] => do
    let chosen ← choiceName choices key
    match value with
    | .nothing => return chosen
    | other => .error (.wrongType other.found "unit")
  | .map _ => .error (.wrongValue .map "map with a single key")
  | other => .error (.wrongType other.found "string or map")

/-- Reads a text. -/
def string : ContentReader String
  | .string value => .ok value
  | other => .error (.wrongType other.found "a string")

/-- Reads a truth value. -/
def boolean : ContentReader Bool
  | .bool value => .ok value
  | other => .error (.wrongType other.found "a boolean")

/-- Reads what may be absent. -/
def optional {α : Type} (reader : ContentReader α) : ContentReader (Option α)
  | .nothing => .ok none
  | other => (reader other).map some

/-- Reads a JSON value. -/
def value : ContentReader Value := fun content => content.toJson.map .ofJson

/-- Accepts content that carries nothing more than a choice already made: a map, or an empty list. -/
def noFurther : ContentReader Unit
  | .sequence [] => .ok ()
  | .sequence items => .error (.wrongLength items.length (elementCount 0 ++ " in sequence"))
  | _ => .ok ()

end ContentReader

end ChatOptions
