import ChatOptions.ResponseFormat

/-! Tools offered to a model, and what is said about their use. -/

namespace ChatOptions

/-- The kind of a tool. Only functions exist. -/
inductive ToolKind where
  | function
deriving DecidableEq, Repr, Inhabited

/-- A function that a model may ask to have called: its name, what it does, and the schema of its arguments. -/
structure FunctionDefinition where
  name : String
  description : Option String
  parameters : Value
deriving BEq, Inhabited

/-- A tool offered to a model. -/
structure Tool where
  kind : ToolKind
  function : FunctionDefinition
deriving BEq, Inhabited

/-- How freely a model chooses among its tools. -/
inductive ToolChoiceMode where
  /-- No tool is called. -/
  | none
  /-- The model decides. -/
  | auto
  /-- At least one tool is called. -/
  | any
  /-- The same under the name that other providers use. -/
  | required
deriving DecidableEq, Repr

/-- The function that a model has to call. -/
structure FunctionChoice where
  name : String
deriving DecidableEq, Repr, Inhabited

/-- What a model may or must do with its tools. -/
inductive ToolChoice where
  | mode (mode : ToolChoiceMode)
  | function (kind : ToolKind) (function : FunctionChoice)
deriving DecidableEq, Repr

namespace ToolKind

/-- The kinds of tool by name. -/
def choices : List (String × ToolKind) := [("function", .function)]

/-- The JSON form of a kind of tool is its name. -/
def toJson : ToolKind → Json
  | .function => .string "function"

/-- Reads a kind of tool. -/
def reader {D : Type → Type} [Format D] : D ToolKind := Format.choice choices

end ToolKind

namespace FunctionDefinition

/-- The JSON form of a function; an absent description is left out. -/
def toJson (function : FunctionDefinition) : Json :=
  .object ([("name", .string function.name)] ++
    Json.optionalMember "description" .string function.description ++
    [("parameters", function.parameters.tree)])

/-- Reads a function. -/
def reader {D : Type → Type} [Format D] : D FunctionDefinition :=
  Format.record {
    name := "struct FunctionDefinition"
    fields := [
      .required "name" Format.string fun name function => { function with name := name },
      .optional "description" Format.string fun text function =>
        { function with description := text },
      .required "parameters" Format.value fun value function =>
        { function with parameters := value }]
    strict := false
    blank := default }

/-- The hash writes of a function. -/
def writes (hash : HashFunction) (function : FunctionDefinition) : List HashWrite :=
  [.text function.name] ++ HashWrite.option ([.text ·]) function.description ++
    function.parameters.writes hash

end FunctionDefinition

namespace Tool

/-- The tool that offers a function. -/
def ofFunction (name description : String) (parameters : Value) : Tool :=
  ⟨.function, ⟨name, some description, parameters⟩⟩

/-- The JSON form of a tool. -/
def toJson (tool : Tool) : Json :=
  .object [("type", tool.kind.toJson), ("function", tool.function.toJson)]

/-- Reads a tool, which is a function unless its kind is given. -/
def reader {D : Type → Type} [Format D] : D Tool :=
  Format.record {
    name := "struct FunctionTool"
    fields := [
      .defaulted "type" ToolKind.reader fun kind tool => { tool with kind := kind },
      .required "function" FunctionDefinition.reader fun function tool =>
        { tool with function := function }]
    strict := false
    blank := default }

/-- The hash writes of a tool, of which there is only one kind. -/
def writes (hash : HashFunction) (tool : Tool) : List HashWrite := tool.function.writes hash

end Tool

namespace ToolChoiceMode

/-- The modes by name. -/
def choices : List (String × ToolChoiceMode) :=
  [("none", .none), ("auto", .auto), ("any", .any), ("required", .required)]

/-- The name of a mode. -/
def name : ToolChoiceMode → String
  | .none => "none"
  | .auto => "auto"
  | .any => "any"
  | .required => "required"

/-- The JSON form of a mode is its name. -/
def toJson (mode : ToolChoiceMode) : Json := .string mode.name

/-- Reads a mode. -/
def reader {D : Type → Type} [Format D] : D ToolChoiceMode := Format.choice choices

/-- The place of a mode among the modes. -/
def rank : ToolChoiceMode → UInt64
  | .none => 0
  | .auto => 1
  | .any => 2
  | .required => 3

end ToolChoiceMode

namespace FunctionChoice

/-- The JSON form of a function that has to be called. -/
def toJson (choice : FunctionChoice) : Json := .object [("name", .string choice.name)]

/-- Reads a function that has to be called. -/
def reader {D : Type → Type} [Format D] : D FunctionChoice :=
  Format.record {
    name := "struct FunctionChoice"
    fields := [.required "name" Format.string fun name _ => ⟨name⟩]
    strict := false
    blank := default }

end FunctionChoice

namespace ToolChoice

/-- The choice of one function by name. -/
def ofName (name : String) : ToolChoice := .function .function ⟨name⟩

/-- The JSON form of a choice: the name of a mode, or the function in the shape of a tool. -/
def toJson : ToolChoice → Json
  | .mode chosen => chosen.toJson
  | .function kind choice => .object [("type", kind.toJson), ("function", choice.toJson)]

/-- The record that the choice of a function is read as. -/
def functionRecord : Record ContentReader (ToolKind × FunctionChoice) where
  name := "struct variant ToolChoice::Function"
  fields := [
    .required "type" ToolKind.reader fun kind parts => (kind, parts.2),
    .required "function" FunctionChoice.reader fun choice parts => (parts.1, choice)]
  strict := false
  blank := (default, default)

/-- Reads the choice of a function, which has to be given by name and not as a list. -/
def functionReader : ContentReader ToolChoice
  | .map entries => do
    let (kind, choice) ← ContentReader.record functionRecord (.map entries)
    return .function kind choice
  | other => .error (.wrongType other.found "struct variant ToolChoice::Function")

/-- Reads a choice in the first of its shapes that fits. -/
def contentReader : ContentReader ToolChoice := fun content =>
  match (ToolChoiceMode.reader : ContentReader ToolChoiceMode) content with
  | .ok chosen => .ok (.mode chosen)
  | .error _ =>
    -- What is no mode may still be a function, and neither refusal is reported.
    match functionReader content with
    | .ok choice => .ok choice
    | .error _ => .error (.noAlternative "ToolChoice")

/-- Reads a choice. -/
def reader {D : Type → Type} [DocumentFormat D] : D ToolChoice :=
  DocumentFormat.heldBack contentReader

/-- The hash writes of a choice. -/
def writes : ToolChoice → List HashWrite
  | .mode chosen => [.word 0, .word chosen.rank]
  | .function _ choice => [.word 1, .text choice.name]

end ToolChoice

end ChatOptions
