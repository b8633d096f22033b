import ChatOptions.SortedMap
import ChatOptions.Tool
import ChatOptions.Text.Quoted

/-! Local functions that are called on a model's behalf, and data handed to them on the side. -/

namespace ChatOptions

/-- Data handed to callbacks when they are called. -/
abbrev ToolContext := SortedMap Value

/-- A local function. Callbacks are told apart by an identity that no two share, whatever else they have in common. -/
structure Callback where
  identity : Nat
  name : String
  description : String
  schema : Value
  /-- The reply to arguments given as JSON text, or the reason why there is none. -/
  call : String → Option ToolContext → Except String String

namespace Callback

/-- Callbacks are equal when they are the same one. -/
instance : BEq Callback := ⟨fun first second => first.identity == second.identity⟩

/-- The tool that offers a callback to a model. -/
def toTool (callback : Callback) : Tool :=
  .ofFunction callback.name callback.description callback.schema

/-- A callback as messages name it. -/
def message (callback : Callback) : String :=
  "FunctionCallbackHandle(" ++ messageQuoted callback.name ++ ")"

/-- The hash writes of a callback. -/
def writes (callback : Callback) : List HashWrite := [.word (UInt64.ofNat callback.identity)]

end Callback

end ChatOptions
