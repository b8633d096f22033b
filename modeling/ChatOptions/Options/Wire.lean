import ChatOptions.Options
import ChatOptions.Json.Text
import ChatOptions.Json.Reader

/-! The form in which options are sent: the members that a request says, and nothing of what stays in process. -/

namespace ChatOptions

namespace Json

/-- A word as JSON. -/
def ofUInt64 (value : UInt64) : Json := .number (.ofUInt64 value)

/-- A double as JSON, by the number that it stands for. -/
def ofDouble (value : Double) : Json := .ofFloat value.toFloat

/-- A list as JSON. -/
def ofList {α : Type} (form : α → Json) (parts : List α) : Json := .array (parts.map form)

end Json

namespace Request

/-- Every member of a request with its JSON form, in the order in which they are written, where a member may be absent. -/
def parts (request : Request) : List (String × Option Json) := [
  ("model", request.model.map .string),
  ("temperature", request.temperature.map .ofDouble),
  ("top_p", request.topP.map .ofDouble),
  ("max_tokens", request.maxTokens.map fun tokens => .ofUInt64 tokens.toUInt64),
  ("safe_prompt", request.safePrompt.map .bool),
  ("random_seed", request.randomSeed.map .ofUInt64),
  ("response_format", request.responseFormat.map (·.toJson)),
  ("stop", request.stop.map (.ofList .string)),
  ("tools", request.tools.map (.ofList (·.toJson))),
  ("tool_choice", request.toolChoice.map (·.toJson))]

/-- The JSON form of a request: the members that are present. -/
def toJson (request : Request) : Json :=
  .object (request.parts.filterMap fun (name, form) => form.map fun json => (name, json))

/-- The members of a request as fields, which are absent in one of the ways that fields can be. -/
def fields {D : Type → Type} [DocumentFormat D] (presence : Presence) : List (Field D Request) := [
  .optional "model" Format.string (fun model request => { request with model := model }) presence,
  .optional "temperature" DocumentFormat.double
    (fun temperature request => { request with temperature := temperature }) presence,
  .optional "top_p" DocumentFormat.double
    (fun topP request => { request with topP := topP }) presence,
  .optional "max_tokens" DocumentFormat.word32
    (fun tokens request => { request with maxTokens := tokens }) presence,
  .optional "safe_prompt" Format.boolean
    (fun safe request => { request with safePrompt := safe }) presence,
  .optional "random_seed" DocumentFormat.word64
    (fun seed request => { request with randomSeed := seed }) presence,
  .optional "response_format" ResponseFormat.reader
    (fun format request => { request with responseFormat := format }) presence,
  .optional "stop" (DocumentFormat.list Format.string)
    (fun stop request => { request with stop := stop }) presence,
  .optional "tools" (DocumentFormat.list Tool.reader)
    (fun tools request => { request with tools := tools }) presence,
  .optional "tool_choice" ToolChoice.reader
    (fun choice request => { request with toolChoice := choice }) presence]

/-- The record that a request is read as. Members that no request has are passed over. -/
def record {D : Type → Type} [DocumentFormat D] : Record D Request where
  name := "struct ChatOptions"
  fields := fields .optional
  strict := false
  blank := {}

/-- Reads a request. -/
def reader {D : Type → Type} [DocumentFormat D] : D Request := Format.record record

end Request

namespace Options

/-- Reads options from their wire form, which says nothing of what stays in process. -/
def reader {D : Type → Type} [DocumentFormat D] : D Options :=
  Format.map Options.ofRequest Request.reader

/-- The wire form of options as JSON text, members in their own order. -/
def wireText (options : Options) : String := options.toRequest.toJson.render

/-- The wire form of options as a JSON value. -/
def wireValue (options : Options) : Value := .ofJson options.toRequest.toJson

/-- Reads options from JSON text in wire form. -/
def ofWireText (text : String) : Except Json.Fault Options := Json.Reader.read reader text

end Options

end ChatOptions
