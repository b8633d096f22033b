import ChatOptions.Error
import ChatOptions.Notice
import ChatOptions.Options
import ChatOptions.Text.Blank

/-! Options put together step by step. -/

namespace ChatOptions

/-- Options being put together. -/
structure Builder where
  options : Options
deriving Inhabited

namespace Builder

/-- A builder without any settings. -/
def new : Builder := ⟨{}⟩

/-- A builder that starts from other options. -/
def ofOptions (source : Options) : Builder := ⟨source⟩

/-- The options put together. -/
def build (builder : Builder) : Options := builder.options

/-- Sets the identifier of the model. -/
def model (builder : Builder) (model : String) : Builder :=
  { builder with options.model := some model }

/-- Sets the sampling temperature. -/
def temperature (builder : Builder) (temperature : Double) : Builder :=
  { builder with options.temperature := some temperature }

/-- Sets the probability mass of nucleus sampling. -/
def topP (builder : Builder) (topP : Double) : Builder :=
  { builder with options.topP := some topP }

/-- Sets the largest number of tokens. -/
def maxTokens (builder : Builder) (tokens : UInt32) : Builder :=
  { builder with options.maxTokens := some tokens }

/-- Sets whether a safety prompt comes first. -/
def safePrompt (builder : Builder) (safe : Bool) : Builder :=
  { builder with options.safePrompt := some safe }

/-- Sets the seed for repeatable sampling. -/
def randomSeed (builder : Builder) (seed : UInt64) : Builder :=
  { builder with options.randomSeed := some seed }

/-- Sets the shape of the output. -/
def responseFormat (builder : Builder) (format : ResponseFormat) : Builder :=
  { builder with options.responseFormat := some format }

/-- Sets the texts at which generation stops. -/
def stop (builder : Builder) (texts : List String) : Builder :=
  { builder with options.stop := some texts }

/-- Adds a text at which generation stops. -/
def stopSequence (builder : Builder) (text : String) : Builder :=
  { builder with options.stop := some (builder.options.stop.getD [] ++ [text]) }

/-- Sets the tools offered to the model. -/
def tools (builder : Builder) (tools : List Tool) : Builder :=
  { builder with options.tools := some tools }

/-- Sets what the model may do with its tools. -/
def toolChoice (builder : Builder) (choice : ToolChoice) : Builder :=
  { builder with options.toolChoice := some choice }

/-- Sets the callbacks enabled for the call. -/
def callbacks (builder : Builder) (callbacks : List Callback) : Builder :=
  { builder with options.callbacks := callbacks }

/-- Adds a callback to those enabled. -/
def callback (builder : Builder) (callback : Callback) : Builder :=
  { builder with options.callbacks := builder.options.callbacks ++ [callback] }

/-- Sets the names of registered callbacks enabled for the call, which may be any. -/
def functions (builder : Builder) (names : List String) : Builder :=
  { builder with options.functions := .ofNames names }

/-- Enables a registered callback by name, which must not be blank. -/
def function (builder : Builder) (name : String) : Except OptionsError Builder :=
  if isBlank name then .error .blankFunctionName
  else .ok { builder with options.functions := builder.options.functions.add name }

/-- Sets whether tool calls are left to the caller. -/
def proxyToolCalls (builder : Builder) (proxy : Bool) : Builder :=
  { builder with options.proxyToolCalls := some proxy }

/-- A context with entries merged into it in order, and a notice for each that gave way. -/
def merge : ToolContext → List (String × Value) → ToolContext × List Notice
  | context, [] => (context, [])
  | context, (key, value) :: entries =>
    let (merged, notices) := merge (context.insert key value) entries
    (merged, if context.contains key then .contextOverwritten key :: notices else notices)

/-- Merges entries into the tool context, which is there from then on. -/
def toolContext (builder : Builder) (entries : List (String × Value)) : Builder × List Notice :=
  let (context, notices) := merge (builder.options.toolContext.getD .empty) entries
  ({ builder with options.toolContext := some context }, notices)

end Builder

/-- A step of putting options together. -/
inductive Setting where
  | model (id : String)
  | temperature (value : Double)
  | topP (value : Double)
  | maxTokens (value : UInt32)
  | safePrompt (value : Bool)
  | randomSeed (value : UInt64)
  | responseFormat (format : ResponseFormat)
  | stop (texts : List String)
  | stopSequence (text : String)
  | tools (tools : List Tool)
  | toolChoice (choice : ToolChoice)
  | callbacks (callbacks : List Callback)
  | callback (callback : Callback)
  | functions (names : List String)
  | function (name : String)
  | proxyToolCalls (value : Bool)
  | toolContext (entries : List (String × Value))

/-- The builder after a step, with the notices that the step gave rise to. -/
def Builder.set (builder : Builder) : Setting → Except OptionsError (Builder × List Notice)
  | .model id => .ok (builder.model id, [])
  | .temperature value => .ok (builder.temperature value, [])
  | .topP value => .ok (builder.topP value, [])
  | .maxTokens value => .ok (builder.maxTokens value, [])
  | .safePrompt value => .ok (builder.safePrompt value, [])
  | .randomSeed value => .ok (builder.randomSeed value, [])
  | .responseFormat format => .ok (builder.responseFormat format, [])
  | .stop texts => .ok (builder.stop texts, [])
  | .stopSequence text => .ok (builder.stopSequence text, [])
  | .tools tools => .ok (builder.tools tools, [])
  | .toolChoice choice => .ok (builder.toolChoice choice, [])
  | .callbacks callbacks => .ok (builder.callbacks callbacks, [])
  | .callback callback => .ok (builder.callback callback, [])
  | .functions names => .ok (builder.functions names, [])
  | .function name => (builder.function name).map (·, [])
  | .proxyToolCalls value => .ok (builder.proxyToolCalls value, [])
  | .toolContext entries => .ok (builder.toolContext entries)

/-- The builder after some steps, one after the other, with all their notices; the first step that fails ends them. -/
def Builder.run : Builder → List Setting → Except OptionsError (Builder × List Notice)
  | builder, [] => .ok (builder, [])
  | builder, setting :: settings => do
    let (next, notices) ← builder.set setting
    let (last, more) ← next.run settings
    return (last, notices ++ more)

namespace Options

/-- A builder that starts from these options. -/
def toBuilder (options : Options) : Builder := .ofOptions options

/-- A copy of the options, which is independent of them as every value is. -/
def copy (options : Options) : Options := options.toBuilder.build

end Options

end ChatOptions
