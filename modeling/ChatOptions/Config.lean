import ChatOptions.Config.Error
import ChatOptions.Config.Interpolation
import ChatOptions.Options.Builder
import ChatOptions.Options.Wire
import ChatOptions.Yaml.Reader

/-! Default options as a configuration gives them. -/

namespace ChatOptions

/-- The formats of configurations. -/
inductive ConfigFormat where
  | json
  | yaml
deriving DecidableEq, Repr

/-- What a configuration says: all options but the callbacks, which no file can hold. -/
structure Config extends Request where
  /-- The names of registered callbacks enabled by default. -/
  functions : List String := []
  proxyToolCalls : Option Bool := none
  toolContext : Option ToolContext := none
deriving Inhabited

namespace Config

/-- Whether two configurations agree in every part. Doubles agree as numbers, so the two zeros are the same and NaN differs from itself. -/
protected def beq (first second : Config) : Bool :=
  first.model == second.model &&
    first.temperature == second.temperature &&
    first.topP == second.topP &&
    first.maxTokens == second.maxTokens &&
    first.safePrompt == second.safePrompt &&
    first.randomSeed == second.randomSeed &&
    first.responseFormat == second.responseFormat &&
    first.stop == second.stop &&
    first.tools == second.tools &&
    first.toolChoice == second.toolChoice &&
    first.functions == second.functions &&
    first.proxyToolCalls == second.proxyToolCalls &&
    first.toolContext == second.toolContext

instance : BEq Config := ⟨Config.beq⟩

/-- The members of a configuration that no request has, with their JSON forms, where a member may be absent. -/
def localParts (config : Config) : List (String × Option Json) := [
  ("functions", some (.ofList .string config.functions)),
  ("proxy_tool_calls", config.proxyToolCalls.map .bool),
  ("tool_context", config.toolContext.map fun context => (Value.ofMap context).tree)]

/-- The JSON form of a configuration, in which what is absent is null. -/
def toJson (config : Config) : Json :=
  .object ((config.toRequest.parts ++ config.localParts).map
    fun (name, form) => (name, form.getD .null))

/-- A configuration as JSON text. -/
def text (config : Config) : String := config.toJson.render

/-- The members of a configuration that no request has, as fields. -/
def localFields {D : Type → Type} [DocumentFormat D] : List (Field D Config) := [
  .defaulted "functions" (DocumentFormat.list Format.string)
    fun names config => { config with functions := names },
  .optional "proxy_tool_calls" Format.boolean
    (fun proxy config => { config with proxyToolCalls := proxy }) .defaulted,
  .optional "tool_context" (DocumentFormat.members Format.value)
    (fun entries config => { config with toolContext := entries.map .ofList }) .defaulted]

/-- The members of a configuration as fields. -/
def fields {D : Type → Type} [DocumentFormat D] : List (Field D Config) :=
  (Request.fields .defaulted).map (.within fun update config =>
    { config with toRequest := update config.toRequest }) ++ localFields

/-- The record that a configuration is read as, in which a member that is not known is refused. -/
def record {D : Type → Type} [DocumentFormat D] : Record D Config where
  name := "struct ChatOptionsConfig"
  fields := fields
  strict := true
  blank := {}

/-- Reads a configuration. -/
def reader {D : Type → Type} [DocumentFormat D] : D Config := Format.record record

/-- A builder after a setting for a part that may be absent. -/
def setting {α : Type} (set : Builder → α → Builder) (builder : Builder) : Option α → Builder
  | none => builder
  | some part => set builder part

/-- The options that a configuration describes, unless it names a function by nothing but blanks. -/
def toOptions (config : Config) : Except OptionsError Options := do
  let builder := Builder.new
  let builder := setting .model builder config.model
  let builder := setting .temperature builder config.temperature
  let builder := setting .topP builder config.topP
  let builder := setting .maxTokens builder config.maxTokens
  let builder := setting .safePrompt builder config.safePrompt
  let builder := setting .randomSeed builder config.randomSeed
  let builder := setting .responseFormat builder config.responseFormat
  let builder := setting .stop builder config.stop
  let builder := setting .tools builder config.tools
  let builder := setting .toolChoice builder config.toolChoice
  -- Names are enabled one by one, so that a blank one is refused.
  let builder ← config.functions.foldlM Builder.function builder
  let builder := setting .proxyToolCalls builder config.proxyToolCalls
  -- The keys of one context are distinct, so nothing is overwritten and there is no notice.
  let builder := setting (fun builder (context : ToolContext) =>
    (builder.toolContext context.entries).1) builder config.toolContext
  return builder.build

/-- A text with its references to environment variables replaced. -/
def interpolated (environment : Environment) (text : String) : Except ConfigError String :=
  (interpolate environment text).mapError .variableNotFound

/-- Reads a configuration from text, which errors name by a path. -/
def ofText (format : ConfigFormat) (path text : String) : Except ConfigError Config :=
  match format with
  | .json =>
    (Json.Reader.read reader text).mapError fun fault =>
      .parse path (some fault.line) (some fault.column) fault.message
  | .yaml =>
    (Yaml.Reader.read reader text).mapError fun fault =>
      .parse path fault.line? fault.column? fault.message

end Config

namespace Options

/-- What errors name as the path of text that is given directly. -/
def inlinePath : String := "<inline>"

/-- Default options from the text of a configuration found at a path. -/
def ofTextAt (environment : Environment) (format : ConfigFormat) (path text : String) :
    Except ConfigError Options := do
  -- References are replaced in the text, before anything is known of its format.
  let text ← Config.interpolated environment text
  let config ← Config.ofText format path text
  config.toOptions.mapError .options

/-- Default options from the text of a configuration. -/
def ofText (environment : Environment) (format : ConfigFormat) (text : String) :
    Except ConfigError Options :=
  ofTextAt environment format inlinePath text

end Options

end ChatOptions
