import ChatOptions.Error
import ChatOptions.Reading.Format

/-! The parameters that chat options may carry, and which of them a provider supports. -/

namespace ChatOptions

/-- A parameter that chat options of some provider may carry. -/
inductive Parameter where
  | model
  | temperature
  | topP
  | topK
  | maxTokens
  | frequencyPenalty
  | presencePenalty
  | stopSequences
  | safePrompt
  | randomSeed
  | responseFormat
  | tools
  | toolChoice
  | functionCallbacks
  | functions
  | proxyToolCalls
  | toolContext
deriving DecidableEq, Repr

namespace Parameter

/-- Every parameter, in the order in which parameters are sorted. -/
def all : List Parameter :=
  [.model, .temperature, .topP, .topK, .maxTokens, .frequencyPenalty, .presencePenalty,
    .stopSequences, .safePrompt, .randomSeed, .responseFormat, .tools, .toolChoice,
    .functionCallbacks, .functions, .proxyToolCalls, .toolContext]

/-- The name of a parameter. -/
def name : Parameter → String
  | .model => "model"
  | .temperature => "temperature"
  | .topP => "top_p"
  | .topK => "top_k"
  | .maxTokens => "max_tokens"
  | .frequencyPenalty => "frequency_penalty"
  | .presencePenalty => "presence_penalty"
  | .stopSequences => "stop_sequences"
  | .safePrompt => "safe_prompt"
  | .randomSeed => "random_seed"
  | .responseFormat => "response_format"
  | .tools => "tools"
  | .toolChoice => "tool_choice"
  | .functionCallbacks => "function_callbacks"
  | .functions => "functions"
  | .proxyToolCalls => "proxy_tool_calls"
  | .toolContext => "tool_context"

/-- The place of a parameter in the order of parameters. -/
def rank (parameter : Parameter) : Nat := all.idxOf parameter

/-- Whether a parameter is sent to the remote service, and not consumed in process. -/
def isWireFacing : Parameter → Bool
  | .functionCallbacks | .functions | .proxyToolCalls | .toolContext => false
  | _ => true

/-- The JSON form of a parameter is its name. -/
def toJson (parameter : Parameter) : Json := .string parameter.name

/-- Reads a parameter by its name. -/
def reader {D : Type → Type} [Format D] : D Parameter :=
  Format.choice (all.map fun parameter => (parameter.name, parameter))

end Parameter

/-- The parameters that a provider supports. -/
structure Capabilities where
  provider : String
  supported : List Parameter
deriving DecidableEq, Repr

namespace Capabilities

/-- Whether a parameter is supported. -/
def supports (capabilities : Capabilities) (parameter : Parameter) : Bool :=
  capabilities.supported.contains parameter

/-- The parameters that are not supported, in order. -/
def unsupported (capabilities : Capabilities) : List Parameter :=
  Parameter.all.filter fun parameter => !capabilities.supports parameter

/-- Accepts a parameter that is supported. -/
def check (capabilities : Capabilities) (parameter : Parameter) : Except OptionsError Unit :=
  if capabilities.supports parameter then .ok ()
  else .error (.unsupportedParameter capabilities.provider parameter.name)

/-- What the Mistral chat API supports. -/
def mistral : Capabilities where
  provider := "mistral"
  supported :=
    [.model, .temperature, .topP, .maxTokens, .stopSequences, .safePrompt, .randomSeed,
      .responseFormat, .tools, .toolChoice, .functionCallbacks, .functions, .proxyToolCalls,
      .toolContext]

end Capabilities

end ChatOptions
