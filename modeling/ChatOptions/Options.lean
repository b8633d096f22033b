import ChatOptions.Callback
import ChatOptions.Decimal.Double

/-! The options of a chat call: what the request says, and what stays in process. -/

namespace ChatOptions

/-- What a chat request says besides the messages. -/
structure Request where
  /-- The identifier of the model. -/
  model : Option String := none
  /-- The sampling temperature. -/
  temperature : Option Double := none
  /-- The probability mass of nucleus sampling. -/
  topP : Option Double := none
  /-- The largest number of tokens to generate. -/
  maxTokens : Option UInt32 := none
  /-- Whether a safety prompt precedes all conversations. -/
  safePrompt : Option Bool := none
  /-- The seed for repeatable sampling. -/
  randomSeed : Option UInt64 := none
  responseFormat : Option ResponseFormat := none
  /-- Texts at which generation stops. -/
  stop : Option (List String) := none
  tools : Option (List Tool) := none
  toolChoice : Option ToolChoice := none
deriving Inhabited

/-- The options of a chat call. -/
structure Options extends Request where
  /-- Callbacks enabled for the call. -/
  callbacks : List Callback := []
  /-- The names of registered callbacks enabled for the call. -/
  functions : NameSet := .empty
  /-- Whether tool calls are left to the caller. -/
  proxyToolCalls : Option Bool := none
  toolContext : Option ToolContext := none
deriving Inhabited

namespace Options

/-- Options without anything but what a request says. -/
def ofRequest (request : Request) : Options := { toRequest := request }

/-- Options without what stays in process. -/
def withoutLocal (options : Options) : Options :=
  { options with callbacks := [], functions := .empty, proxyToolCalls := none, toolContext := none }

end Options

end ChatOptions
