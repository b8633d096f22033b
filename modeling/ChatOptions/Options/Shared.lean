import ChatOptions.Options
import ChatOptions.Parameter

/-! What the options of every provider have to say. -/

namespace ChatOptions

/-- The options of a call as they can be read without knowing the provider. A parameter that the provider does not support is absent. -/
structure SharedOptions where
  capabilities : Capabilities
  model : Option String
  temperature : Option Double
  topP : Option Double
  maxTokens : Option UInt32
  stopSequences : Option (List String)
  frequencyPenalty : Option Double := none
  presencePenalty : Option Double := none
  topK : Option UInt32 := none
  callbacks : List Callback
  functions : NameSet
  proxyToolCalls : Option Bool
  toolContext : Option ToolContext

namespace Options

/-- The texts at which generation stops, under the name that providers share. -/
def stopSequences (options : Options) : Option (List String) := options.stop

/-- Options as they can be read without knowing the provider. -/
def shared (options : Options) : SharedOptions where
  capabilities := .mistral
  model := options.model
  temperature := options.temperature
  topP := options.topP
  maxTokens := options.maxTokens
  stopSequences := options.stopSequences
  callbacks := options.callbacks
  functions := options.functions
  proxyToolCalls := options.proxyToolCalls
  toolContext := options.toolContext

end Options

end ChatOptions
