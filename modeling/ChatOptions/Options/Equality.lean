import ChatOptions.Options

/-! When options are equal, and what they feed to a hash function. -/

namespace ChatOptions

/-- The hash writes of a double that may be absent, by its key. -/
def Double.writes (value : Option Double) : List HashWrite :=
  HashWrite.option ([.word ·]) (value.map key)

namespace Options

/-- Whether two options agree in every part. Doubles agree by their keys, which all NaNs share and the two zeros do not. -/
protected def beq (first second : Options) : Bool :=
  first.model == second.model &&
    Double.same first.temperature second.temperature &&
    Double.same first.topP second.topP &&
    first.maxTokens == second.maxTokens &&
    first.safePrompt == second.safePrompt &&
    first.randomSeed == second.randomSeed &&
    first.responseFormat == second.responseFormat &&
    first.stop == second.stop &&
    first.tools == second.tools &&
    first.toolChoice == second.toolChoice &&
    first.callbacks == second.callbacks &&
    first.functions == second.functions &&
    first.proxyToolCalls == second.proxyToolCalls &&
    first.toolContext == second.toolContext

instance : BEq Options := ⟨Options.beq⟩

/-- The hash writes of a context that may be absent: whether it is there, its size, and then each key with its value. -/
def contextWrites (hash : HashFunction) : Option ToolContext → List HashWrite
  | none => [.byte 0]
  | some context =>
    .byte 1 :: .length context.size ::
      context.entries.flatMap fun (key, value) => .text key :: value.writes hash

/-- What options feed to a hash function, part by part. -/
def writes (hash : HashFunction) (options : Options) : List HashWrite :=
  HashWrite.option ([.text ·]) options.model ++
    Double.writes options.temperature ++
    Double.writes options.topP ++
    HashWrite.option ([.short ·]) options.maxTokens ++
    HashWrite.option ([.bool ·]) options.safePrompt ++
    HashWrite.option ([.word ·]) options.randomSeed ++
    HashWrite.option (·.writes hash) options.responseFormat ++
    HashWrite.option (HashWrite.list ([.text ·])) options.stop ++
    HashWrite.option (HashWrite.list (·.writes hash)) options.tools ++
    HashWrite.option (·.writes) options.toolChoice ++
    HashWrite.list (·.writes) options.callbacks ++
    HashWrite.list ([.text ·]) options.functions.toList ++
    HashWrite.option ([.bool ·]) options.proxyToolCalls ++
    contextWrites hash options.toolContext

end Options

end ChatOptions
