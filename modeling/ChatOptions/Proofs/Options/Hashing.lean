import ChatOptions.Options.Builder
import ChatOptions.Proofs.Json.Digest
import ChatOptions.Proofs.Json.Normal
import ChatOptions.Proofs.Options.Equality

/-! Equal options feed a hash function alike, so a set of options keeps one of each. -/

namespace ChatOptions

/-- Equal schemas make equal writes. -/
theorem NamedSchema.equalWrites (hash : HashFunction) : EqualWrites (NamedSchema.writes hash) := by
  intro first second equal
  -- Only the schema may differ in equal values, and it makes equal writes.
  obtain ⟨names, descriptions, schemas, stricts⟩ := NamedSchema.beq_iff.mp equal
  simp only [writes, names, descriptions, stricts, Value.equalWrites hash schemas]

/-- Equal functions make equal writes. -/
theorem FunctionDefinition.equalWrites (hash : HashFunction) :
    EqualWrites (FunctionDefinition.writes hash) := by
  intro first second equal
  -- Only the parameters may differ in equal values, and they make equal writes.
  obtain ⟨names, descriptions, parameters⟩ := FunctionDefinition.beq_iff.mp equal
  simp only [writes, names, descriptions, Value.equalWrites hash parameters]

/-- Equal tools make equal writes. -/
theorem Tool.equalWrites (hash : HashFunction) : EqualWrites (Tool.writes hash) :=
  fun _ _ equal => FunctionDefinition.equalWrites hash (Tool.beq_iff.mp equal)

/-- Equal output shapes make equal writes. -/
theorem ResponseFormat.equalWrites (hash : HashFunction) :
    EqualWrites (ResponseFormat.writes hash) := by
  intro first second equal
  -- Equal shapes are the same, but for the schemas that they hold.
  rcases ResponseFormat.beq_cases equal with same | ⟨schema, other, rfl, rfl, schemas⟩
  · rw [same]
  · simp only [writes, NamedSchema.equalWrites hash schemas]

/-- Equal choices make equal writes. -/
theorem ToolChoice.equalWrites : EqualWrites ToolChoice.writes := .of_lawful _

/-- Callbacks that are the same one make equal writes. -/
theorem Callback.equalWrites : EqualWrites Callback.writes := by
  intro first second equal
  -- A callback writes its identity and nothing of what it does.
  have same : first.identity = second.identity := beq_iff_eq.mp equal
  rw [writes, writes, same]

/-- Doubles that are the same make equal writes, although the bits of a NaN may differ. -/
theorem Double.writes_eq {first second : Option Double} (same : Option.Rel Same first second) :
    Double.writes first = Double.writes second := by
  -- What is written is the key, by which doubles are compared.
  have keys : first.map key = second.map key := beq_iff_eq.mp (same_iff.mpr same)
  rw [Double.writes, Double.writes, keys]

namespace Options

/-- Equal contexts make equal writes: the keys are the same in the same order. -/
theorem contextWrites_equal (hash : HashFunction) : EqualWrites (contextWrites hash) := by
  have entry : EqualWrites fun entry : String × Value => .text entry.1 :: entry.2.writes hash := by
    rintro ⟨key, value⟩ ⟨other, held⟩ equal
    obtain ⟨keys, values⟩ := (Bool.and_eq_true ..).mp equal
    simp only [beq_iff_eq.mp keys, Value.equalWrites hash values]
  rintro (_ | first) (_ | second) equal
  · rfl
  · cases equal
  · cases equal
  · -- The writes of a context that is there are those of the list of its entries.
    exact congrArg (HashWrite.byte 1 :: ·) (entry.list equal)

/-- Equal options make equal writes. -/
theorem equalWrites (hash : HashFunction) : EqualWrites (Options.writes hash) := by
  intro first second equal
  obtain ⟨models, temperatures, topPs, tokens, prompts, seeds, formats, stops, tools, choices,
    callbacks, functions, proxies, contexts⟩ := beq_iff.mp equal
  simp only [writes, models, Double.writes_eq temperatures, Double.writes_eq topPs, tokens, prompts,
    seeds, stops, choices, functions, proxies, (ResponseFormat.equalWrites hash).option formats,
    (Tool.equalWrites hash).list.option tools, Callback.equalWrites.list callbacks,
    contextWrites_equal hash contexts]

/--
What is equal feeds every hash function alike: options, output shapes, schemas, functions, tools, tool choices and JSON values.

Hence digests agree, whatever was hashed before.
In particular nothing is left in the writes of the sign of a zero inside JSON, the order in which members were listed, the payload of a double that is no number, or the order and repeats of function names.
-/
theorem equal_parts_hash_equal (hash : HashFunction) :
    EqualWrites (Options.writes hash) ∧
      EqualWrites (ResponseFormat.writes hash) ∧
      EqualWrites (NamedSchema.writes hash) ∧
      EqualWrites (FunctionDefinition.writes hash) ∧
      EqualWrites (Tool.writes hash) ∧
      EqualWrites ToolChoice.writes ∧
      EqualWrites (Value.writes hash) ∧
      (∀ (first second : Options) (digest : HashFunction) (before : List HashWrite),
        (first == second) = true →
          digest (before ++ first.writes hash) = digest (before ++ second.writes hash)) ∧
      (∀ (first second : Float) (finite : first.isFinite = true) (alsoFinite : second.isFinite = true),
        (first == second) = true →
          (Number.float first finite).writes = (Number.float second alsoFinite).writes) ∧
      (∀ first second : List (String × Json), first.Perm second → (first.map Prod.fst).Nodup →
        (Value.ofJson (.object first)).writes hash = (Value.ofJson (.object second)).writes hash) ∧
      (∀ (builder : Builder) (first second : Double),
        first.isNaN = true → second.isNaN = true →
          (builder.temperature first).build.writes hash
            = (builder.temperature second).build.writes hash ∧
          (builder.topP first).build.writes hash = (builder.topP second).build.writes hash) ∧
      (∀ (builder : Builder) (first second : List String),
        (∀ name, name ∈ first ↔ name ∈ second) →
          (builder.functions first).build.writes hash
            = (builder.functions second).build.writes hash) := by
  refine ⟨equalWrites hash, ResponseFormat.equalWrites hash, NamedSchema.equalWrites hash,
    FunctionDefinition.equalWrites hash, Tool.equalWrites hash, ToolChoice.equalWrites,
    Value.equalWrites hash, ?digests, ?zeros, ?members, ?payloads, ?names⟩
  case digests =>
    intro first second digest before equal
    rw [equalWrites hash equal]
  case zeros =>
    intro first second finite alsoFinite equal
    exact Number.writes_eq equal
  case members =>
    intro first second shuffled distinct
    rw [Value.ofJson_object_perm shuffled distinct]
  case payloads =>
    intro builder first second none alsoNone
    -- All that is written of a double that is no number is the key that all of them share.
    have same : Double.writes (some first) = Double.writes (some second) :=
      Double.writes_eq (.some (.inl ⟨none, alsoNone⟩))
    simp only [writes, Builder.temperature, Builder.topP, Builder.build, same, and_self]
  case names =>
    intro builder first second same
    -- A set does not say in which order or how often its names were given.
    simp only [Builder.functions, NameSet.ofNames_congr same]

/-- Two ways to say the same feed a hash function alike: a temperature that is no number spelled by other bits, names in another order and repeated, members in another order, and a zero of the other sign. -/
theorem equal_parts_hash_equal_example :
    let shape (members : List (String × Json)) : ResponseFormat :=
      .ofSchema "shape" (.ofJson (.object members))
    let quiet : Double := ⟨0x7ff8000000000000⟩
    let signaling : Double := ⟨0xfff0000000000001⟩
    let first := ((Builder.new.functions ["time", "weather", "time"]).responseFormat
      (shape [("zero", .number (.float 0.0 rfl)), ("text", .null)]))
    let second := ((Builder.new.functions ["weather", "time"]).responseFormat
      (shape [("text", .null), ("zero", .number (.float (-0.0) rfl))]))
    let hash : HashFunction := fun writes => UInt64.ofNat writes.length
    quiet.isNaN = true ∧ signaling.isNaN = true ∧ quiet ≠ signaling
    ∧ ((first.temperature quiet).build == (second.temperature signaling).build) = true
    ∧ (first.temperature quiet).build.writes hash = (second.temperature signaling).build.writes hash
    ∧ (first.temperature quiet).build.writes hash = (first.temperature signaling).build.writes hash
    ∧ (first.topP quiet).build.writes hash = (first.topP signaling).build.writes hash := by
  intro shape quiet signaling first second hash
  -- The two are compared by computing, and the writes follow from the theorem.
  have equal : ((first.temperature quiet).build == (second.temperature signaling).build) = true := by
    decide +kernel
  obtain ⟨options, _, _, _, _, _, _, _, _, _, payloads, _⟩ := equal_parts_hash_equal hash
  obtain ⟨temperature, topP⟩ := payloads first quiet signaling (by decide) (by decide)
  exact ⟨by decide, by decide, by decide, equal, options equal, temperature, topP⟩

end Options

end ChatOptions
