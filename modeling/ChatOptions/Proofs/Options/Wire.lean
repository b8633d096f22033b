import ChatOptions.Options.Wire
import ChatOptions.Proofs.Decimal.Double
import ChatOptions.Proofs.Json.Reader

/-! Options that are sent are read back: the wire form loses nothing but what stays in process. -/

namespace ChatOptions

open TreeFormat (Reads)

/-- The member of a part that is left out where it is absent. -/
theorem Json.optionalMember_eq_written {α : Type} (name : String) (form : α → Json)
    (part : Option α) : Json.optionalMember name form part = Json.written false (name, part.map form) := by
  cases part <;> rfl

section Parts

variable {D : Type → Type} [Format D] [TreeFormat D] [LawfulFormat D]

/-- A schema is read from its form. -/
theorem NamedSchema.reads_toJson (schema : NamedSchema) :
    Reads (NamedSchema.reader : D NamedSchema) schema.toJson schema := by
  rw [toJson, Json.optionalMember_eq_written, Json.optionalMember_eq_written]
  simp only [List.append_assoc, List.singleton_append]
  -- The last optional member has nothing behind it, which is made explicit.
  rw [← List.append_nil (Json.written false ("strict", _))]
  refine LawfulFormat.record (by simp [Field.required, Field.optional]) ?_
  refine .required (LawfulFormat.string _) ?_
  refine .part false (fun text _ => ⟨Json.noConfusion, LawfulFormat.string text⟩)
    (by decide) rfl ?_
  refine .required (LawfulFormat.value _) ?_
  refine .part false (fun strict _ => ⟨Json.noConfusion, LawfulFormat.boolean strict⟩)
    (by decide) rfl ?_
  exact .nil

/-- A function is read from its form. -/
theorem FunctionDefinition.reads_toJson (function : FunctionDefinition) :
    Reads (FunctionDefinition.reader : D FunctionDefinition) function.toJson function := by
  rw [toJson, Json.optionalMember_eq_written, List.singleton_append, List.cons_append]
  refine LawfulFormat.record (by simp [Field.required, Field.optional]) ?_
  refine .required (LawfulFormat.string _) ?_
  refine .part false (fun text _ => ⟨Json.noConfusion, LawfulFormat.string text⟩)
    (by decide) rfl ?_
  refine .required (LawfulFormat.value _) ?_
  exact .nil

/-- A kind of tool is read from its name. -/
theorem ToolKind.reads_toJson (kind : ToolKind) :
    Reads (ToolKind.reader : D ToolKind) kind.toJson kind := by
  -- There is one kind, and it is found by its name.
  cases kind
  exact LawfulFormat.choice rfl

/-- A tool is read from its form. -/
theorem Tool.reads_toJson (tool : Tool) : Reads (Tool.reader : D Tool) tool.toJson tool := by
  refine LawfulFormat.record (by simp [Field.required, Field.defaulted]) ?_
  refine .defaulted (ToolKind.reads_toJson tool.kind) ?_
  refine .required (FunctionDefinition.reads_toJson tool.function) ?_
  exact .nil

/-- A mode is read from its name. -/
theorem ToolChoiceMode.reads_toJson (mode : ToolChoiceMode) :
    Reads (ToolChoiceMode.reader : D ToolChoiceMode) mode.toJson mode := by
  -- Each of the modes is found by its name.
  cases mode <;> exact LawfulFormat.choice rfl

/-- A function that has to be called is read from its form. -/
theorem FunctionChoice.reads_toJson (choice : FunctionChoice) :
    Reads (FunctionChoice.reader : D FunctionChoice) choice.toJson choice := by
  refine LawfulFormat.record (by simp [Field.required]) ?_
  refine .required (LawfulFormat.string _) ?_
  exact .nil

end Parts

/-- The choice of a function is read from its form. -/
theorem ToolChoice.reads_function (kind : ToolKind) (choice : FunctionChoice) :
    Reads ToolChoice.functionReader (toJson (.function kind choice)) (.function kind choice) := by
  -- The two parts are read as a record, and the choice is made of both.
  have parts : Reads (ContentReader.record functionRecord) (toJson (.function kind choice))
      (kind, choice) := by
    refine LawfulFormat.record (D := ContentReader) (by simp [functionRecord, Field.required]) ?_
    refine .required (ToolKind.reads_toJson kind) ?_
    refine .required (FunctionChoice.reads_toJson choice) ?_
    exact .nil
  exact congrArg (fun read : Except Refusal (ToolKind × FunctionChoice) =>
    read >>= fun parts => Except.ok (ToolChoice.function parts.1 parts.2)) parts

/-- A choice is read from its form, of which only one of the two shapes fits. -/
theorem ToolChoice.reads_toJson (choice : ToolChoice) :
    Reads ToolChoice.contentReader choice.toJson choice := by
  cases choice with
  | mode chosen =>
    -- A mode is a string, so the first shape fits.
    have read : (ToolChoiceMode.reader : ContentReader ToolChoiceMode) chosen.toJson.content
        = .ok chosen := ToolChoiceMode.reads_toJson (D := ContentReader) chosen
    show contentReader chosen.toJson.content = .ok (.mode chosen)
    simp only [contentReader, read]
  | function kind choice =>
    have read : functionReader (toJson (.function kind choice)).content
        = .ok (.function kind choice) := reads_function kind choice
    -- An object of two members is no mode, so the second shape is tried.
    have refused : (ToolChoiceMode.reader : ContentReader ToolChoiceMode)
        (toJson (.function kind choice)).content
        = .error (.wrongValue .map "map with a single key") := rfl
    show contentReader (toJson (.function kind choice)).content = .ok (.function kind choice)
    simp only [contentReader, refused, read]

/-- An output shape is read from its form. -/
theorem ResponseFormat.reads_toJson (format : ResponseFormat) :
    Reads (ResponseFormat.reader : Json.Reader ResponseFormat) format.toJson format := by
  cases format with
  | text => exact Json.Reader.reads_tagged shape further rfl (by simp) rfl
  | jsonObject => exact Json.Reader.reads_tagged shape further rfl (by simp) rfl
  | jsonSchema schema =>
    -- Behind the tag stands the schema, which is read once the tag is known.
    refine Json.Reader.reads_tagged shape further rfl (by simp [shape]) ?_
    have read : Reads (ContentReader.record schemaRecord) (.object [("json_schema", schema.toJson)])
        schema := by
      refine LawfulFormat.record (D := ContentReader) (by simp [schemaRecord]) ?_
      exact .required (NamedSchema.reads_toJson schema) .nil
    exact congrArg (fun read : Except Refusal NamedSchema =>
      read >>= fun schema => Except.ok (ResponseFormat.jsonSchema schema)) read

namespace Json

/-- A finite double is written as the number that it stands for. -/
theorem ofDouble_of_finite {value : Double} (finite : value.toFloat.isFinite = true) :
    ofDouble value = .number (.float value.toFloat finite) := by
  rw [ofDouble, ofFloat, Number.ofFloat?, dif_pos finite]

/-- A double that is not finite is written as null. -/
theorem ofDouble_of_not_finite {value : Double} (noNumber : value.isFinite = false) :
    ofDouble value = .null := by
  rw [ofDouble, ofFloat, Number.ofFloat?, dif_neg]
  rw [value.isFinite_toFloat, noNumber]
  exact Bool.false_ne_true

/-- The double of a finite number is written as the number. -/
theorem ofDouble_ofFloat {value : Float} (finite : value.isFinite = true) :
    ofDouble (.ofFloat value) = .number (.float value finite) := by
  rw [ofDouble, Double.toFloat_ofFloat, ofFloat, Number.ofFloat?, dif_pos finite]

end Json

namespace Json.Reader

/-- A finite double is read from its number with the bits that it had. -/
theorem reads_double {value : Double} (finite : value.toFloat.isFinite = true) :
    Reads (DocumentFormat.double : Reader Double) (.number (.float value.toFloat finite)) value := by
  have read := LawfulFormat.map (f := Double.ofFloat) (reads_float value.toFloat finite)
  rwa [Double.ofFloat_toFloat (Double.isNaN_of_isFinite (value.isFinite_toFloat ▸ finite))] at read

/-- A double is read from its form, in which one that is not finite is as good as absent. -/
theorem reads_ofDouble (part : Option Double) :
    ∀ tree ∈ part.map Json.ofDouble,
      Reads (optional DocumentFormat.double) tree (part.filter Double.isFinite) := by
  intro tree found
  cases part with
  | none => cases found
  | some value =>
    cases found
    -- A double that is not finite is written as null, and null is read as absent.
    cases finite : value.isFinite with
    | true =>
      rw [Json.ofDouble_of_finite (value.isFinite_toFloat.trans finite), Option.filter_some,
        if_pos finite]
      exact LawfulFormat.optional_some Json.noConfusion (reads_double _)
    | false =>
      rw [Json.ofDouble_of_not_finite finite, Option.filter_some, if_neg (Bool.eq_false_iff.mp finite)]
      exact LawfulFormat.optional_null DocumentFormat.double

/-- A long word is read from its form. -/
theorem reads_word64 (value : UInt64) :
    Reads (DocumentFormat.word64 : Reader UInt64) (.ofUInt64 value) value := by
  -- A word is below the bound of its reader.
  have read : Reads (natural UInt64.size "u64") (.ofUInt64 value) value.toNat :=
    reads_natural value.toNat_lt _
  have kept := LawfulFormat.map (f := UInt64.ofNat) read
  rwa [UInt64.ofNat_toNat] at kept

/-- A short word is read from its form. -/
theorem reads_word32 (value : UInt32) :
    Reads (DocumentFormat.word32 : Reader UInt32) (.ofUInt64 value.toUInt64) value := by
  -- A short word is widened to be written and narrowed when it is read.
  have read : Reads (natural UInt32.size "u32") (.ofUInt64 value.toUInt64)
      value.toUInt64.toNat :=
    reads_natural (by rw [UInt32.toNat_toUInt64]; exact value.toNat_lt) _
  have kept := LawfulFormat.map (f := UInt32.ofNat) read
  rwa [UInt32.toNat_toUInt64, UInt32.ofNat_toNat] at kept

/-- A list of texts is read from its form. -/
theorem reads_texts (texts : List String) :
    Reads (list (Format.string : Reader String)) (.ofList .string texts) texts :=
  reads_list fun text _ => LawfulFormat.string text

end Json.Reader

namespace Request

open Json.Reader

/-- A request without the doubles that no number can say. -/
def withFiniteFloats (request : Request) : Request :=
  { request with
    temperature := request.temperature.filter Double.isFinite
    topP := request.topP.filter Double.isFinite }

/-- The members that are written for a request fill its fields, whether what is absent is left out or null. -/
theorem filled (nulls : Bool) {presence : Presence} (spared : presence ≠ .required)
    (request : Request) :
    Filled (fields presence : List (Field Json.Reader Request))
      (request.parts.flatMap (Json.written nulls)) {} request.withFiniteFloats := by
  simp only [parts, List.flatMap_cons, List.flatMap_nil]
  -- The fields are filled one by one, in the order in which they are written.
  refine .part nulls (fun text _ => ⟨Json.noConfusion, LawfulFormat.string text⟩) spared rfl ?_
  refine .optional nulls (reads_ofDouble request.temperature) ?_ spared rfl ?_
  · intro absent
    rw [Option.map_eq_none_iff.mp absent]
    rfl
  refine .optional nulls (reads_ofDouble request.topP) ?_ spared rfl ?_
  · intro absent
    rw [Option.map_eq_none_iff.mp absent]
    rfl
  refine .part nulls (fun tokens _ => ⟨Json.noConfusion, reads_word32 tokens⟩) spared rfl ?_
  refine .part nulls (fun safe _ => ⟨Json.noConfusion, LawfulFormat.boolean safe⟩) spared rfl ?_
  refine .part nulls (fun seed _ => ⟨Json.noConfusion, reads_word64 seed⟩) spared rfl ?_
  refine .part nulls (fun format _ => ⟨?_, format.reads_toJson⟩) spared rfl ?_
  · cases format <;> exact Json.noConfusion
  refine .part nulls (fun texts _ => ⟨Json.noConfusion, reads_texts texts⟩) spared rfl ?_
  refine .part nulls (fun tools _ => ⟨Json.noConfusion,
    reads_list fun tool _ => tool.reads_toJson⟩) spared rfl ?_
  refine .part nulls (fun choice _ => ⟨?_, reads_heldBack choice.reads_toJson⟩) spared rfl ?_
  · cases choice <;> exact Json.noConfusion
  exact .nil

/-- A request is read from its form. -/
theorem reads_toJson (request : Request) :
    Reads (Request.reader : Json.Reader Request) request.toJson request.withFiniteFloats := by
  rw [toJson, ← Json.flatMap_written_false]
  have spared : Presence.optional ≠ .required := by decide
  exact LawfulFormat.record (by simp [record, fields, Field.optional]) (filled false spared request)

end Request

/--
Options that are sent come back as they were, but for what stays in process and for doubles that no number can say.

Each double has to be one that its own text is read as, and arrays and objects must nest no deeper than a reader goes.
-/
theorem Options.ofWireText_wireText (options : Options)
    (floats : options.toRequest.toJson.FloatsReadBack)
    (shallow : options.toRequest.toJson.depth < Json.depthLimit) :
    Options.ofWireText options.wireText = .ok
      { options with
        temperature := options.temperature.filter Double.isFinite
        topP := options.topP.filter Double.isFinite
        callbacks := [], functions := .empty, proxyToolCalls := none, toolContext := none } := by
  -- What stays in process is no part of a request, and options are made of the request alone.
  have read := LawfulFormat.map (f := Options.ofRequest) options.toRequest.reads_toJson
  exact Json.Reader.read_render read floats shallow

/-- Options with a parameter that is no number, an empty list, and a schema with a double, a null and the least number are sent and come back. -/
theorem Options.ofWireText_wireText_example :
    let schema : Value := ⟨.object [("maximum", .number (.float 0.5 (by decide +kernel))),
      ("minimum", .number (.integer (-9223372036854775808) (by decide))), ("title", .null)],
      ⟨by unfold Ascending; decide +kernel, trivial, trivial, trivial, trivial⟩⟩
    let options : Options :=
      { model := some "a\"b", temperature := some (.ofFloat 0.5), topP := some ⟨0x7ff8000000000001⟩
        stop := some []
        responseFormat := some (.jsonSchema ⟨"reply", none, schema, some true⟩)
        toolChoice := some (.ofName "weather"), proxyToolCalls := some true }
    options.toRequest.toJson.FloatsReadBack ∧ options.toRequest.toJson.depth < Json.depthLimit
      ∧ Options.ofWireText options.wireText = .ok
        { options with
          topP := none
          callbacks := [], functions := .empty, proxyToolCalls := none, toolContext := none } := by
  intro schema options
  -- One half is a number of JSON, and a NaN is none.
  have half : Json.ofDouble (.ofFloat 0.5) = .number (.float 0.5 (by decide +kernel)) :=
    Json.ofDouble_ofFloat _
  have noNumber : Json.ofDouble ⟨0x7ff8000000000001⟩ = .null :=
    Json.ofDouble_of_not_finite (by decide)
  have floats : options.toRequest.toJson.FloatsReadBack := by
    simp [options, schema, Request.toJson, Request.parts, half, noNumber, Json.ofList,
      ResponseFormat.toJson, NamedSchema.toJson, Json.optionalMember, ToolChoice.toJson,
      ToolChoice.ofName, ToolKind.toJson, FunctionChoice.toJson, Json.FloatsReadBack,
      Json.MemberFloatsReadBack, Json.ItemFloatsReadBack, Number.half_readsBack]
  have shallow : options.toRequest.toJson.depth < Json.depthLimit := by decide +kernel
  exact ⟨floats, shallow, ofWireText_wireText options floats shallow⟩

end ChatOptions
