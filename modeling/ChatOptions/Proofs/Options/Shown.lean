import ChatOptions.Proofs.Options.Wire

/-! What the wire form of options shows: the fields of a request that are present, and nothing of what stays in process. -/

namespace ChatOptions

open TreeFormat (Reads)

namespace Json

/-- The members of a record whose absent parts are left out. -/
def present (parts : List (String × Option Json)) : List (String × Json) :=
  parts.filterMap fun (name, form) => form.map fun tree => (name, tree)

/-- A member of a record is one of its parts. -/
theorem mem_present {parts : List (String × Option Json)} {name : String} {tree : Json} :
    (name, tree) ∈ present parts ↔ (name, some tree) ∈ parts := by
  rw [present, List.mem_filterMap]
  -- A part that is absent makes no member.
  constructor
  · rintro ⟨⟨other, _ | held⟩, listed, same⟩
    · cases same
    · cases same
      exact listed
  · exact fun listed => ⟨(name, some tree), listed, rfl⟩

/-- The members of a record are named for the parts that are present. -/
theorem map_fst_present (parts : List (String × Option Json)) :
    (present parts).map Prod.fst = (parts.filter fun part => part.2.isSome).map Prod.fst := by
  -- A part adds its name on both sides or on neither.
  induction parts with
  | nil => rfl
  | cons part rest ih =>
    obtain ⟨name, form⟩ := part
    cases form with
    | none => exact ih
    | some tree => exact congrArg (name :: ·) ih

/-- A record whose parts have distinct names lists no key twice. -/
theorem present_nodup {parts : List (String × Option Json)}
    (distinct : (parts.map Prod.fst).Nodup) : ((present parts).map Prod.fst).Nodup := by
  rw [map_fst_present]
  exact distinct.sublist (List.filter_sublist.map _)

/-- A sorted object whose keys are distinct lists exactly its members, each with its tree sorted. -/
theorem mem_sorted_members {members : List (String × Json)}
    (distinct : (members.map Prod.fst).Nodup) {name : String} {shown : Json} :
    (name, shown) ∈ (SortedMap.ofList (members.map sortedMember)).entries
      ↔ ∃ written, (name, written) ∈ members ∧ shown = written.sorted := by
  have keys : (members.map sortedMember).map Prod.fst = members.map Prod.fst := by
    simp [sortedMember, Function.comp_def]
  -- Where no key is given twice, what is found under a key is what was given for it.
  rw [← SortedMap.find?_eq_some, SortedMap.find?_ofList, SortedMap.lastValue?_eq_some (keys ▸ distinct),
    List.mem_map]
  constructor
  · rintro ⟨⟨key, written⟩, listed, same⟩
    cases same
    exact ⟨written, listed, rfl⟩
  · rintro ⟨written, listed, rfl⟩
    exact ⟨(name, written), listed, rfl⟩

/-- A sorted object has the keys of its members, if they are distinct. -/
theorem map_fst_sorted_perm {members : List (String × Json)}
    (distinct : (members.map Prod.fst).Nodup) :
    ((SortedMap.ofList (members.map sortedMember)).entries.map Prod.fst).Perm
      (members.map Prod.fst) := by
  have apart := (SortedMap.ofList (members.map sortedMember)).keys_nodup
  -- Neither list repeats a key, so it is enough that they have the same ones.
  refine (List.perm_ext_iff_of_nodup apart distinct).mpr fun name => ?_
  simp only [SortedMap.keys, List.mem_map, Prod.exists, exists_and_right, exists_eq_right]
  constructor
  · rintro ⟨shown, found⟩
    obtain ⟨written, listed, _⟩ := (mem_sorted_members distinct).mp found
    exact ⟨written, listed⟩
  · rintro ⟨written, listed⟩
    exact ⟨written.sorted, (mem_sorted_members distinct).mpr ⟨written, listed, rfl⟩⟩

/-- Any tree is read as the value that it has. -/
theorem Reader.reads_value (tree : Json) : Reads Reader.value tree (Value.ofJson tree) := by
  have read : Reads ContentReader.value tree (Value.ofJson tree) := by
    show tree.content.toJson.map Value.ofJson = .ok (Value.ofJson tree)
    rw [toJson_content]
    rfl
  exact reads_heldBack read

end Json

open Json (present)

/-- The members of a schema, where a member may be absent. -/
def NamedSchema.parts (schema : NamedSchema) : List (String × Option Json) := [
  ("name", some (.string schema.name)),
  ("description", schema.description.map .string),
  ("schema", some schema.schema.tree),
  ("strict", schema.strict.map .bool)]

/-- A schema is written as a record. -/
theorem NamedSchema.toJson_eq (schema : NamedSchema) :
    schema.toJson = .object (present schema.parts) := by
  obtain ⟨name, description, tree, strict⟩ := schema
  cases description <;> cases strict <;> rfl

/-- The members of a function, where a member may be absent. -/
def FunctionDefinition.parts (function : FunctionDefinition) : List (String × Option Json) := [
  ("name", some (.string function.name)),
  ("description", function.description.map .string),
  ("parameters", some function.parameters.tree)]

/-- The members of a tool, which has its function as a record inside. -/
def Tool.parts (tool : Tool) : List (String × Option Json) := [
  ("type", some (.string "function")),
  ("function", some (.object (present tool.function.parts)))]

/-- A tool is written as a record. -/
theorem Tool.toJson_eq (tool : Tool) : tool.toJson = .object (present tool.parts) := by
  obtain ⟨kind, name, description, parameters⟩ := tool
  cases description <;> rfl

/-- The name of the kind of an output shape. -/
def ResponseFormat.kindName : ResponseFormat → String
  | .text => "text"
  | .jsonObject => "json_object"
  | .jsonSchema _ => "json_schema"

/-- The schema of an output shape, if it has one. -/
def ResponseFormat.schema? : ResponseFormat → Option NamedSchema
  | .jsonSchema schema => some schema
  | _ => none

/-- The members of an output shape: its kind, and its schema as a record inside. -/
def ResponseFormat.parts (format : ResponseFormat) : List (String × Option Json) := [
  ("type", some (.string format.kindName)),
  ("json_schema", format.schema?.map fun schema => .object (present schema.parts))]

/-- An output shape is written as a record. -/
theorem ResponseFormat.toJson_eq (format : ResponseFormat) :
    format.toJson = .object (present format.parts) := by
  cases format with
  | text => rfl
  | jsonObject => rfl
  | jsonSchema schema => rw [toJson, schema.toJson_eq]; rfl

namespace Options

/-- The fields that options have on the wire, in the order of their declaration, and whether each is present. -/
def wireFields (options : Options) : List (String × Bool) := [
  ("model", options.model.isSome),
  ("temperature", options.temperature.isSome),
  ("top_p", options.topP.isSome),
  ("max_tokens", options.maxTokens.isSome),
  ("safe_prompt", options.safePrompt.isSome),
  ("random_seed", options.randomSeed.isSome),
  ("response_format", options.responseFormat.isSome),
  ("stop", options.stop.isSome),
  ("tools", options.tools.isSome),
  ("tool_choice", options.toolChoice.isSome)]

/-- The names of the fields on the wire that are present, in the order of their declaration. -/
def presentNames (options : Options) : List String :=
  (options.wireFields.filter (·.2)).map (·.1)

/-- No field is present under two names. -/
theorem presentNames_nodup (options : Options) : options.presentNames.Nodup := by
  have all : (options.wireFields.map (·.1)).Nodup := by
    show ["model", "temperature", "top_p", "max_tokens", "safe_prompt", "random_seed",
      "response_format", "stop", "tools", "tool_choice"].Nodup
    decide
  exact all.sublist (List.filter_sublist.map _)

/-- The parts of a request are present where its fields are. -/
theorem wireFields_eq_parts (options : Options) :
    options.wireFields = options.toRequest.parts.map fun part => (part.1, part.2.isSome) := by
  simp only [wireFields, Request.parts, List.map_cons, List.map_nil, Option.isSome_map]

/-- The members of the wire form, in the order in which they are written. -/
def wireMembers (options : Options) : List (String × Json) := present options.toRequest.parts

/-- The members of the wire form are named for the fields that are present. -/
theorem map_fst_wireMembers (options : Options) :
    options.wireMembers.map Prod.fst = options.presentNames := by
  rw [wireMembers, Json.map_fst_present, presentNames, wireFields_eq_parts,
    List.filter_map, List.map_map]
  rfl

/-- Options that have the same in every field on the wire. -/
structure SameOnWire (first second : Options) : Prop where
  model : first.model = second.model
  temperature : first.temperature = second.temperature
  topP : first.topP = second.topP
  maxTokens : first.maxTokens = second.maxTokens
  safePrompt : first.safePrompt = second.safePrompt
  randomSeed : first.randomSeed = second.randomSeed
  responseFormat : first.responseFormat = second.responseFormat
  stop : first.stop = second.stop
  tools : first.tools = second.tools
  toolChoice : first.toolChoice = second.toolChoice

/-- Options that have the same in every field on the wire make the same request. -/
theorem SameOnWire.toRequest_eq {first second : Options} (same : first.SameOnWire second) :
    first.toRequest = second.toRequest := by
  -- A request is made of its fields.
  obtain ⟨⟨⟩, _, _, _, _⟩ := first
  obtain ⟨⟨⟩, _, _, _, _⟩ := second
  obtain ⟨rfl, rfl, rfl, rfl, rfl, rfl, rfl, rfl, rfl, rfl⟩ := same
  rfl

/-- Members that show every field on the wire that is present, each as what it holds. -/
structure Shows (options : Options) (members : List (String × Json)) : Prop where
  model : ∀ text, options.model = some text → ("model", .string text) ∈ members
  temperature : ∀ value, options.temperature = some value →
    ∀ finite : value.toFloat.isFinite = true,
      ("temperature", .number (.float value.toFloat finite)) ∈ members
  noTemperature : ∀ value, options.temperature = some value → value.isFinite = false →
    ("temperature", .null) ∈ members
  topP : ∀ value, options.topP = some value →
    ∀ finite : value.toFloat.isFinite = true,
      ("top_p", .number (.float value.toFloat finite)) ∈ members
  noTopP : ∀ value, options.topP = some value → value.isFinite = false → ("top_p", .null) ∈ members
  maxTokens : ∀ tokens, options.maxTokens = some tokens →
    ("max_tokens", .number (.ofUInt64 tokens.toUInt64)) ∈ members
  safePrompt : ∀ safe, options.safePrompt = some safe → ("safe_prompt", .bool safe) ∈ members
  randomSeed : ∀ seed, options.randomSeed = some seed →
    ("random_seed", .number (.ofUInt64 seed)) ∈ members
  responseFormat : ∀ format, options.responseFormat = some format →
    ("response_format", .object (present format.parts)) ∈ members
  stop : ∀ texts, options.stop = some texts → ("stop", .array (texts.map .string)) ∈ members
  tools : ∀ tools, options.tools = some tools →
    ("tools", .array (tools.map fun tool => .object (present tool.parts))) ∈ members
  toolMode : ∀ mode, options.toolChoice = some (.mode mode) →
    ("tool_choice", .string mode.name) ∈ members
  toolFunction : ∀ kind choice, options.toolChoice = some (.function kind choice) →
    ("tool_choice", .object [("type", .string "function"),
      ("function", .object [("name", .string choice.name)])]) ∈ members

/-- The members of the wire form show every field that is present. -/
theorem shows_wireMembers (options : Options) : options.Shows options.wireMembers := by
  -- A member is written for each part of the request that has a form.
  have shown {name : String} {tree : Json} (part : (name, some tree) ∈ options.toRequest.parts) :
      (name, tree) ∈ options.wireMembers := Json.mem_present.mpr part
  constructor
  case model => exact fun text held => shown (by simp [Request.parts, held])
  case temperature =>
    exact fun value held finite =>
      shown (by simp [Request.parts, held, Json.ofDouble_of_finite finite])
  case noTemperature =>
    exact fun value held noNumber =>
      shown (by simp [Request.parts, held, Json.ofDouble_of_not_finite noNumber])
  case topP =>
    exact fun value held finite =>
      shown (by simp [Request.parts, held, Json.ofDouble_of_finite finite])
  case noTopP =>
    exact fun value held noNumber =>
      shown (by simp [Request.parts, held, Json.ofDouble_of_not_finite noNumber])
  case maxTokens => exact fun tokens held => shown (by simp [Request.parts, held, Json.ofUInt64])
  case safePrompt => exact fun safe held => shown (by simp [Request.parts, held])
  case randomSeed => exact fun seed held => shown (by simp [Request.parts, held, Json.ofUInt64])
  case responseFormat =>
    exact fun format held => shown (by simp [Request.parts, held, format.toJson_eq])
  case stop => exact fun texts held => shown (by simp [Request.parts, held, Json.ofList])
  case tools =>
    exact fun tools held => shown (by simp [Request.parts, held, Json.ofList, Tool.toJson_eq])
  case toolMode =>
    exact fun mode held =>
      shown (by simp [Request.parts, held, ToolChoice.toJson, ToolChoiceMode.toJson])
  case toolFunction =>
    exact fun kind choice held =>
      shown (by simp [Request.parts, held, ToolChoice.toJson, ToolKind.toJson, FunctionChoice.toJson])

/--
What the wire form of options shows.

Its members are the fields of a request that are present, each once and as what it holds: as text in the order of their declaration, as a value the same members in order of their names.
A double that is not finite shows as null.
The text is read as the value, if each double is one that its own text is read as, and arrays and objects nest no deeper than a reader goes.
Options with the same fields on the wire are written alike, whatever else they hold.
-/
theorem wire_shows_present (options : Options) :
    (∃ members entries : List (String × Json),
      options.wireText = (Json.object members).render
      ∧ options.wireValue.tree = .object entries
      ∧ members.map Prod.fst = options.presentNames
      ∧ options.Shows members
      ∧ (entries.map Prod.fst).Perm options.presentNames
      ∧ (∀ name shown, (name, shown) ∈ entries
        ↔ ∃ written, (name, written) ∈ members ∧ shown = written.sorted)
      ∧ (∀ value, options.temperature = some value → value.isFinite = false →
        ("temperature", .null) ∈ entries)
      ∧ (∀ value, options.topP = some value → value.isFinite = false → ("top_p", .null) ∈ entries))
    ∧ (options.toRequest.toJson.FloatsReadBack → options.toRequest.toJson.depth < Json.depthLimit →
      Json.Reader.read Json.Reader.value options.wireText = .ok options.wireValue)
    ∧ ∀ other : Options, other.SameOnWire options →
      other.wireText = options.wireText ∧ other.wireValue = options.wireValue := by
  have named := options.map_fst_wireMembers
  have distinct : (options.wireMembers.map Prod.fst).Nodup := named ▸ options.presentNames_nodup
  have same (name : String) (shown : Json) :
      (name, shown) ∈ (SortedMap.ofList (options.wireMembers.map Json.sortedMember)).entries
        ↔ ∃ written, (name, written) ∈ options.wireMembers ∧ shown = written.sorted :=
    Json.mem_sorted_members distinct
  have shows := options.shows_wireMembers
  refine ⟨⟨options.wireMembers, _, rfl, Json.sorted_object _, named, shows,
    named ▸ Json.map_fst_sorted_perm distinct, same, ?_, ?_⟩, ?_, ?_⟩
  -- What is written as null is null in the value, too.
  · intro value held noNumber
    exact (same _ _).mpr ⟨_, shows.noTemperature value held noNumber, rfl⟩
  · intro value held noNumber
    exact (same _ _).mpr ⟨_, shows.noTopP value held noNumber, rfl⟩
  · intro floats shallow
    exact Json.Reader.read_render (Json.Reader.reads_value _) floats shallow
  · intro other alike
    -- The wire form is made of the request alone.
    rw [wireText, wireText, wireValue, wireValue, alike.toRequest_eq]
    exact ⟨rfl, rfl⟩

/-- A temperature that is no number shows as null, and an output shape and a tool choice as they are; names of functions and a secret in the tool context do not show. -/
theorem wire_shows_present_example :
    let plain : Options :=
      { model := some "small", temperature := some ⟨0xfff8000000000001⟩, topP := some (.ofFloat 0.5)
        randomSeed := some 1234, responseFormat := some .jsonObject, stop := some ["."]
        tools := some [.ofFunction "lookup" "Look a term up" ⟨.null, trivial⟩]
        toolChoice := some (.ofName "lookup") }
    let secret : Options :=
      { plain with
        functions := .ofNames ["weather"], proxyToolCalls := some true
        toolContext := some (.ofList [("token", .ofJson (.string "secret"))]) }
    secret.presentNames = ["model", "temperature", "top_p", "random_seed", "response_format", "stop",
      "tools", "tool_choice"]
    ∧ secret.wireText = "\x7b\"model\":\"small\",\"temperature\":null,\"top_p\":0.5,\"random_seed\":1234,\"response_format\":\x7b\"type\":\"json_object\"\x7d,\"stop\":[\".\"],\"tools\":[\x7b\"type\":\"function\",\"function\":\x7b\"name\":\"lookup\",\"description\":\"Look a term up\",\"parameters\":null\x7d\x7d],\"tool_choice\":\x7b\"type\":\"function\",\"function\":\x7b\"name\":\"lookup\"\x7d\x7d\x7d"
    ∧ secret.toRequest.toJson.FloatsReadBack ∧ secret.toRequest.toJson.depth < Json.depthLimit
    ∧ Json.Reader.read Json.Reader.value secret.wireText = .ok secret.wireValue
    ∧ secret.SameOnWire plain ∧ secret.wireText = plain.wireText := by
  intro plain secret
  have half : Json.ofDouble (.ofFloat 0.5) = .number (.float 0.5 (by decide +kernel)) :=
    Json.ofDouble_ofFloat _
  have noNumber : Json.ofDouble ⟨0xfff8000000000001⟩ = .null :=
    Json.ofDouble_of_not_finite (by decide)
  have floats : secret.toRequest.toJson.FloatsReadBack := by
    simp [secret, plain, Request.toJson, Request.parts, half, noNumber, Json.ofList, Json.ofUInt64, Number.ofUInt64,
      ResponseFormat.toJson, Tool.ofFunction, Tool.toJson, FunctionDefinition.toJson,
      Json.optionalMember, ToolKind.toJson, ToolChoice.ofName, ToolChoice.toJson,
      FunctionChoice.toJson, Json.FloatsReadBack, Json.MemberFloatsReadBack,
      Json.ItemFloatsReadBack, Number.half_readsBack]
  have shallow : secret.toRequest.toJson.depth < Json.depthLimit := by decide +kernel
  have same : secret.SameOnWire plain :=
    ⟨rfl, rfl, rfl, rfl, rfl, rfl, rfl, rfl, rfl, rfl⟩
  exact ⟨rfl, by decide +kernel, floats, shallow, (wire_shows_present secret).2.1 floats shallow, same,
    ((wire_shows_present plain).2.2 secret same).1⟩

end Options

end ChatOptions
