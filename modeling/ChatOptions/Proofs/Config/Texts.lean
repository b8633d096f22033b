import ChatOptions.Config
import ChatOptions.Proofs.Json.Texts
import ChatOptions.Proofs.Reading.Written

/-! Configurations whose texts are replaced by others. -/

namespace ChatOptions

/-- A schema with every text replaced by its image. -/
def NamedSchema.mapTexts (f : String → String) (schema : NamedSchema) : NamedSchema :=
  { schema with
    name := f schema.name
    description := schema.description.map f
    schema := schema.schema.mapTexts f }

/-- An output shape with every text replaced by its image. -/
def ResponseFormat.mapTexts (f : String → String) : ResponseFormat → ResponseFormat
  | .text => .text
  | .jsonObject => .jsonObject
  | .jsonSchema schema => .jsonSchema (schema.mapTexts f)

/-- A function with every text replaced by its image. -/
def FunctionDefinition.mapTexts (f : String → String) (function : FunctionDefinition) :
    FunctionDefinition where
  name := f function.name
  description := function.description.map f
  parameters := function.parameters.mapTexts f

/-- A tool with every text replaced by its image. -/
def Tool.mapTexts (f : String → String) (tool : Tool) : Tool :=
  { tool with function := tool.function.mapTexts f }

/-- A choice with the name of its function replaced by its image. -/
def ToolChoice.mapTexts (f : String → String) : ToolChoice → ToolChoice
  | .mode chosen => .mode chosen
  | .function kind choice => .function kind ⟨f choice.name⟩

/-- A request with every text replaced by its image. -/
def Request.mapTexts (f : String → String) (request : Request) : Request :=
  { request with
    model := request.model.map f
    responseFormat := request.responseFormat.map (·.mapTexts f)
    stop := request.stop.map (·.map f)
    tools := request.tools.map (·.map (·.mapTexts f))
    toolChoice := request.toolChoice.map (·.mapTexts f) }

/-- A configuration with every text that is no key replaced by its image. -/
def Config.mapTexts (f : String → String) (config : Config) : Config :=
  { config with
    toRequest := config.toRequest.mapTexts f
    functions := config.functions.map f
    toolContext := config.toolContext.map (·.mapValues (·.mapTexts f)) }

section Forms

variable {f : String → String}

/-- Replacing the texts of a member that may be left out replaces those of its part. -/
theorem Json.mapMemberTexts_optionalMember {α : Type} (name : String) {form : α → Json}
    {image : α → α} (forms : ∀ part, (form part).mapTexts f = form (image part)) (part : Option α) :
    mapMemberTexts f (optionalMember name form part) = optionalMember name form (part.map image) := by
  -- Where the part is absent there is no member to replace texts in.
  cases part with
  | none => rfl
  | some held => rw [optionalMember, mapMemberTexts, forms]; rfl

/-- The members of two lists are replaced list by list. -/
theorem Json.mapMemberTexts_append (first second : List (String × Json)) :
    mapMemberTexts f (first ++ second) = mapMemberTexts f first ++ mapMemberTexts f second := by
  rw [mapMemberTexts_eq_map, mapMemberTexts_eq_map, mapMemberTexts_eq_map, List.map_append]

/-- Replacing the texts of a list replaces those of its parts. -/
theorem Json.mapTexts_ofList {α : Type} {form : α → Json} {image : α → α}
    (forms : ∀ part, (form part).mapTexts f = form (image part)) (parts : List α) :
    (ofList form parts).mapTexts f = ofList form (parts.map image) := by
  -- Both sides list the images of the forms, part by part.
  rw [ofList, mapTexts, mapItemTexts_eq_map, List.map_map, ofList, List.map_map]
  exact congrArg array (List.map_congr_left fun part _ => forms part)

/-- A double holds no text. -/
theorem Json.mapTexts_ofDouble (value : Double) :
    (ofDouble value).mapTexts f = ofDouble value := by
  -- It is a number or null.
  rw [ofDouble, ofFloat]
  split <;> rfl

/-- The form of a schema with other texts is its form with these texts. -/
theorem NamedSchema.toJson_mapTexts (schema : NamedSchema) :
    (schema.mapTexts f).toJson = schema.toJson.mapTexts f := by
  -- Texts are replaced by their images, and truth values stay.
  have texts : ∀ text, (Json.string text).mapTexts f = .string (f text) := fun _ => rfl
  have truths : ∀ value, (Json.bool value).mapTexts f = .bool (id value) := fun _ => rfl
  simp only [toJson, Json.mapTexts, Json.mapMemberTexts_append,
    Json.mapMemberTexts_optionalMember _ texts, Json.mapMemberTexts_optionalMember _ truths,
    Json.mapMemberTexts, Option.map_id_apply]
  rfl

/-- The form of a function with other texts is its form with these texts. -/
theorem FunctionDefinition.toJson_mapTexts (function : FunctionDefinition) :
    (function.mapTexts f).toJson = function.toJson.mapTexts f := by
  have texts : ∀ text, (Json.string text).mapTexts f = .string (f text) := fun _ => rfl
  simp only [toJson, Json.mapTexts, Json.mapMemberTexts_append,
    Json.mapMemberTexts_optionalMember _ texts, Json.mapMemberTexts]
  rfl

/-- The tree of a context with other texts is its tree with these texts. -/
theorem Value.ofMap_mapTexts (context : ToolContext) :
    (ofMap (context.mapValues (·.mapTexts f))).tree = (ofMap context).tree.mapTexts f := by
  rw [ofMap_tree, ofMap_tree, Json.mapTexts, Json.mapMemberTexts_eq_map, SortedMap.mapValues,
    List.map_map, List.map_map]
  rfl

variable (fixed : ∀ text : String, '$' ∉ text.toList → f text = text)
include fixed

/-- The form of an output shape with other texts is its form with these texts, if texts without a dollar sign stay. -/
theorem ResponseFormat.toJson_mapTexts (format : ResponseFormat) :
    (format.mapTexts f).toJson = format.toJson.mapTexts f := by
  cases format with
  | text =>
    simp only [mapTexts, toJson, Json.mapTexts, Json.mapMemberTexts, fixed "text" (by decide)]
  | jsonObject =>
    simp only [mapTexts, toJson, Json.mapTexts, Json.mapMemberTexts,
      fixed "json_object" (by decide)]
  | jsonSchema schema =>
    simp only [mapTexts, toJson, Json.mapTexts, Json.mapMemberTexts,
      fixed "json_schema" (by decide), schema.toJson_mapTexts]

/-- The form of a tool with other texts is its form with these texts, if texts without a dollar sign stay. -/
theorem Tool.toJson_mapTexts (tool : Tool) :
    (tool.mapTexts f).toJson = tool.toJson.mapTexts f := by
  obtain ⟨kind, function⟩ := tool
  cases kind
  simp only [mapTexts, toJson, ToolKind.toJson, Json.mapTexts, Json.mapMemberTexts,
    fixed "function" (by decide), function.toJson_mapTexts]

/-- The form of a choice with other texts is its form with these texts, if texts without a dollar sign stay. -/
theorem ToolChoice.toJson_mapTexts (choice : ToolChoice) :
    (choice.mapTexts f).toJson = choice.toJson.mapTexts f := by
  cases choice with
  | mode chosen =>
    -- The names of the modes belong to the format, and have no dollar sign.
    have plain : '$' ∉ chosen.name.toList := by cases chosen <;> decide
    simp only [mapTexts, toJson, ToolChoiceMode.toJson, Json.mapTexts, fixed _ plain]
  | function kind choice =>
    cases kind
    simp only [mapTexts, toJson, ToolKind.toJson, FunctionChoice.toJson, Json.mapTexts,
      Json.mapMemberTexts, fixed "function" (by decide)]

/-- The parts of a request with other texts are its parts with these texts, if texts without a dollar sign stay. -/
theorem Request.parts_mapTexts (request : Request) :
    (request.mapTexts f).parts
      = request.parts.map fun (name, form) => (name, form.map (Json.mapTexts f)) := by
  -- Each part is replaced by its own law, and numbers and truth values hold no text.
  have texts : ∀ text, (Json.string text).mapTexts f = .string (f text) := fun _ => rfl
  have tools := Json.mapTexts_ofList fun tool => (Tool.toJson_mapTexts fixed tool).symm
  have formats := fun format => (ResponseFormat.toJson_mapTexts fixed format).symm
  have choices := fun choice => (ToolChoice.toJson_mapTexts fixed choice).symm
  simp only [parts, mapTexts, List.map_cons, List.map_nil, Option.map_map, Function.comp_def,
    texts, Json.mapTexts_ofDouble, Json.mapTexts_ofList texts, tools, formats, choices]
  rfl

omit fixed in
/-- The parts that only a configuration has are, with other texts, its parts with these texts. -/
theorem Config.localParts_mapTexts (config : Config) :
    (config.mapTexts f).localParts
      = config.localParts.map fun (name, form) => (name, form.map (Json.mapTexts f)) := by
  have texts : ∀ text, (Json.string text).mapTexts f = .string (f text) := fun _ => rfl
  simp only [localParts, mapTexts, List.map_cons, List.map_nil, Option.map_some, Option.map_map,
    Function.comp_def, Json.mapTexts_ofList texts, Value.ofMap_mapTexts]
  rfl

/-- The form of a configuration with other texts is its form with these texts, if texts without a dollar sign stay. -/
theorem Config.toJson_mapTexts (config : Config) :
    (config.mapTexts f).toJson = config.toJson.mapTexts f := by
  -- Whether a part is written or null, its texts are replaced in place.
  have written : ∀ part : String × Option Json,
      (part.1, (part.2.getD .null).mapTexts f)
        = (part.1, (part.2.map (Json.mapTexts f)).getD .null) := by
    rintro ⟨name, form⟩
    cases form <;> rfl
  have parts : (config.mapTexts f).toRequest.parts
      = config.toRequest.parts.map fun (name, form) => (name, form.map (Json.mapTexts f)) :=
    Request.parts_mapTexts fixed config.toRequest
  -- All members are those of the request and the others, replaced one by one.
  rw [toJson, toJson, Json.mapTexts, Json.mapMemberTexts_eq_map, parts, localParts_mapTexts,
    ← List.map_append, List.map_map, List.map_map]
  exact congrArg Json.object (List.map_congr_left fun part _ => (written part).symm)

end Forms

end ChatOptions
