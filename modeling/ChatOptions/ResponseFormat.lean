import ChatOptions.Json.Digest
import ChatOptions.Reading.Format

/-! The shape that a model must give its output. -/

namespace ChatOptions

/-- A JSON schema under a name, for output that follows it. -/
structure NamedSchema where
  name : String
  description : Option String
  schema : Value
  strict : Option Bool
deriving BEq, Inhabited

/-- The shape of the output: free text, some JSON object, or JSON that follows a schema. -/
inductive ResponseFormat where
  | text
  | jsonObject
  | jsonSchema (schema : NamedSchema)
deriving BEq

/-- A member for a part that is left out where it is absent. -/
def Json.optionalMember {α : Type} (name : String) (form : α → Json) :
    Option α → List (String × Json)
  | none => []
  | some part => [(name, form part)]

namespace NamedSchema

/-- The JSON form of a schema; what is absent is left out. -/
def toJson (schema : NamedSchema) : Json :=
  .object ([("name", .string schema.name)] ++
    Json.optionalMember "description" .string schema.description ++
    [("schema", schema.schema.tree)] ++
    Json.optionalMember "strict" .bool schema.strict)

/-- Reads a schema. -/
def reader {D : Type → Type} [Format D] : D NamedSchema :=
  Format.record {
    name := "struct JsonSchemaFormat"
    fields := [
      .required "name" Format.string fun name schema => { schema with name := name },
      .optional "description" Format.string fun text schema => { schema with description := text },
      .required "schema" Format.value fun value schema => { schema with schema := value },
      .optional "strict" Format.boolean fun strict schema => { schema with strict := strict }]
    strict := false
    blank := default }

/-- The hash writes of a schema. -/
def writes (hash : HashFunction) (schema : NamedSchema) : List HashWrite :=
  [.text schema.name] ++ HashWrite.option ([.text ·]) schema.description ++
    schema.schema.writes hash ++ HashWrite.option ([.bool ·]) schema.strict

end NamedSchema

namespace ResponseFormat

/-- JSON output that follows a schema, with nothing said but its name. -/
def ofSchema (name : String) (schema : Value) : ResponseFormat :=
  .jsonSchema ⟨name, none, schema, none⟩

/-- The JSON form of an output shape, which its member `type` names. -/
def toJson : ResponseFormat → Json
  | .text => .object [("type", .string "text")]
  | .jsonObject => .object [("type", .string "json_object")]
  | .jsonSchema schema =>
    .object [("type", .string "json_schema"), ("json_schema", schema.toJson)]

/-- The kinds of output shape. -/
inductive Kind where
  | text
  | jsonObject
  | jsonSchema

/-- How an output shape is told by its member `type`. -/
def shape : Tagged Kind where
  name := "internally tagged enum ResponseFormat"
  tag := "type"
  choices := [("text", .text), ("json_object", .jsonObject), ("json_schema", .jsonSchema)]

/-- The record that holds the schema of an output shape. -/
def schemaRecord : Record ContentReader NamedSchema where
  name := "struct variant ResponseFormat::JsonSchema"
  fields := [.required "json_schema" NamedSchema.reader fun schema _ => schema]
  strict := false
  blank := default

/-- Reads what there is besides the kind of an output shape. -/
def further : Kind → ContentReader ResponseFormat
  -- Shapes without a schema accept members that they do not need.
  | .text, content => do
    ContentReader.noFurther content
    return .text
  | .jsonObject, content => do
    ContentReader.noFurther content
    return .jsonObject
  | .jsonSchema, content => do
    let schema ← ContentReader.record schemaRecord content
    return .jsonSchema schema

/-- Reads an output shape. -/
def reader {D : Type → Type} [DocumentFormat D] : D ResponseFormat :=
  DocumentFormat.tagged shape further

/-- The hash writes of an output shape. -/
def writes (hash : HashFunction) : ResponseFormat → List HashWrite
  | .text => [.word 0]
  | .jsonObject => [.word 1]
  | .jsonSchema schema => .word 2 :: schema.writes hash

end ResponseFormat

end ChatOptions
