import ChatOptions.Error
import ChatOptions.Reading.Format

/-! The chat models that have a name of their own. -/

namespace ChatOptions

/-- A chat model known by name. -/
inductive Model where
  | openMistral7b
  | openMixtral8x7b
  | openMixtral8x22b
  | small
  | medium
  | large
  | codestral
  | pixtral
  | pixtralLarge
deriving DecidableEq, Repr

namespace Model

/-- Every known model. -/
def all : List Model :=
  [.openMistral7b, .openMixtral8x7b, .openMixtral8x22b, .small, .medium, .large, .codestral,
    .pixtral, .pixtralLarge]

/-- The identifier that requests give for the model. -/
def id : Model → String
  | .openMistral7b => "open-mistral-7b"
  | .openMixtral8x7b => "open-mixtral-8x7b"
  | .openMixtral8x22b => "open-mixtral-8x22b"
  | .small => "mistral-small-latest"
  | .medium => "mistral-medium-latest"
  | .large => "mistral-large-latest"
  | .codestral => "codestral-latest"
  | .pixtral => "pixtral-12b-2409"
  | .pixtralLarge => "pixtral-large-latest"

/-- The known model with an identifier. -/
def ofId (id : String) : Except OptionsError Model :=
  match all.find? (·.id == id) with
  | some model => .ok model
  | none => .error (.unknownModel id)

/-- The JSON form of a model is its identifier. -/
def toJson (model : Model) : Json := .string model.id

/-- Reads a model by its identifier. -/
def reader {D : Type → Type} [Format D] : D Model :=
  Format.choice (all.map fun model => (model.id, model))

end Model

end ChatOptions
