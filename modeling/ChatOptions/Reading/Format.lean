import ChatOptions.Decimal.Double
import ChatOptions.Reading.Content

/-! What a typed reader may ask of the format that it reads. -/

namespace ChatOptions

/-- A format in which texts, truth values, JSON values, choices and records can be read. -/
class Format (D : Type → Type) where
  map {α β : Type} : (α → β) → D α → D β
  string : D String
  boolean : D Bool
  value : D Value
  optional {α : Type} : D α → D (Option α)
  choice {α : Type} : List (String × α) → D α
  record {σ : Type} : Record D σ → D σ

instance : Format ContentReader where
  map f reader := fun content => (reader content).map f
  string := ContentReader.string
  boolean := ContentReader.boolean
  value := ContentReader.value
  optional := ContentReader.optional
  choice := ContentReader.choice
  record := ContentReader.record

/-- Data whose shape depends on one of its own parts, which names a choice. -/
structure Tagged (α : Type) where
  /-- What messages call the data. -/
  name : String
  /-- The part that names the choice. -/
  tag : String
  choices : List (String × α)

/-- A format that whole documents are written in. -/
class DocumentFormat (D : Type → Type) extends Format D where
  float : D Float
  word32 : D UInt32
  word64 : D UInt64
  list {α : Type} : D α → D (List α)
  members {α : Type} : D α → D (List (String × α))
  /-- Reads a choice by its tag, and what else there is once the choice is known. -/
  tagged {α β : Type} : Tagged α → (α → ContentReader β) → D β
  /-- Reads data that has to be held back as a whole. -/
  heldBack {α : Type} : ContentReader α → D α

/-- Reads a number as the double that stands for it. -/
def DocumentFormat.double {D : Type → Type} [DocumentFormat D] : D Double :=
  Format.map Double.ofFloat DocumentFormat.float

namespace Field

variable {D : Type → Type} {σ τ α : Type}

/-- A field that has to be there. -/
def required [Format D] (name : String) (reader : D α) (put : α → σ → σ) : Field D σ :=
  ⟨name, .required, Format.map put reader⟩

/-- A field that may be absent or null. -/
def optional [Format D] (name : String) (reader : D α) (put : Option α → σ → σ)
    (presence : Presence := .optional) : Field D σ :=
  ⟨name, presence, Format.map put (Format.optional reader)⟩

/-- A field that is never null, but has a default. -/
def defaulted [Format D] (name : String) (reader : D α) (put : α → σ → σ) : Field D σ :=
  ⟨name, .defaulted, Format.map put reader⟩

/-- A field of a part of a record as a field of the whole. -/
def within [Format D] (update : (σ → σ) → τ → τ) (field : Field D σ) : Field D τ :=
  ⟨field.name, field.presence, Format.map update field.read⟩

end Field

end ChatOptions
