import ChatOptions.Reading.Refusal

/-! Records as a list of named fields, and the rules on fields that are repeated, unknown or absent. -/

namespace ChatOptions

/-- What it means that a record leaves a field out. -/
inductive Presence where
  /-- The field has to be there. -/
  | required
  /-- The field may be absent where fields are named, but has its place where they are listed. -/
  | optional
  /-- The field has a default everywhere. -/
  | defaulted
deriving DecidableEq

/-- A field: its name, and how to read it into the record built so far. -/
structure Field (D : Type → Type) (σ : Type) where
  name : String
  presence : Presence
  read : D (σ → σ)

/-- A record: what messages call it, its fields in order, and the record before any field is read. -/
structure Record (D : Type → Type) (σ : Type) where
  name : String
  fields : List (Field D σ)
  /-- Whether a field that is not listed is refused, instead of passed over. -/
  strict : Bool
  blank : σ

namespace Record

variable {D : Type → Type} {σ : Type}

/-- What messages expect of a record whose fields are listed without names. -/
def lengthExpected (record : Record D σ) : String :=
  record.name ++ " with " ++ elementCount record.fields.length

/-- The field that a name stands for, or nothing where its value is passed over. -/
def find (record : Record D σ) (name : String) : Except Refusal (Option (Field D σ)) :=
  match record.fields.find? (·.name == name) with
  | some field => .ok (some field)
  | none =>
    if record.strict then .error (.unknownField name (record.fields.map (·.name))) else .ok none

/-- Refuses a field that has been seen before. -/
def once (seen : List String) (name : String) : Except Refusal Unit :=
  if seen.contains name then .error (.repeatedField name) else .ok ()

/-- The record, once its fields are read, if none that is required is missing. -/
def finish (record : Record D σ) (seen : List String) (state : σ) : Except Refusal σ :=
  match record.fields.find? fun field =>
      field.presence == .required && !seen.contains field.name with
  | some field => .error (.missingField field.name)
  | none => .ok state

/-- The refusal of a list of fields that ends before a field that has no default, by the place of that field. -/
def tooShort (record : Record D σ) (place : Nat) : Refusal :=
  .wrongLength place record.lengthExpected

end Record

end ChatOptions
