import ChatOptions.Reading.Format

/-! What it takes that a typed reader reads what was written for it, whatever the format. -/

namespace ChatOptions

/-- A format in which it has a meaning that a reader makes a value of everything that spells a tree. -/
class TreeFormat (D : Type → Type) where
  Reads {α : Type} : D α → Json → α → Prop

open TreeFormat (Reads)

/-- How the members of an object fill the fields of a record, given in the order of the fields, from one state of the record to another. -/
inductive Filled {D : Type → Type} [TreeFormat D] {σ : Type} :
    List (Field D σ) → List (String × Json) → σ → σ → Prop
  | nil {state} : Filled [] [] state state
  | given {field fields tree members update state final} (read : Reads field.read tree update)
    (rest : Filled fields members (update state) final) :
    Filled (field :: fields) ((field.name, tree) :: members) state final
  | absent {field fields members state final} (spared : field.presence ≠ .required)
    (rest : Filled fields members state final) : Filled (field :: fields) members state final

/-- A format whose readers read the trees that are written for them. -/
class LawfulFormat (D : Type → Type) [Format D] [TreeFormat D] : Prop where
  map {α β : Type} {f : α → β} {reader : D α} {tree : Json} {value : α} :
    Reads reader tree value → Reads (Format.map f reader) tree (f value)
  string (text : String) : Reads (Format.string : D String) (.string text) text
  boolean (value : Bool) : Reads (Format.boolean : D Bool) (.bool value) value
  value (value : Value) : Reads (Format.value : D Value) value.tree value
  optional_null {α : Type} (reader : D α) : Reads (Format.optional reader) .null none
  optional_some {α : Type} {reader : D α} {tree : Json} {value : α} : tree ≠ .null →
    Reads reader tree value → Reads (Format.optional reader) tree (some value)
  choice {α : Type} {choices : List (String × α)} {name : String} {value : α} :
    choices.find? (·.1 == name) = some (name, value) →
    Reads (Format.choice choices : D α) (.string name) value
  record {σ : Type} {record : Record D σ} {members : List (String × Json)} {final : σ} :
    (record.fields.map (·.name)).Nodup → Filled record.fields members record.blank final →
    Reads (Format.record record) (.object members) final

namespace Record

variable {D : Type → Type} {σ : Type}

/-- A record is complete once every field that has to be there has been seen. -/
theorem finish_of_complete {record : Record D σ} {seen : List String}
    (complete : ∀ field ∈ record.fields, field.presence = .required → field.name ∈ seen)
    (state : σ) : record.finish seen state = .ok state := by
  have none : record.fields.find? (fun field =>
      field.presence == .required && !seen.contains field.name) = none := by
    rw [List.find?_eq_none]
    intro field found missing
    obtain ⟨needed, unseen⟩ := (Bool.and_eq_true ..).mp missing
    have present := complete field found (beq_iff_eq.mp needed)
    simp [present] at unseen
  rw [Record.finish, none]

/-- How far a record has been read: the fields before a point have been seen if they must be, and no others have. -/
structure ReadTo (record : Record D σ) (before fields : List (Field D σ)) (seen : List String) :
    Prop where
  split : record.fields = before ++ fields
  required : ∀ field ∈ before, field.presence = .required → field.name ∈ seen
  passed : ∀ name ∈ seen, name ∈ before.map (·.name)

namespace ReadTo

variable {record : Record D σ} {before fields : List (Field D σ)} {field : Field D σ}
  {seen : List String}

/-- At first nothing has been read. -/
theorem start (record : Record D σ) : ReadTo record [] record.fields [] where
  split := rfl
  required := fun _ found => absurd found List.not_mem_nil
  passed := fun _ found => absurd found List.not_mem_nil

/-- A field that is given has been read. -/
theorem given (readTo : ReadTo record before (field :: fields) seen) :
    ReadTo record (before ++ [field]) fields (field.name :: seen) where
  split := by rw [readTo.split, List.append_assoc]; rfl
  -- What had to be seen before has been, and the field itself is seen now.
  required := by
    intro other found needed
    rcases List.mem_append.mp found with earlier | here
    · exact List.mem_cons_of_mem _ (readTo.required other earlier needed)
    · rw [List.mem_singleton.mp here]
      exact List.mem_cons_self
  passed := by
    intro name found
    rw [List.map_append, List.mem_append]
    rcases List.mem_cons.mp found with here | earlier
    · exact .inr (by simp [here])
    · exact .inl (readTo.passed name earlier)

/-- A field that need not be given can be passed over. -/
theorem absent (readTo : ReadTo record before (field :: fields) seen)
    (spared : field.presence ≠ .required) : ReadTo record (before ++ [field]) fields seen where
  split := by rw [readTo.split, List.append_assoc]; rfl
  -- The field that is passed over is not one that must be seen.
  required := by
    intro other found needed
    rcases List.mem_append.mp found with earlier | here
    · exact readTo.required other earlier needed
    · rw [List.mem_singleton.mp here] at needed
      exact absurd needed spared
  passed := by
    intro name found
    rw [List.map_append, List.mem_append]
    exact .inl (readTo.passed name found)

/-- The next field is found by its name where no two fields share one. -/
theorem find (readTo : ReadTo record before (field :: fields) seen)
    (distinct : (record.fields.map (·.name)).Nodup) :
    record.find field.name = .ok (some field) := by
  rw [readTo.split, List.map_append, List.map_cons] at distinct
  -- A field before it with the same name would repeat that name.
  have earlier : ∀ other ∈ before, ¬ ((other.name == field.name) = true) := by
    intro other found same
    have shared : field.name ∈ before.map (·.name) :=
      beq_iff_eq.mp same ▸ List.mem_map_of_mem found
    exact (List.nodup_append.mp distinct).2.2 _ shared _ List.mem_cons_self rfl
  have found : record.fields.find? (·.name == field.name) = some field := by
    rw [readTo.split, List.find?_append, List.find?_eq_none.mpr earlier]
    simp
  rw [Record.find, found]

/-- The next field has not been seen where no two fields share a name. -/
theorem once (readTo : ReadTo record before (field :: fields) seen)
    (distinct : (record.fields.map (·.name)).Nodup) : Record.once seen field.name = .ok () := by
  rw [readTo.split, List.map_append, List.map_cons] at distinct
  -- Only fields before it have been seen, and none of them has its name.
  have unseen : field.name ∉ seen := fun found =>
    (List.nodup_append.mp distinct).2.2 _ (readTo.passed _ found) _ List.mem_cons_self rfl
  rw [Record.once, if_neg (by simpa using unseen)]

/-- A record of which every field has been read or passed over is complete. -/
theorem finish (readTo : ReadTo record before [] seen) (state : σ) :
    record.finish seen state = .ok state := by
  refine finish_of_complete (fun field found needed => ?_) state
  rw [readTo.split, List.append_nil] at found
  exact readTo.required field found needed

end ReadTo

end Record

/-- The member for a part of a record, which is left out or null where the part is absent. -/
def Json.written (nulls : Bool) : String × Option Json → List (String × Json)
  | (name, some tree) => [(name, tree)]
  | (name, none) => if nulls then [(name, .null)] else []

/-- Where absent parts are left out, the members of a record are those of the parts that are present. -/
theorem Json.flatMap_written_false (parts : List (String × Option Json)) :
    parts.flatMap (written false)
      = parts.filterMap fun (name, form) => form.map fun tree => (name, tree) := by
  -- A part that is absent adds no member.
  induction parts with
  | nil => rfl
  | cons part parts ih =>
    obtain ⟨name, form⟩ := part
    rw [List.flatMap_cons, ih]
    cases form <;> rfl

/-- Where absent parts are null, the members of a record are all of its parts. -/
theorem Json.flatMap_written_true (parts : List (String × Option Json)) :
    parts.flatMap (written true) = parts.map fun (name, form) => (name, form.getD .null) := by
  -- Every part adds one member, with null where it is absent.
  induction parts with
  | nil => rfl
  | cons part parts ih =>
    obtain ⟨name, form⟩ := part
    rw [List.flatMap_cons, ih]
    cases form <;> rfl

/-- What an optional reader makes of a part that is written in a form other than null. -/
theorem reads_optional {D : Type → Type} [Format D] [TreeFormat D] [LawfulFormat D] {α : Type}
    {reader : D α} {form : α → Json} {part : Option α}
    (read : ∀ value ∈ part, form value ≠ .null ∧ Reads reader (form value) value) :
    ∀ tree ∈ part.map form, Reads (Format.optional reader) tree part := by
  intro tree found
  -- The reader sees a form only of a part that is present.
  cases part with
  | none => cases found
  | some value =>
    cases found
    obtain ⟨present, reads⟩ := read value rfl
    exact LawfulFormat.optional_some present reads

namespace Filled

variable {D : Type → Type} [Format D] [TreeFormat D] [LawfulFormat D] {σ τ α : Type}
  {fields : List (Field D σ)} {members : List (String × Json)} {state final : σ}

/-- A field that has to be there is filled with what its reader makes of the member. -/
theorem required {name : String} {reader : D α} {put : α → σ → σ} {tree : Json} {value : α}
    (read : Reads reader tree value) (rest : Filled fields members (put value state) final) :
    Filled (.required name reader put :: fields) ((name, tree) :: members) state final :=
  given (D := D) (LawfulFormat.map read) rest

/-- A field that has a default is filled with what its reader makes of the member. -/
theorem defaulted {name : String} {reader : D α} {put : α → σ → σ} {tree : Json} {value : α}
    (read : Reads reader tree value) (rest : Filled fields members (put value state) final) :
    Filled (.defaulted name reader put :: fields) ((name, tree) :: members) state final :=
  given (D := D) (LawfulFormat.map read) rest

/-- A field that may be absent is filled with what is written for it, be it left out or null. -/
theorem optional (nulls : Bool) {name : String} {reader : D α} {put : Option α → σ → σ}
    {presence : Presence} {form : Option Json} {part : Option α}
    (present : ∀ tree ∈ form, Reads (Format.optional reader) tree part)
    (absent : form = none → part = none) (spared : presence ≠ .required)
    (unset : put none state = state) (rest : Filled fields members (put part state) final) :
    Filled (.optional name reader put presence :: fields)
      (Json.written nulls (name, form) ++ members) state final := by
  -- A form is a member, which is read; without one the part is left out or null.
  cases form with
  | some tree =>
    have read := present tree rfl
    exact given (D := D) (LawfulFormat.map read) rest
  | none =>
    rw [absent rfl] at rest
    cases nulls with
    | true => exact given (D := D) (LawfulFormat.map (LawfulFormat.optional_null reader)) rest
    | false =>
      -- The field is passed over, so the state must already be the one with nothing put in.
      rw [unset] at rest
      exact .absent (D := D) spared rest

/-- A field that may be absent is filled with the form of its part, where that is never null. -/
theorem part (nulls : Bool) {name : String} {reader : D α} {put : Option α → σ → σ}
    {presence : Presence} {form : α → Json} {part : Option α}
    (read : ∀ value ∈ part, form value ≠ .null ∧ Reads reader (form value) value)
    (spared : presence ≠ .required) (unset : put none state = state)
    (rest : Filled fields members (put part state) final) :
    Filled (.optional name reader put presence :: fields)
      (Json.written nulls (name, part.map form) ++ members) state final :=
  optional nulls (reads_optional read) Option.map_eq_none_iff.mp spared unset rest

omit [Format D] [LawfulFormat D] in
/-- Members that fill fields fill them with others behind, too. -/
theorem append {others : List (Field D σ)} {more : List (String × Json)} {middle : σ}
    (first : Filled fields members state middle) (second : Filled others more middle final) :
    Filled (fields ++ others) (members ++ more) state final := by
  -- The fields of the first list are filled first, and what they leave is filled on.
  induction first with
  | nil => exact second
  | given read _ ih => exact .given read (ih second)
  | absent spared _ ih => exact .absent spared (ih second)

/-- Members that fill the fields of a part fill them as fields of the whole. -/
theorem within {update : (σ → σ) → τ → τ} (place : σ → τ)
    (updates : ∀ change part, update change (place part) = place (change part))
    (filled : Filled fields members state final) :
    Filled (fields.map (.within update)) members (place state) (place final) := by
  -- Each field changes the part in its place, and nothing else of the whole.
  induction filled with
  | nil => exact .nil
  | given read _ ih =>
    refine .given (LawfulFormat.map read) ?_
    rw [updates]
    exact ih
  | absent spared _ ih => exact .absent spared ih

end Filled

end ChatOptions
