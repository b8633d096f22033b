import ChatOptions.Proofs.Json.Skipping

/-! Records that are read by name: one member is one step, and a record with further fields reads what the smaller one reads. -/

namespace ChatOptions

namespace Record

variable {D : Type → Type} {σ : Type} {record : Record D σ} {name : String} {field : Field D σ}

/-- A record that passes over unknown names finds what its fields have under a name. -/
theorem find_of_lenient (lenient : record.strict = false) :
    record.find name = .ok (record.fields.find? (·.name == name)) := by
  rw [find]
  cases record.fields.find? (·.name == name) with
  | some field => rfl
  | none => simp [lenient]

/-- A record that refuses unknown names passes over none. -/
theorem find_ne_none_of_strict (strict : record.strict = true) (name : String) :
    record.find name ≠ .ok none := by
  rw [find]
  cases record.fields.find? (·.name == name) with
  | some field => simp
  | none => simp [strict]

/-- A name finds a field exactly if it is the first of the fields with that name. -/
theorem find_eq_some : record.find name = .ok (some field) ↔
    record.fields.find? (·.name == name) = some field := by
  rw [find]
  cases record.fields.find? (·.name == name) with
  | some field => simp
  | none => cases record.strict <;> simp

end Record

namespace Json

namespace Reader

/-- A member is passed over if it is of no field, and otherwise read into its field, which must not have been seen; the other members are read from there. -/
theorem named_cons_eq_ok {σ : Type} {record : Record Reader σ} {depth : Nat} {ending : ObjectEnd}
    {key : Key} {value : Document} {left : Position} {rest : List (Key × Document × Position)}
    {seen : List String} {state final : σ} :
    named record depth ending ((key, value, left) :: rest) seen state = .ok final ↔
      ∃ name, key.name = .ok name ∧
        ((record.find name = .ok none ∧ value.skip = .ok () ∧
            named record depth ending rest seen state = .ok final) ∨
          ∃ field update, record.find name = .ok (some field) ∧ name ∉ seen ∧
            field.read depth value = .ok update ∧
            named record depth ending rest (name :: seen) (update state) = .ok final) := by
  rw [named]
  -- The steps are taken one by one, and each that fails ends the reading.
  cases key.name with
  | error fault => simp [bind, Except.bind]
  | ok name =>
    cases found : record.find name with
    | error refusal => simp [bind, Except.bind, mapError_error, found]
    | ok field =>
      cases field with
      | none =>
        cases value.skip <;> simp [bind, Except.bind, mapError_ok, found]
      | some field =>
        by_cases again : name ∈ seen
        · simp [bind, Except.bind, mapError_ok, mapError_error, found, Record.once, again]
        · cases read : field.read depth value <;>
            simp [bind, Except.bind, mapError_ok, mapError_error, found, Record.once, again, settle,
              read]

/-- Reading members that are all there are ends with the record as it is, if no field of it has to be there. -/
theorem named_nil_eq_ok {σ : Type} {record : Record Reader σ}
    (spared : ∀ field ∈ record.fields, field.presence ≠ .required) {depth : Nat}
    {ending : ObjectEnd} {seen : List String} {state final : σ} :
    named record depth ending [] seen state = .ok final ↔
      (∃ stop, ending = .closed stop) ∧ state = final := by
  cases ending with
  | closed stop =>
    -- Whatever has been seen, nothing is missing.
    have complete : record.finish seen state = .ok state :=
      Record.finish_of_complete (fun field listed needed => absurd needed (spared field listed)) state
    rw [named, complete, mapError_ok]
    simp
  | broken breach => simp [named]

/-- A record with the fields of a smaller one and further fields, none of which has to be there. The smaller record is a part of the larger: its fields change that part, and further fields leave it alone. -/
structure Widens {σ τ : Type} (wide : Record Reader τ) (narrow : Record Reader σ)
    (part : τ → σ) (update : (σ → σ) → τ → τ) (further : List (Field Reader τ)) : Prop where
  strict : wide.strict = true
  lenient : narrow.strict = false
  spared : ∀ field ∈ narrow.fields, field.presence ≠ .required
  fields : wide.fields
    = narrow.fields.map (fun field => { field.within update with presence := .defaulted }) ++ further
  part_update : ∀ change whole, part (update change whole) = change (part whole)
  further_spared : ∀ field ∈ further, field.presence ≠ .required
  further_spelled : ∀ field ∈ further, Spelled field.read
  part_further : ∀ field ∈ further, ∀ depth tree change, field.read depth tree = .ok change →
    ∀ whole, part (change whole) = part whole

namespace Widens

variable {σ τ : Type} {wide : Record Reader τ} {narrow : Record Reader σ} {part : τ → σ}
  {update : (σ → σ) → τ → τ} {further : List (Field Reader τ)}

/-- No field of the larger record has to be there. -/
theorem wide_spared (widens : Widens wide narrow part update further) :
    ∀ field ∈ wide.fields, field.presence ≠ .required := by
  intro field listed
  rw [widens.fields, List.mem_append, List.mem_map] at listed
  rcases listed with ⟨_, _, rfl⟩ | added
  · exact Presence.noConfusion
  · exact widens.further_spared field added

/-- A name stands in the larger record for what it stands for in the smaller, or else for a further field. -/
theorem find? (widens : Widens wide narrow part update further) (name : String) :
    wide.fields.find? (·.name == name)
      = ((narrow.fields.find? (·.name == name)).map
          fun field => { field.within update with presence := .defaulted }).or
        (further.find? (·.name == name)) := by
  rw [widens.fields, List.find?_append, List.find?_map]
  -- A field has its name in both records.
  rfl

/-- A field of the smaller record is read in the larger as a change of its part. -/
theorem find_shared (widens : Widens wide narrow part update further) {name : String}
    {field : Field Reader σ} (found : narrow.find name = .ok (some field)) :
    wide.find name = .ok (some { field.within update with presence := .defaulted }) := by
  rw [Record.find_of_lenient widens.lenient, Except.ok.injEq] at found
  exact Record.find_eq_some.mpr (by rw [widens.find?, found]; rfl)

/-- What is found in the larger record only is one of the further fields. -/
theorem mem_further (widens : Widens wide narrow part update further) {name : String}
    {field : Field Reader τ} (none : narrow.find name = .ok none)
    (found : wide.find name = .ok (some field)) : field ∈ further := by
  rw [Record.find_of_lenient widens.lenient, Except.ok.injEq] at none
  have listed := Record.find_eq_some.mp found
  rw [widens.find?, none] at listed
  exact List.mem_of_find?_eq_some listed

/-- What the larger record reads from members the smaller reads from them, too: its own part, passing over the further fields. -/
theorem named_narrow (widens : Widens wide narrow part update further) {depth : Nat}
    {ending : ObjectEnd} {members : List (Key × Document × Position)} {seen alsoSeen : List String}
    {state final : τ} (agree : ∀ name field, narrow.find name = .ok (some field) →
      (name ∈ alsoSeen ↔ name ∈ seen))
    (read : named wide depth ending members seen state = .ok final) :
    named narrow depth ending members alsoSeen (part state) = .ok (part final) := by
  -- The two readings go along the members side by side; the names of the smaller record have been
  -- seen in both or in neither.
  induction members generalizing seen alsoSeen state with
  | nil =>
    obtain ⟨closed, rfl⟩ := (named_nil_eq_ok widens.wide_spared).mp read
    exact (named_nil_eq_ok widens.spared).mpr ⟨closed, rfl⟩
  | cons member rest ih =>
    obtain ⟨key, value, left⟩ := member
    obtain ⟨name, named, step⟩ := named_cons_eq_ok.mp read
    refine named_cons_eq_ok.mpr ⟨name, named, ?_⟩
    rcases step with ⟨unknown, _, _⟩ | ⟨field, change, found, unseen, readField, readRest⟩
    · -- The larger record passes over nothing.
      exact absurd unknown (Record.find_ne_none_of_strict widens.strict name)
    cases known : narrow.find name with
    | error refusal =>
      -- The smaller record refuses no name.
      rw [Record.find_of_lenient widens.lenient] at known
      cases known
    | ok own =>
      cases own with
      | some own =>
        -- The same field is read, as a change of the part.
        rw [widens.find_shared known] at found
        cases found
        obtain ⟨ownChange, readOwn, rfl⟩ := map_eq_ok.mp readField
        refine .inr ⟨own, ownChange, rfl, fun again => unseen ((agree name own known).mp again),
          readOwn, ?_⟩
        rw [← widens.part_update ownChange state]
        refine ih (fun other field listed => ?_) readRest
        rw [List.mem_cons, List.mem_cons, agree other field listed]
      | none =>
        -- The field is none of the smaller record, whose names have been seen as before.
        have added := widens.mem_further known found
        refine .inl ⟨rfl, widens.further_spelled field added depth value change readField, ?_⟩
        rw [← widens.part_further field added depth value change readField state]
        refine ih (fun other field listed => ?_) readRest
        -- A name of the smaller record is another than the one that is no name of it.
        have different : other ≠ name := by
          rintro rfl
          rw [known] at listed
          cases listed
        rw [List.mem_cons, or_iff_right different, agree other field listed]

/-- What the smaller record reads from members that are all its own the larger reads from them, too. -/
theorem named_wide (widens : Widens wide narrow part update further) (whole : σ → τ)
    (updates : ∀ change small, update change (whole small) = whole (change small)) {depth : Nat}
    {ending : ObjectEnd} {members : List (Key × Document × Position)} {seen : List String}
    {state final : σ}
    (own : ∀ member ∈ members, ∃ field ∈ narrow.fields, member.1.name = .ok field.name)
    (read : named narrow depth ending members seen state = .ok final) :
    named wide depth ending members seen (whole state) = .ok (whole final) := by
  -- The two readings see the same names, as every member is of a field of both.
  induction members generalizing seen state with
  | nil =>
    obtain ⟨closed, rfl⟩ := (named_nil_eq_ok widens.spared).mp read
    exact (named_nil_eq_ok widens.wide_spared).mpr ⟨closed, rfl⟩
  | cons member rest ih =>
    obtain ⟨key, value, left⟩ := member
    obtain ⟨name, named, step⟩ := named_cons_eq_ok.mp read
    refine named_cons_eq_ok.mpr ⟨name, named, .inr ?_⟩
    rcases step with ⟨unknown, _, _⟩ | ⟨field, change, found, unseen, readField, readRest⟩
    · -- The name is that of a field, so the member is not passed over.
      obtain ⟨field, listed, fieldNamed⟩ := own _ List.mem_cons_self
      rw [named] at fieldNamed
      rw [Record.find_of_lenient widens.lenient, Except.ok.injEq, List.find?_eq_none] at unknown
      exact absurd (beq_iff_eq.mpr (Except.ok.inj fieldNamed).symm) (unknown field listed)
    · refine ⟨_, update change, widens.find_shared found, unseen, ?_, ?_⟩
      · exact map_eq_ok.mpr ⟨change, readField, rfl⟩
      · rw [updates]
        exact ih (fun member listed => own member (List.mem_cons_of_mem _ listed)) readRest

end Widens

end Reader

end Json

end ChatOptions
