import ChatOptions.Config.Interpolation

/-! References to environment variables: what stands for one, and what replacing leaves alone. -/

namespace ChatOptions

namespace Interpolation

/-- Whether characters are the name of a variable. -/
def IsName : List Char → Prop
  | [] => False
  | first :: rest => startsName first = true ∧ ∀ char ∈ rest, continuesName char = true

/-- A reference to a variable as it is written. -/
def referenceText (name : List Char) : List Char := '$' :: '\x7b' :: (name ++ ['\x7d'])

/-- Whether a reference to a variable stands somewhere in a text. -/
def Refers (text name : List Char) : Prop := IsName name ∧ referenceText name <:+: text

/-- A reference in the end of a text is one in the text. -/
theorem Refers.of_suffix {text behind name : List Char} (refers : Refers behind name)
    (suffix : behind <:+ text) : Refers text name :=
  ⟨refers.1, refers.2.trans suffix.isInfix⟩

/-- A text without a dollar sign has no references. -/
theorem no_references_of_not_mem {text : List Char} (plain : '$' ∉ text) :
    ∀ name, ¬ Refers text name := by
  -- Every reference begins with a dollar sign.
  rintro name ⟨_, infixed⟩
  exact plain (infixed.subset List.mem_cons_self)

/-- The rest of a name is made of characters with which a name may go on, and ends with its brace. -/
theorem nameRest?_eq_some {text name after : List Char}
    (found : nameRest? text = some (name, after)) :
    text = name ++ '\x7d' :: after ∧ ∀ char ∈ name, continuesName char = true := by
  induction text generalizing name with
  | nil => cases found
  | cons char rest ih =>
    rw [nameRest?] at found
    split at found
    · -- The brace ends the name.
      rename_i brace
      cases found
      exact ⟨by rw [brace]; rfl, fun _ absent => absurd absent List.not_mem_nil⟩
    · split at found
      · rename_i continues
        -- The character belongs to the name, and the rest of the name is found behind it.
        obtain ⟨⟨more, behind⟩, restFound, same⟩ := Option.map_eq_some_iff.mp found
        cases same
        obtain ⟨split, each⟩ := ih restFound
        refine ⟨by rw [split]; rfl, fun other held => ?_⟩
        rcases List.mem_cons.mp held with here | later
        · rw [here]
          exact continues
        · exact each other later
      · cases found

/-- A reference that is found at the front of a text is written there. -/
theorem reference?_eq_some {text name after : List Char}
    (found : reference? text = some (name, after)) :
    IsName name ∧ text = referenceText name ++ after := by
  unfold reference? at found
  split at found
  · split at found
    · rename_i starts
      -- Behind the dollar sign and the brace a name starts, and ends with its own brace.
      obtain ⟨⟨more, behind⟩, restFound, same⟩ := Option.map_eq_some_iff.mp found
      cases same
      obtain ⟨split, each⟩ := nameRest?_eq_some restFound
      refine ⟨⟨starts, each⟩, ?_⟩
      rw [split]
      simp [referenceText]
    · cases found
  · cases found

/-- Only a dollar sign begins a reference. -/
theorem reference?_of_ne {char : Char} (rest : List Char) (other : char ≠ '$') :
    reference? (char :: rest) = none := by
  -- A reference is matched by its dollar sign first.
  unfold reference?
  split
  · rename_i same
    exact absurd (List.cons.inj same).1 other
  · rfl

/-- Only an opening brace behind a dollar sign begins a reference. -/
theorem reference?_of_second_ne {second : Char} (rest : List Char) (other : second ≠ '\x7b') :
    reference? ('$' :: second :: rest) = none := by
  unfold reference?
  split
  · rename_i same
    exact absurd (List.cons.inj (List.cons.inj same).2).1 other
  · rfl

/-- The value of a variable takes the place of a reference to it. -/
theorem replace_of_reference {environment : Environment} {char : Char}
    {rest name after : List Char} {value : String}
    (found : reference? (char :: rest) = some (name, after))
    (valued : environment (String.ofList name) = some value) :
    replace environment (char :: rest)
      = (replace environment after).map (value.toList ++ ·) := by
  -- Of the two ways to go on, the reference that was found takes the first.
  rw [replace]
  split
  · rename_i other behind same
    rw [found] at same
    cases same
    rw [valued]
  · rename_i none
    rw [found] at none
    cases none

/-- A character that begins no reference stays. -/
theorem replace_of_no_reference {environment : Environment} {char : Char} {rest : List Char}
    (none : reference? (char :: rest) = none) :
    replace environment (char :: rest) = (replace environment rest).map (char :: ·) := by
  -- Of the two ways to go on, a character without a reference takes the second.
  rw [replace]
  split
  · rename_i found
    rw [none] at found
    cases found
  · rfl

/-- Text without a dollar sign stays, whatever follows it. -/
theorem replace_append_of_not_mem (environment : Environment) {text : List Char}
    (plain : '$' ∉ text) (rest : List Char) :
    replace environment (text ++ rest) = (replace environment rest).map (text ++ ·) := by
  induction text with
  | nil =>
    rw [List.nil_append]
    cases replace environment rest <;> rfl
  | cons char others ih =>
    -- The first character is no dollar sign either, so no reference begins with it.
    have different : char ≠ '$' := fun same => plain (same ▸ List.mem_cons_self)
    have later := ih fun found => plain (List.mem_cons_of_mem _ found)
    rw [List.cons_append, replace_of_no_reference (reference?_of_ne _ different), later]
    cases replace environment rest <;> rfl

/-- Text without a reference stays as it is. -/
theorem replace_of_no_references (environment : Environment) {text : List Char}
    (none : ∀ name, ¬ Refers text name) : replace environment text = .ok text := by
  induction text with
  | nil => rw [replace]
  | cons char rest ih =>
    -- A reference in the rest would be one in the text.
    have later := ih fun name refers => none name (refers.of_suffix (List.suffix_cons char rest))
    cases found : reference? (char :: rest) with
    | none =>
      rw [replace_of_no_reference found, later]
      rfl
    | some reference =>
      -- What is found here would be a reference of the text.
      obtain ⟨name, after⟩ := reference
      obtain ⟨named, spelled⟩ := reference?_eq_some found
      refine absurd ⟨named, ?_⟩ (none name)
      rw [spelled]
      exact (List.prefix_append _ _).isInfix

end Interpolation

end ChatOptions
