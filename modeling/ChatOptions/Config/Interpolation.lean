/-! References to environment variables in a text, written as a name in braces after a dollar sign. -/

namespace ChatOptions

/-- The values of environment variables; one that is unset or no text has none. -/
abbrev Environment := String → Option String

namespace Interpolation

/-- Whether a variable's name may begin with a character. -/
def startsName (char : Char) : Bool := ('A' ≤ char && char ≤ 'Z') || char == '_'

/-- Whether a variable's name may go on with a character. -/
def continuesName (char : Char) : Bool := startsName char || ('0' ≤ char && char ≤ '9')

/-- The rest of a name up to its closing brace, and the text behind the brace. -/
def nameRest? : List Char → Option (List Char × List Char)
  | [] => none
  | char :: rest =>
    if char = '\x7d' then some ([], rest)
    else if continuesName char then (nameRest? rest).map fun (name, after) => (char :: name, after)
    else none

/-- The name of the variable that a text begins with a reference to, and the text behind it. -/
def reference? : List Char → Option (List Char × List Char)
  | '$' :: '\x7b' :: first :: rest =>
    if startsName first then (nameRest? rest).map fun (name, after) => (first :: name, after)
    else none
  | _ => none

/-- What stands behind a name is shorter than the text in which the name goes on. -/
theorem nameRest?_length {text name after : List Char}
    (found : nameRest? text = some (name, after)) : after.length < text.length := by
  induction text generalizing name with
  | nil => cases found
  | cons char rest shorter =>
    rw [nameRest?] at found
    split at found
    · cases found; exact Nat.lt_succ_self _
    · split at found
      · obtain ⟨⟨tail, behind⟩, restFound, same⟩ := Option.map_eq_some_iff.mp found
        cases same
        -- A character of the name is gone before the rest is looked through.
        exact Nat.lt_succ_of_lt (shorter restFound)
      · cases found

/-- What stands behind a reference is shorter than the text that begins with it. -/
theorem reference?_length {text name after : List Char}
    (found : reference? text = some (name, after)) : after.length < text.length := by
  unfold reference? at found
  split at found
  · split at found
    · obtain ⟨⟨tail, behind⟩, restFound, same⟩ := Option.map_eq_some_iff.mp found
      cases same
      have shorter := nameRest?_length restFound
      simp only [List.length_cons]
      omega
    · cases found
  · cases found

/-- A text with every reference replaced by its variable's value, or the first variable without one. Values are not searched for references. -/
def replace (environment : Environment) (text : List Char) : Except String (List Char) :=
  match text with
  | [] => .ok []
  | char :: rest =>
    match _found : reference? (char :: rest) with
    | some (name, after) =>
      match environment (String.ofList name) with
      -- The replacing goes on behind the reference, so the value itself is not looked at.
      | some value => (replace environment after).map (value.toList ++ ·)
      | none => .error (String.ofList name)
    | none => (replace environment rest).map (char :: ·)
termination_by text.length
decreasing_by
  · exact reference?_length _found
  · exact Nat.lt_succ_self _

end Interpolation

/-- A text with every reference to an environment variable replaced by the variable's value, or the first variable without one. -/
def interpolate (environment : Environment) (text : String) : Except String String :=
  (Interpolation.replace environment text.toList).map String.ofList

end ChatOptions
