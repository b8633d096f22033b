import ChatOptions.Config
import ChatOptions.Proofs.Config.Interpolation

/-! A text may be taken apart at its references: what is replaced in front of one and behind it does not depend on the other. -/

namespace ChatOptions

namespace Interpolation

/-- A dollar sign ends every name, so what stands behind a name is found with or without it. -/
theorem nameRest?_append_dollar (text rest : List Char) :
    nameRest? (text ++ '$' :: rest)
      = (nameRest? text).map fun found => (found.1, found.2 ++ '$' :: rest) := by
  induction text with
  | nil => rfl
  | cons char others ih =>
    -- Both readings take the same branch on the first character.
    rw [List.cons_append, nameRest?, nameRest?]
    split
    · rfl
    · split
      · rw [ih]
        cases nameRest? others <;> rfl
      · rfl

/-- A reference at the front of a text never reaches over a dollar sign behind it. -/
theorem reference?_append_dollar (char : Char) (text rest : List Char) :
    reference? (char :: text ++ '$' :: rest)
      = (reference? (char :: text)).map fun found => (found.1, found.2 ++ '$' :: rest) := by
  by_cases dollar : char = '$'
  · subst dollar
    -- The brace and the first character of the name decide, and neither is a dollar sign.
    match text with
    | [] => exact reference?_of_second_ne rest (by decide)
    | [second] =>
      by_cases brace : second = '\x7b'
      · subst brace
        rfl
      · rw [reference?_of_second_ne [] brace]
        exact reference?_of_second_ne _ brace
    | second :: first :: others =>
      by_cases brace : second = '\x7b'
      · subst brace
        simp only [List.cons_append, reference?, nameRest?_append_dollar]
        split
        · cases nameRest? others <;> rfl
        · rfl
      · rw [reference?_of_second_ne _ brace]
        exact reference?_of_second_ne _ brace
  · rw [reference?_of_ne text dollar]
    exact reference?_of_ne _ dollar

/-- A name that is written with its closing brace is found, whatever stands behind the brace. -/
theorem nameRest?_append_brace {name : List Char}
    (continues : ∀ char ∈ name, continuesName char = true) (rest : List Char) :
    nameRest? (name ++ '\x7d' :: rest) = some (name, rest) := by
  induction name with
  | nil => rfl
  | cons char others ih =>
    have here : continuesName char = true := continues char List.mem_cons_self
    -- The closing brace itself does not go on with a name.
    have noBrace : char ≠ '\x7d' := by
      rintro rfl
      exact absurd here (by decide)
    rw [List.cons_append, nameRest?, if_neg noBrace, if_pos here,
      ih fun other found => continues other (List.mem_cons_of_mem _ found)]
    rfl

/-- A reference that is written at the front of a text is found there. -/
theorem reference?_referenceText {name : List Char} (named : IsName name) (rest : List Char) :
    reference? (referenceText name ++ rest) = some (name, rest) := by
  cases name with
  | nil => exact named.elim
  | cons first others =>
    obtain ⟨starts, continues⟩ := named
    have spelled : referenceText (first :: others) ++ rest
        = '$' :: '\x7b' :: first :: (others ++ '\x7d' :: rest) := by
      simp [referenceText]
    rw [spelled, reference?, if_pos starts, nameRest?_append_brace continues]
    rfl

/-- Replacing stops at a reference to a variable without a value. -/
theorem replace_of_missing {environment : Environment} {char : Char} {rest name after : List Char}
    (found : reference? (char :: rest) = some (name, after))
    (missing : environment (String.ofList name) = none) :
    replace environment (char :: rest) = .error (String.ofList name) := by
  -- Of the two ways to go on, the reference that was found takes the first.
  rw [replace]
  split
  · rename_i other behind same
    rw [found] at same
    cases same
    rw [missing]
  · rename_i none
    rw [found] at none
    cases none

/-- What a reference to a variable is replaced by, in front of a text in which references have been replaced. -/
theorem replace_referenceText {environment : Environment} {name : List Char} (named : IsName name)
    (rest : List Char) :
    replace environment (referenceText name ++ rest) = (do
      let value ← (environment (String.ofList name)).elim (.error (String.ofList name)) .ok
      let behind ← replace environment rest
      return value.toList ++ behind) := by
  have found := reference?_referenceText named rest
  -- The reference begins with its dollar sign, at which the replacing takes it up.
  rw [referenceText, List.cons_append] at found ⊢
  cases valued : environment (String.ofList name) with
  | none => exact replace_of_missing found valued
  | some value =>
    rw [replace_of_reference found valued]
    cases replace environment rest <;> rfl

/-- References are replaced in front of a dollar sign as if the text ended there, and from the dollar sign on as if it began there. -/
theorem replace_append_dollar (environment : Environment) (front rest : List Char) :
    replace environment (front ++ '$' :: rest) = (do
      let before ← replace environment front
      let behind ← replace environment ('$' :: rest)
      return before ++ behind) := by
  -- The induction follows the replacing in the front, which the dollar sign does not disturb.
  fun_induction replace environment front with
  | case1 =>
    rw [List.nil_append]
    cases replace environment ('$' :: rest) <;> rfl
  | case2 char others name after found value valued ih =>
    have still : reference? (char :: (others ++ '$' :: rest)) = some (name, after ++ '$' :: rest) := by
      rw [← List.cons_append, reference?_append_dollar, found]
      rfl
    rw [List.cons_append, replace_of_reference still valued, ih]
    -- Either part may fail, the front before the rest.
    cases replace environment after with
    | error missing => rfl
    | ok before =>
      cases replace environment ('$' :: rest) with
      | error missing => rfl
      | ok behind => simp [Except.map, bind, Except.bind, pure, Except.pure]
  | case3 char others name after found missing =>
    have still : reference? (char :: (others ++ '$' :: rest)) = some (name, after ++ '$' :: rest) := by
      rw [← List.cons_append, reference?_append_dollar, found]
      rfl
    rw [List.cons_append, replace_of_missing still missing]
    rfl
  | case4 char others none ih =>
    have still : reference? (char :: (others ++ '$' :: rest)) = .none := by
      rw [← List.cons_append, reference?_append_dollar, none]
      rfl
    rw [List.cons_append, replace_of_no_reference still, ih]
    cases replace environment others with
    | error missing => rfl
    | ok before =>
      cases replace environment ('$' :: rest) <;> rfl

/-- A text refers to a variable exactly if the text from some place on begins with a reference to it. -/
theorem refers_iff_suffix {text name : List Char} :
    Refers text name ↔ ∃ behind after, behind <:+ text ∧ reference? behind = some (name, after) := by
  constructor
  · rintro ⟨named, front, after, whole⟩
    refine ⟨referenceText name ++ after, after, ⟨front, ?_⟩, reference?_referenceText named after⟩
    rw [← List.append_assoc, whole]
  · rintro ⟨behind, after, suffix, found⟩
    obtain ⟨named, spelled⟩ := reference?_eq_some found
    have atFront : referenceText name <:+: behind := ⟨[], after, spelled.symm⟩
    exact ⟨named, atFront.trans suffix.isInfix⟩

/-- A reference in a text stands at its front or in what is behind the first character. -/
theorem refers_cons {char : Char} {rest name : List Char} :
    Refers (char :: rest) name
      ↔ (∃ after, reference? (char :: rest) = some (name, after)) ∨ Refers rest name := by
  rw [refers_iff_suffix, refers_iff_suffix]
  constructor
  · rintro ⟨behind, after, suffix, found⟩
    rcases List.suffix_cons_iff.mp suffix with whole | later
    · exact .inl ⟨after, whole ▸ found⟩
    · exact .inr ⟨behind, after, later, found⟩
  · rintro (⟨after, found⟩ | ⟨behind, after, suffix, found⟩)
    · exact ⟨char :: rest, after, List.suffix_rfl, found⟩
    · exact ⟨behind, after, suffix.trans (List.suffix_cons char rest), found⟩

/-- The empty text has no references. -/
theorem not_refers_nil (name : List Char) : ¬ Refers [] name := fun refers => by
  simp [referenceText, Refers] at refers

/-- A reference in a text stands in front of a given dollar sign or from it on. -/
theorem refers_append_dollar {front rest name : List Char} :
    Refers (front ++ '$' :: rest) name ↔ Refers front name ∨ Refers ('$' :: rest) name := by
  induction front with
  | nil =>
    -- Nothing stands in front, and so no reference.
    simp [not_refers_nil]
  | cons char others ih =>
    have front := reference?_append_dollar char others rest
    rw [List.cons_append] at front ⊢
    rw [refers_cons, refers_cons, ih, front, or_assoc]
    -- What is found at the front is found with the rest behind it.
    cases reference? (char :: others) with
    | none => simp
    | some found => simp [Prod.ext_iff]

/-- Text without a dollar sign has no part in the references of a text that it begins. -/
theorem refers_append_of_not_mem {plain rest name : List Char} (dollarless : '$' ∉ plain) :
    Refers (plain ++ rest) name ↔ Refers rest name := by
  induction plain with
  | nil => rfl
  | cons char others ih =>
    have different : char ≠ '$' := fun same => dollarless (same ▸ List.mem_cons_self)
    have later := ih fun found => dollarless (List.mem_cons_of_mem _ found)
    rw [List.cons_append, refers_cons, reference?_of_ne _ different, later]
    simp

/-- The characters of a name are no dollar signs. -/
theorem IsName.dollar_not_mem {name : List Char} (named : IsName name) : '$' ∉ name := by
  cases name with
  | nil => exact List.not_mem_nil
  | cons first others =>
    intro held
    rcases List.mem_cons.mp held with here | later
    · exact absurd (here ▸ named.1) (by decide)
    · exact absurd (named.2 _ later) (by decide)

/-- A text that begins with a reference refers to its variable, and to those that the rest refers to. -/
theorem refers_referenceText {name rest other : List Char} (named : IsName name) :
    Refers (referenceText name ++ rest) other ↔ other = name ∨ Refers rest other := by
  have found := reference?_referenceText named rest
  -- Behind the dollar sign there is none up to the closing brace.
  have dollarless : '$' ∉ '\x7b' :: (name ++ ['\x7d']) := by
    simp [named.dollar_not_mem]
  have split : referenceText name ++ rest = '$' :: ('\x7b' :: (name ++ ['\x7d']) ++ rest) := rfl
  rw [split] at found ⊢
  rw [refers_cons, refers_append_of_not_mem dollarless, found]
  simp [eq_comm]

/-- A text has no references, or a first one with a text that has none in front of it. -/
theorem exists_first_reference (text : List Char) :
    (∀ name, ¬ Refers text name) ∨ ∃ front name back, IsName name
      ∧ text = front ++ (referenceText name ++ back) ∧ ∀ other, ¬ Refers front other := by
  induction text with
  | nil => exact .inl not_refers_nil
  | cons char rest ih =>
    cases found : reference? (char :: rest) with
    | some reference =>
      -- The text begins with the reference.
      obtain ⟨name, back⟩ := reference
      obtain ⟨named, spelled⟩ := reference?_eq_some found
      exact .inr ⟨[], name, back, named, spelled, not_refers_nil⟩
    | none =>
      rcases ih with plain | ⟨front, name, back, named, rfl, plain⟩
      · refine .inl fun name refers => ?_
        rcases refers_cons.mp refers with ⟨after, here⟩ | later
        · rw [found] at here
          cases here
        · exact plain name later
      · refine .inr ⟨char :: front, name, back, named, rfl, fun other refers => ?_⟩
        rcases refers_cons.mp refers with ⟨after, here⟩ | later
        · -- A reference that the front begins with would be found in the whole text.
          have still : reference? (char :: (front ++ (referenceText name ++ back)))
              = some (other, after ++ (referenceText name ++ back)) := by
            have whole := reference?_append_dollar char front
              ('\x7b' :: (name ++ ['\x7d']) ++ back)
            rw [here] at whole
            exact whole
          rw [found] at still
          cases still
        · exact plain other later

/-- Every text is made up, from its end, of texts without references and of references between them. -/
theorem text_induction {motive : List Char → Prop}
    (plain : ∀ text, (∀ name, ¬ Refers text name) → motive text)
    (reference : ∀ front name back, (∀ other, ¬ Refers front other) → IsName name → motive back →
      motive (front ++ (referenceText name ++ back))) (text : List Char) : motive text := by
  -- What stands behind the first reference is shorter than the text.
  induction length : text.length using Nat.strongRecOn generalizing text with
  | _ bound ih =>
    rcases exists_first_reference text with none | ⟨front, name, back, named, rfl, none⟩
    · exact plain text none
    · refine reference front name back none named (ih back.length ?_ back rfl)
      rw [← length]
      simp [referenceText]
      omega

/-- Around a reference each part of a text is replaced by itself, and the variable's value is put between the parts as it is. -/
theorem replace_append_reference (environment : Environment) (front : List Char) {name : List Char}
    (named : IsName name) (back : List Char) :
    replace environment (front ++ (referenceText name ++ back)) = (do
      let before ← replace environment front
      let value ← (environment (String.ofList name)).elim (.error (String.ofList name)) .ok
      let behind ← replace environment back
      return before ++ (value.toList ++ behind)) := by
  have split := replace_append_dollar environment front
    ('\x7b' :: (name ++ ['\x7d']) ++ back)
  have reference := @replace_referenceText environment name named back
  -- The reference is what follows the front from its dollar sign on.
  change replace environment ('$' :: ('\x7b' :: (name ++ ['\x7d']) ++ back)) = _ at reference
  rw [reference] at split
  refine Eq.trans split ?_
  -- The three parts may fail, each only where those before it have not.
  cases replace environment front with
  | error missing => rfl
  | ok before =>
    cases environment (String.ofList name) with
    | none => rfl
    | some value => cases replace environment back <;> rfl

/-- A text refers to the variables of what is in front of a reference, to its own, and to those of what is behind it. -/
theorem refers_append_reference {front name back other : List Char} (named : IsName name) :
    Refers (front ++ (referenceText name ++ back)) other
      ↔ Refers front other ∨ other = name ∨ Refers back other := by
  rw [← refers_referenceText named]
  -- What follows the front begins with the dollar sign of the reference.
  exact refers_append_dollar

/-- Replacing succeeds exactly where every variable that is referred to has a value. -/
theorem replace_isOk_iff {environment : Environment} {text : List Char} :
    (∃ replaced, replace environment text = .ok replaced)
      ↔ ∀ name, Refers text name → environment (String.ofList name) ≠ none := by
  induction text using text_induction with
  | plain text none =>
    exact ⟨fun _ name refers => absurd refers (none name),
      fun _ => ⟨text, replace_of_no_references environment none⟩⟩
  | reference front name back none named ih =>
    rw [replace_append_reference environment front named, replace_of_no_references environment none]
    simp only [refers_append_reference named, none, false_or, forall_eq_or_imp, ← ih]
    -- The front stays as it is, so the reference decides first and then what is behind it.
    cases valued : environment (String.ofList name) with
    | none => simp [bind, Except.bind]
    | some value => cases replace environment back <;> simp [bind, Except.bind, pure, Except.pure]

/-- Where replacing fails, it names the first variable without a value: all that are referred to in front of it have one. -/
theorem replace_eq_error_iff {environment : Environment} {text : List Char} {missing : String} :
    replace environment text = .error missing
      ↔ ∃ front name back, IsName name ∧ text = front ++ (referenceText name ++ back)
        ∧ missing = String.ofList name ∧ environment missing = none
        ∧ ∀ other, Refers front other → environment (String.ofList other) ≠ none := by
  constructor
  · induction text using text_induction with
    | plain text none =>
      intro failed
      rw [replace_of_no_references environment none] at failed
      cases failed
    | reference front name back none named ih =>
      intro failed
      rw [replace_append_reference environment front named,
        replace_of_no_references environment none] at failed
      cases valued : environment (String.ofList name) with
      | none =>
        -- This reference is the first that fails, and nothing is referred to in front of it.
        rw [valued] at failed
        cases failed
        exact ⟨front, name, back, named, rfl, rfl, valued,
          fun other refers => absurd refers (none other)⟩
      | some value =>
        rw [valued] at failed
        cases behind : replace environment back with
        | ok replaced =>
          rw [behind] at failed
          cases failed
        | error missing =>
          rw [behind] at failed
          cases failed
          -- The reference that fails is behind this one, which has a value.
          obtain ⟨middle, later, rest, laterNamed, rfl, same, unset, set⟩ := ih behind
          refine ⟨front ++ (referenceText name ++ middle), later, rest, laterNamed,
            by simp, same, unset, fun other refers => ?_⟩
          rcases (refers_append_reference named).mp refers with before | here | after
          · exact absurd before (none other)
          · rw [here, valued]
            exact Option.some_ne_none value
          · exact set other after
  · rintro ⟨front, name, back, named, rfl, rfl, unset, set⟩
    obtain ⟨before, replaced⟩ := replace_isOk_iff.mpr set
    rw [replace_append_reference environment front named, replaced, unset]
    rfl

end Interpolation

open Interpolation (IsName Refers referenceText)

/-- What replacing the references of a text has to do: around a reference it works on each side by itself, and it leaves a text without references alone. -/
structure ReplacesReferences (environment : Environment)
    (replaced : String → Except ConfigError String) : Prop where
  /-- The first of front, variable and back that fails is the failure of the whole. -/
  reference : ∀ front name back : String, IsName name.toList →
    replaced (front ++ ("$\x7b" ++ name ++ "\x7d") ++ back) = (do
      let before ← replaced front
      let value ← (environment name).elim (.error (.variableNotFound name)) .ok
      let behind ← replaced back
      return before ++ value ++ behind)
  plain : ∀ text : String, (∀ name, ¬ Refers text.toList name) → replaced text = .ok text

namespace Config

/-- A reference between two texts, character by character. -/
theorem toList_reference (front name back : String) :
    (front ++ ("$\x7b" ++ name ++ "\x7d") ++ back).toList
      = front.toList ++ (referenceText name.toList ++ back.toList) := by
  simp [referenceText, String.toList_append]

/-- Replacing the references of a text satisfies both equations. -/
theorem interpolated_replaces (environment : Environment) :
    ReplacesReferences environment (interpolated environment) where
  reference front name back named := by
    have split := Interpolation.replace_append_reference environment front.toList named back.toList
    rw [String.ofList_toList] at split
    simp only [interpolated, interpolate, toList_reference, split]
    -- A failure of one of the three parts is that of the whole, on the texts as on their characters.
    cases Interpolation.replace environment front.toList with
    | error missing => rfl
    | ok before =>
      cases environment name with
      | none => rfl
      | some value =>
        cases Interpolation.replace environment back.toList with
        | error missing => rfl
        | ok behind =>
          show Except.ok (String.ofList _) = .ok _
          simp [String.append_assoc]
  plain text none := by
    rw [interpolated, interpolate, Interpolation.replace_of_no_references environment none]
    exact congrArg Except.ok text.ofList_toList

end Config

/-- The two equations leave no choice: functions that satisfy them agree on every text. -/
theorem ReplacesReferences.unique {environment : Environment}
    {first second : String → Except ConfigError String} (one : ReplacesReferences environment first)
    (other : ReplacesReferences environment second) : first = second := by
  -- The induction follows the references of a text, from its end.
  have agree : ∀ chars : List Char, first (.ofList chars) = second (.ofList chars) := by
    intro chars
    induction chars using Interpolation.text_induction with
    | plain chars none =>
      rw [one.plain _ (by simpa using none), other.plain _ (by simpa using none)]
    | reference front name back none named ih =>
      have spelled : String.ofList (front ++ (referenceText name ++ back))
          = .ofList front ++ ("$\x7b" ++ .ofList name ++ "\x7d") ++ .ofList back := by
        rw [← String.toList_inj, Config.toList_reference]
        simp only [String.toList_ofList]
      rw [spelled, one.reference _ _ _ (by simpa using named),
        other.reference _ _ _ (by simpa using named), ih,
        one.plain (.ofList front) (by simpa using none),
        other.plain (.ofList front) (by simpa using none)]
  funext text
  rw [← text.ofList_toList]
  exact agree text.toList

namespace Config

/-- Replacing fails exactly for a variable that is referred to and has no value, and names the first of them. -/
theorem interpolated_eq_error_iff {environment : Environment} {text : String} {error : ConfigError} :
    interpolated environment text = .error error
      ↔ ∃ front name back : String, IsName name.toList
        ∧ text = front ++ ("$\x7b" ++ name ++ "\x7d") ++ back
        ∧ error = .variableNotFound name ∧ environment name = none
        ∧ ∀ other : String, Refers front.toList other.toList → environment other ≠ none := by
  have failure : interpolated environment text = .error error
      ↔ ∃ missing, Interpolation.replace environment text.toList = .error missing
        ∧ error = .variableNotFound missing := by
    rw [interpolated, interpolate]
    cases Interpolation.replace environment text.toList with
    | ok filled =>
      constructor
      · exact nofun
      · rintro ⟨missing, failed, _⟩
        cases failed
    | error missing =>
      show Except.error (ConfigError.variableNotFound missing) = .error error ↔ _
      simp [eq_comm]
  rw [failure]
  constructor
  · rintro ⟨missing, failed, rfl⟩
    obtain ⟨front, name, back, named, spelled, rfl, unset, set⟩ :=
      Interpolation.replace_eq_error_iff.mp failed
    refine ⟨.ofList front, .ofList name, .ofList back, by simpa using named, ?_, rfl, unset, ?_⟩
    · rw [← String.toList_inj, toList_reference, spelled]
      simp only [String.toList_ofList]
    · intro other refers
      rw [String.toList_ofList] at refers
      simpa using set other.toList refers
  · rintro ⟨front, name, back, named, rfl, rfl, unset, set⟩
    refine ⟨name, Interpolation.replace_eq_error_iff.mpr
      ⟨front.toList, name.toList, back.toList, named, toList_reference .., by simp, unset, ?_⟩, rfl⟩
    intro other refers
    exact set (.ofList other) (by simpa using refers)

/--
Replacing references is determined by two equations: around a reference each side is replaced by itself, with the variable's value between them as it is, and a text without references stays.

So a value is never searched for references, whatever stands around it, and the variable that is reported is the first without a value.
-/
theorem interpolated_determined (environment : Environment) :
    ReplacesReferences environment (interpolated environment)
    ∧ (∀ replaced, ReplacesReferences environment replaced → replaced = interpolated environment)
    ∧ ∀ text error, interpolated environment text = .error error
      ↔ ∃ front name back : String, IsName name.toList
        ∧ text = front ++ ("$\x7b" ++ name ++ "\x7d") ++ back
        ∧ error = .variableNotFound name ∧ environment name = none
        ∧ ∀ other : String, Refers front.toList other.toList → environment other ≠ none :=
  ⟨interpolated_replaces environment,
    fun _ replaces => replaces.unique (interpolated_replaces environment),
    fun _ _ => interpolated_eq_error_iff⟩

/-- A value that makes a reference together with the text around it is not looked at again, and the first of two variables without a value is the one reported. -/
theorem interpolated_determined_example :
    let environment : Environment := fun name =>
      if name = "A" then some "$\x7bC\x7d" else if name = "B" then some "A" else none
    IsName "B".toList ∧ (∀ name, ¬ Refers "$$\x7bA".toList name) ∧ (∀ name, ¬ Refers "\x7d".toList name)
    ∧ interpolated environment "$$\x7bA$\x7bB\x7d\x7d" = .ok "$$\x7bAA\x7d"
    ∧ interpolated environment "$\x7bA\x7d$\x7bC\x7d$\x7bD\x7d" = .error (.variableNotFound "C") := by
  intro environment
  have named : ∀ letter, Interpolation.startsName letter = true → IsName [letter] :=
    fun letter starts => ⟨starts, fun other absent => absurd absent List.not_mem_nil⟩
  -- Replacing needs no variable where nothing is referred to.
  have plain : ∀ text : String, Interpolation.replace (fun _ => none) text.toList = .ok text.toList →
      ∀ name, ¬ Refers text.toList name :=
    fun text same name refers => Interpolation.replace_isOk_iff.mp ⟨_, same⟩ name refers rfl
  have front := plain "$$\x7bA" (by cbv)
  have back := plain "\x7d" (by cbv)
  obtain ⟨replaces, _, fails⟩ := interpolated_determined environment
  refine ⟨named 'B' (by decide), front, back, ?_, ?_⟩
  · have split := replaces.reference "$$\x7bA" "B" "\x7d" (named 'B' (by decide))
    rw [replaces.plain _ front, replaces.plain _ back] at split
    exact split
  · refine (fails _ _).mpr ⟨"$\x7bA\x7d", "C", "$\x7bD\x7d", named 'C' (by decide), rfl, rfl, rfl, ?_⟩
    -- In front of it only a variable with a value is referred to.
    intro other refers
    rcases (@Interpolation.refers_referenceText _ [] _ (named 'A' (by decide))).mp refers with
      same | nowhere
    · rw [← other.ofList_toList, same]
      exact Option.some_ne_none _
    · exact absurd nowhere (Interpolation.not_refers_nil _)

end Config

end ChatOptions
