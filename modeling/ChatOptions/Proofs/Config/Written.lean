import ChatOptions.Proofs.Config.Interpolation
import ChatOptions.Proofs.Json.Texts

/-! References in a text that is written as JSON: replacing them there is replacing them in every string of the tree. -/

namespace ChatOptions

open Json (escapedChar quoted)

namespace Interpolation

/-- Whether a character stands for itself between quotes. -/
def StandsForItself (char : Char) : Prop := char ≠ '"' ∧ char ≠ '\\' ∧ 32 ≤ char.toNat

instance (char : Char) : Decidable (StandsForItself char) :=
  inferInstanceAs (Decidable (_ ∧ _ ∧ _))

/-- A character that stands for itself is written as it is. -/
theorem escapedChar_of_standsForItself {char : Char} (stands : StandsForItself char) :
    escapedChar char = [char] := by
  -- Quote and backslash are excluded by name, and every other escape by the code point.
  obtain ⟨noQuote, noBackslash, visible⟩ := stands
  have printed : ¬ char.toNat < 32 := by omega
  unfold escapedChar
  split
  · exact absurd rfl noQuote
  · exact absurd rfl noBackslash
  -- The short escapes are those of control characters.
  all_goals first
    | exact absurd visible (by decide)
    | rw [if_neg printed]

/-- Any other character is written with a backslash, and without a dollar sign. -/
theorem escapedChar_of_escape {char : Char} (escape : ¬ StandsForItself char) :
    ∃ tail, escapedChar char = '\\' :: tail ∧ '$' ∉ tail := by
  unfold escapedChar
  split
  -- A short escape is one letter behind the backslash.
  all_goals first
    | exact ⟨_, rfl, by decide⟩
    | skip
  rename_i quote backslash _ _ _ _ _
  split
  · -- A long escape ends in two hexadecimal digits, and none of the sixteen is a dollar sign.
    rename_i control
    have digits : ∀ value < 16, Json.hexDigit value ≠ '$' := by decide
    have high := digits (char.toNat / 16) (by omega)
    have low := digits (char.toNat % 16) (by omega)
    exact ⟨_, rfl, by simp [high.symm, low.symm]⟩
  · -- What is left is visible, and no such character was to be written.
    rename_i visible
    exact absurd ⟨quote, backslash, Nat.le_of_not_lt visible⟩ escape

/-- A character with which a name may go on stands for itself. -/
theorem standsForItself_of_continuesName {char : Char} (continues : continuesName char = true) :
    StandsForItself char := by
  refine ⟨?_, ?_, ?_⟩
  -- Neither the quote nor the backslash goes on with a name.
  · rintro rfl
    revert continues
    decide
  · rintro rfl
    revert continues
    decide
  · -- The characters of names are digits, capital letters and the underscore.
    simp only [continuesName, startsName, Bool.or_eq_true, Bool.and_eq_true, decide_eq_true_eq,
      beq_iff_eq, Char.le_def, UInt32.le_iff_toNat_le] at continues
    rcases continues with (⟨capital, _⟩ | underscore) | ⟨digit, _⟩
    · exact Nat.le_trans (by decide) capital
    · rw [underscore]
      decide
    · exact Nat.le_trans (by decide) digit

/-- Behind a name that is written between quotes stands the same as behind the name itself. -/
theorem nameRest?_escaped (chars rest : List Char) :
    nameRest? (chars.flatMap escapedChar ++ '"' :: rest)
      = (nameRest? chars).map fun found =>
          (found.1, found.2.flatMap escapedChar ++ '"' :: rest) := by
  -- The quote ends every name that the characters before it do not.
  induction chars with
  | nil => rfl
  | cons char others ih =>
    by_cases stands : StandsForItself char
    · -- The character is written as it is, and both readings take the same branch on it.
      rw [List.flatMap_cons, escapedChar_of_standsForItself stands, List.singleton_append,
        List.cons_append, nameRest?, nameRest?]
      split
      · rfl
      · split
        · rw [ih]
          cases nameRest? others <;> rfl
        · rfl
    · -- The name breaks off at the character, and at the backslash that is written for it.
      obtain ⟨tail, spelled, _⟩ := escapedChar_of_escape stands
      have noBrace : char ≠ '\x7d' := by
        rintro rfl
        exact stands (by decide)
      have noName : ¬ continuesName char = true := fun continues =>
        stands (standsForItself_of_continuesName continues)
      rw [List.flatMap_cons, spelled, List.cons_append, List.cons_append, nameRest?,
        nameRest?, if_neg noBrace, if_neg noName, if_neg (by decide), if_neg (by decide)]
      rfl

/-- A reference between quotes is written as it is, and what is behind it as what is behind the reference itself. -/
theorem reference?_escaped (chars rest : List Char) :
    reference? ('$' :: (chars.flatMap escapedChar ++ '"' :: rest))
      = (reference? ('$' :: chars)).map fun found =>
          (found.1, found.2.flatMap escapedChar ++ '"' :: rest) := by
  -- A reference is decided by its first three characters and the rest of its name.
  cases chars with
  | nil => rfl
  | cons second more =>
    by_cases brace : second = '\x7b'
    · -- Behind an opening brace the first character of the name decides.
      subst brace
      cases more with
      | nil => rfl
      | cons first others =>
        have opened : ('\x7b' :: first :: others).flatMap escapedChar ++ '"' :: rest
            = '\x7b' :: (escapedChar first ++ (others.flatMap escapedChar ++ '"' :: rest)) := by
          simp [escapedChar_of_standsForItself (show StandsForItself '\x7b' by decide)]
        rw [opened]
        by_cases stands : StandsForItself first
        · rw [escapedChar_of_standsForItself stands, List.singleton_append, reference?, reference?,
            nameRest?_escaped]
          split
          · cases nameRest? others <;> rfl
          · rfl
        · -- Neither the character nor the backslash begins a name.
          obtain ⟨tail, spelled, _⟩ := escapedChar_of_escape stands
          have noName : ¬ startsName first = true := fun starts =>
            stands (standsForItself_of_continuesName (by simp [continuesName, starts]))
          rw [spelled, List.cons_append, reference?, reference?, if_neg noName,
            if_neg (by decide)]
          rfl
    · -- No brace is opened, and no escape opens one in its place.
      rw [reference?_of_second_ne more brace]
      by_cases stands : StandsForItself second
      · rw [List.flatMap_cons, escapedChar_of_standsForItself stands]
        exact reference?_of_second_ne _ brace
      · obtain ⟨tail, spelled, _⟩ := escapedChar_of_escape stands
        rw [List.flatMap_cons, spelled]
        exact reference?_of_second_ne _ (by decide)

/-- Characters that stand for themselves are written as they are. -/
theorem flatMap_escapedChar {chars : List Char}
    (stand : ∀ char ∈ chars, StandsForItself char) : chars.flatMap escapedChar = chars := by
  -- Each character is written as the list of itself.
  induction chars with
  | nil => rfl
  | cons char rest ih =>
    rw [List.flatMap_cons, escapedChar_of_standsForItself (stand char List.mem_cons_self),
      ih fun other found => stand other (List.mem_cons_of_mem _ found)]
    rfl

/-- Whether every variable that a text refers to has a value that stands for itself between quotes. -/
def Fillable (environment : Environment) (text : List Char) : Prop :=
  ∀ name, Refers text name → ∃ value, environment (String.ofList name) = some value
    ∧ ∀ char ∈ value.toList, StandsForItself char

/-- The end of a text is fillable where the text is. -/
theorem Fillable.of_suffix {environment : Environment} {text behind : List Char}
    (fillable : Fillable environment text) (suffix : behind <:+ text) :
    Fillable environment behind :=
  fun name refers => fillable name (refers.of_suffix suffix)

/-- Replacing the references of a text between quotes is writing the text with its references replaced. -/
theorem replace_escaped {environment : Environment} {chars : List Char}
    (fillable : Fillable environment chars) :
    ∃ filled, replace environment chars = .ok filled
      ∧ ∀ rest, replace environment (chars.flatMap escapedChar ++ '"' :: rest)
        = (replace environment rest).map fun after =>
            filled.flatMap escapedChar ++ '"' :: after := by
  -- The induction follows the replacing, which goes on behind a reference or behind one character.
  fun_induction replace environment chars with
  | case1 =>
    -- Only the closing quote is left, which begins no reference.
    refine ⟨[], rfl, fun rest => ?_⟩
    exact replace_of_no_reference (reference?_of_ne rest (by decide))
  | case2 char rest name after found value valued ih =>
    -- A reference stands here, and the replacing goes on behind it.
    obtain ⟨named, spelled⟩ := reference?_eq_some found
    have dollar : char = '$' := (List.cons.inj spelled).1
    subst dollar
    have suffix : after <:+ '$' :: rest := ⟨referenceText name, spelled.symm⟩
    have infixed : referenceText name <:+: '$' :: rest := ⟨[], after, spelled.symm⟩
    -- The value is one that the text between quotes may hold as it is.
    obtain ⟨given, same, stands⟩ := fillable name ⟨named, infixed⟩
    rw [valued] at same
    cases same
    obtain ⟨filled, replaced, written⟩ := ih (fillable.of_suffix suffix)
    refine ⟨value.toList ++ filled, by rw [replaced]; rfl, fun behind => ?_⟩
    -- The same reference is found between quotes, with what is behind it written out.
    have opened : ('$' :: rest).flatMap escapedChar ++ '"' :: behind
        = '$' :: (rest.flatMap escapedChar ++ '"' :: behind) := by
      rw [List.flatMap_cons, escapedChar_of_standsForItself (by decide)]
      rfl
    have reference := reference?_escaped rest behind
    rw [found] at reference
    rw [opened, replace_of_reference reference valued, written, List.flatMap_append,
      flatMap_escapedChar stands]
    cases replace environment behind with
    | error missing => rfl
    | ok after => simp [Except.map]
  | case3 char rest name after found missing =>
    -- A variable without a value would be referred to by the text.
    obtain ⟨named, spelled⟩ := reference?_eq_some found
    have infixed : referenceText name <:+: char :: rest := ⟨[], after, spelled.symm⟩
    obtain ⟨value, valued, _⟩ := fillable name ⟨named, infixed⟩
    rw [missing] at valued
    cases valued
  | case4 char rest none ih =>
    obtain ⟨filled, replaced, written⟩ := ih (fillable.of_suffix (List.suffix_cons char rest))
    refine ⟨char :: filled, by rw [replaced]; rfl, fun behind => ?_⟩
    by_cases stands : StandsForItself char
    · -- The character stays, and between quotes no reference begins with it either.
      have still : reference? (char :: (rest.flatMap escapedChar ++ '"' :: behind)) = .none := by
        by_cases dollar : char = '$'
        · subst dollar
          rw [reference?_escaped, none]
          rfl
        · exact reference?_of_ne _ dollar
      rw [List.flatMap_cons, List.flatMap_cons, escapedChar_of_standsForItself stands,
        List.singleton_append, List.cons_append, replace_of_no_reference still, written]
      cases replace environment behind <;> rfl
    · -- An escape holds no dollar sign, so it stays.
      obtain ⟨tail, spelled, noDollar⟩ := escapedChar_of_escape stands
      have plain : '$' ∉ escapedChar char := by
        rw [spelled]
        simpa using noDollar
      rw [List.flatMap_cons, List.append_assoc, replace_append_of_not_mem environment plain,
        written, List.flatMap_cons]
      cases replace environment behind with
      | error missing => rfl
      | ok after => simp [Except.map]

/-- A text with its references replaced, where they all have values. -/
def filled (environment : Environment) (text : String) : String :=
  match interpolate environment text with
  | .ok replaced => replaced
  | .error _ => text

/-- The references of a fillable text are replaced. -/
theorem interpolate_of_fillable {environment : Environment} {text : String}
    (fillable : Fillable environment text.toList) :
    interpolate environment text = .ok (filled environment text) := by
  -- Replacing succeeds, so the filled text is what it gives.
  obtain ⟨chars, replaced, _⟩ := replace_escaped fillable
  have made : interpolate environment text = .ok (String.ofList chars) := by
    rw [interpolate, replaced]
    rfl
  rw [filled, made]

/-- A text without references is fillable in every environment. -/
theorem fillable_of_no_references (environment : Environment) {text : List Char}
    (none : ∀ name, ¬ Refers text name) : Fillable environment text :=
  fun name refers => absurd refers (none name)

/-- A text without references stays as it is. -/
theorem filled_of_no_references (environment : Environment) {text : String}
    (none : ∀ name, ¬ Refers text.toList name) : filled environment text = text := by
  rw [filled, interpolate, replace_of_no_references environment none]
  exact String.ofList_toList

/-- Whether replacing references makes one text of another, whatever follows. -/
def Becomes (environment : Environment) (text result : List Char) : Prop :=
  ∀ rest, replace environment (text ++ rest) = (replace environment rest).map (result ++ ·)

namespace Becomes

variable {environment : Environment} {first second firstResult secondResult : List Char}

/-- Two texts one after the other become what each becomes. -/
theorem append (head : Becomes environment first firstResult)
    (tail : Becomes environment second secondResult) :
    Becomes environment (first ++ second) (firstResult ++ secondResult) := by
  -- What follows the first text is the second with what follows that.
  intro rest
  rw [List.append_assoc, head, tail]
  cases replace environment rest with
  | error missing => rfl
  | ok after => simp [Except.map]

/-- A text without a dollar sign stays. -/
theorem plain (without : '$' ∉ first) : Becomes environment first first :=
  replace_append_of_not_mem environment without

/-- A character other than a dollar sign stays in front. -/
theorem cons (char : Char) (other : char ≠ '$') (tail : Becomes environment first firstResult) :
    Becomes environment (char :: first) (char :: firstResult) := by
  have stays : Becomes environment [char] [char] := plain (by simpa using other.symm)
  exact stays.append tail

/-- A text that has become another as far as it goes is replaced by it. -/
theorem replace (whole : Becomes environment first firstResult) :
    Interpolation.replace environment first = .ok firstResult := by
  -- Nothing follows the whole text.
  have ended := whole []
  rw [List.append_nil, Interpolation.replace] at ended
  simpa [Except.map] using ended

end Becomes

/-- A fillable text between quotes becomes the filled text between quotes. -/
theorem becomes_quoted {environment : Environment} {text : String}
    (fillable : Fillable environment text.toList) :
    Becomes environment (quoted text) (quoted (filled environment text)) := by
  obtain ⟨chars, replaced, written⟩ := replace_escaped fillable
  -- The opening quote stays, and the closing one ends what is replaced.
  have made : (filled environment text).toList = chars := by
    rw [filled, interpolate, replaced]
    exact String.toList_ofList
  refine .cons _ (by decide) fun rest => ?_
  rw [List.append_assoc, List.singleton_append, written, made]
  cases Interpolation.replace environment rest with
  | error missing => rfl
  | ok after => simp [Except.map]

/-- A key without references stays. -/
theorem becomes_key (environment : Environment) {key : String}
    (none : ∀ name, ¬ Refers key.toList name) : Becomes environment (quoted key) (quoted key) := by
  -- It is filled with nothing.
  have written := becomes_quoted (fillable_of_no_references environment none)
  rwa [filled_of_no_references environment none] at written

/-- Whether texts are fillable and keys are without references. -/
structure Ready (environment : Environment) (texts keys : List String) : Prop where
  texts : ∀ text ∈ texts, Fillable environment text.toList
  keys : ∀ key ∈ keys, ∀ name, ¬ Refers key.toList name

/-- What holds of the texts and keys of two parts holds of each part. -/
theorem Ready.split {environment : Environment} {texts moreTexts keys moreKeys : List String}
    (ready : Ready environment (texts ++ moreTexts) (keys ++ moreKeys)) :
    Ready environment texts keys ∧ Ready environment moreTexts moreKeys := by
  constructor
  · exact ⟨fun text found => ready.texts text (List.mem_append_left _ found),
      fun key found => ready.keys key (List.mem_append_left _ found)⟩
  · exact ⟨fun text found => ready.texts text (List.mem_append_right _ found),
      fun key found => ready.keys key (List.mem_append_right _ found)⟩

/-- What holds of a key and others holds of the key and of the others. -/
theorem Ready.uncons {environment : Environment} {texts keys : List String} {key : String}
    (ready : Ready environment texts (key :: keys)) :
    Becomes environment (quoted key) (quoted key) ∧ Ready environment texts keys := by
  constructor
  · exact becomes_key environment (ready.keys key List.mem_cons_self)
  · exact ⟨ready.texts, fun other found => ready.keys other (List.mem_cons_of_mem _ found)⟩

mutual

/-- The text of a tree becomes that of the tree with every text filled. -/
theorem becomes_text (environment : Environment) : (tree : Json) → tree.FloatsReadBack →
    Ready environment tree.texts tree.keys →
    Becomes environment tree.text (tree.mapTexts (filled environment)).text
  -- Words have no dollar sign, and neither has a number that can be read back.
  | .null, _, _ => .plain (by decide)
  | .bool true, _, _ => .plain (by decide)
  | .bool false, _, _ => .plain (by decide)
  | .number _, floats, _ => .plain (floats.number.not_mem (by decide))
  | .string _, _, ready => becomes_quoted (ready.texts _ List.mem_cons_self)
  | .array [], _, _ => .plain (by decide)
  | .array (item :: items), floats, ready => by
    obtain ⟨itemFloats, restFloats⟩ := floats
    obtain ⟨itemReady, restReady⟩ := ready.split
    have first := becomes_text environment item itemFloats itemReady
    have others := becomes_moreItems environment items restFloats restReady
    -- The brackets around the items stay.
    exact .cons _ (by decide) ((first.append others).append (.plain (by decide)))
  | .object [], _, _ => .plain (by decide)
  | .object ((key, value) :: members), floats, ready => by
    obtain ⟨valueFloats, restFloats⟩ := floats
    obtain ⟨named, held⟩ := ready.uncons
    obtain ⟨valueReady, restReady⟩ := held.split
    have first := becomes_text environment value valueFloats valueReady
    have others := becomes_moreMembers environment members restFloats restReady
    -- The braces, the key and its colon stay.
    have member := named.append (.cons ':' (by decide) (first.append others))
    exact .cons _ (by decide) (member.append (.plain (by decide)))

/-- The texts of items behind the first become those of the items with every text filled. -/
theorem becomes_moreItems (environment : Environment) : (items : List Json) →
    Json.ItemFloatsReadBack items →
    Ready environment (Json.itemTexts items) (Json.itemKeys items) →
    Becomes environment (Json.textMoreItems items)
      (Json.textMoreItems (Json.mapItemTexts (filled environment) items))
  | [], _, _ => .plain (by decide)
  | item :: items, floats, ready => by
    obtain ⟨itemFloats, restFloats⟩ := floats
    obtain ⟨itemReady, restReady⟩ := ready.split
    have first := becomes_text environment item itemFloats itemReady
    have others := becomes_moreItems environment items restFloats restReady
    -- The comma in front stays.
    exact .cons _ (by decide) (first.append others)

/-- The texts of members behind the first become those of the members with every text filled. -/
theorem becomes_moreMembers (environment : Environment) : (members : List (String × Json)) →
    Json.MemberFloatsReadBack members →
    Ready environment (Json.memberTexts members) (Json.memberKeys members) →
    Becomes environment (Json.textMoreMembers members)
      (Json.textMoreMembers (Json.mapMemberTexts (filled environment) members))
  | [], _, _ => .plain (by decide)
  | (key, value) :: members, floats, ready => by
    obtain ⟨valueFloats, restFloats⟩ := floats
    obtain ⟨named, held⟩ := ready.uncons
    obtain ⟨valueReady, restReady⟩ := held.split
    have first := becomes_text environment value valueFloats valueReady
    have others := becomes_moreMembers environment members restFloats restReady
    -- The comma in front, the key and its colon stay.
    exact .cons _ (by decide) (named.append (.cons _ (by decide) (first.append others)))

end

/-- Replacing the references in the text of a tree gives the text of the tree with every text filled. -/
theorem interpolate_render {environment : Environment} {tree : Json}
    (floats : tree.FloatsReadBack)
    (texts : ∀ text ∈ tree.texts, Fillable environment text.toList)
    (keys : ∀ key ∈ tree.keys, ∀ name, ¬ Refers key.toList name) :
    interpolate environment tree.render
      = .ok (tree.mapTexts (filled environment)).render := by
  have replaced := (becomes_text environment tree floats ⟨texts, keys⟩).replace
  rw [interpolate, Json.render, String.toList_ofList, replaced]
  rfl

end Interpolation

end ChatOptions
