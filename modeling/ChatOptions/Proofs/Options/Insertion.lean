import ChatOptions.Proofs.Options.Ordering

/-! One more member in an object: a request passes over it where it is unknown, a configuration refuses it there, and neither takes a member twice. -/

namespace ChatOptions

open Interpolation (Refers)
open Json (Laid Spelling TextLiteral)
open OrderFormat (Orderless)

namespace Record

variable {D : Type → Type} {σ : Type} {record : Record D σ} {name : String}

/-- A name that no field has is passed over or refused. -/
theorem find_of_unknown (unknown : name ∉ record.fields.map (·.name)) :
    record.find name = .ok none ∨ ∃ refusal, record.find name = .error refusal := by
  -- Were a field found, it would have the name.
  cases found : record.find name with
  | error refusal => exact .inr ⟨refusal, rfl⟩
  | ok field =>
    cases field with
    | none => exact .inl rfl
    | some field =>
      obtain ⟨listed, named⟩ := mem_of_find found
      exact absurd (List.mem_map.mpr ⟨field, listed, named⟩) unknown

/-- A name that a field has finds a field. -/
theorem find_of_known (known : name ∈ record.fields.map (·.name)) :
    ∃ field, record.find name = .ok (some field) := by
  obtain ⟨field, listed, named⟩ := List.mem_map.mp known
  have some : (record.fields.find? (·.name == name)).isSome = true :=
    List.find?_isSome.mpr ⟨field, listed, beq_iff_eq.mpr named⟩
  obtain ⟨found, first⟩ := Option.isSome_iff_exists.mp some
  exact ⟨found, find_eq_some.mpr first⟩

section Effects

variable {ε δ : Type} {passing : Except ε Unit} {read : Field D σ → Except δ (σ → σ)}

/-- A member whose name is refused is refused. -/
theorem effect_of_refused {refusal : Refusal} (found : record.find name = .error refusal) :
    record.effect name passing read = .refused := by
  simp only [effect, found]

/-- A member whose name is passed over is passed over, if it can be. -/
theorem effect_of_passed (found : record.find name = .ok none) (passes : passing = .ok ()) :
    record.effect name passing read = .passed := by
  simp only [effect, found, passes]

/-- A member of a name that a field has is read into the field, or refused. -/
theorem effect_of_known (known : name ∈ record.fields.map (·.name)) :
    record.effect name passing read = .refused ∨
      ∃ update, record.effect name passing read = .change name update := by
  obtain ⟨field, found⟩ := find_of_known known
  cases accepted : read field with
  | ok update => exact .inr ⟨update, by simp only [effect, found, accepted]⟩
  | error refusal => exact .inl (by simp only [effect, found, accepted])

end Effects

end Record

namespace Json.Reader

open Document (Shows ShowsMembers)

variable {σ : Type} {shape : Record Reader σ} {front back members : List (TextLiteral × Spelling)}
  {key : TextLiteral} {value : Spelling} {text widened : String} {name : String}

/-- What the member of a part does to a record that is the whole text. -/
def outerEffect (shape : Record Reader σ) : Key × Document × Position → Effect σ :=
  memberEffect shape (depthLimit - 1)

/-- A text that is an object is read as a record from the effects of the parts that show its members. -/
theorem read_laid (shape : Record Reader σ) (laid : Laid (Spelling.object members).pieces text.toList) :
    ∃ parts, ShowsMembers parts members ∧ ∀ final, read (record shape) text = .ok final ↔
      shape.Made (parts.map (outerEffect shape)) [] shape.blank final := by
  obtain ⟨whole, shows, parsed⟩ := document_laid laid
  -- An object is shown by an object, which a reader enters with all of its depth.
  cases shows with
  | @object start stop parts _ each =>
    refine ⟨parts, each, fun final => ?_⟩
    have tree : (document text.toList).1 = .object start parts (.closed stop) := by rw [parsed]
    have complete : (document text.toList).2 = none := by rw [parsed]
    have entered : Document.enter depthLimit start = .ok (depthLimit - 1) := rfl
    rw [read_record_eq_ok shape tree, entered]
    simp only [complete, Except.ok.injEq, exists_eq_left', and_true, named_eq_ok]
    rfl

/-- A text that is an object with a member among others is read from the effects of all of them, in their order. -/
theorem read_insert (shape : Record Reader σ)
    (laid : Laid (Spelling.object (front ++ (key, value) :: back)).pieces widened.toList) :
    ∃ before part behind, ShowsMembers before front ∧ ShowsMembers behind back ∧
      SameOutcome Eq part.1.name key.value ∧ Shows part.2.1 value ∧
      ∀ final, read (record shape) widened = .ok final ↔
        shape.Made (before.map (outerEffect shape) ++ outerEffect shape part
          :: behind.map (outerEffect shape)) [] shape.blank final := by
  obtain ⟨parts, each, reads⟩ := read_laid shape laid
  obtain ⟨before, behind, rfl, inFront, inserted⟩ := each.split
  -- The part of the member is the first behind those that show what stands in front of it.
  cases inserted with
  | @cons key part left behind _ _ _ named shows inBack =>
    refine ⟨before, (key, part, left), behind, inFront, inBack, named, shows, fun final => ?_⟩
    rw [reads, List.map_append, List.map_cons]

/-- The effect of a member with a name is that of the name. -/
theorem outerEffect_of_named {part : Key × Document × Position} (named : part.1.name = .ok name) :
    outerEffect shape part = shape.effect name part.2.1.skip fun field =>
      field.read (depthLimit - 1) part.2.1 := by
  rw [outerEffect, memberEffect, named]

/-- The effect of a member of a name that a field has is to be refused, or to change the field. -/
theorem outerEffect_of_known (known : name ∈ shape.fields.map (·.name))
    {part : Key × Document × Position} (named : part.1.name = .ok name) :
    outerEffect shape part = .refused ∨ ∃ update, outerEffect shape part = .change name update := by
  rw [outerEffect_of_named named]
  exact Record.effect_of_known known

/-- No record is read from a text with a member whose name is refused, or that has no name. -/
theorem read_insert_refused
    (laid : Laid (Spelling.object (front ++ (key, value) :: back)).pieces widened.toList)
    (refused : ∀ name, key.value = .ok name → ∃ refusal, shape.find name = .error refusal)
    (final : σ) : read (record shape) widened ≠ .ok final := by
  obtain ⟨before, part, behind, _, _, named, _, reads⟩ := read_insert shape laid
  have effect : outerEffect shape part = .refused := by
    -- Without a name nothing is looked up, and no name that there may be is accepted.
    cases keyed : part.1.name with
    | error fault => rw [outerEffect, memberEffect, keyed]
    | ok name =>
      obtain ⟨refusal, found⟩ := refused name ((named.eq_ok_iff name).mp keyed)
      rw [outerEffect_of_named keyed, Record.effect_of_refused found]
  rw [Ne, reads, effect]
  intro made
  exact made.accepted (List.mem_append_right _ List.mem_cons_self)

/-- A member whose name is passed over makes no difference to a record, wherever it stands. -/
theorem read_insert_passed (orderless : ∀ field ∈ shape.fields, Orderless Eq field.read)
    (laid : Laid (Spelling.object (front ++ back)).pieces text.toList)
    (inserted : Laid (Spelling.object (front ++ (key, value) :: back)).pieces widened.toList)
    (named : key.value = .ok name) (found : shape.find name = .ok none) (final : σ) :
    read (record shape) text = .ok final ↔ read (record shape) widened = .ok final := by
  obtain ⟨parts, each, reads⟩ := read_laid shape laid
  obtain ⟨before, behind, rfl, inFront, inBack⟩ := each.split
  obtain ⟨before', part, behind', inFront', inBack', keyed, shows, reads'⟩ :=
    read_insert shape inserted
  -- The other members have the effects that they had, though they have moved.
  have first : before.map (outerEffect shape) = before'.map (outerEffect shape) :=
    map_memberEffect orderless _ (Document.membersAlike_in_place inFront inFront')
  have last : behind.map (outerEffect shape) = behind'.map (outerEffect shape) :=
    map_memberEffect orderless _ (Document.membersAlike_in_place inBack inBack')
  have effect : outerEffect shape part = .passed := by
    rw [outerEffect_of_named ((keyed.eq_ok_iff name).mpr named)]
    exact Record.effect_of_passed found (Document.skip_of_shows shows)
  rw [reads, reads', effect, Record.Made.insert_passed_iff, List.map_append, first, last]

/-- No record is read from a text with two members of the name of a field. -/
theorem read_insert_again
    (laid : Laid (Spelling.object (front ++ (key, value) :: back)).pieces widened.toList)
    (known : name ∈ shape.fields.map (·.name)) (named : key.value = .ok name)
    (present : ∃ member ∈ front ++ back, member.1.value = .ok name) (final : σ) :
    read (record shape) widened ≠ .ok final := by
  obtain ⟨before, part, behind, inFront, inBack, keyed, _, reads⟩ := read_insert shape laid
  obtain ⟨member, listed, again⟩ := present
  -- The other member is shown by a part in front of the new one, or by one behind it.
  obtain ⟨other, among, keyed'⟩ : ∃ other ∈ before ++ behind,
      SameOutcome Eq other.1.name member.1.value := by
    rcases List.mem_append.mp listed with early | late
    · obtain ⟨other, found, same⟩ := inFront.exists_part early
      exact ⟨other, List.mem_append_left _ found, same⟩
    · obtain ⟨other, found, same⟩ := inBack.exists_part late
      exact ⟨other, List.mem_append_right _ found, same⟩
  rw [Ne, reads]
  intro made
  have effects : outerEffect shape other
      ∈ before.map (outerEffect shape) ++ behind.map (outerEffect shape) := by
    rw [← List.map_append]
    exact List.mem_map_of_mem among
  -- Either of the two is refused, or both are read into the one field.
  rcases outerEffect_of_known known ((keyed'.eq_ok_iff name).mpr again) with refused | ⟨_, changed⟩
  · refine made.accepted (refused ▸ ?_)
    exact List.perm_middle.mem_iff.mpr (List.mem_cons_of_mem _ effects)
  rcases outerEffect_of_known known ((keyed.eq_ok_iff name).mpr named) with refused | ⟨_, inserted⟩
  · refine made.accepted (refused ▸ ?_)
    exact List.mem_append_right _ List.mem_cons_self
  · rw [inserted] at made
    exact Record.Made.not_repeated (changed ▸ effects) made

end Json.Reader

namespace Config

/-- The names of the thirteen members of a configuration. -/
def memberNames : List String :=
  Request.memberNames ++ ["functions", "proxy_tool_calls", "tool_context"]

/-- The names of the members are those of the fields that are read. -/
theorem memberNames_eq :
    memberNames = (fields : List (Field Json.Reader Config)).map (·.name) := rfl

end Config

namespace Options

/-- A text from which no request is read is refused. -/
theorem ofWireText_eq_error {text : String}
    (none : ∀ request : Request, Json.Reader.read Request.reader text ≠ .ok request) :
    ∃ fault, ofWireText text = .error fault := by
  cases sent : ofWireText text with
  | error fault => exact ⟨fault, rfl⟩
  | ok options =>
    obtain ⟨request, read, _⟩ := ofWireText_eq_ok.mp sent
    exact absurd read (none request)

/-- A text from which no configuration is read is refused, if it refers to no variable. -/
theorem ofText_eq_error (environment : Environment) {text : String}
    (plain : ∀ name, ¬ Refers text.toList name)
    (none : ∀ config : Config, Json.Reader.read Config.reader text ≠ .ok config) :
    ∃ error, ofText environment .json text = .error error := by
  cases load : ofText environment .json text with
  | error error => exact ⟨error, rfl⟩
  | ok options =>
    obtain ⟨config, read, _⟩ := (ofText_json_eq_ok plain).mp load
    exact absurd read (none config)

/--
Members that are unknown are passed over in wire form and refused in a configuration, wherever they stand, and no member comes twice.

Two texts are objects with the same members, but for one that the second has besides; keys count as what they stand for.
If the key of that member is none of a request, both are read as the same options in wire form, or neither is read.
Whatever is read from wire form, nothing of it stays in process.
If the key is none of a configuration, or stands for no text, the second text is no configuration.
A key that stands for no text is refused in wire form, too.
If the key is one of a request, and another member has it, the second text is neither.
-/
theorem unknown_members (environment : Environment) (front back : List (TextLiteral × Spelling))
    (key : TextLiteral) (value : Spelling) (text widened : String)
    (laid : Laid (Spelling.object (front ++ back)).pieces text.toList)
    (inserted : Laid (Spelling.object (front ++ (key, value) :: back)).pieces widened.toList) :
    (∀ name, key.value = .ok name → name ∉ Request.memberNames → ∀ options,
        ofWireText text = .ok options ↔ ofWireText widened = .ok options) ∧
      (∀ sent options, ofWireText sent = .ok options → options.callbacks = []
        ∧ options.functions = .empty ∧ options.proxyToolCalls = none ∧ options.toolContext = none) ∧
      ((∀ name, ¬ Refers widened.toList name) → (∀ name ∈ Config.memberNames, key.value ≠ .ok name) →
        ∃ error, ofText environment .json widened = .error error) ∧
      ((∀ name, key.value ≠ .ok name) → ∃ fault, ofWireText widened = .error fault) ∧
      ∀ name ∈ Request.memberNames, key.value = .ok name →
        (∃ member ∈ front ++ back, member.1.value = .ok name) →
        (∃ fault, ofWireText widened = .error fault) ∧
          ((∀ name, ¬ Refers widened.toList name) →
            ∃ error, ofText environment .json widened = .error error) := by
  refine ⟨?passed, ?inProcess, ?refused, ?nameless, ?again⟩
  case passed =>
    intro name named unknown options
    -- A request refuses no name, so one that it does not have is passed over.
    have found : (Request.record : Record Json.Reader Request).find name = .ok none := by
      refine (Record.find_of_unknown unknown).resolve_right ?_
      rw [Record.find_of_lenient rfl]
      rintro ⟨_, ⟨⟩⟩
    have same (request : Request) := Json.Reader.read_insert_passed
      (Request.orderless_fields .optional) laid inserted named found request
    rw [ofWireText_eq_ok, ofWireText_eq_ok]
    exact exists_congr fun request => and_congr_left' (same request)
  case inProcess =>
    intro sent options read
    obtain ⟨request, _, rfl⟩ := ofWireText_eq_ok.mp read
    exact ⟨rfl, rfl, rfl, rfl⟩
  case refused =>
    intro plain unknown
    refine ofText_eq_error environment plain (Json.Reader.read_insert_refused inserted ?_)
    intro name named
    -- A configuration passes over no name, so one that it does not have is refused.
    have fresh : name ∉ (Config.fields : List (Field Json.Reader Config)).map (·.name) := by
      rw [← Config.memberNames_eq]
      exact fun listed => unknown name listed named
    exact (Record.find_of_unknown fresh).resolve_left (Record.find_ne_none_of_strict rfl name)
  case nameless =>
    intro nameless
    refine ofWireText_eq_error (Json.Reader.read_insert_refused inserted ?_)
    exact fun name named => absurd named (nameless name)
  case again =>
    intro name known named present
    -- A configuration has all the members of a request.
    have alsoKnown : name ∈ (Config.fields : List (Field Json.Reader Config)).map (·.name) := by
      rw [← Config.memberNames_eq]
      exact List.mem_append_left _ known
    exact ⟨ofWireText_eq_error (Json.Reader.read_insert_again inserted known named present),
      fun plain => ofText_eq_error environment plain
        (Json.Reader.read_insert_again inserted alsoKnown named present)⟩

/-- Functions that are enabled in wire form, with an escape in the key, are passed over; a configuration with a parameter that no request has is refused; and a second model is refused, though it is null. -/
theorem unknown_members_example :
    let environment : Environment := fun _ => none
    let remote := "\x7b\"\\u0066unctions\":[\"f\"],\"model\":\"m\"\x7d"
    let strange := "\x7b\"model\":\"m\",\"top_k\":[]\x7d"
    let twice := "\x7b\"model\":\"m\",\"model\":null\x7d"
    (∀ name, ¬ Refers strange.toList name) ∧ (∀ name, ¬ Refers twice.toList name)
    ∧ ofWireText remote = .ok { model := some "m" }
    ∧ (∃ error, ofText environment .json strange = .error error)
    ∧ (∃ fault, ofWireText twice = .error fault)
    ∧ ∃ error, ofText environment .json twice = .error error := by
  let model : TextLiteral := ⟨"model".toList, .of_plain (by decide)⟩
  let functions : TextLiteral := ⟨'\\' :: 'u' :: '0' :: '0' :: '6' :: '6' :: "unctions".toList,
    .unit (by simp [Json.IsHexDigit]) (.of_plain (by decide))⟩
  let parameter : TextLiteral := ⟨"top_k".toList, .of_plain (by decide)⟩
  let m : TextLiteral := ⟨"m".toList, .of_plain (by decide)⟩
  let f : TextLiteral := ⟨"f".toList, .of_plain (by decide)⟩
  intro environment remote strange twice
  let text := "\x7b\"model\":\"m\"\x7d"
  let members : List (TextLiteral × Spelling) := [(model, .text m)]
  -- None of the texts has blanks.
  have laid : Laid (Spelling.object members).pieces text.toList := .of_flatten (by decide +kernel)
  have remoteLaid : Laid (Spelling.object ([] ++ (functions, .array [.text f]) :: members)).pieces
      remote.toList := .of_flatten (by decide +kernel)
  have strangeLaid : Laid (Spelling.object (members ++ [(parameter, .array [])])).pieces
      strange.toList := .of_flatten (by decide +kernel)
  have twiceLaid : Laid (Spelling.object (members ++ [(model, .null)])).pieces twice.toList :=
    .of_flatten (by decide +kernel)
  have sent : ofWireText text = .ok { model := some "m" } := by
    simp only [text]
    cbv
  have hidden : functions.value = .ok "functions" := by rfl
  have unknown : ∀ name ∈ Config.memberNames, parameter.value ≠ .ok name := by
    intro name known named
    cases named
    exact absurd known (by decide)
  have strangePlain : ∀ name, ¬ Refers strange.toList name :=
    Interpolation.no_references_of_not_mem (by decide)
  have twicePlain : ∀ name, ¬ Refers twice.toList name :=
    Interpolation.no_references_of_not_mem (by decide)
  have passed := (unknown_members environment [] members functions (.array [.text f]) text remote
    laid remoteLaid).1 "functions" hidden (by decide) { model := some "m" }
  have refused := (unknown_members environment members [] parameter (.array []) text strange
    laid strangeLaid).2.2.1 strangePlain unknown
  have again := (unknown_members environment members [] model .null text twice
    laid twiceLaid).2.2.2.2 "model" (by decide) rfl ⟨_, List.mem_cons_self, rfl⟩
  exact ⟨strangePlain, twicePlain, passed.mp sent, refused, again.1, again.2 twicePlain⟩

end Options

end ChatOptions
