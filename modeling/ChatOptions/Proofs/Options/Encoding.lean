import ChatOptions.Proofs.Options.Agreement
import ChatOptions.Proofs.Options.Shown

/-! Wire values tell requests apart: they are equal exactly if every field that is sent says the same. -/

namespace ChatOptions

namespace Json

/-- Whether two trees have values that say the same, in which the order of members does not count. -/
def SameValue (first second : Json) : Prop := (Value.ofJson first).Same (.ofJson second)

/-- What is found in the sorted form of a record under the name of a part is the part, sorted. -/
theorem find?_sorted_present {parts : List (String × Option Json)}
    (distinct : (parts.map Prod.fst).Nodup) {part : String × Option Json} (listed : part ∈ parts) :
    (SortedMap.ofList ((present parts).map sortedMember)).find? part.1 = part.2.map sorted := by
  obtain ⟨name, form⟩ := part
  have apart := present_nodup distinct
  refine Option.ext fun shown => ?_
  rw [SortedMap.find?_eq_some, mem_sorted_members apart, Option.map_eq_some_iff]
  constructor
  · rintro ⟨written, found, rfl⟩
    -- No other part has the name.
    have same : (name, some written) = (name, form) :=
      List.inj_on_of_nodup_map distinct (mem_present.mp found) listed rfl
    cases same
    exact ⟨written, rfl, rfl⟩
  · rintro ⟨written, rfl, rfl⟩
    exact ⟨written, mem_present.mpr listed, rfl⟩

/-- Nothing is found in the sorted form of a record under a name that no part has. -/
theorem find?_sorted_present_eq_none {parts : List (String × Option Json)}
    (distinct : (parts.map Prod.fst).Nodup) {name : String} (unknown : name ∉ parts.map Prod.fst) :
    (SortedMap.ofList ((present parts).map sortedMember)).find? name = none := by
  have apart := present_nodup distinct
  -- Whatever were found would be a member, and so a part of the name.
  refine Option.eq_none_iff_forall_ne_some.mpr fun shown found => unknown ?_
  obtain ⟨written, listed, _⟩ := (mem_sorted_members apart).mp (SortedMap.find?_eq_some.mp found)
  exact List.mem_map_of_mem (f := Prod.fst) (mem_present.mp listed)

/-- Objects say the same exactly if under each key both have nothing, or trees that say the same. -/
theorem same_object_iff {members others : List (String × Json)} :
    Same (.object members) (.object others) ↔
      ∀ key, Option.Rel Same ( findEntry? key members) ( findEntry? key others) := by
  simp only [optionRel_iff]
  constructor
  · rintro (_ | _ | _ | _ | _ | ⟨keys, each⟩) key
    exact ⟨keys key, each key⟩
  · exact fun agree => .object (fun key => (agree key).1) fun key => (agree key).2

/-- Numbers say the same as trees exactly if they do as numbers. -/
theorem same_number_iff {first second : Number} :
    Same (.number first) (.number second) ↔ first.Same second :=
  ⟨fun | .number same => same, .number⟩

/-- Arrays say the same exactly if they do item by item. -/
theorem same_array_iff {items others : List Json} :
    Same (.array items) (.array others) ↔ List.Forall₂ Same items others := by
  rw [List.forall₂_iff_get]
  constructor
  · rintro (_ | _ | _ | _ | ⟨lengths, each⟩)
    exact ⟨lengths, fun place inside alsoInside => each place _ _
      (List.getElem?_eq_getElem inside) (List.getElem?_eq_getElem alsoInside)⟩
  · rintro ⟨lengths, each⟩
    refine .array lengths fun place first second here there => ?_
    obtain ⟨inside, rfl⟩ := List.getElem?_eq_some_iff.mp here
    obtain ⟨alsoInside, rfl⟩ := List.getElem?_eq_some_iff.mp there
    exact each place inside alsoInside

/-- Sorting a list of trees sorts each of them. -/
theorem sortedItems_eq_map (items : List Json) : sortedItems items = items.map sorted := by
  induction items with
  | nil => rfl
  | cons item rest ih => rw [sortedItems, ih, List.map_cons]

/-- Records with the same names have the same value exactly if each part is absent from both, or has the same value in both. -/
theorem sameValue_present_iff {parts others : List (String × Option Json)}
    (names : parts.map Prod.fst = others.map Prod.fst) (distinct : (parts.map Prod.fst).Nodup) :
    SameValue (.object (present parts)) (.object (present others)) ↔
      List.Forall₂ (fun part other => Option.Rel SameValue part.2 other.2) parts others := by
  -- The records have the same name in each place.
  have aligned : List.Forall₂ (fun part other => part.1 = other.1) parts others := by
    rw [← List.forall₂_map_right_iff, ← List.forall₂_map_left_iff, List.forall₂_eq_eq_eq, names]
  obtain ⟨lengths, named⟩ := List.forall₂_iff_zip.mp aligned
  -- Both sides speak of each name, and of what the two records have under it.
  have meets {part other : String × Option Json} (paired : (part, other) ∈ parts.zip others) :
      Option.Rel Same
        ((SortedMap.ofList ((present parts).map sortedMember)).find? part.1)
        ((SortedMap.ofList ((present others).map sortedMember)).find? part.1) ↔
      Option.Rel SameValue part.2 other.2 := by
    obtain ⟨here, there⟩ := List.of_mem_zip paired
    rw [find?_sorted_present distinct here, named paired,
      find?_sorted_present (names ▸ distinct) there, optionRel_map_iff]
    rfl
  show Same (sorted _) (sorted _) ↔ _
  rw [sorted_object, sorted_object, same_object_iff, List.forall₂_iff_zip]
  constructor
  · intro agree
    exact ⟨lengths, fun paired => (meets paired).mp (agree _)⟩
  · rintro ⟨_, agree⟩ key
    -- A key is the name of a part on both sides, or of none on either.
    by_cases known : key ∈ parts.map Prod.fst
    · obtain ⟨part, listed, rfl⟩ := List.mem_map.mp known
      obtain ⟨place, inside, rfl⟩ := List.mem_iff_getElem.mp listed
      have alsoInside : place < others.length := lengths ▸ inside
      have reached : place < (parts.zip others).length := by
        rwa [List.length_zip, ← lengths, Nat.min_self]
      have paired : (parts[place], others[place]) ∈ parts.zip others :=
        List.getElem_zip ▸ List.getElem_mem reached
      exact (meets paired).mpr (agree paired)
    · have absent := find?_sorted_present_eq_none distinct known
      have alsoAbsent := find?_sorted_present_eq_none (names ▸ distinct) (names ▸ known)
      show Option.Rel Same (SortedMap.find? _ key) (SortedMap.find? _ key)
      rw [absent, alsoAbsent]
      exact .none

/-- Whether a form keeps apart what does not say the same, and nothing else. -/
def Faithful {α : Type} (form : α → Json) (same : α → α → Prop) : Prop :=
  ∀ first second, SameValue (form first) (form second) ↔ same first second

namespace Faithful

/-- What a faithful form has in common is what it stands for. -/
theorem relation_eq {α : Type} {form : α → Json} {same : α → α → Prop}
    (faithful : Faithful form same) :
    (fun part other => SameValue (form part) (form other)) = same :=
  funext₂ fun part other => propext (faithful part other)

/-- Texts are kept apart. -/
theorem string : Faithful .string Eq := by
  intro first second
  constructor
  · rintro ⟨⟩
    rfl
  · rintro rfl
    exact .refl _

/-- The two truth values are kept apart. -/
theorem bool : Faithful .bool Eq := by
  intro first second
  constructor
  · rintro ⟨⟩
    rfl
  · rintro rfl
    exact .refl _

/-- Words are kept apart. -/
theorem word : Faithful .ofUInt64 Eq := by
  intro first second
  show Same (.number _) (.number _) ↔ _
  -- Words are written as whole numbers, which say the same only if they are the same.
  rw [same_number_iff, ← Number.beq_iff_same]
  show ((first.toNat : Int) == second.toNat) = true ↔ _
  rw [beq_iff_eq, Int.ofNat_inj, UInt64.toNat_inj]

/-- Values are kept apart where they do not say the same. -/
theorem value : Faithful Value.tree Value.Same := by
  intro first second
  -- The tree of a value is normal, so sorting leaves it as it is.
  show Same first.tree.sorted second.tree.sorted ↔ Same first.tree second.tree
  rw [sorted_of_normal first.normal, sorted_of_normal second.normal]

/-- Lists are kept apart where what they list is. -/
theorem list {α : Type} {form : α → Json} {same : α → α → Prop} (items : Faithful form same) :
    Faithful (.ofList form) (List.Forall₂ same) := by
  intro first second
  show Same (.array (sortedItems _)) (.array (sortedItems _)) ↔ _
  rw [same_array_iff, sortedItems_eq_map, sortedItems_eq_map, List.map_map, List.map_map,
    List.forall₂_map_left_iff, List.forall₂_map_right_iff]
  exact iff_of_eq (congrArg (List.Forall₂ · first second) items.relation_eq)

/-- Parts that may be absent are kept apart where parts are. -/
theorem optional {α : Type} {form : α → Json} {same : α → α → Prop} (parts : Faithful form same)
    {first second : Option α} :
    Option.Rel SameValue (first.map form) (second.map form) ↔ Option.Rel same first second := by
  rw [optionRel_map_iff, parts.relation_eq]

end Faithful

end Json

open Json (Faithful SameValue present)

/-- Schemas are kept apart where they do not say the same. -/
theorem NamedSchema.faithful : Faithful NamedSchema.toJson NamedSchema.Same := by
  intro first second
  rw [toJson_eq, toJson_eq, Json.sameValue_present_iff (by rfl) (by simp [parts])]
  simp only [parts, List.forall₂_cons, List.forall₂_nil_left_iff, Option.rel_some_some,
    Faithful.string _ _, Faithful.string.optional, Faithful.bool.optional, Faithful.value _ _,
    optionRel_eq_iff, and_true]
  exact ⟨fun ⟨name, description, schema, strict⟩ => ⟨name, description, schema, strict⟩,
    fun same => ⟨same.name, same.description, same.schema, same.strict⟩⟩

/-- Tools are kept apart where they do not say the same. -/
theorem Tool.faithful : Faithful Tool.toJson Tool.Same := by
  intro first second
  -- There is only one kind of tool, which says nothing.
  have kinds : first.kind = second.kind := rfl
  rw [toJson_eq, toJson_eq, Json.sameValue_present_iff (by rfl) (by simp [parts])]
  simp only [parts, List.forall₂_cons, List.forall₂_nil_left_iff, Option.rel_some_some, and_true]
  rw [Json.sameValue_present_iff (by rfl) (by simp [FunctionDefinition.parts])]
  simp only [FunctionDefinition.parts, List.forall₂_cons, List.forall₂_nil_left_iff,
    Option.rel_some_some, Faithful.string _ _, Faithful.string.optional, Faithful.value _ _,
    optionRel_eq_iff, and_true]
  exact ⟨fun ⟨_, name, description, parameters⟩ => ⟨kinds, name, description, parameters⟩,
    fun same => ⟨trivial, same.name, same.description, same.parameters⟩⟩

/-- Output shapes are kept apart where they do not say the same. -/
theorem ResponseFormat.faithful : Faithful ResponseFormat.toJson ResponseFormat.Same := by
  intro first second
  rw [toJson_eq, toJson_eq, Json.sameValue_present_iff (by rfl) (by simp [parts])]
  simp only [parts, ← NamedSchema.toJson_eq, List.forall₂_cons, List.forall₂_nil_left_iff,
    Option.rel_some_some, Faithful.string _ _, NamedSchema.faithful.optional, and_true]
  constructor
  · rintro ⟨kinds, schemas⟩
    -- Shapes of different kinds have kinds with different names.
    cases first <;> cases second <;> simp only [kindName, String.reduceEq] at kinds
    · exact .text
    · exact .jsonObject
    · cases schemas with
      | some same => exact .jsonSchema same
  · rintro (_ | _ | same)
    · exact ⟨rfl, .none⟩
    · exact ⟨rfl, .none⟩
    · exact ⟨rfl, .some same⟩

/-- Modes have different names. -/
theorem ToolChoiceMode.name_injective {first second : ToolChoiceMode}
    (same : first.name = second.name) : first = second := by
  cases first <;> cases second <;> first | rfl | exact absurd same (by decide)

/-- The choice of a function is written as a record, with the function as a record inside. -/
theorem ToolChoice.toJson_function (kind : ToolKind) (choice : FunctionChoice) :
    (ToolChoice.function kind choice).toJson = .object (present [("type", some kind.toJson),
      ("function", some (.object (present [("name", some (.string choice.name))])))]) := rfl

/-- Choices are kept apart: a mode is written as a text, and a function as a record. -/
theorem ToolChoice.faithful : Faithful ToolChoice.toJson Eq := by
  intro first second
  -- A text says the same as no object, so choices of different shapes are always kept apart.
  cases first with
  | mode chosen =>
    cases second with
    | mode other =>
      refine (Faithful.string chosen.name other.name).trans ⟨fun same => ?_, ?_⟩
      · rw [ToolChoiceMode.name_injective same]
      · rintro ⟨⟩
        rfl
    | function kind choice => exact ⟨nofun, nofun⟩
  | function kind choice =>
    cases second with
    | mode other => exact ⟨nofun, nofun⟩
    | function otherKind other =>
      -- The kind says nothing, as in a tool, and the function says its name.
      have kinds : kind = otherKind := rfl
      rw [toJson_function, toJson_function, kinds, Json.sameValue_present_iff (by rfl) (by simp)]
      simp only [List.forall₂_cons, List.forall₂_nil_left_iff, Option.rel_some_some, and_true]
      rw [Json.sameValue_present_iff (by rfl) (by simp)]
      simp only [List.forall₂_cons, List.forall₂_nil_left_iff, Option.rel_some_some,
        Faithful.string _ _, and_true]
      constructor
      · rintro ⟨_, names⟩
        obtain ⟨name⟩ := choice
        obtain ⟨otherName⟩ := other
        cases (names : name = otherName)
        rfl
      · rintro ⟨⟩
        exact ⟨.refl _, rfl⟩

/-- Whether two doubles are sent alike: neither is finite, or both are and they are equal as numbers. -/
def Double.SentAlike (first second : Double) : Prop :=
  (first.isFinite = false ∧ second.isFinite = false)
    ∨ (first.isFinite = true ∧ second.isFinite = true ∧ (first == second) = true)

/-- Doubles that are the same are sent alike. -/
theorem Double.SentAlike.of_same {value other : Double} (same : Same value other) :
    SentAlike value other := by
  cases none : value.isNaN with
  | true =>
    have alsoNone : other.isNaN = true := by rw [← isNaN_key, ← key_eq_iff.mpr same, isNaN_key, none]
    exact .inl ⟨isFinite_of_isNaN none, isFinite_of_isNaN alsoNone⟩
  | false =>
    cases (same_iff_eq none).mp same
    cases finite : value.isFinite with
    | false => exact .inl ⟨finite, finite⟩
    | true => exact .inr ⟨finite, finite, beq_iff.mpr ⟨none, none, .inl rfl⟩⟩

/-- Optional doubles that are absent from both or the same are sent alike. -/
theorem Double.optional_sentAlike {first second : Option Double} :
    Option.Rel Same first second → Option.Rel SentAlike first second
  | .none => .none
  | .some same => .some (.of_same same)

/-- Doubles are kept apart where they are finite and not equal as numbers, or only one is finite. -/
theorem Double.faithful : Faithful Json.ofDouble Double.SentAlike := by
  intro first second
  cases finite : first.isFinite with
  | false =>
    rw [Json.ofDouble_of_not_finite finite]
    cases alsoFinite : second.isFinite with
    | false =>
      rw [Json.ofDouble_of_not_finite alsoFinite]
      exact iff_of_true (.refl _) (.inl ⟨finite, alsoFinite⟩)
    | true =>
      -- A number is never null.
      rw [Json.ofDouble_of_finite (second.isFinite_toFloat.trans alsoFinite)]
      exact ⟨nofun, by simp [SentAlike, finite, alsoFinite]⟩
  | true =>
    rw [Json.ofDouble_of_finite (first.isFinite_toFloat.trans finite)]
    cases alsoFinite : second.isFinite with
    | false =>
      rw [Json.ofDouble_of_not_finite alsoFinite]
      exact ⟨nofun, by simp [SentAlike, finite, alsoFinite]⟩
    | true =>
      rw [Json.ofDouble_of_finite (second.isFinite_toFloat.trans alsoFinite)]
      show Json.Same (.number _) (.number _) ↔ _
      rw [Json.same_number_iff, ← Number.beq_iff_same]
      simp only [SentAlike, finite, alsoFinite, Bool.true_eq_false, false_and, false_or, true_and]
      rfl

/-- Short words are kept apart. -/
theorem Json.Faithful.shortWord : Faithful (fun word : UInt32 => .ofUInt64 word.toUInt64) Eq := by
  intro first second
  refine (word first.toUInt64 second.toUInt64).trans ⟨fun same => ?_, congrArg _⟩
  -- A word that is widened stands for the same number.
  have values := congrArg UInt64.toNat same
  rw [UInt32.toNat_toUInt64, UInt32.toNat_toUInt64] at values
  exact UInt32.toNat_inj.mp values

namespace Options

/-- Whether a part of two options is sent alike: doubles as numbers, and what stays in process always, as it is not sent. -/
def Part.SentAlike : Part → Options → Options → Prop
  | .temperature, first, second =>
    Option.Rel Double.SentAlike first.temperature second.temperature
  | .topP, first, second => Option.Rel Double.SentAlike first.topP second.topP
  | .callbacks, _, _ => True
  | .functions, _, _ => True
  | .proxyToolCalls, _, _ => True
  | .toolContext, _, _ => True
  | part, first, second => part.Agree first second

/-- Wire values are equal exactly if every part is sent alike. -/
theorem wireValue_beq_iff {first second : Options} :
    (first.wireValue == second.wireValue) = true ↔ ∀ part : Part, part.SentAlike first second := by
  rw [Value.beq_iff_same]
  -- The wire form is a record of ten parts, each under its own name.
  show SameValue (.object (present first.toRequest.parts))
    (.object (present second.toRequest.parts)) ↔ _
  rw [Json.sameValue_present_iff (by rfl) (by simp [Request.parts])]
  simp only [Request.parts, List.forall₂_cons, List.forall₂_nil_left_iff, and_true,
    Faithful.string.optional, Double.faithful.optional, Faithful.shortWord.optional,
    Faithful.bool.optional, Faithful.word.optional, ResponseFormat.faithful.optional,
    Faithful.string.list.optional, Tool.faithful.list.optional, ToolChoice.faithful.optional,
    optionRel_eq_iff, List.forall₂_eq_eq_eq]
  constructor
  · rintro ⟨model, temperature, topP, maxTokens, safePrompt, randomSeed, responseFormat, stop, tools,
      toolChoice⟩ part
    cases part <;> first | assumption | exact trivial
  · exact fun agree => ⟨agree .model, agree .temperature, agree .topP, agree .maxTokens,
      agree .safePrompt, agree .randomSeed, agree .responseFormat, agree .stop, agree .tools,
      agree .toolChoice⟩

/-- Parts that agree are sent alike. -/
theorem Part.SentAlike.of_agree {part : Part} {first second : Options}
    (agree : part.Agree first second) : part.SentAlike first second := by
  cases part with
  | temperature => exact Double.optional_sentAlike agree
  | topP => exact Double.optional_sentAlike agree
  | callbacks => trivial
  | functions => trivial
  | proxyToolCalls => trivial
  | toolContext => trivial
  | _ => exact agree

/-- Whether two doubles, if both are there, can be told apart where they differ: each is absent or finite, and they are not zeros of opposite sign. -/
structure Tellable (first second : Option Double) : Prop where
  finite : ∀ value ∈ first, value.isFinite = true
  alsoFinite : ∀ value ∈ second, value.isFinite = true
  signs : ¬ (first = some .zero ∧ second = some .negativeZero)
    ∧ ¬ (first = some .negativeZero ∧ second = some .zero)

/-- Doubles that are sent alike are the same if they can be told apart. -/
theorem Tellable.agree {first second : Option Double} (tellable : Tellable first second)
    (alike : Option.Rel Double.SentAlike first second) : Option.Rel Double.Same first second := by
  have equal : (first == second) = true := by
    rcases alike with @⟨value, other, infinite | ⟨_, _, equal⟩⟩ | _
    · -- Neither double would be finite.
      exact absurd (tellable.finite value rfl) (by simp [infinite.1])
    · exact equal
    · rfl
  rw [optional_same_iff_not_zerosApart equal, ZerosApart, not_or]
  exact tellable.signs

/--
The value on the wire respects and reflects equality.

Equal options have equal values.
Conversely options with equal values are equal if what stays in process is equal, and temperatures and probability masses are absent or finite, and not zeros of opposite sign.
-/
theorem wireValue_reflects_equality :
    (∀ first second : Options, (first == second) = true →
      (first.wireValue == second.wireValue) = true)
    ∧ ∀ first second : Options, (first.wireValue == second.wireValue) = true →
      (first.callbacks == second.callbacks) = true → first.functions = second.functions →
      first.proxyToolCalls = second.proxyToolCalls →
      (first.toolContext == second.toolContext) = true →
      Tellable first.temperature second.temperature → Tellable first.topP second.topP →
      (first == second) = true := by
  simp only [beq_iff_agree, wireValue_beq_iff]
  constructor
  · exact fun first second agree part => .of_agree (agree part)
  · intro first second alike callbacks functions proxyToolCalls toolContext temperature topP part
    cases part with
    | temperature => exact temperature.agree (alike .temperature)
    | topP => exact topP.agree (alike .topP)
    -- What stays in process is no part of the value.
    | callbacks => exact callbacks_beq_iff.mp callbacks
    | functions => exact functions_eq_iff.mp functions
    | proxyToolCalls => exact proxyToolCalls
    | toolContext =>
      simp only [option_beq_iff_rel, ToolContext.beq_iff_same] at toolContext
      exact toolContext
    | model => exact alike .model
    | maxTokens => exact alike .maxTokens
    | safePrompt => exact alike .safePrompt
    | randomSeed => exact alike .randomSeed
    | responseFormat => exact alike .responseFormat
    | stop => exact alike .stop
    | tools => exact alike .tools
    | toolChoice => exact alike .toolChoice

/-- Zeros of opposite sign in a schema and in the tool context make no difference, neither on the wire nor to equality. -/
theorem wireValue_reflects_equality_example :
    let options (zero : Number) : Options :=
      { temperature := some (.ofFloat 0.5), stop := some []
        responseFormat := some (.ofSchema "reply" (.ofJson (.object [("minimum", .number zero)])))
        functions := .ofNames ["weather"]
        toolContext := some (.ofList [("least", .ofJson (.number zero))]) }
    let first := options (.float 0.0 (by decide +kernel))
    let second := options (.float (-0.0) (by decide +kernel))
    (first.wireValue == second.wireValue) = true
      ∧ (first.toolContext == second.toolContext) = true
      ∧ Tellable first.temperature second.temperature ∧ Tellable first.topP second.topP
      ∧ (first == second) = true := by
  intro options first second
  have alike : (first.wireValue == second.wireValue) = true := by decide +kernel
  have contexts : (first.toolContext == second.toolContext) = true := by decide +kernel
  have half : Tellable (some (.ofFloat 0.5)) (some (.ofFloat 0.5)) := by
    have finite : ∀ value ∈ some (Double.ofFloat 0.5), value.isFinite = true := by
      rintro _ ⟨⟩
      decide +kernel
    exact ⟨finite, finite, by decide +kernel⟩
  have absent : Tellable none none := ⟨by simp, by simp, by simp⟩
  exact ⟨alike, contexts, half, absent,
    wireValue_reflects_equality.2 first second alike rfl rfl rfl contexts half absent⟩

/-- Zeros of opposite sign are different temperatures, but are sent alike. -/
example :
    let first := (Builder.new.temperature .zero).build
    let second := (Builder.new.temperature .negativeZero).build
    (first.wireValue == second.wireValue) = true ∧ (first == second) = false := by
  decide +kernel

end Options

end ChatOptions
