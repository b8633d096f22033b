import ChatOptions.Options.Builder
import ChatOptions.Proofs.Json.Agreement
import ChatOptions.Proofs.Options.Equality

/-! Equality of options as agreement of their parts, each compared as what it stands for, and that it is an equivalence. -/

namespace ChatOptions

/-- Lists are equal exactly if they are equal one by one. -/
theorem list_beq_iff_forall₂ {α : Type} [BEq α] {first second : List α} :
    (first == second) = true ↔
      List.Forall₂ (fun item other => (item == other) = true) first second := by
  induction first generalizing second with
  | nil => cases second <;> simp
  | cons item rest ih => cases second <;> simp [ih]

/-- Optional parts are equal exactly if both are absent, or both are there and equal. -/
theorem option_beq_iff_rel {α : Type} [BEq α] {first second : Option α} :
    (first == second) = true ↔
      Option.Rel (fun part other => (part == other) = true) first second := by
  rw [optionRel_iff]
  cases first <;> cases second <;> simp

/-- An equivalence of parts is one of parts that may be absent. -/
theorem optionRel_equivalence {α : Type} {same : α → α → Prop} (parts : Equivalence same) :
    Equivalence (Option.Rel same) where
  refl
    | none => .none
    | some part => .some (parts.refl part)
  symm
    | .none => .none
    | .some alike => .some (parts.symm alike)
  trans
    | .none, .none => .none
    | .some alike, .some next => .some (parts.trans alike next)

/-- An equivalence of items is one of lists that are compared one by one. -/
theorem forall₂_equivalence {α : Type} {same : α → α → Prop} (items : Equivalence same) :
    Equivalence (List.Forall₂ same) where
  refl list := List.forall₂_same.mpr fun item _ => items.refl item
  symm {first second} alike := by
    induction alike with
    | nil => exact .nil
    | cons heads _ tails => exact .cons (items.symm heads) tails
  trans {first second third} alike next := by
    induction alike generalizing third with
    | nil => exact next
    | cons heads _ tails =>
      cases next with
      | cons nextHeads nextTails => exact .cons (items.trans heads nextHeads) (tails nextTails)

/-- Whether two doubles are there and are the two zeros, one of each sign. -/
def ZerosApart (first second : Option Double) : Prop :=
  (first = some .zero ∧ second = some .negativeZero)
    ∨ (first = some .negativeZero ∧ second = some .zero)

/-- Optional doubles that are equal as numbers are the same unless they are the two zeros. -/
theorem optional_same_iff_not_zerosApart {first second : Option Double}
    (equal : (first == second) = true) :
    Option.Rel Double.Same first second ↔ ¬ ZerosApart first second := by
  have apart : ¬ Double.Same .zero .negativeZero := by decide
  cases first with
  | none => cases second with
    | none => exact iff_of_true .none (by simp [ZerosApart])
    | some other => cases equal
  | some value => cases second with
    | none => cases equal
    | some other =>
      rw [Option.rel_some_some]
      obtain ⟨_, _, rfl | ⟨rfl, rfl⟩ | ⟨rfl, rfl⟩⟩ := Double.beq_iff.mp equal
      · -- One double is not two zeros.
        refine iff_of_true (Double.same_equivalence.refl value) ?_
        rintro (⟨⟨⟩, ⟨⟩⟩ | ⟨⟨⟩, ⟨⟩⟩)
      · exact iff_of_false apart fun notZeros => notZeros (.inl ⟨rfl, rfl⟩)
      · exact iff_of_false (fun same => apart (Double.same_equivalence.symm same))
          fun notZeros => notZeros (.inr ⟨rfl, rfl⟩)

/-- Whether two named schemas say the same. -/
structure NamedSchema.Same (first second : NamedSchema) : Prop where
  name : first.name = second.name
  description : first.description = second.description
  schema : first.schema.Same second.schema
  strict : first.strict = second.strict

namespace NamedSchema

/-- Named schemas are equal exactly if they say the same. -/
theorem beq_iff_same {first second : NamedSchema} :
    (first == second) = true ↔ first.Same second := by
  rw [beq_iff, Value.beq_iff_same]
  exact ⟨fun ⟨names, descriptions, schemas, stricts⟩ => ⟨names, descriptions, schemas, stricts⟩,
    fun same => ⟨same.name, same.description, same.schema, same.strict⟩⟩

/-- Saying the same is an equivalence of named schemas. -/
theorem same_equivalence : Equivalence NamedSchema.Same where
  refl _ := ⟨rfl, rfl, Value.same_equivalence.refl _, rfl⟩
  symm same := ⟨same.name.symm, same.description.symm, Value.same_equivalence.symm same.schema,
    same.strict.symm⟩
  trans same next := ⟨same.name.trans next.name, same.description.trans next.description,
    Value.same_equivalence.trans same.schema next.schema, same.strict.trans next.strict⟩

end NamedSchema

/-- Whether two output shapes say the same: they are of one kind, and their schemas say the same if they have any. -/
inductive ResponseFormat.Same : ResponseFormat → ResponseFormat → Prop
  | text : Same .text .text
  | jsonObject : Same .jsonObject .jsonObject
  | jsonSchema {schema other : NamedSchema} (same : schema.Same other) :
    Same (.jsonSchema schema) (.jsonSchema other)

namespace ResponseFormat

/-- Saying the same is an equivalence of output shapes. -/
theorem same_equivalence : Equivalence ResponseFormat.Same where
  refl
    | .text => .text
    | .jsonObject => .jsonObject
    | .jsonSchema schema => .jsonSchema (NamedSchema.same_equivalence.refl schema)
  symm
    | .text => .text
    | .jsonObject => .jsonObject
    | .jsonSchema same => .jsonSchema (NamedSchema.same_equivalence.symm same)
  trans
    | .text, .text => .text
    | .jsonObject, .jsonObject => .jsonObject
    | .jsonSchema same, .jsonSchema next =>
      .jsonSchema (NamedSchema.same_equivalence.trans same next)

/-- Output shapes are equal exactly if they say the same. -/
theorem beq_iff_same {first second : ResponseFormat} :
    (first == second) = true ↔ first.Same second := by
  constructor
  · intro equal
    rcases beq_cases equal with rfl | ⟨schema, other, rfl, rfl, schemas⟩
    · exact same_equivalence.refl _
    · exact .jsonSchema (NamedSchema.beq_iff_same.mp schemas)
  · rintro (_ | _ | same)
    · rfl
    · rfl
    · exact NamedSchema.beq_iff_same.mpr same

end ResponseFormat

/-- Whether two tools say the same: they are of one kind, and offer functions with the same name and description whose schemas say the same. -/
structure Tool.Same (first second : Tool) : Prop where
  kind : first.kind = second.kind
  name : first.function.name = second.function.name
  description : first.function.description = second.function.description
  parameters : first.function.parameters.Same second.function.parameters

namespace Tool

/-- Tools are equal exactly if they say the same. -/
theorem beq_iff_same {first second : Tool} : (first == second) = true ↔ first.Same second := by
  rw [beq_iff, FunctionDefinition.beq_iff, Value.beq_iff_same]
  -- There is only one kind of tool.
  exact ⟨fun ⟨names, descriptions, parameters⟩ => ⟨rfl, names, descriptions, parameters⟩,
    fun same => ⟨same.name, same.description, same.parameters⟩⟩

/-- Saying the same is an equivalence of tools. -/
theorem same_equivalence : Equivalence Tool.Same where
  refl _ := ⟨rfl, rfl, rfl, Value.same_equivalence.refl _⟩
  symm same := ⟨same.kind.symm, same.name.symm, same.description.symm,
    Value.same_equivalence.symm same.parameters⟩
  trans same next := ⟨same.kind.trans next.kind, same.name.trans next.name,
    same.description.trans next.description,
    Value.same_equivalence.trans same.parameters next.parameters⟩

end Tool

/-- Whether two contexts say the same: under each key both have nothing, or values that say the same. -/
def ToolContext.Same (first second : ToolContext) : Prop :=
  ∀ key, Option.Rel Value.Same (first.find? key) (second.find? key)

namespace ToolContext

/-- Contexts are equal exactly if they say the same. -/
theorem beq_iff_same {first second : ToolContext} :
    (first == second) = true ↔ ToolContext.Same first second := by
  rw [SortedMap.beq_iff_find?]
  simp only [Value.beq_iff_same]
  exact Iff.rfl

/-- Saying the same is an equivalence of contexts. -/
theorem same_equivalence : Equivalence ToolContext.Same where
  refl _ _ := (optionRel_equivalence Value.same_equivalence).refl _
  symm same key := (optionRel_equivalence Value.same_equivalence).symm (same key)
  trans same next key := (optionRel_equivalence Value.same_equivalence).trans (same key) (next key)

end ToolContext

/-- Callbacks are equal exactly if they are the same one. -/
theorem Callback.beq_iff {first second : Callback} :
    (first == second) = true ↔ first.identity = second.identity := by
  show (first.identity == second.identity) = true ↔ _
  exact beq_iff_eq

namespace Options

/-- The parts of options. -/
inductive Part where
  | model
  | temperature
  | topP
  | maxTokens
  | safePrompt
  | randomSeed
  | responseFormat
  | stop
  | tools
  | toolChoice
  | callbacks
  | functions
  | proxyToolCalls
  | toolContext
deriving DecidableEq

/-- Whether two options agree in a part, compared as what it stands for. -/
def Part.Agree : Part → Options → Options → Prop
  | .model, first, second => first.model = second.model
  | .temperature, first, second => Option.Rel Double.Same first.temperature second.temperature
  | .topP, first, second => Option.Rel Double.Same first.topP second.topP
  | .maxTokens, first, second => first.maxTokens = second.maxTokens
  | .safePrompt, first, second => first.safePrompt = second.safePrompt
  | .randomSeed, first, second => first.randomSeed = second.randomSeed
  | .responseFormat, first, second =>
    Option.Rel ResponseFormat.Same first.responseFormat second.responseFormat
  | .stop, first, second => first.stop = second.stop
  | .tools, first, second => Option.Rel (List.Forall₂ Tool.Same) first.tools second.tools
  | .toolChoice, first, second => first.toolChoice = second.toolChoice
  -- Callbacks count by what they are, and not by their names.
  | .callbacks, first, second =>
    first.callbacks.map Callback.identity = second.callbacks.map Callback.identity
  | .functions, first, second => ∀ name, name ∈ first.functions.toList ↔ name ∈ second.functions.toList
  | .proxyToolCalls, first, second => first.proxyToolCalls = second.proxyToolCalls
  | .toolContext, first, second => Option.Rel ToolContext.Same first.toolContext second.toolContext

/-- Options with one part changed to what it is in others. -/
def Part.change : Part → Options → Options → Options
  | .model, options, other => { options with model := other.model }
  | .temperature, options, other => { options with temperature := other.temperature }
  | .topP, options, other => { options with topP := other.topP }
  | .maxTokens, options, other => { options with maxTokens := other.maxTokens }
  | .safePrompt, options, other => { options with safePrompt := other.safePrompt }
  | .randomSeed, options, other => { options with randomSeed := other.randomSeed }
  | .responseFormat, options, other => { options with responseFormat := other.responseFormat }
  | .stop, options, other => { options with stop := other.stop }
  | .tools, options, other => { options with tools := other.tools }
  | .toolChoice, options, other => { options with toolChoice := other.toolChoice }
  | .callbacks, options, other => { options with callbacks := other.callbacks }
  | .functions, options, other => { options with functions := other.functions }
  | .proxyToolCalls, options, other => { options with proxyToolCalls := other.proxyToolCalls }
  | .toolContext, options, other => { options with toolContext := other.toolContext }

namespace Part

/-- Agreement in a part is an equivalence. -/
theorem agree_equivalence (part : Part) : Equivalence part.Agree := by
  cases part with
  | model => exact eq_equivalence.comap _
  | temperature => exact (optionRel_equivalence Double.same_equivalence).comap _
  | topP => exact (optionRel_equivalence Double.same_equivalence).comap _
  | maxTokens => exact eq_equivalence.comap _
  | safePrompt => exact eq_equivalence.comap _
  | randomSeed => exact eq_equivalence.comap _
  | responseFormat => exact (optionRel_equivalence ResponseFormat.same_equivalence).comap _
  | stop => exact eq_equivalence.comap _
  | tools =>
    exact (optionRel_equivalence (forall₂_equivalence Tool.same_equivalence)).comap _
  | toolChoice => exact eq_equivalence.comap _
  | callbacks => exact eq_equivalence.comap _
  | functions =>
    exact ⟨fun _ _ => Iff.rfl, fun same name => (same name).symm,
      fun same next name => (same name).trans (next name)⟩
  | proxyToolCalls => exact eq_equivalence.comap _
  | toolContext => exact (optionRel_equivalence ToolContext.same_equivalence).comap _

/-- Options with one part changed agree with what they were in every other part, and in this one if it is the same in both. -/
theorem agree_change {part place : Part} {options other : Options} :
    place.Agree (part.change options other) options ↔ (place = part → part.Agree other options) := by
  by_cases here : place = part
  · subst here
    refine Iff.trans ?_ ⟨fun agree _ => agree, fun agree => agree rfl⟩
    cases place <;> exact Iff.rfl
  · have unchanged : place.Agree options options := (agree_equivalence place).refl options
    refine iff_of_true ?_ fun same => absurd same here
    -- No part is stored in the place of another.
    cases part <;> cases place <;> first | exact absurd rfl here | exact unchanged

end Part

/-- Lists of callbacks are equal exactly if they list the same callbacks in the same places. -/
theorem callbacks_beq_iff {first second : List Callback} :
    (first == second) = true ↔ first.map Callback.identity = second.map Callback.identity := by
  rw [list_beq_iff_forall₂, ← List.forall₂_eq_eq_eq, List.forall₂_map_left_iff,
    List.forall₂_map_right_iff]
  simp only [Callback.beq_iff]

/-- Sets of names are equal exactly if they have the same names. -/
theorem functions_eq_iff {first second : NameSet} :
    first = second ↔ ∀ name, name ∈ first.toList ↔ name ∈ second.toList := by
  refine ⟨fun same name => same ▸ Iff.rfl, fun agree => NameSet.ext_contains fun name => ?_⟩
  rw [Bool.eq_iff_iff, ← NameSet.mem_toList, ← NameSet.mem_toList]
  exact agree name

/-- Options are equal exactly if they agree in every part. -/
theorem beq_iff_agree {first second : Options} :
    (first == second) = true ↔ ∀ part : Part, part.Agree first second := by
  rw [beq_iff, callbacks_beq_iff]
  simp only [option_beq_iff_rel, list_beq_iff_forall₂,
    ResponseFormat.beq_iff_same, Tool.beq_iff_same, ToolContext.beq_iff_same, functions_eq_iff]
  constructor
  · rintro ⟨model, temperature, topP, maxTokens, safePrompt, randomSeed, responseFormat, stop, tools,
      toolChoice, callbacks, functions, proxyToolCalls, toolContext⟩ part
    cases part <;> assumption
  · exact fun agree => ⟨agree .model, agree .temperature, agree .topP, agree .maxTokens,
      agree .safePrompt, agree .randomSeed, agree .responseFormat, agree .stop, agree .tools,
      agree .toolChoice, agree .callbacks, agree .functions, agree .proxyToolCalls,
      agree .toolContext⟩

/-- Equality is an equivalence of options. -/
theorem beq_equivalence : Equivalence fun first second : Options => (first == second) = true := by
  simp only [beq_iff_agree]
  exact ⟨fun options part => part.agree_equivalence.refl options,
    fun agree part => part.agree_equivalence.symm (agree part),
    fun agree next part => part.agree_equivalence.trans (agree part) (next part)⟩

/-- Options with one part changed are equal to what they were exactly if that part agrees with what it was. -/
theorem change_beq_iff (part : Part) (options other : Options) :
    (part.change options other == options) = true ↔ part.Agree other options := by
  rw [beq_iff_agree]
  simp only [Part.agree_change, forall_eq]

/--
Equality of options is agreement in all fourteen parts, and an equivalence.

Options are equal to their copies, and changing one part makes a difference exactly if it does not agree with what it was.
Settings with doubles are equal exactly if both doubles are NaN, whatever bits spell them, or the bits are the same.
-/
theorem equality_is_agreement :
    (∀ first second : Options,
        (first == second) = true ↔ ∀ part : Part, part.Agree first second) ∧
      Equivalence (fun first second : Options => (first == second) = true) ∧
      (∀ options : Options, (options.copy == options) = true) ∧
      (∀ (part : Part) (options other : Options),
        (part.change options other == options) = true ↔ part.Agree other options) ∧
      (∀ (builder : Builder) (first second : Double),
        ((builder.temperature first).build == (builder.temperature second).build) = true
          ↔ (first.isNaN = true ∧ second.isNaN = true) ∨ first.bits = second.bits) ∧
      (∀ (builder : Builder) (first second : Double),
        ((builder.topP first).build == (builder.topP second).build) = true
          ↔ (first.isNaN = true ∧ second.isNaN = true) ∨ first.bits = second.bits) := by
  refine ⟨fun _ _ => beq_iff_agree, beq_equivalence, fun options => beq_equivalence.refl options,
    change_beq_iff, fun builder first second => ?temperature, fun builder first second => ?topP⟩
  -- Builders that differ in one setting build options that differ in one part.
  case temperature =>
    exact (change_beq_iff .temperature (builder.temperature second).build
      (builder.temperature first).build).trans Option.rel_some_some
  case topP =>
    exact (change_beq_iff .topP (builder.topP second).build
      (builder.topP first).build).trans Option.rel_some_some

/-- The two zeros are different temperatures, but the same inside a schema; a quiet NaN and a signaling one with a sign are the same temperature. -/
example :
    ((Builder.new.temperature .zero).build == (Builder.new.temperature .negativeZero).build) = false ∧
      (ResponseFormat.ofSchema "zero" (.ofJson (.number (.float 0.0 rfl)))
        == ResponseFormat.ofSchema "zero" (.ofJson (.number (.float (-0.0) rfl)))) = true ∧
      ((Builder.new.temperature ⟨0x7ff8000000000000⟩).build
        == (Builder.new.temperature ⟨0xfff0000000000001⟩).build) = true := by
  decide +kernel

end Options

end ChatOptions
