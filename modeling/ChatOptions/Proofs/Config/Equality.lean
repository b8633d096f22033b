import ChatOptions.Proofs.Config.Described
import ChatOptions.Proofs.Options.Agreement

/-! When two configurations describe the same options: where they agree, with the order and the repeats of names left out and doubles taken by their bits, of which all that spell NaN count as one. -/

namespace ChatOptions

/-- Optional doubles that are the same are equal as numbers exactly if they are numbers where they are there. -/
theorem optional_beq_iff_of_same {first second : Option Double}
    (same : Option.Rel Double.Same first second) :
    (first == second) = true ↔ ∀ value ∈ first, value.isNaN = false := by
  cases same with
  | none => exact ⟨nofun, fun _ => rfl⟩
  | @some value other same =>
    show (value == other) = true ↔ _
    simp only [Double.beq_iff, Option.mem_def, Option.some.injEq, forall_eq']
    refine ⟨And.left, fun number => ?_⟩
    cases (Double.same_iff_eq number).mp same
    exact ⟨number, number, .inl rfl⟩

namespace Config

/-- Whether two configurations agree in all parts but the two doubles and the names of functions. -/
structure AgreeBesides (first second : Config) : Prop where
  model : first.model = second.model
  maxTokens : first.maxTokens = second.maxTokens
  safePrompt : first.safePrompt = second.safePrompt
  randomSeed : first.randomSeed = second.randomSeed
  responseFormat : Option.Rel ResponseFormat.Same first.responseFormat second.responseFormat
  stop : first.stop = second.stop
  tools : Option.Rel (List.Forall₂ Tool.Same) first.tools second.tools
  toolChoice : first.toolChoice = second.toolChoice
  proxyToolCalls : first.proxyToolCalls = second.proxyToolCalls
  toolContext : Option.Rel ToolContext.Same first.toolContext second.toolContext

/-- Whether two configurations agree in all that makes a difference to options. -/
structure Agree (first second : Config) : Prop extends AgreeBesides first second where
  temperature : Option.Rel Double.Same first.temperature second.temperature
  topP : Option.Rel Double.Same first.topP second.topP
  functions : ∀ name, name ∈ first.functions ↔ name ∈ second.functions

/-- Configurations are equal exactly if they list the same names, their doubles are equal as numbers, and they agree besides. -/
theorem beq_iff {first second : Config} :
    (first == second) = true ↔
      AgreeBesides first second ∧ (first.temperature == second.temperature) = true ∧
        (first.topP == second.topP) = true ∧ first.functions = second.functions := by
  show Config.beq first second = true ↔ _
  simp only [Config.beq, Bool.and_eq_true, beq_iff_eq, and_assoc]
  -- What is made of JSON is equal exactly if it says the same.
  rw [option_beq_iff_rel (α := ResponseFormat), option_beq_iff_rel (α := List Tool),
    option_beq_iff_rel (α := ToolContext)]
  simp only [ResponseFormat.beq_iff_same, list_beq_iff_forall₂, Tool.beq_iff_same,
    ToolContext.beq_iff_same]
  constructor
  · rintro ⟨model, temperature, topP, maxTokens, safePrompt, randomSeed, responseFormat, stop, tools,
      toolChoice, functions, proxyToolCalls, toolContext⟩
    exact ⟨⟨model, maxTokens, safePrompt, randomSeed, responseFormat, stop, tools, toolChoice,
      proxyToolCalls, toolContext⟩, temperature, topP, functions⟩
  · rintro ⟨besides, temperature, topP, functions⟩
    exact ⟨besides.model, temperature, topP, besides.maxTokens, besides.safePrompt,
      besides.randomSeed, besides.responseFormat, besides.stop, besides.tools, besides.toolChoice,
      functions, besides.proxyToolCalls, besides.toolContext⟩

/-- Options that two configurations describe are equal exactly if the configurations agree in all that makes a difference. -/
theorem toOptions_beq_iff {first second : Config} {options other : Options}
    (described : first.toOptions = .ok options) (alsoDescribed : second.toOptions = .ok other) :
    (options == other) = true ↔ Agree first second := by
  -- Both options are made of the parts of their configuration, and compared part by part.
  obtain ⟨_, rfl⟩ := toOptions_eq_ok.mp described
  obtain ⟨_, rfl⟩ := toOptions_eq_ok.mp alsoDescribed
  rw [Options.beq_iff_agree]
  constructor
  · intro agree
    have names (name : String) : name ∈ first.functions ↔ name ∈ second.functions :=
      NameSet.mem_toList_ofNames.symm.trans ((agree .functions name).trans NameSet.mem_toList_ofNames)
    exact {
      model := agree .model, maxTokens := agree .maxTokens, safePrompt := agree .safePrompt
      randomSeed := agree .randomSeed, responseFormat := agree .responseFormat, stop := agree .stop
      tools := agree .tools, toolChoice := agree .toolChoice
      proxyToolCalls := agree .proxyToolCalls, toolContext := agree .toolContext
      temperature := agree .temperature, topP := agree .topP, functions := names }
  · intro agree part
    cases part with
    | model => exact agree.model
    | temperature => exact agree.temperature
    | topP => exact agree.topP
    | maxTokens => exact agree.maxTokens
    | safePrompt => exact agree.safePrompt
    | randomSeed => exact agree.randomSeed
    | responseFormat => exact agree.responseFormat
    | stop => exact agree.stop
    | tools => exact agree.tools
    | toolChoice => exact agree.toolChoice
    -- A configuration brings no callbacks along.
    | callbacks => rfl
    | functions =>
      exact fun name => NameSet.mem_toList_ofNames.trans
        ((agree.functions name).trans NameSet.mem_toList_ofNames.symm)
    | proxyToolCalls => exact agree.proxyToolCalls
    | toolContext => exact agree.toolContext

/-- Whether the doubles of a configuration are numbers where they are there. -/
def Numeric (config : Config) : Prop :=
  ∀ value, value ∈ config.temperature ∨ value ∈ config.topP → value.isNaN = false

/-- Equal configurations agree in all that makes a difference to options, unless they have zeros of opposite sign. -/
theorem agree_iff_of_beq {first second : Config} (equal : (first == second) = true) :
    Agree first second ↔
      ¬ (ZerosApart first.temperature second.temperature ∨ ZerosApart first.topP second.topP) := by
  obtain ⟨besides, temperatures, topPs, names⟩ := beq_iff.mp equal
  -- Doubles that are equal as numbers have the same bits, or are the two zeros.
  rw [not_or, ← optional_same_iff_not_zerosApart temperatures,
    ← optional_same_iff_not_zerosApart topPs]
  constructor
  · exact fun agree => ⟨agree.temperature, agree.topP⟩
  · rintro ⟨temperature, topP⟩
    exact { besides with temperature, topP, functions := fun _ => names ▸ Iff.rfl }

/-- Configurations that agree in all that makes a difference to options are equal but for the names, as long as no double differs from itself. -/
theorem beq_besides_functions_iff {first second : Config} (agree : Agree first second) :
    ({ first with functions := second.functions } == second) = true ↔ first.Numeric := by
  have temperature := optional_beq_iff_of_same agree.temperature
  have topP := optional_beq_iff_of_same agree.topP
  have besides : AgreeBesides { first with functions := second.functions } second :=
    { agree.toAgreeBesides with }
  rw [beq_iff, Numeric]
  simp only [temperature, topP, besides, true_and, and_true, or_imp, forall_and]

/--
Two configurations describe equal options exactly if they agree in all that makes a difference to options: the names of functions count as a set, and doubles by their bits, unless both are NaN.

Equal configurations have the same outcome, but for zeros of opposite sign, which make different options.
Configurations with equal options differ in the order and the repeats of names only, exactly if none of their doubles is NaN.
-/
theorem equal_options_iff (first second : Config) :
    (∀ options other, first.toOptions = .ok options → second.toOptions = .ok other →
      ((options == other) = true ↔ Agree first second))
    ∧ ((first == second) = true →
      (∃ error, first.toOptions = .error error ∧ second.toOptions = .error error)
      ∨ ∃ options other, first.toOptions = .ok options ∧ second.toOptions = .ok other ∧
        ((options == other) = true ↔ ¬ (ZerosApart first.temperature second.temperature
          ∨ ZerosApart first.topP second.topP)))
    ∧ ∀ options other, first.toOptions = .ok options → second.toOptions = .ok other →
      (options == other) = true →
        (∀ name, name ∈ first.functions ↔ name ∈ second.functions)
        ∧ (({ first with functions := second.functions } == second) = true ↔ first.Numeric) := by
  refine ⟨fun options other => toOptions_beq_iff, fun equal => ?_,
    fun options other described alsoDescribed equal => ?_⟩
  · obtain ⟨_, _, _, names⟩ := beq_iff.mp equal
    -- Both list the same names, so they are refused together.
    cases blank : first.functions.any isBlank with
    | true =>
      refine .inl ⟨.blankFunctionName, ?_, ?_⟩
      · rw [toOptions_eq, if_pos blank]
      · rw [toOptions_eq, ← names, if_pos blank]
    | false =>
      have described : first.toOptions = .ok _ := toOptions_eq_ok.mpr ⟨blank, rfl⟩
      have alsoDescribed : second.toOptions = .ok _ := toOptions_eq_ok.mpr ⟨names ▸ blank, rfl⟩
      refine .inr ⟨_, _, described, alsoDescribed, ?_⟩
      exact (toOptions_beq_iff described alsoDescribed).trans (agree_iff_of_beq equal)
  · have agree := (toOptions_beq_iff described alsoDescribed).mp equal
    exact ⟨agree.functions, beq_besides_functions_iff agree⟩

/-- Names in another order and a zero of the other sign in a schema make no difference to options, nor do the bits of a NaN, though the configurations differ; a temperature that is a zero of the other sign does, although the configurations are equal. -/
theorem equal_options_iff_example :
    let shape (zero : Number) : ResponseFormat := .ofSchema "zero" (.ofJson (.number zero))
    let first : Config :=
      { temperature := some (.ofFloat 0.5), responseFormat := some (shape (.float 0.0 rfl))
        functions := ["b", "a", "b"] }
    let second : Config :=
      { temperature := some (.ofFloat 0.5), responseFormat := some (shape (.float (-0.0) rfl))
        functions := ["a", "b"] }
    let quiet : Config := { temperature := some ⟨0x7ff8000000000000⟩, functions := ["a"] }
    let signaling : Config := { temperature := some ⟨0xfff0000000000001⟩, functions := ["a", "a"] }
    let positive : Config := { temperature := some .zero, functions := ["a"] }
    let negative : Config := { temperature := some .negativeZero, functions := ["a"] }
    let options (config : Config) : Options :=
      { toRequest := config.toRequest, functions := .ofNames config.functions }
    first.toOptions = .ok (options first) ∧ second.toOptions = .ok (options second)
    ∧ (options first == options second) = true ∧ Agree first second ∧ first.Numeric
    ∧ ({ first with functions := second.functions } == second) = true
    ∧ quiet.toOptions = .ok (options quiet) ∧ signaling.toOptions = .ok (options signaling)
    ∧ (options quiet == options signaling) = true ∧ Agree quiet signaling
    ∧ ¬ ({ quiet with functions := signaling.functions } == signaling) = true
    ∧ (positive == negative) = true
    ∧ ∃ kept other, positive.toOptions = .ok kept ∧ negative.toOptions = .ok other
      ∧ ¬ (kept == other) = true := by
  intro shape first second quiet signaling positive negative options
  have described : first.toOptions = .ok (options first) := toOptions_eq_ok.mpr ⟨by decide, rfl⟩
  have alsoDescribed : second.toOptions = .ok (options second) := toOptions_eq_ok.mpr ⟨by decide, rfl⟩
  have equal : (options first == options second) = true := by decide +kernel
  have numeric : first.Numeric := by
    rintro value (⟨⟨⟩⟩ | ⟨⟨⟩⟩)
    decide
  have quietOptions : quiet.toOptions = .ok (options quiet) := toOptions_eq_ok.mpr ⟨by decide, rfl⟩
  have signalingOptions : signaling.toOptions = .ok (options signaling) :=
    toOptions_eq_ok.mpr ⟨by decide, rfl⟩
  have equalNaNs : (options quiet == options signaling) = true := by decide +kernel
  have notNumeric : ¬ quiet.Numeric := fun numeric => absurd (numeric _ (.inl rfl)) (by decide)
  have alike : (positive == negative) = true := by decide +kernel
  obtain ⟨agree, _, besides⟩ := equal_options_iff first second
  obtain ⟨agreeNaNs, _, besidesNaNs⟩ := equal_options_iff quiet signaling
  obtain ⟨_, outcomes, _⟩ := equal_options_iff positive negative
  refine ⟨described, alsoDescribed, equal, (agree _ _ described alsoDescribed).mp equal, numeric,
    (besides _ _ described alsoDescribed equal).2.mpr numeric, quietOptions, signalingOptions,
    equalNaNs, (agreeNaNs _ _ quietOptions signalingOptions).mp equalNaNs,
    fun same => notNumeric ((besidesNaNs _ _ quietOptions signalingOptions equalNaNs).2.mp same),
    alike, ?_⟩
  -- No name is blank, so both describe options.
  obtain ⟨error, refused, _⟩ | ⟨kept, other, kept_of, other_of, same⟩ := outcomes alike
  · rw [toOptions_eq] at refused
    cases refused
  · exact ⟨kept, other, kept_of, other_of, fun equal => same.mp equal (.inl (.inl ⟨rfl, rfl⟩))⟩

end Config

end ChatOptions
