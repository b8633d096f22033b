import Mathlib
import ChatOptions.Config
import ChatOptions.Proofs.Config.Splitting
import ChatOptions.Proofs.Options.LastWrites

/-! The options that a configuration describes: everything that it says, as long as no function name is blank. -/

namespace ChatOptions

/-- The ranges of characters that have the Unicode property `White_Space`, each from its first to its last. -/
def whiteSpaceRanges : List (Nat × Nat) :=
  [(0x09, 0x0d), (0x20, 0x20), (0x85, 0x85), (0xa0, 0xa0), (0x1680, 0x1680), (0x2000, 0x200a),
    (0x2028, 0x2029), (0x202f, 0x202f), (0x205f, 0x205f), (0x3000, 0x3000)]

/-- A text that is made of white space only, as is one that holds nothing. -/
def WhiteSpaceOnly (text : String) : Prop :=
  ∀ char ∈ text.toList, ∃ range ∈ whiteSpaceRanges, range.1 ≤ char.toNat ∧ char.toNat ≤ range.2

/-- A character is white space exactly if it is in one of the ranges. -/
theorem isWhiteSpace_iff {char : Char} : isWhiteSpace char = true ↔
    ∃ range ∈ whiteSpaceRanges, range.1 ≤ char.toNat ∧ char.toNat ≤ range.2 := by
  simp only [isWhiteSpace, whiteSpaceRanges, Bool.or_eq_true, Bool.and_eq_true, decide_eq_true_eq,
    beq_iff_eq, List.mem_cons, List.not_mem_nil, or_false, exists_eq_or_imp, exists_eq_left]
  omega

/-- A name is blank exactly if it holds white space only. -/
theorem isBlank_iff {text : String} : isBlank text = true ↔ WhiteSpaceOnly text := by
  rw [isBlank, List.all_eq_true]
  simp only [isWhiteSpace_iff]
  exact Iff.rfl

instance : DecidablePred WhiteSpaceOnly := fun _ => decidable_of_iff _ isBlank_iff

namespace Config

/-- A setting that puts a part into a request makes the request with that part, be it there or absent. -/
theorem setting_ofRequest {α : Type} {set : Builder → α → Builder} (request : Option α → Request)
    (puts : ∀ value, set ⟨.ofRequest (request none)⟩ value = ⟨.ofRequest (request (some value))⟩)
    (part : Option α) : setting set ⟨.ofRequest (request none)⟩ part = ⟨.ofRequest (request part)⟩ := by
  cases part with
  | none => rfl
  | some value => exact puts value

/-- Names are enabled one after the other, unless one of them is blank. -/
theorem foldlM_function (names : List String) (builder : Builder) :
    names.foldlM Builder.function builder
      = if names.any isBlank then .error .blankFunctionName
        else .ok { builder with options.functions := names.foldl .add builder.options.functions } := by
  induction names generalizing builder with
  | nil => rfl
  | cons name rest ih =>
    rw [List.foldlM_cons, Builder.function]
    -- A blank name ends it, wherever it stands.
    cases blank : isBlank name with
    | true => simp [blank, bind, Except.bind]
    | false => simp [blank, bind, Except.bind, ih]

/-- Where there is no context yet, merging the entries of one makes that context. -/
theorem toolContext_entries {builder : Builder} (unset : builder.options.toolContext = none)
    (context : ToolContext) :
    (builder.toolContext context.entries).1 = { builder with options.toolContext := some context } := by
  have merged : (Builder.merge .empty context.entries).1 = context := by
    rw [Builder.merge_fst]
    exact context.ofList_entries
  simp only [Builder.toolContext, unset, Option.getD_none, merged]

/-- A configuration describes what it says, unless it names a function by nothing but blanks. -/
theorem toOptions_eq (config : Config) :
    config.toOptions = if config.functions.any isBlank then .error .blankFunctionName
      else .ok { toRequest := config.toRequest
                 functions := .ofNames config.functions
                 proxyToolCalls := config.proxyToolCalls
                 toolContext := config.toolContext } := by
  obtain ⟨⟨model, temperature, topP, maxTokens, safePrompt, randomSeed, responseFormat, stop, tools,
    toolChoice⟩, functions, proxyToolCalls, toolContext⟩ := config
  have start : Builder.new = ⟨.ofRequest { model := none }⟩ := rfl
  simp only [toOptions]
  -- The parts of the request are put in one after the other.
  rw [start,
    setting_ofRequest (fun model => { model }) fun _ => rfl,
    setting_ofRequest (fun temperature => { model, temperature }) fun _ => rfl,
    setting_ofRequest (fun topP => { model, temperature, topP }) fun _ => rfl,
    setting_ofRequest (fun maxTokens => { model, temperature, topP, maxTokens }) fun _ => rfl,
    setting_ofRequest (fun safePrompt => { model, temperature, topP, maxTokens, safePrompt })
      fun _ => rfl,
    setting_ofRequest (fun randomSeed =>
      { model, temperature, topP, maxTokens, safePrompt, randomSeed }) fun _ => rfl,
    setting_ofRequest (fun responseFormat =>
      { model, temperature, topP, maxTokens, safePrompt, randomSeed, responseFormat }) fun _ => rfl,
    setting_ofRequest (fun stop =>
      { model, temperature, topP, maxTokens, safePrompt, randomSeed, responseFormat, stop })
      fun _ => rfl,
    setting_ofRequest (fun tools =>
      { model, temperature, topP, maxTokens, safePrompt, randomSeed, responseFormat, stop, tools })
      fun _ => rfl,
    setting_ofRequest (fun toolChoice =>
      { model, temperature, topP, maxTokens, safePrompt, randomSeed, responseFormat, stop, tools,
        toolChoice }) fun _ => rfl,
    foldlM_function]
  cases functions.any isBlank with
  | true => rfl
  | false =>
    -- What is left are the two parts that stay in process besides the names.
    cases proxyToolCalls <;> cases toolContext
    · rfl
    · refine congrArg (fun builder : Builder => Except.ok builder.options) (toolContext_entries ?_ _)
      rfl
    · rfl
    · refine congrArg (fun builder : Builder => Except.ok builder.options) (toolContext_entries ?_ _)
      rfl

/-- A configuration describes options if no function name is blank, and then those made of its parts. -/
theorem toOptions_eq_ok {config : Config} {options : Options} :
    config.toOptions = .ok options ↔
      config.functions.any isBlank = false ∧
        options = { toRequest := config.toRequest
                    functions := .ofNames config.functions
                    proxyToolCalls := config.proxyToolCalls
                    toolContext := config.toolContext } := by
  rw [toOptions_eq]
  cases config.functions.any isBlank with
  | true => exact ⟨nofun, nofun⟩
  | false => simp [eq_comm]

/-- The options that a configuration describes say the same to a server as the configuration. -/
theorem toRequest_of_toOptions {config : Config} {options : Options}
    (described : config.toOptions = .ok options) : options.toRequest = config.toRequest := by
  obtain ⟨_, rfl⟩ := toOptions_eq_ok.mp described
  rfl

/-- Options into which a configuration is carried over: every part is as it was, the names are a set, and there are no callbacks. -/
structure CarriedOver (config : Config) (options : Options) : Prop where
  model : options.model = config.model
  temperature : options.temperature = config.temperature
  topP : options.topP = config.topP
  maxTokens : options.maxTokens = config.maxTokens
  safePrompt : options.safePrompt = config.safePrompt
  randomSeed : options.randomSeed = config.randomSeed
  responseFormat : options.responseFormat = config.responseFormat
  stop : options.stop = config.stop
  tools : options.tools = config.tools
  toolChoice : options.toolChoice = config.toolChoice
  proxyToolCalls : options.proxyToolCalls = config.proxyToolCalls
  functions : ∀ name, name ∈ options.functions.toList ↔ name ∈ config.functions
  toolContext : options.toolContext = config.toolContext
  callbacks : options.callbacks = []

/-- There is nothing more to options than what is carried over into them. -/
theorem carriedOver_iff {config : Config} {options : Options} :
    CarriedOver config options ↔
      options = { toRequest := config.toRequest
                  functions := .ofNames config.functions
                  proxyToolCalls := config.proxyToolCalls
                  toolContext := config.toolContext } := by
  constructor
  · intro carried
    -- Sets that have the same names are the same set.
    have names : options.functions = .ofNames config.functions := by
      refine NameSet.ext_contains fun name => ?_
      rw [Bool.eq_iff_iff, ← NameSet.mem_toList, ← NameSet.mem_toList, carried.functions,
        NameSet.mem_toList_ofNames]
    obtain ⟨⟨⟩, _, _, _, _⟩ := options
    obtain ⟨⟨⟩, _, _, _⟩ := config
    obtain ⟨rfl, rfl, rfl, rfl, rfl, rfl, rfl, rfl, rfl, rfl, rfl, _, rfl, rfl⟩ := carried
    dsimp only at names
    rw [names]
  · rintro rfl
    exact ⟨rfl, rfl, rfl, rfl, rfl, rfl, rfl, rfl, rfl, rfl, rfl,
      fun _ => NameSet.mem_toList_ofNames, rfl, rfl⟩

/--
A configuration describes options unless some function name is white space only.

The options are those into which every part is carried over, and the one error does not depend on any other part.
A text that is read as the configuration is loaded with the same outcome.
-/
theorem described_unless_blank (config : Config) :
    (∀ error, config.toOptions.mapError .options = .error error ↔
      (∃ name ∈ config.functions, WhiteSpaceOnly name)
        ∧ error = ConfigError.options (.invalidArgument "Function name must not be empty"))
    ∧ (∀ options, config.toOptions.mapError ConfigError.options = .ok options ↔
      (¬ ∃ name ∈ config.functions, WhiteSpaceOnly name) ∧ CarriedOver config options)
    ∧ ∀ environment format path text read, interpolated environment text = .ok read →
        ofText format path read = .ok config →
        Options.ofTextAt environment format path text = config.toOptions.mapError .options := by
  have blank : config.functions.any isBlank = true
      ↔ ∃ name ∈ config.functions, WhiteSpaceOnly name := by
    simp only [List.any_eq_true, isBlank_iff]
  refine ⟨fun error => ?_, fun options => ?_, fun environment format path text read filled parsed => ?_⟩
  · rw [toOptions_eq, ← blank]
    by_cases refused : config.functions.any isBlank = true
    · simp [refused, Except.mapError, OptionsError.blankFunctionName, eq_comm]
    · simp [refused, Except.mapError]
  · rw [toOptions_eq, ← blank, carriedOver_iff]
    by_cases refused : config.functions.any isBlank = true
    · simp [refused, Except.mapError]
    · simp [refused, Except.mapError, eq_comm]
  · simp only [Options.ofTextAt, filled, parsed, bind, Except.bind]

/-- Names are kept with the blanks around them, and empty parts are kept as they are; a name of a wide space and a tab is refused. -/
theorem described_unless_blank_example :
    let environment : Environment := fun _ => none
    let text := "\x7b\"max_tokens\":0,\"stop\":[],\"functions\":[\" f\",\"f\",\" f\"],\"tool_context\":\x7b\x7d\x7d"
    let blank := "\x7b\"model\":\"m\",\"functions\":[\"f\",\"\u2003\\t\"]\x7d"
    interpolated environment text = .ok text ∧ interpolated environment blank = .ok blank
    ∧ Options.ofTextAt environment .json "c.json" text = .ok
        { maxTokens := some 0, stop := some [], functions := .ofNames ["f", " f"]
          toolContext := some .empty }
    ∧ Options.ofTextAt environment .json "c.json" blank
        = .error (.options (.invalidArgument "Function name must not be empty")) := by
  -- What each text is read as is found by reading it.
  have read : ofText .json "c.json" "\x7b\"max_tokens\":0,\"stop\":[],\"functions\":[\" f\",\"f\",\" f\"],\"tool_context\":\x7b\x7d\x7d"
      = .ok { maxTokens := some 0, stop := some [], functions := [" f", "f", " f"]
              toolContext := some .empty } := by cbv
  have alsoRead : ofText .json "c.json" "\x7b\"model\":\"m\",\"functions\":[\"f\",\"\u2003\\t\"]\x7d"
      = .ok { model := some "m", functions := ["f", "\u2003\t"] } := by cbv
  intro environment text blank
  have filled : interpolated environment text = .ok text :=
    (interpolated_replaces environment).plain text (Interpolation.no_references_of_not_mem (by decide))
  have alsoFilled : interpolated environment blank = .ok blank :=
    (interpolated_replaces environment).plain blank (Interpolation.no_references_of_not_mem (by decide))
  have described := described_unless_blank
    { maxTokens := some 0, stop := some [], functions := [" f", "f", " f"]
      toolContext := some .empty }
  have refused := described_unless_blank { model := some "m", functions := ["f", "\u2003\t"] }
  refine ⟨filled, alsoFilled, ?_, ?_⟩
  · rw [described.2.2 environment .json "c.json" text text filled read, described.2.1,
      carriedOver_iff]
    exact ⟨by decide, rfl⟩
  · rw [refused.2.2 environment .json "c.json" blank blank alsoFilled alsoRead, refused.1]
    exact ⟨by decide, rfl⟩

end Config

end ChatOptions
