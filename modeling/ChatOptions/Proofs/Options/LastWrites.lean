import Mathlib.Data.List.DropRight
import ChatOptions.Options.Builder
import ChatOptions.Proofs.SortedMap

/-! What a run of builder settings leaves behind: each field has the meaning of its last writes. -/

namespace ChatOptions

universe u

namespace Setting

/-- The identifier of a model that a setting gives. -/
@[simp] def modelSet : Setting → Option String
  | .model id => some id
  | _ => none

/-- The temperature that a setting gives. -/
@[simp] def temperatureSet : Setting → Option Double
  | .temperature value => some value
  | _ => none

/-- The probability mass that a setting gives. -/
@[simp] def topPSet : Setting → Option Double
  | .topP value => some value
  | _ => none

/-- The largest number of tokens that a setting gives. -/
@[simp] def maxTokensSet : Setting → Option UInt32
  | .maxTokens value => some value
  | _ => none

/-- The choice of a safety prompt that a setting makes. -/
@[simp] def safePromptSet : Setting → Option Bool
  | .safePrompt value => some value
  | _ => none

/-- The seed that a setting gives. -/
@[simp] def randomSeedSet : Setting → Option UInt64
  | .randomSeed value => some value
  | _ => none

/-- The shape of the output that a setting gives. -/
@[simp] def responseFormatSet : Setting → Option ResponseFormat
  | .responseFormat format => some format
  | _ => none

/-- The texts that a setting puts in place of all stop texts. -/
@[simp] def stopSet : Setting → Option (List String)
  | .stop texts => some texts
  | _ => none

/-- The text that a setting adds to the stop texts. -/
@[simp] def stopAdded : Setting → Option String
  | .stopSequence text => some text
  | _ => none

/-- The tools that a setting gives. -/
@[simp] def toolsSet : Setting → Option (List Tool)
  | .tools offered => some offered
  | _ => none

/-- The choice of a tool that a setting makes. -/
@[simp] def toolChoiceSet : Setting → Option ToolChoice
  | .toolChoice choice => some choice
  | _ => none

/-- The callbacks that a setting puts in place of all others. -/
@[simp] def callbacksSet : Setting → Option (List Callback)
  | .callbacks enabled => some enabled
  | _ => none

/-- The callback that a setting adds. -/
@[simp] def callbackAdded : Setting → Option Callback
  | .callback enabled => some enabled
  | _ => none

/-- The function names that a setting puts in place of all others. -/
@[simp] def functionsSet : Setting → Option (List String)
  | .functions names => some names
  | _ => none

/-- The function name that a setting adds. -/
@[simp] def functionAdded : Setting → Option String
  | .function name => some name
  | _ => none

/-- The choice about tool calls that a setting makes. -/
@[simp] def proxyToolCallsSet : Setting → Option Bool
  | .proxyToolCalls value => some value
  | _ => none

/-- The entries that a setting merges into the tool context. -/
@[simp] def contextMerged : Setting → Option (List (String × Value))
  | .toolContext entries => some entries
  | _ => none

/-- Whether a setting names a function by nothing but white space. -/
@[simp] def isBlankFunction : Setting → Bool
  | .function name => isBlank name
  | _ => false

end Setting

section Fields

variable {α : Type u}

/-- A field after a run: what the last setting of it gives, or else what was there. -/
def fieldAfter (given : Setting → Option α) (before : Option α) (settings : List Setting) :
    Option α :=
  (settings.filterMap given).getLast?.or before

/-- The settings of a run behind the last one that replaces something. -/
def sinceReplaced (replaced : Setting → Option (List α)) (settings : List Setting) : List Setting :=
  settings.rtakeWhile fun setting => (replaced setting).isNone

/-- A list after a run: what the last replacement puts in its place, or else the list there was, followed by all that is added later. -/
def listAfter (replaced : Setting → Option (List α)) (added : Setting → Option α)
    (before : List α) (settings : List Setting) : List α :=
  (fieldAfter replaced (some before) settings).getD []
    ++ (sinceReplaced replaced settings).filterMap added

/-- Nothing changes in a field without settings. -/
@[simp] theorem fieldAfter_nil (given : Setting → Option α) (before : Option α) :
    fieldAfter given before [] = before := rfl

/-- A field after one setting is what it gives, or else what was there. -/
@[simp] theorem fieldAfter_singleton (given : Setting → Option α) (before : Option α)
    (setting : Setting) : fieldAfter given before [setting] = (given setting).or before := by
  cases found : given setting <;> simp [fieldAfter, found]

/-- A field after two runs is what the second makes of what the first left. -/
theorem fieldAfter_append (given : Setting → Option α) (before : Option α)
    (first second : List Setting) :
    fieldAfter given before (first ++ second)
      = fieldAfter given (fieldAfter given before first) second := by
  -- The last of two runs that gives the field decides.
  simp only [fieldAfter, List.filterMap_append, List.getLast?_append, Option.or_assoc]

/-- A field that no setting gives is as before. -/
theorem fieldAfter_of_forall_none {given : Setting → Option α} {settings : List Setting}
    (before : Option α) (never : ∀ setting ∈ settings, given setting = none) :
    fieldAfter given before settings = before := by
  have nothing : settings.filterMap given = [] := List.filterMap_eq_nil_iff.mpr never
  rw [fieldAfter, nothing]
  rfl

/-- A field that some setting gives no longer depends on what was there. -/
theorem fieldAfter_of_exists_some {given : Setting → Option α} {settings : List Setting}
    (before other : Option α) (once : ¬ ∀ setting ∈ settings, given setting = none) :
    fieldAfter given before settings = fieldAfter given other settings := by
  -- The last value given is one of the run, so the default is not looked at.
  have something : settings.filterMap given ≠ [] := fun nothing =>
    once (List.filterMap_eq_nil_iff.mp nothing)
  rw [fieldAfter, fieldAfter, List.getLast?_eq_some_getLast something]
  rfl

/-- Without a replacement the list is the one there was with everything added. -/
theorem listAfter_of_forall_none {replaced : Setting → Option (List α)}
    {added : Setting → Option α} {settings : List Setting} (before : List α)
    (never : ∀ setting ∈ settings, replaced setting = none) :
    listAfter replaced added before settings = before ++ settings.filterMap added := by
  -- Everything is behind the last replacement, as there is none.
  have all : sinceReplaced replaced settings = settings := by
    refine List.rtakeWhile_eq_self_iff.mpr fun setting found => ?_
    rw [never setting found, Option.isNone_none]
  rw [listAfter, fieldAfter_of_forall_none _ never, all]
  rfl

/-- Nothing changes in a list without settings. -/
@[simp] theorem listAfter_nil (replaced : Setting → Option (List α)) (added : Setting → Option α)
    (before : List α) : listAfter replaced added before [] = before := by
  simp [listAfter, sinceReplaced]

/-- A list after one setting is what it puts in the list's place, or else the list with what it adds. -/
theorem listAfter_singleton (replaced : Setting → Option (List α)) (added : Setting → Option α)
    (before : List α) (setting : Setting) :
    listAfter replaced added before [setting]
      = (replaced setting).getD (before ++ (added setting).toList) := by
  -- The setting replaces, adds, or does neither.
  cases put : replaced setting <;> cases more : added setting <;>
    simp [listAfter, sinceReplaced, List.rtakeWhile, put, more]

/-- The settings of two runs behind the last replacement are those of the second if it has one, and otherwise all of it behind those of the first. -/
theorem sinceReplaced_append (replaced : Setting → Option (List α)) (first second : List Setting) :
    sinceReplaced replaced (first ++ second)
      = if ∀ setting ∈ second, replaced setting = none then sinceReplaced replaced first ++ second
        else sinceReplaced replaced second := by
  by_cases never : ∀ setting ∈ second, replaced setting = none
  · -- No replacement stops the walk from the end before it has passed the second run.
    have all : ∀ setting ∈ second.reverse, (replaced setting).isNone = true := by
      intro setting found
      rw [never setting (List.mem_reverse.mp found), Option.isNone_none]
    rw [if_pos never, sinceReplaced, sinceReplaced, List.rtakeWhile, List.rtakeWhile,
      List.reverse_append, List.takeWhile_append_of_pos all, List.reverse_append,
      List.reverse_reverse]
  · -- A walk that passed the whole second run would have met no replacement.
    have stopped : (second.reverse.takeWhile fun setting => (replaced setting).isNone).length
        ≠ second.reverse.length := by
      intro same
      have whole := List.Sublist.eq_of_length (List.takeWhile_sublist _) same
      refine never fun setting found => ?_
      have passed := List.takeWhile_eq_self_iff.mp whole setting (List.mem_reverse.mpr found)
      exact Option.isNone_iff_eq_none.mp passed
    rw [if_neg never, sinceReplaced, sinceReplaced, List.rtakeWhile, List.rtakeWhile,
      List.reverse_append, List.takeWhile_append, if_neg stopped]

/-- A list after two runs is what the second makes of what the first left. -/
theorem listAfter_append (replaced : Setting → Option (List α)) (added : Setting → Option α)
    (before : List α) (first second : List Setting) :
    listAfter replaced added before (first ++ second)
      = listAfter replaced added (listAfter replaced added before first) second := by
  by_cases never : ∀ setting ∈ second, replaced setting = none
  · -- Without a replacement the second run only adds behind what the first left.
    rw [listAfter_of_forall_none _ never, listAfter, fieldAfter_append,
      fieldAfter_of_forall_none _ never, sinceReplaced_append, if_pos never,
      List.filterMap_append, ← List.append_assoc]
    rfl
  · -- A replacement in the second run hides all that the first did.
    rw [listAfter, fieldAfter_append, sinceReplaced_append, if_neg never,
      fieldAfter_of_exists_some _ (some (listAfter replaced added before first)) never]
    rfl

/-- What is in a list after a run depends only on what was in it before. -/
theorem mem_listAfter_congr {replaced : Setting → Option (List α)} {added : Setting → Option α}
    {before other : List α} (agree : ∀ member, member ∈ before ↔ member ∈ other)
    (settings : List Setting) (member : α) :
    member ∈ listAfter replaced added before settings
      ↔ member ∈ listAfter replaced added other settings := by
  -- A replacement hides the list there was, and without one it stays in front.
  by_cases never : ∀ setting ∈ settings, replaced setting = none
  · rw [listAfter_of_forall_none _ never, listAfter_of_forall_none _ never, List.mem_append,
      List.mem_append, agree]
  · rw [listAfter, listAfter, fieldAfter_of_exists_some _ (some other) never]

end Fields

/-- The entries that a run merges into the tool context, in order. -/
def contextEntries (settings : List Setting) : List (String × Value) :=
  (settings.filterMap Setting.contextMerged).flatten

/-- The entries that one setting merges into the tool context. -/
@[simp] theorem contextEntries_singleton (setting : Setting) :
    contextEntries [setting] = setting.contextMerged.getD [] := by
  cases setting <;> simp [contextEntries, List.filterMap_cons]

/-- Options that are what a run of settings makes of other options when each field has the meaning of its last writes. -/
structure LastWrites (source : Options) (settings : List Setting) (built : Options) : Prop where
  model : built.model = fieldAfter Setting.modelSet source.model settings
  temperature : built.temperature = fieldAfter Setting.temperatureSet source.temperature settings
  topP : built.topP = fieldAfter Setting.topPSet source.topP settings
  maxTokens : built.maxTokens = fieldAfter Setting.maxTokensSet source.maxTokens settings
  safePrompt : built.safePrompt = fieldAfter Setting.safePromptSet source.safePrompt settings
  randomSeed : built.randomSeed = fieldAfter Setting.randomSeedSet source.randomSeed settings
  responseFormat : built.responseFormat
    = fieldAfter Setting.responseFormatSet source.responseFormat settings
  tools : built.tools = fieldAfter Setting.toolsSet source.tools settings
  toolChoice : built.toolChoice = fieldAfter Setting.toolChoiceSet source.toolChoice settings
  proxyToolCalls : built.proxyToolCalls
    = fieldAfter Setting.proxyToolCallsSet source.proxyToolCalls settings
  /-- The stop texts are absent only if they were and no setting touched them. -/
  stop_isSome : built.stop.isSome = (source.stop.isSome
    || settings.any fun setting => setting.stopSet.isSome || setting.stopAdded.isSome)
  stop : built.stop.getD []
    = listAfter Setting.stopSet Setting.stopAdded (source.stop.getD []) settings
  callbacks : built.callbacks
    = listAfter Setting.callbacksSet Setting.callbackAdded source.callbacks settings
  functions : built.functions
    = .ofNames (listAfter Setting.functionsSet Setting.functionAdded source.functions.toList settings)
  /-- The tool context is there if it was or any setting merged entries, even none. -/
  toolContext_isSome : built.toolContext.isSome
    = (source.toolContext.isSome || settings.any fun setting => setting.contextMerged.isSome)
  /-- A later entry wins over an earlier one, and any entry over what was there. -/
  toolContext : ∀ key, (built.toolContext.getD .empty).find? key
    = (SortedMap.lastValue? key (contextEntries settings)).or
        ((source.toolContext.getD .empty).find? key)

namespace LastWrites

/-- Without settings nothing changes. -/
theorem nil (source : Options) : LastWrites source [] source where
  model := rfl
  temperature := rfl
  topP := rfl
  maxTokens := rfl
  safePrompt := rfl
  randomSeed := rfl
  responseFormat := rfl
  tools := rfl
  toolChoice := rfl
  proxyToolCalls := rfl
  stop_isSome := by simp
  stop := by simp
  callbacks := by simp
  functions := by simp
  toolContext_isSome := by simp
  toolContext key := by simp [contextEntries, SortedMap.lastValue?]

/-- Two runs one after the other are one run of all their settings. -/
theorem append {source middle built : Options} {first second : List Setting}
    (start : LastWrites source first middle) (rest : LastWrites middle second built) :
    LastWrites source (first ++ second) built where
  model := by rw [rest.model, start.model, fieldAfter_append]
  temperature := by rw [rest.temperature, start.temperature, fieldAfter_append]
  topP := by rw [rest.topP, start.topP, fieldAfter_append]
  maxTokens := by rw [rest.maxTokens, start.maxTokens, fieldAfter_append]
  safePrompt := by rw [rest.safePrompt, start.safePrompt, fieldAfter_append]
  randomSeed := by rw [rest.randomSeed, start.randomSeed, fieldAfter_append]
  responseFormat := by rw [rest.responseFormat, start.responseFormat, fieldAfter_append]
  tools := by rw [rest.tools, start.tools, fieldAfter_append]
  toolChoice := by rw [rest.toolChoice, start.toolChoice, fieldAfter_append]
  proxyToolCalls := by rw [rest.proxyToolCalls, start.proxyToolCalls, fieldAfter_append]
  stop_isSome := by rw [rest.stop_isSome, start.stop_isSome, List.any_append, Bool.or_assoc]
  stop := by rw [rest.stop, start.stop, listAfter_append]
  callbacks := by rw [rest.callbacks, start.callbacks, listAfter_append]
  functions := by
    -- The names go through a set in between, which keeps only which names there are.
    rw [rest.functions, start.functions, listAfter_append]
    refine NameSet.ofNames_congr fun name => mem_listAfter_congr (fun other => ?_) second name
    exact NameSet.mem_toList_ofNames
  toolContext_isSome := by
    rw [rest.toolContext_isSome, start.toolContext_isSome, List.any_append, Bool.or_assoc]
  toolContext key := by
    rw [rest.toolContext, start.toolContext, contextEntries, contextEntries, contextEntries,
      List.filterMap_append, List.flatten_append, SortedMap.lastValue?_append, Option.or_assoc]

end LastWrites

namespace Builder

/-- Merging entries into a context inserts them one after the other. -/
theorem merge_fst (entries : List (String × Value)) (context : ToolContext) :
    (merge context entries).1
      = entries.foldl (fun map entry => map.insert entry.1 entry.2) context := by
  -- Each entry goes into the context that those before it have left.
  induction entries generalizing context with
  | nil => rfl
  | cons entry rest ih =>
    obtain ⟨key, value⟩ := entry
    exact ih (context.insert key value)

/-- A step that succeeds has the meaning of its one write. -/
theorem lastWrites_of_set {builder next : Builder} {setting : Setting} {notices : List Notice}
    (done : builder.set setting = .ok (next, notices)) :
    LastWrites builder.build [setting] next.build := by
  cases setting with
  | function name =>
    -- The name is not blank, for otherwise the step would have failed.
    have named : next = { builder with options.functions := builder.options.functions.add name } := by
      rw [set, function] at done
      split at done <;> cases done
      rfl
    subst named
    constructor <;>
      simp [listAfter_singleton, SortedMap.lastValue?, build, NameSet.ofNames_toList_append]
  | toolContext entries =>
    -- The entries are merged into the context that was there, or into an empty one.
    cases done
    constructor <;>
      simp [listAfter_singleton, build, merge_fst, SortedMap.find?_foldl_insert]
  | _ =>
    -- Each other step writes one field, and what the write means is read off for every field.
    cases done
    constructor <;>
      simp [listAfter_singleton, SortedMap.lastValue?, build, model, temperature, topP, maxTokens,
        safePrompt, randomSeed, responseFormat, stop, stopSequence, tools, toolChoice, callbacks,
        callback, functions, proxyToolCalls]

/-- A step that names a function by nothing but white space fails. -/
theorem set_of_isBlankFunction (builder : Builder) {setting : Setting}
    (blank : setting.isBlankFunction = true) :
    builder.set setting = .error .blankFunctionName := by
  cases setting with
  | function name =>
    have nameless : isBlank name = true := blank
    simp [set, function, nameless, Except.map]
  | _ => simp at blank

/-- Every other step succeeds. -/
theorem exists_set (builder : Builder) {setting : Setting}
    (named : setting.isBlankFunction = false) :
    ∃ next notices, builder.set setting = .ok (next, notices) := by
  cases setting with
  | function name =>
    have spelled : isBlank name = false := named
    exact ⟨{ builder with options.functions := builder.options.functions.add name }, [],
      by simp [set, function, spelled, Except.map]⟩
  | _ => exact ⟨_, _, rfl⟩

/--
A run of settings has the meaning of its last writes.

It fails exactly when some setting names a function by nothing but white space.
-/
theorem run_has_last_writes (source : Options) (settings : List Setting) :
    if settings.any Setting.isBlankFunction then
      source.toBuilder.run settings = .error .blankFunctionName
    else
      ∃ builder notices, source.toBuilder.run settings = .ok (builder, notices)
        ∧ LastWrites source settings builder.build := by
  -- The induction follows the run, so the options that it starts from are left open.
  induction settings generalizing source with
  | nil =>
    rw [List.any_nil, if_neg Bool.false_ne_true]
    exact ⟨source.toBuilder, [], rfl, .nil source⟩
  | cons setting settings ih =>
    rw [List.any_cons]
    cases blank : setting.isBlankFunction with
    | true =>
      -- The run stops at the blank name, whatever comes after it.
      rw [Bool.true_or, if_pos rfl, run, set_of_isBlankFunction _ blank]
      rfl
    | false =>
      -- The step succeeds with the meaning of its one write, and the rest runs from what it built.
      obtain ⟨next, notices, step⟩ := exists_set source.toBuilder blank
      have written : LastWrites source [setting] next.build := lastWrites_of_set step
      have rest := ih next.build
      rw [Bool.false_or]
      split
      · -- A later setting is blank, and its failure is that of the whole run.
        rename_i fails
        rw [if_pos fails] at rest
        have failed : next.run settings = .error .blankFunctionName := rest
        simp only [run, step, bind, Except.bind, failed]
      · -- Both parts of the run have the meaning of their writes, so both together have it.
        rename_i succeeds
        rw [if_neg succeeds] at rest
        obtain ⟨last, more, ran, meant⟩ := rest
        have ranOn : next.run settings = .ok (last, more) := ran
        refine ⟨last, notices ++ more, ?_, written.append meant⟩
        simp only [run, step, bind, Except.bind, ranOn]
        rfl

end Builder

end ChatOptions
