import ChatOptions.Proofs.Config.Texts
import ChatOptions.Proofs.Config.Written
import ChatOptions.Proofs.Options.Wire

/-! A configuration that is written as JSON is loaded as what it describes, with its references replaced. -/

namespace ChatOptions

open TreeFormat (Reads)
open Interpolation (Fillable Refers filled)

namespace Config

open Json.Reader

/-- A configuration without the doubles that no number can say. -/
def withFiniteFloats (config : Config) : Config :=
  { config with toRequest := config.toRequest.withFiniteFloats }

/-- A tool context is read from its form as its entries. -/
theorem reads_toolContext (part : Option ToolContext) :
    ∀ tree ∈ part.map fun context => (Value.ofMap context).tree,
      Reads (Format.optional (members (Format.value : Json.Reader Value))) tree
        (part.map SortedMap.entries) := by
  intro tree found
  -- The form of a context is the object of its entries.
  cases part with
  | none => cases found
  | some context =>
    cases found
    show Reads _ (Value.ofMap context).tree _
    rw [Value.ofMap_tree]
    exact LawfulFormat.optional_some Json.noConfusion
      (reads_members fun entry _ => LawfulFormat.value entry.2)

/-- The members that are written for a configuration besides its request fill the fields besides those of a request. -/
theorem filled_local (config : Config) (request : Request) :
    Filled (localFields : List (Field Json.Reader Config))
      (config.localParts.flatMap (Json.written true))
      { toRequest := request } { config with toRequest := request } := by
  have spared : Presence.defaulted ≠ .required := by decide
  -- A context comes back from its entries.
  have restored : (config.toolContext.map SortedMap.entries).map SortedMap.ofList
      = config.toolContext := by
    cases config.toolContext with
    | none => rfl
    | some context => exact congrArg some context.ofList_entries
  simp only [localParts, List.flatMap_cons, List.flatMap_nil]
  -- The names are always written, and the other two parts may be null.
  refine .defaulted (reads_texts config.functions) ?_
  refine .part true (fun proxy _ => ⟨Json.noConfusion, LawfulFormat.boolean proxy⟩) spared rfl ?_
  refine .optional true (reads_toolContext config.toolContext) ?_ spared rfl ?_
  · intro absent
    rw [Option.map_eq_none_iff.mp absent]
    rfl
  rw [restored]
  exact .nil

/-- A configuration is read from its form. -/
theorem reads_toJson (config : Config) :
    Reads (Config.reader : Json.Reader Config) config.toJson config.withFiniteFloats := by
  -- Every field has a default, so none has to be there.
  have spared : Presence.defaulted ≠ .required := by decide
  have request : Filled
      ((Request.fields .defaulted : List (Field Json.Reader Request)).map
        (.within fun update config => { config with toRequest := update config.toRequest }))
      (config.toRequest.parts.flatMap (Json.written true)) ({} : Config)
      { toRequest := config.toRequest.withFiniteFloats } :=
    (config.toRequest.filled true spared).within
      (fun request => ({ toRequest := request } : Config)) fun _ _ => rfl
  -- The members of the request come first, and all others behind them.
  have all := request.append (config.filled_local config.toRequest.withFiniteFloats)
  rw [← List.flatMap_append, Json.flatMap_written_true] at all
  refine LawfulFormat.record ?_ all
  simp [record, fields, localFields, Request.fields, Field.within, Field.optional, Field.defaulted]

/-- A configuration whose doubles are finite keeps all of them. -/
theorem withFiniteFloats_eq {config : Config}
    (temperature : ∀ value ∈ config.temperature, value.isFinite = true)
    (topP : ∀ value ∈ config.topP, value.isFinite = true) : config.withFiniteFloats = config := by
  -- Only a double that is not finite would be dropped.
  have kept : ∀ part : Option Double, (∀ value ∈ part, value.isFinite = true) →
      part.filter Double.isFinite = part := by
    intro part finite
    cases part with
    | none => rfl
    | some value => rw [Option.filter_some, if_pos (finite value rfl)]
  rw [withFiniteFloats, Request.withFiniteFloats, kept _ temperature, kept _ topP]

/-- A configuration that is written as JSON is read back. -/
theorem ofText_text {config : Config} (path : String)
    (temperature : ∀ value ∈ config.temperature, value.isFinite = true)
    (topP : ∀ value ∈ config.topP, value.isFinite = true)
    (floats : config.toJson.FloatsReadBack) (shallow : config.toJson.depth < Json.depthLimit) :
    Config.ofText .json path config.text = .ok config := by
  -- The reader of the form is run on the text of the form.
  have reads := config.reads_toJson
  rw [withFiniteFloats_eq temperature topP] at reads
  have read : Json.Reader.read reader config.text = .ok config :=
    Json.Reader.read_render reads floats shallow
  rw [Config.ofText, read]
  rfl

end Config

/-- A text whose references make it that of a configuration is loaded as what the configuration describes. -/
theorem Options.ofText_of_interpolated {environment : Environment} {text : String}
    {config : Config} (interpolated : interpolate environment text = .ok config.text)
    (temperature : ∀ value ∈ config.temperature, value.isFinite = true)
    (topP : ∀ value ∈ config.topP, value.isFinite = true)
    (floats : config.toJson.FloatsReadBack) (shallow : config.toJson.depth < Json.depthLimit) :
    Options.ofText environment .json text = config.toOptions.mapError .options := by
  -- Replacing comes first, and what it gives is read as a configuration.
  have read := Config.ofText_text inlinePath temperature topP floats shallow
  have replaced : Config.interpolated environment text = .ok config.text := by
    rw [Config.interpolated, interpolated]
    rfl
  rw [ofText, ofTextAt, replaced]
  simp only [bind, Except.bind, read]

/--
A configuration that is written as JSON is loaded as what it describes with every text replaced by its own interpolation.

Every variable that a text refers to must have a value that stands for itself between quotes, and no key may refer to a variable.
-/
theorem Options.ofText_config_text (config : Config) (environment : Environment)
    (texts : ∀ text ∈ config.toJson.texts, Fillable environment text.toList)
    (keys : ∀ key ∈ config.toJson.keys, ∀ name, ¬ Refers key.toList name)
    (temperature : ∀ value ∈ config.temperature, value.isFinite = true)
    (topP : ∀ value ∈ config.topP, value.isFinite = true)
    (floats : config.toJson.FloatsReadBack) (shallow : config.toJson.depth < Json.depthLimit) :
    (∀ text ∈ config.toJson.texts,
      interpolate environment text = .ok (filled environment text))
    ∧ Options.ofText environment .json config.text
      = (config.mapTexts (filled environment)).toOptions.mapError .options
    ∧ ((∀ text ∈ config.toJson.texts, ∀ name, ¬ Refers text.toList name) →
      Options.ofText environment .json config.text = config.toOptions.mapError .options) := by
  -- Replacing references in the text is filling every string of the tree.
  have interpolated : interpolate environment config.text
      = .ok (config.toJson.mapTexts (filled environment)).render :=
    Interpolation.interpolate_render floats texts keys
  refine ⟨fun text held => Interpolation.interpolate_of_fillable (texts text held), ?_, ?_⟩
  · -- Texts without a dollar sign have no references, so those that belong to the format stay.
    have form : (config.mapTexts (filled environment)).toJson
        = config.toJson.mapTexts (filled environment) :=
      Config.toJson_mapTexts (fun text plain => Interpolation.filled_of_no_references environment
        (Interpolation.no_references_of_not_mem plain)) config
    refine Options.ofText_of_interpolated ?_ temperature topP ?_ ?_
    · rw [interpolated, Config.text, form]
    · rw [form]
      exact Json.floatsReadBack_mapTexts _ config.toJson floats
    · rw [form, Json.depth_mapTexts]
      exact shallow
  · intro none
    -- Without references nothing is filled, and the tree stays.
    have same : config.toJson.mapTexts (filled environment) = config.toJson :=
      Json.mapTexts_of_texts config.toJson fun text held =>
        Interpolation.filled_of_no_references environment (none text held)
    rw [same] at interpolated
    exact Options.ofText_of_interpolated interpolated temperature topP floats shallow

/-- A configuration with references in a model, in a stop text with a line break and in its tool context is loaded with their values, one of which looks like a reference. -/
theorem Options.ofText_config_text_example :
    let environment : Environment := fun name =>
      some (if name = "TAIL" then "$\x7bMODEL\x7d" else "small")
    let config : Config :=
      { model := some "$\x7bMODEL\x7d", temperature := some (.ofFloat 0.5)
        stop := some ["a$$\x7bTAIL\x7d\n", "$\x7btail\x7d"], functions := ["weather"]
        toolContext := some (.ofList [("tenant", ⟨.string "$\x7bMODEL\x7d", trivial⟩)]) }
    (∀ text ∈ config.toJson.texts, Fillable environment text.toList)
    ∧ (∀ key ∈ config.toJson.keys, ∀ name, ¬ Refers key.toList name)
    ∧ (∀ value ∈ config.temperature, value.isFinite = true)
    ∧ (∀ value ∈ config.topP, value.isFinite = true)
    ∧ config.toJson.FloatsReadBack ∧ config.toJson.depth < Json.depthLimit
    ∧ (∀ text ∈ config.toJson.texts,
        interpolate environment text = .ok (filled environment text))
    ∧ Options.ofText environment .json config.text
      = (config.mapTexts (filled environment)).toOptions.mapError .options
    ∧ ((∀ text ∈ config.toJson.texts, ∀ name, ¬ Refers text.toList name) →
      Options.ofText environment .json config.text = config.toOptions.mapError .options) := by
  intro environment config
  -- Both values of variables hold only characters that stand for themselves.
  have texts : ∀ text ∈ config.toJson.texts, Fillable environment text.toList := by
    intro text _ name _
    have plain : (if String.ofList name = "TAIL" then "$\x7bMODEL\x7d" else "small").toList.all
        (fun char => decide (Interpolation.StandsForItself char)) = true := by
      split <;> decide +kernel
    exact ⟨_, rfl, fun char held => of_decide_eq_true (List.all_eq_true.mp plain char held)⟩
  -- No key has a dollar sign.
  have keys : ∀ key ∈ config.toJson.keys, ∀ name, ¬ Refers key.toList name := by
    have plain : ∀ key ∈ config.toJson.keys, '$' ∉ key.toList := by decide +kernel
    exact fun key held => Interpolation.no_references_of_not_mem (plain key held)
  have temperature : ∀ value ∈ config.temperature, value.isFinite = true := by
    rintro value ⟨⟩
    decide +kernel
  have topP : ∀ value ∈ config.topP, value.isFinite = true := by
    rintro value ⟨⟩
  have half : Json.ofDouble (.ofFloat 0.5) = .number (.float 0.5 (by decide +kernel)) :=
    Json.ofDouble_ofFloat _
  have floats : config.toJson.FloatsReadBack := by
    simp [config, Config.toJson, Config.localParts, Request.parts, half, Json.ofList, Value.ofMap_tree,
      SortedMap.ofList, SortedMap.insert, SortedMap.empty, insertEntry, Json.FloatsReadBack,
      Json.MemberFloatsReadBack, Json.ItemFloatsReadBack, Number.half_readsBack]
  have shallow : config.toJson.depth < Json.depthLimit := by decide +kernel
  exact ⟨texts, keys, temperature, topP, floats, shallow,
    ofText_config_text config environment texts keys temperature topP floats shallow⟩

end ChatOptions
