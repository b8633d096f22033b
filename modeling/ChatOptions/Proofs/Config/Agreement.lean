import Mathlib
import ChatOptions.Proofs.Config.Described
import ChatOptions.Proofs.Config.Splitting
import ChatOptions.Proofs.Json.Widening

/-! A configuration in JSON and the wire form agree: they are two readers of one text, of which one knows more fields and the other passes over them. -/

namespace ChatOptions

open Interpolation (Refers)

namespace Json

/-- The members of a text that is an object. -/
def objectMembers? (text : String) : Option (List (Key × Document × Position)) :=
  match (document text.toList).1 with
  | .object _ members _ => some members
  | _ => none

/-- The tree of a text with members is an object of them. -/
theorem document_of_objectMembers? {text : String}
    {members : List (Key × Document × Position)} (object : objectMembers? text = some members) :
    ∃ start ending, (document text.toList).1 = .object start members ending := by
  rw [objectMembers?] at object
  cases tree : (document text.toList).1 with
  | object start parts ending =>
    rw [tree] at object
    cases object
    exact ⟨start, ending, rfl⟩
  | _ =>
    rw [tree] at object
    cases object

end Json

/-- The names of the ten members of a request. -/
def Request.memberNames : List String :=
  ["model", "temperature", "top_p", "max_tokens", "safe_prompt", "random_seed", "response_format",
    "stop", "tools", "tool_choice"]

/-- The names of the members are those of the fields that are read. -/
theorem Request.memberNames_eq {presence : Presence} :
    memberNames = (Request.fields presence : List (Field Json.Reader Request)).map (·.name) := rfl

namespace Config

open Json.Reader

/-- A configuration has the fields of a request and its own, which say nothing of the request. -/
theorem widens_request : Widens record Request.record Config.toRequest
    (fun update config => { config with toRequest := update config.toRequest }) localFields where
  strict := rfl
  lenient := rfl
  spared := by decide
  fields := rfl
  part_update _ _ := rfl
  further_spared := by decide
  further_spelled := by
    intro field listed
    simp only [localFields, List.mem_cons, List.not_mem_nil, or_false] at listed
    rcases listed with rfl | rfl | rfl
    · exact spelled_string.list.map _
    · exact spelled_boolean.optional.map _
    · exact (spelled_heldBack ContentReader.value).members.optional.map _
  part_further := by
    intro field listed depth tree change read whole
    simp only [localFields, List.mem_cons, List.not_mem_nil, or_false] at listed
    rcases listed with rfl | rfl | rfl <;> obtain ⟨_, _, rfl⟩ := map_eq_ok.mp read <;> rfl

end Config

namespace Options

/-- Options from the text of a configuration without references are those that the configuration describes. -/
theorem ofText_json_eq_ok {environment : Environment} {text : String}
    (plain : ∀ name, ¬ Refers text.toList name) {options : Options} :
    ofText environment .json text = .ok options ↔
      ∃ config : Config, Json.Reader.read Config.reader text = .ok config
        ∧ config.toOptions = .ok options := by
  rw [ofText, ofTextAt, (Config.interpolated_replaces environment).plain text plain]
  simp only [bind_eq_ok, mapError_eq_ok, Config.ofText, Except.ok.injEq, exists_eq_left']

/-- Options in wire form are those of the request that is read. -/
theorem ofWireText_eq_ok {text : String} {options : Options} :
    ofWireText text = .ok options ↔
      ∃ request : Request, Json.Reader.read Request.reader text = .ok request
        ∧ ofRequest request = options :=
  Json.Reader.read_map_eq_ok

/--
A configuration in JSON and the wire form agree on every text that is an object and refers to no variable.

What is loaded as a configuration is read as wire form, too, and says the same but for what stays in process.
What is read as wire form is loaded as a configuration with the same meaning if no member is unknown to a request.
-/
theorem readers_agree (environment : Environment) (text : String)
    (plain : ∀ name, ¬ Refers text.toList name) (members : List (Json.Key × Json.Document × Position))
    (object : Json.objectMembers? text = some members) :
    (∀ options, ofText environment .json text = .ok options →
      ofWireText text = .ok options.withoutLocal) ∧
    (∀ options, ofWireText text = .ok options →
      (∀ member ∈ members, ∃ name ∈ Request.memberNames, member.1.name = .ok name) →
      ofText environment .json text = .ok options) := by
  obtain ⟨start, ending, tree⟩ := Json.document_of_objectMembers? object
  constructor
  · intro options load
    obtain ⟨config, read, described⟩ := (ofText_json_eq_ok plain).mp load
    obtain ⟨⟨inner, entered, named⟩, complete⟩ :=
      (Json.Reader.read_record_eq_ok Config.record tree).mp read
    -- The wire form is read as the part of the configuration that is a request.
    have request : Json.Reader.read Request.reader text = .ok config.toRequest :=
      (Json.Reader.read_record_eq_ok Request.record tree).mpr
        ⟨⟨inner, entered, Config.widens_request.named_narrow (fun _ _ _ => Iff.rfl) named⟩, complete⟩
    refine ofWireText_eq_ok.mpr ⟨config.toRequest, request, ?_⟩
    rw [ofRequest, withoutLocal, Config.toRequest_of_toOptions described]
  · intro options sent own
    obtain ⟨request, read, rfl⟩ := ofWireText_eq_ok.mp sent
    obtain ⟨⟨inner, entered, named⟩, complete⟩ :=
      (Json.Reader.read_record_eq_ok Request.record tree).mp read
    have fields : ∀ member ∈ members, ∃ field ∈ (Request.record : Record Json.Reader Request).fields,
        member.1.name = .ok field.name := by
      intro member listed
      obtain ⟨name, among, named⟩ := own member listed
      obtain ⟨field, found, rfl⟩ := List.mem_map.mp (Request.memberNames_eq ▸ among)
      exact ⟨field, found, named⟩
    -- Every member is one of a request, so the configuration says nothing but the request.
    have config : Json.Reader.read Config.reader text = .ok { toRequest := request } :=
      (Json.Reader.read_record_eq_ok Config.record tree).mpr
        ⟨⟨inner, entered, Config.widens_request.named_wide (fun request => { toRequest := request })
          (fun _ _ => rfl) fields named⟩, complete⟩
    refine (ofText_json_eq_ok plain).mpr ⟨_, config, ?_⟩
    rw [Config.toOptions_eq]
    rfl

/-- A configuration with a part that stays in process is read as wire form without it, and a request with a null is loaded as a configuration. -/
theorem readers_agree_example :
    let environment : Environment := fun _ => none
    let loaded := "\x7b\"functions\":[\"f\"],\"model\":\"m\"\x7d"
    let sent := "\x7b\"stop\":[\"end\"],\"max_tokens\":null\x7d"
    (∀ name, ¬ Refers loaded.toList name) ∧ (∀ name, ¬ Refers sent.toList name)
    ∧ ofText environment .json loaded = .ok { model := some "m", functions := .ofNames ["f"] }
    ∧ ofWireText loaded = .ok { model := some "m" }
    ∧ ofWireText sent = .ok { stop := some ["end"] }
    ∧ ofText environment .json sent = .ok { stop := some ["end"] } := by
  -- What each text is read as, and the names in the second, are found by reading it.
  have read : Json.Reader.read Config.reader "\x7b\"functions\":[\"f\"],\"model\":\"m\"\x7d"
      = .ok { model := some "m", functions := ["f"] } := by cbv
  have send : ofWireText "\x7b\"stop\":[\"end\"],\"max_tokens\":null\x7d"
      = .ok { stop := some ["end"] } := by cbv
  have object : (Json.objectMembers? "\x7b\"functions\":[\"f\"],\"model\":\"m\"\x7d").isSome
      = true := by cbv
  have names : (Json.objectMembers? "\x7b\"stop\":[\"end\"],\"max_tokens\":null\x7d").map
      (·.map (·.1.name)) = some [.ok "stop", .ok "max_tokens"] := by cbv
  intro environment loaded sent
  have loadedPlain : ∀ name, ¬ Refers loaded.toList name :=
    Interpolation.no_references_of_not_mem (by decide)
  have sentPlain : ∀ name, ¬ Refers sent.toList name :=
    Interpolation.no_references_of_not_mem (by decide)
  have load : ofText environment .json loaded
      = .ok { model := some "m", functions := .ofNames ["f"] } := by
    refine (ofText_json_eq_ok loadedPlain).mpr ⟨_, read, ?_⟩
    rw [Config.toOptions_eq]
    rfl
  obtain ⟨members, object⟩ := Option.isSome_iff_exists.mp object
  obtain ⟨sentMembers, sentObject, listed⟩ := Option.map_eq_some_iff.mp names
  refine ⟨loadedPlain, sentPlain, load,
    (readers_agree environment loaded loadedPlain members object).1 _ load, send,
    (readers_agree environment sent sentPlain sentMembers sentObject).2 _ send ?_⟩
  -- Both members of the second text are members of a request.
  intro member found
  have named : member.1.name ∈ [.ok "stop", .ok "max_tokens"] :=
    listed ▸ List.mem_map_of_mem found
  simp only [List.mem_cons, List.not_mem_nil, or_false] at named
  rcases named with named | named <;> exact ⟨_, by decide, named⟩

end Options

end ChatOptions
