import ChatOptions.Proofs.Config.Agreement
import ChatOptions.Proofs.Json.Layout
import ChatOptions.Proofs.Json.Order

/-! Reading options does not depend on the order in which members come. -/

namespace ChatOptions

open Interpolation (Refers)
open Json (Spelling TextLiteral)
open OrderFormat (Orderless)

section Parts

variable {D : Type → Type} [Format D] [OrderFormat D] [LawfulOrder D]

/-- A schema is read from its members in any order. -/
theorem NamedSchema.orderless : Orderless Eq (NamedSchema.reader : D NamedSchema) := by
  refine LawfulOrder.record ?_ ?_
  · intro field listed
    simp only [List.mem_cons, List.not_mem_nil, or_false] at listed
    rcases listed with rfl | rfl | rfl | rfl
    · exact Field.orderless_present LawfulOrder.string
    · exact Field.orderless_optional LawfulOrder.string
    · exact Field.orderless_present LawfulOrder.value
    · exact Field.orderless_optional LawfulOrder.boolean
  · -- Each field puts something else into the schema.
    simp only [List.pairwise_cons, List.forall_mem_cons, List.not_mem_nil,
      false_imp_iff, implies_true, List.Pairwise.nil, and_true]
    and_intros <;> exact Field.apart_map fun _ _ _ => rfl

/-- A function is read from its members in any order. -/
theorem FunctionDefinition.orderless :
    Orderless Eq (FunctionDefinition.reader : D FunctionDefinition) := by
  refine LawfulOrder.record ?_ ?_
  · intro field listed
    simp only [List.mem_cons, List.not_mem_nil, or_false] at listed
    rcases listed with rfl | rfl | rfl
    · exact Field.orderless_present LawfulOrder.string
    · exact Field.orderless_optional LawfulOrder.string
    · exact Field.orderless_present LawfulOrder.value
  · simp only [List.pairwise_cons, List.forall_mem_cons, List.not_mem_nil,
      false_imp_iff, implies_true, List.Pairwise.nil, and_true]
    and_intros <;> exact Field.apart_map fun _ _ _ => rfl

/-- A kind of tool is read without regard to order. -/
theorem ToolKind.orderless : Orderless Eq (ToolKind.reader : D ToolKind) := LawfulOrder.choice _

/-- A tool is read from its members in any order. -/
theorem Tool.orderless : Orderless Eq (Tool.reader : D Tool) := by
  refine LawfulOrder.record ?_ ?_
  · intro field listed
    simp only [List.mem_cons, List.not_mem_nil, or_false] at listed
    rcases listed with rfl | rfl
    · exact Field.orderless_present ToolKind.orderless
    · exact Field.orderless_present FunctionDefinition.orderless
  · simp only [List.pairwise_cons, List.forall_mem_cons, List.not_mem_nil,
      false_imp_iff, implies_true, List.Pairwise.nil, and_true]
    exact Field.apart_map fun _ _ _ => rfl

/-- A function that has to be called is read from its members in any order. -/
theorem FunctionChoice.orderless : Orderless Eq (FunctionChoice.reader : D FunctionChoice) := by
  refine LawfulOrder.record ?_ ?_
  · intro field listed
    cases List.mem_singleton.mp listed
    exact Field.orderless_present LawfulOrder.string
  · exact List.pairwise_singleton _ _

end Parts

namespace ToolChoice

/-- The two parts of the choice of a function are read in any order. -/
theorem orderless_functionRecord : Orderless Eq (ContentReader.record functionRecord) := by
  refine LawfulOrder.record (D := ContentReader) ?_ ?_
  · intro field listed
    simp only [functionRecord, List.mem_cons, List.not_mem_nil, or_false] at listed
    rcases listed with rfl | rfl
    · exact Field.orderless_present ToolKind.orderless
    · exact Field.orderless_present FunctionChoice.orderless
  · simp only [functionRecord, List.pairwise_cons, List.forall_mem_cons, List.not_mem_nil,
      false_imp_iff, implies_true, List.Pairwise.nil, and_true]
    exact Field.apart_map fun _ _ _ => rfl

/-- The choice of a function is read from its members in any order. -/
theorem orderless_function : Orderless Eq functionReader := by
  intro content other alike
  cases alike with
  | same => exact .refl (fun _ => rfl) _
  | sequence => exact .error
  | map each distinct shuffled =>
    have parts := orderless_functionRecord _ _ (.map each distinct shuffled)
    exact parts.bind fun held other same => .ok (by rw [same])

/-- A choice is read alike, whichever of its shapes fits. -/
theorem orderless_content : Orderless Eq contentReader := by
  intro content other alike
  have mode : SameOutcome Eq ((ToolChoiceMode.reader : ContentReader ToolChoiceMode) content)
      ((ToolChoiceMode.reader : ContentReader ToolChoiceMode) other) :=
    ContentReader.choice_alike ToolChoiceMode.choices content other alike
  have function := orderless_function content other alike
  unfold contentReader
  -- The second shape is tried of both contents or of neither.
  generalize (ToolChoiceMode.reader : ContentReader ToolChoiceMode) content = first at mode ⊢
  generalize (ToolChoiceMode.reader : ContentReader ToolChoiceMode) other = second at mode ⊢
  cases mode with
  | ok same => exact .ok (congrArg ToolChoice.mode same)
  | error =>
    generalize functionReader content = first at function ⊢
    generalize functionReader other = second at function ⊢
    cases function with
    | ok same => exact .ok same
    | error => exact .error

end ToolChoice

namespace ResponseFormat

/-- What there is besides the kind of an output shape is read in any order. -/
theorem orderless_further (kind : Kind) : Orderless Eq (further kind) := by
  intro content other alike
  have nothing := ContentReader.noFurther_alike content other alike
  cases kind with
  | text => exact nothing.bind fun _ _ _ => .ok rfl
  | jsonObject => exact nothing.bind fun _ _ _ => .ok rfl
  | jsonSchema =>
    have schema : Orderless Eq (ContentReader.record schemaRecord) := by
      refine LawfulOrder.record (D := ContentReader) ?_ (List.pairwise_singleton _ _)
      intro field listed
      cases List.mem_singleton.mp listed
      exact Field.orderless_present NamedSchema.orderless
    exact (schema content other alike).bind fun held other same =>
      .ok (congrArg ResponseFormat.jsonSchema same)

end ResponseFormat

namespace Request

open Json.Reader

/-- A double is read without regard to order. -/
theorem orderless_double : Orderless Eq (DocumentFormat.double : Json.Reader Double) :=
  LawfulOrder.map float_alike fun _ _ same => by rw [same]

/-- The fields of a request do not mind the order of members. -/
theorem orderless_fields (presence : Presence) :
    ∀ field ∈ (fields presence : List (Field Json.Reader Request)), Orderless Eq field.read := by
  intro field listed
  simp only [fields, List.mem_cons, List.not_mem_nil, or_false] at listed
  rcases listed with rfl | rfl | rfl | rfl | rfl | rfl | rfl | rfl | rfl | rfl
  · exact Field.orderless_optional LawfulOrder.string
  · exact Field.orderless_optional orderless_double
  · exact Field.orderless_optional orderless_double
  · exact Field.orderless_optional (LawfulOrder.map (natural_alike _ _) fun _ _ same => by rw [same])
  · exact Field.orderless_optional LawfulOrder.boolean
  · exact Field.orderless_optional (LawfulOrder.map (natural_alike _ _) fun _ _ same => by rw [same])
  · exact Field.orderless_optional (tagged_alike ResponseFormat.orderless_further)
  · exact Field.orderless_optional (list_alike LawfulOrder.string)
  · exact Field.orderless_optional (list_alike Tool.orderless)
  · exact Field.orderless_optional (heldBack_alike ToolChoice.orderless_content)

/-- The fields of a request are apart. -/
theorem apart_fields (presence : Presence) :
    (fields presence : List (Field Json.Reader Request)).Pairwise Field.Apart := by
  -- Each field puts something else into the request.
  simp only [fields, List.pairwise_cons, List.forall_mem_cons, List.not_mem_nil,
    false_imp_iff, implies_true, List.Pairwise.nil, and_true]
  and_intros <;> exact Field.apart_map fun _ _ _ => rfl

/-- A request is read from its members in any order. -/
theorem orderless : Orderless Eq (Request.reader : Json.Reader Request) :=
  LawfulOrder.record (orderless_fields .optional) (apart_fields .optional)

end Request

namespace Config

open Json.Reader

/-- The fields that only a configuration has do not mind the order of members. -/
theorem orderless_localFields :
    ∀ field ∈ (localFields : List (Field Json.Reader Config)), Orderless Eq field.read := by
  intro field listed
  simp only [localFields, List.mem_cons, List.not_mem_nil, or_false] at listed
  rcases listed with rfl | rfl | rfl
  · exact Field.orderless_present (list_alike LawfulOrder.string)
  · exact Field.orderless_optional LawfulOrder.boolean
  · refine LawfulOrder.map (LawfulOrder.optional (members_alike LawfulOrder.value)) ?_
    -- The entries of a context may come in any order, as no key comes twice.
    intro entries others same
    cases same with
    | none => rfl
    | some same =>
      obtain ⟨order, rfl | distinct⟩ := same
      · rfl
      · simp only [Option.map_some, SortedMap.ofList_perm order distinct]

/-- The fields of a configuration are apart. -/
theorem apart_fields : (record : Record Json.Reader Config).fields.Pairwise Field.Apart := by
  refine List.pairwise_append.mpr ⟨List.pairwise_map.mpr ?_, ?_, ?_⟩
  · -- Fields of the request change the request, and are apart there.
    exact (Request.apart_fields .defaulted).imp fun apart =>
      Field.apart_within (fun _ _ _ => rfl) apart
  · simp only [localFields, List.pairwise_cons, List.forall_mem_cons, List.not_mem_nil,
      false_imp_iff, implies_true, List.Pairwise.nil, and_true]
    and_intros <;> exact Field.apart_map fun _ _ _ => rfl
  · -- The others leave the request alone.
    intro field shared other further
    obtain ⟨inner, _, rfl⟩ := List.mem_map.mp shared
    simp only [localFields, List.mem_cons, List.not_mem_nil, or_false] at further
    rcases further with rfl | rfl | rfl <;> exact Field.apart_map fun _ _ _ => rfl

/-- A configuration is read from its members in any order. -/
theorem orderless : Orderless Eq (Config.reader : Json.Reader Config) := by
  have each : ∀ field ∈ (record : Record Json.Reader Config).fields, Orderless Eq field.read := by
    intro field listed
    rcases List.mem_append.mp listed with shared | further
    · obtain ⟨inner, among, rfl⟩ := List.mem_map.mp shared
      exact Field.orderless_within (Request.orderless_fields .defaulted inner among)
    · exact orderless_localFields field further
  exact LawfulOrder.record each apart_fields

end Config

/-- What does not mind the order of members is read alike from texts that differ only in it, and in blanks. -/
theorem Json.Reader.read_rearranged {α : Type} {reader : Json.Reader α}
    (orderless : Orderless Eq reader) {first second : String}
    (rearranged : Json.Rearranged first second) :
    SameOutcome Eq (Json.Reader.read reader first) (Json.Reader.read reader second) := by
  obtain ⟨whole, other, alike, parsed, parsed'⟩ := Json.document_rearranged rearranged
  have same := orderless Json.depthLimit whole other alike
  -- Nothing is left over behind either, so a text is read just where its document is.
  refine .of_eq_ok_iff fun value => ?_
  simp only [read_eq_ok, parsed, parsed', same.eq_ok_iff]

namespace Options

/--
Reading does not depend on the order of members.

Texts that differ only in the order of members, at any level, and in blanks are either both refused or
both read as the same options, as a configuration and as wire form.
-/
theorem reading_ignores_order (environment : Environment) {first second : String}
    (rearranged : Json.Rearranged first second) (plain : ∀ name, ¬ Refers first.toList name)
    (alsoPlain : ∀ name, ¬ Refers second.toList name) :
    SameOutcome Eq (ofText environment .json first) (ofText environment .json second) ∧
      SameOutcome Eq (ofWireText first) (ofWireText second) := by
  have config := Json.Reader.read_rearranged Config.orderless rearranged
  have request := Json.Reader.read_rearranged Request.orderless rearranged
  constructor
  · refine .of_eq_ok_iff fun options => ?_
    simp only [ofText_json_eq_ok plain, ofText_json_eq_ok alsoPlain, config.eq_ok_iff]
  · refine .of_eq_ok_iff fun options => ?_
    simp only [ofWireText_eq_ok, request.eq_ok_iff]

/-- The kind of an output shape comes first in one text and last in the other, and two members of its schema change places. -/
theorem reading_ignores_order_example :
    let environment : Environment := fun _ => none
    let first := "\x7b\"response_format\":\x7b\"type\":\"json_schema\",\"json_schema\":\x7b\"name\":\"s\",\"schema\":\x7b\"a\":true,\"b\":null\x7d\x7d\x7d\x7d"
    let second := " \x7b \"response_format\" : \x7b \"json_schema\" : \x7b \"schema\" : \x7b \"b\" : null , \"a\" : true \x7d , \"name\" : \"s\" \x7d , \"type\" : \"json_schema\" \x7d \x7d "
    let schema : Value := .ofJson (.object [("a", .bool true), ("b", .null)])
    let options : Options := { responseFormat := some (.jsonSchema ⟨"s", none, schema, none⟩) }
    Json.Rearranged first second
    ∧ (∀ name, ¬ Refers first.toList name) ∧ (∀ name, ¬ Refers second.toList name)
    ∧ ofText environment .json first = .ok options ∧ ofText environment .json second = .ok options
    ∧ ofWireText first = .ok options ∧ ofWireText second = .ok options := by
  intro environment first second schema options
  let kind : TextLiteral := ⟨"type".toList, .of_plain (by decide)⟩
  let shape : TextLiteral := ⟨"json_schema".toList, .of_plain (by decide)⟩
  let format : TextLiteral := ⟨"response_format".toList, .of_plain (by decide)⟩
  let name : TextLiteral := ⟨"name".toList, .of_plain (by decide)⟩
  let parts : TextLiteral := ⟨"schema".toList, .of_plain (by decide)⟩
  let a : TextLiteral := ⟨"a".toList, .of_plain (by decide)⟩
  let b : TextLiteral := ⟨"b".toList, .of_plain (by decide)⟩
  let s : TextLiteral := ⟨"s".toList, .of_plain (by decide)⟩
  let inner : Spelling := .object [(a, .bool true), (b, .null)]
  let inner' : Spelling := .object [(b, .null), (a, .bool true)]
  let spelling : Spelling := .object [(format, .object
    [(kind, .text shape), (shape, .object [(name, .text s), (parts, inner)])])]
  let other : Spelling := .object [(format, .object
    [(shape, .object [(parts, inner'), (name, .text s)]), (kind, .text shape)])]
  -- The first text has no blanks, and the second a space in front of each token and behind them all.
  have compact : first.toList = spelling.pieces.flatMap ([] ++ ·) ++ [] := by decide +kernel
  have spaced : second.toList = other.pieces.flatMap ([' '] ++ ·) ++ [' '] := by decide +kernel
  have rearranged : Json.Rearranged first second := by
    refine ⟨spelling, other, compact ▸ .spread (by decide) _, spaced ▸ .spread (by decide) _, ?_,
      by decide +kernel⟩
    -- Two members change places in each of the three objects inside.
    have swapped : inner.Reordered inner' := .object (.cons .bool (.cons .null .nil)) (.swap ..)
    have named : (Spelling.object [(name, .text s), (parts, inner)]).Reordered
        (.object [(parts, inner'), (name, .text s)]) :=
      .object (.cons .text (.cons swapped .nil)) (.swap ..)
    exact .object (.cons (.object (.cons .text (.cons named .nil)) (.swap ..)) .nil) (.refl _)
  have plain : ∀ name, ¬ Refers first.toList name :=
    Interpolation.no_references_of_not_mem (by rw [compact]; decide +kernel)
  have alsoPlain : ∀ name, ¬ Refers second.toList name :=
    Interpolation.no_references_of_not_mem (by rw [spaced]; decide +kernel)
  -- Only the first text is read; what the second is read as follows.
  obtain ⟨config, wire⟩ := reading_ignores_order environment rearranged plain alsoPlain
  have read : Json.Reader.read Config.reader first
      = .ok { responseFormat := some (.jsonSchema ⟨"s", none, schema, none⟩) } := by
    simp only [first, schema]
    cbv
  have sent : ofWireText first = .ok options := by
    simp only [first, options, schema]
    cbv
  have load : ofText environment .json first = .ok options := by
    refine (ofText_json_eq_ok plain).mpr ⟨_, read, ?_⟩
    rw [Config.toOptions_eq]
    rfl
  exact ⟨rearranged, plain, alsoPlain, load, (config.eq_ok_iff options).mp load, sent,
    (wire.eq_ok_iff options).mp sent⟩

end Options

end ChatOptions
