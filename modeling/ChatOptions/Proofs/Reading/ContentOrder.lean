import ChatOptions.Proofs.Json.Reader
import ChatOptions.Proofs.Reading.Order

/-! Readers of content held back do not mind the order of its entries. -/

namespace ChatOptions

open OrderFormat (Yields Orderless)

namespace Content

mutual

/-- Contents that differ in the order of entries only: at every level the entries of a map may come in another order, if their keys are distinct. -/
inductive Alike : Content → Content → Prop
  | same {content} : Alike content content
  | sequence {items others} (each : ItemsAlike items others) :
    Alike (.sequence items) (.sequence others)
  | map {entries placed others} (each : EntriesAlike entries placed)
    (distinct : placed = others ∨ (placed.map Prod.fst).Nodup) (shuffled : placed.Perm others) :
    Alike (.map entries) (.map others)

/-- Items that are alike one by one. -/
inductive ItemsAlike : List Content → List Content → Prop
  | nil : ItemsAlike [] []
  | cons {item other items others} (first : Alike item other) (rest : ItemsAlike items others) :
    ItemsAlike (item :: items) (other :: others)

/-- Entries that have the same keys, and are alike one by one. -/
inductive EntriesAlike : List (Content × Content) → List (Content × Content) → Prop
  | nil : EntriesAlike [] []
  | cons {name value other entries others} (first : Alike value other)
    (rest : EntriesAlike entries others) :
    EntriesAlike ((.string name, value) :: entries) ((.string name, other) :: others)

end

/-- Only a text is a key where a text is expected. -/
theorem keyText_eq_ok {key : Content} {expected name : String} :
    key.keyText expected = .ok name ↔ key = .string name := by
  cases key <;> simp [keyText]

/-- The members that entries make, one by one. -/
theorem entriesToJson_eq_ok {expected : String} {entries : List (Content × Content)}
    {members : List (String × Json)} : entriesToJson expected entries = .ok members ↔
      List.Forall₂ (fun entry member => entry.1 = .string member.1 ∧ entry.2.toJson = .ok member.2)
        entries members := by
  -- Behind the first key another wording is used of what is expected, so the wording is left open.
  induction entries generalizing expected members with
  | nil =>
    rw [entriesToJson, List.forall₂_nil_left_iff, Except.ok.injEq]
    exact eq_comm
  | cons entry rest ih =>
    obtain ⟨key, value⟩ := entry
    simp only [entriesToJson, bind_eq_ok, keyText_eq_ok, ih]
    constructor
    · rintro ⟨name, named, tree, valued, behind, others, made⟩
      cases made
      exact .cons ⟨named, valued⟩ others
    · intro each
      cases each with
      | @cons _ member _ behind here others =>
        exact ⟨member.1, here.1, member.2, here.2, behind, others, rfl⟩

/-- Members that entries with distinct keys make have distinct names. -/
theorem names_distinct {entries : List (Content × Content)} {members : List (String × Json)}
    (made : List.Forall₂ (fun entry member => entry.1 = Content.string member.1
      ∧ entry.2.toJson = .ok member.2) entries members)
    (distinct : (entries.map Prod.fst).Nodup) : (members.map Prod.fst).Nodup := by
  have keys : entries.map Prod.fst = (members.map Prod.fst).map Content.string := by
    induction made with
    | nil => rfl
    | cons here _ ih =>
      rw [List.map_cons, here.1, ih (List.nodup_cons.mp distinct).2]
      rfl
  rw [keys] at distinct
  exact distinct.of_map _

/-- Entries make the same members in another order, if their keys are distinct. -/
theorem entriesToJson_perm {entries others : List (Content × Content)} (expected : String)
    (shuffled : entries.Perm others) (distinct : entries = others ∨ (entries.map Prod.fst).Nodup) :
    SameOutcome (fun members others => (Json.object members).sorted = (Json.object others).sorted)
      (entriesToJson expected entries) (entriesToJson expected others) := by
  rcases distinct with rfl | distinct
  · exact .refl (fun members => Eq.refl (Json.object members).sorted) _
  have moved : SameOutcome List.Perm (entriesToJson expected entries)
      (entriesToJson expected others) :=
    .perm (fun _ _ => entriesToJson_eq_ok) shuffled
  refine moved.imp fun members others made _ order => ?_
  exact Json.sorted_object_perm order (names_distinct (entriesToJson_eq_ok.mp made) distinct)

mutual

/-- Contents that are alike make trees that are the same when sorted. -/
theorem toJson_alike : ∀ {content other : Content}, Alike content other →
    SameOutcome (fun tree other => tree.sorted = other.sorted) content.toJson other.toJson
  | content, _, .same => .refl (fun tree => Eq.refl tree.sorted) content.toJson
  | _, _, .sequence each => by
    rw [toJson, toJson]
    refine (itemsToJson_alike each).bind fun trees others same => .ok ?_
    rw [Json.sorted, Json.sorted, same]
  | _, _, .map each distinct shuffled => by
    rw [toJson, toJson]
    -- The entries are alike in their places, and then put into another order.
    have inPlace := entriesToJson_alike "a string key" each
    have moved := entriesToJson_perm "a string key" shuffled distinct
    have whole : SameOutcome
        (fun members others => (Json.object members).sorted = (Json.object others).sorted) _ _ :=
      inPlace.trans moved fun members placed others same order => by
        rw [← order, Json.sorted_object, Json.sorted_object, same]
    exact whole.bind fun members others same => .ok same

/-- Items that are alike make trees that are the same when sorted. -/
theorem itemsToJson_alike : ∀ {items others : List Content}, ItemsAlike items others →
    SameOutcome (fun trees others => Json.sortedItems trees = Json.sortedItems others)
      (itemsToJson items) (itemsToJson others)
  | _, _, .nil => .ok rfl
  | _, _, .cons first rest => by
    rw [itemsToJson, itemsToJson]
    refine (toJson_alike first).bind fun tree other same => ?_
    refine (itemsToJson_alike rest).bind fun trees others sames => .ok ?_
    rw [Json.sortedItems, Json.sortedItems, same, sames]

/-- Entries that are alike make members that are the same when sorted. -/
theorem entriesToJson_alike : ∀ {entries others : List (Content × Content)} (expected : String),
    EntriesAlike entries others →
    SameOutcome (fun members others => members.map Json.sortedMember = others.map Json.sortedMember)
      (entriesToJson expected entries) (entriesToJson expected others)
  | _, _, _, .nil => .ok rfl
  | _, _, _, .cons first rest => by
    rw [entriesToJson, entriesToJson]
    refine (toJson_alike first).bind fun tree other same => ?_
    refine (entriesToJson_alike "a string" rest).bind fun trees others sames => .ok ?_
    rw [List.map_cons, List.map_cons, sames, Json.sortedMember, Json.sortedMember, same]

end

end Content

namespace ContentReader

open Content

variable {σ : Type}

/-- The effect of an entry on a record. -/
def entryEffect (record : Record ContentReader σ) (entry : Content × Content) : Effect σ :=
  match keyName record entry.1 with
  | .error _ => .refused
  | .ok none => .passed
  | .ok (some name) =>
    -- Content carries no places, so any of it can be passed over.
    record.effect name (.ok () : Except Refusal Unit) fun field => field.read entry.2

/-- An entry is passed over if it is of no field, and otherwise read into its field, which must not have been seen; the other entries are read from there. -/
theorem named_cons_eq_ok {record : Record ContentReader σ} {key value : Content}
    {rest : List (Content × Content)} {seen : List String} {state final : σ} {name : String}
    (known : keyName record key = .ok (some name)) :
    named record ((key, value) :: rest) seen state = .ok final ↔
      (record.find name = .ok none ∧ named record rest seen state = .ok final) ∨
        ∃ field update, record.find name = .ok (some field) ∧ name ∉ seen ∧
          field.read value = .ok update ∧
          named record rest (name :: seen) (update state) = .ok final := by
  rw [named, known]
  -- The steps are taken one by one, and each that fails ends the reading.
  cases found : record.find name with
  | error refusal => simp [bind, Except.bind, found]
  | ok field =>
    cases field with
    | none => simp [bind, Except.bind, found]
    | some field =>
      by_cases again : name ∈ seen
      · simp [bind, Except.bind, found, Record.once, again]
      · cases read : field.read value <;>
          simp [bind, Except.bind, found, Record.once, again, read]

/-- A record is read from entries as their effects make it. -/
theorem named_eq_ok {record : Record ContentReader σ} {entries : List (Content × Content)}
    {seen : List String} {state final : σ} : named record entries seen state = .ok final ↔
      record.Made (entries.map (entryEffect record)) seen state final := by
  -- The names seen and the record change with every entry, so both are left open.
  induction entries generalizing seen state with
  | nil => exact Record.Made.nil_iff.symm
  | cons entry rest ih =>
    obtain ⟨key, value⟩ := entry
    rw [List.map_cons, entryEffect]
    cases known : keyName record key with
    | error refusal => simp [named, known, bind, Except.bind, Record.Made.not_refused]
    | ok name =>
      cases name with
      | none => simp [named, known, bind, Except.bind, Record.Made.passed_iff, ih]
      | some name => simp only [named_cons_eq_ok known, Record.Made.effect_iff, ih, true_and]

instance : OrderFormat ContentReader where
  Yields reader value := ∃ content, reader content = .ok value
  Orderless related reader :=
    ∀ content other, content.Alike other → SameOutcome related (reader content) (reader other)

/-- Entries that are alike have the same effects on a record whose fields do not mind the order of entries. -/
theorem map_entryEffect {record : Record ContentReader σ}
    (orderless : ∀ field ∈ record.fields, Orderless Eq field.read) :
    ∀ {entries others : List (Content × Content)}, EntriesAlike entries others →
      entries.map (entryEffect record) = others.map (entryEffect record)
  | _, _, .nil => rfl
  | _, _, @EntriesAlike.cons name value other entries others first rest => by
    have passes : SameOutcome Eq (.ok () : Except Refusal Unit) (.ok () : Except Refusal Unit) :=
      .ok rfl
    have here : entryEffect record (.string name, value) = entryEffect record (.string name, other) :=
      Record.effect_congr passes fun field listed => orderless field listed value other first
    rw [List.map_cons, List.map_cons, here, map_entryEffect orderless rest]

/-- A change that an entry makes is one that a field yields. -/
theorem yields_of_entryEffect {record : Record ContentReader σ} {entries : List (Content × Content)}
    {name : String} {update : σ → σ}
    (changed : .change name update ∈ entries.map (entryEffect record)) :
    ∃ field ∈ record.fields, field.name = name ∧ Yields field.read update := by
  obtain ⟨⟨key, value⟩, _, effect⟩ := List.mem_map.mp changed
  unfold entryEffect at effect
  split at effect
  · cases effect
  · cases effect
  · obtain ⟨field, listed, named, read⟩ := Record.field_of_effect effect
    exact ⟨field, listed, named, value, read⟩

/-- A record is read alike from entries that are alike, in any order. -/
theorem named_alike {record : Record ContentReader σ}
    (orderless : ∀ field ∈ record.fields, Orderless Eq field.read)
    (apart : record.fields.Pairwise Field.Apart) {entries placed others : List (Content × Content)}
    (each : EntriesAlike entries placed) (shuffled : placed.Perm others) :
    SameOutcome Eq (named record entries [] record.blank) (named record others [] record.blank) := by
  have effects := shuffled.map (entryEffect record)
  refine SameOutcome.of_eq_ok_iff fun final => ?_
  rw [named_eq_ok, named_eq_ok, map_entryEffect orderless each]
  constructor
  · intro made
    exact made.perm_of_apart apart effects fun _ _ changed => yields_of_entryEffect changed
  · intro made
    exact made.perm_of_apart apart effects.symm fun _ _ changed => yields_of_entryEffect changed

/-- The fields of a record are read alike from items that are alike. -/
theorem listed_alike (record : Record ContentReader σ) {fields : List (Field ContentReader σ)}
    (orderless : ∀ field ∈ fields, Orderless Eq field.read) {items others : List Content}
    (each : ItemsAlike items others) (place : Nat) (state : σ) :
    SameOutcome Eq (listed record fields items place state)
      (listed record fields others place state) := by
  -- The fields say how many items are read, so the induction follows them and not the items.
  induction fields generalizing items others place state with
  | nil =>
    cases each with
    | nil => exact .ok rfl
    | cons => exact .error
  | cons field fields ih =>
    cases each with
    | nil => exact .refl (fun _ => rfl) _
    | cons first rest =>
      have here := orderless field List.mem_cons_self _ _ first
      rw [listed, listed]
      refine here.bind fun update other same => ?_
      rw [same]
      exact ih (fun field listed => orderless field (List.mem_cons_of_mem _ listed)) rest _ _

/-- A choice is read alike from contents that are alike. -/
theorem choice_alike {α : Type} (choices : List (String × α)) : Orderless Eq (choice choices) := by
  intro content other alike
  cases alike with
  | same => exact .refl (fun _ => rfl) _
  | sequence => exact .error
  | @map entries placed others each distinct shuffled =>
    cases each with
    | nil =>
      rw [List.nil_perm.mp shuffled]
      exact .error
    | cons first rest =>
      cases rest with
      | nil =>
        -- There is one entry, and nothing to be put into another order.
        cases List.singleton_perm.mp shuffled
        refine SameOutcome.bind (.refl (fun _ => rfl) _) fun chosen other same => ?_
        rw [same]
        cases first with
        | same => exact .refl (fun _ => rfl) _
        | sequence => exact .error
        | map => exact .error
      | cons second more =>
        -- More than one entry names no choice, in whatever order.
        obtain ⟨key, value, key', value', behind, rfl⟩ : ∃ key value key' value' behind,
            others = (key, value) :: (key', value') :: behind := by
          match others, shuffled.length_eq with
          | (key, value) :: (key', value') :: behind, _ => exact ⟨key, value, key', value', behind, rfl⟩
        exact .error

instance : LawfulOrder ContentReader where
  yields_map {α β f reader value} yields := by
    obtain ⟨content, read⟩ := yields
    obtain ⟨held, inner, made⟩ := map_eq_ok.mp read
    exact ⟨held, ⟨content, inner⟩, made⟩
  map {α β related others f reader} orderless made := by
    intro content other alike
    exact (orderless content other alike).map made
  -- A text or a truth value has no parts, so it is alike to itself only.
  string := by
    intro content other alike
    cases alike with
    | same => exact .refl (fun _ => rfl) _
    | _ => exact .error
  boolean := by
    intro content other alike
    cases alike with
    | same => exact .refl (fun _ => rfl) _
    | _ => exact .error
  value := by
    intro content other alike
    exact (Content.toJson_alike alike).map fun tree other same => Value.ofJson_congr same
  optional {α related reader} orderless := by
    intro content other alike
    have here := orderless content other alike
    have present : SameOutcome (Option.Rel related) ((reader content).map some)
        ((reader other).map some) := here.map fun _ _ same => .some same
    -- Nothing is alike to nothing only.
    cases alike with
    | @same content =>
      cases content with
      | nothing => exact .ok .none
      | _ => exact present
    | _ => exact present
  choice choices := choice_alike choices
  record {σ record} orderless apart := by
    intro content other alike
    cases alike with
    | same => exact .refl (fun _ => rfl) _
    | sequence each => exact listed_alike record orderless each 0 record.blank
    | map each distinct shuffled => exact named_alike orderless apart each shuffled

/-- Where there is nothing more to a choice, nothing more is accepted in any order. -/
theorem noFurther_alike : Orderless Eq noFurther := by
  intro content other alike
  cases alike with
  | same => exact .refl (fun _ => rfl) _
  | sequence each =>
    cases each with
    | nil => exact .ok rfl
    | cons => exact .error
  | map => exact .ok rfl

end ContentReader

end ChatOptions
