import Mathlib.Data.List.Nodup
import Mathlib.Data.List.Pairwise
import Mathlib.Data.List.Perm.Basic
import ChatOptions.Reading.Format

/-! What it takes that a typed reader does not mind the order in which members come, whatever the format. -/

namespace ChatOptions

/-- Two attempts with the same outcome: both fail, or both succeed with values that are related. -/
inductive SameOutcome {ε δ α β : Type} (related : α → β → Prop) : Except ε α → Except δ β → Prop
  | ok {first second} (same : related first second) :
    SameOutcome related (.ok first) (.ok second)
  | error {fault other} : SameOutcome related (.error fault) (.error other)

namespace SameOutcome

variable {ε δ α β γ κ : Type} {related : α → β → Prop} {others : γ → κ → Prop}

/-- An attempt has the outcome that it has. -/
theorem refl {reflexive : α → α → Prop} (itself : ∀ value, reflexive value value)
    (result : Except ε α) : SameOutcome reflexive result result := by
  cases result with
  | ok value => exact .ok (itself value)
  | error fault => exact .error

/-- Attempts that never succeed have the same outcome. -/
theorem of_no_success {first : Except ε α} {second : Except δ β}
    (none : ∀ value, first ≠ .ok value) (noOther : ∀ value, second ≠ .ok value) :
    SameOutcome related first second := by
  cases first with
  | ok value => exact absurd rfl (none value)
  | error fault =>
    cases second with
    | ok value => exact absurd rfl (noOther value)
    | error other => exact .error

/-- Attempts that succeed with the same values have the same outcome. -/
theorem of_eq_ok_iff {first : Except ε α} {second : Except δ α}
    (same : ∀ value, first = .ok value ↔ second = .ok value) : SameOutcome Eq first second := by
  cases first with
  | ok value =>
    rw [(same value).mp rfl]
    exact .ok rfl
  | error fault =>
    refine of_no_success (fun value succeeds => ?_) fun value succeeds => ?_
    · cases succeeds
    · cases (same value).mpr succeeds

/-- Attempts with the same outcome succeed with the same values. -/
theorem eq_ok_iff {first : Except ε α} {second : Except δ α}
    (same : SameOutcome Eq first second) (value : α) :
    first = .ok value ↔ second = .ok value := by
  cases same with
  | ok equal => rw [equal, Except.ok.injEq, Except.ok.injEq]
  | error => simp

/-- Attempts with the same outcome have the same value, or both none. -/
theorem toOption_eq {first : Except ε α} {second : Except δ α}
    (same : SameOutcome Eq first second) : first.toOption = second.toOption := by
  cases same with
  | ok equal => rw [equal]; rfl
  | error => rfl

/-- Where attempts have the same outcome, one succeeds with what the other does, up to what relates them. -/
theorem of_ok {first : α} {result : Except δ β}
    (same : SameOutcome related (.ok first : Except ε α) result) :
    ∃ second, result = .ok second ∧ related first second := by
  cases same with
  | ok equal => exact ⟨_, rfl, equal⟩

/-- What relates values may say more of them, if it follows for values that the attempts come to. -/
theorem imp {also : α → β → Prop} {first : Except ε α} {second : Except δ β}
    (same : SameOutcome related first second)
    (implies : ∀ value other, first = .ok value → second = .ok other → related value other →
      also value other) : SameOutcome also first second := by
  cases same with
  | ok equal => exact .ok (implies _ _ rfl rfl equal)
  | error => exact .error

/-- What is made of related values has the same outcome. -/
theorem map {f : α → γ} {g : β → κ} {first : Except ε α} {second : Except δ β}
    (same : SameOutcome related first second)
    (made : ∀ value other, related value other → others (f value) (g other)) :
    SameOutcome others (first.map f) (second.map g) := by
  cases same with
  | ok equal => exact .ok (made _ _ equal)
  | error => exact .error

/-- Errors may be replaced. -/
theorem mapError {ζ η : Type} {f : ε → ζ} {g : δ → η} {first : Except ε α} {second : Except δ β}
    (same : SameOutcome related first second) :
    SameOutcome related (first.mapError f) (second.mapError g) := by
  cases same with
  | ok equal => exact .ok equal
  | error => exact .error

/-- Attempts that go on alike from related values have the same outcome. -/
theorem bind {next : α → Except ε γ} {further : β → Except δ κ} {first : Except ε α}
    {second : Except δ β} (same : SameOutcome related first second)
    (behind : ∀ value other, related value other →
      SameOutcome others (next value) (further other)) :
    SameOutcome others (first >>= next) (second >>= further) := by
  cases same with
  | ok equal => exact behind _ _ equal
  | error => exact .error

/-- What relates the values of an attempt to those of a second, and them to those of a third, relates the first to the third. -/
theorem trans {ζ : Type} {composed : α → κ → Prop} {also : β → κ → Prop} {first : Except ε α}
    {second : Except δ β} {third : Except ζ κ} (same : SameOutcome related first second)
    (next : SameOutcome also second third)
    (compose : ∀ value other last, related value other → also other last → composed value last) :
    SameOutcome composed first third := by
  cases same with
  | ok equal =>
    obtain ⟨last, rfl, further⟩ := next.of_ok
    exact .ok (compose _ _ _ equal further)
  | error =>
    cases next
    exact .error

/-- Attempts have the same outcome if what one comes to the other does, too, and the other way about. -/
theorem of_simulation {first : Except ε α} {second : Except δ β}
    (forth : ∀ value, first = .ok value → ∃ other, second = .ok other ∧ related value other)
    (back : ∀ other, second = .ok other → ∃ value, first = .ok value) :
    SameOutcome related first second := by
  cases first with
  | ok value =>
    obtain ⟨other, rfl, same⟩ := forth value rfl
    exact .ok same
  | error fault =>
    refine of_no_success (fun value succeeds => ?_) fun other succeeds => ?_
    · cases succeeds
    · obtain ⟨value, same⟩ := back other succeeds
      cases same

/-- An attempt on the parts of a list, one by one, has the same outcome on a list in another order, but for the order of what it makes. -/
theorem perm {attempt : List γ → Except ε (List β)} {makes : γ → β → Prop}
    (closed : ∀ parts made, attempt parts = .ok made ↔ List.Forall₂ makes parts made)
    {parts shuffled : List γ} (moved : parts.Perm shuffled) :
    SameOutcome List.Perm (attempt parts) (attempt shuffled) := by
  -- What is made of one list is made of the other, in the order of the other.
  have moves : ∀ {parts shuffled : List γ}, parts.Perm shuffled → ∀ made,
      attempt parts = .ok made → ∃ placed, attempt shuffled = .ok placed ∧ made.Perm placed := by
    intro parts shuffled moved made first
    obtain ⟨placed, each, order⟩ :=
      List.perm_comp_forall₂ moved.symm ((closed parts made).mp first)
    exact ⟨placed, (closed shuffled placed).mpr each, order.symm⟩
  refine of_simulation (moves moved) fun made second => ?_
  obtain ⟨placed, first, _⟩ := moves moved.symm made second
  exact ⟨placed, first⟩

/-- Two attempts with the outcome of a third have the same. -/
theorem of_common {ζ : Type} {first : Except ε α} {second : Except δ α} {common : Except ζ α}
    (same : SameOutcome Eq first common) (also : SameOutcome Eq second common) :
    SameOutcome Eq first second :=
  of_eq_ok_iff fun value => (same.eq_ok_iff value).trans (also.eq_ok_iff value).symm

end SameOutcome

/-- What a member does to a record that is read by name. -/
inductive Effect (σ : Type) where
  /-- The member cannot be read. -/
  | refused
  /-- The member is of no field. -/
  | passed
  /-- The member is read into the field of a name. -/
  | change (name : String) (update : σ → σ)

namespace Effect

variable {σ : Type}

/-- The change that an effect makes, and the name of its field. -/
def change? : Effect σ → Option (String × (σ → σ))
  | .change name update => some (name, update)
  | _ => none

/-- The changes that effects make, in order. -/
def changes (effects : List (Effect σ)) : List (String × (σ → σ)) := effects.filterMap change?

end Effect

namespace Record

open Effect (changes)

variable {D : Type → Type} {σ : Type} {record : Record D σ}

/-- The effect of a member of a name, if it is known whether the member can be passed over and what each field reads of it. -/
def effect {ε δ : Type} (record : Record D σ) (name : String) (passing : Except ε Unit)
    (read : Field D σ → Except δ (σ → σ)) : Effect σ :=
  match record.find name with
  | .error _ => .refused
  | .ok none =>
    match passing with
    | .ok () => .passed
    | .error _ => .refused
  | .ok (some field) =>
    match read field with
    | .ok update => .change name update
    | .error _ => .refused

/-- A field that is found by a name is one of the fields, and has the name. -/
theorem mem_of_find {name : String} {field : Field D σ}
    (found : record.find name = .ok (some field)) : field ∈ record.fields ∧ field.name = name := by
  unfold find at found
  split at found
  · rename_i listed
    cases found
    exact ⟨List.mem_of_find?_eq_some listed, beq_iff_eq.mp (List.find?_some listed :)⟩
  · split at found <;> cases found

/-- A change that a member makes is one that the field of its name reads. -/
theorem field_of_effect {ε δ : Type} {name other : String} {passing : Except ε Unit}
    {read : Field D σ → Except δ (σ → σ)} {update : σ → σ}
    (changed : record.effect name passing read = .change other update) :
    ∃ field ∈ record.fields, field.name = other ∧ read field = .ok update := by
  unfold effect at changed
  split at changed
  · cases changed
  · split at changed <;> cases changed
  · rename_i field found
    split at changed
    · rename_i accepted
      cases changed
      exact ⟨field, (mem_of_find found).1, (mem_of_find found).2, accepted⟩
    · cases changed

/-- A member has the same effect as another of its name if both can be passed over, or neither, and every field reads the same of both. -/
theorem effect_congr {ε δ ζ η : Type} {name : String} {passing : Except ε Unit}
    {other : Except ζ Unit} {read : Field D σ → Except δ (σ → σ)}
    {again : Field D σ → Except η (σ → σ)} (passes : SameOutcome Eq passing other)
    (reads : ∀ field ∈ record.fields, SameOutcome Eq (read field) (again field)) :
    record.effect name passing read = record.effect name other again := by
  cases found : record.find name with
  | error refusal => simp only [effect, found]
  | ok field =>
    cases field with
    | none => cases passes <;> simp only [effect, found]
    | some field =>
      -- What is found is one of the fields, and both reads of it have the same outcome.
      have same := reads field (mem_of_find found).1
      cases first : read field with
      | ok update =>
        have second := (same.eq_ok_iff update).mp first
        simp only [effect, found, first, second]
      | error refusal =>
        rw [first] at same
        cases second : again field with
        | error other => simp only [effect, found, first, second]
        | ok update =>
          rw [second] at same
          cases same

/-- A record is finished alike whatever the order in which its fields have been seen. -/
theorem finish_congr {seen others : List String} (same : ∀ name, name ∈ seen ↔ name ∈ others)
    (state : σ) : record.finish seen state = record.finish others state := by
  have contains : ∀ name, seen.contains name = others.contains name := fun name => by
    rw [Bool.eq_iff_iff, List.contains_iff_mem, List.contains_iff_mem, same]
  simp only [finish, contains]

/-- How effects make a record, where some fields have been seen: none is refused, no field is changed again, and in the end no field is missing. -/
structure Made (record : Record D σ) (effects : List (Effect σ)) (seen : List String)
    (state final : σ) : Prop where
  accepted : .refused ∉ effects
  distinct : ((changes effects).map Prod.fst).Nodup
  unseen : ∀ name ∈ (changes effects).map Prod.fst, name ∉ seen
  finished : record.finish ((changes effects).map Prod.fst ++ seen)
    ((changes effects).foldl (fun state change => change.2 state) state) = .ok final

namespace Made

variable {effects others : List (Effect σ)} {seen : List String} {state final : σ}

/-- Without members a record is made as it is, if no field is missing. -/
theorem nil_iff : record.Made [] seen state final ↔ record.finish seen state = .ok final := by
  constructor
  · intro made
    exact made.finished
  · intro finished
    exact ⟨List.not_mem_nil, List.nodup_nil, fun _ found => absurd found List.not_mem_nil, finished⟩

/-- No record is made of a member that is refused. -/
theorem not_refused : ¬ record.Made (.refused :: effects) seen state final :=
  fun made => made.accepted List.mem_cons_self

/-- A member that is passed over makes no difference, wherever it stands. -/
theorem insert_passed_iff {front back : List (Effect σ)} :
    record.Made (front ++ .passed :: back) seen state final
      ↔ record.Made (front ++ back) seen state final := by
  -- It neither changes anything nor is it refused.
  have same : changes (front ++ .passed :: back) = changes (front ++ back) := by
    rw [changes, changes, List.filterMap_append, List.filterMap_append, List.filterMap_cons]
    rfl
  have refused : Effect.refused ∈ front ++ .passed :: back ↔ Effect.refused ∈ front ++ back := by
    simp
  constructor
  · rintro ⟨accepted, distinct, unseen, finished⟩
    exact ⟨mt refused.mpr accepted, same ▸ distinct, same ▸ unseen, same ▸ finished⟩
  · rintro ⟨accepted, distinct, unseen, finished⟩
    exact ⟨mt refused.mp accepted, same.symm ▸ distinct, same.symm ▸ unseen, same.symm ▸ finished⟩

/-- A member that is passed over makes no difference. -/
theorem passed_iff :
    record.Made (.passed :: effects) seen state final ↔ record.Made effects seen state final := by
  show record.Made ([] ++ .passed :: effects) seen state final ↔ _
  exact insert_passed_iff

/-- No record is made where a member changes a field that another one changes, too. -/
theorem not_repeated {front back : List (Effect σ)} {name : String} {update other : σ → σ}
    (again : .change name other ∈ front ++ back) :
    ¬ record.Made (front ++ .change name update :: back) seen state final := by
  intro made
  -- In whatever order the changes come, the name would be among those of the others.
  have moved : (changes (front ++ .change name update :: back)).Perm
      ((name, update) :: changes (front ++ back)) := List.perm_middle.filterMap _
  have apart := (moved.map Prod.fst).nodup_iff.mp made.distinct
  have listed : (name, other) ∈ changes (front ++ back) :=
    List.mem_filterMap.mpr ⟨.change name other, again, rfl⟩
  exact (List.nodup_cons.mp apart).1 (List.mem_map.mpr ⟨_, listed, rfl⟩)

/-- A member that changes a field is taken first, and its field is not changed again. -/
theorem change_iff {name : String} {update : σ → σ} :
    record.Made (.change name update :: effects) seen state final
      ↔ name ∉ seen ∧ record.Made effects (name :: seen) (update state) final := by
  -- The name is seen from here on, which moves it from the changes to what has been seen.
  have moved : ∀ other, other ∈ (changes effects).map Prod.fst ++ name :: seen
      ↔ other ∈ name :: (changes effects).map Prod.fst ++ seen := by
    intro other
    simp only [List.mem_append, List.mem_cons, List.cons_append]
    exact or_left_comm
  constructor
  · intro made
    have distinct := List.nodup_cons.mp made.distinct
    refine ⟨made.unseen name List.mem_cons_self,
      fun refused => made.accepted (List.mem_cons_of_mem _ refused), distinct.2, ?_, ?_⟩
    · intro other found again
      rcases List.mem_cons.mp again with rfl | before
      · exact distinct.1 found
      · exact made.unseen other (List.mem_cons_of_mem _ found) before
    · rw [finish_congr moved]
      exact made.finished
  · rintro ⟨unseen, made⟩
    refine ⟨fun refused => ?_, List.nodup_cons.mpr ⟨fun again => ?_, made.distinct⟩, ?_, ?_⟩
    · rcases List.mem_cons.mp refused with same | later
      · cases same
      · exact made.accepted later
    · exact made.unseen name again List.mem_cons_self
    · intro other found before
      rcases List.mem_cons.mp found with rfl | later
      · exact unseen before
      · exact made.unseen other later (List.mem_cons_of_mem _ before)
    · rw [← made.finished, finish_congr moved]
      rfl

/-- A member is passed over if it is of no field, and otherwise read into its field, which must not have been seen; the others go on from there. -/
theorem effect_iff {ε δ : Type} {name : String} {passing : Except ε Unit}
    {read : Field D σ → Except δ (σ → σ)} :
    record.Made (record.effect name passing read :: effects) seen state final ↔
      (record.find name = .ok none ∧ passing = .ok () ∧ record.Made effects seen state final) ∨
        ∃ field update, record.find name = .ok (some field) ∧ name ∉ seen ∧
          read field = .ok update ∧ record.Made effects (name :: seen) (update state) final := by
  cases found : record.find name with
  | error refusal => simp [effect, found, not_refused]
  | ok field =>
    cases field with
    | none => cases passing <;> simp [effect, found, not_refused, passed_iff]
    | some field =>
      cases accepted : read field <;> simp [effect, found, accepted, not_refused, change_iff]

/-- The order of members makes no difference where changes under different names can be exchanged. -/
theorem perm (made : record.Made effects [] state final) (shuffled : effects.Perm others)
    (exchange : ∀ first ∈ changes effects, ∀ second ∈ changes effects, first.1 ≠ second.1 →
      ∀ state, second.2 (first.2 state) = first.2 (second.2 state)) :
    record.Made others [] state final := by
  have moved : (changes effects).Perm (changes others) := shuffled.filterMap _
  have names := moved.map Prod.fst
  -- Two changes under one name are the same change, so they can be exchanged, too.
  have commute : ∀ first ∈ changes effects, ∀ second ∈ changes effects, ∀ state,
      second.2 (first.2 state) = first.2 (second.2 state) := by
    intro first found second also state
    by_cases same : first.1 = second.1
    · rw [List.inj_on_of_nodup_map made.distinct found also same]
    · exact exchange first found second also same state
  refine ⟨fun refused => made.accepted (shuffled.mem_iff.mpr refused),
    names.nodup_iff.mp made.distinct, fun _ _ => List.not_mem_nil, ?_⟩
  rw [← made.finished, ← moved.foldl_eq' commute state]
  refine finish_congr (fun name => ?_) _
  rw [List.append_nil, List.append_nil, names.mem_iff]

end Made

end Record

/-- A format in which it has a meaning what a reader may yield, and that it does not mind the order of members. -/
class OrderFormat (D : Type → Type) where
  /-- The reader makes the value of something. -/
  Yields {α : Type} : D α → α → Prop
  /-- Of two things that differ in the order of members the reader makes related values, or none of either. -/
  Orderless {α : Type} : (α → α → Prop) → D α → Prop

open OrderFormat (Yields Orderless)

/-- Fields whose changes of a record can be exchanged. -/
def Field.Apart {D : Type → Type} [OrderFormat D] {σ : Type} (first second : Field D σ) : Prop :=
  ∀ change other, Yields first.read change → Yields second.read other →
    ∀ state, other (change state) = change (other state)

instance {D : Type → Type} [OrderFormat D] {σ : Type} :
    Std.Symm (Field.Apart (D := D) (σ := σ)) where
  symm _ _ apart change other yields yieldsOther state :=
    (apart other change yieldsOther yields state).symm

namespace Record

open Effect (changes)

variable {D : Type → Type} [OrderFormat D] {σ : Type} {record : Record D σ}

/-- The order of members makes no difference where they change fields that are apart. -/
theorem Made.perm_of_apart {effects others : List (Effect σ)} {state final : σ}
    (apart : record.fields.Pairwise Field.Apart) (made : record.Made effects [] state final)
    (shuffled : effects.Perm others)
    (fielded : ∀ name update, .change name update ∈ effects →
      ∃ field ∈ record.fields, field.name = name ∧ Yields field.read update) :
    record.Made others [] state final := by
  refine made.perm shuffled fun first found second also different state => ?_
  have field : ∀ change ∈ changes effects,
      ∃ field ∈ record.fields, field.name = change.1 ∧ Yields field.read change.2 := by
    intro change found
    obtain ⟨effect, listed, same⟩ := List.mem_filterMap.mp found
    cases effect with
    | change name update =>
      cases same
      exact fielded name update listed
    | _ => cases same
  obtain ⟨here, listed, named, yields⟩ := field first found
  obtain ⟨there, listed', named', yields'⟩ := field second also
  -- Changes of different names are of different fields.
  have fields : here ≠ there := by
    rintro rfl
    exact different (named.symm.trans named')
  exact apart.forall listed listed' fields first.2 second.2 yields yields' state

end Record

/-- A format whose readers do not mind the order of members, if the fields of their records are apart. -/
class LawfulOrder (D : Type → Type) [Format D] [OrderFormat D] : Prop where
  yields_map {α β : Type} {f : α → β} {reader : D α} {value : β} :
    Yields (Format.map f reader) value → ∃ held, Yields reader held ∧ f held = value
  map {α β : Type} {related : α → α → Prop} {others : β → β → Prop} {f : α → β} {reader : D α} :
    Orderless related reader → (∀ value other, related value other → others (f value) (f other)) →
    Orderless others (Format.map f reader)
  string : Orderless Eq (Format.string : D String)
  boolean : Orderless Eq (Format.boolean : D Bool)
  value : Orderless Eq (Format.value : D Value)
  optional {α : Type} {related : α → α → Prop} {reader : D α} : Orderless related reader →
    Orderless (Option.Rel related) (Format.optional reader)
  choice {α : Type} (choices : List (String × α)) : Orderless Eq (Format.choice choices : D α)
  record {σ : Type} {record : Record D σ} : (∀ field ∈ record.fields, Orderless Eq field.read) →
    record.fields.Pairwise Field.Apart → Orderless Eq (Format.record record)

namespace Field

variable {D : Type → Type} [Format D] [OrderFormat D] [LawfulOrder D] {σ τ α β : Type}

/-- A field does not mind the order of members if the reader of its value does not. -/
theorem orderless_present {reader : D α} {put : α → σ → σ} (orderless : Orderless Eq reader) :
    Orderless Eq (Format.map put reader) :=
  LawfulOrder.map orderless fun value other same => by rw [same]

/-- A field that may be absent does not mind the order of members if the reader of what is present does not. -/
theorem orderless_optional {reader : D α} {put : Option α → σ → σ}
    (orderless : Orderless Eq reader) : Orderless Eq (Format.map put (Format.optional reader)) := by
  refine LawfulOrder.map (LawfulOrder.optional orderless) fun part other same => ?_
  -- Equal parts make equal changes, and so do two that are absent.
  cases same with
  | some equal => rw [equal]
  | none => rfl

/-- A field of a part does not mind the order of members as a field of the whole. -/
theorem orderless_within {field : Field D σ} {update : (σ → σ) → τ → τ}
    (orderless : Orderless Eq field.read) : Orderless Eq (field.within update).read :=
  LawfulOrder.map orderless fun change other same => by rw [same]

/-- Fields are apart if what they put into a record can be exchanged. -/
theorem apart_map {name other : String} {presence spared : Presence} {reader : D α}
    {reader' : D β} {put : α → σ → σ} {put' : β → σ → σ}
    (exchange : ∀ value value' state, put' value' (put value state) = put value (put' value' state)) :
    Field.Apart ⟨name, presence, Format.map put reader⟩
      ⟨other, spared, Format.map put' reader'⟩ := by
  intro change change' yields yields' state
  obtain ⟨value, _, rfl⟩ := LawfulOrder.yields_map yields
  obtain ⟨value', _, rfl⟩ := LawfulOrder.yields_map yields'
  exact exchange value value' state

/-- Fields of a part that are apart are so as fields of the whole. -/
theorem apart_within {first second : Field D σ} {update : (σ → σ) → τ → τ}
    (composed : ∀ change other whole,
      update other (update change whole) = update (other ∘ change) whole)
    (apart : first.Apart second) : (first.within update).Apart (second.within update) := by
  intro change change' yields yields' whole
  obtain ⟨inner, held, rfl⟩ := LawfulOrder.yields_map yields
  obtain ⟨inner', held', rfl⟩ := LawfulOrder.yields_map yields'
  -- Both orders change the part by both changes.
  rw [composed, composed]
  congr 1
  exact funext (apart inner inner' held held')

end Field

end ChatOptions
