import ChatOptions.Proofs.Json.Alike
import ChatOptions.Proofs.Json.Widening

/-! Readers of JSON do not mind the order of members. -/

namespace ChatOptions

open OrderFormat (Yields Orderless)

/-- Entries that are alike are so behind others that are, whose order is turned round. -/
theorem Content.EntriesAlike.reverse_append : ∀ {front others behind after : List (Content × Content)},
    EntriesAlike front others → EntriesAlike behind after →
    EntriesAlike (front.reverse ++ behind) (others.reverse ++ after)
  | _, _, _, _, .nil, further => further
  | _, _, _, _, .cons first rest, further => by
    rw [List.reverse_cons, List.reverse_cons, List.append_assoc, List.append_assoc]
    exact rest.reverse_append (.cons first further)

namespace Json

namespace Reader

open Document (Alike ItemsAlike MembersAlike)

instance : OrderFormat Reader where
  Yields reader value := ∃ depth tree, reader depth tree = .ok value
  Orderless related reader :=
    ∀ depth tree other, Alike tree other → SameOutcome related (reader depth tree) (reader depth other)

section Records

variable {σ : Type}

/-- The effect of a member on a record. -/
def memberEffect (record : Record Reader σ) (depth : Nat)
    (member : Key × Document × Position) : Effect σ :=
  match member.1.name with
  | .error _ => .refused
  | .ok name => record.effect name member.2.1.skip fun field => field.read depth member.2.1

/-- A record is read from members as their effects make it. -/
theorem named_eq_ok {record : Record Reader σ} {depth : Nat} {stop : Position}
    {members : List (Key × Document × Position)} {seen : List String} {state final : σ} :
    named record depth (.closed stop) members seen state = .ok final ↔
      record.Made (members.map (memberEffect record depth)) seen state final := by
  -- The names seen and the record change with every member, so both are left open.
  induction members generalizing seen state with
  | nil =>
    rw [List.map_nil, Record.Made.nil_iff, named]
    exact mapError_eq_ok
  | cons member rest ih =>
    obtain ⟨key, value, left⟩ := member
    rw [List.map_cons, memberEffect, named_cons_eq_ok]
    cases named : key.name with
    | error fault => simp [Record.Made.not_refused]
    | ok name => simp only [Except.ok.injEq, exists_eq_left', Record.Made.effect_iff, ih]

/-- Members that are alike have the same effects on a record whose fields do not mind the order of members. -/
theorem map_memberEffect {record : Record Reader σ}
    (orderless : ∀ field ∈ record.fields, Orderless Eq field.read) (depth : Nat)
    {members others : List (Key × Document × Position)} (each : MembersAlike members others) :
    members.map (memberEffect record depth) = others.map (memberEffect record depth) := by
  have places := each.forall₂
  clear each
  induction places with
  | nil => rfl
  | @cons member other _ _ alike _ ih =>
    obtain ⟨⟨name, _, _⟩, value, _⟩ := member
    obtain ⟨⟨name', _, _⟩, value', _⟩ := other
    obtain ⟨named, first⟩ := alike
    dsimp only at named first
    have passes : SameOutcome Eq value.skip value'.skip := by
      rw [(Document.skip_alike first).1, (Document.skip_alike first).2]
      exact .ok rfl
    rw [List.map_cons, List.map_cons, ih]
    -- Both names can be read and are the same, or neither can.
    cases named with
    | ok same =>
      rw [same]
      exact congrArg (· :: _)
        (Record.effect_congr passes fun field listed => orderless field listed depth _ _ first)
    | error => rfl

/-- A change that a member makes is one that a field yields. -/
theorem yields_of_memberEffect {record : Record Reader σ} {depth : Nat}
    {members : List (Key × Document × Position)} {name : String} {update : σ → σ}
    (changed : .change name update ∈ members.map (memberEffect record depth)) :
    ∃ field ∈ record.fields, field.name = name ∧ Yields field.read update := by
  obtain ⟨⟨key, value, left⟩, _, effect⟩ := List.mem_map.mp changed
  unfold memberEffect at effect
  split at effect
  · cases effect
  · obtain ⟨field, listed, named, read⟩ := Record.field_of_effect effect
    exact ⟨field, listed, named, depth, value, read⟩

/-- A record is read alike from members that are alike, in any order. -/
theorem named_alike {record : Record Reader σ}
    (orderless : ∀ field ∈ record.fields, Orderless Eq field.read)
    (apart : record.fields.Pairwise Field.Apart) (depth : Nat) (stop stop' : Position)
    {members placed others : List (Key × Document × Position)}
    (each : MembersAlike members placed) (shuffled : placed.Perm others) :
    SameOutcome Eq (named record depth (.closed stop) members [] record.blank)
      (named record depth (.closed stop') others [] record.blank) := by
  have effects := shuffled.map (memberEffect record depth)
  refine SameOutcome.of_eq_ok_iff fun final => ?_
  rw [named_eq_ok, named_eq_ok, map_memberEffect orderless depth each]
  constructor
  · intro made
    exact made.perm_of_apart apart effects fun _ _ changed => yields_of_memberEffect changed
  · intro made
    exact made.perm_of_apart apart effects.symm fun _ _ changed => yields_of_memberEffect changed

/-- The fields of a record are read alike from items that are alike. -/
theorem listed_alike (record : Record Reader σ) (depth : Nat) (stop stop' : Position)
    {fields : List (Field Reader σ)} (orderless : ∀ field ∈ fields, Orderless Eq field.read)
    {items others : List (Document × Position)} (each : ItemsAlike items others) (place : Nat)
    (state : σ) :
    SameOutcome Eq (listed record depth (.closed stop) fields items place state)
      (listed record depth (.closed stop') fields others place state) := by
  -- The fields say how many items are read, so the induction follows them and not the items.
  induction fields generalizing items others place state with
  | nil =>
    cases each with
    | nil => exact .ok rfl
    | cons => exact .error
  | cons field fields ih =>
    have further : ∀ field ∈ fields, Orderless Eq field.read :=
      fun field listed => orderless field (List.mem_cons_of_mem _ listed)
    cases each with
    | nil =>
      -- A field with a default is passed over, and any other is missing.
      rw [listed, listed]
      split
      · exact ih further .nil _ _
      · exact .error
    | cons first rest =>
      have here := orderless field List.mem_cons_self depth _ _ first
      rw [listed, listed]
      refine here.mapError.bind fun update other same => ?_
      rw [same]
      exact ih further rest _ _

/-- A record is read alike from documents that are alike. -/
theorem record_alike {shape : Record Reader σ}
    (orderless : ∀ field ∈ shape.fields, Orderless Eq field.read)
    (apart : shape.fields.Pairwise Field.Apart) : Orderless Eq (record shape) := by
  intro depth tree other alike
  cases alike with
  | leaf => exact .error
  | array each =>
    refine (Document.enter_alike depth _ _).bind fun inner other same => ?_
    rw [same]
    exact listed_alike shape other _ _ orderless each 0 shape.blank
  | object each distinct shuffled =>
    refine (Document.enter_alike depth _ _).bind fun inner other same => ?_
    rw [same]
    exact named_alike orderless apart other _ _ each shuffled

end Records

/-- The choice of a name does not depend on the place of the name. -/
theorem chosen_alike {α : Type} (choices : List (String × α)) (name : String)
    (place place' : Position) :
    SameOutcome Eq (chosen choices name place) (chosen choices name place') :=
  (SameOutcome.refl (fun _ => rfl) _).mapError

/-- The name of a choice is read alike from documents that are alike. -/
theorem tag_alike {α : Type} (choices : List (String × α)) {tree other : Document}
    (alike : Alike tree other) : SameOutcome Eq (tag choices tree) (tag choices other) := by
  -- Only a text names a choice, and what is alike to it is the same text.
  cases alike with
  | leaf same =>
    cases same with
    | string same =>
      refine same.bind fun name other equal => ?_
      rw [equal]
      exact chosen_alike choices other _ _
    | _ => exact .error
  | _ => exact .error

/-- Nothing is read alike from documents that are alike. -/
theorem nothing_alike {tree other : Document} (alike : Alike tree other) :
    SameOutcome Eq (nothing tree) (nothing other) := by
  cases alike with
  | leaf same =>
    cases same with
    | null => exact .ok rfl
    | _ => exact .error
  | _ => exact .error

/-- An object of more than one member names no choice. -/
theorem choice_ne_ok {α : Type} {choices : List (String × α)} {depth : Nat} {start stop : Position}
    {first second : Key × Document × Position} {more : List (Key × Document × Position)} {value : α} :
    choice choices depth (.object start (first :: second :: more) (.closed stop)) ≠ .ok value := by
  intro read
  -- The object is entered, and the name, the choice and the value of the first member are read; then it would have to end.
  obtain ⟨_, _, read⟩ := bind_eq_ok.mp read
  obtain ⟨_, _, read⟩ := bind_eq_ok.mp read
  obtain ⟨_, _, read⟩ := bind_eq_ok.mp read
  obtain ⟨_, _, read⟩ := bind_eq_ok.mp read
  cases read

/-- A choice is read alike from documents that are alike. -/
theorem choice_alike {α : Type} (choices : List (String × α)) : Orderless Eq (choice choices) := by
  intro depth tree other alike
  cases alike with
  | leaf same =>
    cases same with
    | string same =>
      refine same.bind fun name other equal => ?_
      rw [equal]
      exact chosen_alike choices other _ _
    | _ => exact .error
  | array => exact .error
  | @object start start' stop stop' members placed others each distinct shuffled =>
    cases each with
    | nil =>
      rw [List.nil_perm.mp shuffled]
      exact (Document.enter_alike depth _ _).bind fun _ _ _ => .error
    | cons named first rest =>
      cases rest with
      | nil =>
        -- There is one member, and nothing to be put into another order.
        cases List.singleton_perm.mp shuffled
        refine (Document.enter_alike depth _ _).bind fun _ _ _ => ?_
        refine named.bind fun name other equal => ?_
        rw [equal]
        refine (chosen_alike choices other _ _).bind fun chosen other same => ?_
        rw [same]
        exact (nothing_alike first).bind fun _ _ _ => .ok rfl
      | cons second more =>
        -- More than one member names no choice, in whatever order.
        obtain ⟨member, next, behind, rfl⟩ : ∃ member next behind,
            others = member :: next :: behind := by
          match others, shuffled.length_eq with
          | member :: next :: behind, _ => exact ⟨member, next, behind, rfl⟩
        exact .of_no_success (fun _ => choice_ne_ok) fun _ => choice_ne_ok

/-- Content that is held back is read alike where its reader does not mind the order of entries. -/
theorem heldBack_alike {α : Type} {related : α → α → Prop} {reader : ContentReader α}
    (orderless : Orderless related reader) : Orderless related (heldBack reader) := by
  intro depth tree other alike
  refine (Document.content_alike alike depth).bind fun content other same => ?_
  exact (orderless content other same).mapError

instance : LawfulOrder Reader where
  yields_map {α β f reader value} yields := by
    obtain ⟨depth, tree, read⟩ := yields
    obtain ⟨held, inner, made⟩ := map_eq_ok.mp read
    exact ⟨held, ⟨depth, tree, inner⟩, made⟩
  map {α β related others f reader} orderless made := by
    intro depth tree other alike
    exact (orderless depth tree other alike).map made
  -- A text or a truth value has no parts, so it is alike to one that is read as the same only.
  string := by
    intro depth tree other alike
    cases alike with
    | leaf same =>
      cases same with
      | string same => exact same
      | _ => exact .error
    | _ => exact .error
  boolean := by
    intro depth tree other alike
    cases alike with
    | leaf same =>
      cases same with
      | bool => exact .ok rfl
      | _ => exact .error
    | _ => exact .error
  value := heldBack_alike (LawfulOrder.value : Orderless Eq (Format.value : ContentReader Value))
  optional {α related reader} orderless := by
    intro depth tree other alike
    have present : SameOutcome (Option.Rel related) ((reader depth tree).map some)
        ((reader depth other).map some) :=
      (orderless depth tree other alike).map fun _ _ same => .some same
    -- Null is alike to null only.
    cases alike with
    | leaf same =>
      cases same with
      | null => exact .ok .none
      | _ => exact present
    | _ => exact present
  choice choices := choice_alike choices
  record orderless apart := record_alike orderless apart

/-- A double is read alike from documents that are alike. -/
theorem float_alike : Orderless Eq float := by
  intro depth tree other alike
  cases alike with
  | leaf same =>
    cases same with
    | number same =>
      cases same with
      | @ok _ value equal =>
        rw [equal]
        cases value <;> exact .ok rfl
      | error => exact .error
    | _ => exact .error
  | _ => exact .error

/-- A whole number is read alike from documents that are alike. -/
theorem natural_alike (bound : Nat) (expected : String) : Orderless Eq (natural bound expected) := by
  intro depth tree other alike
  cases alike with
  | leaf same =>
    cases same with
    | number same =>
      cases same with
      | @ok _ value equal =>
        rw [equal]
        cases value with
        | integer value inRange =>
          -- The number decides whether it is below the bound, wherever it stands.
          by_cases below : 0 ≤ value ∧ value.toNat < bound
          · simp only [natural, if_pos below]
            exact .ok rfl
          · simp only [natural, if_neg below]
            exact .error
        | float => exact .error
      | error => exact .error
    | _ => exact .error
  | _ => exact .error

section Lists

variable {α : Type} {reader : Reader α}

/-- Items are read alike where each is. -/
theorem items_alike (orderless : Orderless Eq reader) (depth : Nat)
    {parts others : List (Document × Position)} (each : ItemsAlike parts others) :
    SameOutcome Eq (items (reader depth) parts) (items (reader depth) others) := by
  have places := each.forall₂
  clear each
  induction places with
  | nil => exact .ok rfl
  | cons first _ ih =>
    refine (orderless depth _ _ first).mapError.bind fun value other same => ?_
    refine ih.bind fun values others sames => .ok ?_
    rw [same, sames]

/-- A list is read alike from documents that are alike. -/
theorem list_alike (orderless : Orderless Eq reader) : Orderless Eq (list reader) := by
  intro depth tree other alike
  cases alike with
  | array each =>
    refine (Document.enter_alike depth _ _).bind fun inner other same => ?_
    rw [same]
    exact (items_alike orderless other each).bind fun values others same => .ok same
  | _ => exact .error

/-- The members of an object, one by one. -/
theorem entries_eq_ok {depth : Nat} {members : List (Key × Document × Position)}
    {held : List (String × α)} : entries (reader depth) members = .ok held ↔
      List.Forall₂ (fun member entry => member.1.name = .ok entry.1
        ∧ reader depth member.2.1 = .ok entry.2) members held := by
  induction members generalizing held with
  | nil =>
    rw [entries, List.forall₂_nil_left_iff, Except.ok.injEq]
    exact eq_comm
  | cons member rest ih =>
    obtain ⟨key, value, left⟩ := member
    simp only [entries, bind_eq_ok, settle, mapError_eq_ok, ih]
    constructor
    · rintro ⟨name, named, first, read, behind, others, made⟩
      cases made
      exact .cons ⟨named, read⟩ others
    · intro each
      cases each with
      | @cons _ entry _ behind here others =>
        exact ⟨entry.1, here.1, entry.2, here.2, behind, others, rfl⟩

/-- What is read of members with distinct names has distinct keys. -/
theorem entries_distinct {depth : Nat} {members : List (Key × Document × Position)}
    {held : List (String × α)} (read : entries (reader depth) members = .ok held)
    (distinct : (Document.names members).Nodup) : (held.map Prod.fst).Nodup := by
  have keys : held.map Prod.fst = Document.names members := by
    have each := entries_eq_ok.mp read
    clear read distinct
    induction each with
    | nil => rfl
    | cons here _ ih => rw [List.map_cons, ih, Document.names_cons here.1]
  rw [keys]
  exact distinct

/-- Members are read alike where what each holds is. -/
theorem entries_alike (orderless : Orderless Eq reader) (depth : Nat)
    {parts others : List (Key × Document × Position)} (each : MembersAlike parts others) :
    SameOutcome Eq (entries (reader depth) parts) (entries (reader depth) others) := by
  have places := each.forall₂
  clear each
  induction places with
  | nil => exact .ok rfl
  | cons alike _ ih =>
    refine alike.1.bind fun name other same => ?_
    refine (orderless depth _ _ alike.2).mapError.bind fun value other' equal => ?_
    refine ih.bind fun values others sames => .ok ?_
    rw [same, equal, sames]

/-- Whether entries are listed in the same order, or have distinct keys and are listed in any. -/
def EntriesMoved (held others : List (String × α)) : Prop :=
  held.Perm others ∧ (held = others ∨ (held.map Prod.fst).Nodup)

/-- Members are read alike in another order if their names are distinct, but for the order of what is read, which has distinct keys then. -/
theorem entries_perm (reader : Reader α) (depth : Nat) {parts others : List (Key × Document × Position)}
    (shuffled : parts.Perm others) (distinct : parts = others ∨ (Document.names parts).Nodup) :
    SameOutcome EntriesMoved (entries (reader depth) parts) (entries (reader depth) others) := by
  have moved : SameOutcome List.Perm (entries (reader depth) parts)
      (entries (reader depth) others) :=
    .perm (fun _ _ => entries_eq_ok) shuffled
  refine moved.imp fun held others read also order => ⟨order, ?_⟩
  rcases distinct with rfl | distinct
  · exact .inl (Except.ok.inj (read.symm.trans also))
  · exact .inr (entries_distinct read distinct)

/-- The members of an object are read in their order, or in another if they have distinct keys. -/
theorem members_alike (orderless : Orderless Eq reader) :
    Orderless EntriesMoved (members reader) := by
  intro depth tree other alike
  cases alike with
  | object each distinct shuffled =>
    refine (Document.enter_alike depth _ _).bind fun inner other same => ?_
    rw [same]
    have inPlace := entries_alike orderless other each
    have moved := entries_perm reader other shuffled distinct
    have whole : SameOutcome EntriesMoved _ _ :=
      inPlace.trans moved fun held placed others equal order => by
        rw [equal]
        exact order
    exact whole.bind fun held others order => .ok order
  | _ => exact .error

end Lists

section Tags

variable {α : Type} {shape : Tagged α} {depth : Nat} {stop : Position}

/-- A member is the tag, of which there is only one, or else is held back; the other members are read from there. -/
theorem taggedMembers_cons_eq_ok {ending : ObjectEnd} {key : Key} {value : Document}
    {left : Position} {rest : List (Key × Document × Position)} {chosen : Option α}
    {others : List (Content × Content)} {result : α × Content} :
    taggedMembers shape depth ending ((key, value, left) :: rest) chosen others = .ok result ↔
      ∃ name, key.name = .ok name ∧
        ((name = shape.tag ∧ chosen = none ∧ ∃ found, tag shape.choices value = .ok found ∧
            taggedMembers shape depth ending rest (some found) others = .ok result) ∨
          (name ≠ shape.tag ∧ ∃ content, value.content depth = .ok content ∧
            taggedMembers shape depth ending rest chosen ((.string name, content) :: others)
              = .ok result)) := by
  rw [taggedMembers]
  cases key.name with
  | error fault => simp [bind, Except.bind]
  | ok name =>
    by_cases tagged : name = shape.tag
    · -- A second tag is refused.
      cases chosen with
      | some chosen => simp [bind, Except.bind, tagged, throw, throwThe, MonadExceptOf.throw]
      | none =>
        cases tag shape.choices value <;>
          simp [bind, Except.bind, tagged]
    · cases value.content depth <;>
        simp [bind, Except.bind, tagged, settle, mapError_ok, mapError_error]

/-- Once the tag is known, the other members are held back, and none of them is another tag. -/
theorem taggedMembers_some_eq_ok {parts : List (Key × Document × Position)} {chosen : α}
    {others : List (Content × Content)} {result : α × Content} :
    taggedMembers shape depth (.closed stop) parts (some chosen) others = .ok result ↔
      (∀ part ∈ parts, part.1.name ≠ .ok shape.tag) ∧
        ∃ entries, Document.contentMembers depth parts = .ok entries ∧
          result = (chosen, .map (others.reverse ++ entries)) := by
  -- What is held back grows with every member, the last of it in front.
  induction parts generalizing others with
  | nil => simp [taggedMembers, Document.contentMembers, eq_comm]
  | cons part rest ih =>
    obtain ⟨key, value, left⟩ := part
    simp only [taggedMembers_cons_eq_ok, List.forall_mem_cons, Document.contentMembers, bind_eq_ok, ih]
    constructor
    · rintro ⟨name, named, ⟨_, known, _⟩ | ⟨different, content, held, none, entries, behind, rfl⟩⟩
      · cases known
      · refine ⟨⟨fun same => different ?_, none⟩, (.string name, content) :: entries,
          ⟨name, named, content, held, entries, behind, rfl⟩, ?_⟩
        · rw [named] at same
          exact Except.ok.inj same
        · rw [List.reverse_cons, List.append_assoc, List.singleton_append]
    · rintro ⟨⟨different, none⟩, _, ⟨name, named, content, held, entries, behind, made⟩, rfl⟩
      cases made
      refine ⟨name, named, .inr ⟨fun same => different ?_, content, held, none, entries, behind, ?_⟩⟩
      · rw [named, same]
      · rw [List.reverse_cons, List.append_assoc, List.singleton_append]

/-- Members in which one is the tag are read as what it names and the others. -/
theorem taggedMembers_none_eq_ok {parts : List (Key × Document × Position)}
    {others : List (Content × Content)} {result : α × Content} :
    taggedMembers shape depth (.closed stop) parts none others = .ok result ↔
      ∃ before member behind found entries, parts = before ++ member :: behind ∧
        member.1.name = .ok shape.tag ∧ tag shape.choices member.2.1 = .ok found ∧
        (∀ part ∈ before ++ behind, part.1.name ≠ .ok shape.tag) ∧
        Document.contentMembers depth (before ++ behind) = .ok entries ∧
        result = (found, .map (others.reverse ++ entries)) := by
  -- The induction runs up to the tag, and what is held back grows until then.
  induction parts generalizing others with
  | nil => simp [taggedMembers]
  | cons part rest ih =>
    obtain ⟨key, value, left⟩ := part
    rw [taggedMembers_cons_eq_ok]
    constructor
    · rintro ⟨name, named, ⟨rfl, _, found, chosen, read⟩ | ⟨different, content, held, read⟩⟩
      · -- The tag stands here, and the others behind it.
        obtain ⟨none, entries, behind, rfl⟩ := taggedMembers_some_eq_ok.mp read
        exact ⟨[], (key, value, left), rest, found, entries, rfl, named, chosen, none, behind, rfl⟩
      · -- The tag stands behind, and this member is one of the others.
        obtain ⟨before, member, behind, found, entries, rfl, tagged, chosen, none, contents, rfl⟩ :=
          ih.mp read
        refine ⟨(key, value, left) :: before, member, behind, found,
          (.string name, content) :: entries, rfl, tagged, chosen, ?_, ?_, ?_⟩
        · refine List.forall_mem_cons.mpr ⟨fun same => different ?_, none⟩
          rw [named] at same
          exact Except.ok.inj same
        · simp only [List.cons_append, Document.contentMembers, named, held, contents, bind,
            Except.bind]
          rfl
        · rw [List.reverse_cons, List.append_assoc, List.singleton_append]
    · rintro ⟨before, member, behind, found, entries, parts, tagged, chosen, none, contents, rfl⟩
      cases before with
      | nil =>
        cases parts
        exact ⟨shape.tag, tagged, .inl ⟨rfl, rfl, found, chosen,
          taggedMembers_some_eq_ok.mpr ⟨none, entries, contents, rfl⟩⟩⟩
      | cons first before =>
        cases parts
        obtain ⟨different, none⟩ := List.forall_mem_cons.mp none
        simp only [List.cons_append, Document.contentMembers, bind_eq_ok] at contents
        obtain ⟨name, named, content, held, entries, contents, made⟩ := contents
        cases made
        refine ⟨name, named, .inr ⟨fun same => different ?_, content, held, ih.mpr
          ⟨before, member, behind, found, entries, rfl, tagged, chosen, none, contents, ?_⟩⟩⟩
        · rw [named, same]
        · rw [List.reverse_cons, List.append_assoc, List.singleton_append]

/-- Whether two readings name the same choice, and the entries that they hold back are related. -/
def HoldBack (related : List (Content × Content) → List (Content × Content) → Prop)
    (result other : α × Content) : Prop :=
  result.1 = other.1 ∧
    ∃ entries others, result.2 = .map entries ∧ other.2 = .map others ∧ related entries others

/-- Members of which one is the tag are read alike if they are alike, and so is what has been held back before them. -/
theorem taggedMembers_alike {stop' : Position} {parts others : List (Key × Document × Position)}
    (each : MembersAlike parts others) (chosen : Option α) {held held' : List (Content × Content)}
    (before : Content.EntriesAlike held held') :
    SameOutcome (HoldBack Content.EntriesAlike)
      (taggedMembers shape depth (.closed stop) parts chosen held)
      (taggedMembers shape depth (.closed stop') others chosen held') := by
  have places := each.forall₂
  clear each
  induction places generalizing chosen held held' with
  | nil =>
    cases chosen with
    | none => exact .error
    | some chosen =>
      refine .ok ⟨rfl, _, _, rfl, rfl, ?_⟩
      have turned := before.reverse_append .nil
      rwa [List.append_nil, List.append_nil] at turned
  | cons alike _ ih =>
    refine alike.1.bind fun name other same => ?_
    rw [same]
    split
    · -- The tag, unless there has been one.
      cases chosen with
      | some chosen => exact .error
      | none =>
        refine (tag_alike shape.choices alike.2).bind fun found other' equal => ?_
        rw [equal]
        exact ih (some other') before
    · refine (Document.content_alike alike.2 depth).mapError.bind fun content content' same => ?_
      exact ih chosen (.cons same before)

/-- What is read of members with distinct names, one of them the tag, is read of them in any order, but for the order of what is held back. -/
theorem taggedMembers_of_perm {stop' : Position} {parts others : List (Key × Document × Position)}
    (shuffled : parts.Perm others) (distinct : (Document.names parts).Nodup) {result : α × Content}
    (read : taggedMembers shape depth (.closed stop) parts none [] = .ok result) :
    ∃ other, taggedMembers shape depth (.closed stop') others none [] = .ok other ∧
      HoldBack (fun entries others => entries.Perm others ∧ (entries.map Prod.fst).Nodup)
        result other := by
  obtain ⟨before, member, behind, found, entries, rfl, tagged, chosen, none, contents, rfl⟩ :=
    taggedMembers_none_eq_ok.mp read
  -- The tag stands somewhere in the other order, too, and the others are the same but for their order.
  obtain ⟨before', behind', rfl⟩ :=
    List.append_of_mem (shuffled.mem_iff.mp (List.mem_append_right _ List.mem_cons_self))
  have rest : (before ++ behind).Perm (before' ++ behind') :=
    ((List.perm_middle.symm.trans shuffled).trans List.perm_middle).cons_inv
  have held := Document.contentMembers_perm depth rest
  rw [contents] at held
  obtain ⟨entries', contents', order⟩ := held.of_ok
  have apart : (Document.names (before ++ behind)).Nodup := by
    refine distinct.sublist ?_
    exact ((List.sublist_cons_self member behind).append_left before).filterMap _
  have noOther : ∀ part ∈ before' ++ behind', part.1.name ≠ .ok shape.tag :=
    fun part among => none part (rest.mem_iff.mpr among)
  exact ⟨_, taggedMembers_none_eq_ok.mpr ⟨before', member, behind', found, entries', rfl, tagged,
    chosen, noOther, contents', rfl⟩, rfl, _, _, rfl, rfl, order,
    Document.keys_distinct contents apart⟩

/-- Members with distinct names of which one is the tag are read alike in any order, but for the order of what is held back. -/
theorem taggedMembers_perm (stop stop' : Position) {parts others : List (Key × Document × Position)}
    (shuffled : parts.Perm others) (distinct : (Document.names parts).Nodup) :
    SameOutcome (HoldBack fun entries others =>
        entries.Perm others ∧ (entries.map Prod.fst).Nodup)
      (taggedMembers shape depth (.closed stop) parts none [])
      (taggedMembers shape depth (.closed stop') others none []) := by
  have names : (Document.names others).Nodup := (shuffled.filterMap _).nodup_iff.mp distinct
  refine .of_simulation (fun result => taggedMembers_of_perm shuffled distinct) fun other read => ?_
  obtain ⟨result, read, _⟩ := taggedMembers_of_perm shuffled.symm names read
  exact ⟨result, read⟩

/-- Items of which the first is the tag are read alike if they are alike. -/
theorem taggedItems_alike {stop' : Position} {parts others : List (Document × Position)}
    (each : ItemsAlike parts others) :
    SameOutcome (fun result other : α × Content => result.1 = other.1 ∧ result.2.Alike other.2)
      (taggedItems shape depth (.closed stop) parts)
      (taggedItems shape depth (.closed stop') others) := by
  cases each with
  | nil => exact .error
  | cons first rest =>
    refine (tag_alike shape.choices first).bind fun found other same => ?_
    exact (Document.contentItems_alike rest depth).bind fun held others each =>
      .ok ⟨same, .sequence each⟩

/-- Data with a tag are read alike, tag and other parts, from documents that are alike. -/
theorem taggedContent_alike (shape : Tagged α) :
    Orderless (fun result other : α × Content => result.1 = other.1 ∧ result.2.Alike other.2)
      (taggedContent shape) := by
  intro depth tree other alike
  cases alike with
  | leaf => exact .error
  | array each =>
    refine (Document.enter_alike depth _ _).bind fun inner other same => ?_
    rw [same]
    exact taggedItems_alike each
  | object each distinct shuffled =>
    refine (Document.enter_alike depth _ _).bind fun inner other same => ?_
    rw [same]
    rcases distinct with rfl | distinct
    · refine (taggedMembers_alike each none .nil).imp ?_
      rintro result last _ _ ⟨same, entries, others, held, heldLast, alike⟩
      rw [held, heldLast]
      exact ⟨same, .map alike (.inl rfl) (.refl _)⟩
    -- The members are alike in their places, and then put into another order.
    refine (taggedMembers_alike each none .nil).trans
      (taggedMembers_perm .start _ shuffled distinct) ?_
    rintro result placed last ⟨same, entries, between, held, heldBetween, alike⟩
      ⟨equal, between', others, heldBetween', heldLast, order, apart⟩
    rw [heldBetween] at heldBetween'
    cases heldBetween'
    refine ⟨same.trans equal, ?_⟩
    rw [held, heldLast]
    exact .map alike (.inr apart) order

/-- Data with a tag do not mind the order of members if what is read once the tag is known does not. -/
theorem tagged_alike {β : Type} {further : α → ContentReader β}
    (orderless : ∀ chosen, Orderless Eq (further chosen)) : Orderless Eq (tagged shape further) := by
  intro depth tree other alike
  refine (taggedContent_alike shape depth tree other alike).bind ?_
  rintro ⟨chosen, content⟩ ⟨chosen', content'⟩ ⟨same, alike⟩
  cases same
  exact (orderless chosen content content' alike).mapError

end Tags

end Reader

end Json

end ChatOptions
