import ChatOptions.Proofs.Json.Skipping
import ChatOptions.Proofs.Reading.ContentOrder

/-! JSON documents that differ in the order of members only, and their contents. -/

namespace ChatOptions

namespace Json

/-- Values without parts that are read as the same, or that are not read at all. -/
inductive Leaf.Alike : Leaf → Leaf → Prop
  | null : Alike .null .null
  | bool {value} : Alike (.bool value) (.bool value)
  | number {value other} (same : SameOutcome Eq value other) : Alike (.number value) (.number other)
  | string {text other} (same : SameOutcome Eq text other) : Alike (.string text) (.string other)

namespace Document

/-- The names of members, as far as they can be read. -/
def names (members : List (Key × Document × Position)) : List String :=
  members.filterMap fun member => member.1.name.toOption

/-- The name of a member is the first of the names, if it can be read. -/
theorem names_cons {key : Key} {value : Document} {left : Position} {name : String}
    {members : List (Key × Document × Position)} (named : key.name = .ok name) :
    names ((key, value, left) :: members) = name :: names members := by
  rw [names, List.filterMap_cons, named]
  rfl

mutual

/-- Documents that differ in the order of members only: at every level the members of an object may come in another order, if their names are distinct. Where they stand in a text makes no difference. -/
inductive Alike : Document → Document → Prop
  | leaf {start start' stop stop' plain other} (same : Leaf.Alike plain other) :
    Alike (.leaf start stop plain) (.leaf start' stop' other)
  | array {start start' stop stop' items others} (each : ItemsAlike items others) :
    Alike (.array start items (.closed stop)) (.array start' others (.closed stop'))
  | object {start start' stop stop' members placed others} (each : MembersAlike members placed)
    (distinct : placed = others ∨ (names placed).Nodup) (shuffled : placed.Perm others) :
    Alike (.object start members (.closed stop)) (.object start' others (.closed stop'))

/-- Items that are alike one by one. -/
inductive ItemsAlike : List (Document × Position) → List (Document × Position) → Prop
  | nil : ItemsAlike [] []
  | cons {item other left left' items others} (first : Alike item other)
    (rest : ItemsAlike items others) : ItemsAlike ((item, left) :: items) ((other, left') :: others)

/-- Members that have the same names, and are alike one by one. -/
inductive MembersAlike :
    List (Key × Document × Position) → List (Key × Document × Position) → Prop
  | nil : MembersAlike [] []
  | cons {key key' value other left left' members others}
    (named : SameOutcome Eq key.name key'.name) (first : Alike value other)
    (rest : MembersAlike members others) :
    MembersAlike ((key, value, left) :: members) ((key', other, left') :: others)

end

/-- Items are alike place by place. -/
theorem ItemsAlike.forall₂ : ∀ {items others : List (Document × Position)}, ItemsAlike items others →
    List.Forall₂ (fun item other => Alike item.1 other.1) items others
  | _, _, .nil => .nil
  | _, _, .cons first rest => .cons first rest.forall₂

/-- Members are alike place by place. -/
theorem MembersAlike.forall₂ : ∀ {members others : List (Key × Document × Position)},
    MembersAlike members others →
    List.Forall₂ (fun member other => SameOutcome Eq member.1.name other.1.name ∧
      Alike member.2.1 other.2.1) members others
  | _, _, .nil => .nil
  | _, _, .cons named first rest => .cons ⟨named, first⟩ rest.forall₂

/-- Inside an array or object the depth that is left does not depend on its place. -/
theorem enter_alike (depth : Nat) (start start' : Position) :
    SameOutcome Eq (enter depth start) (enter depth start') := by
  unfold enter
  split
  · exact .error
  · exact .ok rfl

/-- Members can be passed over exactly if what each holds can. -/
theorem skipMembers_eq_ok {members : List (Key × Document × Position)} :
    skipMembers members = .ok () ↔ ∀ member ∈ members, member.2.1.skip = .ok () := by
  induction members with
  | nil => simp [skipMembers]
  | cons member rest ih =>
    obtain ⟨key, value, left⟩ := member
    rw [List.forall_mem_cons, ← ih, skipMembers]
    cases value.skip <;> simp

mutual

/-- Documents that are alike can both be passed over. -/
theorem skip_alike : ∀ {tree other : Document}, Alike tree other →
    tree.skip = .ok () ∧ other.skip = .ok ()
  | _, _, .leaf _ => ⟨rfl, rfl⟩
  | _, _, .array each => by
    obtain ⟨items, others⟩ := skipItems_alike each
    exact ⟨skip_array items, skip_array others⟩
  | _, _, .object each _ shuffled => by
    obtain ⟨members, placed⟩ := skipMembers_alike each
    refine ⟨skip_object members, skip_object (skipMembers_eq_ok.mpr fun member found => ?_)⟩
    exact skipMembers_eq_ok.mp placed member (shuffled.mem_iff.mpr found)

/-- Items that are alike can be passed over. -/
theorem skipItems_alike : ∀ {items others : List (Document × Position)}, ItemsAlike items others →
    skipItems items = .ok () ∧ skipItems others = .ok ()
  | _, _, .nil => ⟨rfl, rfl⟩
  | _, _, .cons first rest => by
    obtain ⟨item, other⟩ := skip_alike first
    obtain ⟨items, others⟩ := skipItems_alike rest
    rw [skipItems, skipItems, item, other]
    exact ⟨items, others⟩

/-- Members that are alike can be passed over. -/
theorem skipMembers_alike : ∀ {members others : List (Key × Document × Position)},
    MembersAlike members others → skipMembers members = .ok () ∧ skipMembers others = .ok ()
  | _, _, .nil => ⟨rfl, rfl⟩
  | _, _, .cons _ first rest => by
    obtain ⟨value, other⟩ := skip_alike first
    obtain ⟨members, others⟩ := skipMembers_alike rest
    rw [skipMembers, skipMembers, value, other]
    exact ⟨members, others⟩

end

/-- The contents of members, one by one. -/
theorem contentMembers_eq_ok {depth : Nat} {members : List (Key × Document × Position)}
    {entries : List (Content × Content)} : contentMembers depth members = .ok entries ↔
      List.Forall₂ (fun member entry => (∃ name, member.1.name = .ok name ∧ entry.1 = .string name)
        ∧ member.2.1.content depth = .ok entry.2) members entries := by
  -- Each member makes one entry, and is read before those behind it.
  induction members generalizing entries with
  | nil =>
    rw [contentMembers, List.forall₂_nil_left_iff, Except.ok.injEq]
    exact eq_comm
  | cons member rest ih =>
    obtain ⟨key, value, left⟩ := member
    simp only [contentMembers, bind_eq_ok, ih]
    constructor
    · rintro ⟨name, named, content, held, behind, others, made⟩
      cases made
      exact .cons ⟨⟨name, named, rfl⟩, held⟩ others
    · intro each
      cases each with
      | @cons _ entry _ behind here others =>
        obtain ⟨⟨name, named, keyed⟩, held⟩ := here
        refine ⟨name, named, entry.2, held, behind, others, ?_⟩
        rw [← keyed]
        rfl

/-- The contents of members with distinct names have distinct keys. -/
theorem keys_distinct {depth : Nat} {members : List (Key × Document × Position)}
    {entries : List (Content × Content)} (made : contentMembers depth members = .ok entries)
    (distinct : (names members).Nodup) : (entries.map Prod.fst).Nodup := by
  have keys : entries.map Prod.fst = (names members).map Content.string := by
    have each := contentMembers_eq_ok.mp made
    clear made distinct
    induction each with
    | nil => rfl
    | @cons member entry members entries here _ ih =>
      obtain ⟨⟨name, named, keyed⟩, _⟩ := here
      rw [List.map_cons, keyed, ih, names_cons named, List.map_cons]
  rw [keys]
  exact distinct.map fun first second same => Content.string.inj same

/-- The contents of members are the same in any order, but for their own order. -/
theorem contentMembers_perm (depth : Nat) {members others : List (Key × Document × Position)}
    (shuffled : members.Perm others) :
    SameOutcome List.Perm (contentMembers depth members) (contentMembers depth others) :=
  .perm (fun _ _ => contentMembers_eq_ok) shuffled

/-- The contents of members stand in their order if the members do, and otherwise have distinct keys. -/
theorem contentMembers_settled {depth : Nat} {members others : List (Key × Document × Position)}
    (distinct : members = others ∨ (names members).Nodup) {held entries : List (Content × Content)}
    (made : contentMembers depth members = .ok held)
    (also : contentMembers depth others = .ok entries) :
    held = entries ∨ (held.map Prod.fst).Nodup := by
  rcases distinct with rfl | distinct
  · exact .inl (Except.ok.inj (made.symm.trans also))
  · exact .inr (keys_distinct made distinct)

mutual

/-- Documents that are alike have contents that are. -/
theorem content_alike : ∀ {tree other : Document}, Alike tree other → ∀ depth,
    SameOutcome Content.Alike (tree.content depth) (other.content depth)
  | _, _, .leaf same, depth => by
    cases same with
    | null => exact .ok .same
    | bool => exact .ok .same
    | number same =>
      cases same with
      | ok equal =>
        rw [equal]
        exact .refl (fun _ => .same) _
      | error => exact .error
    | string same =>
      cases same with
      | ok equal =>
        rw [equal]
        exact .ok .same
      | error => exact .error
  | _, _, .array each, depth => by
    rw [content, content]
    refine (enter_alike depth _ _).bind fun inner other same => ?_
    rw [same]
    exact (contentItems_alike each other).bind fun held others alike => .ok (.sequence alike)
  | _, _, .object each distinct shuffled, depth => by
    rw [content, content]
    refine (enter_alike depth _ _).bind fun inner other same => ?_
    rw [same]
    -- The contents are alike in their places, and then put into another order.
    have moved := (contentMembers_perm other shuffled).imp fun held others made also order =>
      And.intro order (contentMembers_settled distinct made also)
    have whole : SameOutcome (fun held others => Content.Alike (.map held) (.map others)) _ _ :=
      (contentMembers_alike each other).trans moved fun held placed others alike order =>
        .map alike order.2 order.1
    exact whole.bind fun held others alike => .ok alike

/-- Items that are alike have contents that are. -/
theorem contentItems_alike : ∀ {items others : List (Document × Position)},
    ItemsAlike items others → ∀ depth,
    SameOutcome Content.ItemsAlike (contentItems depth items) (contentItems depth others)
  | _, _, .nil, _ => .ok .nil
  | _, _, .cons first rest, depth => by
    rw [contentItems, contentItems]
    refine (content_alike first depth).bind fun held other alike => ?_
    exact (contentItems_alike rest depth).bind fun helds others each => .ok (.cons alike each)

/-- Members that are alike have contents that are. -/
theorem contentMembers_alike : ∀ {members others : List (Key × Document × Position)},
    MembersAlike members others → ∀ depth,
    SameOutcome Content.EntriesAlike (contentMembers depth members) (contentMembers depth others)
  | _, _, .nil, _ => .ok .nil
  | _, _, .cons named first rest, depth => by
    rw [contentMembers, contentMembers]
    refine named.bind fun name other same => ?_
    rw [same]
    refine (content_alike first depth).bind fun held other alike => ?_
    exact (contentMembers_alike rest depth).bind fun helds others each => .ok (.cons alike each)

end

end Document

end Json

end ChatOptions
