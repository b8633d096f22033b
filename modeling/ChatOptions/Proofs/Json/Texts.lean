import ChatOptions.Proofs.Json.Content

/-! The texts that a tree holds, keys apart, and trees whose texts are replaced by others. -/

namespace ChatOptions

namespace Json

mutual

/-- The texts of a tree that are no keys. -/
def texts : Json → List String
  | .string text => [text]
  | .array items => itemTexts items
  | .object members => memberTexts members
  | _ => []

/-- The texts of a list of trees that are no keys. -/
def itemTexts : List Json → List String
  | [] => []
  | item :: rest => item.texts ++ itemTexts rest

/-- The texts in what members hold that are no keys. -/
def memberTexts : List (String × Json) → List String
  | [] => []
  | (_, value) :: rest => value.texts ++ memberTexts rest

end

mutual

/-- The keys of all objects in a tree. -/
def keys : Json → List String
  | .array items => itemKeys items
  | .object members => memberKeys members
  | _ => []

/-- The keys of all objects in a list of trees. -/
def itemKeys : List Json → List String
  | [] => []
  | item :: rest => item.keys ++ itemKeys rest

/-- The keys of members and of all objects in what they hold. -/
def memberKeys : List (String × Json) → List String
  | [] => []
  | (key, value) :: rest => key :: (value.keys ++ memberKeys rest)

end

mutual

/-- A tree with every text replaced by its image, and with the same keys. -/
def mapTexts (f : String → String) : Json → Json
  | .string text => .string (f text)
  | .array items => .array (mapItemTexts f items)
  | .object members => .object (mapMemberTexts f members)
  | .null => .null
  | .bool value => .bool value
  | .number value => .number value

/-- A list of trees with every text replaced by its image. -/
def mapItemTexts (f : String → String) : List Json → List Json
  | [] => []
  | item :: rest => item.mapTexts f :: mapItemTexts f rest

/-- Members with every text in what they hold replaced by its image. -/
def mapMemberTexts (f : String → String) : List (String × Json) → List (String × Json)
  | [] => []
  | (key, value) :: rest => (key, value.mapTexts f) :: mapMemberTexts f rest

end

/-- The items of a tree are mapped one by one. -/
theorem mapItemTexts_eq_map (f : String → String) (items : List Json) :
    mapItemTexts f items = items.map (mapTexts f) := by
  -- The recursion goes through the list in step with mapping it.
  induction items with
  | nil => rfl
  | cons item rest ih => rw [mapItemTexts, ih, List.map_cons]

/-- The members of a tree are mapped one by one, and keep their keys. -/
theorem mapMemberTexts_eq_map (f : String → String) (members : List (String × Json)) :
    mapMemberTexts f members = members.map fun member => (member.1, member.2.mapTexts f) := by
  induction members with
  | nil => rfl
  | cons member rest ih => rw [mapMemberTexts, ih, List.map_cons]

mutual

/-- Replacing texts leaves a tree as deep as it was. -/
theorem depth_mapTexts (f : String → String) : (tree : Json) → (tree.mapTexts f).depth = tree.depth
  | .null => rfl
  | .bool _ => rfl
  | .number _ => rfl
  | .string _ => rfl
  | .array items => by rw [mapTexts, depth, depth, itemDepth_mapTexts f items]
  | .object members => by rw [mapTexts, depth, depth, memberDepth_mapTexts f members]

/-- Replacing texts leaves a list of trees as deep as it was. -/
theorem itemDepth_mapTexts (f : String → String) :
    (items : List Json) → itemDepth (mapItemTexts f items) = itemDepth items
  | [] => rfl
  | item :: rest => by
    rw [mapItemTexts, itemDepth, itemDepth, depth_mapTexts f item, itemDepth_mapTexts f rest]

/-- Replacing texts leaves members as deep as they were. -/
theorem memberDepth_mapTexts (f : String → String) :
    (members : List (String × Json)) → memberDepth (mapMemberTexts f members) = memberDepth members
  | [] => rfl
  | (_, value) :: rest => by
    rw [mapMemberTexts, memberDepth, memberDepth, depth_mapTexts f value,
      memberDepth_mapTexts f rest]

end

mutual

/-- Replacing texts leaves every double as it was. -/
theorem floatsReadBack_mapTexts (f : String → String) :
    (tree : Json) → tree.FloatsReadBack → (tree.mapTexts f).FloatsReadBack
  | .null, floats => floats
  | .bool _, floats => floats
  | .number _, floats => floats
  | .string _, floats => floats
  | .array items, floats => itemFloatsReadBack_mapTexts f items floats
  | .object members, floats => memberFloatsReadBack_mapTexts f members floats

/-- Replacing texts leaves every double in a list of trees as it was. -/
theorem itemFloatsReadBack_mapTexts (f : String → String) :
    (items : List Json) → ItemFloatsReadBack items → ItemFloatsReadBack (mapItemTexts f items)
  | [], floats => floats
  | item :: rest, ⟨first, others⟩ =>
    ⟨floatsReadBack_mapTexts f item first, itemFloatsReadBack_mapTexts f rest others⟩

/-- Replacing texts leaves every double that members hold as it was. -/
theorem memberFloatsReadBack_mapTexts (f : String → String) :
    (members : List (String × Json)) → MemberFloatsReadBack members →
      MemberFloatsReadBack (mapMemberTexts f members)
  | [], floats => floats
  | (_, value) :: rest, ⟨first, others⟩ =>
    ⟨floatsReadBack_mapTexts f value first, memberFloatsReadBack_mapTexts f rest others⟩

end

mutual

/-- A tree stays where each of its texts is replaced by itself. -/
theorem mapTexts_of_texts {f : String → String} :
    (tree : Json) → (∀ text ∈ tree.texts, f text = text) → tree.mapTexts f = tree
  | .null, _ => rfl
  | .bool _, _ => rfl
  | .number _, _ => rfl
  | .string _, same => by rw [mapTexts, same _ List.mem_cons_self]
  | .array items, same => by rw [mapTexts, mapItemTexts_of_texts items same]
  | .object members, same => by rw [mapTexts, mapMemberTexts_of_texts members same]

/-- A list of trees stays where each of their texts is replaced by itself. -/
theorem mapItemTexts_of_texts {f : String → String} :
    (items : List Json) → (∀ text ∈ itemTexts items, f text = text) →
      mapItemTexts f items = items
  | [], _ => rfl
  | item :: rest, same => by
    rw [mapItemTexts, mapTexts_of_texts item fun text found => same text (List.mem_append_left _ found),
      mapItemTexts_of_texts rest fun text found => same text (List.mem_append_right _ found)]

/-- Members stay where each text that they hold is replaced by itself. -/
theorem mapMemberTexts_of_texts {f : String → String} :
    (members : List (String × Json)) → (∀ text ∈ memberTexts members, f text = text) →
      mapMemberTexts f members = members
  | [], _ => rfl
  | (_, value) :: rest, same => by
    rw [mapMemberTexts,
      mapTexts_of_texts value fun text found => same text (List.mem_append_left _ found),
      mapMemberTexts_of_texts rest fun text found => same text (List.mem_append_right _ found)]

end

/-- Members whose texts are replaced keep the order of their keys. -/
theorem ascending_mapMemberTexts (f : String → String) {members : List (String × Json)}
    (ordered : Ascending members) : Ascending (mapMemberTexts f members) := by
  -- Only the keys have an order, and they stay.
  rw [mapMemberTexts_eq_map]
  exact List.pairwise_map.mpr ordered

mutual

/-- Replacing texts leaves a tree normal. -/
theorem normal_mapTexts (f : String → String) :
    (tree : Json) → tree.Normal → (tree.mapTexts f).Normal
  | .null, _ => trivial
  | .bool _, _ => trivial
  | .number _, _ => trivial
  | .string _, _ => trivial
  | .array items, normal => normalItems_mapTexts f items normal
  | .object members, ⟨ordered, normal⟩ =>
    ⟨ascending_mapMemberTexts f ordered, normalMembers_mapTexts f members normal⟩

/-- Replacing texts leaves a list of trees normal. -/
theorem normalItems_mapTexts (f : String → String) :
    (items : List Json) → NormalItems items → NormalItems (mapItemTexts f items)
  | [], _ => trivial
  | item :: rest, ⟨first, others⟩ =>
    ⟨normal_mapTexts f item first, normalItems_mapTexts f rest others⟩

/-- Replacing texts leaves members normal. -/
theorem normalMembers_mapTexts (f : String → String) :
    (members : List (String × Json)) → NormalMembers members →
      NormalMembers (mapMemberTexts f members)
  | [], _ => trivial
  | (_, value) :: rest, ⟨first, others⟩ =>
    ⟨normal_mapTexts f value first, normalMembers_mapTexts f rest others⟩

end

end Json

/-- A value with every text that is no key replaced by its image. -/
def Value.mapTexts (f : String → String) (value : Value) : Value :=
  ⟨value.tree.mapTexts f, Json.normal_mapTexts f value.tree value.normal⟩

end ChatOptions
