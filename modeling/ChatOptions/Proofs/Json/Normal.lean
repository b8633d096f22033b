import ChatOptions.Json.Basic
import ChatOptions.Proofs.SortedMap

/-! The normal form of JSON trees: a normal tree is its own, and the order of members does not matter for it. -/

namespace ChatOptions

namespace Json

/-- A member with its tree sorted. -/
def sortedMember (member : String × Json) : String × Json := (member.1, member.2.sorted)

/-- Sorting members puts them into a map one after the other. -/
theorem sortedMembers_eq (members : List (String × Json)) (placed : SortedMap Json) :
    sortedMembers members placed.entries
      = ((members.map sortedMember).foldl (fun map entry => map.insert entry.1 entry.2)
          placed).entries := by
  -- Each member is put into the map that those before it have filled.
  induction members generalizing placed with
  | nil => rfl
  | cons member rest ih => exact ih (placed.insert member.1 member.2.sorted)

/-- The members of a sorted object are the entries of a map. -/
theorem sorted_object (members : List (String × Json)) :
    (Json.object members).sorted
      = .object (SortedMap.ofList (members.map sortedMember)).entries := by
  rw [sorted]
  exact congrArg Json.object (sortedMembers_eq members .empty)

mutual

/-- A normal tree is left as it is by sorting. -/
theorem sorted_of_normal : ∀ {tree : Json}, tree.Normal → tree.sorted = tree
  | .null, _ => rfl
  | .bool _, _ => rfl
  | .number _, _ => rfl
  | .string _, _ => rfl
  | .array items, normal => by
    rw [sorted, sortedItems_of_normal normal]
  | .object members, normal => by
    obtain ⟨ordered, normals⟩ := normal
    -- The members are already those of a map, and each holds a normal tree.
    rw [sorted_object, map_sortedMember_of_normal normals]
    exact congrArg Json.object
      (congrArg SortedMap.entries (SortedMap.ofList_entries ⟨members, ordered⟩))

/-- Normal trees of a list are left as they are. -/
theorem sortedItems_of_normal : ∀ {items : List Json}, NormalItems items → sortedItems items = items
  | [], _ => rfl
  | item :: rest, normal => by
    rw [sortedItems, sorted_of_normal normal.1, sortedItems_of_normal normal.2]

/-- Members with normal trees are left as they are. -/
theorem map_sortedMember_of_normal :
    ∀ {members : List (String × Json)}, NormalMembers members →
      members.map sortedMember = members
  | [], _ => rfl
  | (key, value) :: rest, normal => by
    rw [List.map_cons, sortedMember, sorted_of_normal normal.1, map_sortedMember_of_normal normal.2]

end

/-- An object whose members have distinct keys may list them in any order. -/
theorem sorted_object_perm {first second : List (String × Json)} (shuffled : first.Perm second)
    (distinct : (first.map Prod.fst).Nodup) :
    (Json.object first).sorted = (Json.object second).sorted := by
  -- Sorting what members hold leaves their keys, which stay distinct.
  have keys : (first.map sortedMember).map Prod.fst = first.map Prod.fst := by
    simp [sortedMember, Function.comp_def]
  rw [sorted_object, sorted_object,
    SortedMap.ofList_perm (shuffled.map sortedMember) (keys ▸ distinct)]

end Json

namespace Value

/-- A value is the value of its own tree. -/
@[simp] theorem ofJson_tree (value : Value) : ofJson value.tree = value := by
  obtain ⟨tree, normal⟩ := value
  -- The proof that the tree is normal makes no difference.
  simp only [ofJson, Json.sorted_of_normal normal]

/-- Trees that are the same when sorted have the same value. -/
theorem ofJson_congr {first second : Json} (same : first.sorted = second.sorted) :
    ofJson first = ofJson second := by
  simp only [ofJson, same]

/-- Members with distinct keys make the same value in any order. -/
theorem ofJson_object_perm {first second : List (String × Json)} (shuffled : first.Perm second)
    (distinct : (first.map Prod.fst).Nodup) : ofJson (.object first) = ofJson (.object second) :=
  ofJson_congr (Json.sorted_object_perm shuffled distinct)

/-- The members of the value of a map are the entries of the map. -/
theorem ofMap_tree (map : SortedMap Value) :
    (ofMap map).tree = .object (map.entries.map fun entry => (entry.1, entry.2.tree)) := by
  -- A map lists its entries in the order that a normal tree must have them.
  have normals : ∀ entries : List (String × Value),
      Json.NormalMembers (entries.map fun entry => (entry.1, entry.2.tree)) := by
    intro entries
    induction entries with
    | nil => trivial
    | cons entry rest ih => exact ⟨entry.2.normal, ih⟩
  have ordered : Ascending (map.entries.map fun entry => (entry.1, entry.2.tree)) :=
    List.pairwise_map.mpr map.ascending
  exact Json.sorted_of_normal ⟨ordered, normals map.entries⟩

end Value

end ChatOptions
