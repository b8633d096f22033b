import ChatOptions.SortedMap
import ChatOptions.Json.Number

/-! JSON trees, and JSON values: trees whose objects list each key once, in ascending order. -/

namespace ChatOptions

/-- A JSON tree, whose objects list members in any order and may repeat keys. -/
inductive Json where
  | null
  | bool (value : Bool)
  | number (value : Number)
  | string (value : String)
  | array (items : List Json)
  | object (members : List (String × Json))
deriving Inhabited

namespace Json

/-- A double as JSON, in which NaN and the infinities have no number and become null. -/
def ofFloat (value : Float) : Json :=
  match Number.ofFloat? value with
  | some finite => .number finite
  | none => .null

mutual

/-- Whether every object of a tree lists its keys in strictly ascending order. -/
def Normal : Json → Prop
  | .array items => NormalItems items
  | .object members => Ascending members ∧ NormalMembers members
  | _ => True

/-- Whether every tree of a list is normal. -/
def NormalItems : List Json → Prop
  | [] => True
  | item :: rest => item.Normal ∧ NormalItems rest

/-- Whether every tree held by a member is normal. -/
def NormalMembers : List (String × Json) → Prop
  | [] => True
  | (_, value) :: rest => value.Normal ∧ NormalMembers rest

end

mutual

/-- The tree with the members of every object in key order, the last of repeated keys kept. -/
def sorted : Json → Json
  | .array items => .array (sortedItems items)
  | .object members => .object (sortedMembers members [])
  | .null => .null
  | .bool value => .bool value
  | .number value => .number value
  | .string value => .string value

/-- Every tree of a list sorted. -/
def sortedItems : List Json → List Json
  | [] => []
  | item :: rest => item.sorted :: sortedItems rest

/-- Members put one by one, each with a sorted tree, into members already in order. -/
def sortedMembers : List (String × Json) → List (String × Json) → List (String × Json)
  | [], placed => placed
  | (key, value) :: rest, placed => sortedMembers rest (insertEntry key value.sorted placed)

end

/-- Normal members stay normal when a normal tree is put among them. -/
theorem NormalMembers.insertEntry {key : String} {value : Json} (normal : value.Normal) :
    ∀ {members : List (String × Json)}, NormalMembers members →
      NormalMembers (ChatOptions.insertEntry key value members)
  | [], _ => by simp [ChatOptions.insertEntry, NormalMembers, normal]
  | (other, held) :: rest, allNormal => by
    rw [NormalMembers] at allNormal
    rw [ChatOptions.insertEntry]
    -- The new member goes before the first, in its place, or behind it.
    split
    · simpa [NormalMembers, normal] using allNormal
    · split
      · simpa [NormalMembers, normal] using allNormal.2
      · exact ⟨allNormal.1, NormalMembers.insertEntry normal allNormal.2⟩

mutual

/-- Sorting makes a tree normal. -/
theorem sorted_normal : (tree : Json) → tree.sorted.Normal
  | .array items => by simpa [sorted, Normal] using sortedItems_normal items
  | .object members => by
    have placed := sortedMembers_normal members [] .nil trivial
    simpa [sorted, Normal] using placed
  | .null => trivial
  | .bool _ => trivial
  | .number _ => trivial
  | .string _ => trivial

/-- Sorting makes every tree of a list normal. -/
theorem sortedItems_normal : (items : List Json) → NormalItems (sortedItems items)
  | [] => trivial
  | item :: rest => ⟨item.sorted_normal, sortedItems_normal rest⟩

/-- Members put one by one into ordered normal ones are ordered and normal. -/
theorem sortedMembers_normal : (members placed : List (String × Json)) → Ascending placed →
    NormalMembers placed →
    Ascending (sortedMembers members placed) ∧ NormalMembers (sortedMembers members placed)
  | [], _, ordered, normal => ⟨ordered, normal⟩
  | (key, value) :: rest, placed, ordered, normal =>
    sortedMembers_normal rest (insertEntry key value.sorted placed) (ordered.insertEntry key _)
      (normal.insertEntry value.sorted_normal)

end

mutual

/-- Whether two trees agree, member by member in the order they are listed. -/
protected def beq : Json → Json → Bool
  | .null, .null => true
  | .bool first, .bool second => first == second
  | .number first, .number second => first == second
  | .string first, .string second => first == second
  | .array first, .array second => beqItems first second
  | .object first, .object second => beqMembers first second
  | _, _ => false

/-- Whether two lists agree tree by tree. -/
def beqItems : List Json → List Json → Bool
  | [], [] => true
  | first :: firsts, second :: seconds => first.beq second && beqItems firsts seconds
  | _, _ => false

/-- Whether two member lists agree in keys and trees. -/
def beqMembers : List (String × Json) → List (String × Json) → Bool
  | [], [] => true
  | (key, first) :: firsts, (other, second) :: seconds =>
    -- Members are compared in place, which is enough once they are in order.
    key == other && first.beq second && beqMembers firsts seconds
  | _, _ => false

end

instance : BEq Json := ⟨Json.beq⟩

end Json

/-- A JSON value: a tree in which the order of members no longer matters, because every object lists its keys in ascending order. -/
structure Value where
  tree : Json
  normal : tree.Normal

namespace Value

/-- The value of a tree, in which the last member of a repeated key counts. -/
def ofJson (tree : Json) : Value := ⟨tree.sorted, tree.sorted_normal⟩

instance : BEq Value := ⟨fun first second => first.tree == second.tree⟩

instance : Inhabited Value := ⟨⟨.null, trivial⟩⟩

/-- The value whose members are the entries of a map. -/
def ofMap (map : SortedMap Value) : Value :=
  .ofJson (.object (map.entries.map fun entry => (entry.1, entry.2.tree)))

end Value

end ChatOptions
