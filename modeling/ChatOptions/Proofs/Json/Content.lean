import ChatOptions.Json.Reader
import ChatOptions.Proofs.Json.Document
import ChatOptions.Proofs.Json.Normal
import ChatOptions.Proofs.Reading.Written

/-! What is held back of a tree, and that readers of content held back read what is written for them. -/

namespace ChatOptions

open TreeFormat (Reads)

namespace Json

mutual

/-- The content of a tree. -/
def content : Json → Content
  | .null => .nothing
  | .bool value => .bool value
  | .number (.integer value _) => .integer (.ofInt value)
  | .number (.float value _) => .float value
  | .string value => .string value
  | .array items => .sequence (itemContents items)
  | .object members => .map (memberContents members)

/-- The contents of a list of trees. -/
def itemContents : List Json → List Content
  | [] => []
  | item :: rest => item.content :: itemContents rest

/-- The contents of members. -/
def memberContents : List (String × Json) → List (Content × Content)
  | [] => []
  | (key, value) :: rest => (.string key, value.content) :: memberContents rest

end

mutual

/-- How deep arrays and objects nest in a tree. -/
def depth : Json → Nat
  | .array items => 1 + itemDepth items
  | .object members => 1 + memberDepth members
  | _ => 0

/-- How deep arrays and objects nest in a list of trees. -/
def itemDepth : List Json → Nat
  | [] => 0
  | item :: rest => max item.depth (itemDepth rest)

/-- How deep arrays and objects nest in what members hold. -/
def memberDepth : List (String × Json) → Nat
  | [] => 0
  | (_, value) :: rest => max value.depth (memberDepth rest)

end

mutual

/-- The content of a tree is the tree again. -/
theorem toJson_content : (tree : Json) → tree.content.toJson = .ok tree
  | .null => rfl
  | .bool _ => rfl
  | .number (.integer value inRange) => by
    rw [content, Content.toJson, WholeNumber.toInt_ofInt, Number.ofInt?_integer inRange]
  | .number (.float value finite) => by
    rw [content, Content.toJson, ofFloat, Number.ofFloat?, dif_pos finite]
  | .string _ => rfl
  | .array items => by
    rw [content, Content.toJson, itemsToJson_contents items]
    rfl
  | .object members => by
    rw [content, Content.toJson, entriesToJson_contents members]
    rfl

/-- The contents of a list of trees are the trees again. -/
theorem itemsToJson_contents : (items : List Json) →
    Content.itemsToJson (itemContents items) = .ok items
  | [] => rfl
  | item :: rest => by
    rw [itemContents, Content.itemsToJson, toJson_content item, itemsToJson_contents rest]
    rfl

/-- The contents of members are the members again, whatever is expected of keys. -/
theorem entriesToJson_contents : (members : List (String × Json)) → {expected : String} →
    Content.entriesToJson expected (memberContents members) = .ok members
  | [], _ => rfl
  | (key, value) :: rest, _ => by
    rw [memberContents, Content.entriesToJson, toJson_content value,
      entriesToJson_contents rest]
    rfl

end

namespace Document

/-- Inside an array or object the depth that is left is one less, where anything is left. -/
theorem enter_of_lt {depth inner : Nat} (start : Position) (shallow : 1 + inner < depth) :
    enter depth start = .ok (depth - 1) := by
  rw [enter, if_neg (by omega)]

mutual

/-- The content of a document that spells a tree is that of the tree, if it nests no deeper than it may. -/
theorem content_of_spells : (tree : Json) → {whole : Document} → {depth : Nat} →
    Spells whole tree → tree.depth < depth → whole.content depth = .ok tree.content
  | .null, _, _, spells, _ => by
    cases spells
    rfl
  | .bool _, _, _, spells, _ => by
    cases spells
    rfl
  | .number value, _, _, spells, _ => by
    cases spells
    cases value <;> rfl
  | .string _, _, _, spells, _ => by
    cases spells
    rfl
  | .array items, _, depth, spells, shallow => by
    cases spells with
    | array each =>
      rw [Json.depth] at shallow
      -- One level is entered, so the limit and the depth are both one less inside.
      have inner : itemDepth items < depth - 1 := by omega
      have held := contentItems_of_spells items each inner
      simp only [content, enter_of_lt _ shallow, bind, Except.bind, held]
      rfl
  | .object members, _, depth, spells, shallow => by
    cases spells with
    | object each =>
      rw [Json.depth] at shallow
      have inner : memberDepth members < depth - 1 := by omega
      have held := contentMembers_of_spells members each inner
      simp only [content, enter_of_lt _ shallow, bind, Except.bind, held]
      rfl

/-- The contents of parts that spell trees are those of the trees. -/
theorem contentItems_of_spells : (items : List Json) → {parts : List (Document × Position)} →
    {depth : Nat} → SpellsItems parts items → itemDepth items < depth →
      contentItems depth parts = .ok (itemContents items)
  | [], _, _, .nil, _ => rfl
  | item :: items, _, _, .cons first rest, shallow => by
    rw [itemDepth] at shallow
    -- Each item nests no deeper than the deepest of all.
    have head := content_of_spells item first (Nat.lt_of_le_of_lt (Nat.le_max_left ..) shallow)
    have tail := contentItems_of_spells items rest
      (Nat.lt_of_le_of_lt (Nat.le_max_right ..) shallow)
    simp only [contentItems, bind, Except.bind, head, tail]
    rfl

/-- The contents of parts that spell members are those of the members. -/
theorem contentMembers_of_spells : (members : List (String × Json)) →
    {parts : List (Key × Document × Position)} → {depth : Nat} → SpellsMembers parts members →
      memberDepth members < depth → contentMembers depth parts = .ok (memberContents members)
  | [], _, _, .nil, _ => rfl
  | (name, value) :: members, _, _, .cons named first rest, shallow => by
    rw [memberDepth] at shallow
    -- The name is the key of the member, and what it holds nests no deeper than the deepest.
    have head := content_of_spells value first (Nat.lt_of_le_of_lt (Nat.le_max_left ..) shallow)
    have tail := contentMembers_of_spells members rest
      (Nat.lt_of_le_of_lt (Nat.le_max_right ..) shallow)
    simp only [contentMembers, bind, Except.bind, named, head, tail]
    rfl

end

end Document

end Json

namespace ContentReader

/-- A reader of content reads a tree where it makes the value of the content of the tree. -/
instance : TreeFormat ContentReader where
  Reads reader tree value := reader tree.content = .ok value

/-- Content other than nothing is left to the reader of what may be absent. -/
theorem optional_content {α : Type} (reader : ContentReader α) {tree : Json}
    (present : tree ≠ .null) : optional reader tree.content = (reader tree.content).map some := by
  -- Only null has nothing as its content, so no other tree is taken for an absent value.
  cases tree with
  | null => exact absurd rfl present
  | number number => cases number <;> rfl
  | _ => rfl

/-- Members that fill the fields of a record are read by name. -/
theorem named_filled {σ : Type} {record : Record ContentReader σ}
    (distinct : (record.fields.map (·.name)).Nodup) {fields : List (Field ContentReader σ)}
    {members : List (String × Json)} {state final : σ}
    (filled : Filled fields members state final) :
    ∀ {before : List (Field ContentReader σ)} {seen : List String},
      record.ReadTo before fields seen →
      named record (Json.memberContents members) seen state = .ok final := by
  -- The induction follows the fields; what is fixed is which of them have been read.
  induction filled with
  | nil =>
    intro before seen readTo
    exact readTo.finish _
  | @given field fields tree members update state final read rest ih =>
    intro before seen readTo
    -- The name finds this very field, which has not been seen before.
    have updated : field.read tree.content = .ok update := read
    simp only [Json.memberContents, named, keyName, bind, Except.bind, readTo.find distinct,
      readTo.once distinct, updated]
    exact ih readTo.given
  | absent spared rest ih =>
    intro before seen readTo
    exact ih (readTo.absent spared)

instance : LawfulFormat ContentReader where
  map {α β f reader tree value} reads := by
    have read : reader tree.content = .ok value := reads
    show (reader tree.content).map f = .ok (f value)
    rw [read]
    rfl
  string text := rfl
  boolean value := rfl
  value value := by
    show value.tree.content.toJson.map Value.ofJson = .ok value
    rw [Json.toJson_content]
    exact congrArg Except.ok value.ofJson_tree
  optional_null reader := rfl
  optional_some {α reader tree value} present reads := by
    have read : reader tree.content = .ok value := reads
    show optional reader tree.content = .ok (some value)
    rw [optional_content reader present, read]
    rfl
  choice {α choices name value} found := by
    show chosen choices name = .ok value
    rw [chosen, found]
  record {σ record members final} distinct filled :=
    named_filled distinct filled (Record.ReadTo.start record)

end ContentReader

end ChatOptions
