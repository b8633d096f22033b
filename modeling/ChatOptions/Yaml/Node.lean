import ChatOptions.Yaml.Token

/-! The nodes of a YAML document. -/

namespace ChatOptions

namespace Yaml

/-- The type that a tag gives to a scalar. -/
inductive CoreType where
  | null
  | bool
  | integer
  | float
deriving DecidableEq, Repr

/-- A tag of a node. -/
inductive Tag where
  /-- A tag for one of the types of scalars. -/
  | core (type : CoreType)
  /-- A tag that begins with an exclamation mark, and what follows the mark if that is text. -/
  | application (name : Option String)
  /-- A tag for anything else. -/
  | other
deriving DecidableEq, Repr

/-- The text that octets spell. -/
def textOfOctets? (octets : List UInt8) : Option String := String.fromUTF8? ⟨octets.toArray⟩

/-- The tag that octets spell. -/
def Tag.ofOctets : List UInt8 → Tag
  -- An exclamation mark alone is its own name.
  | [0x21] => .application (some "!")
  | 0x21 :: name => .application (textOfOctets? name)
  | octets =>
    match textOfOctets? octets with
    | some "tag:yaml.org,2002:null" => .core .null
    | some "tag:yaml.org,2002:bool" => .core .bool
    | some "tag:yaml.org,2002:int" => .core .integer
    | some "tag:yaml.org,2002:float" => .core .float
    | _ => .other

/-- What stands before a node. -/
structure Properties where
  start : Mark
  tag : Option Tag
  /-- The number of the node's anchor. -/
  anchor : Option Nat

/-- A text, and how it is written. -/
structure Scalar where
  style : ScalarStyle
  text : String

/-- A node of a document that may break off. -/
inductive Node where
  | scalar (properties : Properties) (scalar : Scalar)
  | sequence (properties : Properties) (items : List Node)
  | mapping (properties : Properties) (entries : List (Node × Node))
  /-- A reference to the last node with an anchor of a number. -/
  | reference (start : Mark) (anchor : Nat)
  /-- The root of a document that is not there. -/
  | absent (start : Mark)
  /-- The document breaks off here. -/
  | broken (fault : Fault)

namespace Node

/-- The place where a node begins. -/
def start : Node → Mark
  | .scalar properties _ | .sequence properties _ | .mapping properties _ => properties.start
  | .reference start _ | .absent start => start
  | .broken _ => .start

mutual

/-- Passes over a node, unless the document breaks off inside of it. -/
def skip : Node → Except Fault Unit
  | .scalar _ _ | .reference _ _ | .absent _ => .ok ()
  | .sequence _ items => skipItems items
  | .mapping _ entries => skipEntries entries
  | .broken fault => .error fault

/-- Passes over items. -/
def skipItems : List Node → Except Fault Unit
  | [] => .ok ()
  | item :: rest =>
    match item.skip with
    | .ok () => skipItems rest
    | .error fault => .error fault

/-- Passes over entries. -/
def skipEntries : List (Node × Node) → Except Fault Unit
  | [] => .ok ()
  | (key, value) :: rest =>
    match key.skip with
    | .error fault => .error fault
    | .ok () =>
      match value.skip with
      | .ok () => skipEntries rest
      | .error fault => .error fault

end

mutual

/-- The number of nodes in a tree, with the end of each collection counted too. -/
def size : Node → Nat
  | .scalar _ _ | .reference _ _ | .absent _ => 1
  | .sequence properties items =>
    1 + sizeOfItems items + (if (Node.sequence properties items).skip.isOk then 1 else 0)
  | .mapping properties entries =>
    1 + sizeOfEntries entries + (if (Node.mapping properties entries).skip.isOk then 1 else 0)
  -- Where a document breaks off there is no node, and the collections around have no end.
  | .broken _ => 0

/-- The number of nodes in items. -/
def sizeOfItems : List Node → Nat
  | [] => 0
  | item :: rest => item.size + sizeOfItems rest

/-- The number of nodes in entries. -/
def sizeOfEntries : List (Node × Node) → Nat
  | [] => 0
  | (key, value) :: rest => key.size + value.size + sizeOfEntries rest

end

mutual

/-- The nodes with anchors in a tree, before those that are given, each with the number of its anchor. -/
def anchored : Node → List (Nat × Node) → List (Nat × Node)
  | .scalar ⟨start, tag, some anchor⟩ leaf, later =>
    (anchor, .scalar ⟨start, tag, some anchor⟩ leaf) :: later
  | .sequence ⟨start, tag, some anchor⟩ items, later =>
    (anchor, .sequence ⟨start, tag, some anchor⟩ items) :: anchoredItems items later
  | .mapping ⟨start, tag, some anchor⟩ entries, later =>
    (anchor, .mapping ⟨start, tag, some anchor⟩ entries) :: anchoredEntries entries later
  | .sequence ⟨_, _, none⟩ items, later => anchoredItems items later
  | .mapping ⟨_, _, none⟩ entries, later => anchoredEntries entries later
  | .scalar ⟨_, _, none⟩ _, later | .reference _ _, later | .absent _, later | .broken _, later =>
    later

/-- The nodes with anchors in items. -/
def anchoredItems : List Node → List (Nat × Node) → List (Nat × Node)
  | [], later => later
  | item :: rest, later => item.anchored (anchoredItems rest later)

/-- The nodes with anchors in entries. -/
def anchoredEntries : List (Node × Node) → List (Nat × Node) → List (Nat × Node)
  | [], later => later
  | (key, value) :: rest, later => key.anchored (value.anchored (anchoredEntries rest later))

end

end Node

end Yaml

end ChatOptions
