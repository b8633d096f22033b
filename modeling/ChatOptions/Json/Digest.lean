import ChatOptions.Json.Basic

/-! What a JSON value feeds to a hash function, write by write. -/

namespace ChatOptions

/-- One write to a hash function; a text is written so that its end can be told. -/
inductive HashWrite where
  | byte (value : UInt8)
  | short (value : UInt32)
  | word (value : UInt64)
  | text (value : String)
deriving DecidableEq, Hashable

/-- A hash function, as what it makes of a sequence of writes. -/
abbrev HashFunction := List HashWrite → UInt64

namespace HashWrite

/-- The write of a length. -/
def length (count : Nat) : HashWrite := word (UInt64.ofNat count)

/-- The writes of an optional part: whether it is there, and then the part. -/
def option {α : Type} (part : α → List HashWrite) : Option α → List HashWrite
  | none => [word 0]
  | some value => word 1 :: part value

/-- The writes of a list of parts: their number, and then each. -/
def list {α : Type} (part : α → List HashWrite) (parts : List α) : List HashWrite :=
  length parts.length :: parts.flatMap part

/-- The write of a truth value. -/
def bool (value : Bool) : HashWrite := byte (if value then 1 else 0)

/-- The write of a number that is a double, by its bits. -/
def float (value : Float) : HashWrite := word value.toBits

end HashWrite

/-- The writes of a number: its kind, and its value with the two zeros as one. -/
def Number.writes : Number → List HashWrite
  | .integer value _ =>
    -- A negative number is written as the word that holds its complement.
    if 0 ≤ value then [.byte 0, .word (UInt64.ofNat value.toNat)]
    else [.byte 1, .word (UInt64.ofNat (UInt64.size - value.natAbs))]
  | .float value _ => [.byte 2, .float (if value == 0.0 then 0.0 else value)]

namespace Json

mutual

/-- The writes of a tree. -/
def writes (hash : HashFunction) : Json → List HashWrite
  | .null => [.byte 0]
  | .bool value => [.byte 1, .bool value]
  | .number value => .byte 2 :: value.writes
  | .string value => [.byte 3, .text value]
  | .array items => .byte 4 :: .length items.length :: writesItems hash items
  -- The entries are hashed one by one and added up, so their order leaves no trace.
  | .object members => [.byte 5, .length members.length, .word (sumMembers hash members)]

/-- The writes of the trees of a list, one after the other. -/
def writesItems (hash : HashFunction) : List Json → List HashWrite
  | [] => []
  | item :: rest => item.writes hash ++ writesItems hash rest

/-- The sum of the hashes of the members, each by its key and its tree. -/
def sumMembers (hash : HashFunction) : List (String × Json) → UInt64
  | [] => 0
  | (key, value) :: rest => hash (.text key :: value.writes hash) + sumMembers hash rest

end

end Json

/-- The writes of a value. -/
def Value.writes (hash : HashFunction) (value : Value) : List HashWrite := value.tree.writes hash

end ChatOptions
