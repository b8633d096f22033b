import ChatOptions.Reading.Refusal

/-! Faults of a YAML text: what is wrong, and where. -/

namespace ChatOptions

namespace Yaml

/-- A place in a text: the bytes, whole lines, and characters of the last line that precede it. -/
structure Mark where
  offset : Nat
  line : Nat
  column : Nat
deriving DecidableEq, Repr

namespace Mark

/-- The beginning of a text. -/
def start : Mark := ⟨0, 0, 0⟩

/-- Whether the place is the first of its text. -/
def isStart (mark : Mark) : Bool := mark.line == 0 && mark.column == 0

/-- Whether two places are the same line and column. -/
def samePlace (first second : Mark) : Bool :=
  first.line == second.line && first.column == second.column

/-- The place in words that follow a message; nothing is said of the beginning of a text. -/
def suffix (mark : Mark) : String :=
  if mark.isStart then ""
  else " at line " ++ toString (mark.line + 1) ++ " column " ++ toString (mark.column + 1)

end Mark

/-- The way from the root of a document to a node. -/
inductive Path where
  | root
  | item (parent : Path) (index : Nat)
  | entry (parent : Path) (key : String)
  /-- The way to the value of a key that is no text. -/
  | unnamed (parent : Path)

namespace Path

/-- The way in words. -/
def text : Path → String
  | .root => "."
  | .item parent index => parent.text ++ "[" ++ toString index ++ "]"
  | .entry .root key => key
  | .entry parent key => parent.text ++ "." ++ key
  | .unnamed .root => "?"
  | .unnamed parent => parent.text ++ ".?"

/-- The way in words before a message about the node that it leads to. -/
def lead : Path → String
  | .root => ""
  | path => path.text ++ ": "

end Path

/-- What a text was understood to be doing when it went wrong. -/
structure Context where
  message : String
  start : Mark

/-- A way in which a text cannot be read. -/
inductive Fault where
  /-- A character that no text may hold, after some bytes. -/
  | controlCharacter (offset : Nat)
  /-- The text is not well formed. -/
  | malformed (problem : String) (place : Mark) (context : Option Context)
  /-- A node refers to an anchor that is not there. -/
  | unknownAnchor (place : Mark)
  /-- Nodes nest too deep. -/
  | tooDeep (place : Mark)
  /-- Nodes are repeated too often by reference. -/
  | tooManyRepetitions
  /-- A document ends where a node is wanted. -/
  | endOfDocument
  /-- The text holds more than one document. -/
  | severalDocuments
  /-- The data is refused, at a node where one is known. -/
  | refusal (reason : Refusal) (node : Option (Mark × Path))

namespace Fault

/-- A refusal of data whose node is not known. -/
def unplaced (reason : Refusal) : Fault := .refusal reason none

/-- The fault at the node given, if it is a refusal that has no place yet. -/
def settled (fault : Fault) (mark : Mark) (path : Path) : Fault :=
  match fault with
  | .refusal reason none => .refusal reason (some (mark, path))
  | placed => placed

/-- The place of the fault, where it has one. -/
def place? : Fault → Option Mark
  | .controlCharacter _ => some .start
  | .malformed _ place _ => some place
  | .unknownAnchor place => some place
  | .tooDeep place => some place
  | .refusal _ (some (place, _)) => some place
  | .tooManyRepetitions | .endOfDocument | .severalDocuments | .refusal _ none => none

/-- The line of the fault, from one. -/
def line? (fault : Fault) : Option Nat := fault.place?.map (·.line + 1)

/-- The column of the fault, from one. -/
def column? (fault : Fault) : Option Nat := fault.place?.map (·.column + 1)

/-- What was being done, in words that follow a message about a place. -/
def contextSuffix (place : Mark) (context : Context) : String :=
  ", " ++ context.message ++
    (if context.start.samePlace place then "" else context.start.suffix)

/-- The fault in words, with its place. -/
def message : Fault → String
  | .controlCharacter offset =>
    "control characters are not allowed" ++
      (if offset = 0 then "" else " at position " ++ toString offset)
  | .malformed problem place context =>
    problem ++ place.suffix ++ ((context.map (contextSuffix place)).getD "")
  | .unknownAnchor place => "unknown anchor" ++ place.suffix
  | .tooDeep place => "recursion limit exceeded" ++ place.suffix
  | .tooManyRepetitions => "repetition limit exceeded"
  | .endOfDocument => "EOF while parsing a value"
  | .severalDocuments =>
    "deserializing from YAML containing more than one document is not supported"
  | .refusal reason none => reason.message .yaml
  | .refusal reason (some (place, path)) =>
    path.lead ++ reason.message .yaml ++ place.suffix

end Fault

end Yaml

end ChatOptions
