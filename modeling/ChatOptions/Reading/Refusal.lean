import ChatOptions.Decimal.Shortest
import ChatOptions.Reading.WholeNumber
import ChatOptions.Text.Quoted

/-! The reasons for which well-formed data is refused by a typed reader, and their wording. -/

namespace ChatOptions

/-- What stood in the data where something else was wanted. -/
inductive Found where
  | nothing
  | bool (value : Bool)
  | integer (value : WholeNumber)
  /-- A whole number that no machine word holds. -/
  | wideInteger (value : Int)
  | float (value : Float)
  | string (value : String)
  | sequence
  | map
  | enumeration

/-- A reason for which a typed reader refuses data. -/
inductive Refusal where
  | wrongType (found : Found) (expected : String)
  | wrongValue (found : Found) (expected : String)
  | wrongLength (length : Nat) (expected : String)
  | unknownChoice (name : String) (known : List String)
  | unknownField (name : String) (known : List String)
  | missingField (name : String)
  | repeatedField (name : String)
  /-- None of the alternative shapes of a type fits the data. -/
  | noAlternative (typeName : String)
  /-- Data that must be held back before it is understood names a choice by a tag of its own. -/
  | heldBackChoice
  /-- A whole number that no JSON value holds. -/
  | wideNumber

/-- How a format names the absence of a value and writes doubles in messages. -/
structure Wording where
  nothing : String
  float : FloatNotation

namespace Wording

/-- The words for data read from JSON. -/
def json : Wording := ⟨"null", .json⟩

/-- The words for data read from YAML. -/
def yaml : Wording := ⟨"unit value", .prose⟩

end Wording

/-- What was found, in words. -/
def Found.message (wording : Wording) : Found → String
  | .nothing => wording.nothing
  | .bool value => "boolean `" ++ (if value then "true" else "false") ++ "`"
  | .integer value => "integer `" ++ toString value.toInt ++ "`"
  | .wideInteger value =>
    "integer `" ++ toString value ++ "` as " ++ (if 0 ≤ value then "u128" else "i128")
  | .float value => "floating point `" ++ String.ofList (wording.float.text value) ++ "`"
  | .string value => "string " ++ messageQuoted value
  | .sequence => "sequence"
  | .map => "map"
  | .enumeration => "enum"

/-- A list of known names, in words. -/
def knownNames : List String → String
  | [] => "nothing"
  | [only] => "`" ++ only ++ "`"
  | [first, second] => "`" ++ first ++ "` or `" ++ second ++ "`"
  | names => "one of " ++ ", ".intercalate (names.map fun name => "`" ++ name ++ "`")

/-- A number of elements, in words. -/
def elementCount (count : Nat) : String :=
  toString count ++ (if count = 1 then " element" else " elements")

namespace Refusal

/-- The reason in words. -/
def message (wording : Wording) : Refusal → String
  | .wrongType found expected =>
    "invalid type: " ++ found.message wording ++ ", expected " ++ expected
  | .wrongValue found expected =>
    "invalid value: " ++ found.message wording ++ ", expected " ++ expected
  | .wrongLength length expected =>
    "invalid length " ++ toString length ++ ", expected " ++ expected
  | .unknownChoice name known =>
    "unknown variant `" ++ name ++ "`, expected " ++ knownNames known
  | .unknownField name known =>
    "unknown field `" ++ name ++ "`, expected " ++ knownNames known
  | .missingField name => "missing field `" ++ name ++ "`"
  | .repeatedField name => "duplicate field `" ++ name ++ "`"
  | .noAlternative typeName => "data did not match any variant of untagged enum " ++ typeName
  | .heldBackChoice => "untagged and internally tagged enums do not support enum input"
  | .wideNumber => "JSON number out of range"

end Refusal

end ChatOptions
