import ChatOptions.Decimal.Literal
import ChatOptions.Reading.Refusal
import ChatOptions.Yaml.Cursor
import ChatOptions.Yaml.Node

/-! What a scalar stands for. -/

namespace ChatOptions

namespace Yaml

namespace Plain

/-- Whether a text spells the absence of a value. -/
def isNull (text : String) : Bool := ["null", "Null", "NULL", "~"].contains text

/-- The truth value that a text spells. -/
def bool? (text : String) : Option Bool :=
  if ["true", "True", "TRUE"].contains text then some true
  else if ["false", "False", "FALSE"].contains text then some false
  else none

/-- The number that digits of a base spell, of which there has to be one. -/
def digits? (base : Nat) (text : List Char) : Option Nat :=
  if text.isEmpty then none
  else text.foldlM (fun value char => do
    let digit ← hexDigit? char
    if digit < base then some (value * base + digit) else none) 0

/-- The number that digits spell behind a sign or none, and behind a letter that names their base or none. -/
def magnitude? : List Char → Option Nat
  | '0' :: 'x' :: rest => digits? 16 rest
  | '0' :: 'o' :: rest => digits? 8 rest
  | '0' :: 'b' :: rest => digits? 2 rest
  | text => digits? 10 text

/-- Whether digits behind a sign or none begin with a zero that has no meaning, so that they are no number. -/
def hasLeadingZero (text : List Char) : Bool :=
  let unsigned := match text with
    | '+' :: rest | '-' :: rest => rest
    | _ => text
  match unsigned with
  | '0' :: rest => !rest.isEmpty && rest.all Char.isDigit
  | _ => false

/-- The whole number that a text spells, of any size. -/
def integer? (text : List Char) : Option WholeNumber :=
  -- Such digits are neither a whole number nor a double, and stay a text.
  if hasLeadingZero text then none
  else
    match text with
    | '-' :: rest => (magnitude? rest).map .negated
    | '+' :: rest => (magnitude? rest).map .natural
    | _ => (magnitude? text).map .natural

/-- The whole number below a bound that a text spells without a minus sign. -/
def natural? (bound : Nat) (text : List Char) : Option Nat :=
  match integer? text with
  | some (.natural value) => if value < bound then some value else none
  | _ => none

/-- What a text that spells a whole number stands for, if it is not too large. -/
def number? (text : List Char) : Option Found := do
  let number ← integer? text
  let value := number.toInt
  -- Words of 64 bits come first, then those of 128, and beyond them it is no whole number.
  if -9223372036854775808 ≤ value ∧ value < 18446744073709551616 then some (.integer number)
  else if -170141183460469231731687303715884105728 ≤ value ∧
      value < 340282366920938463463374607431768211456 then some (.wideInteger value)
  else none

/-- The double that a text spells. A text too large for a double spells none. -/
def float? (text : String) : Option Float :=
  let chars := text.toList
  let unsigned := match chars with
    | '+' :: rest => rest
    | _ => chars
  let twoSigns := match chars with
    | '+' :: '+' :: _ | '+' :: '-' :: _ => true
    | _ => false
  if twoSigns then none
  else if [".inf", ".Inf", ".INF"].contains (String.ofList unsigned) then some (1.0 / 0.0)
  else if ["-.inf", "-.Inf", "-.INF"].contains text then some (-1.0 / 0.0)
  else if [".nan", ".NaN", ".NAN"].contains text then some (0.0 / 0.0)
  else (Decimal.float? unsigned).filter (·.isFinite)

/-- What a scalar without quotes and without a tag stands for. -/
def found (text : String) : Found :=
  let chars := text.toList
  if text.isEmpty || isNull text then .nothing
  else
    match bool? text with
    | some value => .bool value
    | none =>
      match number? chars with
      | some number => number
      | none =>
        if hasLeadingZero chars then .string text
        else
          match float? text with
          | some value => .float value
          | none => .string text

end Plain

namespace Scalar

/-- The refusal of a text that does not spell what its tag says. -/
def refuse {α : Type} (text expected : String) : Except Refusal α :=
  .error (.wrongValue (.string text) expected)

/-- What a scalar with a tag or without one stands for. -/
def found (scalar : Scalar) (tag : Option Tag) : Except Refusal Found :=
  let text := scalar.text
  match tag with
  | some (.core .bool) =>
    match Plain.bool? text with
    | some value => .ok (.bool value)
    | none => refuse text "a boolean"
  | some (.core .integer) =>
    match Plain.number? text.toList with
    | some number => .ok number
    | none => refuse text "an integer"
  | some (.core .float) =>
    match Plain.float? text with
    | some value => .ok (.float value)
    | none => refuse text "a float"
  | some (.core .null) => if Plain.isNull text then .ok .nothing else refuse text "null"
  | some .other => .ok (.string text)
  -- A tag of an application says nothing about the scalar itself.
  | some (.application _) | none =>
    if scalar.style = .plain then .ok (Plain.found text) else .ok (.string text)

/-- Whether a scalar with a tag or without one may spell a value of a type. -/
def mayBe (scalar : Scalar) (tag : Option Tag) (type : CoreType) : Bool :=
  match scalar.style with
  | .plain => true
  -- A literal is a text, unless a tag says otherwise.
  | .literal => tag == some (.core type)
  | .quoted | .folded => false

/-- Whether a scalar is written as if there were nothing. -/
def isEmpty (scalar : Scalar) : Bool := scalar.style == .plain && scalar.text.isEmpty

end Scalar

end Yaml

end ChatOptions
