import ChatOptions.Decimal.Shortest

/-! JSON numbers, which keep apart whole numbers of machine size and doubles. -/

namespace ChatOptions

/-- A JSON number: a whole number that fits a machine word, or a finite double. -/
inductive Number where
  | integer (value : Int) (inRange : -9223372036854775808 ≤ value ∧ value < 18446744073709551616)
  | float (value : Float) (finite : value.isFinite = true)

namespace Number

/-- A whole number as a JSON number, if a machine word holds it. -/
def ofInt? (value : Int) : Option Number :=
  if inRange : -9223372036854775808 ≤ value ∧ value < 18446744073709551616 then
    some (integer value inRange)
  else none

/-- An unsigned word as a JSON number. -/
def ofUInt64 (value : UInt64) : Number :=
  integer (value.toNat : Int) (by have := value.toNat_lt; omega)

/-- A double as a JSON number, if it is finite. -/
def ofFloat? (value : Float) : Option Number :=
  if finite : value.isFinite = true then some (float value finite) else none

/-- Whether two numbers are equal: of one kind, and then by value, so that the two zeros are equal and `1` differs from `1.0`. -/
protected def beq : Number → Number → Bool
  | integer first _, integer second _ => first == second
  | float first _, float second _ => first == second
  | _, _ => false

instance : BEq Number := ⟨Number.beq⟩

/-- The JSON text of a number. -/
def text : Number → List Char
  | integer value _ => (toString value).toList
  | float value _ => FloatNotation.json.text value

end Number

end ChatOptions
