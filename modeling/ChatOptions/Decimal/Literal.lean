import ChatOptions.Decimal.Digits

/-! Doubles read from decimal text, each the one nearest to what the text says. -/

namespace ChatOptions

namespace Decimal

/-- The power of ten that a text without sign and digits gives, where the text ends with it. -/
def exponent? : List Char → Option Int
  | [] => some 0
  | letter :: rest =>
    if letter = 'e' ∨ letter = 'E' then
      let (falling, unsigned) := match rest with
        | '+' :: digits => (false, digits)
        | '-' :: digits => (true, digits)
        | digits => (false, digits)
      match takeDigits unsigned with
      | (digits@(_ :: _), []) =>
        some (if falling then -(digitsValue digits : Int) else digitsValue digits)
      | _ => none
    else none

/-- The double for a whole number of units of a power of ten. -/
def nearest (significand : Nat) (exponent : Int) : Float :=
  Float.ofScientific significand (exponent < 0) exponent.natAbs

/-- The double that a text without sign spells: digits with or without a point, and an exponent or none. -/
def unsignedFloat? (text : List Char) : Option Float := do
  let (whole, rest) := takeDigits text
  let (fraction, rest) := match rest with
    | '.' :: rest => takeDigits rest
    | rest => ([], rest)
  if whole.isEmpty && fraction.isEmpty then none
  let exponent ← exponent? rest
  return nearest (digitsValue (whole ++ fraction)) (exponent - fraction.length)

/-- The double that a text spells, which may start with a sign. -/
def float? : List Char → Option Float
  | '+' :: text => unsignedFloat? text
  | '-' :: text => (unsignedFloat? text).map (-·)
  | text => unsignedFloat? text

end Decimal

end ChatOptions
