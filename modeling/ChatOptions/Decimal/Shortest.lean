/-! The shortest decimal that reads back as a given double, found in exact integer arithmetic. -/

namespace ChatOptions

/-- A positive number written as a whole number of units of a power of ten. -/
structure Decimal where
  significand : Nat
  exponent : Int
deriving DecidableEq, Repr

/-- A positive number written as a whole number of units of a power of two. -/
structure Binary where
  significand : Nat
  exponent : Int
deriving DecidableEq, Repr

namespace Binary

/-- The magnitude of a finite double, on the grid of doubles of its size. -/
def ofFloat (value : Float) : Binary :=
  let bits := value.toBits.toNat % (1 <<< 63)
  let fraction := bits % (1 <<< 52)
  let exponent : Nat := bits / (1 <<< 52)
  -- The smallest exponent is shared by the subnormal numbers and the first normal ones.
  if exponent = 0 then ⟨fraction, -1074⟩ else ⟨(1 <<< 52) + fraction, Int.ofNat exponent - 1075⟩

/-- Whether the distance to the next smaller double is half that to the next larger one. -/
def atPowerOfTwo (number : Binary) : Bool :=
  number.significand == 1 <<< 52 && number.exponent > -1074

/-- Numerator and denominator of a quarter of the number's unit, measured in units of `10 ^ grid`. -/
def quarterUnit (number : Binary) (grid : Int) : Nat × Nat :=
  (Nat.pow 10 (-grid).toNat <<< (number.exponent - 2).toNat,
    Nat.pow 10 grid.toNat <<< (2 - number.exponent).toNat)

/-- Whether a whole number of units of `10 ^ grid` is rounded to the number by a reader. -/
def rounds (number : Binary) (grid : Int) (units : Nat) : Bool :=
  let (numerator, denominator) := number.quarterUnit grid
  let below := if number.atPowerOfTwo then 1 else 2
  let low := (4 * number.significand - below) * numerator
  let high := (4 * number.significand + 2) * numerator
  let point := units * denominator
  -- Halfway points go to the even significand.
  if number.significand % 2 = 0 then low ≤ point && point ≤ high else low < point && point < high

/-- The point of the grid `10 ^ grid` nearest to the number, if a reader rounds one to the number. -/
def onGrid (number : Binary) (grid : Int) : Option Decimal :=
  let (numerator, denominator) := number.quarterUnit grid
  let exact := 4 * number.significand * numerator
  let lower := exact / denominator
  let upper := lower + 1
  -- Of two points that read back the nearer one is kept, and of two equally near the even one.
  let upperFirst := match compare (2 * exact) ((lower + upper) * denominator) with
    | .lt => false
    | .gt => true
    | .eq => upper % 2 == 0
  let candidates := if upperFirst then [upper, lower] else [lower, upper]
  (candidates.find? (number.rounds grid)).map (⟨·, grid⟩)

/-- The number without rounding. -/
def toDecimal (number : Binary) : Decimal :=
  if 0 ≤ number.exponent then ⟨number.significand <<< number.exponent.toNat, 0⟩
  else ⟨number.significand * Nat.pow 5 (-number.exponent).toNat, number.exponent⟩

/-- A power of ten that is above the number. -/
def decimalBound (number : Binary) : Int :=
  ((number.significand.log2 : Int) + 1 + number.exponent) * 30103 / 100000 + 2

/-- The decimal with the fewest digits that reads back as the number. -/
def shortest (number : Binary) : Decimal :=
  -- Grids are tried from coarse to fine, and seventeen digits always suffice.
  ((List.range 24).findSome? fun step => number.onGrid (number.decimalBound - Int.ofNat step)).getD
    number.toDecimal

end Binary

namespace Decimal

/-- The decimal digits of the significand. -/
def digits (number : Decimal) : List Char := (toString number.significand).toList

/-- The power of ten of the first digit. -/
def leadingExponent (number : Decimal) : Int :=
  number.exponent + number.digits.length - 1

/-- All digits in place around a decimal point, with at least one digit on either side of it. -/
def positional (number : Decimal) : List Char :=
  let whole := number.leadingExponent + 1
  if 0 ≤ number.exponent then
    number.digits ++ List.replicate number.exponent.toNat '0' ++ ['.', '0']
  else if 0 < whole then
    number.digits.take whole.toNat ++ ['.'] ++ number.digits.drop whole.toNat
  else ['0', '.'] ++ List.replicate (-whole).toNat '0' ++ number.digits

/-- One digit before the point, a power of ten with its sign after the letter `e`. -/
def scientific (number : Decimal) : List Char :=
  let fraction := number.digits.drop 1
  let exponent := number.leadingExponent
  number.digits.take 1 ++ (if fraction.isEmpty then [] else '.' :: fraction) ++
    ['e', if exponent < 0 then '-' else '+'] ++ (toString exponent.natAbs).toList

end Decimal

/-- How the doubles of a format are written. -/
structure FloatNotation where
  /-- The smallest power of ten of a first digit that is written positionally. -/
  smallest : Int
  /-- The largest power of ten of a first digit that is written positionally. -/
  largest : Int
  notANumber : List Char
  infinite : List Char

namespace FloatNotation

/-- The text of a double. -/
def text (style : FloatNotation) (value : Float) : List Char :=
  let sign := if value.toBits.toNat < 1 <<< 63 then [] else ['-']
  if value.isNaN then style.notANumber
  else if value.isInf then sign ++ style.infinite
  else
    let number := Binary.ofFloat value
    if number.significand = 0 then sign ++ ['0', '.', '0']
    else
      let shortest := number.shortest
      let exponent := shortest.leadingExponent
      if style.smallest ≤ exponent ∧ exponent ≤ style.largest then sign ++ shortest.positional
      else sign ++ shortest.scientific

/-- In JSON numbers from 0.00001 up to below 10¹⁶ are positional, and what has no digits is null. -/
def json : FloatNotation := ⟨-5, 15, "null".toList, "null".toList⟩

/-- In prose every number is positional. -/
def prose : FloatNotation := ⟨-400, 400, "NaN".toList, "inf".toList⟩

end FloatNotation

end ChatOptions
