import ChatOptions.Decimal.Digits
import ChatOptions.Json.Fault
import ChatOptions.Json.Number

/-! JSON numerals: their spelling, and the number that each stands for. -/

namespace ChatOptions

namespace Json

/-- The spelling of a number, digit by digit. -/
structure Numeral where
  negative : Bool
  whole : List Nat
  /-- The digits after a decimal point, of which there is at least one if there is a point. -/
  fraction : List Nat
  /-- The sign of the exponent, where one is written, and its digits. -/
  exponent : Option (Option Bool × List Nat)

namespace Numeral

/-- The number of characters before the digits of the exponent. -/
def mantissaLength (numeral : Numeral) : Nat :=
  (if numeral.negative then 1 else 0) + numeral.whole.length +
    (if numeral.fraction.isEmpty then 0 else 1 + numeral.fraction.length) +
    match numeral.exponent with
    | none => 0
    | some (none, _) => 1
    | some (some _, _) => 2

/-- The number of characters of the numeral. -/
def length (numeral : Numeral) : Nat :=
  numeral.mantissaLength + (numeral.exponent.map (·.2.length)).getD 0

/-- As many digits put after a number as a word holds, and the digits that did not fit. -/
def fill : Nat → List Nat → Nat × List Nat
  | held, [] => (held, [])
  | held, digit :: rest =>
    if held * 10 + digit < UInt64.size then fill (held * 10 + digit) rest else (held, digit :: rest)

/-- The exponent that digits spell, or how many of them were read when it outgrew its word. -/
def exponentValue : Nat → Nat → List Nat → Except Nat Nat
  | held, _, [] => .ok held
  | held, taken, digit :: rest =>
    if held * 10 + digit < 2147483648 then exponentValue (held * 10 + digit) (taken + 1) rest
    else .error (taken + 1)

/-- A power of ten, rounded to a double. -/
def powerOfTen (exponent : Nat) : Float := Float.ofScientific 1 false exponent

/-- A double divided by a power of ten, in steps where the power itself is no double. -/
def shrink (value : Float) (exponent : Nat) : Float :=
  -- The largest power of ten that is a double has the exponent 308.
  if exponent ≤ 308 then value / powerOfTen exponent
  else if value == 0.0 then value
  else shrink (value / powerOfTen 308) (exponent - 308)
termination_by exponent

/-- A whole number of units of a power of ten, as a double that may have become infinite. -/
def scale (significand : Nat) (exponent : Int) : Float :=
  let value := significand.toUInt64.toFloat
  if exponent < 0 then shrink value exponent.natAbs
  else if value == 0.0 then value
  -- Beyond some power of ten every product is infinite.
  else value * powerOfTen (min exponent.toNat 400)

/-- The number of a double with a sign, if it is finite. -/
def signed (negative : Bool) (value : Float) : Option Number :=
  Number.ofFloat? (if negative then -value else value)

/-- The number that a whole number held by a word stands for: itself, but for minus zero and what a signed word does not hold, which are doubles. -/
def ofWhole? (negative : Bool) (held : Nat) : Option Number :=
  if negative then
    if held = 0 ∨ 9223372036854775808 < held then signed true held.toUInt64.toFloat
    else Number.ofInt? (-held)
  else Number.ofInt? held

/-- The number of a numeral, or how much of it was read when it proved too large. -/
def value (numeral : Numeral) : Except Nat Number :=
  let (held, dropped) := fill 0 numeral.whole
  -- A number that is not finite is refused at the end of the numeral.
  let finite (number : Option Number) : Except Nat Number :=
    match number with
    | some number => .ok number
    | none => .error numeral.length
  match numeral.fraction, numeral.exponent, dropped with
  -- A whole number that a word holds stays exact.
  | [], none, [] => finite (ofWhole? numeral.negative held)
  | fraction, exponent, dropped =>
    let (significand, unused) := fill held fraction
    -- Digits that were dropped raise the exponent, and digits of the fraction lower it.
    let start : Int := dropped.length - (fraction.length - unused.length : Nat)
    match exponent with
    | none => finite (signed numeral.negative (scale significand start))
    | some (sign, digits) =>
      let falling := sign == some true
      match exponentValue 0 0 digits with
      | .ok shift =>
        finite (signed numeral.negative
          (scale significand (if falling then start - shift else start + shift)))
      | .error taken =>
        -- Such an exponent makes zero, or else more than any double.
        if significand = 0 ∨ falling then finite (signed numeral.negative 0.0)
        else .error (numeral.mantissaLength + taken)

/-- Reads digits of which there must be one. -/
def scanDigits (text : List Char) (place : Position) : Except Breach (List Nat × List Char) :=
  match takeDigits text with
  | (digit :: digits, rest) => .ok (digit :: digits, rest)
  | ([], []) => .error ⟨.defect .endOfValue place, .defect .badNumber place⟩
  | ([], char :: _) => .error (.both (.defect .badNumber (place.ahead char)))

/-- Reads the whole part of a numeral, in which no digit follows a leading zero. -/
def scanWhole (text : List Char) (place : Position) : Except Breach (List Nat × List Char) :=
  match text with
  | '0' :: rest =>
    -- The fault lies behind the digit that follows the zero.
    if (takeDigits rest).1.isEmpty then .ok ([0], rest)
    else .error (.both (.defect .badNumber (place.plus 2)))
  | _ => scanDigits text place

/-- Reads the fraction of a numeral, if a point stands there. -/
def scanFraction (text : List Char) (place : Position) : Except Breach (List Nat × List Char) :=
  match text with
  | '.' :: rest => scanDigits rest (place.plus 1)
  | _ => .ok ([], text)

/-- Reads the sign of an exponent, if one stands there. -/
def scanSign : List Char → Option Bool × List Char
  | '+' :: rest => (some false, rest)
  | '-' :: rest => (some true, rest)
  | text => (none, text)

/-- Reads the exponent of a numeral, if its letter stands there. -/
def scanExponent (text : List Char) (place : Position) :
    Except Breach (Option (Option Bool × List Nat) × List Char) :=
  match text with
  | letter :: rest =>
    if letter = 'e' ∨ letter = 'E' then
      let (sign, unsigned) := scanSign rest
      match scanDigits unsigned (place.plus (if sign.isSome then 2 else 1)) with
      | .ok (digits, after) => .ok (some (sign, digits), after)
      | .error breach => .error breach
    else .ok (none, text)
  | [] => .ok (none, [])

/-- Reads a numeral without its sign. -/
def scanUnsigned (negative : Bool) (text : List Char) (place : Position) :
    Except Breach (Numeral × List Char) :=
  match scanWhole text place with
  | .error breach => .error breach
  | .ok (whole, rest) =>
    let place := place.plus whole.length
    match scanFraction rest place with
    | .error breach => .error breach
    | .ok (fraction, rest) =>
      let place := place.plus (if fraction.isEmpty then 0 else 1 + fraction.length)
      match scanExponent rest place with
      | .error breach => .error breach
      | .ok (exponent, rest) => .ok (⟨negative, whole, fraction, exponent⟩, rest)

/-- Reads a numeral at the front of a text. -/
def scan (text : List Char) (place : Position) : Except Breach (Numeral × List Char) :=
  match text with
  | '-' :: rest => scanUnsigned true rest (place.plus 1)
  | _ => scanUnsigned false text place

/-- Reading digits leaves less than there was. -/
theorem scanDigits_length {text rest : List Char} {digits : List Nat} {place : Position}
    (read : scanDigits text place = .ok (digits, rest)) : rest.length < text.length := by
  unfold scanDigits at read
  split at read
  · -- A digit was taken, so the text was not empty and its first character is gone.
    rename_i taken
    cases read
    cases text with
    | nil => simp [takeDigits] at taken
    | cons char after =>
      have shorter := takeDigits_length after
      rw [takeDigits] at taken
      split at taken
      · cases taken
        exact Nat.lt_succ_of_le shorter
      · simp at taken
  · cases read
  · cases read

/-- Reading a whole part leaves less than there was. -/
theorem scanWhole_length {text rest : List Char} {digits : List Nat} {place : Position}
    (read : scanWhole text place = .ok (digits, rest)) : rest.length < text.length := by
  unfold scanWhole at read
  split at read
  · split at read
    · cases read; exact Nat.lt_succ_self _
    · cases read
  · exact scanDigits_length read

/-- Reading a fraction leaves no more than there was. -/
theorem scanFraction_length {text rest : List Char} {digits : List Nat} {place : Position}
    (read : scanFraction text place = .ok (digits, rest)) : rest.length ≤ text.length := by
  unfold scanFraction at read
  split at read
  · exact Nat.le_succ_of_le (Nat.le_of_lt (scanDigits_length read))
  · cases read; exact Nat.le_refl _

/-- Reading a sign leaves no more than there was. -/
theorem scanSign_length (text : List Char) : (scanSign text).2.length ≤ text.length := by
  unfold scanSign
  split <;> simp

/-- Reading an exponent leaves no more than there was. -/
theorem scanExponent_length {text rest : List Char} {exponent : Option (Option Bool × List Nat)}
    {place : Position} (read : scanExponent text place = .ok (exponent, rest)) :
    rest.length ≤ text.length := by
  unfold scanExponent at read
  split at read
  · rename_i letter after
    split at read
    · dsimp only at read
      split at read
      · rename_i digitsRead
        cases read
        -- The letter, the sign and the digits are gone.
        have shorter := scanDigits_length digitsRead
        have unsigned := scanSign_length after
        simp only [List.length_cons]
        omega
      · cases read
    · cases read; exact Nat.le_refl _
  · cases read; exact Nat.le_refl _

/-- Reading a numeral leaves less than there was. -/
theorem scanUnsigned_length {text rest : List Char} {negative : Bool} {numeral : Numeral}
    {place : Position} (read : scanUnsigned negative text place = .ok (numeral, rest)) :
    rest.length < text.length := by
  unfold scanUnsigned at read
  split at read
  · cases read
  · rename_i wholeRead
    dsimp only at read
    split at read
    · cases read
    · rename_i fractionRead
      split at read
      · cases read
      · rename_i exponentRead
        cases read
        -- Each of the three parts leaves no more than the one before, and the first leaves less.
        have first := scanWhole_length wholeRead
        have second := scanFraction_length fractionRead
        have third := scanExponent_length exponentRead
        omega

/-- Reading a numeral leaves less than there was. -/
theorem scan_length {text rest : List Char} {numeral : Numeral} {place : Position}
    (read : scan text place = .ok (numeral, rest)) : rest.length < text.length := by
  unfold scan at read
  split at read
  · exact Nat.lt_succ_of_lt (scanUnsigned_length read)
  · exact scanUnsigned_length read

end Numeral

end Json

end ChatOptions
