/-! Decimal digits at the front of a text. -/

namespace ChatOptions

/-- The value of a decimal digit. -/
def digitValue (char : Char) : Nat := char.toNat - 48

/-- The digits at the front of a text, and the rest. -/
def takeDigits : List Char → List Nat × List Char
  | [] => ([], [])
  | char :: rest =>
    if char.isDigit then
      let (digits, after) := takeDigits rest
      (digitValue char :: digits, after)
    else ([], char :: rest)

/-- Taking digits leaves no more than there was. -/
theorem takeDigits_length (text : List Char) : (takeDigits text).2.length ≤ text.length := by
  induction text with
  | nil => exact Nat.le_refl _
  | cons char rest shorter =>
    rw [takeDigits]
    split
    · exact Nat.le_succ_of_le shorter
    · exact Nat.le_refl _

/-- The number that digits spell. -/
def digitsValue (digits : List Nat) : Nat :=
  digits.foldl (fun value digit => value * 10 + digit) 0

end ChatOptions
