/-! Whole numbers as data writes them. -/

namespace ChatOptions

/-- A whole number, written without a minus sign or with one. Zero may be written with one too, and is then not the place of anything in a list. -/
inductive WholeNumber where
  | natural (value : Nat)
  | negated (value : Nat)
deriving DecidableEq, Repr

namespace WholeNumber

/-- The value of a whole number. -/
def toInt : WholeNumber → Int
  | natural value => value
  | negated value => -value

/-- A value as it is written most simply. -/
def ofInt : Int → WholeNumber
  | .ofNat value => natural value
  | .negSucc value => negated (value + 1)

/-- Writing a value keeps it. -/
theorem toInt_ofInt (value : Int) : (ofInt value).toInt = value := by
  cases value <;> rfl

end WholeNumber

end ChatOptions
