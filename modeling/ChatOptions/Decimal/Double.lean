/-! Doubles by the bits that spell them, which keep apart what a `Float` does not: it has only one NaN. -/

namespace ChatOptions

/-- A double as its 64 bits: a sign, eleven bits of exponent, and fifty-two of fraction. -/
structure Double where
  bits : UInt64
deriving DecidableEq, Inhabited

namespace Double

/-- The bits of the exponent. -/
def exponent (value : Double) : UInt64 := (value.bits >>> 52) &&& 0x7ff

/-- The bits of the fraction. -/
def fraction (value : Double) : UInt64 := value.bits &&& 0xfffffffffffff

/-- Whether a double is a number that is not infinite. -/
def isFinite (value : Double) : Bool := value.exponent != 0x7ff

/-- Whether a double is no number, whichever sign and fraction it has. -/
def isNaN (value : Double) : Bool := value.exponent == 0x7ff && value.fraction != 0

/-- The number that a double stands for. -/
def toFloat (value : Double) : Float := .ofBits value.bits

/-- The double that stands for a number. -/
def ofFloat (value : Float) : Double := ⟨value.toBits⟩

/-- Doubles are equal when they are as numbers: the two zeros are, and NaN differs from itself. -/
instance : BEq Double := ⟨fun first second => first.toFloat == second.toFloat⟩

/-- The bits by which doubles are compared and hashed. All NaNs share one pattern, so that a double is always the same as itself. -/
def key (value : Double) : UInt64 := if value.isNaN then 0x7ff8000000000000 else value.bits

/-- Whether two doubles that may be absent are the same by their keys. -/
def same (first second : Option Double) : Bool := first.map key == second.map key

end Double

end ChatOptions
