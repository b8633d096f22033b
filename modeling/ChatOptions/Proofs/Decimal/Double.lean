import Mathlib
import ChatOptions.Decimal.Double

/-! Doubles and their bits: which doubles are equal as numbers, and which are the same. A `Float` is the number that a double stands for; all NaNs stand for one. -/

namespace ChatOptions

open Float.Model Float.Model.UnpackedFloat

namespace Double

/-- What is finite is a number. -/
theorem ne_nan_of_isFinite {value : Float} (finite : value.isFinite = true) : value ≠ .nan := by
  rintro rfl
  exact absurd finite (by decide)

/-- Two numbers that are equal are both zeros, or the same. -/
theorem zeros_or_eq {first second : Float} (equal : (first == second) = true) :
    ((first == 0.0) = true ∧ (second == 0.0) = true) ∨ first = second := by
  obtain ⟨_, _, same | ⟨rfl, rfl⟩ | ⟨rfl, rfl⟩⟩ := Float.beq_iff_ne_nan_and_eq.mp equal
  · exact .inr same
  · exact .inl (by decide)
  · exact .inl (by decide)

/-- A number that is equal to zero is one of the two zeros. -/
theorem zero_cases {value : Float} (zero : (value == 0.0) = true) :
    value = 0 ∨ value = -0 := by
  obtain ⟨_, _, same | ⟨positive, _⟩ | ⟨negative, _⟩⟩ := Float.beq_iff_ne_nan_and_eq.mp zero
  · exact .inl same
  · exact .inl positive
  · exact .inr negative

/-- A field of a word is what is left of the word above the bits below the field, cut to the size of the field. -/
theorem toNat_field {below ones : UInt64} {size : Nat} (inside : below.toNat < 64)
    (full : ones.toNat = 2 ^ size - 1) (word : UInt64) :
    (word >>> below &&& ones).toNat = (word.toBitVec.extractLsb' below.toNat size).toNat := by
  rw [UInt64.toNat_and, UInt64.toNat_shiftRight, Nat.mod_eq_of_lt inside, full,
    Nat.and_two_pow_sub_one_eq_mod, BitVec.extractLsb'_toNat, UInt64.toNat_toBitVec]

/-- The exponent is all ones exactly if the field of the exponent is. -/
theorem exponent_eq_iff (value : Double) : value.exponent = 0x7ff ↔
    @unpackExponent .binary64 value.bits.toBitVec = -1#_ := by
  -- The exponent stands above the fraction, and the sign above it.
  have field := @toNat_field 52 0x7ff 11 (by decide) (by decide) value.bits
  rw [← UInt64.toNat_inj, exponent, field, ← BitVec.toNat_inj, unpackExponent_def]
  exact Iff.rfl

/-- The fraction is zero exactly if the field of the fraction is. -/
theorem fraction_eq_iff (value : Double) : value.fraction = 0 ↔
    @unpackMantissa .binary64 value.bits.toBitVec = 0#_ := by
  -- Nothing stands below the fraction.
  have field := @toNat_field 0 0xfffffffffffff 52 (by decide) (by decide) value.bits
  rw [UInt64.shiftRight_zero] at field
  rw [← UInt64.toNat_inj, fraction, field, ← BitVec.toNat_inj, unpackMantissa_def]
  exact Iff.rfl

/-- A double is no number exactly if its fields say so. -/
theorem isNaN_eq (value : Double) :
    value.isNaN = @isNaNBits .binary64 value.bits.toBitVec := by
  rw [isNaN, isNaNBits, Bool.eq_iff_iff]
  simp only [Bool.and_eq_true, beq_iff_eq, bne_iff_ne, decide_eq_true_eq, exponent_eq_iff, ne_eq,
    fraction_eq_iff]

/-- The number that a double stands for has the key as its bits, so those of a NaN are lost. -/
theorem toBits_toFloat (value : Double) : value.toFloat.toBits = value.key := by
  have packed : value.toFloat.toBits.toBitVec
      = if @isNaNBits .binary64 value.bits.toBitVec then packedNaN .binary64
        else value.bits.toBitVec := @pack_unpack .binary64 value.bits.toBitVec (by decide)
  rw [← UInt64.toBitVec_inj, packed, ← isNaN_eq, key]
  -- Both replace the bits of a NaN by the same ones, and keep all others.
  split
  · decide
  · rfl

/-- The key of a double that is no number is the one chosen for all of them. -/
theorem key_of_isNaN {value : Double} (none : value.isNaN = true) :
    value.key = 0x7ff8000000000000 := if_pos none

/-- The key of a number is its bits. -/
theorem key_of_number {value : Double} (number : value.isNaN = false) : value.key = value.bits :=
  if_neg (Bool.eq_false_iff.mp number)

/-- A key spells a number exactly if it is that of one. -/
theorem isNaN_key (value : Double) : isNaN ⟨value.key⟩ = value.isNaN := by
  cases none : value.isNaN with
  | true => rw [key_of_isNaN none]; decide
  | false => rw [key_of_number none, none]

/-- There is nothing to a double but its bits. -/
theorem bits_inj {first second : Double} : first.bits = second.bits ↔ first = second :=
  ⟨congrArg mk, congrArg bits⟩

/-- Whether two doubles are the same: both are no number, or they have the same bits. -/
def Same (first second : Double) : Prop :=
  (first.isNaN = true ∧ second.isNaN = true) ∨ first.bits = second.bits

/-- Doubles have the same key exactly if they are the same. -/
theorem key_eq_iff {first second : Double} : first.key = second.key ↔ Same first second := by
  constructor
  · intro keys
    -- The keys tell whether there is a number, and are its bits if there is one.
    have kinds : first.isNaN = second.isNaN := by rw [← isNaN_key, keys, isNaN_key]
    cases none : first.isNaN with
    | true => exact .inl ⟨none, kinds ▸ none⟩
    | false =>
      rw [key_of_number none, key_of_number (kinds ▸ none)] at keys
      exact .inr keys
  · rintro (⟨none, alsoNone⟩ | bits)
    · rw [key_of_isNaN none, key_of_isNaN alsoNone]
    · rw [bits_inj.mp bits]

instance : DecidableRel Same := fun _ _ => decidable_of_iff _ key_eq_iff

/-- Optional doubles are the same exactly if both are absent, or both are there and the same. -/
theorem same_iff {first second : Option Double} :
    same first second = true ↔ Option.Rel Same first second := by
  rw [same, beq_iff_eq]
  cases first <;> cases second <;> simp [key_eq_iff]

/-- A double that is a number is the one of the number that it stands for. -/
theorem ofFloat_toFloat {value : Double} (number : value.isNaN = false) :
    ofFloat value.toFloat = value :=
  congrArg mk ((toBits_toFloat value).trans (key_of_number number))

/-- The double of a number stands for the number. -/
theorem toFloat_ofFloat (value : Float) : (ofFloat value).toFloat = value :=
  Float.ofBits_toBits value

/-- Doubles stand for the same number exactly if they are the same. -/
theorem toFloat_inj {first second : Double} :
    first.toFloat = second.toFloat ↔ Same first second := by
  rw [← Float.toBits_inj, toBits_toFloat, toBits_toFloat, key_eq_iff]

/-- Being the same is an equivalence of doubles. -/
theorem same_equivalence : Equivalence Same where
  refl _ := .inr rfl
  symm same := key_eq_iff.mp (key_eq_iff.mpr same).symm
  trans same next := key_eq_iff.mp ((key_eq_iff.mpr same).trans (key_eq_iff.mpr next))

/-- A number is the same as itself only. -/
theorem same_iff_eq {first second : Double} (number : first.isNaN = false) :
    Same first second ↔ first = second :=
  (or_iff_right fun none => absurd none.1 (Bool.eq_false_iff.mp number)).trans bits_inj

/-- A double stands for no number exactly if its bits spell none. -/
theorem toFloat_eq_nan_iff {value : Double} : value.toFloat = .nan ↔ value.isNaN = true := by
  -- The bits that the key of a NaN has are those of the one NaN among the numbers.
  have chosen : Float.nan = toFloat ⟨0x7ff8000000000000⟩ := by decide
  rw [chosen, toFloat_inj]
  constructor
  · rintro (⟨none, _⟩ | bits)
    · exact none
    · rw [bits_inj.mp bits]
      decide
  · exact fun none => .inl ⟨none, by decide⟩

/-- The zero without a sign. -/
def zero : Double := ⟨0⟩

/-- The zero with a sign. -/
def negativeZero : Double := ⟨0x8000000000000000⟩

/-- Doubles are equal as numbers exactly if both are numbers, and they are the same or the two zeros. -/
theorem beq_iff {first second : Double} : (first == second) = true ↔
    first.isNaN = false ∧ second.isNaN = false ∧
      (first = second ∨ (first = zero ∧ second = negativeZero)
        ∨ (first = negativeZero ∧ second = zero)) := by
  have zeros : (0 : Float) = zero.toFloat ∧ (-0 : Float) = negativeZero.toFloat := by decide
  show (first.toFloat == second.toFloat) = true ↔ _
  rw [Float.beq_iff_ne_nan_and_eq, zeros.2, zeros.1]
  simp only [ne_eq, toFloat_eq_nan_iff, Bool.not_eq_true, toFloat_inj]
  -- Among numbers, to be the same is to be equal.
  refine and_congr_right fun number => and_congr_right fun alsoNumber => ?_
  rw [same_iff_eq number, same_iff_eq number, same_iff_eq number, same_iff_eq alsoNumber,
    same_iff_eq alsoNumber]

/-- What is unpacked is finite unless its exponent is the largest. -/
theorem isFinite_unpack {format : Format} (bits : BitVec format.numBits) :
    (UnpackedFloat.unpack format bits).isFinite = decide (unpackExponent bits ≠ -1#_) := by
  by_cases largest : unpackExponent bits = -1#_
  · -- With the largest exponent there are an infinity and no numbers.
    simp only [UnpackedFloat.unpack, largest, if_true]
    split <;> simp [UnpackedFloat.isFinite]
  · -- With the least exponent there are a zero and small numbers, and all others are numbers.
    simp only [UnpackedFloat.unpack, largest, if_false]
    split
    · split <;> simp [UnpackedFloat.isFinite, largest]
    · simp [UnpackedFloat.isFinite, largest]

/-- What is no number is not finite. -/
theorem isFinite_of_isNaN {value : Double} (none : value.isNaN = true) : value.isFinite = false := by
  rw [isFinite, bne_eq_false_iff_eq]
  exact beq_iff_eq.mp ((Bool.and_eq_true ..).mp none).1

/-- A finite double is a number. -/
theorem isNaN_of_isFinite {value : Double} (finite : value.isFinite = true) :
    value.isNaN = false :=
  Bool.eq_false_iff.mpr fun none => absurd finite (Bool.eq_false_iff.mp (isFinite_of_isNaN none))

/-- A key spells a finite double exactly if it is that of one. -/
theorem isFinite_key (value : Double) : isFinite ⟨value.key⟩ = value.isFinite := by
  cases none : value.isNaN with
  | true =>
    rw [isFinite_of_isNaN none, isFinite_of_isNaN ((isNaN_key value).trans none)]
  | false => rw [key_of_number none]

/-- A double is finite exactly if the number is that it stands for. -/
theorem isFinite_toFloat (value : Double) : value.toFloat.isFinite = value.isFinite := by
  show (UnpackedFloat.unpack .binary64 value.toFloat.toBits.toBitVec).isFinite = _
  rw [isFinite_unpack, toBits_toFloat, ← isFinite_key, isFinite, Bool.eq_iff_iff, decide_eq_true_eq,
    bne_iff_ne]
  exact not_congr (exponent_eq_iff ⟨value.key⟩).symm

end Double

end ChatOptions
