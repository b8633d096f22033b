import ChatOptions.Proofs.Json.Numeral

/-! A whole number that is written as JSON is read back as itself. -/

namespace ChatOptions

/-- Whether the JSON text of a number is read as that number. -/
def Number.ReadsBack (number : Number) : Prop :=
  ∃ numeral, Json.Numeral.scan number.text .start = .ok (numeral, [])
    ∧ numeral.value = .ok number

namespace Json

namespace Numeral

/-- Digits put after a number make it no smaller. -/
theorem le_ofDigitChars (digits : List Char) (held : Nat) :
    held ≤ Nat.ofDigitChars 10 digits held := by
  induction digits generalizing held with
  | nil => exact Nat.le_refl held
  | cons digit rest ih =>
    rw [Nat.ofDigitChars_cons]
    -- One digit makes the number at least ten times as large, and the rest follows by induction.
    have later := ih (10 * held + (digit.toNat - '0'.toNat))
    omega

/-- Digits that a word holds together are all put after a number. -/
theorem fill_digits {digits : List Char} {held : Nat}
    (fits : Nat.ofDigitChars 10 digits held < UInt64.size) :
    fill held (digits.map digitValue) = (Nat.ofDigitChars 10 digits held, []) := by
  induction digits generalizing held with
  | nil => rfl
  | cons digit rest ih =>
    rw [Nat.ofDigitChars_cons] at fits ⊢
    -- The number is still small enough here, because the digits behind only make it larger.
    have below := Nat.lt_of_le_of_lt (le_ofDigitChars rest _) fits
    have same : held * 10 + digitValue digit = 10 * held + (digit.toNat - '0'.toNat) := by
      rw [Nat.mul_comm]
      rfl
    rw [List.map_cons, fill, same, if_pos below, ih fits]

/-- The digits of a number other than zero do not begin with a zero. -/
theorem head_toDigits_ne_zero {value : Nat} (positive : 0 < value) {char : Char}
    {rest : List Char} (digits : Nat.toDigits 10 value = char :: rest) : char ≠ '0' := by
  -- The digits are those of a tenth of the number with one more behind, so their first is the same.
  induction value using Nat.strongRecOn generalizing rest with
  | ind value ih =>
    rw [Nat.toDigits_eq_if (by decide)] at digits
    split at digits
    · rename_i small
      cases digits
      -- A number below ten is its own digit.
      intro same
      have zero := Nat.toNat_digitChar_sub_48_of_lt_ten small
      rw [same] at zero
      exact absurd zero.symm (Nat.ne_of_gt positive)
    · rename_i large
      cases shorter : Nat.toDigits 10 (value / 10) with
      | nil => exact absurd shorter Nat.toDigits_ne_nil
      | cons first others =>
        rw [shorter, List.cons_append] at digits
        cases digits
        exact ih (value / 10) (by omega) (by omega) shorter

/-- A character that is a digit is no sign, point or letter. -/
theorem ne_of_isDigit {char other : Char} (digit : char.isDigit = true)
    (noDigit : other.isDigit = false) : char ≠ other := by
  rintro rfl
  rw [digit] at noDigit
  cases noDigit

/-- The digits of a number are read as its whole part. -/
theorem scanWhole_toDigits (value : Nat) (place : Position) :
    scanWhole (Nat.toDigits 10 value) place = .ok ((Nat.toDigits 10 value).map digitValue, []) := by
  have digits : ∀ char ∈ Nat.toDigits 10 value, char.isDigit = true := fun char found =>
    Nat.isDigit_of_mem_toDigits (by decide) (by decide) found
  have taken := takeDigits_digits digits
  -- A zero stands alone; every other number begins with a digit that is not zero.
  rcases Nat.eq_zero_or_pos value with rfl | positive
  · rfl
  · cases spelled : Nat.toDigits 10 value with
    | nil => exact absurd spelled Nat.toDigits_ne_nil
    | cons char rest =>
      have different := head_toDigits_ne_zero positive spelled
      rw [spelled] at taken
      rw [scanWhole, scanDigits, taken]
      · rfl
      · intro tail same
        exact different (List.cons.inj same).1

/-- The digits of a number are read as a numeral of nothing else. -/
theorem scanUnsigned_toDigits (negative : Bool) (value : Nat) (place : Position) :
    scanUnsigned negative (Nat.toDigits 10 value) place
      = .ok (⟨negative, (Nat.toDigits 10 value).map digitValue, [], none⟩, []) := by
  rw [scanUnsigned, scanWhole_toDigits]
  rfl

/-- The digits of a number without a sign are read as a numeral of nothing else. -/
theorem scan_toDigits (value : Nat) (place : Position) :
    scan (Nat.toDigits 10 value) place
      = .ok (⟨false, (Nat.toDigits 10 value).map digitValue, [], none⟩, []) := by
  cases spelled : Nat.toDigits 10 value with
  | nil => exact absurd spelled Nat.toDigits_ne_nil
  | cons char rest =>
    -- The first character is a digit, so it is not taken for a sign.
    have digit : char.isDigit = true :=
      Nat.isDigit_of_mem_toDigits (b := 10) (n := value) (by decide) (by decide)
        (spelled ▸ List.mem_cons_self)
    have appended := scanUnsigned_toDigits false value place
    rw [spelled] at appended
    rw [scan]
    · exact appended
    · intro tail same
      exact ne_of_isDigit digit (by decide) (List.cons.inj same).1

/-- Digits that a word holds have their number as value. -/
theorem fill_toDigits {value : Nat} (fits : value < UInt64.size) :
    fill 0 ((Nat.toDigits 10 value).map digitValue) = (value, []) := by
  have whole : Nat.ofDigitChars 10 (Nat.toDigits 10 value) 0 = value :=
    Nat.ofDigitChars_ten_toDigits
  rw [fill_digits (by rw [whole]; exact fits), whole]

/-- Digits that a word holds spell the number that the word stands for. -/
theorem value_of_fill {negative : Bool} {digits : List Nat} {held : Nat}
    (filled : fill 0 digits = (held, [])) {number : Number}
    (made : ofWhole? negative held = some number) :
    (⟨negative, digits, [], none⟩ : Numeral).value = .ok number := by
  rw [Numeral.value, filled]
  simp only [made]

/-- Digits with a fraction that a word holds together spell a whole number of units of a negative power of ten. -/
theorem value_of_fraction {negative : Bool} {whole : List Nat} {digit : Nat} {digits : List Nat}
    {held significand : Nat} (wholeFilled : fill 0 whole = (held, []))
    (fractionFilled : fill held (digit :: digits) = (significand, [])) {number : Number}
    (made : signed negative (scale significand (-(digits.length + 1 : Nat))) = some number) :
    (⟨negative, whole, digit :: digits, none⟩ : Numeral).value = .ok number := by
  -- No digit was left over, so each digit of the fraction lowers the exponent by one.
  have start : (([] : List Nat).length : Int)
      - ((digit :: digits).length - ([] : List Nat).length : Nat) = -(digits.length + 1 : Nat) := by
    simp
  rw [Numeral.value, wholeFilled]
  simp only [fractionFilled, start, made]

/-- Without a sign a word stands for itself. -/
theorem ofWhole?_false (held : Nat) : ofWhole? false held = Number.ofInt? held := by
  simp only [ofWhole?, Bool.false_eq_true, if_false]

/-- With a minus sign a word stands for its negative, if it is not zero and a signed word holds that. -/
theorem ofWhole?_true {held : Nat} (positive : 0 < held) (fits : held ≤ 9223372036854775808) :
    ofWhole? true held = Number.ofInt? (-held) := by
  have inRange : ¬ (held = 0 ∨ 9223372036854775808 < held) := by omega
  simp only [ofWhole?, if_true, if_neg inRange]

end Numeral

end Json

/-- A whole number in range is made into itself. -/
theorem Number.ofInt?_integer {value : Int}
    (inRange : -9223372036854775808 ≤ value ∧ value < 18446744073709551616) :
    Number.ofInt? value = some (.integer value inRange) := by
  rw [ofInt?, dif_pos inRange]

/-- Every whole number is read back as itself. -/
theorem Number.integer_readsBack (value : Int)
    (inRange : -9223372036854775808 ≤ value ∧ value < 18446744073709551616) :
    (Number.integer value inRange).ReadsBack := by
  -- The text is the digits of the number, behind a minus sign where it is negative.
  have made := Number.ofInt?_integer inRange
  cases value with
  | ofNat value =>
    have fits : value < UInt64.size := by
      have upper : (value : Int) < 18446744073709551616 := inRange.2
      rw [UInt64.size]
      omega
    have spelled : (Number.integer (.ofNat value) inRange).text = Nat.toDigits 10 value := by
      rw [text, Int.toString_eq_repr]
      exact Nat.toList_repr
    have kept : Json.Numeral.ofWhole? false value
        = some (.integer (.ofNat value) inRange) := by
      rw [Json.Numeral.ofWhole?_false]
      exact made
    refine ⟨_, ?_, Json.Numeral.value_of_fill (Json.Numeral.fill_toDigits fits) kept⟩
    rw [spelled, Json.Numeral.scan_toDigits]
  | negSucc value =>
    -- The lower bound is that of a signed word, so the digits fit a word as well.
    have lower : -9223372036854775808 ≤ -((value + 1 : Nat) : Int) := inRange.1
    have fits : value + 1 < UInt64.size := by
      rw [UInt64.size]
      omega
    have spelled : (Number.integer (.negSucc value) inRange).text
        = '-' :: Nat.toDigits 10 (value + 1) := by
      rw [text, Int.toString_eq_repr, Int.repr_eq_if, if_neg (by simp), String.toList_append,
        Nat.toList_repr]
      rfl
    have kept : Json.Numeral.ofWhole? true (value + 1)
        = some (.integer (.negSucc value) inRange) := by
      rw [Json.Numeral.ofWhole?_true (Nat.succ_pos value) (by omega)]
      exact made
    refine ⟨_, ?_, Json.Numeral.value_of_fill (Json.Numeral.fill_toDigits fits) kept⟩
    rw [spelled, Json.Numeral.scan, Json.Numeral.scanUnsigned_toDigits]

/-- The text of a number that is read back has no character that is foreign to numerals. -/
theorem Number.ReadsBack.not_mem {number : Number} (readsBack : number.ReadsBack) {char : Char}
    (foreign : Json.Numeral.Foreign char) : char ∉ number.text := by
  obtain ⟨numeral, read, _⟩ := readsBack
  -- The character would be left over, but the numeral leaves nothing over.
  intro held
  exact List.not_mem_nil (Json.Numeral.mem_of_scan foreign read held)

/-- One half is read back: its text is a numeral of one decimal, which is divided by ten. -/
theorem Number.half_readsBack (finite : (0.5 : Float).isFinite = true) :
    (Number.float 0.5 finite).ReadsBack := by
  -- The notation of doubles is computed on this one value.
  have spelled : (Number.float 0.5 finite).text = ['0', '.', '5'] := by
    show FloatNotation.json.text 0.5 = ['0', '.', '5']
    decide +kernel
  -- The fraction has one digit, so its five is divided by ten once.
  have divided : Json.Numeral.scale 5 (-1) = 0.5 := by
    rw [Json.Numeral.scale]
    simp only [show (-1 : Int) < 0 from by decide, if_true]
    rw [Json.Numeral.shrink]
    decide +kernel
  have made : Json.Numeral.signed false (Json.Numeral.scale 5 (-1)) = some (.float 0.5 finite) := by
    rw [divided, Json.Numeral.signed, if_neg Bool.false_ne_true, ofFloat?, dif_pos finite]
  refine ⟨⟨false, [0], [5], none⟩, ?_, Json.Numeral.value_of_fraction rfl rfl made⟩
  rw [spelled]
  rfl

end ChatOptions
