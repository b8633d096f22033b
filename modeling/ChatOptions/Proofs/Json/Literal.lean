import ChatOptions.Proofs.Json.Token
import ChatOptions.Proofs.Reading.Order

/-! The literals of JSON as its grammar has them, and that each is read alike wherever it stands. -/

namespace ChatOptions

namespace Json

/-- Digits, of which there is at least one. -/
def IsDigits (chars : List Char) : Prop := chars ≠ [] ∧ ∀ char ∈ chars, char.isDigit = true

/-- The whole part of a number, in which no zero stands in front of other digits. -/
def IsWhole (chars : List Char) : Prop := IsDigits chars ∧ (chars.head? = some '0' → chars = ['0'])

/-- The fraction of a number, if there is one. -/
def IsFraction (chars : List Char) : Prop := chars = [] ∨ ∃ digits, chars = '.' :: digits ∧ IsDigits digits

/-- The exponent of a number, if there is one. -/
def IsExponent (chars : List Char) : Prop :=
  chars = [] ∨ ∃ letter sign digits, chars = letter :: (sign ++ digits) ∧
    (letter = 'e' ∨ letter = 'E') ∧ (sign = [] ∨ sign = ['+'] ∨ sign = ['-']) ∧ IsDigits digits

/-- A number as it is spelled. -/
structure NumberLiteral where
  sign : List Char
  whole : List Char
  fraction : List Char
  exponent : List Char
  isSign : sign = [] ∨ sign = ['-']
  isWhole : IsWhole whole
  isFraction : IsFraction fraction
  isExponent : IsExponent exponent

/-- A hexadecimal digit, in small or capital letters. -/
def IsHexDigit (char : Char) : Prop :=
  char.isDigit = true ∨ ('a' ≤ char ∧ char ≤ 'f') ∨ ('A' ≤ char ∧ char ≤ 'F')

/-- What may stand between the quotes of a string: characters, short escapes, and escapes of four hexadecimal digits. -/
inductive IsText : List Char → Prop
  | nil : IsText []
  | plain {char rest} (visible : 32 ≤ char.toNat) (noQuote : char ≠ '"') (noBackslash : char ≠ '\\')
    (further : IsText rest) : IsText (char :: rest)
  | escape {letter rest} (known : letter ∈ ['"', '\\', '/', 'b', 'f', 'n', 'r', 't'])
    (further : IsText rest) : IsText ('\\' :: letter :: rest)
  | unit {first second third fourth rest}
    (digits : ∀ digit ∈ [first, second, third, fourth], IsHexDigit digit) (further : IsText rest) :
    IsText ('\\' :: 'u' :: first :: second :: third :: fourth :: rest)

/-- A string as it is spelled between its quotes. -/
structure TextLiteral where
  chars : List Char
  isText : IsText chars

namespace NumberLiteral

/-- The characters of a number. -/
def chars (literal : NumberLiteral) : List Char :=
  literal.sign ++ (literal.whole ++ (literal.fraction ++ literal.exponent))

/-- The number that a literal stands for, unless it is out of range. -/
def value (literal : NumberLiteral) : Except Nat Number :=
  match Numeral.scan literal.chars .start with
  | .ok (numeral, _) => numeral.value
  | .error _ => .error 0

end NumberLiteral

namespace TextLiteral

/-- The characters of a string with its quotes. -/
def quoted (literal : TextLiteral) : List Char := '"' :: (literal.chars ++ ['"'])

/-- The text that a literal stands for, unless its escapes spell none. -/
def value (literal : TextLiteral) : Except Fault String :=
  match StringLiteral.scan (literal.chars ++ ['"']) .start .start with
  | .ok closed => closed.text
  | .error breach => .error breach.wanted

end TextLiteral

/-- Characters that stand for themselves may stand between quotes. -/
theorem IsText.of_plain {chars : List Char}
    (plain : chars.all (fun char => 32 ≤ char.toNat ∧ char ≠ '"' ∧ char ≠ '\\') = true) :
    IsText chars := by
  induction chars with
  | nil => exact .nil
  | cons char rest ih =>
    rw [List.all_cons, Bool.and_eq_true, decide_eq_true_eq] at plain
    obtain ⟨⟨visible, noQuote, noBackslash⟩, further⟩ := plain
    exact .plain visible noQuote noBackslash (ih further)

section Numbers

open Numeral

/-- Digits are read to their end. -/
theorem IsDigits.scanDigits {chars : List Char} (digits : IsDigits chars) (place : Position) :
    Numeral.scanDigits chars place = .ok (chars.map digitValue, []) := by
  obtain ⟨some, each⟩ := digits
  rw [Numeral.scanDigits, takeDigits_digits each]
  -- At least one digit has been taken.
  cases chars with
  | nil => exact absurd rfl some
  | cons => rfl

/-- A whole part is read to its end. -/
theorem IsWhole.scanWhole {chars : List Char} (whole : IsWhole chars) (place : Position) :
    Numeral.scanWhole chars place = .ok (chars.map digitValue, []) := by
  obtain ⟨digits, leading⟩ := whole
  cases chars with
  | nil => exact absurd rfl digits.1
  | cons char rest =>
    by_cases zero : char = '0'
    · -- A zero in front is all there is.
      subst zero
      cases leading rfl
      rfl
    · rw [Numeral.scanWhole]
      · exact digits.scanDigits place
      · intro tail same
        exact zero (List.cons.inj same).1

/-- An exponent is read to its end. -/
theorem IsExponent.scanExponent {chars : List Char} (exponent : IsExponent chars) :
    ∃ read, ∀ place, Numeral.scanExponent chars place = .ok (read, []) := by
  rcases exponent with rfl | ⟨letter, sign, digits, rfl, marked, signed, isDigits⟩
  · exact ⟨none, fun _ => rfl⟩
  · -- Behind the letter a sign is read, if there is one, and then the digits.
    have unsigned : scanSign digits = (none, digits) := by
      obtain ⟨more, each⟩ := isDigits
      cases digits with
      | nil => exact absurd rfl more
      | cons digit rest =>
        have first := each digit List.mem_cons_self
        rw [scanSign]
        · rintro tail same
          rw [(List.cons.inj same).1] at first
          cases first
        · rintro tail same
          rw [(List.cons.inj same).1] at first
          cases first
    have signRead : ∃ known, scanSign (sign ++ digits) = (known, digits) := by
      rcases signed with rfl | rfl | rfl
      · exact ⟨none, unsigned⟩
      · exact ⟨some false, rfl⟩
      · exact ⟨some true, rfl⟩
    obtain ⟨known, signRead⟩ := signRead
    refine ⟨some (known, digits.map digitValue), fun place => ?_⟩
    rw [Numeral.scanExponent, if_pos marked]
    simp only [signRead, isDigits.scanDigits]

/-- An exponent begins with its letter. -/
theorem IsExponent.head {chars : List Char} (exponent : IsExponent chars) :
    ∀ char ∈ chars.head?, char = 'e' ∨ char = 'E' := by
  intro char first
  rcases exponent with rfl | ⟨letter, sign, digits, rfl, marked, _⟩
  · cases first
  · cases first
    exact marked

/-- What begins with a point or the letter of an exponent ends the digits before it. -/
theorem IsFraction.endsDigits {chars rest : List Char} (fraction : IsFraction chars)
    (exponent : IsExponent rest) : EndsDigits (chars ++ rest) := by
  intro char first
  rcases fraction with rfl | ⟨digits, rfl, _⟩
  · rcases exponent.head char first with rfl | rfl <;> rfl
  · cases first
    rfl

/-- A fraction is read up to the exponent behind it. -/
theorem IsFraction.scanFraction {chars rest : List Char} (fraction : IsFraction chars)
    (exponent : IsExponent rest) :
    ∃ read, ∀ place, Numeral.scanFraction (chars ++ rest) place = .ok (read, rest) := by
  rcases fraction with rfl | ⟨digits, rfl, isDigits⟩
  · refine ⟨[], fun place => ?_⟩
    rw [List.nil_append, Numeral.scanFraction]
    -- An exponent does not begin with a point.
    intro tail same
    have marked := exponent.head '.' (by rw [same]; rfl)
    revert marked
    decide
  · have ends : EndsDigits rest := by
      have behind : IsFraction [] := .inl rfl
      exact behind.endsDigits exponent
    exact ⟨digits.map digitValue, fun place =>
      scanDigits_append (isDigits.scanDigits place) (fun _ => ends) _⟩

/-- The first character of a whole part is a digit. -/
theorem IsWhole.head {chars : List Char} (whole : IsWhole chars) :
    ∃ digit rest, chars = digit :: rest ∧ digit.isDigit = true := by
  obtain ⟨⟨more, each⟩, _⟩ := whole
  cases chars with
  | nil => exact absurd rfl more
  | cons digit rest => exact ⟨digit, rest, rfl, each digit List.mem_cons_self⟩

/-- A number is read to its end, wherever it stands. -/
theorem NumberLiteral.scan_chars (literal : NumberLiteral) :
    ∃ numeral, ∀ place, Numeral.scan literal.chars place = .ok (numeral, []) := by
  obtain ⟨sign, whole, fraction, exponent, isSign, isWhole, isFraction, isExponent⟩ := literal
  obtain ⟨fractionRead, scanFraction⟩ := isFraction.scanFraction isExponent
  obtain ⟨exponentRead, scanExponent⟩ := isExponent.scanExponent
  -- The parts are read one after the other, each up to where the next begins.
  have unsigned : ∀ negative place, scanUnsigned negative (whole ++ (fraction ++ exponent)) place
      = .ok (⟨negative, whole.map digitValue, fractionRead, exponentRead⟩, []) := by
    intro negative place
    have ends := isFraction.endsDigits isExponent
    have wholeRead := scanWhole_append (isWhole.scanWhole place) (fun _ => ends) place
    rw [List.nil_append] at wholeRead
    simp only [scanUnsigned, wholeRead, scanFraction, scanExponent]
  rcases isSign with rfl | rfl
  · refine ⟨⟨false, whole.map digitValue, fractionRead, exponentRead⟩, fun place => ?_⟩
    rw [chars, List.nil_append, Numeral.scan]
    · exact unsigned false place
    · -- A digit is no sign.
      obtain ⟨digit, rest, rfl, isDigit⟩ := isWhole.head
      intro tail same
      rw [(List.cons.inj same).1] at isDigit
      cases isDigit
  · exact ⟨⟨true, whole.map digitValue, fractionRead, exponentRead⟩, fun place => unsigned true _⟩

/-- A number is one token that stands for its value, where nothing that follows it could go on with it. -/
theorem NumberLiteral.tokens_chars (literal : NumberLiteral) {rest : List Char}
    (ends : EndsNumeral rest) (place : Position) :
    ∃ value stop, SameOutcome Eq value literal.value ∧
      (tokens (literal.chars ++ rest) place).1
        = ⟨.leaf (.number value), place, stop⟩ :: (tokens rest stop).1 := by
  obtain ⟨numeral, read⟩ := literal.scan_chars
  obtain ⟨char, others, spelled, starts⟩ := Numeral.scan_head (read .start)
  have valued : literal.value = numeral.value := by rw [value, read]
  have appended := Numeral.scan_append (read .start) ends place
  rw [spelled, List.cons_append] at appended ⊢
  -- The value is that of the numeral, or a fault at some place in it.
  have step : ∃ value, SameOutcome Eq value numeral.value ∧
      Token.next char (others ++ rest) place
        = ⟨⟨.leaf (.number value), place, place.plus numeral.length⟩, some rest⟩ := by
    rw [Token.next_number starts, Token.number]
    cases read : numeral.value with
    | ok number => exact ⟨.ok number, .ok rfl, by simp only [appended, read]⟩
    | error taken =>
      exact ⟨.error (.defect .numberOutOfRange (place.plus taken)), .error,
        by simp only [appended, read]⟩
  obtain ⟨value, same, step⟩ := step
  refine ⟨value, place.plus numeral.length, valued ▸ same, ?_⟩
  rw [tokens_of_next (Token.isSpace_number starts) step]

/-- A number begins with a minus sign or a digit. -/
theorem NumberLiteral.head (literal : NumberLiteral) :
    ∃ char rest, literal.chars = char :: rest ∧ (char = '-' ∨ char.isDigit = true) := by
  obtain ⟨numeral, read⟩ := literal.scan_chars
  exact Numeral.scan_head (read .start)

end Numbers

namespace StringLiteral

/-- Two readings of a literal that have come to the same, except for the places of their faults. -/
structure Progress.Alike (first second : Progress) : Prop where
  chars : first.chars = second.chars
  leading : first.leading = second.leading
  fault : first.fault.isSome = second.fault.isSome

namespace Progress.Alike

variable {first second : Progress}

/-- A fault may be found at different places. -/
theorem failed (alike : first.Alike second) (fault other : Fault) :
    (first.failed fault).Alike (second.failed other) :=
  ⟨alike.chars, rfl, rfl⟩

/-- A leading surrogate may wait in vain at different places. -/
theorem unpaired (alike : first.Alike second) (place other : Position) :
    (first.unpaired place).Alike (second.unpaired other) := by
  unfold Progress.unpaired
  rw [alike.leading]
  split
  · exact alike.failed _ _
  · exact alike

/-- The same character is read. -/
theorem push (alike : first.Alike second) (char : Char) : (first.push char).Alike (second.push char) :=
  ⟨congrArg (char :: ·) alike.chars, rfl, alike.fault⟩

/-- The same sixteen-bit unit is read, at different places. -/
theorem pushUnit (alike : first.Alike second) (unit : Nat) (place other : Position) :
    (first.pushUnit unit place).Alike (second.pushUnit unit other) := by
  unfold Progress.pushUnit
  rw [alike.leading]
  -- What the unit means depends on itself and on what waits for it.
  cases second.leading with
  | some leading =>
    dsimp only
    split
    · exact alike.push _
    · exact alike.failed _ _
  | none =>
    dsimp only
    split
    · exact alike.failed _ _
    · split
      · exact ⟨alike.chars, rfl, alike.fault⟩
      · exact alike.push _

/-- The same text has been read, or none. -/
theorem result (alike : first.Alike second) : SameOutcome Eq first.result second.result := by
  obtain ⟨chars, leading, fault⟩ := first
  obtain ⟨chars', leading', fault'⟩ := second
  obtain ⟨same, _, failed⟩ := alike
  dsimp only at same failed
  unfold Progress.result
  -- Both have a fault, or both have the same characters.
  cases fault <;> cases fault'
  · rw [same]
    exact .ok rfl
  · cases failed
  · cases failed
  · exact .error

end Progress.Alike

/-- A character that stands for itself is read. -/
theorem scan_plain {char : Char} (visible : 32 ≤ char.toNat) (noQuote : char ≠ '"')
    (noBackslash : char ≠ '\\') (text : List Char) (place : Position) (progress : Progress) :
    scan (char :: text) place progress
      = scan text (place.after char) ((progress.unpaired (place.ahead char)).push char) := by
  rw [scan]
  · rw [if_neg (Nat.not_lt.mpr visible)]
  · exact noQuote
  · exact noBackslash

/-- The letter of a short escape stands for a character, and begins no escape of four digits. -/
theorem shortEscape?_of_known {letter : Char}
    (known : letter ∈ ['"', '\\', '/', 'b', 'f', 'n', 'r', 't']) :
    letter ≠ 'u' ∧ ∃ char, shortEscape? letter = some char := by
  simp only [List.mem_cons, List.not_mem_nil, or_false] at known
  rcases known with rfl | rfl | rfl | rfl | rfl | rfl | rfl | rfl <;>
    exact ⟨by decide, _, rfl⟩

/-- A short escape is read as the character that it stands for. -/
theorem scan_escape {letter : Char} (known : letter ∈ ['"', '\\', '/', 'b', 'f', 'n', 'r', 't']) :
    ∃ char, ∀ text place progress, scan ('\\' :: letter :: text) place progress
      = scan text ((place.plus 1).after letter)
        ((progress.unpaired ((place.plus 1).ahead letter)).push char) := by
  obtain ⟨other, char, found⟩ := shortEscape?_of_known known
  refine ⟨char, fun text place progress => ?_⟩
  rw [scan]
  · simp only [found]
  · exact other

/-- A hexadecimal digit has a value. -/
theorem hexValue?_of_isHexDigit {char : Char} (hex : IsHexDigit char) :
    ∃ value, hexValue? char = some value := by
  unfold hexValue?
  rcases hex with digit | small | capital
  · exact ⟨_, if_pos digit⟩
  · by_cases digit : char.isDigit = true
    · exact ⟨_, if_pos digit⟩
    · exact ⟨_, by rw [if_neg digit, if_pos small]⟩
  · by_cases digit : char.isDigit = true
    · exact ⟨_, if_pos digit⟩
    · by_cases small : 'a' ≤ char ∧ char ≤ 'f'
      · exact ⟨_, by rw [if_neg digit, if_pos small]⟩
      · exact ⟨_, by rw [if_neg digit, if_neg small, if_pos capital]⟩

/-- An escape of four hexadecimal digits is read as a sixteen-bit unit. -/
theorem scan_unit {first second third fourth : Char}
    (digits : ∀ digit ∈ [first, second, third, fourth], IsHexDigit digit) :
    ∃ unit, ∀ text place progress,
      scan ('\\' :: 'u' :: first :: second :: third :: fourth :: text) place progress
        = scan text (place.plus 6) (progress.pushUnit unit (place.plus 6)) := by
  simp only [List.forall_mem_cons, List.not_mem_nil, false_imp_iff, implies_true, and_true] at digits
  obtain ⟨one, two, three, four⟩ := digits
  obtain ⟨_, one⟩ := hexValue?_of_isHexDigit one
  obtain ⟨_, two⟩ := hexValue?_of_isHexDigit two
  obtain ⟨_, three⟩ := hexValue?_of_isHexDigit three
  obtain ⟨_, four⟩ := hexValue?_of_isHexDigit four
  -- Each digit has a value, so the four of them spell a number.
  obtain ⟨unit, number⟩ : ∃ unit, hexNumber? [first, second, third, fourth] = some unit := by
    simp [hexNumber?, one, two, three, four]
  refine ⟨unit, fun text place progress => ?_⟩
  rw [scan]
  simp only [number]

/-- Between its quotes a string is read to its end, with the same result wherever it stands. -/
theorem scan_isText {chars : List Char} (isText : IsText chars) {first second : Progress}
    (alike : first.Alike second) (place place' : Position) (rest rest' : List Char) :
    ∃ text stop text' stop', scan (chars ++ '"' :: rest) place first = .ok ⟨text, rest, stop⟩ ∧
      scan (chars ++ '"' :: rest') place' second = .ok ⟨text', rest', stop'⟩ ∧
      SameOutcome Eq text text' := by
  -- The induction follows the string, and the two readings come to the same at every step.
  induction isText generalizing first second place place' with
  | nil =>
    refine ⟨_, _, _, _, by rw [List.nil_append, scan], by rw [List.nil_append, scan], ?_⟩
    exact (alike.unpaired _ _).result
  | plain visible noQuote noBackslash _ ih =>
    rw [List.cons_append, List.cons_append, scan_plain visible noQuote noBackslash,
      scan_plain visible noQuote noBackslash]
    exact ih ((alike.unpaired _ _).push _) _ _
  | escape known _ ih =>
    obtain ⟨char, step⟩ := scan_escape known
    simp only [List.cons_append, step]
    exact ih ((alike.unpaired _ _).push _) _ _
  | unit digits _ ih =>
    obtain ⟨unit, step⟩ := scan_unit digits
    simp only [List.cons_append, step]
    exact ih (alike.pushUnit _ _ _) _ _

end StringLiteral

/-- A string is one token that stands for its value, whatever follows it. -/
theorem TextLiteral.tokens_quoted (literal : TextLiteral) (rest : List Char) (place : Position) :
    ∃ text stop, SameOutcome Eq text literal.value ∧
      (tokens (literal.quoted ++ rest) place).1
        = ⟨.leaf (.string text), place, stop⟩ :: (tokens rest stop).1 := by
  have same : StringLiteral.Progress.Alike .start .start := ⟨rfl, rfl, rfl⟩
  obtain ⟨text, stop, alone, _, read, readAlone, alike⟩ :=
    StringLiteral.scan_isText literal.isText same (place.plus 1) .start rest []
  have valued : literal.value = alone := by rw [value, readAlone]
  have step : Token.next '"' (literal.chars ++ '"' :: rest) place
      = ⟨⟨.leaf (.string text), place, stop⟩, some rest⟩ := by
    rw [Token.next, Token.string, read]
  refine ⟨text, stop, valued ▸ alike, ?_⟩
  rw [quoted, List.cons_append, List.append_assoc, List.singleton_append,
    tokens_of_next (by decide) step]

end Json

end ChatOptions
