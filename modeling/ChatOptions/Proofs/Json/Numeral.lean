import ChatOptions.Json.Numeral

/-! A numeral is read alike at any place and whatever follows it. -/

namespace ChatOptions

/-- Whether digits that stand in front of a text end there. -/
def EndsDigits (rest : List Char) : Prop := ∀ char ∈ rest.head?, char.isDigit = false

/-- Digits are taken from the front of a text alike when something else follows, if what was left over is not all of it. -/
theorem takeDigits_append {text after rest : List Char} {digits : List Nat}
    (taken : takeDigits text = (digits, after)) (ends : after = [] → EndsDigits rest) :
    takeDigits (text ++ rest) = (digits, after ++ rest) := by
  induction text generalizing digits with
  | nil =>
    cases taken
    -- The text ran out, so what follows decides where the digits end.
    cases rest with
    | nil => rfl
    | cons char others =>
      have noDigit : char.isDigit = false := ends rfl char rfl
      simp [takeDigits, noDigit]
  | cons char others ih =>
    rw [takeDigits] at taken
    rw [List.cons_append, takeDigits]
    split at taken
    · rename_i digit
      cases taken
      rw [if_pos digit, ih rfl]
    · rename_i other
      cases taken
      rw [if_neg other]
      rfl

/-- Characters that are digits are all taken. -/
theorem takeDigits_digits {chars : List Char} (digits : ∀ char ∈ chars, char.isDigit = true) :
    takeDigits chars = (chars.map digitValue, []) := by
  induction chars with
  | nil => rfl
  | cons char rest ih =>
    have first := digits char List.mem_cons_self
    have others := ih fun other found => digits other (List.mem_cons_of_mem _ found)
    rw [takeDigits, if_pos first, others]
    rfl

/-- A character that is no digit is left over when digits are taken. -/
theorem mem_of_takeDigits {text after : List Char} {digits : List Nat} {char : Char}
    (noDigit : char.isDigit = false) (taken : takeDigits text = (digits, after))
    (held : char ∈ text) : char ∈ after := by
  induction text generalizing digits with
  | nil => cases held
  | cons first rest ih =>
    rw [takeDigits] at taken
    split at taken
    · rename_i digit
      cases taken
      -- The character that was taken is a digit, so it is not the one that is looked for.
      rcases List.mem_cons.mp held with same | later
      · rw [same, digit] at noDigit
        cases noDigit
      · exact ih rfl later
    · cases taken
      exact held

namespace Json

/-- Whether a numeral that stands in front of a text ends there. -/
def EndsNumeral (rest : List Char) : Prop :=
  ∀ char ∈ rest.head?, char.isDigit = false ∧ char ≠ '.' ∧ char ≠ 'e' ∧ char ≠ 'E'

/-- Where a numeral ends, digits do. -/
theorem EndsNumeral.digits {rest : List Char} (ends : EndsNumeral rest) : EndsDigits rest :=
  fun char first => (ends char first).1

namespace Numeral

variable {text after rest : List Char} {place : Position}

/-- Digits are read alike at any place and whatever follows them. -/
theorem scanDigits_append {digits : List Nat} (read : scanDigits text place = .ok (digits, after))
    (ends : after = [] → EndsDigits rest) (other : Position) :
    scanDigits (text ++ rest) other = .ok (digits, after ++ rest) := by
  -- Reading stops at an error or with some digits, and only the latter is asked about.
  unfold scanDigits at read
  split at read
  · rename_i taken
    cases read
    rw [scanDigits, takeDigits_append taken ends]
  · cases read
  · cases read

/-- A whole part is read alike at any place and whatever follows it. -/
theorem scanWhole_append {digits : List Nat} (read : scanWhole text place = .ok (digits, after))
    (ends : after = [] → EndsDigits rest) (other : Position) :
    scanWhole (text ++ rest) other = .ok (digits, after ++ rest) := by
  -- A whole part is one zero, or digits that do not begin with one.
  unfold scanWhole at read
  split at read
  · rename_i tail
    split at read
    · rename_i noMore
      cases read
      -- No digit follows the zero, neither in its own text nor in what comes after it.
      have taken : takeDigits after = ([], (takeDigits after).2) :=
        Prod.ext (List.isEmpty_iff.mp noMore) rfl
      have whole : (takeDigits after).2 = after := by
        cases after with
        | nil => rfl
        | cons char others =>
          rw [takeDigits] at noMore ⊢
          split at noMore
          · cases noMore
          · rename_i noDigit
            rw [if_neg noDigit]
      rw [whole] at taken
      rw [List.cons_append, scanWhole, takeDigits_append taken ends]
      rfl
    · cases read
  · rename_i noZero
    have appended := scanDigits_append read ends other
    -- The text is not empty and does not begin with a zero, and so neither does the longer one.
    cases text with
    | nil => cases read
    | cons char others =>
      have different : char ≠ '0' := fun same => noZero others (same ▸ rfl)
      rw [List.cons_append, scanWhole]
      · exact appended
      · intro tail same
        exact different (List.cons.inj same).1

/-- A fraction is read alike at any place and whatever follows it. -/
theorem scanFraction_append {digits : List Nat}
    (read : scanFraction text place = .ok (digits, after))
    (ends : after = [] → EndsNumeral rest) (other : Position) :
    scanFraction (text ++ rest) other = .ok (digits, after ++ rest) := by
  -- Behind a point are digits; without one the fraction is empty and nothing is taken.
  unfold scanFraction at read
  split at read
  · exact scanDigits_append read (fun none => (ends none).digits) _
  · rename_i noPoint
    cases read
    rw [scanFraction]
    · -- What follows has no point either, neither behind the text nor in its place.
      intro tail same
      cases text with
      | nil => exact (ends rfl '.' (by simp [show rest = '.' :: tail from same])).2.1 rfl
      | cons char others =>
        exact noPoint others (by rw [(List.cons.inj same).1])

/-- The sign of an exponent is read alike where digits follow it. -/
theorem scanSign_append {sign : Option Bool} (read : scanSign text = (sign, after))
    (more : text ≠ []) : scanSign (text ++ rest) = (sign, after ++ rest) := by
  cases text with
  | nil => exact absurd rfl more
  | cons char others =>
    -- A sign is a plus, a minus, or nothing at all.
    unfold scanSign at read
    split at read
    · rename_i same
      cases read
      cases same
      rfl
    · rename_i same
      cases read
      cases same
      rfl
    · rename_i noPlus noMinus
      cases read
      rw [List.cons_append, scanSign]
      · intro tail same
        exact noPlus others (by rw [(List.cons.inj same).1])
      · intro tail same
        exact noMinus others (by rw [(List.cons.inj same).1])

/-- An exponent is read alike at any place and whatever follows it. -/
theorem scanExponent_append {exponent : Option (Option Bool × List Nat)}
    (read : scanExponent text place = .ok (exponent, after))
    (ends : after = [] → EndsNumeral rest) (other : Position) :
    scanExponent (text ++ rest) other = .ok (exponent, after ++ rest) := by
  unfold scanExponent at read
  split at read
  · rename_i letter tail
    split at read
    · rename_i marked
      dsimp only at read
      split at read
      · rename_i digits behind digitsRead
        cases read
        -- Digits follow the sign, so something follows the letter.
        have more : tail ≠ [] := by
          rintro rfl
          cases digitsRead
        have signRead : scanSign (tail ++ rest) = ((scanSign tail).1, (scanSign tail).2 ++ rest) :=
          scanSign_append rfl more
        have appended : ∀ place,
            scanDigits ((scanSign tail).2 ++ rest) place = .ok (digits, after ++ rest) :=
          scanDigits_append digitsRead fun none => (ends none).digits
        rw [List.cons_append, scanExponent, if_pos marked]
        simp only [signRead, appended]
      · cases read
    · rename_i unmarked
      cases read
      rw [List.cons_append, scanExponent, if_neg unmarked]
  · cases read
    -- Nothing is left to read, so it must be seen that what follows is no exponent.
    cases rest with
    | nil => rfl
    | cons char others =>
      have first := ends rfl char rfl
      have unmarked : ¬ (char = 'e' ∨ char = 'E') := fun marked =>
        marked.elim first.2.2.1 first.2.2.2
      rw [List.nil_append, scanExponent, if_neg unmarked]

/-- A numeral without its sign is read alike at any place and whatever follows it. -/
theorem scanUnsigned_append {negative : Bool} {numeral : Numeral}
    (read : scanUnsigned negative text place = .ok (numeral, []))
    (ends : EndsNumeral rest) (other : Position) :
    scanUnsigned negative (text ++ rest) other = .ok (numeral, rest) := by
  -- Each of the three parts is read up to where the next begins.
  unfold scanUnsigned at read
  split at read
  · cases read
  · rename_i whole wholeAfter wholeRead
    dsimp only at read
    split at read
    · cases read
    · rename_i fraction fractionAfter fractionRead
      split at read
      · cases read
      · rename_i exponent exponentRead
        cases read
        rw [scanUnsigned, scanWhole_append wholeRead (fun _ => ends.digits) other]
        dsimp only
        rw [scanFraction_append fractionRead (fun _ => ends)]
        dsimp only
        rw [scanExponent_append exponentRead (fun _ => ends)]
        rfl

/-- A numeral is read alike at any place and whatever follows it. -/
theorem scan_append {numeral : Numeral} (read : scan text place = .ok (numeral, []))
    (ends : EndsNumeral rest) (other : Position) :
    scan (text ++ rest) other = .ok (numeral, rest) := by
  -- A minus is read off first; without one the numeral begins at once.
  unfold scan at read
  split at read
  · -- A minus is in front, and the numeral without it is read alike.
    exact scanUnsigned_append read ends _
  · rename_i unsigned
    have appended := scanUnsigned_append read ends other
    -- A numeral is not empty, so its first character decides that there is no sign.
    cases text with
    | nil => cases read
    | cons char others =>
      rw [List.cons_append, scan]
      · exact appended
      · intro tail same
        exact unsigned others (by rw [(List.cons.inj same).1])

/-- Whether a character has no place in a numeral. -/
def Foreign (char : Char) : Prop :=
  char.isDigit = false ∧ char ≠ '-' ∧ char ≠ '+' ∧ char ≠ '.' ∧ char ≠ 'e' ∧ char ≠ 'E'

instance (char : Char) : Decidable (Foreign char) :=
  inferInstanceAs (Decidable (_ ∧ _ ∧ _ ∧ _ ∧ _ ∧ _))

variable {char : Char}

/-- A foreign character is left over when digits are read. -/
theorem mem_of_scanDigits {digits : List Nat} (foreign : Foreign char)
    (read : scanDigits text place = .ok (digits, after)) (held : char ∈ text) : char ∈ after := by
  unfold scanDigits at read
  split at read
  · rename_i taken
    cases read
    exact mem_of_takeDigits foreign.1 taken held
  · cases read
  · cases read

/-- A foreign character is left over when a whole part is read. -/
theorem mem_of_scanWhole {digits : List Nat} (foreign : Foreign char)
    (read : scanWhole text place = .ok (digits, after)) (held : char ∈ text) : char ∈ after := by
  unfold scanWhole at read
  split at read
  · split at read
    · cases read
      -- What was taken is a zero, which is a digit.
      rcases List.mem_cons.mp held with same | later
      · rw [same] at foreign
        cases foreign.1
      · exact later
    · cases read
  · exact mem_of_scanDigits foreign read held

/-- A foreign character is left over when a fraction is read. -/
theorem mem_of_scanFraction {digits : List Nat} (foreign : Foreign char)
    (read : scanFraction text place = .ok (digits, after)) (held : char ∈ text) :
    char ∈ after := by
  unfold scanFraction at read
  split at read
  · -- What was taken is the point, which is not foreign.
    rcases List.mem_cons.mp held with same | later
    · exact absurd same foreign.2.2.2.1
    · exact mem_of_scanDigits foreign read later
  · cases read
    exact held

/-- A foreign character is left over when a sign is read. -/
theorem mem_of_scanSign (foreign : Foreign char) (held : char ∈ text) :
    char ∈ (scanSign text).2 := by
  unfold scanSign
  split
  · exact (List.mem_cons.mp held).resolve_left foreign.2.2.1
  · exact (List.mem_cons.mp held).resolve_left foreign.2.1
  · exact held

/-- A foreign character is left over when an exponent is read. -/
theorem mem_of_scanExponent {exponent : Option (Option Bool × List Nat)} (foreign : Foreign char)
    (read : scanExponent text place = .ok (exponent, after)) (held : char ∈ text) :
    char ∈ after := by
  unfold scanExponent at read
  split at read
  · split at read
    · rename_i letter tail marked
      dsimp only at read
      split at read
      · rename_i digitsRead
        cases read
        -- What was taken is the letter, and then a sign and digits.
        rcases List.mem_cons.mp held with same | later
        · rw [← same] at marked
          exact absurd marked (not_or.mpr ⟨foreign.2.2.2.2.1, foreign.2.2.2.2.2⟩)
        · exact mem_of_scanDigits foreign digitsRead (mem_of_scanSign foreign later)
      · cases read
    · cases read
      exact held
  · cases held

/-- A foreign character is left over when a numeral without its sign is read. -/
theorem mem_of_scanUnsigned {negative : Bool} {numeral : Numeral} (foreign : Foreign char)
    (read : scanUnsigned negative text place = .ok (numeral, after)) (held : char ∈ text) :
    char ∈ after := by
  unfold scanUnsigned at read
  split at read
  · cases read
  · rename_i wholeRead
    dsimp only at read
    split at read
    · cases read
    · rename_i fractionRead
      split at read
      · cases read
      · rename_i exponentRead
        cases read
        -- The character is left over by each part in turn.
        have behindWhole := mem_of_scanWhole foreign wholeRead held
        have behindFraction := mem_of_scanFraction foreign fractionRead behindWhole
        exact mem_of_scanExponent foreign exponentRead behindFraction

/-- A foreign character is left over when a numeral is read. -/
theorem mem_of_scan {numeral : Numeral} (foreign : Foreign char)
    (read : scan text place = .ok (numeral, after)) (held : char ∈ text) : char ∈ after := by
  unfold scan at read
  split at read
  · exact mem_of_scanUnsigned foreign read ((List.mem_cons.mp held).resolve_left foreign.2.1)
  · exact mem_of_scanUnsigned foreign read held

end Numeral

end Json

end ChatOptions
