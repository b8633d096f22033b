import ChatOptions.Json.StringLiteral
import ChatOptions.Json.Text

/-! A string written as JSON is read back as itself, whatever characters it has. -/

namespace ChatOptions

namespace Json

/-- The digit written for a number below sixteen is read as that number. -/
theorem hexValue?_hexDigit {value : Nat} (small : value < 16) :
    hexValue? (hexDigit value) = some value := by
  -- Sixteen digits, each read back by itself.
  revert value
  decide

/-- A control character written with four hexadecimal digits is read as its code. -/
theorem hexNumber?_control {code : Nat} (small : code < 32) :
    hexNumber? ['0', '0', hexDigit (code / 16), hexDigit (code % 16)] = some code := by
  -- A code below thirty-two has two digits, and the two in front of them are zeros.
  have high : hexValue? (hexDigit (code / 16)) = some (code / 16) := hexValue?_hexDigit (by omega)
  have low : hexValue? (hexDigit (code % 16)) = some (code % 16) := hexValue?_hexDigit (by omega)
  have zero : hexValue? '0' = some 0 := rfl
  have whole : code / 16 * 16 + code % 16 = code := by omega
  simp [hexNumber?, high, low, zero, whole]

namespace StringLiteral

/-- A character as it is written between quotes adds that character to what has been read. -/
theorem scan_escapedChar (char : Char) (chars text : List Char) (place : Position) :
    ∃ behind, scan (escapedChar char ++ text) place ⟨chars, none, none⟩
      = scan text behind ⟨char :: chars, none, none⟩ := by
  -- The seven escapes of one letter are read in one step, by definition.
  unfold escapedChar
  split
  all_goals try exact ⟨_, rfl⟩
  rename_i quote backslash _ _ _ _ _
  split
  · -- A control character has an escape of four digits, which is no half of a surrogate pair.
    rename_i control
    have digits := hexNumber?_control control
    refine ⟨place.plus 6, ?_⟩
    have read : scan (['\\', 'u', '0', '0', hexDigit (char.toNat / 16), hexDigit (char.toNat % 16)]
        ++ text) place ⟨chars, none, none⟩
        = scan text (place.plus 6)
          (Progress.pushUnit ⟨chars, none, none⟩ char.toNat (place.plus 6)) := by
      simp only [List.cons_append, List.nil_append, scan, digits]
    have pushed : Progress.pushUnit ⟨chars, none, none⟩ char.toNat (place.plus 6)
        = ⟨char :: chars, none, none⟩ := by
      -- The code is too small for either half of a surrogate pair.
      have low : ¬ (0xdc00 ≤ char.toNat ∧ char.toNat ≤ 0xdfff) := by omega
      have below : ¬ (0xd800 ≤ char.toNat ∧ char.toNat < 0xdc00) := by omega
      simp only [Progress.pushUnit, if_neg low, if_neg below, Progress.push, Char.ofNat_toNat]
    rw [read, pushed]
  · -- Any other character stands for itself, being neither a quote nor a backslash.
    rename_i visible
    refine ⟨place.after char, ?_⟩
    rw [List.cons_append, List.nil_append, scan]
    · simp only [Progress.unpaired, Option.isSome_none, if_neg visible, Progress.push]
      rfl
    · exact quote
    · exact backslash

/-- Characters as they are written between quotes add themselves to what has been read. -/
theorem scan_escaped (added chars text : List Char) (place : Position) :
    ∃ behind, scan (added.flatMap escapedChar ++ text) place ⟨chars, none, none⟩
      = scan text behind ⟨added.reverse ++ chars, none, none⟩ := by
  induction added generalizing chars place with
  | nil => exact ⟨place, rfl⟩
  | cons char rest ih =>
    -- The first character moves the place on, and the rest is read from there.
    obtain ⟨next, first⟩ := scan_escapedChar char chars (rest.flatMap escapedChar ++ text) place
    obtain ⟨behind, others⟩ := ih (char :: chars) next
    refine ⟨behind, ?_⟩
    rw [List.flatMap_cons, List.append_assoc, first, others]
    simp

/-- Behind its opening quote a string is read to its closing one, and no further. -/
theorem scan_quoted (value : String) (text : List Char) (place : Position) :
    ∃ stop, scan (value.toList.flatMap escapedChar ++ '"' :: text) place .start
      = .ok ⟨.ok value, text, stop⟩ := by
  obtain ⟨behind, read⟩ := scan_escaped value.toList [] ('"' :: text) place
  refine ⟨behind.plus 1, ?_⟩
  -- No half of a pair is pending at the end, so the quote closes the string.
  rw [Progress.start, read, scan]
  simp [Progress.unpaired, Progress.result]

end StringLiteral

end Json

end ChatOptions
