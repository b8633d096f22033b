import Mathlib.Data.List.Basic

/-! The order of texts: by code points, which is the order of their octets in UTF-8. -/

namespace ChatOptions

/-- The octets of a text in UTF-8. -/
def octets (text : String) : List UInt8 := text.toUTF8.data.toList

/-- The octets of a text are those of its characters, one after the other. -/
theorem octets_eq_flatMap (text : String) :
    octets text = text.toList.flatMap String.utf8EncodeChar := by
  rw [octets, String.toUTF8, ← String.utf8Encode_toList, List.utf8Encode,
    List.toList_data_toByteArray]

/-- Of two characters the smaller comes first by octets, whatever follows either. -/
theorem utf8EncodeChar_lt {first second : Char} (before : first < second)
    (rest others : List UInt8) :
    String.utf8EncodeChar first ++ rest < String.utf8EncodeChar second ++ others := by
  have smaller : first.val.toNat < second.val.toNat := before
  have bounded : second.val.toNat < 0x110000 := by
    rcases second.valid with low | ⟨_, high⟩
    · exact Nat.lt_trans low (by decide)
    · exact high
  unfold String.utf8EncodeChar
  generalize first.val.toNat = low at *
  generalize second.val.toNat = high at *
  -- A longer encoding begins with a larger octet, and equally long ones are digits to the base 64.
  dsimp only
  split_ifs
  all_goals
    simp only [List.cons_append, List.nil_append, List.cons_lt_cons_iff, UInt8.lt_iff_toNat_lt,
      UInt8.toNat_ofNat', ← UInt8.toNat_inj]
    simp (disch := omega) only [Nat.mod_eq_of_lt]
    try omega

/-- Texts in order have their octets in order. -/
theorem octets_lt_of_lt {first second : String} (before : first < second) :
    octets first < octets second := by
  rw [octets_eq_flatMap, octets_eq_flatMap]
  -- The induction goes along the characters that the two texts share.
  have general : ∀ chars others : List Char, chars < others →
      chars.flatMap String.utf8EncodeChar < others.flatMap String.utf8EncodeChar := by
    intro chars
    induction chars with
    | nil =>
      intro others before
      cases others with
      | nil => exact absurd before (List.lt_irrefl [])
      | cons other rest =>
        -- Every character has an octet, and nothing comes before it.
        rw [List.flatMap_nil, List.flatMap_cons]
        cases spelled : String.utf8EncodeChar other with
        | nil => exact absurd spelled String.utf8EncodeChar_ne_nil
        | cons octet more => exact List.nil_lt_cons octet _
    | cons char rest ih =>
      intro others before
      cases others with
      | nil => cases before
      | cons other more =>
        rw [List.flatMap_cons, List.flatMap_cons]
        rcases List.cons_lt_cons_iff.mp before with smaller | ⟨rfl, later⟩
        · exact utf8EncodeChar_lt smaller _ _
        · exact List.append_left_lt (ih more later)
  exact general first.toList second.toList before

/-- Texts are in order exactly if their octets are. -/
theorem lt_iff_octets_lt {first second : String} :
    first < second ↔ octets first < octets second := by
  refine ⟨octets_lt_of_lt, fun before => ?_⟩
  -- Texts that are not in this order are the same or in the other one, and neither fits.
  refine Decidable.byContradiction fun notBefore => ?_
  by_cases after : second < first
  · exact List.lt_asymm before (octets_lt_of_lt after)
  · have same := String.le_antisymm (String.not_lt.mp after) (String.not_lt.mp notBefore)
    exact List.lt_irrefl _ (same ▸ before)

end ChatOptions
