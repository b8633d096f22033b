import ChatOptions.Json.Text
import ChatOptions.Json.Token
import ChatOptions.Proofs.Json.Number
import ChatOptions.Proofs.Json.StringLiteral

/-! The tokens at the front of a JSON text that was written from a tree. -/

namespace ChatOptions

namespace Json

/-- A character that is no blank begins a token, and what is behind the token has the other tokens. -/
theorem tokens_of_next {char : Char} {rest after : List Char} {place : Position} {token : Token}
    (noSpace : Token.isSpace char = false)
    (read : Token.next char rest place = ⟨token, some after⟩) :
    tokens (char :: rest) place
      = (token :: (tokens after token.stop).1, (tokens after token.stop).2) := by
  -- The reading goes on only because the token is well spelled.
  rw [tokens, if_neg (by rw [noSpace]; exact Bool.false_ne_true)]
  dsimp only
  split
  · rename_i broken
    rw [read] at broken
    cases broken
  · rename_i behind found
    rw [read] at found
    cases found
    rw [read]

/-- The first token of a text that begins with no blank is that of its first character. -/
theorem tokens_head {char : Char} (noSpace : Token.isSpace char = false) (rest : List Char)
    (place : Position) :
    ∃ others, (tokens (char :: rest) place).1 = (Token.next char rest place).token :: others := by
  -- Well spelled or not, the token is listed.
  rw [tokens, if_neg (by rw [noSpace]; exact Bool.false_ne_true)]
  dsimp only
  split
  · exact ⟨[], rfl⟩
  · exact ⟨_, rfl⟩

/-- Behind a mark of one character the other tokens go on. -/
theorem tokens_mark (char : Char) {lexeme : Lexeme} (rest : List Char) (place : Position)
    (noSpace : Token.isSpace char = false)
    (mark : Token.next char rest place = Token.mark lexeme rest place) :
    (tokens (char :: rest) place).1
      = ⟨lexeme, place, place.plus 1⟩ :: (tokens rest (place.plus 1)).1 := by
  rw [tokens_of_next noSpace mark]

/-- The letters of a word are read where they stand. -/
theorem Token.scanWord_append (letters rest : List Char) (place : Position) :
    scanWord letters (letters ++ rest) place = .ok rest := by
  -- Letter by letter the word is what was to be read.
  induction letters generalizing place with
  | nil => rfl
  | cons letter letters ih => rw [List.cons_append, scanWord, if_pos rfl, ih]

/-- A word is one token, whatever follows it. -/
theorem tokens_word (char : Char) (letters : List Char) {leaf : Leaf} (rest : List Char)
    (place : Position) (noSpace : Token.isSpace char = false)
    (word : Token.next char (letters ++ rest) place
      = Token.word letters leaf (letters ++ rest) place) :
    ∃ stop, (tokens (char :: (letters ++ rest)) place).1
      = ⟨.leaf leaf, place, stop⟩ :: (tokens rest stop).1 := by
  rw [Token.word, Token.scanWord_append] at word
  exact ⟨_, by rw [tokens_of_next noSpace word]⟩

/-- A string is one token, whatever follows it. -/
theorem tokens_quoted (value : String) (rest : List Char) (place : Position) :
    ∃ stop, (tokens (quoted value ++ rest) place).1
      = ⟨.leaf (.string (.ok value)), place, stop⟩ :: (tokens rest stop).1 := by
  -- Behind the opening quote the literal is read up to its closing one.
  obtain ⟨stop, read⟩ := StringLiteral.scan_quoted value rest (place.plus 1)
  have step : Token.next '"' (value.toList.flatMap escapedChar ++ '"' :: rest) place
      = ⟨⟨.leaf (.string (.ok value)), place, stop⟩, some rest⟩ := by
    rw [Token.next, Token.string, read]
  refine ⟨stop, ?_⟩
  have spelled : quoted value ++ rest
      = '"' :: (value.toList.flatMap escapedChar ++ '"' :: rest) := by
    simp [quoted]
  rw [spelled, tokens_of_next (by decide) step]

/-- The first character of a numeral is a minus sign or a digit. -/
theorem Numeral.scan_head {text rest : List Char} {place : Position} {numeral : Numeral}
    (read : scan text place = .ok (numeral, rest)) :
    ∃ char others, text = char :: others ∧ (char = '-' ∨ char.isDigit = true) := by
  cases text with
  | nil => cases read
  | cons char others =>
    refine ⟨char, others, rfl, ?_⟩
    unfold scan at read
    split at read
    · rename_i same
      exact .inl (List.cons.inj same).1
    · -- Without a sign the whole part comes first, and that is a zero or begins with a digit.
      refine .inr ?_
      unfold scanUnsigned at read
      split at read
      · cases read
      · rename_i wholeRead
        unfold scanWhole at wholeRead
        split at wholeRead
        · rename_i same
          rw [(List.cons.inj same).1]
          decide
        · unfold scanDigits at wholeRead
          split at wholeRead
          · rename_i taken
            rw [takeDigits] at taken
            split at taken
            · assumption
            · cases taken
          · cases wholeRead
          · cases wholeRead

/-- A minus sign or a digit begins a number. -/
theorem Token.next_number {char : Char} (starts : char = '-' ∨ char.isDigit = true)
    (rest : List Char) (place : Position) :
    Token.next char rest place = Token.number char rest place := by
  rcases starts with rfl | digit
  · rfl
  · -- A digit is none of the characters that begin other tokens.
    have different : ∀ other : Char, other.isDigit = false → char ≠ other :=
      fun other noDigit => Numeral.ne_of_isDigit digit noDigit
    unfold Token.next
    split <;> first
      | exact absurd rfl (different _ (by decide))
      | rw [if_pos (.inr digit)]

/-- A minus sign or a digit is no blank. -/
theorem Token.isSpace_number {char : Char} (starts : char = '-' ∨ char.isDigit = true) :
    Token.isSpace char = false := by
  rcases starts with rfl | digit
  · rfl
  · have different : ∀ other : Char, other.isDigit = false → char ≠ other :=
      fun other noDigit => Numeral.ne_of_isDigit digit noDigit
    simp [Token.isSpace, different ' ' (by decide), different '\n' (by decide),
      different '\t' (by decide), different '\r' (by decide)]

/-- A number that is read back is one token, where nothing that follows it could go on with it. -/
theorem tokens_number {number : Number} (readsBack : number.ReadsBack) {rest : List Char}
    (ends : EndsNumeral rest) (place : Position) :
    ∃ stop, (tokens (number.text ++ rest) place).1
      = ⟨.leaf (.number (.ok number)), place, stop⟩ :: (tokens rest stop).1 := by
  obtain ⟨numeral, read, valued⟩ := readsBack
  obtain ⟨char, others, spelled, starts⟩ := Numeral.scan_head read
  -- The numeral is read here as it is alone, because what follows cannot go on with it.
  have appended := Numeral.scan_append read ends place
  rw [spelled, List.cons_append] at appended ⊢
  have step : Token.next char (others ++ rest) place
      = ⟨⟨.leaf (.number (.ok number)), place, place.plus numeral.length⟩, some rest⟩ := by
    rw [Token.next_number starts, Token.number, appended]
    simp only [valued]
  exact ⟨_, by rw [tokens_of_next (Token.isSpace_number starts) step]⟩

/-- Only a closing bracket begins a token that closes an array. -/
theorem Token.next_ne_arrayClose {char : Char} (different : char ≠ ']') (rest : List Char)
    (place : Position) : (Token.next char rest place).token.lexeme ≠ .arrayClose := by
  -- The lexeme is given by the branch that the character takes, of which only one closes an array.
  unfold Token.next
  split
  all_goals first
    | exact absurd rfl different
    | (simp only [Token.mark]; exact Lexeme.noConfusion)
    | (unfold Token.string; split <;> exact Lexeme.noConfusion)
    | (unfold Token.word; split <;> exact Lexeme.noConfusion)
    | skip
  split
  · unfold Token.number
    split <;> exact Lexeme.noConfusion
  · exact Lexeme.noConfusion

end Json

end ChatOptions
