import ChatOptions.Json.Numeral
import ChatOptions.Json.StringLiteral

/-! The tokens of a JSON text, each with its place, up to the first that is misspelled. -/

namespace ChatOptions

namespace Json

/-- A value without parts. -/
inductive Leaf where
  | null
  | bool (value : Bool)
  | number (value : Except Fault Number)
  | string (value : Except Fault String)

/-- What a token is. -/
inductive Lexeme where
  | arrayOpen
  | arrayClose
  | objectOpen
  | objectClose
  | comma
  | colon
  | leaf (leaf : Leaf)
  /-- The beginning of a string that is not well spelled. -/
  | brokenString (breach : Breach)
  /-- The beginning of a word or number that is not well spelled. -/
  | brokenWord (breach : Breach)
  /-- A character that begins no token. -/
  | stray

/-- A token, from its first character to behind its last. -/
structure Token where
  lexeme : Lexeme
  start : Position
  stop : Position

namespace Token

/-- The place behind the first byte of the token. -/
def ahead (token : Token) : Position := token.start.plus 1

/-- Reads the letters of a word, behind the first. -/
def scanWord : List Char → List Char → Position → Except Fault (List Char)
  | [], rest, _ => .ok rest
  | _ :: _, [], place => .error (.defect .endOfValue place)
  | letter :: letters, char :: rest, place =>
    if char = letter then scanWord letters rest (place.after char)
    else .error (.defect .misspelledWord (place.ahead char))

/-- What follows a word is no longer than what stood behind its first letter. -/
theorem scanWord_length {letters text rest : List Char} {place : Position}
    (read : scanWord letters text place = .ok rest) : rest.length ≤ text.length := by
  fun_induction scanWord letters text place <;> grind

/-- A token, and the text behind it if it is well spelled. -/
structure Step where
  token : Token
  rest : Option (List Char)

/-- The token of a word that begins with the letter at a place. -/
def word (letters : List Char) (leaf : Leaf) (rest : List Char) (place : Position) : Step :=
  match scanWord letters rest (place.plus 1) with
  | .ok rest => ⟨⟨.leaf leaf, place, place.plus (1 + letters.length)⟩, some rest⟩
  | .error fault => ⟨⟨.brokenWord (.both fault), place, place⟩, none⟩

/-- The token of a string whose opening quote is at a place. -/
def string (rest : List Char) (place : Position) : Step :=
  match StringLiteral.scan rest (place.plus 1) .start with
  | .ok closed => ⟨⟨.leaf (.string closed.text), place, closed.stop⟩, some closed.rest⟩
  | .error breach => ⟨⟨.brokenString breach, place, place⟩, none⟩

/-- The token of a number that begins with the character at a place. -/
def number (char : Char) (rest : List Char) (place : Position) : Step :=
  match Numeral.scan (char :: rest) place with
  | .ok (numeral, after) =>
    -- A number out of range is a token all the same, and the fault lies within it.
    let value := match numeral.value with
      | .ok value => .ok value
      | .error taken => .error (.defect .numberOutOfRange (place.plus taken))
    ⟨⟨.leaf (.number value), place, place.plus numeral.length⟩, some after⟩
  | .error breach => ⟨⟨.brokenWord breach, place, place⟩, none⟩

/-- A token of one character. -/
def mark (lexeme : Lexeme) (rest : List Char) (place : Position) : Step :=
  ⟨⟨lexeme, place, place.plus 1⟩, some rest⟩

/-- The token that begins with the character at a place. -/
def next (char : Char) (rest : List Char) (place : Position) : Step :=
  match char with
  | '[' => mark .arrayOpen rest place
  | ']' => mark .arrayClose rest place
  | '{' => mark .objectOpen rest place
  | '}' => mark .objectClose rest place
  | ',' => mark .comma rest place
  | ':' => mark .colon rest place
  | '"' => string rest place
  -- A word is known by its first letter.
  | 'n' => word ['u', 'l', 'l'] .null rest place
  | 't' => word ['r', 'u', 'e'] (.bool true) rest place
  | 'f' => word ['a', 'l', 's', 'e'] (.bool false) rest place
  | _ =>
    if char = '-' ∨ char.isDigit then number char rest place
    else ⟨⟨.stray, place, place⟩, none⟩

/-- What stands behind a token is no longer than what stood behind its first character. -/
theorem next_length {char : Char} {rest after : List Char} {place : Position}
    (read : (next char rest place).rest = some after) : after.length ≤ rest.length := by
  unfold next at read
  split at read
  all_goals first
    | cases read; exact Nat.le_refl _
    | (unfold word at read
       split at read
       · rename_i wordRead
         cases read
         exact scanWord_length wordRead
       · cases read)
    | (unfold string at read
       split at read
       · rename_i stringRead
         cases read
         exact Nat.le_of_lt (StringLiteral.scan_length stringRead)
       · cases read)
    | (split at read
       · unfold number at read
         split at read
         · rename_i numberRead
           cases read
           exact Nat.le_of_lt_succ (Numeral.scan_length numberRead)
         · cases read
       · cases read)

/-- Whether a character may stand between tokens. -/
def isSpace (char : Char) : Bool :=
  char = ' ' || char = '\n' || char = '\t' || char = '\r'

end Token

/-- The tokens of a text from a place on, up to one that is misspelled, and the place where the text ends. -/
def tokens (text : List Char) (place : Position) : List Token × Position :=
  match text with
  | [] => ([], place)
  | char :: rest =>
    if Token.isSpace char then tokens rest (place.after char)
    else
      let step := Token.next char rest place
      match _read : step.rest with
      | none => ([step.token], step.token.stop)
      | some after =>
        let (others, stop) := tokens after step.token.stop
        (step.token :: others, stop)
termination_by text.length
decreasing_by
  · exact Nat.lt_succ_self _
  · exact Nat.lt_succ_of_le (Token.next_length _read)

end Json

end ChatOptions
