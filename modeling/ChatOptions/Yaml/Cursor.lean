import ChatOptions.Yaml.Fault

/-! A place in a YAML text that is being read, and the characters that stand there. -/

namespace ChatOptions

namespace Yaml

/-- Whether a character may stand in a text. -/
def isAllowed (char : Char) : Bool :=
  let code := char.toNat
  code == 0x09 || code == 0x0A || code == 0x0D || (0x20 ≤ code && code ≤ 0x7E) || code == 0x85 ||
    (0xA0 ≤ code && code ≤ 0xD7FF) || (0xE000 ≤ code && code ≤ 0xFFFD) || 0x10000 ≤ code

/-- The number of bytes that a part of a text has at most. A text is looked through part by part. -/
def partSize : Nat := 16384

/-- The number of bytes before the first character that may not stand in a text, and before the part that holds it. -/
def firstForbidden? : List Char → Nat → Nat → Option (Nat × Nat)
  | [], _, _ => none
  | char :: rest, offset, part =>
    let behind := offset + char.utf8Size
    -- A part ends before the character that would not fit into it.
    let part := if part + partSize < behind then offset else part
    if isAllowed char then firstForbidden? rest behind part else some (offset, part)

/-- The characters within so many bytes. -/
def charsWithin : Nat → List Char → List Char
  | _, [] => []
  | bytes, char :: rest =>
    if bytes < char.utf8Size then [] else char :: charsWithin (bytes - char.utf8Size) rest

/-- A text in which all line breaks of one kind are the same character. -/
def unifyBreaks : List Char → List Char
  | [] => []
  | '\r' :: '\n' :: rest => '\n' :: unifyBreaks rest
  | char :: rest =>
    (if char = '\r' ∨ char = '\u0085' then '\n' else char) :: unifyBreaks rest

/-- Whether a character ends a line, once breaks are unified. -/
def isBreak (char : Char) : Bool := char == '\n' || char == '\u2028' || char == '\u2029'

/-- Whether a character is a space or a tab. -/
def isBlank (char : Char) : Bool := char == ' ' || char == '\t'

/-- Whether a character may stand in a name. -/
def isNamePart (char : Char) : Bool := char.isAlphanum || char == '-' || char == '_'

/-- The value of a hexadecimal digit. -/
def hexDigit? (char : Char) : Option Nat :=
  if char.isDigit then some (char.toNat - 48)
  else if 'a' ≤ char ∧ char ≤ 'f' then some (char.toNat - 87)
  else if 'A' ≤ char ∧ char ≤ 'F' then some (char.toNat - 55)
  else none

/-- Whether a character, or the end of the text, ends a word. -/
def endsWord : Option Char → Bool
  | none => true
  | some char => isBlank char || isBreak char

/-- Whether a character, or the end of the text, ends a line. -/
def endsLine : Option Char → Bool
  | none => true
  | some char => isBreak char

/-- The place after a character. -/
def Mark.after (mark : Mark) (char : Char) : Mark :=
  let offset := mark.offset + char.utf8Size
  if isBreak char then ⟨offset, mark.line + 1, 0⟩ else ⟨offset, mark.line, mark.column + 1⟩

/-- A place in a text, and what stands from there on. -/
structure Cursor where
  rest : List Char
  mark : Mark

/-- The end of what can be read of a text, and the fault that stands behind it. -/
structure Breach where
  mark : Mark
  fault : Fault

namespace Cursor

/-- The character some way ahead. -/
def ahead (cursor : Cursor) (distance : Nat) : Option Char := cursor.rest[distance]?

/-- The place behind the next character. -/
def next (cursor : Cursor) : Cursor :=
  match cursor.rest with
  | [] => cursor
  | char :: rest => ⟨rest, cursor.mark.after char⟩

/-- The place behind some characters. -/
def skip (cursor : Cursor) : Nat → Cursor
  | 0 => cursor
  | count + 1 => cursor.next.skip count

/-- The characters at the front of a text that fit, and the place behind them. -/
def spanFrom (fits : Char → Bool) : List Char → Mark → List Char × Cursor
  | [], mark => ([], ⟨[], mark⟩)
  | char :: rest, mark =>
    if fits char then
      let (taken, after) := spanFrom fits rest (mark.after char)
      (char :: taken, after)
    else ([], ⟨char :: rest, mark⟩)

/-- The characters ahead that fit, and the place behind them. -/
def span (cursor : Cursor) (fits : Char → Bool) : List Char × Cursor :=
  spanFrom fits cursor.rest cursor.mark

/-- The place behind the characters that fit. -/
def pass (cursor : Cursor) (fits : Char → Bool) : Cursor := (cursor.span fits).2

/-- The beginning of a text, and what keeps it from being read to its end. No part is read that holds a character that may not stand there. -/
def ofText (text : String) : Cursor × Option Breach :=
  match firstForbidden? text.toList 0 0 with
  | none => (⟨unifyBreaks text.toList, .start⟩, none)
  | some (offset, part) =>
    -- The fault is met where the last whole part ends, before the character itself.
    let cursor : Cursor := ⟨unifyBreaks (charsWithin part text.toList), .start⟩
    (cursor, some ⟨(cursor.pass fun _ => true).mark, .controlCharacter offset⟩)

/-- The place behind the blanks and the comment of a line. -/
def passComment (cursor : Cursor) : Cursor :=
  let behind := cursor.pass isBlank
  -- A comment goes on to the end of its line.
  if behind.ahead 0 == some '#' then behind.pass (!isBreak ·) else behind

/-- Whether a line with three of a character stands here, at the beginning of a line. -/
def atMarker (cursor : Cursor) (char : Char) : Bool :=
  cursor.mark.column == 0 && cursor.ahead 0 == some char && cursor.ahead 1 == some char &&
    cursor.ahead 2 == some char && endsWord (cursor.ahead 3)

/-- Whether a line that begins or ends a document stands here. -/
def atDocumentMarker (cursor : Cursor) : Bool := cursor.atMarker '-' || cursor.atMarker '.'

end Cursor

/-- A step of reading, from one place to another. -/
abbrev Scan := StateT Cursor (Except Fault)

namespace Scan

/-- Fails at the place that has been reached. -/
def fail {α : Type} (problem context : String) (start : Mark) : Scan α := fun cursor =>
  .error (.malformed problem cursor.mark (some ⟨context, start⟩))

/-- The character some way ahead. -/
def ahead (distance : Nat) : Scan (Option Char) := do return (← get).ahead distance

/-- Passes over some characters. -/
def skip (count : Nat) : Scan Unit := modify (·.skip count)

/-- Takes the characters ahead that fit. -/
def take (fits : Char → Bool) : Scan (List Char) := modifyGet (·.span fits)

/-- Passes over blanks. -/
def skipBlanks : Scan Unit := modify (·.pass isBlank)

/-- What comes of one round of a repetition. -/
inductive Round (σ α : Type) where
  | again (state : σ)
  | done (result : α)

/-- Goes through rounds, at most one for each of the characters given and one more. -/
def rounds {σ α : Type} (round : σ → Scan (Round σ α)) : List Char → σ → Scan α
  | chars, state => do
    match ← round state, chars with
    | .done result, _ => return result
    -- A round that goes on has passed over a character, so one fewer may follow.
    | .again state, _ :: chars => rounds round chars state
    | .again _, [] => throw .endOfDocument

/-- Goes through rounds until one is the last. Every other round has to pass over a character. -/
def repeatFrom {σ α : Type} (state : σ) (round : σ → Scan (Round σ α)) : Scan α := do
  rounds round (← get).rest state

/-- Passes over the rest of a line, which may hold nothing but a comment. -/
def endLine (context : String) (start : Mark) : Scan Unit := do
  modify (·.passComment)
  if !endsLine (← ahead 0) then
    fail "did not find expected comment or line break" context start
  skip 1

end Scan

end Yaml

end ChatOptions
