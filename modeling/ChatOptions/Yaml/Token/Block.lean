import ChatOptions.Yaml.Cursor

/-! Scalars of whole lines, kept as they are or folded. -/

namespace ChatOptions

namespace Yaml

/-- What becomes of the line breaks at the end of a block scalar. -/
inductive Chomping where
  | strip
  | clip
  | keep
deriving DecidableEq

namespace Scan

/-- What is being done while a block scalar is read. -/
def blockContext : String := "while scanning a block scalar"

/-- Reads what is to become of the line breaks at the end, if it is said. -/
def chomping? : Scan (Option Chomping) := do
  match ← ahead 0 with
  | some '+' => do
    skip 1
    return some .keep
  | some '-' => do
    skip 1
    return some .strip
  | _ => return none

/-- Reads by how much the lines are indented, if it is said. -/
def indentation? (start : Mark) : Scan (Option Nat) := do
  match ← ahead 0 with
  | some char =>
    if !char.isDigit then return none
    if char = '0' then fail "found an indentation indicator equal to 0" blockContext start
    skip 1
    return some (char.toNat - 48)
  | none => return none

/-- Reads the first line of a block scalar behind its indicator. -/
def blockHeader (start : Mark) : Scan (Chomping × Option Nat) := do
  -- The two can be said in either order.
  let header ← match ← chomping? with
    | some chomping => do pure (chomping, ← indentation? start)
    | none =>
      match ← indentation? start with
      | some width => do pure ((← chomping?).getD .clip, some width)
      | none => pure (.clip, none)
  endLine blockContext start
  return header

/-- Whether a column is still part of the indentation, if its width is known. -/
def isIndented (indent : Option Nat) (column : Nat) : Bool :=
  match indent with
  | none => true
  | some indent => column < indent

/-- Passes over the spaces at the beginning of a line that belong to its indentation. -/
def skipIndentation (indent : Option Nat) : Scan Unit :=
  repeatFrom () fun _ => do
    let cursor ← get
    if isIndented indent cursor.mark.column && cursor.ahead 0 == some ' ' then
      skip 1
      return .again ()
    else return .done ()

/-- The breaks of empty lines, and the largest column that their indentation reached. -/
structure EmptyLines where
  breaks : List Char := []
  widest : Nat := 0

/-- Reads empty lines. -/
def emptyLines (indent : Option Nat) (start : Mark) : Scan EmptyLines :=
  repeatFrom {} fun (held : EmptyLines) => do
    skipIndentation indent
    let cursor ← get
    let column := cursor.mark.column
    let held := { held with widest := max held.widest column }
    match cursor.ahead 0 with
    | some char =>
      if isIndented indent column && char == '\t' then
        fail "found a tab character where an indentation space is expected" blockContext start
      if isBreak char then
        skip 1
        return .again { held with breaks := char :: held.breaks }
      else return .done { held with breaks := held.breaks.reverse }
    | none => return .done { held with breaks := held.breaks.reverse }

/-- Reads the break at the end of a line, if there is one. -/
def lineBreak : Scan (List Char) := do
  match (← get).rest with
  | char :: _ =>
    if isBreak char then
      skip 1
      return [char]
    else return []
  | [] => return []

/-- What stands for the breaks between two lines. Folding leaves them out, but not beside a line that begins with a blank. -/
def joinLines (folded : Bool) (leadingBlank trailingBlank : Bool)
    (leadingBreak trailingBreaks : List Char) : List Char :=
  -- A single break is folded into a space, and of several the first is left out.
  if folded && leadingBreak == ['\n'] && !leadingBlank && !trailingBlank then
    if trailingBreaks.isEmpty then [' '] else trailingBreaks
  else leadingBreak ++ trailingBreaks

/-- The lines of a block scalar, and the breaks behind the last. -/
structure BlockLines where
  /-- The text of the lines, the last character first. -/
  text : List Char := []
  /-- Whether the last line begins with a blank. -/
  beganBlank : Bool := false
  leadingBreak : List Char := []
  trailingBreaks : List Char

/-- The text of a block scalar. -/
def BlockLines.chomp (lines : BlockLines) : Chomping → List Char
  | .strip => lines.text.reverse
  | .clip => lines.text.reverse ++ lines.leadingBreak
  | .keep => lines.text.reverse ++ lines.leadingBreak ++ lines.trailingBreaks

/-- Reads the lines of a block scalar that are indented to a column, behind the breaks of empty lines. -/
def blockLines (folded : Bool) (indent : Nat) (start : Mark) (breaks : List Char) :
    Scan BlockLines :=
  repeatFrom { trailingBreaks := breaks } fun (held : BlockLines) => do
    let cursor ← get
    -- A line that is indented less ends the scalar.
    if cursor.mark.column != indent || cursor.rest.isEmpty then return .done held
    let beginsBlank := (cursor.rest.head?.map isBlank) == some true
    let joint := joinLines folded held.beganBlank beginsBlank held.leadingBreak held.trailingBreaks
    let line ← take (!isBreak ·)
    let leadingBreak ← lineBreak
    let empty ← emptyLines (some indent) start
    return .again ⟨line.reverse ++ joint.reverse ++ held.text, beginsBlank, leadingBreak, empty.breaks⟩

/-- Reads a block scalar inside of text indented to a column. -/
def block (folded : Bool) (blockIndent : Int) : Scan (List Char) := do
  let start := (← get).mark
  skip 1
  let (chomping, width) ← blockHeader start
  let given := width.map fun width => width + blockIndent.toNat
  let empty ← emptyLines given start
  -- If no width is said, the empty lines at the front decide, but some indentation is needed.
  let indent := given.getD (max empty.widest (max (blockIndent + 1).toNat 1))
  let lines ← blockLines folded indent start empty.breaks
  return lines.chomp chomping

end Scan

end Yaml

end ChatOptions
