import ChatOptions.Yaml.Token.Gap
import ChatOptions.Yaml.Token

/-! Scalars without quotes. -/

namespace ChatOptions

namespace Yaml

namespace Scan

/-- What a plain scalar has to know of its surroundings. -/
structure PlainSite where
  inFlow : Bool
  /-- The column before which a line of block text does not belong to the scalar. -/
  indent : Int
  start : Mark

/-- What is being done while a plain scalar is read. -/
def plainContext : String := "while scanning a plain scalar"

/-- Whether a character delimits a part of a flow collection. -/
def isFlowIndicator (char : Char) : Bool := [',', '[', ']', '\x7b', '\x7d'].contains char

/-- Reads a word of a plain scalar, the last character first. -/
def plainWord (site : PlainSite) : Scan (List Char) :=
  repeatFrom [] fun held => do
    let behind ← ahead 1
    match ← ahead 0 with
    | none => return .done held
    | some char =>
      if endsWord (some char) then return .done held
      if site.inFlow && char == ':' &&
          (behind.map fun next => next == '?' || isFlowIndicator next) == some true then
        fail "found unexpected ':'" plainContext site.start
      -- A colon ends the scalar only where a value may follow it.
      if (char == ':' && endsWord behind) || (site.inFlow && isFlowIndicator char) then
        return .done held
      skip 1
      return .again (char :: held)

/-- The text of a plain scalar, the last character first, the place where it ends, and the gap behind it. -/
structure Plain where
  text : List Char
  stop : Mark
  gap : Gap

/-- Checks that a tab does not stand where a line is indented. -/
def checkIndentation (site : PlainSite) : Scan Unit := do
  if (← get).mark.column < site.indent then
    fail "found a tab character that violates indentation" plainContext site.start

/-- A scalar with one more word. -/
def Plain.add (held : Plain) (word : List Char) (stop : Mark) : Plain :=
  -- A gap belongs to the scalar only if a word follows it.
  if word.isEmpty then held else ⟨word ++ held.gap.text ++ held.text, stop, .blanks []⟩

/-- Reads a plain scalar inside of block text indented to a column. -/
def plain (inFlow : Bool) (blockIndent : Int) : Scan Plain := do
  let start := (← get).mark
  let site : PlainSite := ⟨inFlow, blockIndent + 1, start⟩
  repeatFrom ⟨[], start, .blanks []⟩ fun (held : Plain) => do
    let cursor ← get
    if cursor.atDocumentMarker || cursor.ahead 0 == some '#' then return .done held
    let word ← plainWord site
    let reached ← get
    let held := held.add word reached.mark
    if reached.rest.isEmpty || !endsWord (reached.ahead 0) then return .done held
    let held := { held with gap := ← gap held.gap (checkIndentation site) }
    -- A line that is indented less belongs to what is around the scalar.
    if !inFlow && (← get).mark.column < site.indent then return .done held
    return .again held

end Scan

end Yaml

end ChatOptions
