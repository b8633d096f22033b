import ChatOptions.Yaml.Token.Block
import ChatOptions.Yaml.Token.Directive
import ChatOptions.Yaml.Token.Plain
import ChatOptions.Yaml.Token.Quoted

/-! A YAML text is split into tokens. One that may prove to begin a key is kept back until that is known. -/

namespace ChatOptions

namespace Yaml

/-- A token that may begin a key. -/
structure PossibleKey where
  /-- Whether nothing but a key can stand where the token stands. -/
  required : Bool
  /-- The number of the token. -/
  number : Nat
  start : Mark

/-- A text that is being split into tokens. -/
structure Lexer where
  cursor : Cursor
  /-- The column of the innermost block collection. -/
  indent : Int := -1
  /-- The columns of the block collections around it. -/
  outerIndents : List Int := []
  /-- Whether a key may begin at the next token. -/
  keyAllowed : Bool := true
  /-- The last token of the innermost flow collection that may begin a key. -/
  key : Option PossibleKey := none
  /-- The same for what is around each flow collection, from the inside to the outside. -/
  outerKeys : List (Option PossibleKey) := []
  /-- The number of tokens that have been released. -/
  released : Nat := 0
  /-- The tokens that are kept back. -/
  held : List Token := []

namespace Lexer

/-- The place that has been reached. -/
def mark (lexer : Lexer) : Mark := lexer.cursor.mark

/-- Whether the place is inside of a flow collection. -/
def inFlow (lexer : Lexer) : Bool := !lexer.outerKeys.isEmpty

/-- The lexer with one more token. -/
def add (lexer : Lexer) (token : Token) : Lexer :=
  { lexer with held := lexer.held ++ [token] }

/-- The lexer with one more token, before the token of a number. -/
def insert (lexer : Lexer) (number : Nat) (token : Token) : Lexer :=
  let before := number - lexer.released
  { lexer with held := lexer.held.take before ++ token :: lexer.held.drop before }

/-- The fault of a text in which a key had to stand at a token, but none did. -/
def missingValue (lexer : Lexer) (key : PossibleKey) : Fault :=
  .malformed "could not find expected ':'" lexer.mark
    (some ⟨"while scanning a simple key", key.start⟩)

/-- A token as one that may begin a key, unless the place is too far behind it. -/
def fresh (lexer : Lexer) (key : Option PossibleKey) : Except Fault (Option PossibleKey) :=
  match key with
  | none => .ok none
  | some key =>
    -- A key stands in one line, and has at most so many bytes.
    if key.start.line < lexer.mark.line || key.start.offset + 1024 < lexer.mark.offset then
      if key.required then .error (lexer.missingValue key) else .ok none
    else .ok (some key)

/-- Forgets the tokens that cannot begin a key any more. -/
def forgetStaleKeys (lexer : Lexer) : Except Fault Lexer := do
  let outerKeys ← lexer.outerKeys.mapM lexer.fresh
  let key ← lexer.fresh lexer.key
  return { lexer with key := key, outerKeys := outerKeys }

/-- Forgets that the last token may begin a key. -/
def forgetKey (lexer : Lexer) : Except Fault Lexer :=
  match lexer.key with
  | some key =>
    if key.required then .error (lexer.missingValue key) else .ok { lexer with key := none }
  | none => .ok lexer

/-- Notes that the next token may begin a key, where one is allowed. -/
def noteKey (lexer : Lexer) : Except Fault Lexer :=
  if lexer.keyAllowed then do
    -- At the column of a block mapping only its next key can stand.
    let required := !lexer.inFlow && lexer.indent == lexer.mark.column
    let number := lexer.released + lexer.held.length
    let lexer ← lexer.forgetKey
    return { lexer with key := some ⟨required, number, lexer.mark⟩ }
  else .ok lexer

/-- The number of block collections that end at a column, and those that remain. -/
def closing (column : Int) : Int → List Int → Nat × Int × List Int
  | indent, [] => (0, indent, [])
  | indent, next :: outer =>
    -- Collections end from the inside out, as far as they are indented beyond the column.
    if column < indent then
      let (ended, remaining) := closing column next outer
      (ended + 1, remaining)
    else (0, indent, next :: outer)

/-- Ends the block collections that are indented beyond a column. -/
def closeBlocks (lexer : Lexer) (column : Int) : Lexer :=
  -- Inside of a flow collection indentation has no meaning.
  if lexer.inFlow then lexer
  else
    let (ended, indent, outerIndents) := closing column lexer.indent lexer.outerIndents
    let token : Token := ⟨.blockEnd, lexer.mark, lexer.mark⟩
    { lexer with
      indent := indent, outerIndents := outerIndents
      held := lexer.held ++ List.replicate ended token }

/-- Begins a block collection where a column is indented beyond those around it, at the token of a number. -/
def openBlock (lexer : Lexer) (lexeme : Lexeme) (start : Mark) (number : Nat) : Lexer :=
  if !lexer.inFlow && lexer.indent < start.column then
    { lexer with
      indent := start.column
      outerIndents := lexer.indent :: lexer.outerIndents }.insert number ⟨lexeme, start, start⟩
  else lexer

/-- Begins a block collection at the next token. -/
def openBlockHere (lexer : Lexer) (lexeme : Lexeme) : Lexer :=
  lexer.openBlock lexeme lexer.mark (lexer.released + lexer.held.length)

/-- Passes over blanks, comments and line breaks, and over a byte order mark at the beginning of a line. -/
def toNextToken (inFlow : Bool) (inComment keyAllowed : Bool) :
    List Char → Mark → Cursor × Bool
  | [], mark => (⟨[], mark⟩, keyAllowed)
  | char :: rest, mark =>
    -- Outside of flow collections a key may begin on every new line.
    if isBreak char then
      toNextToken inFlow false (keyAllowed || !inFlow) rest (mark.after char)
    else if inComment || char == ' ' || (char == '\t' && (inFlow || !keyAllowed)) || char == '#' ||
        (char == '\uFEFF' && mark.column == 0) then
      toNextToken inFlow (inComment || char == '#') keyAllowed rest (mark.after char)
    else (⟨char :: rest, mark⟩, keyAllowed)

/-- Passes over what stands before the next token. -/
def advance (lexer : Lexer) : Lexer :=
  let (cursor, keyAllowed) := toNextToken lexer.inFlow false lexer.keyAllowed
    lexer.cursor.rest lexer.cursor.mark
  { lexer with cursor := cursor, keyAllowed := keyAllowed }

/-- Adds a token that a step of reading gives. -/
def scan (lexer : Lexer) (step : Scan Lexeme) : Except Fault Lexer := do
  let (lexeme, cursor) ← step lexer.cursor
  return { lexer with cursor := cursor }.add ⟨lexeme, lexer.mark, cursor.mark⟩

/-- Adds a token of some characters that are known. -/
def indicator (lexer : Lexer) (lexeme : Lexeme) (length : Nat) : Except Fault Lexer :=
  lexer.scan do
    Scan.skip length
    return lexeme

/-- The lexer at the end of a text. -/
def streamEnd (lexer : Lexer) : Except Fault Lexer := do
  let mark := lexer.mark
  -- The text ends as if with a line break.
  let behind := if mark.column = 0 then mark else ⟨mark.offset, mark.line + 1, 0⟩
  let lexer := { lexer with cursor := ⟨[], behind⟩ }.closeBlocks (-1)
  let lexer ← lexer.forgetKey
  return { lexer with keyAllowed := false }.add ⟨.streamEnd, behind, behind⟩

/-- The lexer before a line that is not part of a document. -/
def leaveDocument (lexer : Lexer) : Except Fault Lexer := do
  let lexer ← (lexer.closeBlocks (-1)).forgetKey
  return { lexer with keyAllowed := false }

/-- Reads a directive. -/
def directive (lexer : Lexer) : Except Fault Lexer := do
  let lexer ← lexer.leaveDocument
  let ((lexeme, stop), cursor) ← Scan.directive lexer.cursor
  return { lexer with cursor := cursor }.add ⟨lexeme, lexer.mark, stop⟩

/-- Reads a line that begins or ends a document. -/
def documentMarker (lexer : Lexer) (lexeme : Lexeme) : Except Fault Lexer := do
  (← lexer.leaveDocument).indicator lexeme 3

/-- Reads the beginning of a flow collection. -/
def flowStart (lexer : Lexer) (lexeme : Lexeme) : Except Fault Lexer := do
  let lexer ← lexer.noteKey
  { lexer with
    -- The collection itself may begin a key, so that is kept for its end.
    key := none, outerKeys := lexer.key :: lexer.outerKeys
    keyAllowed := true }.indicator lexeme 1

/-- Reads the end of a flow collection. -/
def flowEnd (lexer : Lexer) (lexeme : Lexeme) : Except Fault Lexer := do
  let lexer ← lexer.forgetKey
  let lexer := match lexer.outerKeys with
    | key :: outerKeys => { lexer with key := key, outerKeys := outerKeys }
    | [] => lexer
  { lexer with keyAllowed := false }.indicator lexeme 1

/-- Reads a comma between the parts of a flow collection. -/
def flowEntry (lexer : Lexer) : Except Fault Lexer := do
  let lexer ← lexer.forgetKey
  { lexer with keyAllowed := true }.indicator .flowEntry 1

/-- Begins a block collection at the next token, where one is allowed. -/
def enterBlock (lexer : Lexer) (lexeme : Lexeme) (problem : String) : Except Fault Lexer :=
  -- Only block collections begin at a column.
  if lexer.inFlow then .ok lexer
  else if !lexer.keyAllowed then .error (.malformed problem lexer.mark none)
  else .ok (lexer.openBlockHere lexeme)

/-- Reads the dash before an item of a block sequence. -/
def blockEntry (lexer : Lexer) : Except Fault Lexer := do
  let lexer ← lexer.enterBlock .blockSequenceStart
    "block sequence entries are not allowed in this context"
  let lexer ← lexer.forgetKey
  { lexer with keyAllowed := true }.indicator .blockEntry 1

/-- Reads the question mark before a key. -/
def keyIndicator (lexer : Lexer) : Except Fault Lexer := do
  let lexer ← lexer.enterBlock .blockMappingStart
    "mapping keys are not allowed in this context"
  let lexer ← lexer.forgetKey
  { lexer with keyAllowed := !lexer.inFlow }.indicator .key 1

/-- Reads the colon before a value. What stood before it proves to be a key. -/
def valueIndicator (lexer : Lexer) : Except Fault Lexer :=
  match lexer.key with
  | some key =>
    -- The token of the key goes before what proved to be one, and so does that of a new mapping.
    let lexer := lexer.insert key.number ⟨.key, key.start, key.start⟩
    let lexer := lexer.openBlock .blockMappingStart key.start key.number
    { lexer with key := none, keyAllowed := false }.indicator .value 1
  | none => do
    let lexer ← lexer.enterBlock .blockMappingStart
      "mapping values are not allowed in this context"
    { lexer with keyAllowed := !lexer.inFlow }.indicator .value 1

/-- Reads a token that may begin a key. -/
def part (lexer : Lexer) (step : Scan Lexeme) : Except Fault Lexer := do
  let lexer ← lexer.noteKey
  { lexer with keyAllowed := false }.scan step

/-- Reads a scalar in quotes. -/
def quoted (lexer : Lexer) (quote : Quote) : Except Fault Lexer :=
  lexer.part do return .scalar .quoted (← Scan.quoted quote)

/-- Reads a scalar of whole lines. -/
def block (lexer : Lexer) (style : ScalarStyle) : Except Fault Lexer := do
  let lexer ← lexer.forgetKey
  { lexer with keyAllowed := true }.scan do
    return .scalar style (← Scan.block (style == ScalarStyle.folded) lexer.indent)

/-- Reads a scalar without quotes. -/
def plain (lexer : Lexer) : Except Fault Lexer := do
  let lexer ← lexer.noteKey
  let (scalar, cursor) ← Scan.plain lexer.inFlow lexer.indent lexer.cursor
  return { lexer with cursor := cursor, keyAllowed := scalar.gap.hasBreak }.add
    ⟨.scalar .plain scalar.text.reverse, lexer.mark, scalar.stop⟩

/-- Whether a character has a meaning of its own where a token begins. -/
def isIndicator (char : Char) : Bool :=
  ['-', '?', ':', ',', '[', ']', '\x7b', '\x7d', '#', '&', '*', '!', '|', '>', '\x27', '\x22', '%',
    '@', '\x60'].contains char

/-- Whether a scalar without quotes may begin with a character before another. -/
def beginsPlain (inFlow : Bool) (char : Char) (behind : Option Char) : Bool :=
  !(endsWord (some char) || isIndicator char) ||
    (char == '-' && !((behind.map isBlank) == some true)) ||
    (!inFlow && (char == '?' || char == ':') && !endsWord behind)

/-- Reads the token that begins with a character before another. -/
def read (lexer : Lexer) (char : Char) (behind : Option Char) : Except Fault Lexer :=
  let inFlow := lexer.inFlow
  match char with
  | '[' => lexer.flowStart .flowSequenceStart
  | '\x7b' => lexer.flowStart .flowMappingStart
  | ']' => lexer.flowEnd .flowSequenceEnd
  | '\x7d' => lexer.flowEnd .flowMappingEnd
  | ',' => lexer.flowEntry
  | '*' => lexer.part Scan.reference
  | '&' => lexer.part Scan.anchor
  | '!' => lexer.part (Scan.tag inFlow)
  | '\x27' => lexer.quoted .single
  | '\x22' => lexer.quoted .double
  | _ =>
    -- These characters have their meaning only where nothing is written right behind them.
    if char = '-' ∧ endsWord behind then lexer.blockEntry
    else if char = '?' ∧ (inFlow ∨ endsWord behind) then lexer.keyIndicator
    else if char = ':' ∧ (inFlow ∨ endsWord behind) then lexer.valueIndicator
    else if char = '|' ∧ !inFlow then lexer.block .literal
    else if char = '>' ∧ !inFlow then lexer.block .folded
    -- Any other character begins a scalar, if it has no meaning of its own.
    else if beginsPlain inFlow char behind then lexer.plain
    else
      .error (.malformed "found character that cannot start any token" lexer.mark
        (some ⟨"while scanning for the next token", lexer.mark⟩))

/-- Reads the next token, and those that are implied before it. -/
def next (lexer : Lexer) : Except Fault Lexer := do
  let lexer ← lexer.advance.forgetStaleKeys
  let lexer := lexer.closeBlocks lexer.mark.column
  let cursor := lexer.cursor
  match cursor.rest with
  | [] => lexer.streamEnd
  | char :: rest =>
    -- Lines outside of documents are known by how they begin.
    if cursor.mark.column = 0 ∧ char = '%' then lexer.directive
    else if cursor.atMarker '-' then lexer.documentMarker .documentStart
    else if cursor.atMarker '.' then lexer.documentMarker .documentEnd
    else lexer.read char rest.head?

/-- Reads the next token before a breach, if there is one. A token or a fault right before it is not made out any more. -/
def nextBefore (breach : Option Breach) (lexer : Lexer) : Except Fault Lexer :=
  let result := lexer.next
  match breach with
  | none => result
  | some breach =>
    let reached := match result with
      | .ok after => after.mark
      | .error fault => fault.place?.getD breach.mark
    -- So many characters are looked at where a token begins.
    if reached.offset + 4 ≤ breach.mark.offset then result else .error breach.fault

/-- Whether the token of a number may yet prove to begin a key. -/
def keepsBack (lexer : Lexer) (number : Nat) : Bool :=
  (lexer.key :: lexer.outerKeys).any fun key =>
    match key with
    | some key => key.number == number
    | none => false

/-- The tokens that can be released, and those that cannot. -/
def release (keepsBack : Nat → Bool) : Nat → List Token → List Token × List Token
  | _, [] => ([], [])
  | number, token :: rest =>
    -- Behind a token that is kept back everything is.
    if keepsBack number then ([], token :: rest)
    else
      let (ready, held) := release keepsBack (number + 1) rest
      (token :: ready, held)

/-- Releases the tokens that can be released. -/
def releaseReady (lexer : Lexer) : Except Fault (List Token × Lexer) := do
  if lexer.held.isEmpty then return ([], lexer)
  let lexer ← lexer.forgetStaleKeys
  let (ready, held) := release lexer.keepsBack lexer.released lexer.held
  return (ready, { lexer with released := lexer.released + ready.length, held := held })

/-- The tokens that at most so many rounds give, and the fault behind the last of them, if there is one. -/
def tokens (breach : Option Breach) : Nat → Lexer → List Token × Option Fault
  | 0, _ => ([], none)
  | count + 1, lexer =>
    match lexer.releaseReady with
    | .error fault => ([], some fault)
    | .ok (ready, lexer) =>
      if (ready.getLast?.map (·.lexeme)) = some .streamEnd then (ready, none)
      else
        match lexer.nextBefore breach with
        | .error fault => (ready, some fault)
        | .ok lexer =>
          let (more, fault) := tokens breach count lexer
          (ready ++ more, fault)

end Lexer

/-- The tokens of a text, up to its end or to a fault. -/
def tokens (text : String) : List Token × Option Fault :=
  let (cursor, breach) := Cursor.ofText text
  -- Every round reads a character, but for the one that reads the end and the one that sees it.
  Lexer.tokens breach (cursor.rest.length + 2) { cursor := cursor }

end Yaml

end ChatOptions
