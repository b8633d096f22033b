import ChatOptions.Yaml.Token.Gap

/-! Scalars in quotes. -/

namespace ChatOptions

namespace Yaml

/-- The two kinds of quotes. -/
inductive Quote where
  | single
  | double
deriving DecidableEq

/-- The character of a quote. -/
def Quote.char : Quote → Char
  | .single => '\x27'
  | .double => '\x22'

/-- What an escape stands for. -/
inductive Escape where
  | char (char : Char)
  /-- A character given by so many hexadecimal digits. -/
  | code (digits : Nat)

/-- What the character behind a backslash makes of it. -/
def Escape.ofChar? : Char → Option Escape
  | '0' => some (.char '\x00')
  | 'a' => some (.char '\x07')
  | 'b' => some (.char '\x08')
  | 't' | '\t' => some (.char '\t')
  | 'n' => some (.char '\n')
  | 'v' => some (.char '\x0b')
  | 'f' => some (.char '\x0c')
  | 'r' => some (.char '\r')
  | 'e' => some (.char '\x1b')
  | ' ' => some (.char ' ')
  | '\x22' => some (.char '\x22')
  | '/' => some (.char '/')
  | '\\' => some (.char '\\')
  | 'N' => some (.char '\u0085')
  | '_' => some (.char '\u00a0')
  | 'L' => some (.char '\u2028')
  | 'P' => some (.char '\u2029')
  | 'x' => some (.code 2)
  | 'u' => some (.code 4)
  | 'U' => some (.code 8)
  | _ => none

namespace Scan

/-- What is being done while a quoted scalar is read as a whole. -/
def quotedContext : String := "while scanning a quoted scalar"

/-- What is being done while an escape is read. -/
def escapeContext : String := "while parsing a quoted scalar"

/-- The number that so many hexadecimal digits spell, if they are there. -/
def hexCode? : Nat → Nat → List Char → Option Nat
  | 0, value, _ => some value
  | count + 1, value, char :: rest =>
    (hexDigit? char).bind fun digit => hexCode? count (value * 16 + digit) rest
  | _ + 1, _, [] => none

/-- Reads an escape, whose backslash is next. -/
def escape (start : Mark) : Scan Char := do
  match ((← ahead 1).bind Escape.ofChar?) with
  | none => fail "found unknown escape character" escapeContext start
  | some (.char char) =>
    skip 2
    return char
  | some (.code digits) =>
    skip 2
    match hexCode? digits 0 (← get).rest with
    | none => fail "did not find expected hexadecimal number" escapeContext start
    | some code =>
      -- Surrogates and numbers beyond the last character stand for nothing.
      if !code.isValidChar then
        fail "found invalid Unicode character escape code" escapeContext start
      skip digits
      return Char.ofNat code

/-- Reads a word of a quoted scalar, the last character first, and whether an escaped line break ends it. -/
def quotedWord (quote : Quote) (start : Mark) : Scan (List Char × Bool) :=
  repeatFrom [] fun held => do
    let behind ← ahead 1
    match ← ahead 0 with
    | none => return .done (held, false)
    | some char =>
      if endsWord (some char) then return .done (held, false)
      -- A single quote is written twice, and there is no other escape between single quotes.
      else if quote = .single ∧ char = quote.char ∧ behind = some quote.char then
        skip 2
        return .again (char :: held)
      else if char = quote.char then return .done (held, false)
      else if quote = .double ∧ char = '\\' then
        -- A backslash before a line break joins the two lines.
        if (behind.map isBreak) = some true then
          skip 2
          return .done (held, true)
        else return .again ((← escape start) :: held)
      else
        skip 1
        return .again (char :: held)

/-- Reads a quoted scalar. -/
def quoted (quote : Quote) : Scan (List Char) := do
  let start := (← get).mark
  skip 1
  repeatFrom [] fun held => do
    let cursor ← get
    if cursor.atDocumentMarker then
      fail "found unexpected document indicator" quotedContext start
    if cursor.rest.isEmpty then fail "found unexpected end of stream" quotedContext start
    let (word, brokeLine) ← quotedWord quote start
    let held := word ++ held
    if (← ahead 0) = some quote.char then
      skip 1
      return .done held.reverse
    -- What stands between two words is folded, and blanks beside breaks are left out.
    let gap ← gap (if brokeLine then .breaks none [] else .blanks []) (return)
    return .again (gap.text ++ held)

end Scan

end Yaml

end ChatOptions
