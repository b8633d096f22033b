import ChatOptions.Yaml.Cursor
import ChatOptions.Yaml.Token

/-! Anchors, references to them, and tags. -/

namespace ChatOptions

namespace Yaml

namespace Scan

/-- Whether a character may follow a name. -/
def endsName : Option Char → Bool
  | some char => endsWord (some char) || ['?', ':', ',', ']', '\x7d', '%', '@', '\x60'].contains char
  | none => true

/-- Reads a name behind its indicator. -/
def name (context : String) : Scan (List Char) := do
  let start := (← get).mark
  skip 1
  let name ← take isNamePart
  if name.isEmpty || !endsName (← ahead 0) then
    fail "did not find expected alphabetic or numeric character" context start
  return name

/-- Reads an anchor. -/
def anchor : Scan Lexeme := return .anchor (← name "while scanning an anchor")

/-- Reads a reference to an anchor. -/
def reference : Scan Lexeme := return .reference (← name "while scanning an alias")

/-- Where a tag, or a part of one, stands. -/
structure TagSite where
  /-- Whether the tag is part of a directive. -/
  inDirective : Bool
  start : Mark

namespace TagSite

/-- What is being done while the characters of a tag are read. -/
def suffixContext (site : TagSite) : String :=
  if site.inDirective then "while parsing a %TAG directive" else "while parsing a tag"

/-- What is being done while the handle of a tag is read. -/
def handleContext (site : TagSite) : String :=
  if site.inDirective then "while scanning a tag directive" else "while scanning a tag"

end TagSite

/-- Whether a character may stand in a tag. -/
def isTagPart (verbatim : Bool) (char : Char) : Bool :=
  isNamePart char ||
    [';', '/', '?', ':', '@', '&', '=', '+', '$', '.', '%', '!', '~', '*', '\x27', '(', ')'].contains
      char ||
    (verbatim && [',', '[', ']'].contains char)

/-- The octet that is escaped here. -/
def escapedOctet (site : TagSite) : Scan UInt8 := do
  match (← get).rest with
  | '%' :: high :: low :: _ =>
    match hexDigit? high, hexDigit? low with
    | some high, some low => return UInt8.ofNat (high * 16 + low)
    | _, _ => fail "did not find URI escaped octet" site.suffixContext site.start
  | _ => fail "did not find URI escaped octet" site.suffixContext site.start

/-- Reads so many escaped octets that continue a character. -/
def continuation (site : TagSite) : Nat → Scan (List UInt8)
  | 0 => return []
  | count + 1 => do
    let octet ← escapedOctet site
    -- Octets that continue a character begin with the bits one and zero.
    if octet / 64 != 2 then
      fail "found an incorrect trailing UTF-8 octet" site.suffixContext site.start
    skip 3
    return octet :: (← continuation site count)

/-- Reads escaped octets, as many as the first of them calls for. They need not spell a character. -/
def escapedOctets (site : TagSite) : Scan (List UInt8) := do
  let octet ← escapedOctet site
  let following ←
    -- The leading ones of the first octet are the number of octets.
    if octet < 0x80 then pure 0
    else if octet / 32 = 6 then pure 1
    else if octet / 16 = 14 then pure 2
    else if octet / 8 = 30 then pure 3
    else fail "found an incorrect leading UTF-8 octet" site.suffixContext site.start
  skip 3
  return octet :: (← continuation site following)

/-- Characters as octets. -/
def octets (chars : List Char) : List UInt8 := chars.flatMap String.utf8EncodeChar

/-- Reads the octets of a tag. -/
def tagOctets (site : TagSite) (verbatim : Bool) : Scan (List UInt8) :=
  repeatFrom [] fun held => do
    match ← ahead 0 with
    | some '%' => return .again (held ++ (← escapedOctets site))
    | some char =>
      if isTagPart verbatim char then
        skip 1
        return .again (held ++ octets [char])
      else return .done held
    | none => return .done held

/-- Reads the rest of a tag behind characters that are known already. There has to be something, but it counts only up to a zero octet. -/
def tagSuffix (site : TagSite) (verbatim : Bool) (known : List Char) : Scan (List UInt8) := do
  let more ← tagOctets site verbatim
  if known.isEmpty && more.isEmpty then
    fail "did not find expected tag URI" site.suffixContext site.start
  -- The first character that was known is the mark of a tag, and no part of it.
  return (octets (known.drop 1) ++ more).takeWhile (· != 0)

/-- Reads the handle of a tag. -/
def tagHandle (site : TagSite) : Scan (List Char) := do
  if (← ahead 0) != some '!' then
    fail "did not find expected '!'" site.handleContext site.start
  skip 1
  let name ← take isNamePart
  if (← ahead 0) = some '!' then
    skip 1
    return '!' :: name ++ ['!']
  else if site.inDirective && !name.isEmpty then
    fail "did not find expected '!'" "while parsing a tag directive" site.start
  else return '!' :: name

/-- Whether a handle is one with a name, or with an empty name between two marks. -/
def isNamedHandle (handle : List Char) : Bool :=
  handle.length ≥ 2 && handle.getLast? == some '!'

/-- Reads the handle and the rest of a tag. -/
def tagParts (site : TagSite) : Scan Lexeme := do
  -- Between angle brackets a tag is given as a whole.
  if (← ahead 1) = some '<' then
    skip 2
    let suffix ← tagSuffix site true []
    if (← ahead 0) != some '>' then
      fail "did not find the expected '>'" "while scanning a tag" site.start
    skip 1
    return .tag [] suffix
  else
    let handle ← tagHandle site
    if isNamedHandle handle then return .tag handle (← tagSuffix site false [])
    else
      match ← tagSuffix site false handle with
      -- A mark alone is a tag of its own, and not the handle of one.
      | [] => return .tag [] (octets ['!'])
      | suffix => return .tag ['!'] suffix

/-- Reads a tag. -/
def tag (inFlow : Bool) : Scan Lexeme := do
  let site : TagSite := ⟨false, (← get).mark⟩
  let tag ← tagParts site
  let behind ← ahead 0
  if !(inFlow && behind == some ',') && !endsWord behind then
    fail "did not find expected whitespace or line break" "while scanning a tag" site.start
  return tag

end Scan

end Yaml

end ChatOptions
