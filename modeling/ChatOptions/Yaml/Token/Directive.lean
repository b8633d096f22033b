import ChatOptions.Decimal.Digits
import ChatOptions.Yaml.Token.Property

/-! Directives: lines before a document that begin with a percent sign. -/

namespace ChatOptions

namespace Yaml

namespace Scan

/-- Reads a version number, which has at most nine digits. -/
def versionNumber (start : Mark) : Scan Nat := do
  let context := "while scanning a %YAML directive"
  let cursor ← get
  let (digits, behind) := cursor.span Char.isDigit
  if digits.isEmpty then fail "did not find expected version number" context start
  if 9 < digits.length then
    skip 9
    fail "found extremely long version number" context start
  set behind
  return digitsValue (digits.map digitValue)

/-- Reads the version that a directive declares. -/
def version (start : Mark) : Scan Lexeme := do
  skipBlanks
  let major ← versionNumber start
  if (← ahead 0) != some '.' then
    fail "did not find expected digit or '.' character" "while scanning a %YAML directive" start
  skip 1
  let minor ← versionNumber start
  return .versionDirective major minor

/-- Reads the handle that a directive declares, and what it stands for. -/
def tagDeclaration (start : Mark) : Scan Lexeme := do
  let context := "while scanning a %TAG directive"
  let site : TagSite := ⟨true, start⟩
  skipBlanks
  let handle ← tagHandle site
  if ((← ahead 0).map isBlank) != some true then
    fail "did not find expected whitespace" context start
  skipBlanks
  let lead ← tagSuffix site true []
  if !endsWord (← ahead 0) then
    fail "did not find expected whitespace or line break" context start
  return .tagDirective handle lead

/-- Reads the name of a directive. -/
def directiveName (start : Mark) : Scan (List Char) := do
  let context := "while scanning a directive"
  let name ← take isNamePart
  if name.isEmpty then fail "could not find expected directive name" context start
  if !endsWord (← ahead 0) then fail "found unexpected non-alphabetical character" context start
  return name

/-- Reads a directive: its token, and the place where it ends. -/
def directive : Scan (Lexeme × Mark) := do
  let context := "while scanning a directive"
  let start := (← get).mark
  skip 1
  let name ← directiveName start
  let directive ←
    if name = "YAML".toList then version start
    else if name = "TAG".toList then tagDeclaration start
    else fail "found unknown directive name" context start
  let stop := (← get).mark
  endLine context start
  return (directive, stop)

end Scan

end Yaml

end ChatOptions
