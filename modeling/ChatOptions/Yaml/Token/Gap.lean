import ChatOptions.Yaml.Cursor

/-! What stands between the words of a scalar that may go over several lines. -/

namespace ChatOptions

namespace Yaml

/-- What stands between two words, with the last character first. -/
inductive Gap where
  /-- Blanks within a line. -/
  | blanks (chars : List Char)
  /-- Line breaks: the first, unless it was escaped, and the others. -/
  | breaks (first : Option Char) (others : List Char)

namespace Gap

/-- The text that a gap stands for, the last character first: a single line break is a space, and of several the first is dropped. -/
def text : Gap → List Char
  | .blanks chars => chars
  | .breaks (some '\n') [] => [' ']
  | .breaks (some '\n') others => others
  | .breaks (some first) others => others ++ [first]
  | .breaks none others => others

/-- Whether the gap holds a line break. -/
def hasBreak : Gap → Bool
  | .blanks _ => false
  | .breaks _ _ => true

/-- The gap with one more character. Blanks beside line breaks do not count. -/
def add : Gap → Char → Gap
  | .blanks chars, char => if isBreak char then .breaks (some char) [] else .blanks (char :: chars)
  | .breaks first others, char =>
    if isBreak char then .breaks first (char :: others) else .breaks first others

end Gap

namespace Scan

/-- Reads the rest of a gap. A check is made before every tab that follows a line break. -/
def gap (begun : Gap) (checkTab : Scan Unit) : Scan Gap :=
  repeatFrom begun fun held => do
    match ← ahead 0 with
    | some char =>
      if isBreak char || isBlank char then
        if char = '\t' && held.hasBreak then checkTab
        skip 1
        return .again (held.add char)
      else return .done held
    | none => return .done held

end Scan

end Yaml

end ChatOptions
