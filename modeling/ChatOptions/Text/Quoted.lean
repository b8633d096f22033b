import ChatOptions.Text.CodePoint

/-! Text quoted for a reader of messages: what has no printed form is spelled out. -/

namespace ChatOptions

/-- A hexadecimal number with small letters and no leading zeros. -/
def hexText (number : Nat) : List Char := Nat.toDigits 16 number

/-- A character between quotes in a message. -/
def messageChar (char : Char) : List Char :=
  match char with
  | '\x00' => ['\\', '0']
  | '\t' => ['\\', 't']
  | '\r' => ['\\', 'r']
  | '\n' => ['\\', 'n']
  | '"' => ['\\', '"']
  | '\\' => ['\\', '\\']
  | _ =>
    -- A mark would change the look of what stands before it, so it is spelled out as well.
    if CodePoint.within CodePoint.extending char.toNat ||
        CodePoint.within CodePoint.unprinted char.toNat then
      ['\\', 'u', '\x7b'] ++ hexText char.toNat ++ ['\x7d']
    else [char]

/-- A text in double quotes, as messages show it. -/
def messageQuoted (text : String) : String :=
  String.ofList ('"' :: (text.toList.flatMap messageChar ++ ['"']))

/-- An optional text, as log entries show it. -/
def messageOption : Option String → String
  | none => "None"
  | some text => "Some(" ++ messageQuoted text ++ ")"

end ChatOptions
