import ChatOptions.Json.Basic

/-! The compact JSON text of a tree: no blanks, and only what must be escaped is. -/

namespace ChatOptions

namespace Json

/-- A hexadecimal digit, with small letters above nine. -/
def hexDigit (value : Nat) : Char :=
  if value < 10 then Char.ofNat (48 + value) else Char.ofNat (87 + value)

/-- A character as it stands between the quotes of a JSON string. -/
def escapedChar (char : Char) : List Char :=
  match char with
  | '"' => ['\\', '"']
  | '\\' => ['\\', '\\']
  | '\x08' => ['\\', 'b']
  | '\t' => ['\\', 't']
  | '\n' => ['\\', 'n']
  | '\x0c' => ['\\', 'f']
  | '\r' => ['\\', 'r']
  | _ =>
    -- The control characters without a short escape have a hexadecimal one.
    if char.toNat < 32 then
      ['\\', 'u', '0', '0', hexDigit (char.toNat / 16), hexDigit (char.toNat % 16)]
    else [char]

/-- The JSON text of a string. -/
def quoted (value : String) : List Char :=
  '"' :: (value.toList.flatMap escapedChar ++ ['"'])

mutual

/-- The compact JSON text of a tree, members in the order they are listed. -/
def text : Json → List Char
  | .null => "null".toList
  | .bool true => "true".toList
  | .bool false => "false".toList
  | .number value => value.text
  | .string value => quoted value
  | .array items => '[' :: (textItems items ++ [']'])
  | .object members => '{' :: (textMembers members ++ ['}'])

/-- The texts of a list of trees, separated by commas. -/
def textItems : List Json → List Char
  | [] => []
  | item :: rest => item.text ++ textMoreItems rest

/-- The texts of a list of trees, each after a comma. -/
def textMoreItems : List Json → List Char
  | [] => []
  | item :: rest => ',' :: (item.text ++ textMoreItems rest)

/-- The texts of a list of members, separated by commas. -/
def textMembers : List (String × Json) → List Char
  | [] => []
  | (key, value) :: rest => quoted key ++ ':' :: (value.text ++ textMoreMembers rest)

/-- The texts of a list of members, each after a comma. -/
def textMoreMembers : List (String × Json) → List Char
  | [] => []
  | (key, value) :: rest => ',' :: (quoted key ++ ':' :: (value.text ++ textMoreMembers rest))

end

/-- The compact JSON text of a tree as a string. -/
def render (tree : Json) : String := String.ofList tree.text

end Json

/-- The compact JSON text of a value. -/
def Value.render (value : Value) : String := value.tree.render

end ChatOptions
