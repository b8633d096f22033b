import ChatOptions.Reading.Refusal

/-! Faults of a JSON text: what is wrong, and where. -/

namespace ChatOptions

/-- A place in a text: its line, from one, and the bytes that precede it in that line. -/
structure Position where
  line : Nat
  column : Nat
deriving DecidableEq, Repr

namespace Position

/-- The beginning of a text. -/
def start : Position := ⟨1, 0⟩

/-- The place after a character. -/
def after (position : Position) (char : Char) : Position :=
  if char = '\n' then ⟨position.line + 1, 0⟩ else ⟨position.line, position.column + char.utf8Size⟩

/-- The place after the first byte of a character. -/
def ahead (position : Position) (char : Char) : Position :=
  if char = '\n' then ⟨position.line + 1, 0⟩ else ⟨position.line, position.column + 1⟩

/-- The place some bytes further in the same line. -/
def plus (position : Position) (bytes : Nat) : Position :=
  ⟨position.line, position.column + bytes⟩

end Position

namespace Json

/-- A way in which a text fails to be JSON. -/
inductive Defect where
  | endOfArray
  | endOfObject
  | endOfString
  | endOfValue
  | noColon
  | noArraySeparator
  | noObjectSeparator
  | misspelledWord
  | noValue
  | badEscape
  | badNumber
  | numberOutOfRange
  | controlCharacter
  | keyNotString
  | loneSurrogate
  | trailingComma
  | trailingCharacters
  | unpairedSurrogate
  | tooDeep
deriving DecidableEq

/-- The defect in words. -/
def Defect.message : Defect → String
  | .endOfArray => "EOF while parsing a list"
  | .endOfObject => "EOF while parsing an object"
  | .endOfString => "EOF while parsing a string"
  | .endOfValue => "EOF while parsing a value"
  | .noColon => "expected `:`"
  | .noArraySeparator => "expected `,` or `]`"
  | .noObjectSeparator => "expected `,` or `\x7d`"
  | .misspelledWord => "expected ident"
  | .noValue => "expected value"
  | .badEscape => "invalid escape"
  | .badNumber => "invalid number"
  | .numberOutOfRange => "number out of range"
  | .controlCharacter => "control character (\\u0000-\\u001F) found while parsing a string"
  | .keyNotString => "key must be a string"
  | .loneSurrogate => "lone leading surrogate in hex escape"
  | .trailingComma => "trailing comma"
  | .trailingCharacters => "trailing characters"
  | .unpairedSurrogate => "unexpected end of hex escape"
  | .tooDeep => "recursion limit exceeded"

/-- What is wrong with a text: it is not JSON, or its data is refused. -/
inductive Cause where
  | defect (defect : Defect)
  | refusal (refusal : Refusal)

/-- The three kinds of fault. -/
inductive Category where
  | endOfText
  | malformed
  | data

/-- The kind of fault a cause makes. -/
def Cause.category : Cause → Category
  | .defect .endOfArray | .defect .endOfObject | .defect .endOfString | .defect .endOfValue =>
    .endOfText
  | .defect _ => .malformed
  | .refusal _ => .data

/-- The cause in words. -/
def Cause.message : Cause → String
  | .defect which => which.message
  | .refusal why => why.message .json

/-- A fault, and its place where one is known. -/
structure Fault where
  cause : Cause
  position : Option Position

namespace Fault

/-- A defect at a place. -/
def defect (defect : Defect) (position : Position) : Fault := ⟨.defect defect, some position⟩

/-- A refusal at a place. -/
def refusal (refusal : Refusal) (position : Position) : Fault := ⟨.refusal refusal, some position⟩

/-- A refusal whose place is not known. -/
def unplaced (refusal : Refusal) : Fault := ⟨.refusal refusal, none⟩

/-- The fault at the place given, unless it has a place already. -/
def settled (fault : Fault) (position : Position) : Fault :=
  ⟨fault.cause, some (fault.position.getD position)⟩

/-- The line of the fault, or zero. -/
def line (fault : Fault) : Nat := (fault.position.map (·.line)).getD 0

/-- The column of the fault, or zero. -/
def column (fault : Fault) : Nat := (fault.position.map (·.column)).getD 0

/-- The fault in words, with its place. -/
def message (fault : Fault) : String :=
  match fault.position with
  | none => fault.cause.message
  | some place =>
    fault.cause.message ++ " at line " ++ toString place.line ++ " column " ++ toString place.column

end Fault

/-- What is wrong at a place where a text breaks off, for a reader that wants what should stand there and for one that passes over it. -/
structure Breach where
  wanted : Fault
  skipped : Fault

/-- A breach that every reader reports alike. -/
def Breach.both (fault : Fault) : Breach := ⟨fault, fault⟩

end Json

end ChatOptions
