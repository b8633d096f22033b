import ChatOptions.Json.Fault

/-! JSON string literals: their escapes, and the text that each stands for. -/

namespace ChatOptions

namespace Json

/-- The value of a hexadecimal digit. -/
def hexValue? (char : Char) : Option Nat :=
  if char.isDigit then some (char.toNat - 48)
  else if 'a' ≤ char ∧ char ≤ 'f' then some (char.toNat - 87)
  else if 'A' ≤ char ∧ char ≤ 'F' then some (char.toNat - 55)
  else none

/-- The number that hexadecimal digits spell. -/
def hexNumber? (digits : List Char) : Option Nat :=
  digits.foldl (fun number digit => do return (← number) * 16 + (← hexValue? digit)) (some 0)

/-- The character that an escape of one letter stands for. -/
def shortEscape? : Char → Option Char
  | '"' => some '"'
  | '\\' => some '\\'
  | '/' => some '/'
  | 'b' => some '\x08'
  | 'f' => some '\x0c'
  | 'n' => some '\n'
  | 'r' => some '\r'
  | 't' => some '\t'
  | _ => none

namespace StringLiteral

/-- How far the text of a literal has been put together. -/
structure Progress where
  /-- The characters so far, the last one first. -/
  chars : List Char
  /-- A leading surrogate that waits for its other half. -/
  leading : Option Nat
  /-- The first fault of the text, which a reader that passes over the literal does not mind. -/
  fault : Option Fault

namespace Progress

/-- Nothing has been read. -/
def start : Progress := ⟨[], none, none⟩

/-- A fault found, unless there is an earlier one. -/
def failed (progress : Progress) (fault : Fault) : Progress :=
  ⟨progress.chars, none, some (progress.fault.getD fault)⟩

/-- What stands at a place is no trailing surrogate, so a leading one there waits in vain. -/
def unpaired (progress : Progress) (place : Position) : Progress :=
  if progress.leading.isSome then progress.failed (.defect .unpairedSurrogate place) else progress

/-- A character read. -/
def push (progress : Progress) (char : Char) : Progress :=
  ⟨char :: progress.chars, none, progress.fault⟩

/-- A sixteen-bit unit read, whose escape ends at a place. -/
def pushUnit (progress : Progress) (unit : Nat) (place : Position) : Progress :=
  let trailing := 0xdc00 ≤ unit ∧ unit ≤ 0xdfff
  match progress.leading with
  | some leading =>
    if trailing then
      -- Two halves make one character beyond the first plane.
      progress.push (Char.ofNat (0x10000 + (leading - 0xd800) * 0x400 + (unit - 0xdc00)))
    else progress.failed (.defect .loneSurrogate place)
  | none =>
    if trailing then progress.failed (.defect .loneSurrogate place)
    -- The other half is to follow in an escape of its own.
    else if 0xd800 ≤ unit ∧ unit < 0xdc00 then ⟨progress.chars, some unit, progress.fault⟩
    else progress.push (Char.ofNat unit)

/-- The text read, or its first fault. -/
def result (progress : Progress) : Except Fault String :=
  match progress.fault with
  | some fault => .error fault
  | none => .ok (String.ofList progress.chars.reverse)

/-- The literal breaks off with a fault, which an earlier fault of the text precedes. -/
def breach (progress : Progress) (wanted skipped : Fault) : Breach :=
  ⟨progress.fault.getD wanted, skipped⟩

end Progress

/-- The fault of an escape that should go on for some bytes of hexadecimal digits. -/
def hexFault : Nat → List Char → Position → Fault
  | 0, _, place => .defect .badEscape place
  | _ + 1, [], place => .defect .endOfString place
  | bytes + 1, char :: rest, place =>
    -- The bytes may end in the middle of a character.
    if char.utf8Size ≤ bytes + 1 then
      hexFault (bytes + 1 - char.utf8Size) rest (place.after char)
    else .defect .badEscape (place.plus (bytes + 1))
termination_by _ text => text.length

/-- A literal read to its closing quote: its text, and the rest of the document from its place on. -/
structure Closed where
  text : Except Fault String
  rest : List Char
  stop : Position

/-- Reads a literal from behind its opening quote. -/
def scan : List Char → Position → Progress → Except Breach Closed
  | [], place, progress => .error (progress.breach (.defect .endOfString place) (.defect .endOfString place))
  | '"' :: rest, place, progress =>
    .ok ⟨(progress.unpaired (place.plus 1)).result, rest, place.plus 1⟩
  | '\\' :: rest, place, progress =>
    match rest with
    | [] =>
      let fault := .defect .endOfString (place.plus 1)
      .error (progress.breach fault fault)
    | 'u' :: hex =>
      match hex with
      | first :: second :: third :: fourth :: rest =>
        match hexNumber? [first, second, third, fourth] with
        -- The backslash, the letter and four digits have been read.
        | some unit => scan rest (place.plus 6) (progress.pushUnit unit (place.plus 6))
        | none =>
          let fault := hexFault 4 hex (place.plus 2)
          .error (progress.breach fault fault)
      | _ =>
        let fault := hexFault 4 hex (place.plus 2)
        .error (progress.breach fault fault)
    | letter :: rest =>
      let place := place.plus 1
      let progress := progress.unpaired (place.ahead letter)
      match shortEscape? letter with
      | some char => scan rest (place.after letter) (progress.push char)
      | none =>
        let fault := .defect .badEscape (place.ahead letter)
        .error (progress.breach fault fault)
  | char :: rest, place, progress =>
    let progress := progress.unpaired (place.ahead char)
    if char.toNat < 32 then
      -- A reader of the text has taken the character when it complains of it.
      .error (progress.breach (.defect .controlCharacter (place.ahead char))
        (.defect .controlCharacter place))
    else scan rest (place.after char) (progress.push char)

/-- What follows a literal is shorter than the text from behind its opening quote. -/
theorem scan_length {text : List Char} {place : Position} {progress : Progress} {closed : Closed}
    (read : scan text place progress = .ok closed) : closed.rest.length < text.length := by
  fun_induction scan text place progress <;> (try simp only [List.length_cons]) <;> grind

end StringLiteral

end Json

end ChatOptions
