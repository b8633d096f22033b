import ChatOptions.Json.Token

/-! The tree of a JSON text with the places that a reader reports, down to where the text breaks off. -/

namespace ChatOptions

namespace Json

/-- A key of a member: its name, the place behind it, and the place where a reader that gives up there leaves the object. -/
structure Key where
  name : Except Fault String
  stop : Position
  left : Position

/-- How a list of items ends. -/
inductive ArrayEnd where
  | closed (stop : Position)
  /-- The text breaks off, and a reader that has all the items it wants finds something left over. -/
  | broken (breach : Breach) (leftOver : Fault)

/-- How a list of members ends. -/
inductive ObjectEnd where
  | closed (stop : Position)
  /-- The text breaks off. -/
  | broken (breach : Breach)

/-- The tree of a text. Each part of a list comes with the place where a reader that gives up on the part leaves the list. -/
inductive Document where
  | leaf (start stop : Position) (leaf : Leaf)
  | array (start : Position) (items : List (Document × Position)) (ending : ArrayEnd)
  | object (start : Position) (members : List (Key × Document × Position)) (ending : ObjectEnd)
  /-- Nothing that can be read; the name of a choice may have been wanted. -/
  | broken (ahead : Position) (breach : Breach) (choice : Fault)

instance : Inhabited Document :=
  ⟨.broken .start (.both (.defect .endOfValue .start)) (.defect .endOfValue .start)⟩

namespace Document

/-- The place behind the first byte of the tree. -/
def ahead : Document → Position
  | .leaf start _ _ => start.plus 1
  | .array start _ _ => start.plus 1
  | .object start _ _ => start.plus 1
  | .broken ahead _ _ => ahead

/-- The fault of a part without parts where something else is wanted. -/
def leafMismatch (stop : Position) (expected : String) : Leaf → Fault
  | .null => .refusal (.wrongType .nothing expected) stop
  | .bool value => .refusal (.wrongType (.bool value) expected) stop
  | .number (.ok (.integer value _)) => .refusal (.wrongType (.integer (.ofInt value)) expected) stop
  | .number (.ok (.float value _)) => .refusal (.wrongType (.float value) expected) stop
  | .number (.error fault) => fault
  | .string (.ok value) => .refusal (.wrongType (.string value) expected) stop
  | .string (.error fault) => fault

/-- The fault of a tree where something else is wanted. -/
def mismatch (expected : String) : Document → Fault
  | .leaf _ stop plain => leafMismatch stop expected plain
  | .array start _ _ => .refusal (.wrongType .sequence expected) start
  | .object start _ _ => .refusal (.wrongType .map expected) start
  | .broken _ breach _ => breach.wanted

/-- An open array or object, with what it holds so far, the last part first. -/
inductive Frame where
  | items (start : Position) (done : List (Document × Position))
  | members (start : Position) (done : List (Key × Document × Position)) (key : Key)

/-- The tree of open arrays and objects around a part where the text breaks off. -/
def abandon (part : Document) (breach : Breach) : List Frame → Document
  | [] => part
  | .items start done :: frames =>
    -- The part that broke off is the last of the array, which breaks off with it.
    abandon (.array start ((part, part.ahead) :: done).reverse (.broken breach breach.wanted))
      breach frames
  | .members start done key :: frames =>
    abandon (.object start ((key, part, part.ahead) :: done).reverse (.broken breach))
      breach frames

/-- The tree of a text that breaks off with a defect where a value is due. -/
def noValue (defect : Defect) (ahead : Position) (frames : List Frame) : Document :=
  let breach := .both (.defect defect ahead)
  abandon (.broken ahead breach (.defect defect ahead)) breach frames

/-- What is due at a token. -/
inductive Due where
  /-- A value, or the end of an array just opened. -/
  | value
  | firstItem (start : Position)
  /-- The key of a member, in an object whose members so far are given. -/
  | firstKey (start : Position)
  | key (start : Position) (done : List (Key × Document × Position))
  /-- The colon behind a key. -/
  | colon (start : Position) (done : List (Key × Document × Position)) (key : Key)
  /-- What may follow a value: a comma, or the end of an array or object. -/
  | separator (part : Document)

/-- The place where a list of tokens begins, or the end of the text. -/
def begins (stop : Position) : List Token → Position
  | [] => stop
  | token :: _ => token.start

/-- The place where a reader that gives up before a token leaves an object. -/
def leaves (stop : Position) : List Token → Position
  | [] => stop
  | token :: _ =>
    match token.lexeme with
    | .objectClose => token.stop
    | _ => token.start

/-- The tree of an object that breaks off where a key is due. -/
def noKey (start : Position) (done : List (Key × Document × Position)) (breach : Breach)
    (frames : List Frame) : Document :=
  abandon (.object start done.reverse (.broken breach)) breach frames

/-- The tree that tokens spell, and the tokens behind it. -/
def assemble (stop : Position) : Due → List Frame → List Token → Document × List Token
  | .value, frames, [] => (noValue .endOfValue stop frames, [])
  | .firstItem start, frames, [] =>
    let fault := .defect .endOfArray stop
    (abandon (.array start [] (.broken (.both fault) fault)) (.both fault) frames, [])
  | .firstKey start, frames, [] =>
    (noKey start [] (.both (.defect .endOfObject stop)) frames, [])
  | .key start done, frames, [] =>
    (noKey start done ⟨.defect .endOfValue stop, .defect .endOfObject stop⟩ frames, [])
  | .colon start done key, frames, [] => (noValue .endOfObject stop (.members start done key :: frames), [])
  | .separator part, [], [] => (part, [])
  | .separator part, .items start done :: frames, [] =>
    let fault := .defect .endOfArray stop
    (abandon (.array start ((part, stop) :: done).reverse (.broken (.both fault) fault))
      (.both fault) frames, [])
  | .separator part, .members start done key :: frames, [] =>
    (noKey start ((key, part, stop) :: done) (.both (.defect .endOfObject stop)) frames, [])
  | .value, frames, token :: rest =>
    match token.lexeme with
    | .leaf plain => assemble stop (.separator (.leaf token.start token.stop plain)) frames rest
    | .arrayOpen => assemble stop (.firstItem token.start) frames rest
    | .objectOpen => assemble stop (.firstKey token.start) frames rest
    | .brokenString breach =>
      (abandon (.broken token.ahead breach breach.wanted) breach frames, rest)
    | .brokenWord breach =>
      (abandon (.broken token.ahead breach (.defect .noValue token.ahead)) breach frames, rest)
    | _ => (noValue .noValue token.ahead frames, rest)
  | .firstItem start, frames, token :: rest =>
    match token.lexeme with
    | .arrayClose => assemble stop (.separator (.array start [] (.closed token.stop))) frames rest
    | .leaf plain =>
      assemble stop (.separator (.leaf token.start token.stop plain)) (.items start [] :: frames) rest
    | .arrayOpen => assemble stop (.firstItem token.start) (.items start [] :: frames) rest
    | .objectOpen => assemble stop (.firstKey token.start) (.items start [] :: frames) rest
    | .brokenString breach =>
      (abandon (.broken token.ahead breach breach.wanted) breach (.items start [] :: frames), rest)
    | .brokenWord breach =>
      (abandon (.broken token.ahead breach (.defect .noValue token.ahead)) breach
        (.items start [] :: frames), rest)
    | _ => (noValue .noValue token.ahead (.items start [] :: frames), rest)
  | .firstKey start, frames, token :: rest =>
    match token.lexeme with
    | .objectClose => assemble stop (.separator (.object start [] (.closed token.stop))) frames rest
    -- Only a string can be a key.
    | .leaf (.string name) =>
      assemble stop (.colon start [] ⟨name, token.stop, leaves stop rest⟩) frames rest
    | .brokenString breach => (noKey start [] breach frames, rest)
    | _ => (noKey start [] (.both (.defect .keyNotString token.ahead)) frames, rest)
  | .key start done, frames, token :: rest =>
    match token.lexeme with
    | .leaf (.string name) =>
      assemble stop (.colon start done ⟨name, token.stop, leaves stop rest⟩) frames rest
    | .brokenString breach => (noKey start done breach frames, rest)
    | .objectClose =>
      -- A closing brace behind a comma is a comma too many.
      let breach := ⟨.defect .trailingComma token.ahead, .defect .keyNotString token.ahead⟩
      (noKey start done breach frames, rest)
    | _ => (noKey start done (.both (.defect .keyNotString token.ahead)) frames, rest)
  | .colon start done key, frames, token :: rest =>
    match token.lexeme with
    | .colon => assemble stop .value (.members start done key :: frames) rest
    | _ => (noValue .noColon token.ahead (.members start done key :: frames), rest)
  -- Outside of everything the tree is complete, and the rest is left over.
  | .separator part, [], token :: rest => (part, token :: rest)
  | .separator part, .items start done :: frames, token :: rest =>
    match token.lexeme with
    | .arrayClose =>
      assemble stop
        (.separator (.array start ((part, token.stop) :: done).reverse (.closed token.stop))) frames rest
    | .comma =>
      let done := (part, begins stop rest) :: done
      match rest with
      -- A closing bracket behind a comma is a comma too many.
      | ⟨.arrayClose, closeStart, _⟩ :: _ =>
        let ahead := closeStart.plus 1
        let breach := ⟨.defect .trailingComma ahead, .defect .noValue ahead⟩
        (abandon (.array start done.reverse (.broken breach breach.wanted)) breach frames, rest)
      | _ => assemble stop .value (.items start done :: frames) rest
    | _ =>
      -- A reader that has all the items it wants sees trailing characters instead.
      let breach := .both (.defect .noArraySeparator token.ahead)
      (abandon (.array start ((part, token.start) :: done).reverse
        (.broken breach (.defect .trailingCharacters token.ahead))) breach frames, rest)
  | .separator part, .members start done key :: frames, token :: rest =>
    match token.lexeme with
    | .objectClose =>
      assemble stop
        (.separator (.object start ((key, part, token.stop) :: done).reverse (.closed token.stop)))
        frames rest
    | .comma => assemble stop (.key start ((key, part, token.start) :: done)) frames rest
    | _ =>
      let breach := .both (.defect .noObjectSeparator token.ahead)
      (noKey start ((key, part, token.start) :: done) breach frames, rest)

end Document

/-- The tree of a text, and the fault of what stands behind it, if anything does. -/
def document (text : List Char) : Document × Option Fault :=
  let (tokens, stop) := tokens text .start
  let (tree, rest) := Document.assemble stop .value [] tokens
  (tree, rest.head?.map fun token => .defect .trailingCharacters token.ahead)

end Json

end ChatOptions
