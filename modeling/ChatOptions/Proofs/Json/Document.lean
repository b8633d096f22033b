import ChatOptions.Json.Document
import ChatOptions.Proofs.Json.Token

/-! The text that is written for a tree is taken apart into a document of that tree. -/

namespace ChatOptions

namespace Json

mutual

/-- Whether the text of every double in a tree is read as that double. -/
def FloatsReadBack : Json → Prop
  | .number (.float value finite) => (Number.float value finite).ReadsBack
  | .array items => ItemFloatsReadBack items
  | .object members => MemberFloatsReadBack members
  | _ => True

/-- Whether the text of every double in a list of trees is read as that double. -/
def ItemFloatsReadBack : List Json → Prop
  | [] => True
  | item :: rest => item.FloatsReadBack ∧ ItemFloatsReadBack rest

/-- Whether the text of every double that members hold is read as that double. -/
def MemberFloatsReadBack : List (String × Json) → Prop
  | [] => True
  | (_, value) :: rest => value.FloatsReadBack ∧ MemberFloatsReadBack rest

end

/-- Every number is read back where every double is. -/
theorem FloatsReadBack.number {number : Number} (floats : (Json.number number).FloatsReadBack) :
    number.ReadsBack := by
  cases number with
  -- Whole numbers need no assumption.
  | integer value inRange => exact Number.integer_readsBack value inRange
  | float value finite =>
    rw [FloatsReadBack] at floats
    exact floats

mutual

/-- How a document spells a tree: part by part, each well spelled and every array and object closed. -/
inductive Spells : Document → Json → Prop
  | null {start stop} : Spells (.leaf start stop .null) .null
  | bool {start stop value} : Spells (.leaf start stop (.bool value)) (.bool value)
  | number {start stop value} : Spells (.leaf start stop (.number (.ok value))) (.number value)
  | string {start stop value} : Spells (.leaf start stop (.string (.ok value))) (.string value)
  | array {start stop parts items} (each : SpellsItems parts items) :
    Spells (.array start parts (.closed stop)) (.array items)
  | object {start stop parts members} (each : SpellsMembers parts members) :
    Spells (.object start parts (.closed stop)) (.object members)

/-- How the parts of an array spell trees, one by one. -/
inductive SpellsItems : List (Document × Position) → List Json → Prop
  | nil : SpellsItems [] []
  | cons {part left parts item items} (first : Spells part item) (rest : SpellsItems parts items) :
    SpellsItems ((part, left) :: parts) (item :: items)

/-- How the parts of an object spell members, one by one. -/
inductive SpellsMembers : List (Key × Document × Position) → List (String × Json) → Prop
  | nil : SpellsMembers [] []
  | cons {key part left parts name value members} (named : key.name = .ok name)
    (first : Spells part value) (rest : SpellsMembers parts members) :
    SpellsMembers ((key, part, left) :: parts) ((name, value) :: members)

end

namespace Document

/-- What a text assembles to from a place on, given what is due there. -/
def assembleText (stop : Position) (due : Due) (frames : List Frame) (text : List Char)
    (place : Position) : Document × List Token :=
  assemble stop due frames (tokens text place).1

/-- Whether the first token of a text exists and closes no array. -/
def BeginsItem (text : List Char) (place : Position) : Prop :=
  ∃ token others, (tokens text place).1 = token :: others ∧ token.lexeme ≠ .arrayClose

/-- A text that begins with neither a blank nor a closing bracket begins an item. -/
theorem beginsItem_cons (char : Char) (noSpace : Token.isSpace char = false)
    (different : char ≠ ']') (rest : List Char) (place : Position) :
    BeginsItem (char :: rest) place := by
  obtain ⟨others, found⟩ := tokens_head noSpace rest place
  exact ⟨_, others, found, Token.next_ne_arrayClose different rest place⟩

/-- The text of a tree begins an item. -/
theorem beginsItem_text {tree : Json} (floats : tree.FloatsReadBack) (rest : List Char)
    (place : Position) : BeginsItem (tree.text ++ rest) place := by
  -- The first character of each kind of text is known, and none of them is a closing bracket.
  cases tree with
  | null => exact beginsItem_cons 'n' (by decide) (by decide) _ place
  | bool value =>
    cases value with
    | true => exact beginsItem_cons 't' (by decide) (by decide) _ place
    | false => exact beginsItem_cons 'f' (by decide) (by decide) _ place
  | number number =>
    -- What is read as a numeral begins with a minus sign or a digit.
    obtain ⟨numeral, read, _⟩ := floats.number
    obtain ⟨char, others, spelled, starts⟩ := Numeral.scan_head read
    rw [text, spelled, List.cons_append]
    refine beginsItem_cons char (Token.isSpace_number starts) ?_ _ place
    rintro rfl
    revert starts
    decide
  | string value => exact beginsItem_cons '"' (by decide) (by decide) _ place
  | array items => exact beginsItem_cons '[' (by decide) (by decide) _ place
  | object members => exact beginsItem_cons '\x7b' (by decide) (by decide) _ place

/-- Where the first item of an array is due and does not close it, a value is due in the array. -/
theorem assemble_firstItem (stop start : Position) (frames : List Frame) {text : List Char}
    {place : Position} (begins : BeginsItem text place) :
    assembleText stop (.firstItem start) frames text place
      = assembleText stop .value (.items start [] :: frames) text place := by
  -- The two dues treat every token alike but the one that closes an array.
  obtain ⟨⟨lexeme, first, last⟩, others, found, notClosing⟩ := begins
  rw [assembleText, assembleText, found]
  cases lexeme with
  | arrayClose => exact absurd rfl notClosing
  | _ => rfl

/-- Behind a comma in an array a value is due, unless the array is closed there. -/
theorem assemble_comma (stop start : Position) (frames : List Frame) (part : Document)
    (done : List (Document × Position)) {text : List Char} {place : Position}
    (begins : BeginsItem text (place.plus 1)) :
    ∃ left, assembleText stop (.separator part) (.items start done :: frames) (',' :: text) place
      = assembleText stop .value (.items start ((part, left) :: done) :: frames) text
          (place.plus 1) := by
  -- A reader that gives up on the part leaves the array where the next token begins.
  obtain ⟨⟨lexeme, first, last⟩, others, found, notClosing⟩ := begins
  refine ⟨first, ?_⟩
  rw [assembleText, assembleText, tokens_mark _ text place (by decide) rfl, found]
  cases lexeme with
  | arrayClose => exact absurd rfl notClosing
  | _ => rfl

/-- A closing bracket ends an array. -/
theorem assemble_arrayClose (stop start : Position) (frames : List Frame) (part : Document)
    (done : List (Document × Position)) (text : List Char) (place : Position) :
    assembleText stop (.separator part) (.items start done :: frames) (']' :: text) place
      = assembleText stop
          (.separator (.array start ((part, place.plus 1) :: done).reverse (.closed (place.plus 1))))
          frames text (place.plus 1) := by
  rw [assembleText, assembleText, tokens_mark _ text place (by decide) rfl]
  rfl

/-- A closing brace ends an object. -/
theorem assemble_objectClose (stop start : Position) (frames : List Frame) (part : Document)
    (done : List (Key × Document × Position)) (key : Key) (text : List Char) (place : Position) :
    assembleText stop (.separator part) (.members start done key :: frames) ('\x7d' :: text) place
      = assembleText stop
          (.separator (.object start ((key, part, place.plus 1) :: done).reverse
            (.closed (place.plus 1))))
          frames text (place.plus 1) := by
  rw [assembleText, assembleText, tokens_mark _ text place (by decide) rfl]
  rfl

/-- The dues at which a key may stand, with the members before it. -/
inductive DueKey : Due → Position → List (Key × Document × Position) → Prop
  | first {start} : DueKey (.firstKey start) start []
  | later {start done} : DueKey (.key start done) start done

/-- A key with its colon makes a value due. -/
theorem assemble_key {due : Due} {start : Position} {done : List (Key × Document × Position)}
    (keyDue : DueKey due start done) (stop : Position) (frames : List Frame) (name : String)
    (text : List Char) (place : Position) :
    ∃ key after, key.name = .ok name
      ∧ assembleText stop due frames (quoted name ++ ':' :: text) place
        = assembleText stop .value (.members start done key :: frames) text after := by
  -- Two tokens are used up: the name and the colon.
  obtain ⟨behind, read⟩ := tokens_quoted name (':' :: text) place
  have colon := tokens_mark ':' text behind (by decide) rfl
  refine ⟨⟨.ok name, behind, behind⟩, behind.plus 1, rfl, ?_⟩
  rw [assembleText, assembleText, read, colon]
  cases keyDue <;> rfl

/-- Behind a comma in an object a key is due. -/
theorem assemble_memberComma (stop start : Position) (frames : List Frame) (part : Document)
    (done : List (Key × Document × Position)) (key : Key) (text : List Char) (place : Position) :
    assembleText stop (.separator part) (.members start done key :: frames) (',' :: text) place
      = assembleText stop (.key start ((key, part, place) :: done)) frames text
          (place.plus 1) := by
  rw [assembleText, assembleText, tokens_mark _ text place (by decide) rfl]
  rfl

/-- A value without parts is followed by a separator. -/
theorem assemble_leaf (stop : Position) (frames : List Frame) {plain : Leaf}
    {text rest : List Char} {place after : Position}
    (read : (tokens text place).1 = ⟨.leaf plain, place, after⟩ :: (tokens rest after).1) :
    assembleText stop .value frames text place
      = assembleText stop (.separator (.leaf place after plain)) frames rest after := by
  rw [assembleText, read]
  rfl

/-- A numeral ends in front of a character that could not go on with it. -/
theorem endsNumeral_cons {char : Char} (rest : List Char)
    (other : char.isDigit = false ∧ char ≠ '.' ∧ char ≠ 'e' ∧ char ≠ 'E') :
    EndsNumeral (char :: rest) := by
  intro first found
  cases found
  exact other

/-- A numeral ends in front of the items behind it. -/
theorem endsNumeral_moreItems (items : List Json) (rest : List Char) :
    EndsNumeral (textMoreItems items ++ ']' :: rest) := by
  -- It is a closing bracket or a comma.
  cases items <;> exact endsNumeral_cons _ (by decide)

/-- A numeral ends in front of the members behind it. -/
theorem endsNumeral_moreMembers (members : List (String × Json)) (rest : List Char) :
    EndsNumeral (textMoreMembers members ++ '\x7d' :: rest) := by
  -- It is a closing brace or a comma.
  cases members with
  | nil => exact endsNumeral_cons _ (by decide)
  | cons member more =>
    obtain ⟨name, value⟩ := member
    exact endsNumeral_cons _ (by decide)

mutual

/-- Where a value is due, the text of a tree makes a document of the tree and leaves what is behind it. -/
theorem assemble_text (stop : Position) : (tree : Json) → tree.FloatsReadBack →
    ∀ (frames : List Frame) (rest : List Char) (place : Position), EndsNumeral rest →
      ∃ part after, Spells part tree
        ∧ assembleText stop .value frames (tree.text ++ rest) place
          = assembleText stop (.separator part) frames rest after
  -- What has no parts is one token.
  | .null, _, frames, rest, place, _ => by
    obtain ⟨after, read⟩ := tokens_word 'n' ['u', 'l', 'l'] rest place (by decide) rfl
    exact ⟨_, after, .null, assemble_leaf stop frames read⟩
  | .bool true, _, frames, rest, place, _ => by
    obtain ⟨after, read⟩ := tokens_word 't' ['r', 'u', 'e'] rest place (by decide) rfl
    exact ⟨_, after, .bool, assemble_leaf stop frames read⟩
  | .bool false, _, frames, rest, place, _ => by
    obtain ⟨after, read⟩ := tokens_word 'f' ['a', 'l', 's', 'e'] rest place (by decide) rfl
    exact ⟨_, after, .bool, assemble_leaf stop frames read⟩
  | .number _, floats, frames, rest, place, ends => by
    obtain ⟨after, read⟩ := tokens_number floats.number ends place
    exact ⟨_, after, .number, assemble_leaf stop frames read⟩
  | .string value, _, frames, rest, place, _ => by
    obtain ⟨after, read⟩ := tokens_quoted value rest place
    exact ⟨_, after, .string, assemble_leaf stop frames read⟩
  -- An array without items is closed where its first item is due.
  | .array [], _, frames, rest, place, _ => by
    refine ⟨.array place [] (.closed ((place.plus 1).plus 1)), (place.plus 1).plus 1,
      .array .nil, ?_⟩
    have opening := tokens_mark '[' (']' :: rest) place (by decide) rfl
    rw [tokens_mark ']' rest (place.plus 1) (by decide) rfl] at opening
    exact congrArg (fun tokens => assemble stop .value frames tokens) opening
  | .array (item :: items), floats, frames, rest, place, _ => by
    rw [FloatsReadBack] at floats
    obtain ⟨itemFloats, restFloats⟩ := floats
    -- The first item is spelled in the frame of the array, and the others behind it.
    have begins := beginsItem_text itemFloats (textMoreItems items ++ ']' :: rest) (place.plus 1)
    obtain ⟨part, behind, spells, first⟩ := assemble_text stop item itemFloats
      (.items place [] :: frames) (textMoreItems items ++ ']' :: rest) (place.plus 1)
      (endsNumeral_moreItems items rest)
    obtain ⟨left, parts, closing, after, others, more⟩ := assemble_moreItems stop items restFloats
      place [] part frames rest behind
    refine ⟨.array place ((part, left) :: parts) (.closed closing), after,
      .array (.cons spells others), ?_⟩
    have opening : assembleText stop .value frames
        ('[' :: (item.text ++ (textMoreItems items ++ ']' :: rest))) place
        = assembleText stop (.firstItem place) frames
            (item.text ++ (textMoreItems items ++ ']' :: rest)) (place.plus 1) :=
      congrArg (fun tokens => assemble stop .value frames tokens)
        (tokens_mark '[' _ place (by decide) rfl)
    rw [assemble_firstItem stop place frames begins, first, more] at opening
    simpa [text, textItems] using opening
  -- An object without members is closed where its first key is due.
  | .object [], _, frames, rest, place, _ => by
    refine ⟨.object place [] (.closed ((place.plus 1).plus 1)), (place.plus 1).plus 1,
      .object .nil, ?_⟩
    have opening := tokens_mark '\x7b' ('\x7d' :: rest) place (by decide) rfl
    rw [tokens_mark '\x7d' rest (place.plus 1) (by decide) rfl] at opening
    exact congrArg (fun tokens => assemble stop .value frames tokens) opening
  | .object ((name, value) :: members), floats, frames, rest, place, _ => by
    rw [FloatsReadBack] at floats
    obtain ⟨valueFloats, restFloats⟩ := floats
    -- The first value is spelled in the frame of the object and its key, and the others behind it.
    have keyDue : DueKey (.firstKey place) place [] := .first
    obtain ⟨key, behindKey, named, keyed⟩ := assemble_key keyDue stop frames name
      (value.text ++ (textMoreMembers members ++ '\x7d' :: rest)) (place.plus 1)
    obtain ⟨part, behind, spells, first⟩ := assemble_text stop value valueFloats
      (.members place [] key :: frames) (textMoreMembers members ++ '\x7d' :: rest) behindKey
      (endsNumeral_moreMembers members rest)
    obtain ⟨left, parts, closing, after, others, more⟩ := assemble_moreMembers stop members
      restFloats place [] key part frames rest behind
    refine ⟨.object place ((key, part, left) :: parts) (.closed closing), after,
      .object (.cons named spells others), ?_⟩
    have opening : assembleText stop .value frames ('\x7b' :: (quoted name
        ++ ':' :: (value.text ++ (textMoreMembers members ++ '\x7d' :: rest)))) place
        = assembleText stop (.firstKey place) frames (quoted name
            ++ ':' :: (value.text ++ (textMoreMembers members ++ '\x7d' :: rest))) (place.plus 1) :=
      congrArg (fun tokens => assemble stop .value frames tokens)
        (tokens_mark '\x7b' _ place (by decide) rfl)
    rw [keyed, first, more] at opening
    simpa [text, textMembers] using opening

/-- The items behind the first make a document with all of them when the array is closed. -/
theorem assemble_moreItems (stop : Position) : (items : List Json) → ItemFloatsReadBack items →
    ∀ (start : Position) (done : List (Document × Position)) (part : Document)
      (frames : List Frame) (rest : List Char) (place : Position),
      ∃ left parts closing after, SpellsItems parts items
        ∧ assembleText stop (.separator part) (.items start done :: frames)
            (textMoreItems items ++ ']' :: rest) place
          = assembleText stop
              (.separator (.array start (done.reverse ++ (part, left) :: parts) (.closed closing)))
              frames rest after
  -- Without another item the bracket closes the array around what has been done.
  | [], _, start, done, part, frames, rest, place => by
    refine ⟨place.plus 1, [], place.plus 1, place.plus 1, .nil, ?_⟩
    rw [textMoreItems, List.nil_append, assemble_arrayClose, List.reverse_cons]
  | item :: items, floats, start, done, part, frames, rest, place => by
    obtain ⟨itemFloats, restFloats⟩ := floats
    -- The part is done at the comma, and the item behind it is the next part.
    obtain ⟨left, comma⟩ := assemble_comma stop start frames part done
      (beginsItem_text itemFloats (textMoreItems items ++ ']' :: rest) (place.plus 1))
    obtain ⟨spelled, behind, spells, value⟩ := assemble_text stop item itemFloats
      (.items start ((part, left) :: done) :: frames) (textMoreItems items ++ ']' :: rest)
      (place.plus 1) (endsNumeral_moreItems items rest)
    obtain ⟨lastLeft, parts, closing, after, others, more⟩ := assemble_moreItems stop items
      restFloats start ((part, left) :: done) spelled frames rest behind
    refine ⟨left, (spelled, lastLeft) :: parts, closing, after, .cons spells others, ?_⟩
    rw [textMoreItems, List.cons_append, List.append_assoc, comma, value, more]
    simp

/-- The members behind the first make a document with all of them when the object is closed. -/
theorem assemble_moreMembers (stop : Position) : (members : List (String × Json)) →
    MemberFloatsReadBack members →
    ∀ (start : Position) (done : List (Key × Document × Position)) (key : Key) (part : Document)
      (frames : List Frame) (rest : List Char) (place : Position),
      ∃ left parts closing after, SpellsMembers parts members
        ∧ assembleText stop (.separator part) (.members start done key :: frames)
            (textMoreMembers members ++ '\x7d' :: rest) place
          = assembleText stop
              (.separator (.object start (done.reverse ++ (key, part, left) :: parts)
                (.closed closing)))
              frames rest after
  -- Without another member the brace closes the object around what has been done.
  | [], _, start, done, key, part, frames, rest, place => by
    refine ⟨place.plus 1, [], place.plus 1, place.plus 1, .nil, ?_⟩
    rw [textMoreMembers, List.nil_append, assemble_objectClose, List.reverse_cons]
  | (name, value) :: members, floats, start, done, key, part, frames, rest, place => by
    obtain ⟨valueFloats, restFloats⟩ := floats
    -- The member is done at the comma, and the key behind it opens the next one.
    have comma := assemble_memberComma stop start frames part done key
    have keyDue : DueKey (.key start ((key, part, place) :: done)) start _ := .later
    obtain ⟨next, behindKey, named, keyed⟩ := assemble_key keyDue stop frames name
      (value.text ++ (textMoreMembers members ++ '\x7d' :: rest)) (place.plus 1)
    obtain ⟨spelled, behind, spells, read⟩ := assemble_text stop value valueFloats
      (.members start ((key, part, place) :: done) next :: frames)
      (textMoreMembers members ++ '\x7d' :: rest) behindKey (endsNumeral_moreMembers members rest)
    obtain ⟨left, parts, closing, after, others, more⟩ := assemble_moreMembers stop members
      restFloats start ((key, part, place) :: done) next spelled frames rest behind
    refine ⟨place, (next, spelled, left) :: parts, closing, after, .cons named spells others, ?_⟩
    have spelledOut : textMoreMembers ((name, value) :: members) ++ '\x7d' :: rest
        = ',' :: (quoted name ++ ':' :: (value.text
          ++ (textMoreMembers members ++ '\x7d' :: rest))) := by
      simp [textMoreMembers]
    rw [spelledOut, comma, keyed, read, more]
    simp

end

end Document

/-- The text of a tree is a document of the tree, with nothing left over. -/
theorem document_text {tree : Json} (floats : tree.FloatsReadBack) :
    ∃ whole, Spells whole tree ∧ document tree.text = (whole, none) := by
  have nothing : EndsNumeral [] := by
    intro char found
    cases found
  -- Outside of all frames the value is the whole document, and no token is left behind it.
  obtain ⟨whole, after, spells, read⟩ := Document.assemble_text (tokens tree.text .start).2 tree
    floats [] [] .start nothing
  refine ⟨whole, spells, ?_⟩
  have ended : Document.assemble (tokens tree.text .start).2 .value [] (tokens tree.text .start).1
      = (whole, []) := by
    rw [List.append_nil] at read
    refine read.trans ?_
    rw [Document.assembleText, tokens]
    rfl
  rw [document]
  simp only [ended]
  rfl

end Json

end ChatOptions
