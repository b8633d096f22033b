import ChatOptions.Proofs.Json.Document
import ChatOptions.Proofs.Json.Spelling

/-! A text in which the tokens of a value are laid out is taken apart into a document that shows the value. -/

namespace ChatOptions

namespace Json

/-- Blanks in front of a text move its tokens. -/
theorem tokens_blanks {blanks : List Char} (blank : IsBlanks blanks) (text : List Char)
    (place : Position) : ∃ after, tokens (blanks ++ text) place = tokens text after := by
  induction blanks generalizing place with
  | nil => exact ⟨place, rfl⟩
  | cons char rest ih =>
    have space : Token.isSpace char = true := by
      have first := blank char List.mem_cons_self
      simp only [List.mem_cons, List.not_mem_nil, or_false] at first
      rcases first with rfl | rfl | rfl | rfl <;> rfl
    obtain ⟨after, further⟩ :=
      ih (fun other found => blank other (List.mem_cons_of_mem _ found)) (place.after char)
    refine ⟨after, ?_⟩
    rw [List.cons_append, tokens, if_pos space, further]

/-- What may stand behind a value: nothing, or a token that goes on with or ends what the value is in. -/
def Behind (pieces : List (List Char)) : Prop :=
  ∀ piece ∈ pieces.head?, piece = [','] ∨ piece = [']'] ∨ piece = ['\x7d']

/-- A numeral ends in front of what may stand behind a value. -/
theorem Laid.endsNumeral {pieces : List (List Char)} {text : List Char} (laid : Laid pieces text)
    (behind : Behind pieces) : EndsNumeral text := by
  -- The first character is a blank, or that of the first token.
  have ofBlank : ∀ char ∈ [' ', '\n', '\t', '\r'],
      char.isDigit = false ∧ char ≠ '.' ∧ char ≠ 'e' ∧ char ≠ 'E' := by
    simp only [List.forall_mem_cons, List.not_mem_nil, false_imp_iff, implies_true]
    decide
  intro char first
  cases laid with
  | nil blank => exact ofBlank char (blank char (List.mem_of_mem_head? first))
  | @cons blanks piece pieces text blank rest =>
    cases blanks with
    | cons space more =>
      cases first
      exact ofBlank char (blank char List.mem_cons_self)
    | nil => rcases behind piece rfl with rfl | rfl | rfl <;> cases first <;> decide

namespace Document

variable {more : List (List Char)} {text : List Char}

/-- Where a token is laid out, it may be taken to stand in front. -/
theorem assemble_front {piece : List Char} (laid : Laid (piece :: more) text) (stop : Position)
    (due : Due) (frames : List Frame) (place : Position) : ∃ rest after, Laid more rest ∧
      assembleText stop due frames text place
        = assembleText stop due frames (piece ++ rest) after := by
  cases laid with
  | @cons blanks _ _ rest blank further =>
    obtain ⟨after, moved⟩ := tokens_blanks blank (piece ++ rest) place
    refine ⟨rest, after, further, ?_⟩
    rw [assembleText, assembleText, moved]

/-- The token of an opening bracket makes an item due. -/
theorem assemble_arrayOpen (stop : Position) (frames : List Frame) (rest : List Char)
    (place : Position) : assembleText stop .value frames ('[' :: rest) place
      = assembleText stop (.firstItem place) frames rest (place.plus 1) := by
  rw [assembleText, assembleText, tokens_mark _ rest place (by decide) rfl]
  rfl

/-- The token of an opening brace makes a key due. -/
theorem assemble_objectOpen (stop : Position) (frames : List Frame) (rest : List Char)
    (place : Position) : assembleText stop .value frames ('\x7b' :: rest) place
      = assembleText stop (.firstKey place) frames rest (place.plus 1) := by
  rw [assembleText, assembleText, tokens_mark _ rest place (by decide) rfl]
  rfl

/-- An array without items is closed where its first item is due. -/
theorem assemble_noItem (stop start : Position) (frames : List Frame) (rest : List Char)
    (place : Position) : assembleText stop (.firstItem start) frames (']' :: rest) place
      = assembleText stop (.separator (.array start [] (.closed (place.plus 1)))) frames rest
          (place.plus 1) := by
  rw [assembleText, assembleText, tokens_mark _ rest place (by decide) rfl]
  rfl

/-- An object without members is closed where its first key is due. -/
theorem assemble_noMember (stop start : Position) (frames : List Frame) (rest : List Char)
    (place : Position) : assembleText stop (.firstKey start) frames ('\x7d' :: rest) place
      = assembleText stop (.separator (.object start [] (.closed (place.plus 1)))) frames rest
          (place.plus 1) := by
  rw [assembleText, assembleText, tokens_mark _ rest place (by decide) rfl]
  rfl

/-- A key and its colon make a value due. -/
theorem assemble_keyLaid {due : Due} {start : Position} {done : List (Key × Document × Position)}
    (keyDue : DueKey due start done) {literal : TextLiteral}
    (laid : Laid (literal.quoted :: [':'] :: more) text) (stop : Position) (frames : List Frame)
    (place : Position) : ∃ key rest after, SameOutcome Eq key.name literal.value ∧ Laid more rest ∧
      assembleText stop due frames text place
        = assembleText stop .value (.members start done key :: frames) rest after := by
  -- Two tokens are used up, each behind its blanks: the name and the colon.
  obtain ⟨rest, begin, laid, read⟩ := assemble_front laid stop due frames place
  obtain ⟨name, behind, same, token⟩ := literal.tokens_quoted rest begin
  obtain ⟨last, colon, laid, further⟩ := assemble_front laid stop
    (.colon start done ⟨name, behind, leaves stop (tokens rest behind).1⟩) frames behind
  refine ⟨⟨name, behind, leaves stop (tokens rest behind).1⟩, last, colon.plus 1, same, laid, ?_⟩
  have named : assembleText stop due frames (literal.quoted ++ rest) begin
      = assembleText stop (.colon start done ⟨name, behind, leaves stop (tokens rest behind).1⟩)
          frames rest behind := by
    rw [assembleText, assembleText, token]
    cases keyDue <;> rfl
  have marked : assembleText stop
      (.colon start done ⟨name, behind, leaves stop (tokens rest behind).1⟩) frames
        ([':'] ++ last) colon
      = assembleText stop .value
          (.members start done ⟨name, behind, leaves stop (tokens rest behind).1⟩ :: frames) last
          (colon.plus 1) := by
    rw [List.singleton_append, assembleText, assembleText, tokens_mark ':' last colon (by decide) rfl]
    rfl
  rw [read, named, further, marked]

/-- The first token of a value is neither a blank nor a closing bracket. -/
theorem pieces_head (spelling : Spelling) : ∃ char rest others,
    spelling.pieces = (char :: rest) :: others ∧ Token.isSpace char = false ∧ char ≠ ']' := by
  cases spelling with
  | null => exact ⟨_, _, _, rfl, by decide, by decide⟩
  | bool value => cases value <;> exact ⟨_, _, _, rfl, by decide, by decide⟩
  | number literal =>
    obtain ⟨char, rest, spelled, starts⟩ := literal.head
    refine ⟨char, rest, [], by rw [Spelling.pieces, spelled], Token.isSpace_number starts, ?_⟩
    rintro rfl
    revert starts
    decide
  | text literal => exact ⟨_, _, _, rfl, by decide, by decide⟩
  | array items => exact ⟨_, _, _, rfl, by decide, by decide⟩
  | object members => exact ⟨_, _, _, rfl, by decide, by decide⟩

/-- Where a value is laid out an item begins. -/
theorem beginsItem_laid {spelling : Spelling} (laid : Laid (spelling.pieces ++ more) text)
    (place : Position) : BeginsItem text place := by
  obtain ⟨char, chars, others, spelled, noSpace, different⟩ := pieces_head spelling
  rw [spelled, List.cons_append] at laid
  cases laid with
  | @cons blanks _ _ rest blank further =>
    obtain ⟨after, moved⟩ := tokens_blanks blank ((char :: chars) ++ rest) place
    obtain ⟨token, behind, found, notClosing⟩ :=
      beginsItem_cons char noSpace different (chars ++ rest) after
    refine ⟨token, behind, ?_, notClosing⟩
    rw [moved, List.cons_append, found]

/-- Behind an item stands a comma or the bracket of the array. -/
theorem behind_moreItems (items : List Spelling) (more : List (List Char)) :
    Behind (Spelling.moreItemPieces items ++ ([']'] :: more)) := by
  intro piece first
  cases items <;> cases first
  · exact .inr (.inl rfl)
  · exact .inl rfl

/-- Behind a member stands a comma or the brace of the object. -/
theorem behind_moreMembers (members : List (TextLiteral × Spelling)) (more : List (List Char)) :
    Behind (Spelling.moreMemberPieces members ++ (['\x7d'] :: more)) := by
  intro piece first
  cases members with
  | nil =>
    cases first
    exact .inr (.inr rfl)
  | cons member members =>
    obtain ⟨key, value⟩ := member
    cases first
    exact .inl rfl

/-- A value of one token that has no parts is followed by a separator. -/
theorem assemble_oneToken {piece : List Char} (laid : Laid (piece :: more) text) (stop : Position)
    (frames : List Frame) (place : Position) {shown : Leaf → Prop}
    (token : ∀ rest place, Laid more rest → ∃ plain after, shown plain ∧
      (tokens (piece ++ rest) place).1 = ⟨.leaf plain, place, after⟩ :: (tokens rest after).1) :
    ∃ start plain rest after, shown plain ∧ Laid more rest ∧
      assembleText stop .value frames text place
        = assembleText stop (.separator (.leaf start after plain)) frames rest after := by
  obtain ⟨rest, start, laid, front⟩ := assemble_front laid stop .value frames place
  obtain ⟨plain, after, shows, read⟩ := token rest start laid
  exact ⟨start, plain, rest, after, shows, laid, front.trans (assemble_leaf stop frames read)⟩

/-- A word is one token, and followed by a separator. -/
theorem assemble_wordLaid {char : Char} {letters : List Char} {leaf : Leaf}
    (laid : Laid ((char :: letters) :: more) text) (stop : Position) (frames : List Frame)
    (place : Position) (noSpace : Token.isSpace char = false)
    (word : ∀ rest place, Token.next char (letters ++ rest) place
      = Token.word letters leaf (letters ++ rest) place) :
    ∃ start rest after, Laid more rest ∧ assembleText stop .value frames text place
      = assembleText stop (.separator (.leaf start after leaf)) frames rest after := by
  have token : ∀ rest place, Laid more rest → ∃ plain after, plain = leaf ∧
      (tokens ((char :: letters) ++ rest) place).1
        = ⟨.leaf plain, place, after⟩ :: (tokens rest after).1 := by
    intro rest place _
    obtain ⟨after, read⟩ := tokens_word char letters rest place noSpace (word rest place)
    exact ⟨leaf, after, rfl, read⟩
  obtain ⟨start, _, rest, after, rfl, behind, read⟩ := assemble_oneToken laid stop frames place token
  exact ⟨start, rest, after, behind, read⟩

mutual

/-- Where a value is due and laid out, the text makes a document that shows the value, and leaves what is laid out behind it. -/
theorem assemble_laid (stop : Position) : (spelling : Spelling) → ∀ {more : List (List Char)}
    {text : List Char}, Laid (spelling.pieces ++ more) text → Behind more →
    ∀ (frames : List Frame) (place : Position), ∃ part rest after, Shows part spelling ∧
      Laid more rest ∧ assembleText stop .value frames text place
        = assembleText stop (.separator part) frames rest after
  -- What has no parts is one token.
  | .null, more, text, laid, _, frames, place => by
    obtain ⟨_, rest, after, behind, read⟩ :=
      assemble_wordLaid laid stop frames place (by decide) fun _ _ => rfl
    exact ⟨_, rest, after, .null, behind, read⟩
  | .bool true, more, text, laid, _, frames, place => by
    obtain ⟨_, rest, after, behind, read⟩ :=
      assemble_wordLaid laid stop frames place (by decide) fun _ _ => rfl
    exact ⟨_, rest, after, .bool, behind, read⟩
  | .bool false, more, text, laid, _, frames, place => by
    obtain ⟨_, rest, after, behind, read⟩ :=
      assemble_wordLaid laid stop frames place (by decide) fun _ _ => rfl
    exact ⟨_, rest, after, .bool, behind, read⟩
  | .number literal, more, text, laid, behind, frames, place => by
    have token : ∀ rest place, Laid more rest → ∃ plain after,
        (∃ value, plain = Leaf.number value ∧ SameOutcome Eq value literal.value) ∧
        (tokens (literal.chars ++ rest) place).1
          = ⟨.leaf plain, place, after⟩ :: (tokens rest after).1 := fun rest place laid => by
      obtain ⟨value, after, same, read⟩ := literal.tokens_chars (laid.endsNumeral behind) place
      exact ⟨_, after, ⟨value, rfl, same⟩, read⟩
    obtain ⟨start, _, rest, after, ⟨value, rfl, same⟩, behind, read⟩ :=
      assemble_oneToken laid stop frames place token
    exact ⟨_, rest, after, .number same, behind, read⟩
  | .text literal, more, text, laid, _, frames, place => by
    have token : ∀ rest place, Laid more rest → ∃ plain after,
        (∃ value, plain = Leaf.string value ∧ SameOutcome Eq value literal.value) ∧
        (tokens (literal.quoted ++ rest) place).1
          = ⟨.leaf plain, place, after⟩ :: (tokens rest after).1 := fun rest place _ => by
      obtain ⟨value, after, same, read⟩ := literal.tokens_quoted rest place
      exact ⟨_, after, ⟨value, rfl, same⟩, read⟩
    obtain ⟨start, _, rest, after, ⟨value, rfl, same⟩, behind, read⟩ :=
      assemble_oneToken laid stop frames place token
    exact ⟨_, rest, after, .text same, behind, read⟩
  -- An array without items is closed where its first item is due.
  | .array [], more, text, laid, _, frames, place => by
    obtain ⟨inside, start, laid, front⟩ := assemble_front laid stop .value frames place
    obtain ⟨rest, after, laid, close⟩ :=
      assemble_front laid stop (.firstItem start) frames (start.plus 1)
    refine ⟨.array start [] (.closed (after.plus 1)), rest, after.plus 1, .array .nil, laid, ?_⟩
    exact front.trans ((assemble_arrayOpen stop frames inside start).trans
      (close.trans (assemble_noItem stop start frames rest after)))
  | .array (item :: items), more, text, laid, _, frames, place => by
    rw [Spelling.pieces, Spelling.itemPieces, List.cons_append, List.append_assoc,
      List.append_assoc, List.singleton_append] at laid
    obtain ⟨inside, start, laid, front⟩ := assemble_front laid stop .value frames place
    -- The first item is laid out in the frame of the array, and the others behind it.
    have begins := beginsItem_laid laid (start.plus 1)
    obtain ⟨part, behind, between, shows, laid, first⟩ := assemble_laid stop item laid
      (behind_moreItems items more) (.items start [] :: frames) (start.plus 1)
    obtain ⟨left, parts, closing, rest, after, others, laid, further⟩ :=
      assemble_moreItemsLaid stop items laid start [] part frames between
    refine ⟨.array start ((part, left) :: parts) (.closed closing), rest, after,
      .array (.cons shows others), laid, ?_⟩
    have opened := assemble_arrayOpen stop frames inside start
    rw [assemble_firstItem stop start frames begins, first, further] at opened
    exact front.trans opened
  -- An object without members is closed where its first key is due.
  | .object [], more, text, laid, _, frames, place => by
    obtain ⟨inside, start, laid, front⟩ := assemble_front laid stop .value frames place
    obtain ⟨rest, after, laid, close⟩ :=
      assemble_front laid stop (.firstKey start) frames (start.plus 1)
    refine ⟨.object start [] (.closed (after.plus 1)), rest, after.plus 1, .object .nil, laid, ?_⟩
    exact front.trans ((assemble_objectOpen stop frames inside start).trans
      (close.trans (assemble_noMember stop start frames rest after)))
  | .object ((name, value) :: members), more, text, laid, _, frames, place => by
    rw [Spelling.pieces, Spelling.memberPieces, List.cons_append, List.cons_append,
      List.cons_append, List.cons_append, List.cons_append, List.append_assoc, List.append_assoc,
      List.singleton_append] at laid
    obtain ⟨inside, start, laid, front⟩ := assemble_front laid stop .value frames place
    -- The first value is laid out in the frame of the object and its key, and the others behind it.
    have keyDue : DueKey (.firstKey start) start [] := .first
    obtain ⟨key, valued, begin, named, laid, keyed⟩ :=
      assemble_keyLaid keyDue laid stop frames (start.plus 1)
    obtain ⟨part, behind, between, shows, laid, first⟩ := assemble_laid stop value laid
      (behind_moreMembers members more) (.members start [] key :: frames) begin
    obtain ⟨left, parts, closing, rest, after, others, laid, further⟩ :=
      assemble_moreMembersLaid stop members laid start [] key part frames between
    refine ⟨.object start ((key, part, left) :: parts) (.closed closing), rest, after,
      .object (.cons named shows others), laid, ?_⟩
    have opened := assemble_objectOpen stop frames inside start
    rw [keyed, first, further] at opened
    exact front.trans opened

/-- The items laid out behind the first make a document with all of them when the array is closed. -/
theorem assemble_moreItemsLaid (stop : Position) : (items : List Spelling) →
    ∀ {more : List (List Char)} {text : List Char},
    Laid (Spelling.moreItemPieces items ++ ([']'] :: more)) text →
    ∀ (start : Position) (done : List (Document × Position)) (part : Document)
      (frames : List Frame) (place : Position), ∃ left parts closing rest after,
      ShowsItems parts items ∧ Laid more rest ∧
      assembleText stop (.separator part) (.items start done :: frames) text place
        = assembleText stop
            (.separator (.array start (done.reverse ++ (part, left) :: parts) (.closed closing)))
            frames rest after
  -- Without another item the bracket closes the array around what has been done.
  | [], more, text, laid, start, done, part, frames, place => by
    obtain ⟨rest, after, laid, front⟩ :=
      assemble_front laid stop (.separator part) (.items start done :: frames) place
    refine ⟨after.plus 1, [], after.plus 1, rest, after.plus 1, .nil, laid, ?_⟩
    rw [front, List.singleton_append, assemble_arrayClose, List.reverse_cons]
  | item :: items, more, text, laid, start, done, part, frames, place => by
    rw [Spelling.moreItemPieces, List.cons_append, List.append_assoc] at laid
    obtain ⟨behind, comma, laid, front⟩ :=
      assemble_front laid stop (.separator part) (.items start done :: frames) place
    -- The part is done at the comma, and the item behind it is the next part.
    obtain ⟨left, separated⟩ := assemble_comma stop start frames part done
      (beginsItem_laid laid (comma.plus 1))
    obtain ⟨next, last, between, shows, laid, read⟩ := assemble_laid stop item laid
      (behind_moreItems items more) (.items start ((part, left) :: done) :: frames) (comma.plus 1)
    obtain ⟨lastLeft, parts, closing, rest, after, others, laid, further⟩ :=
      assemble_moreItemsLaid stop items laid start ((part, left) :: done) next frames between
    refine ⟨left, (next, lastLeft) :: parts, closing, rest, after, .cons shows others, laid, ?_⟩
    rw [front, List.singleton_append, separated, read, further, List.reverse_cons,
      List.append_assoc, List.singleton_append]

/-- The members laid out behind the first make a document with all of them when the object is closed. -/
theorem assemble_moreMembersLaid (stop : Position) : (members : List (TextLiteral × Spelling)) →
    ∀ {more : List (List Char)} {text : List Char},
    Laid (Spelling.moreMemberPieces members ++ (['\x7d'] :: more)) text →
    ∀ (start : Position) (done : List (Key × Document × Position)) (key : Key) (part : Document)
      (frames : List Frame) (place : Position), ∃ left parts closing rest after,
      ShowsMembers parts members ∧ Laid more rest ∧
      assembleText stop (.separator part) (.members start done key :: frames) text place
        = assembleText stop
            (.separator (.object start (done.reverse ++ (key, part, left) :: parts)
              (.closed closing)))
            frames rest after
  -- Without another member the brace closes the object around what has been done.
  | [], more, text, laid, start, done, key, part, frames, place => by
    obtain ⟨rest, after, laid, front⟩ :=
      assemble_front laid stop (.separator part) (.members start done key :: frames) place
    refine ⟨after.plus 1, [], after.plus 1, rest, after.plus 1, .nil, laid, ?_⟩
    rw [front, List.singleton_append, assemble_objectClose, List.reverse_cons]
  | (name, value) :: members, more, text, laid, start, done, key, part, frames, place => by
    rw [Spelling.moreMemberPieces, List.cons_append, List.cons_append, List.cons_append,
      List.append_assoc] at laid
    obtain ⟨behind, comma, laid, front⟩ :=
      assemble_front laid stop (.separator part) (.members start done key :: frames) place
    -- The member is done at the comma, and the key behind it opens the next one.
    have separated := assemble_memberComma stop start frames part done key behind comma
    have keyDue : DueKey (.key start ((key, part, comma) :: done)) start _ := .later
    obtain ⟨nextKey, valued, begin, named, laid, keyed⟩ :=
      assemble_keyLaid keyDue laid stop frames (comma.plus 1)
    obtain ⟨next, last, between, shows, laid, read⟩ := assemble_laid stop value laid
      (behind_moreMembers members more)
      (.members start ((key, part, comma) :: done) nextKey :: frames) begin
    obtain ⟨left, parts, closing, rest, after, others, laid, further⟩ :=
      assemble_moreMembersLaid stop members laid start ((key, part, comma) :: done) nextKey next
        frames between
    refine ⟨comma, (nextKey, next, left) :: parts, closing, rest, after, .cons named shows others,
      laid, ?_⟩
    rw [front, List.singleton_append, separated, keyed, read, further, List.reverse_cons,
      List.append_assoc, List.singleton_append]

end

end Document

/-- A text in which the tokens of a value are laid out is a document that shows the value, with nothing left over. -/
theorem document_laid {spelling : Spelling} {text : List Char} (laid : Laid spelling.pieces text) :
    ∃ whole, Document.Shows whole spelling ∧ document text = (whole, none) := by
  have nothing : Behind [] := by
    intro piece found
    cases found
  rw [← List.append_nil spelling.pieces] at laid
  -- Outside of all frames the value is the whole document, and only blanks are left behind it.
  obtain ⟨whole, rest, after, shows, behind, read⟩ :=
    Document.assemble_laid (tokens text .start).2 spelling laid nothing [] .start
  refine ⟨whole, shows, ?_⟩
  have ended : Document.assemble (tokens text .start).2 .value [] (tokens text .start).1
      = (whole, []) := by
    cases behind with
    | nil blank =>
      obtain ⟨last, moved⟩ := tokens_blanks blank [] after
      rw [List.append_nil] at moved
      refine read.trans ?_
      rw [Document.assembleText, moved, tokens]
      rfl
  rw [document]
  simp only [ended]
  rfl

/-- Texts that differ only in blanks and in the order of members are documents that differ in the order of members only, with nothing left over. -/
theorem document_rearranged {first second : String} (rearranged : Rearranged first second) :
    ∃ whole other, Document.Alike whole other ∧ document first.toList = (whole, none) ∧
      document second.toList = (other, none) := by
  obtain ⟨spelling, spelling', laid, laid', reordered, distinct⟩ := rearranged
  obtain ⟨whole, shows, read⟩ := document_laid laid
  obtain ⟨other, shows', read'⟩ := document_laid laid'
  exact ⟨whole, other, Document.alike_of_shows reordered distinct shows shows', read, read'⟩

end Json

end ChatOptions
