import ChatOptions.Proofs.Json.Alike
import ChatOptions.Proofs.Json.Literal

/-! JSON texts as their grammar has them: values as they are spelled, with blanks between their tokens. -/

namespace ChatOptions

namespace Json

/-- A value as it is spelled, apart from blanks. -/
inductive Spelling where
  | null
  | bool (value : Bool)
  | number (literal : NumberLiteral)
  | text (literal : TextLiteral)
  | array (items : List Spelling)
  | object (members : List (TextLiteral × Spelling))

namespace Spelling

mutual

/-- The tokens of a value, each with its characters. -/
def pieces : Spelling → List (List Char)
  | .null => [['n', 'u', 'l', 'l']]
  | .bool true => [['t', 'r', 'u', 'e']]
  | .bool false => [['f', 'a', 'l', 's', 'e']]
  | .number literal => [literal.chars]
  | .text literal => [literal.quoted]
  | .array items => ['['] :: (itemPieces items ++ [[']']])
  | .object members => ['\x7b'] :: (memberPieces members ++ [['\x7d']])

/-- The tokens of items, separated by commas. -/
def itemPieces : List Spelling → List (List Char)
  | [] => []
  | item :: rest => item.pieces ++ moreItemPieces rest

/-- The tokens of items, each behind a comma. -/
def moreItemPieces : List Spelling → List (List Char)
  | [] => []
  | item :: rest => [','] :: (item.pieces ++ moreItemPieces rest)

/-- The tokens of members, separated by commas. -/
def memberPieces : List (TextLiteral × Spelling) → List (List Char)
  | [] => []
  | (key, value) :: rest => key.quoted :: [':'] :: (value.pieces ++ moreMemberPieces rest)

/-- The tokens of members, each behind a comma. -/
def moreMemberPieces : List (TextLiteral × Spelling) → List (List Char)
  | [] => []
  | (key, value) :: rest =>
    [','] :: key.quoted :: [':'] :: (value.pieces ++ moreMemberPieces rest)

end

/-- The texts that the keys of members stand for, as far as they stand for any. -/
def keys (members : List (TextLiteral × Spelling)) : List String :=
  members.filterMap fun member => member.1.value.toOption

mutual

/-- Whether no object of a value repeats a key. Keys are the same if they stand for the same text. -/
def DistinctKeys : Spelling → Prop
  | .array items => ItemsDistinctKeys items
  | .object members =>
    (keys members).Nodup ∧ MembersDistinctKeys members
  | _ => True

/-- Whether no object in a list of values repeats a key. -/
def ItemsDistinctKeys : List Spelling → Prop
  | [] => True
  | item :: rest => item.DistinctKeys ∧ ItemsDistinctKeys rest

/-- Whether no object in what members hold repeats a key. -/
def MembersDistinctKeys : List (TextLiteral × Spelling) → Prop
  | [] => True
  | (_, value) :: rest => value.DistinctKeys ∧ MembersDistinctKeys rest

end

mutual

/-- Whether no object of a value repeats a key is found by looking at each. -/
def decideDistinctKeys : (spelling : Spelling) → Decidable spelling.DistinctKeys
  | .null | .bool _ | .number _ | .text _ => .isTrue trivial
  | .array items => decideItemsDistinctKeys items
  | .object members =>
    have := decideMembersDistinctKeys members
    inferInstanceAs (Decidable ((keys members).Nodup ∧ MembersDistinctKeys members))

/-- Whether no object in a list of values repeats a key is found by looking at each. -/
def decideItemsDistinctKeys : (items : List Spelling) → Decidable (ItemsDistinctKeys items)
  | [] => .isTrue trivial
  | item :: rest =>
    have := item.decideDistinctKeys
    have := decideItemsDistinctKeys rest
    inferInstanceAs (Decidable (item.DistinctKeys ∧ ItemsDistinctKeys rest))

/-- Whether no object in what members hold repeats a key is found by looking at each. -/
def decideMembersDistinctKeys :
    (members : List (TextLiteral × Spelling)) → Decidable (MembersDistinctKeys members)
  | [] => .isTrue trivial
  | (_, value) :: rest =>
    have := value.decideDistinctKeys
    have := decideMembersDistinctKeys rest
    inferInstanceAs (Decidable (value.DistinctKeys ∧ MembersDistinctKeys rest))

end

instance : DecidablePred DistinctKeys := decideDistinctKeys

mutual

/-- Values that are spelled alike but for the order of members, which may differ at every level. -/
inductive Reordered : Spelling → Spelling → Prop
  | null : Reordered .null .null
  | bool {value} : Reordered (.bool value) (.bool value)
  | number {literal} : Reordered (.number literal) (.number literal)
  | text {literal} : Reordered (.text literal) (.text literal)
  | array {items others} (each : ItemsReordered items others) :
    Reordered (.array items) (.array others)
  | object {members placed others} (each : MembersReordered members placed)
    (shuffled : placed.Perm others) : Reordered (.object members) (.object others)

/-- Items that are spelled alike one by one, but for the order of members in them. -/
inductive ItemsReordered : List Spelling → List Spelling → Prop
  | nil : ItemsReordered [] []
  | cons {item other items others} (first : Reordered item other)
    (rest : ItemsReordered items others) : ItemsReordered (item :: items) (other :: others)

/-- Members with the same keys whose values are spelled alike one by one, but for the order of members in them. -/
inductive MembersReordered :
    List (TextLiteral × Spelling) → List (TextLiteral × Spelling) → Prop
  | nil : MembersReordered [] []
  | cons {key value other members others} (first : Reordered value other)
    (rest : MembersReordered members others) :
    MembersReordered ((key, value) :: members) ((key, other) :: others)

end

/-- Members have the same keys whatever the order of members in their values. -/
theorem MembersReordered.keys_eq : ∀ {members others : List (TextLiteral × Spelling)},
    MembersReordered members others → keys members = keys others
  | _, _, .nil => rfl
  | _, _, .cons _ rest => by
    have further := rest.keys_eq
    rw [keys, keys] at further
    rw [keys, keys, List.filterMap_cons, List.filterMap_cons, further]

end Spelling

/-- Characters that may stand between tokens, or before and behind them all. -/
def IsBlanks (chars : List Char) : Prop := ∀ char ∈ chars, char ∈ [' ', '\n', '\t', '\r']

instance (chars : List Char) : Decidable (IsBlanks chars) :=
  List.decidableBAll (· ∈ [' ', '\n', '\t', '\r']) chars

/-- How tokens are laid out as a text, with any blanks around them. -/
inductive Laid : List (List Char) → List Char → Prop
  | nil {blanks} (blank : IsBlanks blanks) : Laid [] blanks
  | cons {blanks piece pieces text} (blank : IsBlanks blanks) (rest : Laid pieces text) :
    Laid (piece :: pieces) (blanks ++ (piece ++ text))

/-- Tokens may be laid out with the same blanks in front of each and behind them all. -/
theorem Laid.spread {blanks : List Char} (blank : IsBlanks blanks) (pieces : List (List Char)) :
    Laid pieces (pieces.flatMap (blanks ++ ·) ++ blanks) := by
  induction pieces with
  | nil => exact .nil blank
  | cons piece pieces ih =>
    rw [List.flatMap_cons, List.append_assoc, List.append_assoc]
    exact .cons blank ih

/-- Tokens may be laid out without blanks. -/
theorem Laid.of_flatten {pieces : List (List Char)} {text : List Char}
    (same : text = pieces.flatten) : Laid pieces text := by
  have none : IsBlanks [] := fun _ found => absurd found List.not_mem_nil
  rw [same]
  clear same
  induction pieces with
  | nil => exact .nil none
  | cons piece pieces ih =>
    rw [List.flatten_cons]
    exact .cons none ih

/-- Texts that differ only in blanks and in the order of members, where no object repeats a key. -/
def Rearranged (first second : String) : Prop :=
  ∃ spelling other : Spelling, Laid spelling.pieces first.toList ∧ Laid other.pieces second.toList ∧
    spelling.Reordered other ∧ spelling.DistinctKeys

namespace Document

mutual

/-- How a document shows a value: part by part, every array and object closed, and every literal standing for what it does. -/
inductive Shows : Document → Spelling → Prop
  | null {start stop} : Shows (.leaf start stop .null) .null
  | bool {start stop value} : Shows (.leaf start stop (.bool value)) (.bool value)
  | number {start stop value literal} (same : SameOutcome Eq value literal.value) :
    Shows (.leaf start stop (.number value)) (.number literal)
  | text {start stop text literal} (same : SameOutcome Eq text literal.value) :
    Shows (.leaf start stop (.string text)) (.text literal)
  | array {start stop parts items} (each : ShowsItems parts items) :
    Shows (.array start parts (.closed stop)) (.array items)
  | object {start stop parts members} (each : ShowsMembers parts members) :
    Shows (.object start parts (.closed stop)) (.object members)

/-- How the parts of an array show items, one by one. -/
inductive ShowsItems : List (Document × Position) → List Spelling → Prop
  | nil : ShowsItems [] []
  | cons {part left parts item items} (first : Shows part item) (rest : ShowsItems parts items) :
    ShowsItems ((part, left) :: parts) (item :: items)

/-- How the parts of an object show members, one by one. -/
inductive ShowsMembers :
    List (Key × Document × Position) → List (TextLiteral × Spelling) → Prop
  | nil : ShowsMembers [] []
  | cons {key part left parts literal value members}
    (named : SameOutcome Eq key.name literal.value) (first : Shows part value)
    (rest : ShowsMembers parts members) :
    ShowsMembers ((key, part, left) :: parts) ((literal, value) :: members)

end

/-- The parts that show members show them in another order if they are put into that order. -/
theorem ShowsMembers.perm {members others : List (TextLiteral × Spelling)}
    {parts : List (Key × Document × Position)} (each : ShowsMembers parts others)
    (shuffled : members.Perm others) :
    ∃ placed, ShowsMembers placed members ∧ placed.Perm parts := by
  -- Every exchange of two members is followed by one of the parts that show them.
  induction shuffled generalizing parts with
  | nil => exact ⟨parts, each, .refl _⟩
  | cons member _ ih =>
    cases each with
    | cons named first rest =>
      obtain ⟨placed, each, order⟩ := ih rest
      exact ⟨_, .cons named first each, order.cons _⟩
  | swap first second members =>
    cases each with
    | cons named first rest =>
      cases rest with
      | cons named' second rest =>
        exact ⟨_, .cons named' second (.cons named first rest), .swap ..⟩
  | trans _ _ ih ih' =>
    obtain ⟨between, each, order⟩ := ih' each
    obtain ⟨placed, each, order'⟩ := ih each
    exact ⟨placed, each, order'.trans order⟩

/-- Parts that show members have names for their keys. -/
theorem ShowsMembers.named : ∀ {parts : List (Key × Document × Position)}
    {members : List (TextLiteral × Spelling)}, ShowsMembers parts members →
    List.Forall₂ (fun part member => SameOutcome Eq part.1.name member.1.value) parts members
  | _, _, .nil => .nil
  | _, _, .cons named _ rest => .cons named rest.named

/-- Parts that show members have the names that the keys of the members stand for. -/
theorem names_of_shows {parts : List (Key × Document × Position)}
    {members : List (TextLiteral × Spelling)} (each : ShowsMembers parts members) :
    names parts = Spelling.keys members := by
  have named := each.named
  clear each
  induction named with
  | nil => rfl
  | cons same _ ih =>
    rw [names, Spelling.keys] at ih ⊢
    rw [List.filterMap_cons, List.filterMap_cons, same.toOption_eq, ih]

/-- A member that is shown is shown by one of the parts. -/
theorem ShowsMembers.exists_part {parts : List (Key × Document × Position)}
    {members : List (TextLiteral × Spelling)} (each : ShowsMembers parts members)
    {member : TextLiteral × Spelling} (listed : member ∈ members) :
    ∃ part ∈ parts, SameOutcome Eq part.1.name member.1.value := by
  have named := each.named
  clear each
  induction named with
  | nil => cases listed
  | cons same _ ih =>
    rcases List.mem_cons.mp listed with rfl | later
    · exact ⟨_, List.mem_cons_self, same⟩
    · obtain ⟨part, found, same⟩ := ih later
      exact ⟨part, List.mem_cons_of_mem _ found, same⟩

/-- The parts that show members in front of others stand in front of the parts that show those. -/
theorem ShowsMembers.split {front back : List (TextLiteral × Spelling)}
    {parts : List (Key × Document × Position)} (each : ShowsMembers parts (front ++ back)) :
    ∃ before behind, parts = before ++ behind ∧ ShowsMembers before front ∧
      ShowsMembers behind back := by
  induction front generalizing parts with
  | nil => exact ⟨[], parts, rfl, .nil, each⟩
  | cons member front ih =>
    cases each with
    | cons named first rest =>
      obtain ⟨before, behind, rfl, inFront, further⟩ := ih rest
      exact ⟨_ :: before, behind, rfl, .cons named first inFront, further⟩

mutual

/-- Documents that show the same are alike, wherever they stand. -/
theorem alike_in_place : ∀ {spelling : Spelling} {first second : Document}, Shows first spelling →
    Shows second spelling → Alike first second
  | _, _, _, .null, .null => .leaf .null
  | _, _, _, .bool, .bool => .leaf .bool
  | _, _, _, .number same, .number also => .leaf (.number (same.of_common also))
  | _, _, _, .text same, .text also => .leaf (.string (same.of_common also))
  | _, _, _, .array first, .array second => .array (itemsAlike_in_place first second)
  -- The members come in one order, so their names need not be distinct.
  | _, _, _, .object first, .object second =>
    .object (membersAlike_in_place first second) (.inl rfl) (.refl _)

/-- Parts that show the same items are alike. -/
theorem itemsAlike_in_place : ∀ {items : List Spelling} {parts others : List (Document × Position)},
    ShowsItems parts items → ShowsItems others items → ItemsAlike parts others
  | _, _, _, .nil, .nil => .nil
  | _, _, _, .cons shows more, .cons shows' more' =>
    .cons (alike_in_place shows shows') (itemsAlike_in_place more more')

/-- Parts that show the same members are alike. -/
theorem membersAlike_in_place : ∀ {members : List (TextLiteral × Spelling)}
    {parts others : List (Key × Document × Position)}, ShowsMembers parts members →
    ShowsMembers others members → MembersAlike parts others
  | _, _, _, .nil, .nil => .nil
  | _, _, _, .cons named shows more, .cons named' shows' more' =>
    .cons (named.of_common named') (alike_in_place shows shows') (membersAlike_in_place more more')

end

/-- What shows a value can be passed over. -/
theorem skip_of_shows {part : Document} {value : Spelling} (shows : Shows part value) :
    part.skip = .ok () :=
  (skip_alike (alike_in_place shows shows)).1

mutual

/-- Documents that show the same but for the order of members differ in the order of members only. -/
theorem alike_of_shows : ∀ {spelling other : Spelling}, spelling.Reordered other →
    spelling.DistinctKeys → ∀ {first second : Document}, Shows first spelling →
    Shows second other → Alike first second
  | _, _, .null, _, _, _, .null, .null => .leaf .null
  | _, _, .bool, _, _, _, .bool, .bool => .leaf .bool
  | _, _, .number, _, _, _, .number same, .number also => .leaf (.number (same.of_common also))
  | _, _, .text, _, _, _, .text same, .text also => .leaf (.string (same.of_common also))
  | _, _, .array each, distinct, _, _, .array first, .array second =>
    .array (itemsAlike_of_shows each distinct first second)
  | _, _, .object each shuffled, distinct, _, _, .object first, .object second => by
    obtain ⟨placed, second, order⟩ := second.perm shuffled
    refine .object (membersAlike_of_shows each distinct.2 first second) (.inr ?_) order
    -- In place the names are those that the keys stand for.
    rw [names_of_shows second, ← each.keys_eq]
    exact distinct.1

/-- Parts that show the same items but for the order of members are alike. -/
theorem itemsAlike_of_shows : ∀ {items others : List Spelling}, Spelling.ItemsReordered items others →
    Spelling.ItemsDistinctKeys items → ∀ {parts others' : List (Document × Position)},
    ShowsItems parts items → ShowsItems others' others → ItemsAlike parts others'
  | _, _, .nil, _, _, _, .nil, .nil => .nil
  | _, _, .cons first rest, distinct, _, _, .cons shows more, .cons shows' more' =>
    .cons (alike_of_shows first distinct.1 shows shows')
      (itemsAlike_of_shows rest distinct.2 more more')

/-- Parts that show the same members but for the order of members in them are alike. -/
theorem membersAlike_of_shows : ∀ {members others : List (TextLiteral × Spelling)},
    Spelling.MembersReordered members others → Spelling.MembersDistinctKeys members →
    ∀ {parts others' : List (Key × Document × Position)}, ShowsMembers parts members →
    ShowsMembers others' others → MembersAlike parts others'
  | _, _, .nil, _, _, _, .nil, .nil => .nil
  | _, _, .cons first rest, distinct, _, _, .cons named shows more, .cons named' shows' more' =>
    .cons (named.of_common named') (alike_of_shows first distinct.1 shows shows')
      (membersAlike_of_shows rest distinct.2 more more')

end

end Document

end Json

end ChatOptions
