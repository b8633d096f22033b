import ChatOptions.Options.Wire
import ChatOptions.Proofs.Json.Content

/-! The typed readers of JSON read what is written for them. -/

namespace ChatOptions

open TreeFormat (Reads)

/-- A result that is no error is left alone where errors are replaced. -/
theorem mapError_ok {ε δ α : Type} (replace : ε → δ) (value : α) :
    (.ok value : Except ε α).mapError replace = .ok value := rfl

/-- An error is replaced. -/
theorem mapError_error {ε δ α : Type} (replace : ε → δ) (fault : ε) :
    (.error fault : Except ε α).mapError replace = .error (replace fault) := rfl

/-- Replacing errors makes no result of what was none. -/
theorem mapError_eq_ok {ε δ α : Type} {replace : ε → δ} {result : Except ε α} {value : α} :
    result.mapError replace = .ok value ↔ result = .ok value := by
  cases result with
  | ok held => rw [mapError_ok, Except.ok.injEq, Except.ok.injEq]
  | error fault => constructor <;> exact nofun

/-- What is made of a result is made of one that is no error. -/
theorem map_eq_ok {ε α β : Type} {f : α → β} {result : Except ε α} {value : β} :
    result.map f = .ok value ↔ ∃ held, result = .ok held ∧ f held = value := by
  cases result <;> simp [Except.map]

/-- Two steps succeed where the first does, and the second does with what the first has made. -/
theorem bind_eq_ok {ε α β : Type} {first : Except ε α} {next : α → Except ε β} {value : β} :
    first >>= next = .ok value ↔ ∃ held, first = .ok held ∧ next held = .ok value := by
  cases first <;> simp [bind, Except.bind]

namespace Json

namespace Reader

/-- A reader reads a tree where it makes the value of every document that spells the tree, if the tree nests no deeper than it may. -/
instance : TreeFormat Reader where
  Reads reader tree value :=
    ∀ (depth : Nat) (whole : Document), Spells whole tree → tree.depth < depth →
      reader depth whole = .ok value

/-- Content held back is read where the reader of the content reads it. -/
theorem reads_heldBack {α : Type} {reader : ContentReader α} {tree : Json} {value : α}
    (read : Reads reader tree value) : Reads (heldBack reader) tree value := by
  -- The content of the document is that of the tree, and the reader sees nothing else.
  intro depth whole spells shallow
  have held : reader tree.content = .ok value := read
  simp only [heldBack, Document.content_of_spells tree spells shallow, bind, Except.bind, held]
  rfl

/-- What a reader makes of a document other than null is left to it by the reader of what may be absent. -/
theorem optional_spells {α : Type} (reader : Reader α) {depth : Nat} {whole : Document}
    {tree : Json} (spells : Spells whole tree) (present : tree ≠ .null) :
    optional reader depth whole = (reader depth whole).map some := by
  -- A document other than null spells a tree other than null.
  cases spells with
  | null => exact absurd rfl present
  | _ => rfl

/-- Members that fill the fields of a record are read by name. -/
theorem named_filled {σ : Type} {record : Record Reader σ}
    (distinct : (record.fields.map (·.name)).Nodup) {fields : List (Field Reader σ)}
    {members : List (String × Json)} {state final : σ} (filled : Filled fields members state final)
    {depth : Nat} {stop : Position} (shallow : memberDepth members < depth) :
    ∀ {before : List (Field Reader σ)} {seen : List String}
      {parts : List (Key × Document × Position)}, record.ReadTo before fields seen →
      SpellsMembers parts members →
      named record depth (.closed stop) parts seen state = .ok final := by
  -- The induction follows the fields; what is fixed is which of them have been read.
  induction filled with
  | nil =>
    intro before seen parts readTo spells
    cases spells
    rw [named, readTo.finish]
    rfl
  | @given field fields tree members update state final read rest ih =>
    intro before seen parts readTo spells
    rw [memberDepth] at shallow
    cases spells with
    | cons named first others =>
      -- The name finds this very field, which has not been seen before.
      have updated := read _ _ first (Nat.lt_of_le_of_lt (Nat.le_max_left ..) shallow)
      simp only [Reader.named, named, bind, Except.bind, readTo.find distinct, mapError_ok,
        readTo.once distinct, updated, settle]
      exact ih (Nat.lt_of_le_of_lt (Nat.le_max_right ..) shallow) readTo.given others
  | absent spared rest ih =>
    intro before seen parts readTo spells
    exact ih shallow (readTo.absent spared) spells

instance : LawfulFormat Reader where
  map {α β f reader tree value} reads := by
    intro depth whole spells shallow
    show (reader depth whole).map f = .ok (f value)
    rw [reads _ _ spells shallow]
    rfl
  string text := by
    intro depth whole spells _
    cases spells
    rfl
  boolean value := by
    intro depth whole spells _
    cases spells
    rfl
  value value := reads_heldBack (LawfulFormat.value value)
  optional_null reader := by
    intro depth whole spells _
    cases spells
    rfl
  optional_some {α reader tree value} present reads := by
    intro depth whole spells shallow
    show optional reader depth whole = .ok (some value)
    rw [optional_spells reader spells present, reads _ _ spells shallow]
    rfl
  choice {α choices name value} found := by
    intro depth whole spells _
    cases spells
    show (chosen choices name _ : Except Fault α) = .ok value
    rw [chosen, ContentReader.chosen, found]
    rfl
  record {σ record members final} distinct filled := by
    intro depth whole spells shallow
    cases spells with
    | object each =>
      rw [Json.depth] at shallow
      have inner : memberDepth members < depth - 1 := by omega
      show Reader.record record depth _ = .ok final
      simp only [Reader.record, Document.enter_of_lt _ shallow, bind, Except.bind]
      exact named_filled distinct filled inner (Record.ReadTo.start record) each

/-- A finite double is read. -/
theorem reads_float (value : Float) (finite : value.isFinite = true) :
    Reads float (.number (.float value finite)) value := by
  intro depth whole spells _
  cases spells
  rfl

/-- A whole number below a bound is read. -/
theorem reads_natural {bound value : Nat} {expected : String} (below : value < bound)
    (inRange : -9223372036854775808 ≤ (value : Int) ∧ (value : Int) < 18446744073709551616) :
    Reads (natural bound expected) (.number (.integer value inRange)) value := by
  intro depth whole spells _
  cases spells
  -- The number is not negative, so both bounds of the reader hold.
  have fits : 0 ≤ (value : Int) ∧ (value : Int).toNat < bound := ⟨Int.natCast_nonneg value, below⟩
  simp only [natural, if_pos fits]
  rfl

/-- Items that are read one by one are read. -/
theorem items_of_spells {α : Type} {reader : Reader α} {form : α → Json} {depth : Nat} :
    (values : List α) → (∀ value ∈ values, Reads reader (form value) value) →
      {parts : List (Document × Position)} → SpellsItems parts (values.map form) →
      itemDepth (values.map form) < depth → items (reader depth) parts = .ok values
  | [], _, _, spells, _ => by
    cases spells
    rfl
  | value :: values, reads, _, spells, shallow => by
    rw [List.map_cons, itemDepth] at shallow
    cases spells with
    | cons first rest =>
      -- The first document spells the first value, and the others follow by recursion.
      have head := reads value List.mem_cons_self _ _ first
        (Nat.lt_of_le_of_lt (Nat.le_max_left ..) shallow)
      have tail := items_of_spells values
        (fun other found => reads other (List.mem_cons_of_mem _ found)) rest
        (Nat.lt_of_le_of_lt (Nat.le_max_right ..) shallow)
      simp only [items, head, settle, mapError_ok, bind, Except.bind, tail]
      rfl

/-- A list is read where its items are. -/
theorem reads_list {α : Type} {reader : Reader α} {form : α → Json} {values : List α}
    (reads : ∀ value ∈ values, Reads reader (form value) value) :
    Reads (list reader) (.ofList form values) values := by
  intro depth whole spells shallow
  rw [ofList] at spells shallow
  cases spells with
  | array each =>
    rw [Json.depth] at shallow
    -- The items stand one level deeper than the list.
    have inner : itemDepth (values.map form) < depth - 1 := by omega
    simp only [list, Document.enter_of_lt _ shallow, bind, Except.bind,
      items_of_spells values reads each inner]
    rfl

/-- Members that are read one by one are read. -/
theorem entries_of_spells {α : Type} {reader : Reader α} {form : α → Json} {depth : Nat} :
    (held : List (String × α)) → (∀ entry ∈ held, Reads reader (form entry.2) entry.2) →
      {parts : List (Key × Document × Position)} →
      SpellsMembers parts (held.map fun entry => (entry.1, form entry.2)) →
      memberDepth (held.map fun entry => (entry.1, form entry.2)) < depth →
      entries (reader depth) parts = .ok held
  | [], _, _, spells, _ => by
    cases spells
    rfl
  | (name, value) :: held, reads, _, spells, shallow => by
    rw [List.map_cons, memberDepth] at shallow
    cases spells with
    | cons named first rest =>
      -- The first member spells the first entry, and the others follow by recursion.
      have head := reads (name, value) List.mem_cons_self _ _ first
        (Nat.lt_of_le_of_lt (Nat.le_max_left ..) shallow)
      have tail := entries_of_spells held
        (fun other found => reads other (List.mem_cons_of_mem _ found)) rest
        (Nat.lt_of_le_of_lt (Nat.le_max_right ..) shallow)
      simp only [entries, named, head, settle, mapError_ok, bind, Except.bind, tail]
      rfl

/-- An object is read as its members where what they hold is read. -/
theorem reads_members {α : Type} {reader : Reader α} {form : α → Json}
    {held : List (String × α)} (reads : ∀ entry ∈ held, Reads reader (form entry.2) entry.2) :
    Reads (members reader) (.object (held.map fun entry => (entry.1, form entry.2))) held := by
  intro depth whole spells shallow
  cases spells with
  | object each =>
    rw [Json.depth] at shallow
    -- What the members hold stands one level deeper than the object.
    have inner : memberDepth (held.map fun entry => (entry.1, form entry.2)) < depth - 1 := by
      omega
    simp only [members, Document.enter_of_lt _ shallow, bind, Except.bind,
      entries_of_spells held reads each inner]
    rfl

/-- Once a choice is made, the members behind it are held back. -/
theorem taggedMembers_of_spells {α : Type} (shape : Tagged α) (chosen : α) (stop : Position)
    {depth : Nat} : (members : List (String × Json)) →
      (∀ member ∈ members, member.1 ≠ shape.tag) → (others : List (Content × Content)) →
      {parts : List (Key × Document × Position)} → SpellsMembers parts members →
      memberDepth members < depth →
      taggedMembers shape depth (.closed stop) parts (some chosen) others
        = .ok (chosen, .map (others.reverse ++ memberContents members))
  | [], _, others, _, spells, _ => by
    cases spells
    rw [taggedMembers, memberContents, List.append_nil]
  | (name, value) :: members, untagged, others, _, spells, shallow => by
    rw [memberDepth] at shallow
    cases spells with
    | cons named first rest =>
      -- The member is not the tag again, so it goes to the others, which are kept in reverse.
      have other : name ≠ shape.tag := untagged (name, value) List.mem_cons_self
      have head := Document.content_of_spells value first
        (Nat.lt_of_le_of_lt (Nat.le_max_left ..) shallow)
      have tail := taggedMembers_of_spells shape chosen stop members
        (fun member found => untagged member (List.mem_cons_of_mem _ found))
        ((.string name, value.content) :: others) rest
        (Nat.lt_of_le_of_lt (Nat.le_max_right ..) shallow)
      simp only [taggedMembers, named, bind, Except.bind, if_neg other, head, settle,
        mapError_ok, tail, memberContents]
      simp

/-- A choice is read by its tag, if that comes first and what is behind it is read once the choice is known. -/
theorem reads_tagged {α β : Type} (shape : Tagged α) (further : α → ContentReader β)
    {name : String} {chosen : α} {members : List (String × Json)} {value : β}
    (found : shape.choices.find? (·.1 == name) = some (name, chosen))
    (untagged : ∀ member ∈ members, member.1 ≠ shape.tag)
    (read : Reads (further chosen) (.object members) value) :
    Reads (tagged shape further) (.object ((shape.tag, .string name) :: members)) value := by
  intro depth whole spells shallow
  cases spells with
  | object each =>
    rw [Json.depth, memberDepth] at shallow
    have inner : memberDepth members < depth - 1 := by omega
    have entered : 1 + memberDepth members < depth := by omega
    -- The first member is the tag and makes the choice; all members behind it are held back.
    cases each with
    | cons named first rest =>
      cases first
      have held : further chosen (.map (memberContents members)) = .ok value := read
      have behind := fun stop =>
        taggedMembers_of_spells shape chosen stop members untagged [] rest inner
      simp only [tagged, taggedContent, Document.enter_of_lt _ entered, bind, Except.bind,
        taggedMembers, named, if_pos, Option.isSome_none, Bool.false_eq_true, if_false, tag,
        Reader.chosen, ContentReader.chosen, found, mapError_ok, behind,
        List.reverse_nil, List.nil_append, held]

/-- A text is read as what the reader makes of its tree, if nothing is left over. -/
theorem read_eq_ok {α : Type} {reader : Reader α} {text : String} {value : α} :
    read reader text = .ok value ↔
      reader depthLimit (document text.toList).1 = .ok value ∧ (document text.toList).2 = none := by
  obtain ⟨⟨tree, leftOver⟩, whole⟩ : ∃ whole, document text.toList = whole := ⟨_, rfl⟩
  rw [read, whole]
  -- What is left over is looked at only once the tree is read.
  dsimp only
  cases leftOver <;> cases reader depthLimit tree <;>
    simp [bind, Except.bind, pure, Except.pure, throw, throwThe, MonadExceptOf.throw]

/-- What is made of a value that is read from a text is read from that text. -/
theorem read_map_eq_ok {α β : Type} {f : α → β} {reader : Reader α} {text : String} {value : β} :
    read (Format.map f reader : Reader β) text = .ok value ↔
      ∃ held, read reader text = .ok held ∧ f held = value := by
  rw [read_eq_ok]
  constructor
  · rintro ⟨made, complete⟩
    obtain ⟨held, inner, rfl⟩ := map_eq_ok.mp made
    exact ⟨held, read_eq_ok.mpr ⟨inner, complete⟩, rfl⟩
  · rintro ⟨held, inner, rfl⟩
    obtain ⟨inner, complete⟩ := read_eq_ok.mp inner
    exact ⟨map_eq_ok.mpr ⟨held, inner, rfl⟩, complete⟩

/-- A text that is an object is read as a record by reading its members by name. -/
theorem read_record_eq_ok {σ : Type} (shape : Record Reader σ) {start : Position}
    {members : List (Key × Document × Position)} {ending : ObjectEnd} {text : String}
    (tree : (document text.toList).1 = .object start members ending) {state : σ} :
    read (record shape) text = .ok state ↔
      (∃ inner, Document.enter depthLimit start = .ok inner ∧
        named shape inner ending members [] shape.blank = .ok state) ∧
      (document text.toList).2 = none := by
  rw [read_eq_ok, tree]
  exact and_congr_left' bind_eq_ok

/-- A text that is written for a tree is read as what a reader makes of the tree. -/
theorem read_render {α : Type} {reader : Reader α} {tree : Json} {value : α}
    (reads : Reads reader tree value) (floats : tree.FloatsReadBack)
    (shallow : tree.depth < depthLimit) : read reader tree.render = .ok value := by
  -- The text is parsed into a document that spells the tree, and nothing is left behind it.
  obtain ⟨whole, spells, assembled⟩ := document_text floats
  have parsed : document tree.render.toList = (whole, none) := by
    rw [render, String.toList_ofList, assembled]
  rw [read_eq_ok, parsed]
  exact ⟨reads _ _ spells shallow, rfl⟩

end Reader

end Json

end ChatOptions
