import ChatOptions.Proofs.Json.Reader

/-! What a typed reader of JSON accepts is spelled well, so it can be passed over. -/

namespace ChatOptions

namespace Json

namespace Document

/-- An array can be passed over if its items can, and it is closed. -/
theorem skip_array {start stop : Position} {items : List (Document × Position)}
    (skipped : skipItems items = .ok ()) : (Document.array start items (.closed stop)).skip = .ok () := by
  rw [skip, skipped]

/-- An object can be passed over if its members can, and it is closed. -/
theorem skip_object {start stop : Position} {members : List (Key × Document × Position)}
    (skipped : skipMembers members = .ok ()) :
    (Document.object start members (.closed stop)).skip = .ok () := by
  rw [skip, skipped]

mutual

/-- A tree that has a content can be passed over. -/
theorem skip_of_content : ∀ {tree : Document} {depth : Nat} {held : Content},
    tree.content depth = .ok held → tree.skip = .ok ()
  | .leaf .., _, _, _ => rfl
  | .array start items ending, depth, held, read => by
    rw [content] at read
    obtain ⟨inner, _, read⟩ := bind_eq_ok.mp read
    obtain ⟨contents, each, closed⟩ := bind_eq_ok.mp read
    -- An array that breaks off has no content.
    cases ending with
    | closed stop => exact skip_array (skipItems_of_contents each)
    | broken breach leftOver => cases closed
  | .object start members ending, depth, held, read => by
    rw [content] at read
    obtain ⟨inner, _, read⟩ := bind_eq_ok.mp read
    obtain ⟨contents, each, closed⟩ := bind_eq_ok.mp read
    -- Nor has an object that breaks off.
    cases ending with
    | closed stop => exact skip_object (skipMembers_of_contents each)
    | broken breach => cases closed
  | .broken .., _, _, read => by cases read

/-- Items that have contents can be passed over. -/
theorem skipItems_of_contents : ∀ {items : List (Document × Position)} {depth : Nat}
    {held : List Content}, contentItems depth items = .ok held → skipItems items = .ok ()
  | [], _, _, _ => rfl
  | (item, left) :: rest, depth, held, read => by
    rw [contentItems] at read
    obtain ⟨first, here, read⟩ := bind_eq_ok.mp read
    obtain ⟨others, behind, _⟩ := bind_eq_ok.mp read
    rw [skipItems, skip_of_content here]
    exact skipItems_of_contents behind

/-- Members that have contents can be passed over. -/
theorem skipMembers_of_contents : ∀ {members : List (Key × Document × Position)} {depth : Nat}
    {held : List (Content × Content)}, contentMembers depth members = .ok held →
      skipMembers members = .ok ()
  | [], _, _, _ => rfl
  | (key, value, left) :: rest, depth, held, read => by
    rw [contentMembers] at read
    obtain ⟨name, _, read⟩ := bind_eq_ok.mp read
    obtain ⟨first, here, read⟩ := bind_eq_ok.mp read
    obtain ⟨others, behind, _⟩ := bind_eq_ok.mp read
    rw [skipMembers, skip_of_content here]
    exact skipMembers_of_contents behind

end

end Document

namespace Reader

/-- A reader that accepts only what can be passed over. -/
def Spelled {α : Type} (reader : Reader α) : Prop :=
  ∀ depth tree value, reader depth tree = .ok value → tree.skip = .ok ()

/-- A text can be passed over. -/
theorem spelled_string : Spelled string := by
  intro depth tree value read
  -- Only what has no parts is a text, and there is nothing in it to be spelled badly.
  cases tree with
  | leaf => rfl
  | _ => cases read

/-- A truth value can be passed over. -/
theorem spelled_boolean : Spelled boolean := by
  intro depth tree value read
  cases tree with
  | leaf => rfl
  | _ => cases read

/-- Content that is held back can be passed over. -/
theorem spelled_heldBack {α : Type} (reader : ContentReader α) : Spelled (heldBack reader) := by
  intro depth tree value read
  obtain ⟨held, content, _⟩ := bind_eq_ok.mp read
  exact Document.skip_of_content content

variable {α β : Type} {reader : Reader α}

/-- What is made of what is read can be passed over. -/
theorem Spelled.map (spelled : Spelled reader) (f : α → β) :
    Spelled (Format.map f reader : Reader β) := by
  intro depth tree value read
  obtain ⟨held, inner, _⟩ := map_eq_ok.mp read
  exact spelled depth tree held inner

/-- What may be absent can be passed over. -/
theorem Spelled.optional (spelled : Spelled reader) : Spelled (optional reader) := by
  intro depth tree value read
  -- Null has no parts, and any other tree is left to the reader of what may be absent.
  cases tree with
  | leaf => rfl
  | _ =>
    obtain ⟨held, inner, _⟩ := map_eq_ok.mp read
    exact spelled depth _ held inner

/-- Items that are read can be passed over. -/
theorem Spelled.items (spelled : Spelled reader) {depth : Nat} {held : List α}
    {parts : List (Document × Position)} (each : items (reader depth) parts = .ok held) :
    Document.skipItems parts = .ok () := by
  induction parts generalizing held with
  | nil => rfl
  | cons part rest ih =>
    obtain ⟨item, left⟩ := part
    rw [Reader.items] at each
    obtain ⟨first, here, each⟩ := bind_eq_ok.mp each
    obtain ⟨others, behind, _⟩ := bind_eq_ok.mp each
    simp only [Document.skipItems, spelled depth item first (mapError_eq_ok.mp here), ih behind]

/-- A list can be passed over. -/
theorem Spelled.list (spelled : Spelled reader) : Spelled (list reader) := by
  intro depth tree value read
  cases tree with
  | array start parts ending =>
    obtain ⟨inner, _, read⟩ := bind_eq_ok.mp read
    obtain ⟨held, each, closed⟩ := bind_eq_ok.mp read
    cases ending with
    | closed stop => exact Document.skip_array (spelled.items each)
    | broken breach leftOver => cases closed
  | _ => cases read

/-- Members that are read can be passed over. -/
theorem Spelled.entries (spelled : Spelled reader) {depth : Nat} {held : List (String × α)}
    {parts : List (Key × Document × Position)} (each : entries (reader depth) parts = .ok held) :
    Document.skipMembers parts = .ok () := by
  induction parts generalizing held with
  | nil => rfl
  | cons part rest ih =>
    obtain ⟨key, item, left⟩ := part
    rw [Reader.entries] at each
    obtain ⟨name, _, each⟩ := bind_eq_ok.mp each
    obtain ⟨first, here, each⟩ := bind_eq_ok.mp each
    obtain ⟨others, behind, _⟩ := bind_eq_ok.mp each
    simp only [Document.skipMembers, spelled depth item first (mapError_eq_ok.mp here), ih behind]

/-- An object that is read as its members can be passed over. -/
theorem Spelled.members (spelled : Spelled reader) : Spelled (members reader) := by
  intro depth tree value read
  cases tree with
  | object start parts ending =>
    obtain ⟨inner, _, read⟩ := bind_eq_ok.mp read
    obtain ⟨held, each, closed⟩ := bind_eq_ok.mp read
    cases ending with
    | closed stop => exact Document.skip_object (spelled.entries each)
    | broken breach => cases closed
  | _ => cases read

end Reader

end Json

end ChatOptions
