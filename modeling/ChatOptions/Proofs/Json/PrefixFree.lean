import ChatOptions.Proofs.Json.Agreement
import ChatOptions.Proofs.Json.Digest

/-! Hash writes of JSON without objects: they show where they end, so they tell apart whatever is not equal. -/

namespace ChatOptions

/-- Whether the writes of parts of a kind show where they end: equal writes with anything behind them come from equal parts with the same behind them. -/
def PrefixFree {α : Type} [BEq α] (kind : α → Prop) (writes : α → List HashWrite) : Prop :=
  ∀ ⦃first second : α⦄, kind first → kind second → ∀ ⦃rest others : List HashWrite⦄,
    writes first ++ rest = writes second ++ others → (first == second) = true ∧ rest = others

namespace PrefixFree

variable {α : Type} [BEq α] {kind : α → Prop} {writes : α → List HashWrite}

/-- Parts that make the same writes are equal. -/
theorem beq_of_eq (free : PrefixFree kind writes) {first second : α} (ofKind : kind first)
    (alsoOfKind : kind second) (same : writes first = writes second) : (first == second) = true :=
  (free ofKind alsoOfKind (congrArg (· ++ []) same)).1

/-- No writes begin with those of a part, except those of a part with the same writes. -/
theorem eq_of_begins (free : PrefixFree kind writes) {first second : α} (ofKind : kind first)
    (alsoOfKind : kind second) (begins : writes first <+: writes second) :
    writes first = writes second := by
  obtain ⟨rest, same⟩ := begins
  -- Nothing stands behind the longer writes, so nothing is left of them behind the shorter.
  have nothing : rest = [] := (free ofKind alsoOfKind (same.trans (List.append_nil _).symm)).2
  rw [← same, nothing, List.append_nil]

/-- Lists of parts that make the same writes one after the other are equal part by part, if no part makes none. -/
theorem beq_of_flatMap (free : PrefixFree kind writes) (written : ∀ part, writes part ≠ [])
    {firsts seconds : List α} (ofKind : ∀ part ∈ firsts, kind part)
    (alsoOfKind : ∀ part ∈ seconds, kind part)
    (same : firsts.flatMap writes = seconds.flatMap writes) :
    (firsts == seconds) = true := by
  -- The first parts of both lists end in the same place, and what is left comes from the others.
  induction firsts generalizing seconds with
  | nil =>
    cases seconds with
    | nil => rfl
    | cons second others =>
      -- The second list would make a write, and the first makes none.
      rw [List.flatMap_nil, List.flatMap_cons] at same
      exact absurd (List.append_eq_nil_iff.mp same.symm).1 (written second)
  | cons first rest ih =>
    cases seconds with
    | nil =>
      rw [List.flatMap_nil, List.flatMap_cons] at same
      exact absurd (List.append_eq_nil_iff.mp same).1 (written first)
    | cons second others =>
      rw [List.flatMap_cons, List.flatMap_cons] at same
      obtain ⟨heads, left⟩ := free (ofKind first List.mem_cons_self)
        (alsoOfKind second List.mem_cons_self) same
      have tails := ih (fun part listed => ofKind part (List.mem_cons_of_mem _ listed))
        (fun part listed => alsoOfKind part (List.mem_cons_of_mem _ listed)) left
      exact (Bool.and_eq_true ..).mpr ⟨heads, tails⟩

end PrefixFree

/-- The two truth values are written differently. -/
theorem HashWrite.bool_inj {first second : Bool} (same : bool first = bool second) :
    first = second := by
  revert same
  cases first <;> cases second <;> decide

/-- Words tell apart all numbers that a word can hold. -/
theorem HashWrite.word_ofNat_inj {first second : Nat} (held : first < UInt64.size)
    (alsoHeld : second < UInt64.size)
    (same : word (UInt64.ofNat first) = word (UInt64.ofNat second)) : first = second := by
  have words : (UInt64.ofNat first).toNat = (UInt64.ofNat second).toNat :=
    congrArg UInt64.toNat (word.inj same)
  rwa [UInt64.toNat_ofNat_of_lt' held, UInt64.toNat_ofNat_of_lt' alsoHeld] at words

namespace Number

/-- A number makes two writes, one for its kind and one for its value. -/
theorem length_writes : ∀ value : Number, value.writes.length = 2
  | .integer _ _ => by
    rw [writes]
    split <;> rfl
  | .float _ _ => rfl

/-- Whole numbers are told apart by their writes: by the first where they differ in sign, and else by the second. -/
theorem integer_eq_of_writes {first second : Int}
    {inRange : -9223372036854775808 ≤ first ∧ first < 18446744073709551616}
    {alsoInRange : -9223372036854775808 ≤ second ∧ second < 18446744073709551616}
    (same : (integer first inRange).writes = (integer second alsoInRange).writes) :
    first = second := by
  have size : UInt64.size = 18446744073709551616 := rfl
  simp only [writes] at same
  -- Numbers of different signs differ in the kind that is written first.
  split at same
  · split at same
    · obtain ⟨_, values⟩ := List.cons.inj same
      have alike := HashWrite.word_ofNat_inj (by omega) (by omega) (List.cons.inj values).1
      omega
    · cases same
  · split at same
    · cases same
    · obtain ⟨_, values⟩ := List.cons.inj same
      -- A negative number is written as what it lacks to the size of a word.
      have alike := HashWrite.word_ofNat_inj (by omega) (by omega) (List.cons.inj values).1
      omega

/-- Numbers that make the same writes say the same. -/
theorem same_of_writes : ∀ {first second : Number}, first.writes = second.writes → first.Same second
  | .integer value inRange, .integer other alsoInRange, same => by
    cases integer_eq_of_writes same
    exact .integer
  -- The kind that is written of a double is that of no whole number.
  | .integer value inRange, .float other finite, same => by
    rw [writes] at same
    split at same <;> cases same
  | .float value finite, .integer other inRange, same => by
    rw [eq_comm, writes] at same
    split at same <;> cases same
  | .float value finite, .float other alsoFinite, same => by
    simp only [writes] at same
    have written := Float.toBits_inj.mp (HashWrite.word.inj (List.cons.inj (List.cons.inj same).2).1)
    -- A zero is written as the positive one, and every other double as it is.
    split at written
    · rename_i zero
      split at written
      · rename_i alsoZero
        exact .zeros (Double.zero_cases zero) (Double.zero_cases alsoZero)
      · rename_i nonzero
        -- What is written as zero would be one.
        exact absurd (by rw [← written]; decide) nonzero
    · rename_i nonzero
      split at written
      · exact absurd (by rw [written]; decide) nonzero
      · cases written
        exact .float

/-- The writes of numbers show where they end. -/
theorem prefixFree : PrefixFree (fun _ => True) Number.writes := by
  intro first second _ _ rest others same
  obtain ⟨writes, behind⟩ := List.append_inj same (by rw [length_writes, length_writes])
  exact ⟨beq_iff_same.mpr (same_of_writes writes), behind⟩

end Number

namespace Json

/-- Whether a tree occurs in another: it is that tree, or occurs in one of its items or members. -/
inductive Occurs : Json → Json → Prop
  | here {tree : Json} : Occurs tree tree
  | item {part item : Json} {items : List Json} (listed : item ∈ items) (inside : Occurs part item) :
    Occurs part (.array items)
  | member {part value : Json} {key : String} {members : List (String × Json)}
    (listed : (key, value) ∈ members) (inside : Occurs part value) : Occurs part (.object members)

/--
Trees in which no object occurs.

A machine word counts the items of every array, as it does for all arrays that a memory can hold: of a longer one the length that is written would say too little.
-/
structure Plain (tree : Json) : Prop where
  objectFree : ∀ members, ¬ Occurs (.object members) tree
  countable : ∀ items, Occurs (.array items) tree → items.length < UInt64.size

/-- An array is plain if it can be counted and all its items are plain. -/
theorem plain_array_iff {items : List Json} :
    Plain (.array items) ↔ items.length < UInt64.size ∧ ∀ item ∈ items, item.Plain := by
  constructor
  · intro plain
    exact ⟨plain.countable items .here, fun item listed =>
      ⟨fun members inside => plain.objectFree members (.item listed inside),
        fun parts inside => plain.countable parts (.item listed inside)⟩⟩
  · rintro ⟨counted, each⟩
    -- What occurs in an array is the array itself, or occurs in an item.
    refine ⟨fun members inside => ?_, fun parts inside => ?_⟩
    · cases inside with
      | item listed inside => exact (each _ listed).objectFree members inside
    · cases inside with
      | here => exact counted
      | item listed inside => exact (each _ listed).countable parts inside

mutual

/-- The writes of plain trees show where they end. -/
theorem writes_append_inj (hash : HashFunction) : ∀ {first second : Json}, first.Plain →
    second.Plain → ∀ {rest others : List HashWrite},
      first.writes hash ++ rest = second.writes hash ++ others →
        first.beq second = true ∧ rest = others
  -- Trees of different kinds differ in the first write.
  | .null, second, _, _, _, _, same => by
    cases second with
    | null => exact ⟨rfl, (List.cons.inj same).2⟩
    | _ => simp [writes] at same
  | .bool value, second, _, _, _, _, same => by
    cases second with
    | bool other =>
      obtain ⟨values, behind⟩ := List.cons.inj (List.cons.inj same).2
      exact ⟨beq_iff_eq.mpr (HashWrite.bool_inj values), behind⟩
    | _ => simp [writes] at same
  | .number value, second, _, _, _, _, same => by
    cases second with
    | number other => exact Number.prefixFree trivial trivial (List.cons.inj same).2
    | _ => simp [writes] at same
  | .string value, second, _, _, _, _, same => by
    cases second with
    | string other =>
      obtain ⟨texts, behind⟩ := List.cons.inj (List.cons.inj same).2
      cases texts
      exact ⟨beq_self_eq_true value, behind⟩
    | _ => simp [writes] at same
  | .array items, second, plain, alsoPlain, _, _, same => by
    cases second with
    | array others =>
      obtain ⟨counted, each⟩ := plain_array_iff.mp plain
      obtain ⟨alsoCounted, alsoEach⟩ := plain_array_iff.mp alsoPlain
      obtain ⟨lengths, behind⟩ := List.cons.inj (List.cons.inj same).2
      -- The lengths that are written are those of the arrays, so it is known how many items follow.
      have equallyLong := HashWrite.word_ofNat_inj counted alsoCounted lengths
      exact writesItems_append_inj hash each alsoEach equallyLong behind
    | _ => simp [writes] at same
  | .object members, _, plain, _, _, _, _ => absurd .here (plain.objectFree members)

/-- The writes of plain trees one after the other show where they end, if it is known how many they are. -/
theorem writesItems_append_inj (hash : HashFunction) : ∀ {items others : List Json},
    (∀ item ∈ items, item.Plain) → (∀ item ∈ others, item.Plain) → items.length = others.length →
      ∀ {rest behind : List HashWrite},
        writesItems hash items ++ rest = writesItems hash others ++ behind →
          beqItems items others = true ∧ rest = behind
  | [], [], _, _, _, _, _, same => ⟨rfl, same⟩
  | item :: items, other :: others, plain, alsoPlain, lengths, _, _, same => by
    rw [writesItems, writesItems, List.append_assoc, List.append_assoc] at same
    -- The first two trees end in the same place, and all others stand behind it.
    obtain ⟨heads, left⟩ := writes_append_inj hash (plain item List.mem_cons_self)
      (alsoPlain other List.mem_cons_self) same
    obtain ⟨tails, behind⟩ := writesItems_append_inj hash
      (fun item listed => plain item (List.mem_cons_of_mem _ listed))
      (fun other listed => alsoPlain other (List.mem_cons_of_mem _ listed))
      (Nat.succ.inj lengths) left
    exact ⟨(Bool.and_eq_true ..).mpr ⟨heads, tails⟩, behind⟩

end

/-- Every tree makes a write. -/
theorem writes_ne_nil (hash : HashFunction) (tree : Json) : tree.writes hash ≠ [] := by
  cases tree <;> exact List.cons_ne_nil _ _

end Json

namespace Value

/-- The writes of values without objects show where they end. -/
theorem prefixFree (hash : HashFunction) : PrefixFree (·.tree.Plain) (Value.writes hash) :=
  fun _ _ plain alsoPlain _ _ same => Json.writes_append_inj hash plain alsoPlain same

/--
The writes of values in which no object occurs characterise them.

Two such values make the same writes exactly if they are equal, and the writes of one never begin those of another.
So lists of such values, written one after the other, make the same writes exactly if they are equal value by value.
-/
theorem writes_characterise (hash : HashFunction) :
    (∀ first second : Value, first.tree.Plain → second.tree.Plain →
      (first.writes hash = second.writes hash ↔ (first == second) = true)
      ∧ (first.writes hash <+: second.writes hash → first.writes hash = second.writes hash))
    ∧ ∀ firsts seconds : List Value, (∀ value ∈ firsts, value.tree.Plain) →
      (∀ value ∈ seconds, value.tree.Plain) →
        (firsts.flatMap (writes hash) = seconds.flatMap (writes hash)
          ↔ (firsts == seconds) = true) := by
  refine ⟨fun first second plain alsoPlain => ⟨⟨?_, ?_⟩, ?_⟩,
    fun firsts seconds plain alsoPlain => ⟨?_, ?_⟩⟩
  · exact (prefixFree hash).beq_of_eq plain alsoPlain
  · exact fun equal => equalWrites hash equal
  · exact (prefixFree hash).eq_of_begins plain alsoPlain
  · exact (prefixFree hash).beq_of_flatMap (fun value => value.tree.writes_ne_nil hash) plain
      alsoPlain
  · exact fun equal => ((equalWrites hash).flatMap equal).2

/-- Two lists that differ in the sign of a zero make the same writes, while a number and its text, or a number inside an array and behind it, do not. -/
theorem writes_characterise_example :
    let hash : HashFunction := fun writes => UInt64.ofNat writes.length
    let one : Json := .number (.integer 1 (by decide))
    let signed (zero : Number) : Value := .ofJson (.array [.array [one], .number zero])
    let inside : Value := .ofJson (.array [.array [one, one]])
    let behind : Value := .ofJson (.array [.array [one], one])
    let number : Value := .ofJson one
    let text : Value := .ofJson (.string "1")
    let firsts := [signed (.float 0.0 rfl), text]
    let seconds := [signed (.float (-0.0) rfl), text]
    (∀ value ∈ firsts ++ seconds ++ [inside, behind, number], value.tree.Plain)
    ∧ firsts.flatMap (writes hash) = seconds.flatMap (writes hash)
    ∧ inside.writes hash ≠ behind.writes hash ∧ number.writes hash ≠ text.writes hash := by
  intro hash one signed inside behind number text firsts seconds
  have numbers (value : Number) : (Json.number value).Plain := ⟨nofun, nofun⟩
  have texts (value : String) : (Json.string value).Plain := ⟨nofun, nofun⟩
  have plain : ∀ value ∈ firsts ++ seconds ++ [inside, behind, number], value.tree.Plain := by
    simp [firsts, seconds, signed, inside, behind, number, text, one, ofJson, Json.sorted,
      Json.sortedItems, Json.plain_array_iff, numbers, texts, UInt64.size]
  obtain ⟨pairs, lists⟩ := writes_characterise hash
  refine ⟨plain, (lists firsts seconds ?_ ?_).mpr (by decide +kernel), fun same => ?_, fun same => ?_⟩
  · exact fun value listed => plain value (by simp [listed])
  · exact fun value listed => plain value (by simp [listed])
  · have equal := (pairs inside behind (plain _ (by simp)) (plain _ (by simp))).1.mp same
    exact absurd equal (by decide +kernel)
  · have equal := (pairs number text (plain _ (by simp)) (plain _ (by simp [firsts]))).1.mp same
    exact absurd equal (by decide +kernel)

end Value

end ChatOptions
