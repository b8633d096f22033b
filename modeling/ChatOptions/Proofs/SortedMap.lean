import ChatOptions.SortedMap

/-! Laws of the maps with text keys: what insertion does to look-ups, and that look-ups tell two maps apart. -/

namespace ChatOptions

universe u v

/-- After an insertion the inserted key has the new value, and every other key has what it had. -/
theorem findEntry?_insertEntry {α : Type u} (key other : String) (value : α)
    (entries : List (String × α)) :
    findEntry? other (insertEntry key value entries)
      = if other = key then some value else findEntry? other entries := by
  -- The cases are those of the insertion: before the first entry, in its place, or behind it.
  induction entries with
  | nil => simp [insertEntry, findEntry?]
  | cons entry rest ih =>
    obtain ⟨first, held⟩ := entry
    by_cases before : key < first
    · simp [insertEntry, before, findEntry?]
    · by_cases same : key = first
      · subst same
        by_cases wanted : other = key <;> simp [insertEntry, findEntry?, wanted]
      · by_cases wanted : other = first
        · simp [insertEntry, before, same, findEntry?, wanted, Ne.symm same]
        · simp [insertEntry, before, same, findEntry?, wanted, ih]

/-- Every entry behind the first of ascending ones has a larger key. -/
theorem Ascending.head_lt {α : Type u} {first entry : String × α} {rest : List (String × α)}
    (ordered : Ascending (first :: rest)) (found : entry ∈ rest) : first.1 < entry.1 :=
  (List.pairwise_cons.mp ordered).1 entry found

/-- The entries behind the first of ascending ones are ascending. -/
theorem Ascending.tail {α : Type u} {first : String × α} {rest : List (String × α)}
    (ordered : Ascending (first :: rest)) : Ascending rest :=
  (List.pairwise_cons.mp ordered).2

/-- In ascending entries a look-up finds exactly the entries that are listed. -/
theorem Ascending.findEntry?_eq_some {α : Type u} {key : String} {value : α}
    {entries : List (String × α)} (ordered : Ascending entries) :
    findEntry? key entries = some value ↔ (key, value) ∈ entries := by
  induction entries with
  | nil => simp [ findEntry?]
  | cons entry rest ih =>
    obtain ⟨first, held⟩ := entry
    have later := ih ordered.tail
    by_cases same : key = first
    · subst same
      -- No entry behind the first has its key again.
      have absent : (key, value) ∉ rest := fun found =>
        String.lt_irrefl key (ordered.head_lt found)
      simp [absent, eq_comm, findEntry?]
    · simp [same, later, findEntry?]

/-- Ascending entries hold no entry twice. -/
theorem Ascending.nodup {α : Type u} {entries : List (String × α)} (ordered : Ascending entries) :
    entries.Nodup := by
  -- Of two entries in ascending order the keys differ.
  refine List.Pairwise.imp (fun before same => ?_) ordered
  subst same
  exact String.lt_irrefl _ before

/-- Ascending entries are determined by what is found in them. -/
theorem Ascending.ext {α : Type u} {first second : List (String × α)}
    (firstOrdered : Ascending first) (secondOrdered : Ascending second)
    (agree : ∀ key, findEntry? key first = findEntry? key second) : first = second := by
  -- The same entries are found, hence listed, and only one order of them is ascending.
  have members : ∀ entry, entry ∈ first ↔ entry ∈ second := by
    rintro ⟨key, value⟩
    rw [← firstOrdered.findEntry?_eq_some, ← secondOrdered.findEntry?_eq_some, agree]
  have shuffled : first.Perm second :=
    (List.perm_ext_iff_of_nodup firstOrdered.nodup secondOrdered.nodup).mpr members
  refine shuffled.eq_of_pairwise (fun entry other _ _ before after => ?_) firstOrdered secondOrdered
  exact absurd after (String.lt_asymm before)

/-- No key found in ascending entries is less than the first. -/
theorem Ascending.head_le {α : Type u} {first key : String} {value : α}
    {rest : List (String × α)} (ordered : Ascending ((first, value) :: rest))
    (found : ( findEntry? key ((first, value) :: rest)).isSome = true) : first ≤ key := by
  obtain ⟨held, listed⟩ := Option.isSome_iff_exists.mp found
  rcases List.mem_cons.mp (ordered.findEntry?_eq_some.mp listed) with same | later
  · cases same
    exact String.le_refl _
  · exact String.not_lt.mp (String.lt_asymm (ordered.head_lt later))

/-- Behind the first of ascending entries its key is not found, and every other key as before. -/
theorem Ascending.findEntry?_tail {α : Type u} {first : String} {value : α}
    {rest : List (String × α)} (ordered : Ascending ((first, value) :: rest)) (key : String) :
    findEntry? key rest = if key = first then none else findEntry? key ((first, value) :: rest) := by
  split
  · rename_i same
    subst same
    -- An entry with the key again would not be behind the first.
    refine Option.eq_none_iff_forall_ne_some.mpr fun held found => ?_
    exact String.lt_irrefl key (ordered.head_lt (ordered.tail.findEntry?_eq_some.mp found))
  · rename_i different
    rw [ findEntry?, if_neg different]

/-- What two optional parts have in common: both are absent, or both are there and related. -/
theorem optionRel_iff {α : Type u} {related : α → α → Prop} {first second : Option α} :
    Option.Rel related first second ↔
      first.isSome = second.isSome ∧
        ∀ held other, first = some held → second = some other → related held other := by
  cases first <;> cases second
  · exact ⟨fun _ => ⟨rfl, nofun⟩, fun _ => .none⟩
  · exact ⟨nofun, fun both => absurd both.1 Bool.noConfusion⟩
  · exact ⟨nofun, fun both => absurd both.1 Bool.noConfusion⟩
  · constructor
    · rintro ⟨same⟩
      refine ⟨rfl, ?_⟩
      rintro _ _ ⟨⟩ ⟨⟩
      exact same
    · exact fun both => .some (both.2 _ _ rfl rfl)

/-- Parts that may be absent are related by what they become exactly if what they become is related. -/
theorem optionRel_map_iff {α : Type u} {β : Type v} {related : β → β → Prop} {form : α → β}
    {first second : Option α} :
    Option.Rel related (first.map form) (second.map form) ↔
      Option.Rel (fun part other => related (form part) (form other)) first second := by
  rw [optionRel_iff, optionRel_iff]
  cases first <;> cases second <;> simp

/-- Parts that may be absent are equal one by one exactly if they are equal. -/
theorem optionRel_eq_iff {α : Type u} {first second : Option α} :
    Option.Rel Eq first second ↔ first = second := by
  rw [optionRel_iff]
  cases first <;> cases second <;> simp

/-- Entries that are equal one by one hold equal values under each key, or none. -/
theorem findEntry?_rel_of_beq {α : Type u} [BEq α] {first second : List (String × α)}
    (equal : (first == second) = true) (key : String) :
    Option.Rel (fun held other => (held == other) = true) ( findEntry? key first)
      ( findEntry? key second) := by
  induction first generalizing second with
  | nil =>
    cases second with
    | nil => exact .none
    | cons => cases equal
  | cons entry rest ih =>
    cases second with
    | nil => cases equal
    | cons other more =>
      obtain ⟨heads, tails⟩ := (Bool.and_eq_true ..).mp equal
      obtain ⟨names, values⟩ := (Bool.and_eq_true ..).mp heads
      rw [ findEntry?, findEntry?, beq_iff_eq.mp names]
      split
      · exact .some values
      · exact ih tails

/-- Ascending entries that hold equal values under each key, or none, are equal one by one. -/
theorem Ascending.beq_of_findEntry?_rel {α : Type u} [BEq α] {first second : List (String × α)}
    (ordered : Ascending first) (otherOrdered : Ascending second)
    (agree : ∀ key, Option.Rel (fun held other => (held == other) = true) ( findEntry? key first)
      ( findEntry? key second)) : (first == second) = true := by
  induction first generalizing second with
  | nil =>
    cases second with
    | nil => rfl
    | cons other more => exact absurd (optionRel_iff.mp (agree other.1)).1 (by simp [ findEntry?])
  | cons entry rest ih =>
    cases second with
    | nil => exact absurd (optionRel_iff.mp (agree entry.1)).1 (by simp [ findEntry?])
    | cons other more =>
      obtain ⟨key, value⟩ := entry
      obtain ⟨otherKey, held⟩ := other
      have keys (name : String) := (optionRel_iff.mp (agree name)).1
      -- The least keys of both are the same: each is found on the other side, where none is less.
      have same : key = otherKey := by
        refine String.le_antisymm (ordered.head_le ?_) (otherOrdered.head_le ?_)
        · rw [keys otherKey, findEntry?, if_pos rfl, Option.isSome_some]
        · rw [← keys key, findEntry?, if_pos rfl, Option.isSome_some]
      subst same
      have values : (value == held) = true :=
        (optionRel_iff.mp (agree key)).2 value held (by rw [ findEntry?, if_pos rfl])
          (by rw [ findEntry?, if_pos rfl])
      have tails : (rest == more) = true := by
        refine ih ordered.tail otherOrdered.tail fun name => ?_
        rw [ordered.findEntry?_tail, otherOrdered.findEntry?_tail]
        split
        · exact .none
        · exact agree name
      exact (Bool.and_eq_true ..).mpr
        ⟨(Bool.and_eq_true ..).mpr ⟨beq_self_eq_true key, values⟩, tails⟩

/-- Putting an entry behind all others of ascending ones appends it. -/
theorem insertEntry_of_forall_lt {α : Type u} {key : String} {value : α}
    {entries : List (String × α)} (behind : ∀ entry ∈ entries, entry.1 < key) :
    insertEntry key value entries = entries ++ [(key, value)] := by
  induction entries with
  | nil => rfl
  | cons entry rest ih =>
    -- The key is larger than that of the first entry, so it goes behind it.
    have before := behind entry List.mem_cons_self
    have different : key ≠ entry.1 := fun same => String.lt_irrefl _ (same ▸ before)
    rw [insertEntry, if_neg (String.lt_asymm before), if_neg different,
      ih fun other found => behind other (List.mem_cons_of_mem _ found), List.cons_append]

/-- Putting an entry among ascending ones makes them one more, unless its key was there. -/
theorem Ascending.length_insertEntry {α : Type u} (key : String) (value : α)
    {entries : List (String × α)} (ordered : Ascending entries) :
    (ChatOptions.insertEntry key value entries).length
      = if Option.isSome <| findEntry? key entries then entries.length else entries.length + 1 := by
  -- The cases are those of the insertion: before the first entry, in its place, or behind it.
  induction entries with
  | nil => rfl
  | cons entry rest ih =>
    obtain ⟨first, held⟩ := entry
    by_cases before : key < first
    · -- All keys there are larger, so the key is not among them.
      have absent : (Option.isSome <| findEntry? key ((first, held) :: rest)) = false := by
        refine Bool.eq_false_iff.mpr fun found => ?_
        exact String.not_lt.mpr (ordered.head_le found) before
      simp [ChatOptions.insertEntry, before, absent]
    · by_cases same : key = first
      · simp [ChatOptions.insertEntry, same, findEntry?]
      · have behind := ih ordered.tail
        rw [ChatOptions.insertEntry, if_neg before, if_neg same, List.length_cons, behind,
          findEntry?, if_neg same]
        split <;> rfl

namespace SortedMap

variable {α : Type u} {β : Type v}

/-- The empty map holds nothing. -/
@[simp] theorem find?_empty (key : String) : (empty : SortedMap α).find? key = none := rfl

/-- After an insertion the inserted key has the new value, and every other key has what it had. -/
theorem find?_insert (map : SortedMap α) (key other : String) (value : α) :
    (map.insert key value).find? other = if other = key then some value else map.find? other :=
  findEntry?_insertEntry key other value map.entries

/-- After an insertion the inserted key has a value, and so has every key that had one. -/
theorem contains_insert (map : SortedMap α) (key other : String) (value : α) :
    (map.insert key value).contains other = (decide (other = key) || map.contains other) := by
  by_cases same : other = key <;> simp [contains, find?_insert, same]

/-- An insertion adds one entry, unless the key had a value before. -/
theorem size_insert (map : SortedMap α) (key : String) (value : α) :
    (map.insert key value).size = if map.contains key then map.size else map.size + 1 :=
  map.ascending.length_insertEntry key value

/-- A look-up finds exactly the entries that are listed. -/
theorem find?_eq_some {map : SortedMap α} {key : String} {value : α} :
    map.find? key = some value ↔ (key, value) ∈ map.entries :=
  map.ascending.findEntry?_eq_some

/-- No key is listed twice. -/
theorem keys_nodup (map : SortedMap α) : map.keys.Nodup := by
  rw [keys, List.Nodup, List.pairwise_map]
  -- Of two keys in ascending order neither is the other.
  refine map.ascending.imp fun before same => ?_
  rw [same] at before
  exact String.lt_irrefl _ before

/-- The keys listed are those that have a value. -/
theorem mem_keys {map : SortedMap α} {key : String} :
    key ∈ map.keys ↔ map.contains key = true := by
  rw [contains, Option.isSome_iff_exists]
  simp only [keys, List.mem_map, find?_eq_some]
  constructor
  · rintro ⟨⟨_, value⟩, listed, rfl⟩
    exact ⟨value, listed⟩
  · rintro ⟨value, listed⟩
    exact ⟨(key, value), listed, rfl⟩

/-- Maps in which the same is found are the same. -/
theorem ext_find? {first second : SortedMap α}
    (agree : ∀ key, first.find? key = second.find? key) : first = second :=
  SortedMap.ext (first.ascending.ext second.ascending agree)

/-- Maps are equal exactly if they hold equal values under each key, or none. -/
theorem beq_iff_find? [BEq α] {first second : SortedMap α} :
    (first == second) = true ↔
      ∀ key, Option.Rel (fun held other => (held == other) = true) (first.find? key)
        (second.find? key) :=
  ⟨findEntry?_rel_of_beq, first.ascending.beq_of_findEntry?_rel second.ascending⟩

/-- The last value that a list of entries gives for a key. -/
def lastValue? (key : String) : List (String × α) → Option α
  | [] => none
  | (other, value) :: rest => (lastValue? key rest).or (if key = other then some value else none)

/-- The last value given in two lists of entries is that of the second if it gives one. -/
theorem lastValue?_append (key : String) (first second : List (String × α)) :
    lastValue? key (first ++ second) = (lastValue? key second).or (lastValue? key first) := by
  -- A later value wins, and all of the second list is later than the first.
  induction first with
  | nil => simp [lastValue?]
  | cons entry rest ih =>
    obtain ⟨other, value⟩ := entry
    rw [List.cons_append, lastValue?, ih, lastValue?, Option.or_assoc]

/-- The last value given for a key is one that is given for it. -/
theorem mem_of_lastValue? {key : String} {value : α} {entries : List (String × α)}
    (found : lastValue? key entries = some value) : (key, value) ∈ entries := by
  induction entries with
  | nil => cases found
  | cons entry rest ih =>
    obtain ⟨other, held⟩ := entry
    -- It is given behind the first entry, or by that entry.
    rcases Option.or_eq_some_iff.mp found with later | ⟨_, here⟩
    · exact List.mem_cons_of_mem _ (ih later)
    · by_cases same : key = other
      · simp_all
      · simp [same] at here

/-- Where no key is given twice, the last value given for a key is the only one. -/
theorem lastValue?_eq_some {key : String} {value : α} {entries : List (String × α)}
    (distinct : (entries.map Prod.fst).Nodup) :
    lastValue? key entries = some value ↔ (key, value) ∈ entries := by
  induction entries with
  | nil => simp [lastValue?]
  | cons entry rest ih =>
    obtain ⟨other, held⟩ := entry
    obtain ⟨fresh, restDistinct⟩ := List.nodup_cons.mp distinct
    have later := ih restDistinct
    -- The first entry gives the value, or the key is another and it is given later.
    by_cases same : key = other
    · subst same
      have absent : lastValue? key rest = none := by
        rw [Option.eq_none_iff_forall_ne_some]
        intro given found
        -- A value given later for the key would repeat it.
        exact fresh (List.mem_map.mpr ⟨_, mem_of_lastValue? found, rfl⟩)
      have notListed : (key, value) ∉ rest := fun found =>
        fresh (List.mem_map.mpr ⟨_, found, rfl⟩)
      simp [lastValue?, absent, notListed, eq_comm]
    · simp [lastValue?, same, later]

/-- Entries inserted one after the other leave under each key the last value given for it, or else what was there. -/
theorem find?_foldl_insert (entries : List (String × α)) (map : SortedMap α) (key : String) :
    (entries.foldl (fun map entry => map.insert entry.1 entry.2) map).find? key
      = (lastValue? key entries).or (map.find? key) := by
  induction entries generalizing map with
  | nil => rfl
  | cons entry rest ih =>
    obtain ⟨other, value⟩ := entry
    rw [List.foldl_cons, ih, find?_insert, lastValue?]
    -- A later value for the key hides this one, and this one hides the map.
    by_cases same : key = other <;> cases lastValue? key rest <;> simp [same]

/-- The map of a list of entries holds under each key the last value given for it. -/
theorem find?_ofList (entries : List (String × α)) (key : String) :
    (ofList entries).find? key = lastValue? key entries := by
  rw [ofList, find?_foldl_insert, find?_empty, Option.or_none]

/-- The order in which entries are given does not matter where no key is given twice. -/
theorem ofList_perm {first second : List (String × α)} (shuffled : first.Perm second)
    (distinct : (first.map Prod.fst).Nodup) : ofList first = ofList second := by
  -- Both maps hold the same under each key, as each key is given once.
  refine ext_find? fun key => Option.ext fun value => ?_
  rw [find?_ofList, find?_ofList, lastValue?_eq_some distinct,
    lastValue?_eq_some ((shuffled.map Prod.fst).nodup distinct)]
  exact shuffled.mem_iff

/-- Entries in ascending order behind those of a map are appended by inserting them. -/
theorem entries_foldl_insert (rest : List (String × α)) (map : SortedMap α)
    (ordered : Ascending (map.entries ++ rest)) :
    (rest.foldl (fun map entry => map.insert entry.1 entry.2) map).entries
      = map.entries ++ rest := by
  induction rest generalizing map with
  | nil => simp
  | cons entry rest ih =>
    obtain ⟨key, value⟩ := entry
    -- The map holds only keys before this one, so the entry is appended to it.
    have behind : ∀ other ∈ map.entries, other.1 < key := fun other found =>
      (List.pairwise_append.mp ordered).2.2 other found (key, value) List.mem_cons_self
    have placed : (map.insert key value).entries = map.entries ++ [(key, value)] :=
      insertEntry_of_forall_lt behind
    rw [List.foldl_cons, ih (map.insert key value) (by simpa [placed] using ordered), placed]
    simp

/-- A map is the map of its own entries. -/
@[simp] theorem ofList_entries (map : SortedMap α) : ofList map.entries = map := by
  -- The entries of a map ascend, so inserting them into the empty map lists them again.
  refine SortedMap.ext ?_
  exact entries_foldl_insert map.entries .empty map.ascending

end SortedMap

namespace NameSet

/-- A name put into a set is in it, and no other name is new. -/
theorem contains_add (names : NameSet) (name other : String) :
    (names.add name).contains other = (decide (other = name) || names.contains other) :=
  SortedMap.contains_insert names name other ()

/-- The names of a set are those that it contains. -/
theorem mem_toList {names : NameSet} {name : String} :
    name ∈ names.toList ↔ names.contains name = true :=
  SortedMap.mem_keys

/-- Sets that contain the same names are the same. -/
theorem ext_contains {first second : NameSet}
    (agree : ∀ name, first.contains name = second.contains name) : first = second := by
  refine SortedMap.ext_find? fun name => ?_
  have present := agree name
  -- There is only one value that a name can have.
  cases firstFound : first.find? name <;> cases secondFound : second.find? name <;>
    simp_all [SortedMap.contains]

/-- Names put into a set one after the other are in it, beside those that were. -/
theorem contains_foldl_add (added : List String) (names : NameSet) (name : String) :
    (added.foldl add names).contains name = (added.contains name || names.contains name) := by
  induction added generalizing names with
  | nil => simp
  | cons first rest ih =>
    rw [List.foldl_cons, ih, contains_add, List.contains_cons]
    -- The first name is in the list by itself, and for every other name it does not count.
    by_cases same : name = first
    · simp [same]
    · simp [same, beq_eq_false_iff_ne.mpr same]

/-- The set of the names in a list contains exactly those. -/
theorem contains_ofNames (names : List String) (name : String) :
    (ofNames names).contains name = names.contains name := by
  rw [ofNames, contains_foldl_add]
  simp [SortedMap.contains]

/-- The names of the set of a list are those in the list. -/
theorem mem_toList_ofNames {names : List String} {name : String} :
    name ∈ (ofNames names).toList ↔ name ∈ names := by
  rw [mem_toList, contains_ofNames, List.contains_iff_mem]

/-- Lists with the same names make the same set. -/
theorem ofNames_congr {first second : List String}
    (agree : ∀ name, name ∈ first ↔ name ∈ second) : ofNames first = ofNames second := by
  refine ext_contains fun name => ?_
  rw [contains_ofNames, contains_ofNames, Bool.eq_iff_iff, List.contains_iff_mem,
    List.contains_iff_mem, agree]

/-- A set is the set of its names. -/
@[simp] theorem ofNames_toList (names : NameSet) : ofNames names.toList = names := by
  refine ext_contains fun name => ?_
  rw [contains_ofNames, Bool.eq_iff_iff, List.contains_iff_mem, mem_toList]

/-- A name put into a set makes the set of its names with the new one. -/
theorem ofNames_toList_append (names : NameSet) (name : String) :
    ofNames (names.toList ++ [name]) = names.add name := by
  -- Both sets contain the names there were and the new one.
  refine ext_contains fun other => ?_
  rw [contains_ofNames, contains_add, Bool.eq_iff_iff, List.contains_iff_mem, List.mem_append,
    mem_toList, List.mem_singleton, Bool.or_eq_true, decide_eq_true_eq, or_comm]

end NameSet

end ChatOptions
