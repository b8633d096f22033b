/-! Maps from text keys to values, kept in ascending key order so that maps with the same entries are the same value. -/

namespace ChatOptions

universe u v

/-- An entry list with one value put under a key, keeping ascending keys ascending. -/
def insertEntry {α : Type u} (key : String) (value : α) : List (String × α) → List (String × α)
  | [] => [(key, value)]
  | (other, held) :: rest =>
    if key < other then (key, value) :: (other, held) :: rest
    -- A value already held under the key gives way to the new one.
    else if key = other then (key, value) :: rest
    else (other, held) :: insertEntry key value rest

/-- The value held under a key in an entry list. -/
def findEntry? {α : Type u} (key : String) : List (String × α) → Option α
  | [] => none
  | (other, held) :: rest => if key = other then some held else findEntry? key rest

/-- Keys in strictly ascending order, which leaves no room for a repeated key. -/
def Ascending {α : Type u} (entries : List (String × α)) : Prop :=
  entries.Pairwise fun first second => first.1 < second.1

/-- The entries after an insertion are the inserted one and some of those before. -/
theorem mem_insertEntry {α : Type u} {key : String} {value : α} {entry : String × α} :
    ∀ {entries : List (String × α)}, entry ∈ insertEntry key value entries →
      entry = (key, value) ∨ entry ∈ entries
  | [], found => by simpa [insertEntry] using found
  | (other, held) :: rest, found => by
    -- The cases are those of the insertion: before the first entry, in its place, or behind it.
    rw [insertEntry] at found
    split at found
    · simpa using found
    · split at found
      · rcases List.mem_cons.mp found with same | later
        · exact .inl same
        · exact .inr (List.mem_cons_of_mem _ later)
      · rcases List.mem_cons.mp found with same | later
        · exact .inr (same ▸ List.mem_cons_self)
        · rcases mem_insertEntry later with same | before
          · exact .inl same
          · exact .inr (List.mem_cons_of_mem _ before)

/-- An insertion into ascending entries leaves them ascending. -/
theorem Ascending.insertEntry {α : Type u} (key : String) (value : α) :
    ∀ {entries : List (String × α)}, Ascending entries →
      Ascending (ChatOptions.insertEntry key value entries)
  | [], _ => by simp [ChatOptions.insertEntry, Ascending]
  | (other, held) :: rest, ordered => by
    have later := (List.pairwise_cons.mp ordered).1
    have restOrdered : Ascending rest := (List.pairwise_cons.mp ordered).2
    rw [ChatOptions.insertEntry]
    split
    · -- The new entry is before the first, which is before all others.
      rename_i before
      refine List.pairwise_cons.mpr ⟨fun entry found => ?_, ordered⟩
      rcases List.mem_cons.mp found with same | found
      · exact same ▸ before
      · exact String.lt_trans before (later entry found)
    · rename_i notBefore
      split
      · -- The new entry takes the place of the first, under the same key.
        rename_i same
        exact List.pairwise_cons.mpr ⟨fun entry found => same ▸ later entry found, restOrdered⟩
      · rename_i different
        refine List.pairwise_cons.mpr ⟨fun entry found => ?_, restOrdered.insertEntry key value⟩
        rcases mem_insertEntry found with same | found
        · -- Two keys that are neither equal nor in this order are in the other one.
          have after : other ≤ key := String.not_lt.mp notBefore
          rw [same]
          exact Decidable.byContradiction fun notAfter =>
            different (String.le_antisymm (String.not_lt.mp notAfter) after)
        · exact later entry found

/-- A map from text keys to values, listed by ascending key (code point order). -/
@[ext] structure SortedMap (α : Type u) where
  entries : List (String × α)
  ascending : Ascending entries

namespace SortedMap

/-- The map without entries. -/
def empty {α : Type u} : SortedMap α := ⟨[], .nil⟩

instance {α : Type u} : EmptyCollection (SortedMap α) := ⟨empty⟩

instance {α : Type u} : Inhabited (SortedMap α) := ⟨empty⟩

/-- Maps are equal when they have the same keys and equal values under each. -/
instance {α : Type u} [BEq α] : BEq (SortedMap α) :=
  ⟨fun first second => first.entries == second.entries⟩

/-- The map with a value put under a key, in place of any value held there. -/
def insert {α : Type u} (map : SortedMap α) (key : String) (value : α) : SortedMap α :=
  ⟨insertEntry key value map.entries, map.ascending.insertEntry key value⟩

/-- The value held under a key. -/
def find? {α : Type u} (map : SortedMap α) (key : String) : Option α :=
  findEntry? key map.entries

/-- Whether a key has a value. -/
def contains {α : Type u} (map : SortedMap α) (key : String) : Bool :=
  (map.find? key).isSome

/-- The keys, ascending. -/
def keys {α : Type u} (map : SortedMap α) : List String :=
  map.entries.map Prod.fst

/-- The values, by ascending key. -/
def values {α : Type u} (map : SortedMap α) : List α :=
  map.entries.map Prod.snd

/-- The number of entries. -/
def size {α : Type u} (map : SortedMap α) : Nat :=
  map.entries.length

/-- The map of a list of entries, in which the last value given for a key is the one kept. -/
def ofList {α : Type u} (entries : List (String × α)) : SortedMap α :=
  entries.foldl (fun map entry => map.insert entry.1 entry.2) empty

/-- The map with every value replaced by its image. -/
def mapValues {α : Type u} {β : Type v} (f : α → β) (map : SortedMap α) : SortedMap β :=
  ⟨map.entries.map fun entry => (entry.1, f entry.2), by
    simpa [Ascending, List.pairwise_map] using map.ascending⟩

end SortedMap

/-- A set of names, listed in ascending order. -/
abbrev NameSet := SortedMap Unit

namespace NameSet

/-- The set with a name put in. -/
def add (names : NameSet) (name : String) : NameSet := names.insert name ()

/-- The set of the names in a list, whatever their order and however often each occurs. -/
def ofNames (names : List String) : NameSet :=
  names.foldl add SortedMap.empty

/-- The names, ascending. -/
def toList (names : NameSet) : List String := names.keys

end NameSet

end ChatOptions
