import ChatOptions.Callback

/-! Callbacks found by name. -/

namespace ChatOptions

/-- A way to find callbacks by name. -/
abbrev Lookup := String → Option Callback

/-- Callbacks registered under their own names. -/
structure Registry where
  callbacks : SortedMap Callback
  named : ∀ entry ∈ callbacks.entries, entry.2.name = entry.1

namespace Registry

/-- The registry without callbacks. -/
def empty : Registry := ⟨.empty, by simp [SortedMap.empty]⟩

instance : Inhabited Registry := ⟨empty⟩

/-- The callback registered under a name. -/
def find? (registry : Registry) (name : String) : Option Callback := registry.callbacks.find? name

/-- The names under which callbacks are registered, ascending. -/
def names (registry : Registry) : List String := registry.callbacks.keys

/-- The callbacks registered, by ascending name. -/
def toList (registry : Registry) : List Callback := registry.callbacks.values

/-- The number of callbacks registered. -/
def size (registry : Registry) : Nat := registry.callbacks.size

/-- Whether no callback is registered. -/
def isEmpty (registry : Registry) : Bool := registry.size == 0

/-- The registry with a callback under its own name, in place of any there. -/
def insert (registry : Registry) (callback : Callback) : Registry where
  callbacks := registry.callbacks.insert callback.name callback
  named entry found := by
    rcases mem_insertEntry found with same | before
    · rw [same]
    · exact registry.named entry before

/-- Registers a callback; the one that it replaces, if any, comes with the registry. -/
def register (registry : Registry) (callback : Callback) : Registry × Option Callback :=
  (registry.insert callback, registry.find? callback.name)

/-- The registry of some callbacks, registered one after the other. -/
def ofList (callbacks : List Callback) : Registry := callbacks.foldl insert empty

end Registry

end ChatOptions
