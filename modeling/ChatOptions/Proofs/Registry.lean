import Mathlib.Data.Finset.Card
import ChatOptions.Proofs.SortedMap
import ChatOptions.Registry

/-! A registry is the map of its history: under each name it holds the callback that was registered last. -/

namespace ChatOptions

/-- A registration of a callback, which may ask for the callback that gives way. -/
inductive Registration where
  | register (callback : Callback)
  | insert (callback : Callback)

/-- A registry after a registration. -/
def Registry.after (registry : Registry) : Registration → Registry
  | .register callback => (registry.register callback).1
  | .insert callback => registry.insert callback

/-- The callback that a registration registers. -/
def Registration.callback : Registration → Callback
  | .register callback => callback
  | .insert callback => callback

/-- The last callback of a name among some. -/
def lastOfName (name : String) (callbacks : List Callback) : Option Callback :=
  (callbacks.filter (·.name == name)).getLast?

/-- A callback behind others is the last of its name, and leaves the last of every other name. -/
theorem lastOfName_append (name : String) (callbacks : List Callback) (callback : Callback) :
    lastOfName name (callbacks ++ [callback])
      = if name = callback.name then some callback else lastOfName name callbacks := by
  rw [lastOfName, List.filter_append, List.filter_singleton]
  by_cases same : name = callback.name
  · rw [if_pos same, beq_iff_eq.mpr same.symm, cond_true, List.getLast?_concat]
  · rw [if_neg same, beq_eq_false_iff_ne.mpr (Ne.symm same), cond_false, List.append_nil, lastOfName]

/-- There is a last callback of a name exactly if some callback has the name. -/
theorem lastOfName_isSome {name : String} {callbacks : List Callback} :
    (lastOfName name callbacks).isSome = true ↔ name ∈ callbacks.map (·.name) := by
  rw [lastOfName, Option.isSome_iff_ne_none, ne_eq, List.getLast?_eq_none_iff, List.filter_eq_nil_iff]
  simp

namespace Registry

/-- Registries in which the same is found are the same. -/
theorem ext_find? {first second : Registry}
    (agree : ∀ name, first.find? name = second.find? name) : first = second := by
  have same : first.callbacks = second.callbacks := SortedMap.ext_find? agree
  cases first
  cases second
  cases same
  rfl

/-- Whether a registration asks for what gives way makes no difference to the registry. -/
theorem after_eq_insert (registry : Registry) (registration : Registration) :
    registry.after registration = registry.insert registration.callback := by
  cases registration <;> rfl

/-- A registration puts its callback under the callback's own name, and leaves what is under every other name. -/
theorem find?_after (registry : Registry) (registration : Registration) (name : String) :
    (registry.after registration).find? name
      = if name = registration.callback.name then some registration.callback
        else registry.find? name := by
  rw [after_eq_insert]
  exact SortedMap.find?_insert registry.callbacks registration.callback.name name registration.callback

/-- Registrations of callbacks with different names leave the same registry in either order. -/
theorem after_comm (registry : Registry) {first second : Registration}
    (different : first.callback.name ≠ second.callback.name) :
    (registry.after first).after second = (registry.after second).after first := by
  refine ext_find? fun name => ?_
  simp only [find?_after]
  -- No name is that of both callbacks, so at most one of the two registrations counts.
  split
  · rename_i same
    rw [if_neg fun other => different (other.symm.trans same)]
  · rfl

/-- After a history of registrations the last callback of a name is found under it. -/
theorem find?_history (history : List Registration) (name : String) :
    (history.foldl after empty).find? name = lastOfName name (history.map (·.callback)) := by
  -- The induction adds one registration at the end, which counts for its own name only.
  induction history using List.reverseRecOn with
  | nil => rfl
  | append_singleton before registration ih =>
    rw [List.foldl_append, List.foldl_cons, List.foldl_nil, find?_after, ih, List.map_append,
      List.map_singleton, lastOfName_append]

/-- A name is listed exactly if a callback is found under it. -/
theorem mem_names {registry : Registry} {name : String} :
    name ∈ registry.names ↔ (registry.find? name).isSome = true :=
  SortedMap.mem_keys

/-- The callback that is found under a name has that name. -/
theorem name_of_find? {registry : Registry} {name : String} {callback : Callback}
    (found : registry.find? name = some callback) : callback.name = name :=
  registry.named (name, callback) (SortedMap.find?_eq_some.mp found)

/-- A callback that a registry holds is found under its own name. -/
theorem find?_name_of_mem {registry : Registry} {callback : Callback}
    (held : callback ∈ registry.toList) : registry.find? callback.name = some callback := by
  obtain ⟨⟨name, _⟩, listed, rfl⟩ := List.mem_map.mp held
  -- The name under which it is listed is its own.
  have own := registry.named _ listed
  rw [own]
  exact SortedMap.find?_eq_some.mpr listed

/-- The names listed after a history are those of the callbacks registered. -/
theorem mem_names_history {history : List Registration} {name : String} :
    name ∈ (history.foldl after empty).names ↔ name ∈ history.map (·.callback.name) := by
  rw [mem_names, find?_history, lastOfName_isSome, List.map_map]
  rfl

/-- A registry holds as many callbacks as different names were registered. -/
theorem size_history (history : List Registration) :
    (history.foldl after empty).size = (history.map (·.callback.name)).toFinset.card := by
  have names : (history.map (·.callback.name)).toFinset
      = (history.foldl after empty).names.toFinset := by
    ext name
    rw [List.mem_toFinset, List.mem_toFinset, mem_names_history]
  -- No name is listed twice, so the names listed are as many as there are.
  have distinct : (history.foldl after empty).names.Nodup := SortedMap.keys_nodup _
  rw [names, List.toFinset_card_of_nodup distinct]
  exact (List.length_map ..).symm

/-- No callback is registered exactly if there was no registration. -/
theorem isEmpty_history {history : List Registration} :
    (history.foldl after empty).isEmpty = true ↔ history = [] := by
  rw [isEmpty, beq_iff_eq, size_history, Finset.card_eq_zero, List.toFinset_eq_empty_iff,
    List.map_eq_nil_iff]

/--
A registry is the map of its history, in which the last registration of a name wins.

What is found under a name is the last callback of that name, and a registration that asks for what gives way is told what was found until then.
Every callback held is found under its own name, each name that was registered is listed once, and the size is the number of different names.
Two registrations one after the other may change places if their callbacks differ in name: the registry is the same from then on.
-/
theorem last_registration_wins (history : List Registration) :
    (∀ name, (history.foldl after empty).find? name = lastOfName name (history.map (·.callback)))
    ∧ (∀ callback,
      ((history.foldl after empty).register callback).2
          = (history.foldl after empty).find? callback.name
        ∧ ((history.foldl after empty).register callback).2
          = lastOfName callback.name (history.map (·.callback)))
    ∧ (∀ callback ∈ (history.foldl after empty).toList,
      (history.foldl after empty).find? callback.name = some callback)
    ∧ (∀ name, (history.foldl after empty).names.count name
      = if name ∈ history.map (·.callback.name) then 1 else 0)
    ∧ (history.foldl after empty).size = (history.map (·.callback.name)).toFinset.card
    ∧ ((history.foldl after empty).isEmpty = true ↔ history = [])
    ∧ ∀ first second behind, first.callback.name ≠ second.callback.name →
      (history ++ first :: second :: behind).foldl after empty
        = (history ++ second :: first :: behind).foldl after empty := by
  refine ⟨find?_history history, fun callback => ⟨rfl, find?_history history callback.name⟩,
    fun callback => find?_name_of_mem, fun name => ?_, size_history history, isEmpty_history,
    fun first second behind different => ?_⟩
  · split
    · rename_i registered
      exact List.count_eq_one_of_mem (SortedMap.keys_nodup _) (mem_names_history.mpr registered)
    · rename_i absent
      exact List.count_eq_zero_of_not_mem fun listed => absent (mem_names_history.mp listed)
  · simp only [List.foldl_append, List.foldl_cons]
    rw [after_comm _ different]

/-- A name registered three times, in the end with the callback that it had first: the registry holds two callbacks, whichever of the first two comes first. -/
theorem last_registration_wins_example :
    let callback (identity : Nat) (name : String) : Callback :=
      ⟨identity, name, "", ⟨.null, trivial⟩, fun arguments _ => .ok arguments⟩
    let later : List Registration := [.register (callback 3 "time"), .register (callback 1 "time")]
    let history := Registration.insert (callback 1 "time") :: .register (callback 2 "news") :: later
    let registry := history.foldl after empty
    registry.find? "time" = some (callback 1 "time") ∧ registry.find? "weather" = none
    ∧ (registry.register (callback 4 "news")).2 = some (callback 2 "news")
    ∧ callback 1 "time" ∈ registry.toList ∧ registry.names.count "time" = 1 ∧ registry.size = 2
    ∧ "time" ≠ "news"
    ∧ registry = (Registration.register (callback 2 "news") :: .insert (callback 1 "time")
      :: later).foldl after empty := by
  intro callback later history registry
  obtain ⟨found, answered, own, listed, size, _, _⟩ := last_registration_wins history
  have held : callback 1 "time" ∈ registry.toList := by
    have listed := SortedMap.find?_eq_some.mp (found "time")
    exact List.mem_map_of_mem (f := Prod.snd) listed
  refine ⟨own (callback 1 "time") held, found "weather", (answered (callback 4 "news")).2, held,
    listed "time", size.trans (by decide), by decide, ?_⟩
  exact (last_registration_wins []).2.2.2.2.2.2 _ _ later (by decide)

end Registry

end ChatOptions
