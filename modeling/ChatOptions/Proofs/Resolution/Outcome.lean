import ChatOptions.Proofs.Resolution

/-! What resolving gives for any way to find callbacks: the outcome in closed form, and when the callbacks share no name. -/

namespace ChatOptions

/-- Of the callbacks whose names have not been seen, those kept are the first of each name. -/
theorem firstOfEachName_eq_eraseDupsBy (seen : List String) (callbacks : List Callback) :
    firstOfEachName seen callbacks
      = (callbacks.filter fun callback => !seen.contains callback.name).eraseDupsBy
        fun later first => later.name == first.name := by
  -- The induction follows the callbacks, and the names seen grow with it.
  induction callbacks generalizing seen with
  | nil => rfl
  | cons callback rest ih =>
    rw [firstOfEachName]
    cases before : seen.contains callback.name with
    | true =>
      rw [if_pos rfl, ih, List.filter_cons_of_neg (by rw [before]; decide)]
    | false =>
      -- Behind a callback, others of its name count as seen on one side and as repeats on the other.
      rw [if_neg Bool.false_ne_true, List.filter_cons_of_pos (by rw [before]; decide),
        List.eraseDupsBy_cons, ih, List.filter_filter]
      congr 2
      refine List.filter_congr fun other _ => ?_
      rw [List.contains_cons, Bool.not_or]
      cases other.name == callback.name <;> rfl

namespace Lookup

/-- Looking names up fails at the first of them that has no callback. -/
theorem all_of_find?_eq_some {lookup : Lookup} {names : List String} {missing : String}
    (first : names.find? (fun name => (lookup name).isNone) = some missing) :
    lookup.all names = .error (.unknownFunction missing) := by
  induction names with
  | nil => cases first
  | cons name rest ih =>
    rw [List.find?_cons] at first
    rw [all]
    cases held : lookup name with
    | none =>
      rw [held] at first
      cases first
      rfl
    | some callback =>
      -- The name has a callback, so the first without one stands behind it.
      rw [held] at first
      simp only [ih first]
      rfl

/-- Names that all have a callback are found one by one. -/
theorem all_of_find?_eq_none {lookup : Lookup} {names : List String}
    (none : names.find? (fun name => (lookup name).isNone) = none) :
    lookup.all names = .ok (names.filterMap lookup)
      ∧ names.map lookup = (names.filterMap lookup).map some := by
  have found : names.map lookup = (names.filterMap lookup).map some := by
    induction names with
    | nil => rfl
    | cons name rest ih =>
      rw [List.find?_cons] at none
      cases held : lookup name with
      | none =>
        rw [held] at none
        cases none
      | some callback =>
        rw [held] at none
        rw [List.map_cons, List.filterMap_cons, held, ih none]
        rfl
  exact ⟨all_eq_ok.mpr found, found⟩

/-- The callbacks found for names are those that the names have. -/
theorem filterMap_of_all {lookup : Lookup} {names : List String} {found : List Callback}
    (all : lookup.all names = .ok found) : names.filterMap lookup = found := by
  have each : names.filterMap lookup = (names.map lookup).filterMap id := by
    rw [List.filterMap_map]
    rfl
  -- Every name has a callback, so none is left out.
  rw [each, all_eq_ok.mp all, List.filterMap_map]
  exact List.filterMap_some

/-- Two ways to find callbacks that agree on some names find the same for them. -/
theorem all_congr {lookup other : Lookup} {names : List String}
    (agree : ∀ name ∈ names, other name = lookup name) : other.all names = lookup.all names := by
  induction names with
  | nil => rfl
  | cons name rest ih =>
    have here := agree name List.mem_cons_self
    have behind := ih fun another found => agree another (List.mem_cons_of_mem _ found)
    rw [all, all, here, behind]

end Lookup

namespace SharedOptions

/-- The callbacks that options bring along, the first of each name. -/
def inlined (options : SharedOptions) : List Callback :=
  options.callbacks.eraseDupsBy fun later first => later.name == first.name

/-- The active callbacks are those brought along, and then those found for the names that they leave. -/
theorem activeCallbacks_eq_inlined (options : SharedOptions) (lookup : Lookup) :
    options.activeCallbacks lookup
      = (lookup.all options.uncovered).map (options.inlined ++ ·) := by
  have kept : firstOfEachName [] options.callbacks = options.inlined := by
    rw [firstOfEachName_eq_eraseDupsBy]
    -- No name has been seen at first, so every callback is considered.
    simp [inlined]
  rw [activeCallbacks_eq, kept]

/-- Resolving depends on a way to find callbacks only for the names that the options leave. -/
theorem resolve_congr (options : SharedOptions) {lookup other : Lookup}
    (agree : ∀ name ∈ options.uncovered, other name = lookup name) :
    options.resolve other = options.resolve lookup := by
  rw [resolve, resolve, activeCallbacks_eq, activeCallbacks_eq, Lookup.all_congr agree]

/--
What resolving gives for any options and any way to find callbacks.

The names to be found are those enabled that no callback brought along has, in the order of their octets.
If one of them has no callback, resolving fails with the first such name, and nothing is reported.
Otherwise the callbacks brought along, the first of each name, are followed by what is found for each name in order, and one notice counts them.
Nothing else about the way to find callbacks makes a difference, so it is never asked for a name that is covered.
-/
theorem resolve_outcome (options : SharedOptions) (lookup : Lookup) :
    (∀ name, name ∈ options.uncovered
      ↔ name ∈ options.functions.toList ∧ name ∉ options.callbacks.map (·.name))
    ∧ (options.uncovered.Pairwise fun first second => octets first < octets second)
    ∧ (match options.uncovered.find? fun name => (lookup name).isNone with
      | some missing => options.resolve lookup = .error (.unknownFunction missing)
      | none => ∃ found : List Callback,
        options.uncovered.map lookup = found.map some
        ∧ options.resolve lookup = .ok (options.inlined ++ found,
          [.callbacksResolved options.callbacks.length options.functions.size
            (options.inlined ++ found).length]))
    ∧ ∀ other : Lookup, (∀ name ∈ options.uncovered, other name = lookup name) →
      options.resolve other = options.resolve lookup := by
  refine ⟨fun name => mem_uncovered, uncovered_ascending options, ?_,
    fun other => options.resolve_congr⟩
  -- The names are searched for one without a callback, and that decides the outcome.
  cases first : options.uncovered.find? fun name => (lookup name).isNone with
  | some missing =>
    show options.resolve lookup = .error (.unknownFunction missing)
    rw [resolve, activeCallbacks_eq_inlined, Lookup.all_of_find?_eq_some first]
    rfl
  | none =>
    obtain ⟨all, found⟩ := Lookup.all_of_find?_eq_none first
    refine ⟨options.uncovered.filterMap lookup, found, ?_⟩
    rw [resolve, activeCallbacks_eq_inlined, all]
    rfl

/-- A name that is enabled and has no callback is reported, but not one that is covered or comes later. -/
example :
    let callback (name : String) : Callback :=
      ⟨0, name, "", ⟨.null, trivial⟩, fun arguments _ => .ok arguments⟩
    let options : Options :=
      { callbacks := [callback "area"], functions := .ofNames ["time", "area", "news", "code"] }
    let lookup : Lookup := fun name => if name = "code" then some (callback "code") else none
    options.shared.resolve lookup = .error (.unknownFunction "news") := by cbv

/-- The callbacks of options and those found share no name exactly if those found share none among themselves and with those of the options. -/
theorem nodup_names_iff {options : SharedOptions} {found : List Callback} :
    ((firstOfEachName [] options.callbacks ++ found).map (·.name)).Nodup
      ↔ (found.map (·.name)).Nodup
        ∧ ∀ callback ∈ found, callback.name ∉ options.callbacks.map (·.name) := by
  -- The callbacks kept of the options share no name, and have all the names of the options.
  rw [List.map_append, List.nodup_append, map_name_firstOfEachName_nil]
  have own : (options.callbacks.map (·.name)).eraseDups.Nodup := by
    rw [← map_name_firstOfEachName_nil]
    exact nodup_firstOfEachName [] options.callbacks
  constructor
  · rintro ⟨_, apart, different⟩
    refine ⟨apart, fun callback held shared => ?_⟩
    exact different _ (List.mem_eraseDups.mpr shared) _ (List.mem_map_of_mem held) rfl
  · rintro ⟨apart, different⟩
    refine ⟨own, apart, fun name kept other held same => ?_⟩
    obtain ⟨callback, among, rfl⟩ := List.mem_map.mp held
    exact different callback among (same ▸ List.mem_eraseDups.mp kept)

/--
When the active callbacks share no name: exactly if the callbacks found for the names that the options leave share none, neither among themselves nor with a callback of the options.

This is so whenever every callback is found under its own name.
-/
theorem distinct_names_iff (options : SharedOptions) {lookup : Lookup} {active : List Callback}
    {notices : List Notice} (resolved : options.resolve lookup = .ok (active, notices)) :
    ((active.map (·.name)).Nodup
      ↔ ((options.uncovered.filterMap lookup).map (·.name)).Nodup
        ∧ ∀ callback ∈ options.uncovered.filterMap lookup,
          callback.name ∉ options.callbacks.map (·.name))
    ∧ ((∀ name ∈ options.uncovered, ∀ callback, lookup name = some callback → callback.name = name) →
      (active.map (·.name)).Nodup) := by
  obtain ⟨found, all, rfl, _⟩ := resolve_eq_ok.mp resolved
  rw [Lookup.filterMap_of_all all]
  refine ⟨nodup_names_iff, fun named => nodup_names_iff.mpr ?_⟩
  -- What is found has the names looked up, which are distinct and not those of the options.
  have names := Lookup.map_name_of_all named all
  refine ⟨names ▸ uncovered_nodup options, fun callback held => ?_⟩
  have left : callback.name ∈ options.uncovered := names ▸ List.mem_map_of_mem held
  exact (mem_uncovered.mp left).2

/-- A lookup that finds two callbacks under each other's names still gives callbacks of distinct names. -/
theorem distinct_names_iff_example :
    let callback (identity : Nat) (name : String) : Callback :=
      ⟨identity, name, "", ⟨.null, trivial⟩, fun arguments _ => .ok arguments⟩
    let options : Options :=
      { callbacks := [callback 1 "area", callback 2 "area"]
        functions := .ofNames ["time", "news", "area"] }
    let lookup : Lookup := fun name =>
      if name = "time" then some (callback 3 "news") else some (callback 4 "time")
    options.shared.resolve lookup
      = .ok ([callback 1 "area", callback 4 "time", callback 3 "news"], [.callbacksResolved 2 3 3])
    ∧ (([callback 1 "area", callback 4 "time", callback 3 "news"].map (·.name)).Nodup
      ↔ ((options.shared.uncovered.filterMap lookup).map (·.name)).Nodup
        ∧ ∀ callback ∈ options.shared.uncovered.filterMap lookup,
          callback.name ∉ options.shared.callbacks.map (·.name)) := by
  intro callback options lookup
  have resolved : options.shared.resolve lookup
      = .ok ([callback 1 "area", callback 4 "time", callback 3 "news"],
        [.callbacksResolved 2 3 3]) := by cbv
  exact ⟨resolved, (distinct_names_iff options.shared resolved).1⟩

/-- Not every lookup gives callbacks of distinct names: what is found under an enabled name may call itself like a callback of the options. -/
theorem names_may_repeat :
    let callback (identity : Nat) (name : String) : Callback :=
      ⟨identity, name, "", ⟨.null, trivial⟩, fun arguments _ => .ok arguments⟩
    let options : Options :=
      { callbacks := [callback 1 "weather"], functions := .ofNames ["forecast"] }
    let lookup : Lookup := fun _ => some (callback 2 "weather")
    options.shared.resolve lookup
      = .ok ([callback 1 "weather", callback 2 "weather"], [.callbacksResolved 1 1 2])
    ∧ ¬ ([callback 1 "weather", callback 2 "weather"].map (·.name)).Nodup := by
  intro callback options lookup
  exact ⟨by cbv, by decide⟩

end SharedOptions

end ChatOptions
