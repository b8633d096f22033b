import Mathlib.Data.List.Nodup
import ChatOptions.Options.Builder
import ChatOptions.Proofs.Registry
import ChatOptions.Proofs.Text.Octets
import ChatOptions.Resolution

/-! Which callbacks are active for a call: one of each name, and none is lost or added by resolving again. -/

namespace ChatOptions

/-- The first callback of each name, for names that have not been seen. -/
def firstOfEachName : List String → List Callback → List Callback
  | _, [] => []
  | seen, callback :: rest =>
    if seen.contains callback.name then firstOfEachName seen rest
    else callback :: firstOfEachName (callback.name :: seen) rest

/-- The callbacks found for names, or the first name that has none. -/
def Lookup.all (lookup : Lookup) : List String → Except OptionsError (List Callback)
  | [] => .ok []
  | name :: rest =>
    match lookup name with
    | none => .error (.unknownFunction name)
    | some callback => (Lookup.all lookup rest).map (callback :: ·)

/-- The enabled names that no callback of the options has, ascending. -/
def SharedOptions.uncovered (options : SharedOptions) : List String :=
  options.functions.toList.filter fun name => !(options.callbacks.map (·.name)).contains name

namespace Gathering

/-- Taking callbacks one by one adds those of names not seen before, where each name first occurs. -/
theorem active_foldl_takeInline (callbacks : List Callback) (gathering : Gathering) :
    (callbacks.foldl takeInline gathering).active
      = gathering.active ++ firstOfEachName gathering.seen callbacks := by
  -- The induction follows the callbacks, and what has been gathered grows with it.
  induction callbacks generalizing gathering with
  | nil => exact (List.append_nil _).symm
  | cons callback rest ih =>
    rw [List.foldl_cons, ih, takeInline, firstOfEachName]
    split
    · rfl
    · rw [List.append_assoc, List.singleton_append]

/-- Taking callbacks one by one leaves their names seen, besides those seen before. -/
theorem mem_seen_foldl_takeInline {callbacks : List Callback} {gathering : Gathering}
    {name : String} : name ∈ (callbacks.foldl takeInline gathering).seen
      ↔ name ∈ gathering.seen ∨ name ∈ callbacks.map (·.name) := by
  induction callbacks generalizing gathering with
  | nil => simp
  | cons callback rest ih =>
    rw [List.foldl_cons, ih, List.map_cons, List.mem_cons, takeInline]
    split
    · rename_i before
      -- The name of the callback is one of those seen before.
      have seen : callback.name ∈ gathering.seen := by simpa using before
      constructor
      · rintro (earlier | later)
        · exact .inl earlier
        · exact .inr (.inr later)
      · rintro (earlier | rfl | later)
        · exact .inl earlier
        · exact .inl seen
        · exact .inr later
    · rw [List.mem_cons, or_assoc, or_left_comm]

/-- Taking distinct names one by one adds what is found for those not seen before, up to the first without a callback. -/
theorem foldlM_takeNamed (lookup : Lookup) {names : List String} (distinct : names.Nodup)
    (gathering : Gathering) :
    (names.foldlM (takeNamed lookup) gathering).map (·.active)
      = (lookup.all (names.filter fun name => !gathering.seen.contains name)).map
        (gathering.active ++ ·) := by
  induction names generalizing gathering with
  | nil =>
    show Except.ok gathering.active = Except.ok (gathering.active ++ [])
    rw [List.append_nil]
  | cons name rest ih =>
    obtain ⟨fresh, restDistinct⟩ := List.nodup_cons.mp distinct
    rw [List.foldlM_cons, takeNamed]
    cases before : gathering.seen.contains name with
    | true =>
      -- A name that has been seen is passed over on both sides.
      rw [if_pos rfl, List.filter_cons_of_neg (by rw [before]; decide)]
      exact ih restDistinct gathering
    | false =>
      rw [if_neg Bool.false_ne_true, List.filter_cons_of_pos (by rw [before]; decide), Lookup.all]
      cases held : lookup name with
      | none => rfl
      | some callback =>
        -- The name counts as seen from here on, but it does not come again.
        have same : (rest.filter fun other => !(name :: gathering.seen).contains other)
            = rest.filter fun other => !gathering.seen.contains other := by
          refine List.filter_congr fun other found => ?_
          have different : other ≠ name := fun same => fresh (same ▸ found)
          simp [different]
        refine (ih restDistinct ⟨name :: gathering.seen, gathering.active ++ [callback]⟩).trans ?_
        rw [same]
        cases lookup.all (rest.filter fun other => !gathering.seen.contains other) with
        | error missing => rfl
        | ok found => simp [Except.map]

end Gathering

/-- The callbacks kept have the names that had not been seen, each once and where it first occurs. -/
theorem map_name_firstOfEachName (seen : List String) (callbacks : List Callback) :
    (firstOfEachName seen callbacks).map (·.name)
      = ((callbacks.map (·.name)).filter fun name => !seen.contains name).eraseDups := by
  -- The induction follows the callbacks, and the names seen grow with it.
  induction callbacks generalizing seen with
  | nil => rfl
  | cons callback rest ih =>
    rw [firstOfEachName]
    cases before : seen.contains callback.name with
    | true =>
      rw [if_pos rfl, ih, List.map_cons, List.filter_cons_of_neg (by rw [before]; decide)]
    | false =>
      -- A name is passed over behind its first callback, as a repeat is dropped from the names.
      rw [if_neg Bool.false_ne_true, List.map_cons, ih, List.map_cons,
        List.filter_cons_of_pos (by rw [before]; decide), List.eraseDups_cons, List.filter_filter]
      congr 2
      refine List.filter_congr fun name _ => ?_
      rw [List.contains_cons, Bool.not_or]

/-- Where no name has been seen, the callbacks kept have all names, each once and where it first occurs. -/
theorem map_name_firstOfEachName_nil (callbacks : List Callback) :
    (firstOfEachName [] callbacks).map (·.name) = (callbacks.map (·.name)).eraseDups := by
  rw [map_name_firstOfEachName]
  simp only [List.contains_nil, Bool.not_false, List.filter_true]

/-- No two of the callbacks kept share a name. -/
theorem nodup_firstOfEachName (seen : List String) (callbacks : List Callback) :
    ((firstOfEachName seen callbacks).map (·.name)).Nodup := by
  induction callbacks generalizing seen with
  | nil => exact .nil
  | cons callback rest ih =>
    rw [firstOfEachName]
    split
    · exact ih seen
    · -- The names kept behind a callback have not been seen, and its own has.
      refine List.nodup_cons.mpr ⟨fun again => ?_, ih (callback.name :: seen)⟩
      rw [map_name_firstOfEachName, List.mem_eraseDups, List.mem_filter] at again
      simp at again

/-- Callbacks that share no name are all kept, if none of their names has been seen. -/
theorem firstOfEachName_of_nodup {seen : List String} {callbacks : List Callback}
    (distinct : (callbacks.map (·.name)).Nodup)
    (unseen : ∀ callback ∈ callbacks, callback.name ∉ seen) :
    firstOfEachName seen callbacks = callbacks := by
  induction callbacks generalizing seen with
  | nil => rfl
  | cons callback rest ih =>
    obtain ⟨fresh, restDistinct⟩ := List.nodup_cons.mp distinct
    have here : ¬ seen.contains callback.name = true := by
      simpa using unseen callback List.mem_cons_self
    rw [firstOfEachName, if_neg here, ih restDistinct]
    -- No callback behind the first has its name.
    intro other found again
    rcases List.mem_cons.mp again with same | before
    · exact fresh (List.mem_map.mpr ⟨other, found, same⟩)
    · exact unseen other (List.mem_cons_of_mem _ found) before

/-- Looking names up gives callbacks exactly if each name has one, and then those in order. -/
theorem Lookup.all_eq_ok {lookup : Lookup} {names : List String} {found : List Callback} :
    lookup.all names = .ok found ↔ names.map lookup = found.map some := by
  induction names generalizing found with
  | nil => cases found <;> simp [Lookup.all]
  | cons name rest ih =>
    rw [Lookup.all]
    cases held : lookup name with
    | none => cases found <;> simp [held]
    | some callback =>
      cases found with
      | nil => cases lookup.all rest <;> simp [Except.map]
      | cons first others =>
        rw [List.map_cons, List.map_cons, held, List.cons.injEq, ← ih]
        cases lookup.all rest <;> simp [Except.map]

/-- Where callbacks are found under their own names, those found have the names looked up. -/
theorem Lookup.map_name_of_all {lookup : Lookup} {names : List String} {found : List Callback}
    (named : ∀ name ∈ names, ∀ callback, lookup name = some callback → callback.name = name)
    (all : lookup.all names = .ok found) : found.map (·.name) = names := by
  induction names generalizing found with
  | nil =>
    cases all
    rfl
  | cons name rest ih =>
    -- The first name has a callback of that name, and all others follow.
    have each := Lookup.all_eq_ok.mp all
    cases found with
    | nil => cases each
    | cons callback others =>
      obtain ⟨first, later⟩ := List.cons.inj each
      have others := ih (fun other held => named other (List.mem_cons_of_mem _ held))
        (Lookup.all_eq_ok.mpr later)
      rw [List.map_cons, named name List.mem_cons_self callback first, others]

namespace SharedOptions

/-- The names left to be looked up are those enabled that no callback of the options has. -/
theorem mem_uncovered {options : SharedOptions} {name : String} :
    name ∈ options.uncovered
      ↔ name ∈ options.functions.toList ∧ name ∉ options.callbacks.map (·.name) := by
  simp [uncovered]

/-- Enabled names are listed in the order of their octets. -/
theorem uncovered_ascending (options : SharedOptions) :
    options.uncovered.Pairwise fun first second => octets first < octets second := by
  -- A set of names lists them in ascending order, and some of them are still in that order.
  have ascending : options.functions.toList.Pairwise fun first second => first < second :=
    List.pairwise_map.mpr options.functions.ascending
  exact (ascending.filter _).imp lt_iff_octets_lt.mp

/-- No name is left to be looked up twice. -/
theorem uncovered_nodup (options : SharedOptions) : options.uncovered.Nodup := by
  refine (uncovered_ascending options).imp fun before same => ?_
  subst same
  exact List.lt_irrefl _ before

/-- The two passes over callbacks and names gather the callbacks of the options, one of each name, and those found for the names that they leave. -/
theorem activeCallbacks_eq (options : SharedOptions) (lookup : Lookup) :
    options.activeCallbacks lookup
      = (lookup.all options.uncovered).map (firstOfEachName [] options.callbacks ++ ·) := by
  -- The names are listed in ascending order, so none comes twice.
  have distinct : options.functions.toList.Nodup := options.functions.keys_nodup
  have left : (options.functions.toList.filter fun name =>
      !(options.callbacks.foldl Gathering.takeInline {}).seen.contains name) = options.uncovered := by
    refine List.filter_congr fun name _ => ?_
    -- Behind the first pass the names seen are those of the callbacks.
    have seen : name ∈ (options.callbacks.foldl Gathering.takeInline {}).seen
        ↔ name ∈ options.callbacks.map (·.name) := by
      rw [Gathering.mem_seen_foldl_takeInline, or_iff_right List.not_mem_nil]
    rw [Bool.eq_iff_iff]
    simp only [Bool.not_eq_true', ← Bool.not_eq_true, List.contains_iff_mem, seen]
  have gathered := Gathering.foldlM_takeNamed lookup distinct
    (options.callbacks.foldl Gathering.takeInline {})
  rw [left, Gathering.active_foldl_takeInline, List.nil_append] at gathered
  rw [← gathered]
  rfl

/-- Resolving gives the callbacks of the options, one of each name, and those found for the names that they leave. -/
theorem resolve_eq_ok {options : SharedOptions} {lookup : Lookup} {active : List Callback}
    {notices : List Notice} :
    options.resolve lookup = .ok (active, notices)
      ↔ ∃ found, lookup.all options.uncovered = .ok found
        ∧ active = firstOfEachName [] options.callbacks ++ found
        ∧ notices = [.callbacksResolved options.callbacks.length options.functions.size
          active.length] := by
  rw [resolve, activeCallbacks_eq]
  cases lookup.all options.uncovered with
  | error missing => simp [bind, Except.bind, Except.map]
  | ok found =>
    simp only [Except.map, bind, Except.bind, pure, Except.pure, Except.ok.injEq, Prod.mk.injEq,
      exists_eq_left']
    constructor
    · rintro ⟨rfl, rfl⟩
      exact ⟨rfl, rfl⟩
    · rintro ⟨rfl, rfl⟩
      exact ⟨rfl, rfl⟩

/-- Options whose callbacks share no name and cover every name enabled are resolved to just these callbacks, without looking anything up. -/
theorem resolve_of_covering {options : SharedOptions} (lookup : Lookup)
    (distinct : (options.callbacks.map (·.name)).Nodup)
    (covered : ∀ name ∈ options.functions.toList, name ∈ options.callbacks.map (·.name)) :
    options.resolve lookup = .ok (options.callbacks, [.callbacksResolved options.callbacks.length
      options.functions.size options.callbacks.length]) := by
  have none : options.uncovered = [] := by
    refine List.eq_nil_iff_forall_not_mem.mpr fun name found => ?_
    obtain ⟨enabled, absent⟩ := mem_uncovered.mp found
    exact absent (covered name enabled)
  refine resolve_eq_ok.mpr ⟨[], by rw [none]; rfl, ?_, rfl⟩
  rw [firstOfEachName_of_nodup distinct fun _ _ => List.not_mem_nil, List.append_nil]

end SharedOptions

namespace Options

/-- Options are resolved to callbacks of distinct names: those of the options where each name first occurs, and then, in ascending order, those enabled that the options do not have. -/
theorem names_of_resolve {options : Options} {registry : Registry} {active : List Callback}
    {notices : List Notice} (resolved : options.resolve registry.find? = .ok (active, notices)) :
    active.map (·.name) = (options.callbacks.map (·.name)).eraseDups ++ options.shared.uncovered := by
  obtain ⟨found, all, rfl, _⟩ := SharedOptions.resolve_eq_ok.mp resolved
  -- What is found in a registry has the name under which it is found.
  have named := Lookup.map_name_of_all (fun _ _ _ => Registry.name_of_find?) all
  rw [List.map_append, named, map_name_firstOfEachName_nil]
  rfl

/--
The callbacks active for a call, after any registrations: their names are those of the options' own callbacks, where each first occurs, and then those enabled that are not among them, in the order of their octets.

So every name of either kind is covered once, and options that have the active callbacks as their own are resolved to the same callbacks again, whatever is registered.
-/
theorem active_after_registrations (history : List Registration) (options : Options)
    {active : List Callback} {notices : List Notice}
    (resolved : options.resolve (history.foldl Registry.after .empty).find? = .ok (active, notices)) :
    (∃ enabled : List String,
      active.map (·.name) = (options.callbacks.map (·.name)).eraseDups ++ enabled
      ∧ (∀ name, name ∈ enabled
        ↔ name ∈ options.functions.toList ∧ name ∉ options.callbacks.map (·.name))
      ∧ enabled.Pairwise fun first second => octets first < octets second)
    ∧ (active.map (·.name)).Nodup
    ∧ (∀ name, name ∈ options.callbacks.map (·.name) ∨ name ∈ options.functions.toList →
      (active.map (·.name)).count name = 1)
    ∧ ∀ lookup : Lookup, (options.toBuilder.callbacks active).build.resolve lookup
      = .ok (active, [.callbacksResolved active.length options.functions.size active.length]) := by
  have names := names_of_resolve resolved
  have distinct : (active.map (·.name)).Nodup := by
    rw [names, ← map_name_firstOfEachName_nil]
    -- A name that is left to be looked up is not one of the options' callbacks.
    refine List.nodup_append.mpr ⟨nodup_firstOfEachName [] options.callbacks,
      SharedOptions.uncovered_nodup options.shared, fun name own other left same => ?_⟩
    rw [map_name_firstOfEachName_nil, List.mem_eraseDups] at own
    exact (SharedOptions.mem_uncovered.mp left).2 (same ▸ own)
  have covered : ∀ name, name ∈ options.callbacks.map (·.name) ∨ name ∈ options.functions.toList →
      name ∈ active.map (·.name) := by
    intro name needed
    rw [names, List.mem_append, List.mem_eraseDups]
    by_cases own : name ∈ options.callbacks.map (·.name)
    · exact .inl own
    · exact .inr (SharedOptions.mem_uncovered.mpr ⟨needed.resolve_left own, own⟩)
  refine ⟨⟨options.shared.uncovered, names, fun name => SharedOptions.mem_uncovered,
    SharedOptions.uncovered_ascending options.shared⟩, distinct, fun name needed => ?_, fun lookup => ?_⟩
  · exact List.count_eq_one_of_mem distinct (covered name needed)
  · exact SharedOptions.resolve_of_covering lookup distinct fun name enabled =>
      covered name (.inr enabled)

/-- A call with a callback given twice, one that hides a registered one, and a name whose registration was replaced. -/
theorem active_after_registrations_example :
    let callback (identity : Nat) (name : String) : Callback :=
      ⟨identity, name, "", ⟨.null, trivial⟩, fun arguments _ => .ok arguments⟩
    let history : List Registration :=
      [.insert (callback 1 "time"), .insert (callback 2 "weather"), .register (callback 3 "time")]
    let options : Options :=
      { callbacks := [callback 4 "weather", callback 5 "news", callback 6 "weather"]
        functions := .ofNames ["weather", "time"] }
    let active := [callback 4 "weather", callback 5 "news", callback 3 "time"]
    options.resolve (history.foldl Registry.after .empty).find?
      = .ok (active, [.callbacksResolved 3 2 3])
    ∧ ∀ lookup : Lookup, (options.toBuilder.callbacks active).build.resolve lookup
      = .ok (active, [.callbacksResolved 3 2 3]) := by
  intro callback history options active
  have resolved : options.resolve (history.foldl Registry.after .empty).find?
      = .ok (active, [.callbacksResolved 3 2 3]) := by cbv
  exact ⟨resolved, (active_after_registrations history options resolved).2.2.2⟩

end Options

end ChatOptions
