import ChatOptions.Proofs.Options.LastWrites

/-! Merging entries into a tool context: every entry either adds a key or is reported as overwriting one. -/

namespace ChatOptions

/-- The keys of a list that are overwritten when they are put into a context in order: those that the context had, and those that come again in the list. -/
def overwritten (context : ToolContext) (keys : List String) : List String :=
  -- What stands in front of a key in the list has been put into the context before it.
  (keys.zipIdx.filter fun (key, place) =>
    context.contains key || (keys.take place).contains key).map Prod.fst

/-- A key put into a context is overwritten if it was there, and it is there for the keys behind it. -/
theorem overwritten_cons (context : ToolContext) (key : String) (value : Value)
    (keys : List String) : overwritten context (key :: keys)
      = (if context.contains key then [key] else []) ++ overwritten (context.insert key value) keys := by
  -- Behind the first key a key has been met if it is that one, or if it was met among the others.
  have met : ∀ later : String × Nat, (context.contains later.1
      || ((key :: keys).take (later.2 + 1)).contains later.1)
        = ((context.insert key value).contains later.1 || (keys.take later.2).contains later.1) := by
    intro later
    rw [SortedMap.contains_insert, List.take_succ_cons, List.contains_cons]
    by_cases same : later.1 = key
    · simp [same]
    · simp [same, beq_eq_false_iff_ne.mpr same]
  have behind : ((keys.zipIdx 1).filter fun (later, place) => context.contains later
      || ((key :: keys).take place).contains later).map Prod.fst
        = overwritten (context.insert key value) keys := by
    rw [List.zipIdx_succ, List.filter_map, List.map_map, overwritten]
    simp only [Function.comp_def, met]
  rw [← behind, overwritten, List.zipIdx_cons, List.filter_cons]
  -- Nothing stands in front of the first key, so it is overwritten only if the context had it.
  by_cases held : context.contains key = true <;> simp [held]

/-- No more keys are overwritten than are put into a context. -/
theorem length_overwritten_le (context : ToolContext) (keys : List String) :
    (overwritten context keys).length ≤ keys.length := by
  have kept := List.length_filter_le (fun (key, place) =>
    context.contains key || (keys.take place).contains key) keys.zipIdx
  rw [overwritten, List.length_map]
  rwa [List.length_zipIdx] at kept

/-- What options hold in their tool context, which is nothing where it is absent. -/
def Options.contextHeld (options : Options) : ToolContext := options.toolContext.getD .empty

namespace Builder

/-- Merging gives notice of every overwritten key, in order. -/
theorem merge_snd (context : ToolContext) (entries : List (String × Value)) :
    (merge context entries).2
      = (overwritten context (entries.map Prod.fst)).map .contextOverwritten := by
  -- Each entry is put into the context that those before it have left.
  induction entries generalizing context with
  | nil => rfl
  | cons entry rest ih =>
    obtain ⟨key, value⟩ := entry
    rw [List.map_cons, overwritten_cons context key value, List.map_append, ← ih, merge]
    by_cases held : context.contains key = true <;> simp [held]

/-- Of the entries merged into a context each makes it larger by one, or gives a notice. -/
theorem size_merge (context : ToolContext) (entries : List (String × Value)) :
    (merge context entries).1.size + (merge context entries).2.length
      = context.size + entries.length := by
  induction entries generalizing context with
  | nil => rfl
  | cons entry rest ih =>
    obtain ⟨key, value⟩ := entry
    have further := ih (context.insert key value)
    have here := context.size_insert key value
    rw [merge, List.length_cons]
    -- A key that was there leaves the size as it is and gives a notice; a new one does the reverse.
    by_cases held : context.contains key = true
    · simp only [held, if_true, List.length_cons] at here ⊢
      omega
    · simp only [held, if_false, Bool.false_eq_true] at here ⊢
      omega

/-- Merging two lists one after the other is merging them as one. -/
theorem merge_append (context : ToolContext) (first second : List (String × Value)) :
    merge context (first ++ second)
      = ((merge (merge context first).1 second).1,
          (merge context first).2 ++ (merge (merge context first).1 second).2) := by
  induction first generalizing context with
  | nil => rfl
  | cons entry rest ih =>
    obtain ⟨key, value⟩ := entry
    rw [List.cons_append, merge, ih, merge]
    by_cases held : context.contains key = true <;> simp [held]

/-- Two calls that merge entries do what one call with all of them does. -/
theorem toolContext_append (builder : Builder) (first second : List (String × Value)) :
    builder.toolContext (first ++ second)
      = (((builder.toolContext first).1.toolContext second).1,
          (builder.toolContext first).2 ++ ((builder.toolContext first).1.toolContext second).2) := by
  -- The second call finds the context that the first has left.
  simp only [toolContext, merge_append, Option.getD_some]

/-- A run of calls that merge entries, one or more, does what one call with all of them does. -/
theorem run_toolContext (builder : Builder) (first : List (String × Value))
    (rest : List (List (String × Value))) :
    builder.run ((first :: rest).map .toolContext)
      = .ok (builder.toolContext (first :: rest).flatten) := by
  induction rest generalizing builder first with
  | nil => simp [run, set, bind, Except.bind, pure, Except.pure]
  | cons second rest ih =>
    have further := ih (builder.toolContext first).1 second
    rw [List.map_cons, run, set, List.flatten_cons, toolContext_append]
    simp only [bind, Except.bind, further]
    rfl

/--
Merging entries into the tool context conserves them.

Afterwards the context is there, each key has the value of its last entry or else what it had before, and nothing else has changed.
The log names every key that is overwritten, in order, and every other entry makes the context larger by one.
A list split over one call or more leaves the same behind and is logged alike.
-/
theorem toolContext_conserves (builder : Builder) (entries : List (String × Value)) :
    (∃ context : ToolContext,
      (builder.toolContext entries).1.build = { builder.build with toolContext := some context }
      ∧ (∀ key, context.find? key = (SortedMap.lastValue? key entries).or
          (builder.build.contextHeld.find? key))
      ∧ builder.build.contextHeld.size ≤ context.size
      ∧ entries.length = (builder.toolContext entries).2.length
          + (context.size - builder.build.contextHeld.size))
    ∧ (builder.toolContext entries).2
        = (overwritten builder.build.contextHeld (entries.map Prod.fst)).map .contextOverwritten
    ∧ (builder.toolContext entries).2.map (fun notice => (notice.message, notice.details))
        = (overwritten builder.build.contextHeld (entries.map Prod.fst)).map
            (fun key => ("overwriting tool context entry", [("key", key)]))
    ∧ ∀ (first : List (String × Value)) (rest : List (List (String × Value))),
        builder.run ((first :: rest).map .toolContext)
          = .ok (builder.toolContext (first :: rest).flatten) := by
  have logged : (builder.toolContext entries).2
      = (overwritten builder.build.contextHeld (entries.map Prod.fst)).map .contextOverwritten :=
    merge_snd _ entries
  have balance : (merge builder.build.contextHeld entries).1.size
      + (builder.toolContext entries).2.length = builder.build.contextHeld.size + entries.length :=
    size_merge _ entries
  -- No more is logged than there are entries, so the context does not become smaller.
  have atMost : (builder.toolContext entries).2.length ≤ entries.length := by
    have bound := length_overwritten_le builder.build.contextHeld (entries.map Prod.fst)
    rw [List.length_map] at bound
    rwa [logged, List.length_map]
  refine ⟨⟨(merge builder.build.contextHeld entries).1, rfl, fun key => ?_, ?_, ?_⟩, logged, ?_,
    builder.run_toolContext⟩
  · rw [merge_fst, SortedMap.find?_foldl_insert]
  · omega
  · omega
  · rw [logged, List.map_map]
    rfl

/-- A key that comes twice is logged once where it is new, and twice where it was there before. -/
example :
    let entries : List (String × Value) :=
      [("a", .ofJson .null), ("b", .ofJson .null), ("a", .ofJson (.bool true))]
    let first := Builder.new.toolContext entries
    first.2 = [.contextOverwritten "a"] ∧ (first.1.toolContext entries).2
      = [.contextOverwritten "a", .contextOverwritten "b", .contextOverwritten "a"] := by
  decide +kernel

end Builder

end ChatOptions
