import ChatOptions.Json.Basic
import ChatOptions.Proofs.Decimal.Double
import ChatOptions.Proofs.SortedMap

/-! Which JSON says the same: numbers of one kind and value, lists place by place, and objects key by key in whatever order. -/

namespace ChatOptions

/-- Whether two numbers say the same: they are of one kind, and doubles have the same bits or are both zeros. -/
inductive Number.Same : Number → Number → Prop
  | integer {value inRange} : Same (.integer value inRange) (.integer value inRange)
  | float {value finite} : Same (.float value finite) (.float value finite)
  | zeros {first second finite otherFinite} (firstZero : first = 0 ∨ first = -0)
    (secondZero : second = 0 ∨ second = -0) :
    Same (.float first finite) (.float second otherFinite)

/-- A number says the same as itself. -/
theorem Number.Same.refl : ∀ value : Number, value.Same value
  | .integer _ _ => .integer
  | .float _ _ => .float

/-- What says the same as another number is said by that one too. -/
theorem Number.Same.symm {first second : Number} (same : first.Same second) :
    second.Same first := by
  cases same with
  | integer => exact .integer
  | float => exact .float
  | zeros firstZero secondZero => exact .zeros secondZero firstZero

/-- Two numbers that say the same as a third say the same. -/
theorem Number.Same.trans {first second third : Number} (same : first.Same second)
    (next : second.Same third) : first.Same third := by
  cases same with
  | integer => exact next
  | float => exact next
  | zeros firstZero secondZero =>
    cases next with
    | float => exact .zeros firstZero secondZero
    | zeros _ thirdZero => exact .zeros firstZero thirdZero

/-- Numbers are equal exactly if they say the same. -/
theorem Number.beq_iff_same {first second : Number} :
    (first == second) = true ↔ first.Same second := by
  cases first with
  | integer value inRange =>
    cases second with
    | integer other otherInRange =>
      constructor
      · intro equal
        cases (beq_iff_eq.mp equal : value = other)
        exact .integer
      · rintro ⟨⟩
        exact beq_self_eq_true value
    | float other finite => exact ⟨nofun, nofun⟩
  | float value finite =>
    cases second with
    | integer other inRange => exact ⟨nofun, nofun⟩
    | float other otherFinite =>
      -- Neither of two finite doubles is the one that differs from itself.
      show (value == other) = true ↔ _
      rw [Float.beq_iff_ne_nan_and_eq]
      constructor
      · rintro ⟨_, _, rfl | ⟨zero, otherZero⟩ | ⟨zero, otherZero⟩⟩
        · exact .float
        · exact .zeros (.inl zero) (.inr otherZero)
        · exact .zeros (.inr zero) (.inl otherZero)
      · intro same
        refine ⟨Double.ne_nan_of_isFinite finite, Double.ne_nan_of_isFinite otherFinite, ?_⟩
        cases same with
        | float => exact .inl rfl
        | zeros firstZero secondZero =>
          rcases firstZero with rfl | rfl <;> rcases secondZero with rfl | rfl <;> simp

namespace Json

/-- Whether two trees say the same. Objects are compared by what is found under their keys, so the order of members does not count. -/
inductive Same : Json → Json → Prop
  | null : Same .null .null
  | bool {value} : Same (.bool value) (.bool value)
  | number {first second} (same : first.Same second) : Same (.number first) (.number second)
  | string {value} : Same (.string value) (.string value)
  | array {items others : List Json} (lengths : items.length = others.length)
    (each : ∀ (place : Nat) first second, items[place]? = some first →
      others[place]? = some second → Same first second) : Same (.array items) (.array others)
  | object {members others : List (String × Json)}
    (keys : ∀ key, ( findEntry? key members).isSome = ( findEntry? key others).isSome)
    (each : ∀ key first second, findEntry? key members = some first →
      findEntry? key others = some second → Same first second) :
    Same (.object members) (.object others)

mutual

/-- Trees that agree say the same. -/
theorem same_of_beq : ∀ {first second : Json}, first.beq second = true → Same first second
  -- Trees of different kinds never agree.
  | .null, second, equal => by
    cases second with
    | null => exact .null
    | _ => exact absurd equal Bool.false_ne_true
  | .bool value, second, equal => by
    cases second with
    | bool other =>
      cases (beq_iff_eq.mp equal : value = other)
      exact .bool
    | _ => exact absurd equal Bool.false_ne_true
  | .number value, second, equal => by
    cases second with
    | number other => exact .number (Number.beq_iff_same.mp equal)
    | _ => exact absurd equal Bool.false_ne_true
  | .string value, second, equal => by
    cases second with
    | string other =>
      cases (beq_iff_eq.mp equal : value = other)
      exact .string
    | _ => exact absurd equal Bool.false_ne_true
  | .array items, second, equal => by
    cases second with
    | array others =>
      obtain ⟨lengths, each⟩ := sameItems_of_beq equal
      exact .array lengths each
    | _ => exact absurd equal Bool.false_ne_true
  | .object members, second, equal => by
    cases second with
    | object others =>
      obtain ⟨keys, each⟩ := sameMembers_of_beq equal
      exact .object keys each
    | _ => exact absurd equal Bool.false_ne_true

/-- Lists that agree are equally long and say the same in each place. -/
theorem sameItems_of_beq : ∀ {items others : List Json}, beqItems items others = true →
    items.length = others.length ∧ ∀ (place : Nat) first second, items[place]? = some first →
      others[place]? = some second → Same first second
  | [], [], _ => ⟨rfl, nofun⟩
  | item :: rest, other :: more, equal => by
    obtain ⟨heads, tails⟩ := (Bool.and_eq_true ..).mp equal
    obtain ⟨lengths, each⟩ := sameItems_of_beq tails
    refine ⟨by simp only [List.length_cons, lengths], fun place first second here there => ?_⟩
    cases place with
    | zero =>
      cases here
      cases there
      exact same_of_beq heads
    | succ place => exact each place first second here there

/-- Members that agree have the same keys and say the same under each. -/
theorem sameMembers_of_beq : ∀ {members others : List (String × Json)},
    beqMembers members others = true →
      (∀ key, ( findEntry? key members).isSome = ( findEntry? key others).isSome)
      ∧ ∀ key first second, findEntry? key members = some first →
        findEntry? key others = some second → Same first second
  | [], [], _ => ⟨fun _ => rfl, nofun⟩
  | (name, value) :: rest, (other, held) :: more, equal => by
    obtain ⟨heads, tails⟩ := (Bool.and_eq_true ..).mp equal
    obtain ⟨names, values⟩ := (Bool.and_eq_true ..).mp heads
    cases (beq_iff_eq.mp names : name = other)
    obtain ⟨keys, each⟩ := sameMembers_of_beq tails
    -- A key finds the first member on both sides, or is looked for behind it on both.
    refine ⟨fun key => ?_, fun key first second => ?_⟩
    · rw [ findEntry?, findEntry?]
      split
      · rfl
      · exact keys key
    · rw [ findEntry?, findEntry?]
      split
      · rintro ⟨⟩ ⟨⟩
        exact same_of_beq values
      · exact each key first second

end

mutual

/-- A tree agrees with itself. -/
theorem beq_self : ∀ tree : Json, tree.beq tree = true
  | .null => rfl
  | .bool value => beq_self_eq_true value
  | .number value => Number.beq_iff_same.mpr (.refl value)
  | .string value => beq_self_eq_true value
  | .array items => beqItems_self items
  | .object members => beqMembers_self members

/-- A list agrees with itself. -/
theorem beqItems_self : ∀ items : List Json, beqItems items items = true
  | [] => rfl
  | item :: rest => (Bool.and_eq_true ..).mpr ⟨beq_self item, beqItems_self rest⟩

/-- Members agree with themselves. -/
theorem beqMembers_self : ∀ members : List (String × Json), beqMembers members members = true
  | [] => rfl
  | (key, value) :: rest => by
    rw [beqMembers, beq_self_eq_true, beq_self value, beqMembers_self rest]
    rfl

end

/-- Lists of one length that agree in each place agree. -/
theorem beqItems_of_each : ∀ {items others : List Json}, items.length = others.length →
    (∀ (place : Nat) first second, items[place]? = some first → others[place]? = some second →
      first.beq second = true) → beqItems items others = true
  | [], [], _, _ => rfl
  | [], _ :: _, lengths, _ => absurd lengths (Nat.succ_ne_zero _).symm
  | _ :: _, [], lengths, _ => absurd lengths (Nat.succ_ne_zero _)
  | item :: rest, other :: more, lengths, each => by
    rw [beqItems, each 0 item other rfl rfl, Bool.true_and]
    exact beqItems_of_each (Nat.succ.inj lengths) fun place => each (place + 1)

/-- Members are compared as lists of entries are. -/
theorem beqMembers_eq_beq : ∀ members others : List (String × Json),
    beqMembers members others = (members == others)
  | [], [] => rfl
  | [], _ :: _ => rfl
  | _ :: _, [] => rfl
  | (key, value) :: rest, (other, held) :: more => by
    rw [beqMembers, beqMembers_eq_beq rest more]
    rfl

/-- Every tree of a list of normal ones is normal. -/
theorem NormalItems.of_getElem? {item : Json} : ∀ {items : List Json} {place : Nat},
    NormalItems items → items[place]? = some item → item.Normal
  | _ :: _, 0, normal, found => by
    cases found
    exact normal.1
  | _ :: _, _ + 1, normal, found => NormalItems.of_getElem? normal.2 found

/-- Every tree found among normal members is normal. -/
theorem NormalMembers.of_found {key : String} {value : Json} :
    ∀ {members : List (String × Json)}, NormalMembers members →
      findEntry? key members = some value → value.Normal
  | (other, held) :: rest, normal, found => by
    rw [ findEntry?] at found
    split at found
    · cases found
      exact normal.1
    · exact NormalMembers.of_found normal.2 found

/-- Normal trees that say the same agree. -/
theorem beq_of_same {first second : Json} (same : Same first second) (normal : first.Normal)
    (otherNormal : second.Normal) : first.beq second = true := by
  -- The induction is on what the trees have in common, as their parts are normal, too.
  induction same with
  | null => rfl
  | bool => exact beq_self_eq_true _
  | number same => exact Number.beq_iff_same.mpr same
  | string => exact beq_self_eq_true _
  | array lengths each ih =>
    refine beqItems_of_each lengths fun place first second here there => ?_
    exact ih place first second here there (normal.of_getElem? here)
      (otherNormal.of_getElem? there)
  | object keys each ih =>
    show beqMembers _ _ = true
    -- Normal members ascend, so those with the same keys stand in the same places.
    rw [beqMembers_eq_beq]
    refine normal.1.beq_of_findEntry?_rel otherNormal.1 fun key => ?_
    refine optionRel_iff.mpr ⟨keys key, fun first second here there => ?_⟩
    exact ih key first second here there (normal.2.of_found here)
      (otherNormal.2.of_found there)

/-- A tree says the same as itself. -/
theorem Same.refl (tree : Json) : Same tree tree := same_of_beq (beq_self tree)

/-- What says the same as another tree is said by that one too. -/
theorem Same.symm {first second : Json} (same : Same first second) : Same second first := by
  induction same with
  | null => exact .null
  | bool => exact .bool
  | number same => exact .number same.symm
  | string => exact .string
  | array lengths each ih =>
    exact .array lengths.symm fun place first second here there => ih place second first there here
  | object keys each ih =>
    exact .object (fun key => (keys key).symm) fun key first second here there =>
      ih key second first there here

/-- Two trees that say the same as a third say the same. -/
theorem Same.trans {first second third : Json} (same : Same first second)
    (next : Same second third) : Same first third := by
  induction same generalizing third with
  | null => exact next
  | bool => exact next
  | number same =>
    cases next with
    | number next => exact .number (same.trans next)
  | string => exact next
  | @array items others lengths each ih =>
    cases next with
    | array nextLengths nextEach =>
      refine .array (lengths.trans nextLengths) fun place first third here there => ?_
      -- What stands between the two is in the same place of the list between.
      obtain ⟨inside, _⟩ := List.getElem?_eq_some_iff.mp here
      have between : others[place]? = some others[place] := List.getElem?_eq_getElem (lengths ▸ inside)
      exact ih place _ _ here between (nextEach place _ _ between there)
  | @object members others keys each ih =>
    cases next with
    | object nextKeys nextEach =>
      refine .object (fun key => (keys key).trans (nextKeys key)) fun key first third here there => ?_
      -- What stands between the two is under the same key of the object between.
      obtain ⟨held, between⟩ : ∃ held, findEntry? key others = some held := by
        rw [← Option.isSome_iff_exists, ← keys key, here, Option.isSome_some]
      exact ih key _ _ here between (nextEach key _ _ between there)

end Json

/-- Whether two values say the same. -/
def Value.Same (first second : Value) : Prop := Json.Same first.tree second.tree

/-- Values are equal exactly if they say the same. -/
theorem Value.beq_iff_same {first second : Value} :
    (first == second) = true ↔ first.Same second :=
  ⟨Json.same_of_beq, fun same => Json.beq_of_same same first.normal second.normal⟩

/-- Saying the same is an equivalence of values. -/
theorem Value.same_equivalence : Equivalence Value.Same :=
  ⟨fun value => .refl value.tree, .symm, .trans⟩

end ChatOptions
