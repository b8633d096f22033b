import ChatOptions.Json.Digest
import ChatOptions.Proofs.Decimal.Double

/-! Equal JSON makes equal hash writes, and so do the parts that options are made of. -/

namespace ChatOptions

/-- Equal numbers make equal writes, although the two zeros differ in their bits. -/
theorem Number.writes_eq {first second : Number} (equal : (first == second) = true) :
    first.writes = second.writes := by
  cases first with
  | integer value inRange =>
    cases second with
    | integer other otherInRange =>
      have same : value = other := beq_iff_eq.mp equal
      subst same
      rfl
    | float other finite => cases equal
  | float value finite =>
    cases second with
    | integer other otherInRange => cases equal
    | float other otherFinite =>
      -- Zeros are written as the positive one, and other equal doubles are the same.
      rcases Double.zeros_or_eq (show (value == other) = true from equal) with
        ⟨zero, otherZero⟩ | same
      · simp only [Number.writes, zero, otherZero, if_true]
      · subst same
        rfl

namespace Json

mutual

/-- Equal trees make equal writes. -/
theorem writes_eq (hash : HashFunction) :
    ∀ {first second : Json}, first.beq second = true → first.writes hash = second.writes hash
  | .null, second, equal => by
    -- Trees of different kinds are never equal.
    cases second <;> first | rfl | cases equal
  | .bool value, second, equal => by
    cases second <;> first | cases equal | skip
    have same := beq_iff_eq.mp equal
    subst same
    rfl
  | .number value, second, equal => by
    cases second <;> first | cases equal | skip
    simp only [writes, Number.writes_eq equal]
  | .string value, second, equal => by
    cases second <;> first | cases equal | skip
    have same := beq_iff_eq.mp equal
    subst same
    rfl
  | .array items, second, equal => by
    cases second <;> first | cases equal | skip
    -- The length comes first and the items follow it.
    obtain ⟨lengths, writes⟩ := writesItems_eq hash equal
    simp only [Json.writes, lengths, writes]
  | .object members, second, equal => by
    cases second <;> first | cases equal | skip
    -- The number of members comes first, and then one word for all of them.
    obtain ⟨lengths, sums⟩ := sumMembers_eq hash equal
    simp only [Json.writes, lengths, sums]

/-- Lists of equal trees are equally long and make equal writes. -/
theorem writesItems_eq (hash : HashFunction) :
    ∀ {first second : List Json}, beqItems first second = true →
      first.length = second.length ∧ writesItems hash first = writesItems hash second
  | [], [], _ => ⟨rfl, rfl⟩
  | [], _ :: _, equal => by cases equal
  | _ :: _, [], equal => by cases equal
  | item :: rest, other :: others, equal => by
    -- The first two make equal writes, and so do all others.
    obtain ⟨heads, tails⟩ := (Bool.and_eq_true ..).mp equal
    obtain ⟨lengths, writes⟩ := writesItems_eq hash tails
    exact ⟨by simp only [List.length_cons, lengths],
      by simp only [writesItems, writes_eq hash heads, writes]⟩

/-- Members that agree one by one are equally many and add up to the same. -/
theorem sumMembers_eq (hash : HashFunction) :
    ∀ {first second : List (String × Json)}, beqMembers first second = true →
      first.length = second.length ∧ sumMembers hash first = sumMembers hash second
  | [], [], _ => ⟨rfl, rfl⟩
  | [], _ :: _, equal => by cases equal
  | _ :: _, [], equal => by cases equal
  | (key, value) :: rest, (other, held) :: others, equal => by
    obtain ⟨heads, tails⟩ := (Bool.and_eq_true ..).mp equal
    obtain ⟨keys, values⟩ := (Bool.and_eq_true ..).mp heads
    -- Equal members have the same key and equal values, so they have the same hash.
    have sameKey := beq_iff_eq.mp keys
    subst sameKey
    obtain ⟨lengths, sums⟩ := sumMembers_eq hash tails
    exact ⟨by simp only [List.length_cons, lengths],
      by simp only [sumMembers, writes_eq hash values, sums]⟩

end

end Json

/-- Whether equal parts make equal writes. -/
def EqualWrites {α : Type} [BEq α] (writes : α → List HashWrite) : Prop :=
  ∀ ⦃first second : α⦄, (first == second) = true → writes first = writes second

namespace EqualWrites

variable {α : Type} [BEq α] {part : α → List HashWrite}

/-- Parts whose equality is identity make equal writes, whatever they write. -/
theorem of_lawful [LawfulBEq α] (part : α → List HashWrite) : EqualWrites part :=
  fun _ _ equal => congrArg part (eq_of_beq equal)

/-- Optional parts make equal writes if the parts do. -/
theorem option (equal : EqualWrites part) : EqualWrites (HashWrite.option part)
  | none, none, _ => rfl
  | none, some _, same => by cases same
  | some _, none, same => by cases same
  | some _, some _, same => congrArg (HashWrite.word 1 :: ·) (equal same)

/-- Lists that agree part by part are equally long, and make equal writes part by part. -/
theorem flatMap (equal : EqualWrites part) : ∀ {first second : List α}, (first == second) = true →
    first.length = second.length ∧ first.flatMap part = second.flatMap part
  | [], [], _ => ⟨rfl, rfl⟩
  | [], _ :: _, same => by cases same
  | _ :: _, [], same => by cases same
  | value :: rest, other :: others, same => by
    obtain ⟨heads, tails⟩ := (Bool.and_eq_true ..).mp same
    obtain ⟨lengths, writes⟩ := flatMap equal tails
    exact ⟨by simp only [List.length_cons, lengths],
      by simp only [List.flatMap_cons, equal heads, writes]⟩

/-- Lists of parts make equal writes if the parts do. -/
theorem list (equal : EqualWrites part) : EqualWrites (HashWrite.list part) := by
  intro first second same
  -- The length comes first and the parts follow it.
  obtain ⟨lengths, writes⟩ := equal.flatMap same
  simp only [HashWrite.list, lengths, writes]

end EqualWrites

/-- Equal JSON values make equal writes. -/
theorem Value.equalWrites (hash : HashFunction) : EqualWrites (Value.writes hash) :=
  fun _ _ equal => Json.writes_eq hash equal

end ChatOptions
