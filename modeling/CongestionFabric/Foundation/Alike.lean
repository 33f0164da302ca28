import CongestionFabric.Foundation.UnorderedMap
import Mathlib.Data.List.Forall2

/-!
Contract: pairs of maps with the same keys in the same order.

Owns the relation between two maps that are enumerated alike and whose values are
related key by key, and its rule for every operation on maps.

Does not own: any particular relation between values.
-/

namespace Foundation

namespace UnorderedMap

variable {K V : Type} {rel : V → V → Prop} {left right : UnorderedMap K V}

/-- The two maps are enumerated alike, and values under the same key are related. -/
def Alike (rel : V → V → Prop) (left right : UnorderedMap K V) : Prop :=
  List.Forall₂ (fun first second => first.1 = second.1 ∧ rel first.2 second.2)
    left.entries right.entries

theorem Alike.refl (reflexive : ∀ value, rel value value) (map : UnorderedMap K V) :
    map.Alike rel map :=
  List.forall₂_same.mpr fun entry _ => ⟨rfl, reflexive entry.2⟩

theorem Alike.keys_eq (alike : left.Alike rel right) : left.keys = right.keys := by
  have same : List.Forall₂ Eq left.keys right.keys :=
    List.forall₂_map_left_iff.mpr (List.forall₂_map_right_iff.mpr
      (alike.imp fun _ _ related => related.1))
  rwa [List.forall₂_eq_eq_eq] at same

theorem Alike.size_eq (alike : left.Alike rel right) : left.size = right.size :=
  alike.length_eq

theorem Alike.mapValues (alike : left.Alike rel right) {rewrite rewriteToo : K → V → V}
    (kept : ∀ key first second, rel first second →
      rel (rewrite key first) (rewriteToo key second)) :
    (left.mapValues rewrite).Alike rel (right.mapValues rewriteToo) := by
  refine List.forall₂_map_left_iff.mpr (List.forall₂_map_right_iff.mpr (alike.imp ?_))
  rintro ⟨key, first⟩ ⟨_, second⟩ ⟨rfl, related⟩
  exact ⟨rfl, kept key first second related⟩

/-- Two rewritings of one map. -/
theorem alike_mapValues {rewrite rewriteToo : K → V → V}
    (related : ∀ key value, rel (rewrite key value) (rewriteToo key value))
    (map : UnorderedMap K V) : (map.mapValues rewrite).Alike rel (map.mapValues rewriteToo) :=
  List.forall₂_map_left_iff.mpr (List.forall₂_map_right_iff.mpr
    (List.forall₂_same.mpr fun entry _ => ⟨rfl, related entry.1 entry.2⟩))

/-- Walks with the same running state stay together. -/
theorem Alike.mapAccumulate {S : Type} (alike : left.Alike rel right)
    {visit : S → K → V → S × V}
    (kept : ∀ state key first second, rel first second →
      (visit state key first).1 = (visit state key second).1 ∧
        rel (visit state key first).2 (visit state key second).2) (state : S) :
    (left.mapAccumulate visit state).Alike rel (right.mapAccumulate visit state) := by
  change List.Forall₂ _ (accumulate visit state left.entries) (accumulate visit state right.entries)
  unfold Alike at alike
  generalize left.entries = leftEntries at alike ⊢
  generalize right.entries = rightEntries at alike ⊢
  induction alike generalizing state with
  | nil => exact .nil
  | @cons first second _ _ related _ inductionHypothesis =>
      obtain ⟨key, first⟩ := first
      obtain ⟨_, second⟩ := second
      obtain ⟨rfl, related⟩ := related
      obtain ⟨together, stillRelated⟩ := kept state key first second related
      rw [accumulate, accumulate, ← together]
      exact .cons ⟨rfl, stillRelated⟩ (inductionHypothesis _)

variable [DecidableEq K]

/-- Related values, or none in both. -/
theorem Alike.find? (alike : left.Alike rel right) (key : K) :
    left.find? key = none ∧ right.find? key = none ∨
      ∃ first second, left.find? key = some first ∧ right.find? key = some second ∧
        rel first second := by
  unfold Alike at alike
  unfold UnorderedMap.find?
  generalize left.entries = leftEntries at alike ⊢
  generalize right.entries = rightEntries at alike ⊢
  induction alike with
  | nil => exact Or.inl ⟨rfl, rfl⟩
  | @cons first second _ _ related _ inductionHypothesis =>
      rw [lookup_cons, lookup_cons, ← related.1]
      by_cases here : first.1 = key
      · rw [if_pos here, if_pos here]
        exact Or.inr ⟨first.2, second.2, rfl, rfl, related.2⟩
      · rw [if_neg here, if_neg here]
        exact inductionHypothesis

theorem Alike.contains_eq (alike : left.Alike rel right) (key : K) :
    left.contains key = right.contains key := by
  unfold contains
  rcases alike.find? key with ⟨first, second⟩ | ⟨_, _, first, second, -⟩
  · rw [first, second]
  · rw [first, second]
    rfl

theorem Alike.modify (alike : left.Alike rel right) {first second : V} (related : rel first second)
    (key : K) : (left.modify key first).Alike rel (right.modify key second) := by
  refine alike.mapValues fun current old oldToo same => ?_
  split
  · exact related
  · exact same

theorem Alike.emplace (alike : left.Alike rel right) {first second : V} (related : rel first second)
    (key : K) : (left.emplace key first).Alike rel (right.emplace key second) := by
  unfold UnorderedMap.emplace
  have same := alike.contains_eq key
  by_cases absent : right.contains key = false
  · rw [dif_pos absent, dif_pos (same.trans absent)]
    exact List.rel_append alike (.cons ⟨rfl, related⟩ .nil)
  · rw [dif_neg absent, dif_neg (same ▸ absent)]
    exact alike

theorem Alike.erase (alike : left.Alike rel right) (key : K) :
    (left.erase key).Alike rel (right.erase key) := by
  apply List.rel_filter (fun {first second} related => ?_) alike
  show decide (first.1 ≠ key) = true ↔ decide (second.1 ≠ key) = true
  rw [related.1]

/-- Two maps that are reordered alike stay related. -/
theorem Alike.reorder {leftNext rightNext : UnorderedMap K V} (alike : left.Alike rel right)
    (leftSame : left.Same leftNext) (rightSame : right.Same rightNext)
    (keys : leftNext.keys = rightNext.keys) : leftNext.Alike rel rightNext := by
  have length : leftNext.entries.length = rightNext.entries.length := by
    simpa [UnorderedMap.keys] using congrArg List.length keys
  refine List.forall₂_iff_get.mpr ⟨length, fun index leftBound rightBound => ?_⟩
  have key : (leftNext.entries.get ⟨index, leftBound⟩).1 =
      (rightNext.entries.get ⟨index, rightBound⟩).1 := by
    have there := congrArg (fun keys => keys[index]?) keys
    simpa [UnorderedMap.keys, leftBound, rightBound] using there
  have first := mem_entries_iff.mp (List.get_mem leftNext.entries ⟨index, leftBound⟩)
  have second := mem_entries_iff.mp (List.get_mem rightNext.entries ⟨index, rightBound⟩)
  rw [← leftSame.find?_eq, key] at first
  rw [← rightSame.find?_eq] at second
  rcases alike.find? (rightNext.entries.get ⟨index, rightBound⟩).1 with
    ⟨absent, -⟩ | ⟨stored, storedToo, found, foundToo, related⟩
  · rw [absent] at first
    exact absurd first (by simp)
  · obtain rfl := Option.some.inj (found.symm.trans first)
    obtain rfl := Option.some.inj (foundToo.symm.trans second)
    exact ⟨key, related⟩

omit [DecidableEq K] in
/-- Equal values under the same keys in the same order: the same map. -/
theorem Alike.eq (alike : left.Alike Eq right) : left = right := by
  apply ext_entries
  have same := alike.imp fun _ _ related => Prod.ext related.1 related.2
  rwa [List.forall₂_eq_eq_eq] at same

end UnorderedMap

end Foundation
