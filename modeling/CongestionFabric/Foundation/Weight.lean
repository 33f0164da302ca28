import CongestionFabric.Foundation.UnorderedMap
import Mathlib.Algebra.Order.BigOperators.Group.Finset
import Mathlib.Algebra.Order.Ring.Nat

/-!
Contract: weights summed over a finite map.

Owns the total weight of the values of a map, and how the totals of two maps compare
when their values do key by key: nowhere larger, or the same at all keys but one.

Does not own: what a weight stands for.
-/

namespace Foundation.UnorderedMap

variable {K V : Type} [DecidableEq K]

/-- The sum of the weights of all values. -/
def total (map : UnorderedMap K V) (weight : V → Nat) : Nat :=
  (map.entries.map fun entry => weight entry.2).sum

/-- The weight of the value of a key; a key without an entry weighs nothing. -/
def weightAt (map : UnorderedMap K V) (weight : V → Nat) (key : K) : Nat :=
  (map.find? key).elim 0 weight

variable {map other : UnorderedMap K V} {weight : V → Nat} {key : K}

@[simp] theorem weightAt_of_find? {value : V} (found : map.find? key = some value) :
    map.weightAt weight key = weight value := by
  simp [weightAt, found]

theorem weightAt_of_none (absent : map.find? key = none) : map.weightAt weight key = 0 := by
  simp [weightAt, absent]

/-- The total is a sum over any set of keys that has all keys of the map. -/
private theorem total_eq_sum {wide : Finset K} (covers : ∀ key ∈ map.keys, key ∈ wide) :
    map.total weight = ∑ key ∈ wide, map.weightAt weight key := by
  have inside : map.total weight = ∑ key ∈ map.keys.toFinset, map.weightAt weight key := by
    have distinct : map.keys.Nodup := map.nodup
    rw [List.sum_toFinset _ distinct]
    unfold total keys
    rw [List.map_map]
    congr 1
    apply List.map_congr_left
    intro entry member
    exact (weightAt_of_find? (mem_entries_iff.mp member)).symm
  rw [inside]
  apply Finset.sum_subset
  · intro key member
    exact covers key (List.mem_toFinset.mp member)
  · intro key _ outside
    apply weightAt_of_none
    cases found : map.find? key with
    | none => rfl
    | some value =>
        have member := List.mem_map_of_mem (f := Prod.fst) (mem_entries_iff.mpr found)
        exact absurd (List.mem_toFinset.mpr member) outside

omit [DecidableEq K] in
/-- Values that weigh one if they pass a test weigh as many as pass it. -/
theorem total_indicator (map : UnorderedMap K V) (test : V → Bool) :
    (map.total fun value => if test value then 1 else 0) = map.count test := by
  unfold total count keysWhere
  rw [List.length_map, ← List.countP_eq_length_filter]
  induction map.entries with
  | nil => rfl
  | cons entry rest inductionHypothesis =>
      rw [List.map_cons, List.sum_cons, inductionHypothesis, List.countP_cons, Nat.add_comm]

/-- A map that is nowhere heavier is not heavier in total. -/
theorem total_le (lighter : ∀ key, map.weightAt weight key ≤ other.weightAt weight key) :
    map.total weight ≤ other.total weight := by
  have ours : ∀ key ∈ map.keys, key ∈ (map.keys ++ other.keys).toFinset := by
    intro key member
    exact List.mem_toFinset.mpr (List.mem_append_left _ member)
  have theirs : ∀ key ∈ other.keys, key ∈ (map.keys ++ other.keys).toFinset := by
    intro key member
    exact List.mem_toFinset.mpr (List.mem_append_right _ member)
  rw [total_eq_sum ours, total_eq_sum theirs]
  exact Finset.sum_le_sum fun key _ => lighter key

/-- Maps that weigh the same at every key weigh the same. -/
theorem total_congr (same : ∀ key, map.weightAt weight key = other.weightAt weight key) :
    map.total weight = other.total weight :=
  Nat.le_antisymm (total_le fun key => (same key).le) (total_le fun key => (same key).ge)

/-- A weight added at one key is added to the total. -/
theorem total_add (key : K) {amount : Nat}
    (here : map.weightAt weight key = other.weightAt weight key + amount)
    (elsewhere : ∀ another, another ≠ key →
      map.weightAt weight another = other.weightAt weight another) :
    map.total weight = other.total weight + amount := by
  have ours : ∀ another ∈ map.keys, another ∈ (key :: (map.keys ++ other.keys)).toFinset := by
    intro another member
    exact List.mem_toFinset.mpr (List.mem_cons_of_mem _ (List.mem_append_left _ member))
  have theirs : ∀ another ∈ other.keys,
      another ∈ (key :: (map.keys ++ other.keys)).toFinset := by
    intro another member
    exact List.mem_toFinset.mpr (List.mem_cons_of_mem _ (List.mem_append_right _ member))
  have present : key ∈ (key :: (map.keys ++ other.keys)).toFinset :=
    List.mem_toFinset.mpr List.mem_cons_self
  have rest : ∑ another ∈ (key :: (map.keys ++ other.keys)).toFinset.erase key,
      map.weightAt weight another =
      ∑ another ∈ (key :: (map.keys ++ other.keys)).toFinset.erase key,
        other.weightAt weight another :=
    Finset.sum_congr rfl fun another member => elsewhere another (Finset.ne_of_mem_erase member)
  rw [total_eq_sum ours, total_eq_sum theirs, ← Finset.add_sum_erase _ _ present,
    ← Finset.add_sum_erase _ _ present, rest, here]
  omega

end Foundation.UnorderedMap
