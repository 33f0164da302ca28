import Mathlib.Data.List.Induction
import Mathlib.Data.List.Nodup
import Mathlib.Data.List.Perm.Basic
import Mathlib.Data.List.Perm.Subperm

/-!
Contract: finite maps with an unspecified enumeration order.

Owns:
- a map as a list of entries with pairwise distinct keys, where the list order
  stands for the order in which the container is enumerated;
- lookup, in-place modification, insertion, emplacement, erasure, and the two
  enumerating updates (one entry at a time, with or without a running state);
- the lookup law of every operation, and the relation between two maps that
  differ only in their enumeration order.

Does not own: hashing, buckets, or any promise about which order is used.
-/

namespace Foundation

/-- A map whose keys are distinct. The list order is the enumeration order. -/
structure UnorderedMap (K V : Type) where
  entries : List (K × V)
  nodup : (entries.map Prod.fst).Nodup

namespace UnorderedMap

variable {K V : Type}

/-- Two maps with the same entries are the same map. -/
theorem ext_entries {left right : UnorderedMap K V}
    (same : left.entries = right.entries) : left = right := by
  cases left
  cases right
  simp_all

/-- The map without entries. -/
def empty : UnorderedMap K V := ⟨[], List.nodup_nil⟩

/-- The number of entries. -/
def size (map : UnorderedMap K V) : Nat := map.entries.length

/-- The keys in enumeration order. -/
def keys (map : UnorderedMap K V) : List K := map.entries.map Prod.fst

/-- Rewrite every value in place. -/
def mapValues (map : UnorderedMap K V) (rewrite : K → V → V) : UnorderedMap K V where
  entries := map.entries.map fun entry => (entry.1, rewrite entry.1 entry.2)
  nodup := by
    rw [List.map_map]
    exact map.nodup

theorem mapValues_same (map : UnorderedMap K V) : (map.mapValues fun _ value => value) = map := by
  apply ext_entries
  exact List.map_id _

theorem mapValues_mapValues (map : UnorderedMap K V) (first second : K → V → V) :
    (map.mapValues first).mapValues second =
      map.mapValues fun key value => second key (first key value) := by
  apply ext_entries
  exact List.map_map ..

/-- Rewrites that commute on every value commute on the map. -/
theorem mapValues_comm (map : UnorderedMap K V) {first second : K → V → V}
    (commute : ∀ key value, second key (first key value) = first key (second key value)) :
    (map.mapValues first).mapValues second = (map.mapValues second).mapValues first := by
  rw [mapValues_mapValues, mapValues_mapValues]
  congr 1
  funext key value
  exact commute key value

/-- Walk the entries in enumeration order, threading a running state. -/
def accumulate {S : Type} (visit : S → K → V → S × V) : S → List (K × V) → List (K × V)
  | _, [] => []
  | state, (key, value) :: rest =>
      (key, (visit state key value).2) :: accumulate visit (visit state key value).1 rest

theorem accumulate_keys {S : Type} (visit : S → K → V → S × V) (state : S)
    (entries : List (K × V)) :
    (accumulate visit state entries).map Prod.fst = entries.map Prod.fst := by
  induction entries generalizing state with
  | nil => rfl
  | cons head tail inductionHypothesis =>
      simp only [accumulate, List.map_cons, inductionHypothesis]

/-- Rewrite every value in place, in enumeration order, with a running state. -/
def mapAccumulate {S : Type} (map : UnorderedMap K V) (visit : S → K → V → S × V)
    (state : S) : UnorderedMap K V where
  entries := accumulate visit state map.entries
  nodup := by
    rw [accumulate_keys]
    exact map.nodup

/-- The two maps hold the same entries, in orders that may differ. -/
def Same (left right : UnorderedMap K V) : Prop := left.entries.Perm right.entries

theorem Same.refl (map : UnorderedMap K V) : map.Same map := List.Perm.refl _

/-- An entry-wise rewriting does not depend on the order. -/
theorem Same.mapValues {left right : UnorderedMap K V} (same : left.Same right)
    (rewrite : K → V → V) : (left.mapValues rewrite).Same (right.mapValues rewrite) :=
  List.Perm.map _ same

/-- The enumeration may start with any two entries. -/
theorem exists_same_front {map : UnorderedMap K V} {first second : K × V}
    (firstMember : first ∈ map.entries) (secondMember : second ∈ map.entries)
    (different : first ≠ second) :
    ∃ (other : UnorderedMap K V) (rest : List (K × V)), map.Same other ∧
      other.entries = first :: second :: rest := by
  obtain ⟨before, after, split⟩ := List.append_of_mem firstMember
  have remaining : second ∈ before ++ after := by
    rw [split, List.mem_append, List.mem_cons] at secondMember
    rw [List.mem_append]
    exact secondMember.imp_right fun found => found.resolve_left (Ne.symm different)
  obtain ⟨left, right, splitAgain⟩ := List.append_of_mem remaining
  have perm : map.entries.Perm (first :: second :: (left ++ right)) := by
    rw [split]
    refine List.perm_middle.trans ?_
    rw [splitAgain]
    exact List.perm_middle.cons first
  exact ⟨⟨_, (perm.map Prod.fst).nodup_iff.mp map.nodup⟩, _, perm, rfl⟩

/-- A walk is an entry-wise rewriting when, in all running states it can reach,
what it writes depends on the entry alone. -/
theorem mapAccumulate_eq_mapValues {S : Type} {map : UnorderedMap K V}
    {visit : S → K → V → S × V} {rewrite : K → V → V} {state : S} (inv : S → Prop)
    (initial : inv state)
    (uniform : ∀ entry ∈ map.entries, ∀ running, inv running →
      (visit running entry.1 entry.2).2 = rewrite entry.1 entry.2 ∧
        inv (visit running entry.1 entry.2).1) :
    map.mapAccumulate visit state = map.mapValues rewrite := by
  have walk : ∀ (entries : List (K × V)) (running : S), entries ⊆ map.entries → inv running →
      accumulate visit running entries =
        entries.map fun entry => (entry.1, rewrite entry.1 entry.2) := by
    intro entries
    induction entries with
    | nil => exact fun _ _ _ => rfl
    | cons head tail inductionHypothesis =>
        intro running subset holds
        obtain ⟨written, kept⟩ := uniform head (subset List.mem_cons_self) running holds
        rw [accumulate, written, List.map_cons,
          inductionHypothesis _ (List.subset_of_cons_subset subset) kept]
  exact ext_entries (walk map.entries state (List.Subset.refl _) initial)

variable [DecidableEq K]

/-! ## Lookup in a list of entries -/

/-- The value of the first entry with a key. -/
def lookup (entries : List (K × V)) (key : K) : Option V :=
  (entries.find? fun entry => entry.1 = key).map Prod.snd

@[simp] theorem lookup_nil (key : K) : lookup ([] : List (K × V)) key = none := rfl

@[simp] theorem lookup_cons (head : K × V) (tail : List (K × V)) (key : K) :
    lookup (head :: tail) key = if head.1 = key then some head.2 else lookup tail key := by
  by_cases here : head.1 = key <;> simp [lookup, here]

private theorem mem_iff_lookup {entries : List (K × V)} (distinct : (entries.map Prod.fst).Nodup)
    {key : K} {value : V} : (key, value) ∈ entries ↔ lookup entries key = some value := by
  induction entries with
  | nil => simp
  | cons head tail inductionHypothesis =>
      obtain ⟨headKey, headValue⟩ := head
      rw [List.map_cons, List.nodup_cons] at distinct
      rw [List.mem_cons, lookup_cons, inductionHypothesis distinct.2]
      by_cases here : headKey = key
      · subst here
        have absent : lookup tail headKey ≠ some value := fun found =>
          distinct.1 (List.mem_map.mpr ⟨_, (inductionHypothesis distinct.2).mpr found, rfl⟩)
        simp [absent, eq_comm]
      · simp [here, Ne.symm here]

private theorem lookup_eq_none_iff {entries : List (K × V)} {key : K} :
    lookup entries key = none ↔ key ∉ entries.map Prod.fst := by
  simp only [lookup, Option.map_eq_none_iff, List.find?_eq_none, decide_eq_true_eq, List.mem_map,
    not_exists, not_and]

private theorem lookup_append (left right : List (K × V)) (key : K) :
    lookup (left ++ right) key = (lookup left key).or (lookup right key) := by
  induction left with
  | nil => simp
  | cons head tail inductionHypothesis =>
      by_cases here : head.1 = key <;> simp [here, inductionHypothesis]

private theorem lookup_map (entries : List (K × V)) (rewrite : K → V → V) (key : K) :
    lookup (entries.map fun entry => (entry.1, rewrite entry.1 entry.2)) key =
      (lookup entries key).map (rewrite key) := by
  induction entries with
  | nil => rfl
  | cons head tail inductionHypothesis =>
      by_cases here : head.1 = key
      · simp [here]
      · simp [here, inductionHypothesis]

private theorem lookup_filter (entries : List (K × V)) (key other : K) :
    lookup (entries.filter fun entry => entry.1 ≠ key) other =
      if other = key then none else lookup entries other := by
  induction entries with
  | nil => simp
  | cons head tail inductionHypothesis =>
      by_cases removed : head.1 = key
      · rw [List.filter_cons_of_neg (by simpa using removed), inductionHypothesis]
        by_cases here : other = key
        · simp [here]
        · have different : head.1 ≠ other := fun equal => here (equal.symm.trans removed)
          simp [here, different]
      · rw [List.filter_cons_of_pos (by simpa using removed), lookup_cons, inductionHypothesis]
        by_cases here : head.1 = other
        · have different : other ≠ key := fun equal => removed (here.trans equal)
          simp [here, different]
        · simp [here]

private theorem lookup_accumulate {S : Type} (visit : S → K → V → S × V) (state : S)
    (entries : List (K × V)) (key : K) :
    ∃ reached : S, lookup (accumulate visit state entries) key =
      (lookup entries key).map fun value => (visit reached key value).2 := by
  induction entries generalizing state with
  | nil => exact ⟨state, rfl⟩
  | cons head tail inductionHypothesis =>
      by_cases here : head.1 = key
      · exact ⟨state, by simp [accumulate, here]⟩
      · obtain ⟨reached, rest⟩ := inductionHypothesis (visit state head.1 head.2).1
        exact ⟨reached, by simp [accumulate, here, rest]⟩

/-! ## Lookup in a map -/

/-- The value stored under a key. -/
def find? (map : UnorderedMap K V) (key : K) : Option V := lookup map.entries key

/-- Whether a key has an entry. -/
def contains (map : UnorderedMap K V) (key : K) : Bool := (map.find? key).isSome

/-- Lookup finds exactly the entries of the list, because keys are distinct. -/
theorem mem_entries_iff {map : UnorderedMap K V} {key : K} {value : V} :
    (key, value) ∈ map.entries ↔ map.find? key = some value :=
  mem_iff_lookup map.nodup

/-- What holds of all that lookup finds can be decided on the entries. -/
instance {map : UnorderedMap K V} {property : K → V → Prop}
    [∀ key value, Decidable (property key value)] :
    Decidable (∀ key value, map.find? key = some value → property key value) :=
  decidable_of_iff (∀ entry ∈ map.entries, property entry.1 entry.2)
    ⟨fun all key value found => all (key, value) (mem_entries_iff.mpr found),
      fun all entry member => all entry.1 entry.2 (mem_entries_iff.mp member)⟩

/-- No value has the property. -/
theorem any_entries_eq_false {map : UnorderedMap K V} {holds : V → Bool} :
    (map.entries.any fun entry => holds entry.2) = false ↔
      ∀ key value, map.find? key = some value → holds value = false := by
  rw [List.any_eq_false]
  constructor
  · intro none key value found
    exact Bool.eq_false_iff.mpr (none (key, value) (mem_entries_iff.mpr found))
  · intro none entry member
    exact Bool.eq_false_iff.mp (none entry.1 entry.2 (mem_entries_iff.mp member))

theorem find?_eq_none_iff {map : UnorderedMap K V} {key : K} :
    map.find? key = none ↔ key ∉ map.keys :=
  lookup_eq_none_iff

@[simp] theorem find?_empty (key : K) : (empty : UnorderedMap K V).find? key = none := rfl

@[simp] theorem contains_eq_true {map : UnorderedMap K V} {key : K} :
    map.contains key = true ↔ ∃ value, map.find? key = some value := by
  simp [contains, Option.isSome_iff_exists]

@[simp] theorem contains_eq_false {map : UnorderedMap K V} {key : K} :
    map.contains key = false ↔ map.find? key = none := by
  simp [contains]

/-- Enumeration order is invisible to lookup. -/
theorem Same.find?_eq {left right : UnorderedMap K V} (same : left.Same right) (key : K) :
    left.find? key = right.find? key := by
  apply Option.ext
  intro value
  rw [← mem_entries_iff, ← mem_entries_iff]
  exact same.mem_iff

/-! ## Updates -/

/-- Overwrite the value of an existing key; a missing key stays missing. -/
def modify (map : UnorderedMap K V) (key : K) (value : V) : UnorderedMap K V :=
  map.mapValues fun current old => if current = key then value else old

private theorem appended_nodup {map : UnorderedMap K V} {key : K} (value : V)
    (absent : map.contains key = false) :
    ((map.entries ++ [(key, value)]).map Prod.fst).Nodup := by
  have missing : key ∉ map.keys := find?_eq_none_iff.mp (contains_eq_false.mp absent)
  rw [List.map_append, List.map_cons, List.map_nil, List.nodup_append]
  refine ⟨map.nodup, List.nodup_singleton _, ?_⟩
  intro left leftMember right rightMember equal
  rw [List.mem_singleton] at rightMember
  subst equal
  subst rightMember
  exact missing leftMember

/-- Add an entry unless the key is already present, in which case nothing
changes. -/
def emplace (map : UnorderedMap K V) (key : K) (value : V) : UnorderedMap K V :=
  if absent : map.contains key = false then
    ⟨map.entries ++ [(key, value)], appended_nodup value absent⟩
  else
    map

/-- Store a value under a key, present or not. -/
def insert (map : UnorderedMap K V) (key : K) (value : V) : UnorderedMap K V :=
  if map.contains key then map.modify key value else map.emplace key value

/-- Remove the entry of a key. -/
def erase (map : UnorderedMap K V) (key : K) : UnorderedMap K V where
  entries := map.entries.filter fun entry => entry.1 ≠ key
  nodup := (List.Sublist.map Prod.fst List.filter_sublist).nodup map.nodup

@[simp] theorem find?_mapValues (map : UnorderedMap K V) (rewrite : K → V → V) (key : K) :
    (map.mapValues rewrite).find? key = (map.find? key).map (rewrite key) :=
  lookup_map map.entries rewrite key

theorem find?_mapValues_eq_some {map : UnorderedMap K V} {rewrite : K → V → V} {key : K}
    {after : V} : (map.mapValues rewrite).find? key = some after ↔
      ∃ value, map.find? key = some value ∧ rewrite key value = after := by
  rw [find?_mapValues, Option.map_eq_some_iff]

@[simp] theorem find?_modify (map : UnorderedMap K V) (key : K) (value : V) (other : K) :
    (map.modify key value).find? other =
      if other = key then (map.find? key).map (fun _ => value) else map.find? other := by
  rw [modify, find?_mapValues]
  by_cases here : other = key
  · subst here
    simp
  · simp [here]

theorem find?_emplace (map : UnorderedMap K V) (key : K) (value : V) (other : K) :
    (map.emplace key value).find? other =
      if map.find? key = none ∧ other = key then some value else map.find? other := by
  unfold emplace
  by_cases absent : map.contains key = false
  · have missing : map.find? key = none := contains_eq_false.mp absent
    rw [dif_pos absent]
    change lookup (map.entries ++ [(key, value)]) other = _
    rw [lookup_append]
    change (map.find? other).or _ = _
    by_cases here : other = key
    · subst here
      simp [missing]
    · simp [here, Ne.symm here]
  · have present : map.find? key ≠ none := fun missing => absent (contains_eq_false.mpr missing)
    rw [dif_neg absent, if_neg (fun both => present both.1)]

@[simp] theorem find?_insert (map : UnorderedMap K V) (key : K) (value : V) (other : K) :
    (map.insert key value).find? other =
      if other = key then some value else map.find? other := by
  unfold insert
  cases present : map.contains key with
  | true =>
      obtain ⟨old, found⟩ := contains_eq_true.mp present
      simp [found]
  | false =>
      have missing := contains_eq_false.mp present
      simp [find?_emplace, missing]

@[simp] theorem find?_erase (map : UnorderedMap K V) (key other : K) :
    (map.erase key).find? other = if other = key then none else map.find? other :=
  lookup_filter map.entries key other

/-- The map obtained by emplacing entries one after another. -/
def ofEntries (entries : List (K × V)) : UnorderedMap K V :=
  entries.foldl (fun map entry => map.emplace entry.1 entry.2) empty

theorem ofEntries_concat (entries : List (K × V)) (entry : K × V) :
    ofEntries (entries ++ [entry]) = (ofEntries entries).emplace entry.1 entry.2 := by
  simp [ofEntries]

/-- Emplacing entries with distinct keys keeps them all, in order. -/
theorem ofEntries_entries {entries : List (K × V)} (distinct : (entries.map Prod.fst).Nodup) :
    (ofEntries entries).entries = entries := by
  induction entries using List.reverseRecOn with
  | nil => rfl
  | append_singleton earlier last inductionHypothesis =>
      rw [List.map_append, List.nodup_append] at distinct
      obtain ⟨earlierDistinct, -, disjoint⟩ := distinct
      have same := inductionHypothesis earlierDistinct
      have absent : (ofEntries earlier).contains last.1 = false := by
        rw [contains_eq_false, find?_eq_none_iff, keys, same]
        intro member
        exact disjoint last.1 member last.1 (by simp) rfl
      rw [ofEntries_concat, emplace, dif_pos absent]
      change (ofEntries earlier).entries ++ [last] = _
      rw [same]

/-- Writing back the stored value leaves the map, order included, as it was. -/
theorem modify_self {map : UnorderedMap K V} {key : K} {value : V}
    (found : map.find? key = some value) : map.modify key value = map := by
  apply ext_entries
  unfold modify mapValues
  conv_rhs => rw [← List.map_id map.entries]
  apply List.map_congr_left
  rintro ⟨entryKey, entryValue⟩ member
  by_cases here : entryKey = key
  · subst here
    have stored : map.find? entryKey = some entryValue := mem_entries_iff.mp member
    rw [found] at stored
    simp [Option.some.inj stored]
  · simp [here]

/-- An accumulated walk rewrites each entry from some running state. -/
theorem find?_mapAccumulate {S : Type} (map : UnorderedMap K V)
    (visit : S → K → V → S × V) (state : S) (key : K) :
    ∃ reached : S, (map.mapAccumulate visit state).find? key =
      (map.find? key).map fun value => (visit reached key value).2 :=
  lookup_accumulate visit state map.entries key

/-! ## Counting -/

/-- The keys whose value passes a test, in enumeration order. -/
def keysWhere (map : UnorderedMap K V) (test : V → Bool) : List K :=
  (map.entries.filter fun entry => test entry.2).map Prod.fst

/-- The number of values that pass a test. -/
def count (map : UnorderedMap K V) (test : V → Bool) : Nat := (map.keysWhere test).length

section Counting

variable {W : Type} {map : UnorderedMap K V} {other : UnorderedMap K W} {test : V → Bool}
  {otherTest : W → Bool} {key : K}

theorem mem_keysWhere :
    key ∈ map.keysWhere test ↔ ∃ value, map.find? key = some value ∧ test value = true := by
  simp only [keysWhere, List.mem_map, List.mem_filter, Prod.exists, mem_entries_iff]
  constructor
  · rintro ⟨_, value, ⟨found, passes⟩, rfl⟩
    exact ⟨value, found, passes⟩
  · rintro ⟨value, found, passes⟩
    exact ⟨key, value, ⟨found, passes⟩, rfl⟩

omit [DecidableEq K] in
theorem nodup_keysWhere : (map.keysWhere test).Nodup :=
  map.nodup.sublist (List.filter_sublist.map Prod.fst)

omit [DecidableEq K] in
theorem count_eq_of_mem_iff
    (same : ∀ key, key ∈ map.keysWhere test ↔ key ∈ other.keysWhere otherTest) :
    map.count test = other.count otherTest :=
  ((List.perm_ext_iff_of_nodup nodup_keysWhere nodup_keysWhere).mpr same).length_eq

omit [DecidableEq K] in
/-- The values that pass a test are those that pass another one too, and the others. -/
theorem count_split (map : UnorderedMap K V) (test other : V → Bool) :
    map.count test = map.count (fun value => test value && other value) +
      map.count fun value => test value && !other value := by
  simp only [count, keysWhere, List.length_map]
  rw [List.length_eq_length_filter_add (fun entry => other entry.2)]
  simp only [List.filter_filter, Bool.and_comm]

omit [DecidableEq K] in
/-- Distinct keys that pass the test are at most as many as the count, and as
many only if they are all of them. -/
theorem length_le_count {keys : List K} (distinct : keys.Nodup)
    (pass : ∀ key ∈ keys, key ∈ map.keysWhere test) : keys.length ≤ map.count test :=
  (List.subperm_of_subset distinct pass).length_le

omit [DecidableEq K] in
theorem length_eq_count_iff {keys : List K} (distinct : keys.Nodup)
    (pass : ∀ key ∈ keys, key ∈ map.keysWhere test) :
    keys.length = map.count test ↔ ∀ key ∈ map.keysWhere test, key ∈ keys := by
  constructor
  · intro same key member
    have perm := (List.subperm_of_subset distinct pass).perm_of_length_le (Nat.le_of_eq same.symm)
    exact perm.mem_iff.mpr member
  · intro all
    exact Nat.le_antisymm (length_le_count distinct pass)
      (List.subperm_of_subset nodup_keysWhere all).length_le

omit [DecidableEq K] in
/-- One key more passes the test. -/
theorem count_eq_add_one (new : key ∉ other.keysWhere otherTest)
    (same : ∀ found, found ∈ map.keysWhere test ↔
      found = key ∨ found ∈ other.keysWhere otherTest) :
    map.count test = other.count otherTest + 1 := by
  have distinct : (key :: other.keysWhere otherTest).Nodup := nodup_keysWhere.cons new
  have perm : (map.keysWhere test).Perm (key :: other.keysWhere otherTest) :=
    (List.perm_ext_iff_of_nodup nodup_keysWhere distinct).mpr fun found => by
      rw [same, List.mem_cons]
  exact perm.length_eq

/-- A list that has all keys of a map is at least as long as the map. -/
theorem size_le_length {keys : List K} (covered : ∀ key, map.contains key = true → key ∈ keys) :
    map.size ≤ keys.length := by
  have inside : map.keys ⊆ keys := by
    intro key member
    obtain ⟨⟨found, value⟩, stored, rfl⟩ := List.mem_map.mp member
    exact covered found (contains_eq_true.mpr ⟨value, mem_entries_iff.mp stored⟩)
  calc map.size = map.keys.length := (List.length_map _).symm
    _ ≤ keys.length := (List.subperm_of_subset map.nodup inside).length_le

end Counting

/-- Lists kept in the values of a map, each without repetition and no member in two
of them, have no repetition together. -/
theorem nodup_flatMap_entries {A : Type} {map : UnorderedMap K V} {members : V → List A}
    (each : ∀ key value, map.find? key = some value → (members value).Nodup)
    (owner : ∀ {member key value other otherValue}, map.find? key = some value →
      map.find? other = some otherValue → member ∈ members value →
      member ∈ members otherValue → key = other) :
    (map.entries.flatMap fun entry => members entry.2).Nodup := by
  rw [List.nodup_flatMap]
  refine ⟨fun entry inside => each entry.1 entry.2 (mem_entries_iff.mp inside), ?_⟩
  have apart : map.entries.Pairwise fun left right => left.1 ≠ right.1 :=
    List.pairwise_map.mp map.nodup
  refine apart.imp_of_mem fun leftInside rightInside different => ?_
  intro member inLeft inRight
  exact different (owner (mem_entries_iff.mp leftInside) (mem_entries_iff.mp rightInside) inLeft
    inRight)

end UnorderedMap

end Foundation
