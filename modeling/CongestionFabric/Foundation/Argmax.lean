import Mathlib.Data.List.Induction
import Mathlib.Order.Lattice

/-!
Contract: the item a loop keeps that looks for the largest one.

Owns the first item of a list with the largest key, the loop that replaces what it
holds by a larger item and, as long as it holds an item below a floor, by any item,
and what that loop holds in the end.

Does not own: how a program represents that it holds nothing yet.
-/

namespace Foundation

variable {A K : Type} [LinearOrder K] {key : A → K} {floor : K} {items : List A} {item best : A}

/-- The first item with the largest key. -/
def IsFirstMax (key : A → K) (items : List A) (best : A) : Prop :=
  ∃ before after, items = before ++ best :: after ∧ (∀ item ∈ before, key item < key best) ∧
    ∀ item ∈ after, key item ≤ key best

theorem IsFirstMax.mem (first : IsFirstMax key items best) : best ∈ items := by
  obtain ⟨before, after, rfl, -⟩ := first
  exact List.mem_append_right before List.mem_cons_self

theorem IsFirstMax.le (first : IsFirstMax key items best) (member : item ∈ items) :
    key item ≤ key best := by
  obtain ⟨before, after, rfl, smaller, atMost⟩ := first
  rcases List.mem_append.mp member with earlier | here
  · exact (smaller item earlier).le
  · rcases List.mem_cons.mp here with rfl | later
    · exact le_refl _
    · exact atMost item later

/-- A larger item at the end is the new maximum. -/
theorem isFirstMax_snoc_of_lt (larger : ∀ earlier ∈ items, key earlier < key item) :
    IsFirstMax key (items ++ [item]) item :=
  ⟨items, [], rfl, larger, by simp⟩

/-- An item at the end that is not larger changes nothing. -/
theorem IsFirstMax.snoc (first : IsFirstMax key items best) (notLarger : key item ≤ key best) :
    IsFirstMax key (items ++ [item]) best := by
  obtain ⟨before, after, rfl, smaller, atMost⟩ := first
  refine ⟨before, after ++ [item], by simp, smaller, ?_⟩
  intro later member
  rcases List.mem_append.mp member with inside | last
  · exact atMost later inside
  · rw [List.mem_singleton.mp last]
    exact notLarger

/-- One round of the loop. -/
def keepBest (key : A → K) (floor : K) : Option A → A → Option A
  | none, item => some item
  | some held, item =>
      if key held < key item ∨ key held < floor then some item else some held

theorem keepBest_some (held item : A) :
    keepBest key floor (some held) item =
      if key held < key item ∨ key held < floor then some item else some held := rfl

/-- What the loop holds: nothing before the first item, the first maximum once an
item is not below the floor, and the latest item until then. -/
inductive Holds (key : A → K) (floor : K) (items : List A) : Option A → Prop
  | nothing (empty : items = []) : Holds key floor items none
  | maximum {best : A} (above : floor ≤ key best) (first : IsFirstMax key items best) :
      Holds key floor items (some best)
  | latest {last : A} (below : ∀ item ∈ items, key item < floor)
      (ending : items.getLast? = some last) : Holds key floor items (some last)

private theorem Holds.keepBest {held : Option A} (holds : Holds key floor items held) (item : A) :
    Holds key floor (items ++ [item]) (keepBest key floor held item) := by
  -- An item that comes when all before it are below the floor is held, as the
  -- maximum or as the latest.
  have taken : (∀ earlier ∈ items, key earlier < floor) →
      Holds key floor (items ++ [item]) (some item) := by
    intro below
    rcases lt_or_ge (key item) floor with low | high
    · refine .latest ?_ List.getLast?_concat
      intro other member
      rcases List.mem_append.mp member with earlier | last
      · exact below other earlier
      · rw [List.mem_singleton.mp last]
        exact low
    · exact .maximum high (isFirstMax_snoc_of_lt fun earlier member =>
        (below earlier member).trans_le high)
  cases holds with
  | nothing empty =>
      subst empty
      exact taken (by simp)
  | @maximum best above first =>
      rw [keepBest_some]
      split
      · next replaced =>
          have larger := replaced.resolve_right above.not_gt
          exact .maximum (above.trans larger.le) (isFirstMax_snoc_of_lt fun earlier member =>
            (first.le member).trans_lt larger)
      · next kept =>
          exact .maximum above (first.snoc (not_lt.mp fun larger => kept (Or.inl larger)))
  | @latest last below ending =>
      have low := below last (List.mem_of_getLast? ending)
      rw [keepBest_some, if_pos (Or.inr low)]
      exact taken below

theorem holds_foldl (key : A → K) (floor : K) (items : List A) :
    Holds key floor items (items.foldl (keepBest key floor) none) := by
  induction items using List.reverseRecOn with
  | nil => exact .nothing rfl
  | append_singleton earlier item inductionHypothesis =>
      rw [List.foldl_append]
      exact inductionHypothesis.keepBest item

end Foundation
