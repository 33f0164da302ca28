import Mathlib.Data.List.Basic

/-!
Contract: two callers of one machine.

Owns the answers and the final state of a sequence of calls, interleavings of
two sequences, independence of two calls, the theorem that independent sequences
are answered and end alike in every interleaving, and the transfer of such
results along a view that forgets part of the state and of the calls.

Does not own: any particular machine, or more than two callers.
-/

namespace Foundation

variable {S T C D A : Type}

/-- The answers to a sequence of calls, and the state they end in. -/
def callAll (step : C → S → A × S) : List C → S → List A × S
  | [], state => ([], state)
  | call :: rest, state =>
      ((step call state).1 :: (callAll step rest (step call state).2).1,
        (callAll step rest (step call state).2).2)

/-! ## Interleavings -/

/-- What the left caller contributes to a sequence. -/
def lefts (merged : List (C ⊕ C)) : List C := merged.filterMap Sum.getLeft?

/-- What the right caller contributes to a sequence. -/
def rights (merged : List (C ⊕ C)) : List C := merged.filterMap Sum.getRight?

@[simp] theorem lefts_nil : lefts ([] : List (C ⊕ C)) = [] := rfl
@[simp] theorem rights_nil : rights ([] : List (C ⊕ C)) = [] := rfl
@[simp] theorem lefts_inl (call : C) (rest : List (C ⊕ C)) :
    lefts (.inl call :: rest) = call :: lefts rest := rfl
@[simp] theorem lefts_inr (call : C) (rest : List (C ⊕ C)) :
    lefts (.inr call :: rest) = lefts rest := rfl
@[simp] theorem rights_inl (call : C) (rest : List (C ⊕ C)) :
    rights (.inl call :: rest) = rights rest := rfl
@[simp] theorem rights_inr (call : C) (rest : List (C ⊕ C)) :
    rights (.inr call :: rest) = call :: rights rest := rfl

theorem mem_lefts {merged : List (C ⊕ C)} {call : C} :
    call ∈ lefts merged ↔ .inl call ∈ merged := by
  simp [lefts, List.mem_filterMap]

theorem mem_rights {merged : List (C ⊕ C)} {call : C} :
    call ∈ rights merged ↔ .inr call ∈ merged := by
  simp [rights, List.mem_filterMap]

theorem lefts_map (rewrite : C → D) (merged : List (C ⊕ C)) :
    lefts (merged.map (Sum.map rewrite rewrite)) = (lefts merged).map rewrite := by
  induction merged with
  | nil => rfl
  | cons call rest inductionHypothesis =>
      cases call with
      | inl call =>
          rw [List.map_cons, Sum.map_inl, lefts_inl, lefts_inl, List.map_cons,
            inductionHypothesis]
      | inr call => rw [List.map_cons, Sum.map_inr, lefts_inr, lefts_inr, inductionHypothesis]

theorem rights_map (rewrite : C → D) (merged : List (C ⊕ C)) :
    rights (merged.map (Sum.map rewrite rewrite)) = (rights merged).map rewrite := by
  induction merged with
  | nil => rfl
  | cons call rest inductionHypothesis =>
      cases call with
      | inl call => rw [List.map_cons, Sum.map_inl, rights_inl, rights_inl, inductionHypothesis]
      | inr call =>
          rw [List.map_cons, Sum.map_inr, rights_inr, rights_inr, List.map_cons,
            inductionHypothesis]

/-- A call of either side; its answer goes back to that side. -/
def sided (step : C → S → A × S) : C ⊕ C → S → (A ⊕ A) × S
  | .inl call, state => (step call state).map .inl id
  | .inr call, state => (step call state).map .inr id

/-! ## Independence -/

/-- Neither call changes the answer to the other, and both orders end alike. -/
structure Independent (step : C → S → A × S) (one other : C) : Prop where
  answer : ∀ state, (step other (step one state).2).1 = (step other state).1
  answered : ∀ state, (step one (step other state).2).1 = (step one state).1
  final : ∀ state, (step other (step one state).2).2 = (step one (step other state).2).2

theorem Independent.symm {step : C → S → A × S} {one other : C}
    (independent : Independent step one other) : Independent step other one :=
  ⟨independent.answered, independent.answer, fun state => (independent.final state).symm⟩

variable {step : C → S → A × S}

/-- A call made first by the other side can as well be made last. -/
theorem callAll_after (calls : List C) (other : C)
    (independent : ∀ call ∈ calls, Independent step call other) (state : S) :
    callAll step calls (step other state).2 =
      ((callAll step calls state).1, (step other (callAll step calls state).2).2) := by
  induction calls generalizing state with
  | nil => rfl
  | cons call rest inductionHypothesis =>
      have first := independent call List.mem_cons_self
      have later := inductionHypothesis (fun call member =>
        independent call (List.mem_cons_of_mem _ member)) (step call state).2
      simp only [callAll]
      rw [first.answered, ← first.final, later]

/-- In every interleaving of independent sequences each side gets the answers it
gets alone, and the state is that of the left sequence followed by the right. -/
theorem callAll_interleaved (merged : List (C ⊕ C))
    (independent : ∀ one ∈ lefts merged, ∀ other ∈ rights merged, Independent step one other)
    (state : S) :
    lefts (callAll (sided step) merged state).1 = (callAll step (lefts merged) state).1 ∧
      rights (callAll (sided step) merged state).1 = (callAll step (rights merged) state).1 ∧
      (callAll (sided step) merged state).2 =
        (callAll step (rights merged) (callAll step (lefts merged) state).2).2 := by
  induction merged generalizing state with
  | nil => exact ⟨rfl, rfl, rfl⟩
  | cons call rest inductionHypothesis =>
      cases call with
      | inl call =>
          rw [lefts_inl, rights_inl] at independent
          obtain ⟨left, right, final⟩ := inductionHypothesis
            (fun one member => independent one (List.mem_cons_of_mem _ member))
            (step call state).2
          have unheard := callAll_after (rights rest) call
            (fun other member => (independent call List.mem_cons_self other member).symm) state
          refine ⟨?_, ?_, ?_⟩
          · exact congrArg (List.cons (step call state).1) left
          · rw [unheard] at right
            exact right
          · exact final
      | inr call =>
          rw [lefts_inr, rights_inr] at independent
          obtain ⟨left, right, final⟩ := inductionHypothesis
            (fun one member other later =>
              independent one member other (List.mem_cons_of_mem _ later))
            (step call state).2
          have unheard := callAll_after (lefts rest) call
            (fun one member => independent one member call List.mem_cons_self) state
          rw [unheard] at left final
          exact ⟨left, congrArg (List.cons (step call state).1) right, final⟩

/-! ## Views -/

/-- A machine that answers the calls of a sequence like another, through a view of
states and calls, answers the whole sequence like it and ends in its state. -/
theorem callAll_view {view : S → T} {forget : C → D} {image : D → T → A × T} {calls : List C}
    (answers : ∀ call ∈ calls, ∀ state,
      (step call state).1 = (image (forget call) (view state)).1)
    (follows : ∀ call ∈ calls, ∀ state,
      view (step call state).2 = (image (forget call) (view state)).2) (state : S) :
    (callAll step calls state).1 = (callAll image (calls.map forget) (view state)).1 ∧
      view (callAll step calls state).2 = (callAll image (calls.map forget) (view state)).2 := by
  induction calls generalizing state with
  | nil => exact ⟨rfl, rfl⟩
  | cons call rest inductionHypothesis =>
      obtain ⟨same, final⟩ := inductionHypothesis
        (fun call member => answers call (List.mem_cons_of_mem _ member))
        (fun call member => follows call (List.mem_cons_of_mem _ member)) (step call state).2
      rw [follows call List.mem_cons_self] at same final
      refine ⟨?_, final⟩
      simp only [callAll, List.map_cons]
      rw [answers call List.mem_cons_self, same]

/-- The view of an interleaving is an interleaving of the views. -/
theorem callAll_sided_view {view : S → T} {forget : C → D} {image : D → T → A × T}
    {merged : List (C ⊕ C)}
    (answers : ∀ call, call ∈ lefts merged ∨ call ∈ rights merged → ∀ state,
      (step call state).1 = (image (forget call) (view state)).1)
    (follows : ∀ call, call ∈ lefts merged ∨ call ∈ rights merged → ∀ state,
      view (step call state).2 = (image (forget call) (view state)).2) (state : S) :
    (callAll (sided step) merged state).1 =
        (callAll (sided image) (merged.map (Sum.map forget forget)) (view state)).1 ∧
      view (callAll (sided step) merged state).2 =
        (callAll (sided image) (merged.map (Sum.map forget forget)) (view state)).2 := by
  apply callAll_view
  · intro call member state
    cases call with
    | inl call =>
        exact congrArg Sum.inl (answers call (Or.inl (mem_lefts.mpr member)) state)
    | inr call =>
        exact congrArg Sum.inr (answers call (Or.inr (mem_rights.mpr member)) state)
  · intro call member state
    cases call with
    | inl call => exact follows call (Or.inl (mem_lefts.mpr member)) state
    | inr call => exact follows call (Or.inr (mem_rights.mpr member)) state

end Foundation
