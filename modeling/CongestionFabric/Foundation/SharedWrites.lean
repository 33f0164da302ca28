import Mathlib.Data.List.Basic

/-!
Contract: writers that fill one file with the same image, all at once.

Owns a write at a position, and the fact that carries such writers: every byte of the
image is in the file, or some writer has yet to come to it. Opening the file empties it
and leaves all of it to the writer that opened it.

Does not own: writers with different images, which may tear each other's.
-/

namespace Foundation

variable {A : Type}

/-- The file after a write at a position; a gap before it reads as the filler. -/
def writeAt (filler : A) (content chunk : List A) (position : Nat) : List A :=
  content.take position ++ List.replicate (position - content.length) filler ++ chunk ++
    content.drop (position + chunk.length)

theorem writeAt_length (filler : A) (content chunk : List A) (position : Nat) :
    (writeAt filler content chunk position).length =
      max content.length (position + chunk.length) := by
  simp only [writeAt, List.length_append, List.length_take, List.length_replicate,
    List.length_drop]
  omega

/-- What stands before a write stays, where there was something. -/
theorem writeAt_before {filler : A} {content chunk : List A} {position index : Nat}
    (before : index < position) (there : index < content.length) :
    (writeAt filler content chunk position)[index]? = content[index]? := by
  have taken : index < (content.take position).length := by
    rw [List.length_take]
    omega
  unfold writeAt
  rw [List.append_assoc, List.append_assoc, List.getElem?_append_left taken,
    List.getElem?_take_of_lt before]

private theorem head_length (filler : A) (content : List A) (position : Nat) :
    (content.take position ++ List.replicate (position - content.length) filler).length =
      position := by
  simp only [List.length_append, List.length_take, List.length_replicate]
  omega

theorem writeAt_inside {filler : A} {content chunk : List A} {position index : Nat}
    (passed : position ≤ index) (inside : index < position + chunk.length) :
    (writeAt filler content chunk position)[index]? = chunk[index - position]? := by
  unfold writeAt
  rw [List.append_assoc, List.getElem?_append_right (by rw [head_length]; exact passed),
    head_length, List.getElem?_append_left (by omega)]

/-- Every byte of the image is in the file, or a writer has yet to come to it; `pending`
are the positions at which writers stand. -/
structure Filling (image content : List A) (pending : Nat → Prop) : Prop where
  within : content.length ≤ image.length
  covered : ∀ index < image.length, content[index]? = image[index]? ∨
    ∃ position, pending position ∧ position ≤ index

namespace Filling

variable {image content : List A} {pending later : Nat → Prop} {position count : Nat}

/-- A writer has opened the file. -/
theorem opened (starts : pending 0) : Filling image [] pending where
  within := Nat.zero_le _
  covered index _ := Or.inr ⟨0, starts, Nat.zero_le index⟩

/-- A writer goes on. -/
theorem write (filling : Filling image content pending) (filler : A)
    (bound : position + count ≤ image.length)
    (kept : ∀ other, pending other → later other ∨ other = position)
    (goes : later (position + count)) :
    Filling image (writeAt filler content ((image.drop position).take count) position)
      later := by
  have length : ((image.drop position).take count).length = count := by
    rw [List.length_take, List.length_drop]
    omega
  constructor
  · rw [writeAt_length, length]
    exact Nat.max_le.mpr ⟨filling.within, bound⟩
  · intro index inside
    -- The writer answers for what follows its new position, the others for what they did.
    rcases Nat.lt_or_ge index position with before | passed
    · rcases filling.covered index inside with right | ⟨other, stands, reaches⟩
      · have there : index < content.length := by
          rw [List.getElem?_eq_getElem inside] at right
          exact (List.getElem?_eq_some_iff.mp right).1
        exact Or.inl ((writeAt_before before there).trans right)
      · rcases kept other stands with stays | rfl
        · exact Or.inr ⟨other, stays, reaches⟩
        · omega
    · rcases Nat.lt_or_ge index (position + count) with written | behind
      · left
        rw [writeAt_inside passed (by rw [length]; exact written),
          List.getElem?_take_of_lt (by omega), List.getElem?_drop]
        congr 1
        omega
      · exact Or.inr ⟨position + count, goes, behind⟩

/-- A writer that has written the image to its end is not needed any more. -/
theorem finish (filling : Filling image content pending)
    (kept : ∀ other, pending other → later other ∨ image.length ≤ other) :
    Filling image content later where
  within := filling.within
  covered index inside := by
    rcases filling.covered index inside with right | ⟨other, stands, reaches⟩
    · exact Or.inl right
    · rcases kept other stands with stays | done
      · exact Or.inr ⟨other, stays, reaches⟩
      · omega

/-- Without writers the image is there. -/
theorem whole (filling : Filling image content pending) (none : ∀ position, ¬pending position) :
    content = image := by
  have same : ∀ index < image.length, content[index]? = image[index]? := by
    intro index inside
    rcases filling.covered index inside with right | ⟨position, stands, -⟩
    · exact right
    · exact absurd stands (none position)
  apply List.ext_getElem?
  intro index
  rcases Nat.lt_or_ge index image.length with inside | outside
  · exact same index inside
  · rw [List.getElem?_eq_none outside,
      List.getElem?_eq_none (Nat.le_trans filling.within outside)]

end Filling

end Foundation
