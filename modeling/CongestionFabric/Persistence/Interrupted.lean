import CongestionFabric.Persistence.Loaded
import CongestionFabric.Protocol.Tamper
import Mathlib.Logic.Function.Basic

/-!
Contract: what a save that is interrupted leaves in the file system.

Owns the file system as far as `save` and `load` see it, the steps in which
`std::ofstream` opens and fills a file, and the exact points at which the process can
stop so that `load` still accepts the file.

Does not own: what `save` returns, which says whether the stream was good before its
buffer was flushed, and what other processes do to the file.
-/

namespace CongestionFabric

open Foundation

/-! ## Writing a file -/

/-- The contents of the files that there are, by path. -/
abbrev Files := Bytes → Option Bytes

/-- The file system during a save, and how many bytes were written since the file was
opened. -/
structure Saving where
  files : Files
  written : Option Nat := none

inductive SaveAct where
  | openFile
  | writeBytes (count : Nat)

/-- Opening for output truncates. -/
def Saving.opened (path : Bytes) (files : Files) : Saving :=
  ⟨Function.update files path (some []), some 0⟩

/-- The next bytes of the image are appended. -/
def Saving.extended (image path : Bytes) (files : Files) (written count : Nat) : Saving :=
  ⟨Function.update files path
      ((files path).map fun content => content ++ (image.drop written).take count),
    some (written + count)⟩

/-- A write may take any part of what is left. A file that cannot be opened is a save
that makes no step. -/
inductive SaveStep (image path : Bytes) : Saving → SaveAct → Saving → Prop
  | openFile (files : Files) : SaveStep image path ⟨files, none⟩ .openFile (.opened path files)
  | writeBytes (files : Files) {written count : Nat} (left : written + count ≤ image.length) :
      SaveStep image path ⟨files, some written⟩ (.writeBytes count)
        (.extended image path files written count)

variable {image path : Bytes} {files : Files} {history : List (Saving × SaveAct)} {final : Saving}

/-- At every point of a save the file is the old one or a beginning of the new one. -/
theorem saving_cases (run : Run (SaveStep image path) ⟨files, none⟩ history final) :
    final = ⟨files, none⟩ ∨ ∃ written ≤ image.length,
      final = ⟨Function.update files path (some (image.take written)), some written⟩ := by
  induction run with
  | nil => exact Or.inl rfl
  | snoc previous last inductionHypothesis =>
      rcases inductionHypothesis with rfl | ⟨written, bound, rfl⟩
      · cases last with
        | openFile => exact Or.inr ⟨0, Nat.zero_le _, rfl⟩
      · cases last with
        | @writeBytes _ _ count left =>
            refine Or.inr ⟨written + count, left, ?_⟩
            unfold Saving.extended
            rw [Function.update_self, Function.update_idem, Option.map_some, List.take_add]

/-- The loader refuses every strict beginning of a saved file. -/
theorem load_take_refused {state : Impl Binary64} {written : Nat}
    (addressable : (saveBytes state).length < 2 ^ 64) (short : written < (saveBytes state).length)
    (target : Impl Binary64) :
    (target.load (some ((saveBytes state).take written))).1 = false := by
  have length : (saveBytes state).length = _ := wrEnvelope_length (wrPayload state)
  have lost : (saveBytes state).drop written ≠ [] := by
    rw [Ne, List.drop_eq_nil_iff]
    omega
  have cut : Damaged (wrEnvelope (wrPayload state)) ((saveBytes state).take written) :=
    .cut (List.take_append_drop written (saveBytes state)).symm lost
  exact damaged_file_refused (by omega) cut target

/-! ## Interruption -/

/-- At every point at which a save over a file that `load` accepts can stop: the path
has a file that `load` accepts exactly if the file was not opened yet, or was written to
the end and `load` accepts the new snapshot. A refused file leaves the engine as it is,
and all other files are untouched. -/
theorem interrupted_accepted_iff {state : Impl Binary64}
    (run : Run (SaveStep (saveBytes state) path) ⟨files, none⟩ history final)
    (addressable : (saveBytes state).length < 2 ^ 64) (target : Impl Binary64)
    (accepted : (target.load (files path)).1 = true) :
    ((target.load (final.files path)).1 = true ↔ final.written = none ∨
        final.written = some (saveBytes state).length ∧
          (target.load (some (saveBytes state))).1 = true) ∧
      ((target.load (final.files path)).1 = false → (target.load (final.files path)).2 = target) ∧
      ∀ other ≠ path, final.files other = files other := by
  refine ⟨?_, Impl.load_refused, ?_⟩
  · rcases saving_cases run with rfl | ⟨written, bound, rfl⟩
    · simp [accepted]
    · dsimp only
      rw [Function.update_self]
      by_cases whole : written = (saveBytes state).length
      · simp [whole]
      · have short : written < (saveBytes state).length := by omega
        simp [load_take_refused addressable short target, whole]
  · intro other elsewhere
    rcases saving_cases run with rfl | ⟨written, -, rfl⟩
    · rfl
    · exact Function.update_of_ne elsewhere _ _

/-- The snapshot of a fresh engine, as the only file. -/
private def freshFiles : Files :=
  Function.update (fun _ => none) (ascii "state") (some (saveBytes Impl.fresh))

/-- A worker has registered since. -/
private def registeredSince : Impl Binary64 :=
  execAll {} [(1, .registerWorker ⟨1⟩ ⟨1⟩)] Impl.fresh

private theorem run_opened :
    Run (SaveStep (saveBytes registeredSince) (ascii "state")) ⟨freshFiles, none⟩
      ([] ++ [(⟨freshFiles, none⟩, .openFile)]) (.opened (ascii "state") freshFiles) :=
  Run.nil.snoc (.openFile freshFiles)

/-- The file with all bytes of the new snapshot. -/
private def rewritten : Saving :=
  .extended (saveBytes registeredSince) (ascii "state")
    (Saving.opened (ascii "state") freshFiles).files 0 (saveBytes registeredSince).length

private theorem run_rewritten : ∃ history,
    Run (SaveStep (saveBytes registeredSince) (ascii "state")) ⟨freshFiles, none⟩ history
      rewritten :=
  ⟨_, run_opened.snoc (.writeBytes _ (by omega))⟩

/-- The save is stopped after its last byte. -/
theorem rewritten_accepted :
    (Impl.fresh.load (rewritten.files (ascii "state"))).1 = true := by
  obtain ⟨history, run⟩ := run_rewritten
  refine (interrupted_accepted_iff run (by decide +kernel) Impl.fresh (by decide +kernel)).1.mpr ?_
  exact Or.inr ⟨by decide +kernel, by decide +kernel⟩

/-- The save is stopped after opening the file: the old snapshot is gone. -/
theorem opened_refused :
    ¬∀ (state target : Impl Binary64) (path : Bytes) (files : Files)
      (history : List (Saving × SaveAct)) (final : Saving),
      Run (SaveStep (saveBytes state) path) ⟨files, none⟩ history final →
        (target.load (files path)).1 = true → (target.load (final.files path)).1 = true := by
  intro always
  have kept := always registeredSince Impl.fresh (ascii "state") freshFiles _ _ run_opened
    (by decide +kernel)
  exact absurd kept (by decide +kernel)

end CongestionFabric
