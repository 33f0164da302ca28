import CongestionFabric.Foundation.SharedWrites
import CongestionFabric.Foundation.Simulation
import CongestionFabric.Persistence.Interrupted
import CongestionFabric.Persistence.SavedFile

/-!
Contract: calls of `save` that run at once.

Owns an engine behind its lock, which a call that changes the engine has alone and calls
of `save` share until their file is closed, the steps in which each of these opens and
fills a file of its own choice, and the file that is left when they are done.

Does not own: what `save` returns, and a write that another process makes. A save may
stop at any point; what it has written then is left behind.
-/

namespace CongestionFabric

open Foundation

/-! ## The lock and the files -/

/-- A call of `save` that has the lock: the file it names, the image it writes, and how
much of that it has written since it opened the file. -/
structure Saver where
  path : Bytes
  image : Bytes
  written : Option Nat := none

/-- An engine, the files, and the calls of `save` that share the lock. -/
structure SharedEngine where
  engine : Impl Binary64
  files : Files
  savers : List Saver := []

inductive SharedAct where
  /-- A call that takes a `std::unique_lock`. -/
  | call (now : UInt64) (op : Op Binary64)
  /-- A call of `save` gets its `std::shared_lock`. -/
  | save (path : Bytes)
  | openFile (index : Nat)
  | writeBytes (index count : Nat)
  /-- The file is closed with all bytes in it, and the lock is released. -/
  | finish (index : Nat)
  /-- The stream has gone bad, or the file cannot be opened. -/
  | giveUp (index : Nat)
  | rehash

namespace SharedEngine

/-- A saver goes on. -/
def write (index : Nat) (saver : Saver) (shared : SharedEngine) : SharedEngine :=
  { shared with savers := shared.savers.set index saver }

/-- A saver releases the lock. -/
def release (index : Nat) (shared : SharedEngine) : SharedEngine :=
  { shared with savers := shared.savers.eraseIdx index }

/-- What happens; `none` where it cannot. A rehash has no result of its own. -/
def next (limits : EngineLimits) (shared : SharedEngine) : SharedAct → Option SharedEngine
  | .call now op =>
      if shared.savers.isEmpty then
        some { shared with engine := (exec limits now op shared.engine).2 }
      else none
  | .save path => some { shared with
      savers := shared.savers ++ [{ path, image := saveBytes shared.engine }] }
  | .openFile index =>
      match shared.savers[index]? with
      | some ⟨path, image, none⟩ => some { shared.write index ⟨path, image, some 0⟩ with
          files := Function.update shared.files path (some []) }
      | _ => none
  | .writeBytes index count =>
      match shared.savers[index]? with
      | some ⟨path, image, some written⟩ =>
          if 0 < count ∧ written + count ≤ image.length then
            some { shared.write index ⟨path, image, some (written + count)⟩ with
              files := Function.update shared.files path ((shared.files path).map fun content =>
                writeAt 0 content ((image.drop written).take count) written) }
          else none
      | _ => none
  | .finish index =>
      match shared.savers[index]? with
      | some ⟨_, image, some written⟩ =>
          if written = image.length then some (shared.release index) else none
      | _ => none
  | .giveUp index => (shared.savers[index]?).map fun _ => shared.release index
  | .rehash => none

/-- The engine that a step leaves in the file of that path. -/
def saves (path : Bytes) (shared : SharedEngine) : SharedAct → Option (Impl Binary64)
  | .finish index =>
      ((shared.savers[index]?).filter fun saver => saver.path = path).map fun _ => shared.engine
  | _ => none

/-- The step leaves a part of a save in the file of that path. -/
def breaks (path : Bytes) (shared : SharedEngine) : SharedAct → Bool
  | .giveUp index =>
      (shared.savers[index]?).any fun saver => saver.path = path && saver.written.isSome
  | _ => false

/-- Some saver of the path stands at the position. -/
def Pending (shared : SharedEngine) (path : Bytes) (position : Nat) : Prop :=
  ∃ saver ∈ shared.savers, saver.path = path ∧ saver.written = some position

end SharedEngine

/-- One step. The containers of the engine may rehash while nobody reads them. -/
inductive SharedStep (limits : EngineLimits) : SharedEngine → SharedAct → SharedEngine → Prop
  | act {shared next : SharedEngine} {act : SharedAct}
      (taken : shared.next limits act = some next) : SharedStep limits shared act next
  | rehash {shared : SharedEngine} {engine : Impl Binary64} (alone : shared.savers = [])
      (same : shared.engine.Reordered engine) :
      SharedStep limits shared .rehash { shared with engine }

variable {limits : EngineLimits} {shared next : SharedEngine} {act : SharedAct} {path : Bytes}
  {files : Files} {history : List (SharedEngine × SharedAct)}

/-! ## Savers -/

namespace SharedEngine

variable {index position : Nat} {saver new : Saver}

theorem pending_write (goes : (shared.write index new).Pending path position) :
    shared.Pending path position ∨ new.path = path ∧ new.written = some position := by
  obtain ⟨other, member, stands⟩ := goes
  rcases List.mem_or_eq_of_mem_set member with before | rfl
  · exact Or.inl ⟨other, before, stands⟩
  · exact Or.inr stands

theorem Pending.write (pending : shared.Pending path position)
    (found : shared.savers[index]? = some saver) (new : Saver) :
    (shared.write index new).Pending path position ∨
      saver.path = path ∧ saver.written = some position := by
  obtain ⟨other, member, stands⟩ := pending
  obtain ⟨place, located⟩ := List.mem_iff_getElem?.mp member
  by_cases same : index = place
  · subst same
    obtain rfl := Option.some.inj (found.symm.trans located)
    exact Or.inr stands
  · have stays : (shared.savers.set index new)[place]? = some other :=
      (List.getElem?_set_ne same).trans located
    exact Or.inl ⟨other, List.mem_of_getElem? stays, stands⟩

theorem write_mem (found : shared.savers[index]? = some saver) (new : Saver) :
    new ∈ (shared.write index new).savers :=
  List.mem_set (List.getElem?_eq_some_iff.mp found).1 new

theorem pending_release (stays : (shared.release index).Pending path position) :
    shared.Pending path position := by
  obtain ⟨other, member, stands⟩ := stays
  exact ⟨other, List.mem_of_mem_eraseIdx member, stands⟩

theorem Pending.release (pending : shared.Pending path position)
    (found : shared.savers[index]? = some saver) :
    (shared.release index).Pending path position ∨
      saver.path = path ∧ saver.written = some position := by
  obtain ⟨other, member, stands⟩ := pending
  obtain ⟨place, located⟩ := List.mem_iff_getElem?.mp member
  by_cases same : place = index
  · subst same
    obtain rfl := Option.some.inj (found.symm.trans located)
    exact Or.inr stands
  · exact Or.inl ⟨other, List.mem_eraseIdx_iff_getElem?.mpr ⟨place, same, located⟩, stands⟩

end SharedEngine

/-- What the saves of a history leave in the file of a path. -/
def savedIn (path : Bytes) (files : Files) (history : List (SharedEngine × SharedAct)) :
    Option Bytes :=
  match lastAct (SharedEngine.saves path) history with
  | none => files path
  | some engine => some (saveBytes engine)

theorem savedIn_snoc (nothing : shared.saves path act = none) :
    savedIn path files (history ++ [(shared, act)]) = savedIn path files history := by
  unfold savedIn
  rw [lastAct_snoc, nothing, Option.none_or]

/-- The savers all see the same engine. While none of them has the file of the path open,
it is what the last one left; while some have, every byte of the image is there or still
to come. -/
structure SharedEngine.Keeps (path : Bytes) (files : Files)
    (history : List (SharedEngine × SharedAct)) (shared : SharedEngine) : Prop where
  images : ∀ saver ∈ shared.savers, saver.image = saveBytes shared.engine
  settled : (∀ position, ¬shared.Pending path position) →
    shared.files path = savedIn path files history
  filling : ∀ position, shared.Pending path position → ∃ content,
    shared.files path = some content ∧
      Filling (saveBytes shared.engine) content (shared.Pending path)

namespace SharedEngine.Keeps

variable {index position : Nat} {saver : Saver}

/-- Nobody who has the file open moves. -/
theorem same (keeps : shared.Keeps path files history) (nothing : shared.saves path act = none)
    (images : ∀ saver ∈ next.savers, saver.image = saveBytes shared.engine)
    (engine : next.engine = shared.engine) (file : next.files path = shared.files path)
    (pending : ∀ position, next.Pending path position ↔ shared.Pending path position) :
    next.Keeps path files (history ++ [(shared, act)]) := by
  have same : next.Pending path = shared.Pending path :=
    funext fun position => propext (pending position)
  constructor
  · rw [engine]
    exact images
  · intro idle
    rw [file, savedIn_snoc nothing]
    rw [same] at idle
    exact keeps.settled idle
  · rw [same, file, engine]
    exact keeps.filling

/-- A call that has the lock alone. -/
theorem alone (keeps : shared.Keeps path files history) (nothing : shared.saves path act = none)
    (free : shared.savers = []) (engine : Impl Binary64) :
    ({ shared with engine } : SharedEngine).Keeps path files (history ++ [(shared, act)]) := by
  have idle : ∀ position, ¬shared.Pending path position := by
    rintro position ⟨saver, member, -⟩
    rw [free] at member
    exact absurd member List.not_mem_nil
  constructor
  · intro saver member
    change saver ∈ shared.savers at member
    rw [free] at member
    exact absurd member List.not_mem_nil
  · intro _
    rw [savedIn_snoc nothing]
    exact keeps.settled idle
  · intro position pending
    exact absurd pending (idle position)

theorem images_write (keeps : shared.Keeps path files history)
    (found : shared.savers[index]? = some saver) (new : Saver) (same : new.image = saver.image) :
    ∀ other ∈ (shared.write index new).savers, other.image = saveBytes shared.engine := by
  intro other member
  rcases List.mem_or_eq_of_mem_set member with before | rfl
  · exact keeps.images other before
  · exact same.trans (keeps.images saver (List.mem_of_getElem? found))

/-- A saver of another path goes on. -/
theorem elsewhere (keeps : shared.Keeps path files history)
    (nothing : shared.saves path act = none) (found : shared.savers[index]? = some saver)
    (new : Saver) (image : new.image = saver.image) (named : new.path = saver.path)
    (apart : saver.path ≠ path) {written : Files} (file : written path = shared.files path) :
    ({ shared.write index new with files := written } : SharedEngine).Keeps path files
      (history ++ [(shared, act)]) := by
  refine keeps.same nothing (keeps.images_write found new image) rfl file ?_
  intro position
  constructor
  · intro goes
    rcases pending_write goes with before | ⟨here, -⟩
    · exact before
    · exact absurd (named.symm.trans here) apart
  · intro pending
    rcases pending.write found new with after | ⟨here, -⟩
    · exact after
    · exact absurd here apart

theorem save (keeps : shared.Keeps path files history) (named : Bytes) :
    ({ shared with savers := shared.savers ++ [⟨named, saveBytes shared.engine, none⟩] } :
      SharedEngine).Keeps path files (history ++ [(shared, .save named)]) := by
  refine keeps.same rfl ?_ rfl rfl ?_
  · intro saver member
    rcases List.mem_append.mp member with before | new
    · exact keeps.images saver before
    · obtain rfl := List.mem_singleton.mp new
      rfl
  · intro position
    constructor
    · rintro ⟨saver, member, named, stands⟩
      rcases List.mem_append.mp member with before | new
      · exact ⟨saver, before, named, stands⟩
      · obtain rfl := List.mem_singleton.mp new
        exact absurd stands (by simp)
    · rintro ⟨saver, member, stands⟩
      exact ⟨saver, List.mem_append_left _ member, stands⟩

theorem openFile (keeps : shared.Keeps path files history) {named image : Bytes}
    (found : shared.savers[index]? = some ⟨named, image, none⟩) :
    ({ shared.write index ⟨named, image, some 0⟩ with
        files := Function.update shared.files named (some []) } : SharedEngine).Keeps path files
      (history ++ [(shared, .openFile index)]) := by
  have images := keeps.images_write found ⟨named, image, some 0⟩ rfl
  by_cases here : named = path
  · subst here
    have starts : (shared.write index ⟨named, image, some 0⟩).Pending named 0 :=
      ⟨_, shared.write_mem found _, rfl, rfl⟩
    refine ⟨images, fun idle => absurd starts (idle 0), fun _ _ => ⟨[], ?_, .opened starts⟩⟩
    exact Function.update_self ..
  · exact keeps.elsewhere rfl found ⟨named, image, some 0⟩ rfl rfl here
      (Function.update_of_ne (Ne.symm here) _ _)

theorem writeBytes (keeps : shared.Keeps path files history) {named image : Bytes}
    {written count : Nat} (found : shared.savers[index]? = some ⟨named, image, some written⟩)
    (bound : written + count ≤ image.length) :
    ({ shared.write index ⟨named, image, some (written + count)⟩ with
        files := Function.update shared.files named ((shared.files named).map fun content =>
          writeAt 0 content ((image.drop written).take count) written) } :
      SharedEngine).Keeps path files (history ++ [(shared, .writeBytes index count)]) := by
  have images := keeps.images_write found ⟨named, image, some (written + count)⟩ rfl
  by_cases here : named = path
  · subst here
    obtain rfl : image = saveBytes shared.engine :=
      keeps.images _ (List.mem_of_getElem? found)
    have goes : (shared.write index
        ⟨named, saveBytes shared.engine, some (written + count)⟩).Pending named
          (written + count) := ⟨_, shared.write_mem found _, rfl, rfl⟩
    obtain ⟨content, stored, filling⟩ :=
      keeps.filling written ⟨_, List.mem_of_getElem? found, rfl, rfl⟩
    refine ⟨images, fun idle => absurd goes (idle _), fun _ _ => ⟨writeAt 0 content
      (((saveBytes shared.engine).drop written).take count) written, ?_, ?_⟩⟩
    · dsimp only
      rw [Function.update_self, stored]
      rfl
    · apply filling.write 0 bound _ goes
      intro other pending
      rcases pending.write found ⟨named, saveBytes shared.engine, some (written + count)⟩
        with after | ⟨-, stands⟩
      · exact Or.inl after
      · exact Or.inr (Option.some.inj stands).symm
  · exact keeps.elsewhere rfl found ⟨named, image, some (written + count)⟩ rfl rfl here
      (Function.update_of_ne (Ne.symm here) _ _)

/-- A saver leaves that does not have the file of the path open. -/
theorem leaves (keeps : shared.Keeps path files history)
    (nothing : shared.saves path act = none) (found : shared.savers[index]? = some saver)
    (apart : saver.path = path → saver.written = none) :
    (shared.release index).Keeps path files (history ++ [(shared, act)]) := by
  refine keeps.same nothing ?_ rfl rfl ?_
  · exact fun other member => keeps.images other (List.mem_of_mem_eraseIdx member)
  · intro position
    refine ⟨pending_release, fun pending => ?_⟩
    rcases pending.release found with after | ⟨here, stands⟩
    · exact after
    · rw [apart here] at stands
      exact absurd stands (by simp)

/-- The last saver that has the file open leaves it whole. -/
theorem finish (keeps : shared.Keeps path files history) {image : Bytes}
    (found : shared.savers[index]? = some ⟨path, image, some image.length⟩) :
    (shared.release index).Keeps path files (history ++ [(shared, .finish index)]) := by
  obtain rfl : image = saveBytes shared.engine := keeps.images _ (List.mem_of_getElem? found)
  obtain ⟨content, stored, filling⟩ :=
    keeps.filling _ ⟨_, List.mem_of_getElem? found, rfl, rfl⟩
  have rest : Filling (saveBytes shared.engine) content ((shared.release index).Pending path) := by
    apply filling.finish
    intro other pending
    rcases pending.release found with after | ⟨-, stands⟩
    · exact Or.inl after
    · exact Or.inr (Nat.le_of_eq (Option.some.inj stands))
  constructor
  · exact fun other member => keeps.images other (List.mem_of_mem_eraseIdx member)
  · intro idle
    have saved : shared.saves path (.finish index) = some shared.engine := by
      simp [saves, found]
    unfold savedIn
    rw [lastAct_snoc, saved, Option.some_or]
    exact stored.trans (congrArg some (rest.whole idle))
  · exact fun _ _ => ⟨content, stored, rest⟩

/-- Any step but one that stops a save of the path half-way. -/
theorem step (keeps : shared.Keeps path files history)
    (whole : shared.breaks path act = false) (taken : SharedStep limits shared act next) :
    next.Keeps path files (history ++ [(shared, act)]) := by
  cases taken with
  | rehash free same => exact keeps.alone rfl free _
  | act taken =>
      cases act with
      | call now op =>
          simp only [SharedEngine.next, Option.ite_none_right_eq_some, List.isEmpty_iff] at taken
          obtain ⟨free, same⟩ := taken
          exact Option.some.inj same ▸ keeps.alone rfl free _
      | save named => exact Option.some.inj taken ▸ keeps.save named
      | openFile index =>
          dsimp only [SharedEngine.next] at taken
          split at taken
          · next found => exact Option.some.inj taken ▸ keeps.openFile found
          · exact absurd taken (by simp)
      | writeBytes index count =>
          dsimp only [SharedEngine.next] at taken
          split at taken
          · next found =>
              split at taken
              · next bound => exact Option.some.inj taken ▸ keeps.writeBytes found bound.2
              · exact absurd taken (by simp)
          · exact absurd taken (by simp)
      | finish index =>
          dsimp only [SharedEngine.next] at taken
          split at taken
          · next named image written found =>
              split at taken
              · next ends =>
                  subst ends
                  obtain rfl := Option.some.inj taken
                  by_cases here : named = path
                  · exact here ▸ keeps.finish (here ▸ found)
                  · refine keeps.leaves ?_ found fun same => absurd same here
                    simp [saves, found, here]
              · exact absurd taken (by simp)
          · exact absurd taken (by simp)
      | giveUp index =>
          obtain ⟨saver, found, rfl⟩ := Option.map_eq_some_iff.mp taken
          refine keeps.leaves rfl found fun here => ?_
          simpa [breaks, found, here] using whole
      | rehash => exact absurd taken (by simp [SharedEngine.next])

end SharedEngine.Keeps

/-! ## Whole files -/

/-- Saves at once do not tear each other. However many calls of `save` share the lock, and
however they open and fill their files, once nobody has the file of a path open it is the
whole image of the engine as the last of them saw it, and as it was before if there was
none; as long as no save of that path stops half-way. What meets the loader's checks is
restored from it. -/
theorem saves_whole {start final : SharedEngine}
    (run : Run (SharedStep limits) start history final) (idle : start.savers = [])
    (whole : EveryStep history fun _ shared act => shared.breaks path act = false)
    (closed : ∀ position, ¬final.Pending path position) :
    final.files path = savedIn path start.files history ∧
      ∀ saved, lastAct (SharedEngine.saves path) history = some saved → saved.Loadable →
        ∀ target : Impl Binary64,
          target.load (final.files path) = (true, target.restoredFrom saved) := by
  have first : start.Keeps path start.files [] := by
    constructor
    · rw [idle]
      exact fun _ member => absurd member List.not_mem_nil
    · exact fun _ => rfl
    · rintro position ⟨saver, member, -⟩
      rw [idle] at member
      exact absurd member List.not_mem_nil
  have keeps := run.invariant_of_everyStep
    (fun history shared => SharedEngine.Keeps path start.files history shared) first
    (fun keeps whole taken => keeps.step whole taken) whole
  have left := keeps.settled closed
  refine ⟨left, fun saved last loadable target => ?_⟩
  rw [left, savedIn, last]
  exact load_of_decode (decode_saveBytes loadable) target

/-- A worker registers, two saves of one file begin, and the second one empties the file
while the first one is writing; the first one goes on behind the gap and is done first. -/
private def tears : List SharedAct :=
  let size := (saveBytes (execAll {} [(1, .registerWorker ⟨1⟩ ⟨1⟩)] Impl.fresh)).length
  [.call 1 (.registerWorker ⟨1⟩ ⟨1⟩), .save (ascii "state"), .save (ascii "state"),
    .openFile 0, .writeBytes 0 10, .openFile 1, .writeBytes 0 (size - 10), .finish 0,
    .writeBytes 0 size, .finish 0, .call 2 (.registerWorker ⟨2⟩ ⟨1⟩)]

private def torn : Option (List (SharedEngine × SharedAct) × SharedEngine) :=
  perform (SharedEngine.next {}) tears ⟨Impl.fresh, fun _ => none, []⟩

private theorem torn_returns : torn.isSome = true := by decide +kernel

private theorem torn_run : Run (SharedStep {}) ⟨Impl.fresh, fun _ => none, []⟩
    (torn.get torn_returns).1 (torn.get torn_returns).2 :=
  Run.nil.perform .act tears (Option.some_get torn_returns).symm

/-- Both leave the engine as it was between the two calls. -/
theorem saves_whole_torn :
    (torn.get torn_returns).2.files (ascii "state") =
        savedIn (ascii "state") (fun _ => none) (torn.get torn_returns).1 ∧
      savedIn (ascii "state") (fun _ => none) (torn.get torn_returns).1 =
        some (saveBytes (execAll {} [(1, .registerWorker ⟨1⟩ ⟨1⟩)] Impl.fresh)) := by
  obtain ⟨whole, done, saved⟩ :
      EveryStep (torn.get torn_returns).1 (fun _ shared act =>
          shared.breaks (ascii "state") act = false) ∧
        (torn.get torn_returns).2.savers.isEmpty = true ∧
        savedIn (ascii "state") (fun _ => none) (torn.get torn_returns).1 =
          some (saveBytes (execAll {} [(1, .registerWorker ⟨1⟩ ⟨1⟩)] Impl.fresh)) := by
    decide +kernel
  refine ⟨(saves_whole torn_run rfl whole ?_).1, saved⟩
  rintro position ⟨saver, member, -⟩
  rw [List.isEmpty_iff.mp done] at member
  exact absurd member List.not_mem_nil

end CongestionFabric
