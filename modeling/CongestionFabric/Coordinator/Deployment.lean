import CongestionFabric.Coordinator.Effect
import CongestionFabric.Persistence.Bound
import CongestionFabric.Persistence.Interrupted

/-!
Contract: a coordinator that is started on its state file, killed and started again.

Owns the files and the process beside them: a SAVE and the save at the end of `main`
write them, each of these may stop at any point of its writing, and the process may be
killed at any time; what every later load finds; and that a deployment stays among the
engines that calls and loads of saved files reach.

Does not own: several saves at once, and a file that anyone else writes.
-/

namespace CongestionFabric

open Foundation

/-! ## Deployments -/

/-- The files, and the coordinator while its process runs. -/
structure Deployment where
  files : Files
  running : Option Coordinator := none

/-- What can happen. A save tells how much it writes, if it opens the file. -/
inductive DeploymentAct where
  | start
  | input (input : Input) (written : Option Nat)
  | exit (written : Option Nat)
  | kill

/-- The file that the coordinator saves to when it takes the input. -/
def Coordinator.saving (coordinator : Coordinator) (input : Input) : Option Bytes :=
  match coordinator.taker input, input with
  | some _, .frame _ _ _ frame =>
      match Request.ofFrame frame with
      | some (.save path) => some path
      | _ => none
  | _, _ => none

/-- `main` has joined all sessions. -/
def Coordinator.isOver (coordinator : Coordinator) : Bool :=
  coordinator.stop && coordinator.sessions.all fun session => session.phase.isEnded

/-- A save that may stop at any point. Its image has been built in memory. -/
structure SaveLeaves (engine : Impl Binary64) (path : Bytes) (files : Files)
    (written : Option Nat) (after : Files) : Prop where
  addressable : (saveBytes engine).length < 2 ^ 64
  run : ∃ history, Run (SaveStep (saveBytes engine) path) ⟨files, none⟩ history ⟨after, written⟩

/-- A save that comes to its end. -/
theorem saveLeaves_whole {engine : Impl Binary64} (addressable : (saveBytes engine).length < 2 ^ 64)
    (path : Bytes) (files : Files) :
    SaveLeaves engine path files (some (saveBytes engine).length)
      (Function.update files path (some (saveBytes engine))) := by
  have run : Run (SaveStep (saveBytes engine) path) ⟨files, none⟩ _
      (.extended (saveBytes engine) path (Saving.opened path files).files 0
        (saveBytes engine).length) :=
    (Run.nil.snoc (.openFile files)).snoc (.writeBytes _ (Nat.le_of_eq (Nat.zero_add _)))
  have ends : Saving.extended (saveBytes engine) path (Saving.opened path files).files 0
      (saveBytes engine).length =
        ⟨Function.update files path (some (saveBytes engine)), some (saveBytes engine).length⟩ := by
    simp [Saving.extended, Saving.opened]
  rw [ends] at run
  exact ⟨addressable, _, run⟩

/-- One step; `state` is the file that `--state` names. -/
inductive DeploymentStep (limits : EngineLimits) (state : Option Bytes) :
    Deployment → DeploymentAct → Deployment → Prop
  | start (files : Files) : DeploymentStep limits state ⟨files, none⟩ .start
      ⟨files, some (.start (state.bind files))⟩
  | input {files : Files} {coordinator next : Coordinator} {input : Input}
      (taken : CoordinatorStep limits coordinator input next)
      (silent : coordinator.saving input = none) :
      DeploymentStep limits state ⟨files, some coordinator⟩ (.input input none)
        ⟨files, some next⟩
  | save {files after : Files} {coordinator next : Coordinator} {input : Input} {path : Bytes}
      {written : Option Nat} (taken : CoordinatorStep limits coordinator input next)
      (saving : coordinator.saving input = some path)
      (left : SaveLeaves coordinator.engine path files written after) :
      DeploymentStep limits state ⟨files, some coordinator⟩ (.input input written)
        ⟨after, some next⟩
  | exit {files : Files} {coordinator : Coordinator} (ended : coordinator.isOver = true)
      (unnamed : state = none) :
      DeploymentStep limits state ⟨files, some coordinator⟩ (.exit none) ⟨files, none⟩
  | exitSaving {files after : Files} {coordinator : Coordinator} {path : Bytes}
      {written : Option Nat} (ended : coordinator.isOver = true) (named : state = some path)
      (left : SaveLeaves coordinator.engine path files written after) :
      DeploymentStep limits state ⟨files, some coordinator⟩ (.exit written) ⟨after, none⟩
  | kill (files : Files) (coordinator : Coordinator) :
      DeploymentStep limits state ⟨files, some coordinator⟩ .kill ⟨files, none⟩

/-- The engine that the step writes to the file of the path, as far as it comes. -/
def Deployment.saves (state : Option Bytes) (path : Bytes) (deployment : Deployment) :
    DeploymentAct → Option (Impl Binary64)
  | .input input (some _) =>
      (deployment.running.filter fun coordinator =>
        coordinator.saving input = some path).map Coordinator.engine
  | .exit (some _) => if state = some path then deployment.running.map Coordinator.engine else none
  | _ => none

variable {limits : EngineLimits} {state : Option Bytes} {files after : Files} {path : Bytes}
  {written : Option Nat} {deployment next : Deployment} {act : DeploymentAct}
  {history : List (Deployment × DeploymentAct)}

/-! ## Engines -/

theorem Restartable.coordinatorStep {coordinator next : Coordinator} {input : Input}
    (reached : Restartable coordinator.engine)
    (taken : CoordinatorStep limits coordinator input next) : Restartable next.engine := by
  cases taken with
  | input =>
      rw [Coordinator.next_engine]
      cases coordinator.call input with
      | none => exact reached
      | some call => exact reached.call limits call.1 call.2
  | rehash same =>
      have taken : Step ((limits, .rehash) : EngineLimits × Label Binary64).1 coordinator.engine
          ((limits, .rehash) : EngineLimits × Label Binary64).2 _ := .rehash same
      exact Restarted.step reached taken

/-! ## Files -/

/-- What a load of the file does: it refuses, or it restores the engine that the last save
of that file was about, whole. -/
def Deployment.Recovers (state : Option Bytes) (history : List (Deployment × DeploymentAct))
    (files : Files) (path : Bytes) : Prop :=
  ∀ target : Impl Binary64, target.load (files path) = (false, target) ∨
    ∃ saved next, lastAct (Deployment.saves state path) history = some saved ∧
      Restartable saved ∧ Restores saved target next ∧ target.load (files path) = (true, next)

/-- A step that writes nothing to the file leaves it to the save that has written it. -/
theorem Deployment.Recovers.same (recovers : Deployment.Recovers state history files path)
    (nothing : deployment.saves state path act = none) (file : after path = files path) :
    Deployment.Recovers state (history ++ [(deployment, act)]) after path := by
  unfold Deployment.Recovers
  rw [file, lastAct_snoc, nothing, Option.none_or]
  exact recovers

/-- After a save that has stopped somewhere, all files are in order. -/
theorem SaveLeaves.recovers {engine : Impl Binary64}
    (left : SaveLeaves engine path files written after) (reached : Restartable engine)
    (before : ∀ other, Deployment.Recovers state history files other)
    (wrote : ∀ other, deployment.saves state other act =
      if other = path ∧ written.isSome = true then some engine else none) :
    ∀ other, Deployment.Recovers state (history ++ [(deployment, act)]) after other := by
  intro other
  obtain ⟨steps, run⟩ := left.run
  rcases saving_cases run with unopened | ⟨count, bound, opened⟩
  · obtain ⟨rfl, rfl⟩ := Saving.mk.inj unopened
    exact (before other).same (by rw [wrote]; simp) rfl
  · obtain ⟨rfl, rfl⟩ := Saving.mk.inj opened
    by_cases here : other = path
    · subst here
      intro target
      rw [Function.update_self, lastAct_snoc, wrote, if_pos ⟨rfl, rfl⟩, Option.some_or]
      by_cases short : count < (saveBytes engine).length
      · -- A beginning of the image fails its checksums.
        have refused := load_take_refused left.addressable short target
        exact Or.inl (Prod.ext refused (Impl.load_refused refused))
      · rw [List.take_of_length_le (by omega)]
        rcases load_saveBytes_cases engine target with refused | accepted
        · exact Or.inl refused
        · exact Or.inr ⟨engine, _, rfl, reached, accepted, accepted⟩
    · refine (before other).same ?_ (Function.update_of_ne here _ _)
      rw [wrote, if_neg fun both => here both.1]

/-! ## Runs -/

/-- The engine is one that calls and loads of saved files reach, and every file is refused
or what the last save of it was about. -/
structure Deployment.Sound (state : Option Bytes) (history : List (Deployment × DeploymentAct))
    (deployment : Deployment) : Prop where
  engine : ∀ coordinator, deployment.running = some coordinator → Restartable coordinator.engine
  recovers : ∀ path, Deployment.Recovers state history deployment.files path

theorem Deployment.Sound.step (sound : deployment.Sound state history)
    (taken : DeploymentStep limits state deployment act next) :
    next.Sound state (history ++ [(deployment, act)]) := by
  cases taken with
  | start files =>
      refine ⟨?_, fun path => (sound.recovers path).same rfl rfl⟩
      intro coordinator running
      obtain rfl := Option.some.inj running
      change Restartable ((Impl.fresh.load (state.bind files)).2)
      cases state with
      | none => exact Restarted.start
      | some path =>
          rw [Option.bind_some]
          rcases sound.recovers path Impl.fresh with
            refused | ⟨saved, next, -, reached, back, loaded⟩
          · rw [show Impl.fresh.load (files path) = (false, Impl.fresh) from refused]
            exact Restarted.start
          · rw [show Impl.fresh.load (files path) = (true, next) from loaded]
            exact Restarted.restore reached Restarted.start back
  | input taken silent =>
      refine ⟨?_, fun path => (sound.recovers path).same rfl rfl⟩
      intro coordinator running
      obtain rfl := Option.some.inj running
      exact (sound.engine _ rfl).coordinatorStep taken
  | @save _ _ coordinator _ input path written taken saving left =>
      refine ⟨?_, left.recovers (sound.engine _ rfl) sound.recovers fun other => ?_⟩
      · intro coordinator running
        obtain rfl := Option.some.inj running
        exact (sound.engine _ rfl).coordinatorStep taken
      · cases written with
        | none => simp [saves]
        | some count =>
            simp only [saves, Option.filter_some, saving, Option.some.injEq, decide_eq_true_eq,
              Option.isSome_some, and_true, eq_comm (a := path)]
            split <;> rfl
  | exit ended unnamed =>
      exact ⟨by simp, fun path => (sound.recovers path).same rfl rfl⟩
  | @exitSaving _ _ coordinator path written ended named left =>
      refine ⟨by simp, left.recovers (sound.engine _ rfl) sound.recovers fun other => ?_⟩
      cases written with
      | none => simp [saves]
      | some count => simp [saves, named, eq_comm]
  | kill files coordinator =>
      exact ⟨by simp, fun path => (sound.recovers path).same rfl rfl⟩

/-- Where no file can be loaded at first, and no save begins before another has ended:
however often a coordinator is killed, also in the middle of a save, and started again,
every engine that it ever runs is one that calls and loads of saved files reach; and every
file that a load accepts holds the engine of the last save of that file, whole, so that no
start finds a mixture or anything older. -/
theorem deployment_recovers {final : Deployment}
    (blank : ∀ path, (files path).bind Impl.decode = none)
    (run : Run (DeploymentStep limits state) ⟨files, none⟩ history final) :
    (∀ coordinator, final.running = some coordinator → Restartable coordinator.engine) ∧
      ∀ (path : Bytes) (target : Impl Binary64),
        target.load (final.files path) = (false, target) ∨
          ∃ saved next, lastAct (Deployment.saves state path) history = some saved ∧
            Restartable saved ∧ Restores saved target next ∧
            target.load (final.files path) = (true, next) := by
  have initial : Deployment.Sound state [] ⟨files, none⟩ := by
    refine ⟨by simp, fun path target => Or.inl ?_⟩
    rw [Impl.load_eq]
    rw [blank path]
  have sound := (run.throughout_invariant
    (fun history deployment => Deployment.Sound state history deployment) initial
    fun sound taken => sound.step taken).2
  exact ⟨sound.engine, sound.recovers⟩

/-- A worker connects and registers in a fresh coordinator. -/
private def registering : List Input :=
  [.accept, .frame 0 1 false (.register 1 1), .resume 0]

private def registeredWorker : Coordinator :=
  registering.foldl (Coordinator.next {}) (.start none)

/-- It asks for a save to the state file. -/
private def savesState : Input :=
  .frame 0 2 true (.ofType .save (wrStr (ascii "state")))

/-- The state file alone, with what was saved. -/
private def stateFile : Files :=
  Function.update (fun _ => none) (ascii "state") (some (saveBytes registeredWorker.engine))

/-- The coordinator was killed after the save and started again. -/
private def restarted : Deployment :=
  ⟨stateFile, some (.start (stateFile (ascii "state")))⟩

private theorem saves_registered : registeredWorker.saving savesState = some (ascii "state") ∧
    (saveBytes registeredWorker.engine).length < 2 ^ 64 ∧
    restarted.running.map (fun coordinator => coordinator.engine.workerBoot.find? ⟨1⟩) =
      some (some ⟨1⟩) := by
  decide +kernel

private theorem restarted_run : ∃ history,
    Run (DeploymentStep {} (some (ascii "state"))) ⟨fun _ => none, none⟩ history restarted := by
  have started : Run (DeploymentStep {} (some (ascii "state"))) ⟨fun _ => none, none⟩ _
      ⟨fun _ => none, some (.start none)⟩ := Run.nil.snoc (.start _)
  have silent : (Coordinator.start none).saving .accept = none ∧
      ((Coordinator.start none).next {} .accept).saving (registering.getD 1 .rehash) = none := by
    decide +kernel
  have accepted := started.snoc (.input (.input _ .accept) silent.1)
  have handled := accepted.snoc (.input (.input _ (registering.getD 1 .rehash)) silent.2)
  have registered := handled.snoc (.input (.input _ (.resume 0)) rfl)
  have saved := registered.snoc (.save (.input _ savesState) saves_registered.1
    (saveLeaves_whole saves_registered.2.1 _ _))
  exact ⟨_, (saved.snoc (.kill _ _)).snoc (.start _)⟩

theorem deployment_recovers_killed :
    ∃ history, Run (DeploymentStep {} (some (ascii "state"))) ⟨fun _ => none, none⟩ history
        restarted ∧
      restarted.running.map (fun coordinator => coordinator.engine.workerBoot.find? ⟨1⟩) =
        some (some ⟨1⟩) ∧
      (∀ coordinator, restarted.running = some coordinator → Restartable coordinator.engine) ∧
      ∀ (path : Bytes) (target : Impl Binary64),
        target.load (restarted.files path) = (false, target) ∨
          ∃ saved next, lastAct (Deployment.saves (some (ascii "state")) path) history =
              some saved ∧
            Restartable saved ∧ Restores saved target next ∧
            target.load (restarted.files path) = (true, next) := by
  obtain ⟨history, run⟩ := restarted_run
  exact ⟨history, run, saves_registered.2.2, deployment_recovers (fun _ => rfl) run⟩

end CongestionFabric
