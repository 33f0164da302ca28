import CongestionFabric.Engine.DomainEffect

/-!
Contract: where authority comes from.

Owns the successful registrations and fences of an identity along a history, the
statement that a boot was registered and not fenced since, the calls that carry a
boot nobody registered, and the theorem that without such calls every accepted
declaration and publication goes back to a registration.

A fence leaves the successor of the dead boot in the table, and the gates compare
with the table only.
-/

namespace CongestionFabric

open Foundation

/-! ## Registrations and fences -/

section Standing

variable {S E BootTag : Type}

/-- What was last done to an identity. -/
inductive Standing (BootTag : Type) where
  | registered (boot : Generation BootTag)
  | fenced (deadBoot : Generation BootTag)

/-- The boot that the table holds after it. -/
def Standing.recorded : Standing BootTag → Generation BootTag
  | .registered boot => boot
  | .fenced deadBoot => deadBoot.next

variable (registers fences : S → E → Option (Generation BootTag))

/-- A step that registers a boot, or fences one. -/
def standingAct (state : S) (label : E) : Option (Standing BootTag) :=
  ((registers state label).map .registered).or ((fences state label).map .fenced)

/-- The boot was registered, and no boot of the identity was fenced since. -/
def RegisteredSince (history : List (S × E)) (boot : Generation BootTag) : Prop :=
  ∃ before state label after, history = before ++ (state, label) :: after ∧
    registers state label = some boot ∧ ∀ taken ∈ after, fences taken.1 taken.2 = none

variable {registers fences} {history : List (S × E)} {boot : Generation BootTag}

private theorem registeredSince_of_lastAct
    (last : lastAct (standingAct registers fences) history = some (.registered boot)) :
    RegisteredSince registers fences history boot := by
  obtain ⟨before, state, label, after, split, here, quiet⟩ := exists_of_lastAct_eq_some last
  refine ⟨before, state, label, after, split, ?_, fun taken member => ?_⟩
  · unfold standingAct at here
    cases registered : registers state label with
    | some found =>
        rw [registered] at here
        simpa using here
    | none =>
        rw [registered] at here
        cases fenced : fences state label with
        | none => exact absurd here (by simp [fenced])
        | some deadBoot => exact absurd here (by simp [fenced])
  · have nothing := quiet taken member
    unfold standingAct at nothing
    simp only [Option.or_eq_none_iff, Option.map_eq_none_iff] at nothing
    exact nothing.2

end Standing

variable {R : Type} [Arithmetic R]

/-- The boot of the worker that a step registers. -/
def registersWorker (worker : WorkerId) (state : Impl R) : Label R → Option WorkerBootId
  | .call _ (.registerWorker target boot) =>
      if (state.registerWorker target boot).1 && target = worker then some boot else none
  | _ => none

/-- The boot of the worker that a step fences. -/
def fencesWorker (worker : WorkerId) (state : Impl R) : Label R → Option WorkerBootId
  | .call _ (.fenceWorker target deadBoot) =>
      if (state.fenceWorker target deadBoot).1 && target = worker then some deadBoot else none
  | _ => none

/-- The boot of the source that a step registers. -/
def registersSource (source : SourceId) (state : Impl R) : Label R → Option SourceBootId
  | .call _ (.registerSource target boot) =>
      if (state.registerSource target boot).1 && target = source then some boot else none
  | _ => none

/-- The boot of the source that a step fences. -/
def fencesSource (source : SourceId) (state : Impl R) : Label R → Option SourceBootId
  | .call _ (.fenceSource target deadBoot) =>
      if (state.fenceSource target deadBoot).1 && target = source then some deadBoot else none
  | _ => none

/-- What was last done to the worker in a history. -/
def workerStanding (worker : WorkerId) (history : List (Impl R × Label R)) :
    Option (Standing WorkerBootIdTag) :=
  lastAct (standingAct (registersWorker worker) (fencesWorker worker)) history

/-- What was last done to the source in a history. -/
def sourceStanding (source : SourceId) (history : List (Impl R × Label R)) :
    Option (Standing SourceBootIdTag) :=
  lastAct (standingAct (registersSource source) (fencesSource source)) history

/-! ## The tables -/

/-- Every entry of the two tables was left there by what was last done to it. -/
structure Impl.Traced (history : List (Impl R × Label R)) (state : Impl R) : Prop where
  workers : ∀ worker, state.workerBoot.find? worker =
    (workerStanding worker history).map Standing.recorded
  sources : ∀ source, state.sourceBoot.find? source =
    (sourceStanding source history).map Standing.recorded

variable {limits : EngineLimits} {history : List (Impl R × Label R)} {state next : Impl R}
  {label : Label R}

section Tables

variable {Tag BootTag : Type} {table : UnorderedMap (Id Tag) (Generation BootTag)}
  {id target : Id Tag} {boot : Generation BootTag} {standing : Option (Standing BootTag)}

private theorem recorded_registerBoot
    (recorded : table.find? id = standing.map Standing.recorded) :
    (registerBoot table target boot).2.find? id =
      (((if (registerBoot table target boot).1 && target = id then some boot else none).map
        Standing.registered).or standing).map Standing.recorded := by
  rw [registerBoot_find?]
  by_cases here : (registerBoot table target boot).1 = true ∧ id = target
  · obtain ⟨accepted, rfl⟩ := here
    simp [accepted, Standing.recorded]
  · rw [if_neg here, recorded]
    have elsewhere : ¬((registerBoot table target boot).1 && decide (target = id)) = true := by
      rw [Bool.and_eq_true, decide_eq_true_eq]
      exact fun both => here ⟨both.1, both.2.symm⟩
    rw [if_neg elsewhere]
    rfl

private theorem recorded_fenceBoot (recorded : table.find? id = standing.map Standing.recorded) :
    ((fenceBoot table target boot).getD table).find? id =
      (((if (fenceBoot table target boot).isSome && target = id then some boot else none).map
        Standing.fenced).or standing).map Standing.recorded := by
  rw [fenceBoot_find?]
  by_cases here : (target.value ≠ 0 ∧ table.find? target = some boot) ∧ id = target
  · obtain ⟨accepted, rfl⟩ := here
    rw [if_pos ⟨accepted, rfl⟩, fenceBoot_isSome.mpr accepted]
    simp [Standing.recorded]
  · rw [if_neg here, recorded]
    have elsewhere : ¬((fenceBoot table target boot).isSome && decide (target = id)) = true := by
      rw [Bool.and_eq_true, decide_eq_true_eq, fenceBoot_isSome]
      exact fun both => here ⟨both.1, both.2.symm⟩
    rw [if_neg elsewhere]
    rfl

end Tables

private theorem fenceWorker_fst (state : Impl R) (worker : WorkerId) (deadBoot : WorkerBootId) :
    (state.fenceWorker worker deadBoot).1 =
      (fenceBoot state.workerBoot worker deadBoot).isSome := by
  unfold Impl.fenceWorker
  cases fenceBoot state.workerBoot worker deadBoot <;> rfl

private theorem fenceSource_fst (state : Impl R) (source : SourceId) (deadBoot : SourceBootId) :
    (state.fenceSource source deadBoot).1 =
      (fenceBoot state.sourceBoot source deadBoot).isSome := by
  unfold Impl.fenceSource
  cases fenceBoot state.sourceBoot source deadBoot <;> rfl

private theorem Impl.Traced.step (recorded : state.Traced history)
    (taken : Step limits state label next) : next.Traced (history ++ [(state, label)]) := by
  refine ⟨fun worker => ?_, fun source => ?_⟩
  · rw [workerStanding, lastAct_snoc]
    cases taken with
    | rehash same =>
        rw [← same.workerBoot.find?_eq]
        exact recorded.workers worker
    | call now op =>
        rw [(exec_tables limits now op state).1]
        cases op with
        | registerWorker target boot =>
            unfold standingAct
            rw [show fencesWorker worker state (.call now (.registerWorker target boot)) = none
              from rfl, Option.map_none, Option.or_none]
            exact recorded_registerBoot (recorded.workers worker)
        | fenceWorker target deadBoot =>
            have after : ((fenceBoot state.workerBoot target deadBoot).getD
                state.workerBoot).find? worker = _ :=
              recorded_fenceBoot (recorded.workers worker)
            rw [← fenceWorker_fst] at after
            exact after
        | _ => exact recorded.workers worker
  · rw [sourceStanding, lastAct_snoc]
    cases taken with
    | rehash same =>
        rw [← same.sourceBoot.find?_eq]
        exact recorded.sources source
    | call now op =>
        rw [(exec_tables limits now op state).2]
        cases op with
        | registerSource target boot =>
            unfold standingAct
            rw [show fencesSource source state (.call now (.registerSource target boot)) = none
              from rfl, Option.map_none, Option.or_none]
            exact recorded_registerBoot (recorded.sources source)
        | fenceSource target deadBoot =>
            have after : ((fenceBoot state.sourceBoot target deadBoot).getD
                state.sourceBoot).find? source = _ :=
              recorded_fenceBoot (recorded.sources source)
            rw [← fenceSource_fst] at after
            exact after
        | _ => exact recorded.sources source

/-! ## Authority -/

section Minted

variable {BootTag : Type} {standing : Option (Standing BootTag)} {boot : Generation BootTag}

/-- The boot is the one that the last fence of the identity left in the table. -/
def minted (standing : Option (Standing BootTag)) (boot : Generation BootTag) : Bool :=
  match standing with
  | some (.fenced deadBoot) => boot = deadBoot.next
  | _ => false

/-- A recorded boot that no fence left there was registered. -/
private theorem registered_of_not_minted
    (recorded : standing.map Standing.recorded = some boot)
    (earned : minted standing boot = false) : standing = some (.registered boot) := by
  obtain ⟨last, rfl, holds⟩ := Option.map_eq_some_iff.mp recorded
  cases last with
  | registered found =>
      obtain rfl : found = boot := holds
      rfl
  | fenced deadBoot =>
      obtain rfl : deadBoot.next = boot := holds
      exact absurd earned (by simp [minted])

end Minted

/-- The call presents a boot that nobody registered: the one that the last fence of
its owner, or of its source, left in the table. -/
def Label.presentsMinted (earlier : List (Impl R × Label R)) : Label R → Bool
  | .call _ (.declareFlow options) =>
      minted (workerStanding options.ownerWorker earlier) options.ownerBoot ||
        minted (sourceStanding options.source earlier) options.sourceBoot
  | .call _ (.publishMeasurement _ _ owner ownerBoot) =>
      minted (workerStanding owner earlier) ownerBoot
  | _ => false

/-- An accepted declaration, and an accepted publication with an owner, is made
under boots that were registered and not fenced since. -/
def Label.Registered (limits : EngineLimits) (earlier : List (Impl R × Label R))
    (state : Impl R) : Label R → Prop
  | .call now (.declareFlow options) =>
      (state.declareFlow limits now options).1.id.isValid = true →
        RegisteredSince (registersWorker options.ownerWorker) (fencesWorker options.ownerWorker)
            earlier options.ownerBoot ∧
          RegisteredSince (registersSource options.source) (fencesSource options.source)
            earlier options.sourceBoot
  | .call _ (.publishMeasurement target measurement owner ownerBoot) =>
      (state.publishMeasurement target measurement owner ownerBoot).1 = true →
        owner.isValid = true →
          RegisteredSince (registersWorker owner) (fencesWorker owner) earlier ownerBoot
  | _ => True

private theorem Impl.Traced.registered (recorded : state.Traced history)
    (earned : label.presentsMinted history = false) : label.Registered limits history state := by
  cases label with
  | rehash => trivial
  | call now op =>
      cases op with
      | declareFlow options =>
          intro accepted
          simp only [Label.presentsMinted, Bool.or_eq_false_iff] at earned
          have allowed : Declarable limits options state := by
            by_contra refused
            rw [declareFlow_of_not_declarable refused] at accepted
            exact absurd accepted (by simp [Id.isValid])
          have worker := (recorded.workers options.ownerWorker).symm.trans allowed.workerRecorded
          have source := (recorded.sources options.source).symm.trans allowed.sourceRecorded
          exact ⟨registeredSince_of_lastAct (registered_of_not_minted worker earned.1),
            registeredSince_of_lastAct (registered_of_not_minted source earned.2)⟩
      | publishMeasurement target measurement owner ownerBoot =>
          intro accepted valid
          have allowed := (publishMeasurement_accepted.mp accepted).2
          simp only [Impl.publishable, valid, Bool.not_true, Bool.false_or, Bool.and_eq_true,
            decide_eq_true_eq] at allowed
          have worker := (recorded.workers owner).symm.trans allowed.2
          exact registeredSince_of_lastAct (registered_of_not_minted worker earned)
      | _ => trivial

/-- In every run whose calls present no boot that a fence left behind, every
accepted declaration and every accepted publication with an owner is made under a
boot that was registered and not fenced since. -/
theorem registered_of_run {final : Impl R} (run : Run (Step limits) Impl.fresh history final)
    (earned : EveryStep history fun earlier _ label => label.presentsMinted earlier = false) :
    EveryStep history fun earlier state label => label.Registered limits earlier state := by
  have recorded : Throughout history final fun earlier state => state.Traced earlier :=
    run.throughout_of_everyStep _ ⟨fun _ => rfl, fun _ => rfl⟩
      (fun recorded _ taken => recorded.step taken) earned
  intro before state label after split
  exact (recorded.1 before state label after split).registered
    (earned before state label after split)

private def ownedOptions (boot : WorkerBootId) : FlowOptions Binary64 :=
  { FlowOptions.ofFirst 100 with ownerBoot := boot }

/-- The worker dies and comes back: registered, fenced, and then either registered
again under boot 3 or not. -/
private def comesBack (again : List (UInt64 × Op Binary64)) (boot : WorkerBootId) :
    List (UInt64 × Op Binary64) :=
  [(1, .registerWorker ⟨1⟩ ⟨1⟩), (2, .registerSource ⟨1⟩ ⟨1⟩),
    (3, .createDomain DomainKind.nicTx {}), (4, .declareFlow (ownedOptions ⟨1⟩)),
    (5, .fenceWorker ⟨1⟩ ⟨1⟩)] ++ again ++ [(7, .declareFlow (ownedOptions boot))]

theorem comesBack_registered :
    EveryStep (trace {} (comesBack [(6, .registerWorker ⟨1⟩ ⟨3⟩)] ⟨3⟩) Impl.fresh)
      fun earlier state label => label.Registered {} earlier state :=
  registered_of_run (run_execAll (comesBack [(6, .registerWorker ⟨1⟩ ⟨3⟩)] ⟨3⟩) Run.nil)
    (by decide +kernel)

/-- The fence of boot 1 leaves boot 2 in the table, and a declaration under boot 2 is
accepted although nobody registered it. -/
theorem comesBack_unregistered :
    ¬∀ (limits : EngineLimits) (history : List (Impl Binary64 × Label Binary64))
      (final : Impl Binary64), Run (Step limits) Impl.fresh history final →
        EveryStep history fun earlier state label => label.Registered limits earlier state := by
  intro always
  have everywhere := always {} _ _ (run_execAll (comesBack [] ⟨2⟩) Run.nil)
  have registered : Label.Registered {} _ _ (.call 7 (.declareFlow (ownedOptions ⟨2⟩))) :=
    everywhere (trace {} ((comesBack [] ⟨2⟩).take 5) Impl.fresh)
      (execAll {} ((comesBack [] ⟨2⟩).take 5) Impl.fresh) _ [] rfl
  obtain ⟨⟨before, state, label, after, split, registers, -⟩, -⟩ :=
    registered (by decide +kernel)
  have nobody : ∀ taken ∈ trace {} ((comesBack [] ⟨2⟩).take 5) (Impl.fresh : Impl Binary64),
      registersWorker ⟨1⟩ taken.1 taken.2 ≠ some ⟨2⟩ := by
    decide +kernel
  exact nobody (state, label) (by rw [split]; simp) registers

end CongestionFabric
