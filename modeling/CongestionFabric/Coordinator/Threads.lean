import CongestionFabric.Coordinator.Session
import CongestionFabric.Foundation.Simulation

/-!
Contract: the threads of the coordinator (`session`, `main`, `reg_sock`,
`unreg_sock`, `close_other_socks` and the SHUTDOWN branch of `handle`).

Owns:
- the process: the listener, one thread for every connection, the list of live sockets
  with its mutex, and the accept loop with its joins and its save at the end;
- that a run of the process is a run of the coordinator.

Does not own: the bytes on a socket, socket numbers that the system gives out again, and
how the process comes to its end.
-/

namespace CongestionFabric

open Foundation

/-! ## Threads -/

/-- Where the thread of a connection stands. -/
inductive Stage where
  /-- Before `reg_sock`. -/
  | starting
  /-- At the loop condition of `session`. -/
  | checking
  /-- In `recv_frame`. -/
  | receiving
  /-- Between the two engine calls of a frame. -/
  | finishing
  /-- In the SHUTDOWN branch, with `g_stop` set. -/
  | closingListener
  /-- Before `close_other_socks` has the mutex. -/
  | locking
  /-- In the loop of `close_other_socks`. -/
  | sweeping (rest : List Nat)
  /-- Behind the loop of `session`. -/
  | fencing
  | unregistering
  | closing
  | ended
deriving DecidableEq

/-- A session with its thread. -/
structure Thread where
  session : Session
  stage : Stage := .starting

/-- Where `main` stands. -/
inductive MainStage where
  | checking
  | accepting
  | closing
  | joining (index : Nat)
  | saving
  | exited
deriving DecidableEq

/-- The process of the coordinator. A socket goes by the number of its connection; `holder`
is the thread whose sweep has the mutex of the sockets, `closed` are the sockets that the
process has closed, and `file` is what the last save wrote. -/
structure Process where
  engine : Impl Binary64
  threads : List Thread := []
  socks : List Nat := []
  holder : Option Nat := none
  closed : List Nat := []
  stop : Bool := false
  listening : Bool := true
  main : MainStage := .checking
  file : Option Bytes := none

/-- What can happen next: a step of a thread or of `main`, or something that a peer or
the system makes happen to a call that waits. -/
inductive Act where
  | main
  | thread (index : Nat)
  | connect
  | acceptFails
  | frame (index : Nat) (now : UInt64) (saved : Bool) (frame : Frame)
  | recvFails (index : Nat)
  | rehash

/-- The frame reaches the SHUTDOWN branch. -/
def Request.isShutdown : Option Request → Bool
  | some .shutdown => true
  | _ => false

/-- Where a frame leaves its thread. -/
def Stage.handled (request : Option Request) (phase : Phase) : Stage :=
  if phase.isWithinFrame then .finishing
  else if Request.isShutdown request then .closingListener else .checking

namespace Process

variable (limits : EngineLimits) (durable : Bool)

def write (process : Process) (index : Nat) (thread : Thread) : Process :=
  { process with threads := process.threads.set index thread }

/-- The next step of the thread itself; `none` while it waits. -/
def stepThread (index : Nat) (thread : Thread) (process : Process) : Option Process :=
  match thread.stage with
  | .starting =>
      if process.holder.isSome then none
      else some { process.write index { thread with stage := .checking } with
        socks := process.socks ++ [index] }
  | .checking =>
      some (process.write index
        { thread with stage := if process.stop then .fencing else .receiving })
  | .receiving =>
      if index ∈ process.closed then some (process.write index { thread with stage := .fencing })
      else none
  | .finishing =>
      let finished := finish process.stop process.engine thread.session
      some { process.write index { thread with session := finished.2, stage := .checking } with
        engine := finished.1 }
  | .closingListener =>
      some { process.write index { thread with stage := .locking } with listening := false }
  | .locking =>
      if process.holder.isSome then none
      else some { process.write index { thread with stage := .sweeping process.socks } with
        holder := some index }
  | .sweeping [] =>
      some { process.write index { thread with stage := .checking } with holder := none }
  | .sweeping (sock :: rest) =>
      some { process.write index { thread with stage := .sweeping rest } with
        closed := if sock = index then process.closed else sock :: process.closed }
  | .fencing =>
      let left := leave process.engine thread.session
      some { process.write index { thread with session := left.2, stage := .unregistering } with
        engine := left.1 }
  | .unregistering =>
      if process.holder.isSome then none
      else some { process.write index { thread with stage := .closing } with
        socks := process.socks.filter (· ≠ index) }
  | .closing =>
      some { process.write index { thread with stage := .ended } with
        closed := index :: process.closed }
  | .ended => none

/-- The next step of `main` itself. The save is made if a state file is named, and leaves
a file if that can be written; `durable` says that both are so. -/
def stepMain (process : Process) : Option Process :=
  match process.main with
  | .checking => some { process with main := if process.stop then .closing else .accepting }
  | .accepting =>
      if process.listening then none
      else some { process with main := if process.stop then .closing else .checking }
  | .closing => some { process with listening := false, main := .joining 0 }
  | .joining index =>
      match process.threads[index]? with
      | none => some { process with main := .saving }
      | some thread =>
          if thread.stage = .ended then some { process with main := .joining (index + 1) } else none
  | .saving => some { process with
      file := if durable then some (saveBytes process.engine) else none
      main := .exited }
  | .exited => none

/-- A frame arrives. The reply of a SHUTDOWN is sent before `g_stop` is set; no thread of
the process sees it. -/
def stepFrame (index : Nat) (now : UInt64) (saved : Bool) (frame : Frame) (thread : Thread)
    (process : Process) : Option Process :=
  if thread.stage = .receiving ∧ index ∉ process.closed then
    let request := Request.ofFrame frame
    let handled := handle limits now saved process.stop request process.engine thread.session
    some { process.write index
          { session := handled.2.1, stage := .handled request handled.2.1.phase } with
      engine := handled.1
      stop := handled.2.2 }
  else none

/-- What happens; `none` where it cannot. A rehash has no result of its own. -/
def next (process : Process) : Act → Option Process
  | .main => process.stepMain durable
  | .thread index =>
      (process.threads[index]?).bind fun thread => process.stepThread index thread
  | .connect =>
      if process.main = .accepting ∧ process.listening = true then
        some { process with
          threads := process.threads ++
            [{ session := { phase := if process.stop then .leaving else .waiting } }]
          main := .checking }
      else none
  | .acceptFails =>
      if process.main = .accepting ∧ process.listening = true then
        some { process with main := if process.stop then .closing else .checking }
      else none
  | .frame index now saved frame =>
      (process.threads[index]?).bind fun thread =>
        process.stepFrame limits index now saved frame thread
  | .recvFails index =>
      (process.threads[index]?).bind fun thread =>
        if thread.stage = .receiving ∧ index ∉ process.closed then
          some (process.write index { thread with stage := .fencing })
        else none
  | .rehash => none

/-- `main`, once the listener listens. -/
def start (file : Option Bytes) : Process where
  engine := (Impl.fresh.load file).2

/-- What the coordinator model sees. -/
def coordinator (process : Process) : Coordinator where
  engine := process.engine
  sessions := process.threads.map Thread.session
  stop := process.stop

end Process

/-- One step of the process. Its containers may rehash as long as it runs. -/
inductive ProcessStep (limits : EngineLimits) (durable : Bool) : Process → Act → Process → Prop
  | act {process next : Process} {act : Act} (taken : process.next limits durable act = some next) :
      ProcessStep limits durable process act next
  | rehash {process : Process} {engine : Impl Binary64} (running : process.main ≠ .exited)
      (same : process.engine.Reordered engine) :
      ProcessStep limits durable process .rehash { process with engine }

/-- The process after a sequence of acts, if each of them can happen in its turn. -/
def Process.after (limits : EngineLimits) (durable : Bool) (acts : List Act) (process : Process) :
    Option Process :=
  (perform (fun process act => process.next limits durable act) acts process).map Prod.snd

/-- What the session of a thread is in, given where the thread stands. -/
def Stage.admits (stage : Stage) (phase : Phase) : Bool :=
  match stage with
  | .receiving => phase.isWaiting
  | .finishing => phase.isWithinFrame
  | .unregistering | .closing | .ended => phase.isEnded
  | _ => phase.isBetweenFrames

/-- A session that does not wait for a frame has seen `g_stop`. -/
structure Thread.Placed (stop : Bool) (thread : Thread) : Prop where
  phase : thread.stage.admits thread.session.phase = true
  stopped : thread.session.phase.isBetweenFrames = true →
    thread.session.phase.isWaiting = false → stop = true

section Placement

variable {limits : EngineLimits} {durable stop : Bool} {thread : Thread}

theorem Thread.Placed.mono (placed : thread.Placed stop) {later : Bool}
    (stays : stop = true → later = true) : thread.Placed later :=
  ⟨placed.phase, fun between away => stays (placed.stopped between away)⟩

/-- An answered session is where the stop flag puts it. -/
private theorem placed_answer (frame : Frame) (session : Session) {stage : Stage}
    (ready : stage.admits = Phase.isBetweenFrames) :
    ({ session := session.answer stop frame, stage := stage } : Thread).Placed stop := by
  constructor
  · rw [ready]
    cases stop <;> rfl
  · intro _ away
    cases stop with
    | true => rfl
    | false => exact absurd away (by simp [Session.answer, Phase.isWaiting])

variable {process next : Process} {index : Nat}

/-- Every thread of the process is placed. -/
def Process.Placed (process : Process) : Prop :=
  ∀ thread ∈ process.threads, thread.Placed process.stop

private theorem Process.Placed.write (placed : process.Placed) {new : Thread} {later : Bool}
    (stays : process.stop = true → later = true) (newPlaced : new.Placed later) :
    ∀ thread ∈ process.threads.set index new, thread.Placed later := by
  intro thread member
  rcases List.mem_or_eq_of_mem_set member with old | rfl
  · exact (placed thread old).mono stays
  · exact newPlaced

/-- A thread goes to a stage that asks the same of its session. -/
private theorem Process.Placed.restage (placed : process.Placed)
    (found : process.threads[index]? = some thread) {stage : Stage}
    (threads : next.threads = process.threads.set index { thread with stage := stage })
    (rest : (next.engine, next.stop) = (process.engine, process.stop))
    (admits : thread.stage.admits thread.session.phase = true →
      stage.admits thread.session.phase = true) :
    next.Placed ∧ next.coordinator = process.coordinator := by
  obtain ⟨engine, stop⟩ := Prod.mk.inj rest
  have here := placed thread (List.mem_of_getElem? found)
  constructor
  · unfold Process.Placed
    rw [threads, stop]
    exact placed.write id ⟨admits here.phase, here.stopped⟩
  · have sessions : (process.threads.set index { thread with stage := stage }).map
        Thread.session = process.threads.map Thread.session := by
      obtain ⟨bound, rfl⟩ := List.getElem?_eq_some_iff.mp found
      have bounded : index < (process.threads.map Thread.session).length := by
        rwa [List.length_map]
      rw [List.map_set, ← List.getElem_map Thread.session (h := bounded)]
      exact List.set_getElem_self bounded
    unfold Process.coordinator
    rw [threads, engine, stop, sessions]

/-- A thread makes the step of its session. -/
private theorem Process.Placed.move (placed : process.Placed) {new : Thread} (input : Input)
    (threads : next.threads = process.threads.set index new)
    (stays : process.stop = true → next.stop = true) (newPlaced : new.Placed next.stop)
    (moves : process.coordinator.next limits input =
      { engine := next.engine
        sessions := process.coordinator.sessions.set index new.session
        stop := next.stop }) :
    next.Placed ∧ next.coordinator = process.coordinator.next limits input := by
  constructor
  · unfold Process.Placed
    rw [threads]
    exact placed.write stays newPlaced
  · rw [moves]
    unfold Process.coordinator
    rw [threads, List.map_set]

/-- Behind `finish` the session is answered. -/
private theorem placed_finish (within : thread.session.phase.isWithinFrame = true)
    (engine : Impl Binary64) :
    ({ thread with
        session := (finish stop engine thread.session).2
        stage := .checking } : Thread).Placed stop := by
  unfold finish
  cases phase : thread.session.phase with
  | registering pending => exact placed_answer _ _ rfl
  | reporting domain assessment => exact placed_answer _ _ rfl
  | waiting => exact absurd within (by simp [phase, Phase.isWithinFrame])
  | leaving => exact absurd within (by simp [phase, Phase.isWithinFrame])
  | ended => exact absurd within (by simp [phase, Phase.isWithinFrame])

private theorem isBetweenFrames_of_isWaiting {phase : Phase} (waiting : phase.isWaiting = true) :
    phase.isBetweenFrames = true := by
  cases phase with
  | waiting => rfl
  | _ => exact absurd waiting (by simp [Phase.isWaiting])

/-- A thread that makes a step of its own makes one of its session, or none. -/
private theorem Process.Placed.stepThread (placed : process.Placed)
    (found : process.threads[index]? = some thread)
    (taken : process.stepThread index thread = some next) :
    next.Placed ∧ (next.coordinator = process.coordinator ∨
      ∃ input, next.coordinator = process.coordinator.next limits input) := by
  have here := placed thread (List.mem_of_getElem? found)
  have seated : process.coordinator.sessions[index]? = some thread.session := by
    change (process.threads.map Thread.session)[index]? = _
    rw [List.getElem?_map, found, Option.map_some]
  have silent : next.Placed ∧ next.coordinator = process.coordinator →
      next.Placed ∧ (next.coordinator = process.coordinator ∨
        ∃ input, next.coordinator = process.coordinator.next limits input) :=
    fun ⟨kept, same⟩ => ⟨kept, Or.inl same⟩
  unfold Process.stepThread at taken
  cases stage : thread.stage with
  | starting =>
      simp only [stage, Option.ite_none_left_eq_some, Option.some.injEq] at taken
      obtain ⟨-, rfl⟩ := taken
      exact silent (placed.restage found rfl rfl (by rw [stage]; exact id))
  | checking =>
      simp only [stage, Option.some.injEq] at taken
      obtain rfl := taken
      refine silent (placed.restage found rfl rfl ?_)
      rw [stage]
      intro between
      cases stopped : process.stop with
      | true => exact between
      | false =>
          by_contra away
          have stop := here.stopped between (Bool.not_eq_true _ ▸ away)
          exact Bool.false_ne_true (stopped.symm.trans stop)
  | receiving =>
      simp only [stage, Option.ite_none_right_eq_some, Option.some.injEq] at taken
      obtain ⟨-, rfl⟩ := taken
      refine silent (placed.restage found rfl rfl ?_)
      rw [stage]
      exact isBetweenFrames_of_isWaiting
  | finishing =>
      simp only [stage, Option.some.injEq] at taken
      obtain rfl := taken
      have within : thread.session.phase.isWithinFrame = true := by
        have admitted := here.phase
        rwa [stage] at admitted
      have taker : process.coordinator.taker (.resume index) = some thread.session :=
        Option.filter_eq_some_iff.mpr ⟨seated, within⟩
      refine And.imp_right (fun same => Or.inr ⟨.resume index, same⟩)
        (placed.move (.resume index) rfl id (placed_finish within process.engine) ?_)
      unfold Coordinator.next
      rw [taker]
      rfl
  | closingListener =>
      simp only [stage, Option.some.injEq] at taken
      obtain rfl := taken
      exact silent (placed.restage found rfl rfl (by rw [stage]; exact id))
  | locking =>
      simp only [stage, Option.ite_none_left_eq_some, Option.some.injEq] at taken
      obtain ⟨-, rfl⟩ := taken
      exact silent (placed.restage found rfl rfl (by rw [stage]; exact id))
  | sweeping rest =>
      cases rest with
      | nil =>
          simp only [stage, Option.some.injEq] at taken
          obtain rfl := taken
          exact silent (placed.restage found rfl rfl (by rw [stage]; exact id))
      | cons sock rest =>
          simp only [stage, Option.some.injEq] at taken
          obtain rfl := taken
          exact silent (placed.restage found rfl rfl (by rw [stage]; exact id))
  | fencing =>
      simp only [stage, Option.some.injEq] at taken
      obtain rfl := taken
      have between : thread.session.phase.isBetweenFrames = true := by
        have admitted := here.phase
        rwa [stage] at admitted
      have taker : process.coordinator.taker (.disconnect index) = some thread.session :=
        Option.filter_eq_some_iff.mpr ⟨seated, between⟩
      refine And.imp_right (fun same => Or.inr ⟨.disconnect index, same⟩)
        (placed.move (.disconnect index) rfl id ⟨rfl, ?_⟩ ?_)
      · exact fun between => absurd between (by simp [leave, Phase.isBetweenFrames])
      · unfold Coordinator.next
        rw [taker]
        rfl
  | unregistering =>
      simp only [stage, Option.ite_none_left_eq_some, Option.some.injEq] at taken
      obtain ⟨-, rfl⟩ := taken
      exact silent (placed.restage found rfl rfl (by rw [stage]; exact id))
  | closing =>
      simp only [stage, Option.some.injEq] at taken
      obtain rfl := taken
      exact silent (placed.restage found rfl rfl (by rw [stage]; exact id))
  | ended => simp [stage] at taken

/-- `handle` leaves the session between its two calls, or answered under the stop flag that
it leaves. -/
private theorem placed_handle (limits : EngineLimits) (now : UInt64) (saved stop : Bool)
    (request : Option Request) (engine : Impl Binary64) (session : Session) :
    let handled := handle limits now saved stop request engine session
    ({ session := handled.2.1
       stage := .handled request handled.2.1.phase } : Thread).Placed handled.2.2 ∧
      (stop = true → handled.2.2 = true) := by
  have answered : ∀ (stop : Bool) (frame : Frame),
      ({ session := session.answer stop frame
         stage := .handled request (session.answer stop frame).phase } : Thread).Placed stop := by
    intro stop frame
    have outside : (session.answer stop frame).phase.isWithinFrame = false := by
      cases stop <;> rfl
    refine placed_answer frame session ?_
    unfold Stage.handled
    rw [outside]
    cases Request.isShutdown request <;> rfl
  cases request with
  | none => exact ⟨answered stop _, id⟩
  | some request =>
      cases request with
      | register worker boot source sourceBoot =>
          exact ⟨⟨rfl, fun between => absurd between (by simp [handle, Phase.isBetweenFrames])⟩, id⟩
      | queryCongestion domain =>
          exact ⟨⟨rfl, fun between => absurd between (by simp [handle, Phase.isBetweenFrames])⟩, id⟩
      | shutdown => exact ⟨answered true _, fun _ => rfl⟩
      | publishMeasurement domain measurement =>
          unfold handle
          dsimp only
          split
          · exact ⟨answered stop _, id⟩
          · exact ⟨answered stop _, id⟩
      | _ => exact ⟨answered stop _, id⟩

private theorem Process.Placed.stepFrame (placed : process.Placed)
    (found : process.threads[index]? = some thread) {now : UInt64} {saved : Bool} {frame : Frame}
    (taken : process.stepFrame limits index now saved frame thread = some next) :
    next.Placed ∧
      next.coordinator = process.coordinator.next limits (.frame index now saved frame) := by
  have here := placed thread (List.mem_of_getElem? found)
  have seated : process.coordinator.sessions[index]? = some thread.session := by
    change (process.threads.map Thread.session)[index]? = _
    rw [List.getElem?_map, found, Option.map_some]
  unfold Process.stepFrame at taken
  rw [Option.ite_none_right_eq_some] at taken
  obtain ⟨⟨stage, -⟩, taken⟩ := taken
  obtain rfl := Option.some.inj taken
  have waiting : thread.session.phase.isWaiting = true := by
    have admitted := here.phase
    rwa [stage] at admitted
  have taker : process.coordinator.taker (.frame index now saved frame) = some thread.session :=
    Option.filter_eq_some_iff.mpr ⟨seated, waiting⟩
  obtain ⟨newPlaced, stays⟩ := placed_handle limits now saved process.stop
    (Request.ofFrame frame) process.engine thread.session
  refine placed.move (.frame index now saved frame) rfl stays newPlaced ?_
  unfold Coordinator.next
  rw [taker]
  rfl

/-- `main` leaves threads, engine and stop flag alone. -/
theorem stepMain_frame {durable : Bool} (taken : process.stepMain durable = some next) :
    next = { process with listening := next.listening, main := next.main, file := next.file } := by
  unfold Process.stepMain at taken
  cases main : process.main with
  | checking =>
      simp only [main, Option.some.injEq] at taken
      rw [← taken]
  | accepting =>
      simp only [main, Option.ite_none_left_eq_some, Option.some.injEq] at taken
      rw [← taken.2]
  | closing =>
      simp only [main, Option.some.injEq] at taken
      rw [← taken]
  | joining index =>
      simp only [main] at taken
      cases joined : process.threads[index]? with
      | none =>
          simp only [joined, Option.some.injEq] at taken
          rw [← taken]
      | some thread =>
          simp only [joined, Option.ite_none_right_eq_some, Option.some.injEq] at taken
          rw [← taken.2]
  | saving =>
      simp only [main, Option.some.injEq] at taken
      rw [← taken]
  | exited => simp [main] at taken

/-- Every step of the process is at most one step of the coordinator. -/
private theorem Process.Placed.act {durable : Bool} (placed : process.Placed) {act : Act}
    (taken : process.next limits durable act = some next) :
    next.Placed ∧ (next.coordinator = process.coordinator ∨
      ∃ input, next.coordinator = process.coordinator.next limits input) := by
  cases act with
  | main =>
      have unchanged := stepMain_frame (show process.stepMain durable = some next from taken)
      rw [unchanged]
      exact ⟨placed, Or.inl rfl⟩
  | thread index =>
      obtain ⟨thread, found, taken⟩ := Option.bind_eq_some_iff.mp taken
      exact placed.stepThread found taken
  | connect =>
      obtain ⟨-, accepted⟩ := Option.ite_none_right_eq_some.mp taken
      obtain rfl := Option.some.inj accepted
      refine ⟨?_, Or.inr ⟨.accept, ?_⟩⟩
      · intro thread member
        rcases List.mem_append.mp member with old | new
        · exact placed thread old
        · obtain rfl := List.mem_singleton.mp new
          cases stopped : process.stop with
          | true => exact ⟨rfl, fun _ _ => rfl⟩
          | false => exact ⟨rfl, fun _ away => absurd away (by simp [Phase.isWaiting])⟩
      · unfold Process.coordinator
        rw [List.map_append]
        rfl
  | acceptFails =>
      obtain ⟨-, failed⟩ := Option.ite_none_right_eq_some.mp taken
      obtain rfl := Option.some.inj failed
      exact ⟨placed, Or.inl rfl⟩
  | frame index now saved frame =>
      obtain ⟨thread, found, taken⟩ := Option.bind_eq_some_iff.mp taken
      exact And.imp_right (fun same => Or.inr ⟨_, same⟩) (placed.stepFrame found taken)
  | recvFails index =>
      obtain ⟨thread, found, taken⟩ := Option.bind_eq_some_iff.mp taken
      obtain ⟨⟨stage, -⟩, failed⟩ := Option.ite_none_right_eq_some.mp taken
      obtain rfl := Option.some.inj failed
      refine And.imp_right Or.inl (placed.restage found rfl rfl ?_)
      rw [stage]
      exact isBetweenFrames_of_isWaiting
  | rehash => exact absurd taken (by simp [Process.next])

end Placement

end CongestionFabric
