import CongestionFabric.Coordinator.Threads

/-!
Contract: how the coordinator stops.

Owns:
- what a step of a thread does to the sockets, the mutex and the listener;
- the invariant behind the sweep of `close_other_socks`: once `g_stop` is set, a thread that
  waits for a frame on an open socket is still to be swept;
- the number of steps that a stopped process can take, and that it only comes to rest with
  all sessions left, everything joined and the engine saved.

Does not own: fairness of the scheduler.
-/

namespace CongestionFabric

open Foundation

/-! ## What a thread does -/

namespace Stage

/-- The socket of the thread is in the list. -/
def isListed : Stage → Bool
  | .starting | .closing | .ended => false
  | _ => true

/-- The thread is going to close the socket, unless it is its own. -/
def closes (sock : Nat) : Stage → Bool
  | .closingListener | .locking => true
  | .sweeping rest => decide (sock ∈ rest)
  | _ => false

def isSweeping : Stage → Bool
  | .sweeping _ => true
  | _ => false

/-- A bound on the steps that the thread can take once `g_stop` is set, with that many
sockets in the list. -/
def work (sockets : Nat) : Stage → Nat
  | .receiving => sockets + 8
  | .closingListener => sockets + 7
  | .locking => sockets + 6
  | .sweeping rest => rest.length + 5
  | .starting | .finishing => 5
  | .checking => 4
  | .fencing => 3
  | .unregistering => 2
  | .closing => 1
  | .ended => 0

end Stage

/-- What a step of the thread at the index does to the rest of the process. -/
structure Process.Moves (process next : Process) (index : Nat) (old new : Thread) : Prop where
  threads : next.threads = process.threads.set index new
  main : (next.main, next.file) = (process.main, process.file)
  running : old.stage ≠ .ended
  listed : new.stage.isListed = true → old.stage.isListed = true ∨ index ∈ next.socks
  socks : ∀ sock ∈ process.socks, sock ∈ next.socks ∨ sock = index ∧ new.stage.isListed = false
  room : next.socks.length + (if new.stage = .starting then 1 else 0) ≤
    process.socks.length + if old.stage = .starting then 1 else 0
  closed : ∀ sock ∈ process.closed, sock ∈ next.closed
  stop : next.stop = process.stop ∨ next.stop = true ∧ new.stage = .closingListener
  receives : new.stage = .receiving → next.stop = false
  sweeps : ∀ sock ∈ process.socks, old.stage.closes sock = true →
    new.stage.closes sock = true ∨ sock ∈ next.closed ∨ sock = index
  listener : next.listening = true → process.listening = true ∧ old.stage ≠ .closingListener
  holder : ∀ place, next.holder = some place →
    process.holder = some place ∧ (old.stage.isSweeping = true → new.stage.isSweeping = true) ∨
      place = index ∧ new.stage.isSweeping = true
  work : process.stop = true → ∀ sockets, process.socks.length ≤ sockets →
    new.stage.work sockets < old.stage.work sockets

section Moves

variable {limits : EngineLimits} {durable : Bool} {process next : Process} {index : Nat}
  {thread : Thread}

/-- A thread that goes from one stage to another and leaves the rest of the process alone. -/
private theorem moves_write {old new : Thread} {engine : Impl Binary64}
    (running : old.stage ≠ .ended) (listed : new.stage.isListed = true → old.stage.isListed = true)
    (started : new.stage ≠ .starting) (closes : ∀ sock, old.stage.closes sock = false)
    (receives : new.stage = .receiving → process.stop = false)
    (sweeping : old.stage.isSweeping = false) (listening : old.stage ≠ .closingListener)
    (work : process.stop = true → ∀ sockets, new.stage.work sockets < old.stage.work sockets) :
    process.Moves { process.write index new with engine } index old new where
  threads := rfl
  main := rfl
  running := running
  listed isListed := Or.inl (listed isListed)
  socks sock member := Or.inl member
  room := by
    rw [if_neg started]
    exact Nat.add_le_add_left (Nat.zero_le _) _
  closed sock member := member
  stop := Or.inl rfl
  receives := receives
  sweeps sock _ will := absurd will (by simp [closes sock])
  listener listens := ⟨listens, listening⟩
  holder place held := Or.inl ⟨held, fun isSweeping => absurd isSweeping (by simp [sweeping])⟩
  work stopped sockets _ := work stopped sockets

theorem moves_of_stepThread (taken : process.stepThread index thread = some next) :
    ∃ new, process.Moves next index thread new := by
  unfold Process.stepThread at taken
  cases stage : thread.stage with
  | starting =>
      simp only [stage, Option.ite_none_left_eq_some, Option.some.injEq] at taken
      obtain ⟨-, rfl⟩ := taken
      refine ⟨_, ⟨rfl, rfl, by simp [stage], fun _ => Or.inr ?_, fun sock member => Or.inl ?_, ?_,
        fun _ => id, Or.inl rfl, by simp, fun sock _ will => ?_,
        fun listens => ⟨listens, by simp [stage]⟩,
        fun place held => Or.inl ⟨held, by simp [stage, Stage.isSweeping]⟩, fun _ sockets _ => ?_⟩⟩
      · exact List.mem_append_right _ (List.mem_singleton_self index)
      · exact List.mem_append_left _ member
      · simp [stage]
      · exact absurd will (by simp [stage, Stage.closes])
      · simp [stage, Stage.work]
  | checking =>
      simp only [stage, Option.some.injEq] at taken
      obtain rfl := taken
      refine ⟨_, moves_write ?_ ?_ ?_ ?_ ?_ ?_ ?_ ?_⟩
      · simp [stage]
      · simp [stage, Stage.isListed]
      · dsimp only
        split <;> simp
      · simp [stage, Stage.closes]
      · cases process.stop <;> simp
      · simp [stage, Stage.isSweeping]
      · simp [stage]
      · intro stopped sockets
        simp [stage, stopped, Stage.work]
  | receiving =>
      simp only [stage, Option.ite_none_right_eq_some, Option.some.injEq] at taken
      obtain ⟨-, rfl⟩ := taken
      refine ⟨_, moves_write ?_ ?_ ?_ ?_ ?_ ?_ ?_ fun _ _ => ?_⟩ <;>
        simp [stage, Stage.isListed, Stage.closes, Stage.isSweeping, Stage.work]
  | finishing =>
      simp only [stage, Option.some.injEq] at taken
      obtain rfl := taken
      refine ⟨_, moves_write ?_ ?_ ?_ ?_ ?_ ?_ ?_ fun _ _ => ?_⟩ <;>
        simp [stage, Stage.isListed, Stage.closes, Stage.isSweeping, Stage.work]
  | closingListener =>
      simp only [stage, Option.some.injEq] at taken
      obtain rfl := taken
      refine ⟨_, ⟨rfl, rfl, by simp [stage], fun _ => Or.inl (by simp [stage, Stage.isListed]),
        fun sock member => Or.inl member, ?_, fun _ => id, Or.inl rfl, by simp,
        fun sock _ _ => Or.inl rfl, fun listens => absurd listens (by simp),
        fun place held => Or.inl ⟨held, by simp [stage, Stage.isSweeping]⟩, fun _ sockets _ => ?_⟩⟩
      · simp [stage, Process.write]
      · simp [stage, Stage.work]
  | locking =>
      simp only [stage, Option.ite_none_left_eq_some, Option.some.injEq] at taken
      obtain ⟨-, rfl⟩ := taken
      refine ⟨_, ⟨rfl, rfl, by simp [stage], fun _ => Or.inl (by simp [stage, Stage.isListed]),
        fun sock member => Or.inl member, ?_, fun _ => id, Or.inl rfl, by simp,
        fun sock member _ => Or.inl (decide_eq_true member),
        fun listens => ⟨listens, by simp [stage]⟩,
        fun place held => Or.inr ⟨(Option.some.inj held).symm, rfl⟩, fun _ sockets within => ?_⟩⟩
      · simp [stage, Process.write]
      · simp only [stage, Stage.work]
        omega
  | sweeping rest =>
      cases rest with
      | nil =>
          simp only [stage, Option.some.injEq] at taken
          obtain rfl := taken
          refine ⟨_, ⟨rfl, rfl, by simp [stage], fun _ => Or.inl (by simp [stage, Stage.isListed]),
            fun sock member => Or.inl member, ?_, fun _ => id, Or.inl rfl, by simp,
            fun sock _ will => ?_, fun listens => ⟨listens, by simp [stage]⟩,
            fun place held => absurd held (by simp), fun _ sockets _ => ?_⟩⟩
          · simp [stage, Process.write]
          · exact absurd will (by simp [stage, Stage.closes])
          · simp [stage, Stage.work]
      | cons sock rest =>
          simp only [stage, Option.some.injEq] at taken
          obtain rfl := taken
          refine ⟨_, ⟨rfl, rfl, by simp [stage], fun _ => Or.inl (by simp [stage, Stage.isListed]),
            fun sock member => Or.inl member, ?_, fun other member => ?_, Or.inl rfl, by simp,
            fun other _ will => ?_, fun listens => ⟨listens, by simp [stage]⟩,
            fun place held => Or.inl ⟨held, fun _ => rfl⟩, fun _ sockets _ => ?_⟩⟩
          · simp [stage, Process.write]
          · dsimp only
            split
            · exact member
            · exact List.mem_cons_of_mem _ member
          · have inside : other ∈ sock :: rest := by simpa [stage, Stage.closes] using will
            dsimp only
            rcases List.mem_cons.mp inside with rfl | later
            · by_cases own : other = index
              · exact Or.inr (Or.inr own)
              · rw [if_neg own]
                exact Or.inr (Or.inl List.mem_cons_self)
            · exact Or.inl (decide_eq_true later)
          · simp [stage, Stage.work]
  | fencing =>
      simp only [stage, Option.some.injEq] at taken
      obtain rfl := taken
      refine ⟨_, moves_write ?_ ?_ ?_ ?_ ?_ ?_ ?_ fun _ _ => ?_⟩ <;>
        simp [stage, Stage.isListed, Stage.closes, Stage.isSweeping, Stage.work]
  | unregistering =>
      simp only [stage, Option.ite_none_left_eq_some, Option.some.injEq] at taken
      obtain ⟨-, rfl⟩ := taken
      refine ⟨_, ⟨rfl, rfl, by simp [stage], by simp [Stage.isListed], fun sock member => ?_, ?_,
        fun _ => id, Or.inl rfl, by simp, fun sock _ will => ?_,
        fun listens => ⟨listens, by simp [stage]⟩,
        fun place held => Or.inl ⟨held, by simp [stage, Stage.isSweeping]⟩, fun _ sockets _ => ?_⟩⟩
      · by_cases own : sock = index
        · exact Or.inr ⟨own, rfl⟩
        · exact Or.inl (List.mem_filter.mpr ⟨member, by simp [own]⟩)
      · simpa [stage] using List.length_filter_le (fun sock => decide (sock ≠ index)) process.socks
      · exact absurd will (by simp [stage, Stage.closes])
      · simp [stage, Stage.work]
  | closing =>
      simp only [stage, Option.some.injEq] at taken
      obtain rfl := taken
      refine ⟨_, ⟨rfl, rfl, by simp [stage], by simp [Stage.isListed],
        fun sock member => Or.inl member, ?_, fun sock member => List.mem_cons_of_mem _ member,
        Or.inl rfl, by simp, fun sock _ will => ?_, fun listens => ⟨listens, by simp [stage]⟩,
        fun place held => Or.inl ⟨held, by simp [stage, Stage.isSweeping]⟩, fun _ sockets _ => ?_⟩⟩
      · simp [stage, Process.write]
      · exact absurd will (by simp [stage, Stage.closes])
      · simp [stage, Stage.work]
  | ended => simp [stage] at taken

/-- Only SHUTDOWN sets the flag. -/
private theorem handle_stop (limits : EngineLimits) (now : UInt64) (saved stop : Bool)
    (request : Option Request) (engine : Impl Binary64) (session : Session) :
    let handled := handle limits now saved stop request engine session
    handled.2.2 = stop ∧ Stage.handled request handled.2.1.phase ≠ .closingListener ∨
      handled.2.2 = true ∧ Stage.handled request handled.2.1.phase = .closingListener := by
  have other : ∀ phase, Request.isShutdown request = false →
      Stage.handled request phase ≠ .closingListener := by
    intro phase another
    unfold Stage.handled
    rw [another]
    split <;> simp
  cases request with
  | none => exact Or.inl ⟨rfl, other _ rfl⟩
  | some request =>
      cases request with
      | shutdown => exact Or.inr ⟨rfl, rfl⟩
      | publishMeasurement domain measurement =>
          refine Or.inl ⟨?_, other _ rfl⟩
          unfold handle
          dsimp only
          split <;> rfl
      | _ => exact Or.inl ⟨rfl, other _ rfl⟩

private theorem handled_cases (request : Option Request) (phase : Phase) :
    Stage.handled request phase = .finishing ∨ Stage.handled request phase = .closingListener ∨
      Stage.handled request phase = .checking := by
  unfold Stage.handled
  split
  · exact Or.inl rfl
  · split
    · exact Or.inr (Or.inl rfl)
    · exact Or.inr (Or.inr rfl)

theorem moves_of_stepFrame {now : UInt64} {saved : Bool} {frame : Frame}
    (taken : process.stepFrame limits index now saved frame thread = some next) :
    ∃ new, process.Moves next index thread new := by
  obtain ⟨⟨stage, -⟩, handled⟩ := Option.ite_none_right_eq_some.mp taken
  obtain rfl := Option.some.inj handled
  have stop := handle_stop limits now saved process.stop (Request.ofFrame frame)
    process.engine thread.session
  have ends := handled_cases (Request.ofFrame frame) (handle limits now saved process.stop
    (Request.ofFrame frame) process.engine thread.session).2.1.phase
  dsimp only at stop
  refine ⟨_, ⟨rfl, rfl, by simp [stage], fun _ => Or.inl (by simp [stage, Stage.isListed]),
    fun sock member => Or.inl member, ?_, fun _ => id, ?_, ?_, fun sock _ will => ?_,
    fun listens => ⟨listens, by simp [stage]⟩,
    fun place held => Or.inl ⟨held, by simp [stage, Stage.isSweeping]⟩, fun _ sockets _ => ?_⟩⟩
  · rcases ends with case | case | case <;> simp [case, stage, Process.write]
  · exact stop.imp And.left id
  · rcases ends with case | case | case <;> simp [case]
  · exact absurd will (by simp [stage, Stage.closes])
  · rcases ends with case | case | case <;> simp only [case, stage, Stage.work] <;> omega

theorem moves_of_recvFails (stage : thread.stage = .receiving) :
    process.Moves (process.write index { thread with stage := .fencing }) index thread
      { thread with stage := .fencing } := by
  refine moves_write ?_ ?_ ?_ ?_ ?_ ?_ ?_ fun _ _ => ?_ <;>
    simp [stage, Stage.isListed, Stage.closes, Stage.isSweeping, Stage.work]

end Moves

/-! ## The invariant -/

/-- The threads that `main` has joined come first, and are that many. -/
def Process.joined (process : Process) : Nat :=
  match process.main with
  | .joining index => index
  | .saving | .exited => process.threads.length
  | _ => 0

/-- What holds in every process that is reached. -/
structure Process.Sound (durable : Bool) (process : Process) : Prop where
  listed : ∀ {index thread}, process.threads[index]? = some thread →
    thread.stage.isListed = true → index ∈ process.socks
  room : process.socks.length + process.threads.countP (fun thread => thread.stage = .starting) ≤
    process.threads.length
  swept : process.stop = true → ∀ {index thread}, process.threads[index]? = some thread →
    thread.stage = .receiving → index ∉ process.closed →
      ∃ (place : Nat) (other : Thread),
        process.threads[place]? = some other ∧ other.stage.closes index = true
  listener : process.stop = true → process.listening = true →
    ∃ (place : Nat) (other : Thread),
      process.threads[place]? = some other ∧ other.stage = .closingListener
  held : ∀ {place}, process.holder = some place →
    ∃ other : Thread, process.threads[place]? = some other ∧ other.stage.isSweeping = true
  joined : ∀ {index thread}, process.threads[index]? = some thread → index < process.joined →
    thread.stage = .ended
  saved : process.main = .exited →
    process.file = if durable then some (saveBytes process.engine) else none

namespace Process

variable {limits : EngineLimits} {durable : Bool} {process next : Process} {index : Nat}
  {old new : Thread}

/-- A thread after a move: the one that moved, or another one. -/
private theorem Moves.thread (moves : process.Moves next index old new)
    (found : process.threads[index]? = some old) {place : Nat} {after : Thread}
    (stored : next.threads[place]? = some after) :
    place = index ∧ after = new ∨ place ≠ index ∧ process.threads[place]? = some after := by
  rw [moves.threads, List.getElem?_set] at stored
  split at stored
  · next here =>
      subst here
      have bound := (List.getElem?_eq_some_iff.mp found).1
      rw [if_pos bound] at stored
      exact Or.inl ⟨rfl, (Option.some.inj stored).symm⟩
  · next elsewhere => exact Or.inr ⟨Ne.symm elsewhere, stored⟩

private theorem Moves.moved (moves : process.Moves next index old new)
    (found : process.threads[index]? = some old) : next.threads[index]? = some new := by
  rw [moves.threads]
  exact List.getElem?_set_self (List.getElem?_eq_some_iff.mp found).1

private theorem Moves.other (moves : process.Moves next index old new) {place : Nat}
    (elsewhere : place ≠ index) : next.threads[place]? = process.threads[place]? := by
  rw [moves.threads]
  exact List.getElem?_set_ne (Ne.symm elsewhere)

private theorem Moves.joined (moves : process.Moves next index old new) :
    next.joined = process.joined := by
  unfold Process.joined
  rw [(Prod.mk.inj moves.main).1, moves.threads, List.length_set]

private theorem Sound.moves (sound : process.Sound durable)
    (found : process.threads[index]? = some old) (moves : process.Moves next index old new) :
    next.Sound durable where
  listed stored isListed := by
    rcases moves.thread found stored with ⟨rfl, rfl⟩ | ⟨elsewhere, same⟩
    · rcases moves.listed isListed with before | now
      · rcases moves.socks _ (sound.listed found before) with kept | ⟨-, unlisted⟩
        · exact kept
        · exact absurd isListed (by simp [unlisted])
      · exact now
    · rcases moves.socks _ (sound.listed same isListed) with kept | ⟨here, -⟩
      · exact kept
      · exact absurd here elsewhere
  room := by
    obtain ⟨bound, here⟩ := List.getElem?_eq_some_iff.mp found
    have counted := List.countP_set (p := fun thread : Thread => decide (thread.stage = .starting))
      (a := new) bound
    have positive : old.stage = .starting →
        0 < process.threads.countP fun thread => decide (thread.stage = .starting) := by
      intro starting
      exact List.countP_pos_iff.mpr ⟨old, List.mem_of_getElem? found, decide_eq_true starting⟩
    have shorter := moves.room
    have fits := sound.room
    rw [here] at counted
    rw [moves.threads, List.length_set, counted]
    by_cases starting : old.stage = .starting
    · have some_ := positive starting
      simp only [starting, decide_true, if_true] at shorter ⊢
      by_cases again : new.stage = .starting <;> simp [again] at shorter ⊢ <;> omega
    · simp only [starting, if_false, decide_false, Bool.false_eq_true] at shorter ⊢
      by_cases again : new.stage = .starting <;> simp [again] at shorter ⊢ <;> omega
  swept stopped place thread stored receiving isOpen := by
    rcases moves.stop with before | ⟨-, shuts⟩
    · rcases moves.thread found stored with ⟨-, rfl⟩ | ⟨elsewhere, same⟩
      · exact absurd stopped (by simp [moves.receives receiving])
      · have listed := sound.listed same (by rw [receiving]; rfl)
        obtain ⟨witness, other, located, will⟩ := sound.swept (before.symm.trans stopped) same
          receiving fun isClosed => isOpen (moves.closed _ isClosed)
        by_cases here : witness = index
        · subst here
          obtain rfl := Option.some.inj (found.symm.trans located)
          rcases moves.sweeps _ listed will with still | isClosed | own
          · exact ⟨witness, new, moves.moved found, still⟩
          · exact absurd isClosed isOpen
          · exact absurd own elsewhere
        · exact ⟨witness, other, (moves.other here).trans located, will⟩
    · exact ⟨index, new, moves.moved found, by rw [shuts]; rfl⟩
  listener stopped listening := by
    obtain ⟨listened, notClosing⟩ := moves.listener listening
    rcases moves.stop with before | ⟨-, shuts⟩
    · obtain ⟨witness, other, located, closing⟩ :=
        sound.listener (before.symm.trans stopped) listened
      have elsewhere : witness ≠ index := by
        rintro rfl
        obtain rfl := Option.some.inj (found.symm.trans located)
        exact notClosing closing
      exact ⟨witness, other, (moves.other elsewhere).trans located, closing⟩
    · exact ⟨index, new, moves.moved found, shuts⟩
  held := by
    intro place holds
    rcases moves.holder _ holds with ⟨before, stays⟩ | ⟨rfl, sweeping⟩
    · obtain ⟨other, located, sweeping⟩ := sound.held before
      by_cases here : place = index
      · subst here
        obtain rfl := Option.some.inj (found.symm.trans located)
        exact ⟨new, moves.moved found, stays sweeping⟩
      · exact ⟨other, (moves.other here).trans located, sweeping⟩
    · exact ⟨new, moves.moved found, sweeping⟩
  joined stored below := by
    rw [moves.joined] at below
    rcases moves.thread found stored with ⟨rfl, rfl⟩ | ⟨-, same⟩
    · exact absurd (sound.joined found below) moves.running
    · exact sound.joined same below
  saved exited := by
    have before : process.main = .exited := (Prod.mk.inj moves.main).1.symm.trans exited
    have below : index < process.joined := by
      unfold Process.joined
      rw [before]
      exact (List.getElem?_eq_some_iff.mp found).1
    exact absurd (sound.joined found below) moves.running

/-- `main` and the containers leave the threads alone. -/
private theorem Sound.idle (sound : process.Sound durable) {engine : Impl Binary64}
    {listening : Bool} {main : MainStage} {file : Option Bytes}
    (listens : listening = true → process.listening = true)
    (joined : ∀ {index thread}, process.threads[index]? = some thread →
      index < ({ process with main } : Process).joined → thread.stage = .ended)
    (saved : main = .exited → file = if durable then some (saveBytes engine) else none) :
    ({ process with engine, listening, main, file } : Process).Sound durable :=
  ⟨sound.listed, sound.room, sound.swept, fun stopped listening =>
    sound.listener stopped (listens listening), sound.held, joined, saved⟩

/-- Before `main` joins a thread, nothing hangs on where it stands. -/
private theorem Sound.early (sound : process.Sound durable) {listening : Bool} {main : MainStage}
    (listens : listening = true → process.listening = true)
    (early : main = .checking ∨ main = .accepting ∨ main = .closing ∨ main = .joining 0) :
    ({ process with listening, main } : Process).Sound durable := by
  rcases early with rfl | rfl | rfl | rfl
  · exact sound.idle listens (fun _ below => absurd below (Nat.not_lt_zero _)) (by simp)
  · exact sound.idle listens (fun _ below => absurd below (Nat.not_lt_zero _)) (by simp)
  · exact sound.idle listens (fun _ below => absurd below (Nat.not_lt_zero _)) (by simp)
  · exact sound.idle listens (fun _ below => absurd below (Nat.not_lt_zero _)) (by simp)

private theorem Sound.stepMain (sound : process.Sound durable)
    (taken : process.stepMain durable = some next) : next.Sound durable := by
  unfold Process.stepMain at taken
  cases main : process.main with
  | checking =>
      simp only [main, Option.some.injEq] at taken
      obtain rfl := taken
      exact sound.early id (by cases process.stop <;> simp)
  | accepting =>
      simp only [main, Option.ite_none_left_eq_some, Option.some.injEq] at taken
      obtain ⟨-, rfl⟩ := taken
      exact sound.early id (by cases process.stop <;> simp)
  | closing =>
      simp only [main, Option.some.injEq] at taken
      obtain rfl := taken
      exact sound.early (by simp) (by simp)
  | joining place =>
      have before : process.joined = place := by
        unfold Process.joined
        rw [main]
      simp only [main] at taken
      cases joins : process.threads[place]? with
      | none =>
          simp only [joins, Option.some.injEq] at taken
          obtain rfl := taken
          refine sound.idle id (fun {index thread} stored below => ?_) (by simp)
          have beyond := List.getElem?_eq_none_iff.mp joins
          have inside := (List.getElem?_eq_some_iff.mp stored).1
          exact sound.joined stored (by omega)
      | some joined =>
          simp only [joins, Option.ite_none_right_eq_some, Option.some.injEq] at taken
          obtain ⟨isEnded, rfl⟩ := taken
          refine sound.idle id (fun {index thread} stored below => ?_) (by simp)
          have within : index < place + 1 := below
          rcases Nat.lt_succ_iff_lt_or_eq.mp within with earlier | rfl
          · exact sound.joined stored (by omega)
          · obtain rfl := Option.some.inj (joins.symm.trans stored)
            exact isEnded
  | saving =>
      have all : process.joined = process.threads.length := by
        unfold Process.joined
        rw [main]
      simp only [main, Option.some.injEq] at taken
      obtain rfl := taken
      refine sound.idle id (fun {index thread} stored below => ?_) fun _ => rfl
      exact sound.joined stored (by rw [all]; exact below)
  | exited => simp [main] at taken

/-- A new connection. -/
private theorem Sound.connect (sound : process.Sound durable) {session : Session} :
    ({ process with
        threads := process.threads ++ [{ session := session }]
        main := .checking } : Process).Sound durable := by
  have origin : ∀ {index : Nat} {thread : Thread},
      (process.threads ++ [{ session := session }])[index]? = some thread →
        process.threads[index]? = some thread ∨ thread.stage = .starting := by
    intro index thread stored
    rw [List.getElem?_append] at stored
    split at stored
    · exact Or.inl stored
    · exact Or.inr (congrArg Thread.stage (List.mem_singleton.mp (List.mem_of_getElem? stored)))
  have kept : ∀ {index : Nat} {thread : Thread}, process.threads[index]? = some thread →
      (process.threads ++ [{ session := session }])[index]? = some thread := by
    intro index thread stored
    rw [List.getElem?_append_left (List.getElem?_eq_some_iff.mp stored).1]
    exact stored
  refine ⟨fun stored isListed => ?_, ?_, fun stopped _ _ stored receiving isOpen => ?_,
    fun stopped listening => ?_, fun holds => ?_, fun _ below => absurd below (Nat.not_lt_zero _),
    by simp⟩
  · rcases origin stored with old | starting
    · exact sound.listed old isListed
    · exact absurd isListed (by simp [starting, Stage.isListed])
  · have fits := sound.room
    simp only [List.countP_append, List.length_append, List.countP_singleton,
      List.length_singleton, decide_true, if_true]
    omega
  · rcases origin stored with old | starting
    · obtain ⟨place, other, located, will⟩ := sound.swept stopped old receiving isOpen
      exact ⟨place, other, kept located, will⟩
    · exact absurd receiving (by simp [starting])
  · obtain ⟨place, other, located, closing⟩ := sound.listener stopped listening
    exact ⟨place, other, kept located, closing⟩
  · obtain ⟨other, located, sweeping⟩ := sound.held holds
    exact ⟨other, kept located, sweeping⟩

/-- Every step keeps the invariant. -/
theorem Sound.step {act : Act} (sound : process.Sound durable)
    (taken : ProcessStep limits durable process act next) : next.Sound durable := by
  cases taken with
  | rehash running same =>
      exact sound.idle id sound.joined fun exited => absurd exited running
  | act taken =>
      cases act with
      | main => exact sound.stepMain taken
      | thread index =>
          obtain ⟨thread, found, taken⟩ := Option.bind_eq_some_iff.mp taken
          obtain ⟨new, moves⟩ := moves_of_stepThread taken
          exact sound.moves found moves
      | connect =>
          obtain ⟨⟨main, listening⟩, accepted⟩ := Option.ite_none_right_eq_some.mp taken
          obtain rfl := Option.some.inj accepted
          exact sound.connect
      | acceptFails =>
          obtain ⟨-, failed⟩ := Option.ite_none_right_eq_some.mp taken
          obtain rfl := Option.some.inj failed
          exact sound.early id (by cases process.stop <;> simp)
      | frame index now saved frame =>
          obtain ⟨thread, found, taken⟩ := Option.bind_eq_some_iff.mp taken
          obtain ⟨new, moves⟩ := moves_of_stepFrame taken
          exact sound.moves found moves
      | recvFails index =>
          obtain ⟨thread, found, taken⟩ := Option.bind_eq_some_iff.mp taken
          obtain ⟨⟨stage, -⟩, failed⟩ := Option.ite_none_right_eq_some.mp taken
          obtain rfl := Option.some.inj failed
          exact sound.moves found (moves_of_recvFails stage)
      | rehash => exact absurd taken (by simp [Process.next])

/-- The threads that there are, and the one that a pending `accept` may add. -/
def capacity (process : Process) : Nat :=
  process.threads.length + if process.main = .accepting then 1 else 0

end Process

/-- A bound on the steps that `main` can take once `g_stop` is set, with that many threads
to join; an `accept` that succeeds brings those of a thread. -/
def MainStage.work (threads : Nat) : MainStage → Nat
  | .accepting => threads + 10
  | .checking => threads + 4
  | .closing => threads + 3
  | .joining index => threads - index + 2
  | .saving => 1
  | .exited => 0

/-- A bound on the steps that the process can take once `g_stop` is set. -/
def Process.work (process : Process) : Nat :=
  (process.threads.map fun thread => thread.stage.work process.capacity).sum +
    process.main.work process.capacity

section Work

variable {limits : EngineLimits} {durable : Bool} {process next : Process} {index : Nat}
  {old new : Thread} {act : Act}

end Work

section Rest

variable {durable : Bool} {process : Process}

end Rest

/-- The act is one of the threads or a peer. -/
def Act.advances : Act → Bool
  | .rehash => false
  | _ => true

/-- Everything comes to its end, and the worker is fenced. -/
private def ends : List Act :=
  List.replicate 9 (.thread 1) ++ List.replicate 4 (.thread 0) ++ List.replicate 6 .main

end CongestionFabric
