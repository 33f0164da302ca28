import Mathlib.Logic.Relation
import CongestionFabric.Coordinator.Effect
import CongestionFabric.Worker.Client

/-!
Contract: the coordinator as the service that one client talks to.

Owns what the other sessions may do between two frames of the client, what becomes of a
frame and which reply it can have, the facts about an engine that no step of a
coordinator takes back, and the rule for a request of the client.

Does not own: the wire. A frame arrives as it was sent or not at all, and so does a
reply.
-/

namespace CongestionFabric

open Foundation
open Foundation.Reader

/-! ## The service -/

namespace Coordinator

variable {limits : EngineLimits} {coordinator next final : Coordinator} {index : Nat}
  {input : Input} {session : Session}

/-- A step that takes no frame from the session: another session acts, or this one makes
the second call of a frame or ends. -/
def Others (limits : EngineLimits) (index : Nat) (before after : Coordinator) : Prop :=
  ∃ input, CoordinatorStep limits before input after ∧
    ∀ now saved frame, input ≠ .frame index now saved frame

/-- What becomes of a frame that the client of a session sends. It may not arrive, and
if it is taken the reply may not; a reply that arrives is what the session sent. -/
inductive Exchange (limits : EngineLimits) (index : Nat) (coordinator : Coordinator)
    (frame : Frame) : Option Frame → Coordinator → Prop
  | unsent : Exchange limits index coordinator frame none coordinator
  | lost (now : UInt64) (saved : Bool) :
      Exchange limits index coordinator frame none
        (coordinator.next limits (.frame index now saved frame))
  | answered {session after : Session} {final : Coordinator} {reply : Frame} (now : UInt64)
      (saved : Bool)
      (taken : coordinator.taker (.frame index now saved frame) = some session)
      (served : Relation.ReflTransGen (Others limits index)
        (coordinator.next limits (.frame index now saved frame)) final)
      (there : final.sessions[index]? = some after)
      (sent : after.sent = session.sent ++ [reply]) :
      Exchange limits index coordinator frame (some reply) final

/-- The service of a session; where it is not lossy, every frame and every reply
arrives. -/
def service (limits : EngineLimits) (index : Nat) (lossy : Bool) :
    Client.Service Coordinator Frame Frame where
  moves := Others limits index
  exchange coordinator frame reply final :=
    (reply = none → lossy = true) ∧ Exchange limits index coordinator frame reply final

/-- The number that the frame makes the engine hand out, if it does, is not in use. -/
def numberFree (coordinator : Coordinator) (frame : Frame) : Bool :=
  match Request.ofFrame frame with
  | some (.createDomain _ _) =>
      (coordinator.engine.domains.find? ⟨coordinator.engine.nextDomain⟩).isNone
  | some (.declareFlow _) => (coordinator.engine.flows.find? ⟨coordinator.engine.nextFlow⟩).isNone
  | _ => true

section Numbers

variable {frame : Frame}

theorem domainFree {kind : Enum8 DomainKind} {capacity : CapacityProfile Binary64}
    (read : Request.ofFrame frame = some (.createDomain kind capacity))
    (free : coordinator.numberFree frame = true) :
    coordinator.engine.domains.find? ⟨coordinator.engine.nextDomain⟩ = none := by
  unfold numberFree at free
  rw [read] at free
  exact Option.isNone_iff_eq_none.mp free

theorem flowFree {options : FlowOptions Binary64}
    (read : Request.ofFrame frame = some (.declareFlow options))
    (free : coordinator.numberFree frame = true) :
    coordinator.engine.flows.find? ⟨coordinator.engine.nextFlow⟩ = none := by
  unfold numberFree at free
  rw [read] at free
  exact Option.isNone_iff_eq_none.mp free

end Numbers

/-! ## Replies -/

/-- What a session that has made the first call of a frame can reply to it, if it had
sent these frames before. -/
def MayReply (before : List Frame) (session : Session) (reply : Frame) : Prop :=
  match session.phase with
  | .registering pending => ∃ accepted, reply = .ofType .registerAck (wrBool accepted) ∧
      (accepted = true → pending.workerAccepted = true)
  | .reporting _ assessment =>
      ∃ snap, reply = .ofType .congestionUpdate (wrCongestionUpdate assessment snap)
  | _ => session.sent = before ++ [reply]

/-- A session that answers at once. -/
theorem mayReply_answer {stop : Bool} {frame reply : Frame} :
    MayReply session.sent (session.answer stop frame) reply ↔ reply = frame := by
  unfold MayReply Session.answer
  cases stop <;> simp [eq_comm]

/-- What becomes of a session when no frame of its client is taken: nothing, or it makes
its second call, or it ends. -/
theorem session_others (found : coordinator.sessions[index]? = some session)
    (moved : Others limits index coordinator next) :
    ∃ after, next.sessions[index]? = some after ∧
      (after = session ∨
        session.phase.isWithinFrame = true ∧
          after = (finish coordinator.stop coordinator.engine session).2 ∨
        session.phase.isBetweenFrames = true ∧ after = { session with phase := .ended }) := by
  obtain ⟨input, taken, others⟩ := moved
  have within : index < coordinator.sessions.length := (List.getElem?_eq_some_iff.mp found).1
  cases taken with
  | rehash same => exact ⟨session, found, Or.inl rfl⟩
  | input =>
      unfold Coordinator.next
      cases taken : coordinator.taker input with
      | none =>
          cases input with
          | accept => exact ⟨session, by rw [List.getElem?_append_left within]; exact found,
              Or.inl rfl⟩
          | _ => exact ⟨session, by simpa only [taken] using found, Or.inl rfl⟩
      | some taker =>
          have elsewhere : ∀ {place : Nat} (new : Session), place ≠ index →
              (coordinator.sessions.set place new)[index]? = some session :=
            fun new other => by rw [List.getElem?_set_ne other]; exact found
          have here : ∀ new, (coordinator.sessions.set index new)[index]? = some new :=
            fun new => List.getElem?_set_self within
          cases input with
          | accept => exact absurd taken (by simp [Coordinator.taker])
          | rehash => exact absurd taken (by simp [Coordinator.taker])
          | frame place now saved frame =>
              have other : place ≠ index := fun same => others now saved frame (by rw [same])
              exact ⟨session, elsewhere _ other, Or.inl rfl⟩
          | resume place =>
              by_cases same : place = index
              · subst same
                obtain ⟨addressed, able⟩ := Option.filter_eq_some_iff.mp taken
                obtain rfl := Option.some.inj (found.symm.trans addressed)
                exact ⟨_, here _, Or.inr (Or.inl ⟨able, rfl⟩)⟩
              · exact ⟨session, elsewhere _ same, Or.inl rfl⟩
          | disconnect place =>
              by_cases same : place = index
              · subst same
                obtain ⟨addressed, able⟩ := Option.filter_eq_some_iff.mp taken
                obtain rfl := Option.some.inj (found.symm.trans addressed)
                exact ⟨_, here _, Or.inr (Or.inr ⟨able, rfl⟩)⟩
              · exact ⟨session, elsewhere _ same, Or.inl rfl⟩

/-- The session has not replied yet, or it has sent a reply it was allowed to. -/
private def Replies (index : Nat) (before : List Frame) (first : Session)
    (coordinator : Coordinator) : Prop :=
  ∃ session, coordinator.sessions[index]? = some session ∧
    (session = first ∧ first.phase.isWithinFrame = true ∧ first.sent = before ∨
      session.phase.isWithinFrame = false ∧
        ∀ reply, session.sent = before ++ [reply] → MayReply before first reply)

private theorem Replies.others {before : List Frame} {first : Session}
    (replies : Replies index before first coordinator)
    (moved : Others limits index coordinator next) : Replies index before first next := by
  obtain ⟨session, found, stands⟩ := replies
  obtain ⟨after, there, became⟩ := session_others found moved
  refine ⟨after, there, ?_⟩
  rcases became with rfl | ⟨within, finished⟩ | ⟨between, ended⟩
  · exact stands
  · right
    rcases stands with ⟨rfl, -, sent⟩ | ⟨outside, -⟩
    · subst finished sent
      have replied : ∀ {frame reply : Frame}, session.sent ++ [frame] = session.sent ++ [reply] →
          reply = frame :=
        fun same => (List.cons.inj (List.append_cancel_left same)).1.symm
      unfold finish MayReply
      cases phase : session.phase with
      | registering pending =>
          refine ⟨by dsimp only [Session.answer]; split <;> rfl, fun reply same => ?_⟩
          exact ⟨_, replied same, fun both => (Bool.and_eq_true_iff.mp both).1⟩
      | reporting domain assessment =>
          refine ⟨by dsimp only [Session.answer]; split <;> rfl, fun reply same => ?_⟩
          exact ⟨_, replied same⟩
      | _ => exact absurd within (by simp [phase, Phase.isWithinFrame])
    · exact absurd within (by simp [outside])
  · right
    rcases stands with ⟨rfl, within, -⟩ | ⟨-, allowed⟩
    · cases phase : session.phase <;>
        simp [phase, Phase.isBetweenFrames, Phase.isWithinFrame] at between within
    · subst ended
      exact ⟨rfl, allowed⟩

/-- A session that makes a second call has sent nothing yet, and another one has
answered. -/
private theorem handle_sent (limits : EngineLimits) (now : UInt64) (saved stop : Bool)
    (request : Option Request) (engine : Impl Binary64) (session : Session) :
    let after := (handle limits now saved stop request engine session).2.1
    after.phase.isWithinFrame = true ∧ after.sent = session.sent ∨
      after.phase.isWithinFrame = false ∧ ∃ reply, after.sent = session.sent ++ [reply] := by
  have answered : ∀ (stop : Bool) (frame : Frame),
      (session.answer stop frame).phase.isWithinFrame = false ∧
        ∃ reply, (session.answer stop frame).sent = session.sent ++ [reply] := by
    intro stop frame
    refine ⟨?_, frame, rfl⟩
    cases stop <;> rfl
  cases request with
  | none => exact Or.inr (answered _ _)
  | some request =>
      cases request with
      | register worker boot source sourceBoot => exact Or.inl ⟨rfl, rfl⟩
      | queryCongestion domain => exact Or.inl ⟨rfl, rfl⟩
      | publishMeasurement domain measurement =>
          right
          unfold handle
          dsimp only
          split <;> exact answered _ _
      | _ => exact Or.inr (answered _ _)

/-- The reply to a frame is one the session may make. -/
theorem mayReply_of_served {now : UInt64} {saved : Bool} {frame reply : Frame}
    {after : Session} (taken : coordinator.taker (.frame index now saved frame) = some session)
    (served : Relation.ReflTransGen (Others limits index)
      (coordinator.next limits (.frame index now saved frame)) final)
    (there : final.sessions[index]? = some after)
    (sent : after.sent = session.sent ++ [reply]) :
    MayReply session.sent (handle limits now saved coordinator.stop (Request.ofFrame frame)
      coordinator.engine session).2.1 reply := by
  have located := (Option.filter_eq_some_iff.mp taken).1
  have stored : (coordinator.next limits (.frame index now saved frame)).sessions[index]? =
      some (handle limits now saved coordinator.stop (Request.ofFrame frame) coordinator.engine
        session).2.1 := by
    unfold Coordinator.next
    simp only [taken]
    exact List.getElem?_set_self (List.getElem?_eq_some_iff.mp located).1
  have first : Replies index session.sent (handle limits now saved coordinator.stop
      (Request.ofFrame frame) coordinator.engine session).2.1
      (coordinator.next limits (.frame index now saved frame)) := by
    refine ⟨_, stored, ?_⟩
    rcases handle_sent limits now saved coordinator.stop (Request.ofFrame frame)
      coordinator.engine session with ⟨within, unsent⟩ | ⟨outside, -⟩
    · exact Or.inl ⟨rfl, within, unsent⟩
    · refine Or.inr ⟨outside, fun reply replied => ?_⟩
      unfold MayReply
      split
      · next phase => simp [phase, Phase.isWithinFrame] at outside
      · next phase => simp [phase, Phase.isWithinFrame] at outside
      · exact replied
  have last : Replies index session.sent (handle limits now saved coordinator.stop
      (Request.ofFrame frame) coordinator.engine session).2.1 final := by
    clear there
    induction served with
    | refl => exact first
    | tail _ moved inductionHypothesis => exact inductionHypothesis.others moved
  obtain ⟨found, isThere, stands⟩ := last
  obtain rfl := Option.some.inj (there.symm.trans isThere)
  rcases stands with ⟨rfl, -, unsent⟩ | ⟨-, allowed⟩
  · rw [unsent] at sent
    exact absurd sent (by simp)
  · exact allowed reply sent

/-! ## Nobody else -/

/-- The session serves the frame at once, with both calls. -/
def alone (limits : EngineLimits) (index : Nat) (now : UInt64) (frame : Frame)
    (coordinator : Coordinator) : Option (Frame × Coordinator) :=
  let input : Input := .frame index now false frame
  let served := (coordinator.next limits input).next limits (.resume index)
  match coordinator.taker input, (served.sessions[index]?).map Session.sent with
  | some session, some sent =>
      match sent.getLast? with
      | some reply =>
          if sent = session.sent ++ [reply] then some (reply, served) else none
      | none => none
  | _, _ => none

theorem exchange_alone {now : UInt64} {frame reply : Frame}
    (answered : alone limits index now frame coordinator = some (reply, next)) (lossy : Bool) :
    (service limits index lossy).exchange coordinator frame (some reply) next := by
  refine ⟨by simp, ?_⟩
  unfold alone at answered
  dsimp only at answered
  split at answered
  · next session sent taken located =>
      obtain ⟨after, there, rfl⟩ := Option.map_eq_some_iff.mp located
      split at answered
      · split at answered
        · next served =>
            obtain ⟨rfl, rfl⟩ := Prod.mk.inj (Option.some.inj answered)
            exact .answered now false taken (.single ⟨.resume index, .input _ _, by simp⟩)
              there served
        · exact absurd answered (by simp)
      · exact absurd answered (by simp)
  · exact absurd answered (by simp)

end Coordinator

end CongestionFabric
