import CongestionFabric.Engine.Ledger
import CongestionFabric.Persistence.FairShares

/-!
Contract: books that outlive the engine.

Owns the engines together with the books that are kept from the answers to their calls,
through every call, rehash and load of a saved file; and the theorem that every flow
has the counters of its account in every engine that is reached.

Does not own: files that no engine saved, which come without books.
-/

namespace CongestionFabric

open Foundation

/-- An engine with the books of its callers. -/
structure Booked where
  engine : Impl Binary64 := Impl.fresh
  books : Books := fun _ => none

def Booked.called (limits : EngineLimits) (now : UInt64) (op : Op Binary64) (booked : Booked) :
    Booked where
  engine := (exec limits now op booked.engine).2
  books := booked.books.enter op (exec limits now op booked.engine).1

inductive BookedStep : Booked → Label Binary64 → Booked → Prop
  | call (booked : Booked) (limits : EngineLimits) (now : UInt64) (op : Op Binary64) :
      BookedStep booked (.call now op) (booked.called limits now op)
  | rehash {booked : Booked} {engine : Impl Binary64} (same : booked.engine.Reordered engine) :
      BookedStep booked .rehash { booked with engine := engine }

/-- A load of a saved file, to which the books of its time belong. -/
inductive BookedRestores (saved target : Booked) : Booked → Prop
  | load {engine : Impl Binary64} (restored : Restores saved.engine target.engine engine) :
      BookedRestores saved target { saved with engine := engine }

def Booked.Reached : Booked → Prop := Restarted BookedStep BookedRestores {}

/-- A file keeps the counters. -/
theorem Impl.Balances.restoredFrom {R : Type} [Arithmetic R] {saved : Impl R} {books : Books}
    (balances : saved.Balances books) (state : Impl R) :
    (state.restoredFrom saved).Balances books := by
  have recovered := balances.exec {} 0 .recoverDynamicEvidence
  rw [show (CongestionFabric.exec {} 0 .recoverDynamicEvidence saved).1 = .nothing from rfl,
    Books.enter_recoverDynamicEvidence] at recovered
  exact ⟨recovered.keyed, recovered.sound, recovered.follows, recovered.absent⟩

private theorem Booked.Reached.balances {booked : Booked} (reached : booked.Reached) :
    booked.engine.Balances booked.books := by
  refine reached.invariant (fun booked => booked.engine.Balances booked.books)
    Impl.balances_fresh ?_ ?_
  · intro booked label next balances taken
    cases taken with
    | call limits now op => exact balances.exec limits now op
    | rehash same => exact balances.rehash same
  · intro saved target next balances _ restored
    cases restored with
    | load restored =>
        rw [restored.eq]
        exact balances.restoredFrom target.engine

private def bookAll (calls : List (UInt64 × Op Binary64)) (booked : Booked) : Booked :=
  calls.foldl (fun booked call => booked.called {} call.1 call.2) booked

/-- Of 100 bytes 30 are acknowledged; 80 more are refused. -/
private def delivers : List (UInt64 × Op Binary64) :=
  [(1, .registerWorker ⟨1⟩ ⟨1⟩), (1, .registerSource ⟨1⟩ ⟨1⟩),
    (1, .createDomain DomainKind.nicTx {}), (2, .declareFlow (.ofFirst 100)),
    (2, .admitFlow ⟨⟨1⟩, ⟨1⟩⟩), (3, .startFlow ⟨⟨1⟩, ⟨1⟩⟩ ⟨1⟩),
    (4, .flowProgress ⟨⟨1⟩, ⟨1⟩⟩ ⟨1⟩ 30), (5, .flowProgress ⟨⟨1⟩, ⟨1⟩⟩ ⟨1⟩ 80)]

private def delivered : Booked := bookAll delivers {}

/-- After a restart the flow can go nowhere, and a second one is cancelled. -/
private def abandons : List (UInt64 × Op Binary64) :=
  [(6, .flowComplete ⟨⟨1⟩, ⟨1⟩⟩ ⟨1⟩), (6, .declareFlow (.ofFirst 50)),
    (6, .admitFlow ⟨⟨2⟩, ⟨1⟩⟩), (7, .flowCancel ⟨⟨2⟩, ⟨1⟩⟩ ⟨1⟩ 70)]

private def abandoned : Booked :=
  bookAll abandons { delivered with engine := Impl.fresh.restoredFrom delivered.engine }

end CongestionFabric
