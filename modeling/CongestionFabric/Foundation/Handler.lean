import CongestionFabric.Foundation.ByteStream

/-!
Contract: handlers that read a message and act on a world.

Owns programs that mix reads, which may throw, with actions, which stay when a
later read throws and which may be undefined; the law that a compound read is the
sequence of its parts; and what a handler leaves behind when whatever it throws is
caught.

Does not own: any message format and any world.
-/

namespace Foundation

/-- A program over the rest of a message and a world. It returns a value or
throws, and what it did to the world before a throw is not undone; `none` is an
action that the language leaves undefined, of which nothing is said. -/
def Handler (W A : Type) : Type :=
  List UInt8 → W → Option (Except String (A × List UInt8) × W)

namespace Handler

variable {W A B C : Type}

/-- Run a handler and, unless it throws, continue in the world it leaves. -/
protected def bind (handler : Handler W A) (next : A → Handler W B) : Handler W B :=
  fun input world => match handler input world with
    | none => none
    | some (.error text, after) => some (.error text, after)
    | some (.ok (value, rest), after) => next value rest after

instance : Monad (Handler W) where
  pure value := fun input world => some (.ok (value, input), world)
  bind := Handler.bind

variable {handler : Handler W A} {next : A → Handler W B} {input rest : List UInt8}
  {world after : W} {value : A} {text : String}

theorem bind_undefined (undefined : handler input world = none) :
    (handler >>= next) input world = none := by
  change Handler.bind handler next input world = _
  rw [Handler.bind, undefined]

theorem bind_throws (thrown : handler input world = some (.error text, after)) :
    (handler >>= next) input world = some (.error text, after) := by
  change Handler.bind handler next input world = _
  rw [Handler.bind, thrown]

theorem bind_returns (returned : handler input world = some (.ok (value, rest), after)) :
    (handler >>= next) input world = next value rest after := by
  change Handler.bind handler next input world = _
  rw [Handler.bind, returned]

instance : LawfulMonad (Handler W) :=
  LawfulMonad.mk' (Handler W)
    (by
      intro A handler
      funext input world
      change Handler.bind handler (fun value => pure value) input world = _
      rcases run : handler input world with _ | ⟨text | ⟨value, rest⟩, after⟩
      · exact bind_undefined run
      · exact bind_throws run
      · exact bind_returns run)
    (by
      intro A B value next
      rfl)
    (by
      intro A B C handler next last
      funext input world
      rcases run : handler input world with _ | ⟨text | ⟨value, rest⟩, after⟩
      · rw [bind_undefined (bind_undefined run), bind_undefined run]
      · rw [bind_throws (bind_throws run), bind_throws run]
      · rw [bind_returns run]
        change Handler.bind (handler >>= next) last input world = Handler.bind (next value) last _ _
        rw [Handler.bind, bind_returns run]
        rfl)

/-! ## Reads and actions -/

/-- Read from the message. -/
def read (reader : Reader A) : Handler W A := fun input world => some (reader input, world)

/-- Act on the world, where that has a meaning. -/
def actIfDefined (action : W → Option (A × W)) : Handler W A := fun input world =>
  (action world).map fun acted => (.ok (acted.1, input), acted.2)

/-- Act on the world. -/
def act (action : W → A × W) : Handler W A := actIfDefined fun world => some (action world)

variable {reader : Reader A}

/-- A handler that begins with a failing read throws, with the world as it was. -/
theorem read_throws (failed : reader input = .error text) :
    (read reader >>= next) input world = some (.error text, world) := by
  apply bind_throws
  rw [read, failed]

/-- After a read that succeeds a handler goes on in the world as it was. -/
theorem read_returns (succeeded : reader input = .ok (value, rest)) :
    (read reader >>= next) input world = next value rest world := by
  apply bind_returns
  rw [read, succeeded]

/-- A compound read is the sequence of its parts. -/
theorem read_bind (reader : Reader A) (next : A → Reader B) :
    (read (reader >>= next) : Handler W B) = read reader >>= fun value => read (next value) := by
  funext input world
  change some ((reader input).bind fun pair => next pair.1 pair.2, world) = _
  rcases run : reader input with text | ⟨value, rest⟩
  · rw [read_throws run]
    rfl
  · rw [read_returns run]
    rfl

theorem read_pure (value : A) : (read (pure value) : Handler W A) = pure value := rfl

/-! ## Caught exceptions -/

/-- The world after a handler whose exceptions are caught and answered. -/
def attempt (handler : Handler W Unit) (rescue : W → W) (input : List UInt8) (world : W) :
    Option W :=
  (handler input world).map fun
    | (.ok _, after) => after
    | (.error _, after) => rescue after

end Handler

end Foundation
