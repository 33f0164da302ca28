import CongestionFabric.Foundation.ByteStream

/-!
Contract: readers as code with a pointer runs them.

Owns cursors over a buffer with a 64-bit offset, where every comparison and every
sum is made in wrapping arithmetic and an access outside of the buffer is a fault;
the relation `Mirrors` between a cursor and a reader of byte lists; and the
cursor of every reader that is put together from the primitives.

Does not own: any record format.
-/

namespace Foundation

/-! ## Cursors -/

/-- What a cursor does: it returns a value and a new offset, throws a text, or
touches memory outside of its buffer. -/
inductive Access (A : Type) where
  | ok (value : A) (offset : UInt64)
  | corrupt (text : String)
  | fault

/-- A program over a buffer and an offset into it. -/
def Cursor (A : Type) : Type := List UInt8 → UInt64 → Access A

namespace Cursor

variable {A B : Type}

protected def bind (cursor : Cursor A) (next : A → Cursor B) : Cursor B := fun buffer offset =>
  match cursor buffer offset with
  | .ok value later => next value buffer later
  | .corrupt text => .corrupt text
  | .fault => .fault

instance : Monad Cursor where
  pure value := fun _ offset => .ok value offset
  bind := Cursor.bind

/-- The offset. -/
def tell : Cursor UInt64 := fun _ offset => .ok offset offset

/-- Move the offset forward. -/
def advance (count : UInt64) : Cursor Unit := fun _ offset => .ok () (offset + count)

/-- The length of the buffer less the offset. -/
def remaining : Cursor UInt64 := fun buffer offset => .ok (.ofNat buffer.length - offset) offset

/-- Stop unless that many bytes are left. -/
def need (count : UInt64) : Cursor Unit := fun buffer offset =>
  if count > .ofNat buffer.length - offset then .corrupt "truncated data" else .ok () offset

/-- The bytes of a part of the buffer, with no comparison made first. -/
def window (start count : UInt64) : Cursor (List UInt8) := fun buffer offset =>
  if start.toNat + count.toNat ≤ buffer.length then
    .ok ((buffer.drop start.toNat).take count.toNat) offset
  else .fault

/-- The byte at the offset, with no comparison made first. -/
def fetch : Cursor UInt8 := fun buffer offset =>
  match buffer[offset.toNat]? with
  | none => .fault
  | some byte => .ok byte offset

def u8 : Cursor UInt8 := do
  need 1
  let byte ← fetch
  advance 1
  pure byte

def bytes (count : UInt64) : Cursor (List UInt8) := do
  need count
  let start ← tell
  let read ← window start count
  advance count
  pure read

def many (count : Nat) (item : Cursor A) : Cursor (List A) :=
  match count with
  | 0 => pure []
  | count + 1 => do
      let head ← item
      let tail ← many count item
      pure (head :: tail)

def loop (count : Nat) (body : A → Cursor A) (state : A) : Cursor A :=
  match count with
  | 0 => pure state
  | count + 1 => do
      let next ← body state
      loop count body next

/-- A little-endian word, byte by byte. -/
def word (width : Nat) : Cursor Nat := do
  let read ← many width u8
  pure (ofLittleEndian read)

def u32 : Cursor UInt32 := do
  let value ← word 4
  pure (.ofNat value)

def u64 : Cursor UInt64 := do
  let value ← word 8
  pure (.ofNat value)

def require (condition : Bool) (text : String) : Cursor Unit := fun _ offset =>
  if condition then .ok () offset else .corrupt text

def expect (found : Option A) (text : String) : Cursor A := fun _ offset =>
  match found with
  | none => .corrupt text
  | some value => .ok value offset

end Cursor

/-! ## Mirroring -/

/-- The outcome of a cursor is that of a reader, whose rest is what the buffer
holds from the offset on. A fault matches nothing. -/
inductive Access.Matches {A : Type} (buffer : List UInt8) :
    Access A → Except String (A × List UInt8) → Prop
  | ok (value : A) (offset : UInt64) (within : offset.toNat ≤ buffer.length) :
      Access.Matches buffer (.ok value offset) (.ok (value, buffer.drop offset.toNat))
  | corrupt (text : String) : Access.Matches buffer (.corrupt text) (.error text)

/-- In every buffer that a machine can hold, and from every offset within it, the
cursor does what the reader does with the bytes from there on. -/
def Mirrors {A : Type} (cursor : Cursor A) (reader : Reader A) : Prop :=
  ∀ (buffer : List UInt8) (offset : UInt64), buffer.length < 2 ^ 64 →
    offset.toNat ≤ buffer.length →
    Access.Matches buffer (cursor buffer offset) (reader (buffer.drop offset.toNat))

section Mirroring

variable {A B : Type} {cursor : Cursor A} {reader : Reader A} {follow : A → Cursor B}
  {next : A → Reader B} {buffer : List UInt8} {offset later : UInt64} {value : A} {text : String}

theorem Cursor.bind_ok (returned : cursor buffer offset = .ok value later) :
    (cursor >>= follow) buffer offset = follow value buffer later := by
  change Cursor.bind cursor follow buffer offset = _
  rw [Cursor.bind, returned]

theorem Cursor.bind_corrupt (thrown : cursor buffer offset = .corrupt text) :
    (cursor >>= follow) buffer offset = .corrupt text := by
  change Cursor.bind cursor follow buffer offset = _
  rw [Cursor.bind, thrown]

theorem mirrors_pure (value : A) : Mirrors (pure value) (pure value) :=
  fun _ offset _ within => .ok value offset within

theorem Mirrors.bind (head : Mirrors cursor reader)
    (tail : ∀ value, Mirrors (follow value) (next value)) :
    Mirrors (cursor >>= follow) (reader >>= next) := by
  intro buffer offset size within
  change Access.Matches buffer _
    ((reader (buffer.drop offset.toNat)).bind fun pair => next pair.1 pair.2)
  have matched := head buffer offset size within
  generalize ran : cursor buffer offset = access at matched
  generalize reader (buffer.drop offset.toNat) = outcome at matched ⊢
  cases matched with
  | ok value later inside =>
      rw [Cursor.bind_ok ran]
      exact tail value buffer later size inside
  | corrupt text =>
      rw [Cursor.bind_corrupt ran]
      exact .corrupt text

/-- What the guard compares with is what is left. -/
theorem Cursor.toNat_left (size : buffer.length < 2 ^ 64) (within : offset.toNat ≤ buffer.length) :
    (UInt64.ofNat buffer.length - offset).toNat = buffer.length - offset.toNat := by
  have length : (UInt64.ofNat buffer.length).toNat = buffer.length :=
    UInt64.toNat_ofNat_of_lt' size
  rw [UInt64.toNat_sub_of_le _ _ (by rw [UInt64.le_iff_toNat_le, length]; exact within), length]

/-- A guarded read moves the offset without wrapping. -/
theorem Cursor.toNat_advance {count : UInt64} (size : buffer.length < 2 ^ 64)
    (inside : offset.toNat + count.toNat ≤ buffer.length) :
    (offset + count).toNat = offset.toNat + count.toNat := by
  rw [UInt64.toNat_add]
  exact Nat.mod_eq_of_lt (by omega)

theorem mirrors_remaining :
    Mirrors (do let left ← Cursor.remaining; pure left.toNat) Reader.remaining := by
  intro buffer offset size within
  change Access.Matches buffer (.ok (UInt64.ofNat buffer.length - offset).toNat offset)
    (.ok ((buffer.drop offset.toNat).length, buffer.drop offset.toNat))
  rw [Cursor.toNat_left size within, ← List.length_drop]
  exact .ok _ offset within

theorem mirrors_require (condition : Bool) (text : String) :
    Mirrors (Cursor.require condition text) (Reader.require condition text) := by
  intro buffer offset _ within
  cases condition with
  | true => exact .ok () offset within
  | false => exact .corrupt text

theorem mirrors_expect (found : Option A) (text : String) :
    Mirrors (Cursor.expect found text) (Reader.expect found text) := by
  intro buffer offset _ within
  cases found with
  | none => exact .corrupt text
  | some value => exact .ok value offset within

/-- A cursor with enough bytes in front of it. -/
theorem Cursor.bytes_eq_ok {count : UInt64} (size : buffer.length < 2 ^ 64)
    (inside : offset.toNat + count.toNat ≤ buffer.length) :
    Cursor.bytes count buffer offset =
      .ok ((buffer.drop offset.toNat).take count.toNat) (offset + count) := by
  have enough : ¬count > UInt64.ofNat buffer.length - offset := by
    rw [gt_iff_lt, UInt64.lt_iff_toNat_lt, Cursor.toNat_left size (by omega)]
    omega
  have needed : Cursor.need count buffer offset = .ok () offset := if_neg enough
  have read : Cursor.window offset count buffer offset =
      .ok ((buffer.drop offset.toNat).take count.toNat) offset := if_pos inside
  rw [Cursor.bytes, Cursor.bind_ok needed]
  exact Cursor.bind_ok read

theorem Cursor.bytes_eq_corrupt {count : UInt64} (size : buffer.length < 2 ^ 64)
    (within : offset.toNat ≤ buffer.length)
    (short : buffer.length < offset.toNat + count.toNat) :
    Cursor.bytes count buffer offset = .corrupt "truncated data" := by
  have missing : count > UInt64.ofNat buffer.length - offset := by
    rw [gt_iff_lt, UInt64.lt_iff_toNat_lt, Cursor.toNat_left size within]
    omega
  have needed : Cursor.need count buffer offset = .corrupt "truncated data" := if_pos missing
  rw [Cursor.bytes, Cursor.bind_corrupt needed]

theorem mirrors_bytes (count : UInt64) :
    Mirrors (Cursor.bytes count) (Reader.bytes count.toNat) := by
  intro buffer offset size within
  unfold Reader.bytes
  split_ifs with short
  · rw [List.length_drop] at short
    rw [Cursor.bytes_eq_corrupt size within (by omega)]
    exact .corrupt _
  · rw [List.length_drop] at short
    have inside : offset.toNat + count.toNat ≤ buffer.length := by omega
    have moved := Cursor.toNat_advance size inside
    rw [Cursor.bytes_eq_ok size inside, List.drop_drop, ← moved]
    exact .ok _ _ (moved ▸ inside)

theorem mirrors_u8 : Mirrors Cursor.u8 Reader.u8 := by
  intro buffer offset size within
  rcases Nat.lt_or_ge offset.toNat buffer.length with inside | outside
  · have enough : ¬(1 : UInt64) > UInt64.ofNat buffer.length - offset := by
      rw [gt_iff_lt, UInt64.lt_iff_toNat_lt, Cursor.toNat_left size within]
      change ¬_ < 1
      omega
    have moved : (offset + 1).toNat = offset.toNat + 1 := Cursor.toNat_advance size inside
    have needed : Cursor.need 1 buffer offset = .ok () offset := if_neg enough
    have fetched : Cursor.fetch buffer offset = .ok buffer[offset.toNat] offset := by
      rw [Cursor.fetch, List.getElem?_eq_getElem inside]
    have run : Cursor.u8 buffer offset = .ok buffer[offset.toNat] (offset + 1) := by
      rw [Cursor.u8, Cursor.bind_ok needed, Cursor.bind_ok fetched]
      rfl
    rw [run, List.drop_eq_getElem_cons inside, ← moved]
    exact .ok _ _ (moved ▸ inside)
  · have missing : (1 : UInt64) > UInt64.ofNat buffer.length - offset := by
      rw [gt_iff_lt, UInt64.lt_iff_toNat_lt, Cursor.toNat_left size within]
      change _ < 1
      omega
    have needed : Cursor.need 1 buffer offset = .corrupt "truncated data" := if_pos missing
    rw [Cursor.u8, Cursor.bind_corrupt needed, List.drop_eq_nil_of_le outside]
    exact .corrupt _

theorem mirrors_many (item : Mirrors cursor reader) (count : Nat) :
    Mirrors (Cursor.many count cursor) (Reader.many count reader) := by
  induction count with
  | zero => exact mirrors_pure []
  | succ count inductionHypothesis =>
      exact item.bind fun head => inductionHypothesis.bind fun tail => mirrors_pure (head :: tail)

theorem mirrors_loop {body : A → Cursor A} {readBody : A → Reader A}
    (each : ∀ state, Mirrors (body state) (readBody state)) (count : Nat) (state : A) :
    Mirrors (Cursor.loop count body state) (Reader.loop count readBody state) := by
  induction count generalizing state with
  | zero => exact mirrors_pure state
  | succ count inductionHypothesis =>
      exact (each state).bind fun after => inductionHypothesis after

/-- Reading bytes one at a time is reading them at once. -/
theorem Reader.many_u8 (count : Nat) : Reader.many count Reader.u8 = Reader.bytes count := by
  induction count with
  | zero =>
      funext input
      show Except.ok ([], input) = Reader.bytes 0 input
      simp [Reader.bytes]
  | succ count inductionHypothesis =>
      funext input
      rw [Reader.many, inductionHypothesis]
      change (Reader.u8 input).bind _ = _
      cases input with
      | nil => rfl
      | cons byte rest =>
          change (Reader.bytes count rest).bind _ = _
          unfold Reader.bytes
          rw [List.length_cons]
          by_cases short : rest.length < count
          · rw [if_pos short, if_pos (by omega)]
            rfl
          · rw [if_neg short, if_neg (by omega)]
            rfl

theorem mirrors_word (width : Nat) : Mirrors (Cursor.word width) (Reader.word width) := by
  have read := mirrors_many mirrors_u8 width
  rw [Reader.many_u8] at read
  exact read.bind fun bytes => mirrors_pure (ofLittleEndian bytes)

theorem mirrors_u32 : Mirrors Cursor.u32 Reader.u32 :=
  (mirrors_word 4).bind fun value => mirrors_pure (UInt32.ofNat value)

theorem mirrors_u64 : Mirrors Cursor.u64 Reader.u64 :=
  (mirrors_word 8).bind fun value => mirrors_pure (UInt64.ofNat value)

end Mirroring

/-! ## Cursors of compound readers -/

/-- A reader together with the cursor that code with a pointer runs for it. -/
class Buffered {A : Type} (reader : Reader A) where
  cursor : Cursor A
  mirrors : Mirrors cursor reader

namespace Buffered

variable {A B : Type}

instance (value : A) : Buffered (pure value : Reader A) := ⟨pure value, mirrors_pure value⟩

instance (reader : Reader A) (next : A → Reader B) [Buffered reader]
    [∀ value, Buffered (next value)] : Buffered (reader >>= next) :=
  ⟨cursor reader >>= fun value => cursor (next value), mirrors.bind fun _ => mirrors⟩

instance : Buffered Reader.remaining := ⟨_, mirrors_remaining⟩

instance (condition : Bool) (text : String) : Buffered (Reader.require condition text) :=
  ⟨_, mirrors_require condition text⟩

instance (found : Option A) (text : String) : Buffered (Reader.expect found text) :=
  ⟨_, mirrors_expect found text⟩

instance : Buffered Reader.u8 := ⟨_, mirrors_u8⟩

instance : Buffered Reader.u32 := ⟨_, mirrors_u32⟩

instance : Buffered Reader.u64 := ⟨_, mirrors_u64⟩

instance (count : UInt64) : Buffered (Reader.bytes count.toNat) := ⟨_, mirrors_bytes count⟩

instance (count : Nat) (item : Reader A) [Buffered item] : Buffered (Reader.many count item) :=
  ⟨Cursor.many count (cursor item), mirrors_many mirrors count⟩

instance (count : Nat) (body : A → Reader A) (state : A) [∀ state, Buffered (body state)] :
    Buffered (Reader.loop count body state) :=
  ⟨Cursor.loop count (fun state => cursor (body state)) state,
    mirrors_loop (fun _ => mirrors) count state⟩

end Buffered

end Foundation
