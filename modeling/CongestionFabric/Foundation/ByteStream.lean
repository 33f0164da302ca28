import Mathlib.Algebra.Order.Ring.Nat
import Mathlib.Tactic.SplitIfs

/-!
Contract: little-endian byte streams and readers that may fail.

Owns fixed-width little-endian words, readers as functions that consume a prefix
of a byte list or stop with an error text, and three calculi: `Reads` (this reader
returns that value from exactly these bytes, whatever follows them), `Returns` (it
returns that value or fails) and `Yields` (whatever it returns satisfies that
property).

Does not own: any record format.
-/

namespace Foundation

/-! ## Words -/

/-- The `width` low bytes of a number, least significant first. -/
def littleEndian : Nat → Nat → List UInt8
  | 0, _ => []
  | width + 1, value => .ofNat (value % 256) :: littleEndian width (value / 256)

/-- The number that bytes denote, least significant first. -/
def ofLittleEndian : List UInt8 → Nat
  | [] => 0
  | byte :: rest => byte.toNat + 256 * ofLittleEndian rest

@[simp] theorem littleEndian_length (width value : Nat) :
    (littleEndian width value).length = width := by
  induction width generalizing value with
  | zero => rfl
  | succ width inductionHypothesis => simp [littleEndian, inductionHypothesis]

/-- Writing a word that fits and reading it back is the identity. -/
theorem ofLittleEndian_littleEndian {width value : Nat} (fits : value < 256 ^ width) :
    ofLittleEndian (littleEndian width value) = value := by
  induction width generalizing value with
  | zero =>
      rw [Nat.pow_zero] at fits
      exact (Nat.lt_one_iff.mp fits).symm
  | succ width inductionHypothesis =>
      have quotient : value / 256 < 256 ^ width := by
        rw [Nat.pow_succ] at fits
        omega
      have low : (UInt8.ofNat (value % 256)).toNat = value % 256 :=
        UInt8.toNat_ofNat_of_lt (Nat.mod_lt _ (by decide))
      rw [littleEndian, ofLittleEndian, inductionHypothesis quotient, low]
      omega

/-- Reading bytes as a word and writing it back is the identity. -/
theorem littleEndian_ofLittleEndian (read : List UInt8) :
    littleEndian read.length (ofLittleEndian read) = read := by
  induction read with
  | nil => rfl
  | cons byte rest inductionHypothesis =>
      have small : byte.toNat < 256 := byte.toNat_lt
      have low : (byte.toNat + 256 * ofLittleEndian rest) % 256 = byte.toNat := by omega
      have high : (byte.toNat + 256 * ofLittleEndian rest) / 256 = ofLittleEndian rest := by omega
      rw [List.length_cons, ofLittleEndian, littleEndian, low, high, inductionHypothesis,
        UInt8.ofNat_toNat]

theorem ofLittleEndian_lt (read : List UInt8) : ofLittleEndian read < 256 ^ read.length := by
  induction read with
  | nil => exact Nat.one_pos
  | cons byte rest inductionHypothesis =>
      have small : byte.toNat < 256 := byte.toNat_lt
      rw [ofLittleEndian, List.length_cons, Nat.pow_succ]
      omega

/-! ## Readers -/

/-- A reader consumes a prefix of the bytes it is given, or fails with a text. -/
abbrev Reader := StateT (List UInt8) (Except String)

namespace Reader

variable {A B : Type}

/-- The next `count` bytes. -/
def bytes (count : Nat) : Reader (List UInt8) := fun input =>
  if input.length < count then .error "truncated data"
  else .ok (input.take count, input.drop count)

/-- The number of bytes left. -/
def remaining : Reader Nat := fun input => .ok (input.length, input)

/-- Stop with a text unless a condition holds. -/
def require (condition : Bool) (text : String) : Reader Unit := fun input =>
  if condition then .ok ((), input) else .error text

/-- The value of an option, or stop with a text. -/
def expect (found : Option A) (text : String) : Reader A := fun input =>
  match found with
  | none => .error text
  | some value => .ok (value, input)

def word (width : Nat) : Reader Nat := do
  let read ← bytes width
  pure (ofLittleEndian read)

def u8 : Reader UInt8 := fun input =>
  match input with
  | [] => .error "truncated data"
  | byte :: rest => .ok (byte, rest)

def u32 : Reader UInt32 := do
  let value ← word 4
  pure (.ofNat value)

def u64 : Reader UInt64 := do
  let value ← word 8
  pure (.ofNat value)

/-- Run a reader a number of times, threading a state. -/
def loop (count : Nat) (body : A → Reader A) (state : A) : Reader A :=
  match count with
  | 0 => pure state
  | count + 1 => do
      let next ← body state
      loop count body next

/-- Run a reader a number of times and collect what it returns. -/
def many (count : Nat) (item : Reader A) : Reader (List A) :=
  match count with
  | 0 => pure []
  | count + 1 => do
      let head ← item
      let tail ← many count item
      pure (head :: tail)

/-! ## Exact reading -/

/-- From exactly these bytes, whatever follows, the reader returns that value. -/
def Reads (reader : Reader A) (written : List UInt8) (value : A) : Prop :=
  ∀ rest, reader (written ++ rest) = .ok (value, rest)

theorem reads_pure (value : A) : Reads (pure value) [] value := fun _ => rfl

theorem Reads.bind {reader : Reader A} {next : A → Reader B} {first second : List UInt8}
    {value : A} {result : B} (head : Reads reader first value)
    (tail : Reads (next value) second result) :
    Reads (reader >>= next) (first ++ second) result := by
  intro rest
  change (reader ((first ++ second) ++ rest)).bind (fun pair => next pair.1 pair.2) = _
  rw [List.append_assoc, head]
  exact tail rest

/-- What follows may read nothing more. -/
theorem Reads.bind_nil {reader : Reader A} {next : A → Reader B} {written : List UInt8}
    {value : A} {result : B} (head : Reads reader written value)
    (tail : Reads (next value) [] result) : Reads (reader >>= next) written result := by
  have whole := head.bind tail
  rwa [List.append_nil] at whole

/-- Running a sequence past its first part. -/
theorem Reads.run {reader : Reader A} {next : A → Reader B} {written rest : List UInt8}
    {value : A} (head : Reads reader written value) :
    (reader >>= next) (written ++ rest) = next value rest := by
  change (reader (written ++ rest)).bind (fun pair => next pair.1 pair.2) = _
  rw [head]
  rfl

/-- Running a sequence on exactly the bytes of its first part. -/
theorem Reads.run_all {reader : Reader A} {next : A → Reader B} {written : List UInt8}
    {value : A} (head : Reads reader written value) :
    (reader >>= next) written = next value [] := by
  have whole : (reader >>= next) (written ++ []) = next value [] := head.run
  rwa [List.append_nil] at whole

/-- Running a sequence past a passed check. -/
theorem run_require {condition : Bool} {text : String} {next : Unit → Reader A}
    {input : List UInt8} (holds : condition = true) :
    (require condition text >>= next) input = next () input := by
  subst holds
  rfl

/-- Running a sequence past a look at the number of bytes left. -/
theorem run_remaining {next : Nat → Reader A} {input : List UInt8} :
    (remaining >>= next) input = next input.length input := rfl

/-- Reading a record chunk by chunk. -/
theorem Reads.step {reader : Reader A} {next : A → Reader B} {chunk : List UInt8}
    {chunks : List (List UInt8)} {value : A} {result : B} (head : Reads reader chunk value)
    (tail : Reads (next value) chunks.flatten result) :
    Reads (reader >>= next) (chunk :: chunks).flatten result :=
  head.bind tail

/-- The last chunk of a record. -/
theorem Reads.last {reader : Reader A} {chunk : List UInt8} {value : A}
    (read : Reads reader chunk value) : Reads reader [chunk].flatten value := by
  rw [List.flatten_cons, List.flatten_nil, List.append_nil]
  exact read

/-- A last step that reads nothing more. -/
theorem Reads.map {reader : Reader A} {finish : A → B} {written : List UInt8} {value : A}
    (head : Reads reader written value) :
    Reads (do let read ← reader; pure (finish read)) written (finish value) :=
  head.bind_nil (reads_pure (finish value))

theorem reads_require {condition : Bool} {text : String} (holds : condition = true) :
    Reads (require condition text) [] () := by
  intro rest
  simp [require, holds]

/-- A passed check reads nothing. -/
theorem Reads.after_require {condition : Bool} {text : String} {next : Unit → Reader A}
    {written : List UInt8} {value : A} (holds : condition = true)
    (tail : Reads (next ()) written value) :
    Reads (require condition text >>= next) written value :=
  (reads_require holds).bind tail

theorem reads_expect {found : Option A} {text : String} {value : A}
    (present : found = some value) : Reads (expect found text) [] value := by
  intro rest
  simp [expect, present]

theorem reads_bytes (written : List UInt8) : Reads (bytes written.length) written written := by
  intro rest
  simp [bytes]

theorem reads_word {width value : Nat} (fits : value < 256 ^ width) :
    Reads (word width) (littleEndian width value) value := by
  have read := reads_bytes (littleEndian width value)
  rw [littleEndian_length] at read
  have result : Reads (word width) (littleEndian width value)
      (ofLittleEndian (littleEndian width value)) := read.map
  rwa [ofLittleEndian_littleEndian fits] at result

theorem reads_u8 (value : UInt8) : Reads u8 [value] value := fun _ => rfl

theorem reads_u32 (value : UInt32) : Reads u32 (littleEndian 4 value.toNat) value := by
  have result : Reads u32 (littleEndian 4 value.toNat) (UInt32.ofNat value.toNat) :=
    (reads_word value.toNat_lt).map
  rwa [UInt32.ofNat_toNat] at result

theorem reads_u64 (value : UInt64) : Reads u64 (littleEndian 8 value.toNat) value := by
  have result : Reads u64 (littleEndian 8 value.toNat) (UInt64.ofNat value.toNat) :=
    (reads_word value.toNat_lt).map
  rwa [UInt64.ofNat_toNat] at result

theorem reads_many {item : Reader A} {write : A → List UInt8} {values : List A}
    (each : ∀ value ∈ values, Reads item (write value) value) :
    Reads (many values.length item) (values.flatMap write) values := by
  induction values with
  | nil => exact reads_pure []
  | cons head tail inductionHypothesis =>
      have first := each head (by simp)
      have others := inductionHypothesis fun value member => each value (by simp [member])
      rw [List.flatMap_cons, List.length_cons]
      exact first.bind others.map

/-- A loop reads the items in order when the state after every prefix of them is
known. -/
theorem reads_loop {S : Type} {body : S → Reader S} {write : A → List UInt8}
    (reached : List A → S) (before : List A) {values : List A}
    (each : ∀ earlier value later, values = earlier ++ value :: later →
      Reads (body (reached (before ++ earlier))) (write value)
        (reached (before ++ earlier ++ [value]))) :
    Reads (loop values.length body (reached before)) (values.flatMap write)
      (reached (before ++ values)) := by
  induction values generalizing before with
  | nil =>
      rw [List.append_nil]
      exact reads_pure _
  | cons head tail inductionHypothesis =>
      have first := each [] head tail rfl
      rw [List.append_nil] at first
      have others : Reads (loop tail.length body (reached (before ++ [head])))
          (tail.flatMap write) (reached (before ++ [head] ++ tail)) := by
        apply inductionHypothesis
        intro earlier value later split
        have moved := each (head :: earlier) value later (by rw [split]; rfl)
        simpa [List.append_assoc] using moved
      rw [List.append_assoc] at others
      rw [List.flatMap_cons, List.length_cons]
      exact first.bind others

/-! ## What a successful read has consumed -/

/-- A successful sequence is a successful first part and a successful second. -/
theorem bind_eq_ok {reader : Reader A} {next : A → Reader B} {input : List UInt8}
    {outcome : B × List UInt8} (returned : (reader >>= next) input = .ok outcome) :
    ∃ value middle, reader input = .ok (value, middle) ∧ next value middle = .ok outcome := by
  change (reader input).bind (fun pair => next pair.1 pair.2) = _ at returned
  cases first : reader input with
  | error text =>
      rw [first] at returned
      exact absurd returned (by simp [Except.bind])
  | ok pair =>
      rw [first] at returned
      exact ⟨pair.1, pair.2, rfl, returned⟩

theorem bytes_eq_ok {count : Nat} {input read rest : List UInt8} :
    bytes count input = .ok (read, rest) ↔ input = read ++ rest ∧ read.length = count := by
  unfold bytes
  split_ifs with short
  · simp only [false_iff, not_and]
    rintro rfl rfl
    rw [List.length_append] at short
    omega
  · rw [Except.ok.injEq, Prod.mk.injEq]
    constructor
    · rintro ⟨rfl, rfl⟩
      exact ⟨(List.take_append_drop count input).symm, List.length_take_of_le (by omega)⟩
    · rintro ⟨rfl, rfl⟩
      exact ⟨List.take_left' rfl, List.drop_left' rfl⟩

theorem u8_eq_ok {input rest : List UInt8} {byte : UInt8} :
    u8 input = .ok (byte, rest) ↔ input = byte :: rest := by
  cases input with
  | nil => simp [u8]
  | cons head tail => simp [u8]

private theorem word_eq_ok {width value : Nat} {input rest : List UInt8} :
    word width input = .ok (value, rest) ↔
      value < 256 ^ width ∧ input = littleEndian width value ++ rest := by
  constructor
  · intro returned
    obtain ⟨read, middle, first, last⟩ := bind_eq_ok returned
    obtain ⟨rfl, rfl⟩ := bytes_eq_ok.mp first
    obtain ⟨rfl, rfl⟩ := Prod.mk.inj (Except.ok.inj last)
    exact ⟨ofLittleEndian_lt read, by rw [littleEndian_ofLittleEndian]⟩
  · rintro ⟨fits, rfl⟩
    exact reads_word fits rest

theorem u32_eq_ok {input rest : List UInt8} {value : UInt32} :
    u32 input = .ok (value, rest) ↔ input = littleEndian 4 value.toNat ++ rest := by
  constructor
  · intro returned
    obtain ⟨read, middle, first, last⟩ := bind_eq_ok returned
    obtain ⟨fits, rfl⟩ := word_eq_ok.mp first
    obtain ⟨rfl, rfl⟩ := Prod.mk.inj (Except.ok.inj last)
    rw [UInt32.toNat_ofNat_of_lt' fits]
  · rintro rfl
    exact reads_u32 value rest

theorem u64_eq_ok {input rest : List UInt8} {value : UInt64} :
    u64 input = .ok (value, rest) ↔ input = littleEndian 8 value.toNat ++ rest := by
  constructor
  · intro returned
    obtain ⟨read, middle, first, last⟩ := bind_eq_ok returned
    obtain ⟨fits, rfl⟩ := word_eq_ok.mp first
    obtain ⟨rfl, rfl⟩ := Prod.mk.inj (Except.ok.inj last)
    rw [UInt64.toNat_ofNat_of_lt' fits]
  · rintro rfl
    exact reads_u64 value rest

theorem require_eq_ok {condition : Bool} {text : String} {input rest : List UInt8} :
    require condition text input = .ok ((), rest) ↔ condition = true ∧ input = rest := by
  cases condition <;> simp [require]

/-! ## Reading or failing -/

/-- From these bytes, whatever follows, the reader fails or returns that value
and leaves what follows. The bytes are few enough for a 32-bit count. -/
def Returns (reader : Reader A) (written : List UInt8) (value : A) : Prop :=
  written.length < 2 ^ 32 →
    ∀ rest outcome, reader (written ++ rest) = .ok outcome → outcome = (value, rest)

theorem Reads.returns {reader : Reader A} {written : List UInt8} {value : A}
    (read : Reads reader written value) : Returns reader written value := by
  intro _ rest outcome returned
  rw [read rest] at returned
  exact (Except.ok.inj returned).symm

theorem Returns.bind {reader : Reader A} {next : A → Reader B} {first second : List UInt8}
    {value : A} {result : B} (head : Returns reader first value)
    (tail : Returns (next value) second result) :
    Returns (reader >>= next) (first ++ second) result := by
  intro small rest outcome returned
  rw [List.length_append] at small
  rw [List.append_assoc] at returned
  obtain ⟨middle, left, readFirst, readSecond⟩ := bind_eq_ok returned
  obtain ⟨rfl, rfl⟩ := Prod.mk.inj (head (by omega) _ _ readFirst)
  exact tail (by omega) rest outcome readSecond

/-- What follows may read nothing more. -/
theorem Returns.bind_nil {reader : Reader A} {next : A → Reader B} {written : List UInt8}
    {value : A} {result : B} (head : Returns reader written value)
    (tail : Returns (next value) [] result) : Returns (reader >>= next) written result := by
  have whole := head.bind tail
  rwa [List.append_nil] at whole

theorem Returns.step {reader : Reader A} {next : A → Reader B} {chunk : List UInt8}
    {chunks : List (List UInt8)} {value : A} {result : B} (head : Returns reader chunk value)
    (tail : Returns (next value) chunks.flatten result) :
    Returns (reader >>= next) (chunk :: chunks).flatten result :=
  head.bind tail

theorem Returns.last {reader : Reader A} {chunk : List UInt8} {value : A}
    (read : Returns reader chunk value) : Returns reader [chunk].flatten value := by
  rw [List.flatten_cons, List.flatten_nil, List.append_nil]
  exact read

/-- A check either fails or holds from there on. -/
theorem Returns.after_require {condition : Bool} {text : String} {next : Unit → Reader A}
    {written : List UInt8} {value : A}
    (tail : condition = true → Returns (next ()) written value) :
    Returns (require condition text >>= next) written value := by
  cases holds : condition with
  | true => exact (reads_require rfl).returns.bind (tail holds)
  | false =>
      intro _ rest outcome returned
      obtain ⟨_, _, passed, -⟩ := bind_eq_ok returned
      exact absurd passed (by simp [require])

theorem returns_many {item : Reader A} {write : A → List UInt8} {values : List A}
    (each : ∀ value ∈ values, Returns item (write value) value) :
    Returns (many values.length item) (values.flatMap write) values := by
  induction values with
  | nil => exact (reads_pure []).returns
  | cons head tail inductionHypothesis =>
      have first := each head (by simp)
      have others := inductionHypothesis fun value member => each value (by simp [member])
      rw [List.flatMap_cons, List.length_cons]
      exact first.bind (others.bind_nil (reads_pure _).returns)

theorem returns_loop {S : Type} {body : S → Reader S} {write : A → List UInt8}
    (reached : List A → S) (before : List A) {values : List A}
    (each : ∀ earlier value later, values = earlier ++ value :: later →
      Returns (body (reached (before ++ earlier))) (write value)
        (reached (before ++ earlier ++ [value]))) :
    Returns (loop values.length body (reached before)) (values.flatMap write)
      (reached (before ++ values)) := by
  induction values generalizing before with
  | nil =>
      rw [List.append_nil]
      exact (reads_pure _).returns
  | cons head tail inductionHypothesis =>
      have first := each [] head tail rfl
      rw [List.append_nil] at first
      have others : Returns (loop tail.length body (reached (before ++ [head])))
          (tail.flatMap write) (reached (before ++ [head] ++ tail)) := by
        apply inductionHypothesis
        intro earlier value later split
        have moved := each (head :: earlier) value later (by rw [split]; rfl)
        simpa [List.append_assoc] using moved
      rw [List.append_assoc] at others
      rw [List.flatMap_cons, List.length_cons]
      exact first.bind others

/-! ## Postconditions -/

/-- Whatever the reader returns, from any input, has the property. -/
def Yields (reader : Reader A) (post : A → Prop) : Prop :=
  ∀ input value rest, reader input = .ok (value, rest) → post value

variable {reader : Reader A} {next : A → Reader B} {post : A → Prop} {final : B → Prop}

theorem yields_any (reader : Reader A) : Yields reader fun _ => True :=
  fun _ _ _ _ => trivial

theorem yields_pure {value : A} (holds : post value) : Yields (pure value) post := by
  intro input other rest returned
  obtain ⟨rfl, -⟩ := Prod.mk.inj (Except.ok.inj returned)
  exact holds

theorem Yields.mono {weaker : A → Prop} (yields : Yields reader post)
    (implies : ∀ value, post value → weaker value) : Yields reader weaker :=
  fun _ _ _ returned => implies _ (yields _ _ _ returned)

theorem Yields.bind (head : Yields reader post)
    (tail : ∀ value, post value → Yields (next value) final) :
    Yields (reader >>= next) final := by
  intro input value rest returned
  obtain ⟨middle, left, first, second⟩ := bind_eq_ok returned
  exact tail middle (head _ _ _ first) _ _ _ second

/-- A part whose result does not matter. -/
theorem Yields.after (tail : ∀ value, Yields (next value) final) :
    Yields (reader >>= next) final :=
  (yields_any reader).bind fun value _ => tail value

theorem yields_require {condition : Bool} {text : String} :
    Yields (require condition text) fun _ => condition = true := by
  intro input value rest returned
  unfold require at returned
  split at returned
  · assumption
  · exact absurd returned (by simp)

/-- A passed check holds from there on. -/
theorem Yields.after_require {condition : Bool} {text : String} {next : Unit → Reader B}
    (tail : condition = true → Yields (next ()) final) :
    Yields (require condition text >>= next) final :=
  yields_require.bind fun _ holds => tail holds

theorem yields_bytes (count : Nat) : Yields (bytes count) fun read => read.length = count := by
  intro input value rest returned
  unfold bytes at returned
  split at returned
  · exact absurd returned (by simp)
  · next enough =>
    obtain ⟨rfl, -⟩ := Prod.mk.inj (Except.ok.inj returned)
    rw [List.length_take]
    omega

theorem yields_many {item : Reader A} (each : Yields item post) (count : Nat) :
    Yields (many count item) fun values =>
      values.length = count ∧ ∀ value ∈ values, post value := by
  induction count with
  | zero => exact yields_pure ⟨rfl, by simp⟩
  | succ count inductionHypothesis =>
      refine each.bind fun head first => inductionHypothesis.bind fun tail others => ?_
      refine yields_pure ⟨by rw [List.length_cons, others.1], ?_⟩
      intro value member
      rcases List.mem_cons.mp member with rfl | later
      · exact first
      · exact others.2 value later

theorem yields_loop {S : Type} {inv : S → Prop} {body : S → Reader S}
    (kept : ∀ state, inv state → Yields (body state) inv) (count : Nat) :
    ∀ state, inv state → Yields (loop count body state) inv := by
  induction count with
  | zero => exact fun state holds => yields_pure holds
  | succ count inductionHypothesis =>
      exact fun state holds => (kept state holds).bind inductionHypothesis

end Reader

end Foundation
