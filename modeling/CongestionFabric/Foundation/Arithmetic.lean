import Mathlib.Algebra.Order.Ring.Nat

/-!
Contract: the arithmetic of a C++ `double`, and its binary64 bit patterns.

Owns:
- the operations a program applies to a floating-point type, so that code can be
  read at binary64 or at another number system;
- the standard-library helpers `min`, `max` and `clamp` with their exact
  argument order and behaviour on unordered values;
- binary64 values as 64-bit patterns, with every operation taken from Lean's
  model of the format. A pattern keeps its NaN payload; a computed NaN is the
  canonical one.

Does not own: laws of rounding.
-/

namespace Foundation

/-- The operations of a floating-point type that a program uses. No law is
assumed. -/
class Arithmetic (R : Type) extends
    OfScientific R, Add R, Sub R, Mul R, Div R, Neg R, LT R, LE R where
  decidableLt : DecidableLT R
  decidableLe : DecidableLE R
  /-- Neither infinite nor NaN. -/
  isFinite : R → Bool
  /-- Conversion of an unsigned 64-bit integer. -/
  ofUInt64 : UInt64 → R
  /-- Positive infinity. -/
  infinity : R
  /-- The largest finite value. -/
  largest : R

namespace Arithmetic

variable {R : Type} [Arithmetic R]

instance (left right : R) : Decidable (left < right) := decidableLt left right

instance (left right : R) : Decidable (left ≤ right) := decidableLe left right

/-- `std::min`: the second argument only when it is smaller. -/
def stdMin (left right : R) : R := if right < left then right else left

/-- `std::max`: the second argument only when the first is smaller. -/
def stdMax (left right : R) : R := if left < right then right else left

/-- `std::clamp`. -/
def clamp (value low high : R) : R :=
  if value < low then low else if high < value then high else value

end Arithmetic

/-- A binary64 value as its 64-bit pattern. -/
structure Binary64 where
  bits : UInt64
deriving DecidableEq, Repr

namespace Binary64

open Float.Model

/-- The number a pattern denotes. -/
def unpack (value : Binary64) : UnpackedFloat :=
  UnpackedFloat.unpack Format.binary64 value.bits.toBitVec

/-- The pattern of a rounded number. -/
def pack (number : UnpackedFloat) : Binary64 :=
  ⟨UInt64.ofBitVec (UnpackedFloat.pack Format.binary64 number)⟩

instance : Arithmetic Binary64 where
  ofScientific mantissa negative exponent :=
    pack (UnpackedFloat.ofScientific Format.binary64 mantissa
      (if negative then -(exponent : Int) else exponent))
  add left right := pack (UnpackedFloat.add Format.binary64 left.unpack right.unpack)
  sub left right := pack (UnpackedFloat.sub Format.binary64 left.unpack right.unpack)
  mul left right := pack (UnpackedFloat.mul Format.binary64 left.unpack right.unpack)
  div left right := pack (UnpackedFloat.div Format.binary64 left.unpack right.unpack)
  neg value := pack value.unpack.neg
  lt left right := left.unpack.lt right.unpack = true
  le left right := left.unpack.le right.unpack = true
  decidableLt left right := inferInstanceAs (Decidable (left.unpack.lt right.unpack = true))
  decidableLe left right := inferInstanceAs (Decidable (left.unpack.le right.unpack = true))
  isFinite value := value.unpack.isFinite
  ofUInt64 value := pack (UnpackedFloat.ofUInt64 Format.binary64 value)
  infinity := pack (.infinity .positive)
  largest := ⟨0x7FEFFFFFFFFFFFFF⟩

example : (1.0 : Binary64).bits = 0x3FF0000000000000 := by decide

end Binary64

end Foundation
