import VsomeipDart.Lib.PartialRank
import VsomeipDart.Lib.Rounding
import VsomeipDart.SignalFilter

/-! # The `float` of the filters

IEEE 754 binary32 by bit patterns, rounding to nearest with ties to even. The pattern of a NaN result is
the quiet NaN.
-/

namespace VsomeipDart
set_option autoImplicit false

structure Binary32 where
  bits : UInt32
  deriving DecidableEq, Repr

namespace Binary32

def negative (v : Binary32) : Bool := 0x80000000 ≤ v.bits.toNat

/-- The bits below the sign: they order the values of one sign. -/
def magnitude (v : Binary32) : Nat := v.bits.toNat % 0x80000000

def isNaN (v : Binary32) : Bool := 0x7f800000 < v.magnitude

def isInfinite (v : Binary32) : Bool := v.magnitude == 0x7f800000

def isZero (v : Binary32) : Bool := v.magnitude == 0

/-- The two zeros have the same order, and a NaN has none. -/
def order (v : Binary32) : Option Int :=
  if v.isNaN then none else some (if v.negative then -v.magnitude else v.magnitude)

/-- The value of a pattern that is neither an infinity nor a NaN. -/
def value (v : Binary32) : Rat :=
  let exponent := v.magnitude / 0x800000
  let fraction := v.magnitude % 0x800000
  let size : Rat :=
    if exponent = 0 then (fraction : Rat) / 2 ^ 149
    else (0x800000 + fraction : Rat) * 2 ^ exponent / 2 ^ 150
  if v.negative then -size else size

def ofFields (negative : Bool) (magnitude : Nat) : Binary32 :=
  ⟨UInt32.ofNat ((if negative then 0x80000000 else 0) + magnitude)⟩

def nan : Binary32 := ofFields false 0x7fc00000

def infinity (negative : Bool) : Binary32 := ofFields negative 0x7f800000

def zero (negative : Bool) : Binary32 := ofFields negative 0

/-- The pattern nearest to a rational number that is not zero. -/
def round (q : Rat) : Binary32 :=
  let size := |q|
  let exponent := max (Rounding.leadingBit size) (-126)
  -- a significand that rounds up to the next power of two carries into the exponent
  let significand := Rounding.nearestEven (size / (2 : Rat) ^ (exponent - 23))
  ofFields (q < 0) (min ((exponent + 126).toNat * 0x800000 + significand) 0x7f800000)

def ofRat (q : Rat) : Binary32 := if q = 0 then zero false else round q

def neg (a : Binary32) : Binary32 := ofFields (!a.negative) a.magnitude

def add (a b : Binary32) : Binary32 :=
  if a.isNaN || b.isNaN then nan
  else if a.isInfinite then
    if b.isInfinite && a.negative != b.negative then nan else a
  else if b.isInfinite then b
  else if a.isZero && b.isZero then zero (a.negative && b.negative)
  else ofRat (a.value + b.value)

def mul (a b : Binary32) : Binary32 :=
  let negative := a.negative != b.negative
  if a.isNaN || b.isNaN then nan
  else if a.isInfinite || b.isInfinite then
    if a.isZero || b.isZero then nan else infinity negative
  else if a.isZero || b.isZero then zero negative
  else
    -- the sign is that of the factors even where the product rounds to zero
    ofFields negative (round (a.value * b.value)).magnitude

def div (a b : Binary32) : Binary32 :=
  let negative := a.negative != b.negative
  if a.isNaN || b.isNaN then nan
  else if a.isInfinite then
    if b.isInfinite then nan else infinity negative
  else if b.isInfinite then zero negative
  else if b.isZero then
    if a.isZero then nan else infinity negative
  else if a.isZero then zero negative
  else ofFields negative (round (a.value / b.value)).magnitude

def lt : Binary32 → Binary32 → Bool := PartialRank.lt order

def le (a b : Binary32) : Bool := !a.isNaN && !b.isNaN && !lt b a

instance : FloatOps Binary32 where
  ofBits := mk
  toBits := bits
  literal := ofRat
  add := add
  sub a b := add a (neg b)
  mul := mul
  div := div
  lt := lt
  le := le
  -- only taken of values that a `uint16_t` can hold
  toUInt16 v := UInt16.ofNat v.value.floor.toNat

theorem order_eq_none_iff (v : Binary32) : v.order = none ↔ v.isNaN = true := by
  rw [order]
  split <;> simp [*]

-- 3, 0.1, and 1 + 2^-24, a tie that goes to the even significand
example : ofRat 3 = ⟨0x40400000⟩ ∧ ofRat (1 / 10) = ⟨0x3dcccccd⟩ ∧
    add ⟨0x3f800000⟩ ⟨0x33800000⟩ = ⟨0x3f800000⟩ := by decide +kernel

end Binary32

end VsomeipDart
