import VsomeipDart.Lib.Rounding
import VsomeipDart.SignalFilter

/-! # Samples with exact arithmetic

A sample is a rational number or NaN, and the operations do not round. On samples whose sums and products
are binary32 numbers this is the arithmetic of a C++ `float`; the two infinities and NaN are one value.
-/

namespace VsomeipDart
set_option autoImplicit false

inductive ExactSample where
  | nan
  | finite (q : Rat)
  deriving DecidableEq, Repr

namespace ExactSample

def ofBits (bits : UInt32) : ExactSample :=
  let exponent : Nat := bits.toNat / 2 ^ 23 % 2 ^ 8
  let fraction : Nat := bits.toNat % 2 ^ 23
  let sign : Rat := if bits.toNat / 2 ^ 31 = 1 then -1 else 1
  if exponent = 255 then nan
  else if exponent = 0 then finite (sign * (fraction / 2 ^ 149 : Rat))
  else finite (sign * ((2 ^ 23 + fraction) * 2 ^ exponent / 2 ^ 150 : Rat))

/-- The bit pattern of the binary32 number next below in size, which is the number itself if it is one. -/
def toBits : ExactSample → UInt32
  | nan => 0x7fc00000
  | finite 0 => 0
  | finite q =>
    let size := |q|
    let sign := if q < 0 then 2 ^ 31 else 0
    -- the exponent field, from the position of the leading bit
    let exponent := (Rounding.leadingBit size + 127).toNat
    let fraction : Nat :=
      if exponent = 0 then (size * 2 ^ 149).floor.toNat
      else (size * 2 ^ 150 / 2 ^ exponent).floor.toNat - 2 ^ 23
    if exponent < 255 then UInt32.ofNat (sign + exponent * 2 ^ 23 + fraction)
    else UInt32.ofNat (sign + 255 * 2 ^ 23)

def map₂ (op : Rat → Rat → Rat) : ExactSample → ExactSample → ExactSample
  | finite a, finite b => finite (op a b)
  | _, _ => nan

def test (rel : Rat → Rat → Bool) : ExactSample → ExactSample → Bool
  | finite a, finite b => rel a b
  | _, _ => false

instance : FloatOps ExactSample where
  ofBits := ofBits
  toBits := toBits
  literal := finite
  add := map₂ (· + ·)
  sub := map₂ (· - ·)
  mul := map₂ (· * ·)
  div
    | finite a, finite b => if b = 0 then nan else finite (a / b)
    | _, _ => nan
  lt := test fun a b => a < b
  le := test fun a b => a ≤ b
  toUInt16
    | finite q => UInt16.ofNat q.floor.toNat
    | nan => 0

example : ofBits 0x40400000 = finite 3 := by decide +kernel

example : toBits (finite (-5 / 4)) = 0xbfa00000 := by decide +kernel

end ExactSample

end VsomeipDart
