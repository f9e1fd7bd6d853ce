import Mathlib.Data.Rat.Floor

/-! # Rounding to binary digits

To the nearest, and half way to the even one.
-/

namespace Rounding
set_option autoImplicit false

/-- Of a number that is not negative. -/
def nearestEven (q : Rat) : Nat :=
  let below := q.floor.toNat
  let rest := q - below
  if rest < 1 / 2 then below
  else if 1 / 2 < rest then below + 1
  else below + below % 2

/-- The exponent of the greatest power of two that a positive number reaches. -/
def leadingBit (q : Rat) : Int :=
  let log : Int := (Nat.log2 q.num.toNat : Int) - Nat.log2 q.den
  if q < (2 : Rat) ^ log then log - 1 else log

/-- The number with so many binary digits that is nearest to a positive one. -/
def toDigits (digits : Nat) (q : Rat) : Rat :=
  let unit := (2 : Rat) ^ (leadingBit q + 1 - digits)
  nearestEven (q / unit) * unit

end Rounding
