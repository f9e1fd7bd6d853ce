import VsomeipDart.Lib.Rounding
import VsomeipDart.Message

/-! # The per-signal rate limiter (`throttle.dart`)

A `double` is `nan`, an infinity or a finite value. The clock is a parameter: every call takes its reading.
-/

namespace VsomeipDart
set_option autoImplicit false

inductive Double where
  | nan
  | infinity (negative : Bool)
  | finite (value : Rat)
  deriving DecidableEq, Repr

namespace Double

def isPositive : Double → Bool
  | nan => false
  | infinity negative => !negative
  | finite value => 0 < value

/-- The values from here on round to infinity: half a step above the greatest double. -/
def overflowBound : Rat := 2 ^ 1024 - 2 ^ 970

/-- `1000000 / d` for a positive `d`. A quotient that no double holds is an infinity; the others are never so
small that they have fewer than 53 digits. -/
def divideMillion : Double → Double
  | nan => nan
  | infinity _ => finite 0
  | finite value =>
    if 1000000 / value < overflowBound then finite (Rounding.toDigits 53 (1000000 / value)) else infinity false

/-- `d.round()`: halves away from zero, clamped to a 64-bit `int`. -/
def round : Double → Except DartError Int
  | nan => .error .unsupportedError
  | infinity _ => .error .unsupportedError
  | finite value =>
    let nearest := if 0 ≤ value then (value + 1 / 2).floor else -(-value + 1 / 2).floor
    .ok (max (-2 ^ 63) (min nearest (2 ^ 63 - 1)))

end Double

structure SignalThrottle where
  maxHz : Double
  intervalUs : Int
  lastForwardUs : Option Int
  deriving DecidableEq, Repr

namespace SignalThrottle

def create (maxHz : Double) : Except DartError SignalThrottle := do
  let intervalUs ← if maxHz.isPositive then maxHz.divideMillion.round else .ok 0
  return { maxHz, intervalUs, lastForwardUs := none }

def shouldForward (now : Int) (throttle : SignalThrottle) : Bool × SignalThrottle :=
  if throttle.intervalUs == 0 then (true, throttle)
  else
    match throttle.lastForwardUs with
    | none => (true, { throttle with lastForwardUs := some now })
    | some last =>
      if now - last ≥ throttle.intervalUs then (true, { throttle with lastForwardUs := some now })
      else (false, throttle)

theorem shouldForward_intervalUs (now : Int) (throttle : SignalThrottle) :
    (throttle.shouldForward now).2.intervalUs = throttle.intervalUs := by
  unfold shouldForward
  split
  · rfl
  · split
    · rfl
    · split <;> rfl

theorem shouldForward_unlimited {throttle : SignalThrottle} (h : throttle.intervalUs = 0)
    (now : Int) : throttle.shouldForward now = (true, throttle) := by
  simp [shouldForward, h]

theorem intervalUs_of_create {maxHz : Double} {throttle : SignalThrottle}
    (h : create maxHz = .ok throttle) (hRate : ¬ maxHz.isPositive) : throttle.intervalUs = 0 := by
  rw [create, if_neg hRate] at h
  cases h
  rfl

-- at 25.6 Hz the quotient is a little less than 39062.5, and its double is not
example : (create (.finite (0x1999999999999a / 2 ^ 48))).map intervalUs = .ok 39063 := by decide +kernel

/-- The constructor throws exactly when the interval overflows. -/
theorem create_isOk_iff (maxHz : Double) : (∃ throttle, create maxHz = .ok throttle) ↔
    ∀ value, maxHz = .finite value → 0 < value → 1000000 / value < Double.overflowBound := by
  cases maxHz with
  | nan => exact iff_of_true ⟨_, rfl⟩ (by simp)
  | infinity negative => cases negative <;> exact iff_of_true ⟨_, rfl⟩ (by simp)
  | finite value =>
    simp only [Double.finite.injEq, forall_eq']
    by_cases hPositive : 0 < value
    · by_cases hFits : 1000000 / value < Double.overflowBound
      · exact iff_of_true ⟨_, by
          simp only [create, Double.isPositive, hPositive, decide_true, if_true,
            Double.divideMillion, hFits, Double.round]
          rfl⟩ fun _ => hFits
      · refine iff_of_false ?_ fun h => hFits (h hPositive)
        rintro ⟨throttle, hCreate⟩
        simp only [create, Double.isPositive, hPositive, decide_true, if_true,
          Double.divideMillion, if_neg hFits, Double.round] at hCreate
        cases hCreate
    · exact iff_of_true ⟨_, by
        rw [create, if_neg (by simpa [Double.isPositive] using hPositive)]
        rfl⟩ fun h => absurd h hPositive

end SignalThrottle

end VsomeipDart
