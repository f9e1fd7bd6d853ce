import VsomeipDart.Lib.Spacing
import VsomeipDart.Throttle

/-! # What a throttle forwards (`throttle.dart`)

The messages of one signal are given by the clock readings at which `shouldForward` is called.
-/

namespace VsomeipDart
set_option autoImplicit false

open Spacing

namespace SignalThrottle

def forwarded : SignalThrottle → List Int → List Int
  | _, [] => []
  | throttle, now :: rest =>
    let (forward, throttle) := throttle.shouldForward now
    if forward then now :: forwarded throttle rest else forwarded throttle rest

theorem forwarded_eq_greedy {throttle : SignalThrottle} (hInterval : throttle.intervalUs ≠ 0)
    (readings : List Int) :
    throttle.forwarded readings = greedy throttle.intervalUs throttle.lastForwardUs readings := by
  induction readings generalizing throttle with
  | nil => rw [forwarded, greedy]
  | cons now rest ih =>
    have hIh := @ih { throttle with lastForwardUs := some now } hInterval
    rw [forwarded, shouldForward, if_neg (by simpa using hInterval)]
    cases hLast : throttle.lastForwardUs with
    | none => simp only [if_true, hIh, greedy]
    | some last =>
      rw [greedy]
      by_cases hFar : throttle.intervalUs ≤ now - last
      · simp only [ge_iff_le, if_pos hFar, if_true, hIh]
      · simp only [ge_iff_le, if_neg hFar, Bool.false_eq_true, if_false, ih hInterval, hLast]

theorem lastForwardUs_of_create {maxHz : Double} {throttle : SignalThrottle}
    (h : create maxHz = .ok throttle) : throttle.lastForwardUs = none := by
  rw [create] at h
  split at h
  · cases hRound : maxHz.divideMillion.round with
    | error e =>
      rw [hRound] at h
      cases h
    | ok intervalUs =>
      rw [hRound] at h
      cases h
      rfl
  · cases h
    rfl

/-- In a window of `length` microseconds there is room for `length / interval + 1` readings. -/
theorem count_window_le {interval : Int} (hInterval : 0 < interval) {chosen : List Int}
    (hSpaced : Spaced interval chosen) (start length : Int) (hLength : 0 ≤ length) :
    (chosen.countP fun now => start ≤ now ∧ now ≤ start + length : Int) ≤ length / interval + 1 := by
  rw [List.countP_eq_length_filter]
  have hInside : ∀ now ∈ chosen.filter fun now => start ≤ now ∧ now ≤ start + length,
      start ≤ now ∧ now ≤ start + length := by
    intro now hMem
    exact of_decide_eq_true (List.mem_filter.mp hMem).2
  have hKept : Spaced interval (chosen.filter fun now => start ≤ now ∧ now ≤ start + length) :=
    List.Pairwise.filter _ hSpaced
  generalize chosen.filter (fun now => start ≤ now ∧ now ≤ start + length) = kept at hInside hKept
  cases kept with
  | nil =>
    have hQuotient := Int.ediv_nonneg hLength hInterval.le
    simp only [List.length_nil, Nat.cast_zero]
    omega
  | cons first kept =>
    have hRoom := length_nsmul_le hKept (hInside first List.mem_cons_self).1
      fun now hMem => (hInside now hMem).2
    have hQuotient : (kept.length : Int) ≤ length / interval := by
      rw [Int.le_ediv_iff_mul_le hInterval, ← nsmul_eq_mul]
      omega
    rw [List.length_cons, Nat.cast_succ]
    omega

end SignalThrottle

end VsomeipDart
