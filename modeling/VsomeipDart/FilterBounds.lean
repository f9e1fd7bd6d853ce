import Mathlib.Algebra.Order.Field.Basic
import Mathlib.Tactic.Linarith
import VsomeipDart.ExactSample
import VsomeipDart.MedianWindow

/-! # Outputs between the samples (`signal_filter.cpp`)

With exact arithmetic a filter on finite samples stays between the least and the greatest of them. The
exponential average and the low-pass share one recurrence, a median gives back one of its samples.
-/

namespace VsomeipDart
set_option autoImplicit false

open FloatOps

structure Smoother (F : Type) where
  alpha : F
  y : F
  initialized : Bool

section Feed

variable {F : Type} [FloatOps F]

def Smoother.next (s : Smoother F) (input : F) : F :=
  if !s.initialized then input
  else add (mul s.alpha input) (mul (sub (literal 1) s.alpha) s.y)

def Smoother.feed (s : Smoother F) (input : F) : Smoother F :=
  { s with y := s.next input, initialized := true }

namespace SignalFilter

def smoother : SignalFilter F → Option (Smoother F)
  | ema filter => some ⟨filter.alpha, filter.y, filter.initialized⟩
  | lowpass1 filter => some ⟨filter.alpha, filter.y, filter.initialized⟩
  | _ => none

def feed (filter : SignalFilter F) (samples : List F) : SignalFilter F :=
  samples.foldl (fun filter v => (filter.apply v).2) filter

theorem feed_append (filter : SignalFilter F) (left right : List F) :
    filter.feed (left ++ right) = (filter.feed left).feed right :=
  List.foldl_append

theorem smoother_apply (filter : SignalFilter F) (input : F) :
    (filter.apply input).2.smoother = filter.smoother.map fun s => s.feed input := by
  cases filter with
  | passthrough => rfl
  | median => rfl
  | ema filter =>
    rcases filter with ⟨alpha, y, initialized⟩
    cases initialized <;> rfl
  | lowpass1 filter =>
    rcases filter with ⟨alpha, y, initialized⟩
    cases initialized <;> rfl

theorem apply_output {filter : SignalFilter F} {s : Smoother F} (h : filter.smoother = some s)
    (input : F) : (filter.apply input).1 = s.next input := by
  cases filter with
  | passthrough => cases h
  | median => cases h
  | ema filter =>
    rcases filter with ⟨alpha, y, initialized⟩
    cases h
    cases initialized <;> rfl
  | lowpass1 filter =>
    rcases filter with ⟨alpha, y, initialized⟩
    cases h
    cases initialized <;> rfl

/-- A median filter holds the last of these samples. -/
def Windowed (filter : SignalFilter F) (samples : List F) : Prop :=
  ∀ m, filter = median m → m.recent = samples.rtake m.windowSize

theorem windowed_create (type : FilterType) (param sampleHz : F) :
    (createFilter type param sampleHz).Windowed [] := by
  intro m hMedian
  cases type with
  | median =>
    cases hMedian
    exact (List.rtake_nil _).symm
  | _ => cases hMedian

theorem Windowed.apply {filter : SignalFilter F} {samples : List F} (h : filter.Windowed samples)
    (v : F) : (filter.apply v).2.Windowed (samples ++ [v]) := by
  intro m' hMedian
  cases filter with
  | median m =>
    have hSame : (m.apply v).2 = m' := SignalFilter.median.inj hMedian
    rw [← hSame, m.recent_apply, (m.apply_state v).1, h m rfl, rtake_rtake_append]
  | _ => cases hMedian

end SignalFilter

end Feed

/-- Between the least and the greatest element of the list. -/
def Within (fed : List Rat) (q : Rat) : Prop := (∃ low ∈ fed, low ≤ q) ∧ ∃ high ∈ fed, q ≤ high

theorem Within.of_mem {fed : List Rat} {q : Rat} (h : q ∈ fed) : Within fed q :=
  ⟨⟨q, h, le_rfl⟩, q, h, le_rfl⟩

theorem Within.mono {fed fed' : List Rat} {q : Rat} (h : Within fed q) (hSub : fed ⊆ fed') :
    Within fed' q :=
  ⟨h.1.imp fun _ h => ⟨hSub h.1, h.2⟩, h.2.imp fun _ h => ⟨hSub h.1, h.2⟩⟩

/-- A weighted mean lies between its two values. -/
theorem Within.mix {fed : List Rat} {x y a : Rat} (hx : Within fed x) (hy : Within fed y)
    (hPos : 0 ≤ a) (hOne : a ≤ 1) : Within fed (a * x + (1 - a) * y) := by
  have hRest : 0 ≤ 1 - a := sub_nonneg.mpr hOne
  rcases le_total x y with hxy | hyx
  · have hAbove : 0 ≤ (1 - a) * (y - x) := mul_nonneg hRest (sub_nonneg.mpr hxy)
    have hBelow : 0 ≤ a * (y - x) := mul_nonneg hPos (sub_nonneg.mpr hxy)
    obtain ⟨low, hLow, hle⟩ := hx.1
    obtain ⟨high, hHigh, hge⟩ := hy.2
    exact ⟨⟨low, hLow, by linarith⟩, high, hHigh, by linarith⟩
  · have hAbove : 0 ≤ (1 - a) * (x - y) := mul_nonneg hRest (sub_nonneg.mpr hyx)
    have hBelow : 0 ≤ a * (x - y) := mul_nonneg hPos (sub_nonneg.mpr hyx)
    obtain ⟨low, hLow, hle⟩ := hy.1
    obtain ⟨high, hHigh, hge⟩ := hx.2
    exact ⟨⟨low, hLow, by linarith⟩, high, hHigh, by linarith⟩

namespace ExactSample

theorem lt_zero_finite (q : Rat) : lt (literal 0) (finite q) = decide (0 < q) := rfl

theorem div_finite {a b : Rat} (h : b ≠ 0) : div (finite a) (finite b) = finite (a / b) := if_neg h

theorem clamp_pos (param : ExactSample) {fallback : Rat} (h : 0 < fallback) :
    ∃ q : Rat, (if !lt (literal 0) param then literal fallback else param) = finite q ∧ 0 < q := by
  cases param with
  | nan => exact ⟨fallback, rfl, h⟩
  | finite q =>
    rw [lt_zero_finite]
    by_cases hPos : 0 < q
    · exact ⟨q, by simp [hPos], hPos⟩
    · exact ⟨fallback, by simp [hPos, literal], h⟩

theorem ema_alpha (param : ExactSample) :
    ∃ a : Rat, (EmaFilter.create param).alpha = finite a ∧ 0 < a ∧ a ≤ 1 := by
  cases param with
  | nan => exact ⟨0.001, rfl, by norm_num, by norm_num⟩
  | finite q =>
    have hLe : le (finite q) (literal 1) = decide (q ≤ 1) := rfl
    have hLt : lt (literal 1) (finite q) = decide (1 < q) := rfl
    rw [EmaFilter.create]
    simp only [lt_zero_finite, hLe, hLt]
    by_cases hPos : 0 < q
    · by_cases hOne : q ≤ 1
      · exact ⟨q, by simp [hPos, hOne], hPos, hOne⟩
      · exact ⟨1, by simp [hOne, not_le.mp hOne, literal], one_pos, le_rfl⟩
    · have hSmall : ¬ 1 < q := by linarith
      exact ⟨0.001, by simp [hPos, hSmall, literal], by norm_num, by norm_num⟩

theorem lowpass1_alpha (cutoffHz sampleHz : ExactSample) :
    ∃ a : Rat, (Lowpass1Filter.create cutoffHz sampleHz).alpha = finite a ∧ 0 < a ∧ a ≤ 1 := by
  obtain ⟨cutoff, hCutoff, hCutoffPos⟩ := clamp_pos cutoffHz (show (0 : Rat) < 0.001 by norm_num)
  obtain ⟨sample, hSample, hSamplePos⟩ := clamp_pos sampleHz one_pos
  have hTurn : 0 < 6.28318530718 * cutoff := mul_pos (by norm_num) hCutoffPos
  have hRc : 0 < 1 / (6.28318530718 * cutoff) := one_div_pos.mpr hTurn
  have hDt : 0 < 1 / sample := one_div_pos.mpr hSamplePos
  have hSum := add_pos hRc hDt
  refine ⟨1 / sample / (1 / (6.28318530718 * cutoff) + 1 / sample), ?_, div_pos hDt hSum,
    (div_le_one hSum).mpr (le_add_of_nonneg_left hRc.le)⟩
  have hMul : mul (Lowpass1Filter.kTwoPi : ExactSample) (finite cutoff) =
      finite (6.28318530718 * cutoff) := rfl
  have hAdd : add (finite (1 / (6.28318530718 * cutoff))) (finite (1 / sample)) =
      finite (1 / (6.28318530718 * cutoff) + 1 / sample) := rfl
  have hOne : (literal 1 : ExactSample) = finite 1 := rfl
  rw [Lowpass1Filter.create]
  dsimp only
  rw [hCutoff, hSample, hMul, hOne, div_finite hTurn.ne', div_finite hSamplePos.ne', hAdd,
    div_finite hSum.ne']

theorem next_finite {s : Smoother ExactSample} {a y : Rat} (hAlpha : s.alpha = finite a)
    (hInit : s.initialized = true) (hY : s.y = finite y) (x : Rat) :
    s.next (finite x) = finite (a * x + (1 - a) * y) := by
  rw [Smoother.next, hInit, hAlpha, hY]
  rfl

theorem next_first {s : Smoother ExactSample} (hInit : s.initialized = false) (v : ExactSample) :
    s.next v = v := by
  rw [Smoother.next, hInit]
  rfl

end ExactSample

open ExactSample

/-- A recursive filter that was fed these samples. -/
structure Smoother.Bounded (s : Smoother ExactSample) (fed : List Rat) : Prop where
  alpha : ∃ a : Rat, s.alpha = finite a ∧ 0 < a ∧ a ≤ 1
  fresh : fed = [] → s.initialized = false
  within : fed ≠ [] → s.initialized = true ∧ ∃ y, s.y = finite y ∧ Within fed y

theorem Smoother.Bounded.feed {s : Smoother ExactSample} {fed : List Rat} (h : s.Bounded fed)
    (x : Rat) : ∃ q, s.next (finite x) = finite q ∧ Within (fed ++ [x]) q ∧ (fed = [] → q = x) ∧
      (s.feed (finite x)).Bounded (fed ++ [x]) := by
  have hLast : x ∈ fed ++ [x] := List.mem_append_right fed List.mem_cons_self
  obtain ⟨q, hNext, hWithin, hFirst⟩ : ∃ q, s.next (finite x) = finite q ∧ Within (fed ++ [x]) q ∧
      (fed = [] → q = x) := by
    rcases eq_or_ne fed [] with hEmpty | hFed
    · exact ⟨x, next_first (h.fresh hEmpty) _, .of_mem hLast, fun _ => rfl⟩
    · obtain ⟨a, hAlpha, hPos, hOne⟩ := h.alpha
      obtain ⟨hInit, y, hY, hOld⟩ := h.within hFed
      exact ⟨a * x + (1 - a) * y, next_finite hAlpha hInit hY x,
        (Within.of_mem hLast).mix (hOld.mono (List.subset_append_left fed [x])) hPos.le hOne,
        fun hEmpty => absurd hEmpty hFed⟩
  refine ⟨q, hNext, hWithin, hFirst, h.alpha, fun hEmpty => ?_, fun _ => ⟨rfl, q, hNext, hWithin⟩⟩
  exact absurd hEmpty (List.append_ne_nil_of_right_ne_nil fed (List.cons_ne_nil x []))

namespace SignalFilter

structure Bounded (filter : SignalFilter ExactSample) (fed : List Rat) : Prop where
  recursive : ∀ s, filter.smoother = some s → s.Bounded fed
  windowed : filter.Windowed (fed.map finite)

theorem bounded_create (type : FilterType) (param sampleHz : ExactSample) :
    (createFilter type param sampleHz).Bounded [] := by
  refine ⟨fun s hSmoother => ?_, windowed_create type param sampleHz⟩
  cases type with
  | ema =>
    cases hSmoother
    exact ⟨ema_alpha param, fun _ => rfl, fun h => absurd rfl h⟩
  | lowpass1 =>
    cases hSmoother
    exact ⟨lowpass1_alpha param sampleHz, fun _ => rfl, fun h => absurd rfl h⟩
  | _ => cases hSmoother

section Apply

variable {filter : SignalFilter ExactSample} {fed : List Rat} (h : filter.Bounded fed)

include h

theorem Bounded.apply (x : Rat) : (filter.apply (finite x)).2.Bounded (fed ++ [x]) := by
  refine ⟨fun s' hSmoother => ?_, ?_⟩
  · rw [smoother_apply] at hSmoother
    obtain ⟨s, hOld, rfl⟩ := Option.map_eq_some_iff.mp hSmoother
    obtain ⟨q, -, -, -, hFed⟩ := (h.recursive s hOld).feed x
    exact hFed
  · rw [List.map_append]
    exact h.windowed.apply (finite x)

theorem Bounded.output (x : Rat) : ∃ q, (filter.apply (finite x)).1 = finite q ∧
    Within (fed ++ [x]) q ∧ (fed = [] → q = x) := by
  cases hSmoother : filter.smoother with
  | some s =>
    obtain ⟨q, hNext, hWithin, hFirst, -⟩ := (h.recursive s hSmoother).feed x
    exact ⟨q, (apply_output hSmoother _).trans hNext, hWithin, hFirst⟩
  | none =>
    cases filter with
    | ema => cases hSmoother
    | lowpass1 => cases hSmoother
    | passthrough =>
      exact ⟨x, rfl, .of_mem (List.mem_append_right fed List.mem_cons_self), fun _ => rfl⟩
    | median m =>
      -- the output is one of the samples in the window
      have hMem := m.apply_mem_recent (finite x)
      rw [(h.apply x).windowed (m.apply (finite x)).2 rfl] at hMem
      obtain ⟨q, hQ, hOut⟩ := List.mem_map.mp ((List.drop_suffix _ _).subset hMem)
      refine ⟨q, hOut.symm, .of_mem hQ, fun hEmpty => ?_⟩
      rw [hEmpty] at hQ
      exact List.mem_singleton.mp hQ

end Apply

theorem Bounded.feed {filter : SignalFilter ExactSample} (h : filter.Bounded [])
    (samples : List Rat) : (filter.feed (samples.map finite)).Bounded samples := by
  induction samples using List.reverseRecOn with
  | nil => exact h
  | append_singleton samples x ih =>
    rw [List.map_append, feed_append]
    exact ih.apply x

/-- Whatever `set_filter` creates, on finite samples every output is between the least and the greatest
of the samples so far; so a constant input comes out unchanged, and the first output is the first input. -/
theorem outputs_within (raw : UInt8) (param sampleHz : ExactSample) (before : List Rat) (x : Rat) :
    ∃ q, (((createFilter (.ofByte raw) param sampleHz).feed (before.map finite)).apply
        (finite x)).1 = finite q ∧ Within (before ++ [x]) q ∧ (before = [] → q = x) ∧
      ((∀ y ∈ before, y = x) → q = x) := by
  obtain ⟨q, hOut, hWithin, hFirst⟩ :=
    ((bounded_create (.ofByte raw) param sampleHz).feed before).output x
  refine ⟨q, hOut, hWithin, hFirst, fun hConstant => ?_⟩
  have hAll : ∀ y ∈ before ++ [x], y = x := by
    intro y hMem
    rcases List.mem_append.mp hMem with hOld | hNew
    · exact hConstant y hOld
    · exact List.mem_singleton.mp hNew
  obtain ⟨⟨low, hLow, hle⟩, high, hHigh, hge⟩ := hWithin
  rw [hAll low hLow] at hle
  rw [hAll high hHigh] at hge
  exact le_antisymm hge hle

end SignalFilter

end VsomeipDart
