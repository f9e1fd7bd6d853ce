import VsomeipDart.FilterBounds

/-! # What a NaN does to a filter (`signal_filter.cpp`)

Samples are finite or NaN. A window forgets a NaN, the two recursive filters do not.
-/

namespace VsomeipDart
set_option autoImplicit false

open FloatOps ExactSample

namespace ExactSample

theorem add_nan (v : ExactSample) : add v nan = nan := by cases v <;> rfl

theorem mul_nan (v : ExactSample) : mul v nan = nan := by cases v <;> rfl

theorem nan_add (v : ExactSample) : add nan v = nan := rfl

theorem ne_nan_iff (v : ExactSample) : v ≠ nan ↔ ∃ q, v = finite q := by
  cases v <;> simp

end ExactSample

/-- A recursive filter that was fed these samples: its state is a NaN exactly if one of them was. -/
structure Smoother.Fed (s : Smoother ExactSample) (samples : List ExactSample) : Prop where
  alpha : s.alpha ≠ nan
  fresh : samples = [] → s.initialized = false
  latched : samples ≠ [] → s.initialized = true ∧ (s.y = nan ↔ nan ∈ samples)

namespace Smoother.Fed

variable {s : Smoother ExactSample} {samples : List ExactSample} (h : s.Fed samples)

include h

theorem next_eq_nan_iff (v : ExactSample) : s.next v = nan ↔ nan ∈ samples ++ [v] := by
  rcases eq_or_ne samples [] with rfl | hFed
  · rw [next_first (h.fresh rfl), List.nil_append, List.mem_singleton, eq_comm]
  · obtain ⟨hInit, hLatched⟩ := h.latched hFed
    obtain ⟨a, hAlpha⟩ := (ne_nan_iff _).mp h.alpha
    rw [List.mem_append, List.mem_singleton, ← hLatched]
    cases hY : s.y with
    | nan =>
      rw [Smoother.next, hInit, hY, mul_nan, Bool.not_true, if_neg Bool.false_ne_true, add_nan]
      simp
    | finite y =>
      cases v with
      | nan =>
        rw [Smoother.next, hInit, mul_nan, Bool.not_true, if_neg Bool.false_ne_true, nan_add]
        simp
      | finite x =>
        rw [next_finite hAlpha hInit hY]
        simp

theorem feed (v : ExactSample) : (s.feed v).Fed (samples ++ [v]) where
  alpha := h.alpha
  fresh hEmpty := absurd hEmpty (List.append_ne_nil_of_right_ne_nil samples (List.cons_ne_nil v []))
  latched _ := ⟨rfl, h.next_eq_nan_iff v⟩

end Smoother.Fed

namespace SignalFilter

structure Fed (filter : SignalFilter ExactSample) (samples : List ExactSample) : Prop where
  recursive : ∀ s, filter.smoother = some s → s.Fed samples
  windowed : filter.Windowed samples

theorem fed_create (type : FilterType) (param sampleHz : ExactSample) :
    (createFilter type param sampleHz).Fed [] := by
  obtain ⟨hRecursive, hWindowed⟩ := bounded_create type param sampleHz
  refine ⟨fun s hSmoother => ⟨?_, fun _ => (hRecursive s hSmoother).fresh rfl, fun h => absurd rfl h⟩,
    hWindowed⟩
  obtain ⟨a, hAlpha, -, -⟩ := (hRecursive s hSmoother).alpha
  exact (ne_nan_iff _).mpr ⟨a, hAlpha⟩

theorem Fed.feed {filter : SignalFilter ExactSample} (h : filter.Fed [])
    (samples : List ExactSample) : (filter.feed samples).Fed samples := by
  induction samples using List.reverseRecOn with
  | nil => exact h
  | append_singleton samples v ih =>
    rw [feed_append]
    refine ⟨fun s' hSmoother => ?_, ih.windowed.apply v⟩
    rw [SignalFilter.feed, List.foldl_cons, List.foldl_nil, smoother_apply] at hSmoother
    obtain ⟨s, hOld, rfl⟩ := Option.map_eq_some_iff.mp hSmoother
    exact (ih.recursive s hOld).feed v

theorem smoother_feed_isSome (filter : SignalFilter ExactSample) (samples : List ExactSample) :
    (filter.feed samples).smoother.isSome = filter.smoother.isSome := by
  induction samples generalizing filter with
  | nil => rfl
  | cons v rest ih =>
    have hNext : filter.feed (v :: rest) = (filter.apply v).2.feed rest := rfl
    rw [hNext, ih, smoother_apply, Option.isSome_map]

theorem feed_median (m : MedianFilter ExactSample) (samples : List ExactSample) :
    ∃ m', (median m).feed samples = median m' ∧ m'.windowSize = m.windowSize := by
  induction samples generalizing m with
  | nil => exact ⟨m, rfl, rfl⟩
  | cons v rest ih =>
    obtain ⟨m', hFeed, hSize⟩ := ih (m.apply v).2
    exact ⟨m', hFeed, hSize.trans (m.apply_state v).1⟩

theorem feed_passthrough (samples : List ExactSample) :
    passthrough.feed samples = passthrough := by
  induction samples with
  | nil => rfl
  | cons v rest ih => exact ih

section Output

variable {filter : SignalFilter ExactSample} (h : filter.Fed [])

include h

/-- A recursive filter that was given a NaN has no other output any more. -/
theorem Fed.recursive_output (hRecursive : filter.smoother.isSome = true)
    (history : List ExactSample) (clean : List Rat) (x : Rat) :
    (∃ q, ((filter.feed (history ++ clean.map finite)).apply (finite x)).1 = finite q) ↔
      nan ∉ history := by
  rw [← smoother_feed_isSome filter (history ++ clean.map finite)] at hRecursive
  obtain ⟨s, hSmoother⟩ := Option.isSome_iff_exists.mp hRecursive
  have hNaN := ((h.feed (history ++ clean.map finite)).recursive s hSmoother).next_eq_nan_iff (finite x)
  rw [← ne_nan_iff, apply_output hSmoother, Ne, hNaN]
  simp

/-- A median filter gives back one of the finite samples that fill its window. -/
theorem Fed.median_output {m : MedianFilter ExactSample} (hMedian : filter = median m)
    (history : List ExactSample) {clean : List Rat} (hClean : m.windowSize ≤ clean.length) (x : Rat) :
    ∃ q, ((filter.feed (history ++ clean.map finite)).apply (finite x)).1 = finite q := by
  obtain ⟨m', hFeed, hSize⟩ := feed_median m (history ++ clean.map finite)
  have hWindow := (h.feed (history ++ clean.map finite)).windowed.apply (finite x)
  rw [hMedian, hFeed] at hWindow ⊢
  have hMem := m'.apply_mem_recent (finite x)
  rw [hWindow (m'.apply (finite x)).2 rfl, (m'.apply_state (finite x)).1, hSize, List.append_assoc,
    List.rtake, List.drop_append, List.drop_of_length_le, List.nil_append] at hMem
  · rcases List.mem_append.mp (List.mem_of_mem_drop hMem) with hOld | hNew
    · obtain ⟨q, -, hOut⟩ := List.mem_map.mp hOld
      exact ⟨q, hOut.symm⟩
    · exact ⟨x, List.mem_singleton.mp hNew⟩
  · simp only [List.length_append, List.length_map, List.length_singleton]
    omega

end Output

def Recursive (type : FilterType) : Prop := type = .ema ∨ type = .lowpass1

/-- After enough finite samples, where what is enough depends on the configuration alone, the output on a
finite sample is finite for every filter that is not recursive, and for a recursive one exactly if no NaN
came before. -/
theorem recovers_iff (raw : UInt8) (param sampleHz : ExactSample) :
    ∃ n, ∀ (history : List ExactSample) (clean : List Rat) (x : Rat), n ≤ clean.length →
      ((∃ q, (((createFilter (.ofByte raw) param sampleHz).feed (history ++ clean.map finite)).apply
        (finite x)).1 = finite q) ↔ ¬ Recursive (.ofByte raw) ∨ nan ∉ history) := by
  have hFed := fed_create (.ofByte raw) param sampleHz
  cases hType : FilterType.ofByte raw with
  | ema =>
    rw [hType] at hFed
    refine ⟨0, fun history clean x _ => ?_⟩
    rw [hFed.recursive_output rfl]
    simp [Recursive]
  | lowpass1 =>
    rw [hType] at hFed
    refine ⟨0, fun history clean x _ => ?_⟩
    rw [hFed.recursive_output rfl]
    simp [Recursive]
  | median =>
    rw [hType] at hFed
    refine ⟨_, fun history clean x hClean => iff_of_true (hFed.median_output rfl history hClean x)
      (.inl (by simp [Recursive]))⟩
  | passthrough =>
    refine ⟨0, fun history clean x _ => iff_of_true ⟨x, ?_⟩ (.inl (by simp [Recursive]))⟩
    rw [createFilter, feed_passthrough]
    rfl
  | other raw =>
    refine ⟨0, fun history clean x _ => iff_of_true ⟨x, ?_⟩ (.inl (by simp [Recursive]))⟩
    rw [createFilter, feed_passthrough]
    rfl

/-- After one NaN an exponential average gives NaN on the sample 1, however many zeros came between. -/
theorem nan_latches :
    ¬ ∃ n, ∀ (history : List ExactSample) (clean : List Rat) (x : Rat), n ≤ clean.length →
      ∃ q, (((createFilter (.ofByte 1) (finite (1 / 2)) (finite 100)).feed
        (history ++ clean.map finite)).apply (finite x)).1 = finite q := by
  rintro ⟨n, h⟩
  have hFed := fed_create (.ofByte 1) (finite (1 / 2)) (finite 100)
  have hOut := h [nan] (List.replicate n 0) 1 (by rw [List.length_replicate])
  rw [hFed.recursive_output rfl] at hOut
  exact hOut List.mem_cons_self

end SignalFilter

end VsomeipDart
