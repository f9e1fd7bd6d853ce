import VsomeipDart.MedianWindow

/-! # The median over whole runs (`signal_filter.cpp`)

The calls of `apply` and `reset` on one median filter, with the comparison of binary32 numbers.
-/

namespace VsomeipDart
set_option autoImplicit false

inductive MedianCall (F : Type) where
  | apply (input : F)
  | reset

namespace MedianCall

variable {F : Type}

def sinceReset (inputs : List F) : MedianCall F → List F
  | apply input => inputs ++ [input]
  | reset => []

def inputs (calls : List (MedianCall F)) : List F := calls.foldl sinceReset []

end MedianCall

namespace MedianFilter

section Runs

variable {F : Type} [FloatOps F]

def exec (filter : MedianFilter F) : MedianCall F → MedianFilter F
  | .apply input => (filter.apply input).2
  | .reset => filter.reset

def run (filter : MedianFilter F) (calls : List (MedianCall F)) : MedianFilter F :=
  calls.foldl exec filter

def effectiveSize (windowSize : UInt16) : Nat := if windowSize = 0 then 1 else windowSize.toNat

theorem run_create (windowSize : UInt16) (calls : List (MedianCall F)) :
    (run (create windowSize) calls).windowSize = effectiveSize windowSize ∧
      (run (create windowSize) calls).recent =
        (MedianCall.inputs calls).rtake (effectiveSize windowSize) := by
  induction calls using List.reverseRecOn with
  | nil => exact ⟨rfl, (List.rtake_nil _).symm⟩
  | append_singleton calls call ih =>
    obtain ⟨hSize, hRecent⟩ := ih
    rw [run, List.foldl_append, List.foldl_cons, List.foldl_nil, ← run, MedianCall.inputs,
      List.foldl_append, List.foldl_cons, List.foldl_nil, ← MedianCall.inputs]
    cases call with
    | apply input =>
      refine ⟨(apply_state _ input).1.trans hSize, ?_⟩
      rw [exec, recent_apply, hSize, hRecent, rtake_rtake_append]
      rfl
    | reset => exact ⟨hSize, (List.rtake_nil _).symm⟩

end Runs

open PartialRank

/-- `output` stands at the middle index of the ascending sort of the values, whichever way the sort orders
the two zeros. -/
structure Middle (values : List Binary32) (output : Binary32) : Prop where
  mem : output ∈ values
  sorted : ∃ sorted : List Binary32, sorted.Perm values ∧ Ascending Binary32.lt sorted ∧
    sorted[values.length / 2]? = some output
  unique : ∀ sorted : List Binary32, sorted.Perm values → Ascending Binary32.lt sorted →
    ∃ v, sorted[values.length / 2]? = some v ∧ v.order = output.order

theorem middle_apply (filter : MedianFilter Binary32) (input : Binary32)
    (hNumbers : ∀ v ∈ (filter.apply input).2.recent, v.isNaN = false) :
    Middle (filter.apply input).2.recent (filter.apply input).1 := by
  have hPerm := filter.sortRange_perm input
  have hRanked : ∀ v ∈ filter.sortRange input, v.order ≠ none := by
    intro v hMem
    rw [Ne, Binary32.order_eq_none_iff, hNumbers v (hPerm.mem_iff.mp hMem)]
    exact Bool.false_ne_true
  have hAscending : Ascending Binary32.lt (sortFloats (filter.sortRange input)) :=
    ascending_insertionSort hRanked
  have hSort : (sortFloats (filter.sortRange input)).Perm (filter.sortRange input) :=
    List.perm_insertionSort _ _
  have hOutput := filter.apply_output input
  rw [hPerm.length_eq] at hOutput
  refine ⟨filter.apply_mem_recent input, ⟨_, hSort.trans hPerm, hAscending, hOutput⟩,
    fun sorted hSorted hOrder => ?_⟩
  have hRanks := map_rank_eq_of_ascending hRanked (hSorted.trans hPerm.symm) hSort hOrder hAscending
  have hThere := congrArg (fun ranks => ranks[(filter.apply input).2.recent.length / 2]?) hRanks
  simp only [List.getElem?_map, hOutput, Option.map_some, Option.map_eq_some_iff] at hThere
  exact hThere

/-- After any calls on a new filter, `apply` gives the middle of the last inputs since the last reset, as
many as the window has room for. -/
theorem median_of_last (windowSize : UInt16) (calls : List (MedianCall Binary32))
    (input : Binary32)
    (hNumbers : ∀ v ∈ MedianCall.inputs (calls ++ [.apply input]), v.isNaN = false) :
    Middle ((MedianCall.inputs (calls ++ [.apply input])).rtake (effectiveSize windowSize))
      ((run (create windowSize) calls).apply input).1 := by
  obtain ⟨-, hRecent⟩ := run_create windowSize (calls ++ [.apply input])
  rw [run, List.foldl_append, List.foldl_cons, List.foldl_nil, ← run, exec] at hRecent
  rw [← hRecent]
  refine middle_apply _ input fun v hMem => hNumbers v ?_
  rw [hRecent] at hMem
  exact (List.drop_suffix _ _).subset hMem

/-- A window of 3 after a reset: the middle of 1, 4 and 2 is 2. -/
theorem median_of_last_three :
    Middle [⟨0x3f800000⟩, ⟨0x40800000⟩, ⟨0x40000000⟩]
      ((run (create 3) [.apply ⟨0x41000000⟩, .reset, .apply ⟨0x3f800000⟩, .apply ⟨0x40800000⟩]).apply
        ⟨0x40000000⟩).1 :=
  median_of_last 3 [.apply ⟨0x41000000⟩, .reset, .apply ⟨0x3f800000⟩, .apply ⟨0x40800000⟩] ⟨0x40000000⟩
    (by decide)

end MedianFilter

end VsomeipDart
