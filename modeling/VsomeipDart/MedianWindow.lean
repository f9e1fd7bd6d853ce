import Mathlib.Data.List.DropRight
import VsomeipDart.Binary32
import VsomeipDart.Lib.Mealy

/-! # The window of the median filter (`signal_filter.cpp`)

The circular buffer holds the last inputs; `recent` lists them in the order in which they came.
-/

namespace VsomeipDart
set_option autoImplicit false

/-- Only the last `n` elements of a list decide what the last `n` are when one more comes. -/
theorem rtake_rtake_append {α : Type} (l : List α) (n : Nat) (a : α) :
    (l.rtake n ++ [a]).rtake n = (l ++ [a]).rtake n := by
  cases n with
  | zero => rw [List.rtake_zero, List.rtake_zero]
  | succ n =>
    rw [List.rtake_concat_succ, List.rtake_concat_succ, List.rtake, List.rtake, List.rtake,
      List.drop_drop, List.length_drop]
    congr 2
    omega

theorem rtake_of_length_le {α : Type} {l : List α} {n : Nat} (h : l.length ≤ n) :
    l.rtake n = l := by
  rw [List.rtake, Nat.sub_eq_zero_of_le h, List.drop_zero]

namespace MedianFilter

variable {F : Type}

def recent (filter : MedianFilter F) : List F :=
  if filter.full then filter.window.drop filter.nextIdx ++ filter.window.take filter.nextIdx
  else filter.window.take filter.nextIdx

def validAfter (filter : MedianFilter F) : Nat :=
  let nextIdx := (filter.nextIdx + 1) % filter.windowSize
  if filter.full || nextIdx == 0 then filter.windowSize else nextIdx

/-- The values that `apply` copies over the scratch buffer and sorts. -/
def sortRange (filter : MedianFilter F) (input : F) : List F :=
  (filter.window.set filter.nextIdx input).take filter.validAfter

section Window

variable (filter : MedianFilter F) (input : F)

theorem validAfter_pos : 0 < filter.validAfter := by
  have hIdx := filter.nextIdx_lt
  rw [validAfter]
  split
  · omega
  · rename_i hNext
    simp only [Bool.or_eq_true, beq_iff_eq, not_or] at hNext
    exact Nat.pos_of_ne_zero hNext.2

theorem sortRange_length : (filter.sortRange input).length = filter.validAfter := by
  have hNext := Nat.mod_lt (filter.nextIdx + 1) (Nat.zero_lt_of_lt filter.nextIdx_lt)
  have hWindow := filter.window_length
  rw [sortRange, List.length_take, List.length_set, validAfter]
  split <;> omega

/-- The slots from the one after the written one on, in circular order. -/
theorem rotate_set : (filter.window.set filter.nextIdx input).drop (filter.nextIdx + 1) ++
    (filter.window.set filter.nextIdx input).take (filter.nextIdx + 1) =
      filter.window.drop (filter.nextIdx + 1) ++ (filter.window.take filter.nextIdx ++ [input]) := by
  have hIdx : filter.nextIdx < filter.window.length := filter.window_length ▸ filter.nextIdx_lt
  rw [List.drop_set_of_lt (Nat.lt_succ_self _), List.take_add_one, List.getElem?_set_self hIdx,
    List.take_set_of_le (Nat.le_refl _)]
  rfl

theorem rotate_mod (window : List F) (h : window.length = filter.windowSize) :
    window.drop ((filter.nextIdx + 1) % filter.windowSize) ++
        window.take ((filter.nextIdx + 1) % filter.windowSize) =
      window.drop (filter.nextIdx + 1) ++ window.take (filter.nextIdx + 1) := by
  have hIdx := filter.nextIdx_lt
  rcases Nat.lt_or_ge (filter.nextIdx + 1) filter.windowSize with hInside | hWrap
  · rw [Nat.mod_eq_of_lt hInside]
  · have hEnd : filter.nextIdx + 1 = window.length := by omega
    rw [hEnd, h, Nat.mod_self, ← h]
    simp

end Window

variable [FloatOps F] (filter : MedianFilter F) (input : F)

theorem apply_state :
    (filter.apply input).2.windowSize = filter.windowSize ∧
      (filter.apply input).2.window = filter.window.set filter.nextIdx input ∧
      (filter.apply input).2.nextIdx = (filter.nextIdx + 1) % filter.windowSize ∧
      (filter.apply input).2.full =
        (filter.full || (filter.nextIdx + 1) % filter.windowSize == 0) := by
  have hBranch := filter.validAfter_pos.ne'
  rw [validAfter] at hBranch
  rw [apply]
  dsimp only
  rw [dif_neg hBranch]
  exact ⟨rfl, rfl, rfl, rfl⟩

theorem apply_output : (sortFloats (filter.sortRange input))[(filter.sortRange input).length / 2]? =
    some (filter.apply input).1 := by
  have hPos := filter.validAfter_pos
  have hMiddle : filter.validAfter / 2 < (sortFloats (filter.sortRange input)).length := by
    rw [sortFloats_length, sortRange_length]
    omega
  have hBranch := hPos.ne'
  rw [validAfter] at hBranch
  rw [sortRange_length, List.getElem?_eq_getElem hMiddle, apply]
  dsimp only
  rw [dif_neg hBranch]
  exact congrArg some (List.getElem_append_left hMiddle).symm

/-- `apply` puts its input behind the last inputs, and drops the oldest when the window is full. -/
theorem recent_apply :
    (filter.apply input).2.recent = (filter.recent ++ [input]).rtake filter.windowSize := by
  have hIdx := filter.nextIdx_lt
  have hWindow := filter.window_length
  have hRotate := filter.rotate_set input
  have hMod := filter.rotate_mod (filter.window.set filter.nextIdx input) (by
    rw [List.length_set, hWindow])
  obtain ⟨-, hSet, hNext, hFull⟩ := filter.apply_state input
  rw [recent, hSet, hNext, hFull, recent]
  cases filter.full with
  | true =>
    simp only [Bool.true_or, if_true]
    rw [hMod, hRotate, List.rtake, List.append_assoc, List.drop_append_of_le_length, List.drop_drop,
      List.length_append, List.length_append, List.length_drop, List.length_take,
      List.length_singleton]
    · congr 2
      omega
    · simp only [List.length_append, List.length_drop, List.length_take, List.length_singleton]
      omega
  | false =>
    have hFits : (filter.window.take filter.nextIdx ++ [input]).length ≤ filter.windowSize := by
      simp only [List.length_append, List.length_take, List.length_singleton]
      omega
    simp only [Bool.false_or, beq_iff_eq, Bool.false_eq_true, if_false]
    rw [rtake_of_length_le hFits]
    split
    · rename_i hWrap
      have hEnd : filter.nextIdx + 1 = filter.windowSize :=
        Nat.le_antisymm hIdx (Nat.le_of_dvd (Nat.succ_pos _) (Nat.dvd_of_mod_eq_zero hWrap))
      rw [hMod, hRotate, List.drop_of_length_le (by omega), List.nil_append]
    · rename_i hInside
      have hLt : filter.nextIdx + 1 < filter.windowSize := by
        refine lt_of_le_of_ne hIdx fun hEnd => hInside ?_
        rw [hEnd, Nat.mod_self]
      rw [Nat.mod_eq_of_lt hLt, List.take_add_one, List.getElem?_set_self (by omega),
        List.take_set_of_le (Nat.le_refl _)]
      rfl

theorem sortRange_perm : (filter.sortRange input).Perm (filter.apply input).2.recent := by
  have hWindow := filter.window_length
  obtain ⟨-, hSet, hNext, hFull⟩ := filter.apply_state input
  rw [recent, hSet, hNext, hFull, sortRange, validAfter]
  split
  · rw [List.take_of_length_le (by rw [List.length_set, hWindow])]
    have hSplit := List.take_append_drop ((filter.nextIdx + 1) % filter.windowSize)
      (filter.window.set filter.nextIdx input)
    exact (List.Perm.of_eq hSplit.symm).trans List.perm_append_comm
  · exact List.Perm.refl _

theorem apply_mem_recent : (filter.apply input).1 ∈ (filter.apply input).2.recent := by
  have hSorted := List.mem_of_getElem? (filter.apply_output input)
  rw [sortFloats, List.mem_insertionSort] at hSorted
  exact (filter.sortRange_perm input).mem_iff.mp hSorted

end MedianFilter

end VsomeipDart
