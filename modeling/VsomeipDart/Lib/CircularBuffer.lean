import Mathlib.Data.List.DropRight

/-! # Circular buffers that keep the newest elements

A fixed number of slots, the slot that is written next, and how many slots are in use. When all of them are,
the next element takes the place of the oldest one.
-/

structure CircularBuffer (α : Type) where
  slots : List α
  head : Nat
  count : Nat
  head_lt : head < slots.length
  count_le : count ≤ slots.length

namespace CircularBuffer

variable {α : Type}

def create (capacity : Nat) (filler : α) (h : 0 < capacity) : CircularBuffer α where
  slots := List.replicate capacity filler
  head := 0
  count := 0
  head_lt := by rwa [List.length_replicate]
  count_le := Nat.zero_le _

def push (b : CircularBuffer α) (a : α) : CircularBuffer α where
  slots := b.slots.set b.head a
  head := (b.head + 1) % b.slots.length
  count := if b.count < b.slots.length then b.count + 1 else b.count
  head_lt := by
    rw [List.length_set]
    exact Nat.mod_lt _ (Nat.zero_lt_of_lt b.head_lt)
  count_le := by
    have hLe := b.count_le
    rw [List.length_set]
    split <;> omega

def clear (b : CircularBuffer α) : CircularBuffer α where
  slots := b.slots
  head := 0
  count := 0
  head_lt := Nat.zero_lt_of_lt b.head_lt
  count_le := Nat.zero_le _

def start (b : CircularBuffer α) : Nat := (b.head + b.slots.length - b.count) % b.slots.length

def toList (b : CircularBuffer α) : List α :=
  List.ofFn fun i : Fin b.count => b.slots.get
    ⟨(b.start + i) % b.slots.length, Nat.mod_lt _ (Nat.zero_lt_of_lt b.head_lt)⟩

/-- The elements that were pushed since the buffer was empty. -/
structure Holds (b : CircularBuffer α) (pushed : List α) : Prop where
  head : b.head = pushed.length % b.slots.length
  count : b.count = min pushed.length b.slots.length
  slots : ∀ j < pushed.length, pushed.length ≤ j + b.slots.length →
    b.slots[j % b.slots.length]? = pushed[j]?

variable {b : CircularBuffer α} {pushed : List α}

theorem holds_create (capacity : Nat) (filler : α) (h : 0 < capacity) : (create capacity filler h).Holds [] where
  head := (Nat.zero_mod _).symm
  count := (Nat.zero_min _).symm
  slots j hj := absurd hj (Nat.not_lt_zero j)

theorem holds_clear (b : CircularBuffer α) : b.clear.Holds [] where
  head := (Nat.zero_mod _).symm
  count := (Nat.zero_min _).symm
  slots j hj := absurd hj (Nat.not_lt_zero j)

/-- Within a lap of the buffer no two elements have one slot. -/
theorem mod_ne_of_lt {j m n : Nat} (hLt : j < m) (hLap : m < j + n) : j % n ≠ m % n := by
  intro hSame
  have hZero := Nat.sub_mod_eq_zero_of_mod_eq hSame.symm
  rw [Nat.mod_eq_of_lt (by omega)] at hZero
  omega

theorem Holds.push (h : b.Holds pushed) (a : α) : (b.push a).Holds (pushed ++ [a]) where
  head := by
    simp only [CircularBuffer.push, List.length_set, List.length_append, List.length_singleton, h.head,
      Nat.mod_add_mod]
  count := by
    have hCount := h.count
    simp only [CircularBuffer.push, List.length_set, List.length_append, List.length_singleton]
    split <;> omega
  slots j hj hLap := by
    simp only [CircularBuffer.push, List.length_set, List.length_append, List.length_singleton] at hj hLap ⊢
    rcases Nat.lt_or_ge j pushed.length with hOld | hNew
    · rw [List.getElem?_set_ne, List.getElem?_append_left hOld]
      · exact h.slots j hOld (by omega)
      · rw [h.head]
        exact (mod_ne_of_lt hOld (by omega)).symm
    · obtain rfl : j = pushed.length := by omega
      rw [← h.head, List.getElem?_set_self b.head_lt, List.getElem?_concat_length]

theorem Holds.start (h : b.Holds pushed) : b.start = (pushed.length - b.count) % b.slots.length := by
  have hHead := h.head
  have hCount := h.count
  have hDiv := Nat.div_add_mod pushed.length b.slots.length
  rw [CircularBuffer.start, hHead]
  rcases Nat.lt_or_ge pushed.length b.slots.length with hShort | hLong
  · rw [Nat.mod_eq_of_lt hShort, hCount, Nat.min_eq_left hShort.le, Nat.add_sub_cancel_left, Nat.mod_self,
      Nat.sub_self, Nat.zero_mod]
  · rw [hCount, Nat.min_eq_right hLong, Nat.add_sub_cancel, Nat.mod_mod, ← Nat.mod_eq_sub_mod hLong]

/-- What is in the buffer is what was pushed last. -/
theorem toList_eq (h : b.Holds pushed) : b.toList = pushed.rtake b.slots.length := by
  have hCount := h.count
  apply List.ext_getElem
  · rw [toList, List.length_ofFn, List.rtake, List.length_drop]
    omega
  · intro i hi _
    rw [toList, List.length_ofFn] at hi
    have hSlot := h.slots (pushed.length - b.count + i) (by omega) (by omega)
    have hMod : (b.start + i) % b.slots.length =
        (pushed.length - b.count + i) % b.slots.length := by rw [h.start, Nat.mod_add_mod]
    have hLt : (pushed.length - b.count + i) % b.slots.length < b.slots.length :=
      Nat.mod_lt _ (Nat.zero_lt_of_lt b.head_lt)
    rw [List.getElem?_eq_getElem hLt, List.getElem?_eq_getElem (by omega)] at hSlot
    simp only [toList, List.getElem_ofFn, List.get_eq_getElem, hMod, Option.some.inj hSlot, List.rtake,
      List.getElem_drop]
    congr 1
    omega

end CircularBuffer
