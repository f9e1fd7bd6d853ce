import Mathlib.Data.List.Perm.Basic
import Mathlib.Logic.Function.Basic

/-! # A heap in which every block has one owner

A block is freed and written by its owner only. `Owned` lists an address for each owner: it is kept when a
block is allocated for a new owner and when an owner frees its block, and no such call is a fault.
-/

abbrev Heap (α : Type) := Nat → Option α

namespace Heap

variable {α : Type}

def empty : Heap α := fun _ => none

def put (heap : Heap α) (addr : Nat) (block : α) : Heap α := Function.update heap addr (some block)

/-- `none` is a write outside the blocks of the heap. -/
def write (heap : Heap α) (addr : Nat) (block : α) : Option (Heap α) :=
  if (heap addr).isSome then some (heap.put addr block) else none

/-- `none` is a free of an address that is not allocated, or not any more. -/
def free (heap : Heap α) (addr : Nat) : Option (Heap α) :=
  if (heap addr).isSome then some (Function.update heap addr none) else none

theorem isSome_put (heap : Heap α) (addr other : Nat) (block : α) :
    (heap.put addr block other).isSome ↔ other = addr ∨ (heap other).isSome := by
  rcases eq_or_ne other addr with rfl | hNe
  · rw [put, Function.update_self]
    exact iff_of_true rfl (Or.inl rfl)
  · rw [put, Function.update_of_ne hNe]
    exact (or_iff_right hNe).symm

/-- The addresses of the owners are those of the blocks, each once. -/
structure Owned (heap : Heap α) (owners : List Nat) : Prop where
  nodup : owners.Nodup
  mem_iff : ∀ addr, addr ∈ owners ↔ (heap addr).isSome

namespace Owned

variable {heap : Heap α} {owners owners' : List Nat} {addr : Nat}

theorem empty : Owned (Heap.empty : Heap α) [] where
  nodup := List.nodup_nil
  mem_iff _ := iff_of_false List.not_mem_nil Bool.false_ne_true

theorem perm (h : Owned heap owners) (hPerm : owners.Perm owners') : Owned heap owners' where
  nodup := hPerm.nodup_iff.mp h.nodup
  mem_iff addr := hPerm.mem_iff.symm.trans (h.mem_iff addr)

theorem ne_of_mem (h : Owned heap (addr :: owners)) {other : Nat} (hMem : other ∈ owners) : other ≠ addr :=
  ne_of_mem_of_not_mem hMem (List.nodup_cons.mp h.nodup).1

theorem alloc (h : Owned heap owners) (hFree : heap addr = none) (block : α) :
    Owned (heap.put addr block) (addr :: owners) ∧ ∀ other ∈ owners, heap.put addr block other = heap other := by
  have hNot : addr ∉ owners := by
    rw [h.mem_iff, hFree]
    exact Bool.false_ne_true
  refine ⟨⟨List.nodup_cons.mpr ⟨hNot, h.nodup⟩, fun other => ?_⟩, fun other hMem => ?_⟩
  · rcases eq_or_ne other addr with rfl | hNe
    · rw [put, Function.update_self]
      exact iff_of_true List.mem_cons_self rfl
    · rw [put, Function.update_of_ne hNe, List.mem_cons, or_iff_right hNe]
      exact h.mem_iff other
  · exact Function.update_of_ne (ne_of_mem_of_not_mem hMem hNot) _ _

theorem write (h : Owned heap (addr :: owners)) (block : α) :
    heap.write addr block = some (heap.put addr block) ∧ Owned (heap.put addr block) (addr :: owners) ∧
      ∀ other ∈ owners, heap.put addr block other = heap other := by
  have hLive := (h.mem_iff addr).mp List.mem_cons_self
  refine ⟨if_pos hLive, ⟨h.nodup, fun other => ?_⟩, fun other hMem => ?_⟩
  · rw [h.mem_iff]
    rcases eq_or_ne other addr with rfl | hNe
    · rw [put, Function.update_self]
      exact iff_of_true hLive rfl
    · rw [put, Function.update_of_ne hNe]
  · exact Function.update_of_ne (h.ne_of_mem hMem) _ _

theorem free (h : Owned heap (addr :: owners)) :
    heap.free addr = some (Function.update heap addr none) ∧ Owned (Function.update heap addr none) owners ∧
      ∀ other ∈ owners, Function.update heap addr none other = heap other := by
  refine ⟨if_pos ((h.mem_iff addr).mp List.mem_cons_self), ⟨(List.nodup_cons.mp h.nodup).2, fun other => ?_⟩,
    fun other hMem => ?_⟩
  · rcases eq_or_ne other addr with rfl | hNe
    · rw [Function.update_self]
      exact iff_of_false (List.nodup_cons.mp h.nodup).1 Bool.false_ne_true
    · rw [Function.update_of_ne hNe, ← h.mem_iff, List.mem_cons, or_iff_right hNe]
  · exact Function.update_of_ne (h.ne_of_mem hMem) _ _

end Owned

theorem filterMap_middle {τ : Type} (owned : τ → Option Nat) (left : List τ) (t : τ) (right : List τ) :
    ((left ++ t :: right).filterMap owned).Perm
      ((owned t).toList ++ (left.filterMap owned ++ right.filterMap owned)) := by
  have hCons : (t :: right).filterMap owned = (owned t).toList ++ right.filterMap owned := by
    rw [List.filterMap_cons]
    cases owned t <;> rfl
  rw [List.filterMap_append, hCons]
  exact List.perm_append_comm_assoc _ _ _

/-- What the other threads own, when one of them moves. -/
theorem filterMap_set {τ : Type} {threads : List τ} {i : Nat} {t : τ} (hThread : threads[i]? = some t)
    (owned : τ → Option Nat) : ∃ others, (threads.filterMap owned).Perm ((owned t).toList ++ others) ∧
      ∀ t', ((threads.set i t').filterMap owned).Perm ((owned t').toList ++ others) := by
  obtain ⟨hLt, rfl⟩ := List.getElem?_eq_some_iff.mp hThread
  refine ⟨(threads.take i).filterMap owned ++ (threads.drop (i + 1)).filterMap owned, ?_, fun t' => ?_⟩
  · have hMiddle := filterMap_middle owned (threads.take i) threads[i] (threads.drop (i + 1))
    rwa [List.getElem_cons_drop, List.take_append_drop] at hMiddle
  · rw [List.set_eq_take_append_cons_drop, if_pos hLt]
    exact filterMap_middle owned _ t' _

end Heap
