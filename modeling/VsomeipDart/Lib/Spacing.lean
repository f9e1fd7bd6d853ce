import Mathlib.Algebra.Order.Group.Defs
import Mathlib.Data.List.Pairwise

/-! # Selections with a least distance

A greedy scan of an ascending list keeps an element that is at least `δ` above the last one it kept. No
other selection with that distance has more elements.
-/

namespace Spacing

variable {α : Type} [AddCommGroup α]

def Spaced [LE α] (δ : α) (chosen : List α) : Prop := chosen.Pairwise fun a b => δ ≤ b - a

variable [LinearOrder α]

def greedy (δ : α) : Option α → List α → List α
  | _, [] => []
  | none, a :: rest => a :: greedy δ (some a) rest
  | some last, a :: rest =>
    if δ ≤ a - last then a :: greedy δ (some a) rest else greedy δ (some last) rest

theorem greedy_sublist (δ : α) (last : Option α) (l : List α) :
    (greedy δ last l).Sublist l := by
  induction l generalizing last with
  | nil => exact List.nil_sublist _
  | cons a rest ih =>
    cases last with
    | none => exact (ih (some a)).cons_cons a
    | some last =>
      rw [greedy]
      split
      · exact (ih (some a)).cons_cons a
      · exact (ih (some last)).cons a

variable [IsOrderedAddMonoid α] {δ : α}

/-- In an ascending list everything that is kept after `last` is far enough from it. -/
theorem far_of_mem_greedy {last : α} {l : List α} (hSorted : l.Pairwise (· ≤ ·)) {b : α}
    (hMem : b ∈ greedy δ (some last) l) : δ ≤ b - last := by
  induction l with
  | nil => cases hMem
  | cons a rest ih =>
    obtain ⟨hHead, hRest⟩ := List.pairwise_cons.mp hSorted
    rw [greedy] at hMem
    split at hMem
    · rename_i hFar
      rcases List.mem_cons.mp hMem with rfl | hLater
      · exact hFar
      · have hAbove : a ≤ b := hHead b ((greedy_sublist δ _ rest).subset hLater)
        exact hFar.trans (sub_le_sub_right hAbove last)
    · exact ih hRest hMem

theorem spaced_greedy {l : List α} (hSorted : l.Pairwise (· ≤ ·)) (last : Option α) :
    Spaced δ (greedy δ last l) := by
  induction l generalizing last with
  | nil => exact List.Pairwise.nil
  | cons a rest ih =>
    have hRest := (List.pairwise_cons.mp hSorted).2
    have hKept : Spaced δ (a :: greedy δ (some a) rest) :=
      List.pairwise_cons.mpr ⟨fun b hMem => far_of_mem_greedy hRest hMem, ih hRest (some a)⟩
    cases last with
    | none => exact hKept
    | some last =>
      rw [greedy]
      split
      · exact hKept
      · exact ih hRest (some last)

/-- The scan stays ahead: of a selection from `a :: rest`, what is left after its first element may
follow `a` as well. -/
theorem far_tail {a b : α} {rest chosen : List α} (hHead : ∀ c ∈ rest, a ≤ c)
    (hSelection : (b :: chosen).Sublist (a :: rest)) (hSpaced : Spaced δ (b :: chosen)) :
    ∀ c ∈ chosen, δ ≤ c - a := by
  intro c hMem
  have hBelow : a ≤ b := by
    rcases List.mem_cons.mp (hSelection.subset List.mem_cons_self) with rfl | hLater
    · exact le_rfl
    · exact hHead b hLater
  exact ((List.pairwise_cons.mp hSpaced).1 c hMem).trans (sub_le_sub_left hBelow c)

theorem length_le_greedy {l chosen : List α} (hSorted : l.Pairwise (· ≤ ·))
    (hSelection : chosen.Sublist l) (hSpaced : Spaced δ chosen) {last : Option α}
    (hFar : ∀ a ∈ last, ∀ b ∈ chosen, δ ≤ b - a) :
    chosen.length ≤ (greedy δ last l).length := by
  induction l generalizing chosen last with
  | nil =>
    rw [List.eq_nil_of_sublist_nil hSelection]
    exact Nat.zero_le _
  | cons a rest ih =>
    obtain ⟨hHead, hRest⟩ := List.pairwise_cons.mp hSorted
    have hKept : chosen.length ≤ (a :: greedy δ (some a) rest).length := by
      cases chosen with
      | nil => exact Nat.zero_le _
      | cons b chosen =>
        have hTail : chosen.length ≤ (greedy δ (some a) rest).length := by
          refine ih hRest (List.Sublist.of_cons_cons hSelection) (List.pairwise_cons.mp hSpaced).2 ?_
          rintro _ ⟨⟩
          exact far_tail hHead hSelection hSpaced
        exact Nat.succ_le_succ hTail
    cases last with
    | none => exact hKept
    | some last =>
      rw [greedy]
      split
      · exact hKept
      · rename_i hNear
        -- the head is too near to `last` for any selection
        refine ih hRest ?_ hSpaced hFar
        cases hSelection with
        | cons _ hLater => exact hLater
        | cons_cons _ hLater => exact absurd (hFar last rfl a List.mem_cons_self) hNear

/-- Between two bounds a selection has room for no more elements than the distance allows. -/
theorem length_nsmul_le {low high a : α} {chosen : List α} (hSpaced : Spaced δ (a :: chosen))
    (hLow : low ≤ a) (hHigh : ∀ b ∈ a :: chosen, b ≤ high) :
    chosen.length • δ ≤ high - low := by
  induction chosen generalizing a low with
  | nil =>
    rw [List.length_nil, zero_nsmul]
    exact sub_nonneg.mpr (hLow.trans (hHigh a List.mem_cons_self))
  | cons b chosen ih =>
    obtain ⟨hHead, hRest⟩ := List.pairwise_cons.mp hSpaced
    have hTail := ih hRest le_rfl fun c hMem => hHigh c (List.mem_cons_of_mem a hMem)
    have hStep : δ ≤ b - low :=
      (hHead b List.mem_cons_self).trans (sub_le_sub_left hLow b)
    calc (chosen.length + 1) • δ = chosen.length • δ + δ := succ_nsmul δ chosen.length
      _ ≤ (high - b) + (b - low) := add_le_add hTail hStep
      _ = high - low := sub_add_sub_cancel high b low

end Spacing
