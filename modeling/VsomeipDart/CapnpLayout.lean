import VsomeipDart.CapnpReads

/-! # The layout of the fixed fields

The offsets ascend, so that the fields do not overlap, and all of them lie in the header.
-/

namespace VsomeipDart
set_option autoImplicit false

open LittleEndian

theorem le_align (offset size : Nat) : offset ≤ align offset size := by
  rw [align]
  split
  · exact Nat.le_add_right _ _
  · exact Nat.le_refl _

theorem le_place (offset : Nat) (f : Field) : offset ≤ place offset f := by
  rw [place]
  split
  · exact le_align offset _
  · exact Nat.le_refl _

theorem le_layoutEnd (offset : Nat) (fields : List Field) : offset ≤ layoutEnd offset fields := by
  induction fields generalizing offset with
  | nil => exact Nat.le_refl _
  | cons f rest ih =>
    rw [layoutEnd]
    have hPlace := le_place offset f
    have hRest := ih (place offset f + f.size)
    omega

theorem map_field_layoutFrom (offset : Nat) (fields : List Field) :
    (layoutFrom offset fields).map Placed.field = fields := by
  induction fields generalizing offset with
  | nil => rfl
  | cons f rest ih => rw [layoutFrom, List.map_cons, ih]

theorem placed_bounds {offset : Nat} {fields : List Field} {p : Placed}
    (h : p ∈ layoutFrom offset fields) :
    offset ≤ p.offset ∧ p.offset + p.field.size ≤ layoutEnd offset fields := by
  induction fields generalizing offset with
  | nil => exact absurd h List.not_mem_nil
  | cons f rest ih =>
    have hPlace := le_place offset f
    rw [layoutEnd]
    rcases List.mem_cons.mp h with rfl | hRest
    · exact ⟨hPlace, le_layoutEnd _ rest⟩
    · obtain ⟨hStart, hEnd⟩ := ih hRest
      exact ⟨by omega, hEnd⟩

theorem placed_ascending (offset : Nat) (fields : List Field) :
    (layoutFrom offset fields).Pairwise fun p q => p.offset + p.field.size ≤ q.offset := by
  induction fields generalizing offset with
  | nil => exact List.Pairwise.nil
  | cons f rest ih =>
    rw [layoutFrom]
    exact List.pairwise_cons.mpr ⟨fun q hMem => (placed_bounds hMem).1, ih _⟩

theorem align_dvd {size : Nat} (h : 0 < size) (offset : Nat) : size ∣ align offset size := by
  rw [align]
  split
  · have hMod := Nat.mod_lt offset h
    have hDiv := Nat.div_add_mod offset size
    refine ⟨offset / size + 1, ?_⟩
    rw [Nat.mul_add]
    omega
  · exact Nat.dvd_of_mod_eq_zero (not_not.mp ‹_›)

end VsomeipDart
