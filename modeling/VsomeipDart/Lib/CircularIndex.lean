import Mathlib.Data.Nat.ModEq

/-! # Indices of a circular buffer

A 32-bit index that is kept below a power of two by a mask. `slot i` is the index of the `i`-th element
ever stored; a window of at most `n` consecutive elements never meets itself.
-/

namespace CircularIndex

structure Capacity where
  n : UInt32
  two_le : 2 ≤ n
  pow_two : n &&& (n - 1) = 0

namespace Capacity

variable (c : Capacity)

def mask : UInt32 := c.n - 1

def slot (i : Nat) : UInt32 := UInt32.ofNat (i % c.n.toNat)

theorem two_le_toNat : 2 ≤ c.n.toNat := UInt32.le_iff_toNat_le.mp c.two_le

theorem mask_toNat : c.mask.toNat = c.n.toNat - 1 := by
  have hTwo := c.two_le_toNat
  rw [mask, UInt32.toNat_sub_of_le _ _ (UInt32.le_iff_toNat_le.mpr (by
    rw [UInt32.toNat_one]
    omega))]
  rfl

theorem exists_pow : ∃ k, c.n.toNat = 2 ^ k := by
  have hTwo := c.two_le_toNat
  have hAnd : c.n.toNat &&& (c.n.toNat - 1) = 0 := by
    rw [← mask_toNat, mask, ← UInt32.toNat_and, c.pow_two]
    rfl
  exact (Nat.and_sub_one_eq_zero_iff_isPowerOfTwo (by omega)).mp hAnd

theorem dvd_two_pow : c.n.toNat ∣ 2 ^ 32 := by
  obtain ⟨k, hk⟩ := c.exists_pow
  have hLt : 2 ^ k < 2 ^ 32 := hk ▸ c.n.toNat_lt
  rw [hk]
  exact pow_dvd_pow 2 ((Nat.pow_lt_pow_iff_right (by decide)).mp hLt).le

theorem toNat_and_mask (x : UInt32) : (x &&& c.mask).toNat = x.toNat % c.n.toNat := by
  obtain ⟨k, hk⟩ := c.exists_pow
  rw [UInt32.toNat_and, mask_toNat, hk, Nat.and_two_pow_sub_one_eq_mod]

theorem slot_toNat (i : Nat) : (c.slot i).toNat = i % c.n.toNat := by
  have hTwo := c.two_le_toNat
  have hLt : i % c.n.toNat < c.n.toNat := Nat.mod_lt i (by omega)
  exact UInt32.toNat_ofNat_of_lt' (hLt.trans c.n.toNat_lt)

theorem slot_lt (i : Nat) : c.slot i < c.n := by
  have hTwo := c.two_le_toNat
  rw [UInt32.lt_iff_toNat_lt, slot_toNat]
  exact Nat.mod_lt i (by omega)

@[simp] theorem slot_zero : c.slot 0 = 0 := by
  rw [slot, Nat.zero_mod]
  rfl

theorem slot_add_n (i : Nat) : c.slot (i + c.n.toNat) = c.slot i := by
  rw [slot, slot, Nat.add_mod_right]

theorem slot_succ (i : Nat) : (c.slot i + 1) &&& c.mask = c.slot (i + 1) := by
  apply UInt32.toNat.inj
  rw [toNat_and_mask, slot_toNat, UInt32.toNat_add, slot_toNat, UInt32.toNat_one,
    Nat.mod_mod_of_dvd _ c.dvd_two_pow, Nat.mod_add_mod]

/-- The masked difference of two indices is the number of elements between them. -/
theorem slot_sub {i j : Nat} (hLe : i ≤ j) (hLt : j < i + c.n.toNat) :
    ((c.slot j - c.slot i) &&& c.mask).toNat = j - i := by
  have hSmall : i % c.n.toNat ≤ 2 ^ 32 := by
    rw [← slot_toNat]
    exact (c.slot i).toNat_lt.le
  have hMod : (2 ^ 32 - i % c.n.toNat + j % c.n.toNat) % c.n.toNat = (j - i) % c.n.toNat := by
    apply Nat.ModEq.add_right_cancel' (i % c.n.toNat)
    calc 2 ^ 32 - i % c.n.toNat + j % c.n.toNat + i % c.n.toNat
        = 2 ^ 32 + j % c.n.toNat := by omega
      _ ≡ 0 + j [MOD c.n.toNat] :=
        Nat.ModEq.add ((Nat.modEq_zero_iff_dvd).mpr c.dvd_two_pow) (Nat.mod_modEq _ _)
      _ = j - i + i := by omega
      _ ≡ j - i + i % c.n.toNat [MOD c.n.toNat] :=
        Nat.ModEq.add_left _ (Nat.mod_modEq _ _).symm
  rw [toNat_and_mask, UInt32.toNat_sub, slot_toNat, slot_toNat,
    Nat.mod_mod_of_dvd _ c.dvd_two_pow, hMod, Nat.mod_eq_of_lt (by omega)]

theorem slot_inj {i j : Nat} (hLe : i ≤ j) (hLt : j < i + c.n.toNat) :
    c.slot i = c.slot j ↔ i = j := by
  constructor
  · intro h
    have hSub := c.slot_sub hLe hLt
    rw [h, UInt32.sub_self, UInt32.zero_and, UInt32.toNat_zero] at hSub
    omega
  · rintro rfl
    rfl

end Capacity

end CircularIndex
