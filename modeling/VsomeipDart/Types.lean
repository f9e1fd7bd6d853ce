import Mathlib.Init

/-! # Wire types of the bridge (`vsomeip_types.h`)

The discriminator bytes and the structures that the native side encodes for the worker isolate.
Structures and discriminators that no modelled function reads are left out.
-/

namespace VsomeipDart
set_option autoImplicit false

abbrev Bytes := List UInt8

namespace VsomeipDisc

def kMessage : UInt8 := 0x01
def kAvailability : UInt8 := 0x02
def kState : UInt8 := 0x03
def kError : UInt8 := 0x05

end VsomeipDisc

structure VsomeipMessageHeader where
  serviceId : UInt16
  instanceId : UInt16
  methodId : UInt16
  messageType : UInt8
  returnCode : UInt8
  requestId : UInt64
  payloadLen : UInt32
  deriving DecidableEq, Repr

structure VsomeipAvailability where
  serviceId : UInt16
  instanceId : UInt16
  available : Bool
  deriving DecidableEq, Repr

/-- `app_name` is a `std::string`, so a byte string. -/
structure VsomeipState where
  registered : Bool
  appName : Bytes
  deriving DecidableEq, Repr

def kMaxPayloadBytes : UInt32 := (1 : UInt32) <<< 20

theorem kMaxPayloadBytes_toNat : kMaxPayloadBytes.toNat = 1048576 := by decide

section Cap

variable {n : Nat} (h : n ≤ kMaxPayloadBytes.toNat)

include h

/-- A length under the cap fits its 32-bit field. -/
theorem toNat_ofNat_of_cap : (UInt32.ofNat n).toNat = n := by
  rw [kMaxPayloadBytes_toNat] at h
  exact UInt32.toNat_ofNat_of_lt' (by
    show n < 2 ^ 32
    omega)

theorem not_gt_cap : ¬ UInt32.ofNat n > kMaxPayloadBytes := by
  rw [gt_iff_lt, UInt32.lt_iff_toNat_lt, toNat_ofNat_of_cap h]
  omega

end Cap

theorem toNat_toUInt64_shiftLeft (id : UInt16) {places : UInt64} (h : places.toNat ≤ 48) :
    (id.toUInt64 <<< places).toNat = id.toNat <<< places.toNat := by
  have hPlaces : places.toNat % 64 = places.toNat := Nat.mod_eq_of_lt (by omega)
  rw [UInt64.toNat_shiftLeft, UInt16.toNat_toUInt64, hPlaces]
  apply Nat.mod_eq_of_lt
  calc id.toNat <<< places.toNat = id.toNat * 2 ^ places.toNat := Nat.shiftLeft_eq _ _
    _ < 2 ^ 16 * 2 ^ places.toNat := Nat.mul_lt_mul_of_pos_right id.toNat_lt (Nat.two_pow_pos _)
    _ = 2 ^ (16 + places.toNat) := (Nat.pow_add 2 16 places.toNat).symm
    _ ≤ 2 ^ 64 := Nat.pow_le_pow_right (by decide) (by omega)

end VsomeipDart
