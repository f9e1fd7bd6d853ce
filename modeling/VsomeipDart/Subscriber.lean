import VsomeipDart.Lib.LittleEndian
import VsomeipDart.Types

/-! # Header encoding (`vsomeip_subscriber.cpp`)

A pointer to bytes is an `Option Bytes`, where `none` is the null pointer; the length that goes with
it stays a parameter of its own.
-/

namespace VsomeipDart
set_option autoImplicit false

open LittleEndian

/-- The arguments of a `MessagePostFn` call; the header length is that of `header`. -/
structure MessagePost where
  header : Bytes
  payload : Option Bytes
  payloadLen : UInt32
  deriving DecidableEq, Repr

namespace VsomeipSubscriber

def pushU16 (buf : Bytes) (v : UInt16) : Bytes :=
  buf ++ [(v &&& 0xFF).toUInt8] ++ [((v >>> 8) &&& 0xFF).toUInt8]

def pushU32 (buf : Bytes) (v : UInt32) : Bytes :=
  buf ++ [(v &&& 0xFF).toUInt8] ++ [((v >>> 8) &&& 0xFF).toUInt8] ++
    [((v >>> 16) &&& 0xFF).toUInt8] ++ [((v >>> 24) &&& 0xFF).toUInt8]

def pushU64 (buf : Bytes) (v : UInt64) : Bytes :=
  (List.range 8).foldl
    (fun buf i => buf ++ [((v >>> (UInt64.ofNat i * 8)) &&& 0xFF).toUInt8]) buf

def encodeHeader (hdr : VsomeipMessageHeader) : Bytes :=
  let buf := [VsomeipDisc.kMessage]
  let buf := pushU16 buf hdr.serviceId
  let buf := pushU16 buf hdr.instanceId
  let buf := pushU16 buf hdr.methodId
  let buf := buf ++ [hdr.messageType]
  let buf := buf ++ [hdr.returnCode]
  let buf := pushU64 buf hdr.requestId
  pushU32 buf hdr.payloadLen

def packRequestId (clientId sessionId : UInt16) : UInt64 :=
  (clientId.toUInt64 <<< 16) ||| sessionId.toUInt64

def onMessage (serviceId instanceId methodId : UInt16) (messageType returnCode : UInt8)
    (clientId sessionId : UInt16) (payload : Option Bytes) (payloadLen : UInt32) : MessagePost :=
  let hdr : VsomeipMessageHeader := {
    serviceId, instanceId, methodId, messageType, returnCode
    requestId := packRequestId clientId sessionId
    payloadLen }
  { header := encodeHeader hdr
    payload := if payloadLen > 0 then payload else none
    payloadLen }

theorem byteOf16 (v shift : UInt16) (h : shift.toNat < 16) :
    ((v >>> shift) &&& 0xFF).toUInt8 = UInt8.ofNat (v.toNat / 2 ^ shift.toNat) := by
  apply UInt8.toNat.inj
  rw [UInt16.toNat_toUInt8, UInt16.toNat_and, UInt16.toNat_shiftRight, Nat.mod_eq_of_lt h,
    Nat.shiftRight_eq_div_pow, UInt8.toNat_ofNat']
  exact (congrArg (· % 2 ^ 8) (Nat.and_two_pow_sub_one_eq_mod _ 8)).trans (Nat.mod_mod _ _)

theorem byteOf32 (v shift : UInt32) (h : shift.toNat < 32) :
    ((v >>> shift) &&& 0xFF).toUInt8 = UInt8.ofNat (v.toNat / 2 ^ shift.toNat) := by
  apply UInt8.toNat.inj
  rw [UInt32.toNat_toUInt8, UInt32.toNat_and, UInt32.toNat_shiftRight, Nat.mod_eq_of_lt h,
    Nat.shiftRight_eq_div_pow, UInt8.toNat_ofNat']
  exact (congrArg (· % 2 ^ 8) (Nat.and_two_pow_sub_one_eq_mod _ 8)).trans (Nat.mod_mod _ _)

theorem byteOf64 (v shift : UInt64) (h : shift.toNat < 64) :
    ((v >>> shift) &&& 0xFF).toUInt8 = UInt8.ofNat (v.toNat / 2 ^ shift.toNat) := by
  apply UInt8.toNat.inj
  rw [UInt64.toNat_toUInt8, UInt64.toNat_and, UInt64.toNat_shiftRight, Nat.mod_eq_of_lt h,
    Nat.shiftRight_eq_div_pow, UInt8.toNat_ofNat']
  exact (congrArg (· % 2 ^ 8) (Nat.and_two_pow_sub_one_eq_mod _ 8)).trans (Nat.mod_mod _ _)

theorem pushU16_eq (buf : Bytes) (v : UInt16) : pushU16 buf v = buf ++ toBytes 2 v.toNat := by
  have hLow : (v &&& 0xFF).toUInt8 = UInt8.ofNat v.toNat := by simpa using byteOf16 v 0 (by decide)
  rw [pushU16, hLow, byteOf16 v 8 (by decide), List.append_assoc]
  rfl

theorem pushU32_eq (buf : Bytes) (v : UInt32) : pushU32 buf v = buf ++ toBytes 4 v.toNat := by
  have hLow : (v &&& 0xFF).toUInt8 = UInt8.ofNat v.toNat := by simpa using byteOf32 v 0 (by decide)
  rw [pushU32, hLow, byteOf32 v 8 (by decide), byteOf32 v 16 (by decide), byteOf32 v 24 (by decide)]
  simp [toBytes, Nat.div_div_eq_div_mul]

theorem pushU64_eq (buf : Bytes) (v : UInt64) : pushU64 buf v = buf ++ toBytes 8 v.toNat := by
  have hByte : ∀ i ∈ List.range 8, ((v >>> (UInt64.ofNat i * 8)) &&& 0xFF).toUInt8 =
      UInt8.ofNat (v.toNat / 256 ^ i) := by
    intro i hi
    have hLt := List.mem_range.mp hi
    have hShift : (UInt64.ofNat i * 8).toNat = 8 * i :=
      (by decide : ∀ i < 8, (UInt64.ofNat i * 8).toNat = 8 * i) i hLt
    rw [byteOf64 v _ (by omega), hShift, Nat.pow_mul]
  rw [pushU64, toBytes_eq_map, ← List.map_congr_left hByte, List.foldl_append_eq_append,
    ← List.flatMap_def, ← List.map_eq_flatMap]

theorem encodeHeader_eq (hdr : VsomeipMessageHeader) :
    encodeHeader hdr = VsomeipDisc.kMessage :: (toBytes 2 hdr.serviceId.toNat ++
      (toBytes 2 hdr.instanceId.toNat ++ (toBytes 2 hdr.methodId.toNat ++
      (hdr.messageType :: hdr.returnCode :: (toBytes 8 hdr.requestId.toNat ++
      toBytes 4 hdr.payloadLen.toNat))))) := by
  simp only [encodeHeader, pushU16_eq, pushU32_eq, pushU64_eq, List.append_assoc,
    List.cons_append, List.nil_append]

@[simp] theorem encodeHeader_length (hdr : VsomeipMessageHeader) :
    (encodeHeader hdr).length = 21 := by
  simp [encodeHeader_eq]

theorem packRequestId_toNat (clientId sessionId : UInt16) :
    (packRequestId clientId sessionId).toNat = clientId.toNat * 65536 + sessionId.toNat := by
  have hSession : sessionId.toNat < 2 ^ 16 := sessionId.toNat_lt
  have hShift : (clientId.toUInt64 <<< 16).toNat = clientId.toNat <<< 16 :=
    toNat_toUInt64_shiftLeft clientId (by decide)
  rw [packRequestId, UInt64.toNat_or, hShift, UInt16.toNat_toUInt64,
    ← Nat.shiftLeft_add_eq_or_of_lt hSession, Nat.shiftLeft_eq]

end VsomeipSubscriber

end VsomeipDart
