import Mathlib.Order.Bounds.Basic
import VsomeipDart.Subscriber

/-! # Cap'n Proto payloads (`capnp_bridge.h`, `capnp_subscriber.cpp`)

`size_t` and `uintptr_t` have 64 bits. Allocation does not fail.
-/

namespace VsomeipDart
set_option autoImplicit false

open LittleEndian

/-- A pointer that is not null, with the bytes that can be read from there. -/
structure Pointer where
  address : UInt64
  bytes : Bytes
  deriving DecidableEq, Repr

/-- A buffer from `new uint8_t[size]`, and what has been written to it. -/
structure CapnpBuffer where
  size : UInt64
  bytes : Bytes
  deriving DecidableEq, Repr

def isCapnpAligned (address : UInt64) : Bool := (address &&& 7) == 0

def kCapnpWordSize : UInt64 := 8

def kCapnpMaxPayloadBytes : UInt64 := (1 : UInt64) <<< 20

def sizeMax : UInt64 := 0xFFFFFFFFFFFFFFFF

def capnpAlignCopy (data : Bytes) (len : UInt64) : Option CapnpBuffer :=
  if len > kCapnpMaxPayloadBytes then none
  else if len > sizeMax - (kCapnpWordSize - 1) then none
  else
    let alignedLen := (len + kCapnpWordSize - 1) / kCapnpWordSize * kCapnpWordSize
    let padding := if alignedLen > len then List.replicate (alignedLen - len).toNat 0 else []
    some { size := alignedLen, bytes := data.take len.toNat ++ padding }

/-- The arguments of a `CapnpPostFn` call. -/
structure CapnpPost where
  header : Bytes
  headerLen : UInt32
  payload : Option Bytes
  payloadLen : UInt32
  wasAligned : Bool
  deriving DecidableEq, Repr

def CapnpPost.sent (post : CapnpPost) : Option Bytes :=
  post.payload.map fun bytes => bytes.take post.payloadLen.toNat

namespace CapnpSubscriber

def encodeCapnpHeader (hdr : VsomeipMessageHeader) (schemaId : UInt32) : Bytes :=
  let bytes := VsomeipSubscriber.encodeHeader hdr
  let bytes := bytes ++ [(schemaId &&& 0xFF).toUInt8]
  let bytes := bytes ++ [((schemaId >>> 8) &&& 0xFF).toUInt8]
  let bytes := bytes ++ [((schemaId >>> 16) &&& 0xFF).toUInt8]
  bytes ++ [((schemaId >>> 24) &&& 0xFF).toUInt8]

def onMessage (schemaId : UInt32) (serviceId instanceId methodId : UInt16)
    (messageType returnCode : UInt8) (clientId sessionId : UInt16) (payload : Option Pointer)
    (payloadLen : UInt32) : List CapnpPost :=
  let hdr : VsomeipMessageHeader := {
    serviceId, instanceId, methodId, messageType, returnCode
    requestId := (clientId.toUInt64 <<< 16) ||| sessionId.toUInt64
    payloadLen }
  let header := encodeCapnpHeader hdr schemaId
  let headerLen := UInt32.ofNat header.length
  match payload with
  | none => [⟨header, headerLen, none, 0, true⟩]
  | some data =>
    if payloadLen == 0 then [⟨header, headerLen, none, 0, true⟩]
    else if isCapnpAligned data.address then
      [⟨header, headerLen, some data.bytes, payloadLen, true⟩]
    else
      let alignedBuf := capnpAlignCopy data.bytes payloadLen.toUInt64
      [⟨header, headerLen, alignedBuf.map CapnpBuffer.bytes, payloadLen, false⟩]

@[simp] theorem encodeCapnpHeader_length (hdr : VsomeipMessageHeader) (schemaId : UInt32) :
    (encodeCapnpHeader hdr schemaId).length = 25 := by
  simp [encodeCapnpHeader]

theorem readAt_encodeCapnpHeader (hdr : VsomeipMessageHeader) (schemaId : UInt32) :
    readAt 4 (encodeCapnpHeader hdr schemaId) 17 = some hdr.payloadLen.toNat := by
  have hHeader : encodeCapnpHeader hdr schemaId =
      VsomeipSubscriber.pushU32 (VsomeipSubscriber.encodeHeader hdr) schemaId := rfl
  have hLt : hdr.payloadLen.toNat < 256 ^ 4 := hdr.payloadLen.toNat_lt
  have hField := readAt_field hLt
    (VsomeipDisc.kMessage :: (toBytes 2 hdr.serviceId.toNat ++ (toBytes 2 hdr.instanceId.toNat ++
      (toBytes 2 hdr.methodId.toNat ++
      (hdr.messageType :: hdr.returnCode :: toBytes 8 hdr.requestId.toNat)))))
    (toBytes 4 schemaId.toNat)
  rw [hHeader, VsomeipSubscriber.pushU32_eq, VsomeipSubscriber.encodeHeader_eq]
  simpa using hField

end CapnpSubscriber

/-- The buffer that a payload of `len` bytes is to be copied to. -/
structure WordPadded (data : Bytes) (len : Nat) (buffer : CapnpBuffer) : Prop where
  size : IsLeast {n | 8 ∣ n ∧ len ≤ n} buffer.size.toNat
  filled : buffer.bytes.length = buffer.size.toNat
  payload : buffer.bytes.take len = data.take len
  padding : ∀ byte ∈ buffer.bytes.drop len, byte = 0

section Copy

variable {data : Bytes} {len : UInt32}

theorem capnpAlignCopy_eq_none (h : kCapnpMaxPayloadBytes < len.toUInt64) :
    capnpAlignCopy data len.toUInt64 = none := by
  rw [capnpAlignCopy, if_pos h]

/-- Under the cap the length that is rounded up does not wrap around. -/
theorem roundUp_toNat {n : UInt64} (h : n.toNat ≤ 2 ^ 20) :
    ((n + kCapnpWordSize - 1) / kCapnpWordSize * kCapnpWordSize).toNat = (n.toNat + 7) / 8 * 8 := by
  have hWord : kCapnpWordSize.toNat = 8 := rfl
  have hEnd : (n + kCapnpWordSize).toNat = n.toNat + 8 := by
    rw [UInt64.toNat_add, hWord]
    omega
  have hSum : (n + kCapnpWordSize - 1).toNat = n.toNat + 7 := by
    rw [UInt64.toNat_sub_of_le _ _ (by
      rw [UInt64.le_iff_toNat_le, hEnd, UInt64.toNat_one]
      omega), hEnd, UInt64.toNat_one]
    omega
  rw [UInt64.toNat_mul, UInt64.toNat_div, hSum, hWord]
  omega

theorem isLeast_roundUp (n : Nat) : IsLeast {k | 8 ∣ k ∧ n ≤ k} ((n + 7) / 8 * 8) := by
  constructor
  · exact ⟨Nat.dvd_mul_left _ _, by omega⟩
  · rintro k ⟨hDvd, hLe⟩
    omega

theorem capnpAlignCopy_eq_some (h : len.toUInt64 ≤ kCapnpMaxPayloadBytes)
    (hData : len.toNat ≤ data.length) :
    ∃ buffer, capnpAlignCopy data len.toUInt64 = some buffer ∧ WordPadded data len.toNat buffer := by
  have hLen : len.toUInt64.toNat = len.toNat := UInt32.toNat_toUInt64 len
  have hCap : len.toNat ≤ 2 ^ 20 := by
    rw [UInt64.le_iff_toNat_le, hLen] at h
    exact h
  have hRound := roundUp_toNat (n := len.toUInt64) (by omega)
  rw [hLen] at hRound
  have hNoWrap : ¬ len.toUInt64 > sizeMax - (kCapnpWordSize - 1) := by
    rw [gt_iff_lt, UInt64.lt_iff_toNat_lt, hLen,
      show (sizeMax - (kCapnpWordSize - 1)).toNat = 2 ^ 64 - 8 from rfl]
    omega
  refine ⟨_, by rw [capnpAlignCopy, if_neg (by simpa using h), if_neg hNoWrap], ?_⟩
  generalize hAligned : (len.toUInt64 + kCapnpWordSize - 1) / kCapnpWordSize * kCapnpWordSize =
    alignedLen at hRound ⊢
  have hPadding : (if alignedLen > len.toUInt64 then
        List.replicate (alignedLen - len.toUInt64).toNat (0 : UInt8) else []) =
      List.replicate (alignedLen.toNat - len.toNat) 0 := by
    split
    · rename_i hGt
      rw [UInt64.toNat_sub_of_le _ _ (UInt64.le_of_lt hGt), hLen]
    · rename_i hLe
      rw [gt_iff_lt, UInt64.lt_iff_toNat_lt, hLen] at hLe
      rw [Nat.sub_eq_zero_of_le (by omega), List.replicate_zero]
  have hTake : (data.take len.toNat).length = len.toNat := List.length_take_of_le hData
  constructor
  · rw [hRound]
    exact isLeast_roundUp len.toNat
  · have hLe : len.toNat ≤ alignedLen.toNat := by omega
    rw [hPadding, hLen, List.length_append, hTake, List.length_replicate]
    exact Nat.add_sub_cancel' hLe
  · rw [hLen, List.take_left' hTake]
  · rw [hPadding, hLen, List.drop_left' hTake]
    intro byte hMem
    exact List.eq_of_mem_replicate hMem

end Copy

/-- The arguments of `on_message`: the bytes are there to be read, and null comes with length 0. -/
structure CapnpMessage where
  serviceId : UInt16
  instanceId : UInt16
  methodId : UInt16
  messageType : UInt8
  returnCode : UInt8
  clientId : UInt16
  sessionId : UInt16
  payload : Option Pointer
  payloadLen : UInt32
  readable : payloadLen.toNat ≤ (payload.elim 0 fun data => data.bytes.length)

namespace CapnpMessage

def posts (msg : CapnpMessage) (schemaId : UInt32) : List CapnpPost :=
  CapnpSubscriber.onMessage schemaId msg.serviceId msg.instanceId msg.methodId msg.messageType
    msg.returnCode msg.clientId msg.sessionId msg.payload msg.payloadLen

def movedTo (msg : CapnpMessage) (address : UInt64) : CapnpMessage :=
  { msg with
    payload := msg.payload.map fun data => { data with address }
    readable := by
      have hReadable := msg.readable
      cases hPayload : msg.payload with
      | none => rwa [hPayload] at hReadable
      | some data => rwa [hPayload] at hReadable }

@[simp] theorem movedTo_payload (msg : CapnpMessage) (address : UInt64) :
    (msg.movedTo address).payload = msg.payload.map fun data => { data with address } := rfl

/-- `post` is the one post made for `msg`, and it is what the fast path makes of the message. -/
structure PathsAgree (msg : CapnpMessage) (schemaId : UInt32) (post : CapnpPost) : Prop where
  sole : msg.posts schemaId = [post]
  same : ∀ address, isCapnpAligned address → ∃ fast, (msg.movedTo address).posts schemaId = [fast] ∧
    post.payloadLen = fast.payloadLen ∧ post.sent = fast.sent
  null : post.payload = none ↔ post.payloadLen = 0
  lengthField : readAt 4 post.header 17 = some post.payloadLen.toNat
  headerLen : post.header.length = 25 ∧ post.headerLen = 25
  copied : ∀ data ∈ msg.payload, ∀ buffer,
    capnpAlignCopy data.bytes msg.payloadLen.toUInt64 = some buffer →
      WordPadded data.bytes msg.payloadLen.toNat buffer

theorem copied_of_readable (msg : CapnpMessage) (data : Pointer) (hPayload : data ∈ msg.payload)
    (buffer : CapnpBuffer) (h : capnpAlignCopy data.bytes msg.payloadLen.toUInt64 = some buffer) :
    WordPadded data.bytes msg.payloadLen.toNat buffer := by
  have hReadable := msg.readable
  rw [Option.mem_def.mp hPayload] at hReadable
  have hCap : msg.payloadLen.toUInt64 ≤ kCapnpMaxPayloadBytes := by
    by_contra hOver
    rw [capnpAlignCopy_eq_none (UInt64.not_le.mp hOver)] at h
    cases h
  obtain ⟨copy, hCopy, hPadded⟩ := capnpAlignCopy_eq_some hCap hReadable
  rw [hCopy] at h
  exact Option.some.inj h ▸ hPadded

def hdr (msg : CapnpMessage) : VsomeipMessageHeader := {
  serviceId := msg.serviceId
  instanceId := msg.instanceId
  methodId := msg.methodId
  messageType := msg.messageType
  returnCode := msg.returnCode
  requestId := (msg.clientId.toUInt64 <<< 16) ||| msg.sessionId.toUInt64
  payloadLen := msg.payloadLen }

section Posts

variable {msg : CapnpMessage} {schemaId : UInt32}

theorem posts_empty (h : msg.payloadLen = 0) : msg.posts schemaId =
    [⟨CapnpSubscriber.encodeCapnpHeader msg.hdr schemaId, 25, none, 0, true⟩] := by
  cases hPayload : msg.payload with
  | none => simp [posts, CapnpSubscriber.onMessage, hPayload, hdr]
  | some data => simp [posts, CapnpSubscriber.onMessage, hPayload, hdr, h]

variable {data : Pointer} (hPayload : msg.payload = some data) (hLen : msg.payloadLen ≠ 0)

include hPayload hLen

theorem posts_aligned (h : isCapnpAligned data.address) : msg.posts schemaId =
    [⟨CapnpSubscriber.encodeCapnpHeader msg.hdr schemaId, 25, some data.bytes, msg.payloadLen,
      true⟩] := by
  simp [posts, CapnpSubscriber.onMessage, hPayload, hdr, h, hLen]

theorem posts_misaligned (h : isCapnpAligned data.address = false) : msg.posts schemaId =
    [⟨CapnpSubscriber.encodeCapnpHeader msg.hdr schemaId, 25,
      (capnpAlignCopy data.bytes msg.payloadLen.toUInt64).map CapnpBuffer.bytes, msg.payloadLen,
      false⟩] := by
  simp [posts, CapnpSubscriber.onMessage, hPayload, hdr, h, hLen]

/-- It is enough that the payload's own bytes are posted. -/
theorem pathsAgree_of_posts {bytes : Bytes} {wasAligned : Bool}
    (hPosts : msg.posts schemaId =
      [⟨CapnpSubscriber.encodeCapnpHeader msg.hdr schemaId, 25, some bytes, msg.payloadLen,
        wasAligned⟩])
    (hBytes : bytes.take msg.payloadLen.toNat = data.bytes.take msg.payloadLen.toNat) :
    ∃ post, msg.PathsAgree schemaId post := by
  refine ⟨_, hPosts, fun address hAddress => ?_, by simpa using hLen,
    CapnpSubscriber.readAt_encodeCapnpHeader msg.hdr schemaId,
    ⟨CapnpSubscriber.encodeCapnpHeader_length _ _, rfl⟩, copied_of_readable msg⟩
  have hMoved : (msg.movedTo address).payload = some { data with address } := by
    simp [hPayload]
  refine ⟨_, posts_aligned hMoved hLen hAddress, rfl, ?_⟩
  exact congrArg some hBytes

/-- Over the cap the copy is refused, and null is posted with the payload's length. -/
theorem posts_refused (h : isCapnpAligned data.address = false)
    (hOver : 2 ^ 20 < msg.payloadLen.toNat) : msg.posts schemaId =
    [⟨CapnpSubscriber.encodeCapnpHeader msg.hdr schemaId, 25, none, msg.payloadLen, false⟩] := by
  have hNone : capnpAlignCopy data.bytes msg.payloadLen.toUInt64 = none :=
    capnpAlignCopy_eq_none (by
      rw [UInt64.lt_iff_toNat_lt, UInt32.toNat_toUInt64]
      exact hOver)
  rw [posts_misaligned hPayload hLen h, hNone]
  rfl

theorem not_pathsAgree_of_over (h : isCapnpAligned data.address = false)
    (hOver : 2 ^ 20 < msg.payloadLen.toNat) : ¬ ∃ post, msg.PathsAgree schemaId post := by
  rintro ⟨post, hAgree⟩
  have hSole := hAgree.sole
  rw [posts_refused hPayload hLen h hOver, List.singleton_inj] at hSole
  have hNull := hAgree.null
  rw [← hSole] at hNull
  exact hLen (hNull.mp rfl)

end Posts

theorem payloadLen_ne_zero {msg : CapnpMessage} (hOver : 2 ^ 20 < msg.payloadLen.toNat) : msg.payloadLen ≠ 0 := by
  intro hZero
  rw [hZero] at hOver
  exact absurd hOver (by decide)

theorem exists_payload {msg : CapnpMessage} (h : msg.payloadLen ≠ 0) : ∃ data, msg.payload = some data := by
  have hReadable := msg.readable
  cases hPayload : msg.payload with
  | some data => exact ⟨data, rfl⟩
  | none =>
    rw [hPayload] at hReadable
    exact absurd (UInt32.toNat.inj (Nat.le_zero.mp hReadable)) h

theorem pathsAgree_of_le {msg : CapnpMessage} (h : msg.payloadLen.toNat ≤ 2 ^ 20) (schemaId : UInt32) :
    ∃ post, msg.PathsAgree schemaId post := by
  by_cases hLen : msg.payloadLen = 0
  · -- nothing to read, at any address
    refine ⟨_, posts_empty hLen, fun address _ => ?_, by simp,
      ?_, ⟨CapnpSubscriber.encodeCapnpHeader_length _ _, rfl⟩, copied_of_readable msg⟩
    · exact ⟨_, (posts_empty hLen : (msg.movedTo address).posts schemaId = _), rfl, rfl⟩
    · rw [CapnpSubscriber.readAt_encodeCapnpHeader, hdr, hLen]
  obtain ⟨data, hPayload⟩ := exists_payload hLen
  have hReadable := msg.readable
  rw [hPayload] at hReadable
  cases hAligned : isCapnpAligned data.address with
  | true => exact pathsAgree_of_posts hPayload hLen (posts_aligned hPayload hLen hAligned) rfl
  | false =>
    have hPosts : msg.posts schemaId = _ := posts_misaligned hPayload hLen hAligned
    obtain ⟨buffer, hCopy, hPadded⟩ := capnpAlignCopy_eq_some (by
      rw [UInt64.le_iff_toNat_le, UInt32.toNat_toUInt64]
      exact h) hReadable
    rw [hCopy] at hPosts
    exact pathsAgree_of_posts hPayload hLen hPosts hPadded.payload

/-- The fallback does what the fast path does exactly up to the cap of the copy. -/
theorem posts_agree_iff (msg : CapnpMessage) (schemaId : UInt32) :
    (∃ post, msg.PathsAgree schemaId post) ↔
      msg.payloadLen.toNat ≤ 2 ^ 20 ∨ ∃ data ∈ msg.payload, isCapnpAligned data.address := by
  rcases Nat.lt_or_ge (2 ^ 20) msg.payloadLen.toNat with hOver | hCap
  swap
  · exact iff_of_true (pathsAgree_of_le hCap schemaId) (.inl hCap)
  have hLen := payloadLen_ne_zero hOver
  obtain ⟨data, hPayload⟩ := exists_payload hLen
  rw [or_iff_right (Nat.not_le.mpr hOver)]
  cases hAligned : isCapnpAligned data.address with
  | true =>
    exact iff_of_true (pathsAgree_of_posts hPayload hLen (posts_aligned hPayload hLen hAligned) rfl)
      ⟨data, hPayload, hAligned⟩
  | false =>
    refine iff_of_false (not_pathsAgree_of_over hPayload hLen hAligned hOver) ?_
    rintro ⟨other, hMem, hOther⟩
    rw [hPayload] at hMem
    cases hMem
    rw [hAligned] at hOther
    cases hOther

/-- Over all addresses of the payload only the cap counts. -/
theorem agree_everywhere_iff (msg : CapnpMessage) (schemaId : UInt32) :
    (∀ address, ∃ post, (msg.movedTo address).PathsAgree schemaId post) ↔ msg.payloadLen.toNat ≤ 2 ^ 20 := by
  constructor
  · intro hAgree
    by_contra hOver
    rw [Nat.not_le] at hOver
    have hLen := payloadLen_ne_zero hOver
    obtain ⟨data, hPayload⟩ := exists_payload hLen
    have hMoved : (msg.movedTo 1).payload = some { data with address := 1 } := by simp [hPayload]
    have hOdd : isCapnpAligned 1 = false := by decide
    exact not_pathsAgree_of_over hMoved hLen hOdd hOver (hAgree 1)
  · exact fun hCap address => @pathsAgree_of_le (msg.movedTo address) hCap schemaId

/-- One byte more than the copy takes, at an odd address. -/
def overCap : CapnpMessage where
  serviceId := 0x1234
  instanceId := 1
  methodId := 0x8001
  messageType := 2
  returnCode := 0
  clientId := 0
  sessionId := 0
  payload := some ⟨0x1001, List.replicate 0x100001 0⟩
  payloadLen := 0x100001
  readable := by
    rw [Option.elim_some, List.length_replicate]
    decide

theorem overCap_posts_null :
    overCap.posts 0 = [⟨CapnpSubscriber.encodeCapnpHeader overCap.hdr 0, 25, none, 0x100001, false⟩] ∧
      ¬ ∀ (msg : CapnpMessage) (schemaId : UInt32), ∃ post, msg.PathsAgree schemaId post :=
  ⟨posts_refused rfl (by decide) (by decide) (by decide),
    fun h => not_pathsAgree_of_over (rfl : overCap.payload = _) (by decide) (by decide) (by decide)
      (h overCap 0)⟩

end CapnpMessage

end VsomeipDart
