import VsomeipDart.Lib.LittleEndian
import VsomeipDart.Message

/-! # The Dart codec of the bridge wire protocol (`codec.dart`)

`ByteData` accessors read little-endian fields and raise a `RangeError` past the end of the buffer;
`getUint64` returns a signed 64-bit `int`.
-/

namespace VsomeipDart
set_option autoImplicit false

open LittleEndian

namespace ByteData

def getUint (width : Nat) (data : Bytes) (offset : Nat) : Except DartError Int :=
  match readAt width data offset with
  | some value => .ok value
  | none => .error .rangeError

def getUint8 (data : Bytes) (offset : Nat) : Except DartError Int := getUint 1 data offset
def getUint16 (data : Bytes) (offset : Nat) : Except DartError Int := getUint 2 data offset
def getUint32 (data : Bytes) (offset : Nat) : Except DartError Int := getUint 4 data offset

def signed64 (pattern : Int) : Int :=
  if pattern < 2 ^ 63 then pattern else pattern - 2 ^ 64

def getUint64 (data : Bytes) (offset : Nat) : Except DartError Int :=
  (getUint 8 data offset).map signed64

theorem getUint_field {width value : Nat} (h : value < 256 ^ width) {front : Bytes} {offset : Nat}
    (hOffset : front.length = offset) (back : Bytes) :
    getUint width (front ++ (toBytes width value ++ back)) offset = .ok (value : Int) := by
  rw [getUint, ← hOffset, readAt_field h]

theorem getUint_drop {width value : Nat} (hWidth : 0 < width) (h : value < 256 ^ width)
    {data back : Bytes} {offset : Nat} (hDrop : data.drop offset = toBytes width value ++ back) :
    getUint width data offset = .ok (value : Int) ∧ data.drop (offset + width) = back := by
  have hLength := congrArg List.length hDrop
  rw [List.length_drop, List.length_append, toBytes_length] at hLength
  constructor
  · have hField := getUint_field h (List.length_take_of_le (l := data) (i := offset) (by omega)) back
    rwa [← hDrop, List.take_append_drop] at hField
  · rw [← List.drop_drop, hDrop, List.drop_left' (toBytes_length width value)]

theorem getUint_fits {width offset : Nat} {data : Bytes} (h : offset + width ≤ data.length) :
    getUint width data offset = .ok (window width data offset : Int) := by
  rw [getUint, readAt, if_pos h]

end ByteData

structure WireHeader where
  serviceId : Int
  instanceId : Int
  methodId : Int
  messageType : Int
  returnCode : Int
  requestId : Int
  payloadLen : Int
  deriving DecidableEq, Repr

structure SubscribeAck where
  serviceId : Int
  instanceId : Int
  eventgroupId : Int
  eventId : Int
  errorCode : Int
  deriving DecidableEq, Repr

namespace WireCodec

open ByteData

def decodeHeader (data : Bytes) (offset : Nat) : Except DartError WireHeader := do
  -- Skip discriminator at offset
  let o := offset + 1
  let serviceId ← getUint16 data o
  let instanceId ← getUint16 data (o + 2)
  let methodId ← getUint16 data (o + 4)
  let messageType ← getUint8 data (o + 6)
  let returnCode ← getUint8 data (o + 7)
  let requestId ← getUint64 data (o + 8)
  let payloadLen ← getUint32 data (o + 16)
  return { serviceId, instanceId, methodId, messageType, returnCode, requestId, payloadLen }

/-- The header in the first 21 bytes. -/
def headerAt (data : Bytes) : WireHeader where
  serviceId := window 2 data 1
  instanceId := window 2 data 3
  methodId := window 2 data 5
  messageType := window 1 data 7
  returnCode := window 1 data 8
  requestId := signed64 (window 8 data 9)
  payloadLen := window 4 data 17

theorem decodeHeader_eq {data : Bytes} (h : 21 ≤ data.length) :
    decodeHeader data 0 = .ok (headerAt data) := by
  simp only [decodeHeader, getUint8, getUint16, getUint32, getUint64, Nat.zero_add, Nat.reduceAdd]
  rw [getUint_fits (by omega), getUint_fits (by omega), getUint_fits (by omega),
    getUint_fits (by omega), getUint_fits (by omega), getUint_fits (by omega),
    getUint_fits (by omega)]
  rfl

def decodeAvailability (data : Bytes) (offset : Nat) : Except DartError VsomeipAvailabilityEvent := do
  let o := offset + 1
  let serviceId ← getUint16 data o
  let instanceId ← getUint16 data (o + 2)
  let available ← getUint8 data (o + 4)
  return { serviceId, instanceId, available := available != 0 }

/-- `String.fromCharCodes(data, start)`: every byte becomes one code unit. -/
def fromCharCodes (data : Bytes) (start : Nat) : Except DartError DartString :=
  if start ≤ data.length then .ok ((data.drop start).map UInt8.toUInt16) else .error .rangeError

def byteAt (data : Bytes) (index : Nat) : Except DartError UInt8 :=
  match data[index]? with
  | some byte => .ok byte
  | none => .error .rangeError

def decodeState (data : Bytes) (offset : Nat) : Except DartError VsomeipStateEvent := do
  let o := offset + 1
  let registered ← byteAt data o
  let appName ← fromCharCodes data (o + 1)
  return { registered := registered != 0, appName }

def decodeSubscribeAck (data : Bytes) (offset : Nat) : Except DartError SubscribeAck := do
  let o := offset + 1
  let serviceId ← getUint16 data o
  let instanceId ← getUint16 data (o + 2)
  let eventgroupId ← getUint16 data (o + 4)
  let eventId ← getUint16 data (o + 6)
  let errorCode ← getUint16 data (o + 8)
  return { serviceId, instanceId, eventgroupId, eventId, errorCode }

def decodeError (data : Bytes) (offset : Nat) : Except DartError DartString :=
  fromCharCodes data (offset + 1)

def toMessage (hdr : WireHeader) (payload : Option Bytes) : SomeIpMessage where
  serviceId := hdr.serviceId
  instanceId := hdr.instanceId
  methodId := hdr.methodId
  messageType := .fromByte hdr.messageType
  returnCode := hdr.returnCode
  requestId := hdr.requestId
  payload := payload

end WireCodec

end VsomeipDart
