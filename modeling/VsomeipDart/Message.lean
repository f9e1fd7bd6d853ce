import VsomeipDart.Types

/-! # Messages on the Dart side (`vsomeip_message.dart`)

A Dart `int` is an `Int`; a Dart string is its list of UTF-16 code units.
-/

namespace VsomeipDart
set_option autoImplicit false

abbrev DartString := List UInt16

inductive SomeIpMessageType where
  | request
  | requestNoReturn
  | notification
  | requestAck
  | requestNoReturnAck
  | notificationAck
  | response
  | error
  | unknown
  deriving DecidableEq, Repr

namespace SomeIpMessageType

def value : SomeIpMessageType → Int
  | request => 0x00
  | requestNoReturn => 0x01
  | notification => 0x02
  | requestAck => 0x40
  | requestNoReturnAck => 0x41
  | notificationAck => 0x42
  | response => 0x80
  | error => 0x81
  | unknown => 0xFF

def values : List SomeIpMessageType :=
  [request, requestNoReturn, notification, requestAck, requestNoReturnAck, notificationAck,
    response, error, unknown]

def fromByte (byte : Int) : SomeIpMessageType :=
  (values.find? fun t => t.value == byte).getD unknown

theorem fromByte_value (t : SomeIpMessageType) : fromByte t.value = t := by
  cases t <;> decide

theorem fromByte_eq_iff (byte : Int) (t : SomeIpMessageType) (h : t ≠ unknown) :
    fromByte byte = t ↔ byte = t.value := by
  constructor
  · intro hByte
    unfold fromByte at hByte
    cases hFind : values.find? (fun t => t.value == byte) with
    | none =>
      rw [hFind] at hByte
      exact absurd hByte.symm h
    | some found =>
      rw [hFind] at hByte
      have hFound : found = t := hByte
      have hValue := List.find?_some hFind
      rw [hFound] at hValue
      exact (beq_iff_eq.mp hValue).symm
  · intro hByte
    rw [hByte, fromByte_value]

end SomeIpMessageType

structure SomeIpMessage where
  serviceId : Int
  instanceId : Int
  methodId : Int
  messageType : SomeIpMessageType
  returnCode : Int
  requestId : Int
  payload : Option Bytes
  deriving DecidableEq, Repr

structure SomeIpKey where
  serviceId : Int
  instanceId : Int
  methodId : Int
  deriving DecidableEq, Repr

def SomeIpMessage.key (msg : SomeIpMessage) : SomeIpKey :=
  ⟨msg.serviceId, msg.instanceId, msg.methodId⟩

structure VsomeipAvailabilityEvent where
  serviceId : Int
  instanceId : Int
  available : Bool
  deriving DecidableEq, Repr

structure VsomeipStateEvent where
  registered : Bool
  appName : DartString
  deriving DecidableEq, Repr

inductive DartError where
  | typeError
  | rangeError
  | unsupportedError
  deriving DecidableEq, Repr

end VsomeipDart
