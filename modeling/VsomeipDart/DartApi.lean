import VsomeipDart.Throttle

/-! # Objects that cross a Dart port

`Dart_CObject` is what the native side hands to `Dart_PostCObject_DL`; `DartObject` is what a
`ReceivePort` listener is given, with the run-time types that the listeners test.
-/

namespace VsomeipDart
set_option autoImplicit false

/-- A `Dart_CObject` other than an array. External typed data owns its buffer. -/
inductive CValue where
  | null
  | typedData (bytes : Bytes)
  | externalTypedData (bytes : Bytes)
  deriving DecidableEq, Repr

inductive CObject where
  | value (value : CValue)
  | array (items : List CValue)
  deriving DecidableEq, Repr

structure SetThrottleCmd where
  serviceId : Int
  instanceId : Int
  methodId : Int
  maxHz : Double
  deriving DecidableEq, Repr

inductive DartValue where
  | null
  | int (value : Int)
  | uint8List (bytes : Bytes)
  deriving DecidableEq, Repr

inductive DartObject where
  | value (value : DartValue)
  | list (items : List DartValue)
  | string (text : String)
  | setThrottleCmd (cmd : SetThrottleCmd)
  | someIpMessage (msg : SomeIpMessage)
  | availabilityEvent (event : VsomeipAvailabilityEvent)
  | stateEvent (event : VsomeipStateEvent)
  deriving DecidableEq, Repr

def CValue.deliver : CValue → DartValue
  | null => .null
  | typedData bytes => .uint8List bytes
  | externalTypedData bytes => .uint8List bytes

def CObject.deliver : CObject → DartObject
  | value v => .value v.deliver
  | array items => .list (items.map CValue.deliver)

namespace DartValue

def uint8List? : DartValue → Option Bytes
  | uint8List bytes => some bytes
  | _ => none

def asUint8List (v : DartValue) : Except DartError Bytes :=
  match v.uint8List? with
  | some bytes => .ok bytes
  | none => .error .typeError

end DartValue

namespace DartObject

/-- `msg is List`: a `Uint8List` is also a `List`, of its bytes as `int`s. -/
def list? : DartObject → Option (List DartValue)
  | list items => some items
  | value (.uint8List bytes) => some (bytes.map fun byte => .int byte.toNat)
  | _ => none

end DartObject

end VsomeipDart
