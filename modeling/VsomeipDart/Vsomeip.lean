import VsomeipDart.Types

/-! # What the bridge uses of vsomeip

A message without a payload object has the empty payload. An application keeps one handler for each
pattern that it registered, and gives a message to every handler whose pattern matches it.
-/

namespace VsomeipDart
set_option autoImplicit false

namespace Vsomeip

structure Message where
  service : UInt16
  instanceId : UInt16
  method : UInt16
  messageType : UInt8
  returnCode : UInt8
  client : UInt16
  session : UInt16
  payload : Bytes
  deriving DecidableEq, Repr

structure Address where
  service : UInt16
  instanceId : UInt16
  method : UInt16
  client : UInt16
  session : UInt16
  deriving DecidableEq, Repr

def Message.address (msg : Message) : Address :=
  ⟨msg.service, msg.instanceId, msg.method, msg.client, msg.session⟩

def MT_REQUEST : UInt8 := 0x00
def MT_REQUEST_NO_RETURN : UInt8 := 0x01
def MT_NOTIFICATION : UInt8 := 0x02
def MT_RESPONSE : UInt8 := 0x80
def MT_UNKNOWN : UInt8 := 0xFF
def E_OK : UInt8 := 0x00

/-- `ANY_SERVICE`, `ANY_INSTANCE` and `ANY_METHOD` -/
def ANY : UInt16 := 0xFFFF

def createMessage : Message where
  service := 0
  instanceId := 0
  method := 0
  messageType := MT_UNKNOWN
  returnCode := E_OK
  client := 0
  session := 0
  payload := []

def createRequest : Message := { createMessage with messageType := MT_REQUEST }

/-- `runtime::create_response(request)`: an empty response with the address of the request. -/
def createResponse (request : Message) : Message :=
  { request with messageType := MT_RESPONSE, returnCode := E_OK, payload := [] }

end Vsomeip

/-- The service, instance and method of a registered message handler, as `HandlerKey` in the bridge. -/
structure HandlerKey where
  svc : UInt16
  inst : UInt16
  method : UInt16
  deriving DecidableEq, Repr

namespace HandlerKey

def ofMessage (msg : Vsomeip.Message) : HandlerKey := ⟨msg.service, msg.instanceId, msg.method⟩

def Matches (k : HandlerKey) (msg : Vsomeip.Message) : Bool :=
  (k.svc == Vsomeip.ANY || k.svc == msg.service) &&
    (k.inst == Vsomeip.ANY || k.inst == msg.instanceId) &&
    (k.method == Vsomeip.ANY || k.method == msg.method)

end HandlerKey

end VsomeipDart
