import VsomeipDart.DartApi
import VsomeipDart.Subscriber

/-! # Posting to Dart (`vsomeip_bridge.cpp`) and the events of an application (`vsomeip_app.cpp`)

`ready` says that `g_post_cobject` is set, which `vsomeip_bridge_init` does. Allocation does not fail.
A result of `none` means that nothing is handed to `Dart_PostCObject_DL`.
-/

namespace VsomeipDart
set_option autoImplicit false

open LittleEndian

namespace Bridge

def postToDart (ready : Bool) (disc : UInt8) (data : Bytes) (len : UInt32) : Option CObject :=
  if !ready then none
  else if len > kMaxPayloadBytes then none
  else some (.value (.externalTypedData (disc :: data.take len.toNat)))

def postMessageToDart (ready : Bool) (post : MessagePost) : Option CObject :=
  if !ready then none
  else if post.payloadLen > kMaxPayloadBytes then none
  else
    let payloadObj : CValue :=
      match post.payload with
      | some payload =>
        if post.payloadLen > 0 then .externalTypedData (payload.take post.payloadLen.toNat) else .null
      | none => .null
    some (.array [.typedData post.header, payloadObj])

/-- The bytes copied behind the header: `payload && payload_len > 0` guards the `memcpy`. -/
def copiedPayload (post : MessagePost) : Bytes :=
  match post.payload with
  | some payload => if post.payloadLen > 0 then payload.take post.payloadLen.toNat else []
  | none => []

structure CallbackArgs where
  disc : UInt8
  data : Bytes
  len : UInt32
  deriving DecidableEq, Repr

/-- The `post_fn` of `vsomeip_subscribe_with_callback`, with a non-null callback. The header is never
empty, so `buf[0]` exists. -/
def postToCallback (post : MessagePost) : Option CallbackArgs :=
  let total := UInt32.ofNat post.header.length + post.payloadLen
  match post.header ++ copiedPayload post with
  | [] => none
  | disc :: data => some { disc, data, len := total - 1 }

end Bridge

inductive NativeEvent where
  | state (state : VsomeipState)
  /-- `VsomeipApp::on_availability`; the struct ends in a padding byte of no fixed value -/
  | availability (avail : VsomeipAvailability) (padding : UInt8)
  /-- an error text, as posted when an application cannot be created or its event loop ends -/
  | error (text : Bytes)
  deriving DecidableEq, Repr

namespace NativeEvent

def disc : NativeEvent → UInt8
  | state _ => VsomeipDisc.kState
  | availability _ _ => VsomeipDisc.kAvailability
  | error _ => VsomeipDisc.kError

def data : NativeEvent → Bytes
  | state s => [if s.registered then 1 else 0] ++ s.appName
  | availability a padding =>
    toBytes 2 a.serviceId.toNat ++ toBytes 2 a.instanceId.toNat ++
      [if a.available then 1 else 0] ++ [padding]
  | error text => text

def post (ready : Bool) (event : NativeEvent) : Option CObject :=
  Bridge.postToDart ready event.disc event.data (UInt32.ofNat event.data.length)

end NativeEvent

end VsomeipDart
