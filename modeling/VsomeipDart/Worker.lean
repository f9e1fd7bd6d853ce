import Mathlib.Data.List.AList
import VsomeipDart.Codec
import VsomeipDart.DartApi

/-! # The worker isolate (`vsomeip_worker.dart`)

The listener of the worker port, with the objects that it sends to the main isolate as its result.
An error result is an uncaught Dart exception.
-/

namespace VsomeipDart
set_option autoImplicit false

namespace DartDisc

def message : UInt8 := 0x01
def availability : UInt8 := 0x02
def state : UInt8 := 0x03
def subscribeAck : UInt8 := 0x04
def error : UInt8 := 0x05
def sentinel : UInt8 := 0xFF

end DartDisc

abbrev Throttles := AList fun _ : SomeIpKey => SignalThrottle

structure WorkerState where
  throttles : Throttles
  portOpen : Bool

namespace WorkerState

def initial : WorkerState := ⟨∅, true⟩

end WorkerState

namespace Worker

def handleMessage (now : Int) (headerData : Bytes) (payload : Option Bytes)
    (throttles : Throttles) : Except DartError (Throttles × List DartObject) := do
  let hdr ← WireCodec.decodeHeader headerData 0
  let key : SomeIpKey := ⟨hdr.serviceId, hdr.instanceId, hdr.methodId⟩
  let message := DartObject.someIpMessage (WireCodec.toMessage hdr payload)
  match throttles.lookup key with
  | none => return (throttles, [message])
  | some throttle =>
    let (forward, throttle) := throttle.shouldForward now
    -- the map holds a reference, so the clock update is visible to the next message
    let throttles := throttles.insert key throttle
    return (throttles, if forward then [message] else [])

def handleDisc (now : Int) (data : Bytes) (payload : Option Bytes)
    (throttles : Throttles) : Except DartError (Throttles × List DartObject) := do
  match data with
  | [] => return (throttles, [])
  | disc :: _ =>
    if disc = DartDisc.message then
      handleMessage now data payload throttles
    else if disc = DartDisc.availability then
      let event ← WireCodec.decodeAvailability data 0
      return (throttles, [.availabilityEvent event])
    else if disc = DartDisc.state then
      let event ← WireCodec.decodeState data 0
      return (throttles, [.stateEvent event])
    else if disc = DartDisc.subscribeAck then
      return (throttles, [.value (.uint8List data)])
    else if disc = DartDisc.error then
      return (throttles, [.value (.uint8List data)])
    else if disc = DartDisc.sentinel then
      return (throttles, [])
    else
      return (throttles, [.value (.uint8List data)])

/-- The branch of the listener that a message takes, by run-time type and length. -/
inductive Branch where
  | headerAndPayload (first second : DartValue)
  | singleBuffer (bytes : Bytes)
  | setThrottle (cmd : SetThrottleCmd)
  | shutdown
  | ignored
  deriving DecidableEq, Repr

def branch (msg : DartObject) : Branch :=
  match msg.list? with
  -- msg is List && msg.length == 2
  | some [first, second] => .headerAndPayload first second
  | _ =>
    match msg with
    | .value (.uint8List bytes) => if bytes.isEmpty then .ignored else .singleBuffer bytes
    | .setThrottleCmd cmd => .setThrottle cmd
    | .string text => if text = "shutdown" then .shutdown else .ignored
    | _ => .ignored

def listener (now : Int) (st : WorkerState) (msg : DartObject) :
    Except DartError (WorkerState × List DartObject) := do
  match branch msg with
  | .headerAndPayload first second =>
    let headerBytes ← first.asUint8List
    let (throttles, sent) ← handleDisc now headerBytes second.uint8List? st.throttles
    return ({ st with throttles }, sent)
  | .singleBuffer bytes =>
    let (throttles, sent) ← handleDisc now bytes none st.throttles
    return ({ st with throttles }, sent)
  | .setThrottle cmd =>
    let key : SomeIpKey := ⟨cmd.serviceId, cmd.instanceId, cmd.methodId⟩
    let throttle ← SignalThrottle.create cmd.maxHz
    return ({ st with throttles := st.throttles.insert key throttle }, [])
  | .shutdown => return ({ st with portOpen := false }, [])
  | .ignored => return (st, [])

/-- One turn of the event loop. An uncaught exception ends the isolate, and with it the port. -/
def turn (st : WorkerState) (input : Int × DartObject) : WorkerState × List DartObject :=
  if st.portOpen then
    match listener input.1 st input.2 with
    | .ok out => out
    | .error _ => ({ st with portOpen := false }, [])
  else (st, [])

section HandleMessage

variable (now : Int) {headerData : Bytes} {hdr : WireHeader} (payload : Option Bytes)
  {throttles : Throttles} (hDecode : WireCodec.decodeHeader headerData 0 = .ok hdr)

include hDecode

theorem handleMessage_none
    (h : throttles.lookup ⟨hdr.serviceId, hdr.instanceId, hdr.methodId⟩ = none) :
    handleMessage now headerData payload throttles =
      .ok (throttles, [.someIpMessage (WireCodec.toMessage hdr payload)]) := by
  rw [handleMessage, hDecode]
  show (match throttles.lookup ⟨hdr.serviceId, hdr.instanceId, hdr.methodId⟩ with
    | none => _
    | some throttle => _) = _
  rw [h]
  rfl

theorem handleMessage_some {throttle : SignalThrottle}
    (h : throttles.lookup ⟨hdr.serviceId, hdr.instanceId, hdr.methodId⟩ = some throttle) :
    handleMessage now headerData payload throttles =
      .ok (throttles.insert ⟨hdr.serviceId, hdr.instanceId, hdr.methodId⟩
          (throttle.shouldForward now).2,
        if (throttle.shouldForward now).1 then
          [.someIpMessage (WireCodec.toMessage hdr payload)] else []) := by
  rw [handleMessage, hDecode]
  show (match throttles.lookup ⟨hdr.serviceId, hdr.instanceId, hdr.methodId⟩ with
    | none => _
    | some throttle => _) = _
  rw [h]
  rfl

end HandleMessage

theorem listener_pair (now : Int) (st : WorkerState) (headerBytes : Bytes) (second : DartValue) :
    listener now st (.list [.uint8List headerBytes, second]) =
      (handleDisc now headerBytes second.uint8List? st.throttles).map
        fun out => ({ st with throttles := out.1 }, out.2) := by
  unfold listener
  simp only [branch, DartObject.list?, DartValue.asUint8List, DartValue.uint8List?]
  cases handleDisc now headerBytes second.uint8List? st.throttles <;> rfl

theorem branch_uint8List {bytes : Bytes} (hNonempty : bytes ≠ []) (hLength : bytes.length ≠ 2) :
    branch (.value (.uint8List bytes)) = .singleBuffer bytes := by
  match bytes with
  | [] => exact absurd rfl hNonempty
  | [_] => rfl
  | [_, _] => exact absurd rfl hLength
  | _ :: _ :: _ :: _ => rfl

theorem listener_uint8List (now : Int) (st : WorkerState) {bytes : Bytes} (hNonempty : bytes ≠ [])
    (hLength : bytes.length ≠ 2) :
    listener now st (.value (.uint8List bytes)) =
      (handleDisc now bytes none st.throttles).map
        fun out => ({ st with throttles := out.1 }, out.2) := by
  unfold listener
  rw [branch_uint8List hNonempty hLength]
  dsimp only
  cases handleDisc now bytes none st.throttles <;> rfl

/-- A two-byte buffer is taken for a list of header and payload, and its first byte is no `Uint8List`. -/
theorem listener_twoBytes (now : Int) (st : WorkerState) (first second : UInt8) :
    listener now st (.value (.uint8List [first, second])) = .error .typeError :=
  rfl

theorem turn_ok {st : WorkerState} {input : Int × DartObject}
    {out : WorkerState × List DartObject} (hOpen : st.portOpen = true)
    (h : listener input.1 st input.2 = .ok out) : turn st input = out := by
  rw [turn, if_pos hOpen, h]

theorem turn_closed {st : WorkerState} (h : st.portOpen = false) (input : Int × DartObject) :
    turn st input = (st, []) := by
  rw [turn, h, if_neg Bool.false_ne_true]

end Worker

end VsomeipDart
