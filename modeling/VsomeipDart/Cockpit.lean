import VsomeipDart.Bridge
import VsomeipDart.Codec
import VsomeipDart.DroneSim
import VsomeipDart.SignalHistory

/-! # The cockpit of the drone (`example/flutter_drone_cockpit/lib/main.dart`)

What is shown is drawn from `Telemetry`. Of a `SmoothedValue` this is the target, to which the shown value moves
from frame to frame. The estimate of the time that the battery lasts is left out; it returns for every percentage
from 0 to 100.
-/

namespace VsomeipDart
set_option autoImplicit false

open LittleEndian DroneSim

structure Telemetry (D : Type) where
  pitch : D
  roll : D
  yaw : D
  throttle : D
  altitude : D
  vsi : D
  groundSpeed : D
  distance : D
  voltage : D
  percent : D
  armed : UInt8
  flightMode : UInt8
  gpsFix : UInt8
  satCount : UInt8
  rssi : UInt8
  linkQuality : UInt8
  gimbalPitch : D
  gimbalRoll : D
  altitudeHistory : SignalHistory D
  vsiHistory : SignalHistory D
  groundSpeedHistory : SignalHistory D
  lastUpdateMs : Int
  armedSinceMs : Int

structure CockpitScreen (D : Type) where
  telemetry : Telemetry D
  status : String

namespace Telemetry

variable {D : Type}

def create (zero : D) : Telemetry D :=
  let history := SignalHistory.createDefault zero
  { pitch := zero, roll := zero, yaw := zero, throttle := zero
    altitude := zero, vsi := zero, groundSpeed := zero, distance := zero
    voltage := zero, percent := zero
    armed := 0, flightMode := 0, gpsFix := 0, satCount := 0
    rssi := 0, linkQuality := 0
    gimbalPitch := zero, gimbalRoll := zero
    altitudeHistory := history, vsiHistory := history, groundSpeedHistory := history
    lastUpdateMs := 0, armedSinceMs := 0 }

def updateArmedTransition (now : Int) (newArmed : UInt8) (t : Telemetry D) : Telemetry D :=
  let wasArmed := t.armed != 0
  let isArmed := newArmed != 0
  if isArmed && !wasArmed then { t with armedSinceMs := now }
  else if !isArmed && wasArmed then { t with armedSinceMs := 0 }
  else t

end Telemetry

section Messages

variable {D F : Type} [FloatOps F] [DoubleOps D F]

def getFloat32 (data : Bytes) (offset : Nat) : Except DartError D :=
  match readAt 4 data offset with
  | some bits => .ok (DoubleOps.widen (FloatOps.ofBits (UInt32.ofNat bits) : F))
  | none => .error .rangeError

/-- The `switch` over the event. The places that read the clock have a reading each. -/
def Telemetry.update (clock : Nat → Int) (methodId : Int) (payload : Bytes) (t : Telemetry D) :
    Except DartError (Telemetry D) :=
  if methodId = ATTITUDE_EVT.toNat then
    if payload.length ≥ 16 then do
      let pitch ← getFloat32 payload 0
      let roll ← getFloat32 payload 4
      let yaw ← getFloat32 payload 8
      let throttle ← getFloat32 payload 12
      return { t with pitch, roll, yaw, throttle }
    else return t
  else if methodId = MOTION_EVT.toNat then
    if payload.length ≥ 16 then do
      let alt ← getFloat32 payload 0
      let vsi ← getFloat32 payload 4
      let gs ← getFloat32 payload 8
      let distance ← getFloat32 payload 12
      return { t with
        altitude := alt, vsi, groundSpeed := gs, distance
        altitudeHistory := t.altitudeHistory.add (clock 0) alt
        vsiHistory := t.vsiHistory.add (clock 1) vsi
        groundSpeedHistory := t.groundSpeedHistory.add (clock 2) gs }
    else return t
  else if methodId = BATTERY_EVT.toNat then
    if payload.length ≥ 8 then do
      let voltage ← getFloat32 payload 0
      let percent ← getFloat32 payload 4
      return { t with voltage, percent }
    else return t
  else if methodId = STATUS_EVT.toNat then
    match payload with
    | armed :: flightMode :: gpsFix :: satCount :: _ =>
      return { t.updateArmedTransition (clock 0) armed with armed, flightMode, gpsFix, satCount }
    | _ => return t
  else if methodId = SIGNAL_EVT.toNat then
    match payload with
    | rssi :: linkQuality :: _ => return { t with rssi, linkQuality }
    | _ => return t
  else if methodId = GIMBAL_EVT.toNat then
    if payload.length ≥ 8 then do
      let gimbalPitch ← getFloat32 payload 0
      let gimbalRoll ← getFloat32 payload 4
      return { t with gimbalPitch, gimbalRoll }
    else return t
  else return t

namespace CockpitScreen

def onPortMessage (clock : Nat → Int) (msg : DartObject) (c : CockpitScreen D) :
    Except DartError (CockpitScreen D) :=
  match msg.list? with
  | some [header, payload] =>
    match header.uint8List? with
    | none => return c
    | some header =>
      if header.length < 21 then return c
      else if header.head? != some VsomeipDisc.kMessage then return c
      else do
        let methodId ← ByteData.getUint16 header 5
        match payload.uint8List? with
        | none => return c
        | some payload =>
          let t ← c.telemetry.update clock methodId payload
          return { telemetry := { t with lastUpdateMs := clock 3 }, status := "Live" }
  | _ => return c

end CockpitScreen

end Messages

structure Cockpit (D F : Type) where
  bridge : BridgeState F
  handle : Handle
  nativePortId : DartPort
  screen : CockpitScreen D

namespace Cockpit

def eventgroupId : UInt16 := 0x0001

def subscribed : List UInt16 := [ATTITUDE_EVT, MOTION_EVT, BATTERY_EVT, STATUS_EVT, SIGNAL_EVT, GIMBAL_EVT]

def smoothed : List (UInt16 × UInt16 × Rat) :=
  [(ATTITUDE_EVT, 0, 0.18), (ATTITUDE_EVT, 4, 0.20), (ATTITUDE_EVT, 8, 0.30),
    (MOTION_EVT, 0, 0.50), (MOTION_EVT, 4, 0.30)]

def filterEma : UInt8 := 1

variable {D F : Type} [FloatOps F] [DoubleOps D F]

/-- `_connect`, behind the creation of the application at an address. -/
def connect (b : BridgeState F) (handle : Handle) (nativePortId : DartPort) (now : Int) : Cockpit D F :=
  let b := Bridge.appCreate b handle
  let b := subscribed.foldl (fun b event =>
    Bridge.subscribe b handle SERVICE_ID INSTANCE_ID eventgroupId event nativePortId) b
  let b := smoothed.foldl (fun b (event, offset, alpha) =>
    Bridge.setFilter b SERVICE_ID INSTANCE_ID event filterEma offset (FloatOps.literal alpha)) b
  { bridge := b
    handle, nativePortId
    screen := {
      telemetry := { Telemetry.create (DoubleOps.zero : D) with lastUpdateMs := now }
      status := "Connected — waiting for telemetry" } }

/-- A post reaches the screen if it is posted to its port. -/
def listen (clock : Nat → Int) (nativePortId : DartPort) (screen : CockpitScreen D)
    (post : HandlerKey × DartPort × MessagePost) : Except DartError (CockpitScreen D) :=
  if post.2.1 = nativePortId then
    match Bridge.postMessageToDart true post.2.2 with
    | some obj => screen.onPortMessage clock obj.deliver
    | none => return screen
  else return screen

/-- A message is dispatched, and the screen listens to what is posted; `none` is a memory fault or an uncaught
exception. -/
def receive (clock : Nat → Int) (c : Cockpit D F) (msg : Vsomeip.Message) : Option (Cockpit D F) := do
  let (bridge, posts) ← Bridge.deliver c.bridge c.handle msg
  let screen ← (posts.foldlM (listen clock c.nativePortId) c.screen).toOption
  return { c with bridge, screen }

structure Controls (D : Type) where
  thr : D
  yaw : D
  pitch : D
  roll : D

/-- `_sendControlInput`: the four values are stored as `Float`s of the buffer, which has room for them. -/
def sendControlInput (c : Cockpit D F) (ctrl : Controls D) : BridgeState F × SendOutcome :=
  let buf := List.replicate 16 0
  let buf := pack buf 0 (DoubleOps.narrow ctrl.thr)
  let buf := pack buf 4 (DoubleOps.narrow ctrl.yaw)
  let buf := pack buf 8 (DoubleOps.narrow ctrl.pitch)
  let buf := pack buf 12 (DoubleOps.narrow ctrl.roll)
  Bridge.sendFireForget c.bridge c.handle SERVICE_ID INSTANCE_ID CTRL_INPUT_METHOD buf 16 false

end Cockpit

/-- What one iteration of the simulator brings: the state that `tick` computes, and the clock of the cockpit in
its handler of an event. -/
structure DroneTick (D : Type) where
  state : DroneState D
  clock : UInt16 → Nat → Int

inductive FlightStep (D : Type) where
  | tick (t : DroneTick D)
  | steer (ctrl : Cockpit.Controls D)

structure Flight (D F : Type) where
  publisher : Publisher
  drone : DroneState D
  cockpit : Cockpit D F

namespace Flight

variable {D F : Type} [FloatOps F] [DoubleOps D F]

/-- `none` is a failure in a handler, or the overflow of `tick_count`. -/
def tick (flight : Flight D F) (t : DroneTick D) : Option (Flight D F) := do
  let drone := DroneSim.tick t.state flight.drone
  let (publisher, notifications) := flight.publisher.publish drone
  let cockpit ← notifications.foldlM (fun cockpit msg => cockpit.receive (t.clock msg.method) msg) flight.cockpit
  if publisher.tickCount < 2 ^ 31 then return { publisher, drone, cockpit } else none

def outbox (c : Cockpit D F) : List Vsomeip.Message := ((Bridge.getApp c.bridge c.handle).map (·.sent)).getD []

def steer (flight : Flight D F) (ctrl : Cockpit.Controls D) : Flight D F :=
  let (bridge, _) := flight.cockpit.sendControlInput ctrl
  let cockpit := { flight.cockpit with bridge }
  let messages := (outbox cockpit).drop (outbox flight.cockpit).length
  { flight with drone := messages.foldl onMessage flight.drone, cockpit }

def step (flight : Flight D F) : FlightStep D → Option (Flight D F)
  | .tick t => flight.tick t
  | .steer ctrl => some (flight.steer ctrl)

def run (flight : Flight D F) (steps : List (FlightStep D)) : Option (Flight D F) := steps.foldlM step flight

end Flight

end VsomeipDart
