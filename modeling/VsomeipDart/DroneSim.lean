import VsomeipDart.Lib.LittleEndian
import VsomeipDart.SignalFilter
import VsomeipDart.Vsomeip

/-! # The telemetry of a drone (`src/tools/drone_sim.cpp`)

A `double` is abstract, with the conversions to and from `float`. `tick` computes the state with random
numbers, so that each iteration brings one: what is modelled is what is published of it, and what the pilot
puts in.
-/

namespace VsomeipDart
set_option autoImplicit false

open LittleEndian

/-- What C++ and Dart do with a `double`. -/
class DoubleOps (D : Type) (F : outParam Type) where
  zero : D
  /-- `static_cast<float>` -/
  narrow : D → F
  /-- a `float` where a `double` is expected -/
  widen : F → D

structure DroneState (D : Type) where
  pitch : D
  roll : D
  yaw : D
  throttle : D
  altitudeM : D
  vsiMs : D
  groundSpeedMs : D
  distanceM : D
  voltageV : D
  percent : D
  armed : UInt8
  flightMode : UInt8
  gpsFix : UInt8
  satCount : UInt8
  rssiPct : UInt8
  linkQuality : UInt8
  gimbalPitchDeg : D
  gimbalRollDeg : D
  pilotThrottle : D
  pilotYaw : D
  pilotPitch : D
  pilotRoll : D
  pilotInputAge : D

namespace DroneSim

def SERVICE_ID : UInt16 := 0x2000
def INSTANCE_ID : UInt16 := 0x0001
def ATTITUDE_EVT : UInt16 := 0x9001
def MOTION_EVT : UInt16 := 0x9002
def BATTERY_EVT : UInt16 := 0x9003
def STATUS_EVT : UInt16 := 0x9004
def SIGNAL_EVT : UInt16 := 0x9005
def GIMBAL_EVT : UInt16 := 0x9006
def CTRL_INPUT_METHOD : UInt16 := 0xA001

section Payloads

variable {D F : Type} [FloatOps F] [DoubleOps D F]

open DoubleOps

/-- `memcpy` of a `float` into a buffer that is large enough. -/
def pack (buf : Bytes) (off : Nat) (value : F) : Bytes := patch 4 buf off (FloatOps.toBits value).toNat

def buildAttitude (s : DroneState D) : Bytes :=
  let buf := List.replicate 16 0
  let buf := pack buf 0 (narrow s.pitch)
  let buf := pack buf 4 (narrow s.roll)
  let buf := pack buf 8 (narrow s.yaw)
  pack buf 12 (narrow s.throttle)

def buildMotion (s : DroneState D) : Bytes :=
  let buf := List.replicate 16 0
  let buf := pack buf 0 (narrow s.altitudeM)
  let buf := pack buf 4 (narrow s.vsiMs)
  let buf := pack buf 8 (narrow s.groundSpeedMs)
  pack buf 12 (narrow s.distanceM)

def buildBattery (s : DroneState D) : Bytes :=
  let buf := List.replicate 8 0
  let buf := pack buf 0 (narrow s.voltageV)
  pack buf 4 (narrow s.percent)

def buildStatus (s : DroneState D) : Bytes := [s.armed, s.flightMode, s.gpsFix, s.satCount]

def buildSignal (s : DroneState D) : Bytes := [s.rssiPct, s.linkQuality, 0, 0]

def buildGimbal (s : DroneState D) : Bytes :=
  let buf := List.replicate 8 0
  let buf := pack buf 0 (narrow s.gimbalPitchDeg)
  pack buf 4 (narrow s.gimbalRollDeg)

end Payloads

/-- What `notify` lets the subscribers of the event be given. -/
def notification (event : UInt16) (payload : Bytes) : Vsomeip.Message :=
  { Vsomeip.createMessage with
    service := SERVICE_ID
    instanceId := INSTANCE_ID
    method := event
    messageType := Vsomeip.MT_NOTIFICATION
    payload }

structure Publisher where
  tickCount : Nat
  lastArmed : UInt8
  lastMode : UInt8
  lastFix : UInt8
  lastSats : UInt8
  deriving DecidableEq, Repr

namespace Publisher

def start : Publisher := ⟨0, 0xFF, 0xFF, 0xFF, 0xFF⟩

variable {D F : Type} [FloatOps F] [DoubleOps D F]

/-- The state differs from the one that was published. -/
def statusChanged (p : Publisher) (s : DroneState D) : Bool :=
  s.armed != p.lastArmed || s.flightMode != p.lastMode || s.gpsFix != p.lastFix || s.satCount != p.lastSats

def publish (p : Publisher) (s : DroneState D) : Publisher × List Vsomeip.Message :=
  let attitude := [notification ATTITUDE_EVT (buildAttitude s)]
  let motion := if p.tickCount % 5 == 0 then [notification MOTION_EVT (buildMotion s)] else []
  let gimbal := if p.tickCount % 10 == 0 then [notification GIMBAL_EVT (buildGimbal s)] else []
  let signal := if p.tickCount % 25 == 0 then [notification SIGNAL_EVT (buildSignal s)] else []
  let battery := if p.tickCount % 50 == 0 then [notification BATTERY_EVT (buildBattery s)] else []
  let status := if p.statusChanged s then [notification STATUS_EVT (buildStatus s)] else []
  let p := if p.statusChanged s then
      { p with lastArmed := s.armed, lastMode := s.flightMode, lastFix := s.gpsFix, lastSats := s.satCount }
    else p
  ({ p with tickCount := p.tickCount + 1 }, attitude ++ (motion ++ (gimbal ++ (signal ++ (battery ++ status)))))

end Publisher

section Pilot

variable {D F : Type} [FloatOps F] [DoubleOps D F]

def onControlInput (msg : Vsomeip.Message) (s : DroneState D) : DroneState D :=
  if msg.payload.length < 16 then s
  else
    let float (off : Nat) : D :=
      DoubleOps.widen (FloatOps.ofBits (UInt32.ofNat (window 4 msg.payload off)) : F)
    { s with
      pilotThrottle := float 0
      pilotYaw := float 4
      pilotPitch := float 8
      pilotRoll := float 12
      pilotInputAge := DoubleOps.zero }

def onMessage (s : DroneState D) (msg : Vsomeip.Message) : DroneState D :=
  if (⟨SERVICE_ID, INSTANCE_ID, CTRL_INPUT_METHOD⟩ : HandlerKey).Matches msg then onControlInput msg s else s

end Pilot

/-- `tick`, which brings all of the state but for what the pilot has put in. -/
def tick {D : Type} (computed s : DroneState D) : DroneState D :=
  { computed with
    pilotThrottle := s.pilotThrottle
    pilotYaw := s.pilotYaw
    pilotPitch := s.pilotPitch
    pilotRoll := s.pilotRoll }

end DroneSim

end VsomeipDart
