import VsomeipDart.Cockpit
import VsomeipDart.Lib.OwnedHeap

/-! # The connection of the cockpit (`example/flutter_drone_cockpit/lib/main.dart`)

The events of the isolate come in any order, and `_connect` and `_reconnect` wait between them for time to pass.
`cancel` of a port's subscription closes the port and is done at once, so the rest of `_disconnect` runs before
the next event.
-/

namespace VsomeipDart
set_option autoImplicit false

open DroneSim

def Telemetry.reset {D : Type} (zero : D) (t : Telemetry D) : Telemetry D :=
  { pitch := zero, roll := zero, yaw := zero, throttle := zero
    altitude := zero, vsi := zero, groundSpeed := zero, distance := zero
    voltage := zero, percent := zero
    armed := 0, flightMode := 0, gpsFix := 0, satCount := 0
    rssi := 0, linkQuality := 0
    gimbalPitch := zero, gimbalRoll := zero
    altitudeHistory := t.altitudeHistory.clear
    vsiHistory := t.vsiHistory.clear
    groundSpeedHistory := t.groundSpeedHistory.clear
    lastUpdateMs := 0, armedSinceMs := 0 }

inductive Setup where
  /-- the library cannot be opened -/
  | openThrows (error : String)
  /-- `vsomeip_bridge_init` is not there, or fails -/
  | initFails (error : Option String)
  /-- `vsomeip_app_create` is not there -/
  | createThrows (nativePortId : DartPort) (error : String)
  /-- the address is 0 for `nullptr` -/
  | created (nativePortId : DartPort) (handle : Handle)

namespace Setup

def port? : Setup → Option DartPort
  | openThrows _ => none
  | initFails _ => none
  | createThrows nativePortId _ => some nativePortId
  | created nativePortId _ => some nativePortId

end Setup

/-- What `_connect` meets behind its wait: which function is not there, or the time when all is done. -/
inductive Wiring where
  | noRequestService (error : String)
  | noSubscribe (error : String)
  | noSetFilter (error : String)
  | wired (now : Int)

/-- A call that waits: `_connect` for 500 ms, `_reconnect` behind `_disconnect` for 250 ms. -/
inductive Waiting where
  | connect (handle : Handle) (nativePortId : DartPort)
  | reconnect
  deriving DecidableEq, Repr

structure CockpitScreenState (D F : Type) where
  bridge : BridgeState F
  /-- the receive ports that are open -/
  openPorts : List DartPort
  heap : Heap Unit
  waiting : List Waiting
  mounted : Bool
  /-- `_connected` at the last `build`, which made the button -/
  shown : Bool
  screen : CockpitScreen D
  connected : Bool
  /-- `_bridgeLib` is set -/
  bridgeLib : Bool
  handle : Option Handle
  eventsPort : Option DartPort
  portSubscription : Option DartPort
  ctrl : Cockpit.Controls D
  /-- the timer is active -/
  ctrlTimer : Bool
  ctrlBuf : Option Nat
  watchdogTimer : Bool
  stale : Bool

/-- An event, with what the calls meet that it makes. `destroy` is what the lookup of `vsomeip_app_destroy` throws,
if it is not there, and `send` if `vsomeip_send_fire_forget` is there. -/
inductive CockpitEvent (D : Type) where
  | build
  | press (setup : Setup) (destroy : Option String)
  /-- `active` if one of the values is above 0.01; `buffer` is what `malloc` returns, if it is called -/
  | joystick (ctrl : Cockpit.Controls D) (active : Bool) (buffer : Option Nat) (send : Bool)
  | ctrlTick (buffer : Option Nat) (send : Bool)
  | watchdogTick (now : Int) (destroy : Option String)
  | portMessage (port : DartPort) (clock : Nat → Int) (msg : DartObject)
  /-- the time is up for the `i`-th call that waits -/
  | resume (i : Nat) (setup : Setup) (wiring : Wiring) (destroy : Option String)
  | dispose (destroy : Option String)

def CockpitEvent.destroy? {D : Type} : CockpitEvent D → Option String
  | press _ destroy => destroy
  | watchdogTick _ destroy => destroy
  | resume _ _ _ destroy => destroy
  | dispose destroy => destroy
  | build | joystick .. | ctrlTick .. | portMessage .. => none

namespace CockpitScreenState

def watchdogStaleMs : Int := 2000

variable {D F : Type}

/-- The VM gives no port that is open, and the allocator no address that is in use. -/
def possible (s : CockpitScreenState D F) : Setup → Bool
  | .openThrows _ => true
  | .initFails _ => true
  | .createThrows port _ => port ∉ s.openPorts
  | .created port handle => port ∉ s.openPorts && (Bridge.getApp s.bridge handle).isNone

/-- `setState(() => _status = …)`, which throws when the screen is gone. -/
def setStatus (s : CockpitScreenState D F) (status : String) : CockpitScreenState D F :=
  if s.mounted then { s with screen := { s.screen with status } } else s

def stopWatchdog (s : CockpitScreenState D F) : CockpitScreenState D F :=
  { s with watchdogTimer := false, stale := false }

def stopCtrlTimer (s : CockpitScreenState D F) : CockpitScreenState D F := { s with ctrlTimer := false }

def freeCtrlBuf (s : CockpitScreenState D F) : Option (CockpitScreenState D F) :=
  match s.ctrlBuf with
  | none => some s
  | some buf => do
    let heap ← s.heap.free buf
    return { s with heap, ctrlBuf := none }

def destroyApp (s : CockpitScreenState D F) (destroy : Option String) : Except String (CockpitScreenState D F) :=
  match s.handle, s.bridgeLib, destroy with
  | some _, true, some error => .error error
  | some handle, true, none => .ok { s with bridge := Bridge.appDestroy s.bridge handle }
  | _, _, _ => .ok s

def closePorts (s : CockpitScreenState D F) : CockpitScreenState D F :=
  { s with
    openPorts := s.openPorts.filter fun port => some port ≠ s.portSubscription ∧ some port ≠ s.eventsPort
    portSubscription := none
    eventsPort := none }

variable [FloatOps F] [DoubleOps D F]

def forget (s : CockpitScreenState D F) : CockpitScreenState D F :=
  let telemetry := s.screen.telemetry.reset DoubleOps.zero
  { s with handle := none, bridgeLib := false, screen := { s.screen with telemetry } }

/-- What is left, with the exception if there is one; `none` is a fault in the memory of the buffer. -/
def disconnect (s : CockpitScreenState D F) (destroy : Option String) :
    Option (CockpitScreenState D F × Option String) := do
  let s ← s.stopWatchdog.stopCtrlTimer.freeCtrlBuf
  match s.destroyApp destroy with
  | .error error => return (s, some error)
  | .ok s =>
    let s := s.closePorts.forget
    return (if s.mounted then { s with connected := false }.setStatus "Disconnected" else s, none)

def openPort (s : CockpitScreenState D F) (port : DartPort) : CockpitScreenState D F :=
  { s with bridgeLib := true, openPorts := port :: s.openPorts, eventsPort := some port, portSubscription := some port }

def createFailed (s : CockpitScreenState D F) (destroy : Option String) : Option (CockpitScreenState D F) := do
  let (s, error) ← (s.setStatus "vsomeip_app_create failed").disconnect destroy
  match error with
  | none => return s
  | some error => return s.setStatus ("Error: " ++ error)

def connect (s : CockpitScreenState D F) (setup : Setup) (destroy : Option String) :
    Option (CockpitScreenState D F) :=
  let s := s.setStatus "Loading bridge..."
  if !s.possible setup then some s else
  match setup with
  | .openThrows error => some (s.setStatus ("Error: " ++ error))
  | .initFails (some error) => some ({ s with bridgeLib := true }.setStatus ("Error: " ++ error))
  | .initFails none => some ({ s with bridgeLib := true }.setStatus "Bridge init failed")
  | .createThrows port error => some ((s.openPort port).setStatus ("Error: " ++ error))
  | .created port 0 => (s.openPort port).createFailed destroy
  | .created port handle =>
    let s := s.openPort port
    some { s with
      bridge := Bridge.appCreate s.bridge handle
      handle := some handle
      waiting := s.waiting ++ [.connect handle port] }

def subscribe (s : CockpitScreenState D F) (handle : Handle) (nativePortId : DartPort) : CockpitScreenState D F :=
  { s with bridge := Cockpit.subscribed.foldl (fun b event =>
      Bridge.subscribe b handle SERVICE_ID INSTANCE_ID Cockpit.eventgroupId event nativePortId) s.bridge }

def setFilters (s : CockpitScreenState D F) : CockpitScreenState D F :=
  { s with bridge := Cockpit.smoothed.foldl (fun b (event, offset, alpha) =>
      Bridge.setFilter b SERVICE_ID INSTANCE_ID event Cockpit.filterEma offset (FloatOps.literal alpha)) s.bridge }

/-- `_connect` behind its wait; `vsomeip_request_service` changes nothing here. -/
def finishConnect (s : CockpitScreenState D F) (handle : Handle) (nativePortId : DartPort) :
    Wiring → CockpitScreenState D F
  | .noRequestService error => s.setStatus ("Error: " ++ error)
  | .noSubscribe error => s.setStatus ("Error: " ++ error)
  | .noSetFilter error => (s.subscribe handle nativePortId).setStatus ("Error: " ++ error)
  | .wired now =>
    let s := (s.subscribe handle nativePortId).setFilters
    if s.mounted then
      { s with
        connected := true
        screen := {
          telemetry := { s.screen.telemetry with lastUpdateMs := now }
          status := "Connected — waiting for telemetry" }
        watchdogTimer := true }
    else s

/-- `_ctrlBuf ??= malloc<Uint8>(16)`; `none` is an exception. -/
def allocCtrlBuf (s : CockpitScreenState D F) (buffer : Option Nat) : Option (CockpitScreenState D F × Nat) :=
  match s.ctrlBuf with
  | some buf => some (s, buf)
  | none => do
    let buf ← buffer
    if (s.heap buf).isSome then none
    else some ({ s with heap := s.heap.put buf (), ctrlBuf := some buf }, buf)

def sendControlInput (s : CockpitScreenState D F) (buffer : Option Nat) (send : Bool) :
    Option (CockpitScreenState D F) :=
  match s.handle, s.bridgeLib with
  | some handle, true =>
    match s.allocCtrlBuf buffer with
    | none => some s
    | some (s, buf) => do
      let heap ← s.heap.write buf ()
      let cockpit : Cockpit D F := ⟨s.bridge, handle, s.eventsPort.getD 0, s.screen⟩
      return { s with heap, bridge := if send then (cockpit.sendControlInput s.ctrl).1 else s.bridge }
  | _, _ => some s

def reconnect (s : CockpitScreenState D F) (destroy : Option String) : Option (CockpitScreenState D F) :=
  if !s.connected then some s
  else do
    let (s, error) ← s.disconnect destroy
    return if error.isSome then s else { s with waiting := s.waiting ++ [.reconnect] }

def watchdog (s : CockpitScreenState D F) (now : Int) (destroy : Option String) :
    Option (CockpitScreenState D F) :=
  if !s.connected then some s
  else
    let age := now - s.screen.telemetry.lastUpdateMs
    if age > watchdogStaleMs then
      let s := if s.stale then s else { s with stale := true }.setStatus "Link stalled — reconnecting"
      s.reconnect destroy
    else if s.stale then some ({ s with stale := false }.setStatus "Live")
    else some s

def onPortMessage (s : CockpitScreenState D F) (clock : Nat → Int) (msg : DartObject) : CockpitScreenState D F :=
  match s.screen.onPortMessage clock msg with
  | .ok screen =>
    if s.mounted then { s with screen }
    else { s with screen := { s.screen with telemetry := screen.telemetry } }
  | .error _ => s

def joystick (s : CockpitScreenState D F) (ctrl : Cockpit.Controls D) (active : Bool) (buffer : Option Nat)
    (send : Bool) : Option (CockpitScreenState D F) :=
  -- `_ensureCtrlTimer`
  let s := { s with ctrl, ctrlTimer := s.ctrlTimer || active }
  if s.connected then s.sendControlInput buffer send else some s

def goOn (s : CockpitScreenState D F) (setup : Setup) (wiring : Wiring) (destroy : Option String) :
    Waiting → Option (CockpitScreenState D F)
  | .connect handle nativePortId => some (s.finishConnect handle nativePortId wiring)
  | .reconnect => if s.mounted then s.connect setup destroy else some s

/-- What does not occur leaves the state as it is: a timer that is not active, a widget of a screen that is gone,
a port that is closed, or that is opened twice. -/
def step (s : CockpitScreenState D F) : CockpitEvent D → Option (CockpitScreenState D F)
  | .build => some (if s.mounted then { s with shown := s.connected } else s)
  | .press setup destroy =>
    if s.mounted then
      if s.shown then (s.disconnect destroy).map Prod.fst else s.connect setup destroy
    else some s
  | .joystick ctrl active buffer send => if s.mounted then s.joystick ctrl active buffer send else some s
  | .ctrlTick buffer send => if s.ctrlTimer then s.sendControlInput buffer send else some s
  | .watchdogTick now destroy => if s.watchdogTimer then s.watchdog now destroy else some s
  | .portMessage port clock msg => some (if port ∈ s.openPorts then s.onPortMessage clock msg else s)
  | .resume i setup wiring destroy =>
    match s.waiting[i]? with
    | none => some s
    | some call => { s with waiting := s.waiting.eraseIdx i }.goOn setup wiring destroy call
  | .dispose destroy =>
    if s.mounted then ({ s with mounted := false }.disconnect destroy).map Prod.fst else some s

def run (s : CockpitScreenState D F) (events : List (CockpitEvent D)) : Option (CockpitScreenState D F) :=
  events.foldlM step s

def create (filters : FilterRegistry F) : CockpitScreenState D F where
  bridge := ⟨∅, ∅, filters⟩
  openPorts := []
  heap := Heap.empty
  waiting := []
  mounted := true
  shown := false
  screen := ⟨Telemetry.create DoubleOps.zero, "Disconnected"⟩
  connected := false
  bridgeLib := false
  handle := none
  eventsPort := none
  portSubscription := none
  ctrl := ⟨DoubleOps.zero, DoubleOps.zero, DoubleOps.zero, DoubleOps.zero⟩
  ctrlTimer := false
  ctrlBuf := none
  watchdogTimer := false
  stale := false

end CockpitScreenState

end VsomeipDart
