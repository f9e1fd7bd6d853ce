import VsomeipDart.Bridge
import VsomeipDart.Worker

/-! # The client (`vsomeip_client.dart`)

The state of a `VsomeipClient` on the main isolate. A stream is the list of the messages added to its
controller, and a completer is the list of the completions it was given.
-/

namespace VsomeipDart
set_option autoImplicit false

inductive Completion where
  | value (msg : SomeIpMessage)
  | error (text : DartString)
  deriving DecidableEq, Repr

structure VsomeipClient where
  handle : Handle
  workerPort : Option DartPort
  streams : AList fun _ : SomeIpKey => List SomeIpMessage
  pendingRequests : AList fun _ : Int => Nat
  /-- the completers of all `request` calls, in call order -/
  completers : List (List Completion)
  /-- the open result ports, with the completers that they belong to -/
  resultPorts : AList fun _ : DartPort => Nat
  availability : List VsomeipAvailabilityEvent
  states : List VsomeipStateEvent

namespace VsomeipClient

def create (handle : Handle) (workerPort : Option DartPort) : VsomeipClient where
  handle := handle
  workerPort := workerPort
  streams := ∅
  pendingRequests := ∅
  completers := []
  resultPorts := ∅
  availability := []
  states := []

def openStream (client : VsomeipClient) (key : SomeIpKey) : VsomeipClient :=
  match client.streams.lookup key with
  | some _ => client
  | none => { client with streams := client.streams.insert key [] }

def stream (client : VsomeipClient) (key : SomeIpKey) : List SomeIpMessage :=
  (client.streams.lookup key).getD []

def complete (client : VsomeipClient) (n : Nat) (completion : Completion) : VsomeipClient :=
  { client with completers := client.completers.modify n (· ++ [completion]) }

def addToStream (client : VsomeipClient) (msg : SomeIpMessage) : VsomeipClient :=
  match client.streams.lookup msg.key with
  | none => client
  | some events => { client with streams := client.streams.insert msg.key (events ++ [msg]) }

/-- `_pendingRequests.remove(msg.requestId)?.complete(msg)` -/
def completePending (client : VsomeipClient) (msg : SomeIpMessage) : VsomeipClient :=
  match client.pendingRequests.lookup msg.requestId with
  | none => client
  | some n =>
    complete { client with pendingRequests := client.pendingRequests.erase msg.requestId } n
      (.value msg)

def onMainPortMessage (client : VsomeipClient) : DartObject → VsomeipClient
  | .someIpMessage msg =>
    let client := client.addToStream msg
    if msg.messageType = .response then client.completePending msg else client
  | .availabilityEvent event => { client with availability := client.availability ++ [event] }
  | .stateEvent event => { client with states := client.states ++ [event] }
  | _ => client

/-- The `then` of `resultPort.first` in `request`. -/
def onResultPortMessage (client : VsomeipClient) (port : DartPort) (msg : DartObject) :
    VsomeipClient :=
  match client.resultPorts.lookup port with
  | none => client
  | some n =>
    let client := { client with resultPorts := client.resultPorts.erase port }
    match msg with
    | .someIpMessage msg => client.complete n (.value msg)
    | .value (.uint8List (0x05 :: text)) =>
      match WireCodec.decodeError (0x05 :: text) 0 with
      | .ok decoded => client.complete n (.error decoded)
      | .error _ => client
    | _ => client

section Calls

variable {F : Type}

def throttleCommand (serviceId instanceId methodId : Int) (maxHz : Double) : List DartObject :=
  if maxHz.isPositive then [.setThrottleCmd ⟨serviceId, instanceId, methodId, maxHz⟩] else []

def subscribeEvent (client : VsomeipClient) (s : BridgeState F)
    (serviceId instanceId eventgroupId eventId : Int) (workerPort : DartPort) (maxHz : Double) :
    VsomeipClient × BridgeState F × List DartObject :=
  let commands := throttleCommand serviceId instanceId eventId maxHz
  let s := Bridge.subscribe s client.handle (UInt16.ofInt serviceId) (UInt16.ofInt instanceId)
    (UInt16.ofInt eventgroupId) (UInt16.ofInt eventId) workerPort
  (client.openStream ⟨serviceId, instanceId, eventId⟩, s, commands)

def onMessage (client : VsomeipClient) (s : BridgeState F)
    (serviceId instanceId methodId : Int) (workerPort : DartPort) (maxHz : Double) :
    VsomeipClient × BridgeState F × List DartObject :=
  let commands := throttleCommand serviceId instanceId methodId maxHz
  let s := Bridge.registerMessageHandler s client.handle
    ⟨UInt16.ofInt serviceId, UInt16.ofInt instanceId, UInt16.ofInt methodId⟩ workerPort
  (client.openStream ⟨serviceId, instanceId, methodId⟩, s, commands)

def request (client : VsomeipClient) (s : BridgeState F) (serviceId instanceId methodId : Int)
    (payload : Option Bytes) (timeoutMs : Int) (resultPort : DartPort) (throws : Bool) :
    VsomeipClient × BridgeState F × SendOutcome × List (DartPort × CObject) :=
  let completer := client.completers.length
  let client := { client with
    completers := client.completers ++ [[]]
    resultPorts := client.resultPorts.insert resultPort completer }
  let payload := payload.getD []
  -- the bridge is given port 0, not `resultPort`
  (client, Bridge.sendRequest s client.handle (UInt16.ofInt serviceId) (UInt16.ofInt instanceId)
    (UInt16.ofInt methodId) payload (UInt32.ofNat payload.length) (UInt32.ofInt timeoutMs) 0 throws)

end Calls

end VsomeipClient

end VsomeipDart
