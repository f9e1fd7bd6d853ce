import VsomeipDart.EventFlow
import VsomeipDart.Lib.KeyedMachine
import VsomeipDart.MessageFlow
import VsomeipDart.SignalDelivery

/-! # The path of an event from vsomeip to its stream

Subscriptions, filters and rates are set at any time, between the messages and the turns of the two isolates.
`EventPath` is the abstract layer: what becomes of one event, which has its own handler and filters, until it
waits at the worker port; from there on it has its own throttle.
-/

namespace VsomeipDart
set_option autoImplicit false

def EventId.toSomeIpKey (k : EventId) : SomeIpKey := ⟨k.svc.toNat, k.inst.toNat, k.evt.toNat⟩

def HandlerKey.event (k : HandlerKey) : EventId := ⟨k.svc, k.inst, k.method⟩

def HandlerKey.Exact (k : HandlerKey) : Prop :=
  k.svc ≠ Vsomeip.ANY ∧ k.inst ≠ Vsomeip.ANY ∧ k.method ≠ Vsomeip.ANY

/-- Without a worker isolate there is no port for the command. -/
def VsomeipClient.setThrottle (client : VsomeipClient) (serviceId instanceId methodId : Int) (maxHz : Double) :
    List DartObject :=
  match client.workerPort with
  | some _ => [.setThrottleCmd ⟨serviceId, instanceId, methodId, maxHz⟩]
  | none => []

inductive SignalAction (F : Type) where
  | event (a : System.EventAction)
  | setThrottle (serviceId instanceId methodId : Int) (maxHz : Double)
  | setFilter (k : EventId) (filterType : UInt8) (payloadOffset : UInt16) (param : F)
  | clearFilter (k : EventId)

inductive PathItem where
  | message (msg : SomeIpMessage)
  | rate (cmd : SetThrottleCmd)
  deriving DecidableEq, Repr

namespace PathItem

def key : PathItem → SomeIpKey
  | message msg => msg.key
  | rate cmd => cmd.key

end PathItem

def WorkerPost.item : WorkerPost → PathItem
  | message buffers => .message buffers.message
  | setThrottle cmd => .rate cmd

namespace SignalAction

variable {F : Type}

def key? : SignalAction F → Option SomeIpKey
  | event (.action (.subscribeEvent serviceId instanceId _ eventId _ _)) => some ⟨serviceId, instanceId, eventId⟩
  | event (.action (.onMessage serviceId instanceId methodId _ _)) => some ⟨serviceId, instanceId, methodId⟩
  | event (.action (.deliver msg)) => some (HandlerKey.ofMessage msg).toSomeIpKey
  | event _ => none
  | setThrottle serviceId instanceId methodId _ => some ⟨serviceId, instanceId, methodId⟩
  | setFilter k _ _ _ => some k.toSomeIpKey
  | clearFilter k => some k.toSomeIpKey

def reading? : SignalAction F → Option Int
  | event (.action (.workerTurn now)) => some now
  | _ => none

/-- Subscriptions are to one event each, with the port of the worker; no interval overflows, and no native
buffer is a failure or taken for a message. -/
def Plain (own : DartPort) : SignalAction F → Prop
  | event (.action (.subscribeEvent serviceId instanceId _ eventId port maxHz)) =>
    (∃ k : HandlerKey, k.Exact ∧ k.toSomeIpKey = ⟨serviceId, instanceId, eventId⟩) ∧ port = own ∧
      SetThrottleCmd.RateFits ⟨serviceId, instanceId, eventId, maxHz⟩
  | event (.action (.onMessage serviceId instanceId methodId port maxHz)) =>
    (∃ k : HandlerKey, k.Exact ∧ k.toSomeIpKey = ⟨serviceId, instanceId, methodId⟩) ∧ port = own ∧
      SetThrottleCmd.RateFits ⟨serviceId, instanceId, methodId, maxHz⟩
  | event (.native buffer) => buffer.Harmless
  | setThrottle serviceId instanceId methodId maxHz =>
    SetThrottleCmd.RateFits ⟨serviceId, instanceId, methodId, maxHz⟩
  | _ => True

end SignalAction

structure EventPath (F : Type) where
  subscribed : Bool
  filters : UInt16 → Option (SignalFilter F)

namespace EventPath

variable {F : Type}

def rates (cmd : SetThrottleCmd) : List PathItem := if cmd.maxHz.isPositive then [.rate cmd] else []

variable [FloatOps F]

/-- The path of an event behind an action that is about it, with what then waits at the worker port. -/
def step (p : EventPath F) : SignalAction F → EventPath F × List PathItem
  | .event (.action (.subscribeEvent serviceId instanceId _ eventId _ maxHz)) =>
    ({ p with subscribed := true }, rates ⟨serviceId, instanceId, eventId, maxHz⟩)
  | .event (.action (.onMessage serviceId instanceId methodId _ maxHz)) =>
    ({ p with subscribed := true }, rates ⟨serviceId, instanceId, methodId, maxHz⟩)
  | .event (.action (.deliver msg)) =>
    if p.subscribed ∧ msg.payload.length ≤ kMaxPayloadBytes.toNat then
      let swept := SignalMap.sweep p.filters msg.payload
      ({ p with filters := swept.filters }, [.message (received msg swept.payload)])
    else (p, [])
  | .event _ => (p, [])
  | .setThrottle serviceId instanceId methodId maxHz =>
    (p, [.rate ⟨serviceId, instanceId, methodId, maxHz⟩])
  | .setFilter _ filterType payloadOffset param =>
    let filter := createFilter (.ofByte filterType) param (FloatOps.literal 100)
    ({ p with filters := Function.update p.filters payloadOffset (some filter) }, [])
  | .clearFilter _ => ({ p with filters := fun _ => none }, [])

/-- What waits at the worker port in the course of some actions. -/
def items (p : EventPath F) (actions : List (SignalAction F)) : List PathItem :=
  (Mealy.run step p actions).2.flatten

/-- Before the client is spawned, with the filters that there are. -/
def start (filters : UInt16 → Option (SignalFilter F)) : EventPath F := ⟨false, filters⟩

def initial (m : SignalMap F) : Option SomeIpKey → EventPath F
  | none => start fun _ => none
  | some key => start (m ⟨UInt16.ofInt key.serviceId, UInt16.ofInt key.instanceId, UInt16.ofInt key.methodId⟩)

/-- The events side by side; actions about no event have a path of their own, on which nothing happens. -/
def turn : (Option SomeIpKey → EventPath F) → SignalAction F →
    (Option SomeIpKey → EventPath F) × List PathItem :=
  KeyedMachine.turn SignalAction.key? step

omit [FloatOps F] in
theorem key_of_mem_rates (cmd : SetThrottleCmd) : ∀ item ∈ rates cmd, item.key = cmd.key := by
  intro item hMem
  rw [rates] at hMem
  split at hMem
  · rw [List.mem_singleton.mp hMem, PathItem.key]
  · cases hMem

theorem key_of_mem_step (p : EventPath F) (a : SignalAction F) :
    ∀ item ∈ (p.step a).2, some item.key = a.key? := by
  intro item hMem
  cases a with
  | event a =>
    cases a with
    | native buffer => cases hMem
    | action a =>
      cases a with
      | subscribeEvent => exact congrArg some (key_of_mem_rates _ item hMem)
      | onMessage => exact congrArg some (key_of_mem_rates _ item hMem)
      | deliver msg =>
        rw [step] at hMem
        split at hMem
        · rw [List.mem_singleton.mp hMem]
          exact congrArg some (received_key msg _)
        · cases hMem
      | workerTurn now => cases hMem
      | mainTurn => cases hMem
  | setThrottle =>
    rw [List.mem_singleton.mp hMem]
    rfl
  | setFilter => cases hMem
  | clearFilter => cases hMem

end EventPath

namespace System

variable {F : Type} [FloatOps F]

def signalStep (sys : System F) : SignalAction F → Option (System F × Posts)
  | .event a => sys.eventStep a
  | .setThrottle serviceId instanceId methodId maxHz =>
    some ({ sys with
      workerQueue := sys.workerQueue ++ sys.client.setThrottle serviceId instanceId methodId maxHz }, [])
  | .setFilter k filterType payloadOffset param =>
    some ({ sys with bridge := Bridge.setFilter sys.bridge k.svc k.inst k.evt filterType payloadOffset param }, [])
  | .clearFilter k => some ({ sys with bridge := Bridge.clearFilter sys.bridge k.svc k.inst k.evt }, [])

def signalRun (sys : System F) (actions : List (SignalAction F)) : Option (System F × List Posts) :=
  Mealy.run? signalStep sys actions

end System

end VsomeipDart
