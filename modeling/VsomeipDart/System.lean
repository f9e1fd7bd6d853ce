import VsomeipDart.Client
import VsomeipDart.Delivery
import VsomeipDart.Lib.Mealy
import VsomeipDart.WireRoundTrip

/-! # From vsomeip to the streams of a client

One client from `spawn` with its worker isolate. The queues are those of the worker port and of the main
port; they are first-in first-out, and a post to a port that no isolate owns fails.
-/

namespace VsomeipDart
set_option autoImplicit false

structure System (F : Type) where
  bridge : BridgeState F
  client : VsomeipClient
  workerPort : DartPort
  workerQueue : List DartObject
  worker : WorkerState
  mainQueue : List DartObject

namespace System

inductive Action where
  | subscribeEvent (serviceId instanceId eventgroupId eventId : Int) (workerPort : DartPort)
      (maxHz : Double)
  | onMessage (serviceId instanceId methodId : Int) (workerPort : DartPort) (maxHz : Double)
  | deliver (msg : Vsomeip.Message)
  /-- the worker handles the next object of its queue, with this clock reading -/
  | workerTurn (now : Int)
  | mainTurn
  deriving DecidableEq, Repr

def Action.IsTurn : Action → Prop
  | workerTurn _ => True
  | mainTurn => True
  | _ => False

/-- What the handlers of the application posted in a step: the handler, and the message. -/
abbrev Posts := List (HandlerKey × DartPort × MessagePost)

variable {F : Type}

def workerObjects (workerPort : DartPort) (posts : Posts) : List DartObject :=
  ((Bridge.postsTo workerPort posts).filterMap (Bridge.postMessageToDart true)).map CObject.deliver

def spawn (bridge : BridgeState F) (handle : Handle) (workerPort : DartPort) : System F where
  bridge := Bridge.appCreate bridge handle
  client := .create handle (some workerPort)
  workerPort := workerPort
  workerQueue := []
  worker := .initial
  mainQueue := []

variable [FloatOps F]

/-- An exception ends the worker isolate: its queue is never read again. -/
def workerTurn (sys : System F) (now : Int) : System F :=
  match sys.workerQueue with
  | [] => sys
  | msg :: rest =>
    if sys.worker.portOpen then
      match Worker.listener now sys.worker msg with
      | .ok (worker, sent) =>
        { sys with workerQueue := rest, worker, mainQueue := sys.mainQueue ++ sent }
      | .error _ => { sys with workerQueue := [], worker := { sys.worker with portOpen := false } }
    else { sys with workerQueue := [] }

def mainTurn (sys : System F) : System F :=
  match sys.mainQueue with
  | [] => sys
  | msg :: rest => { sys with mainQueue := rest, client := sys.client.onMainPortMessage msg }

/-- `none` is a memory fault. -/
def step (sys : System F) : Action → Option (System F × Posts)
  | .subscribeEvent serviceId instanceId eventgroupId eventId workerPort maxHz =>
    let (client, bridge, commands) := sys.client.subscribeEvent sys.bridge serviceId instanceId
      eventgroupId eventId workerPort maxHz
    some ({ sys with client, bridge, workerQueue := sys.workerQueue ++ commands }, [])
  | .onMessage serviceId instanceId methodId workerPort maxHz =>
    let (client, bridge, commands) := sys.client.onMessage sys.bridge serviceId instanceId methodId
      workerPort maxHz
    some ({ sys with client, bridge, workerQueue := sys.workerQueue ++ commands }, [])
  | .deliver msg => do
    let (bridge, posts) ← Bridge.deliver sys.bridge sys.client.handle msg
    return ({ sys with
      bridge, workerQueue := sys.workerQueue ++ workerObjects sys.workerPort posts }, posts)
  | .workerTurn now => some (sys.workerTurn now, [])
  | .mainTurn => some (sys.mainTurn, [])

def run (sys : System F) (actions : List Action) : Option (System F × List Posts) :=
  Mealy.run? step sys actions

omit [FloatOps F] in
/-- A turn on a queued object is a turn of the worker. -/
theorem workerTurn_cons {sys : System F} {msg : DartObject} {rest : List DartObject}
    (h : sys.workerQueue = msg :: rest) (now : Int) :
    (sys.workerTurn now).worker = (Worker.turn sys.worker (now, msg)).1 ∧
      (sys.workerTurn now).mainQueue =
        sys.mainQueue ++ (Worker.turn sys.worker (now, msg)).2 ∧
      ((Worker.turn sys.worker (now, msg)).1.portOpen = true →
        (sys.workerTurn now).workerQueue = rest) := by
  rw [workerTurn, h]
  dsimp only
  cases hOpen : sys.worker.portOpen with
  | false =>
    rw [Worker.turn_closed hOpen]
    refine ⟨rfl, (List.append_nil _).symm, fun hAfter => ?_⟩
    rw [hOpen] at hAfter
    cases hAfter
  | true =>
    rw [Worker.turn, hOpen]
    cases Worker.listener now sys.worker msg with
    | ok out => exact ⟨rfl, rfl, fun _ => rfl⟩
    | error err => exact ⟨rfl, (List.append_nil _).symm, fun hAfter => by cases hAfter⟩

theorem step_total (sys : System F) (action : Action) : ∃ out, sys.step action = some out := by
  cases action with
  | deliver msg =>
    obtain ⟨bridge, posts, hDeliver⟩ := Bridge.deliver_total sys.bridge sys.client.handle msg
    exact ⟨_, by rw [step, hDeliver]; rfl⟩
  | _ => exact ⟨_, rfl⟩

end System

end VsomeipDart
