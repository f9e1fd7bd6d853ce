import VsomeipDart.Dispatch
import VsomeipDart.Lib.FiniteMap
import VsomeipDart.Post

/-! # The bridge and its applications (`vsomeip_bridge.cpp`)

A handle is the address of a `VsomeipApp`. A message handler is the closure that posts to a Dart port, so
the table of an application holds that port. Only the C entry points that a modelled run calls are here.
-/

namespace VsomeipDart
set_option autoImplicit false

abbrev Handle := Nat

abbrev DartPort := Int

structure Vsomeip.Application where
  handlers : AList fun _ : HandlerKey => DartPort
  offered : List (UInt16 × UInt16)
  sent : List Vsomeip.Message

namespace Vsomeip.Application

def create : Application := ⟨∅, [], []⟩

def registerMessageHandler (app : Application) (key : HandlerKey) (port : DartPort) : Application :=
  { app with handlers := app.handlers.insert key port }

def unregisterMessageHandler (app : Application) (key : HandlerKey) : Application :=
  { app with handlers := app.handlers.erase key }

def offerService (app : Application) (svc inst : UInt16) : Application :=
  { app with offered := app.offered.insert (svc, inst) }

def stopOfferService (app : Application) (svc inst : UInt16) : Application :=
  { app with offered := app.offered.erase (svc, inst) }

def send (app : Application) (msg : Message) : Application :=
  { app with sent := app.sent ++ [msg] }

/-- `notify` sends a notification; `force` decides whether one with an unchanged value goes out too. -/
def notify (app : Application) (svc inst evt : UInt16) (payload : Bytes) (force : Bool) :
    Application :=
  let _ := force
  app.send { createMessage with
    service := svc
    instanceId := inst
    method := evt
    messageType := MT_NOTIFICATION
    payload }

def matching (app : Application) (msg : Message) : List (HandlerKey × DartPort) :=
  (app.handlers.entries.filter fun e => e.1.Matches msg).map fun e => (e.1, e.2)

theorem mem_matching {app : Application} {msg : Message} {key : HandlerKey} {port : DartPort} :
    (key, port) ∈ app.matching msg ↔
      app.handlers.lookup key = some port ∧ key.Matches msg = true := by
  rw [matching, List.mem_map, ← Option.mem_def, AList.mem_lookup_iff]
  constructor
  · rintro ⟨⟨k, p⟩, hMem, hEq⟩
    cases hEq
    exact List.mem_filter.mp hMem
  · exact fun h => ⟨⟨key, port⟩, List.mem_filter.mpr h, rfl⟩

end Vsomeip.Application

structure BridgeState (F : Type) where
  apps : AList fun _ : Handle => Vsomeip.Application
  handlers : AList fun _ : Handle => List HandlerKey
  filters : FilterRegistry F

inductive SendOutcome where
  | noApp
  | refused
  | threw
  | sent
  deriving DecidableEq, Repr

namespace Bridge

section Messages

/-- `payload_buf && payload_len > 0` guards `set_data`. -/
def sentPayload (payloadBuf : Bytes) (payloadLen : UInt32) : Bytes :=
  if payloadLen > 0 then payloadBuf.take payloadLen.toNat else []

def buildRequest (serviceId instanceId methodId : UInt16) (payloadBuf : Bytes)
    (payloadLen : UInt32) : Vsomeip.Message :=
  { Vsomeip.createRequest with
    service := serviceId
    instanceId := instanceId
    method := methodId
    payload := sentPayload payloadBuf payloadLen }

def buildResponse (requestId : UInt64) (payloadBuf : Bytes) (payloadLen : UInt32) :
    Vsomeip.Message :=
  let clientId := ((requestId >>> 16) &&& 0xFFFF).toUInt16
  let sessionId := (requestId &&& 0xFFFF).toUInt16
  let serviceId := ((requestId >>> 48) &&& 0xFFFF).toUInt16
  let instanceId := ((requestId >>> 32) &&& 0xFFFF).toUInt16
  let resp := Vsomeip.createResponse Vsomeip.createMessage
  { resp with
    service := serviceId
    instanceId := instanceId
    client := clientId
    session := sessionId
    messageType := Vsomeip.MT_RESPONSE
    payload := sentPayload payloadBuf payloadLen }

end Messages

variable {F : Type}

def getApp (s : BridgeState F) (handle : Handle) : Option Vsomeip.Application :=
  s.apps.lookup handle

def withApp (s : BridgeState F) (handle : Handle)
    (call : Vsomeip.Application → Vsomeip.Application) : BridgeState F :=
  match getApp s handle with
  | none => s
  | some app => { s with apps := s.apps.insert handle (call app) }

def trackHandler (s : BridgeState F) (handle : Handle) (key : HandlerKey) : BridgeState F :=
  let keys := (s.handlers.lookup handle).getD []
  { s with handlers := s.handlers.insert handle (keys.insert key) }

def initial : BridgeState F := ⟨∅, ∅, .empty⟩

def appCreate (s : BridgeState F) (handle : Handle) : BridgeState F :=
  { s with apps := s.apps.insert handle .create }

def appDestroy (s : BridgeState F) (handle : Handle) : BridgeState F :=
  match getApp s handle with
  | none => s
  | some _ => { s with apps := s.apps.erase handle, handlers := s.handlers.erase handle }

def registerMessageHandler (s : BridgeState F) (handle : Handle) (key : HandlerKey)
    (eventsPort : DartPort) : BridgeState F :=
  match getApp s handle with
  | none => s
  | some _ =>
    trackHandler (withApp s handle fun app => app.registerMessageHandler key eventsPort) handle key

/-- `vsomeip_subscribe`: the event group only decides what vsomeip delivers. -/
def subscribe (s : BridgeState F) (handle : Handle) (serviceId instanceId eventgroupId : UInt16)
    (eventId : UInt16) (eventsPort : DartPort) : BridgeState F :=
  let _ := eventgroupId
  registerMessageHandler s handle ⟨serviceId, instanceId, eventId⟩ eventsPort

def unregisterMessageHandler (s : BridgeState F) (handle : Handle) (key : HandlerKey) :
    BridgeState F :=
  withApp s handle fun app => app.unregisterMessageHandler key

def offerService (s : BridgeState F) (handle : Handle) (serviceId instanceId : UInt16)
    (requestsPort : DartPort) : BridgeState F :=
  let s := withApp s handle fun app => app.offerService serviceId instanceId
  -- (void)requests_port;
  let _ := requestsPort
  s

def stopOfferService (s : BridgeState F) (handle : Handle) (serviceId instanceId : UInt16) :
    BridgeState F :=
  withApp s handle fun app => app.stopOfferService serviceId instanceId

/-- `vsomeip_send_request`, with what it posts itself; `throws` says that `send` throws. -/
def sendRequest (s : BridgeState F) (handle : Handle) (serviceId instanceId methodId : UInt16)
    (payloadBuf : Bytes) (payloadLen timeoutMs : UInt32) (resultPort : DartPort) (throws : Bool) :
    BridgeState F × SendOutcome × List (DartPort × CObject) :=
  match getApp s handle with
  | none => (s, .noApp, [])
  | some _ =>
    if payloadLen > kMaxPayloadBytes then (s, .refused, [])
    else if throws then (s, .threw, [])
    else
      let req := buildRequest serviceId instanceId methodId payloadBuf payloadLen
      let s := withApp s handle fun app => app.send req
      -- (void)timeout_ms; (void)result_port;
      let _ := timeoutMs
      let _ := resultPort
      (s, .sent, [])

def sendFireForget (s : BridgeState F) (handle : Handle) (serviceId instanceId methodId : UInt16)
    (payloadBuf : Bytes) (payloadLen : UInt32) (throws : Bool) : BridgeState F × SendOutcome :=
  match getApp s handle with
  | none => (s, .noApp)
  | some _ =>
    if payloadLen > kMaxPayloadBytes then (s, .refused)
    else if throws then (s, .threw)
    else
      let req := buildRequest serviceId instanceId methodId payloadBuf payloadLen
      let req := { req with messageType := Vsomeip.MT_REQUEST_NO_RETURN }
      (withApp s handle fun app => app.send req, .sent)

def sendResponse (s : BridgeState F) (handle : Handle) (requestId : UInt64) (payloadBuf : Bytes)
    (payloadLen : UInt32) (throws : Bool) : BridgeState F × SendOutcome :=
  match getApp s handle with
  | none => (s, .noApp)
  | some _ =>
    if payloadLen > kMaxPayloadBytes then (s, .refused)
    else if throws then (s, .threw)
    else
      let resp := buildResponse requestId payloadBuf payloadLen
      (withApp s handle fun app => app.send resp, .sent)

/-- `vsomeip_notify`, when vsomeip does not throw. -/
def notify (s : BridgeState F) (handle : Handle) (serviceId instanceId eventId : UInt16)
    (payloadBuf : Bytes) (payloadLen : UInt32) (force : Bool) : BridgeState F × SendOutcome :=
  match getApp s handle with
  | none => (s, .noApp)
  | some _ =>
    let pl := payloadBuf.take payloadLen.toNat
    (withApp s handle fun app => app.notify serviceId instanceId eventId pl force, .sent)

section WithApp

variable {s : BridgeState F} {handle : Handle} {app : Vsomeip.Application}

theorem withApp_some (hApp : getApp s handle = some app)
    (call : Vsomeip.Application → Vsomeip.Application) :
    withApp s handle call = { s with apps := s.apps.insert handle (call app) } := by
  rw [withApp, hApp]

theorem getApp_withApp (hApp : getApp s handle = some app)
    (call : Vsomeip.Application → Vsomeip.Application) :
    getApp (withApp s handle call) handle = some (call app) := by
  rw [withApp_some hApp]
  exact AList.lookup_insert _

theorem getApp_registerMessageHandler (hApp : getApp s handle = some app) (key : HandlerKey)
    (eventsPort : DartPort) :
    getApp (registerMessageHandler s handle key eventsPort) handle =
      some (app.registerMessageHandler key eventsPort) := by
  rw [registerMessageHandler, hApp]
  exact getApp_withApp hApp _

theorem sendResponse_sent (hApp : getApp s handle = some app) (requestId : UInt64)
    (payloadBuf : Bytes) {payloadLen : UInt32} (hCap : ¬ payloadLen > kMaxPayloadBytes) :
    sendResponse s handle requestId payloadBuf payloadLen false =
      (withApp s handle fun app => app.send (buildResponse requestId payloadBuf payloadLen),
        .sent) := by
  rw [sendResponse, hApp]
  dsimp only
  rw [if_neg hCap, if_neg Bool.false_ne_true]

end WithApp

section Applications

variable {s : BridgeState F} {handle other : Handle}

theorem getApp_appDestroy : getApp (appDestroy s handle) other =
    if other = handle then none else getApp s other := by
  rw [appDestroy]
  cases hApp : getApp s handle with
  | none =>
    dsimp only
    split_ifs with hEq
    · rw [hEq, hApp]
    · rfl
  | some app => exact FiniteMap.lookup_erase _ _ _

theorem getApp_appCreate : getApp (appCreate s handle) other =
    if other = handle then some .create else getApp s other :=
  FiniteMap.lookup_insert _ _ _ _

theorem isSome_withApp (call : Vsomeip.Application → Vsomeip.Application) :
    (getApp (withApp s handle call) other).isSome = (getApp s other).isSome := by
  rw [withApp]
  cases hApp : getApp s handle with
  | none => rfl
  | some app =>
    rw [getApp, FiniteMap.lookup_insert]
    split
    · rename_i hEq
      rw [hEq, hApp]
      rfl
    · rfl

/-- A message that is sent changes nothing else of the application. -/
theorem getApp_sendFireForget {app : Vsomeip.Application} (hApp : getApp s other = some app)
    (serviceId instanceId methodId : UInt16) (buf : Bytes) (len : UInt32) (throws : Bool) : ∃ sent,
    getApp (sendFireForget s handle serviceId instanceId methodId buf len throws).1 other =
      some { app with sent } := by
  have hSame : ∃ sent, getApp s other = some { app with sent } := ⟨app.sent, hApp⟩
  rw [sendFireForget]
  cases hHandle : getApp s handle with
  | none => exact hSame
  | some app' =>
    dsimp only
    split
    · exact hSame
    split
    · exact hSame
    rw [withApp_some hHandle, getApp, FiniteMap.lookup_insert]
    split
    · rename_i hEq
      subst hEq
      obtain rfl : app = app' := Option.some.inj (hApp.symm.trans hHandle)
      exact ⟨_, rfl⟩
    · exact hSame

theorem isSome_sendFireForget (serviceId instanceId methodId : UInt16) (buf : Bytes) (len : UInt32)
    (throws : Bool) :
    (getApp (sendFireForget s handle serviceId instanceId methodId buf len throws).1 other).isSome =
      (getApp s other).isSome := by
  rw [sendFireForget]
  cases getApp s handle with
  | none => rfl
  | some app =>
    dsimp only
    split
    · rfl
    split
    · rfl
    exact isSome_withApp _

end Applications

section Deliver

variable [FloatOps F]

/-- `vsomeip_set_filter`, with the default sample rate of `set_filter`. -/
def setFilter (s : BridgeState F) (serviceId instanceId eventId : UInt16) (filterType : UInt8)
    (payloadOffset : UInt16) (param : F) : BridgeState F :=
  { s with
    filters := s.filters.setFilter serviceId instanceId eventId (.ofByte filterType) payloadOffset
      param (FloatOps.literal 100) }

def clearFilter (s : BridgeState F) (serviceId instanceId eventId : UInt16) : BridgeState F :=
  { s with filters := s.filters.clearFilter serviceId instanceId eventId }

def callHandlers (filters : FilterRegistry F) (msg : Vsomeip.Message) :
    List (HandlerKey × DartPort) →
      Option (FilterRegistry F × List (HandlerKey × DartPort × MessagePost))
  | [] => some (filters, [])
  | (key, port) :: rest => do
    let (filters, post) ← dispatchMessage filters msg
    let (filters, posts) ← callHandlers filters msg rest
    return (filters, post.toList.map (fun post => (key, port, post)) ++ posts)

def deliver (s : BridgeState F) (handle : Handle) (msg : Vsomeip.Message) :
    Option (BridgeState F × List (HandlerKey × DartPort × MessagePost)) :=
  match getApp s handle with
  | none => some (s, [])
  | some app => do
    let (filters, posts) ← callHandlers s.filters msg (app.matching msg)
    return ({ s with filters }, posts)

end Deliver

end Bridge

end VsomeipDart
