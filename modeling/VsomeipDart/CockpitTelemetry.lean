import VsomeipDart.Cockpit
import VsomeipDart.SignalDelivery
import VsomeipDart.WireRoundTrip

/-! # What the cockpit shows of the drone

A notification of the simulator is filtered, posted and decoded. Of each event the cockpit shows the newest
notification, with the filters that it has set.
-/

namespace VsomeipDart
set_option autoImplicit false

open LittleEndian DroneSim

namespace Cockpit

def eventOf (event : UInt16) : EventId := ⟨SERVICE_ID, INSTANCE_ID, event⟩

section Subscribed

variable {F : Type}

def application (nativePortId : DartPort) : Vsomeip.Application :=
  subscribed.foldl (fun app event => app.registerMessageHandler ⟨SERVICE_ID, INSTANCE_ID, event⟩ nativePortId)
    .create

theorem matching_application (nativePortId : DartPort) {event : UInt16} (h : event ∈ subscribed)
    (payload : Bytes) : (application nativePortId).matching (notification event payload) =
      [(⟨SERVICE_ID, INSTANCE_ID, event⟩, nativePortId)] := by
  revert event
  simp only [subscribed, List.forall_mem_cons]
  exact ⟨rfl, rfl, rfl, rfl, rfl, rfl, fun _ hNone => absurd hNone List.not_mem_nil⟩

theorem subscribe_all (b : BridgeState F) (handle : Handle) (nativePortId : DartPort) (events : List UInt16)
    {app : Vsomeip.Application} (hApp : Bridge.getApp b handle = some app) :
    Bridge.getApp (events.foldl (fun b event =>
        Bridge.subscribe b handle SERVICE_ID INSTANCE_ID eventgroupId event nativePortId) b) handle =
      some (events.foldl (fun app event =>
        app.registerMessageHandler ⟨SERVICE_ID, INSTANCE_ID, event⟩ nativePortId) app) ∧
    (events.foldl (fun b event =>
        Bridge.subscribe b handle SERVICE_ID INSTANCE_ID eventgroupId event nativePortId) b).filters =
      b.filters := by
  induction events generalizing b app with
  | nil => exact ⟨hApp, rfl⟩
  | cons event rest ih =>
    have hNext := Bridge.getApp_registerMessageHandler hApp ⟨SERVICE_ID, INSTANCE_ID, event⟩ nativePortId
    obtain ⟨hThere, hFilters⟩ := ih _ hNext
    refine ⟨hThere, hFilters.trans ?_⟩
    rw [Bridge.registerMessageHandler, hApp, Bridge.withApp_some hApp]
    rfl

end Subscribed

section Connected

variable {D F : Type} [FloatOps F] [DoubleOps D F]

/-- The filters that `connect` sets, over those that there are. -/
def connectedMap (m : SignalMap F) (filters : List (UInt16 × UInt16 × Rat)) : SignalMap F :=
  filters.foldl (fun m (event, offset, alpha) =>
    m.set (eventOf event) offset (createFilter .ema (FloatOps.literal alpha) (FloatOps.literal 100))) m

theorem setFilter_all (b : BridgeState F) (filters : List (UInt16 × UInt16 × Rat)) {m : SignalMap F}
    (h : Represents b.filters m) :
    (filters.foldl (fun b (event, offset, alpha) =>
        Bridge.setFilter b SERVICE_ID INSTANCE_ID event filterEma offset (FloatOps.literal alpha)) b).apps =
      b.apps ∧
    Represents (filters.foldl (fun b (event, offset, alpha) =>
        Bridge.setFilter b SERVICE_ID INSTANCE_ID event filterEma offset (FloatOps.literal alpha)) b).filters
      (connectedMap m filters) := by
  induction filters generalizing b m with
  | nil => exact ⟨rfl, h⟩
  | cons filter rest ih =>
    obtain ⟨event, offset, alpha⟩ := filter
    exact ih _ (h.setFilter (eventOf event) .ema offset (FloatOps.literal alpha) (FloatOps.literal 100))

/-- The bridge has the handlers of the cockpit, and the filters of `m`. -/
structure Ready (c : Cockpit D F) (m : SignalMap F) : Prop where
  app : ∃ sent, Bridge.getApp c.bridge c.handle = some { application c.nativePortId with sent }
  represents : Represents c.bridge.filters m

theorem ready_connect {b : BridgeState F} {m : SignalMap F} (h : Represents b.filters m) (handle : Handle)
    (nativePortId : DartPort) (now : Int) :
    Ready (connect b handle nativePortId now : Cockpit D F) (connectedMap m smoothed) := by
  have hApp : Bridge.getApp (Bridge.appCreate b handle) handle = some .create := AList.lookup_insert _
  obtain ⟨hHandlers, hFilters⟩ := subscribe_all (Bridge.appCreate b handle) handle nativePortId subscribed hApp
  have hRep : Represents (subscribed.foldl (fun b event =>
      Bridge.subscribe b handle SERVICE_ID INSTANCE_ID eventgroupId event nativePortId)
        (Bridge.appCreate b handle)).filters m := by
    rw [hFilters]
    exact h
  obtain ⟨hApps, hSet⟩ := setFilter_all _ smoothed hRep
  refine ⟨⟨[], ?_⟩, hSet⟩
  rw [Bridge.getApp] at hHandlers ⊢
  exact (congrArg _ hApps).trans hHandlers

end Connected

section Received

variable {D F : Type} [FloatOps F] [DoubleOps D F]

theorem getUint16_method (msg : Vsomeip.Message) (payload : Bytes) :
    ByteData.getUint16 (Bridge.postOf msg payload).header 5 = .ok (msg.method.toNat : Int) := by
  have hFront : (VsomeipDisc.kMessage :: (toBytes 2 msg.service.toNat ++
      toBytes 2 msg.instanceId.toNat)).length = 5 := by simp
  rw [ByteData.getUint16, Bridge.postOf]
  dsimp only
  rw [VsomeipSubscriber.encodeHeader_eq, ← List.append_assoc, ← List.cons_append]
  exact ByteData.getUint_field msg.method.toNat_lt hFront _

/-- The screen takes a post of its event for the payload that is in it. -/
theorem onPortMessage_postOf (clock : Nat → Int) (screen : CockpitScreen D) (msg : Vsomeip.Message)
    {payload : Bytes} (hSome : payload ≠ []) {t : Telemetry D}
    (hUpdate : screen.telemetry.update clock msg.method.toNat payload = .ok t) :
    screen.onPortMessage clock (CObject.deliver (.array [.typedData (Bridge.postOf msg payload).header,
        if payload = [] then .null else .externalTypedData payload])) =
      .ok ⟨{ t with lastUpdateMs := clock 3 }, "Live"⟩ := by
  have hLength : ¬ (Bridge.postOf msg payload).header.length < 21 :=
    (VsomeipSubscriber.encodeHeader_length _).not_lt
  have hHead : ((Bridge.postOf msg payload).header.head? != some VsomeipDisc.kMessage) = false := by
    rw [Bridge.postOf]
    dsimp only
    rw [VsomeipSubscriber.encodeHeader_eq]
    rfl
  rw [if_neg hSome, CockpitScreen.onPortMessage]
  dsimp only [CObject.deliver, CValue.deliver, List.map, DartObject.list?, DartValue.uint8List?]
  rw [if_neg hLength, hHead, if_neg Bool.false_ne_true, getUint16_method]
  show (screen.telemetry.update clock msg.method.toNat payload >>= _) = _
  rw [hUpdate]
  rfl

/-- What a notification does to a connected cockpit. -/
theorem receive_notification {c : Cockpit D F} {m : SignalMap F} (h : Ready c m) (clock : Nat → Int)
    {event : UInt16} (hEvent : event ∈ subscribed) {payload : Bytes} (hSome : payload ≠ [])
    (hFits : payload.length ≤ kMaxPayloadBytes.toNat) {t : Telemetry D}
    (hUpdate : c.screen.telemetry.update clock event.toNat
      (SignalMap.sweep (m (eventOf event)) payload).payload = .ok t) :
    ∃ c', c.receive clock (notification event payload) = some c' ∧
      Ready c' (Function.update m (eventOf event) (SignalMap.sweep (m (eventOf event)) payload).filters) ∧
      c'.screen.telemetry = { t with lastUpdateMs := clock 3 } := by
  obtain ⟨sent, hApp⟩ := h.app
  have hSweptFits : (SignalMap.sweep (m (eventOf event)) payload).payload.length ≤ kMaxPayloadBytes.toNat :=
    (SignalMap.sweep_length _ _).trans_le hFits
  have hLength : (SignalMap.sweep (m (eventOf event)) payload).payload.length = payload.length :=
    SignalMap.sweep_length _ _
  have hSwept : (SignalMap.sweep (m (eventOf event)) payload).payload ≠ [] := by
    rw [← List.length_pos_iff, hLength, List.length_pos_iff]
    exact hSome
  have hPayloadFits : (notification event payload).payload.length ≤ kMaxPayloadBytes.toNat := hFits
  obtain ⟨filters', hDeliver, hRep⟩ := Bridge.deliver_sole hApp h.represents hPayloadFits
    (matching_application c.nativePortId hEvent payload)
  have hSame : (m.swept (notification event payload)).payload =
      (SignalMap.sweep (m (eventOf event)) payload).payload := rfl
  have hListen : listen clock c.nativePortId c.screen (⟨SERVICE_ID, INSTANCE_ID, event⟩, c.nativePortId,
      Bridge.postOf (notification event payload) (SignalMap.sweep (m (eventOf event)) payload).payload) =
        .ok ⟨{ t with lastUpdateMs := clock 3 }, "Live"⟩ := by
    rw [listen, if_pos rfl]
    dsimp only
    rw [postMessageToDart_postOf hSweptFits]
    dsimp only
    exact onPortMessage_postOf clock c.screen _ hSwept hUpdate
  refine ⟨{ c with
    bridge := { c.bridge with filters := filters' }
    screen := ⟨{ t with lastUpdateMs := clock 3 }, "Live"⟩ }, ?_, ⟨⟨sent, hApp⟩, hRep⟩, rfl⟩
  rw [receive, hDeliver, hSame]
  simp only [Option.bind_eq_bind, Option.bind_some, List.foldlM_cons, hListen]
  rfl

end Received

end Cockpit

end VsomeipDart
