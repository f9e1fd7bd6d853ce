import VsomeipDart.Bridge
import VsomeipDart.WireRoundTrip

/-! # The address of a response (`vsomeip_service.dart`, `vsomeip_send_response`)

The request id that Dart gives back holds the client and the session of a request and nothing else, while
the bridge also takes a service and an instance out of it.
-/

namespace VsomeipDart
set_option autoImplicit false

structure VsomeipService where
  clientHandle : Handle
  serviceId : Int
  instanceId : Int
  deriving DecidableEq, Repr

/-- `respond`: the FFI passes the request id as a `Uint64` and the length as a `Uint32`. -/
def VsomeipService.respond {F : Type} (service : VsomeipService) (s : BridgeState F)
    (request : SomeIpMessage) (payload : Bytes) (throws : Bool) : BridgeState F × SendOutcome :=
  Bridge.sendResponse s service.clientHandle (UInt64.ofInt request.requestId) payload
    (UInt32.ofNat payload.length) throws

namespace Bridge

theorem field64 (v shift : UInt64) (h : shift.toNat < 64) :
    (((v >>> shift) &&& 0xFFFF).toUInt16).toNat = v.toNat / 2 ^ shift.toNat % 65536 := by
  rw [UInt64.toNat_toUInt16, UInt64.toNat_and, UInt64.toNat_shiftRight, Nat.mod_eq_of_lt h,
    Nat.shiftRight_eq_div_pow]
  exact (congrArg (· % 2 ^ 16) (Nat.and_two_pow_sub_one_eq_mod _ 16)).trans (Nat.mod_mod _ _)

theorem ofInt_requestId (clientId sessionId : UInt16) :
    UInt64.ofInt (clientId.toNat * 65536 + sessionId.toNat) =
      VsomeipSubscriber.packRequestId clientId sessionId := by
  have hClient : clientId.toNat < 2 ^ 16 := clientId.toNat_lt
  have hSession : sessionId.toNat < 2 ^ 16 := sessionId.toNat_lt
  apply UInt64.toNat.inj
  rw [VsomeipSubscriber.packRequestId_toNat, UInt64.ofInt, UInt64.toNat_ofNat']
  omega

theorem buildResponse_address (clientId sessionId : UInt16) (payloadBuf : Bytes)
    (payloadLen : UInt32) :
    (buildResponse (VsomeipSubscriber.packRequestId clientId sessionId) payloadBuf
      payloadLen).address = ⟨0, 0, 0, clientId, sessionId⟩ := by
  have hClient : clientId.toNat < 2 ^ 16 := clientId.toNat_lt
  have hSession : sessionId.toNat < 2 ^ 16 := sessionId.toNat_lt
  have hPack := VsomeipSubscriber.packRequestId_toNat clientId sessionId
  have hService : ((VsomeipSubscriber.packRequestId clientId sessionId >>> 48) &&&
      0xFFFF).toUInt16 = 0 := by
    apply UInt16.toNat.inj
    rw [field64 _ _ (by decide), hPack]
    show (clientId.toNat * 65536 + sessionId.toNat) / 2 ^ 48 % 65536 = 0
    omega
  have hInstance : ((VsomeipSubscriber.packRequestId clientId sessionId >>> 32) &&&
      0xFFFF).toUInt16 = 0 := by
    apply UInt16.toNat.inj
    rw [field64 _ _ (by decide), hPack]
    show (clientId.toNat * 65536 + sessionId.toNat) / 2 ^ 32 % 65536 = 0
    omega
  have hClientId : ((VsomeipSubscriber.packRequestId clientId sessionId >>> 16) &&&
      0xFFFF).toUInt16 = clientId := by
    apply UInt16.toNat.inj
    rw [field64 _ _ (by decide), hPack]
    show (clientId.toNat * 65536 + sessionId.toNat) / 2 ^ 16 % 65536 = clientId.toNat
    omega
  have hSessionId : (VsomeipSubscriber.packRequestId clientId sessionId &&& 0xFFFF).toUInt16 =
      sessionId := by
    apply UInt16.toNat.inj
    have hField := field64 (VsomeipSubscriber.packRequestId clientId sessionId) 0 (by decide)
    rw [UInt64.shiftRight_zero] at hField
    rw [hField, hPack]
    show (clientId.toNat * 65536 + sessionId.toNat) / 2 ^ 0 % 65536 = sessionId.toNat
    omega
  simp only [buildResponse, Vsomeip.Message.address, hService, hInstance, hClientId, hSessionId]
  rfl

end Bridge

section Respond

variable {F : Type}

theorem VsomeipService.respond_received (service : VsomeipService) (s : BridgeState F)
    {app : Vsomeip.Application} (hApp : Bridge.getApp s service.clientHandle = some app)
    (payload : Bytes) (hReply : payload.length ≤ kMaxPayloadBytes.toNat) (msg : Vsomeip.Message)
    (requestPayload : Bytes) :
    ∃ resp s', service.respond s (received msg requestPayload) payload false = (s', .sent) ∧
      Bridge.getApp s' service.clientHandle = some (app.send resp) ∧
      resp.address = ⟨0, 0, 0, msg.client, msg.session⟩ := by
  have hSent := Bridge.sendResponse_sent hApp
    (VsomeipSubscriber.packRequestId msg.client msg.session) payload (not_gt_cap hReply)
  rw [← Bridge.ofInt_requestId] at hSent
  refine ⟨_, _, hSent, Bridge.getApp_withApp hApp fun app => app.send _, ?_⟩
  rw [Bridge.ofInt_requestId]
  exact Bridge.buildResponse_address _ _ _ _

variable [FloatOps F]

/-- For a request that reaches Dart, the response that `respond` hands to vsomeip has the address of the
request exactly when service, instance and method of the request are all 0. -/
theorem VsomeipService.respond_address_iff (s : BridgeState F) (service : VsomeipService)
    (app : Vsomeip.Application) (hApp : Bridge.getApp s service.clientHandle = some app)
    (msg : Vsomeip.Message) (hLength : msg.payload.length ≤ kMaxPayloadBytes.toNat) (now : Int)
    (st : WorkerState) (payload : Bytes) (hReply : payload.length ≤ kMaxPayloadBytes.toNat) :
    ∃ filters' post obj st' sent, Bridge.dispatchMessage s.filters msg = some (filters', some post) ∧
      Bridge.postMessageToDart true post = some obj ∧
      Worker.listener now st obj.deliver = .ok (st', sent) ∧
      ∀ request, .someIpMessage request ∈ sent →
        ∃ resp s', service.respond s request payload false = (s', .sent) ∧
          Bridge.getApp s' service.clientHandle = some (app.send resp) ∧
          (resp.address = msg.address ↔
            msg.service = 0 ∧ msg.instanceId = 0 ∧ msg.method = 0) := by
  obtain ⟨filters', payload', hDispatch, hSame⟩ :=
    Bridge.dispatchMessage_posts s.filters hLength
  obtain ⟨obj, throttles', sent, hPost, hListener, hSent, -⟩ :=
    listener_postOf msg (hSame.trans_le hLength) now st
  refine ⟨filters', _, obj, _, sent, hDispatch, hPost, hListener, fun request hMem => ?_⟩
  have hRequest : request = received msg payload' := by
    rcases hSent with rfl | rfl
    · exact DartObject.someIpMessage.inj (List.mem_singleton.mp hMem)
    · cases hMem
  obtain ⟨resp, s', hRespond, hHanded, hAddress⟩ :=
    respond_received service s hApp payload hReply msg payload'
  refine ⟨resp, s', hRequest ▸ hRespond, hHanded, ?_⟩
  rw [hAddress, Vsomeip.Message.address, Vsomeip.Address.mk.injEq]
  constructor
  · rintro ⟨hService, hInstance, hMethod, -, -⟩
    exact ⟨hService.symm, hInstance.symm, hMethod.symm⟩
  · rintro ⟨hService, hInstance, hMethod⟩
    exact ⟨hService.symm, hInstance.symm, hMethod.symm, rfl, rfl⟩

end Respond

section Example

def exampleRequest : Vsomeip.Message :=
  ⟨0x1111, 0x0001, 0x0421, Vsomeip.MT_REQUEST, Vsomeip.E_OK, 0x1277, 0x0003, [42]⟩

def exampleService : VsomeipService := ⟨1, 0x1111, 0x0001⟩

theorem VsomeipService.respond_address_iff_example :
    ∃ filters' post obj st' sent,
      Bridge.dispatchMessage (F := ExactSample) .empty exampleRequest = some (filters', some post) ∧
      Bridge.postMessageToDart true post = some obj ∧
      Worker.listener 0 .initial obj.deliver = .ok (st', sent) ∧
      ∀ request, .someIpMessage request ∈ sent →
        ∃ resp s', exampleService.respond (F := ExactSample) (Bridge.appCreate Bridge.initial 1)
            request [7] false = (s', .sent) ∧
          Bridge.getApp s' 1 = some (Vsomeip.Application.create.send resp) ∧
          (resp.address = exampleRequest.address ↔ exampleRequest.service = 0 ∧
            exampleRequest.instanceId = 0 ∧ exampleRequest.method = 0) :=
  respond_address_iff (Bridge.appCreate Bridge.initial 1) exampleService .create rfl exampleRequest
    (by decide) 0 .initial [7] (by decide)

theorem VsomeipService.respond_wrong_address :
    ∃ post obj request resp s',
      Bridge.dispatchMessage (F := ExactSample) .empty exampleRequest = some (.empty, some post) ∧
      Bridge.postMessageToDart true post = some obj ∧
      Worker.listener 0 .initial obj.deliver = .ok (.initial, [.someIpMessage request]) ∧
      exampleService.respond (F := ExactSample) (Bridge.appCreate Bridge.initial 1) request [7] false =
        (s', .sent) ∧
      Bridge.getApp s' 1 = some (Vsomeip.Application.create.send resp) ∧
      resp.address ≠ exampleRequest.address := by
  obtain ⟨obj, hPost, hListener⟩ := listener_postOf_unthrottled exampleRequest [42]
    (by decide) 0 .initial rfl
  obtain ⟨resp, s', hRespond, hHanded, hAddress⟩ := respond_received exampleService
    (Bridge.appCreate (F := ExactSample) Bridge.initial 1) rfl [7] (by decide) exampleRequest [42]
  refine ⟨_, obj, _, resp, s', Bridge.dispatchMessage_unfiltered (by decide) rfl, hPost, hListener,
    hRespond, hHanded, ?_⟩
  rw [hAddress]
  decide

end Example

end VsomeipDart
