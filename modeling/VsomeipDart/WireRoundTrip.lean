import VsomeipDart.Dispatch
import VsomeipDart.ExactSample
import VsomeipDart.Post
import VsomeipDart.Worker

/-! # A message survives the way from vsomeip to Dart

The header that the native side encodes is decoded field by field on the Dart side; both delivery paths
carry the payload unchanged.
-/

namespace VsomeipDart
set_option autoImplicit false

open LittleEndian

theorem toBytes_one (byte : UInt8) : toBytes 1 byte.toNat = [byte] := by
  rw [toBytes, UInt8.ofNat_toNat]
  rfl

namespace WireCodec

open ByteData

theorem decodeHeader_encodeHeader (hdr : VsomeipMessageHeader) (rest : Bytes) :
    decodeHeader (VsomeipSubscriber.encodeHeader hdr ++ rest) 0 = .ok {
      serviceId := hdr.serviceId.toNat
      instanceId := hdr.instanceId.toNat
      methodId := hdr.methodId.toNat
      messageType := hdr.messageType.toNat
      returnCode := hdr.returnCode.toNat
      requestId := signed64 hdr.requestId.toNat
      payloadLen := hdr.payloadLen.toNat } := by
  obtain ⟨svc, inst, meth, type, code, req, len⟩ := hdr
  obtain ⟨data, hData⟩ : ∃ data, VsomeipSubscriber.encodeHeader
    ⟨svc, inst, meth, type, code, req, len⟩ ++ rest = data := ⟨_, rfl⟩
  -- the buffer behind the discriminator, field after field
  have hStart : data.drop 1 = toBytes 2 svc.toNat ++ (toBytes 2 inst.toNat ++ (toBytes 2 meth.toNat ++
      (toBytes 1 type.toNat ++ (toBytes 1 code.toNat ++ (toBytes 8 req.toNat ++
      (toBytes 4 len.toNat ++ rest)))))) := by
    rw [← hData, VsomeipSubscriber.encodeHeader_eq, toBytes_one, toBytes_one]
    simp only [List.cons_append, List.append_assoc, List.drop_succ_cons, List.drop_zero,
      List.nil_append]
  obtain ⟨hService, hDrop⟩ := getUint_drop (by decide) svc.toNat_lt hStart
  obtain ⟨hInstance, hDrop⟩ := getUint_drop (by decide) inst.toNat_lt hDrop
  obtain ⟨hMethod, hDrop⟩ := getUint_drop (by decide) meth.toNat_lt hDrop
  obtain ⟨hType, hDrop⟩ := getUint_drop (by decide) type.toNat_lt hDrop
  obtain ⟨hCode, hDrop⟩ := getUint_drop (by decide) code.toNat_lt hDrop
  obtain ⟨hRequest, hDrop⟩ := getUint_drop (by decide) req.toNat_lt hDrop
  obtain ⟨hLength, -⟩ := getUint_drop (by decide) len.toNat_lt hDrop
  rw [hData]
  simp only [decodeHeader, getUint8, getUint16, getUint32, getUint64, Nat.zero_add, Nat.reduceAdd,
    hService, hInstance, hMethod, hType, hCode, hRequest, hLength]
  rfl

end WireCodec

/-- The message that Dart is to see, for a payload that is `payload` after filtering. -/
def received (msg : Vsomeip.Message) (payload : Bytes) : SomeIpMessage where
  serviceId := msg.service.toNat
  instanceId := msg.instanceId.toNat
  methodId := msg.method.toNat
  messageType := .fromByte msg.messageType.toNat
  returnCode := msg.returnCode.toNat
  requestId := msg.client.toNat * 65536 + msg.session.toNat
  payload := if payload = [] then none else some payload

theorem signed64_packRequestId (clientId sessionId : UInt16) :
    ByteData.signed64 (VsomeipSubscriber.packRequestId clientId sessionId).toNat =
      clientId.toNat * 65536 + sessionId.toNat := by
  have hClient : clientId.toNat < 2 ^ 16 := clientId.toNat_lt
  have hSession : sessionId.toNat < 2 ^ 16 := sessionId.toNat_lt
  rw [VsomeipSubscriber.packRequestId_toNat, ByteData.signed64, if_pos (by omega)]
  push_cast
  rfl

theorem toMessage_headerOf (msg : Vsomeip.Message) (payload rest : Bytes) :
    ∃ hdr, WireCodec.decodeHeader ((Bridge.postOf msg payload).header ++ rest) 0 = .ok hdr ∧
      WireCodec.toMessage hdr (if payload = [] then none else some payload) =
        received msg payload := by
  refine ⟨_, WireCodec.decodeHeader_encodeHeader _ rest, ?_⟩
  rw [Bridge.headerOf, WireCodec.toMessage, received, signed64_packRequestId]

section Worker

variable {msg : Vsomeip.Message} {payload : Bytes}

theorem postMessageToDart_postOf (h : payload.length ≤ kMaxPayloadBytes.toNat) :
    Bridge.postMessageToDart true (Bridge.postOf msg payload) =
      some (.array [.typedData (Bridge.postOf msg payload).header,
        if payload = [] then .null else .externalTypedData payload]) := by
  have hLen := toNat_ofNat_of_cap h
  have hPos := Bridge.ofNat_length_pos h
  rw [Bridge.postMessageToDart, Bridge.postOf]
  simp only [Bool.not_true, Bool.false_eq_true, if_false, not_gt_cap h]
  by_cases hNil : payload = []
  · simp only [hNil, if_true]
  · simp only [hNil, if_false, hPos.mpr hNil, if_true, hLen, List.take_length]

/-- The worker forwards the message or, with a throttle for its signal, drops it. -/
theorem listener_postOf (msg : Vsomeip.Message) (h : payload.length ≤ kMaxPayloadBytes.toNat)
    (now : Int) (st : WorkerState) :
    ∃ obj throttles' sent, Bridge.postMessageToDart true (Bridge.postOf msg payload) = some obj ∧
      Worker.listener now st obj.deliver = .ok ({ st with throttles := throttles' }, sent) ∧
      (sent = [.someIpMessage (received msg payload)] ∨ sent = []) ∧
      (st.throttles.lookup (received msg payload).key = none →
        throttles' = st.throttles ∧ sent = [.someIpMessage (received msg payload)]) := by
  obtain ⟨hdr, hDecode, hMessage⟩ := toMessage_headerOf msg payload []
  rw [List.append_nil] at hDecode
  have hKey : (⟨hdr.serviceId, hdr.instanceId, hdr.methodId⟩ : SomeIpKey) =
      (received msg payload).key := by
    rw [← hMessage]
    rfl
  have hPayload : (CValue.deliver (if payload = [] then .null
      else .externalTypedData payload)).uint8List? =
        if payload = [] then none else some payload := by
    by_cases hNil : payload = [] <;> simp [hNil, CValue.deliver, DartValue.uint8List?]
  have hDisc : ∀ second, Worker.handleDisc now (Bridge.postOf msg payload).header second
      st.throttles = Worker.handleMessage now (Bridge.postOf msg payload).header second
        st.throttles := by
    intro second
    rw [Bridge.postOf]
    dsimp only
    rw [VsomeipSubscriber.encodeHeader_eq]
    rfl
  have hListener : ∀ {throttles' sent}, Worker.handleMessage now (Bridge.postOf msg payload).header
      (if payload = [] then none else some payload) st.throttles = .ok (throttles', sent) →
      Worker.listener now st (CObject.deliver (.array [.typedData (Bridge.postOf msg payload).header,
        if payload = [] then .null else .externalTypedData payload])) =
          .ok ({ st with throttles := throttles' }, sent) := by
    intro throttles' sent hHandle
    rw [CObject.deliver, List.map_cons, List.map_singleton, CValue.deliver, Worker.listener_pair,
      hPayload, hDisc, hHandle]
    rfl
  cases hThrottle : st.throttles.lookup (received msg payload).key with
  | none =>
    refine ⟨_, st.throttles, _, postMessageToDart_postOf h, hListener ?_, Or.inl rfl,
      fun _ => ⟨rfl, rfl⟩⟩
    rw [Worker.handleMessage_none now _ hDecode (hKey ▸ hThrottle), hMessage]
  | some throttle =>
    have hHandle := Worker.handleMessage_some now (if payload = [] then none else some payload)
      hDecode (hKey ▸ hThrottle)
    rw [hMessage] at hHandle
    refine ⟨_, _, _, postMessageToDart_postOf h, hListener hHandle, ?_, fun hNone => by cases hNone⟩
    split
    · exact Or.inl rfl
    · exact Or.inr rfl

theorem listener_postOf_unthrottled (msg : Vsomeip.Message) (payload : Bytes)
    (h : payload.length ≤ kMaxPayloadBytes.toNat) (now : Int) (st : WorkerState)
    (hThrottle : st.throttles.lookup (received msg payload).key = none) :
    ∃ obj, Bridge.postMessageToDart true (Bridge.postOf msg payload) = some obj ∧
      Worker.listener now st obj.deliver =
        .ok (st, [.someIpMessage (received msg payload)]) := by
  obtain ⟨obj, throttles', sent, hPost, hListener, -, hNone⟩ := listener_postOf msg h now st
  obtain ⟨rfl, rfl⟩ := hNone hThrottle
  exact ⟨obj, hPost, hListener⟩

end Worker

theorem postToCallback_postOf (msg : Vsomeip.Message) {payload : Bytes}
    (h : payload.length ≤ kMaxPayloadBytes.toNat) :
    ∃ args, Bridge.postToCallback (Bridge.postOf msg payload) = some args ∧
      args.disc = VsomeipDisc.kMessage ∧
      args.disc :: args.data = (Bridge.postOf msg payload).header ++ payload ∧
      args.len.toNat = 20 + payload.length := by
  have hLen := toNat_ofNat_of_cap h
  have hCopied : Bridge.copiedPayload (Bridge.postOf msg payload) = payload := by
    rw [Bridge.copiedPayload, Bridge.postOf]
    by_cases hNil : payload = []
    · simp only [hNil, if_true]
    · have hPos := (Bridge.ofNat_length_pos h).mpr hNil
      simp only [hNil, if_false, hPos, if_true, hLen, List.take_length]
  obtain ⟨tail, hHeader⟩ : ∃ tail, (Bridge.postOf msg payload).header =
      VsomeipDisc.kMessage :: tail := ⟨_, VsomeipSubscriber.encodeHeader_eq _⟩
  have hTotal : (UInt32.ofNat (Bridge.postOf msg payload).header.length +
      UInt32.ofNat payload.length - 1).toNat = 20 + payload.length := by
    have hSum : (UInt32.ofNat 21 + UInt32.ofNat payload.length).toNat = 21 + payload.length := by
      rw [UInt32.toNat_add, hLen]
      rw [kMaxPayloadBytes_toNat] at h
      exact Nat.mod_eq_of_lt (by
        show 21 + payload.length < 2 ^ 32
        omega)
    rw [Bridge.postOf, VsomeipSubscriber.encodeHeader_length, UInt32.toNat_sub_of_le, hSum]
    · show 21 + payload.length - 1 = 20 + payload.length
      omega
    · rw [UInt32.le_iff_toNat_le, hSum]
      show 1 ≤ 21 + payload.length
      omega
  refine ⟨⟨VsomeipDisc.kMessage, tail ++ payload, _⟩, ?_, rfl, ?_, hTotal⟩
  · rw [Bridge.postToCallback, hCopied, hHeader]
    rfl
  · rw [hHeader, List.cons_append]

/-- A message without filter and throttle arrives as it was sent, on both delivery paths. -/
theorem message_round_trip {F : Type} [FloatOps F] (filters : FilterRegistry F)
    (msg : Vsomeip.Message) (now : Int) (st : WorkerState)
    (hLength : msg.payload.length ≤ kMaxPayloadBytes.toNat)
    (hFilter : filters.hasFilter msg.service msg.instanceId msg.method = false)
    (hThrottle : st.throttles.lookup
      ⟨msg.service.toNat, msg.instanceId.toNat, msg.method.toNat⟩ = none) :
    ∃ post obj args m, Bridge.dispatchMessage filters msg = some (filters, some post) ∧
      Bridge.postMessageToDart true post = some obj ∧
      Worker.listener now st obj.deliver = .ok (st, [.someIpMessage m]) ∧
      m = {
        serviceId := msg.service.toNat
        instanceId := msg.instanceId.toNat
        methodId := msg.method.toNat
        messageType := .fromByte msg.messageType.toNat
        returnCode := msg.returnCode.toNat
        requestId := msg.client.toNat * 65536 + msg.session.toNat
        payload := if msg.payload = [] then none else some msg.payload } ∧
      0 ≤ m.requestId ∧
      Bridge.postToCallback post = some args ∧
      args.disc = 0x01 ∧ args.disc :: args.data = post.header ++ msg.payload ∧
      post.header.length = 21 ∧ args.len.toNat = 20 + msg.payload.length ∧
      ∃ hdr, WireCodec.decodeHeader (args.disc :: args.data) 0 = .ok hdr ∧
        WireCodec.toMessage hdr
          (if args.data.drop 20 = [] then none else some (args.data.drop 20)) = m := by
  obtain ⟨obj, hPost, hListener⟩ :=
    listener_postOf_unthrottled msg msg.payload hLength now st hThrottle
  obtain ⟨args, hCallback, hDisc, hData, hLen⟩ := postToCallback_postOf msg hLength
  obtain ⟨hdr, hDecode, hMessage⟩ := toMessage_headerOf msg msg.payload msg.payload
  have hHeader : (Bridge.postOf msg msg.payload).header.length = 21 :=
    VsomeipSubscriber.encodeHeader_length _
  have hRest : args.data.drop 20 = msg.payload := by
    have hDrop := congrArg (List.drop 21) hData
    rw [List.drop_left' hHeader, List.drop_succ_cons] at hDrop
    exact hDrop
  refine ⟨Bridge.postOf msg msg.payload, obj, args, received msg msg.payload,
    Bridge.dispatchMessage_unfiltered hLength hFilter, hPost, hListener, rfl, ?_, hCallback, hDisc,
    hData, hHeader, hLen, hdr, ?_, ?_⟩
  · show 0 ≤ (msg.client.toNat * 65536 + msg.session.toNat : Int)
    omega
  · rw [hData]
    exact hDecode
  · rw [hRest]
    exact hMessage

theorem message_round_trip_notification :
    ∃ post obj, Bridge.dispatchMessage (F := ExactSample) .empty
        ⟨0x1111, 0x0001, 0x8001, 0x02, 0x00, 0x1277, 0x0003, [10, 20]⟩ = some (.empty, some post) ∧
      Bridge.postMessageToDart true post = some obj ∧
      Worker.listener 0 .initial obj.deliver = .ok (.initial, [.someIpMessage
        ⟨0x1111, 0x0001, 0x8001, .notification, 0, 0x12770003, some [10, 20]⟩]) := by
  obtain ⟨post, obj, args, m, hDispatch, hPost, hListener, rfl, -⟩ :=
    message_round_trip (F := ExactSample) .empty
      ⟨0x1111, 0x0001, 0x8001, 0x02, 0x00, 0x1277, 0x0003, [10, 20]⟩ 0 .initial
      (by decide) rfl rfl
  exact ⟨post, obj, hDispatch, hPost, hListener⟩

end VsomeipDart
