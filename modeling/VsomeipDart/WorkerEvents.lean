import VsomeipDart.WireRoundTrip

/-! # Events of the native side at the worker

State, availability and error events are posted as one buffer, which the listener of the worker tells
from a message by its length alone.
-/

namespace VsomeipDart
set_option autoImplicit false

open LittleEndian

namespace NativeEvent

def forwarded : NativeEvent → DartObject
  | state s => .stateEvent ⟨s.registered, s.appName.map UInt8.toUInt16⟩
  | availability a _ =>
    .availabilityEvent ⟨a.serviceId.toNat, a.instanceId.toNat, a.available⟩
  | error text => .value (.uint8List (VsomeipDisc.kError :: text))

/-- The listener takes the buffer as one, raises nothing and sends exactly the event. -/
def Handled (now : Int) (st : WorkerState) (event : NativeEvent) : Prop :=
  ∃ obj, event.post true = some obj ∧
    Worker.branch obj.deliver = .singleBuffer (event.disc :: event.data) ∧
    Worker.listener now st obj.deliver = .ok (st, [event.forwarded])

def OneByte : NativeEvent → Prop
  | state s => s.appName = []
  | availability _ _ => False
  | error text => text.length = 1

theorem oneByte_iff (event : NativeEvent) : event.OneByte ↔ event.data.length = 1 := by
  cases event with
  | state s => simp [OneByte, data]
  | availability a padding => simp [OneByte, data]
  | error text => rfl

theorem post_eq {event : NativeEvent} (h : event.data.length ≤ kMaxPayloadBytes.toNat) :
    event.post true = some (.value (.externalTypedData (event.disc :: event.data))) := by
  rw [post, Bridge.postToDart, if_neg (by decide), if_neg (not_gt_cap h), toNat_ofNat_of_cap h,
    List.take_length]

theorem decodeState_data (s : VsomeipState) :
    WireCodec.decodeState (VsomeipDisc.kState :: data (.state s)) 0 =
      .ok ⟨s.registered, s.appName.map UInt8.toUInt16⟩ := by
  obtain ⟨registered, appName⟩ := s
  cases registered <;> simp [WireCodec.decodeState, data, WireCodec.byteAt, WireCodec.fromCharCodes]
    <;> rfl

theorem decodeAvailability_data (a : VsomeipAvailability) (padding : UInt8) :
    WireCodec.decodeAvailability (VsomeipDisc.kAvailability :: data (.availability a padding)) 0 =
      .ok ⟨a.serviceId.toNat, a.instanceId.toNat, a.available⟩ := by
  obtain ⟨svc, inst, available⟩ := a
  obtain ⟨buffer, hBuffer⟩ : ∃ buffer,
    VsomeipDisc.kAvailability :: data (.availability ⟨svc, inst, available⟩ padding) = buffer :=
      ⟨_, rfl⟩
  have hFlag : toBytes 1 (if available then 1 else 0) = [if available then 1 else 0] := by
    cases available <;> rfl
  have hStart : buffer.drop 1 = toBytes 2 svc.toNat ++ (toBytes 2 inst.toNat ++
      (toBytes 1 (if available then 1 else 0) ++ [padding])) := by
    rw [← hBuffer, hFlag, data]
    simp only [List.append_assoc, List.drop_succ_cons, List.drop_zero]
  obtain ⟨hService, hDrop⟩ := ByteData.getUint_drop (by decide) svc.toNat_lt hStart
  obtain ⟨hInstance, hDrop⟩ := ByteData.getUint_drop (by decide) inst.toNat_lt hDrop
  obtain ⟨hAvailable, -⟩ := ByteData.getUint_drop (by decide) (by cases available <;> decide) hDrop
  rw [hBuffer]
  simp only [WireCodec.decodeAvailability, ByteData.getUint8, ByteData.getUint16, Nat.zero_add,
    Nat.reduceAdd, hService, hInstance, hAvailable]
  cases available <;> rfl

theorem handleDisc_event (now : Int) (throttles : Throttles) (event : NativeEvent) :
    Worker.handleDisc now (event.disc :: event.data) none throttles =
      .ok (throttles, [event.forwarded]) := by
  cases event with
  | state s =>
    have hDecode := decodeState_data s
    rw [Worker.handleDisc, disc, if_neg (by decide), if_neg (by decide), if_pos (by decide), hDecode]
    rfl
  | availability a padding =>
    have hDecode := decodeAvailability_data a padding
    rw [Worker.handleDisc, disc, if_neg (by decide), if_pos (by decide), hDecode]
    rfl
  | error text => rfl

/-- An event of at most 1 MiB is handled by the worker exactly when its buffer does not have two bytes:
the buffer of a state event with the empty name, or of a one-byte error text, raises a `TypeError`. -/
theorem handled_iff (now : Int) (st : WorkerState) (event : NativeEvent)
    (hLength : event.data.length ≤ kMaxPayloadBytes.toNat) :
    event.Handled now st ↔ ¬ event.OneByte := by
  rw [oneByte_iff, Handled, post_eq hLength]
  constructor
  · rintro ⟨obj, hPost, -, hListener⟩ hOne
    obtain rfl := Option.some.inj hPost
    obtain ⟨byte, hByte⟩ := List.length_eq_one_iff.mp hOne
    rw [hByte, CObject.deliver, CValue.deliver, Worker.listener_twoBytes] at hListener
    cases hListener
  · intro hOne
    have hTwo : (event.disc :: event.data).length ≠ 2 := fun h => hOne (by simpa using h)
    have hNonempty : event.disc :: event.data ≠ [] := List.cons_ne_nil _ _
    refine ⟨_, rfl, Worker.branch_uint8List hNonempty hTwo, ?_⟩
    rw [CObject.deliver, CValue.deliver, Worker.listener_uint8List now st hNonempty hTwo,
      handleDisc_event]
    rfl

theorem handled_iff_named : (NativeEvent.state ⟨true, [0x65]⟩).Handled 0 .initial :=
  (handled_iff 0 .initial (.state ⟨true, [0x65]⟩) (by decide)).mpr (List.cons_ne_nil _ _)

theorem not_handled_empty_name :
    (NativeEvent.state ⟨true, []⟩).data.length ≤ kMaxPayloadBytes.toNat ∧
      ¬ (NativeEvent.state ⟨true, []⟩).Handled 0 .initial := by
  refine ⟨by decide, ?_⟩
  rintro ⟨obj, hPost, -, hListener⟩
  cases hPost
  cases hListener

end NativeEvent

end VsomeipDart
