import VsomeipDart.FilterRegistry
import VsomeipDart.Subscriber
import VsomeipDart.Vsomeip

/-! # Dispatch of a vsomeip message (`dispatch_message` in `vsomeip_bridge.cpp`) -/

namespace VsomeipDart
set_option autoImplicit false

namespace Bridge

section Dispatch

variable {F : Type} [FloatOps F]

/-- The payload of a message, or the copy of it that went through the filters of its event; `none` is
a memory fault. -/
def filteredPayload (filters : FilterRegistry F) (msg : Vsomeip.Message) :
    Option (FilterRegistry F × Bytes) :=
  if msg.payload.length > 0 && filters.hasFilter msg.service msg.instanceId msg.method then do
    let (filters, filtered, _) ← filters.apply msg.service msg.instanceId msg.method msg.payload
    return (filters, filtered)
  else some (filters, msg.payload)

/-- The filters after the call and the call of `post_fn`, if the message is not dropped. -/
def dispatchMessage (filters : FilterRegistry F) (msg : Vsomeip.Message) :
    Option (FilterRegistry F × Option MessagePost) :=
  let rawLen := msg.payload.length
  if rawLen > kMaxPayloadBytes.toNat then some (filters, none)
  else do
    let (filters, payload) ← filteredPayload filters msg
    let payloadData := if rawLen > 0 then some payload else none
    return (filters, some (VsomeipSubscriber.onMessage msg.service msg.instanceId msg.method
      msg.messageType msg.returnCode msg.client msg.session payloadData (UInt32.ofNat rawLen)))

end Dispatch

def headerOf (msg : Vsomeip.Message) (payloadLen : Nat) : VsomeipMessageHeader where
  serviceId := msg.service
  instanceId := msg.instanceId
  methodId := msg.method
  messageType := msg.messageType
  returnCode := msg.returnCode
  requestId := VsomeipSubscriber.packRequestId msg.client msg.session
  payloadLen := UInt32.ofNat payloadLen

def postOf (msg : Vsomeip.Message) (payload : Bytes) : MessagePost where
  header := VsomeipSubscriber.encodeHeader (headerOf msg payload.length)
  payload := if payload = [] then none else some payload
  payloadLen := UInt32.ofNat payload.length

theorem ofNat_length_pos {payload : Bytes} (h : payload.length ≤ kMaxPayloadBytes.toNat) :
    UInt32.ofNat payload.length > 0 ↔ payload ≠ [] := by
  rw [gt_iff_lt, UInt32.lt_iff_toNat_lt, toNat_ofNat_of_cap h]
  exact List.length_pos_iff

theorem postOf_inj {msg : Vsomeip.Message} {payload payload' : Bytes}
    (h : postOf msg payload = postOf msg payload') : payload = payload' := by
  have hPayload := congrArg MessagePost.payload h
  rw [postOf, postOf] at hPayload
  by_cases hNil : payload = [] <;> by_cases hNil' : payload' = [] <;> simp_all

variable {F : Type} [FloatOps F] {filters : FilterRegistry F} {msg : Vsomeip.Message}

theorem filteredPayload_unfiltered
    (h : filters.hasFilter msg.service msg.instanceId msg.method = false) :
    filteredPayload filters msg = some (filters, msg.payload) := by
  rw [filteredPayload, h, Bool.and_false, if_neg Bool.false_ne_true]

theorem filteredPayload_total (filters : FilterRegistry F) (msg : Vsomeip.Message) :
    ∃ filters' payload, filteredPayload filters msg = some (filters', payload) ∧
      payload.length = msg.payload.length := by
  unfold filteredPayload
  split
  · obtain ⟨filters', payload, any, hApply, hLength⟩ :=
      filters.apply_total msg.service msg.instanceId msg.method msg.payload
    refine ⟨filters', payload, ?_, hLength⟩
    rw [hApply]
    rfl
  · exact ⟨filters, msg.payload, rfl, rfl⟩

theorem dispatchMessage_oversize (h : kMaxPayloadBytes.toNat < msg.payload.length) :
    dispatchMessage filters msg = some (filters, none) := by
  rw [dispatchMessage, if_pos h]

theorem dispatchMessage_eq {filters' : FilterRegistry F} {payload : Bytes}
    (h : msg.payload.length ≤ kMaxPayloadBytes.toNat)
    (hPayload : filteredPayload filters msg = some (filters', payload)) :
    dispatchMessage filters msg = some (filters', some (postOf msg payload)) := by
  obtain ⟨filters'', payload', hTotal, hLength⟩ := filteredPayload_total filters msg
  obtain ⟨rfl, rfl⟩ := Prod.mk.inj (Option.some.inj (hTotal.symm.trans hPayload))
  have hCap : payload'.length ≤ kMaxPayloadBytes.toNat := by omega
  have hPos := ofNat_length_pos hCap
  rw [dispatchMessage, if_neg (by omega), hPayload]
  rcases eq_or_ne payload' ([]) with rfl | hNil
  · simp [VsomeipSubscriber.onMessage, postOf, headerOf, ← hLength]
  · simp [VsomeipSubscriber.onMessage, postOf, headerOf, ← hLength, hPos.mpr hNil, hNil,
      List.length_pos_iff.mpr hNil]

theorem dispatchMessage_unfiltered (h : msg.payload.length ≤ kMaxPayloadBytes.toNat)
    (hFilter : filters.hasFilter msg.service msg.instanceId msg.method = false) :
    dispatchMessage filters msg = some (filters, some (postOf msg msg.payload)) :=
  dispatchMessage_eq h (filteredPayload_unfiltered hFilter)

theorem dispatchMessage_posts (filters : FilterRegistry F)
    (h : msg.payload.length ≤ kMaxPayloadBytes.toNat) :
    ∃ filters' payload, dispatchMessage filters msg = some (filters', some (postOf msg payload)) ∧
      payload.length = msg.payload.length := by
  obtain ⟨filters', payload, hPayload, hLength⟩ := filteredPayload_total filters msg
  exact ⟨filters', payload, dispatchMessage_eq h hPayload, hLength⟩

end Bridge

end VsomeipDart
