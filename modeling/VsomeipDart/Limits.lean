import VsomeipDart.Bridge
import VsomeipDart.ExactSample
import VsomeipDart.WireRoundTrip

/-! # The size limit of senders and receivers (`vsomeip_bridge.cpp`) -/

namespace VsomeipDart
set_option autoImplicit false

inductive SendCall where
  | sendRequest (serviceId instanceId methodId : UInt16) (timeoutMs : UInt32) (resultPort : DartPort)
  | sendFireForget (serviceId instanceId methodId : UInt16)
  | sendResponse (requestId : UInt64)
  | notify (serviceId instanceId eventId : UInt16) (force : Bool)
  deriving DecidableEq, Repr

def SendCall.IsNotify : SendCall → Prop
  | notify .. => True
  | _ => False

/-- `payload_buf` and `payload_len` of a call: that many bytes can be read. -/
structure PayloadArg where
  buf : Bytes
  len : UInt32
  readable : len.toNat ≤ buf.length

namespace Bridge

variable {F : Type}

def send (s : BridgeState F) (handle : Handle) (call : SendCall) (arg : PayloadArg) (throws : Bool) :
    BridgeState F × SendOutcome :=
  match call with
  | .sendRequest svc inst method timeoutMs resultPort =>
    let (s, outcome, _) :=
      sendRequest s handle svc inst method arg.buf arg.len timeoutMs resultPort throws
    (s, outcome)
  | .sendFireForget svc inst method => sendFireForget s handle svc inst method arg.buf arg.len throws
  | .sendResponse requestId => sendResponse s handle requestId arg.buf arg.len throws
  | .notify svc inst evt force => notify s handle svc inst evt arg.buf arg.len force

def handedPayload (call : SendCall) (arg : PayloadArg) : Bytes :=
  match call with
  | .notify .. => arg.buf.take arg.len.toNat
  | _ => sentPayload arg.buf arg.len

def Hands (s s' : BridgeState F) (handle : Handle) (msg : Vsomeip.Message) : Prop :=
  ∃ app, getApp s handle = some app ∧ getApp s' handle = some (app.send msg)

theorem handedPayload_length (call : SendCall) (arg : PayloadArg) :
    (handedPayload call arg).length = arg.len.toNat := by
  have hTake : (arg.buf.take arg.len.toNat).length = arg.len.toNat :=
    List.length_take_of_le arg.readable
  have hSent : (sentPayload arg.buf arg.len).length = arg.len.toNat := by
    rw [sentPayload]
    split
    · exact hTake
    · rename_i hPos
      rw [gt_iff_lt, UInt32.lt_iff_toNat_lt, UInt32.toNat_zero] at hPos
      exact (Nat.eq_zero_of_not_pos hPos).symm
  cases call with
  | notify => exact hTake
  | _ => exact hSent

theorem hands_irrefl (s : BridgeState F) (handle : Handle) (msg : Vsomeip.Message) :
    ¬ Hands s s handle msg := by
  rintro ⟨app, hApp, hSame⟩
  have hSent := congrArg (fun app => app.sent.length) (Option.some.inj (hApp.symm.trans hSame))
  simp [Vsomeip.Application.send] at hSent

section Send

variable {s : BridgeState F} {handle : Handle}

theorem send_noApp (h : getApp s handle = none) (call : SendCall) (arg : PayloadArg)
    (throws : Bool) : send s handle call arg throws = (s, .noApp) := by
  cases call <;> simp [send, sendRequest, sendFireForget, sendResponse, notify, h]

variable {app : Vsomeip.Application} (hApp : getApp s handle = some app)

include hApp

theorem hands_withApp {msg other : Vsomeip.Message}
    (h : Hands s (withApp s handle fun app => app.send msg) handle other) : other = msg := by
  obtain ⟨app', hApp', hSent⟩ := h
  rw [hApp] at hApp'
  cases hApp'
  rw [getApp_withApp hApp] at hSent
  have hList := congrArg Vsomeip.Application.sent (Option.some.inj hSent)
  exact (List.singleton_inj.mp (List.append_cancel_left hList)).symm

variable {call : SendCall} {arg : PayloadArg}

theorem send_refused (hCall : ¬ call.IsNotify) (hCap : arg.len > kMaxPayloadBytes) (throws : Bool) :
    send s handle call arg throws = (s, .refused) := by
  cases call with
  | notify => exact absurd trivial hCall
  | _ => simp [send, sendRequest, sendFireForget, sendResponse, hApp, hCap]

theorem send_threw (hCall : ¬ call.IsNotify)
    (hCap : ¬ arg.len > kMaxPayloadBytes) :
    send s handle call arg true = (s, .threw) := by
  cases call with
  | notify => exact absurd trivial hCall
  | _ => simp [send, sendRequest, sendFireForget, sendResponse, hApp, if_neg hCap]

theorem send_sent (arg : PayloadArg) (throws : Bool)
    (h : call.IsNotify ∨ ¬ arg.len > kMaxPayloadBytes ∧ throws = false) :
    ∃ msg, msg.payload = handedPayload call arg ∧
      send s handle call arg throws = (withApp s handle fun app => app.send msg, .sent) := by
  cases call with
  | notify svc inst evt force =>
    exact ⟨_, rfl, by
      rw [send, notify, hApp]
      rfl⟩
  | _ =>
    obtain hNotify | ⟨hCap, rfl⟩ := h
    · exact hNotify.elim
    · exact ⟨_, rfl, by
        simp [send, sendRequest, sendFireForget, sendResponse, hApp, if_neg hCap]
        rfl⟩

end Send

section Limit

variable [FloatOps F]

/-- A bridge application that is given the message posts it to its Dart port. -/
def Accepts (received : Vsomeip.Message) : Prop :=
  ∀ filters : FilterRegistry F, ∃ filters' post obj,
    dispatchMessage filters received = some (filters', some post) ∧
      postMessageToDart true post = some obj

/-- What a call does with its payload length, and what a receiver of its message does. -/
structure SameLimit (s : BridgeState F) (handle : Handle) (call : SendCall) (arg : PayloadArg)
    (throws : Bool) : Prop where
  delivered : ∀ msg, Hands s (send s handle call arg throws).1 handle msg →
    ∀ received : Vsomeip.Message, received.payload = msg.payload → Accepts (F := F) received
  accepted : ¬ arg.len > kMaxPayloadBytes → (send s handle call arg throws).2 ≠ .refused
  refused : arg.len > kMaxPayloadBytes → ∀ msg, ¬ Hands s (send s handle call arg throws).1 handle msg

theorem accepts_iff (received : Vsomeip.Message) :
    Accepts (F := F) received ↔ received.payload.length ≤ kMaxPayloadBytes.toNat := by
  constructor
  · intro h
    by_contra hOver
    obtain ⟨filters', post, obj, hDispatch, -⟩ := h .empty
    rw [dispatchMessage_oversize (Nat.lt_of_not_le hOver)] at hDispatch
    cases hDispatch
  · intro hCap filters
    obtain ⟨filters', payload, hDispatch, hLength⟩ := dispatchMessage_posts filters hCap
    exact ⟨filters', _, _, hDispatch, postMessageToDart_postOf (hLength ▸ hCap)⟩

variable {s : BridgeState F} {handle : Handle} {call : SendCall} {arg : PayloadArg} {throws : Bool}

theorem sameLimit_of_unchanged (hState : (send s handle call arg throws).1 = s)
    (hOutcome : ¬ arg.len > kMaxPayloadBytes → (send s handle call arg throws).2 ≠ .refused) :
    SameLimit s handle call arg throws where
  delivered msg h := by
    rw [hState] at h
    exact absurd h (hands_irrefl s handle msg)
  accepted := hOutcome
  refused _ msg h := by
    rw [hState] at h
    exact hands_irrefl s handle msg h

/-- Under the limit a call is not refused, and what it sends is accepted. -/
theorem sameLimit_of_le {app : Vsomeip.Application} (hApp : getApp s handle = some app)
    (hCap : ¬ arg.len > kMaxPayloadBytes) : SameLimit s handle call arg throws := by
  rcases Classical.em (¬ call.IsNotify ∧ throws = true) with ⟨hCall, rfl⟩ | hSends
  · have hSend := send_threw hApp hCall hCap
    exact sameLimit_of_unchanged (by rw [hSend]) fun _ => by simp [hSend]
  · obtain ⟨msg, hPayload, hSend⟩ := send_sent hApp arg throws (by
      rw [not_and_or, not_not, Bool.not_eq_true] at hSends
      exact hSends.imp_right fun h => ⟨hCap, h⟩)
    refine ⟨fun other hHands received hReceived => ?_, fun _ => by simp [hSend],
      fun h => absurd h hCap⟩
    rw [hSend] at hHands
    rw [accepts_iff, hReceived, hands_withApp hApp hHands, hPayload, handedPayload_length]
    exact Nat.le_of_not_lt fun h => hCap (UInt32.lt_iff_toNat_lt.mpr h)

/-- A notification over the limit goes out, and every receiver drops it. -/
theorem notify_over_limit {app : Vsomeip.Application} (hApp : getApp s handle = some app)
    (hCall : call.IsNotify) (hCap : arg.len > kMaxPayloadBytes) (throws : Bool) :
    ∃ msg, Hands s (send s handle call arg throws).1 handle msg ∧
      ∀ received : Vsomeip.Message, received.payload = msg.payload →
        ¬ Accepts (F := F) received := by
  obtain ⟨msg, hPayload, hSend⟩ := send_sent hApp arg throws (.inl hCall)
  refine ⟨msg, ⟨app, hApp, by rw [hSend, getApp_withApp hApp]⟩, fun received hReceived => ?_⟩
  rw [accepts_iff, hReceived, hPayload, handedPayload_length]
  exact Nat.not_le_of_gt (UInt32.lt_iff_toNat_lt.mp hCap)

/-- Every entry point but `vsomeip_notify` keeps to the limit of the receivers. -/
theorem sameLimit_iff (s : BridgeState F) (handle : Handle) (call : SendCall) (arg : PayloadArg)
    (throws : Bool) :
    SameLimit s handle call arg throws ↔
      getApp s handle = none ∨ ¬ call.IsNotify ∨ ¬ arg.len > kMaxPayloadBytes := by
  cases hApp : getApp s handle with
  | none =>
    have hSend := send_noApp hApp call arg throws
    exact iff_of_true (sameLimit_of_unchanged (by rw [hSend]) fun _ => by simp [hSend]) (.inl rfl)
  | some app =>
    constructor
    · intro h
      right
      rw [← not_and_or]
      rintro ⟨hCall, hCap⟩
      obtain ⟨msg, hHands, -⟩ :=
        notify_over_limit (F := F) hApp hCall hCap throws
      exact h.refused hCap msg hHands
    · rintro (hNone | hCall | hCap)
      · cases hNone
      · rcases Classical.em (arg.len > kMaxPayloadBytes) with hOver | hCap
        · have hSend := send_refused hApp hCall hOver throws
          exact sameLimit_of_unchanged (by rw [hSend]) fun hCap => absurd hOver hCap
        · exact sameLimit_of_le hApp hCap
      · exact sameLimit_of_le hApp hCap

end Limit

def oversizeArg : PayloadArg where
  buf := List.replicate 0x100001 0
  len := 0x100001
  readable := by
    rw [List.length_replicate]
    decide

theorem oversize_notify_lost :
    (∃ msg, Hands (appCreate (initial (F := ExactSample)) 1)
        (send (appCreate initial 1) 1 (.notify 0x1234 1 0x8001 false) oversizeArg false).1 1 msg ∧
      ¬ Accepts (F := ExactSample) msg) ∧
    ¬ ∀ (s : BridgeState ExactSample) (handle : Handle) (call : SendCall) (arg : PayloadArg)
      (throws : Bool), SameLimit s handle call arg throws := by
  have hCap : oversizeArg.len > kMaxPayloadBytes := by decide
  have hCall : (SendCall.notify 0x1234 1 0x8001 false).IsNotify := trivial
  have hApp : getApp (appCreate (initial (F := ExactSample)) 1) 1 = some .create :=
    AList.lookup_insert _
  obtain ⟨msg, hHands, hLost⟩ := notify_over_limit (F := ExactSample) hApp hCall hCap false
  exact ⟨⟨msg, hHands, hLost msg rfl⟩, fun h => (h _ _ _ _ _).refused hCap msg hHands⟩

end Bridge

end VsomeipDart
