import VsomeipDart.Delivery
import VsomeipDart.FilterRuns

/-! # Delivery through the filters

A message that one handler matches is posted once, with the payload that a sweep of the filters of its event
leaves.
-/

namespace VsomeipDart
set_option autoImplicit false

def EventId.ofMessage (msg : Vsomeip.Message) : EventId := ⟨msg.service, msg.instanceId, msg.method⟩

variable {F : Type} [FloatOps F]

namespace SignalMap

/-- The filters of the event of a message have swept its payload. -/
def swept (m : SignalMap F) (msg : Vsomeip.Message) : Sweep F := sweep (m (.ofMessage msg)) msg.payload

def advance (m : SignalMap F) (msg : Vsomeip.Message) : SignalMap F :=
  Function.update m (.ofMessage msg) (m.swept msg).filters

theorem sweep_nil (filters : UInt16 → Option (SignalFilter F)) : sweep filters [] = ⟨filters, [], false⟩ := by
  refine List.foldl_fixed' (fun o => ?_) _
  rw [feed]
  split
  · rfl
  · simp

end SignalMap

namespace Bridge

theorem filteredPayload_sweep {filters : FilterRegistry F} {m : SignalMap F} (h : Represents filters m)
    (msg : Vsomeip.Message) :
    ∃ filters', filteredPayload filters msg = some (filters', (m.swept msg).payload) ∧
      Represents filters' (m.advance msg) := by
  rcases Nat.eq_zero_or_pos msg.payload.length with hEmpty | hSome
  · -- the filters of the event are not asked for an empty payload
    have hNil : msg.payload = [] := List.length_eq_zero_iff.mp hEmpty
    have hSwept : m.swept msg = ⟨m (.ofMessage msg), [], false⟩ := by
      rw [SignalMap.swept, hNil, SignalMap.sweep_nil]
    refine ⟨filters, ?_, ?_⟩
    · rw [filteredPayload, hNil, hSwept]
      rfl
    · rw [SignalMap.advance, hSwept, Function.update_eq_self]
      exact h
  · obtain ⟨filters', hApply, hRep⟩ := h.apply (.ofMessage msg) msg.payload
    refine ⟨filters', ?_, hRep⟩
    cases hFilter : filters.hasFilter msg.service msg.instanceId msg.method with
    | false =>
      rw [EventId.ofMessage, FilterRegistry.apply_unfiltered hFilter] at hApply
      obtain ⟨hSame, hRest⟩ := Prod.mk.inj (Option.some.inj hApply)
      rw [filteredPayload_unfiltered hFilter, hSame, (Prod.mk.inj hRest).1]
      rfl
    | true =>
      rw [EventId.ofMessage] at hApply
      rw [filteredPayload, hFilter, Bool.and_true, if_pos (by simpa using hSome), hApply]
      rfl

theorem deliver_sole {s : BridgeState F} {handle : Handle} {app : Vsomeip.Application}
    (hApp : getApp s handle = some app) {m : SignalMap F} (h : Represents s.filters m) {msg : Vsomeip.Message}
    (hFits : msg.payload.length ≤ kMaxPayloadBytes.toNat) {key : HandlerKey} {port : DartPort}
    (hMatching : app.matching msg = [(key, port)]) :
    ∃ filters', deliver s handle msg =
        some ({ s with filters := filters' }, [(key, port, postOf msg (m.swept msg).payload)]) ∧
      Represents filters' (m.advance msg) := by
  obtain ⟨filters', hPayload, hRep⟩ := filteredPayload_sweep h msg
  refine ⟨filters', deliver_some hApp ?_, hRep⟩
  rw [hMatching]
  exact callHandlers_cons hFits hPayload key port []

end Bridge

end VsomeipDart
