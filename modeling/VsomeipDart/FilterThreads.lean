import VsomeipDart.Bridge
import VsomeipDart.Lib.Linearized

/-! # Filters that are configured while messages are dispatched (`vsomeip_bridge.cpp`)

Every application has a thread that calls its message handlers, and the threads of Dart call
`vsomeip_set_filter` and `vsomeip_clear_filter`. A function of the registry runs under its mutex, and is one
step; `dispatch_message` uses two of them.
-/

namespace VsomeipDart
set_option autoImplicit false

open Linearized

namespace FilterThreads

inductive Call (F : Type) where
  | dispatchMessage (msg : Vsomeip.Message)
  | setFilter (serviceId instanceId eventId : UInt16) (filterType : UInt8) (payloadOffset : UInt16) (param : F)
  | clearFilter (serviceId instanceId eventId : UInt16)

variable {F : Type}

/-- Where a thread is in `dispatch_message`. -/
inductive Stage where
  | idle
  /-- `has_filter` returned true, and the payload is in `filtered_buf` -/
  | copied (msg : Vsomeip.Message) (some : 0 < msg.payload.length)
      (fits : msg.payload.length ≤ kMaxPayloadBytes.toNat)
  /-- in front of `on_message` -/
  | ready (msg : Vsomeip.Message) (payloadData : Option Bytes)

structure Worker (F : Type) where
  calls : List (Call F)
  stage : Stage
  posts : List MessagePost

def onMessage (msg : Vsomeip.Message) (payloadData : Option Bytes) : MessagePost :=
  VsomeipSubscriber.onMessage msg.service msg.instanceId msg.method msg.messageType msg.returnCode msg.client
    msg.session payloadData (UInt32.ofNat msg.payload.length)

section Steps

variable [FloatOps F]

def step (_ : Nat) (b : BridgeState F) (t : Worker F) : Option (BridgeState F × Worker F) :=
  match t.stage with
  | .ready msg payloadData =>
    some (b, { t with stage := .idle, posts := t.posts ++ [onMessage msg payloadData] })
  | .copied msg _ _ => do
    let (filters, filtered, _) ← b.filters.apply msg.service msg.instanceId msg.method msg.payload
    return ({ b with filters }, { t with stage := .ready msg (some filtered) })
  | .idle =>
    match t.calls with
    | [] => none
    | .setFilter serviceId instanceId eventId filterType payloadOffset param :: rest =>
      some (Bridge.setFilter b serviceId instanceId eventId filterType payloadOffset param,
        { t with calls := rest })
    | .clearFilter serviceId instanceId eventId :: rest =>
      some (Bridge.clearFilter b serviceId instanceId eventId, { t with calls := rest })
    | .dispatchMessage msg :: rest =>
      if hOver : msg.payload.length > kMaxPayloadBytes.toNat then some (b, { t with calls := rest })
      else if hSome : msg.payload.length > 0 then
        if b.filters.hasFilter msg.service msg.instanceId msg.method then
          some (b, { t with calls := rest, stage := .copied msg hSome (Nat.le_of_not_lt hOver) })
        else some (b, { t with calls := rest, stage := .ready msg (some msg.payload) })
      else some (b, { t with calls := rest, stage := .ready msg none })

def start (b : BridgeState F) (plan : List (List (Call F))) :
    Threads.Config (BridgeState F) (Worker F) where
  shared := b
  threads := plan.map fun calls => ⟨calls, .idle, []⟩

def run (b : BridgeState F) (plan : List (List (Call F))) (schedule : List Nat) :
    Threads.Config (BridgeState F) (Worker F) := Threads.run step (start b plan) schedule

/-- A call without another one in between, and what it posts. -/
def Call.exec (b : BridgeState F) :
    Call F → Option (BridgeState F × Option MessagePost)
  | dispatchMessage msg => do
    let (filters, post) ← Bridge.dispatchMessage b.filters msg
    return ({ b with filters }, post)
  | setFilter serviceId instanceId eventId filterType payloadOffset param =>
    some (Bridge.setFilter b serviceId instanceId eventId filterType payloadOffset param, none)
  | clearFilter serviceId instanceId eventId => some (Bridge.clearFilter b serviceId instanceId eventId, none)

end Steps

def Stage.pending : Stage → List (Call F)
  | copied msg _ _ => [.dispatchMessage msg]
  | _ => []

def Stage.unposted : Stage → List MessagePost
  | ready msg payloadData => [onMessage msg payloadData]
  | _ => []

/-- The calls that took effect are those that the thread has made, and their posts are its posts. -/
def Made (plan : List (List (Call F))) : View (Worker F) (Call F) (Option MessagePost) :=
  fun i t calls => plan[i]? = some (calls.map Prod.fst ++ (t.stage.pending ++ t.calls)) ∧
    calls.filterMap Prod.snd = t.posts ++ t.stage.unposted

section Views

variable {plan : List (List (Call F))} {i : Nat} {call : Call F} {rest : List (Call F)}
  {posts : List MessagePost} {made : List (Call F × Option MessagePost)}

theorem made_returned (h : Made plan i ⟨call :: rest, .idle, posts⟩ made) :
    Made plan i ⟨rest, .idle, posts⟩ (made ++ [(call, none)]) := by
  obtain ⟨hCalls, hPosts⟩ := h
  refine ⟨?_, ?_⟩
  · rw [hCalls]
    simp [Stage.pending]
  · rw [List.filterMap_append, hPosts]
    simp [Stage.unposted]

theorem made_ready {msg : Vsomeip.Message} {payloadData : Option Bytes}
    (h : Made plan i ⟨.dispatchMessage msg :: rest, .idle, posts⟩ made) :
    Made plan i ⟨rest, .ready msg payloadData, posts⟩
      (made ++ [(.dispatchMessage msg, some (onMessage msg payloadData))]) := by
  obtain ⟨hCalls, hPosts⟩ := h
  refine ⟨?_, ?_⟩
  · rw [hCalls]
    simp [Stage.pending]
  · rw [List.filterMap_append, hPosts]
    simp [Stage.unposted]

end Views

variable [FloatOps F]

/-- A dispatch takes effect where it applies the filters, or finds that there is none. -/
def effect (b : BridgeState F) (t : Worker F) : Option (Call F × Option MessagePost) :=
  match t.stage with
  | .ready .. => none
  | .copied msg _ _ =>
    (b.filters.apply msg.service msg.instanceId msg.method msg.payload).map fun out =>
      (.dispatchMessage msg, some (onMessage msg (some out.2.1)))
  | .idle =>
    match t.calls with
    | [] => none
    | .dispatchMessage msg :: _ =>
      if msg.payload.length > kMaxPayloadBytes.toNat then some (.dispatchMessage msg, none)
      else if msg.payload.length > 0 then
        if b.filters.hasFilter msg.service msg.instanceId msg.method then none
        else some (.dispatchMessage msg, some (onMessage msg (some msg.payload)))
      else some (.dispatchMessage msg, some (onMessage msg none))
    | call :: _ => some (call, none)

theorem dispatch_of_apply {b : BridgeState F} {msg : Vsomeip.Message} {filters : FilterRegistry F}
    {filtered : Bytes} {any : Bool} (hSome : 0 < msg.payload.length)
    (hFits : msg.payload.length ≤ kMaxPayloadBytes.toNat)
    (hApply : b.filters.apply msg.service msg.instanceId msg.method msg.payload = some (filters, filtered, any)) :
    (Call.dispatchMessage msg).exec b =
      some ({ b with filters }, some (onMessage msg (some filtered))) := by
  have hPayload : Bridge.filteredPayload b.filters msg = some (filters, filtered) := by
    cases hFilter : b.filters.hasFilter msg.service msg.instanceId msg.method with
    | false =>
      -- the filters were cleared after `has_filter`, and `apply` finds none
      rw [FilterRegistry.apply_unfiltered hFilter] at hApply
      cases hApply
      exact Bridge.filteredPayload_unfiltered hFilter
    | true =>
      rw [Bridge.filteredPayload, hFilter, Bool.and_true, if_pos (by simpa using hSome), hApply]
      rfl
  rw [Call.exec, Bridge.dispatchMessage, if_neg (by omega), hPayload]
  simp only [if_pos (show msg.payload.length > 0 from hSome)]
  rfl

theorem dispatch_of_unfiltered {b : BridgeState F} {msg : Vsomeip.Message} (hSome : 0 < msg.payload.length)
    (hFits : msg.payload.length ≤ kMaxPayloadBytes.toNat)
    (hFilter : b.filters.hasFilter msg.service msg.instanceId msg.method = false) :
    (Call.dispatchMessage msg).exec b = some (b, some (onMessage msg (some msg.payload))) :=
  dispatch_of_apply hSome hFits (FilterRegistry.apply_unfiltered hFilter msg.payload)

theorem dispatch_of_empty {b : BridgeState F} {msg : Vsomeip.Message} (hNone : ¬ 0 < msg.payload.length) :
    (Call.dispatchMessage msg).exec b = some (b, some (onMessage msg none)) := by
  have hZero : msg.payload.length = 0 := Nat.eq_zero_of_not_pos hNone
  rw [Call.exec, Bridge.dispatchMessage, Bridge.filteredPayload, hZero]
  simp [onMessage, hZero]

theorem dispatch_of_oversize {b : BridgeState F} {msg : Vsomeip.Message}
    (hOver : kMaxPayloadBytes.toNat < msg.payload.length) :
    (Call.dispatchMessage msg).exec b = some (b, none) := by
  rw [Call.exec, Bridge.dispatchMessage_oversize hOver]
  rfl

theorem linear (plan : List (List (Call F))) : Linear Call.exec step effect (Made plan) := by
  rintro i b ⟨calls, stage, posts⟩ b' t' hStep
  cases stage with
  | ready msg payloadData =>
    cases hStep
    refine .inl ⟨rfl, rfl, fun made ⟨hCalls, hPosts⟩ => ⟨hCalls, ?_⟩⟩
    rw [hPosts]
    simp [Stage.unposted]
  | copied msg hSome hFits =>
    obtain ⟨⟨filters, filtered, any⟩, hApply, hNext⟩ := Option.bind_eq_some_iff.mp hStep
    cases hNext
    refine .inr ⟨.dispatchMessage msg, some (onMessage msg (some filtered)), ?_,
      dispatch_of_apply hSome hFits hApply, fun made ⟨hCalls, hPosts⟩ => ⟨?_, ?_⟩⟩
    · simp only [effect, hApply, Option.map_some]
    · rw [hCalls]
      simp [Stage.pending]
    · rw [List.filterMap_append, hPosts]
      simp [Stage.unposted]
  | idle =>
    match calls with
    | [] => cases hStep
    | .setFilter .. :: rest | .clearFilter .. :: rest =>
      cases hStep
      exact .inr ⟨_, none, rfl, rfl, fun made => made_returned⟩
    | .dispatchMessage msg :: rest =>
      simp only [step] at hStep
      split at hStep
      · next hOver =>
        cases hStep
        exact .inr ⟨_, none, if_pos hOver, dispatch_of_oversize hOver, fun made => made_returned⟩
      · next hCap =>
        split at hStep
        · next hSome =>
          split at hStep
          · next hFilter =>
            -- nothing but a copy has been made
            cases hStep
            refine .inl ⟨?_, rfl, fun made ⟨hCalls, hPosts⟩ => ⟨hCalls, hPosts⟩⟩
            simp only [effect, if_neg hCap, if_pos hSome, if_pos hFilter]
          · next hFilter =>
            cases hStep
            refine .inr ⟨_, _, ?_, dispatch_of_unfiltered hSome (Nat.le_of_not_lt hCap)
              (Bool.eq_false_iff.mpr hFilter), fun made => made_ready⟩
            simp only [effect, if_neg hCap, if_pos hSome, if_neg hFilter]
        · next hNone =>
          cases hStep
          refine .inr ⟨_, _, ?_, dispatch_of_empty hNone, fun made => made_ready⟩
          simp only [effect, if_neg hCap, if_neg hNone]

/-- Whatever the threads do in between, there is one order of the calls, which grows as they take effect,
such that the filters and all posts are those of the calls made one after the other. -/
theorem dispatch_linearizes (b : BridgeState F) (plan : List (List (Call F))) :
    ∃ order : List Nat → List (Entry (Call F) (Option MessagePost)),
      (∀ schedule later, order schedule <+: order (schedule ++ later)) ∧
      ∀ schedule, Explains Call.exec (Made plan) b (order schedule) (run b plan schedule) := by
  refine ⟨history step effect (start b plan), fun schedule later => ?_, fun schedule => ?_⟩
  · rw [history_append]
    exact List.prefix_append _ _
  · refine @run_explains _ _ _ _ _ _ effect (Made plan) (linear plan) (start b plan) (fun i t hThread => ?_) schedule
    rw [start, List.getElem?_map] at hThread
    obtain ⟨calls, hCalls, rfl⟩ := Option.map_eq_some_iff.mp hThread
    exact ⟨hCalls, rfl⟩

end FilterThreads

end VsomeipDart
