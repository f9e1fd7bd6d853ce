import VsomeipDart.ExactSample
import VsomeipDart.SystemRuns
import VsomeipDart.Throttling
import VsomeipDart.WorkerEvents

/-! # The way of native events to the user of a client

Availability and state events, subscribe acknowledgements and errors come to the worker port as one buffer
each, between the messages and the commands. A run is one of an open client.
-/

namespace VsomeipDart
set_option autoImplicit false

/-- A buffer that the native side posts to the worker port. -/
inductive PortBuffer where
  | event (e : NativeEvent) (capped : e.data.length ≤ kMaxPayloadBytes.toNat)
  | ack (bytes : Bytes) (disc : bytes.head? = some DartDisc.subscribeAck)
      (length_eq : bytes.length = 11)

/-- An error, or a subscribe acknowledgement with an error code. -/
def IsFailure (bytes : Bytes) : Prop :=
  bytes.head? = some DartDisc.error ∨
    bytes.head? = some DartDisc.subscribeAck ∧
      ∃ ack, WireCodec.decodeSubscribeAck bytes 0 = .ok ack ∧ ack.errorCode ≠ 0

namespace PortBuffer

def bytes : PortBuffer → Bytes
  | event e _ => e.disc :: e.data
  | ack bytes _ _ => bytes

def object (buffer : PortBuffer) : DartObject := .value (.uint8List buffer.bytes)

def forwarded : PortBuffer → DartObject
  | event e _ => e.forwarded
  | ack bytes _ _ => .value (.uint8List bytes)

/-- Neither a failure nor a buffer that the worker takes for a header and a payload. -/
def Harmless (buffer : PortBuffer) : Prop := ¬ IsFailure buffer.bytes ∧ buffer.bytes.length ≠ 2

theorem bytes_ne_nil (buffer : PortBuffer) : buffer.bytes ≠ [] := by
  cases buffer with
  | event e capped => exact List.cons_ne_nil _ _
  | ack bytes disc length_eq =>
    rintro rfl
    cases disc

theorem handleDisc_bytes (now : Int) (throttles : Throttles) (buffer : PortBuffer) :
    Worker.handleDisc now buffer.bytes none throttles = .ok (throttles, [buffer.forwarded]) := by
  cases buffer with
  | event e capped => exact NativeEvent.handleDisc_event now throttles e
  | ack bytes disc length_eq =>
    obtain ⟨rest, rfl⟩ := List.head?_eq_some_iff.mp disc
    rfl

end PortBuffer

inductive WorkerItem where
  | native (buffer : PortBuffer)
  | post (p : WorkerPost)

namespace WorkerItem

def object : WorkerItem → DartObject
  | native buffer => buffer.object
  | post p => p.object

def Harmless : WorkerItem → Prop
  | native buffer => buffer.Harmless
  | post p => p.RateFits

def native? : WorkerItem → Option PortBuffer
  | native buffer => some buffer
  | post _ => none

end WorkerItem

/-- One of the two streams that a client has for native events. -/
structure EventStream (β : Type) where
  /-- what has been added to the stream -/
  added : VsomeipClient → List β
  adds : DartObject → Option β
  added_create : ∀ handle port, added (.create handle port) = []
  added_onMainPortMessage : ∀ client obj,
    added (client.onMainPortMessage obj) = added client ++ (adds obj).toList
  added_openStream : ∀ client key, added (client.openStream key) = added client
  adds_someIpMessage : ∀ msg, adds (.someIpMessage msg) = none

namespace VsomeipClient

theorem openStream_events (client : VsomeipClient) (key : SomeIpKey) :
    (client.openStream key).availability = client.availability ∧
      (client.openStream key).states = client.states := by
  unfold openStream
  split <;> exact ⟨rfl, rfl⟩

theorem addToStream_events (client : VsomeipClient) (msg : SomeIpMessage) :
    (client.addToStream msg).availability = client.availability ∧
      (client.addToStream msg).states = client.states := by
  unfold addToStream
  split <;> exact ⟨rfl, rfl⟩

theorem completePending_events (client : VsomeipClient) (msg : SomeIpMessage) :
    (client.completePending msg).availability = client.availability ∧
      (client.completePending msg).states = client.states := by
  unfold completePending
  split <;> exact ⟨rfl, rfl⟩

theorem onMainPortMessage_message_events (client : VsomeipClient) (msg : SomeIpMessage) :
    (client.onMainPortMessage (.someIpMessage msg)).availability = client.availability ∧
      (client.onMainPortMessage (.someIpMessage msg)).states = client.states := by
  obtain ⟨hAvailability, hStates⟩ := addToStream_events client msg
  rw [onMainPortMessage]
  split
  · obtain ⟨hAvailability', hStates'⟩ := completePending_events (client.addToStream msg) msg
    exact ⟨hAvailability'.trans hAvailability, hStates'.trans hStates⟩
  · exact ⟨hAvailability, hStates⟩

end VsomeipClient

namespace EventStream

def availability : EventStream VsomeipAvailabilityEvent where
  added := VsomeipClient.availability
  adds
    | .availabilityEvent event => some event
    | _ => none
  added_create _ _ := rfl
  added_onMainPortMessage client obj := by
    cases obj with
    | availabilityEvent event => rfl
    | someIpMessage msg =>
      exact (client.onMainPortMessage_message_events msg).1.trans (List.append_nil _).symm
    | _ => exact (List.append_nil _).symm
  added_openStream client key := (client.openStream_events key).1
  adds_someIpMessage _ := rfl

def state : EventStream VsomeipStateEvent where
  added := VsomeipClient.states
  adds
    | .stateEvent event => some event
    | _ => none
  added_create _ _ := rfl
  added_onMainPortMessage client obj := by
    cases obj with
    | stateEvent event => rfl
    | someIpMessage msg =>
      exact (client.onMainPortMessage_message_events msg).2.trans (List.append_nil _).symm
    | _ => exact (List.append_nil _).symm
  added_openStream client key := (client.openStream_events key).2
  adds_someIpMessage _ := rfl

end EventStream

namespace System

variable {F : Type}

inductive EventAction where
  | native (buffer : PortBuffer)
  | action (a : Action)

namespace EventAction

def native? : EventAction → Option PortBuffer
  | native buffer => some buffer
  | action _ => none

/-- No failure, no buffer of two bytes, and no command whose interval overflows. -/
def Harmless : EventAction → Prop
  | native buffer => buffer.Harmless
  | action (.subscribeEvent serviceId instanceId _ eventId _ maxHz) =>
    SetThrottleCmd.RateFits ⟨serviceId, instanceId, eventId, maxHz⟩
  | action (.onMessage serviceId instanceId methodId _ maxHz) =>
    SetThrottleCmd.RateFits ⟨serviceId, instanceId, methodId, maxHz⟩
  | action _ => True

end EventAction

section EventRuns

variable [FloatOps F]

def eventStep (sys : System F) : EventAction → Option (System F × Posts)
  | .native buffer => some ({ sys with workerQueue := sys.workerQueue ++ [buffer.object] }, [])
  | .action a => sys.step a

def eventRun (sys : System F) (actions : List EventAction) : Option (System F × List Posts) :=
  Mealy.run? eventStep sys actions

end EventRuns

/-- The events of a stream are in it once and in order, up to those on their way. -/
structure Kept {β : Type} (stream : EventStream β) (posted : List PortBuffer) (sys : System F) :
    Prop where
  added : stream.added sys.client <+: posted.filterMap fun buffer => stream.adds buffer.forwarded
  arrived : sys.workerQueue = [] → sys.mainQueue = [] →
    stream.added sys.client = posted.filterMap fun buffer => stream.adds buffer.forwarded

/-- Events reach their streams; and each failure that is posted to the worker comes to the client as an object
that changes it, in whatever state the worker and the client are then, as does the one that waits first. -/
structure NothingLost (posted : List PortBuffer) (sys : System F) : Prop where
  availability : Kept .availability posted sys
  states : Kept .state posted sys
  handled : ∀ buffer ∈ posted, IsFailure buffer.bytes → ∀ (worker : WorkerState) now (client : VsomeipClient),
    worker.portOpen = true → ∃ obj ∈ (Worker.turn worker (now, buffer.object)).2,
      client.onMainPortMessage obj ≠ client
  failures : ∀ bytes rest, sys.workerQueue = .value (.uint8List bytes) :: rest →
    sys.worker.portOpen = true → IsFailure bytes → ∀ now (client : VsomeipClient),
      ∃ obj ∈ (Worker.turn sys.worker (now, .value (.uint8List bytes))).2,
        client.onMainPortMessage obj ≠ client

structure Tracked (posted : List PortBuffer) (sys : System F) : Prop where
  portOpen : sys.worker.portOpen = true
  items : ∃ items : List WorkerItem, sys.workerQueue = items.map WorkerItem.object ∧
    (∀ item ∈ items, item.Harmless) ∧
    ∀ (β : Type) (stream : EventStream β),
      stream.added sys.client ++ (sys.mainQueue.filterMap stream.adds ++
        (items.filterMap WorkerItem.native?).filterMap fun buffer => stream.adds buffer.forwarded) =
      posted.filterMap fun buffer => stream.adds buffer.forwarded

section Items

variable {st : WorkerState} (hOpen : st.portOpen = true) (now : Int)

include hOpen

theorem turn_native {buffer : PortBuffer} (hLength : buffer.bytes.length ≠ 2) :
    Worker.turn st (now, buffer.object) = (st, [buffer.forwarded]) := by
  have hListener := Worker.listener_uint8List now st buffer.bytes_ne_nil hLength
  rw [buffer.handleDisc_bytes] at hListener
  exact Worker.turn_ok hOpen hListener

theorem turn_item {item : WorkerItem} (h : item.Harmless) :
    (Worker.turn st (now, item.object)).1.portOpen = true ∧
      ∀ (β : Type) (stream : EventStream β),
        (Worker.turn st (now, item.object)).2.filterMap stream.adds =
          item.native?.toList.filterMap fun buffer => stream.adds buffer.forwarded := by
  cases item with
  | native buffer =>
    rw [WorkerItem.object, turn_native hOpen now h.2]
    exact ⟨hOpen, fun β stream => rfl⟩
  | post p =>
    have hHolds : Worker.Holds st fun key => st.throttles.lookup key := ⟨hOpen, fun _ => rfl⟩
    obtain ⟨hAfter, hSent⟩ := Worker.turn_holds (now, p) h hHolds
    refine ⟨hAfter.1, fun β stream => ?_⟩
    rw [WorkerItem.object, hSent, List.filterMap_map]
    exact List.filterMap_eq_nil_iff.mpr fun msg _ => stream.adds_someIpMessage msg

end Items

namespace Tracked

variable {posted : List PortBuffer} {sys : System F}

theorem workerTurn (h : Tracked posted sys) (now : Int) : Tracked posted (sys.workerTurn now) := by
  obtain ⟨items, hQueue, hHarmless, hAccount⟩ := h.items
  cases items with
  | nil =>
    have hSame : sys.workerTurn now = sys := by
      rw [System.workerTurn, hQueue]
      rfl
    rwa [hSame]
  | cons item rest =>
    obtain ⟨hOpen, hSent⟩ := turn_item h.portOpen now (hHarmless item List.mem_cons_self)
    obtain ⟨hWorker, hMain, hRest⟩ := workerTurn_cons hQueue now
    refine ⟨hWorker ▸ hOpen, rest, hRest hOpen,
      fun other hMem => hHarmless other (List.mem_cons_of_mem _ hMem), fun β stream => ?_⟩
    have hItems : (item :: rest).filterMap WorkerItem.native? =
        item.native?.toList ++ rest.filterMap WorkerItem.native? := by
      rw [List.filterMap_cons]
      cases item.native? <;> rfl
    rw [hMain, List.filterMap_append, hSent, (workerTurn_client sys now).1, ← hAccount, hItems,
      List.filterMap_append, List.append_assoc]

theorem mainTurn (h : Tracked posted sys) : Tracked posted sys.mainTurn := by
  obtain ⟨items, hQueue, hHarmless, hAccount⟩ := h.items
  cases hMain : sys.mainQueue with
  | nil =>
    have hSame : sys.mainTurn = sys := by
      rw [System.mainTurn, hMain]
    rwa [hSame]
  | cons obj rest =>
    have hTurn : sys.mainTurn = { sys with
        mainQueue := rest, client := sys.client.onMainPortMessage obj } := by
      rw [System.mainTurn, hMain]
    rw [hTurn]
    refine ⟨h.portOpen, items, hQueue, hHarmless, fun β stream => ?_⟩
    have hQueued : (obj :: rest).filterMap stream.adds =
        (stream.adds obj).toList ++ rest.filterMap stream.adds := by
      rw [List.filterMap_cons]
      cases stream.adds obj <;> rfl
    rw [stream.added_onMainPortMessage, ← hAccount, hMain, hQueued, List.append_assoc,
      List.append_assoc]

/-- More items at the worker port, with a client whose event streams are as before. -/
theorem enqueue (h : Tracked posted sys) {sys' : System F} {more : List WorkerItem}
    (hWorker : sys'.worker = sys.worker) (hMain : sys'.mainQueue = sys.mainQueue)
    (hQueue' : sys'.workerQueue = sys.workerQueue ++ more.map WorkerItem.object)
    (hMore : ∀ item ∈ more, item.Harmless)
    (hClient : ∀ (β : Type) (stream : EventStream β),
      stream.added sys'.client = stream.added sys.client) :
    Tracked (posted ++ more.filterMap WorkerItem.native?) sys' := by
  obtain ⟨items, hQueue, hHarmless, hAccount⟩ := h.items
  refine ⟨hWorker ▸ h.portOpen, items ++ more, ?_, ?_, fun β stream => ?_⟩
  · rw [hQueue', hQueue, List.map_append]
  · exact List.forall_mem_append.mpr ⟨hHarmless, hMore⟩
  · rw [hClient, hMain, List.filterMap_append, List.filterMap_append, List.filterMap_append,
      ← hAccount, List.append_assoc, List.append_assoc]

end Tracked

def Ordinary (objects : List DartObject) : Prop :=
  ∃ posts : List WorkerPost, objects = posts.map WorkerPost.object ∧ ∀ p ∈ posts, p.RateFits

theorem Tracked.send {posted : List PortBuffer} {sys sys' : System F} (h : Tracked posted sys)
    {objects : List DartObject} (hOrdinary : Ordinary objects)
    (hWorker : sys'.worker = sys.worker) (hMain : sys'.mainQueue = sys.mainQueue)
    (hQueue : sys'.workerQueue = sys.workerQueue ++ objects)
    (hClient : ∀ (β : Type) (stream : EventStream β),
      stream.added sys'.client = stream.added sys.client) : Tracked posted sys' := by
  obtain ⟨posts, rfl, hPosts⟩ := hOrdinary
  have hNone : (posts.map WorkerItem.post).filterMap WorkerItem.native? = [] := by
    rw [List.filterMap_map]
    exact List.filterMap_eq_nil_iff.mpr fun _ _ => rfl
  have hItems : sys'.workerQueue =
      sys.workerQueue ++ (posts.map WorkerItem.post).map WorkerItem.object := by
    rw [hQueue, List.map_map]
    rfl
  have hTracked := h.enqueue hWorker hMain hItems (List.forall_mem_map.mpr hPosts) hClient
  rwa [hNone, List.append_nil] at hTracked

/-- The header and the payload of a post, as the worker gets them. -/
def postBuffers (msg : Vsomeip.Message) (payload : Bytes) : MessageBuffers where
  header := (Bridge.postOf msg payload).header
  second := (if payload = [] then CValue.null else .externalTypedData payload).deliver
  header_length := VsomeipSubscriber.encodeHeader_length _
  header_disc := by
    rw [Bridge.postOf, VsomeipSubscriber.encodeHeader_eq]
    rfl

theorem ordinary_workerObjects {workerPort : DartPort} {posts : Posts}
    (h : ∀ post ∈ posts, ∃ msg payload, payload.length ≤ kMaxPayloadBytes.toNat ∧
      post.2.2 = Bridge.postOf msg payload) : Ordinary (workerObjects workerPort posts) := by
  induction posts with
  | nil => exact ⟨[], rfl, fun _ hMem => absurd hMem List.not_mem_nil⟩
  | cons post rest ih =>
    obtain ⟨items, hObjects, hRates⟩ := ih fun other hMem => h other (List.mem_cons_of_mem _ hMem)
    obtain ⟨msg, payload, hCap, hPost⟩ := h post List.mem_cons_self
    obtain ⟨key, port, sent⟩ := post
    rw [workerObjects, Bridge.postsTo_cons]
    split
    · refine ⟨.message (postBuffers msg payload) :: items, ?_,
        List.forall_mem_cons.mpr ⟨trivial, hRates⟩⟩
      dsimp only at hPost
      rw [List.map_cons, ← hObjects, workerObjects, hPost, List.filterMap_cons,
        postMessageToDart_postOf hCap]
      rfl
    · exact ⟨items, hObjects, hRates⟩

theorem ordinary_throttleCommand {serviceId instanceId methodId : Int} {maxHz : Double}
    (h : SetThrottleCmd.RateFits ⟨serviceId, instanceId, methodId, maxHz⟩) :
    Ordinary (VsomeipClient.throttleCommand serviceId instanceId methodId maxHz) := by
  rw [VsomeipClient.throttleCommand]
  split
  · exact ⟨[.setThrottle ⟨serviceId, instanceId, methodId, maxHz⟩], rfl,
      List.forall_mem_singleton.mpr h⟩
  · exact ⟨[], rfl, fun _ hMem => absurd hMem List.not_mem_nil⟩

theorem Tracked.kept {posted : List PortBuffer} {sys : System F} (h : Tracked posted sys) {β : Type}
    (stream : EventStream β) : Kept stream posted sys := by
  obtain ⟨items, hQueue, -, hAccount⟩ := h.items
  refine ⟨⟨_, hAccount β stream⟩, fun hWorkerEmpty hMainEmpty => ?_⟩
  have hItems : items = [] := List.map_eq_nil_iff.mp (hQueue.symm.trans hWorkerEmpty)
  have hAll := hAccount β stream
  rw [hMainEmpty, hItems] at hAll
  rw [← hAll]
  exact (List.append_nil _).symm

theorem Tracked.no_failure {posted : List PortBuffer} {sys : System F} (h : Tracked posted sys)
    {bytes : Bytes} {rest : List DartObject}
    (hQueue : sys.workerQueue = .value (.uint8List bytes) :: rest) : ¬ IsFailure bytes := by
  obtain ⟨items, hItems, hHarmless, -⟩ := h.items
  rw [hQueue] at hItems
  cases items with
  | nil => cases hItems
  | cons item others =>
    rw [List.map_cons, List.cons.injEq] at hItems
    have hItem := hHarmless item List.mem_cons_self
    cases item with
    | native buffer =>
      obtain rfl : bytes = buffer.bytes := by
        have hObject := hItems.1
        rw [WorkerItem.object, PortBuffer.object, DartObject.value.injEq,
          DartValue.uint8List.injEq] at hObject
        exact hObject
      exact hItem.1
    | post p => cases p <;> cases hItems.1

section EventRuns

variable [FloatOps F]

theorem posts_of_deliver {s s' : BridgeState F} {handle : Handle} {msg : Vsomeip.Message}
    {posts : Posts} (h : Bridge.deliver s handle msg = some (s', posts)) :
    ∀ post ∈ posts, ∃ msg payload, payload.length ≤ kMaxPayloadBytes.toNat ∧
      post.2.2 = Bridge.postOf msg payload := by
  cases hApp : Bridge.getApp s handle with
  | none =>
    rw [Bridge.deliver, hApp] at h
    cases h
    exact fun _ hMem => absurd hMem List.not_mem_nil
  | some app =>
    intro post hMem
    obtain ⟨-, -, hCap, payload, hLength, hPost⟩ := (Bridge.deliver_posts hApp h).1 post hMem
    exact ⟨msg, payload, hLength ▸ hCap, hPost⟩

theorem Tracked.step {posted : List PortBuffer} {sys sys' : System F} {a : EventAction}
    {posts : Posts} (h : Tracked posted sys) (hHarmless : a.Harmless)
    (hStep : sys.eventStep a = some (sys', posts)) : Tracked (posted ++ a.native?.toList) sys' := by
  cases a with
  | native buffer =>
    cases hStep
    have hItem : ∀ item ∈ [WorkerItem.native buffer], item.Harmless :=
      List.forall_mem_singleton.mpr hHarmless
    have hPosted : Tracked (posted ++ [WorkerItem.native buffer].filterMap WorkerItem.native?)
        { sys with workerQueue := sys.workerQueue ++ [buffer.object] } :=
      h.enqueue rfl rfl rfl hItem fun _ _ => rfl
    exact hPosted
  | action a =>
    rw [EventAction.native?, Option.toList_none, List.append_nil]
    cases a with
    | subscribeEvent serviceId instanceId eventgroupId eventId port maxHz =>
      cases hStep
      exact h.send (ordinary_throttleCommand hHarmless) rfl rfl rfl
        fun _ stream => stream.added_openStream sys.client _
    | onMessage serviceId instanceId methodId port maxHz =>
      cases hStep
      exact h.send (ordinary_throttleCommand hHarmless) rfl rfl rfl
        fun _ stream => stream.added_openStream sys.client _
    | deliver msg =>
      obtain ⟨bridge, hDeliver, rfl⟩ := step_deliver hStep
      exact h.send (ordinary_workerObjects (posts_of_deliver hDeliver)) rfl rfl rfl fun _ _ => rfl
    | workerTurn now =>
      cases hStep
      exact h.workerTurn now
    | mainTurn =>
      cases hStep
      exact h.mainTurn

theorem Tracked.run {bridge : BridgeState F} {handle : Handle} {workerPort : DartPort}
    {actions : List EventAction} (hHarmless : ∀ a ∈ actions, a.Harmless) {sys : System F}
    {outs : List Posts} (hRun : eventRun (spawn bridge handle workerPort) actions = some (sys, outs)) :
    Tracked (actions.filterMap EventAction.native?) sys := by
  refine Mealy.run?_induction
    (P := fun actions sys _ => (∀ a ∈ actions, a.Harmless) →
      Tracked (actions.filterMap EventAction.native?) sys) ?_ ?_ hRun hHarmless
  · intro _
    refine ⟨rfl, [], rfl, fun _ hMem => absurd hMem List.not_mem_nil, fun β stream => ?_⟩
    rw [spawn, stream.added_create]
    rfl
  · intro before sys₁ outs₁ a sys₂ posts h hStep hAll
    obtain ⟨hBefore, hLast⟩ := List.forall_mem_append.mp hAll
    have hSplit : (before ++ [a]).filterMap EventAction.native? =
        before.filterMap EventAction.native? ++ a.native?.toList := by
      rw [List.filterMap_append, List.filterMap_cons]
      cases a.native? <;> rfl
    rw [hSplit]
    exact (h hBefore).step (List.forall_mem_singleton.mp hLast) hStep

/-- In a run with no failure, no two-byte buffer and no overflowing rate, nothing is lost. -/
theorem nothing_lost (bridge : BridgeState F) (handle : Handle) (workerPort : DartPort)
    (actions : List EventAction) (hHarmless : ∀ a ∈ actions, a.Harmless) {sys : System F}
    {outs : List Posts} (hRun : eventRun (spawn bridge handle workerPort) actions = some (sys, outs)) :
    NothingLost (actions.filterMap EventAction.native?) sys := by
  have hTracked := Tracked.run hHarmless hRun
  exact {
    availability := hTracked.kept .availability
    states := hTracked.kept .state
    handled := fun buffer hMem hFailure => by
      obtain ⟨a, hAction, hNative⟩ := List.mem_filterMap.mp hMem
      cases a with
      | native posted =>
        cases hNative
        exact absurd hFailure (hHarmless _ hAction).1
      | action a => cases hNative
    failures := fun bytes rest hQueue _ hFailure =>
      absurd hFailure (hTracked.no_failure hQueue) }

end EventRuns

def availableRun : List EventAction :=
  [.native (.event (.availability ⟨0x1234, 1, true⟩ 0) (by decide)), .action (.workerTurn 0),
    .action .mainTurn]

theorem nothing_lost_available : ∃ sys outs,
    eventRun (spawn (Bridge.initial (F := ExactSample)) 1 5) availableRun = some (sys, outs) ∧
      NothingLost (availableRun.filterMap EventAction.native?) sys := by
  have hHarmless : ∀ a ∈ availableRun, a.Harmless := by
    refine List.forall_mem_cons.mpr ⟨⟨?_, by decide⟩, List.forall_mem_cons.mpr
      ⟨trivial, List.forall_mem_singleton.mpr trivial⟩⟩
    rintro (hError | ⟨hAck, -⟩)
    · revert hError
      decide
    · revert hAck
      decide
  exact ⟨_, _, rfl, nothing_lost Bridge.initial 1 5 availableRun hHarmless rfl⟩

def errorBuffer : PortBuffer := .event (.error [0x6F, 0x66, 0x66]) (by decide)

/-- The subscription to event 0x8001 is refused with code 7. -/
def refusedBuffer : PortBuffer :=
  .ack [0x04, 0x34, 0x12, 0x01, 0x00, 0x01, 0x00, 0x01, 0x80, 0x07, 0x00] rfl rfl

/-- An error and a refused subscription come to the client, which stays as it was. -/
theorem failures_vanish :
    (∃ sys outs, eventRun (spawn (Bridge.initial (F := ExactSample)) 1 5)
        [.native errorBuffer, .native refusedBuffer, .action (.workerTurn 0), .action (.workerTurn 1),
          .action .mainTurn, .action .mainTurn] = some (sys, outs) ∧
      IsFailure errorBuffer.bytes ∧ IsFailure refusedBuffer.bytes ∧
      sys.workerQueue = [] ∧ sys.mainQueue = [] ∧ sys.client = .create 1 (some 5)) ∧
    ¬ ∀ (actions : List EventAction) (sys : System ExactSample) outs,
      eventRun (spawn Bridge.initial 1 5) actions = some (sys, outs) →
        NothingLost (actions.filterMap EventAction.native?) sys := by
  constructor
  · exact ⟨_, _, rfl, .inl rfl, .inr ⟨rfl, _, rfl, by decide⟩, rfl, rfl, rfl⟩
  · intro h
    obtain ⟨obj, hMem, hChanged⟩ := (h [.native errorBuffer] _ _ rfl).failures errorBuffer.bytes []
      rfl rfl (.inl rfl) 0 (.create 1 (some 5))
    rw [List.mem_singleton.mp hMem] at hChanged
    exact hChanged rfl

end System

end VsomeipDart
