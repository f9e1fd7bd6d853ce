import VsomeipDart.Patterns
import VsomeipDart.SignalPath

/-! # Runs of a client whose events are filtered and throttled

The bridge and the client are `Bound` to the paths of the events, and what waits at the two ports is `Carried`
from the paths to the streams.
-/

namespace VsomeipDart
set_option autoImplicit false

theorem EventId.toSomeIpKey_inj {k k' : EventId} : k.toSomeIpKey = k'.toSomeIpKey ↔ k = k' := by
  constructor
  · intro h
    have hKey : HandlerKey.mk k.svc k.inst k.evt = ⟨k'.svc, k'.inst, k'.evt⟩ := HandlerKey.toSomeIpKey_inj.mp h
    simp only [HandlerKey.mk.injEq] at hKey
    obtain ⟨hSvc, hInst, hEvt⟩ := hKey
    cases k
    cases k'
    simp_all
  · exact congrArg EventId.toSomeIpKey

theorem HandlerKey.Exact.matches_iff {k : HandlerKey} (h : k.Exact) (msg : Vsomeip.Message) :
    k.Matches msg = true ↔ k = ofMessage msg := by
  obtain ⟨hSvc, hInst, hMethod⟩ := h
  cases k
  simp_all [Matches, ofMessage, and_assoc]

namespace Vsomeip.Application

variable {app : Application}

theorem matching_nodup (app : Application) (msg : Message) : (app.matching msg).Nodup := by
  refine List.Nodup.of_map Prod.fst ?_
  rw [matching, List.map_map]
  exact (List.filter_sublist.map Sigma.fst).nodup app.handlers.nodupKeys

/-- A message is dispatched at most once if no handler has a wildcard. -/
theorem matching_exact (hExact : ∀ k port, app.handlers.lookup k = some port → k.Exact) (msg : Message) :
    app.matching msg =
      ((app.handlers.lookup (.ofMessage msg)).map fun port => (HandlerKey.ofMessage msg, port)).toList := by
  have hMem : ∀ k port, (k, port) ∈ app.matching msg ↔
      app.handlers.lookup k = some port ∧ k = .ofMessage msg := by
    intro k port
    rw [mem_matching]
    exact and_congr_right fun hLookup => (hExact k port hLookup).matches_iff msg
  cases hLookup : app.handlers.lookup (.ofMessage msg) with
  | none =>
    refine List.eq_nil_iff_forall_not_mem.mpr ?_
    rintro ⟨k, port⟩ hIn
    obtain ⟨hPort, rfl⟩ := (hMem k port).mp hIn
    rw [hLookup] at hPort
    cases hPort
  | some port =>
    have hIn : (HandlerKey.ofMessage msg, port) ∈ app.matching msg := (hMem _ _).mpr ⟨hLookup, rfl⟩
    have hAll : ∀ handler ∈ app.matching msg, handler = (HandlerKey.ofMessage msg, port) := by
      rintro ⟨k, port'⟩ hOther
      obtain ⟨hPort, rfl⟩ := (hMem k port').mp hOther
      rw [hLookup] at hPort
      rw [Option.some.inj hPort]
    have hSame := List.eq_replicate_of_mem hAll
    have hNodup := matching_nodup app msg
    have hLength := List.length_pos_of_mem hIn
    rw [hSame, List.nodup_replicate] at hNodup
    have hOne : (app.matching msg).length = 1 := by omega
    rw [hSame, hOne]
    rfl

end Vsomeip.Application

namespace VsomeipClient

theorem openStream_workerPort (client : VsomeipClient) (key : SomeIpKey) :
    (client.openStream key).workerPort = client.workerPort := by
  unfold openStream
  split <;> rfl

theorem addToStream_workerPort (client : VsomeipClient) (msg : SomeIpMessage) :
    (client.addToStream msg).workerPort = client.workerPort := by
  unfold addToStream
  split <;> rfl

theorem completePending_workerPort (client : VsomeipClient) (msg : SomeIpMessage) :
    (client.completePending msg).workerPort = client.workerPort := by
  unfold completePending
  split <;> rfl

theorem onMainPortMessage_workerPort (client : VsomeipClient) (obj : DartObject) :
    (client.onMainPortMessage obj).workerPort = client.workerPort := by
  unfold onMainPortMessage
  split
  · split
    · rw [completePending_workerPort, addToStream_workerPort]
    · exact addToStream_workerPort client _
  all_goals rfl

end VsomeipClient

namespace DartObject

def message? : DartObject → Option SomeIpMessage
  | someIpMessage msg => some msg
  | _ => none

end DartObject

theorem VsomeipClient.onMainPortMessage_stream (client : VsomeipClient) {obj : DartObject}
    (hOpen : ∀ msg ∈ obj.message?, (client.streams.lookup msg.key).isSome) (key : SomeIpKey) :
    (client.onMainPortMessage obj).stream key = client.stream key ++ System.ofKey key obj.message?.toList := by
  cases obj with
  | someIpMessage msg =>
    rw [stream, onMainPortMessage_streams, ← stream, addToStream_stream]
    rcases eq_or_ne key msg.key with rfl | hOther
    · rw [if_pos ⟨rfl, hOpen msg rfl⟩]
      simp [DartObject.message?, System.ofKey]
    · rw [if_neg (fun hBoth => hOther hBoth.1)]
      simp [DartObject.message?, System.ofKey, hOther.symm]
  | _ => exact (List.append_nil _).symm

namespace EventPath

variable {F : Type} (paths : Option SomeIpKey → EventPath F)

theorem update_key (k k' : HandlerKey) (p : EventPath F) :
    Function.update paths (some k.toSomeIpKey) p (some k'.toSomeIpKey) =
      if k' = k then p else paths (some k'.toSomeIpKey) := by
  simp only [Function.update_apply, Option.some.injEq, HandlerKey.toSomeIpKey_inj]

theorem update_event (k k' : EventId) (p : EventPath F) :
    Function.update paths (some k.toSomeIpKey) p (some k'.toSomeIpKey) =
      if k' = k then p else paths (some k'.toSomeIpKey) := by
  simp only [Function.update_apply, Option.some.injEq, EventId.toSomeIpKey_inj]

theorem subscribed_update (key key' : Option SomeIpKey) (filters : UInt16 → Option (SignalFilter F)) :
    (Function.update paths key { paths key with filters } key').subscribed = (paths key').subscribed := by
  rcases eq_or_ne key' key with rfl | hOther
  · rw [Function.update_self]
  · rw [Function.update_of_ne hOther]

theorem filters_update (key key' : Option SomeIpKey) (subscribed : Bool) :
    (Function.update paths key { paths key with subscribed } key').filters = (paths key').filters := by
  rcases eq_or_ne key' key with rfl | hOther
  · rw [Function.update_self]
  · rw [Function.update_of_ne hOther]

/-- The filters of all events. -/
def signals : SignalMap F := fun k => (paths (some k.toSomeIpKey)).filters

theorem subscribed_initial (m : SignalMap F) (key : Option SomeIpKey) : (initial m key).subscribed = false := by
  cases key <;> rfl

theorem initial_key (m : SignalMap F) (k : HandlerKey) : initial m (some k.toSomeIpKey) = start (m k.event) := by
  simp only [initial, HandlerKey.toSomeIpKey, System.uint16_ofInt_toNat, HandlerKey.event]

theorem signals_initial (m : SignalMap F) : signals (initial m) = m := by
  funext k
  exact congrArg filters (initial_key m ⟨k.svc, k.inst, k.evt⟩)

theorem signals_update (k : EventId) (filters : UInt16 → Option (SignalFilter F)) :
    signals (Function.update paths (some k.toSomeIpKey) { paths (some k.toSomeIpKey) with filters }) =
      Function.update (signals paths) k filters := by
  funext k'
  rw [signals, update_event, Function.update_apply]
  split <;> rfl

end EventPath

namespace System

theorem message_postBuffers (msg : Vsomeip.Message) (payload : Bytes) :
    (postBuffers msg payload).message = received msg payload := by
  obtain ⟨hdr, hDecode, hMessage⟩ := toMessage_headerOf msg payload []
  have hLength : (Bridge.postOf msg payload).header.length = 21 := VsomeipSubscriber.encodeHeader_length _
  rw [List.append_nil, WireCodec.decodeHeader_eq hLength.ge] at hDecode
  have hSecond : (postBuffers msg payload).second.uint8List? = if payload = [] then none else some payload := by
    rw [postBuffers]
    dsimp only
    split <;> rfl
  rw [MessageBuffers.message, hSecond, ← hMessage, ← Except.ok.inj hDecode]
  rfl

theorem workerObjects_postOf {payload : Bytes} (h : payload.length ≤ kMaxPayloadBytes.toNat) (k : HandlerKey)
    (workerPort : DartPort) (msg : Vsomeip.Message) :
    workerObjects workerPort [(k, workerPort, Bridge.postOf msg payload)] =
      [WorkerPost.object (.message (postBuffers msg payload))] := by
  rw [workerObjects, Bridge.postsTo_cons, if_pos rfl, List.filterMap_cons, postMessageToDart_postOf h]
  rfl

variable {F : Type}

/-- The bridge and the client are as the paths of the events say. -/
structure Bound (handle : Handle) (sys : System F) (paths : Option SomeIpKey → EventPath F) : Prop where
  handle_eq : sys.client.handle = handle
  spawned : sys.client.workerPort = some sys.workerPort
  app : ∃ app, Bridge.getApp sys.bridge handle = some app ∧ ∀ k : HandlerKey,
    app.handlers.lookup k = if (paths (some k.toSomeIpKey)).subscribed then some sys.workerPort else none
  exact : ∀ k : HandlerKey, (paths (some k.toSomeIpKey)).subscribed = true → k.Exact
  opened : ∀ k : HandlerKey, (paths (some k.toSomeIpKey)).subscribed = true →
    (sys.client.streams.lookup k.toSomeIpKey).isSome
  represents : Represents sys.bridge.filters (EventPath.signals paths)

namespace Bound

variable {handle : Handle} {sys : System F} {paths : Option SomeIpKey → EventPath F}

theorem keep (h : Bound handle sys paths) {sys' : System F} (hBridge : sys'.bridge = sys.bridge)
    (hPort : sys'.workerPort = sys.workerPort) (hHandle : sys'.client.handle = sys.client.handle)
    (hClient : sys'.client.workerPort = sys.client.workerPort)
    (hOpened : ∀ key, (sys.client.streams.lookup key).isSome → (sys'.client.streams.lookup key).isSome) :
    Bound handle sys' paths where
  handle_eq := hHandle.trans h.handle_eq
  spawned := by rw [hClient, hPort, h.spawned]
  app := by rw [hBridge, hPort]; exact h.app
  exact := h.exact
  opened k hSubscribed := hOpened _ (h.opened k hSubscribed)
  represents := by rw [hBridge]; exact h.represents

/-- A handler for an event, and a stream. -/
theorem register (h : Bound handle sys paths) {k : HandlerKey} (hExact : k.Exact) (queue : List DartObject) :
    Bound handle
      { sys with
        client := sys.client.openStream k.toSomeIpKey
        bridge := Bridge.registerMessageHandler sys.bridge handle k sys.workerPort
        workerQueue := queue }
      (Function.update paths (some k.toSomeIpKey) { paths (some k.toSomeIpKey) with subscribed := true }) := by
  obtain ⟨app, hApp, hHandlers⟩ := h.app
  exact {
    handle_eq := (VsomeipClient.openStream_handle _ _).trans h.handle_eq
    spawned := (VsomeipClient.openStream_workerPort _ _).trans h.spawned
    app := by
      refine ⟨_, Bridge.getApp_registerMessageHandler hApp k sys.workerPort, fun k' => ?_⟩
      rw [Vsomeip.Application.registerMessageHandler, FiniteMap.lookup_insert, EventPath.update_key]
      split
      · rfl
      · exact hHandlers k'
    exact := fun k' hSubscribed => by
      rw [EventPath.update_key] at hSubscribed
      split at hSubscribed
      · rename_i hKey
        rwa [hKey]
      · exact h.exact k' hSubscribed
    opened := fun k' hSubscribed => by
      rw [EventPath.update_key] at hSubscribed
      refine sys.client.openStream_isSome ?_
      split at hSubscribed
      · rename_i hKey
        exact Or.inl (congrArg _ hKey)
      · exact Or.inr (h.opened k' hSubscribed)
    represents := by
      have hSignals : EventPath.signals (Function.update paths (some k.toSomeIpKey)
          { paths (some k.toSomeIpKey) with subscribed := true }) = EventPath.signals paths :=
        funext fun k' => EventPath.filters_update paths _ _ _
      rw [hSignals, Bridge.registerMessageHandler, hApp, Bridge.withApp_some hApp]
      exact h.represents }

theorem refilter (h : Bound handle sys paths) (k : EventId) {registry : FilterRegistry F}
    {filters : UInt16 → Option (SignalFilter F)}
    (hRep : Represents registry (Function.update (EventPath.signals paths) k filters))
    (queue : List DartObject) :
    Bound handle { sys with bridge := { sys.bridge with filters := registry }, workerQueue := queue }
      (Function.update paths (some k.toSomeIpKey) { paths (some k.toSomeIpKey) with filters }) := by
  obtain ⟨app, hApp, hHandlers⟩ := h.app
  exact {
    handle_eq := h.handle_eq
    spawned := h.spawned
    app := ⟨app, hApp, fun k' => by rw [EventPath.subscribed_update]; exact hHandlers k'⟩
    exact := fun k' hSubscribed => by
      rw [EventPath.subscribed_update] at hSubscribed
      exact h.exact k' hSubscribed
    opened := fun k' hSubscribed => by
      rw [EventPath.subscribed_update] at hSubscribed
      exact h.opened k' hSubscribed
    represents := by
      rw [EventPath.signals_update]
      exact hRep }

variable [FloatOps F]

/-- A message that is delivered to the application. -/
theorem deliver (h : Bound handle sys paths) (msg : Vsomeip.Message) :
    let key := some (HandlerKey.ofMessage msg).toSomeIpKey
    let out := (paths key).step (.event (.action (.deliver msg)))
    ∃ bridge posts, ∃ more : List WorkerPost,
      Bridge.deliver sys.bridge handle msg = some (bridge, posts) ∧
      (∀ queue, Bound handle { sys with bridge, workerQueue := queue } (Function.update paths key out.1)) ∧
      workerObjects sys.workerPort posts = more.map WorkerPost.object ∧ (∀ p ∈ more, p.RateFits) ∧
      more.map WorkerPost.item = out.2 := by
  intro key out
  obtain ⟨app, hApp, hHandlers⟩ := h.app
  have hExact : ∀ k port, app.handlers.lookup k = some port → k.Exact := by
    intro k port hLookup
    refine h.exact k ?_
    rw [hHandlers] at hLookup
    split at hLookup
    · assumption
    · cases hLookup
  have hMatching := Vsomeip.Application.matching_exact hExact msg
  rw [hHandlers] at hMatching
  by_cases hPosted : (paths key).subscribed = true ∧ msg.payload.length ≤ kMaxPayloadBytes.toNat
  · obtain ⟨hSubscribed, hFits⟩ := hPosted
    rw [if_pos hSubscribed] at hMatching
    obtain ⟨registry, hDeliver, hRep⟩ := Bridge.deliver_sole hApp h.represents hFits hMatching
    have hOut : out = ({ paths key with filters := ((EventPath.signals paths).swept msg).filters },
        [.message (received msg ((EventPath.signals paths).swept msg).payload)]) :=
      if_pos ⟨hSubscribed, hFits⟩
    have hSweptFits : ((EventPath.signals paths).swept msg).payload.length ≤ kMaxPayloadBytes.toNat :=
      (SignalMap.sweep_length _ _).trans_le hFits
    refine ⟨_, _, [.message (postBuffers msg ((EventPath.signals paths).swept msg).payload)], hDeliver,
      fun queue => ?_, ?_, List.forall_mem_singleton.mpr trivial, ?_⟩
    · rw [hOut]
      exact h.refilter (.ofMessage msg) hRep queue
    · exact workerObjects_postOf hSweptFits _ _ _
    · rw [hOut, List.map_singleton, WorkerPost.item, message_postBuffers]
  · have hOut : out = (paths key, []) := if_neg hPosted
    have hDeliver : Bridge.deliver sys.bridge handle msg = some (sys.bridge, []) := by
      have hCall : Bridge.callHandlers sys.bridge.filters msg (app.matching msg) = some (sys.bridge.filters, []) := by
        rcases not_and_or.mp hPosted with hSubscribed | hFits
        · rw [hMatching, if_neg hSubscribed]
          rfl
        · exact Bridge.callHandlers_oversize _ (Nat.lt_of_not_le hFits) _
      exact Bridge.deliver_some hApp hCall
    refine ⟨sys.bridge, [], [], hDeliver, fun queue => ?_, rfl, fun _ hMem => absurd hMem List.not_mem_nil, ?_⟩
    · rw [hOut, Function.update_eq_self]
      exact h.keep rfl rfl rfl rfl fun _ hSome => hSome
    · rw [hOut]
      rfl

end Bound

end System

namespace WorkerItem

def post? : WorkerItem → Option WorkerPost
  | native _ => none
  | post p => some p

theorem message_forwarded (buffer : PortBuffer) : buffer.forwarded.message? = none := by
  cases buffer with
  | event e capped => cases e <;> rfl
  | ack => rfl

end WorkerItem

namespace WorkerPost

theorem item_of_message {p : WorkerPost} {msg : SomeIpMessage} (h : p.message? = some msg) :
    p.item = .message msg := by
  cases p with
  | message buffers => rw [item, Option.some.inj h]
  | setThrottle cmd => cases h

end WorkerPost

namespace System

def messages (objects : List DartObject) : List SomeIpMessage := objects.filterMap DartObject.message?

theorem messages_append (left right : List DartObject) :
    messages (left ++ right) = messages left ++ messages right :=
  List.filterMap_append

theorem messages_map (msgs : List SomeIpMessage) : messages (msgs.map .someIpMessage) = msgs := by
  rw [messages, List.filterMap_map]
  exact List.filterMap_some

variable {F : Type}

/-- The items of the paths are handled or wait at the worker port, and what the throttles have let through is in
the streams or waits at the main port. -/
structure Carried (sys : System F) (items : List PathItem) (log : PortLog) : Prop where
  worker : Worker.Holds sys.worker (Worker.signalsRun log).1
  waiting : ∃ waiting : List WorkerItem, sys.workerQueue = waiting.map WorkerItem.object ∧
    (∀ item ∈ waiting, item.Harmless) ∧
    items = (log.map Prod.snd ++ waiting.filterMap WorkerItem.post?).map WorkerPost.item
  opened : ∀ msg, .message msg ∈ items → (sys.client.streams.lookup msg.key).isSome
  sent : ∀ key, sys.client.stream key ++ ofKey key (messages sys.mainQueue) =
    ofKey key (Worker.signalsRun log).2.flatten

namespace Carried

variable {sys : System F} {items : List PathItem} {log : PortLog}

/-- More at the worker port, with a client whose streams have grown by none of their messages. -/
theorem enqueue (h : Carried sys items log) (sys' : System F) (more : List WorkerItem)
    (hWorker : sys'.worker = sys.worker) (hMain : sys'.mainQueue = sys.mainQueue)
    (hQueue' : sys'.workerQueue = sys.workerQueue ++ more.map WorkerItem.object)
    (hMore : ∀ item ∈ more, item.Harmless) {items' : List PathItem}
    (hItems' : (more.filterMap WorkerItem.post?).map WorkerPost.item = items')
    (hStream : ∀ key, sys'.client.stream key = sys.client.stream key)
    (hOpened : ∀ key, (sys.client.streams.lookup key).isSome → (sys'.client.streams.lookup key).isSome)
    (hNew : ∀ msg, .message msg ∈ items' → (sys'.client.streams.lookup msg.key).isSome) :
    Carried sys' (items ++ items') log := by
  obtain ⟨waiting, hQueue, hHarmless, hItems⟩ := h.waiting
  exact {
    worker := by rw [hWorker]; exact h.worker
    waiting := by
      refine ⟨waiting ++ more, ?_, List.forall_mem_append.mpr ⟨hHarmless, hMore⟩, ?_⟩
      · rw [hQueue', hQueue, List.map_append]
      · rw [hItems, ← hItems', ← List.map_append, List.append_assoc, List.filterMap_append]
    opened := fun msg hMem => by
      rcases List.mem_append.mp hMem with hOld | hNewItem
      · exact hOpened _ (h.opened msg hOld)
      · exact hNew msg hNewItem
    sent := fun key => by
      rw [hStream, hMain]
      exact h.sent key }

theorem send (h : Carried sys items log) (sys' : System F) (more : List WorkerPost)
    (hWorker : sys'.worker = sys.worker) (hMain : sys'.mainQueue = sys.mainQueue)
    (hQueue' : sys'.workerQueue = sys.workerQueue ++ more.map WorkerPost.object)
    (hMore : ∀ p ∈ more, p.RateFits) (hStream : ∀ key, sys'.client.stream key = sys.client.stream key)
    (hOpened : ∀ key, (sys.client.streams.lookup key).isSome → (sys'.client.streams.lookup key).isSome)
    (hNew : ∀ msg, .message msg ∈ more.map WorkerPost.item → (sys'.client.streams.lookup msg.key).isSome) :
    Carried sys' (items ++ more.map WorkerPost.item) log := by
  have hPosts : (more.map WorkerItem.post).filterMap WorkerItem.post? = more := by
    rw [List.filterMap_map]
    exact List.filterMap_some
  refine h.enqueue sys' (more.map .post) hWorker hMain ?_ (List.forall_mem_map.mpr hMore)
    (congrArg _ hPosts) hStream hOpened hNew
  rw [hQueue', List.map_map]
  rfl

theorem workerTurn (h : Carried sys items log) (now : Int) :
    ∃ handled, Carried (sys.workerTurn now) items (log ++ handled) ∧ (handled.map Prod.fst).Sublist [now] := by
  obtain ⟨waiting, hQueue, hHarmless, hItems⟩ := h.waiting
  obtain ⟨hClient, -, -⟩ := sys.workerTurn_client now
  cases waiting with
  | nil =>
    have hSame : sys.workerTurn now = sys := by
      rw [System.workerTurn, hQueue]
      rfl
    exact ⟨[], by rwa [hSame, List.append_nil], List.nil_sublist _⟩
  | cons item rest =>
    obtain ⟨hWorker, hMain, hRest⟩ := workerTurn_cons hQueue now
    obtain ⟨hOwn, hOthers⟩ := List.forall_mem_cons.mp hHarmless
    cases item with
    | native buffer =>
      have hTurn := turn_native h.worker.1 now hOwn.2
      rw [WorkerItem.object, hTurn] at hWorker hMain hRest
      refine ⟨[], ?_, List.nil_sublist _⟩
      rw [List.append_nil]
      exact {
        worker := by rw [hWorker]; exact h.worker
        waiting := ⟨rest, hRest h.worker.1, hOthers, hItems⟩
        opened := by rw [hClient]; exact h.opened
        sent := fun key => by
          have hNone : messages [buffer.forwarded] = [] := by
            rw [messages, List.filterMap_cons, WorkerItem.message_forwarded, List.filterMap_nil]
          rw [hClient, hMain, messages_append, hNone, List.append_nil]
          exact h.sent key }
    | post p =>
      obtain ⟨hHolds, hSent⟩ := Worker.turn_holds (now, p) hOwn h.worker
      refine ⟨[(now, p)], ?_, List.Sublist.refl _⟩
      exact {
        worker := by
          rw [hWorker, Worker.signalsRun_snoc]
          exact hHolds
        waiting := by
          refine ⟨rest, hRest hHolds.1, hOthers, ?_⟩
          have hLog : (log ++ [(now, p)]).map Prod.snd = log.map Prod.snd ++ [p] := List.map_append
          rw [hItems, hLog, List.append_assoc]
          rfl
        opened := by rw [hClient]; exact h.opened
        sent := fun key => by
          rw [hClient, hMain, WorkerItem.object, hSent, messages_append, messages_map, ofKey_append,
            ← List.append_assoc, h.sent key, Worker.signalsRun_snoc, List.flatten_append, ofKey_append,
            List.flatten_singleton] }

/-- What is at the main port has a stream. -/
theorem opened_of_sent (h : Carried sys items log) {msg : SomeIpMessage} (hMem : msg ∈ messages sys.mainQueue) :
    (sys.client.streams.lookup msg.key).isSome := by
  obtain ⟨waiting, -, -, hItems⟩ := h.waiting
  have hThrough : msg ∈ (Worker.signalsRun log).2.flatten := by
    have hSent : msg ∈ ofKey msg.key (Worker.signalsRun log).2.flatten := by
      rw [← h.sent msg.key]
      exact List.mem_append_right _ (List.mem_filter.mpr ⟨hMem, by simp⟩)
    exact (List.mem_filter.mp hSent).1
  have hTurn : ∀ signals entry, (Worker.signalsTurn signals entry).2.Sublist entry.2.message?.toList :=
    fun signals entry => Worker.signalStep_sublist (signals entry.2.key) entry
  have hSublist := Mealy.run_flatten_sublist hTurn Worker.noThrottles log
  obtain ⟨entry, hEntry, hMessage⟩ := List.mem_flatMap.mp (hSublist.subset hThrough)
  refine h.opened msg ?_
  rw [hItems, List.map_append, List.mem_append, List.mem_map, List.mem_map]
  left
  exact ⟨entry.2, List.mem_map_of_mem hEntry, WorkerPost.item_of_message (Option.mem_toList.mp hMessage)⟩

theorem mainTurn (h : Carried sys items log) : Carried sys.mainTurn items log := by
  cases hMain : sys.mainQueue with
  | nil =>
    have hSame : sys.mainTurn = sys := by
      rw [System.mainTurn, hMain]
    rwa [hSame]
  | cons obj rest =>
    have hTurn : sys.mainTurn = { sys with
        mainQueue := rest, client := sys.client.onMainPortMessage obj } := by
      rw [System.mainTurn, hMain]
    have hQueued : messages sys.mainQueue = obj.message?.toList ++ messages rest := by
      rw [hMain, messages, List.filterMap_cons]
      cases obj.message? <;> rfl
    have hOpen : ∀ msg ∈ obj.message?, (sys.client.streams.lookup msg.key).isSome := by
      intro msg hMsg
      refine h.opened_of_sent ?_
      rw [hQueued, Option.mem_def.mp hMsg]
      exact List.mem_cons_self
    rw [hTurn]
    exact {
      worker := h.worker
      waiting := h.waiting
      opened := fun msg hMem => sys.client.onMainPortMessage_isSome obj (h.opened msg hMem)
      sent := fun key => by
        rw [← h.sent key, hQueued, ofKey_append, ← List.append_assoc]
        congr 1
        exact sys.client.onMainPortMessage_stream hOpen key }

end Carried

end System

end VsomeipDart
