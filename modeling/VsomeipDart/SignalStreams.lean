import VsomeipDart.SignalPathRuns

/-! # The streams of a client are those of its events, each on a path of its own -/

namespace VsomeipDart
set_option autoImplicit false

theorem HandlerKey.ofInt_toSomeIpKey {k : HandlerKey} {serviceId instanceId methodId : Int}
    (h : k.toSomeIpKey = ⟨serviceId, instanceId, methodId⟩) :
    (⟨UInt16.ofInt serviceId, UInt16.ofInt instanceId, UInt16.ofInt methodId⟩ : HandlerKey) = k := by
  simp only [toSomeIpKey, SomeIpKey.mk.injEq] at h
  obtain ⟨rfl, rfl, rfl⟩ := h
  simp only [System.uint16_ofInt_toNat]

/-- A positive rate is one command for the worker. -/
theorem VsomeipClient.throttleCommand_posts {cmd : SetThrottleCmd} (hRate : cmd.RateFits) : ∃ more : List WorkerPost,
    VsomeipClient.throttleCommand cmd.serviceId cmd.instanceId cmd.methodId cmd.maxHz =
      more.map WorkerPost.object ∧ (∀ p ∈ more, p.RateFits) ∧
    more.map WorkerPost.item = EventPath.rates cmd ∧ ∀ msg, .message msg ∉ more.map WorkerPost.item := by
  rw [VsomeipClient.throttleCommand, EventPath.rates]
  split
  · refine ⟨[.setThrottle cmd], rfl, List.forall_mem_singleton.mpr hRate, rfl, fun msg hMem => ?_⟩
    cases List.mem_singleton.mp hMem
  · exact ⟨[], rfl, fun _ hMem => absurd hMem List.not_mem_nil, rfl, fun _ => List.not_mem_nil⟩

namespace System

variable {F : Type}

structure OnPath (handle : Handle) (workerPort : DartPort) (sys : System F)
    (paths : Option SomeIpKey → EventPath F) (items : List PathItem) (log : PortLog) : Prop where
  workerPort_eq : sys.workerPort = workerPort
  bound : Bound handle sys paths
  carried : Carried sys items log

namespace OnPath

variable {handle : Handle} {workerPort : DartPort} {sys : System F} {paths : Option SomeIpKey → EventPath F}
  {items : List PathItem} {log : PortLog}

theorem spawn {bridge : BridgeState F} {m : SignalMap F} (h : Represents bridge.filters m) (handle : Handle)
    (workerPort : DartPort) {paths : Option SomeIpKey → EventPath F} (hStart : ∀ key, (paths key).subscribed = false)
    (hSignals : EventPath.signals paths = m) :
    OnPath handle workerPort (spawn bridge handle workerPort) paths [] [] where
  workerPort_eq := rfl
  bound := {
    handle_eq := rfl
    spawned := rfl
    app := by
      refine ⟨.create, AList.lookup_insert _, fun k => ?_⟩
      rw [hStart]
      rfl
    exact := fun k hSubscribed => by
      rw [hStart] at hSubscribed
      cases hSubscribed
    opened := fun k hSubscribed => by
      rw [hStart] at hSubscribed
      cases hSubscribed
    represents := by
      rw [hSignals]
      exact h }
  carried := {
    worker := ⟨rfl, fun _ => rfl⟩
    waiting := ⟨[], rfl, fun _ hMem => absurd hMem List.not_mem_nil, rfl⟩
    opened := fun _ hMem => absurd hMem List.not_mem_nil
    sent := fun _ => rfl }

theorem subscribe (h : OnPath handle workerPort sys paths items log) {k : HandlerKey} (hExact : k.Exact)
    {cmd : SetThrottleCmd} (hRate : cmd.RateFits) :
    OnPath handle workerPort
      { sys with
        client := sys.client.openStream k.toSomeIpKey
        bridge := Bridge.registerMessageHandler sys.bridge sys.client.handle k workerPort
        workerQueue := sys.workerQueue ++
          VsomeipClient.throttleCommand cmd.serviceId cmd.instanceId cmd.methodId cmd.maxHz }
      (Function.update paths (some k.toSomeIpKey) { paths (some k.toSomeIpKey) with subscribed := true })
      (items ++ EventPath.rates cmd) log where
  workerPort_eq := h.workerPort_eq
  bound := by
    rw [h.bound.handle_eq, ← h.workerPort_eq]
    exact h.bound.register hExact _
  carried := by
    obtain ⟨more, hCommands, hRates, hItems, hNone⟩ := VsomeipClient.throttleCommand_posts hRate
    rw [← hItems]
    exact h.carried.send _ more rfl rfl (congrArg _ hCommands) hRates
      (sys.client.openStream_stream k.toSomeIpKey)
      (fun key hSome => sys.client.openStream_isSome (Or.inr hSome))
      fun msg hMem => absurd hMem (hNone msg)

theorem subscribeIds (h : OnPath handle workerPort sys paths items log) {serviceId instanceId methodId : Int}
    (hIds : ∃ k : HandlerKey, k.Exact ∧ k.toSomeIpKey = ⟨serviceId, instanceId, methodId⟩) {maxHz : Double}
    (hRate : SetThrottleCmd.RateFits ⟨serviceId, instanceId, methodId, maxHz⟩) :
    let key : SomeIpKey := ⟨serviceId, instanceId, methodId⟩
    OnPath handle workerPort
      { sys with
        client := sys.client.openStream key
        bridge := Bridge.registerMessageHandler sys.bridge sys.client.handle
          ⟨UInt16.ofInt serviceId, UInt16.ofInt instanceId, UInt16.ofInt methodId⟩ workerPort
        workerQueue := sys.workerQueue ++ VsomeipClient.throttleCommand serviceId instanceId methodId maxHz }
      (Function.update paths (some key) { paths (some key) with subscribed := true })
      (items ++ EventPath.rates ⟨serviceId, instanceId, methodId, maxHz⟩) log := by
  intro key
  obtain ⟨k, hExact, hKey⟩ := hIds
  have hSubscribed := h.subscribe hExact hRate
  rw [hKey] at hSubscribed
  rwa [HandlerKey.ofInt_toSomeIpKey hKey]

theorem refilter (h : OnPath handle workerPort sys paths items log) (k : EventId) {registry : FilterRegistry F}
    {filters : UInt16 → Option (SignalFilter F)}
    (hRep : Represents registry (Function.update (EventPath.signals paths) k filters)) :
    OnPath handle workerPort { sys with bridge := { sys.bridge with filters := registry } }
      (Function.update paths (some k.toSomeIpKey) { paths (some k.toSomeIpKey) with filters }) items log where
  workerPort_eq := h.workerPort_eq
  bound := h.bound.refilter k hRep sys.workerQueue
  carried := { h.carried with }

theorem mainTurn (h : OnPath handle workerPort sys paths items log) :
    OnPath handle workerPort sys.mainTurn paths items log := by
  obtain ⟨hBridge, hPort⟩ := sys.mainTurn_bridge
  refine ⟨hPort.trans h.workerPort_eq, h.bound.keep hBridge hPort sys.mainTurn_handle ?_ ?_, h.carried.mainTurn⟩
  · unfold System.mainTurn
    split
    · rfl
    · exact VsomeipClient.onMainPortMessage_workerPort _ _
  · intro key hSome
    unfold System.mainTurn
    split
    · exact hSome
    · exact VsomeipClient.onMainPortMessage_isSome _ _ hSome

variable [FloatOps F]

theorem deliver (h : OnPath handle workerPort sys paths items log) (msg : Vsomeip.Message) :
    let key := some (HandlerKey.ofMessage msg).toSomeIpKey
    let out := (paths key).step (.event (.action (.deliver msg)))
    ∃ sys' posts, sys.step (.deliver msg) = some (sys', posts) ∧
      OnPath handle workerPort sys' (Function.update paths key out.1) (items ++ out.2) log := by
  intro key out
  obtain ⟨bridge, posts, more, hDeliver, hBound, hObjects, hRates, hItems⟩ := h.bound.deliver msg
  have hNew : ∀ msg', .message msg' ∈ more.map WorkerPost.item →
      (sys.client.streams.lookup msg'.key).isSome := by
    intro msg' hMem
    rw [hItems, EventPath.step] at hMem
    split at hMem
    · rename_i hPosted
      rw [PathItem.message.inj (List.mem_singleton.mp hMem), received_key]
      exact h.bound.opened _ hPosted.1
    · cases hMem
  refine ⟨{ sys with bridge, workerQueue := sys.workerQueue ++ workerObjects sys.workerPort posts }, posts, ?_,
    h.workerPort_eq, hBound _, ?_⟩
  · rw [System.step, h.bound.handle_eq, hDeliver]
    rfl
  · rw [← hItems]
    exact h.carried.send _ more rfl rfl (congrArg _ hObjects) hRates (fun _ => rfl) (fun _ => id) hNew

/-- One action: the system does what the paths do, and the worker handles at most one item, with its clock
reading. -/
theorem step (h : OnPath handle workerPort sys paths items log) {a : SignalAction F} (hPlain : a.Plain workerPort) :
    ∃ sys' posts handled, sys.signalStep a = some (sys', posts) ∧
      OnPath handle workerPort sys' (EventPath.turn paths a).1 (items ++ (EventPath.turn paths a).2) (log ++ handled) ∧
      (handled.map Prod.fst).Sublist a.reading?.toList := by
  have hIdle : ∀ {sys' : System F} {log'}, OnPath handle workerPort sys' paths items log' →
      OnPath handle workerPort sys' (Function.update paths none (paths none)) (items ++ []) log' := by
    intro sys' log' hSame
    rwa [Function.update_eq_self, List.append_nil]
  have hNothing : log ++ [] = log := List.append_nil log
  cases a with
  | setFilter k filterType payloadOffset param =>
    have hRep := h.bound.represents.setFilter k (.ofByte filterType) payloadOffset param (FloatOps.literal 100)
    have hNext := h.refilter k hRep
    rw [← List.append_nil items] at hNext
    exact ⟨_, _, [], rfl, hNothing.symm ▸ hNext, List.Sublist.refl _⟩
  | clearFilter k =>
    have hNext := h.refilter k (h.bound.represents.erase k)
    rw [← List.append_nil items] at hNext
    exact ⟨_, _, [], rfl, hNothing.symm ▸ hNext, List.Sublist.refl _⟩
  | setThrottle serviceId instanceId methodId maxHz =>
    have hCommand : sys.client.setThrottle serviceId instanceId methodId maxHz =
        [.setThrottleCmd ⟨serviceId, instanceId, methodId, maxHz⟩] := by
      rw [VsomeipClient.setThrottle, h.bound.spawned]
    refine ⟨_, _, [], rfl, ?_, List.Sublist.refl _⟩
    rw [hNothing, EventPath.turn, KeyedMachine.turn, EventPath.step, Function.update_eq_self]
    exact {
      workerPort_eq := h.workerPort_eq
      bound := h.bound.keep rfl rfl rfl rfl fun _ => id
      carried := h.carried.send _ [.setThrottle ⟨serviceId, instanceId, methodId, maxHz⟩] rfl rfl
        (congrArg _ hCommand) (List.forall_mem_singleton.mpr hPlain) (fun _ => rfl) (fun _ => id)
        fun msg hMem => by cases List.mem_singleton.mp hMem }
  | event a =>
    cases a with
    | native buffer =>
      have hCarried := h.carried.enqueue { sys with workerQueue := sys.workerQueue ++ [buffer.object] }
        [.native buffer] rfl rfl rfl (List.forall_mem_singleton.mpr hPlain) rfl (fun _ => rfl) (fun _ => id)
        fun _ hMem => absurd hMem List.not_mem_nil
      have hNone : [WorkerItem.native buffer].filterMap WorkerItem.post? = [] := rfl
      rw [hNone, List.map_nil, List.append_nil] at hCarried
      have hPosted : OnPath handle workerPort { sys with workerQueue := sys.workerQueue ++ [buffer.object] }
          paths items log :=
        ⟨h.workerPort_eq, h.bound.keep rfl rfl rfl rfl fun _ => id, hCarried⟩
      exact ⟨_, _, [], rfl, hNothing.symm ▸ hIdle hPosted, List.Sublist.refl _⟩
    | action a =>
      cases a with
      | subscribeEvent serviceId instanceId eventgroupId eventId port maxHz =>
        obtain ⟨hIds, rfl, hRate⟩ := hPlain
        exact ⟨_, _, [], rfl, hNothing.symm ▸ h.subscribeIds hIds hRate, List.Sublist.refl _⟩
      | onMessage serviceId instanceId methodId port maxHz =>
        obtain ⟨hIds, rfl, hRate⟩ := hPlain
        exact ⟨_, _, [], rfl, hNothing.symm ▸ h.subscribeIds hIds hRate, List.Sublist.refl _⟩
      | deliver msg =>
        obtain ⟨sys', posts, hStep, hNext⟩ := h.deliver msg
        exact ⟨sys', posts, [], hStep, hNothing.symm ▸ hNext, List.Sublist.refl _⟩
      | workerTurn now =>
        obtain ⟨handled, hCarried, hReading⟩ := h.carried.workerTurn now
        obtain ⟨hClient, hBridge, hPort⟩ := sys.workerTurn_client now
        refine ⟨_, _, handled, rfl, hIdle ⟨hPort.trans h.workerPort_eq, ?_, hCarried⟩, hReading⟩
        exact h.bound.keep hBridge hPort (by rw [hClient]) (by rw [hClient]) (by rw [hClient]; exact fun _ => id)
      | mainTurn => exact ⟨_, _, [], rfl, hNothing.symm ▸ hIdle h.mainTurn, List.Sublist.refl _⟩

theorem run (h : OnPath handle workerPort sys paths items log) {actions : List (SignalAction F)}
    (hPlain : ∀ a ∈ actions, a.Plain workerPort) :
    ∃ sys' outs handled, sys.signalRun actions = some (sys', outs) ∧
      OnPath handle workerPort sys' (Mealy.run EventPath.turn paths actions).1
        (items ++ (Mealy.run EventPath.turn paths actions).2.flatten) (log ++ handled) ∧
      (handled.map Prod.fst).Sublist (actions.filterMap SignalAction.reading?) := by
  induction actions generalizing sys paths items log with
  | nil => exact ⟨sys, [], [], rfl, by simpa using h, List.Sublist.refl _⟩
  | cons a rest ih =>
    obtain ⟨hHead, hRest⟩ := List.forall_mem_cons.mp hPlain
    obtain ⟨sys₁, posts, first, hStep, hNext, hFirst⟩ := h.step hHead
    obtain ⟨sys', outs, more, hRun, hLast, hMore⟩ := ih hNext hRest
    refine ⟨sys', posts :: outs, first ++ more, ?_, ?_, ?_⟩
    · rw [signalRun, Mealy.run?_cons, hStep, Option.bind_some, ← signalRun, hRun]
      rfl
    · rw [Mealy.run_cons, List.flatten_cons, ← List.append_assoc, ← List.append_assoc]
      exact hLast
    · have hReadings : (a :: rest).filterMap SignalAction.reading? =
          a.reading?.toList ++ rest.filterMap SignalAction.reading? := by
        rw [List.filterMap_cons]
        cases a.reading? <;> rfl
      rw [hReadings, List.map_append]
      exact hFirst.append hMore

end OnPath

/-- The worker has handled the front of what the path of an event brings, and what its throttle lets through
of that is in the stream, up to what is at the main port. -/
structure Shows (sys : System F) (key : SomeIpKey) (items : List PathItem) (own : PortLog) : Prop where
  handled : own.map (fun entry => entry.2.item) <+: items
  shown : sys.client.stream key <+: (Mealy.run Worker.signalStep none own).2.flatten
  all : sys.workerQueue = [] → own.map (fun entry => entry.2.item) = items
  arrived : sys.mainQueue = [] → sys.client.stream key = (Mealy.run Worker.signalStep none own).2.flatten

theorem item_key (p : WorkerPost) : p.item.key = p.key := by
  cases p <;> rfl

theorem Carried.shows {sys : System F} {items : List PathItem} {log : PortLog} (h : Carried sys items log)
    (key : SomeIpKey) : Shows sys key (items.filter fun item => item.key = key) (log.ofSignal key) := by
  obtain ⟨waiting, hQueue, -, hItems⟩ := h.waiting
  have hOwn : (log.ofSignal key).map (fun entry => entry.2.item) =
      ((log.map Prod.snd).map WorkerPost.item).filter fun item => item.key = key := by
    rw [List.map_map, List.filter_map, PortLog.ofSignal]
    congr 1
    refine List.filter_congr fun entry _ => ?_
    rw [Function.comp_apply, Function.comp_apply, item_key]
  have hShown : (Mealy.run Worker.signalStep none (log.ofSignal key)).2.flatten =
      ofKey key (Worker.signalsRun log).2.flatten :=
    (KeyedMachine.run_of_key Worker.key_of_mem_signalStep key Worker.noThrottles log).symm
  refine ⟨?_, ?_, fun hEmpty => ?_, fun hEmpty => ?_⟩
  · rw [hOwn, hItems, List.map_append, List.filter_append]
    exact List.prefix_append _ _
  · rw [hShown, ← h.sent key]
    exact List.prefix_append _ _
  · obtain rfl : waiting = [] := List.map_eq_nil_iff.mp (hQueue.symm.trans hEmpty)
    rw [hOwn, hItems, List.filterMap_nil, List.append_nil]
  · have hSent := h.sent key
    rw [hEmpty] at hSent
    rw [hShown, ← hSent]
    exact (List.append_nil _).symm

variable [FloatOps F]

/-- What waits at the worker port for one event is what its own path brings. -/
theorem items_turn (m : SignalMap F) (actions : List (SignalAction F)) (k : HandlerKey) :
    (Mealy.run EventPath.turn (EventPath.initial m) actions).2.flatten.filter
        (fun item => item.key = k.toSomeIpKey) =
      (EventPath.start (m k.event)).items (actions.filter fun a => a.key? = some k.toSomeIpKey) := by
  have hItems : (Mealy.run EventPath.turn (EventPath.initial m) actions).2.flatten.filter
      (fun item => some item.key = some k.toSomeIpKey) = _ :=
    KeyedMachine.run_of_key EventPath.key_of_mem_step (some k.toSomeIpKey) _ actions
  rw [EventPath.initial_key] at hItems
  simp only [Option.some.injEq] at hItems
  exact hItems

/-- In every run the stream of an event shows what its own path and its own throttle make of the actions that
are about it, up to what waits at the two ports. -/
theorem streams_follow {bridge : BridgeState F} {calls : List (FilterCall F)} {outputs : List FilterOutput}
    (hFilters : FilterRegistry.run .empty calls = some (bridge.filters, outputs)) (handle : Handle)
    (workerPort : DartPort) {actions : List (SignalAction F)} (hPlain : ∀ a ∈ actions, a.Plain workerPort) :
    ∃ sys outs, ∃ log : PortLog, signalRun (spawn bridge handle workerPort) actions = some (sys, outs) ∧
      (log.map Prod.fst).Sublist (actions.filterMap SignalAction.reading?) ∧
      ∀ k : HandlerKey,
        let own := actions.filter fun a => a.key? = some k.toSomeIpKey
        Shows sys k.toSomeIpKey ((EventPath.start ((SignalMap.run .empty calls).1 k.event)).items own)
          (log.ofSignal k.toSomeIpKey) := by
  obtain ⟨registry, hRun, hRep⟩ := Represents.empty.run calls
  obtain rfl : registry = bridge.filters :=
    (Prod.mk.inj (Option.some.inj (hRun.symm.trans hFilters))).1
  have hStart := OnPath.spawn hRep handle workerPort (EventPath.subscribed_initial _) (EventPath.signals_initial _)
  obtain ⟨sys, outs, log, hSystem, hOn, hReadings⟩ := hStart.run hPlain
  refine ⟨sys, outs, log, hSystem, hReadings, fun k => ?_⟩
  have hShows := hOn.carried.shows k.toSomeIpKey
  rw [List.nil_append, items_turn] at hShows
  exact hShows

def smoothedRun : List (SignalAction ExactSample) :=
  [.event (.action (.subscribeEvent 0x1111 1 1 0x8001 5 (.finite 10))),
    .setFilter ⟨0x1111, 1, 0x8001⟩ 1 0 (.finite (1 / 2)),
    .event (.action (.deliver ⟨0x1111, 1, 0x8001, 0x02, 0, 0, 0, [0, 0, 0x80, 0x3f]⟩)),
    .event (.action (.deliver ⟨0x1111, 1, 0x8001, 0x02, 0, 0, 0, [0, 0, 0x40, 0x40]⟩)),
    .event (.action (.workerTurn 0)), .event (.action (.workerTurn 1000000)),
    .event (.action (.workerTurn 1000001)), .event (.action .mainTurn)]

theorem streams_follow_smoothed :
    ∃ sys outs, ∃ log : PortLog, signalRun (spawn Bridge.initial 1 5) smoothedRun = some (sys, outs) ∧
      (log.map Prod.fst).Sublist [0, 1000000, 1000001] ∧
      Shows sys ⟨0x1111, 1, 0x8001⟩ ((EventPath.start fun _ => none).items (smoothedRun.take 4))
        (log.ofSignal ⟨0x1111, 1, 0x8001⟩) := by
  have hPlain : ∀ a ∈ smoothedRun, a.Plain 5 := by
    simp only [smoothedRun, List.forall_mem_cons]
    refine ⟨⟨⟨⟨0x1111, 1, 0x8001⟩, ⟨by decide, by decide, by decide⟩, rfl⟩, rfl, fun value hValue _ => ?_⟩,
      trivial, trivial, trivial, trivial, trivial, trivial, trivial, fun _ hMem => absurd hMem List.not_mem_nil⟩
    cases hValue
    decide +kernel
  have hFilters : FilterRegistry.run .empty [] = some ((Bridge.initial (F := ExactSample)).filters, []) := rfl
  obtain ⟨sys, outs, log, hRun, hReadings, hShows⟩ := streams_follow hFilters 1 5 hPlain
  exact ⟨sys, outs, log, hRun, hReadings, hShows ⟨0x1111, 1, 0x8001⟩⟩

end System

end VsomeipDart
