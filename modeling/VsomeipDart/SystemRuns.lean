import VsomeipDart.Lib.FiniteMap
import VsomeipDart.System

/-! # Facts about every run of the system

Which handlers an application has, what a delivery posts, and which messages a stream can hold.
-/

namespace VsomeipDart
set_option autoImplicit false

def HandlerKey.toSomeIpKey (k : HandlerKey) : SomeIpKey := ⟨k.svc.toNat, k.inst.toNat, k.method.toNat⟩

theorem HandlerKey.toSomeIpKey_inj {k k' : HandlerKey} :
    k.toSomeIpKey = k'.toSomeIpKey ↔ k = k' := by
  constructor
  · intro h
    obtain ⟨svc, inst, meth⟩ := k
    obtain ⟨svc', inst', meth'⟩ := k'
    simp only [toSomeIpKey, SomeIpKey.mk.injEq, Int.natCast_inj] at h
    obtain ⟨hSvc, hInst, hMethod⟩ := h
    rw [UInt16.toNat.inj hSvc, UInt16.toNat.inj hInst, UInt16.toNat.inj hMethod]
  · exact congrArg HandlerKey.toSomeIpKey

theorem received_key (msg : Vsomeip.Message) (payload : Bytes) :
    (received msg payload).key = (HandlerKey.ofMessage msg).toSomeIpKey := rfl

def decodePost (post : MessagePost) : Option SomeIpMessage :=
  match WireCodec.decodeHeader post.header 0 with
  | .ok hdr => some (WireCodec.toMessage hdr post.payload)
  | .error _ => none

theorem decodePost_postOf (msg : Vsomeip.Message) (payload : Bytes) :
    decodePost (Bridge.postOf msg payload) = some (received msg payload) := by
  obtain ⟨hdr, hDecode, hMessage⟩ := toMessage_headerOf msg payload []
  rw [List.append_nil] at hDecode
  rw [decodePost, hDecode]
  exact congrArg some hMessage

namespace VsomeipClient

theorem openStream_handle (client : VsomeipClient) (key : SomeIpKey) :
    (client.openStream key).handle = client.handle := by
  unfold openStream
  split <;> rfl

theorem openStream_stream (client : VsomeipClient) (key key' : SomeIpKey) :
    (client.openStream key).stream key' = client.stream key' := by
  unfold openStream
  cases hLookup : client.streams.lookup key with
  | some events => rfl
  | none =>
    dsimp only
    rw [stream, stream, FiniteMap.lookup_insert]
    split
    · rename_i hKey
      rw [hKey, hLookup]
      rfl
    · rfl

theorem addToStream_handle (client : VsomeipClient) (msg : SomeIpMessage) :
    (client.addToStream msg).handle = client.handle := by
  unfold addToStream
  split <;> rfl

theorem completePending_handle (client : VsomeipClient) (msg : SomeIpMessage) :
    (client.completePending msg).handle = client.handle := by
  unfold completePending
  split <;> rfl

theorem completePending_streams (client : VsomeipClient) (msg : SomeIpMessage) :
    (client.completePending msg).streams = client.streams := by
  unfold completePending
  split <;> rfl

theorem onMainPortMessage_handle (client : VsomeipClient) (msg : DartObject) :
    (client.onMainPortMessage msg).handle = client.handle := by
  unfold onMainPortMessage
  split
  · split
    · rw [completePending_handle, addToStream_handle]
    · exact addToStream_handle client _
  all_goals rfl

theorem onMainPortMessage_streams (client : VsomeipClient) (msg : SomeIpMessage) :
    (client.onMainPortMessage (.someIpMessage msg)).streams = (client.addToStream msg).streams := by
  rw [onMainPortMessage]
  split
  · exact completePending_streams _ msg
  · rfl

theorem addToStream_stream (client : VsomeipClient) (msg : SomeIpMessage) (key : SomeIpKey) :
    (client.addToStream msg).stream key =
      if key = msg.key ∧ (client.streams.lookup msg.key).isSome then client.stream key ++ [msg]
      else client.stream key := by
  unfold addToStream
  cases hLookup : client.streams.lookup msg.key with
  | none => simp
  | some events =>
    dsimp only
    rw [stream, stream]
    rcases eq_or_ne key msg.key with rfl | hKey
    · rw [AList.lookup_insert, hLookup, if_pos ⟨rfl, rfl⟩]
      rfl
    · rw [AList.lookup_insert_ne hKey, if_neg (fun h => hKey h.1)]

end VsomeipClient

namespace System

namespace Action

def registers : Action → Option (HandlerKey × DartPort)
  | subscribeEvent serviceId instanceId _ eventId workerPort _ =>
    some (⟨UInt16.ofInt serviceId, UInt16.ofInt instanceId, UInt16.ofInt eventId⟩, workerPort)
  | onMessage serviceId instanceId methodId workerPort _ =>
    some (⟨UInt16.ofInt serviceId, UInt16.ofInt instanceId, UInt16.ofInt methodId⟩, workerPort)
  | _ => none

end Action

def registrations (actions : List Action) : List (HandlerKey × DartPort) :=
  actions.filterMap Action.registers

def Registered (actions : List Action) (k : HandlerKey) : Prop :=
  ∃ port, (k, port) ∈ registrations actions

theorem registrations_append (left right : List Action) :
    registrations (left ++ right) = registrations left ++ registrations right :=
  List.filterMap_append

theorem Registered.append {before : List Action} {k : HandlerKey} (h : Registered before k)
    (after : List Action) : Registered (before ++ after) k := by
  obtain ⟨port, hMem⟩ := h
  refine ⟨port, ?_⟩
  rw [registrations_append]
  exact List.mem_append_left _ hMem

theorem registrations_port {own : DartPort} {actions : List Action}
    (h : ∀ action ∈ actions, ∀ k port, action.registers = some (k, port) → port = own)
    {k : HandlerKey} {port : DartPort} (hMem : (k, port) ∈ registrations actions) : port = own := by
  obtain ⟨action, hAction, hRegisters⟩ := List.mem_filterMap.mp hMem
  exact h action hAction k port hRegisters

/-- The messages that the handler of a pattern posted in a run, in order. -/
def dispatched (k : HandlerKey) (outs : List Posts) : List SomeIpMessage :=
  outs.flatten.filterMap fun post => if post.1 = k then decodePost post.2.2 else none

variable {F : Type}

/-- The application of the client is alive and has exactly the registered handlers. -/
structure Wired (sys : System F) (handle : Handle) (workerPort : DartPort) (actions : List Action) :
    Prop where
  handle_eq : sys.client.handle = handle
  workerPort_eq : sys.workerPort = workerPort
  app : ∃ app, Bridge.getApp sys.bridge handle = some app ∧
    (∀ k port, app.handlers.lookup k = some port → (k, port) ∈ registrations actions) ∧
    ∀ k, Registered actions k → k ∈ app.handlers

namespace Wired

variable {sys : System F} {handle : Handle} {workerPort : DartPort} {actions : List Action}

theorem spawn (bridge : BridgeState F) (handle : Handle) (workerPort : DartPort) :
    Wired (spawn bridge handle workerPort) handle workerPort [] where
  handle_eq := rfl
  workerPort_eq := rfl
  app := by
    refine ⟨.create, AList.lookup_insert _, fun k port hLookup => ?_, fun k hRegistered => ?_⟩
    · cases hLookup
    · obtain ⟨port, hMem⟩ := hRegistered
      cases hMem

theorem register (h : Wired sys handle workerPort actions) (action : Action) {key : HandlerKey}
    {port : DartPort} (hAction : action.registers = some (key, port)) :
    ∃ app, Bridge.getApp (Bridge.registerMessageHandler sys.bridge handle key port) handle = some app ∧
      (∀ k p, app.handlers.lookup k = some p → (k, p) ∈ registrations (actions ++ [action])) ∧
      ∀ k, Registered (actions ++ [action]) k → k ∈ app.handlers := by
  obtain ⟨app, hApp, hPorts, hKeys⟩ := h.app
  have hLast : registrations [action] = [(key, port)] := by
    rw [registrations, List.filterMap_cons, hAction]
    rfl
  refine ⟨_, Bridge.getApp_registerMessageHandler hApp key port, ?_, ?_⟩
  · intro k p hLookup
    rw [registrations_append, hLast, List.mem_append, List.mem_singleton]
    rw [Vsomeip.Application.registerMessageHandler, FiniteMap.lookup_insert] at hLookup
    split at hLookup
    · rename_i hKey
      rw [hKey, Option.some.inj hLookup]
      exact Or.inr rfl
    · exact Or.inl (hPorts k p hLookup)
  · rintro k ⟨p, hMem⟩
    rw [registrations_append, hLast, List.mem_append, List.mem_singleton] at hMem
    rw [Vsomeip.Application.registerMessageHandler, AList.mem_insert]
    rcases hMem with hMem | hMem
    · exact Or.inr (hKeys k ⟨p, hMem⟩)
    · exact Or.inl (Prod.mk.inj hMem).1

theorem keep (h : Wired sys handle workerPort actions) {action : Action}
    (hAction : action.registers = none) {sys' : System F}
    (hHandle : sys'.client.handle = sys.client.handle) (hPort : sys'.workerPort = sys.workerPort)
    (hApps : sys'.bridge.apps = sys.bridge.apps) :
    Wired sys' handle workerPort (actions ++ [action]) := by
  have hSame : registrations (actions ++ [action]) = registrations actions := by
    rw [registrations_append, registrations, registrations, List.filterMap_cons, hAction]
    exact List.append_nil _
  obtain ⟨app, hApp, hPorts, hKeys⟩ := h.app
  refine ⟨hHandle.trans h.handle_eq, hPort.trans h.workerPort_eq, app, ?_, ?_, ?_⟩
  · rw [Bridge.getApp, hApps]
    exact hApp
  · rw [hSame]
    exact hPorts
  · intro k hRegistered
    rw [Registered, hSame] at hRegistered
    exact hKeys k hRegistered

end Wired

theorem workerTurn_client (sys : System F) (now : Int) :
    (sys.workerTurn now).client = sys.client ∧ (sys.workerTurn now).bridge = sys.bridge ∧
      (sys.workerTurn now).workerPort = sys.workerPort := by
  unfold workerTurn
  split
  · exact ⟨rfl, rfl, rfl⟩
  · split
    · split <;> exact ⟨rfl, rfl, rfl⟩
    · exact ⟨rfl, rfl, rfl⟩

theorem mainTurn_handle (sys : System F) : (sys.mainTurn).client.handle = sys.client.handle := by
  unfold mainTurn
  split
  · rfl
  · exact VsomeipClient.onMainPortMessage_handle _ _

theorem mainTurn_bridge (sys : System F) :
    sys.mainTurn.bridge = sys.bridge ∧ sys.mainTurn.workerPort = sys.workerPort := by
  unfold mainTurn
  split <;> exact ⟨rfl, rfl⟩

variable [FloatOps F]

theorem deliver_apps {s s' : BridgeState F} {handle : Handle} {msg : Vsomeip.Message}
    {posts : Posts} (h : Bridge.deliver s handle msg = some (s', posts)) : s'.apps = s.apps := by
  cases hApp : Bridge.getApp s handle with
  | none =>
    rw [Bridge.deliver, hApp] at h
    cases h
    rfl
  | some app =>
    obtain ⟨filters', posts', hCall⟩ := Bridge.callHandlers_total s.filters msg (app.matching msg)
    rw [Bridge.deliver_some hApp hCall] at h
    cases h
    rfl

theorem step_deliver {sys sys' : System F} {msg : Vsomeip.Message} {posts : Posts}
    (h : sys.step (.deliver msg) = some (sys', posts)) :
    ∃ bridge, Bridge.deliver sys.bridge sys.client.handle msg = some (bridge, posts) ∧
      sys' = { sys with
        bridge, workerQueue := sys.workerQueue ++ workerObjects sys.workerPort posts } := by
  rw [step] at h
  obtain ⟨⟨bridge, posts'⟩, hDeliver, hRest⟩ := Option.bind_eq_some_iff.mp h
  cases hRest
  exact ⟨bridge, hDeliver, rfl⟩

theorem Wired.step {sys sys' : System F} {handle : Handle} {workerPort : DartPort}
    {actions : List Action} {action : Action} {posts : Posts}
    (h : Wired sys handle workerPort actions) (hStep : sys.step action = some (sys', posts)) :
    Wired sys' handle workerPort (actions ++ [action]) := by
  cases action with
  | subscribeEvent serviceId instanceId eventgroupId eventId port maxHz =>
    cases hStep
    refine ⟨?_, h.workerPort_eq, ?_⟩
    · exact (VsomeipClient.openStream_handle _ _).trans h.handle_eq
    · obtain ⟨app, hApp, hPorts, hKeys⟩ :=
        h.register (.subscribeEvent serviceId instanceId eventgroupId eventId port maxHz) rfl
      exact ⟨app, by rw [← hApp, ← h.handle_eq]; rfl, hPorts, hKeys⟩
  | onMessage serviceId instanceId methodId port maxHz =>
    cases hStep
    refine ⟨?_, h.workerPort_eq, ?_⟩
    · exact (VsomeipClient.openStream_handle _ _).trans h.handle_eq
    · obtain ⟨app, hApp, hPorts, hKeys⟩ :=
        h.register (.onMessage serviceId instanceId methodId port maxHz) rfl
      exact ⟨app, by rw [← hApp, ← h.handle_eq], hPorts, hKeys⟩
  | deliver msg =>
    obtain ⟨bridge, hDeliver, rfl⟩ := step_deliver hStep
    exact h.keep rfl rfl rfl (deliver_apps hDeliver)
  | workerTurn now =>
    cases hStep
    obtain ⟨hClient, hBridge, hPort⟩ := sys.workerTurn_client now
    exact h.keep rfl (congrArg _ hClient) hPort (congrArg _ hBridge)
  | mainTurn =>
    cases hStep
    obtain ⟨hBridge, hPort⟩ := sys.mainTurn_bridge
    exact h.keep rfl sys.mainTurn_handle hPort (congrArg _ hBridge)

theorem Wired.run {bridge : BridgeState F} {handle : Handle} {workerPort : DartPort}
    {actions : List Action} {sys : System F} {outs : List Posts}
    (hRun : run (System.spawn bridge handle workerPort) actions = some (sys, outs)) :
    Wired sys handle workerPort actions :=
  Mealy.run?_induction (P := fun actions sys _ => Wired sys handle workerPort actions)
    (Wired.spawn bridge handle workerPort) (fun _ _ _ _ _ _ h hStep => h.step hStep) hRun

section Dispatched

variable {bridge : BridgeState F} {handle : Handle} {workerPort : DartPort} {actions : List Action}
  {sys : System F} {outs : List Posts} {k : HandlerKey}
  (hRun : run (System.spawn bridge handle workerPort) actions = some (sys, outs))

include hRun

theorem mem_posts {post : HandlerKey × DartPort × MessagePost} (hMem : post ∈ outs.flatten) :
    ∃ before msg after payload, actions = before ++ .deliver msg :: after ∧
      Registered before post.1 ∧ post.1.Matches msg = true ∧
      msg.payload.length ≤ kMaxPayloadBytes.toNat ∧ post.2.2 = Bridge.postOf msg payload := by
  obtain ⟨posts, hPosts, hPostMem⟩ := List.mem_flatten.mp hMem
  obtain ⟨before, action, after, sys₁, outs₁, sys₂, hSplit, hBefore, hStep⟩ :=
    (Mealy.mem_run?_iff hRun posts).mp hPosts
  have hWired := Wired.run hBefore
  obtain ⟨app, hApp, hPorts, -⟩ := hWired.app
  cases action with
  | deliver msg =>
    obtain ⟨bridge', hDeliver, -⟩ := step_deliver hStep
    rw [hWired.handle_eq] at hDeliver
    obtain ⟨hLookup, hMatches, hLength, payload, -, hEq⟩ :=
      (Bridge.deliver_posts hApp hDeliver).1 post hPostMem
    exact ⟨before, msg, after, payload, hSplit, ⟨_, hPorts _ _ hLookup⟩, hMatches, hLength, hEq⟩
  | _ =>
    cases hStep
    cases hPostMem

theorem mem_dispatched {m : SomeIpMessage} (hMem : m ∈ dispatched k outs) :
    ∃ before msg after payload, actions = before ++ .deliver msg :: after ∧ Registered before k ∧
      k.Matches msg = true ∧ msg.payload.length ≤ kMaxPayloadBytes.toNat ∧
      m = received msg payload := by
  obtain ⟨post, hPost, hDecode⟩ := List.mem_filterMap.mp hMem
  obtain ⟨before, msg, after, payload, hSplit, hRegistered, hMatches, hLength, hEq⟩ :=
    mem_posts hRun hPost
  by_cases hKey : post.1 = k
  · rw [if_pos hKey, hEq, decodePost_postOf] at hDecode
    rw [hKey] at hRegistered hMatches
    exact ⟨before, msg, after, payload, hSplit, hRegistered, hMatches, hLength,
      (Option.some.inj hDecode).symm⟩
  · rw [if_neg hKey] at hDecode
    cases hDecode

theorem dispatched_of_deliver {before after : List Action} {msg : Vsomeip.Message}
    (hSplit : actions = before ++ .deliver msg :: after) (hRegistered : Registered before k)
    (hMatches : k.Matches msg = true) (hLength : msg.payload.length ≤ kMaxPayloadBytes.toNat) :
    ∃ payload, received msg payload ∈ dispatched k outs := by
  obtain ⟨⟨sys₁, outs₁⟩, hBefore⟩ :=
    Mealy.run?_total step_total (System.spawn bridge handle workerPort) before
  obtain ⟨⟨sys₂, posts⟩, hStep⟩ := step_total sys₁ (.deliver msg)
  have hPosts : posts ∈ outs := (Mealy.mem_run?_iff hRun posts).mpr
    ⟨before, .deliver msg, after, sys₁, outs₁, sys₂, hSplit, hBefore, hStep⟩
  have hWired := Wired.run hBefore
  obtain ⟨app, hApp, -, hKeys⟩ := hWired.app
  obtain ⟨bridge', hDeliver, -⟩ := step_deliver hStep
  rw [hWired.handle_eq] at hDeliver
  obtain ⟨hEach, hAll⟩ := Bridge.deliver_posts hApp hDeliver
  obtain ⟨port, hPort⟩ := Option.isSome_iff_exists.mp (AList.lookup_isSome.mpr (hKeys k hRegistered))
  have hHandler : (k, port) ∈ posts.map fun post => (post.1, post.2.1) := by
    rw [hAll hLength]
    exact Vsomeip.Application.mem_matching.mpr ⟨hPort, hMatches⟩
  obtain ⟨post, hMem, hEq⟩ := List.mem_map.mp hHandler
  obtain ⟨-, -, -, payload, -, hPost⟩ := hEach post hMem
  refine ⟨payload, List.mem_filterMap.mpr ⟨post, List.mem_flatten.mpr ⟨posts, hPosts, hMem⟩, ?_⟩⟩
  rw [if_pos (Prod.mk.inj hEq).1, hPost, decodePost_postOf]

end Dispatched

end System

end VsomeipDart
