import VsomeipDart.ExactSample
import VsomeipDart.MessageFlow

/-! # Handler patterns and streams

The native side matches a message against the registered patterns, wildcards included; the client looks
its stream up under the ids of the message.
-/

namespace VsomeipDart
set_option autoImplicit false

namespace System

/-- The only calls are `onMessage` with 16-bit ids, the port of the worker and no `maxHz`. -/
def Action.RegistersPattern (own : DartPort) : Action → Prop
  | subscribeEvent _ _ _ _ _ _ => False
  | onMessage serviceId instanceId methodId workerPort maxHz =>
    workerPort = own ∧ maxHz = .finite 0 ∧
      ∃ k : HandlerKey, k.toSomeIpKey = ⟨serviceId, instanceId, methodId⟩
  | _ => True

/-- The stream of every pattern holds what was dispatched for the pattern, once and in order. -/
def PatternsServed {F : Type} (actions : List Action) (sys : System F) (outs : List Posts) : Prop :=
  ∀ k, Registered actions k → sys.client.stream k.toSomeIpKey = dispatched k outs

/-- Whenever a message of at most 1 MiB is delivered, a registered pattern that matches it is the exact
service, instance and method of the message. -/
def ExactOnly (actions : List Action) : Prop :=
  ∀ before msg after, actions = before ++ .deliver msg :: after →
    msg.payload.length ≤ kMaxPayloadBytes.toNat →
    ∀ k, Registered before k → k.Matches msg = true → k = HandlerKey.ofMessage msg

theorem ExactOnly.init {actions : List Action} {action : Action}
    (h : ExactOnly (actions ++ [action])) : ExactOnly actions := by
  intro before msg after hSplit
  apply h before msg (after ++ [action])
  rw [hSplit, List.append_assoc, List.cons_append]

section Keys

variable {F : Type}

def OwnKeys (client : VsomeipClient) : Prop :=
  ∀ key, ∀ m ∈ client.stream key, m.key = key

theorem OwnKeys.addToStream {client : VsomeipClient} (h : OwnKeys client) (msg : SomeIpMessage) :
    OwnKeys (client.addToStream msg) := by
  intro key m hMem
  rw [VsomeipClient.addToStream_stream] at hMem
  split at hMem
  · rename_i hKey
    rcases List.mem_append.mp hMem with hMem | hMem
    · exact h key m hMem
    · rw [List.mem_singleton.mp hMem, hKey.1]
  · exact h key m hMem

theorem OwnKeys.onMainPortMessage {client : VsomeipClient} (h : OwnKeys client) (msg : DartObject) :
    OwnKeys (client.onMainPortMessage msg) := by
  cases msg with
  | someIpMessage msg =>
    have hStreams := client.onMainPortMessage_streams msg
    intro key m hMem
    rw [VsomeipClient.stream, hStreams] at hMem
    exact h.addToStream msg key m hMem
  | _ => exact h

theorem OwnKeys.openStream {client : VsomeipClient} (h : OwnKeys client) (key : SomeIpKey) :
    OwnKeys (client.openStream key) := by
  intro key' m hMem
  rw [VsomeipClient.openStream_stream] at hMem
  exact h key' m hMem

variable [FloatOps F]

theorem OwnKeys.step {sys sys' : System F} {action : Action} {posts : Posts}
    (h : OwnKeys sys.client) (hStep : sys.step action = some (sys', posts)) :
    OwnKeys sys'.client := by
  cases action with
  | subscribeEvent serviceId instanceId eventgroupId eventId port maxHz =>
    cases hStep
    exact h.openStream _
  | onMessage serviceId instanceId methodId port maxHz =>
    cases hStep
    exact h.openStream _
  | deliver msg =>
    obtain ⟨bridge, -, rfl⟩ := step_deliver hStep
    exact h
  | workerTurn now =>
    cases hStep
    rw [(sys.workerTurn_client now).1]
    exact h
  | mainTurn =>
    cases hStep
    unfold mainTurn
    split
    · exact h
    · exact h.onMainPortMessage _

theorem OwnKeys.run {bridge : BridgeState F} {handle : Handle} {workerPort : DartPort}
    {actions : List Action} {sys : System F} {outs : List Posts}
    (hRun : run (System.spawn bridge handle workerPort) actions = some (sys, outs)) :
    OwnKeys sys.client :=
  Mealy.run?_induction (P := fun _ sys _ => OwnKeys sys.client)
    (fun _ _ hMem => absurd hMem List.not_mem_nil) (fun _ _ _ _ _ _ h hStep => h.step hStep) hRun

end Keys

section Registrations

variable {F : Type} {workerPort : DartPort}

theorem uint16_ofInt_toNat (x : UInt16) : UInt16.ofInt x.toNat = x := by
  have hLt := x.toNat_lt
  rw [UInt16.ofInt, Int.emod_eq_of_lt (by omega) (by omega), Int.toNat_natCast, UInt16.ofNat_toNat]

theorem Action.RegistersPattern.registers {action : Action}
    (h : action.RegistersPattern workerPort) {k : HandlerKey} {port : DartPort}
    (hRegisters : action.registers = some (k, port)) :
    port = workerPort ∧
      action = .onMessage k.svc.toNat k.inst.toNat k.method.toNat workerPort (.finite 0) := by
  cases action with
  | subscribeEvent serviceId instanceId eventgroupId eventId own maxHz => exact absurd h id
  | onMessage serviceId instanceId methodId own maxHz =>
    obtain ⟨rfl, rfl, ids, hIds⟩ := h
    cases hIds
    cases hRegisters
    refine ⟨rfl, ?_⟩
    simp only [uint16_ofInt_toNat]
  | _ => cases hRegisters

theorem port_eq_worker {actions : List Action}
    (hPattern : ∀ action ∈ actions, action.RegistersPattern workerPort) {k : HandlerKey}
    {port : DartPort} (h : (k, port) ∈ registrations actions) : port = workerPort :=
  registrations_port (fun action hMem _ _ hRegisters =>
    ((hPattern action hMem).registers hRegisters).1) h

def Opened (actions : List Action) (client : VsomeipClient) : Prop :=
  ∀ k, Registered actions k → (client.streams.lookup k.toSomeIpKey).isSome

variable [FloatOps F]

theorem Opened.step {sys sys' : System F} {actions : List Action} {action : Action} {posts : Posts}
    (h : Opened actions sys.client) (hAction : action.RegistersPattern workerPort)
    (hStep : sys.step action = some (sys', posts)) : Opened (actions ++ [action]) sys'.client := by
  intro k hRegistered
  obtain ⟨port, hMem⟩ := hRegistered
  rw [registrations_append, List.mem_append] at hMem
  -- a stream stays open, and the last call opens the stream of its own pattern
  have hOld : (k, port) ∈ registrations actions → (sys.client.streams.lookup k.toSomeIpKey).isSome :=
    fun hOld => h k ⟨port, hOld⟩
  have hNew : (k, port) ∈ registrations [action] → action.registers = some (k, port) := by
    intro hNew
    obtain ⟨other, hOther, hRegisters⟩ := List.mem_filterMap.mp hNew
    rwa [List.mem_singleton.mp hOther] at hRegisters
  cases action with
  | subscribeEvent serviceId instanceId eventgroupId eventId own maxHz => exact absurd hAction id
  | onMessage serviceId instanceId methodId own maxHz =>
    cases hStep
    refine sys.client.openStream_isSome ?_
    rcases hMem with hMem | hMem
    · exact Or.inr (hOld hMem)
    · obtain ⟨-, hEq⟩ := hAction.registers (hNew hMem)
      cases hEq
      exact Or.inl rfl
  | deliver msg =>
    obtain ⟨bridge, -, rfl⟩ := step_deliver hStep
    exact hOld (hMem.resolve_right fun hMem => by cases hNew hMem)
  | workerTurn now =>
    cases hStep
    rw [(sys.workerTurn_client now).1]
    exact hOld (hMem.resolve_right fun hMem => by cases hNew hMem)
  | mainTurn =>
    cases hStep
    have hIsSome := hOld (hMem.resolve_right fun hMem => by cases hNew hMem)
    unfold mainTurn
    split
    · exact hIsSome
    · exact sys.client.onMainPortMessage_isSome _ hIsSome

theorem Flow.deliver {sys sys' : System F} {handle : Handle} {actions : List Action}
    {msg : Vsomeip.Message} {posts : Posts} {posted sent : List SomeIpMessage}
    {waiting : List (Vsomeip.Message × Bytes)} (h : Flow sys posted waiting sent)
    (hWired : Wired sys handle workerPort actions) (hOpened : Opened actions sys.client)
    (hPattern : ∀ action ∈ actions, action.RegistersPattern workerPort)
    (hExact : msg.payload.length ≤ kMaxPayloadBytes.toNat → ∀ k, Registered actions k →
      k.Matches msg = true → k = HandlerKey.ofMessage msg)
    (hStep : sys.step (.deliver msg) = some (sys', posts)) :
    ∃ waiting', Flow sys' (posted ++ decoded posts) waiting' sent := by
  obtain ⟨bridge, hDeliver, rfl⟩ := step_deliver hStep
  obtain ⟨app, hApp, hPorts, -⟩ := hWired.app
  rw [hWired.handle_eq] at hDeliver
  have hEach := (Bridge.deliver_posts hApp hDeliver).1
  have hOwn : ∀ post ∈ posts, post.2.1 = sys.workerPort ∧
      ∃ payload, payload.length ≤ kMaxPayloadBytes.toNat ∧ post.2.2 = Bridge.postOf msg payload := by
    intro post hMem
    obtain ⟨hLookup, -, hCap, payload, hPayload, hPost⟩ := hEach post hMem
    refine ⟨?_, payload, hPayload ▸ hCap, hPost⟩
    rw [hWired.workerPort_eq]
    exact port_eq_worker hPattern (hPorts _ _ hLookup)
  obtain ⟨payloads, hLength, hCaps, hObjects, hDecoded⟩ := posts_payloads hOwn
  refine ⟨waiting ++ payloads.map fun payload => (msg, payload), ?_⟩
  rw [hObjects, hDecoded]
  refine h.post bridge hCaps fun hNonempty => ?_
  have hPosts : posts ≠ [] := by
    intro hNil
    rw [hNil] at hLength
    exact hNonempty (List.length_eq_zero_iff.mp hLength)
  obtain ⟨post, hMem⟩ := List.exists_mem_of_ne_nil posts hPosts
  obtain ⟨hLookup, hMatches, hCap, -⟩ := hEach post hMem
  have hRegistered : Registered actions post.1 := ⟨_, hPorts _ _ hLookup⟩
  rw [← hExact hCap post.1 hRegistered hMatches]
  exact hOpened post.1 hRegistered

theorem Flow.step {sys sys' : System F} {handle : Handle} {actions : List Action} {action : Action}
    {posts : Posts} {posted sent : List SomeIpMessage} {waiting : List (Vsomeip.Message × Bytes)}
    (h : Flow sys posted waiting sent) (hWired : Wired sys handle workerPort actions)
    (hOpened : Opened actions sys.client)
    (hPattern : ∀ other ∈ actions ++ [action], other.RegistersPattern workerPort)
    (hExact : ExactOnly (actions ++ [action])) (hStep : sys.step action = some (sys', posts)) :
    ∃ waiting' sent', Flow sys' (posted ++ decoded posts) waiting' sent' := by
  have hAction := hPattern action (List.mem_append_right _ (List.mem_singleton.mpr rfl))
  cases action with
  | subscribeEvent serviceId instanceId eventgroupId eventId own maxHz => exact absurd hAction id
  | onMessage serviceId instanceId methodId own maxHz =>
    obtain ⟨rfl, rfl, -⟩ := hAction
    cases hStep
    refine ⟨waiting, sent, ?_⟩
    -- without `maxHz` no command goes to the worker
    show Flow { sys with
      client := _, bridge := _, workerQueue := sys.workerQueue ++ [] } (posted ++ []) waiting sent
    rw [List.append_nil, List.append_nil]
    exact h.openStream _ _
  | deliver msg =>
    obtain ⟨waiting', hFlow⟩ := h.deliver hWired hOpened
      (fun other hOther => hPattern other (List.mem_append_left _ hOther)) (hExact actions msg [] rfl)
      hStep
    exact ⟨waiting', sent, hFlow⟩
  | workerTurn now =>
    cases hStep
    rw [decoded, List.filterMap_nil, List.append_nil]
    exact h.workerTurn now
  | mainTurn =>
    cases hStep
    rw [decoded, List.filterMap_nil, List.append_nil]
    exact ⟨waiting, h.mainTurn⟩

end Registrations

section Served

variable {F : Type} [FloatOps F] {bridge : BridgeState F} {handle : Handle} {workerPort : DartPort}
  {actions : List Action} {sys : System F} {outs : List Posts}

theorem Flow.run (hPattern : ∀ action ∈ actions, action.RegistersPattern workerPort)
    (hExact : ExactOnly actions)
    (hRun : run (System.spawn bridge handle workerPort) actions = some (sys, outs)) :
    ∃ waiting sent, Flow sys (decoded outs.flatten) waiting sent := by
  have hAll := Mealy.run?_induction
    (P := fun actions sys outs => Wired sys handle workerPort actions ∧
      ((∀ action ∈ actions, action.RegistersPattern workerPort) → ExactOnly actions →
        Opened actions sys.client ∧ ∃ waiting sent, Flow sys (decoded outs.flatten) waiting sent))
    ⟨Wired.spawn bridge handle workerPort, fun _ _ =>
      ⟨fun _ ⟨_, hMem⟩ => absurd hMem List.not_mem_nil, [], [],
        Flow.spawn bridge handle workerPort⟩⟩
    (fun before sys₁ outs₁ action sys₂ posts h hStep => by
      refine ⟨h.1.step hStep, fun hPattern hExact => ?_⟩
      obtain ⟨hOpened, waiting, sent, hFlow⟩ :=
        h.2 (fun other hOther => hPattern other (List.mem_append_left _ hOther)) hExact.init
      have hAction := hPattern action (List.mem_append_right _ (List.mem_singleton.mpr rfl))
      refine ⟨hOpened.step hAction hStep, ?_⟩
      rw [List.flatten_append, decoded, List.filterMap_append, List.flatten_singleton]
      exact hFlow.step h.1 hOpened hPattern hExact hStep) hRun
  exact (hAll.2 hPattern hExact).2

theorem dispatched_eq_ofKey (hExact : ExactOnly actions)
    (hRun : run (System.spawn bridge handle workerPort) actions = some (sys, outs)) (k : HandlerKey) :
    dispatched k outs = ofKey k.toSomeIpKey (decoded outs.flatten) := by
  rw [ofKey, decoded, List.filter_filterMap, dispatched]
  refine List.filterMap_congr fun post hMem => ?_
  obtain ⟨before, msg, after, payload, hSplit, hRegistered, hMatches, hCap, hPost⟩ :=
    mem_posts hRun hMem
  have hKey := hExact before msg after hSplit hCap post.1 hRegistered hMatches
  rw [hPost, decodePost_postOf, Option.filter_some, received_key, ← hKey]
  by_cases hEq : post.1 = k
  · rw [if_pos hEq, if_pos (by simpa using congrArg HandlerKey.toSomeIpKey hEq)]
  · rw [if_neg hEq, if_neg (by simpa [HandlerKey.toSomeIpKey_inj] using hEq)]

theorem exactOnly_of_served
    (hRun : run (System.spawn bridge handle workerPort) actions = some (sys, outs))
    (hServed : PatternsServed actions sys outs) : ExactOnly actions := by
  intro before msg after hSplit hCap k hRegistered hMatches
  obtain ⟨payload, hMem⟩ := dispatched_of_deliver hRun hSplit hRegistered hMatches hCap
  rw [← hServed k (hSplit ▸ hRegistered.append _)] at hMem
  -- a stream holds messages of its own key only
  have hKey := OwnKeys.run hRun k.toSomeIpKey _ hMem
  rw [received_key] at hKey
  exact (HandlerKey.toSomeIpKey_inj.mp hKey).symm

/-- Once every queue is empty, the streams of the registered patterns hold what their handlers dispatched
exactly when every pattern that matched a message was its exact ids. -/
theorem patterns_served_iff (hPattern : ∀ action ∈ actions, action.RegistersPattern workerPort)
    (hRun : run (System.spawn bridge handle workerPort) actions = some (sys, outs))
    (hQuiet : Quiet sys) :
    PatternsServed actions sys outs ↔ ExactOnly actions := by
  constructor
  · exact exactOnly_of_served hRun
  · intro hExact k _
    obtain ⟨waiting, sent, hFlow⟩ := Flow.run hPattern hExact hRun
    rw [hFlow.arrived hQuiet, dispatched_eq_ofKey hExact hRun]

end Served

section Example

def patternRun (serviceId : Int) : List Action :=
  [.onMessage serviceId 1 0x8001 7 (.finite 0),
    .deliver ⟨0x1111, 1, 0x8001, Vsomeip.MT_NOTIFICATION, Vsomeip.E_OK, 0x1277, 1,
      [0, 0, 0x80, 0x3f]⟩]

theorem patternRun_registersPattern (service : UInt16) {turns : List Action}
    (hTurns : ∀ t ∈ turns, Action.IsTurn t) :
    ∀ action ∈ patternRun service.toNat ++ turns, action.RegistersPattern 7 := by
  intro action hMem
  rcases List.mem_append.mp hMem with hMem | hMem
  · simp only [patternRun, List.mem_cons, List.not_mem_nil, or_false] at hMem
    rcases hMem with rfl | rfl
    · exact ⟨rfl, rfl, ⟨service, 1, 0x8001⟩, rfl⟩
    · trivial
  · have hTurn := hTurns action hMem
    cases action with
    | workerTurn now => trivial
    | mainTurn => trivial
    | _ => exact absurd hTurn id

theorem patterns_served_iff_patternRun :
    ∃ turns sys outs, run (System.spawn (F := ExactSample) Bridge.initial 1 7)
        (patternRun 0x1111 ++ turns) = some (sys, outs) ∧ Quiet sys ∧
      (PatternsServed (patternRun 0x1111 ++ turns) sys outs ↔
        ExactOnly (patternRun 0x1111 ++ turns)) := by
  obtain ⟨turns, sys, outs, hTurns, hRun, hQuiet⟩ :=
    exists_quiet_run (System.spawn (F := ExactSample) Bridge.initial 1 7) (patternRun 0x1111)
  exact ⟨turns, sys, outs, hRun, hQuiet,
    patterns_served_iff (patternRun_registersPattern 0x1111 hTurns) hRun hQuiet⟩

theorem patternRun_any_not_served :
    ∃ turns sys outs, run (System.spawn (F := ExactSample) Bridge.initial 1 7)
        (patternRun 0xFFFF ++ turns) = some (sys, outs) ∧ Quiet sys ∧
      ¬ PatternsServed (patternRun 0xFFFF ++ turns) sys outs := by
  obtain ⟨turns, sys, outs, -, hRun, hQuiet⟩ :=
    exists_quiet_run (System.spawn (F := ExactSample) Bridge.initial 1 7) (patternRun 0xFFFF)
  refine ⟨turns, sys, outs, hRun, hQuiet, fun hServed => ?_⟩
  have hExact := exactOnly_of_served hRun hServed [.onMessage 0xFFFF 1 0x8001 7 (.finite 0)] _ turns
    rfl (by decide) ⟨0xFFFF, 1, 0x8001⟩ ⟨7, List.mem_singleton.mpr rfl⟩ (by decide)
  exact absurd hExact (by decide)

end Example

end System

end VsomeipDart
