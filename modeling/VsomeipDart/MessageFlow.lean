import VsomeipDart.SystemRuns

/-! # The way of posted messages through the two queues

Without throttles, a posted message waits at the worker, then at the main port, and then is in the stream
of its key. `Flow` says that nothing is lost, repeated or reordered on that way.
-/

namespace VsomeipDart
set_option autoImplicit false

/-- The object that a message is at the port of the worker. -/
def messageObject (msg : Vsomeip.Message) (payload : Bytes) : DartObject :=
  CObject.deliver (.array [.typedData (Bridge.postOf msg payload).header,
    if payload = [] then .null else .externalTypedData payload])

theorem listener_messageObject (msg : Vsomeip.Message) {payload : Bytes}
    (h : payload.length ≤ kMaxPayloadBytes.toNat) (now : Int) :
    Worker.listener now .initial (messageObject msg payload) =
      .ok (.initial, [.someIpMessage (received msg payload)]) := by
  obtain ⟨obj, hPost, hListener⟩ := listener_postOf_unthrottled msg payload h now .initial rfl
  rw [postMessageToDart_postOf h] at hPost
  cases hPost
  exact hListener

namespace VsomeipClient

theorem openStream_isSome (client : VsomeipClient) {key key' : SomeIpKey}
    (h : key' = key ∨ (client.streams.lookup key').isSome) :
    ((client.openStream key).streams.lookup key').isSome := by
  unfold openStream
  cases hLookup : client.streams.lookup key with
  | some events =>
    rcases h with rfl | h
    · rw [hLookup]
      rfl
    · exact h
  | none =>
    dsimp only
    rw [FiniteMap.lookup_insert]
    split
    · rfl
    · rename_i hKey
      exact h.resolve_left hKey

theorem addToStream_isSome (client : VsomeipClient) (msg : SomeIpMessage) {key : SomeIpKey}
    (h : (client.streams.lookup key).isSome) :
    ((client.addToStream msg).streams.lookup key).isSome := by
  unfold addToStream
  split
  · exact h
  · rw [FiniteMap.lookup_insert]
    split
    · rfl
    · exact h

theorem onMainPortMessage_isSome (client : VsomeipClient) (msg : DartObject) {key : SomeIpKey}
    (h : (client.streams.lookup key).isSome) :
    ((client.onMainPortMessage msg).streams.lookup key).isSome := by
  cases msg with
  | someIpMessage msg =>
    rw [onMainPortMessage_streams]
    exact client.addToStream_isSome msg h
  | _ => exact h

end VsomeipClient

namespace System

variable {F : Type}

structure Quiet (sys : System F) : Prop where
  workerQueue : sys.workerQueue = []
  mainQueue : sys.mainQueue = []

def ofKey (key : SomeIpKey) (msgs : List SomeIpMessage) : List SomeIpMessage :=
  msgs.filter fun m => m.key = key

theorem ofKey_append (key : SomeIpKey) (left right : List SomeIpMessage) :
    ofKey key (left ++ right) = ofKey key left ++ ofKey key right :=
  List.filter_append left right

def decoded (posts : Posts) : List SomeIpMessage :=
  posts.filterMap fun post => decodePost post.2.2

theorem posts_payloads {workerPort : DartPort} {msg : Vsomeip.Message} {posts : Posts}
    (h : ∀ post ∈ posts, post.2.1 = workerPort ∧
      ∃ payload, payload.length ≤ kMaxPayloadBytes.toNat ∧ post.2.2 = Bridge.postOf msg payload) :
    ∃ payloads : List Bytes, payloads.length = posts.length ∧
      (∀ payload ∈ payloads, payload.length ≤ kMaxPayloadBytes.toNat) ∧
      workerObjects workerPort posts = payloads.map (messageObject msg) ∧
      decoded posts = payloads.map (received msg) := by
  induction posts with
  | nil => exact ⟨[], rfl, fun _ hMem => absurd hMem List.not_mem_nil, rfl, rfl⟩
  | cons post rest ih =>
    obtain ⟨key, port, sent⟩ := post
    obtain ⟨hPort, payload, hCap, hPost⟩ := h _ List.mem_cons_self
    obtain ⟨payloads, hLength, hCaps, hObjects, hDecoded⟩ :=
      ih fun other hMem => h other (List.mem_cons_of_mem _ hMem)
    dsimp only at hPort hPost
    refine ⟨payload :: payloads, congrArg Nat.succ hLength, ?_, ?_, ?_⟩
    · exact List.forall_mem_cons.mpr ⟨hCap, hCaps⟩
    · rw [List.map_cons, ← hObjects, workerObjects, Bridge.postsTo_cons, if_pos hPort, hPost,
        List.filterMap_cons, postMessageToDart_postOf hCap]
      rfl
    · rw [List.map_cons, ← hDecoded, decoded, List.filterMap_cons, hPost, decodePost_postOf]
      rfl

def seen (waiting : List (Vsomeip.Message × Bytes)) : List SomeIpMessage :=
  waiting.map fun x => received x.1 x.2

/-- Of the messages posted so far, those in the streams, then `sent`, then `waiting`. -/
structure Flow (sys : System F) (posted : List SomeIpMessage)
    (waiting : List (Vsomeip.Message × Bytes)) (sent : List SomeIpMessage) : Prop where
  workerQueue : sys.workerQueue = waiting.map fun x => messageObject x.1 x.2
  capped : ∀ x ∈ waiting, x.2.length ≤ kMaxPayloadBytes.toNat
  worker : sys.worker = .initial
  mainQueue : sys.mainQueue = sent.map .someIpMessage
  opened : ∀ m ∈ sent ++ seen waiting, (sys.client.streams.lookup m.key).isSome
  order : ∀ key, sys.client.stream key ++ ofKey key (sent ++ seen waiting) = ofKey key posted

namespace Flow

variable {sys : System F} {posted sent : List SomeIpMessage}
  {waiting : List (Vsomeip.Message × Bytes)}

theorem spawn (bridge : BridgeState F) (handle : Handle) (workerPort : DartPort) :
    Flow (spawn bridge handle workerPort) [] [] [] where
  workerQueue := rfl
  capped _ h := absurd h List.not_mem_nil
  worker := rfl
  mainQueue := rfl
  opened _ h := absurd h List.not_mem_nil
  order _ := rfl

theorem workerTurn (h : Flow sys posted waiting sent) (now : Int) :
    ∃ waiting' sent', Flow (sys.workerTurn now) posted waiting' sent' := by
  cases waiting with
  | nil =>
    have hSame : sys.workerTurn now = sys := by
      rw [System.workerTurn, h.workerQueue]
      rfl
    exact ⟨[], sent, by rwa [hSame]⟩
  | cons x rest =>
    have hListener := listener_messageObject x.1 (h.capped x List.mem_cons_self) now
    have hTurn : sys.workerTurn now = { sys with
        workerQueue := rest.map fun x => messageObject x.1 x.2
        mainQueue := sys.mainQueue ++ [.someIpMessage (received x.1 x.2)] } := by
      rw [System.workerTurn, h.workerQueue, List.map_cons]
      dsimp only
      rw [h.worker, if_pos (show WorkerState.initial.portOpen = true from rfl), hListener]
    have hMoved : (sent ++ [received x.1 x.2]) ++ seen rest = sent ++ seen (x :: rest) := by
      rw [List.append_assoc]
      rfl
    refine ⟨rest, sent ++ [received x.1 x.2], ?_⟩
    rw [hTurn]
    exact {
      workerQueue := rfl
      capped := fun y hMem => h.capped y (List.mem_cons_of_mem x hMem)
      worker := h.worker
      mainQueue := by
        rw [List.map_append, ← h.mainQueue]
        rfl
      opened := by
        rw [hMoved]
        exact h.opened
      order := by
        rw [hMoved]
        exact h.order }

theorem mainTurn (h : Flow sys posted waiting sent) :
    ∃ sent', Flow sys.mainTurn posted waiting sent' := by
  cases sent with
  | nil =>
    have hSame : sys.mainTurn = sys := by
      rw [System.mainTurn, h.mainQueue]
      rfl
    exact ⟨[], by rwa [hSame]⟩
  | cons m rest =>
    have hTurn : sys.mainTurn = { sys with
        mainQueue := rest.map .someIpMessage
        client := sys.client.onMainPortMessage (.someIpMessage m) } := by
      rw [System.mainTurn, h.mainQueue, List.map_cons]
    have hStreams := sys.client.onMainPortMessage_streams m
    have hOpen := h.opened m (List.mem_append_left _ List.mem_cons_self)
    refine ⟨rest, ?_⟩
    rw [hTurn]
    exact {
      workerQueue := h.workerQueue
      capped := h.capped
      worker := h.worker
      mainQueue := rfl
      opened := fun other hMem => by
        dsimp only
        rw [hStreams]
        exact sys.client.addToStream_isSome m (h.opened other (List.mem_cons_of_mem m hMem))
      order := fun key => by
        have hOrder := h.order key
        dsimp only
        rw [VsomeipClient.stream, hStreams, ← VsomeipClient.stream,
          VsomeipClient.addToStream_stream, ← hOrder, List.cons_append, ofKey, ofKey,
          List.filter_cons]
        by_cases hKey : m.key = key
        · rw [if_pos ⟨hKey.symm, hOpen⟩, if_pos (by simpa using hKey), List.append_assoc]
          rfl
        · rw [if_neg (fun hBoth => hKey hBoth.1.symm), if_neg (by simpa using hKey)] }

theorem post (h : Flow sys posted waiting sent) (bridge : BridgeState F) {msg : Vsomeip.Message}
    {payloads : List Bytes} (hCap : ∀ payload ∈ payloads, payload.length ≤ kMaxPayloadBytes.toNat)
    (hOpen : payloads ≠ [] →
      (sys.client.streams.lookup (HandlerKey.ofMessage msg).toSomeIpKey).isSome) :
    Flow { sys with bridge, workerQueue := sys.workerQueue ++ payloads.map (messageObject msg) }
      (posted ++ payloads.map (received msg)) (waiting ++ payloads.map fun payload => (msg, payload))
      sent := by
  have hSeen : seen (waiting ++ payloads.map fun payload => (msg, payload)) =
      seen waiting ++ payloads.map (received msg) := by
    rw [seen, List.map_append, List.map_map]
    rfl
  exact {
    workerQueue := by
      rw [List.map_append, ← h.workerQueue, List.map_map]
      rfl
    capped := fun x hMem => by
      rcases List.mem_append.mp hMem with hMem | hMem
      · exact h.capped x hMem
      · obtain ⟨payload, hPayload, rfl⟩ := List.mem_map.mp hMem
        exact hCap payload hPayload
    worker := h.worker
    mainQueue := h.mainQueue
    opened := fun m hMem => by
      rw [hSeen, ← List.append_assoc] at hMem
      rcases List.mem_append.mp hMem with hMem | hMem
      · exact h.opened m hMem
      · obtain ⟨payload, hPayload, rfl⟩ := List.mem_map.mp hMem
        exact hOpen (List.ne_nil_of_mem hPayload)
    order := fun key => by
      dsimp only
      rw [hSeen, ← List.append_assoc, ofKey_append key posted, ← h.order key,
        ofKey_append key (sent ++ seen waiting), List.append_assoc] }

theorem openStream (h : Flow sys posted waiting sent) (bridge : BridgeState F) (key : SomeIpKey) :
    Flow { sys with bridge, client := sys.client.openStream key } posted waiting sent where
  workerQueue := h.workerQueue
  capped := h.capped
  worker := h.worker
  mainQueue := h.mainQueue
  opened m hMem := sys.client.openStream_isSome (Or.inr (h.opened m hMem))
  order key' := by
    dsimp only
    rw [VsomeipClient.openStream_stream]
    exact h.order key'

theorem arrived (h : Flow sys posted waiting sent) (hQuiet : Quiet sys) (key : SomeIpKey) :
    sys.client.stream key = ofKey key posted := by
  have hWaiting : waiting = [] := List.map_eq_nil_iff.mp (h.workerQueue.symm.trans hQuiet.workerQueue)
  have hSent : sent = [] := List.map_eq_nil_iff.mp (h.mainQueue.symm.trans hQuiet.mainQueue)
  have hOrder := h.order key
  rw [hWaiting, hSent] at hOrder
  rw [← hOrder]
  exact (List.append_nil _).symm

end Flow

section Quiet

theorem workerTurn_length (sys : System F) (now : Int) {msg : DartObject} {rest : List DartObject}
    (h : sys.workerQueue = msg :: rest) : (sys.workerTurn now).workerQueue.length ≤ rest.length := by
  rw [workerTurn, h]
  dsimp only
  split
  · split
    · exact le_rfl
    · exact Nat.zero_le _
  · exact Nat.zero_le _

variable [FloatOps F]

theorem run_turn {sys sys₁ : System F} {action : Action} {posts : Posts}
    (hStep : sys.step action = some (sys₁, posts)) {rest : List Action} {sys' : System F}
    {outs : List Posts} (hRest : run sys₁ rest = some (sys', outs)) :
    run sys (action :: rest) = some (sys', posts :: outs) := by
  rw [run] at hRest
  rw [run, Mealy.run?_cons, hStep, Option.bind_some, hRest]
  rfl

theorem exists_main_quiet (sys : System F) (hWorker : sys.workerQueue = []) :
    ∃ turns sys' outs, (∀ t ∈ turns, Action.IsTurn t) ∧ run sys turns = some (sys', outs) ∧
      Quiet sys' := by
  generalize hQueue : sys.mainQueue = queue
  induction queue generalizing sys with
  | nil => exact ⟨[], sys, [], fun _ hMem => absurd hMem List.not_mem_nil, rfl, hWorker, hQueue⟩
  | cons msg rest ih =>
    have hTurn : sys.mainTurn = { sys with
        mainQueue := rest, client := sys.client.onMainPortMessage msg } := by
      rw [mainTurn, hQueue]
    obtain ⟨turns, sys', outs, hTurns, hRun, hQuiet⟩ :=
      ih sys.mainTurn (by rw [hTurn]; exact hWorker) (by rw [hTurn])
    exact ⟨.mainTurn :: turns, sys', [] :: outs, List.forall_mem_cons.mpr ⟨trivial, hTurns⟩,
      run_turn rfl hRun, hQuiet⟩

/-- From every state the two isolates can work their queues off. Induction over the length of the queue of
the worker. -/
theorem exists_quiet (sys : System F) :
    ∃ turns sys' outs, (∀ t ∈ turns, Action.IsTurn t) ∧ run sys turns = some (sys', outs) ∧
      Quiet sys' := by
  generalize hLength : sys.workerQueue.length = n
  induction n using Nat.strong_induction_on generalizing sys with
  | _ n ih =>
    cases hQueue : sys.workerQueue with
    | nil => exact exists_main_quiet sys hQueue
    | cons msg rest =>
      have hShort := workerTurn_length sys 0 hQueue
      have hLess : (sys.workerTurn 0).workerQueue.length < n := by
        rw [← hLength, hQueue, List.length_cons]
        omega
      obtain ⟨turns, sys', outs, hTurns, hRun, hQuiet⟩ := ih _ hLess (sys.workerTurn 0) rfl
      exact ⟨.workerTurn 0 :: turns, sys', [] :: outs, List.forall_mem_cons.mpr ⟨trivial, hTurns⟩,
        run_turn rfl hRun, hQuiet⟩

theorem exists_quiet_run (sys : System F) (actions : List Action) :
    ∃ turns sys' outs, (∀ t ∈ turns, Action.IsTurn t) ∧
      run sys (actions ++ turns) = some (sys', outs) ∧ Quiet sys' := by
  obtain ⟨⟨sys₁, outs₁⟩, hRun⟩ := Mealy.run?_total step_total sys actions
  obtain ⟨turns, sys', outs, hTurns, hRest, hQuiet⟩ := exists_quiet sys₁
  refine ⟨turns, sys', outs₁ ++ outs, hTurns, ?_, hQuiet⟩
  rw [run] at hRest
  rw [run, Mealy.run?_append, hRun, Option.bind_some, hRest]
  rfl

end Quiet

end System

end VsomeipDart
