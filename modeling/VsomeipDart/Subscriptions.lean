import VsomeipDart.ExactSample
import VsomeipDart.SystemRuns

/-! # Subscriptions as in the shipped example

The example passes port 0 for the worker port, for the worker to be selected automatically. The port
reaches the native side as it is, and no isolate owns it.
-/

namespace VsomeipDart
set_option autoImplicit false

namespace System

/-- The only calls are `subscribeEvent` with 16-bit ids, worker port 0 and no `maxHz`. -/
def Action.AsInExample : Action → Prop
  | subscribeEvent serviceId instanceId _ eventId workerPort maxHz =>
    workerPort = 0 ∧ maxHz = .finite 0 ∧
      ∃ k : HandlerKey, k.toSomeIpKey = ⟨serviceId, instanceId, eventId⟩
  | onMessage _ _ _ _ _ => False
  | _ => True

def notifications (msgs : List SomeIpMessage) : List SomeIpMessage :=
  msgs.filter fun msg => msg.messageType = .notification

section Run

variable {F : Type}

/-- Every notification dispatched for a subscribed event is in the stream of that event, once and in
dispatch order, and nothing else is. -/
def NotificationsArrive (actions : List Action) (sys : System F) (outs : List Posts) : Prop :=
  ∀ k, Registered actions k →
    notifications (sys.client.stream k.toSomeIpKey) = notifications (dispatched k outs)

/-- vsomeip delivers no notification of at most 1 MiB for an event that is subscribed at the time. -/
def NoNotification (actions : List Action) : Prop :=
  ∀ before msg after, actions = before ++ .deliver msg :: after →
    msg.messageType = Vsomeip.MT_NOTIFICATION → msg.payload.length ≤ kMaxPayloadBytes.toNat →
    ∀ k, Registered before k → k.Matches msg = false

structure Silent (sys : System F) : Prop where
  workerQueue : sys.workerQueue = []
  mainQueue : sys.mainQueue = []
  streams : ∀ key, sys.client.stream key = []

theorem port_eq_zero {actions : List Action} (hExample : ∀ action ∈ actions, action.AsInExample)
    {k : HandlerKey} {port : DartPort} (h : (k, port) ∈ registrations actions) : port = 0 := by
  refine registrations_port (fun action hMem k port hRegisters => ?_) h
  have hAction := hExample action hMem
  cases action with
  | subscribeEvent serviceId instanceId eventgroupId eventId workerPort maxHz =>
    cases hRegisters
    exact hAction.1
  | onMessage serviceId instanceId methodId workerPort maxHz => exact absurd hAction id
  | _ => cases hRegisters

variable [FloatOps F]

theorem Silent.step {sys sys' : System F} {handle : Handle} {workerPort : DartPort}
    {actions : List Action} {action : Action} {posts : Posts} (h : Silent sys)
    (hWired : Wired sys handle workerPort actions) (hPort : workerPort ≠ 0)
    (hExample : ∀ other ∈ actions ++ [action], other.AsInExample)
    (hStep : sys.step action = some (sys', posts)) : Silent sys' := by
  have hAction : action.AsInExample :=
    hExample action (List.mem_append_right _ (List.mem_singleton.mpr rfl))
  cases action with
  | subscribeEvent serviceId instanceId eventgroupId eventId port maxHz =>
    obtain ⟨rfl, rfl, -⟩ := hAction
    cases hStep
    refine ⟨?_, h.mainQueue, fun key => ?_⟩
    · show sys.workerQueue ++ [] = []
      rw [List.append_nil, h.workerQueue]
    · exact (VsomeipClient.openStream_stream _ _ key).trans (h.streams key)
  | onMessage serviceId instanceId methodId port maxHz => exact absurd hAction id
  | deliver msg =>
    obtain ⟨bridge, hDeliver, rfl⟩ := step_deliver hStep
    obtain ⟨app, hApp, hPorts, -⟩ := hWired.app
    rw [hWired.handle_eq] at hDeliver
    -- every handler has port 0, which is not the port of the worker
    have hNone : Bridge.postsTo sys.workerPort posts = [] := by
      refine Bridge.postsTo_eq_nil fun post hMem hEq => hPort ?_
      obtain ⟨hLookup, -⟩ := (Bridge.deliver_posts hApp hDeliver).1 post hMem
      have hZero := port_eq_zero (fun other hOther => hExample other (List.mem_append_left _ hOther))
        (hPorts _ _ hLookup)
      rw [← hWired.workerPort_eq, ← hEq, hZero]
    refine ⟨?_, h.mainQueue, h.streams⟩
    show sys.workerQueue ++ workerObjects sys.workerPort posts = []
    rw [h.workerQueue, workerObjects, hNone]
    rfl
  | workerTurn now =>
    have hSame : sys.workerTurn now = sys := by rw [System.workerTurn, h.workerQueue]
    cases hStep
    rwa [hSame]
  | mainTurn =>
    have hSame : sys.mainTurn = sys := by rw [System.mainTurn, h.mainQueue]
    cases hStep
    rwa [hSame]

theorem Silent.run {bridge : BridgeState F} {handle : Handle} {workerPort : DartPort}
    (hPort : workerPort ≠ 0) {actions : List Action}
    (hExample : ∀ action ∈ actions, action.AsInExample) {sys : System F} {outs : List Posts}
    (hRun : run (System.spawn bridge handle workerPort) actions = some (sys, outs)) : Silent sys := by
  have hBoth : Wired sys handle workerPort actions ∧
      ((∀ action ∈ actions, action.AsInExample) → Silent sys) :=
    Mealy.run?_induction (P := fun actions sys _ => Wired sys handle workerPort actions ∧
        ((∀ action ∈ actions, action.AsInExample) → Silent sys))
      ⟨Wired.spawn bridge handle workerPort, fun _ => ⟨rfl, rfl, fun _ => rfl⟩⟩
      (fun before _ _ action _ _ h hStep => ⟨h.1.step hStep, fun hAll =>
        (h.2 fun other hOther => hAll other (List.mem_append_left _ hOther)).step h.1 hPort hAll
          hStep⟩) hRun
  exact hBoth.2 hExample

theorem received_isNotification (msg : Vsomeip.Message) (payload : Bytes) :
    (received msg payload).messageType = .notification ↔
      msg.messageType = Vsomeip.MT_NOTIFICATION := by
  rw [received, SomeIpMessageType.fromByte_eq_iff _ _ (by decide)]
  constructor
  · intro h
    apply UInt8.toNat.inj
    exact Int.natCast_inj.mp h
  · intro h
    rw [h]
    rfl

section Arrive

variable {bridge : BridgeState F} {handle : Handle} {workerPort : DartPort} {actions : List Action}
  {sys : System F} {outs : List Posts}
  (hRun : run (System.spawn bridge handle workerPort) actions = some (sys, outs))
  (hSilent : Silent sys)

include hRun hSilent

theorem noNotification_of_arrive (hArrive : NotificationsArrive actions sys outs) :
    NoNotification actions := by
  intro before msg after hSplit hType hLength k hRegistered
  by_contra hMatches
  rw [Bool.not_eq_false] at hMatches
  obtain ⟨payload, hMem⟩ := dispatched_of_deliver hRun hSplit hRegistered hMatches hLength
  have hNone := hArrive k (hSplit ▸ hRegistered.append _)
  rw [hSilent.streams] at hNone
  have hIn : received msg payload ∈ notifications (dispatched k outs) :=
    List.mem_filter.mpr ⟨hMem, by simpa using (received_isNotification msg payload).mpr hType⟩
  rw [← hNone] at hIn
  cases hIn

theorem arrive_of_noNotification (hNo : NoNotification actions) :
    NotificationsArrive actions sys outs := by
  intro k _
  rw [hSilent.streams]
  symm
  refine List.filter_eq_nil_iff.mpr fun m hMem => ?_
  obtain ⟨before, msg, after, payload, hSplit, hRegistered, hMatches, hLength, rfl⟩ :=
    mem_dispatched hRun hMem
  intro hType
  have hNotification := (received_isNotification msg payload).mp (by simpa using hType)
  rw [hNo before msg after hSplit hNotification hLength k hRegistered] at hMatches
  cases hMatches

end Arrive

/-- A client that subscribes as in the example gets its notifications exactly when there are none. -/
theorem notifications_arrive_iff (bridge : BridgeState F) (handle : Handle) (workerPort : DartPort)
    (hPort : workerPort ≠ 0) (actions : List Action)
    (hExample : ∀ action ∈ actions, action.AsInExample) :
    ∃ sys outs, run (System.spawn bridge handle workerPort) actions = some (sys, outs) ∧
      (NotificationsArrive actions sys outs ↔ NoNotification actions) := by
  obtain ⟨⟨sys, outs⟩, hRun⟩ :=
    Mealy.run?_total step_total (System.spawn bridge handle workerPort) actions
  have hSilent := Silent.run hPort hExample hRun
  exact ⟨sys, outs, hRun, noNotification_of_arrive hRun hSilent,
    arrive_of_noNotification hRun hSilent⟩

end Run

section Example

def exampleRun : List Action :=
  [.subscribeEvent 0x1111 1 1 0x8001 0 (.finite 0),
    .deliver ⟨0x1111, 1, 0x8001, Vsomeip.MT_NOTIFICATION, Vsomeip.E_OK, 0x1277, 1,
      [0, 0, 0x80, 0x3f]⟩]

theorem exampleRun_asInExample : ∀ action ∈ exampleRun, action.AsInExample := by
  simp only [exampleRun, List.mem_cons, List.not_mem_nil, or_false, forall_eq_or_imp, forall_eq]
  exact ⟨⟨rfl, rfl, ⟨0x1111, 1, 0x8001⟩, rfl⟩, trivial⟩

theorem notifications_arrive_iff_exampleRun :
    ∃ sys outs, run (System.spawn (F := ExactSample) Bridge.initial 1 7) exampleRun =
      some (sys, outs) ∧ (NotificationsArrive exampleRun sys outs ↔ NoNotification exampleRun) :=
  notifications_arrive_iff Bridge.initial 1 7 (by decide) exampleRun exampleRun_asInExample

theorem exampleRun_lost :
    ∃ sys outs, run (System.spawn (F := ExactSample) Bridge.initial 1 7) exampleRun =
      some (sys, outs) ∧ ¬ NotificationsArrive exampleRun sys outs := by
  obtain ⟨⟨sys, outs⟩, hRun⟩ :=
    Mealy.run?_total step_total (System.spawn (F := ExactSample) Bridge.initial 1 7) exampleRun
  refine ⟨sys, outs, hRun, fun hArrive => ?_⟩
  have hSilent := Silent.run (by decide) exampleRun_asInExample hRun
  have hNo := noNotification_of_arrive hRun hSilent hArrive
    [.subscribeEvent 0x1111 1 1 0x8001 0 (.finite 0)] _ [] rfl rfl (by decide)
    ⟨0x1111, 1, 0x8001⟩ ⟨0, List.mem_singleton.mpr rfl⟩
  exact absurd hNo (by decide)

end Example

end System

end VsomeipDart
