import VsomeipDart.Client
import VsomeipDart.ExactSample

/-! # The futures of `request`

A run is any interleaving of `request` and registration calls with messages that reach the main port and
with posts that reach a result port. No future of any run is ever completed.
-/

namespace VsomeipDart
set_option autoImplicit false

namespace Requests

inductive Action where
  | request (serviceId instanceId methodId : Int) (payload : Option Bytes) (timeoutMs : Int)
      (resultPort : DartPort) (throws : Bool)
  | onMessage (serviceId instanceId methodId : Int) (workerPort : DartPort) (maxHz : Double)
  | subscribeEvent (serviceId instanceId eventgroupId eventId : Int) (workerPort : DartPort)
      (maxHz : Double)
  /-- a message reaches the main port; `answers` is the `request` call that it is the answer to -/
  | mainPort (answers : Option Nat) (msg : DartObject)
  /-- the oldest post of `vsomeip_send_request` reaches its port -/
  | resultPort
  deriving DecidableEq, Repr

section Run

variable {F : Type}

structure State (F : Type) where
  client : VsomeipClient
  bridge : BridgeState F
  posts : List (DartPort × CObject)

def step (st : State F) : Action → State F
  | .request serviceId instanceId methodId payload timeoutMs resultPort throws =>
    let out := st.client.request st.bridge serviceId instanceId methodId payload timeoutMs resultPort
      throws
    ⟨out.1, out.2.1, st.posts ++ out.2.2.2⟩
  | .onMessage serviceId instanceId methodId workerPort maxHz =>
    let out := st.client.onMessage st.bridge serviceId instanceId methodId workerPort maxHz
    ⟨out.1, out.2.1, st.posts⟩
  | .subscribeEvent serviceId instanceId eventgroupId eventId workerPort maxHz =>
    let out := st.client.subscribeEvent st.bridge serviceId instanceId eventgroupId eventId workerPort
      maxHz
    ⟨out.1, out.2.1, st.posts⟩
  | .mainPort _ msg => { st with client := st.client.onMainPortMessage msg }
  | .resultPort =>
    match st.posts with
    | [] => st
    | (port, obj) :: rest => ⟨st.client.onResultPortMessage port obj.deliver, st.bridge, rest⟩

def run (handle : Handle) (workerPort : Option DartPort) (bridge : BridgeState F)
    (actions : List Action) : State F :=
  actions.foldl step ⟨.create handle workerPort, bridge, []⟩

end Run

def Action.isRequest : Action → Bool
  | request .. => true
  | _ => false

/-- Which of the `request` calls fail; without an application nothing is sent or refused. -/
def failures (hasApp : Bool) (actions : List Action) : List Bool :=
  actions.filterMap fun
    | .request _ _ _ payload _ _ throws =>
      some (hasApp && (UInt32.ofNat (payload.getD []).length > kMaxPayloadBytes || throws))
    | _ => none

def Arrives (actions : List Action) (n : Nat) (type : SomeIpMessageType) (msg : SomeIpMessage) : Prop :=
  ∃ before after, actions = before ++ .mainPort (some n) (.someIpMessage msg) :: after ∧
    n < before.countP Action.isRequest ∧ msg.messageType = type

def HasOutcome (hasApp : Bool) (actions : List Action) (n : Nat) : Prop :=
  (∃ msg, Arrives actions n .response msg) ∨ (∃ msg, Arrives actions n .error msg) ∨
    (failures hasApp actions)[n]? = some true

/-- Once the posts of the bridge have arrived, each response has completed its own future, each error or
failed send has completed its future with an exception, and nothing else has happened to any future. -/
def Answered {F : Type} (hasApp : Bool) (actions : List Action) (st : State F) : Prop :=
  st.posts = [] →
    (∀ n msg, Arrives actions n .response msg →
      st.client.completers[n]? = some [.value msg]) ∧
    (∀ n msg, Arrives actions n .error msg →
      ∃ text, st.client.completers[n]? = some [Completion.error text]) ∧
    (∀ n : Nat, (failures hasApp actions)[n]? = some true →
      ∃ text, st.client.completers[n]? = some [Completion.error text]) ∧
    (∀ (n : Nat) completions, st.client.completers[n]? = some completions →
      ¬ HasOutcome hasApp actions n → completions = []) ∧
    ∀ completions ∈ st.client.completers, completions.length ≤ 1

/-- What every run keeps: no request id is ever recorded, nothing is ever posted, and so no completer is
ever given a completion. -/
structure Inert {F : Type} (st : State F) : Prop where
  pending : st.client.pendingRequests = ∅
  completers : ∀ completions ∈ st.client.completers, completions = []
  posts : st.posts = []

namespace Inert

variable {F : Type} {st : State F}

theorem onMainPortMessage (h : Inert st) (msg : DartObject) :
    (st.client.onMainPortMessage msg).pendingRequests = ∅ ∧
      (st.client.onMainPortMessage msg).completers = st.client.completers := by
  have hPending := h.pending
  cases msg with
  | someIpMessage msg =>
    have hStream : (st.client.addToStream msg).pendingRequests = ∅ ∧
        (st.client.addToStream msg).completers = st.client.completers := by
      unfold VsomeipClient.addToStream
      split
      · exact ⟨hPending, rfl⟩
      · exact ⟨hPending, rfl⟩
    have hComplete : (st.client.addToStream msg).completePending msg =
        st.client.addToStream msg := by
      rw [VsomeipClient.completePending, hStream.1]
      rfl
    rw [VsomeipClient.onMainPortMessage, hComplete, ite_self]
    exact hStream
  | availabilityEvent event => exact ⟨hPending, rfl⟩
  | stateEvent event => exact ⟨hPending, rfl⟩
  | _ => exact ⟨hPending, rfl⟩

theorem sendRequest_posts {s : BridgeState F} {handle : Handle}
    {serviceId instanceId methodId : UInt16} {payloadBuf : Bytes} {payloadLen : UInt32}
    (timeoutMs : UInt32) (resultPort : DartPort) {throws : Bool} :
    (Bridge.sendRequest s handle serviceId instanceId methodId payloadBuf payloadLen timeoutMs
      resultPort throws).2.2 = [] := by
  unfold Bridge.sendRequest
  split
  · rfl
  · split
    · rfl
    · split <;> rfl

theorem openStream (client : VsomeipClient) (key : SomeIpKey) :
    (client.openStream key).pendingRequests = client.pendingRequests ∧
      (client.openStream key).completers = client.completers := by
  unfold VsomeipClient.openStream
  split <;> exact ⟨rfl, rfl⟩

theorem step (h : Inert st) (action : Action) : Inert (step st action) := by
  cases action with
  | request serviceId instanceId methodId payload timeoutMs resultPort throws =>
    refine ⟨h.pending, ?_, ?_⟩
    · intro completions hMem
      rcases List.mem_append.mp hMem with hMem | hMem
      · exact h.completers completions hMem
      · exact List.mem_singleton.mp hMem
    · show st.posts ++ _ = []
      rw [h.posts, List.nil_append]
      exact sendRequest_posts (UInt32.ofInt timeoutMs) 0
  | onMessage serviceId instanceId methodId workerPort maxHz =>
    obtain ⟨hPending, hCompleters⟩ := openStream st.client ⟨serviceId, instanceId, methodId⟩
    exact ⟨hPending.trans h.pending, fun completions hMem => h.completers completions
      (hCompleters ▸ hMem), h.posts⟩
  | subscribeEvent serviceId instanceId eventgroupId eventId workerPort maxHz =>
    obtain ⟨hPending, hCompleters⟩ := openStream st.client ⟨serviceId, instanceId, eventId⟩
    exact ⟨hPending.trans h.pending, fun completions hMem => h.completers completions
      (hCompleters ▸ hMem), h.posts⟩
  | mainPort answers msg =>
    obtain ⟨hPending, hCompleters⟩ := h.onMainPortMessage msg
    exact ⟨hPending, fun completions hMem => h.completers completions (hCompleters ▸ hMem), h.posts⟩
  | resultPort =>
    have hSame : Requests.step st .resultPort = st := by
      rw [Requests.step, h.posts]
    rwa [hSame]

theorem run (handle : Handle) (workerPort : Option DartPort) (bridge : BridgeState F)
    (actions : List Action) : Inert (run handle workerPort bridge actions) := by
  have hFold : ∀ (list : List Action) (st : State F), Inert st →
      Inert (list.foldl Requests.step st) := by
    intro list
    induction list with
    | nil => exact fun st h => h
    | cons action rest ih => exact fun st h => ih (Requests.step st action) (h.step action)
  exact hFold actions _ ⟨rfl, fun completions hMem => absurd hMem List.not_mem_nil, rfl⟩

end Inert

/-- A run keeps the promise of `request` exactly when no call of it has an outcome. -/
theorem answered_iff {F : Type} (handle : Handle) (workerPort : Option DartPort)
    (bridge : BridgeState F) (actions : List Action) :
    let hasApp := (Bridge.getApp bridge handle).isSome
    Answered hasApp actions (run handle workerPort bridge actions) ↔ ∀ n, ¬ HasOutcome hasApp actions n := by
  intro hasApp
  have hInert := Inert.run handle workerPort bridge actions
  -- a completer that is there was given nothing
  have hNever : ∀ (n : Nat) completion,
      (run handle workerPort bridge actions).client.completers[n]? ≠ some [completion] := by
    intro n completion hSome
    have hNil := hInert.completers _ (List.mem_of_getElem? hSome)
    cases hNil
  constructor
  · intro hAnswered n hOutcome
    obtain ⟨hResponse, hError, hFailure, -, -⟩ := hAnswered hInert.posts
    rcases hOutcome with ⟨msg, hArrives⟩ | ⟨msg, hArrives⟩ | hFails
    · exact hNever n _ (hResponse n msg hArrives)
    · obtain ⟨text, hCompleted⟩ := hError n msg hArrives
      exact hNever n _ hCompleted
    · obtain ⟨text, hCompleted⟩ := hFailure n hFails
      exact hNever n _ hCompleted
  · intro hQuiet _
    refine ⟨fun n msg hArrives => ?_, fun n msg hArrives => ?_, fun n hFails => ?_,
      fun n completions hSome _ => hInert.completers completions (List.mem_of_getElem? hSome),
      fun completions hMem => ?_⟩
    · exact absurd (Or.inl ⟨msg, hArrives⟩) (hQuiet n)
    · exact absurd (Or.inr (Or.inl ⟨msg, hArrives⟩)) (hQuiet n)
    · exact absurd (Or.inr (Or.inr hFails)) (hQuiet n)
    · rw [hInert.completers completions hMem]
      exact Nat.zero_le 1

def lostResponse : List Action :=
  [.request 0x1111 1 0x0421 none 5000 9 false,
    .mainPort (some 0) (.someIpMessage ⟨0x1111, 1, 0x0421, .response, 0, 0x12770001, none⟩)]

theorem lostResponse_not_answered :
    ¬ Answered true lostResponse
      (run (F := ExactSample) 1 (some 7) (Bridge.appCreate Bridge.initial 1) lostResponse) := by
  intro hAnswered
  have hArrives : Arrives lostResponse 0 .response
      ⟨0x1111, 1, 0x0421, .response, 0, 0x12770001, none⟩ :=
    ⟨[.request 0x1111 1 0x0421 none 5000 9 false], [], rfl, by decide, rfl⟩
  have hCompleted := (hAnswered rfl).1 0 _ hArrives
  cases hCompleted

end Requests

end VsomeipDart
