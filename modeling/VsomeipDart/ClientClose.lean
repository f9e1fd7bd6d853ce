import VsomeipDart.Client
import VsomeipDart.Lib.FiniteMap

/-! # Closing a client (`VsomeipClient.close`)

`close` waits for one stream after the other, and user code runs meanwhile. A schedule lists the calls of the
user and the points at which a waiting `close` goes on, in any order. Methods that neither open a stream nor
close the client change nothing here and are left out.
-/

namespace VsomeipDart
set_option autoImplicit false

/-- Where a call of `close` waits, or how it has ended. -/
inductive ClosePoint where
  /-- for a stream, with the values that the iterator has yet to visit and the size of the map it iterates -/
  | looping (rest : List SomeIpKey) (size : Nat)
  | closingAvail
  | closingState
  | completed
  /-- with a `ConcurrentModificationError` -/
  | failed
  deriving DecidableEq, Repr

namespace ClosePoint

def IsLooping : ClosePoint → Prop
  | looping .. => True
  | _ => False

instance : DecidablePred IsLooping
  | looping .. => isTrue trivial
  | closingAvail | closingState | completed | failed => isFalse id

def Ended (p : ClosePoint) : Prop := p = completed ∨ p = failed

instance : DecidablePred Ended := fun p => inferInstanceAs (Decidable (p = completed ∨ p = failed))

end ClosePoint

inductive ClientCall where
  | subscribeEvent (serviceId instanceId eventgroupId eventId : Int) (workerPort : DartPort)
      (maxHz : Double)
  | onMessage (serviceId instanceId methodId : Int) (workerPort : DartPort) (maxHz : Double)
  /-- also `subscribeCapnpDecoded` -/
  | subscribeCapnp (serviceId instanceId eventgroupId eventId : Int) (workerPort : DartPort)
  | close

def ClientCall.key : ClientCall → Option SomeIpKey
  | subscribeEvent serviceId instanceId _ eventId _ _ => some ⟨serviceId, instanceId, eventId⟩
  | onMessage serviceId instanceId methodId _ _ => some ⟨serviceId, instanceId, methodId⟩
  | subscribeCapnp serviceId instanceId _ eventId _ => some ⟨serviceId, instanceId, eventId⟩
  | close => none

inductive CloseEvent where
  | call (call : ClientCall)
  /-- the future that the `i`-th `close` waits for has completed -/
  | resume (i : Nat)

structure Closing (F : Type) where
  client : VsomeipClient
  bridge : BridgeState F
  /-- the streams that are closed, by their keys -/
  closed : List SomeIpKey
  availClosed : Bool
  stateClosed : Bool
  /-- how many calls of `appDestroy` found the application -/
  destroys : Nat
  closings : List ClosePoint

namespace Closing

variable {F : Type}

def start (client : VsomeipClient) (bridge : BridgeState F) : Closing F :=
  ⟨client, bridge, [], false, false, 0, []⟩

def keys (s : Closing F) : List SomeIpKey := s.client.streams.keys

def moveOn (s : Closing F) : ClosePoint → Closing F × ClosePoint
  | .looping rest size =>
    -- `moveNext` of the iterator looks whether a key was added
    if s.keys.length ≠ size then (s, .failed)
    else
      match rest with
      | key :: rest => ({ s with closed := key :: s.closed }, .looping rest size)
      | [] => ({ s with availClosed := true }, .closingAvail)
  | .closingAvail => ({ s with stateClosed := true }, .closingState)
  | .closingState => (s, .completed)
  | .completed => (s, .completed)
  | .failed => (s, .failed)

def destroyApp (s : Closing F) : Closing F :=
  { s with
    bridge := Bridge.appDestroy s.bridge s.client.handle
    destroys := if (Bridge.getApp s.bridge s.client.handle).isSome then s.destroys + 1 else s.destroys }

/-- The loop up to its first `await`; the values come in the order in which their keys were added. -/
def iterate (s : Closing F) : Closing F :=
  let (s, point) := s.moveOn (.looping s.keys.reverse s.keys.length)
  { s with closings := s.closings ++ [point] }

def close (s : Closing F) : Closing F := s.destroyApp.iterate

def exec (s : Closing F) : ClientCall → Closing F
  | .subscribeEvent serviceId instanceId eventgroupId eventId workerPort maxHz =>
    let (client, bridge, _) := s.client.subscribeEvent s.bridge serviceId instanceId eventgroupId eventId
      workerPort maxHz
    { s with client, bridge }
  | .onMessage serviceId instanceId methodId workerPort maxHz =>
    let (client, bridge, _) := s.client.onMessage s.bridge serviceId instanceId methodId workerPort maxHz
    { s with client, bridge }
  | .subscribeCapnp serviceId instanceId eventgroupId eventId workerPort =>
    { s with
      client := s.client.openStream ⟨serviceId, instanceId, eventId⟩
      bridge := Bridge.subscribe s.bridge s.client.handle (UInt16.ofInt serviceId)
        (UInt16.ofInt instanceId) (UInt16.ofInt eventgroupId) (UInt16.ofInt eventId) workerPort }
  | .close => s.close

def step (s : Closing F) : CloseEvent → Closing F
  | .call call => s.exec call
  | .resume i =>
    match s.closings[i]? with
    | none => s
    | some point =>
      let (s, point) := s.moveOn point
      { s with closings := s.closings.set i point }

def run (s : Closing F) (events : List CloseEvent) : Closing F := events.foldl step s

def Finished (s : Closing F) : Prop := ∀ p ∈ s.closings, p.Ended

instance (s : Closing F) : Decidable s.Finished :=
  inferInstanceAs (Decidable (∀ p ∈ s.closings, p.Ended))

structure ClosedDown (s : Closing F) : Prop where
  succeeded : ∀ p ∈ s.closings, p ≠ .failed
  destroyed : s.destroys = 1
  streams : ∀ key ∈ s.keys, key ∈ s.closed
  avail : s.availClosed = true
  state : s.stateClosed = true

def Opens (s : Closing F) (call : ClientCall) : Prop :=
  ∃ key, call.key = some key ∧ key ∉ s.keys

def Gone (s : Closing F) : Prop := Bridge.getApp s.bridge s.client.handle = none

theorem keys_openStream (client : VsomeipClient) (key : SomeIpKey) :
    (client.openStream key).streams.keys =
      if key ∈ client.streams.keys then client.streams.keys else key :: client.streams.keys := by
  rw [VsomeipClient.openStream]
  cases hKey : client.streams.lookup key with
  | some events =>
    have hMem : key ∈ client.streams.keys := AList.mem_keys.mp (AList.lookup_isSome.mp (by rw [hKey]; rfl))
    rw [if_pos hMem]
  | none =>
    have hMem : key ∉ client.streams.keys := fun h =>
      AList.lookup_eq_none.mp hKey (AList.mem_keys.mpr h)
    rw [if_neg hMem]
    dsimp only
    rw [AList.keys_insert, List.erase_of_not_mem hMem]

theorem handle_openStream (client : VsomeipClient) (key : SomeIpKey) :
    (client.openStream key).handle = client.handle := by
  rw [VsomeipClient.openStream]
  split <;> rfl

/-- Without its application the client still opens the stream, and the bridge does nothing. -/
theorem exec_key {s : Closing F} (hGone : s.Gone) {call : ClientCall} {key : SomeIpKey}
    (hKey : call.key = some key) : s.exec call = { s with client := s.client.openStream key } := by
  have hRegister : ∀ handlerKey port,
      Bridge.registerMessageHandler s.bridge s.client.handle handlerKey port = s.bridge := by
    intro handlerKey port
    rw [Gone] at hGone
    rw [Bridge.registerMessageHandler, hGone]
  cases call with
  | close => cases hKey
  | subscribeEvent =>
    cases hKey
    simp only [exec, VsomeipClient.subscribeEvent, Bridge.subscribe, hRegister]
  | onMessage =>
    cases hKey
    simp only [exec, VsomeipClient.onMessage, hRegister]
  | subscribeCapnp =>
    cases hKey
    simp only [exec, Bridge.subscribe, hRegister]

theorem moveOn_modified {s : Closing F} {size : Nat} (h : s.keys.length ≠ size)
    (rest : List SomeIpKey) : s.moveOn (.looping rest size) = (s, .failed) := by
  unfold moveOn
  exact if_pos h

theorem moveOn_past {p : ClosePoint} (h : ¬ p.IsLooping) (s : Closing F) :
    (s.moveOn p).1.closed = s.closed ∧ ¬ (s.moveOn p).2.IsLooping := by
  cases p with
  | looping => exact absurd trivial h
  | _ => exact ⟨rfl, id⟩

theorem moveOn_cases (s : Closing F) (p : ClosePoint) :
    (∃ rest size, p = .looping rest size ∧ s.keys.length ≠ size ∧ s.moveOn p = (s, .failed)) ∨
    (∃ key rest, p = .looping (key :: rest) s.keys.length ∧
      s.moveOn p = ({ s with closed := key :: s.closed }, .looping rest s.keys.length)) ∨
    (p = .looping [] s.keys.length ∧ s.moveOn p = ({ s with availClosed := true }, .closingAvail)) ∨
    (p = .closingAvail ∧ s.moveOn p = ({ s with stateClosed := true }, .closingState)) ∨
    (p = .closingState ∧ s.moveOn p = (s, .completed)) ∨
    (p.Ended ∧ s.moveOn p = (s, p)) := by
  cases p with
  | looping rest size =>
    by_cases hSize : s.keys.length ≠ size
    · exact .inl ⟨rest, size, rfl, hSize, moveOn_modified hSize rest⟩
    · obtain rfl := not_not.mp hSize
      cases rest with
      | cons key rest => exact .inr (.inl ⟨key, rest, rfl, by unfold moveOn; exact if_neg hSize⟩)
      | nil => exact .inr (.inr (.inl ⟨rfl, by unfold moveOn; exact if_neg hSize⟩))
  | closingAvail => exact .inr (.inr (.inr (.inl ⟨rfl, rfl⟩)))
  | closingState => exact .inr (.inr (.inr (.inr (.inl ⟨rfl, rfl⟩))))
  | completed => exact .inr (.inr (.inr (.inr (.inr ⟨.inl rfl, rfl⟩))))
  | failed => exact .inr (.inr (.inr (.inr (.inr ⟨.inr rfl, rfl⟩))))

/-- Going on touches neither the map nor the application, and closes more and more. -/
theorem moveOn_frame (s : Closing F) (p : ClosePoint) :
    (s.moveOn p).1.client = s.client ∧ (s.moveOn p).1.bridge = s.bridge ∧
      (s.moveOn p).1.destroys = s.destroys ∧ (s.moveOn p).1.closings = s.closings := by
  rcases s.moveOn_cases p with ⟨_, _, -, -, hMove⟩ | ⟨_, _, -, hMove⟩ | ⟨-, hMove⟩ | ⟨-, hMove⟩ |
    ⟨-, hMove⟩ | ⟨-, hMove⟩ <;> rw [hMove] <;> exact ⟨rfl, rfl, rfl, rfl⟩

theorem closed_moveOn (s : Closing F) (p : ClosePoint) : s.closed ⊆ (s.moveOn p).1.closed := by
  rcases s.moveOn_cases p with ⟨_, _, -, -, hMove⟩ | ⟨key, _, -, hMove⟩ | ⟨-, hMove⟩ | ⟨-, hMove⟩ |
    ⟨-, hMove⟩ | ⟨-, hMove⟩ <;> rw [hMove]
  · exact List.Subset.refl _
  · exact List.subset_cons_self key s.closed
  all_goals exact List.Subset.refl _

theorem step_resume {s : Closing F} {i : Nat} {p : ClosePoint} (h : s.closings[i]? = some p) :
    s.step (.resume i) =
      { (s.moveOn p).1 with closings := s.closings.set i (s.moveOn p).2 } := by
  rw [step, h]
  dsimp only
  rw [(s.moveOn_frame p).2.2.2]

def At (s : Closing F) : ClosePoint → Prop
  | .looping rest size => size ≤ s.keys.length ∧
    (size = s.keys.length → ∀ key ∈ s.keys, key ∈ rest ∨ key ∈ s.closed) ∧ ∀ key ∈ rest, key ∈ s.keys
  | .closingAvail => s.availClosed = true
  | .closingState => s.availClosed = true ∧ s.stateClosed = true
  | .completed => s.availClosed = true ∧ s.stateClosed = true
  | .failed => True

/-- What holds from the first call of `close` on, whatever is called meanwhile. -/
structure Sound (s : Closing F) : Prop where
  gone : s.Gone
  destroyed : s.destroys = 1
  known : ∀ key ∈ s.closed, key ∈ s.keys
  each : ∀ p ∈ s.closings, s.At p

theorem At.mono {s s' : Closing F} {p : ClosePoint} (h : s.At p) (hKeys : s'.keys = s.keys)
    (hClosed : s.closed ⊆ s'.closed) (hAvail : s.availClosed = true → s'.availClosed = true)
    (hState : s.stateClosed = true → s'.stateClosed = true) : s'.At p := by
  cases p with
  | looping rest size =>
    obtain ⟨hSize, hLeft, hRest⟩ := h
    rw [At, hKeys]
    exact ⟨hSize, fun hSame key hKey => (hLeft hSame key hKey).imp_right fun h => hClosed h, hRest⟩
  | closingAvail => exact hAvail h
  | closingState => exact ⟨hAvail h.1, hState h.2⟩
  | completed => exact ⟨hAvail h.1, hState h.2⟩
  | failed => trivial

/-- Going on from a point leads to what holds at the next, and breaks nothing for the other points. -/
theorem at_moveOn {s : Closing F} (hKnown : ∀ key ∈ s.closed, key ∈ s.keys) {p : ClosePoint}
    (h : s.At p) : (s.moveOn p).1.At (s.moveOn p).2 ∧
      (∀ key ∈ (s.moveOn p).1.closed, key ∈ s.keys) ∧ ∀ q, s.At q → (s.moveOn p).1.At q := by
  rcases s.moveOn_cases p with ⟨rest, size, rfl, -, hMove⟩ | ⟨key, rest, rfl, hMove⟩ | ⟨rfl, hMove⟩ |
    ⟨rfl, hMove⟩ | ⟨rfl, hMove⟩ | ⟨-, hMove⟩ <;> rw [hMove]
  · exact ⟨trivial, hKnown, fun q => id⟩
  · obtain ⟨hSize, hLeft, hRest⟩ := h
    refine ⟨⟨hSize, fun hSame key' hKey => ?_, fun key' hMem => hRest key' (List.mem_cons_of_mem key hMem)⟩,
      fun key' hMem => ?_, fun q hq => hq.mono rfl (List.subset_cons_self key s.closed) id id⟩
    · rcases hLeft hSame key' hKey with hHere | hClosed
      · rcases List.mem_cons.mp hHere with rfl | hLater
        · exact .inr List.mem_cons_self
        · exact .inl hLater
      · exact .inr (List.mem_cons_of_mem key hClosed)
    · rcases List.mem_cons.mp hMem with rfl | hOld
      · exact hRest _ List.mem_cons_self
      · exact hKnown key' hOld
  · exact ⟨rfl, hKnown, fun q hq => hq.mono rfl (List.Subset.refl _) (fun _ => rfl) id⟩
  · exact ⟨⟨h, rfl⟩, hKnown, fun q hq => hq.mono rfl (List.Subset.refl _) id fun _ => rfl⟩
  · exact ⟨h, hKnown, fun q => id⟩
  · exact ⟨h, hKnown, fun q => id⟩

theorem at_start (s : Closing F) : s.At (.looping s.keys.reverse s.keys.length) := by
  refine ⟨Nat.le_refl _, fun _ key hKey => .inl ?_, fun key hKey => ?_⟩
  · exact List.mem_reverse.mpr hKey
  · exact List.mem_reverse.mp hKey

theorem iterate_eq (s : Closing F) : s.iterate =
    { (s.moveOn (.looping s.keys.reverse s.keys.length)).1 with
      closings := s.closings ++ [(s.moveOn (.looping s.keys.reverse s.keys.length)).2] } := by
  rw [iterate]
  dsimp only
  rw [(s.moveOn_frame _).2.2.2]

theorem destroyApp_gone {s : Closing F} (hGone : s.Gone) : s.destroyApp = s := by
  rw [Gone] at hGone
  rw [destroyApp, Bridge.appDestroy, hGone]
  rfl

/-- The first call of `close` takes the application out of `g_apps`. -/
theorem sound_destroyApp {client : VsomeipClient} {bridge : BridgeState F} {app : Vsomeip.Application}
    (hApp : Bridge.getApp bridge client.handle = some app) :
    (start client bridge).destroyApp.Sound := by
  refine ⟨?_, ?_, nofun, nofun⟩
  · rw [Gone, destroyApp, start]
    dsimp only
    rw [Bridge.appDestroy, hApp]
    exact (FiniteMap.lookup_erase _ _ _).trans (if_pos rfl)
  · rw [destroyApp, start]
    dsimp only
    rw [hApp]
    rfl

section Sound

variable {s : Closing F} (h : s.Sound)

include h

theorem Sound.moveOn {p : ClosePoint} (hAt : s.At p) {closings : List ClosePoint}
    (hClosings : ∀ q ∈ closings, q ∈ s.closings ∨ q = (s.moveOn p).2) :
    Sound { (s.moveOn p).1 with closings := closings } := by
  obtain ⟨hClient, hBridge, hDestroys, -⟩ := s.moveOn_frame p
  obtain ⟨hNext, hKnown, hOthers⟩ := at_moveOn h.known hAt
  refine ⟨?_, hDestroys.trans h.destroyed, ?_, fun q hMem => ?_⟩
  · have hGone := h.gone
    rw [Gone] at hGone ⊢
    rw [hClient, hBridge]
    exact hGone
  · intro key hMem
    show key ∈ (s.moveOn p).1.client.streams.keys
    rw [hClient]
    exact hKnown key hMem
  · have hAtNow : (s.moveOn p).1.At q := by
      rcases hClosings q hMem with hOld | rfl
      · exact hOthers q (h.each q hOld)
      · exact hNext
    exact hAtNow.mono rfl (List.Subset.refl _) id id

theorem Sound.iterate : s.iterate.Sound := by
  rw [iterate_eq]
  refine h.moveOn s.at_start fun q hMem => ?_
  exact (List.mem_append.mp hMem).imp_right List.mem_singleton.mp

theorem Sound.openStream (key : SomeIpKey) :
    Sound { s with client := s.client.openStream key } := by
  have hKeys := keys_openStream s.client key
  refine ⟨?_, h.destroyed, fun key' hMem => ?_, fun p hMem => ?_⟩
  · rw [Gone, handle_openStream]
    exact h.gone
  · show key' ∈ (s.client.openStream key).streams.keys
    rw [hKeys]
    split
    · exact h.known key' hMem
    · exact List.mem_cons_of_mem key (h.known key' hMem)
  · by_cases hOld : key ∈ s.client.streams.keys
    · rw [if_pos hOld] at hKeys
      exact (h.each p hMem).mono hKeys (List.Subset.refl _) id id
    · rw [if_neg hOld] at hKeys
      have hAt := h.each p hMem
      cases p with
      | looping rest size =>
        obtain ⟨hSize, -, hRest⟩ := hAt
        rw [At, keys, hKeys]
        have hLt : size < (key :: s.client.streams.keys).length := Nat.lt_succ_of_le hSize
        exact ⟨hLt.le, fun hSame => absurd hSame hLt.ne,
          fun key' hKey => List.mem_cons_of_mem key (hRest key' hKey)⟩
      | _ => exact hAt

theorem Sound.step (event : CloseEvent) : (s.step event).Sound := by
  cases event with
  | resume i =>
    cases hPoint : s.closings[i]? with
    | none =>
      rw [Closing.step, hPoint]
      exact h
    | some p =>
      rw [step_resume hPoint]
      exact h.moveOn (h.each p (List.mem_of_getElem? hPoint)) fun q hMem =>
        List.mem_or_eq_of_mem_set hMem
  | call call =>
    rw [Closing.step]
    cases hKey : call.key with
    | some key =>
      rw [exec_key h.gone hKey]
      exact h.openStream key
    | none =>
      cases call with
      | close =>
        rw [exec, close, destroyApp_gone h.gone]
        exact h.iterate
      | _ => cases hKey

end Sound

theorem Sound.step_cases {s : Closing F} (h : s.Sound) (event : CloseEvent) :
    (∃ call key, event = .call call ∧ call.key = some key ∧
      s.step event = { s with client := s.client.openStream key }) ∨
    (event = .call .close ∧ s.step event = s.iterate) ∨
    (∃ i p, event = .resume i ∧ s.closings[i]? = some p ∧
      s.step event = { (s.moveOn p).1 with closings := s.closings.set i (s.moveOn p).2 }) ∨
    (∃ i, event = .resume i ∧ s.step event = s) := by
  cases event with
  | resume i =>
    cases hPoint : s.closings[i]? with
    | none => exact .inr (.inr (.inr ⟨i, rfl, by rw [Closing.step, hPoint]⟩))
    | some p => exact .inr (.inr (.inl ⟨i, p, rfl, hPoint, step_resume hPoint⟩))
  | call call =>
    cases hKey : call.key with
    | some key => exact .inl ⟨call, key, rfl, hKey, exec_key h.gone hKey⟩
    | none =>
      cases call with
      | close =>
        refine .inr (.inl ⟨rfl, ?_⟩)
        rw [Closing.step, exec, close, destroyApp_gone h.gone]
      | _ => cases hKey

theorem keys_moveOn (s : Closing F) (p : ClosePoint) (closings : List ClosePoint) :
    keys { (s.moveOn p).1 with closings := closings } = s.keys := by
  rw [keys, keys, (s.moveOn_frame p).1]

theorem length_keys_openStream (s : Closing F) (key : SomeIpKey) :
    s.keys.length ≤ (keys { s with client := s.client.openStream key }).length := by
  have hKeys := keys_openStream s.client key
  rw [keys, keys, hKeys]
  split
  · exact Nat.le_refl _
  · exact Nat.le_succ _

/-- The `i`-th `close` has failed, or will when it goes on. -/
def Doomed (i : Nat) (s : Closing F) : Prop :=
  ∃ p, s.closings[i]? = some p ∧
    (p = .failed ∨ ∃ rest size, p = .looping rest size ∧ size < s.keys.length)

theorem doomed_step {i : Nat} {s : Closing F} (h : s.Sound) (hDoomed : s.Doomed i)
    (event : CloseEvent) : (s.step event).Doomed i := by
  obtain ⟨p, hPoint, hFails⟩ := hDoomed
  have hLt := (List.getElem?_eq_some_iff.mp hPoint).1
  rcases h.step_cases event with ⟨call, key, -, -, hStep⟩ | ⟨-, hStep⟩ | ⟨j, q, -, hOther, hStep⟩ |
    ⟨j, -, hStep⟩
  · rw [hStep]
    refine ⟨p, hPoint, hFails.imp_right ?_⟩
    rintro ⟨rest, size, rfl, hSize⟩
    exact ⟨rest, size, rfl, hSize.trans_le (s.length_keys_openStream key)⟩
  · rw [hStep, iterate_eq]
    refine ⟨p, (List.getElem?_append_left hLt).trans hPoint, ?_⟩
    rw [keys_moveOn]
    exact hFails
  · rw [hStep]
    rcases eq_or_ne j i with rfl | hNe
    · rw [hPoint] at hOther
      cases hOther
      refine ⟨(s.moveOn p).2, List.getElem?_set_self hLt, .inl ?_⟩
      rcases hFails with rfl | ⟨rest, size, rfl, hSize⟩
      · rfl
      · rw [moveOn_modified hSize.ne' rest]
    · refine ⟨p, (List.getElem?_set_ne hNe).trans hPoint, ?_⟩
      rw [keys_moveOn]
      exact hFails
  · rw [hStep]
    exact ⟨p, hPoint, hFails⟩

/-- The stream is open, and no `close` is in its loop. -/
structure Left (key : SomeIpKey) (s : Closing F) : Prop where
  mem : key ∈ s.keys
  opened : key ∉ s.closed
  quiet : ∀ p ∈ s.closings, ¬ p.IsLooping

theorem left_step {key : SomeIpKey} {s : Closing F} (h : s.Sound) (hLeft : s.Left key)
    {event : CloseEvent} (hEvent : event ≠ .call .close) : (s.step event).Left key := by
  obtain ⟨hMem, hOpen, hQuiet⟩ := hLeft
  rcases h.step_cases event with ⟨call, key', -, -, hStep⟩ | ⟨hClose, -⟩ | ⟨j, q, -, hPoint, hStep⟩ |
    ⟨j, -, hStep⟩
  · rw [hStep]
    refine ⟨?_, hOpen, hQuiet⟩
    have hKeys := keys_openStream s.client key'
    rw [keys, hKeys]
    split
    · exact hMem
    · exact List.mem_cons_of_mem key' hMem
  · exact absurd hClose hEvent
  · have hPast := hQuiet q (List.mem_of_getElem? hPoint)
    rw [hStep]
    obtain ⟨hClosed, hNext⟩ := moveOn_past hPast s
    refine ⟨by rwa [keys_moveOn], ?_, fun p hThere => ?_⟩
    · show key ∉ (s.moveOn q).1.closed
      rw [hClosed]
      exact hOpen
    · rcases List.mem_or_eq_of_mem_set hThere with hOld | rfl
      · exact hQuiet p hOld
      · exact hNext
  · rw [hStep]
    exact ⟨hMem, hOpen, hQuiet⟩

/-- The point is not that of a `close` that has failed, or will because of a stream that was added. -/
def Intact (s : Closing F) (p : ClosePoint) : Prop :=
  p ≠ .failed ∧ ∀ rest size, p = .looping rest size → size = s.keys.length

/-- An intact `close` stays so, and has closed every stream when it leaves its loop. -/
theorem intact_moveOn {s : Closing F} {p : ClosePoint} (hAt : s.At p) (h : s.Intact p) :
    s.Intact (s.moveOn p).2 ∧
      (p.IsLooping → (s.moveOn p).2.IsLooping ∨ ∀ key ∈ s.keys, key ∈ s.closed) := by
  obtain ⟨hFailed, hSize⟩ := h
  rcases s.moveOn_cases p with ⟨rest, size, rfl, hModified, -⟩ | ⟨key, rest, rfl, hMove⟩ |
    ⟨rfl, hMove⟩ | ⟨rfl, hMove⟩ | ⟨rfl, hMove⟩ | ⟨hEnded, hMove⟩
  · exact absurd (hSize rest size rfl).symm hModified
  · rw [hMove]
    refine ⟨⟨nofun, ?_⟩, fun _ => .inl trivial⟩
    rintro rest' size ⟨⟩
    rfl
  · rw [hMove]
    refine ⟨⟨nofun, nofun⟩, fun _ => .inr fun key hKey => ?_⟩
    exact (hAt.2.1 rfl key hKey).resolve_left (List.not_mem_nil)
  · rw [hMove]
    exact ⟨⟨nofun, nofun⟩, False.elim⟩
  · rw [hMove]
    exact ⟨⟨nofun, nofun⟩, False.elim⟩
  · rw [hMove]
    exact ⟨⟨hFailed, hSize⟩, .inl⟩

/-- Every stream is closed, or will be by a `close` that is in its loop or by one that is yet to come. -/
structure OnCourse (s : Closing F) (ahead : List CloseEvent) : Prop where
  intact : ∀ p ∈ s.closings, s.Intact p
  covered : (∃ (i : Nat) (p : ClosePoint), s.closings[i]? = some p ∧ p.IsLooping) ∨
    (∀ key ∈ s.keys, key ∈ s.closed) ∨ .call .close ∈ ahead

/-- A call that opens a stream under a new key is made while no `close` is in its loop, and a `close`
follows. -/
def InTime (s : Closing F) (event : CloseEvent) (ahead : List CloseEvent) : Prop :=
  ∀ call, event = .call call → s.Opens call →
    (∀ p ∈ s.closings, ¬ p.IsLooping) ∧ .call .close ∈ ahead

theorem onCourse_openStream {s : Closing F} {call : ClientCall} {key : SomeIpKey}
    (hKey : call.key = some key) {ahead : List CloseEvent}
    (hCourse : s.OnCourse (.call call :: ahead)) (hInTime : s.InTime (.call call) ahead) :
    OnCourse { s with client := s.client.openStream key } ahead := by
  have hKeys := keys_openStream s.client key
  by_cases hOld : key ∈ s.client.streams.keys
  · rw [if_pos hOld] at hKeys
    have hSame : keys { s with client := s.client.openStream key } = s.keys := hKeys
    refine ⟨fun p hMem => ?_, ?_⟩
    · rw [Intact, hSame]
      exact hCourse.intact p hMem
    rw [hSame]
    refine hCourse.covered.imp_right fun h => h.imp_right fun hMem => ?_
    rcases List.mem_cons.mp hMem with hEq | hLater
    · cases hEq
      cases hKey
    · exact hLater
  · obtain ⟨hQuiet, hClose⟩ := hInTime call rfl ⟨key, hKey, hOld⟩
    refine ⟨fun p hMem => ⟨(hCourse.intact p hMem).1, ?_⟩, .inr (.inr hClose)⟩
    rintro rest size rfl
    exact absurd trivial (hQuiet _ hMem)

/-- What going on from a point does to the course, wherever the new point is put. -/
theorem onCourse_moveOn {s : Closing F} {p : ClosePoint} (hAt : s.At p)
    (hIntact : s.Intact p) {closings : List ClosePoint} {i : Nat}
    (hHere : closings[i]? = some (s.moveOn p).2)
    (hOld : ∀ q ∈ closings, q ∈ s.closings ∨ q = (s.moveOn p).2)
    {ahead : List CloseEvent} (hOthers : ∀ q ∈ s.closings, s.Intact q)
    (hCovered : p.IsLooping ∨ (∃ (j : Nat) (q : ClosePoint), closings[j]? = some q ∧ q.IsLooping) ∨
      (∀ key ∈ s.keys, key ∈ s.closed) ∨ .call .close ∈ ahead) :
    OnCourse { (s.moveOn p).1 with closings := closings } ahead := by
  obtain ⟨hNext, hLeaves⟩ := intact_moveOn hAt hIntact
  have hKeys := s.keys_moveOn p closings
  refine ⟨fun q hMem => ?_, ?_⟩
  · rw [Intact, hKeys]
    rcases hOld q hMem with hThere | rfl
    · exact hOthers q hThere
    · exact hNext
  · rw [hKeys]
    rcases hCovered with hLooping | hOther | hAll | hClose
    · rcases hLeaves hLooping with hStill | hAll
      · exact .inl ⟨i, _, hHere, hStill⟩
      · exact .inr (.inl fun key hKey => s.closed_moveOn p (hAll key hKey))
    · exact .inl hOther
    · exact .inr (.inl fun key hKey => s.closed_moveOn p (hAll key hKey))
    · exact .inr (.inr hClose)

theorem onCourse_iterate {s : Closing F} (hIntact : ∀ p ∈ s.closings, s.Intact p)
    (ahead : List CloseEvent) : s.iterate.OnCourse ahead := by
  have hFresh : s.Intact (.looping s.keys.reverse s.keys.length) := by
    refine ⟨nofun, ?_⟩
    rintro rest size ⟨⟩
    rfl
  rw [iterate_eq]
  refine onCourse_moveOn s.at_start hFresh (List.getElem?_concat_length ..) (fun q hMem => ?_) hIntact
    (.inl trivial)
  exact (List.mem_append.mp hMem).imp_right List.mem_singleton.mp

theorem onCourse_step {s : Closing F} (h : s.Sound) {event : CloseEvent} {ahead : List CloseEvent}
    (hCourse : s.OnCourse (event :: ahead)) (hInTime : s.InTime event ahead) :
    (s.step event).OnCourse ahead := by
  rcases h.step_cases event with ⟨call, key, rfl, hKey, hStep⟩ | ⟨rfl, hStep⟩ |
    ⟨i, p, rfl, hPoint, hStep⟩ | ⟨i, rfl, hStep⟩
  · rw [hStep]
    exact onCourse_openStream hKey hCourse hInTime
  · rw [hStep]
    exact onCourse_iterate hCourse.intact ahead
  · have hMem := List.mem_of_getElem? hPoint
    rw [hStep]
    refine onCourse_moveOn (h.each p hMem) (hCourse.intact p hMem)
      (List.getElem?_set_self (List.getElem?_eq_some_iff.mp hPoint).1)
      (fun q hThere => List.mem_or_eq_of_mem_set hThere) hCourse.intact ?_
    rcases hCourse.covered with ⟨j, q, hThere, hLooping⟩ | hAll | hClose
    · rcases eq_or_ne i j with rfl | hNe
      · rw [hPoint] at hThere
        cases hThere
        exact .inl hLooping
      · exact .inr (.inl ⟨j, q, (List.getElem?_set_ne hNe).trans hThere, hLooping⟩)
    · exact .inr (.inr (.inl hAll))
    · exact .inr (.inr (.inr ((List.mem_cons.mp hClose).resolve_left nofun)))
  · rw [hStep]
    refine ⟨hCourse.intact, hCourse.covered.imp_right fun h => h.imp_right fun hClose => ?_⟩
    exact (List.mem_cons.mp hClose).resolve_left nofun

section Runs

variable {s : Closing F} (h : s.Sound)

include h

theorem sound_run (events : List CloseEvent) : (s.run events).Sound := by
  induction events generalizing s with
  | nil => exact h
  | cons event rest ih => exact ih (h.step event)

theorem doomed_run {i : Nat} (hDoomed : s.Doomed i) (events : List CloseEvent) :
    (s.run events).Doomed i := by
  induction events generalizing s with
  | nil => exact hDoomed
  | cons event rest ih => exact ih (h.step event) (doomed_step h hDoomed event)

theorem left_run {key : SomeIpKey} (hLeft : s.Left key) {events : List CloseEvent}
    (hEvents : .call .close ∉ events) : (s.run events).Left key := by
  induction events generalizing s with
  | nil => exact hLeft
  | cons event rest ih =>
    rw [List.mem_cons, not_or] at hEvents
    exact ih (h.step event) (left_step h hLeft (Ne.symm hEvents.1)) hEvents.2

theorem onCourse_run {events : List CloseEvent} (hCourse : s.OnCourse events)
    (hInTime : ∀ before event after, events = before ++ event :: after →
      (s.run before).InTime event after) : (s.run events).OnCourse [] := by
  induction events generalizing s with
  | nil => exact hCourse
  | cons event rest ih =>
    refine ih (h.step event) (onCourse_step h hCourse (hInTime [] event rest rfl)) ?_
    rintro before other after rfl
    exact hInTime (event :: before) other after rfl

end Runs

theorem closings_ne_nil_step {s : Closing F} (hSound : s.Sound) (h : s.closings ≠ [])
    (event : CloseEvent) : (s.step event).closings ≠ [] := by
  rcases hSound.step_cases event with ⟨_, _, -, -, hStep⟩ | ⟨-, hStep⟩ | ⟨_, _, -, -, hStep⟩ | ⟨_, -, hStep⟩
  · rw [hStep]
    exact h
  · rw [hStep, iterate_eq]
    exact List.append_ne_nil_of_right_ne_nil _ (List.cons_ne_nil _ _)
  · rw [hStep]
    exact fun hNil => h ((List.set_eq_nil_iff _ _).mp hNil)
  · rw [hStep]
    exact h

theorem closings_ne_nil_run {s : Closing F} (hSound : s.Sound) (h : s.closings ≠ [])
    (events : List CloseEvent) : (s.run events).closings ≠ [] := by
  induction events generalizing s with
  | nil => exact h
  | cons event rest ih => exact ih (hSound.step event) (closings_ne_nil_step hSound h event)

theorem run_append (s : Closing F) (before : List CloseEvent) (event : CloseEvent)
    (after : List CloseEvent) :
    s.run (before ++ event :: after) = ((s.run before).step event).run after := by
  rw [run, List.foldl_append]
  rfl

/-- A stream under a new key makes every `close` fail that is in its loop. -/
theorem doomed_openStream {s : Closing F} (h : s.Sound) {key : SomeIpKey} (hNew : key ∉ s.keys)
    {i : Nat} {p : ClosePoint} (hPoint : s.closings[i]? = some p) (hLooping : p.IsLooping) :
    Doomed i { s with client := s.client.openStream key } := by
  have hAt := h.each p (List.mem_of_getElem? hPoint)
  cases p with
  | looping rest size =>
    refine ⟨_, hPoint, .inr ⟨rest, size, rfl, ?_⟩⟩
    rw [keys] at hNew
    rw [keys, keys_openStream, if_neg hNew]
    exact Nat.lt_succ_of_le hAt.1
  | _ => exact hLooping.elim

theorem left_openStream {s : Closing F} (h : s.Sound) {key : SomeIpKey} (hNew : key ∉ s.keys)
    (hQuiet : ∀ p ∈ s.closings, ¬ p.IsLooping) :
    Left key { s with client := s.client.openStream key } := by
  refine ⟨?_, fun hClosed => hNew (h.known key hClosed), hQuiet⟩
  rw [keys] at hNew
  rw [keys, keys_openStream, if_neg hNew]
  exact List.mem_cons_self

/-- In a run that ends closed down, every stream under a new key was opened in time. -/
theorem inTime_of_closedDown {s : Closing F} (h : s.Sound) {call : ClientCall} {after : List CloseEvent}
    (hFinished : ((s.step (.call call)).run after).Finished)
    (hDown : ((s.step (.call call)).run after).ClosedDown) : s.InTime (.call call) after := by
  rintro _ ⟨⟩ ⟨key, hKey, hNew⟩
  have hStep : s.step (.call call) = { s with client := s.client.openStream key } :=
    exec_key h.gone hKey
  have hSound := h.step (.call call)
  rw [hStep] at hFinished hDown hSound
  have hQuiet : ∀ p ∈ s.closings, ¬ p.IsLooping := by
    intro p hMem hLooping
    obtain ⟨i, hPoint⟩ := List.getElem?_of_mem hMem
    obtain ⟨q, hLast, hFails⟩ := doomed_run hSound (doomed_openStream h hNew hPoint hLooping) after
    have hThere := List.mem_of_getElem? hLast
    rcases hFails with rfl | ⟨rest, size, rfl, -⟩
    · exact hDown.succeeded _ hThere rfl
    · exact (hFinished _ hThere).elim nofun nofun
  refine ⟨hQuiet, ?_⟩
  by_contra hClose
  obtain ⟨hMem, hOpen, -⟩ := left_run hSound (left_openStream h hNew hQuiet) hClose
  exact hOpen (hDown.streams key hMem)

theorem closedDown_of_onCourse {s : Closing F} (h : s.Sound) (hCourse : s.OnCourse [])
    (hFinished : s.Finished) (hSome : s.closings ≠ []) : s.ClosedDown := by
  have hSucceeded : ∀ p ∈ s.closings, p ≠ .failed := fun p hMem => (hCourse.intact p hMem).1
  have hCompleted : .completed ∈ s.closings := by
    obtain ⟨p, hMem⟩ := List.exists_mem_of_ne_nil _ hSome
    have hPoint : p = .completed := (hFinished p hMem).resolve_right (hSucceeded p hMem)
    rwa [hPoint] at hMem
  obtain ⟨hAvail, hState⟩ := h.each _ hCompleted
  refine ⟨hSucceeded, h.destroyed, ?_, hAvail, hState⟩
  rcases hCourse.covered with ⟨i, p, hPoint, hLooping⟩ | hAll | hClose
  · rcases hFinished p (List.mem_of_getElem? hPoint) with rfl | rfl
    · exact hLooping.elim
    · exact hLooping.elim
  · exact hAll
  · exact absurd hClose List.not_mem_nil

/-- From the first call of `close` on, whatever the user calls while the calls of `close` wait: when these
have ended, the client is closed down if and only if every stream under a new key was opened while no
`close` was in its loop, and with another call of `close` to come. -/
theorem closedDown_iff {client : VsomeipClient} {bridge : BridgeState F} {app : Vsomeip.Application}
    (hApp : Bridge.getApp bridge client.handle = some app) {events : List CloseEvent}
    (hFinished : ((start client bridge).run (.call .close :: events)).Finished) :
    ((start client bridge).run (.call .close :: events)).ClosedDown ↔
      ∀ before call after, events = before ++ .call call :: after →
        Opens ((start client bridge).run (.call .close :: before)) call →
        (∀ p ∈ ((start client bridge).run (.call .close :: before)).closings, ¬ p.IsLooping) ∧
          .call .close ∈ after := by
  have hDestroyed := sound_destroyApp hApp
  have hFirst : ((start client bridge).close).Sound := hDestroyed.iterate
  have hSome : ((start client bridge).close).closings ≠ [] := by
    rw [close, iterate_eq]
    exact List.append_ne_nil_of_right_ne_nil _ (List.cons_ne_nil _ _)
  constructor
  · rintro hDown before call after rfl hOpens
    have hAt : (start client bridge).run (.call .close :: (before ++ .call call :: after)) =
        ((((start client bridge).run (.call .close :: before)).step (.call call)).run after) :=
      run_append (start client bridge) (.call .close :: before) (.call call) after
    rw [hAt] at hFinished hDown
    exact inTime_of_closedDown (sound_run hFirst before) hFinished hDown call rfl hOpens
  · intro hCondition
    have hCourse : ((start client bridge).close).OnCourse events := 
      onCourse_iterate (fun p hMem => absurd hMem List.not_mem_nil) events
    refine closedDown_of_onCourse (sound_run hFirst events) (onCourse_run hFirst hCourse ?_) hFinished
      (closings_ne_nil_run hFirst hSome events)
    rintro before _ after rfl call rfl hOpens
    exact hCondition before call after rfl hOpens

/-- A client with one open stream. -/
def oneStream : VsomeipClient := (VsomeipClient.create 1 none).openStream ⟨0x1234, 1, 0x8001⟩

/-- The bridge with the application of that client. -/
def oneApp : BridgeState Unit := Bridge.appCreate Bridge.initial 1

/-- A done callback that calls `onMessage` once the loop has ended, and then `close`. -/
theorem closedDown_reopened : ((start oneStream oneApp).run
    [.call .close, .resume 0, .call (.onMessage 0x1234 1 0x0421 7 (.finite 0)), .call .close, .resume 1,
      .resume 1, .resume 1, .resume 1, .resume 0, .resume 0]).ClosedDown := by
  refine (closedDown_iff rfl (by decide)).mpr ?_
  intro before call after hSplit hOpens
  rcases before with _ | ⟨_, _ | ⟨_, _ | ⟨_, before⟩⟩⟩
  · cases hSplit
  · cases hSplit
    exact ⟨by decide, List.mem_cons_self⟩
  · cases hSplit
    exact hOpens.elim fun key hKey => nomatch hKey.1
  · have hMem : CloseEvent.call call ∈ before ++ .call call :: after :=
      List.mem_append_right before List.mem_cons_self
    simp only [List.cons_append, List.cons.injEq] at hSplit
    rw [← hSplit.2.2.2] at hMem
    simp at hMem

/-- A done callback that calls `subscribeEvent` during the loop. -/
theorem reentrant_subscribe_breaks_close : ¬ ((start oneStream oneApp).run
    [.call .close, .call (.subscribeEvent 0x1234 1 1 0x8002 7 (.finite 0)), .resume 0]).ClosedDown := by
  intro h
  exact h.succeeded .failed (by decide) rfl

end Closing

end VsomeipDart
