import VsomeipDart.CapnpRoundTrip
import VsomeipDart.ResponseAddress
import VsomeipDart.SignalStreams

/-! # Records from a service to its subscribers

A service builds each record with the generated Builder and notifies it. A subscriber reads what its stream
brings with the generated Reader.
-/

namespace VsomeipDart
set_option autoImplicit false

open TextEncoding

/-- `notify`: the FFI passes the ids as `Uint16`s and the length as a `Uint32`. -/
def VsomeipService.notify {F : Type} (service : VsomeipService) (s : BridgeState F) (eventId : Int) (payload : Bytes)
    (force : Bool) : BridgeState F × SendOutcome :=
  Bridge.notify s service.clientHandle (UInt16.ofInt service.serviceId) (UInt16.ofInt service.instanceId)
    (UInt16.ofInt eventId) payload (UInt32.ofNat payload.length) force

def VsomeipService.publish {F : Type} (service : VsomeipService) (code : Emitted) (eventId : Int) (force : Bool) :
    BridgeState F → List (List (Name × CapnpValue)) → Option (BridgeState F)
  | s, [] => some s
  | s, args :: rest => do
    let payload ← code.build args
    publish service code eventId force (service.notify s eventId payload force).1 rest

def HandlerKey.service (k : HandlerKey) (handle : Handle) : VsomeipService := ⟨handle, k.svc.toNat, k.inst.toNat⟩

def HandlerKey.notification (k : HandlerKey) (payload : Bytes) : Vsomeip.Message :=
  { Vsomeip.createMessage with
    service := k.svc
    instanceId := k.inst
    method := k.method
    messageType := Vsomeip.MT_NOTIFICATION
    payload }

/-- The generated Reader gives back all fields of a record. -/
def ReadsBack (case : StringCase) (fields : List Field) (msg : SomeIpMessage)
    (value : Field → CapnpValue) : Prop :=
  ∃ bytes, msg.payload = some bytes ∧
    ∀ f ∈ fields, (emit case fields).read bytes (f.dartName case) = some (.ok (value f))

section Publish

variable {F : Type} {case : StringCase} {structName : Name} {fields : List Field}

theorem notify_sent {s : BridgeState F} {handle : Handle} {app : Vsomeip.Application}
    (hApp : Bridge.getApp s handle = some app) (k : HandlerKey) {payload : Bytes}
    (hSize : payload.length ≤ kMaxPayloadBytes.toNat) (force : Bool) :
    Bridge.getApp ((k.service handle).notify s k.method.toNat payload force).1 handle =
      some (app.send (k.notification payload)) := by
  have hLength : (UInt32.ofNat payload.length).toNat = payload.length :=
    UInt32.toNat_ofNat_of_lt' (hSize.trans_lt kMaxPayloadBytes.toNat_lt)
  rw [VsomeipService.notify, HandlerKey.service, Bridge.notify, hApp]
  simp only [System.uint16_ofInt_toNat, hLength, List.take_length]
  exact Bridge.getApp_withApp hApp _

theorem publish_sent (k : HandlerKey) (handle : Handle) (force : Bool) {values : List (Field → CapnpValue)}
    (hProper : ∀ value ∈ values, Proper case fields value)
    (hSize : ∀ value ∈ values, (image case fields value).length ≤ kMaxPayloadBytes.toNat)
    {s : BridgeState F} {app : Vsomeip.Application} (hApp : Bridge.getApp s handle = some app) :
    ∃ s', (k.service handle).publish (emit case fields) k.method.toNat force s
        (values.map (arguments case fields)) = some s' ∧
      Bridge.getApp s' handle = some { app with
        sent := app.sent ++ values.map fun value => k.notification (image case fields value) } := by
  induction values generalizing s app with
  | nil => exact ⟨s, rfl, by simpa using hApp⟩
  | cons value rest ih =>
    obtain ⟨hHead, hRest⟩ := List.forall_mem_cons.mp hProper
    obtain ⟨hFits, hFit⟩ := List.forall_mem_cons.mp hSize
    obtain ⟨s', hEq, hSent⟩ := ih hRest hFit (notify_sent hApp k hFits force)
    refine ⟨s', ?_, ?_⟩
    · rw [List.map_cons, VsomeipService.publish, build_eq hHead]
      exact hEq
    · rw [hSent, Vsomeip.Application.send, List.map_cons, List.append_assoc]
      rfl

theorem size_pos {f : Field} {v : CapnpValue} (hHolds : f.Holds v) (hFixed : ¬ isVariable f = true) : 0 < f.size := by
  rw [Field.Holds] at hHolds
  rw [Field.size]
  cases hKind : f.kind with
  | none =>
    rw [hKind] at hHolds
    exact hHolds.elim
  | some kind =>
    cases kind with
    | bool => exact Nat.one_pos
    | scalar s => cases s <;> decide
    | text => exact absurd ((isVariable_iff f).mpr (.inl hKind)) hFixed
    | data => exact absurd ((isVariable_iff f).mpr (.inr hKind)) hFixed

theorem image_ne_nil {value : Field → CapnpValue} (h : Proper case fields value) (hSome : fields ≠ []) :
    image case fields value ≠ [] := by
  obtain ⟨f, hMem⟩ := List.exists_mem_of_ne_nil fields hSome
  by_cases hVar : isVariable f = true
  case pos =>
    refine List.append_ne_nil_of_right_ne_nil _ fun hNil => ?_
    have hRecord := List.flatMap_eq_nil_iff.mp hNil f (mem_variableFields.mpr ⟨hMem, (isVariable_iff f).mp hVar⟩)
    have hLength := length_record value f
    rw [hRecord, List.length_nil] at hLength
    omega
  case neg =>
    rw [← map_field_layoutFrom 0 fields] at hMem
    obtain ⟨p, hPlaced, rfl⟩ := List.mem_map.mp hMem
    have hField := field_mem hPlaced
    have hFits : p.offset + p.field.size ≤ (emit case fields).headerLen := layout_fits hPlaced
    have hSize := size_pos (h.holds p.field hField) hVar
    refine List.append_ne_nil_of_left_ne_nil (List.ne_nil_of_length_pos ?_) _
    rw [length_header]
    omega

theorem readsBack_received {value : Field → CapnpValue}
    (hTrips : RoundTrips case structName fields) (h : Proper case fields value) (hSome : fields ≠ [])
    (k : HandlerKey) :
    ReadsBack case fields
      (received (k.notification (image case fields value)) (image case fields value)) value := by
  obtain ⟨bytes, hBuild, hRead⟩ := hTrips.2 value h.holds
  obtain rfl : bytes = image case fields value := Option.some.inj (hBuild.symm.trans (build_eq h))
  exact ⟨_, if_neg (image_ne_nil h hSome), hRead⟩

end Publish

section Subscribed

variable {F : Type}

def SignalAction.arrival (msg : Vsomeip.Message) : SignalAction F := .event (.action (.deliver msg))

def SignalAction.subscription (k : HandlerKey) (eventgroupId : Int) (workerPort : DartPort) (maxHz : Double) :
    SignalAction F :=
  .event (.action (.subscribeEvent k.svc.toNat k.inst.toNat eventgroupId k.method.toNat workerPort maxHz))

/-- The worker passes on what it gets for a signal without a rate. -/
theorem Worker.run_unthrottled {own : PortLog} {msgs : List SomeIpMessage}
    (h : own.map (fun entry => entry.2.item) = msgs.map PathItem.message) :
    (Mealy.run signalStep none own).2.flatten = msgs := by
  induction own generalizing msgs with
  | nil =>
    rw [List.map_nil, eq_comm, List.map_eq_nil_iff] at h
    rw [h]
    rfl
  | cons entry rest ih =>
    cases msgs with
    | nil => cases h
    | cons msg later =>
      rw [List.map_cons, List.map_cons, List.cons.injEq] at h
      obtain ⟨hItem, hRest⟩ := h
      obtain ⟨now, post⟩ := entry
      cases post with
      | setThrottle cmd => cases hItem
      | message buffers =>
        obtain rfl := PathItem.message.inj hItem
        rw [Mealy.run_cons, signalStep_none, List.flatten_cons, ih hRest]
        rfl

/-- Without rates the stream is the front of the messages of the path, and all of them if none waits. -/
theorem System.Shows.messages {sys : System F} {key : SomeIpKey} {own : PortLog} {msgs : List SomeIpMessage}
    (h : Shows sys key (msgs.map PathItem.message) own) :
    sys.client.stream key <+: msgs ∧
      (sys.workerQueue = [] → sys.mainQueue = [] → sys.client.stream key = msgs) := by
  obtain ⟨rest, hItems⟩ := h.handled
  obtain ⟨front, back, rfl, hFront, -⟩ := List.map_eq_append_iff.mp hItems.symm
  have hShown := Worker.run_unthrottled hFront.symm
  refine ⟨?_, fun hWorker hMain => ?_⟩
  · exact (hShown ▸ h.shown).trans (List.prefix_append front back)
  · rw [h.arrived hMain]
    exact Worker.run_unthrottled (h.all hWorker)

namespace EventPath

variable [FloatOps F]

theorem sweep_bare (payload : Bytes) :
    SignalMap.sweep (fun _ => none : UInt16 → Option (SignalFilter F)) payload = ⟨fun _ => none, payload, false⟩ := by
  have hNone : SignalMap.mapped (fun _ => none : UInt16 → Option (SignalFilter F)) = [] :=
    List.filter_eq_nil_iff.mpr fun _ _ => Bool.false_ne_true
  rw [SignalMap.sweep, hNone, List.foldl_nil]

theorem run_arrivals {msgs : List Vsomeip.Message} (hFits : ∀ msg ∈ msgs, msg.payload.length ≤ kMaxPayloadBytes.toNat)
    (subscribed : Bool) : Mealy.run step ⟨subscribed, fun _ => none⟩ (msgs.map (SignalAction.arrival (F := F))) =
      (⟨subscribed, fun _ => none⟩,
        msgs.map fun msg => if subscribed then [.message (received msg msg.payload)] else []) := by
  induction msgs with
  | nil => rfl
  | cons msg rest ih =>
    obtain ⟨hHead, hRest⟩ := List.forall_mem_cons.mp hFits
    have hStep : (⟨subscribed, fun _ => none⟩ : EventPath F).step (.arrival msg) =
        (⟨subscribed, fun _ => none⟩, if subscribed then [.message (received msg msg.payload)] else []) := by
      rw [SignalAction.arrival, step, sweep_bare]
      cases subscribed with
      | false => rfl
      | true => exact if_pos ⟨rfl, hHead⟩
    rw [List.map_cons, Mealy.run_cons, hStep, ih hRest]
    rfl

/-- Only what arrives behind the subscription waits at the worker port. -/
theorem items_subscription {before behind : List Vsomeip.Message}
    (hBefore : ∀ msg ∈ before, msg.payload.length ≤ kMaxPayloadBytes.toNat)
    (hBehind : ∀ msg ∈ behind, msg.payload.length ≤ kMaxPayloadBytes.toNat) (k : HandlerKey) (eventgroupId : Int)
    (workerPort : DartPort) {maxHz : Double} (hRate : maxHz.isPositive = false) :
    (start fun _ => none : EventPath F).items (before.map .arrival ++
        .subscription k eventgroupId workerPort maxHz :: behind.map .arrival) =
      behind.map fun msg => .message (received msg msg.payload) := by
  have hNothing : ∀ msgs : List Vsomeip.Message, (msgs.map fun _ => ([] : List PathItem)).flatten = [] :=
    fun msgs => List.flatten_eq_nil_iff.mpr fun l hMem => (List.mem_map.mp hMem).elim fun _ h => h.2.symm
  have hSubscribe : (start fun _ => none : EventPath F).step (.subscription k eventgroupId workerPort maxHz) =
      (⟨true, fun _ => none⟩, []) := by
    rw [SignalAction.subscription, step, rates, hRate]
    rfl
  rw [items, Mealy.run_append, Mealy.run_cons, start, run_arrivals hBefore, ← start, hSubscribe,
    run_arrivals hBehind]
  simp only [Bool.false_eq_true, if_false, if_true, List.flatten_append, hNothing, List.flatten_cons,
    List.nil_append, ← List.flatMap_def]
  rw [← List.map_eq_flatMap]

end EventPath

end Subscribed

section Main

variable {F : Type} [FloatOps F] {case : StringCase} {structName : Name} {fields : List Field}

theorem System.stream_of_records (hTrips : RoundTrips case structName fields) (hSome : fields ≠ [])
    {k : HandlerKey} {early late : List (Field → CapnpValue)}
    (hProper : ∀ value ∈ early ++ late, Proper case fields value)
    (hFits : ∀ value ∈ early ++ late, (image case fields value).length ≤ kMaxPayloadBytes.toNat)
    {bridge : BridgeState F} {m : SignalMap F} (hRep : Represents bridge.filters m) (hBare : m k.event = fun _ => none)
    (client : Handle) (workerPort : DartPort) (eventgroupId : Int) {maxHz : Double} (hRate : maxHz.isPositive = false)
    {actions : List (SignalAction F)} (hPlain : ∀ a ∈ actions, a.Plain workerPort)
    (hOwn : (actions.filter fun a => a.key? = some k.toSomeIpKey) =
      (early.map fun value => .arrival (k.notification (image case fields value))) ++
        .subscription k eventgroupId workerPort maxHz ::
        late.map fun value => .arrival (k.notification (image case fields value))) :
    ∃ sys outs, signalRun (spawn bridge client workerPort) actions = some (sys, outs) ∧
      ∃ shown, shown <+: late ∧
        List.Forall₂ (ReadsBack case fields) (sys.client.stream k.toSomeIpKey) shown ∧
        (sys.workerQueue = [] → sys.mainQueue = [] → shown = late) := by
  obtain ⟨hEarly, hLate⟩ := List.forall_mem_append.mp hFits
  have hArrive : ∀ {values : List (Field → CapnpValue)},
      (∀ value ∈ values, (image case fields value).length ≤ kMaxPayloadBytes.toNat) →
      ∀ msg ∈ values.map fun value => k.notification (image case fields value),
        msg.payload.length ≤ kMaxPayloadBytes.toNat := by
    intro values hSize msg hMem
    obtain ⟨value, hValue, rfl⟩ := List.mem_map.mp hMem
    exact hSize value hValue
  let decoded : (Field → CapnpValue) → SomeIpMessage := fun value =>
    received (k.notification (image case fields value)) (image case fields value)
  have hStart := OnPath.spawn hRep client workerPort (EventPath.subscribed_initial _) (EventPath.signals_initial _)
  obtain ⟨sys, outs, log, hRun, hOn, -⟩ := hStart.run hPlain
  have hShows := hOn.carried.shows k.toSomeIpKey
  have hItems := EventPath.items_subscription (F := F) (hArrive hEarly) (hArrive hLate) k eventgroupId workerPort hRate
  rw [List.nil_append, items_turn, hOwn, hBare] at hShows
  simp only [List.map_map, Function.comp_def] at hItems
  rw [hItems] at hShows
  have hMessages : Shows sys k.toSomeIpKey ((late.map decoded).map PathItem.message) (log.ofSignal k.toSomeIpKey) := by
    rwa [List.map_map]
  obtain ⟨hFront, hAll⟩ := hMessages.messages
  obtain ⟨back, hBack⟩ := hFront
  obtain ⟨shown, rest, rfl, hShown, -⟩ := List.map_eq_append_iff.mp hBack.symm
  refine ⟨sys, outs, hRun, shown, List.prefix_append shown rest, ?_, fun hWorker hMain => ?_⟩
  · rw [← hShown, List.forall₂_map_left_iff, List.forall₂_same]
    intro value hMem
    have hThere : value ∈ early ++ (shown ++ rest) :=
      List.mem_append_right early (List.mem_append_left rest hMem)
    exact readsBack_received hTrips (hProper value hThere) hSome k
  · have hLength := congrArg List.length (hShown.trans (hAll hWorker hMain))
    rw [List.length_map, List.length_map, List.length_append] at hLength
    rw [List.eq_nil_of_length_eq_zero (by omega : rest.length = 0), List.append_nil]

end Main

def speedRecord (speed : Int) (f : Field) : CapnpValue := if f = nameField then .string ['c', 'a', 'r'] else .int speed

example : (emit asciiCase [nameField, speedField]).build
    (arguments asciiCase [nameField, speedField] (speedRecord 60)) =
      some [60, 0, 0, 0, 0, 0, 0, 0, 3, 0, 0, 0, 0x63, 0x61, 0x72] := by decide

end VsomeipDart
