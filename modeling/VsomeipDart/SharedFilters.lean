import Mathlib.Data.List.Forall2
import VsomeipDart.Delivery
import VsomeipDart.ExactSample
import VsomeipDart.Lib.FiniteMap
import VsomeipDart.Lib.SharedMachine

/-! # Subscribers of one event share its filters (`g_filters` in `vsomeip_bridge.cpp`)

Every application that is subscribed to an event dispatches the published samples in their order, and the
dispatches of different applications interleave in any way.
-/

namespace VsomeipDart
set_option autoImplicit false

open LittleEndian SharedMachine

def SignalFilter.Echoes {F : Type} : SignalFilter F → Prop
  | .passthrough => True
  | .median filter => filter.windowSize = 1
  | _ => False

namespace FilterEntry

variable {F : Type} {e e' e'' : FilterEntry F}

/-- The filters are the same, or both echo. -/
def Alike (e e' : FilterEntry F) : Prop :=
  e.payloadOffset = e'.payloadOffset ∧
    (e.filter = e'.filter ∨ e.filter.Echoes ∧ e'.filter.Echoes)

/-- `e'` can be what an earlier sample has made of `e`. -/
def Later (e e' : FilterEntry F) : Prop :=
  e.payloadOffset = e'.payloadOffset ∧ (e.filter.Echoes → e'.filter.Echoes)

theorem Alike.trans (h : e.Alike e') (h' : e'.Alike e'') : e.Alike e'' := by
  obtain ⟨hOffset, hSame | ⟨hEchoes, hEchoes'⟩⟩ := h
  · obtain ⟨hOffset', hSame' | ⟨hOwn, hOther⟩⟩ := h'
    · exact ⟨hOffset.trans hOffset', .inl (hSame.trans hSame')⟩
    · exact ⟨hOffset.trans hOffset', .inr ⟨hSame ▸ hOwn, hOther⟩⟩
  · obtain ⟨hOffset', hSame' | ⟨-, hOther⟩⟩ := h'
    · exact ⟨hOffset.trans hOffset', .inr ⟨hEchoes, hSame' ▸ hEchoes'⟩⟩
    · exact ⟨hOffset.trans hOffset', .inr ⟨hEchoes, hOther⟩⟩

theorem alike_refl (entries : List (FilterEntry F)) : List.Forall₂ Alike entries entries :=
  List.forall₂_same.mpr fun _ _ => ⟨rfl, .inl rfl⟩

theorem later_refl (entries : List (FilterEntry F)) : List.Forall₂ Later entries entries :=
  List.forall₂_same.mpr fun _ _ => ⟨rfl, id⟩

theorem alike_trans {entries entries' entries'' : List (FilterEntry F)}
    (h : List.Forall₂ Alike entries entries') (h' : List.Forall₂ Alike entries' entries'') :
    List.Forall₂ Alike entries entries'' := by
  induction h generalizing entries'' with
  | nil => exact h'
  | cons hHead _ ih =>
    cases h' with
    | cons hHead' hRest' => exact .cons (hHead.trans hHead') (ih hRest')

end FilterEntry

section Echoes

variable {F : Type} [FloatOps F]

theorem SignalFilter.Echoes.apply {filter : SignalFilter F} (h : filter.Echoes) (input : F) :
    ∃ next : SignalFilter F, filter.apply input = (input, next) ∧ next.Echoes := by
  cases filter with
  | passthrough => exact ⟨.passthrough, rfl, trivial⟩
  | median filter =>
    obtain ⟨windowSize, window, scratch, nextIdx, full, hWindow, hScratch, hNext⟩ := filter
    obtain rfl : windowSize = 1 := h
    obtain ⟨old, rfl⟩ := List.length_eq_one_iff.mp hWindow
    obtain ⟨sorted, rfl⟩ := List.length_eq_one_iff.mp hScratch
    obtain rfl : nextIdx = 0 := Nat.lt_one_iff.mp hNext
    -- the window is full with this input, and sorted as it is
    refine ⟨_, Prod.ext ?_ rfl, ?_⟩ <;>
      simp [SignalFilter.apply, MedianFilter.apply, sortFloats, SignalFilter.Echoes]
  | _ => exact h.elim

theorem FilterEntry.Alike.apply {e e' : FilterEntry F} (h : e.Alike e') (input : F) :
    ∃ v filter filter', e.filter.apply input = (v, filter) ∧ e'.filter.apply input = (v, filter') ∧
      FilterEntry.Alike { e with filter } { e' with filter := filter' } := by
  obtain ⟨hOffset, hSame | ⟨hEchoes, hEchoes'⟩⟩ := h
  · have hApply : e.filter.apply input = ((e.filter.apply input).1, (e.filter.apply input).2) := rfl
    have hApply' : e'.filter.apply input = ((e.filter.apply input).1, (e.filter.apply input).2) := by rw [← hSame]
    exact ⟨_, _, _, hApply, hApply', hOffset, .inl rfl⟩
  · obtain ⟨filter, hApply, hNext⟩ := hEchoes.apply input
    obtain ⟨filter', hApply', hNext'⟩ := hEchoes'.apply input
    exact ⟨input, filter, filter', hApply, hApply', hOffset, .inr ⟨hNext, hNext'⟩⟩

namespace FilterRegistry

variable {entries entries' : List (FilterEntry F)}

theorem applyEntries_alike (h : List.Forall₂ FilterEntry.Alike entries entries') (payload : Bytes)
    (any : Bool) :
    ∃ next next' out, applyEntries entries payload any = some (next, out) ∧
      applyEntries entries' payload any = some (next', out) ∧
      List.Forall₂ FilterEntry.Alike next next' := by
  induction h generalizing payload any with
  | nil => exact ⟨[], [], (payload, any), rfl, rfl, .nil⟩
  | @cons e e' rest rest' hHead hRest ih =>
    have hOffset : e'.offset = e.offset := congrArg UInt16.toNat hHead.1.symm
    rcases Nat.lt_or_ge payload.length (e.offset + 4) with hSkip | hFits
    · obtain ⟨next, next', out, hLoop, hLoop', hNext⟩ := ih payload any
      refine ⟨e :: next, e' :: next', out, ?_, ?_, .cons hHead hNext⟩
      · rw [applyEntries_skip hSkip, hLoop]
        rfl
      · rw [applyEntries_skip (by omega), hLoop']
        rfl
    · obtain ⟨v, filter, filter', hSample, hSample', hAlike⟩ :=
        hHead.apply (FloatOps.ofBits (UInt32.ofNat (window 4 payload e.offset)))
      obtain ⟨next, next', out, hLoop, hLoop', hNext⟩ :=
        ih (patch 4 payload e.offset (FloatOps.toBits v).toNat) true
      refine ⟨{ e with filter } :: next, { e' with filter := filter' } :: next', out, ?_, ?_,
        .cons hAlike hNext⟩
      · rw [applyEntries_sample hFits hSample, hLoop]
        rfl
      · rw [← hOffset] at hSample' hLoop'
        rw [applyEntries_sample (by omega) hSample', hLoop']
        rfl

/-- Filters that echo go on to do so. -/
theorem applyEntries_later (h : List.Forall₂ FilterEntry.Later entries entries') (payload : Bytes)
    (any : Bool) :
    ∃ next' out, applyEntries entries' payload any = some (next', out) ∧
      List.Forall₂ FilterEntry.Later entries next' := by
  induction h generalizing payload any with
  | nil => exact ⟨[], (payload, any), rfl, .nil⟩
  | @cons e e' rest rest' hHead hRest ih =>
    rcases Nat.lt_or_ge payload.length (e'.offset + 4) with hSkip | hFits
    · obtain ⟨next', out, hLoop, hNext⟩ := ih payload any
      refine ⟨e' :: next', out, ?_, .cons hHead hNext⟩
      rw [applyEntries_skip hSkip, hLoop]
      rfl
    · obtain ⟨v, filter, hSample⟩ : ∃ v filter, e'.filter.apply
        (FloatOps.ofBits (UInt32.ofNat (window 4 payload e'.offset))) = (v, filter) := ⟨_, _, rfl⟩
      obtain ⟨next', out, hLoop, hNext⟩ := ih (patch 4 payload e'.offset (FloatOps.toBits v).toNat) true
      refine ⟨{ e' with filter } :: next', out, ?_, .cons ⟨hHead.1, fun hEchoes => ?_⟩ hNext⟩
      · rw [applyEntries_sample hFits hSample, hLoop]
        rfl
      · obtain ⟨own, hOwn, hEchoes'⟩ := (hHead.2 hEchoes).apply
          (FloatOps.ofBits (UInt32.ofNat (window 4 payload e'.offset)))
        obtain rfl := (Prod.mk.inj (hOwn.symm.trans hSample)).2
        exact hEchoes'

/-- Where only filters that echo are reached, the loop gives the same payload in an earlier and a later state, and
leaves the later one alike. -/
theorem applyEntries_quiet (h : List.Forall₂ FilterEntry.Later entries entries') (payload : Bytes)
    (any : Bool) (hEchoes : ∀ e ∈ entries, e.offset + 4 ≤ payload.length → e.filter.Echoes) :
    ∃ next next' out, applyEntries entries payload any = some (next, out) ∧
      applyEntries entries' payload any = some (next', out) ∧
      List.Forall₂ FilterEntry.Alike next' entries' := by
  induction h generalizing payload any with
  | nil => exact ⟨[], [], (payload, any), rfl, rfl, .nil⟩
  | @cons e e' rest rest' hHead hRest ih =>
    have hOffset : e'.offset = e.offset := congrArg UInt16.toNat hHead.1.symm
    rcases Nat.lt_or_ge payload.length (e.offset + 4) with hSkip | hFits
    · obtain ⟨next, next', out, hLoop, hLoop', hNext⟩ :=
        ih payload any fun b hb => hEchoes b (List.mem_cons_of_mem e hb)
      refine ⟨e :: next, e' :: next', out, ?_, ?_, .cons ⟨rfl, .inl rfl⟩ hNext⟩
      · rw [applyEntries_skip hSkip, hLoop]
        rfl
      · rw [applyEntries_skip (by omega), hLoop']
        rfl
    · have hOwn := hEchoes e List.mem_cons_self hFits
      obtain ⟨filter, hSample, -⟩ :=
        hOwn.apply (FloatOps.ofBits (UInt32.ofNat (window 4 payload e.offset)))
      obtain ⟨filter', hSample', hOwn'⟩ :=
        (hHead.2 hOwn).apply (FloatOps.ofBits (UInt32.ofNat (window 4 payload e.offset)))
      obtain ⟨next, next', out, hLoop, hLoop', hNext⟩ := ih (patch 4 payload e.offset
        (FloatOps.toBits (FloatOps.ofBits (F := F)
          (UInt32.ofNat (window 4 payload e.offset)))).toNat) true fun b hb hLength =>
        hEchoes b (List.mem_cons_of_mem e hb) (by rwa [patch_length hFits] at hLength)
      refine ⟨{ e with filter } :: next, { e' with filter := filter' } :: next', out, ?_, ?_,
        .cons ⟨rfl, .inr ⟨hOwn', hHead.2 hOwn⟩⟩ hNext⟩
      · rw [applyEntries_sample hFits hSample, hLoop]
        rfl
      · rw [← hOffset] at hSample' hLoop'
        rw [applyEntries_sample (by omega) hSample', hLoop']
        rfl

theorem applyEntries_nothing (entries : List (FilterEntry F)) (any : Bool) :
    applyEntries entries [] any = some (entries, [], any) := by
  induction entries with
  | nil => rfl
  | cons e rest ih =>
    rw [applyEntries_skip (by simp), ih]
    rfl

end FilterRegistry

end Echoes

/-- A subscribed application, with what is published to it and what its handler posts. -/
structure Subscription where
  handle : Handle
  dispatches : Consumer Vsomeip.Message MessagePost
  deriving DecidableEq

structure SubscribeCall where
  handle : Handle
  eventgroupId : UInt16
  eventsPort : DartPort

namespace SharedFilters

variable {F : Type}

def subscribeAll (b : BridgeState F) (event : HandlerKey) : List SubscribeCall → BridgeState F
  | [] => b
  | call :: rest =>
    Bridge.subscribe (Bridge.appCreate (subscribeAll b event rest) call.handle) call.handle event.svc
      event.inst call.eventgroupId event.method call.eventsPort

abbrev Config (F : Type) := Threads.Config (BridgeState F) Subscription

def start (b : BridgeState F) (event : HandlerKey) (calls : List SubscribeCall)
    (samples : List Vsomeip.Message) : Config F where
  shared := subscribeAll b event calls
  threads := calls.map fun call => ⟨call.handle, ⟨samples, [], []⟩⟩

/-- The application has the one handler that its subscription registered. -/
def Subscribed (event : HandlerKey) (b : BridgeState F) (sub : Subscription) : Prop :=
  ∃ port, Bridge.getApp b sub.handle =
    some (Vsomeip.Application.create.registerMessageHandler event port)

theorem getApp_subscribe (b : BridgeState F) (event : HandlerKey) (call : SubscribeCall)
    (handle : Handle) :
    Bridge.getApp (Bridge.subscribe (Bridge.appCreate b call.handle) call.handle event.svc event.inst
        call.eventgroupId event.method call.eventsPort) handle =
      if handle = call.handle then
        some (Vsomeip.Application.create.registerMessageHandler event call.eventsPort)
      else Bridge.getApp b handle := by
  have hApp : Bridge.getApp (Bridge.appCreate b call.handle) call.handle = some .create :=
    AList.lookup_insert _
  rw [Bridge.subscribe, Bridge.registerMessageHandler, hApp, Bridge.withApp_some hApp]
  simp only [Bridge.trackHandler, Bridge.getApp, Bridge.appCreate, FiniteMap.lookup_insert]
  split <;> rfl

theorem subscribed_all (b : BridgeState F) (event : HandlerKey) {calls : List SubscribeCall}
    {call : SubscribeCall} (hMem : call ∈ calls) (dispatches : Consumer Vsomeip.Message MessagePost) :
    Subscribed event (subscribeAll b event calls) ⟨call.handle, dispatches⟩ := by
  induction calls with
  | nil => cases hMem
  | cons first rest ih =>
    rw [Subscribed, subscribeAll, getApp_subscribe]
    split
    · exact ⟨first.eventsPort, rfl⟩
    · rename_i hNe
      rcases List.mem_cons.mp hMem with rfl | hRest
      · exact absurd rfl hNe
      · exact ih hRest

theorem filters_subscribeAll (b : BridgeState F) (event : HandlerKey) (calls : List SubscribeCall) :
    (subscribeAll b event calls).filters = b.filters := by
  induction calls with
  | nil => rfl
  | cons call rest ih =>
    rw [subscribeAll, Bridge.subscribe, Bridge.registerMessageHandler]
    cases Bridge.getApp (Bridge.appCreate (subscribeAll b event rest) call.handle) call.handle with
    | none => exact ih
    | some app =>
      rw [Bridge.trackHandler, Bridge.withApp]
      cases Bridge.getApp (Bridge.appCreate (subscribeAll b event rest) call.handle) call.handle <;>
        exact ih

variable [FloatOps F]

/-- The next published sample is handed to the application; a memory fault would end the run. -/
def step (_ : Nat) (b : BridgeState F) (sub : Subscription) : Option (BridgeState F × Subscription) :=
  match sub.dispatches.left with
  | [] => none
  | msg :: rest => do
    let (b, posts) ← Bridge.deliver b sub.handle msg
    return (b, { sub with
      dispatches := ⟨rest, sub.dispatches.handled ++ [msg],
        sub.dispatches.received ++ posts.map fun post => post.2.2⟩ })

def run (c : Config F) (schedule : List Nat) : Config F := Threads.run step c schedule

def dispatch (filters : FilterRegistry F) (msg : Vsomeip.Message) :
    FilterRegistry F × List MessagePost :=
  match Bridge.dispatchMessage filters msg with
  | none => (filters, [])
  | some (filters, post) => (filters, post.toList)

theorem dispatchMessage_total (filters : FilterRegistry F) (msg : Vsomeip.Message) :
    ∃ filters' post, Bridge.dispatchMessage filters msg = some (filters', post) := by
  rcases Nat.lt_or_ge kMaxPayloadBytes.toNat msg.payload.length with hOver | hCap
  · exact ⟨_, _, Bridge.dispatchMessage_oversize hOver⟩
  · obtain ⟨filters', payload, hDispatch, -⟩ := Bridge.dispatchMessage_posts filters hCap
    exact ⟨_, _, hDispatch⟩

theorem matches_ofMessage (msg : Vsomeip.Message) :
    (HandlerKey.ofMessage msg).Matches msg = true := by
  simp [HandlerKey.Matches, HandlerKey.ofMessage]

/-- The handler of a subscribed application dispatches the sample once. -/
theorem deliver_subscribed {b : BridgeState F} {sub : Subscription} {msg : Vsomeip.Message}
    (h : Subscribed (.ofMessage msg) b sub) :
    ∃ posts, Bridge.deliver b sub.handle msg =
        some ({ b with filters := (dispatch b.filters msg).1 }, posts) ∧
      (posts.map fun post => post.2.2) = (dispatch b.filters msg).2 := by
  obtain ⟨port, hApp⟩ := h
  obtain ⟨filters', post, hDispatch⟩ := dispatchMessage_total b.filters msg
  have hMatching : (Vsomeip.Application.create.registerMessageHandler (.ofMessage msg) port).matching
      msg = [(.ofMessage msg, port)] := by
    simp [Vsomeip.Application.matching, Vsomeip.Application.registerMessageHandler,
      Vsomeip.Application.create, matches_ofMessage]
  refine ⟨post.toList.map fun post => (.ofMessage msg, port, post), ?_, ?_⟩
  · refine Bridge.deliver_some hApp ?_
    rw [hMatching, Bridge.callHandlers, hDispatch]
    simp [dispatch, hDispatch, Bridge.callHandlers]
  · simp [dispatch, hDispatch, Function.comp_def]

def Ready (event : HandlerKey) (b : BridgeState F) (sub : Subscription) : Prop :=
  Subscribed event b sub ∧ ∀ msg ∈ sub.dispatches.left, HandlerKey.ofMessage msg = event

theorem step_ready {event : HandlerKey} {b : BridgeState F} {sub : Subscription}
    (h : Ready event b sub) (i : Nat) :
    sub.dispatches.left = [] ∧ step i b sub = none ∨
    ∃ msg rest, sub.dispatches.left = msg :: rest ∧
      step i b sub = some ({ b with filters := (dispatch b.filters msg).1 },
        { sub with dispatches := ⟨rest, sub.dispatches.handled ++ [msg],
            sub.dispatches.received ++ (dispatch b.filters msg).2⟩ }) := by
  obtain ⟨hSub, hLeft⟩ := h
  cases hHead : sub.dispatches.left with
  | nil => exact .inl ⟨rfl, by rw [step, hHead]⟩
  | cons msg rest =>
    have hMsg := hLeft msg (by simp [hHead])
    obtain ⟨posts, hDeliver, hPosts⟩ := deliver_subscribed (hMsg ▸ hSub)
    refine .inr ⟨msg, rest, rfl, ?_⟩
    simp [step, hHead, hDeliver, ← hPosts]

/-- A run of the subscribed applications is one of consumers that share `dispatch`. -/
theorem run_map (b : BridgeState F) (event : HandlerKey) (calls : List SubscribeCall)
    {samples : List Vsomeip.Message} (hEvent : ∀ msg ∈ samples, HandlerKey.ofMessage msg = event)
    (schedule : List Nat) :
    (run (start b event calls samples) schedule).map BridgeState.filters Subscription.dispatches =
      Threads.run (consume dispatch) (SharedMachine.start b.filters calls.length samples) schedule := by
  have hStart : (start b event calls samples).map BridgeState.filters Subscription.dispatches =
      SharedMachine.start b.filters calls.length samples := by
    simp [start, Threads.Config.map, SharedMachine.start, filters_subscribeAll, Function.comp_def]
  rw [← hStart]
  refine Threads.run_map (J := Ready event) ?_ ?_ ?_ schedule
  · intro i b sub h
    rcases step_ready h i with ⟨hNone, hStep⟩ | ⟨msg, rest, hHead, hStep⟩
    · simp [consume, hNone, hStep]
    · simp [consume, hHead, hStep]
  · intro i b sub b' sub' other h hNext
    rcases step_ready h i with ⟨-, hStep⟩ | ⟨msg, rest, hHead, hStep⟩
    · rw [hStep] at hNext
      cases hNext
    · rw [hStep] at hNext
      cases hNext
      obtain ⟨hSub, hLeft⟩ := h
      exact ⟨⟨hSub, fun msg' hMem => hLeft msg' (by simp [hHead, hMem])⟩, id⟩
  · intro sub hMem
    obtain ⟨call, hCall, rfl⟩ := List.mem_map.mp hMem
    exact ⟨subscribed_all b event hCall _, hEvent⟩

def filtersOf (filters : FilterRegistry F) (event : HandlerKey) : List (FilterEntry F) :=
  filters.listAt (FilterRegistry.makeKey event.svc event.inst event.method)

/-- `dispatch`, as far as the filters of the event tell. -/
def sweep (entries : List (FilterEntry F)) (msg : Vsomeip.Message) :
    List (FilterEntry F) × List MessagePost :=
  if msg.payload.length > kMaxPayloadBytes.toNat then (entries, [])
  else
    match FilterRegistry.applyEntries entries msg.payload false with
    | none => (entries, [])
    | some (next, payload, _) => (next, [Bridge.postOf msg payload])

theorem sweep_eq {entries next : List (FilterEntry F)} {msg : Vsomeip.Message} {out : Bytes × Bool}
    (hCap : msg.payload.length ≤ kMaxPayloadBytes.toNat)
    (hLoop : FilterRegistry.applyEntries entries msg.payload false = some (next, out)) :
    sweep entries msg = (next, [Bridge.postOf msg out.1]) := by
  rw [sweep, if_neg (by omega), hLoop]

theorem dispatch_eq {filters filters' : FilterRegistry F} {msg : Vsomeip.Message} {payload : Bytes}
    (hCap : msg.payload.length ≤ kMaxPayloadBytes.toNat)
    (hPayload : Bridge.filteredPayload filters msg = some (filters', payload)) :
    dispatch filters msg = (filters', [Bridge.postOf msg payload]) := by
  rw [dispatch, Bridge.dispatchMessage_eq hCap hPayload]
  rfl

theorem dispatch_sweep (filters : FilterRegistry F) {event : HandlerKey} {msg : Vsomeip.Message}
    (hEvent : HandlerKey.ofMessage msg = event) :
    (filtersOf (dispatch filters msg).1 event, (dispatch filters msg).2) =
      sweep (filtersOf filters event) msg := by
  subst hEvent
  rcases Nat.lt_or_ge kMaxPayloadBytes.toNat msg.payload.length with hOver | hCap
  · rw [dispatch, Bridge.dispatchMessage_oversize hOver, sweep, if_pos hOver]
    rfl
  by_cases hFiltered : (decide (msg.payload.length > 0) &&
      filters.hasFilter msg.service msg.instanceId msg.method) = true
  · obtain ⟨-, hFilter⟩ := (Bool.and_eq_true _ _).mp hFiltered
    obtain ⟨next, payload, any, hLoop, -⟩ :=
      FilterRegistry.applyEntries_total (filtersOf filters (.ofMessage msg)) msg.payload false
    have hPayload : Bridge.filteredPayload filters msg = some (⟨filters.entries.insert
        (FilterRegistry.makeKey msg.service msg.instanceId msg.method) next⟩, payload) := by
      rw [filtersOf, HandlerKey.ofMessage] at hLoop
      rw [Bridge.filteredPayload, if_pos hFiltered, FilterRegistry.apply_listAt hFilter, hLoop]
      rfl
    rw [dispatch_eq hCap hPayload, sweep_eq hCap hLoop]
    simp [filtersOf, FilterRegistry.listAt, HandlerKey.ofMessage]
  · have hPayload : Bridge.filteredPayload filters msg = some (filters, msg.payload) := by
      rw [Bridge.filteredPayload, if_neg hFiltered]
    have hLoop : FilterRegistry.applyEntries (filtersOf filters (.ofMessage msg)) msg.payload false =
        some (filtersOf filters (.ofMessage msg), msg.payload, false) := by
      rcases eq_or_ne msg.payload [] with hNil | hSome
      · rw [hNil]
        exact FilterRegistry.applyEntries_nothing _ _
      · have hNone : filters.hasFilter msg.service msg.instanceId msg.method = false := by
          simpa [List.length_pos_iff.mpr hSome] using hFiltered
        rw [FilterRegistry.hasFilter_listAt, Bool.not_eq_false', List.isEmpty_iff] at hNone
        rw [show filtersOf filters (.ofMessage msg) = [] from hNone]
        rfl
    rw [dispatch_eq hCap hPayload]
    exact (sweep_eq hCap hLoop).symm

/-- The sample reaches a filter that does not echo. -/
def Remembered (entries : List (FilterEntry F)) (msg : Vsomeip.Message) : Prop :=
  msg.payload.length ≤ kMaxPayloadBytes.toNat ∧
    ∃ e ∈ entries, e.offset + 4 ≤ msg.payload.length ∧ ¬ e.filter.Echoes

section Sweep

variable {entries entries' : List (FilterEntry F)}

theorem sweep_alike (h : List.Forall₂ FilterEntry.Alike entries entries') (msg : Vsomeip.Message) :
    List.Forall₂ FilterEntry.Alike (sweep entries msg).1 (sweep entries' msg).1 ∧
      (sweep entries msg).2 = (sweep entries' msg).2 := by
  rcases Nat.lt_or_ge kMaxPayloadBytes.toNat msg.payload.length with hOver | hCap
  · rw [sweep, sweep, if_pos hOver, if_pos hOver]
    exact ⟨h, rfl⟩
  · obtain ⟨next, next', out, hLoop, hLoop', hNext⟩ := FilterRegistry.applyEntries_alike h msg.payload false
    rw [sweep_eq hCap hLoop, sweep_eq hCap hLoop']
    exact ⟨hNext, rfl⟩

theorem sweep_later (h : List.Forall₂ FilterEntry.Later entries entries') (msg : Vsomeip.Message) :
    List.Forall₂ FilterEntry.Later entries (sweep entries' msg).1 := by
  rcases Nat.lt_or_ge kMaxPayloadBytes.toNat msg.payload.length with hOver | hCap
  · rw [sweep, if_pos hOver]
    exact h
  · obtain ⟨next', out, hLoop, hNext⟩ := FilterRegistry.applyEntries_later h msg.payload false
    rw [sweep_eq hCap hLoop]
    exact hNext

theorem sweep_quiet (h : List.Forall₂ FilterEntry.Later entries entries') {msg : Vsomeip.Message}
    (hQuiet : ¬ Remembered entries msg) :
    List.Forall₂ FilterEntry.Alike (sweep entries' msg).1 entries' ∧
      (sweep entries' msg).2 = (sweep entries msg).2 := by
  rcases Nat.lt_or_ge kMaxPayloadBytes.toNat msg.payload.length with hOver | hCap
  · rw [sweep, sweep, if_pos hOver, if_pos hOver]
    exact ⟨FilterEntry.alike_refl entries', rfl⟩
  · obtain ⟨next, next', out, hLoop, hLoop', hNext⟩ := FilterRegistry.applyEntries_quiet h msg.payload false
      fun e hMem hFits => by_contra fun hNot => hQuiet ⟨hCap, e, hMem, hFits, hNot⟩
    rw [sweep_eq hCap hLoop, sweep_eq hCap hLoop']
    exact ⟨hNext, rfl⟩

end Sweep

theorem dispatch_quietly (filters : FilterRegistry F) {event : HandlerKey} {samples : List Vsomeip.Message}
    (hEvent : ∀ msg ∈ samples, HandlerKey.ofMessage msg = event) :
    Quietly dispatch filters samples (fun msg => ¬ Remembered (filtersOf filters event) msg)
      (fun later => List.Forall₂ FilterEntry.Later (filtersOf filters event) (filtersOf later event))
      (fun left right => List.Forall₂ FilterEntry.Alike (filtersOf left event) (filtersOf right event)) := by
  have hSweep : ∀ (any : FilterRegistry F), ∀ msg ∈ samples,
      filtersOf (dispatch any msg).1 event = (sweep (filtersOf any event) msg).1 ∧
        (dispatch any msg).2 = (sweep (filtersOf any event) msg).2 :=
    fun any msg hMem => Prod.mk.inj (dispatch_sweep any (hEvent msg hMem))
  constructor
  case first => exact FilterEntry.later_refl _
  case refl => exact fun _ => FilterEntry.alike_refl _
  case trans => exact fun h h' => FilterEntry.alike_trans h h'
  case reached =>
    intro later msg hMem h
    rw [(hSweep later msg hMem).1]
    exact sweep_later h msg
  case alike =>
    intro left right msg hMem h
    rw [(hSweep left msg hMem).1, (hSweep left msg hMem).2, (hSweep right msg hMem).1, (hSweep right msg hMem).2]
    exact sweep_alike h msg
  case quiet =>
    intro later msg hMem hQuiet h
    rw [(hSweep later msg hMem).1, (hSweep later msg hMem).2, (hSweep filters msg hMem).2]
    exact sweep_quiet h hQuiet

/-- At most one of the subscribers dispatches samples that reach a filter with a memory. -/
def OneRemembered (filters : FilterRegistry F) (event : HandlerKey) (subscribers : Nat)
    (samples : List Vsomeip.Message) (schedule : List Nat) : Prop :=
  ∀ i < subscribers, ∀ j < subscribers,
    (∃ msg ∈ samples.take (schedule.count i), Remembered (filtersOf filters event) msg) →
      (∃ msg ∈ samples.take (schedule.count j), Remembered (filtersOf filters event) msg) → i = j

/-- When only one subscriber dispatches samples that a filter remembers, every subscriber is given the stream of
the samples that it has handled, each filtered once. -/
theorem run_served (b : BridgeState F) (event : HandlerKey) (calls : List SubscribeCall)
    (samples : List Vsomeip.Message) (hEvent : ∀ msg ∈ samples, HandlerKey.ofMessage msg = event)
    (schedule : List Nat) (hOne : OneRemembered b.filters event calls.length samples schedule) :
    ∀ sub ∈ (run (start b event calls samples) schedule).threads,
      Served dispatch b.filters samples sub.dispatches := by
  intro sub hMem
  -- the one that dispatches such samples, if there is one
  obtain ⟨k, hOthers⟩ : ∃ k, ∀ j < calls.length, j ≠ k → ∀ msg ∈ samples.take (schedule.count j),
      ¬ Remembered (filtersOf b.filters event) msg := by
    rcases Classical.em (∃ k < calls.length, ∃ msg ∈ samples.take (schedule.count k),
      Remembered (filtersOf b.filters event) msg) with ⟨k, hLt, hLeads⟩ | hNone
    · exact ⟨k, fun j hBound hNe msg hTaken hReached =>
        hNe (hOne j hBound k hLt ⟨msg, hTaken, hReached⟩ hLeads)⟩
    · exact ⟨0, fun j hBound _ msg hTaken hReached => hNone ⟨j, hBound, msg, hTaken, hReached⟩⟩
  have hServed := (run_led (dispatch_quietly b.filters hEvent) hOthers).served
  rw [← run_map b event calls hEvent schedule] at hServed
  obtain ⟨j, hThread⟩ := List.mem_iff_getElem?.mp hMem
  refine hServed j sub.dispatches ?_
  simp [Threads.Config.map, hThread]

/-- `vsomeip_set_filter` with a moving average of weight 1/2, two subscribers, and the samples 0 and 4. -/
def halvedSpeed : BridgeState ExactSample :=
  Bridge.setFilter Bridge.initial 0x1234 0x5678 0x8001 1 0 (.finite (1 / 2))

def speedEvent : HandlerKey := ⟨0x1234, 0x5678, 0x8001⟩

def speedSample (payload : Bytes) : Vsomeip.Message :=
  { Vsomeip.createMessage with
    service := 0x1234
    instanceId := 0x5678
    method := 0x8001
    messageType := Vsomeip.MT_NOTIFICATION
    payload }

def speedSamples : List Vsomeip.Message :=
  [speedSample [0, 0, 0, 0], speedSample [0, 0, 0x80, 0x40]]

theorem run_served_speed :
    Served dispatch halvedSpeed.filters speedSamples
      ⟨[], speedSamples, [Bridge.postOf (speedSample []) [0, 0, 0, 0],
        Bridge.postOf (speedSample []) [0, 0, 0, 0x40]]⟩ :=
  run_served halvedSpeed speedEvent [⟨4096, 1, 7⟩] speedSamples (by decide) [0, 0]
    (fun i hFirst j hSecond _ _ => by
      simp at hFirst hSecond
      omega)
    ⟨4096, _⟩ (by decide +kernel)

/-- The second of two subscribers is given 3 for the sample 4, and not 2. -/
theorem second_subscriber_skewed :
    ¬ ∀ (b : BridgeState ExactSample) (event : HandlerKey) (calls : List SubscribeCall)
      (samples : List Vsomeip.Message), (∀ msg ∈ samples, HandlerKey.ofMessage msg = event) →
      ∀ schedule, ∀ sub ∈ (run (start b event calls samples) schedule).threads,
        Served dispatch b.filters samples sub.dispatches := by
  intro hServed
  have hOnce : ∀ sub ∈ (run (start halvedSpeed speedEvent [⟨4096, 1, 7⟩, ⟨8192, 1, 8⟩] speedSamples)
      [0, 1, 0, 1]).threads,
      sub.dispatches.received = stream dispatch halvedSpeed.filters sub.dispatches.handled :=
    fun sub hMem => (hServed _ _ _ _ (by decide) _ sub hMem).once
  revert hOnce
  decide +kernel

end SharedFilters

end VsomeipDart
