import VsomeipDart.ExactSample
import VsomeipDart.SteadyFilters

/-! # Requests for offered services

A run of the bridge is a list of calls and of messages that vsomeip delivers, to the matching handlers in an
order of its own. Which port a service was offered with is read off the calls, since the bridge does not
keep it.
-/

namespace VsomeipDart
set_option autoImplicit false

structure HandlerOrder where
  arrange : List (HandlerKey × DartPort) → List (HandlerKey × DartPort)
  perm : ∀ handlers, (arrange handlers).Perm handlers

namespace HandlerOrder

def registered : HandlerOrder := ⟨id, fun handlers => .refl handlers⟩

/-- The order that calls `handler` behind `k` others. -/
def placing (handler : HandlerKey × DartPort) (k : Nat) : HandlerOrder where
  arrange handlers :=
    if handler ∈ handlers then
      (handlers.erase handler).take k ++ handler :: (handlers.erase handler).drop k
    else handlers
  perm handlers := by
    split
    · rename_i hMem
      refine List.perm_middle.trans ?_
      rw [List.take_append_drop]
      exact (List.perm_cons_erase hMem).symm
    · exact List.Perm.refl handlers

theorem placing_arrange {handler : HandlerKey × DartPort} {handlers : List (HandlerKey × DartPort)}
    (hMem : handler ∈ handlers) {k : Nat} (hk : k < handlers.length) :
    ∃ front back, (placing handler k).arrange handlers = front ++ handler :: back ∧
      front.length = k := by
  refine ⟨_, _, if_pos hMem, List.length_take_of_le ?_⟩
  rw [List.length_erase_of_mem hMem]
  omega

end HandlerOrder

inductive BridgeCall (F : Type) where
  | appCreate (handle : Handle)
  | appDestroy (handle : Handle)
  | offerService (handle : Handle) (svc inst : UInt16) (requestsPort : DartPort)
  | stopOfferService (handle : Handle) (svc inst : UInt16)
  | registerMessageHandler (handle : Handle) (key : HandlerKey) (eventsPort : DartPort)
  | unregisterMessageHandler (handle : Handle) (key : HandlerKey)
  | subscribe (handle : Handle) (svc inst group evt : UInt16) (eventsPort : DartPort)
  | setFilter (svc inst evt : UInt16) (filterType : UInt8) (payloadOffset : UInt16) (param : F)
  | clearFilter (svc inst evt : UInt16)
  | deliver (handle : Handle) (msg : Vsomeip.Message) (order : HandlerOrder)

namespace BridgeCall

variable {F : Type}

def offer (handle : Handle) (svc inst : UInt16) (current : Option DartPort) :
    BridgeCall F → Option DartPort
  | offerService h s i port => if h = handle ∧ s = svc ∧ i = inst then some port else current
  | stopOfferService h s i => if h = handle ∧ s = svc ∧ i = inst then none else current
  | appCreate h => if h = handle then none else current
  | appDestroy h => if h = handle then none else current
  | _ => current

def offeredPort (handle : Handle) : BridgeCall F → Option DartPort
  | offerService h _ _ port => if h = handle then some port else none
  | _ => none

end BridgeCall

namespace Bridge

section Runs

variable {F : Type}

/-- The port of the offer of a service that is in force after the calls. -/
def requestsPort (calls : List (BridgeCall F)) (handle : Handle) (svc inst : UInt16) :
    Option DartPort :=
  calls.foldl (BridgeCall.offer handle svc inst) none

def requestsPorts (calls : List (BridgeCall F)) (handle : Handle) : List DartPort :=
  calls.filterMap (BridgeCall.offeredPort handle)

variable [FloatOps F]

def deliverIn (order : HandlerOrder) (s : BridgeState F) (handle : Handle) (msg : Vsomeip.Message) :
    Option (BridgeState F × List (HandlerKey × DartPort × MessagePost)) :=
  match getApp s handle with
  | none => some (s, [])
  | some app => do
    let (filters, posts) ← callHandlers s.filters msg (order.arrange (app.matching msg))
    return ({ s with filters }, posts)

theorem deliverIn_some {s : BridgeState F} {handle : Handle} {app : Vsomeip.Application}
    (hApp : getApp s handle = some app) {msg : Vsomeip.Message} {order : HandlerOrder}
    {filters' : FilterRegistry F} {posts : List (HandlerKey × DartPort × MessagePost)}
    (hCall : callHandlers s.filters msg (order.arrange (app.matching msg)) =
      some (filters', posts)) :
    deliverIn order s handle msg = some ({ s with filters := filters' }, posts) := by
  rw [deliverIn, hApp]
  dsimp only
  rw [hCall]
  rfl

theorem deliverIn_registered (s : BridgeState F) (handle : Handle) (msg : Vsomeip.Message) :
    deliverIn .registered s handle msg = deliver s handle msg := rfl

theorem deliverIn_total (order : HandlerOrder) (s : BridgeState F) (handle : Handle)
    (msg : Vsomeip.Message) : ∃ s' posts, deliverIn order s handle msg = some (s', posts) := by
  cases hApp : getApp s handle with
  | none => exact ⟨s, [], by rw [deliverIn, hApp]⟩
  | some app =>
    obtain ⟨filters', posts, hCall⟩ :=
      callHandlers_total s.filters msg (order.arrange (app.matching msg))
    exact ⟨_, posts, deliverIn_some hApp hCall⟩

def exec (s : BridgeState F) :
    BridgeCall F → Option (BridgeState F × List (HandlerKey × DartPort × MessagePost))
  | .appCreate handle => some (appCreate s handle, [])
  | .appDestroy handle => some (appDestroy s handle, [])
  | .offerService handle svc inst port => some (offerService s handle svc inst port, [])
  | .stopOfferService handle svc inst => some (stopOfferService s handle svc inst, [])
  | .registerMessageHandler handle key port => some (registerMessageHandler s handle key port, [])
  | .unregisterMessageHandler handle key => some (unregisterMessageHandler s handle key, [])
  | .subscribe handle svc inst group evt port =>
    some (subscribe s handle svc inst group evt port, [])
  | .setFilter svc inst evt type offset param => some (setFilter s svc inst evt type offset param, [])
  | .clearFilter svc inst evt => some (clearFilter s svc inst evt, [])
  | .deliver handle msg order => deliverIn order s handle msg

theorem exec_total (s : BridgeState F) (call : BridgeCall F) : ∃ out, exec s call = some out := by
  cases call with
  | deliver handle msg order =>
    obtain ⟨s', posts, hDeliver⟩ := deliverIn_total order s handle msg
    exact ⟨(s', posts), hDeliver⟩
  | _ => exact ⟨_, rfl⟩

def run (calls : List (BridgeCall F)) :
    Option (BridgeState F × List (List (HandlerKey × DartPort × MessagePost))) :=
  Mealy.run? exec initial calls

/-- A request of at most 1 MiB that is delivered to a live application in the run `calls`. -/
structure DeliveredRequest (calls : List (BridgeCall F)) where
  before : List (BridgeCall F)
  handle : Handle
  msg : Vsomeip.Message
  order : HandlerOrder
  after : List (BridgeCall F)
  s : BridgeState F
  outputs : List (List (HandlerKey × DartPort × MessagePost))
  app : Vsomeip.Application
  split : calls = before ++ .deliver handle msg order :: after
  reached : run before = some (s, outputs)
  live : getApp s handle = some app
  isRequest : msg.messageType = Vsomeip.MT_REQUEST ∨ msg.messageType = Vsomeip.MT_REQUEST_NO_RETURN
  length_le : msg.payload.length ≤ kMaxPayloadBytes.toNat

namespace DeliveredRequest

variable {calls : List (BridgeCall F)} (d : DeliveredRequest calls)

def offered : Option DartPort := requestsPort d.before d.handle d.msg.service d.msg.instanceId

/-- Whatever the order of the handlers, the request goes once, as it is, to the port of the offer; a
request for a service that is not offered goes to no port of an offer. -/
def Posted : Prop :=
  ∀ order, ∃ s' posts, deliverIn order d.s d.handle d.msg = some (s', posts) ∧
    match d.offered with
    | some port => postsTo port posts = [postOf d.msg d.msg.payload]
    | none => ∀ port ∈ requestsPorts d.before d.handle, postsTo port posts = []

/-- Of the handlers that the application registered itself and that match the request, exactly one posts
to the port of the offer, and every filter of the request's method gives back the float of the request as
often as there are such handlers; without an offer, none posts to a port of an offer. -/
def OwnHandler : Prop :=
  match d.offered with
  | some port => ((d.app.matching d.msg).map Prod.snd).count port = 1 ∧
      ∀ e ∈ entriesOf d.s.filters d.msg, e.Repeats (d.app.matching d.msg).length d.msg.payload
  | none => ∀ port ∈ requestsPorts d.before d.handle, port ∉ (d.app.matching d.msg).map Prod.snd

theorem posted_of_own (hOwn : d.OwnHandler) : d.Posted := by
  intro order
  have hPerm := order.perm (d.app.matching d.msg)
  unfold OwnHandler at hOwn
  cases hOffered : d.offered with
  | some port =>
    rw [hOffered] at hOwn
    obtain ⟨hOnce, hRepeats⟩ := hOwn
    rw [← hPerm.length_eq] at hRepeats
    rw [← (hPerm.map Prod.snd).count_eq] at hOnce
    obtain ⟨filters', hCall⟩ := callHandlers_repeats d.length_le _ hRepeats
    refine ⟨_, _, deliverIn_some d.live hCall, ?_⟩
    dsimp only
    rw [postsTo_same, hOnce]
    rfl
  | none =>
    rw [hOffered] at hOwn
    obtain ⟨filters', posts, hCall⟩ := callHandlers_total d.s.filters d.msg
      (order.arrange (d.app.matching d.msg))
    refine ⟨_, posts, deliverIn_some d.live hCall, fun port hMem => ?_⟩
    refine (callHandlers_none_iff d.length_le hCall port).mpr fun hPort => hOwn port hMem ?_
    exact (hPerm.map Prod.snd).mem_iff.mp hPort

/-- The handler for the port is called behind any number of the others, so that its filters have to repeat
the request every time. -/
theorem own_of_posted (hApart : FilterRegistry.WindowsApart (entriesOf d.s.filters d.msg))
    (hPosted : d.Posted) : d.OwnHandler := by
  unfold OwnHandler
  cases hOffered : d.offered with
  | some port =>
    have hCalled : ∀ order : HandlerOrder, ∃ filters' posts, callHandlers d.s.filters d.msg
        (order.arrange (d.app.matching d.msg)) = some (filters', posts) ∧
        postsTo port posts = [postOf d.msg d.msg.payload] := by
      intro order
      obtain ⟨filters', posts, hCall⟩ := callHandlers_total d.s.filters d.msg
        (order.arrange (d.app.matching d.msg))
      obtain ⟨s', posts', hDeliver, hPosts⟩ := hPosted order
      rw [deliverIn_some d.live hCall] at hDeliver
      cases hDeliver
      rw [hOffered] at hPosts
      exact ⟨filters', posts, hCall, hPosts⟩
    have hOnce : ((d.app.matching d.msg).map Prod.snd).count port = 1 := by
      obtain ⟨filters', posts, hCall, hPosts⟩ := hCalled .registered
      change callHandlers d.s.filters d.msg (d.app.matching d.msg) = _ at hCall
      rw [← callHandlers_count d.length_le hCall port, hPosts]
      rfl
    refine ⟨hOnce, fun e hMem => FilterEntry.repeats_iff.mpr fun k hk => ?_⟩
    obtain ⟨⟨key, own⟩, hHandler, rfl⟩ := List.mem_map.mp
      (List.count_pos_iff.mp (hOnce ▸ Nat.one_pos : 0 < _))
    obtain ⟨front, back, hOrder, rfl⟩ := HandlerOrder.placing_arrange hHandler hk
    obtain ⟨filters', posts, hCall, hPosts⟩ := hCalled (.placing (key, own) front.length)
    rw [hOrder] at hCall
    refine callHandlers_apart d.length_le front hApart hCall ?_ e hMem
    exact posts_at d.length_le hCall hPosts
  | none =>
    intro port hMem
    obtain ⟨filters', posts, hCall⟩ := callHandlers_total d.s.filters d.msg (d.app.matching d.msg)
    obtain ⟨s', posts', hDeliver, hPosts⟩ := hPosted .registered
    rw [deliverIn_some d.live hCall] at hDeliver
    cases hDeliver
    rw [hOffered] at hPosts
    exact (callHandlers_none_iff d.length_le hCall port).mp (hPosts port hMem)

end DeliveredRequest

/-- In every run, a request reaches the port of its offer where the application registered a handler for
that itself, since the offer adds none; over filters whose floats share no byte, only there. -/
theorem requests_posted_iff (calls : List (BridgeCall F)) :
    (∃ s outputs, run calls = some (s, outputs)) ∧
      ((∀ d : DeliveredRequest calls, d.OwnHandler) → ∀ d : DeliveredRequest calls, d.Posted) ∧
      ∀ d : DeliveredRequest calls, FilterRegistry.WindowsApart (entriesOf d.s.filters d.msg) →
        (d.Posted ↔ d.OwnHandler) := by
  obtain ⟨⟨s, outputs⟩, hRun⟩ := Mealy.run?_total (exec_total (F := F)) initial calls
  exact ⟨⟨s, outputs, hRun⟩, fun hOwn d => d.posted_of_own (hOwn d),
    fun d hApart => ⟨d.own_of_posted hApart, d.posted_of_own⟩⟩

end Runs

theorem offered_request_lost :
    ¬ ∀ d : DeliveredRequest (F := ExactSample) [.appCreate 1, .offerService 1 0x1111 1 77,
      .deliver 1 ⟨0x1111, 1, 0x0421, Vsomeip.MT_REQUEST, Vsomeip.E_OK, 0x1277, 3, [42]⟩
        .registered], d.Posted := by
  intro h
  have hPosted := h {
    before := [.appCreate 1, .offerService 1 0x1111 1 77]
    handle := 1
    msg := ⟨0x1111, 1, 0x0421, Vsomeip.MT_REQUEST, Vsomeip.E_OK, 0x1277, 3, [42]⟩
    order := .registered
    after := []
    s := offerService (appCreate initial 1) 1 0x1111 1 77
    outputs := [[], []]
    app := Vsomeip.Application.create.offerService 0x1111 1
    split := rfl
    reached := rfl
    live := rfl
    isRequest := Or.inl rfl
    length_le := by decide }
  obtain ⟨s', posts, hDeliver, hPosts⟩ := hPosted .registered
  cases hDeliver
  cases hPosts

end Bridge

end VsomeipDart
