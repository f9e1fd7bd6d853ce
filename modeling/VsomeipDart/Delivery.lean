import VsomeipDart.Bridge

/-! # What the delivery of one message posts

Every matching handler posts the message once, to its own port; the payload of a post is what the filters
leave of it when that handler is called.
-/

namespace VsomeipDart
set_option autoImplicit false

namespace Bridge

def postsTo (port : DartPort) (posts : List (HandlerKey × DartPort × MessagePost)) :
    List MessagePost :=
  posts.filterMap fun post => if post.2.1 = port then some post.2.2 else none

theorem postsTo_cons (port : DartPort) (key : HandlerKey) (own : DartPort) (post : MessagePost)
    (posts : List (HandlerKey × DartPort × MessagePost)) :
    postsTo port ((key, own, post) :: posts) =
      if own = port then post :: postsTo port posts else postsTo port posts := by
  by_cases h : own = port <;> simp [postsTo, h]

theorem postsTo_same (port : DartPort) (post : MessagePost)
    (handlers : List (HandlerKey × DartPort)) :
    postsTo port (handlers.map fun handler => (handler.1, handler.2, post)) =
      List.replicate ((handlers.map Prod.snd).count port) post := by
  induction handlers with
  | nil => rfl
  | cons handler rest ih =>
    rw [List.map_cons, postsTo_cons, List.map_cons, List.count_cons, ih]
    by_cases hPort : handler.2 = port <;> simp [hPort, List.replicate_succ]

variable {F : Type} [FloatOps F]

theorem callHandlers_cons {filters filters' : FilterRegistry F} {msg : Vsomeip.Message}
    {payload : Bytes} (h : msg.payload.length ≤ kMaxPayloadBytes.toNat)
    (hPayload : filteredPayload filters msg = some (filters', payload)) (key : HandlerKey)
    (port : DartPort) (rest : List (HandlerKey × DartPort)) :
    callHandlers filters msg ((key, port) :: rest) =
      (callHandlers filters' msg rest).map
        fun out => (out.1, (key, port, postOf msg payload) :: out.2) := by
  rw [callHandlers, dispatchMessage_eq h hPayload]
  show (callHandlers filters' msg rest).bind _ = _
  cases callHandlers filters' msg rest <;> rfl

theorem callHandlers_oversize (filters : FilterRegistry F) {msg : Vsomeip.Message}
    (h : kMaxPayloadBytes.toNat < msg.payload.length) (handlers : List (HandlerKey × DartPort)) :
    callHandlers filters msg handlers = some (filters, []) := by
  induction handlers with
  | nil => rfl
  | cons handler rest ih =>
    rw [callHandlers, dispatchMessage_oversize h]
    show (callHandlers filters msg rest).bind _ = _
    rw [ih]
    rfl

theorem callHandlers_posts (filters : FilterRegistry F) {msg : Vsomeip.Message}
    (h : msg.payload.length ≤ kMaxPayloadBytes.toNat) (handlers : List (HandlerKey × DartPort)) :
    ∃ filters' posts, callHandlers filters msg handlers = some (filters', posts) ∧
      posts.map (fun post => (post.1, post.2.1)) = handlers ∧
      ∀ post ∈ posts, ∃ payload, payload.length = msg.payload.length ∧
        post.2.2 = postOf msg payload := by
  induction handlers generalizing filters with
  | nil => exact ⟨filters, [], rfl, rfl, fun _ hMem => absurd hMem List.not_mem_nil⟩
  | cons handler rest ih =>
    obtain ⟨key, own⟩ := handler
    obtain ⟨filters₁, payload, hPayload, hLength⟩ := filteredPayload_total filters msg
    obtain ⟨filters', posts, hCall, hHandlers, hPosts⟩ := ih filters₁
    refine ⟨filters', (key, own, postOf msg payload) :: posts, ?_, ?_, ?_⟩
    · rw [callHandlers_cons h hPayload, hCall]
      rfl
    · rw [List.map_cons, hHandlers]
    · intro post hMem
      rcases List.mem_cons.mp hMem with rfl | hMem
      · exact ⟨payload, hLength, rfl⟩
      · exact hPosts post hMem

theorem postsTo_length (port : DartPort) (posts : List (HandlerKey × DartPort × MessagePost)) :
    (postsTo port posts).length = ((posts.map fun post => (post.1, post.2.1)).map Prod.snd).count
      port := by
  induction posts with
  | nil => rfl
  | cons post rest ih =>
    obtain ⟨key, own, sent⟩ := post
    rw [postsTo_cons, List.map_cons, List.map_cons, List.count_cons, ← ih]
    by_cases hPort : own = port <;> simp [hPort]

/-- As many messages go to a port as there are handlers for it. -/
theorem callHandlers_count {filters filters' : FilterRegistry F} {msg : Vsomeip.Message}
    (h : msg.payload.length ≤ kMaxPayloadBytes.toNat) {handlers : List (HandlerKey × DartPort)}
    {posts : List (HandlerKey × DartPort × MessagePost)}
    (hCall : callHandlers filters msg handlers = some (filters', posts)) (port : DartPort) :
    (postsTo port posts).length = (handlers.map Prod.snd).count port := by
  obtain ⟨filters₁, posts₁, hCall₁, hHandlers, -⟩ := callHandlers_posts filters h handlers
  obtain ⟨rfl, rfl⟩ := Prod.mk.inj (Option.some.inj (hCall₁.symm.trans hCall))
  rw [postsTo_length, hHandlers]

/-- The one message for a port stands where the handler for that port is called. -/
theorem posts_at {filters filters' : FilterRegistry F} {msg : Vsomeip.Message}
    (h : msg.payload.length ≤ kMaxPayloadBytes.toNat) {front back : List (HandlerKey × DartPort)}
    {key : HandlerKey} {port : DartPort} {posts : List (HandlerKey × DartPort × MessagePost)}
    (hCall : callHandlers filters msg (front ++ (key, port) :: back) = some (filters', posts))
    {sent : MessagePost} (hPosts : postsTo port posts = [sent]) :
    posts[front.length]? = some (key, port, sent) := by
  obtain ⟨filters₁, posts₁, hCall₁, hHandlers, -⟩ :=
    callHandlers_posts filters h (front ++ (key, port) :: back)
  obtain ⟨rfl, rfl⟩ := Prod.mk.inj (Option.some.inj (hCall₁.symm.trans hCall))
  have hAt := congrArg (fun handlers => handlers[front.length]?) hHandlers
  simp only [List.getElem?_map, List.getElem?_append_right (Nat.le_refl _), Nat.sub_self,
    List.getElem?_cons_zero, Option.map_eq_some_iff, Prod.mk.injEq] at hAt
  obtain ⟨⟨key', port', post⟩, hPost, rfl, rfl⟩ := hAt
  have hMem : post ∈ postsTo port' posts₁ :=
    List.mem_filterMap.mpr ⟨_, List.mem_of_getElem? hPost, if_pos rfl⟩
  rw [hPosts, List.mem_singleton] at hMem
  rw [hPost, hMem]

theorem callHandlers_none_iff {filters filters' : FilterRegistry F} {msg : Vsomeip.Message}
    (h : msg.payload.length ≤ kMaxPayloadBytes.toNat) {handlers : List (HandlerKey × DartPort)}
    {posts : List (HandlerKey × DartPort × MessagePost)}
    (hCall : callHandlers filters msg handlers = some (filters', posts)) (port : DartPort) :
    postsTo port posts = [] ↔ port ∉ handlers.map Prod.snd := by
  rw [← List.length_eq_zero_iff, callHandlers_count h hCall, List.count_eq_zero]

theorem callHandlers_total (filters : FilterRegistry F) (msg : Vsomeip.Message)
    (handlers : List (HandlerKey × DartPort)) :
    ∃ filters' posts, callHandlers filters msg handlers = some (filters', posts) := by
  by_cases h : msg.payload.length ≤ kMaxPayloadBytes.toNat
  · obtain ⟨filters', posts, hCall, -⟩ := callHandlers_posts filters h handlers
    exact ⟨filters', posts, hCall⟩
  · exact ⟨filters, [], callHandlers_oversize filters (by omega) handlers⟩

theorem deliver_some {s : BridgeState F} {handle : Handle} {app : Vsomeip.Application}
    (hApp : getApp s handle = some app) {msg : Vsomeip.Message} {filters' : FilterRegistry F}
    {posts : List (HandlerKey × DartPort × MessagePost)}
    (hCall : callHandlers s.filters msg (app.matching msg) = some (filters', posts)) :
    deliver s handle msg = some ({ s with filters := filters' }, posts) := by
  rw [deliver, hApp]
  dsimp only
  rw [hCall]
  rfl

theorem deliver_posts {s s' : BridgeState F} {handle : Handle} {app : Vsomeip.Application}
    (hApp : getApp s handle = some app) {msg : Vsomeip.Message}
    {posts : List (HandlerKey × DartPort × MessagePost)}
    (hDeliver : deliver s handle msg = some (s', posts)) :
    (∀ post ∈ posts, app.handlers.lookup post.1 = some post.2.1 ∧ post.1.Matches msg = true ∧
      msg.payload.length ≤ kMaxPayloadBytes.toNat ∧
      ∃ payload, payload.length = msg.payload.length ∧ post.2.2 = postOf msg payload) ∧
    (msg.payload.length ≤ kMaxPayloadBytes.toNat →
      posts.map (fun post => (post.1, post.2.1)) = app.matching msg) := by
  by_cases h : msg.payload.length ≤ kMaxPayloadBytes.toNat
  · obtain ⟨filters', posts', hCall, hHandlers, hPosts⟩ :=
      callHandlers_posts s.filters h (app.matching msg)
    rw [deliver_some hApp hCall] at hDeliver
    cases hDeliver
    refine ⟨fun post hMem => ?_, fun _ => hHandlers⟩
    have hHandler : (post.1, post.2.1) ∈ app.matching msg := by
      rw [← hHandlers]
      exact List.mem_map.mpr ⟨post, hMem, rfl⟩
    obtain ⟨hLookup, hMatches⟩ := Vsomeip.Application.mem_matching.mp hHandler
    exact ⟨hLookup, hMatches, h, hPosts post hMem⟩
  · rw [deliver_some hApp (callHandlers_oversize s.filters (by omega) (app.matching msg))]
      at hDeliver
    cases hDeliver
    exact ⟨fun post hMem => absurd hMem List.not_mem_nil, fun hLength => absurd hLength h⟩

theorem postsTo_eq_nil {port : DartPort} {posts : List (HandlerKey × DartPort × MessagePost)}
    (h : ∀ post ∈ posts, post.2.1 ≠ port) : postsTo port posts = [] :=
  List.filterMap_eq_nil_iff.mpr fun post hMem => if_neg (h post hMem)

theorem deliver_total (s : BridgeState F) (handle : Handle) (msg : Vsomeip.Message) :
    ∃ s' posts, deliver s handle msg = some (s', posts) := by
  cases hApp : getApp s handle with
  | none => exact ⟨s, [], by rw [deliver, hApp]⟩
  | some app =>
    obtain ⟨filters', posts, hCall⟩ := callHandlers_total s.filters msg (app.matching msg)
    exact ⟨_, posts, deliver_some hApp hCall⟩

end Bridge

end VsomeipDart
