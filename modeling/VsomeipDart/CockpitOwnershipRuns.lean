import VsomeipDart.CockpitOwnership

/-! # No screen orphans what it owns, unless connections overlap -/

namespace VsomeipDart
set_option autoImplicit false

open DroneSim

namespace CockpitScreenState

variable {D F : Type} {s s' : CockpitScreenState D F} {overlapped outdated stuck : Prop}

section Control

theorem Linked.allocCtrlBuf (h : Linked s) {buffer : Option Nat} {t : CockpitScreenState D F} {buf : Nat}
    (hAlloc : s.allocCtrlBuf buffer = some (t, buf)) :
    ∃ heap, t = { s with heap, ctrlBuf := some buf } ∧ ∀ addr, (heap addr).isSome ↔ addr = buf := by
  have hBuffer := h.buffer
  unfold CockpitScreenState.allocCtrlBuf at hAlloc
  split at hAlloc
  · rename_i own hOwn
    obtain ⟨rfl, rfl⟩ := Prod.mk.inj (Option.some.inj hAlloc)
    refine ⟨s.heap, ?_, fun addr => ?_⟩
    · rw [← hOwn]
    · rw [hBuffer, hOwn, Option.some.injEq, eq_comm]
  · rename_i hNone
    cases buffer with
    | none => cases hAlloc
    | some addr =>
      rw [Option.bind_eq_bind, Option.bind_some] at hAlloc
      split_ifs at hAlloc with hTaken
      obtain ⟨rfl, rfl⟩ := Prod.mk.inj (Option.some.inj hAlloc)
      refine ⟨s.heap.put addr (), rfl, fun other => ?_⟩
      rw [Heap.isSome_put, hBuffer, hNone]
      exact or_iff_left nofun

variable [FloatOps F] [DoubleOps D F]

theorem Linked.sendControlInput (h : Linked s) (hMounted : s.mounted = true) (buffer : Option Nat) (send : Bool) :
    ∃ s', s.sendControlInput buffer send = some s' ∧ Keeps s s' := by
  have hStays : Keeps s s := h.keeps s.screen s.shown s.stale s.bridgeLib s.bridge.filters id
  unfold CockpitScreenState.sendControlInput
  split
  · rename_i handle hHandle hLibrary
    cases hAlloc : s.allocCtrlBuf buffer with
    | none => exact ⟨s, rfl, hStays⟩
    | some result =>
      obtain ⟨t, buf⟩ := result
      obtain ⟨heap, rfl, hHeap⟩ := h.allocCtrlBuf hAlloc
      have hWrite : heap.write buf () = some (heap.put buf ()) := if_pos ((hHeap buf).mpr rfl)
      dsimp only
      rw [hWrite]
      refine ⟨_, rfl, ?_⟩
      exact {
        buffer := fun addr => by
          rw [Heap.isSome_put, hHeap, or_self, Option.some.injEq, eq_comm]
        subscription := rfl
        bridgeLib := id
        handle := rfl
        eventsPort := rfl
        openPorts := rfl
        waiting := rfl
        mounted := rfl
        connected := rfl
        watchdogTimer := rfl
        live := fun other => by
          cases send with
          | false => exact Iff.rfl
          | true => exact iff_of_eq (congrArg (· = true) (Bridge.isSome_sendFireForget ..))
        app := fun {_ app} hApp => by
          cases send with
          | false => exact ⟨app.sent, hApp⟩
          | true => exact Bridge.getApp_sendFireForget hApp _ _ _ _ _ _
        gone := fun hGone => absurd (hGone.symm.trans hMounted) Bool.false_ne_true }
  · exact ⟨s, rfl, hStays⟩

end Control

section Wait

theorem Holds.erase (h : Holds overlapped outdated stuck s) (i : Nat) :
    Holds overlapped outdated stuck { s with waiting := s.waiting.eraseIdx i } where
  linked := { h.linked with }
  stopped hMounted := { h.stopped hMounted with }
  gone hFree hMounted := { h.gone hFree hMounted with }
  orphan := h.orphan
  tidy hNot := { h.tidy hNot with }
  fitted hNot hTimely hFree := {
    connected := (h.fitted hNot hTimely hFree).connected
    waiting := fun hMounted handle port hMem =>
      (h.fitted hNot hTimely hFree).waiting hMounted handle port (List.mem_of_mem_eraseIdx hMem)
    single := fun hMounted =>
      (List.eraseIdx_sublist ..).countP_le.trans ((h.fitted hNot hTimely hFree).single hMounted) }

/-- Only one `_connect` waits. -/
theorem Fitted.none_else (h : Fitted s) (hMounted : s.mounted = true) {i : Nat} {handle : Handle} {port : DartPort}
    (hCall : s.waiting[i]? = some (.connect handle port)) :
    ∀ handle' port', Waiting.connect handle' port' ∉ s.waiting.eraseIdx i := by
  obtain ⟨hLt, hEq⟩ := List.getElem?_eq_some_iff.mp hCall
  rw [← countP_connect]
  have hPerm := (List.getElem_cons_eraseIdx_perm hLt).countP_eq Waiting.IsConnect
  rw [hEq, List.countP_cons_of_pos rfl] at hPerm
  have hSingle := h.single hMounted
  omega

theorem application_sent (port : DartPort) (sent : List Vsomeip.Message) :
    Cockpit.subscribed.foldl (fun app event => app.registerMessageHandler ⟨SERVICE_ID, INSTANCE_ID, event⟩ port)
      { Vsomeip.Application.create with sent } = { Cockpit.application port with sent } := by
  have hRun : ∀ (events : List UInt16) (app : Vsomeip.Application),
      events.foldl (fun app event => app.registerMessageHandler ⟨SERVICE_ID, INSTANCE_ID, event⟩ port)
        { app with sent } =
      { events.foldl (fun app event =>
          app.registerMessageHandler ⟨SERVICE_ID, INSTANCE_ID, event⟩ port) app with sent } := by
    intro events
    induction events with
    | nil => exact fun _ => rfl
    | cons event rest ih => exact fun app => ih (app.registerMessageHandler ⟨SERVICE_ID, INSTANCE_ID, event⟩ port)
  exact hRun Cockpit.subscribed .create

theorem Holds.subscribe (h : Holds overlapped outdated stuck s)
    (hIdle : ¬ overlapped → ¬ outdated → ¬ stuck → s.mounted = true →
      s.connected = false ∧ ∀ handle port, Waiting.connect handle port ∉ s.waiting)
    (handle : Handle) (port : DartPort) : Holds overlapped outdated stuck (s.subscribe handle port) := by
  have hLive : ∀ other, (s.subscribe handle port).Live other ↔ s.Live other := fun other => by
    rw [Live, Live, CockpitScreenState.subscribe, isSome_subscribe_all]
  exact {
    linked := { h.linked with live := fun other hOther => (hLive other).mpr (h.linked.live other hOther) }
    stopped := fun hMounted => { h.stopped hMounted with }
    gone := fun hFree hMounted => { h.gone hFree hMounted with }
    orphan := h.orphan
    tidy := fun hNot => { h.tidy hNot with
      handle := fun other hOther => (h.tidy hNot).handle other ((hLive other).mp hOther) }
    fitted := fun hNot hTimely hFree => {
      connected := fun hMounted hTrue =>
        absurd ((hIdle hNot hTimely hFree hMounted).1.symm.trans hTrue) Bool.false_ne_true
      waiting := fun hMounted other port' hMem =>
        absurd hMem ((hIdle hNot hTimely hFree hMounted).2 other port')
      single := (h.fitted hNot hTimely hFree).single } }

variable [FloatOps F]

theorem Linked.keeps_setFilters (h : Linked s) : Keeps s s.setFilters := by
  obtain ⟨filters, hEq⟩ := setFilters_eq s
  rw [hEq]
  exact h.keeps s.screen s.shown s.stale s.bridgeLib filters id

theorem Holds.finishConnect (h : Holds overlapped outdated stuck s) {i : Nat} {handle : Handle} {port : DartPort}
    (hCall : s.waiting[i]? = some (.connect handle port)) (wiring : Wiring) :
    Holds overlapped outdated stuck ({ s with waiting := s.waiting.eraseIdx i }.finishConnect handle port wiring) := by
  have hErased := h.erase i
  have hMem := List.mem_of_getElem? hCall
  have hSubscribed := hErased.subscribe (fun hNot hTimely hFree hMounted =>
    ⟨((h.fitted hNot hTimely hFree).waiting hMounted handle port hMem).1,
      (h.fitted hNot hTimely hFree).none_else hMounted hCall⟩) handle port
  cases wiring with
  | noRequestService error => exact hErased.setStatus _
  | noSubscribe error => exact hErased.setStatus _
  | noSetFilter error => exact hSubscribed.setStatus _
  | wired now =>
    have hFiltered := hSubscribed.keep hSubscribed.linked.keeps_setFilters
    unfold CockpitScreenState.finishConnect
    dsimp only
    split
    · rename_i hMounted
      exact {
        linked := { hFiltered.linked with }
        stopped := fun hGone => absurd (hGone.symm.trans hMounted) Bool.false_ne_true
        gone := fun _ hGone => absurd (hGone.symm.trans hMounted) Bool.false_ne_true
        orphan := hFiltered.orphan
        tidy := fun hNot => { hFiltered.tidy hNot with }
        fitted := fun hNot hTimely hFree => {
          connected := fun _ _ => by
            obtain ⟨-, hHandle, hPort, sent, hApp⟩ := (h.fitted hNot hTimely hFree).waiting hMounted handle port hMem
            have hAll := (Cockpit.subscribe_all s.bridge handle port Cockpit.subscribed hApp).1
            rw [application_sent] at hAll
            obtain ⟨sent', hSet⟩ := hSubscribed.linked.keeps_setFilters.app hAll
            exact ⟨rfl, handle, port, hHandle, hPort, sent', hSet⟩
          waiting := fun _ other port' hOther =>
            absurd hOther ((h.fitted hNot hTimely hFree).none_else hMounted hCall other port')
          single := (hFiltered.fitted hNot hTimely hFree).single } }
    · exact hFiltered

end Wait

section Steps

theorem Holds.awaitReconnect (h : Holds overlapped outdated stuck s) :
    Holds overlapped outdated stuck { s with waiting := s.waiting ++ [.reconnect] } where
  linked := { h.linked with }
  stopped hMounted := { h.stopped hMounted with }
  gone hFree hMounted := { h.gone hFree hMounted with }
  orphan := h.orphan
  tidy hNot := { h.tidy hNot with }
  fitted hNot hTimely hFree := {
    connected := (h.fitted hNot hTimely hFree).connected
    waiting := fun hMounted handle port hMem => by
      rcases List.mem_append.mp hMem with hOld | hLast
      · exact (h.fitted hNot hTimely hFree).waiting hMounted handle port hOld
      · cases List.mem_singleton.mp hLast
    single := fun hMounted => by
      rw [List.countP_append]
      exact (h.fitted hNot hTimely hFree).single hMounted }

/-- A connected screen does not wait for a connection. -/
theorem Fitted.not_waiting (h : Fitted s) (hMounted : s.mounted = true) (hConnected : s.connected = true) :
    ∀ handle port, Waiting.connect handle port ∉ s.waiting := fun handle port hMem =>
  absurd ((h.waiting hMounted handle port hMem).1.symm.trans hConnected) Bool.false_ne_true

section Watchdog

variable [DoubleOps D F]

theorem Holds.reconnect (h : Holds overlapped outdated stuck s) {destroy : Option String}
    (hStuck : destroy.isSome → s.handle.isSome → stuck) :
    ∃ s', s.reconnect destroy = some s' ∧ Holds overlapped outdated stuck s' := by
  unfold CockpitScreenState.reconnect
  split
  · exact ⟨s, rfl, h⟩
  · rename_i hConnected
    rw [Bool.not_eq_true', Bool.not_eq_false] at hConnected
    obtain ⟨s', error, hEq, hLeft⟩ := h.disconnect hStuck fun hNot hTimely hFree hMounted =>
      (h.fitted hNot hTimely hFree).not_waiting hMounted hConnected
    rw [hEq]
    refine ⟨_, rfl, ?_⟩
    split
    · exact hLeft
    · exact hLeft.awaitReconnect

theorem Holds.watchdog (h : Holds overlapped outdated stuck s) (now : Int) {destroy : Option String}
    (hStuck : destroy.isSome → s.handle.isSome → stuck) :
    ∃ s', s.watchdog now destroy = some s' ∧ Holds overlapped outdated stuck s' := by
  unfold CockpitScreenState.watchdog
  dsimp only
  split_ifs
  · exact ⟨s, rfl, h⟩
  · exact h.reconnect hStuck
  · obtain ⟨screen, hScreen⟩ := setStatus_eq { s with stale := true } "Link stalled — reconnecting"
    rw [hScreen]
    exact (h.shows screen true).reconnect hStuck
  · exact ⟨_, rfl, (h.shows s.screen false).setStatus _⟩
  · exact ⟨s, rfl, h⟩

end Watchdog

variable [FloatOps F] [DoubleOps D F]

theorem Holds.onPortMessage (h : Holds overlapped outdated stuck s) (clock : Nat → Int) (msg : DartObject) :
    Holds overlapped outdated stuck (s.onPortMessage clock msg) := by
  unfold CockpitScreenState.onPortMessage
  split
  · split_ifs
    · exact h.shows _ s.stale
    · exact h.shows _ s.stale
  · exact h

theorem Holds.joystick (h : Holds overlapped outdated stuck s) (hMounted : s.mounted = true)
    (ctrl : Cockpit.Controls D) (active : Bool) (buffer : Option Nat) (send : Bool) :
    ∃ s', s.joystick ctrl active buffer send = some s' ∧ Holds overlapped outdated stuck s' := by
  have hMoved : Holds overlapped outdated stuck { s with ctrl, ctrlTimer := s.ctrlTimer || active } := {
    linked := { h.linked with }
    stopped := fun hGone => absurd (hGone.symm.trans hMounted) Bool.false_ne_true
    gone := fun _ hGone => absurd (hGone.symm.trans hMounted) Bool.false_ne_true
    orphan := h.orphan
    tidy := fun hNot => { h.tidy hNot with }
    fitted := fun hNot hTimely hFree => { h.fitted hNot hTimely hFree with } }
  unfold CockpitScreenState.joystick
  dsimp only
  split_ifs
  · obtain ⟨s', hEq, hKeeps⟩ := hMoved.linked.sendControlInput hMounted buffer send
    exact ⟨s', hEq, hMoved.keep hKeeps⟩
  · exact ⟨_, rfl, hMoved⟩

omit [FloatOps F] in
/-- The rest of `_disconnect` in a screen that is gone. -/
theorem Holds.dispose (h : Holds overlapped outdated stuck s) {destroy : Option String}
    (hStuck : destroy.isSome → s.handle.isSome → stuck) :
    ∃ s', ({ s with mounted := false }.disconnect destroy).map Prod.fst = some s' ∧
      Holds overlapped outdated stuck s' := by
  have hLinked : Linked { s with mounted := false } := { h.linked with }
  obtain ⟨s', error, hEq, hLeft | ⟨⟨heap, hEmpty, rfl⟩, hMissing, hThere⟩⟩ := hLinked.disconnect destroy
  · refine ⟨s', by rw [hEq]; rfl, hLeft.linked, fun _ => hLeft.released.toStopped, fun _ _ => hLeft.released,
      fun hOver => orphan_disconnect hLeft (h.orphan hOver), fun hNot => ?_,
      fun _ _ _ => fitted_disconnect hLeft nofun nofun⟩
    have hTidy : Tidy { s with mounted := false } := { h.tidy hNot with }
    exact hTidy.disconnect hLeft
  · refine ⟨_, by rw [hEq]; rfl, ?_⟩
    exact {
      linked := { h.linked with
        buffer := fun addr => by
          dsimp only
          rw [hEmpty]
          exact iff_of_false Bool.false_ne_true nofun }
      stopped := fun _ => ⟨rfl, rfl, rfl⟩
      gone := fun hFree => absurd (hStuck hMissing hThere) hFree
      orphan := h.orphan
      tidy := fun hNot => { h.tidy hNot with }
      fitted := fun _ _ hFree => absurd (hStuck hMissing hThere) hFree }

omit [FloatOps F] in
/-- The button; an up-to-date one disconnects only what is connected. -/
theorem Holds.press (h : Holds overlapped outdated stuck s) (hMounted : s.mounted = true) (setup : Setup)
    (destroy : Option String) :
    ∃ s', (if s.shown then (s.disconnect destroy).map Prod.fst else s.connect setup destroy) = some s' ∧
      Holds (overlapped ∨ s.Overlaps (.press setup destroy)) (outdated ∨ s.Outdated (.press setup destroy))
        (stuck ∨ s.Stuck (.press setup destroy)) s' := by
  have hStuck : destroy.isSome → s.handle.isSome → stuck ∨ s.Stuck (.press setup destroy) :=
    fun hMissing hThere => .inr ⟨hMissing, hThere⟩
  cases hShown : s.shown with
  | true =>
    have hNone : s.opens (.press setup destroy) = none := by simp [opens, hShown]
    have hLate : Holds (overlapped ∨ s.Overlaps (.press setup destroy)) (outdated ∨ s.Outdated (.press setup destroy))
        (stuck ∨ s.Stuck (.press setup destroy)) s := h.weaken (by simp [Overlaps, hNone]) Or.inl Or.inl
    obtain ⟨s', error, hEq, hLeft⟩ := hLate.disconnect hStuck fun hNot hTimely hFree _ => by
      refine (hLate.fitted hNot hTimely hFree).not_waiting hMounted ?_
      by_contra hConnected
      refine hTimely (Or.inr ⟨fun hSame => hConnected ?_, setup, destroy, rfl⟩)
      rw [← hSame, hShown]
    exact ⟨s', by rw [if_pos rfl, hEq]; rfl, hLeft⟩
  | false =>
    have hOpens : s.opens (.press setup destroy) = s.opened setup := by simp [opens, hMounted, hShown]
    have hLate : Holds overlapped outdated (stuck ∨ s.Stuck (.press setup destroy)) s := h.weaken Iff.rfl id Or.inl
    obtain ⟨s', hEq, hNext⟩ := hLate.connect hMounted setup hStuck
    refine ⟨s', hEq, hNext.weaken ?_ Or.inl id⟩
    rw [Overlaps, hOpens]

theorem Holds.goOn (h : Holds overlapped outdated stuck s) {i : Nat} {call : Waiting}
    (hCall : s.waiting[i]? = some call) (setup : Setup) (wiring : Wiring) (destroy : Option String) :
    ∃ s', { s with waiting := s.waiting.eraseIdx i }.goOn setup wiring destroy call = some s' ∧
      Holds (overlapped ∨ s.Overlaps (.resume i setup wiring destroy)) outdated
        (stuck ∨ s.Stuck (.resume i setup wiring destroy)) s' := by
  have hLate : Holds overlapped outdated (stuck ∨ s.Stuck (.resume i setup wiring destroy)) s :=
    h.weaken Iff.rfl id Or.inl
  cases call with
  | connect handle port =>
    have hNone : s.opens (.resume i setup wiring destroy) = none := by simp [opens, hCall]
    exact ⟨_, rfl, (hLate.finishConnect hCall wiring).weaken (by simp [Overlaps, hNone]) id id⟩
  | reconnect =>
    by_cases hMounted : s.mounted = true
    case neg =>
      have hNone : s.opens (.resume i setup wiring destroy) = none := by simp [opens, hMounted]
      exact ⟨_, if_neg hMounted, (hLate.erase i).weaken (by simp [Overlaps, hNone]) id id⟩
    case pos =>
      have hOpens : s.opens (.resume i setup wiring destroy) = s.opened setup := by simp [opens, hMounted, hCall]
      obtain ⟨s', hEq, hNext⟩ := (hLate.erase i).connect hMounted setup fun hMissing hThere =>
        .inr ⟨hMissing, hThere⟩
      have hOpened : ({ s with waiting := s.waiting.eraseIdx i } : CockpitScreenState D F).opened setup =
          s.opened setup := by
        cases setup <;> rfl
      rw [hOpened] at hNext
      refine ⟨s', (if_pos hMounted).trans hEq, hNext.weaken ?_ id id⟩
      rw [Overlaps, hOpens]

theorem Holds.step (h : Holds overlapped outdated stuck s) (event : CockpitEvent D) :
    ∃ s', s.step event = some s' ∧
      Holds (overlapped ∨ s.Overlaps event) (outdated ∨ s.Outdated event) (stuck ∨ s.Stuck event) s' := by
  -- most events open no port
  have hQuiet : ∀ {s' : CockpitScreenState D F}, s.opens event = none →
      Holds overlapped outdated (stuck ∨ s.Stuck event) s' →
      Holds (overlapped ∨ s.Overlaps event) (outdated ∨ s.Outdated event) (stuck ∨ s.Stuck event) s' := by
    intro s' hNone hNext
    refine hNext.weaken ?_ Or.inl id
    rw [Overlaps, hNone]
    simp
  have hLate : Holds overlapped outdated (stuck ∨ s.Stuck event) s := h.weaken Iff.rfl id Or.inl
  cases event with
  | build =>
    refine ⟨_, rfl, hQuiet rfl ?_⟩
    split
    · exact hLate.keep (h.linked.keeps s.screen s.connected s.stale s.bridgeLib s.bridge.filters id)
    · exact hLate
  | press setup destroy =>
    cases hMounted : s.mounted with
    | false =>
      have hNone : s.opens (.press setup destroy) = none := by simp [opens, hMounted]
      exact ⟨s, if_neg (by simp [hMounted]), hQuiet hNone hLate⟩
    | true =>
      obtain ⟨s', hEq, hNext⟩ := h.press hMounted setup destroy
      exact ⟨s', (if_pos hMounted).trans hEq, hNext⟩
  | joystick ctrl active buffer send =>
    cases hMounted : s.mounted with
    | false => exact ⟨s, if_neg (by simp [hMounted]), hQuiet rfl hLate⟩
    | true =>
      obtain ⟨s', hEq, hNext⟩ := hLate.joystick hMounted ctrl active buffer send
      exact ⟨s', (if_pos hMounted).trans hEq, hQuiet rfl hNext⟩
  | ctrlTick buffer send =>
    cases hTimer : s.ctrlTimer with
    | false => exact ⟨s, if_neg (by simp [hTimer]), hQuiet rfl hLate⟩
    | true =>
      have hMounted : s.mounted = true := by
        by_contra hGone
        rw [Bool.not_eq_true] at hGone
        exact absurd ((h.stopped hGone).ctrlTimer.symm.trans hTimer) Bool.false_ne_true
      obtain ⟨s', hEq, hKeeps⟩ := h.linked.sendControlInput hMounted buffer send
      exact ⟨s', (if_pos hTimer).trans hEq, hQuiet rfl (hLate.keep hKeeps)⟩
  | watchdogTick now destroy =>
    cases hTimer : s.watchdogTimer with
    | false => exact ⟨s, if_neg (by simp [hTimer]), hQuiet rfl hLate⟩
    | true =>
      obtain ⟨s', hEq, hNext⟩ := hLate.watchdog now fun hMissing hThere => .inr ⟨hMissing, hThere⟩
      exact ⟨s', (if_pos hTimer).trans hEq, hQuiet rfl hNext⟩
  | portMessage port clock msg =>
    refine ⟨_, rfl, hQuiet rfl ?_⟩
    split
    · exact hLate.onPortMessage clock msg
    · exact hLate
  | resume i setup wiring destroy =>
    cases hCall : s.waiting[i]? with
    | none =>
      have hStays : s.step (.resume i setup wiring destroy) = some s := by rw [CockpitScreenState.step, hCall]
      exact ⟨s, hStays, hQuiet (by simp [opens, hCall]) hLate⟩
    | some call =>
      obtain ⟨s', hEq, hNext⟩ := h.goOn hCall setup wiring destroy
      refine ⟨s', ?_, hNext.weaken Iff.rfl Or.inl id⟩
      rw [CockpitScreenState.step, hCall]
      exact hEq
  | dispose destroy =>
    cases hMounted : s.mounted with
    | false => exact ⟨s, if_neg (by simp [hMounted]), hQuiet rfl hLate⟩
    | true =>
      have hStuck : destroy.isSome → s.handle.isSome → stuck ∨ Stuck s (.dispose destroy) :=
        fun hMissing hThere => .inr ⟨hMissing, hThere⟩
      obtain ⟨s', hEq, hNext⟩ := hLate.dispose hStuck
      exact ⟨s', (if_pos hMounted).trans hEq, hQuiet rfl hNext⟩

def Comes (condition : CockpitScreenState D F → CockpitEvent D → Prop) :
    CockpitScreenState D F → List (CockpitEvent D) → Prop
  | _, [] => False
  | s, event :: rest => condition s event ∨ ∃ s', s.step event = some s' ∧ Comes condition s' rest

theorem Holds.run (h : Holds overlapped outdated stuck s) (events : List (CockpitEvent D)) :
    ∃ s', s.run events = some s' ∧
      Holds (overlapped ∨ Comes Overlaps s events) (outdated ∨ Comes Outdated s events)
        (stuck ∨ Comes Stuck s events) s' := by
  induction events generalizing s overlapped outdated stuck with
  | nil => exact ⟨s, rfl, h.weaken (by simp [Comes]) Or.inl Or.inl⟩
  | cons event rest ih =>
    obtain ⟨s₁, hStep, hNext⟩ := h.step event
    obtain ⟨s', hRun, hLast⟩ := ih hNext
    have hComes : ∀ condition : CockpitScreenState D F → CockpitEvent D → Prop,
        Comes condition s (event :: rest) ↔ condition s event ∨ Comes condition s₁ rest := by
      intro condition
      simp only [Comes, hStep, Option.some.injEq, exists_eq_left']
    refine ⟨s', ?_, ?_⟩
    · rw [CockpitScreenState.run, List.foldlM_cons, hStep]
      exact hRun
    · rw [hComes, hComes, hComes, ← or_assoc, ← or_assoc, ← or_assoc]
      exact hLast

omit [FloatOps F] in
theorem holds_create (filters : FilterRegistry F) :
    Holds False False False (create filters : CockpitScreenState D F) where
  linked := ⟨fun _ => iff_of_false Bool.false_ne_true nofun, rfl, nofun, nofun, nofun⟩
  stopped := nofun
  gone _ := nofun
  orphan := False.elim
  tidy _ := ⟨nofun, nofun⟩
  fitted _ _ _ := ⟨nofun, nofun, fun _ => Nat.zero_le 1⟩

/-- In every run the buffer is freed once and never used behind that. A screen that is gone has stopped, and holds
nothing if no application was stuck. An application or a port is orphaned if and only if connections overlap. Without
any of these, and with a button that is up to date, a connected screen has its events. -/
theorem nothing_orphaned (filters : FilterRegistry F) (events : List (CockpitEvent D)) :
    let start : CockpitScreenState D F := create filters
    ∃ s, start.run events = some s ∧
      (∀ addr, (s.heap addr).isSome ↔ s.ctrlBuf = some addr) ∧
      (s.mounted = false → Stopped s ∧ (¬ Comes Stuck start events → Released s)) ∧
      (s.Orphaned ↔ Comes Overlaps start events) ∧
      (¬ Comes Overlaps start events → ¬ Comes Outdated start events → ¬ Comes Stuck start events →
        s.mounted = true → s.connected = true → s.watchdogTimer = true ∧
          ∃ handle port, s.handle = some handle ∧ s.eventsPort = some port ∧ s.Subscribed handle port) := by
  intro start
  obtain ⟨s, hRun, hHolds⟩ := (holds_create filters : Holds False False False start).run events
  rw [false_or, false_or, false_or] at hHolds
  refine ⟨s, hRun, hHolds.linked.buffer, fun hGone => ⟨hHolds.stopped hGone, fun hFree => hHolds.gone hFree hGone⟩,
    ⟨?_, fun hOver => .inr (hHolds.orphan hOver)⟩, fun hNot hTimely hFree => (hHolds.fitted hNot hTimely hFree).connected⟩
  intro hOrphaned
  by_contra hNot
  have hTidy := hHolds.tidy hNot
  rcases hOrphaned with ⟨handle, hLive, hOther⟩ | ⟨port, hOpen, hOther⟩
  · exact hOther (hTidy.handle handle hLive)
  · exact hOther (hTidy.port port hOpen)

/-- The button is pressed a second time while the first `_connect` waits. -/
example (filters : FilterRegistry F) : Comes Overlaps (create filters : CockpitScreenState D F)
    [.press (.created 5 1) none, .press (.created 6 2) none] :=
  .inr ⟨_, rfl, .inl ⟨rfl, rfl⟩⟩

/-- A screen that is gone while its application is stuck. -/
example (filters : FilterRegistry F) : ∃ s, (create filters : CockpitScreenState D F).run
    [.press (.created 5 1) none, .dispose (some "undefined symbol")] = some s ∧ s.mounted = false ∧
      s.handle = some 1 :=
  ⟨_, rfl, rfl, rfl⟩

end Steps

end CockpitScreenState

end VsomeipDart
