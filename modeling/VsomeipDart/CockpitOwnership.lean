import VsomeipDart.CockpitConnection
import VsomeipDart.CockpitTelemetry

/-! # What a screen of the cockpit owns

An application or a port is orphaned when it is there and the screen does not know it any more: nothing will ever
destroy or close it. It comes to that exactly if a connection is opened while another one is.
-/

namespace VsomeipDart
set_option autoImplicit false

open DroneSim

def Waiting.IsConnect : Waiting → Bool
  | connect .. => true
  | reconnect => false

namespace CockpitScreenState

variable {D F : Type} {s s' : CockpitScreenState D F}

def Live (s : CockpitScreenState D F) (handle : Handle) : Prop := (Bridge.getApp s.bridge handle).isSome

def Orphaned (s : CockpitScreenState D F) : Prop :=
  (∃ handle, s.Live handle ∧ s.handle ≠ some handle) ∨ ∃ port ∈ s.openPorts, s.eventsPort ≠ some port

/-- The application has the handlers of `_connect`, which post to the port. -/
def Subscribed (s : CockpitScreenState D F) (handle : Handle) (port : DartPort) : Prop :=
  ∃ sent, Bridge.getApp s.bridge handle = some { Cockpit.application port with sent }

def opened (s : CockpitScreenState D F) (setup : Setup) : Option DartPort :=
  if s.possible setup then setup.port? else none

def opens (s : CockpitScreenState D F) : CockpitEvent D → Option DartPort
  | .press setup _ => if s.mounted && !s.shown then s.opened setup else none
  | .resume i setup _ _ => if s.mounted && s.waiting[i]? == some .reconnect then s.opened setup else none
  | _ => none

/-- A connection is opened while the port of another one is open. -/
def Overlaps (s : CockpitScreenState D F) (event : CockpitEvent D) : Prop :=
  (s.opens event).isSome ∧ s.eventsPort.isSome

/-- The button is pressed before it is built anew. -/
def Outdated (s : CockpitScreenState D F) (event : CockpitEvent D) : Prop :=
  s.shown ≠ s.connected ∧ ∃ setup destroy, event = .press setup destroy

/-- There is an application, and `vsomeip_app_destroy` is not there. -/
def Stuck (s : CockpitScreenState D F) (event : CockpitEvent D) : Prop :=
  event.destroy?.isSome ∧ s.handle.isSome

/-- What holds in every run. -/
structure Linked (s : CockpitScreenState D F) : Prop where
  buffer : ∀ addr, (s.heap addr).isSome ↔ s.ctrlBuf = some addr
  subscription : s.portSubscription = s.eventsPort
  library : s.handle.isSome → s.bridgeLib = true ∧ s.eventsPort.isSome
  live : ∀ handle, s.handle = some handle → s.Live handle
  listening : ∀ port, s.eventsPort = some port → port ∈ s.openPorts

structure Stopped (s : CockpitScreenState D F) : Prop where
  ctrlBuf : s.ctrlBuf = none
  ctrlTimer : s.ctrlTimer = false
  watchdogTimer : s.watchdogTimer = false

structure Released (s : CockpitScreenState D F) : Prop extends Stopped s where
  handle : s.handle = none
  eventsPort : s.eventsPort = none

structure Tidy (s : CockpitScreenState D F) : Prop where
  handle : ∀ handle, s.Live handle → s.handle = some handle
  port : ∀ port ∈ s.openPorts, s.eventsPort = some port

/-- A connected screen has its events, and a call that waits sets up the connection that there is. -/
structure Fitted (s : CockpitScreenState D F) : Prop where
  connected : s.mounted = true → s.connected = true → s.watchdogTimer = true ∧
    ∃ handle port, s.handle = some handle ∧ s.eventsPort = some port ∧ s.Subscribed handle port
  waiting : s.mounted = true → ∀ handle port, .connect handle port ∈ s.waiting →
    s.connected = false ∧ s.handle = some handle ∧ s.eventsPort = some port ∧
      ∃ sent, Bridge.getApp s.bridge handle = some { Vsomeip.Application.create with sent }
  single : s.mounted = true → s.waiting.countP Waiting.IsConnect ≤ 1

theorem isSome_subscribe_all {b : BridgeState F} {handle other : Handle} (nativePortId : DartPort) (events : List UInt16) :
    (Bridge.getApp (events.foldl (fun b event =>
      Bridge.subscribe b handle SERVICE_ID INSTANCE_ID Cockpit.eventgroupId event nativePortId) b) other).isSome =
      (Bridge.getApp b other).isSome := by
  induction events generalizing b with
  | nil => rfl
  | cons event rest ih =>
    rw [List.foldl_cons, ih, Bridge.subscribe, Bridge.registerMessageHandler]
    cases hApp : Bridge.getApp b handle with
    | none => rfl
    | some app => exact Bridge.isSome_withApp _

theorem filters_foldl {α : Type} {step : BridgeState F → α → BridgeState F}
    (hStep : ∀ b call, ∃ filters, step b call = { b with filters }) (calls : List α) (b : BridgeState F) :
    ∃ filters, calls.foldl step b = { b with filters } := by
  induction calls generalizing b with
  | nil => exact ⟨b.filters, rfl⟩
  | cons call rest ih =>
    obtain ⟨first, hFirst⟩ := hStep b call
    obtain ⟨filters, hRest⟩ := ih (step b call)
    exact ⟨filters, by rw [List.foldl_cons, hRest, hFirst]⟩

theorem setFilters_eq [FloatOps F] (s : CockpitScreenState D F) :
    ∃ filters, s.setFilters = { s with bridge := { s.bridge with filters } } := by
  have hSet : ∃ filters, s.setFilters.bridge = { s.bridge with filters } := by
    rw [setFilters]
    exact filters_foldl (fun _ _ => ⟨_, rfl⟩) _ _
  obtain ⟨filters, hEq⟩ := hSet
  exact ⟨filters, by rw [← hEq]; rfl⟩

theorem setStatus_eq (s : CockpitScreenState D F) (status : String) :
    ∃ screen, s.setStatus status = { s with screen } := by
  rw [setStatus]
  split
  · exact ⟨_, rfl⟩
  · exact ⟨s.screen, rfl⟩

/-- The applications are the same, but for what they have sent, and everything that the screen owns, but for the
buffer. -/
structure Keeps (s s' : CockpitScreenState D F) : Prop where
  buffer : ∀ addr, (s'.heap addr).isSome ↔ s'.ctrlBuf = some addr
  subscription : s'.portSubscription = s.portSubscription
  bridgeLib : s.bridgeLib = true → s'.bridgeLib = true
  handle : s'.handle = s.handle
  eventsPort : s'.eventsPort = s.eventsPort
  openPorts : s'.openPorts = s.openPorts
  waiting : s'.waiting = s.waiting
  mounted : s'.mounted = s.mounted
  connected : s'.connected = s.connected
  watchdogTimer : s'.watchdogTimer = s.watchdogTimer
  live : ∀ handle, s'.Live handle ↔ s.Live handle
  app : ∀ {handle app}, Bridge.getApp s.bridge handle = some app →
    ∃ sent, Bridge.getApp s'.bridge handle = some { app with sent }
  gone : s.mounted = false → s'.ctrlBuf = s.ctrlBuf ∧ s'.ctrlTimer = s.ctrlTimer

/-- What holds after a run, with whether connections have overlapped, an outdated button was pressed, and an
application could not be destroyed. -/
structure Holds (overlapped outdated stuck : Prop) (s : CockpitScreenState D F) : Prop where
  linked : Linked s
  stopped : s.mounted = false → Stopped s
  gone : ¬ stuck → s.mounted = false → Released s
  orphan : overlapped → ∃ port ∈ s.openPorts, s.eventsPort ≠ some port
  tidy : ¬ overlapped → Tidy s
  fitted : ¬ overlapped → ¬ outdated → ¬ stuck → Fitted s

variable {overlapped outdated stuck : Prop}

theorem Linked.keep (h : Linked s) (hKeeps : Keeps s s') : Linked s' where
  buffer := hKeeps.buffer
  subscription := by
    rw [hKeeps.subscription, hKeeps.eventsPort]
    exact h.subscription
  library hSome := by
    rw [hKeeps.handle] at hSome
    rw [hKeeps.eventsPort]
    exact ⟨hKeeps.bridgeLib (h.library hSome).1, (h.library hSome).2⟩
  live handle hHandle := (hKeeps.live handle).mpr (h.live handle (hKeeps.handle ▸ hHandle))
  listening port hPort := by
    rw [hKeeps.openPorts]
    exact h.listening port (hKeeps.eventsPort ▸ hPort)

theorem Tidy.keep (h : Tidy s) (hKeeps : Keeps s s') : Tidy s' where
  handle handle hLive := by
    rw [hKeeps.handle]
    exact h.handle handle ((hKeeps.live handle).mp hLive)
  port port hPort := by
    rw [hKeeps.eventsPort]
    exact h.port port (hKeeps.openPorts ▸ hPort)

theorem Fitted.keep (h : Fitted s) (hKeeps : Keeps s s') : Fitted s' where
  connected hMounted hConnected := by
    rw [hKeeps.mounted] at hMounted
    rw [hKeeps.connected] at hConnected
    obtain ⟨hTimer, handle, port, hHandle, hPort, sent, hApp⟩ := h.connected hMounted hConnected
    obtain ⟨sent', hApp'⟩ := hKeeps.app hApp
    exact ⟨hKeeps.watchdogTimer.trans hTimer, handle, port, hKeeps.handle.trans hHandle,
      hKeeps.eventsPort.trans hPort, sent', hApp'⟩
  waiting hMounted handle port hMem := by
    rw [hKeeps.mounted] at hMounted
    rw [hKeeps.waiting] at hMem
    obtain ⟨hConnected, hHandle, hPort, sent, hApp⟩ := h.waiting hMounted handle port hMem
    obtain ⟨sent', hApp'⟩ := hKeeps.app hApp
    exact ⟨hKeeps.connected.trans hConnected, hKeeps.handle.trans hHandle, hKeeps.eventsPort.trans hPort, sent', hApp'⟩
  single hMounted := by
    rw [hKeeps.waiting]
    exact h.single (hKeeps.mounted ▸ hMounted)

theorem Stopped.keep (h : Stopped s) (hKeeps : Keeps s s') (hMounted : s.mounted = false) : Stopped s' where
  ctrlBuf := (hKeeps.gone hMounted).1.trans h.ctrlBuf
  ctrlTimer := (hKeeps.gone hMounted).2.trans h.ctrlTimer
  watchdogTimer := hKeeps.watchdogTimer.trans h.watchdogTimer

theorem Holds.keep (h : Holds overlapped outdated stuck s) (hKeeps : Keeps s s') : Holds overlapped outdated stuck s' where
  linked := h.linked.keep hKeeps
  stopped hMounted := by
    rw [hKeeps.mounted] at hMounted
    exact (h.stopped hMounted).keep hKeeps hMounted
  gone hNot hMounted := by
    rw [hKeeps.mounted] at hMounted
    have hReleased := h.gone hNot hMounted
    exact ⟨hReleased.toStopped.keep hKeeps hMounted, hKeeps.handle.trans hReleased.handle,
      hKeeps.eventsPort.trans hReleased.eventsPort⟩
  orphan hOverlapped := by
    rw [hKeeps.openPorts, hKeeps.eventsPort]
    exact h.orphan hOverlapped
  tidy hNot := (h.tidy hNot).keep hKeeps
  fitted hNot hTimely hFree := (h.fitted hNot hTimely hFree).keep hKeeps

section Disconnect

/-- What `_disconnect` leaves: the screen's own application and port are gone, and all others stay. -/
structure Disconnected (s s' : CockpitScreenState D F) : Prop where
  linked : Linked s'
  released : Released s'
  app : ∀ handle, Bridge.getApp s'.bridge handle = if s.handle = some handle then none else Bridge.getApp s.bridge handle
  port : ∀ port, port ∈ s'.openPorts ↔ port ∈ s.openPorts ∧ s.eventsPort ≠ some port
  waiting : s'.waiting = s.waiting
  mounted : s'.mounted = s.mounted
  connected : s.mounted = true → s'.connected = false

theorem Linked.freeCtrlBuf (h : Linked s) :
    ∃ heap, s.freeCtrlBuf = some { s with heap, ctrlBuf := none } ∧ ∀ addr, heap addr = none := by
  have hBuffer := h.buffer
  unfold CockpitScreenState.freeCtrlBuf
  split
  · rename_i hBuf
    refine ⟨s.heap, congrArg some ?_, fun addr => ?_⟩
    · rw [← hBuf]
    · rw [← Option.not_isSome_iff_eq_none, hBuffer, hBuf]
      exact nofun
  · rename_i buf hBuf
    have hOther : ∀ addr, (s.heap addr).isSome ↔ addr = buf := fun addr => by
      rw [hBuffer, hBuf, Option.some.injEq, eq_comm]
    have hFree : s.heap.free buf = some (Function.update s.heap buf none) := if_pos ((hOther buf).mpr rfl)
    refine ⟨Function.update s.heap buf none, by rw [hFree]; rfl, fun addr => ?_⟩
    rcases eq_or_ne addr buf with rfl | hNe
    · exact Function.update_self ..
    · rw [Function.update_of_ne hNe, ← Option.not_isSome_iff_eq_none, hOther]
      exact hNe

theorem Linked.destroyApp (h : Linked s) (destroy : Option String) :
    ((∃ error, s.destroyApp destroy = .error error) ∧ destroy.isSome ∧ s.handle.isSome) ∨
      ∃ bridge, s.destroyApp destroy = .ok { s with bridge } ∧
        ∀ handle, Bridge.getApp bridge handle =
          if s.handle = some handle then none else Bridge.getApp s.bridge handle := by
  have hLibrary := h.library
  obtain ⟨lookup, hLookup⟩ : ∃ lookup, lookup = destroy := ⟨_, rfl⟩
  unfold CockpitScreenState.destroyApp
  split
  · rename_i handle error hHandle hFound
    refine .inl ⟨⟨error, rfl⟩, rfl, ?_⟩
    rw [hHandle]
    rfl
  · rename_i handle hHandle hFound
    refine .inr ⟨Bridge.appDestroy s.bridge handle, rfl, fun other => ?_⟩
    simp only [Bridge.getApp_appDestroy, hHandle, Option.some.injEq, eq_comm]
  · rename_i hThrows hDestroys
    have hHandle : s.handle = none := by
      by_contra hSome
      obtain ⟨handle, hHandle⟩ := Option.ne_none_iff_exists'.mp hSome
      rw [hHandle] at hLibrary
      cases lookup with
      | none => exact hDestroys handle hHandle (hLibrary rfl).1 hLookup.symm
      | some error => exact hThrows handle error hHandle (hLibrary rfl).1 hLookup.symm
    refine .inr ⟨s.bridge, rfl, fun other => ?_⟩
    rw [if_neg (by rw [hHandle]; exact nofun)]

theorem mem_closePorts (h : s.portSubscription = s.eventsPort) (port : DartPort) :
    port ∈ s.closePorts.openPorts ↔ port ∈ s.openPorts ∧ s.eventsPort ≠ some port := by
  rw [closePorts]
  simp only [h, and_self, List.mem_filter, decide_eq_true_eq]
  rw [ne_comm]

/-- What `_disconnect` leaves when the application cannot be destroyed: all but the timers and the buffer. -/
def Stalled (s s' : CockpitScreenState D F) : Prop :=
  ∃ heap : Heap Unit, (∀ addr, heap addr = none) ∧
    s' = { s with watchdogTimer := false, stale := false, ctrlTimer := false, heap, ctrlBuf := none }

variable [DoubleOps D F]

theorem Linked.disconnect (h : Linked s) (destroy : Option String) : ∃ s' error,
    s.disconnect destroy = some (s', error) ∧
      (Disconnected s s' ∨ Stalled s s' ∧ destroy.isSome ∧ s.handle.isSome) := by
  have hStopped : Linked s.stopWatchdog.stopCtrlTimer := { h with }
  obtain ⟨heap, hFree, hEmpty⟩ := hStopped.freeCtrlBuf
  have hNone : ∀ addr, (heap addr).isSome ↔ none = some addr := fun addr => by
    rw [hEmpty]
    exact iff_of_false Bool.false_ne_true nofun
  have hFreed : Linked { s.stopWatchdog.stopCtrlTimer with heap, ctrlBuf := none } := { h with buffer := hNone }
  rcases hFreed.destroyApp destroy with ⟨⟨error, hDestroy⟩, hStuck⟩ | ⟨bridge, hDestroy, hApps⟩
  · refine ⟨_, some error, ?_, .inr ⟨⟨heap, hEmpty, rfl⟩, hStuck⟩⟩
    rw [CockpitScreenState.disconnect, hFree, Option.bind_eq_bind, Option.bind_some, hDestroy]
    rfl
  let left := { s.stopWatchdog.stopCtrlTimer with heap, ctrlBuf := none, bridge }.closePorts.forget
  have hEq : s.disconnect destroy =
      some (if s.mounted then { left with connected := false }.setStatus "Disconnected" else left, none) := by
    rw [CockpitScreenState.disconnect, hFree, Option.bind_eq_bind, Option.bind_some, hDestroy]
    rfl
  have hLeft : ∀ screen connected, (s.mounted = true → connected = false) →
      Disconnected s { left with screen, connected } := fun screen connected hConnected => {
    linked := ⟨hNone, rfl, nofun, nofun, nofun⟩
    released := ⟨⟨rfl, rfl, rfl⟩, rfl, rfl⟩
    app := hApps
    port := mem_closePorts h.subscription
    waiting := rfl
    mounted := rfl
    connected := hConnected }
  refine ⟨_, none, hEq, .inl ?_⟩
  split_ifs with hMounted
  · obtain ⟨screen, hScreen⟩ := setStatus_eq { left with connected := false } "Disconnected"
    rw [hScreen]
    exact hLeft screen false fun _ => rfl
  · exact hLeft left.screen left.connected fun hSome => absurd hSome hMounted

omit [DoubleOps D F] in
theorem Tidy.disconnect (h : Tidy s) (hLeft : Disconnected s s') : Tidy s' where
  handle handle hLive := by
    rw [Live, hLeft.app] at hLive
    split_ifs at hLive with hOwn
    · cases hLive
    · exact absurd (h.handle handle hLive) hOwn
  port port hPort := by
    obtain ⟨hOpen, hOther⟩ := (hLeft.port port).mp hPort
    exact absurd (h.port port hOpen) hOther

omit [DoubleOps D F] in
theorem fitted_disconnect (hLeft : Disconnected s s')
    (hNone : s.mounted = true → ∀ handle port, Waiting.connect handle port ∉ s.waiting)
    (hSingle : s.mounted = true → s.waiting.countP Waiting.IsConnect ≤ 1) : Fitted s' where
  connected hMounted hConnected := by
    rw [hLeft.connected (hLeft.mounted ▸ hMounted)] at hConnected
    cases hConnected
  waiting hMounted handle port hMem :=
    absurd (hLeft.waiting ▸ hMem) (hNone (hLeft.mounted ▸ hMounted) handle port)
  single hMounted := by
    rw [hLeft.waiting]
    exact hSingle (hLeft.mounted ▸ hMounted)

omit [DoubleOps D F] in
theorem orphan_disconnect (hLeft : Disconnected s s')
    (h : ∃ port ∈ s.openPorts, s.eventsPort ≠ some port) : ∃ port ∈ s'.openPorts, s'.eventsPort ≠ some port := by
  obtain ⟨port, hOpen, hOther⟩ := h
  refine ⟨port, (hLeft.port port).mpr ⟨hOpen, hOther⟩, ?_⟩
  rw [hLeft.released.eventsPort]
  exact nofun

end Disconnect

theorem Fitted.idle (h : Fitted s) (hMounted : s.mounted = true) (hPort : s.eventsPort = none) :
    s.connected = false ∧ ∀ handle port, Waiting.connect handle port ∉ s.waiting := by
  constructor
  · cases hConnected : s.connected with
    | false => rfl
    | true =>
      obtain ⟨-, handle, port, -, hSome, -⟩ := h.connected hMounted hConnected
      rw [hPort] at hSome
      cases hSome
  · intro handle port hMem
    obtain ⟨-, -, hSome, -⟩ := h.waiting hMounted handle port hMem
    rw [hPort] at hSome
    cases hSome

theorem countP_connect {waiting : List Waiting} :
    waiting.countP Waiting.IsConnect = 0 ↔ ∀ handle port, Waiting.connect handle port ∉ waiting := by
  rw [List.countP_eq_zero]
  constructor
  · intro h handle port hMem
    exact h _ hMem rfl
  · intro h call hMem
    cases call with
    | connect handle port => exact absurd hMem (h handle port)
    | reconnect => exact Bool.false_ne_true

/-- A new port is opened: the port that was open, if there was one, is orphaned. -/
theorem Holds.openPort (h : Holds overlapped outdated stuck s) (hMounted : s.mounted = true) {port : DartPort}
    (hNew : port ∉ s.openPorts) : Holds (overlapped ∨ s.eventsPort.isSome) outdated stuck (s.openPort port) where
  linked := {
    buffer := h.linked.buffer
    subscription := rfl
    library := fun _ => ⟨rfl, rfl⟩
    live := h.linked.live
    listening := fun other hOther => by
      cases hOther
      exact List.mem_cons_self }
  stopped hGone := absurd (hGone.symm.trans hMounted) Bool.false_ne_true
  gone _ hGone := absurd (hGone.symm.trans hMounted) Bool.false_ne_true
  orphan hOverlapped := by
    have hOld : ∃ other ∈ s.openPorts, True := by
      rcases hOverlapped with hBefore | hSome
      · obtain ⟨other, hOpen, -⟩ := h.orphan hBefore
        exact ⟨other, hOpen, trivial⟩
      · obtain ⟨other, hPort⟩ := Option.isSome_iff_exists.mp hSome
        exact ⟨other, h.linked.listening other hPort, trivial⟩
    obtain ⟨other, hOpen, -⟩ := hOld
    refine ⟨other, List.mem_cons_of_mem port hOpen, fun hSame => ?_⟩
    cases hSame
    exact hNew hOpen
  tidy hNot := by
    rw [not_or, Option.not_isSome_iff_eq_none] at hNot
    obtain ⟨hBefore, hNone⟩ := hNot
    have hTidy := h.tidy hBefore
    refine ⟨fun handle hLive => ?_, fun other hMem => ?_⟩
    · exact hTidy.handle handle hLive
    · rcases List.mem_cons.mp hMem with rfl | hOpen
      · rfl
      · have hOwn := hTidy.port other hOpen
        rw [hNone] at hOwn
        cases hOwn
  fitted hNot hTimely hFree := by
    rw [not_or, Option.not_isSome_iff_eq_none] at hNot
    have hFitted := h.fitted hNot.1 hTimely hFree
    obtain ⟨hConnected, hWaiting⟩ := hFitted.idle hMounted hNot.2
    exact ⟨fun _ hTrue => absurd (hConnected.symm.trans hTrue) Bool.false_ne_true,
      fun _ handle other hMem => absurd hMem (hWaiting handle other), hFitted.single⟩

/-- Nothing is changed but what is shown and the filters. -/
theorem Linked.keeps (h : Linked s) (screen : CockpitScreen D) (shown stale bridgeLib : Bool)
    (filters : FilterRegistry F) (hLibrary : s.bridgeLib = true → bridgeLib = true) :
    Keeps s { s with screen, shown, stale, bridgeLib, bridge := { s.bridge with filters } } where
  buffer := h.buffer
  subscription := rfl
  bridgeLib := hLibrary
  handle := rfl
  eventsPort := rfl
  openPorts := rfl
  waiting := rfl
  mounted := rfl
  connected := rfl
  watchdogTimer := rfl
  live _ := Iff.rfl
  app {_ app} hApp := ⟨app.sent, hApp⟩
  gone _ := ⟨rfl, rfl⟩

theorem Holds.shows (h : Holds overlapped outdated stuck s) (screen : CockpitScreen D) (stale : Bool) :
    Holds overlapped outdated stuck { s with screen, stale } :=
  h.keep (h.linked.keeps screen s.shown stale s.bridgeLib s.bridge.filters id)

theorem Holds.setStatus (h : Holds overlapped outdated stuck s) (status : String) :
    Holds overlapped outdated stuck (s.setStatus status) := by
  obtain ⟨screen, hEq⟩ := setStatus_eq s status
  rw [hEq]
  exact h.shows screen s.stale

theorem Holds.stalled (h : Holds overlapped outdated stuck s) (hStuck : stuck) (hStalled : Stalled s s') :
    Holds overlapped outdated stuck s' := by
  obtain ⟨heap, hEmpty, rfl⟩ := hStalled
  exact {
    linked := { h.linked with
      buffer := fun addr => by
        dsimp only
        rw [hEmpty]
        exact iff_of_false Bool.false_ne_true nofun }
    stopped := fun _ => ⟨rfl, rfl, rfl⟩
    gone := fun hFree => absurd hStuck hFree
    orphan := h.orphan
    tidy := fun hNot => { h.tidy hNot with }
    fitted := fun _ _ hFree => absurd hStuck hFree }

theorem Holds.disconnect [DoubleOps D F] (h : Holds overlapped outdated stuck s) {destroy : Option String}
    (hStuck : destroy.isSome → s.handle.isSome → stuck)
    (hNone : ¬ overlapped → ¬ outdated → ¬ stuck → s.mounted = true →
      ∀ handle port, Waiting.connect handle port ∉ s.waiting) :
    ∃ s' error, s.disconnect destroy = some (s', error) ∧ Holds overlapped outdated stuck s' := by
  obtain ⟨s', error, hEq, hLeft | ⟨hStalled, hMissing, hThere⟩⟩ := h.linked.disconnect destroy
  · refine ⟨s', error, hEq, hLeft.linked, fun _ => hLeft.released.toStopped, fun _ _ => hLeft.released,
      fun hOver => orphan_disconnect hLeft (h.orphan hOver), fun hNot => (h.tidy hNot).disconnect hLeft,
      fun hNot hTimely hFree => ?_⟩
    exact fitted_disconnect hLeft (hNone hNot hTimely hFree) (h.fitted hNot hTimely hFree).single
  · exact ⟨s', error, hEq, h.stalled (hStuck hMissing hThere) hStalled⟩

/-- The application of a new connection; without another connection there was no application before. -/
theorem Holds.created (h : Holds overlapped outdated stuck s) (hMounted : s.mounted = true) {port : DartPort}
    (hNew : port ∉ s.openPorts) (handle : Handle) : Holds (overlapped ∨ s.eventsPort.isSome) outdated stuck
      { s.openPort port with
        bridge := Bridge.appCreate (s.openPort port).bridge handle
        handle := some handle
        waiting := (s.openPort port).waiting ++ [.connect handle port] } := by
  have hOpen := h.openPort hMounted hNew
  have hApp : Bridge.getApp (Bridge.appCreate s.bridge handle) handle = some .create := by
    rw [Bridge.getApp_appCreate, if_pos rfl]
  refine ⟨⟨hOpen.linked.buffer, rfl, fun _ => ⟨rfl, rfl⟩, fun other hOther => ?_, hOpen.linked.listening⟩,
    fun hGone => absurd (hGone.symm.trans hMounted) Bool.false_ne_true,
    fun _ hGone => absurd (hGone.symm.trans hMounted) Bool.false_ne_true, hOpen.orphan,
    fun hNot => ⟨fun other hLive => ?_, (hOpen.tidy hNot).port⟩, fun hNot hTimely hFree => ?_⟩
  · cases hOther
    exact congrArg Option.isSome hApp
  · rw [not_or, Option.not_isSome_iff_eq_none] at hNot
    by_cases hSame : other = handle
    · rw [hSame]
    · have hOld : s.Live other := by
        rwa [Live, Bridge.getApp_appCreate, if_neg hSame] at hLive
      have hOwn := (h.tidy hNot.1).handle other hOld
      have hPort := (h.linked.library (by rw [hOwn]; rfl)).2
      rw [hNot.2] at hPort
      cases hPort
  · rw [not_or, Option.not_isSome_iff_eq_none] at hNot
    have hFitted := h.fitted hNot.1 hTimely hFree
    obtain ⟨hConnected, hWaiting⟩ := hFitted.idle hMounted hNot.2
    refine ⟨fun _ hTrue => absurd (hConnected.symm.trans hTrue) Bool.false_ne_true, fun _ other port' hMem => ?_, fun _ => ?_⟩
    · rcases List.mem_append.mp hMem with hOld | hLast
      · exact absurd hOld (hWaiting other port')
      · cases List.mem_singleton.mp hLast
        exact ⟨hConnected, rfl, rfl, [], hApp⟩
    · rw [List.countP_append]
      have hNone := countP_connect.mpr hWaiting
      exact Nat.le_of_eq (congrArg (· + 1) hNone)

theorem Holds.weaken (h : Holds overlapped outdated stuck s) {overlapped' outdated' stuck' : Prop}
    (hOver : overlapped' ↔ overlapped) (hOut : outdated → outdated') (hStuck : stuck → stuck') :
    Holds overlapped' outdated' stuck' s where
  linked := h.linked
  stopped := h.stopped
  gone hFree := h.gone fun hBefore => hFree (hStuck hBefore)
  orphan hNow := h.orphan (hOver.mp hNow)
  tidy hNot := h.tidy fun hBefore => hNot (hOver.mpr hBefore)
  fitted hNot hTimely hFree := h.fitted (fun hBefore => hNot (hOver.mpr hBefore))
    (fun hBefore => hTimely (hOut hBefore)) fun hBefore => hFree (hStuck hBefore)

section Connect

variable [DoubleOps D F]

theorem Holds.createFailed (h : Holds overlapped outdated stuck s) (hMounted : s.mounted = true) {port : DartPort}
    (hNew : port ∉ s.openPorts) {destroy : Option String} (hStuck : destroy.isSome → s.handle.isSome → stuck) :
    ∃ s', (s.openPort port).createFailed destroy = some s' ∧
      Holds (overlapped ∨ s.eventsPort.isSome) outdated stuck s' := by
  have hOpen := (h.openPort hMounted hNew).setStatus "vsomeip_app_create failed"
  obtain ⟨screen, hScreen⟩ := setStatus_eq (s.openPort port) "vsomeip_app_create failed"
  rw [hScreen] at hOpen
  obtain ⟨s', error, hEq, hLeft⟩ := hOpen.disconnect hStuck fun hNot hTimely hFree _ => by
    rw [not_or, Option.not_isSome_iff_eq_none] at hNot
    exact ((h.fitted hNot.1 hTimely hFree).idle hMounted hNot.2).2
  unfold CockpitScreenState.createFailed
  rw [hScreen, hEq]
  cases error with
  | none => exact ⟨s', rfl, hLeft⟩
  | some error => exact ⟨_, rfl, hLeft.setStatus _⟩

theorem Holds.connect (h : Holds overlapped outdated stuck s) (hMounted : s.mounted = true) (setup : Setup)
    {destroy : Option String} (hStuck : destroy.isSome → s.handle.isSome → stuck) :
    ∃ s', s.connect setup destroy = some s' ∧
      Holds (overlapped ∨ (s.opened setup).isSome ∧ s.eventsPort.isSome) outdated stuck s' := by
  obtain ⟨screen, hScreen⟩ := setStatus_eq s "Loading bridge..."
  have hShown : Holds overlapped outdated stuck { s with screen } := h.shows screen s.stale
  have hLoaded : Holds overlapped outdated stuck { s with screen, bridgeLib := true } :=
    h.keep (h.linked.keeps screen s.shown s.stale true s.bridge.filters fun _ => rfl)
  have hSame : s.opened setup = none →
      (overlapped ∨ (s.opened setup).isSome ∧ s.eventsPort.isSome ↔ overlapped) := fun hNone => by
    rw [hNone]
    simp
  have hPossible : ({ s with screen } : CockpitScreenState D F).possible setup = s.possible setup := by
    cases setup <;> rfl
  have hOther : ∀ {port : DartPort}, s.opened setup = some port →
      (overlapped ∨ (s.opened setup).isSome ∧ s.eventsPort.isSome ↔ overlapped ∨ s.eventsPort.isSome) := by
    intro port hPort
    rw [hPort]
    simp
  unfold CockpitScreenState.connect
  rw [hScreen]
  dsimp only
  rw [hPossible]
  cases hNow : s.possible setup with
  | false =>
    have hNone : s.opened setup = none := by rw [opened, hNow]; rfl
    exact ⟨_, rfl, hShown.weaken (hSame hNone) id id⟩
  | true =>
    have hOpened : s.opened setup = setup.port? := by rw [opened, hNow]; rfl
    cases setup with
    | openThrows error => exact ⟨_, rfl, (hShown.setStatus _).weaken (hSame hOpened) id id⟩
    | initFails error =>
      cases error with
      | none => exact ⟨_, rfl, (hLoaded.setStatus _).weaken (hSame hOpened) id id⟩
      | some error => exact ⟨_, rfl, (hLoaded.setStatus _).weaken (hSame hOpened) id id⟩
    | createThrows port error =>
      have hNew : port ∉ s.openPorts := of_decide_eq_true hNow
      exact ⟨_, rfl, ((hShown.openPort hMounted hNew).setStatus _).weaken (hOther hOpened) id id⟩
    | created port handle =>
      have hNew : port ∉ s.openPorts := of_decide_eq_true (Bool.and_eq_true_iff.mp hNow).1
      cases handle with
      | zero =>
        obtain ⟨s', hEq, hFailed⟩ := hShown.createFailed hMounted hNew hStuck
        exact ⟨s', hEq, hFailed.weaken (hOther hOpened) id id⟩
      | succ n => exact ⟨_, rfl, (hShown.created hMounted hNew (n + 1)).weaken (hOther hOpened) id id⟩

end Connect

end CockpitScreenState

end VsomeipDart
