import Mathlib.Data.Finset.Basic
import Mathlib.Data.List.Induction
import VsomeipDart.Lib.FiniteMap
import VsomeipDart.Limits

/-! # Handles of applications that are gone (`vsomeip_bridge.cpp`)

A handle is the address of its application, and the allocator gives the address of a destroyed one out
again. The applications are numbered in the order of their creation; the code keeps no such number.
-/

namespace VsomeipDart
set_option autoImplicit false

/-- What the closure of a message handler posts to. -/
inductive Sink where
  | port (eventsPort : DartPort)
  | callback (address : Nat)
  deriving DecidableEq, Repr

/-- A call of vsomeip on `app->app()`. -/
inductive VsomeipCall where
  | requestService (serviceId instanceId : UInt16)
  | releaseService (serviceId instanceId : UInt16)
  | registerMessageHandler (key : HandlerKey) (sink : Sink)
  | unregisterMessageHandler (key : HandlerKey)
  | requestEvent (key : HandlerKey) (groups : Finset UInt16)
  | subscribe (serviceId instanceId eventgroupId : UInt16)
  | unsubscribe (serviceId instanceId eventgroupId : UInt16)
  | send (msg : Vsomeip.Message)
  | offerService (serviceId instanceId : UInt16)
  | stopOfferService (serviceId instanceId : UInt16)
  | offerEvent (key : HandlerKey) (groups : Finset UInt16) (isField : Bool) (cycleMs : UInt32)
  | stopOfferEvent (key : HandlerKey)
  | notify (serviceId instanceId eventId : UInt16) (payload : Bytes) (force : Bool)
  | stop

/-- The entry points that take a handle, but for `vsomeip_app_destroy`. -/
inductive AppCall where
  | requestService (serviceId instanceId : UInt16)
  | releaseService (serviceId instanceId : UInt16)
  | subscribe (serviceId instanceId eventgroupId eventId : UInt16) (eventsPort : DartPort)
  | subscribeWithCallback (serviceId instanceId eventgroupId eventId : UInt16) (callback : Nat)
  | unsubscribe (serviceId instanceId eventgroupId : UInt16)
  | registerMessageHandler (serviceId instanceId methodId : UInt16) (eventsPort : DartPort)
  | unregisterMessageHandler (serviceId instanceId methodId : UInt16)
  | send (call : SendCall) (arg : PayloadArg)
  | offerService (serviceId instanceId : UInt16) (requestsPort : DartPort)
  | stopOfferService (serviceId instanceId : UInt16)
  | offerEvent (serviceId instanceId eventId : UInt16) (eventgroupIds : List UInt16) (isField : Bool)
      (cycleMs : UInt32)
  | stopOfferEvent (serviceId instanceId eventId : UInt16)
  | capnpSubscribe (serviceId instanceId eventgroupId eventId : UInt16) (schemaId : UInt32)
      (eventsPort : DartPort)
  | capnpSubscribeDecoded (serviceId instanceId eventgroupId eventId : UInt16) (schemaId : UInt32)
      (eventsPort : DartPort)
  | capnpNotify (serviceId instanceId eventId : UInt16) (schemaId : UInt32) (fieldsJson : Bytes)
      (force : Bool)
  | capnpRegisterSchema (schemaId : UInt32) (schemaName : Bytes)

inductive HandleUse where
  | appDestroy
  | onApp (call : AppCall)

namespace AppCall

def subscribing (serviceId instanceId eventgroupId eventId : UInt16) (sink : Sink) :
    List VsomeipCall :=
  [.registerMessageHandler ⟨serviceId, instanceId, eventId⟩ sink,
    .requestEvent ⟨serviceId, instanceId, eventId⟩ {eventgroupId},
    .subscribe serviceId instanceId eventgroupId]

/-- What an entry point calls, once `get_app` has found the application. -/
def vsomeipCalls : AppCall → List VsomeipCall
  | requestService svc inst => [.requestService svc inst]
  | releaseService svc inst => [.releaseService svc inst]
  | subscribe svc inst group evt port => subscribing svc inst group evt (.port port)
  | subscribeWithCallback svc inst group evt callback =>
    subscribing svc inst group evt (.callback callback)
  | unsubscribe svc inst group => [.unsubscribe svc inst group]
  | registerMessageHandler svc inst method port =>
    [.registerMessageHandler ⟨svc, inst, method⟩ (.port port)]
  | unregisterMessageHandler svc inst method => [.unregisterMessageHandler ⟨svc, inst, method⟩]
  | send (.sendRequest svc inst method _ _) arg =>
    if arg.len > kMaxPayloadBytes then []
    else [.send (Bridge.buildRequest svc inst method arg.buf arg.len)]
  | send (.sendFireForget svc inst method) arg =>
    if arg.len > kMaxPayloadBytes then []
    else
      let req := Bridge.buildRequest svc inst method arg.buf arg.len
      [.send { req with messageType := Vsomeip.MT_REQUEST_NO_RETURN }]
  | send (.sendResponse requestId) arg =>
    if arg.len > kMaxPayloadBytes then [] else [.send (Bridge.buildResponse requestId arg.buf arg.len)]
  | send (.notify svc inst evt force) arg =>
    [.notify svc inst evt (arg.buf.take arg.len.toNat) force]
  | offerService svc inst _ => [.offerService svc inst]
  | stopOfferService svc inst => [.stopOfferService svc inst]
  | offerEvent svc inst evt groups isField cycleMs =>
    [.offerEvent ⟨svc, inst, evt⟩ groups.toFinset isField cycleMs]
  | stopOfferEvent svc inst evt => [.stopOfferEvent ⟨svc, inst, evt⟩]
  | capnpSubscribe svc inst group evt _ port => subscribing svc inst group evt (.port port)
  | capnpSubscribeDecoded svc inst group evt _ port => subscribing svc inst group evt (.port port)
  | capnpNotify svc inst evt _ _ force => [.notify svc inst evt [] force]
  | capnpRegisterSchema _ _ => []

def tracked : AppCall → Option HandlerKey
  | subscribe svc inst _ evt _ => some ⟨svc, inst, evt⟩
  | subscribeWithCallback svc inst _ evt _ => some ⟨svc, inst, evt⟩
  | registerMessageHandler svc inst method _ => some ⟨svc, inst, method⟩
  | capnpSubscribe svc inst _ evt _ _ => some ⟨svc, inst, evt⟩
  | capnpSubscribeDecoded svc inst _ evt _ _ => some ⟨svc, inst, evt⟩
  | _ => none

/-- The call is refused for its size, or never looks at its handle. -/
def Idle : AppCall → Prop
  | send call arg => ¬ call.IsNotify ∧ arg.len > kMaxPayloadBytes
  | capnpRegisterSchema _ _ => True
  | _ => False

theorem vsomeipCalls_eq_nil {call : AppCall} : call.vsomeipCalls = [] ↔ call.Idle := by
  cases call with
  | send call arg => cases call <;> simp [vsomeipCalls, Idle, SendCall.IsNotify]
  | _ => simp [vsomeipCalls, subscribing, Idle]

theorem tracked_of_idle {call : AppCall} (hIdle : call.Idle) : call.tracked = none := by
  cases call with
  | send => rfl
  | capnpRegisterSchema => rfl
  | _ => exact hIdle.elim

end AppCall

def HandleUse.Idle : HandleUse → Prop
  | appDestroy => False
  | onApp call => call.Idle

structure AppObject where
  address : Handle
  /-- all calls of vsomeip on it -/
  calls : List VsomeipCall
  destroyed : Bool

def AppObject.called (app : AppObject) (calls : List VsomeipCall) : AppObject :=
  { app with calls := app.calls ++ calls }

/-- `g_apps` and `g_handlers`, over all applications that were ever created. -/
structure Process where
  objects : List AppObject
  apps : AList fun _ : Handle => Nat
  handlers : AList fun _ : Handle => List HandlerKey

inductive ProcessAction where
  | create (address : Handle)
  /-- a call with the handle that the `n`-th creation returned -/
  | call (n : Nat) (call : HandleUse)

namespace Process

def initial : Process := ⟨[], ∅, ∅⟩

def getApp (s : Process) (handle : Handle) : Option Nat := s.apps.lookup handle

def appCreate (s : Process) (address : Handle) : Process :=
  if address = 0 then s
  else
    match s.getApp address with
    | some _ => s
    | none =>
      { s with
        objects := s.objects ++ [⟨address, [], false⟩]
        apps := s.apps.insert address s.objects.length }

def trackHandler (s : Process) (handle : Handle) (key : HandlerKey) : Process :=
  let keys := (s.handlers.lookup handle).getD []
  { s with handlers := s.handlers.insert handle (keys.insert key) }

def appDestroy (s : Process) (handle : Handle) : Process :=
  match s.getApp handle with
  | none => s
  | some n =>
    let keys := (s.handlers.lookup handle).getD []
    { s with
      objects := s.objects.modify n fun app =>
        { app.called (keys.map .unregisterMessageHandler ++ [.stop]) with destroyed := true }
      apps := s.apps.erase handle
      handlers := s.handlers.erase handle }

def callApp (s : Process) (handle : Handle) (call : AppCall) : Process :=
  match s.getApp handle with
  | none => s
  | some n =>
    let s := { s with objects := s.objects.modify n fun app => app.called call.vsomeipCalls }
    match call.tracked with
    | none => s
    | some key => s.trackHandler handle key

def exec (s : Process) (handle : Handle) : HandleUse → Process
  | .appDestroy => s.appDestroy handle
  | .onApp call => s.callApp handle call

def step (s : Process) : ProcessAction → Process
  | .create address => s.appCreate address
  | .call n call =>
    match s.objects[n]? with
    | none => s
    | some app => s.exec app.address call

def run (actions : List ProcessAction) : Process := actions.foldl step initial

def Destroyed (s : Process) (n : Nat) : Prop :=
  ∃ app, s.objects[n]? = some app ∧ app.destroyed = true

/-- The address of the `n`-th application is that of one that lives. -/
def Reused (s : Process) (n : Nat) : Prop :=
  ∃ app, s.objects[n]? = some app ∧ s.getApp app.address ≠ none

/-- What there is of the `m`-th application: the object, whether a call finds it, and its handlers. -/
def view (s : Process) (m : Nat) : Option (AppObject × Option Nat × Option (List HandlerKey)) :=
  s.objects[m]?.map fun app => (app, s.getApp app.address, s.handlers.lookup app.address)

/-- The call leaves every application that was created after the `n`-th as it is. -/
def Harmless (s : Process) (n : Nat) (call : HandleUse) : Prop :=
  ∀ m, n < m → (s.step (.call n call)).view m = s.view m

structure Inv (s : Process) : Prop where
  found : ∀ {handle : Handle} {n : Nat}, s.getApp handle = some n →
    ∃ app, s.objects[n]? = some app ∧ app.address = handle ∧ app.destroyed = false
  live : ∀ {n : Nat} {app : AppObject}, s.objects[n]? = some app → app.destroyed = false →
    s.getApp app.address = some n
  /-- an address is given out again only after its application is destroyed -/
  older : ∀ {m n : Nat} {app later : AppObject}, m < n → s.objects[m]? = some app →
    s.objects[n]? = some later → app.address = later.address → app.destroyed = true

theorem inv_initial : Inv initial where
  found h := by cases h
  live h := by cases h
  older _ h := by cases h

theorem getElem?_concat_some {objects : List AppObject} {new app : AppObject} {n : Nat} :
    (objects ++ [new])[n]? = some app ↔
      objects[n]? = some app ∨ n = objects.length ∧ app = new := by
  rcases Nat.lt_trichotomy n objects.length with hLt | rfl | hGt
  · rw [List.getElem?_append_left hLt]
    exact ⟨.inl, fun h => h.resolve_right fun ⟨hEq, _⟩ => absurd hEq (Nat.ne_of_lt hLt)⟩
  · simp [eq_comm]
  · rw [List.getElem?_eq_none (by simp; omega), List.getElem?_eq_none (Nat.le_of_lt hGt)]
    simp
    omega

theorem Inv.appCreate {s : Process} (h : Inv s) (address : Handle) : Inv (s.appCreate address) := by
  rw [Process.appCreate]
  split
  · exact h
  cases hApp : s.getApp address with
  | some n => exact h
  | none =>
    -- an application that lives is at another address
    have hOther : ∀ {n : Nat} {app : AppObject}, s.objects[n]? = some app → app.destroyed = false →
        app.address ≠ address := by
      intro n app hObject hLive hEq
      have hFound := h.live hObject hLive
      rw [hEq, hApp] at hFound
      cases hFound
    constructor
    · intro handle n hFound
      rw [Process.getApp, FiniteMap.lookup_insert] at hFound
      split at hFound
      · rename_i hEq
        obtain rfl := Option.some.inj hFound
        exact ⟨_, getElem?_concat_some.mpr (.inr ⟨rfl, rfl⟩), hEq.symm, rfl⟩
      · obtain ⟨app, hObject, hLive⟩ := h.found hFound
        exact ⟨app, getElem?_concat_some.mpr (.inl hObject), hLive⟩
    · intro n app hObject hLive
      rw [Process.getApp, FiniteMap.lookup_insert]
      rcases getElem?_concat_some.mp hObject with hOld | ⟨rfl, rfl⟩
      · rw [if_neg (hOther hOld hLive)]
        exact h.live hOld hLive
      · rw [if_pos rfl]
    · intro m n app later hLt hOld hLater hSame
      rcases getElem?_concat_some.mp hOld with hOld | ⟨rfl, -⟩
      · rcases getElem?_concat_some.mp hLater with hLater | ⟨-, rfl⟩
        · exact h.older hLt hOld hLater hSame
        · by_contra hLive
          exact hOther hOld (Bool.eq_false_iff.mpr hLive) hSame
      · rcases getElem?_concat_some.mp hLater with hLater | ⟨rfl, -⟩
        · have hBound := (List.getElem?_eq_some_iff.mp hLater).1
          omega
        · omega

theorem getElem?_modify_some {objects : List AppObject} {n m : Nat} {f : AppObject → AppObject}
    {app : AppObject} :
    (objects.modify n f)[m]? = some app ↔
      ∃ old, objects[m]? = some old ∧ (if n = m then f old else old) = app := by
  rw [List.getElem?_modify, Option.map_eq_map, Option.map_eq_some_iff]

theorem Inv.appDestroy {s : Process} (h : Inv s) (handle : Handle) : Inv (s.appDestroy handle) := by
  rw [Process.appDestroy]
  cases hApp : s.getApp handle with
  | none => exact h
  | some n =>
    obtain ⟨gone, hGone, hAddress, -⟩ := h.found hApp
    constructor
    · intro other m hFound
      rw [Process.getApp, FiniteMap.lookup_erase] at hFound
      split at hFound
      · cases hFound
      · rename_i hNe
        obtain ⟨app, hObject, hSame, hLive⟩ := h.found hFound
        refine ⟨app, getElem?_modify_some.mpr ⟨app, hObject, if_neg ?_⟩, hSame, hLive⟩
        rintro rfl
        rw [hGone] at hObject
        obtain rfl := Option.some.inj hObject
        exact hNe (hSame.symm.trans hAddress)
    · intro m app hObject hLive
      obtain ⟨old, hOld, rfl⟩ := getElem?_modify_some.mp hObject
      split at hLive
      · cases hLive
      · rename_i hNe
        have hFound := h.live hOld hLive
        rw [if_neg hNe, Process.getApp, FiniteMap.lookup_erase, if_neg]
        · exact hFound
        · intro hEq
          rw [hEq, hApp] at hFound
          exact hNe (Option.some.inj hFound)
    · intro m k app later hLt hFirst hLater hSame
      obtain ⟨old, hOld, rfl⟩ := getElem?_modify_some.mp hFirst
      obtain ⟨next, hNext, rfl⟩ := getElem?_modify_some.mp hLater
      have hEnded : old.destroyed = true := by
        refine h.older hLt hOld hNext ?_
        split at hSame <;> split at hSame <;> exact hSame
      split
      · rfl
      · exact hEnded

theorem Inv.callApp {s : Process} (h : Inv s) (handle : Handle) (call : AppCall) :
    Inv (s.callApp handle call) := by
  rw [Process.callApp]
  cases hApp : s.getApp handle with
  | none => exact h
  | some n =>
    have hAddress : ∀ (m : Nat) (app : AppObject),
        (if n = m then app.called call.vsomeipCalls else app).address = app.address := by
      intro m app
      split <;> rfl
    have hDestroyed : ∀ (m : Nat) (app : AppObject),
        (if n = m then app.called call.vsomeipCalls else app).destroyed = app.destroyed := by
      intro m app
      split <;> rfl
    have hCalls : Inv { s with
        objects := s.objects.modify n fun app => app.called call.vsomeipCalls } := by
      constructor
      · intro other m hFound
        obtain ⟨app, hObject, hSame, hLive⟩ := h.found hFound
        exact ⟨_, getElem?_modify_some.mpr ⟨app, hObject, rfl⟩, (hAddress m app).trans hSame,
          (hDestroyed m app).trans hLive⟩
      · intro m app hObject hLive
        obtain ⟨old, hOld, rfl⟩ := getElem?_modify_some.mp hObject
        rw [hAddress m old]
        rw [hDestroyed m old] at hLive
        exact h.live hOld hLive
      · intro m k app later hLt hFirst hLater hSame
        obtain ⟨old, hOld, rfl⟩ := getElem?_modify_some.mp hFirst
        obtain ⟨next, hNext, rfl⟩ := getElem?_modify_some.mp hLater
        rw [hAddress m old, hAddress k next] at hSame
        rw [hDestroyed m old]
        exact h.older hLt hOld hNext hSame
    dsimp only
    cases call.tracked with
    | none => exact hCalls
    | some key => exact ⟨hCalls.found, hCalls.live, hCalls.older⟩

theorem Inv.step {s : Process} (h : Inv s) (action : ProcessAction) : Inv (s.step action) := by
  cases action with
  | create address => exact h.appCreate address
  | call n call =>
    rw [Process.step]
    cases s.objects[n]? with
    | none => exact h
    | some app =>
      cases call with
      | appDestroy => exact h.appDestroy app.address
      | onApp call => exact h.callApp app.address call

theorem inv_run (actions : List ProcessAction) : Inv (run actions) := by
  induction actions using List.reverseRecOn with
  | nil => exact inv_initial
  | append_singleton before action ih =>
    rw [run, List.foldl_append]
    exact ih.step action

section Stale

variable {s : Process} {n k : Nat} {app : AppObject}

/-- What a stale handle finds was created later. -/
theorem Inv.lt_found (h : Inv s) (hObject : s.objects[n]? = some app) (hGone : app.destroyed = true)
    (hFound : s.getApp app.address = some k) : n < k := by
  obtain ⟨later, hLater, hSame, hLive⟩ := h.found hFound
  rcases Nat.lt_trichotomy n k with hLt | rfl | hGt
  · exact hLt
  · rw [hObject] at hLater
    obtain rfl := Option.some.inj hLater
    rw [hGone] at hLive
    cases hLive
  · have hEnded := h.older hGt hLater hObject hSame
    rw [hEnded] at hLive
    cases hLive

theorem exec_unfound {handle : Handle} (hApp : s.getApp handle = none) (call : HandleUse) :
    s.exec handle call = s := by
  cases call with
  | appDestroy => rw [exec, appDestroy, hApp]
  | onApp call => rw [exec, callApp, hApp]

section CallApp

variable {handle : Handle} (hFound : s.getApp handle = some k) (call : AppCall)

include hFound

theorem callApp_objects :
    (s.callApp handle call).objects =
      s.objects.modify k fun app => app.called call.vsomeipCalls := by
  rw [callApp, hFound]
  cases call.tracked <;> rfl

theorem callApp_apps : (s.callApp handle call).apps = s.apps := by
  rw [callApp, hFound]
  cases call.tracked <;> rfl

end CallApp

theorem called_nil (app : AppObject) : app.called [] = app := by
  simp [AppObject.called]

theorem exec_idle {call : HandleUse} (hIdle : call.Idle) (s : Process) (handle : Handle) :
    s.exec handle call = s := by
  cases call with
  | appDestroy => exact hIdle.elim
  | onApp call =>
    rw [exec, callApp, AppCall.vsomeipCalls_eq_nil.mpr hIdle, AppCall.tracked_of_idle hIdle]
    cases s.getApp handle with
    | none => rfl
    | some n =>
      have hSame : (fun app : AppObject => app.called []) = id := funext called_nil
      simp [hSame]

theorem step_call (hObject : s.objects[n]? = some app) (call : HandleUse) :
    s.step (.call n call) = s.exec app.address call := by
  rw [step, hObject]

/-- A call that is not idle changes the application that it finds. -/
theorem view_exec_ne (h : Inv s) {handle : Handle} (hFound : s.getApp handle = some k)
    {call : HandleUse} (hActs : ¬ call.Idle) : (s.exec handle call).view k ≠ s.view k := by
  obtain ⟨app, hObject, -, hLive⟩ := h.found hFound
  intro hSame
  cases call with
  | appDestroy =>
    have hEnded := congrArg (Option.map fun v => v.1.destroyed) hSame
    simp [exec, appDestroy, hFound, view, hObject, hLive] at hEnded
  | onApp call =>
    have hCalls := congrArg (Option.map fun v => v.1.calls) hSame
    rw [exec, view, view, callApp_objects hFound, List.getElem?_modify_eq, hObject] at hCalls
    simp [AppObject.called, AppCall.vsomeipCalls_eq_nil] at hCalls
    exact hActs hCalls

theorem harmless_iff (h : Inv s) (hGone : s.Destroyed n) (call : HandleUse) :
    s.Harmless n call ↔ s.Reused n → call.Idle := by
  obtain ⟨app, hObject, hEnded⟩ := hGone
  rw [Harmless, step_call hObject]
  constructor
  · rintro hSame ⟨app', hObject', hFound⟩
    rw [hObject] at hObject'
    obtain rfl := Option.some.inj hObject'
    obtain ⟨k, hFound⟩ := Option.ne_none_iff_exists'.mp hFound
    by_contra hActs
    exact view_exec_ne h hFound hActs (hSame k (h.lt_found hObject hEnded hFound))
  · intro hIdle m _
    cases hFound : s.getApp app.address with
    | none => rw [exec_unfound hFound]
    | some k =>
      rw [exec_idle (hIdle ⟨app, hObject, by simp [hFound]⟩)]

end Stale

/-- The calls of a run with the handle of a destroyed application are harmless, if and only if none that
acts is made while another application lives at that address. -/
theorem stale_calls_iff (actions : List ProcessAction) :
    (∀ before n call after, actions = before ++ .call n call :: after → (run before).Destroyed n →
      (run before).Harmless n call) ↔
    (∀ before n call after, actions = before ++ .call n call :: after → (run before).Destroyed n →
      (run before).Reused n → call.Idle) := by
  constructor
  · intro h before n call after hSplit hGone
    exact (harmless_iff (inv_run before) hGone call).mp (h before n call after hSplit hGone)
  · intro h before n call after hSplit hGone
    exact (harmless_iff (inv_run before) hGone call).mpr (h before n call after hSplit hGone)

/-- The second `close` of a client destroys the application that was created in between. -/
theorem second_close_destroys_later :
    ¬ ∀ actions before n call after, actions = before ++ .call n call :: after →
      (run before).Destroyed n → (run before).Harmless n call := by
  intro hSafe
  have hClose := hSafe _ [.create 4096, .call 0 .appDestroy, .create 4096] 0 .appDestroy [] rfl
    ⟨_, rfl, rfl⟩ 1 (by decide)
  have hEnded := congrArg (Option.map fun v => v.1.destroyed) hClose
  revert hEnded
  decide

end Process

end VsomeipDart
