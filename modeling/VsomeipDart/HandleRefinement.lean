import VsomeipDart.Handles

/-! # The calls on an application make its state

The runs of `Handles` record which calls of vsomeip are made on which application. Replaying them gives the
application that the bridge holds after the same run.
-/

namespace VsomeipDart
set_option autoImplicit false

/-- The handler posts to a callback, and not to a Dart port. -/
def AppCall.UsesCallback : AppCall → Prop
  | .subscribeWithCallback .. => True
  | _ => False

def ProcessAction.UsesCallback : ProcessAction → Prop
  | .call _ (.onApp c) => c.UsesCallback
  | _ => False

namespace Process

variable {F : Type}

def replayCall (app : Vsomeip.Application) : VsomeipCall → Vsomeip.Application
  | .registerMessageHandler key (.port port) => app.registerMessageHandler key port
  | .unregisterMessageHandler key => app.unregisterMessageHandler key
  | .send msg => app.send msg
  | .offerService svc inst => app.offerService svc inst
  | .stopOfferService svc inst => app.stopOfferService svc inst
  | .notify svc inst evt payload force => app.notify svc inst evt payload force
  | _ => app

def replay (calls : List VsomeipCall) : Vsomeip.Application := calls.foldl replayCall .create

def onBridge (b : BridgeState F) (handle : Handle) : AppCall → BridgeState F
  | .subscribe svc inst group evt port => Bridge.subscribe b handle svc inst group evt port
  | .registerMessageHandler svc inst method port =>
    Bridge.registerMessageHandler b handle ⟨svc, inst, method⟩ port
  | .unregisterMessageHandler svc inst method =>
    Bridge.unregisterMessageHandler b handle ⟨svc, inst, method⟩
  | .send call arg => (Bridge.send b handle call arg false).1
  | .offerService svc inst port => Bridge.offerService b handle svc inst port
  | .stopOfferService svc inst => Bridge.stopOfferService b handle svc inst
  | .capnpSubscribe svc inst group evt _ port => Bridge.subscribe b handle svc inst group evt port
  | .capnpSubscribeDecoded svc inst group evt _ port =>
    Bridge.subscribe b handle svc inst group evt port
  | .capnpNotify svc inst evt _ _ force => (Bridge.notify b handle svc inst evt [] 0 force).1
  | _ => b

/-- `g_apps` finds the application on which the same calls were made. -/
structure Represents (s : Process) (b : BridgeState F) : Prop where
  apps : ∀ handle, Bridge.getApp b handle =
    (s.getApp handle).bind fun n => s.objects[n]?.map fun app => replay app.calls
  handlers : ∀ handle, b.handlers.lookup handle = s.handlers.lookup handle

theorem onBridge_unfound {b : BridgeState F} {handle : Handle} (hApp : Bridge.getApp b handle = none)
    (call : AppCall) : onBridge b handle call = b := by
  cases call with
  | send call arg => rw [onBridge, Bridge.send_noApp hApp]
  | _ =>
    simp [onBridge, Bridge.subscribe, Bridge.registerMessageHandler, Bridge.offerService,
      Bridge.unregisterMessageHandler, Bridge.stopOfferService, Bridge.notify, Bridge.withApp, hApp]

theorem getApp_withApp {b : BridgeState F} {handle : Handle} {app : Vsomeip.Application}
    (hApp : Bridge.getApp b handle = some app) (f : Vsomeip.Application → Vsomeip.Application)
    (other : Handle) :
    Bridge.getApp (Bridge.withApp b handle f) other =
      if other = handle then some (f app) else Bridge.getApp b other := by
  rw [Bridge.withApp_some hApp]
  exact FiniteMap.lookup_insert _ _ _ _

theorem getApp_onBridge {b : BridgeState F} {handle : Handle} {app : Vsomeip.Application}
    (hApp : Bridge.getApp b handle = some app) {call : AppCall} (hPort : ¬ call.UsesCallback)
    (other : Handle) :
    Bridge.getApp (onBridge b handle call) other =
      if other = handle then some (call.vsomeipCalls.foldl replayCall app)
      else Bridge.getApp b other := by
  have hSame : Bridge.getApp b other = if other = handle then some app else Bridge.getApp b other := by
    split
    · rename_i hEq
      rw [hEq, hApp]
    · rfl
  cases call with
  | subscribe svc inst group evt port =>
    rw [onBridge, Bridge.subscribe, Bridge.registerMessageHandler, hApp]
    exact getApp_withApp hApp _ other
  | registerMessageHandler svc inst method port =>
    rw [onBridge, Bridge.registerMessageHandler, hApp]
    exact getApp_withApp hApp _ other
  | capnpSubscribe svc inst group evt schemaId port =>
    rw [onBridge, Bridge.subscribe, Bridge.registerMessageHandler, hApp]
    exact getApp_withApp hApp _ other
  | capnpSubscribeDecoded svc inst group evt schemaId port =>
    rw [onBridge, Bridge.subscribe, Bridge.registerMessageHandler, hApp]
    exact getApp_withApp hApp _ other
  | unregisterMessageHandler => exact getApp_withApp hApp _ other
  | offerService => exact getApp_withApp hApp _ other
  | stopOfferService => exact getApp_withApp hApp _ other
  | capnpNotify svc inst evt schemaId fieldsJson force =>
    rw [onBridge, Bridge.notify, hApp]
    exact getApp_withApp hApp _ other
  | send call arg =>
    cases call with
    | notify svc inst evt force =>
      rw [onBridge, Bridge.send, Bridge.notify, hApp]
      exact getApp_withApp hApp _ other
    | _ =>
      simp only [onBridge, Bridge.send, Bridge.sendRequest, Bridge.sendFireForget,
        Bridge.sendResponse, hApp, AppCall.vsomeipCalls]
      split
      · exact hSame
      · exact getApp_withApp hApp _ other
  | subscribeWithCallback => exact absurd trivial hPort
  | _ => exact hSame

theorem handlers_withApp (b : BridgeState F) (handle : Handle)
    (f : Vsomeip.Application → Vsomeip.Application) :
    (Bridge.withApp b handle f).handlers = b.handlers := by
  rw [Bridge.withApp]
  cases Bridge.getApp b handle <;> rfl

theorem handlers_onBridge {b : BridgeState F} {handle : Handle} {app : Vsomeip.Application}
    (hApp : Bridge.getApp b handle = some app) {call : AppCall} (hPort : ¬ call.UsesCallback) :
    (onBridge b handle call).handlers =
      match call.tracked with
      | none => b.handlers
      | some key => (Bridge.trackHandler b handle key).handlers := by
  cases call with
  | send call arg =>
    cases call with
    | notify svc inst evt force =>
      rw [onBridge, Bridge.send, Bridge.notify, hApp]
      exact handlers_withApp b handle _
    | _ =>
      simp only [onBridge, Bridge.send, Bridge.sendRequest, Bridge.sendFireForget,
        Bridge.sendResponse, hApp, AppCall.tracked]
      split
      · rfl
      · exact handlers_withApp b handle _
  | subscribeWithCallback => exact absurd trivial hPort
  | _ =>
    simp [onBridge, Bridge.subscribe, Bridge.registerMessageHandler, Bridge.offerService, hApp,
      Bridge.unregisterMessageHandler, Bridge.stopOfferService, Bridge.notify, handlers_withApp,
      AppCall.tracked, Bridge.trackHandler]

theorem Inv.found_ne {s : Process} (h : Inv s) {handle other : Handle} {n m : Nat}
    (hFound : s.getApp handle = some n) (hOther : s.getApp other = some m) (hNe : other ≠ handle) :
    n ≠ m := by
  rintro rfl
  obtain ⟨app, hObject, hAddress, -⟩ := h.found hFound
  obtain ⟨app', hObject', hAddress', -⟩ := h.found hOther
  rw [hObject] at hObject'
  obtain rfl := Option.some.inj hObject'
  exact hNe (hAddress'.symm.trans hAddress)

theorem represents_callApp {s : Process} {b : BridgeState F} (hInv : Inv s) (h : Represents s b)
    (handle : Handle) {call : AppCall} (hPort : ¬ call.UsesCallback) :
    Represents (s.callApp handle call) (onBridge b handle call) := by
  have hBridge := h.apps handle
  cases hFound : s.getApp handle with
  | none =>
    rw [hFound] at hBridge
    rw [callApp, hFound, onBridge_unfound hBridge]
    exact h
  | some n =>
    obtain ⟨app, hObject, -, -⟩ := hInv.found hFound
    have hApp : Bridge.getApp b handle = some (replay app.calls) := by
      simp [hBridge, hFound, hObject]
    constructor
    · intro other
      rw [getApp_onBridge hApp hPort, getApp, callApp_apps hFound, callApp_objects hFound]
      split
      · rename_i hEq
        rw [hEq, ← getApp, hFound]
        simp [hObject, AppObject.called, replay]
      · rename_i hNe
        rw [h.apps other, getApp]
        cases hOther : s.apps.lookup other with
        | none => rfl
        | some m =>
          simp [List.getElem?_modify_ne _ _ (hInv.found_ne hFound hOther hNe)]
    · intro other
      rw [handlers_onBridge hApp hPort, callApp, hFound]
      cases call.tracked with
      | none => exact h.handlers other
      | some key =>
        simp only [Bridge.trackHandler, trackHandler, h.handlers handle]
        rcases eq_or_ne other handle with rfl | hNe
        · simp
        · simp [hNe, h.handlers other]

theorem represents_appDestroy {s : Process} {b : BridgeState F} (hInv : Inv s) (h : Represents s b)
    (handle : Handle) : Represents (s.appDestroy handle) (Bridge.appDestroy b handle) := by
  have hBridge := h.apps handle
  cases hFound : s.getApp handle with
  | none =>
    rw [hFound] at hBridge
    rw [appDestroy, hFound, Bridge.appDestroy, hBridge]
    exact h
  | some n =>
    obtain ⟨app, hObject, -, -⟩ := hInv.found hFound
    have hApp : Bridge.getApp b handle = some (replay app.calls) := by
      simp [hBridge, hFound, hObject]
    rw [appDestroy, hFound, Bridge.appDestroy, hApp]
    constructor
    · intro other
      rcases eq_or_ne other handle with rfl | hNe
      · simp [Bridge.getApp, getApp]
      · have hSame := h.apps other
        simp only [Bridge.getApp, getApp, AList.lookup_erase_ne hNe] at hSame ⊢
        rw [hSame]
        cases hOther : s.apps.lookup other with
        | none => rfl
        | some m =>
          simp [List.getElem?_modify_ne _ _ (hInv.found_ne hFound hOther hNe)]
    · intro other
      rcases eq_or_ne other handle with rfl | hNe
      · simp
      · simp [AList.lookup_erase_ne hNe, h.handlers other]

theorem represents_appCreate {s : Process} {b : BridgeState F} (hInv : Inv s) (h : Represents s b)
    {address : Handle} (hPos : address ≠ 0) (hFree : s.getApp address = none) :
    Represents (s.appCreate address) (Bridge.appCreate b address) := by
  rw [appCreate, if_neg hPos, hFree, Bridge.appCreate]
  constructor
  · intro other
    rw [getApp, FiniteMap.lookup_insert, Bridge.getApp, FiniteMap.lookup_insert]
    split
    · simp [replay]
    · rename_i hNe
      rw [← Bridge.getApp, h.apps other, getApp]
      cases hOther : s.apps.lookup other with
      | none => rfl
      | some m =>
        obtain ⟨app, hObject, -⟩ := hInv.found hOther
        simp [getElem?_concat_some.mpr (.inl hObject), hObject]
  · exact h.handlers

/-- The same action on the bridge, where `s` tells the address of a handle. -/
def bridgeStep (s : Process) (b : BridgeState F) : ProcessAction → BridgeState F
  | .create address =>
    if address = 0 then b
    else
      match s.getApp address with
      | some _ => b
      | none => Bridge.appCreate b address
  | .call n call =>
    match s.objects[n]? with
    | none => b
    | some app =>
      match call with
      | .appDestroy => Bridge.appDestroy b app.address
      | .onApp call => onBridge b app.address call

def bridgeRun : List ProcessAction → Process × BridgeState F :=
  List.foldl (fun sb action => (sb.1.step action, bridgeStep sb.1 sb.2 action))
    (initial, Bridge.initial)

theorem represents_step {s : Process} {b : BridgeState F} (hInv : Inv s) (h : Represents s b)
    {action : ProcessAction} (hPort : ¬ action.UsesCallback) :
    Represents (s.step action) (bridgeStep s b action) := by
  cases action with
  | create address =>
    rw [step, bridgeStep]
    split
    · rename_i hNull
      rwa [appCreate, if_pos hNull]
    · rename_i hPos
      cases hApp : s.getApp address with
      | some n => rwa [appCreate, if_neg hPos, hApp]
      | none => exact represents_appCreate hInv h hPos hApp
  | call n call =>
    rw [step, bridgeStep]
    cases s.objects[n]? with
    | none => exact h
    | some app =>
      cases call with
      | appDestroy => exact represents_appDestroy hInv h app.address
      | onApp call => exact represents_callApp hInv h app.address hPort

/-- After any run on Dart ports, the bridge is in the state that the calls made on its applications give. -/
theorem represents_run (actions : List ProcessAction)
    (hPorts : ∀ action ∈ actions, ¬ action.UsesCallback) :
    Represents (run actions) (bridgeRun (F := F) actions).2 := by
  have hRun : (bridgeRun (F := F) actions).1 = run actions ∧
      Represents (run actions) (bridgeRun (F := F) actions).2 := by
    induction actions using List.reverseRecOn with
    | nil =>
      exact ⟨rfl, fun _ => rfl, fun _ => rfl⟩
    | append_singleton before action ih =>
      obtain ⟨hSame, hBefore⟩ := ih fun other hMem => hPorts other (List.mem_append_left _ hMem)
      have hStep := represents_step (inv_run before) hBefore (hPorts action (by simp))
      rw [bridgeRun] at hSame ⊢
      rw [run, List.foldl_append, List.foldl_append, List.foldl_cons, List.foldl_nil, List.foldl_cons,
        List.foldl_nil]
      rw [hSame]
      exact ⟨rfl, hStep⟩
  exact hRun.2

end Process

end VsomeipDart
