import VsomeipDart.ServiceRegistry

/-! # Runs of the service registry

The registry refines a store of services, under service and instance, and of their events. What a lookup
finds is read off the calls: a service is offered since the last call that added it, and an event since
the last call that defined it for an offered service.
-/

namespace VsomeipDart
set_option autoImplicit false

inductive ServiceCall (Fn : Type) where
  | add (serviceId instanceId : UInt16) (requestFn : Fn)
  | remove (serviceId instanceId : UInt16)
  | addEvent (serviceId instanceId eventId : UInt16) (eventgroupIds : Finset UInt16) (isField : Bool)
      (cycleMs : UInt32)
  | removeEvent (serviceId instanceId eventId : UInt16)

namespace ServiceCall

variable {Fn : Type}

def pair : ServiceCall Fn → UInt16 × UInt16
  | add serviceId instanceId _ | remove serviceId instanceId
  | addEvent serviceId instanceId _ _ _ _ | removeEvent serviceId instanceId _ => (serviceId, instanceId)

def Resets (pair : UInt16 × UInt16) : ServiceCall Fn → Prop
  | add serviceId instanceId _ | remove serviceId instanceId => (serviceId, instanceId) = pair
  | addEvent .. | removeEvent .. => False

def Defines (pair : UInt16 × UInt16) (eventId : UInt16) : ServiceCall Fn → Prop
  | addEvent serviceId instanceId eventId' _ _ _ | removeEvent serviceId instanceId eventId' =>
    (serviceId, instanceId) = pair ∧ eventId' = eventId
  | add .. | remove .. => False

def effect : ServiceCall Fn → Option (OfferedService Fn) → Option (OfferedService Fn)
  | add serviceId instanceId requestFn, _ => some (.offer serviceId instanceId requestFn)
  | remove .., _ => none
  | addEvent _ _ eventId eventgroupIds isField cycleMs, service =>
    service.map fun service => service.setEvent ⟨eventId, eventgroupIds, isField, cycleMs⟩
  | removeEvent _ _ eventId, service => service.map fun service => service.eraseEvent eventId

def onStore : ServiceCall Fn → OwnedStore.Call (UInt16 × UInt16) UInt16 Fn OfferedEvent
  | add serviceId instanceId requestFn => .put (serviceId, instanceId) requestFn
  | remove serviceId instanceId => .drop (serviceId, instanceId)
  | addEvent serviceId instanceId eventId eventgroupIds isField cycleMs =>
    .attach (serviceId, instanceId) eventId ⟨eventId, eventgroupIds, isField, cycleMs⟩
  | removeEvent serviceId instanceId eventId => .detach (serviceId, instanceId) eventId

end ServiceCall

namespace ServiceRegistry

variable {Fn : Type}

def exec (reg : ServiceRegistry Fn) : ServiceCall Fn → ServiceRegistry Fn
  | .add serviceId instanceId requestFn => reg.add serviceId instanceId requestFn
  | .remove serviceId instanceId => reg.remove serviceId instanceId
  | .addEvent serviceId instanceId eventId eventgroupIds isField cycleMs =>
    reg.addEvent serviceId instanceId eventId eventgroupIds isField cycleMs
  | .removeEvent serviceId instanceId eventId => reg.removeEvent serviceId instanceId eventId

def run (calls : List (ServiceCall Fn)) : ServiceRegistry Fn := calls.foldl exec empty

variable (reg : ServiceRegistry Fn)

/-- A call changes the record under its own key, and no other. -/
theorem lookup_exec (call : ServiceCall Fn) (key : UInt32) :
    (reg.exec call).services.lookup key =
      if key = makeKey call.pair.1 call.pair.2 then call.effect (reg.services.lookup key)
      else reg.services.lookup key := by
  cases call with
  | add serviceId instanceId requestFn => exact reg.lookup_add key serviceId instanceId requestFn
  | remove serviceId instanceId => exact reg.lookup_remove key serviceId instanceId
  | addEvent serviceId instanceId eventId eventgroupIds isField cycleMs =>
    exact reg.lookup_addEvent key serviceId instanceId eventId eventgroupIds isField cycleMs
  | removeEvent serviceId instanceId eventId =>
    exact reg.lookup_removeEvent key serviceId instanceId eventId

theorem find_exec (call : ServiceCall Fn) (pair : UInt16 × UInt16) :
    (reg.exec call).find pair.1 pair.2 =
      if pair = call.pair then call.effect (reg.find pair.1 pair.2) else reg.find pair.1 pair.2 := by
  rw [find, lookup_exec, find]
  simp only [makeKey_inj, Prod.ext_iff]

theorem exec_comm {left right : ServiceCall Fn} (hPairs : left.pair ≠ right.pair) :
    (reg.exec left).exec right = (reg.exec right).exec left := by
  have hKeys : makeKey left.pair.1 left.pair.2 ≠ makeKey right.pair.1 right.pair.2 := by
    rw [Ne, makeKey_inj, ← Prod.ext_iff]
    exact hPairs
  apply ext_lookup
  intro key
  rw [lookup_exec, lookup_exec, lookup_exec, lookup_exec]
  by_cases hLeft : key = makeKey left.pair.1 left.pair.2
  · rw [if_neg (hLeft.trans_ne hKeys), if_pos hLeft, if_pos hLeft, if_neg (hLeft.trans_ne hKeys)]
  · rw [if_neg hLeft, if_neg hLeft]

/-- What the lookups tell of the registry. -/
def view : OwnedStore (UInt16 × UInt16) UInt16 Fn OfferedEvent where
  owners pair := (reg.find pair.1 pair.2).map OfferedService.requestFn
  parts pair eventId := reg.findEvent pair.1 pair.2 eventId
  owned pair eventId event hEvent := by
    rw [findEvent_eq] at hEvent
    obtain ⟨service, hService, -⟩ := Option.bind_eq_some_iff.mp hEvent
    rw [hService]
    rfl

theorem owners_exec (call : ServiceCall Fn) (pair : UInt16 × UInt16) :
    (reg.exec call).view.owners pair = (reg.view.step call.onStore).owners pair := by
  show ((reg.exec call).find pair.1 pair.2).map _ = _
  rw [find_exec, apply_ite (Option.map OfferedService.requestFn)]
  cases call with
  | add | remove => rfl
  | addEvent | removeEvent =>
    -- the callback stays
    rw [ServiceCall.effect, Option.map_map]
    exact ite_self _

theorem findEvent_exec (call : ServiceCall Fn) (pair : UInt16 × UInt16) (eventId : UInt16) :
    (reg.exec call).findEvent pair.1 pair.2 eventId =
      if pair = call.pair then
        (call.effect (reg.find pair.1 pair.2)).bind fun service => service.events.lookup eventId
      else reg.findEvent pair.1 pair.2 eventId := by
  rw [findEvent_eq, findEvent_eq, find_exec]
  split <;> rfl

theorem parts_exec (call : ServiceCall Fn) (pair : UInt16 × UInt16) (eventId : UInt16) :
    (reg.exec call).view.parts pair eventId = (reg.view.step call.onStore).parts pair eventId := by
  show (reg.exec call).findEvent pair.1 pair.2 eventId = _
  rw [findEvent_exec]
  cases call with
  | add | remove => rfl
  | addEvent serviceId instanceId eventId' eventgroupIds isField cycleMs =>
    show (if pair = (serviceId, instanceId) then _ else _) =
      if pair = (serviceId, instanceId) ∧ eventId = eventId' then _ else _
    by_cases hPair : pair = (serviceId, instanceId)
    · subst hPair
      rw [if_pos rfl, ServiceCall.effect]
      simp only [true_and, view, findEvent_eq, Option.isSome_map]
      cases reg.find serviceId instanceId with
      | none => simp
      | some service => exact service.lookup_setEvent _ eventId
    · rw [if_neg hPair, if_neg fun h => hPair h.1]
      rfl
  | removeEvent serviceId instanceId eventId' =>
    show (if pair = (serviceId, instanceId) then _ else _) =
      if pair = (serviceId, instanceId) ∧ eventId = eventId' then _ else _
    by_cases hPair : pair = (serviceId, instanceId)
    · subst hPair
      rw [if_pos rfl, ServiceCall.effect]
      simp only [true_and, view, findEvent_eq, ite_self]
      cases reg.find serviceId instanceId with
      | none => simp
      | some service => exact service.lookup_eraseEvent eventId' eventId
    · rw [if_neg hPair, if_neg fun h => hPair h.1]
      rfl

theorem view_exec (call : ServiceCall Fn) : (reg.exec call).view = reg.view.step call.onStore :=
  OwnedStore.ext (funext (reg.owners_exec call))
    (funext fun pair => funext (reg.parts_exec call pair))

theorem run_snoc (calls : List (ServiceCall Fn)) (call : ServiceCall Fn) :
    run (calls ++ [call]) = (run calls).exec call := by
  rw [run, List.foldl_append]
  rfl

theorem view_run (calls : List (ServiceCall Fn)) :
    (run calls).view = OwnedStore.run (calls.map ServiceCall.onStore) := by
  induction calls using List.reverseRecOn with
  | nil => rfl
  | append_singleton calls call ih =>
    rw [run_snoc, view_exec, ih, List.map_append, List.map_singleton, OwnedStore.run_snoc]

/-- The last call that added or removed the service added it with this callback. -/
def Offered (calls : List (ServiceCall Fn)) (pair : UInt16 × UInt16) (requestFn : Fn) : Prop :=
  Since (fun _ call => call = .add pair.1 pair.2 requestFn) (ServiceCall.Resets pair) calls

/-- The event was added like this to an offered service, and nothing since then added or removed it or the
service. -/
def EventOffered (calls : List (ServiceCall Fn)) (pair : UInt16 × UInt16) (event : OfferedEvent) : Prop :=
  Since
    (fun before call =>
      call = .addEvent pair.1 pair.2 event.eventId event.eventgroupIds event.isField event.cycleMs ∧
        ∃ requestFn, Offered before pair requestFn)
    (fun call => call.Resets pair ∨ call.Defines pair event.eventId) calls

section Histories

variable (calls : List (ServiceCall Fn)) (pair : UInt16 × UInt16)

theorem resets_onStore (call : ServiceCall Fn) : call.onStore.Resets pair ↔ call.Resets pair := by
  cases call <;> rfl

theorem sets_onStore (call : ServiceCall Fn) (eventId : UInt16) :
    call.onStore.Sets pair eventId ↔ call.Defines pair eventId := by
  cases call <;> rfl

theorem onStore_put_iff (call : ServiceCall Fn) (requestFn : Fn) :
    call.onStore = .put pair requestFn ↔ call = .add pair.1 pair.2 requestFn := by
  cases call <;> simp [ServiceCall.onStore, Prod.ext_iff, and_assoc]

theorem onStore_attach_iff (call : ServiceCall Fn) (event : OfferedEvent) :
    call.onStore = .attach pair event.eventId event ↔
      call = .addEvent pair.1 pair.2 event.eventId event.eventgroupIds event.isField event.cycleMs := by
  obtain ⟨eventId, eventgroupIds, isField, cycleMs⟩ := event
  cases call <;> simp [ServiceCall.onStore, Prod.ext_iff, and_assoc]

theorem offered_iff (requestFn : Fn) :
    Offered calls pair requestFn ↔
      (OwnedStore.run (calls.map ServiceCall.onStore)).owners pair = some requestFn := by
  rw [OwnedStore.owners_run_iff, Since.map_iff]
  simp only [onStore_put_iff, resets_onStore]
  rfl

theorem eventOffered_iff (event : OfferedEvent) :
    EventOffered calls pair event ↔
      (OwnedStore.run (calls.map ServiceCall.onStore)).parts pair event.eventId = some event := by
  rw [OwnedStore.parts_run_iff, Since.map_iff]
  simp only [onStore_attach_iff, resets_onStore, sets_onStore, Option.isSome_iff_exists, ← offered_iff]
  rfl

end Histories

/-- What a registry answers after these calls. -/
structure Answers (calls : List (ServiceCall Fn)) (reg : ServiceRegistry Fn) : Prop where
  refines : reg.view = OwnedStore.run (calls.map ServiceCall.onStore)
  find_iff : ∀ serviceId instanceId requestFn,
    (∃ service, reg.find serviceId instanceId = some service ∧ service.requestFn = requestFn) ↔
      Offered calls (serviceId, instanceId) requestFn
  find_ids : ∀ serviceId instanceId service, reg.find serviceId instanceId = some service →
    service.serviceId = serviceId ∧ service.instanceId = instanceId
  findEvent_iff : ∀ serviceId instanceId eventId event,
    reg.findEvent serviceId instanceId eventId = some event ↔
      event.eventId = eventId ∧ EventOffered calls (serviceId, instanceId) event
  serviceCount_eq : reg.serviceCount = Set.ncard {pair | ∃ requestFn, Offered calls pair requestFn}
  eventCount_eq : ∀ serviceId instanceId, reg.eventCount serviceId instanceId =
    Set.ncard {eventId | ∃ event : OfferedEvent, event.eventId = eventId ∧
      EventOffered calls (serviceId, instanceId) event}
  event_absent : ∀ serviceId instanceId, reg.find serviceId instanceId = none → ∀ eventId,
    (∀ eventgroupIds isField cycleMs,
      reg.addEvent serviceId instanceId eventId eventgroupIds isField cycleMs = reg) ∧
    reg.removeEvent serviceId instanceId eventId = reg
  comm : ∀ left right : ServiceCall Fn, left.pair ≠ right.pair →
    (reg.exec left).exec right = (reg.exec right).exec left

theorem find_run_iff (calls : List (ServiceCall Fn)) (serviceId instanceId : UInt16) (requestFn : Fn) :
    (∃ service, (run calls).find serviceId instanceId = some service ∧ service.requestFn = requestFn) ↔
      Offered calls (serviceId, instanceId) requestFn := by
  rw [offered_iff, ← view_run]
  exact Option.map_eq_some_iff.symm

theorem found_run_iff (calls : List (ServiceCall Fn)) (pair : UInt16 × UInt16) :
    ((run calls).find pair.1 pair.2).isSome ↔ ∃ requestFn, Offered calls pair requestFn := by
  simp only [offered_iff, ← view_run, ← Option.isSome_iff_exists]
  exact (congrArg (· = true) Option.isSome_map).symm.to_iff

theorem findEvent_run_iff (calls : List (ServiceCall Fn)) (serviceId instanceId eventId : UInt16)
    (event : OfferedEvent) :
    (run calls).findEvent serviceId instanceId eventId = some event ↔
      event.eventId = eventId ∧ EventOffered calls (serviceId, instanceId) event := by
  rw [eventOffered_iff, ← view_run]
  constructor
  · intro hEvent
    have hId := findEvent_keyed _ hEvent
    exact ⟨hId, hId.symm ▸ hEvent⟩
  · rintro ⟨rfl, hEvent⟩
    exact hEvent

theorem run_answers (calls : List (ServiceCall Fn)) : Answers calls (run calls) where
  refines := view_run calls
  find_iff := find_run_iff calls
  find_ids _ _ _ := find_keyed _
  findEvent_iff := findEvent_run_iff calls
  serviceCount_eq := (serviceCount_eq _).trans (by simp only [found_run_iff])
  eventCount_eq serviceId instanceId := by
    simp only [eventCount_eq, Option.isSome_iff_exists, findEvent_run_iff]
  event_absent _ _ hAbsent _ := ⟨fun _ _ _ => modifyAt_absent _ hAbsent _, modifyAt_absent _ hAbsent _⟩
  comm _ _ hPairs := exec_comm _ hPairs

end ServiceRegistry

end VsomeipDart
