import Mathlib.Data.Finset.Card
import Mathlib.Data.Set.Card
import VsomeipDart.Lib.FiniteMap
import VsomeipDart.Lib.OwnedStore

/-! # The offered services (`vsomeip_service.h`, `vsomeip_service.cpp`)

`services_` is a hash map from packed keys to services, and each service has a hash map of its events; a
hash map has no order. The request callback is of any type. The mutex is left out: each call is one step.
-/

namespace VsomeipDart
set_option autoImplicit false

structure OfferedEvent where
  eventId : UInt16
  eventgroupIds : Finset UInt16
  isField : Bool
  cycleMs : UInt32
  deriving DecidableEq

structure OfferedService (Fn : Type) where
  serviceId : UInt16
  instanceId : UInt16
  requestFn : Fn
  events : Finmap fun _ : UInt16 => OfferedEvent
  events_keyed : ∀ eventId event, events.lookup eventId = some event → event.eventId = eventId

namespace OfferedService

variable {Fn : Type}

/-- A service as it is offered, without events. -/
def offer (serviceId instanceId : UInt16) (requestFn : Fn) : OfferedService Fn :=
  ⟨serviceId, instanceId, requestFn, ∅, fun _ _ hEvent => by cases hEvent⟩

def setEvent (service : OfferedService Fn) (event : OfferedEvent) : OfferedService Fn where
  serviceId := service.serviceId
  instanceId := service.instanceId
  requestFn := service.requestFn
  events := service.events.insert event.eventId event
  events_keyed eventId event' hEvent := by
    rw [FiniteMap.finmap_lookup_insert] at hEvent
    split at hEvent
    · rename_i hSame
      cases hEvent
      exact hSame.symm
    · exact service.events_keyed eventId event' hEvent

def eraseEvent (service : OfferedService Fn) (eventId : UInt16) : OfferedService Fn where
  serviceId := service.serviceId
  instanceId := service.instanceId
  requestFn := service.requestFn
  events := service.events.erase eventId
  events_keyed eventId' event hEvent := by
    rw [FiniteMap.finmap_lookup_erase] at hEvent
    split at hEvent
    · cases hEvent
    · exact service.events_keyed eventId' event hEvent

theorem lookup_setEvent (service : OfferedService Fn) (event : OfferedEvent) (eventId : UInt16) :
    (service.setEvent event).events.lookup eventId =
      if eventId = event.eventId then some event else service.events.lookup eventId := by
  rw [setEvent, FiniteMap.finmap_lookup_insert]

theorem lookup_eraseEvent (service : OfferedService Fn) (eventId eventId' : UInt16) :
    (service.eraseEvent eventId).events.lookup eventId' =
      if eventId' = eventId then none else service.events.lookup eventId' := by
  rw [eraseEvent, FiniteMap.finmap_lookup_erase]

end OfferedService

def ServiceRegistry.makeKey (serviceId instanceId : UInt16) : UInt32 :=
  (serviceId.toUInt32 <<< 16) ||| instanceId.toUInt32

@[ext] structure ServiceRegistry (Fn : Type) where
  services : Finmap fun _ : UInt32 => OfferedService Fn
  services_keyed : ∀ key service, services.lookup key = some service →
    ServiceRegistry.makeKey service.serviceId service.instanceId = key

namespace ServiceRegistry

section Keys

theorem makeKey_toNat (serviceId instanceId : UInt16) :
    (makeKey serviceId instanceId).toNat = serviceId.toNat * 65536 + instanceId.toNat := by
  have hService : serviceId.toNat < 2 ^ 16 := serviceId.toNat_lt
  have hInstance : instanceId.toNat < 2 ^ 16 := instanceId.toNat_lt
  have hShift : (serviceId.toUInt32 <<< 16).toNat = serviceId.toNat <<< 16 := by
    rw [UInt32.toNat_shiftLeft, UInt16.toNat_toUInt32]
    exact Nat.mod_eq_of_lt (by
      rw [show (16 : UInt32).toNat % 32 = 16 from rfl, Nat.shiftLeft_eq]
      omega)
  rw [makeKey, UInt32.toNat_or, hShift, UInt16.toNat_toUInt32,
    ← Nat.shiftLeft_add_eq_or_of_lt hInstance, Nat.shiftLeft_eq]

theorem makeKey_inj {serviceId instanceId serviceId' instanceId' : UInt16} :
    makeKey serviceId instanceId = makeKey serviceId' instanceId' ↔
      serviceId = serviceId' ∧ instanceId = instanceId' := by
  constructor
  · intro hKey
    have hNat := congrArg UInt32.toNat hKey
    rw [makeKey_toNat, makeKey_toNat] at hNat
    have hInstance : instanceId.toNat < 2 ^ 16 := instanceId.toNat_lt
    have hInstance' : instanceId'.toNat < 2 ^ 16 := instanceId'.toNat_lt
    exact ⟨UInt16.toNat.inj (by omega), UInt16.toNat.inj (by omega)⟩
  · rintro ⟨rfl, rfl⟩
    rfl

end Keys

variable {Fn : Type}

def empty : ServiceRegistry Fn := ⟨∅, fun _ _ hService => by cases hService⟩

def insertAt (reg : ServiceRegistry Fn) (key : UInt32) (service : OfferedService Fn)
    (hKey : makeKey service.serviceId service.instanceId = key) : ServiceRegistry Fn where
  services := reg.services.insert key service
  services_keyed key' service' hService := by
    rw [FiniteMap.finmap_lookup_insert] at hService
    split at hService
    · rename_i hSame
      cases hService
      exact hKey.trans hSame.symm
    · exact reg.services_keyed key' service' hService

def add (reg : ServiceRegistry Fn) (serviceId instanceId : UInt16) (requestFn : Fn) : ServiceRegistry Fn :=
  reg.insertAt (makeKey serviceId instanceId) (.offer serviceId instanceId requestFn) rfl

def remove (reg : ServiceRegistry Fn) (serviceId instanceId : UInt16) : ServiceRegistry Fn where
  services := reg.services.erase (makeKey serviceId instanceId)
  services_keyed key service hService := by
    rw [FiniteMap.finmap_lookup_erase] at hService
    split at hService
    · cases hService
    · exact reg.services_keyed key service hService

/-- The record under `key`, if there is one, is changed in place. -/
def modifyAt (reg : ServiceRegistry Fn) (key : UInt32) (change : OfferedService Fn → OfferedService Fn)
    (hChange : ∀ service, makeKey (change service).serviceId (change service).instanceId =
      makeKey service.serviceId service.instanceId) : ServiceRegistry Fn :=
  match hService : reg.services.lookup key with
  | none => reg
  | some service =>
    reg.insertAt key (change service) ((hChange service).trans (reg.services_keyed key service hService))

def addEvent (reg : ServiceRegistry Fn) (serviceId instanceId eventId : UInt16)
    (eventgroupIds : Finset UInt16) (isField : Bool) (cycleMs : UInt32) : ServiceRegistry Fn :=
  reg.modifyAt (makeKey serviceId instanceId)
    (fun service => service.setEvent ⟨eventId, eventgroupIds, isField, cycleMs⟩) fun _ => rfl

def removeEvent (reg : ServiceRegistry Fn) (serviceId instanceId eventId : UInt16) : ServiceRegistry Fn :=
  reg.modifyAt (makeKey serviceId instanceId) (fun service => service.eraseEvent eventId) fun _ => rfl

def find (reg : ServiceRegistry Fn) (serviceId instanceId : UInt16) : Option (OfferedService Fn) :=
  reg.services.lookup (makeKey serviceId instanceId)

def findEvent (reg : ServiceRegistry Fn) (serviceId instanceId eventId : UInt16) : Option OfferedEvent :=
  match reg.services.lookup (makeKey serviceId instanceId) with
  | none => none
  | some service => service.events.lookup eventId

def serviceCount (reg : ServiceRegistry Fn) : Nat := reg.services.keys.card

def eventCount (reg : ServiceRegistry Fn) (serviceId instanceId : UInt16) : Nat :=
  match reg.services.lookup (makeKey serviceId instanceId) with
  | none => 0
  | some service => service.events.keys.card

section Lookups

variable (reg : ServiceRegistry Fn) (key : UInt32)

theorem lookup_insertAt {key' : UInt32} {service : OfferedService Fn}
    (hKey : makeKey service.serviceId service.instanceId = key') :
    (reg.insertAt key' service hKey).services.lookup key =
      if key = key' then some service else reg.services.lookup key := by
  rw [insertAt, FiniteMap.finmap_lookup_insert]

theorem lookup_add (serviceId instanceId : UInt16) (requestFn : Fn) :
    (reg.add serviceId instanceId requestFn).services.lookup key =
      if key = makeKey serviceId instanceId then some (.offer serviceId instanceId requestFn)
      else reg.services.lookup key := by
  rw [add]
  exact reg.lookup_insertAt key _

theorem lookup_remove (serviceId instanceId : UInt16) :
    (reg.remove serviceId instanceId).services.lookup key =
      if key = makeKey serviceId instanceId then none else reg.services.lookup key := by
  rw [remove, FiniteMap.finmap_lookup_erase]

theorem lookup_modifyAt {key' : UInt32} {change : OfferedService Fn → OfferedService Fn}
    (hChange : ∀ service, makeKey (change service).serviceId (change service).instanceId =
      makeKey service.serviceId service.instanceId) :
    (reg.modifyAt key' change hChange).services.lookup key =
      if key = key' then (reg.services.lookup key).map change else reg.services.lookup key := by
  rw [modifyAt]
  split
  · rename_i hNone
    split
    · rename_i hKey
      rw [hKey, hNone, Option.map_none]
    · rfl
  · rename_i service hSome
    rw [lookup_insertAt]
    split
    · rename_i hKey
      rw [hKey, hSome, Option.map_some]
    · rfl

theorem modifyAt_absent {key : UInt32} (hAbsent : reg.services.lookup key = none)
    {change : OfferedService Fn → OfferedService Fn}
    (hChange : ∀ service, makeKey (change service).serviceId (change service).instanceId =
      makeKey service.serviceId service.instanceId) : reg.modifyAt key change hChange = reg := by
  rw [modifyAt]
  split
  · rfl
  · rename_i hService
    cases hAbsent.symm.trans hService

theorem lookup_addEvent (serviceId instanceId eventId : UInt16) (eventgroupIds : Finset UInt16)
    (isField : Bool) (cycleMs : UInt32) :
    (reg.addEvent serviceId instanceId eventId eventgroupIds isField cycleMs).services.lookup key =
      if key = makeKey serviceId instanceId then
        (reg.services.lookup key).map fun service =>
          service.setEvent ⟨eventId, eventgroupIds, isField, cycleMs⟩
      else reg.services.lookup key := by
  rw [addEvent]
  exact reg.lookup_modifyAt key _

theorem lookup_removeEvent (serviceId instanceId eventId : UInt16) :
    (reg.removeEvent serviceId instanceId eventId).services.lookup key =
      if key = makeKey serviceId instanceId then
        (reg.services.lookup key).map fun service => service.eraseEvent eventId
      else reg.services.lookup key := by
  rw [removeEvent]
  exact reg.lookup_modifyAt key _

theorem ext_lookup {reg other : ServiceRegistry Fn}
    (h : ∀ key, reg.services.lookup key = other.services.lookup key) : reg = other :=
  ServiceRegistry.ext (Finmap.ext_lookup h)

end Lookups

section Found

variable (reg : ServiceRegistry Fn)

theorem find_keyed {serviceId instanceId : UInt16} {service : OfferedService Fn}
    (hService : reg.find serviceId instanceId = some service) :
    service.serviceId = serviceId ∧ service.instanceId = instanceId :=
  makeKey_inj.mp (reg.services_keyed _ service hService)

theorem findEvent_eq (serviceId instanceId eventId : UInt16) :
    reg.findEvent serviceId instanceId eventId =
      (reg.find serviceId instanceId).bind fun service => service.events.lookup eventId := by
  rw [findEvent, find]
  cases reg.services.lookup (makeKey serviceId instanceId) <;> rfl

theorem findEvent_keyed {serviceId instanceId eventId : UInt16} {event : OfferedEvent}
    (hEvent : reg.findEvent serviceId instanceId eventId = some event) : event.eventId = eventId := by
  rw [findEvent_eq] at hEvent
  obtain ⟨service, -, hLookup⟩ := Option.bind_eq_some_iff.mp hEvent
  exact service.events_keyed eventId event hLookup

theorem serviceCount_eq :
    reg.serviceCount = Set.ncard {pair : UInt16 × UInt16 | (reg.find pair.1 pair.2).isSome} := by
  have hInjective : Function.Injective fun pair : UInt16 × UInt16 => makeKey pair.1 pair.2 :=
    fun _ _ hKey => Prod.ext_iff.mpr (makeKey_inj.mp hKey)
  have hKeys : (fun pair : UInt16 × UInt16 => makeKey pair.1 pair.2) ''
      {pair | (reg.find pair.1 pair.2).isSome} = ↑reg.services.keys := by
    ext key
    constructor
    · rintro ⟨pair, hPair, rfl⟩
      exact Finmap.mem_keys.mpr (Finmap.lookup_isSome.mp hPair)
    · intro hKey
      obtain ⟨service, hService⟩ := Finmap.mem_iff.mp (Finmap.mem_keys.mp hKey)
      have hHere := reg.services_keyed key service hService
      refine ⟨(service.serviceId, service.instanceId), ?_, hHere⟩
      show (reg.services.lookup (makeKey service.serviceId service.instanceId)).isSome
      rw [hHere, hService]
      rfl
  rw [← Set.ncard_image_of_injective _ hInjective, hKeys, Set.ncard_coe_finset]
  rfl

theorem eventCount_eq (serviceId instanceId : UInt16) :
    reg.eventCount serviceId instanceId =
      Set.ncard {eventId | (reg.findEvent serviceId instanceId eventId).isSome} := by
  rw [eventCount]
  simp only [findEvent_eq, find]
  cases hService : reg.services.lookup (makeKey serviceId instanceId) with
  | none => simp
  | some service =>
    have hKeys : {eventId | (service.events.lookup eventId).isSome} = (↑service.events.keys : Set UInt16) := by
      ext eventId
      exact Finmap.lookup_isSome.trans Finmap.mem_keys.symm
    simp only [Option.bind_some, hKeys, Set.ncard_coe_finset]

end Found

end ServiceRegistry

end VsomeipDart
