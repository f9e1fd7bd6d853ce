import VsomeipDart.Bridge
import VsomeipDart.Lib.FiniteMap
import VsomeipDart.Lib.Threads

/-! # Handlers against the teardown of their application (`vsomeip_bridge.cpp`)

Every call on the handle is a thread. A section under `g_apps_mutex` and a call of vsomeip are one step
each. A call keeps the pointer that `get_app` gave it, also when the teardown deletes what it points to.
-/

namespace VsomeipDart
set_option autoImplicit false

inductive HandleCall where
  | subscribe (key : HandlerKey) (eventgroupId : UInt16) (eventsPort : DartPort)
  | registerMessageHandler (key : HandlerKey) (eventsPort : DartPort)
  | unregisterMessageHandler (key : HandlerKey)
  | appDestroy
  deriving DecidableEq, Repr

structure TeardownState where
  /-- the handle is in `g_apps` -/
  inApps : Bool
  /-- its entry in `g_handlers` -/
  tracked : Option (List HandlerKey)
  app : Vsomeip.Application
  /-- a handler was registered after the handle was taken out of `g_apps` -/
  late : Bool
  /-- the destructor of the `VsomeipApp` has ended -/
  deleted : Bool
  /-- a call has used the `VsomeipApp` behind that, which is undefined behaviour -/
  faulted : Bool

inductive CallPoint where
  | called (call : HandleCall)
  | registering (key : HandlerKey) (eventsPort : DartPort) (eventgroupId : Option UInt16)
  | requestingEvent (key : HandlerKey) (eventgroupId : UInt16)
  | subscribing (key : HandlerKey) (eventgroupId : UInt16)
  | tracking (key : HandlerKey)
  | unregistering (key : HandlerKey)
  | tearingDown (handlers : List HandlerKey)
  | stopping
  | deleting
  | returned
  deriving DecidableEq, Repr

namespace CallPoint

def WillTrack (key : HandlerKey) : CallPoint → Prop
  | requestingEvent k _ => k = key
  | subscribing k _ => k = key
  | tracking k => k = key
  | _ => False

def WillUnregister (key : HandlerKey) : CallPoint → Prop
  | tearingDown handlers => key ∈ handlers
  | _ => False

/-- The call has its application, and will register or track a handler. -/
def InFlight : CallPoint → Prop
  | registering .. => True
  | requestingEvent .. => True
  | subscribing .. => True
  | tracking _ => True
  | _ => False

def TearsDown : CallPoint → Prop
  | tearingDown _ => True
  | stopping => True
  | deleting => True
  | _ => False

def Unregisters : CallPoint → Prop
  | unregistering _ => True
  | _ => False

instance : DecidablePred Unregisters
  | unregistering _ => isTrue trivial
  | called _ | registering .. | requestingEvent .. | subscribing .. | tracking _ | tearingDown _ | stopping
  | deleting | returned => isFalse id

theorem inFlight_of_willTrack {key : HandlerKey} {t : CallPoint} (h : t.WillTrack key) :
    t.InFlight := by
  cases t with
  | requestingEvent => trivial
  | subscribing => trivial
  | tracking => trivial
  | _ => exact h.elim

end CallPoint

namespace Teardown

/-- A call of vsomeip through the pointer of `get_app`. -/
def access (s s' : TeardownState) (t' : CallPoint) : Option (TeardownState × CallPoint) :=
  if s.deleted then some ({ s with faulted := true }, .returned) else some (s', t')

/-- `app` stays reachable through the pointers that the calls have, whether it is in `g_apps` or not. -/
def step (_ : Nat) (s : TeardownState) : CallPoint → Option (TeardownState × CallPoint)
  | .called (.subscribe key eventgroupId eventsPort) =>
    if s.inApps then some (s, .registering key eventsPort (some eventgroupId))
    else some (s, .returned)
  | .called (.registerMessageHandler key eventsPort) =>
    if s.inApps then some (s, .registering key eventsPort none) else some (s, .returned)
  | .called (.unregisterMessageHandler key) =>
    if s.inApps then some (s, .unregistering key) else some (s, .returned)
  | .called .appDestroy =>
    if s.inApps then
      some ({ s with inApps := false, tracked := none }, .tearingDown (s.tracked.getD []))
    else some (s, .returned)
  | .registering key eventsPort eventgroupId =>
    access s { s with
      app := s.app.registerMessageHandler key eventsPort
      late := s.late || !s.inApps }
      (match eventgroupId with
      | some group => .requestingEvent key group
      | none => .tracking key)
  -- which events vsomeip delivers does not matter here
  | .requestingEvent key eventgroupId => access s s (.subscribing key eventgroupId)
  | .subscribing key _ => access s s (.tracking key)
  -- the handle is only a key here
  | .tracking key =>
    some ({ s with tracked := some ((s.tracked.getD []).insert key) }, .returned)
  | .unregistering key => access s { s with app := s.app.unregisterMessageHandler key } .returned
  -- the teardown owns the application
  | .tearingDown (key :: rest) =>
    some ({ s with app := s.app.unregisterMessageHandler key }, .tearingDown rest)
  | .tearingDown [] => some (s, .stopping)
  -- the destructor stops the application and joins its thread
  | .stopping => some (s, .deleting)
  | .deleting => some ({ s with deleted := true }, .returned)
  | .returned => none

abbrev Config := Threads.Config TeardownState CallPoint

def start (calls : List HandleCall) : Config where
  shared := ⟨true, none, .create, false, false, false⟩
  threads := calls.map .called

def run (c : Config) (schedule : List Nat) : Config := Threads.run step c schedule

/-- No handler is left, none was registered late, `g_handlers` has no entry, and no call has used the
application behind its delete. -/
structure Clean (s : TeardownState) : Prop where
  unregistered : ∀ key, s.app.handlers.lookup key = none
  inTime : s.late = false
  untracked : s.tracked = none
  defined : s.faulted = false

/-- Before teardown every registered handler is tracked, or a call is about to track it. -/
structure Registered (c : Config) : Prop where
  inTime : c.shared.late = false
  present : c.shared.deleted = false
  defined : c.shared.faulted = false
  quiet : ∀ (i : Nat) (t : CallPoint), c.threads[i]? = some t → ¬ t.TearsDown
  known : ∀ key, c.shared.app.handlers.lookup key ≠ none →
    key ∈ c.shared.tracked.getD [] ∨
      ∃ (i : Nat) (t : CallPoint), c.threads[i]? = some t ∧ t.WillTrack key

/-- After teardown began with no call in flight, what is left is unregistered by the teardown. -/
structure Draining (c : Config) : Prop where
  gone : c.shared.inApps = false
  inTime : c.shared.late = false
  untracked : c.shared.tracked = none
  defined : c.shared.faulted = false
  alone : c.shared.deleted = true → ∀ (i : Nat) (t : CallPoint), c.threads[i]? = some t → ¬ t.Unregisters
  quiet : ∀ (i : Nat) (t : CallPoint), c.threads[i]? = some t → ¬ t.InFlight
  left : ∀ key, c.shared.app.handlers.lookup key ≠ none →
    ∃ (i : Nat) (t : CallPoint), c.threads[i]? = some t ∧ t.WillUnregister key

/-- After teardown began with the call `j` in flight, that call leaves a trace. -/
structure Spoiled (j : Nat) (c : Config) : Prop where
  gone : c.shared.inApps = false
  trace : c.shared.late = true ∨ c.shared.tracked ≠ none ∨ c.shared.faulted = true ∨
    ∃ t : CallPoint, c.threads[j]? = some t ∧ t.InFlight

/-- The application was deleted under the call `j`, which uses it, or will. -/
structure Doomed (j : Nat) (c : Config) : Prop where
  deleted : c.shared.deleted = true
  trace : c.shared.faulted = true ∨ ∃ t : CallPoint, c.threads[j]? = some t ∧ t.Unregisters

theorem lookup_register (app : Vsomeip.Application) (key key' : HandlerKey) (eventsPort : DartPort)
    (h : (app.registerMessageHandler key eventsPort).handlers.lookup key' ≠ none) :
    key' = key ∨ app.handlers.lookup key' ≠ none := by
  rw [Vsomeip.Application.registerMessageHandler, FiniteMap.lookup_insert] at h
  split at h
  · exact .inl ‹_›
  · exact .inr h

theorem lookup_unregister (app : Vsomeip.Application) (key key' : HandlerKey)
    (h : (app.unregisterMessageHandler key).handlers.lookup key' ≠ none) :
    key' ≠ key ∧ app.handlers.lookup key' ≠ none := by
  rw [Vsomeip.Application.unregisterMessageHandler, FiniteMap.lookup_erase] at h
  split at h
  · exact absurd rfl h
  · exact ⟨‹_›, h⟩

theorem access_cases {s s₁ s' : TeardownState} {t₁ t' : CallPoint} (h : access s s₁ t₁ = some (s', t')) :
    s.deleted = true ∧ s' = { s with faulted := true } ∧ t' = .returned ∨
      s.deleted = false ∧ s' = s₁ ∧ t' = t₁ := by
  rw [access] at h
  split at h
  · rename_i hDeleted
    cases h
    exact .inl ⟨hDeleted, rfl, rfl⟩
  · rename_i hPresent
    cases h
    exact .inr ⟨Bool.not_eq_true _ ▸ hPresent, rfl, rfl⟩

section Step

variable {i : Nat} {s s' : TeardownState} {t t' : CallPoint} (hStep : step i s t = some (s', t'))

include hStep

/-- What a step does as long as the handle is in `g_apps`. -/
theorem step_live (hLive : s'.inApps = true) (hPresent : s.deleted = false) (hQuiet : ¬ t.TearsDown) :
    (s.late = false → s'.late = false) ∧ s'.deleted = false ∧ s'.faulted = s.faulted ∧ ¬ t'.TearsDown ∧
    (∀ key, s'.app.handlers.lookup key ≠ none →
      s.app.handlers.lookup key ≠ none ∨ t'.WillTrack key) ∧
    (∀ key ∈ s.tracked.getD [], key ∈ s'.tracked.getD []) ∧
    ∀ key, t.WillTrack key → t'.WillTrack key ∨ key ∈ s'.tracked.getD [] := by
  have hAccess : ∀ {s₁ : TeardownState} {t₁ : CallPoint}, access s s₁ t₁ = some (s', t') → s' = s₁ ∧ t' = t₁ := by
    intro s₁ t₁ h
    rcases access_cases h with ⟨hDeleted, -⟩ | ⟨-, hNext⟩
    · rw [hPresent] at hDeleted
      cases hDeleted
    · exact hNext
  cases t with
  | called call =>
    cases call with
    | appDestroy =>
      rw [step] at hStep
      split at hStep
      · cases hStep
        cases hLive
      · cases hStep
        exact ⟨id, hPresent, rfl, id, fun _ h => .inl h, fun _ h => h, fun _ h => h.elim⟩
    | _ =>
      rw [step] at hStep
      split at hStep <;> cases hStep <;>
        exact ⟨id, hPresent, rfl, id, fun _ h => .inl h, fun _ h => h, fun _ h => h.elim⟩
  | registering key port group =>
    obtain ⟨rfl, rfl⟩ := hAccess hStep
    refine ⟨fun hTime => ?_, hPresent, rfl, ?_, fun key' h => ?_, fun _ h => h, fun _ h => h.elim⟩
    · have hIn : s.inApps = true := hLive
      simp [hTime, hIn]
    · cases group <;> exact id
    · rcases lookup_register _ _ _ _ h with rfl | hOld
      · exact .inr (by cases group <;> rfl)
      · exact .inl hOld
  | requestingEvent key group =>
    obtain ⟨rfl, rfl⟩ := hAccess hStep
    exact ⟨id, hPresent, rfl, id, fun _ h => .inl h, fun _ h => h, fun _ h => .inl h⟩
  | subscribing key group =>
    obtain ⟨rfl, rfl⟩ := hAccess hStep
    exact ⟨id, hPresent, rfl, id, fun _ h => .inl h, fun _ h => h, fun _ h => .inl h⟩
  | tracking key =>
    cases hStep
    exact ⟨id, hPresent, rfl, id, fun _ h => .inl h, fun _ h => List.mem_insert_of_mem h,
      fun _ h => .inr (h ▸ List.mem_insert_self)⟩
  | unregistering key =>
    obtain ⟨rfl, rfl⟩ := hAccess hStep
    exact ⟨id, hPresent, rfl, id, fun key' h => .inl (lookup_unregister _ _ _ h).2, fun _ h => h,
      fun _ h => h.elim⟩
  | returned => cases hStep
  | _ => exact absurd trivial hQuiet

theorem step_inApps (hLive : s'.inApps = true) : s.inApps = true := by
  have hAccess : ∀ {s₁ : TeardownState} {t₁ : CallPoint}, access s s₁ t₁ = some (s', t') →
      s₁.inApps = s.inApps → s.inApps = true := by
    intro s₁ t₁ h hSame
    rcases access_cases h with ⟨-, rfl, -⟩ | ⟨-, rfl, -⟩
    · exact hLive
    · rwa [← hSame]
  cases t with
  | called call =>
    cases call with
    | appDestroy =>
      rw [step] at hStep
      split at hStep
      · cases hStep
        cases hLive
      · cases hStep
        exact hLive
    | _ =>
      rw [step] at hStep
      split at hStep <;> cases hStep <;> exact hLive
  | registering key port group => exact hAccess hStep rfl
  | requestingEvent key group => exact hAccess hStep rfl
  | subscribing key group => exact hAccess hStep rfl
  | unregistering key => exact hAccess hStep rfl
  | tearingDown handlers => cases handlers <;> cases hStep <;> exact hLive
  | tracking key =>
    cases hStep
    exact hLive
  | stopping =>
    cases hStep
    exact hLive
  | deleting =>
    cases hStep
    exact hLive
  | returned => cases hStep

/-- Without the handle in `g_apps`, a call that is not in flight only unregisters, and it faults only if the
application is deleted under it. -/
theorem step_gone (hGone : s.inApps = false) (hQuiet : ¬ t.InFlight)
    (hAlone : s.deleted = true → ¬ t.Unregisters) : s'.inApps = false ∧
    s'.late = s.late ∧ s'.tracked = s.tracked ∧ s'.faulted = s.faulted ∧ ¬ t'.InFlight ∧ ¬ t'.Unregisters ∧
    (s'.deleted = true → s.deleted = true ∨ t = .deleting) ∧
    ∀ key, s'.app.handlers.lookup key ≠ none → s.app.handlers.lookup key ≠ none ∧
      (t.WillUnregister key → t'.WillUnregister key) := by
  cases t with
  | called call =>
    cases call <;> simp only [step, hGone, Bool.false_eq_true, if_false] at hStep <;> cases hStep <;>
      exact ⟨hGone, rfl, rfl, rfl, id, id, .inl, fun _ h => ⟨h, False.elim⟩⟩
  | unregistering key =>
    rcases access_cases hStep with ⟨hDeleted, -⟩ | ⟨-, rfl, rfl⟩
    · exact absurd trivial (hAlone hDeleted)
    · exact ⟨hGone, rfl, rfl, rfl, id, id, .inl, fun key' h => ⟨(lookup_unregister _ _ _ h).2, False.elim⟩⟩
  | tearingDown handlers =>
    cases handlers with
    | nil =>
      cases hStep
      exact ⟨hGone, rfl, rfl, rfl, id, id, .inl, fun _ h => ⟨h, fun hMem => by cases hMem⟩⟩
    | cons key rest =>
      cases hStep
      refine ⟨hGone, rfl, rfl, rfl, id, id, .inl, fun key' h => ?_⟩
      obtain ⟨hNe, hOld⟩ := lookup_unregister _ _ _ h
      exact ⟨hOld, fun hMem => (List.mem_cons.mp hMem).resolve_left hNe⟩
  | stopping =>
    cases hStep
    exact ⟨hGone, rfl, rfl, rfl, id, id, .inl, fun _ h => ⟨h, False.elim⟩⟩
  | deleting =>
    cases hStep
    exact ⟨hGone, rfl, rfl, rfl, id, id, fun _ => .inr rfl, fun _ h => ⟨h, False.elim⟩⟩
  | returned => cases hStep
  | _ => exact absurd trivial hQuiet

/-- A call in flight without the handle in `g_apps` goes on, or leaves a trace; and traces stay. -/
theorem step_trace (hGone : s.inApps = false) : s'.inApps = false ∧
    (s.late = true → s'.late = true) ∧ (s.tracked ≠ none → s'.tracked ≠ none) ∧
    (s.faulted = true → s'.faulted = true) ∧
    (t.InFlight → s'.late = true ∨ s'.tracked ≠ none ∨ s'.faulted = true ∨ t'.InFlight) := by
  cases t with
  | called call =>
    cases call <;> simp only [step, hGone, Bool.false_eq_true, if_false] at hStep <;> cases hStep <;>
      exact ⟨hGone, id, id, id, False.elim⟩
  | registering key port group =>
    rcases access_cases hStep with ⟨-, rfl, -⟩ | ⟨-, rfl, -⟩
    · exact ⟨hGone, id, id, fun _ => rfl, fun _ => .inr (.inr (.inl rfl))⟩
    · exact ⟨hGone, fun h => by simp [h], id, id, fun _ => .inl (by simp [hGone])⟩
  | requestingEvent key group =>
    rcases access_cases hStep with ⟨-, rfl, -⟩ | ⟨-, rfl, rfl⟩
    · exact ⟨hGone, id, id, fun _ => rfl, fun _ => .inr (.inr (.inl rfl))⟩
    · exact ⟨hGone, id, id, id, fun _ => .inr (.inr (.inr trivial))⟩
  | subscribing key group =>
    rcases access_cases hStep with ⟨-, rfl, -⟩ | ⟨-, rfl, rfl⟩
    · exact ⟨hGone, id, id, fun _ => rfl, fun _ => .inr (.inr (.inl rfl))⟩
    · exact ⟨hGone, id, id, id, fun _ => .inr (.inr (.inr trivial))⟩
  | tracking key =>
    cases hStep
    exact ⟨hGone, id, fun _ => Option.some_ne_none _, id, fun _ => .inr (.inl (Option.some_ne_none _))⟩
  | unregistering key =>
    rcases access_cases hStep with ⟨-, rfl, -⟩ | ⟨-, rfl, -⟩
    · exact ⟨hGone, id, id, fun _ => rfl, False.elim⟩
    · exact ⟨hGone, id, id, id, False.elim⟩
  | tearingDown handlers => cases handlers <;> cases hStep <;> exact ⟨hGone, id, id, id, False.elim⟩
  | stopping =>
    cases hStep
    exact ⟨hGone, id, id, id, False.elim⟩
  | deleting =>
    cases hStep
    exact ⟨hGone, id, id, id, False.elim⟩
  | returned => cases hStep

/-- Behind the delete an unregistering call faults, and the fault stays. -/
theorem step_doomed (hDeleted : s.deleted = true) : s'.deleted = true ∧
    (s.faulted = true → s'.faulted = true) ∧ (t.Unregisters → s'.faulted = true) := by
  have hAccess : ∀ {s₁ : TeardownState} {t₁ : CallPoint}, access s s₁ t₁ = some (s', t') →
      s'.deleted = true ∧ s'.faulted = true := by
    intro s₁ t₁ h
    rcases access_cases h with ⟨-, rfl, -⟩ | ⟨hPresent, -⟩
    · exact ⟨hDeleted, rfl⟩
    · rw [hDeleted] at hPresent
      cases hPresent
  have hFault : ∀ {s₁ : TeardownState} {t₁ : CallPoint}, access s s₁ t₁ = some (s', t') → s'.deleted = true ∧
      (s.faulted = true → s'.faulted = true) ∧ (t.Unregisters → s'.faulted = true) :=
    fun h => ⟨(hAccess h).1, fun _ => (hAccess h).2, fun _ => (hAccess h).2⟩
  cases t with
  | called call =>
    cases call <;> rw [step] at hStep <;> split at hStep <;> cases hStep <;> exact ⟨hDeleted, id, False.elim⟩
  | registering key port group => exact hFault hStep
  | requestingEvent key group => exact hFault hStep
  | subscribing key group => exact hFault hStep
  | unregistering key => exact hFault hStep
  | tracking key =>
    cases hStep
    exact ⟨hDeleted, id, False.elim⟩
  | tearingDown handlers => cases handlers <;> cases hStep <;> exact ⟨hDeleted, id, False.elim⟩
  | stopping =>
    cases hStep
    exact ⟨hDeleted, id, False.elim⟩
  | deleting =>
    cases hStep
    exact ⟨rfl, id, False.elim⟩
  | returned => cases hStep

end Step

theorem registered_start (calls : List HandleCall) : Registered (start calls) where
  inTime := rfl
  present := rfl
  defined := rfl
  quiet i t hThere := by
    obtain ⟨call, -, rfl⟩ := List.mem_map.mp (List.mem_of_getElem? hThere)
    exact id
  known key h := absurd rfl h

theorem registered_run {c : Config} (h : Registered c) (schedule : List Nat)
    (hLive : (run c schedule).shared.inApps = true) : Registered (run c schedule) := by
  refine Threads.run_induction (P := fun c => c.shared.inApps = true → Registered c)
    (fun c i t s' t' h hThread hStep hLive => ?_) (fun _ => h) schedule hLive
  have hBefore := h (step_inApps hStep hLive)
  obtain ⟨hTime, hPresent, hDefined, hQuiet, hKeys, hTracked, hMove⟩ :=
    step_live hStep hLive hBefore.present (hBefore.quiet i t hThread)
  refine ⟨hTime hBefore.inTime, hPresent, hDefined.trans hBefore.defined, fun j u hThere => ?_, fun key hKey => ?_⟩
  · rcases Threads.getElem?_set hThread hThere with ⟨-, rfl⟩ | ⟨-, hSame⟩
    · exact hQuiet
    · exact hBefore.quiet j u hSame
  · have hHere : t'.WillTrack key → ∃ (j : Nat) (u : CallPoint),
        (c.threads.set i t')[j]? = some u ∧ u.WillTrack key :=
      fun h => ⟨i, t', Threads.set_self hThread t', h⟩
    rcases hKeys key hKey with hOld | hNew
    · rcases hBefore.known key hOld with hMem | hPending
      · exact .inl (hTracked key hMem)
      · rcases Threads.exists_set hThread t' hPending with hStill | hMoved
        · exact .inr hStill
        · exact (hMove key hMoved).symm.imp_right hHere
    · exact .inr (hHere hNew)

/-- Where the application is deleted, no call that has it is about to unregister a handler. -/
def DeletesAlone (c : Config) (schedule : List Nat) : Prop :=
  ∀ before i after, schedule = before ++ i :: after → (run c before).threads[i]? = some .deleting →
    ∀ t ∈ (run c before).threads, ¬ t.Unregisters

theorem DeletesAlone.append {c : Config} (left : List Nat) {right : List Nat} (h : DeletesAlone c (left ++ right)) :
    DeletesAlone (run c left) right := by
  intro before i after hSplit hThread
  have hRun : run (run c left) before = run c (left ++ before) := (Threads.run_append c left before).symm
  rw [hRun] at hThread ⊢
  exact h (left ++ before) i after (by rw [hSplit, List.append_assoc]) hThread

theorem draining_turn {c : Config} (h : Draining c) (i : Nat)
    (hAlone : c.threads[i]? = some .deleting → ∀ t ∈ c.threads, ¬ t.Unregisters) :
    Draining (Threads.turn step c i) := by
  rcases Threads.turn_cases step c i with hSame | ⟨t, s', t', hThread, hStep, hTurn⟩
  · rwa [hSame]
  · obtain ⟨hGone, hLate, hTracked, hDefined, hQuiet, hEnded, hDeletes, hKeys⟩ :=
      step_gone hStep h.gone (h.quiet i t hThread) fun hDeleted => h.alone hDeleted i t hThread
    have hOthers : s'.deleted = true → ∀ (j : Nat) (u : CallPoint), c.threads[j]? = some u → ¬ u.Unregisters := by
      intro hDeleted j u hThere
      rcases hDeletes hDeleted with hBefore | rfl
      · exact h.alone hBefore j u hThere
      · exact hAlone hThread u (List.mem_of_getElem? hThere)
    rw [hTurn]
    refine ⟨hGone, hLate.trans h.inTime, hTracked.trans h.untracked, hDefined.trans h.defined,
      fun hDeleted j u hThere => ?_, fun j u hThere => ?_, fun key hKey => ?_⟩
    · rcases Threads.getElem?_set hThread hThere with ⟨-, rfl⟩ | ⟨-, hSame⟩
      · exact hEnded
      · exact hOthers hDeleted j u hSame
    · rcases Threads.getElem?_set hThread hThere with ⟨-, rfl⟩ | ⟨-, hSame⟩
      · exact hQuiet
      · exact h.quiet j u hSame
    · obtain ⟨hOld, hMove⟩ := hKeys key hKey
      rcases Threads.exists_set hThread t' (h.left key hOld) with hStill | hMoved
      · exact hStill
      · exact ⟨i, t', Threads.set_self hThread t', hMove hMoved⟩

theorem draining_run {c : Config} (h : Draining c) {schedule : List Nat} (hAlone : DeletesAlone c schedule) :
    Draining (run c schedule) := by
  induction schedule generalizing c with
  | nil => exact h
  | cons i rest ih =>
    exact ih (draining_turn h i (hAlone [] i rest rfl)) (DeletesAlone.append [i] hAlone)

theorem spoiled_run {j : Nat} {c : Config} (h : Spoiled j c) (schedule : List Nat) :
    Spoiled j (run c schedule) := by
  refine Threads.run_induction (fun c i t s' t' h hThread hStep => ?_) h schedule
  obtain ⟨hGone, hLate, hTracked, hFaulted, hFlight⟩ := step_trace hStep h.gone
  refine ⟨hGone, ?_⟩
  rcases h.trace with hOld | hOld | hOld | ⟨u, hThere, hInFlight⟩
  · exact .inl (hLate hOld)
  · exact .inr (.inl (hTracked hOld))
  · exact .inr (.inr (.inl (hFaulted hOld)))
  · rcases eq_or_ne i j with rfl | hj
    · rw [hThread] at hThere
      cases hThere
      rcases hFlight hInFlight with hNow | hNow | hNow | hStill
      · exact .inl hNow
      · exact .inr (.inl hNow)
      · exact .inr (.inr (.inl hNow))
      · exact .inr (.inr (.inr ⟨t', Threads.set_self hThread t', hStill⟩))
    · exact .inr (.inr (.inr ⟨u, (List.getElem?_set_ne hj).trans hThere, hInFlight⟩))

theorem doomed_run {j : Nat} {c : Config} (h : Doomed j c) (schedule : List Nat) : Doomed j (run c schedule) := by
  refine Threads.run_induction (fun c i t s' t' h hThread hStep => ?_) h schedule
  obtain ⟨hDeleted, hFaulted, hUses⟩ := step_doomed hStep h.deleted
  refine ⟨hDeleted, ?_⟩
  rcases h.trace with hOld | ⟨u, hThere, hUnregisters⟩
  · exact .inl (hFaulted hOld)
  · rcases eq_or_ne i j with rfl | hj
    · rw [hThread] at hThere
      cases hThere
      exact .inl (hUses hUnregisters)
    · exact .inr ⟨u, (List.getElem?_set_ne hj).trans hThere, hUnregisters⟩

section Destroy

variable {c : Config} {i : Nat} (hDestroy : c.threads[i]? = some (.called .appDestroy))
  (hLive : c.shared.inApps = true)

include hDestroy hLive

theorem turn_destroy : Threads.turn step c i =
    { shared := { c.shared with inApps := false, tracked := none }
      threads := c.threads.set i (.tearingDown (c.shared.tracked.getD [])) } :=
  Threads.turn_eq hDestroy (by rw [step, if_pos hLive])

theorem draining_destroy (h : Registered c)
    (hQuiet : ∀ t ∈ c.threads, ¬ t.InFlight) : Draining (Threads.turn step c i) := by
  rw [turn_destroy hDestroy hLive]
  refine ⟨rfl, h.inTime, rfl, h.defined, fun hDeleted => ?_, fun j u hThere => ?_, fun key hKey => ?_⟩
  · have hPresent : c.shared.deleted = true := hDeleted
    rw [h.present] at hPresent
    cases hPresent
  · rcases Threads.getElem?_set hDestroy hThere with ⟨-, rfl⟩ | ⟨-, hSame⟩
    · exact id
    · exact hQuiet u (List.mem_of_getElem? hSame)
  · rcases h.known key hKey with hMem | ⟨j, t, hThere, hTrack⟩
    · exact ⟨i, _, Threads.set_self hDestroy _, hMem⟩
    · exact absurd (CallPoint.inFlight_of_willTrack hTrack) (hQuiet t (List.mem_of_getElem? hThere))

theorem spoiled_turn {j : Nat} {t : CallPoint} (hThere : c.threads[j]? = some t)
    (hInFlight : t.InFlight) : Spoiled j (Threads.turn step c i) := by
  rw [turn_destroy hDestroy hLive]
  have hNe : i ≠ j := by
    rintro rfl
    rw [hDestroy] at hThere
    cases hThere
    exact hInFlight
  exact ⟨rfl, .inr (.inr (.inr ⟨t, (List.getElem?_set_ne hNe).trans hThere, hInFlight⟩))⟩

end Destroy

theorem doomed_turn {c : Config} {i j : Nat} {t : CallPoint} (hDelete : c.threads[i]? = some .deleting)
    (hThere : c.threads[j]? = some t) (hUnregisters : t.Unregisters) : Doomed j (Threads.turn step c i) := by
  have hTurn : Threads.turn step c i =
      { shared := { c.shared with deleted := true }, threads := c.threads.set i .returned } :=
    Threads.turn_eq hDelete rfl
  have hNe : i ≠ j := by
    rintro rfl
    rw [hDelete] at hThere
    cases hThere
    exact hUnregisters
  rw [hTurn]
  exact ⟨rfl, .inr ⟨t, (List.getElem?_set_ne hNe).trans hThere, hUnregisters⟩⟩

/-- A run in which a teardown took place and every call has returned leaves nothing behind and uses nothing that is
deleted exactly when no registering call was under way when the teardown took the application, and no
unregistering one when it deleted it. -/
theorem teardown_clean_iff (calls : List HandleCall) (before after : List Nat) (i : Nat)
    (hDestroy : (run (start calls) before).threads[i]? = some (.called .appDestroy))
    (hLive : (run (start calls) before).shared.inApps = true)
    (hReturned : ∀ t ∈ (run (start calls) (before ++ i :: after)).threads, t = .returned) :
    Clean (run (start calls) (before ++ i :: after)).shared ↔
      (∀ t ∈ (run (start calls) before).threads, ¬ t.InFlight) ∧
        DeletesAlone (start calls) (before ++ i :: after) := by
  have hRun : run (start calls) (before ++ i :: after) =
      run (Threads.turn step (run (start calls) before) i) after :=
    Threads.run_append _ _ _
  have hEnded : ∀ {j : Nat} {u : CallPoint},
      (run (start calls) (before ++ i :: after)).threads[j]? = some u → u = .returned :=
    fun hThere => hReturned _ (List.mem_of_getElem? hThere)
  constructor
  · intro hClean
    constructor
    · intro t hMem hInFlight
      obtain ⟨j, hThere⟩ := List.getElem?_of_mem hMem
      have hSpoiled := spoiled_run (spoiled_turn hDestroy hLive hThere hInFlight) after
      rw [← hRun] at hSpoiled
      rcases hSpoiled.trace with hLate | hTracked | hFaulted | ⟨u, hStill, hFlying⟩
      · rw [hClean.inTime] at hLate
        cases hLate
      · exact hTracked hClean.untracked
      · rw [hClean.defined] at hFaulted
        cases hFaulted
      · rw [hEnded hStill] at hFlying
        exact hFlying
    · intro early j late hSplit hDelete t hMem hUnregisters
      obtain ⟨k, hThere⟩ := List.getElem?_of_mem hMem
      have hDoomed := doomed_run (doomed_turn hDelete hThere hUnregisters) late
      have hSame : run (Threads.turn step (run (start calls) early) j) late =
          run (start calls) (before ++ i :: after) := by
        rw [hSplit]
        exact (Threads.run_append (start calls) early (j :: late)).symm
      rw [hSame] at hDoomed
      rcases hDoomed.trace with hFaulted | ⟨u, hStill, hWill⟩
      · rw [hClean.defined] at hFaulted
        cases hFaulted
      · rw [hEnded hStill] at hWill
        exact hWill
  · rintro ⟨hQuiet, hAlone⟩
    have hLater : DeletesAlone (Threads.turn step (run (start calls) before) i) after :=
      DeletesAlone.append [i] (hAlone.append before)
    have hDraining := draining_run (draining_destroy hDestroy hLive
      (registered_run (registered_start calls) before hLive) hQuiet) hLater
    rw [← hRun] at hDraining
    refine ⟨fun key => ?_, hDraining.inTime, hDraining.untracked, hDraining.defined⟩
    by_contra hKey
    obtain ⟨j, t, hThere, hRemains⟩ := hDraining.left key hKey
    rw [hEnded hThere] at hRemains
    exact hRemains

theorem teardown_clean_registered :
    Clean (run (start [.registerMessageHandler ⟨0x1234, 1, 0x8001⟩ 7, .appDestroy])
      ([0, 0, 0] ++ 1 :: [1, 1, 1, 1])).shared := by
  refine (teardown_clean_iff _ [0, 0, 0] [1, 1, 1, 1] 1 rfl rfl (by decide)).mpr ⟨fun t hMem => ?_, ?_⟩
  · have hCalls : t = .returned ∨ t = .called .appDestroy := by
      simpa using (show t ∈ [CallPoint.returned, .called .appDestroy] from hMem)
    rcases hCalls with rfl | rfl <;> exact id
  · have hNone : ∀ early ∈ [0, 0, 0, 1, 1, 1, 1, 1].inits,
        ∀ t ∈ (run (start [.registerMessageHandler ⟨0x1234, 1, 0x8001⟩ 7, .appDestroy]) early).threads,
          ¬ t.Unregisters := by
      decide
    intro early j late hSplit _
    exact hNone early ((List.mem_inits _ _).mpr ⟨_, hSplit.symm⟩)

/-- The application is taken between the look-up and the registration of a subscription. -/
theorem teardown_overtakes_subscribe :
    ((run (start [.subscribe ⟨0x1234, 1, 0x8001⟩ 1 7, .appDestroy]) [0, 1, 0, 0, 0, 0, 1, 1, 1]).threads =
        [.returned, .returned] ∧
      (run (start [.subscribe ⟨0x1234, 1, 0x8001⟩ 1 7, .appDestroy])
          [0, 1, 0, 0, 0, 0, 1, 1, 1]).shared.app.handlers.lookup ⟨0x1234, 1, 0x8001⟩ = some 7 ∧
      (run (start [.subscribe ⟨0x1234, 1, 0x8001⟩ 1 7, .appDestroy])
        [0, 1, 0, 0, 0, 0, 1, 1, 1]).shared.tracked = some [⟨0x1234, 1, 0x8001⟩]) ∧
    ¬ ∀ (calls : List HandleCall) (before after : List Nat) (i : Nat),
      (run (start calls) before).threads[i]? = some (.called .appDestroy) →
      (run (start calls) before).shared.inApps = true →
      (∀ t ∈ (run (start calls) (before ++ i :: after)).threads, t = .returned) →
      Clean (run (start calls) (before ++ i :: after)).shared := by
  refine ⟨⟨rfl, rfl, rfl⟩, fun h => ?_⟩
  have hClean := h [.subscribe ⟨0x1234, 1, 0x8001⟩ 1 7, .appDestroy] [0] [0, 0, 0, 0, 1, 1, 1] 1 rfl rfl
    (by decide)
  have hLate := hClean.inTime
  cases hLate

/-- A call that unregisters a handler uses the application behind its delete. -/
example : (run (start [.unregisterMessageHandler ⟨0x1234, 1, 0x8001⟩, .appDestroy]) [0, 1, 1, 1, 1, 0]).shared.faulted =
    true := rfl

section Alone

variable {F : Type}

def toBridge (rest : BridgeState F) (handle : Handle) (s : TeardownState) : BridgeState F :=
  { rest with
    apps := if s.inApps then rest.apps.insert handle s.app else rest.apps.erase handle
    handlers :=
      match s.tracked with
      | some keys => rest.handlers.insert handle keys
      | none => rest.handlers.erase handle }

def callAlone (s : BridgeState F) (handle : Handle) : HandleCall → BridgeState F
  | .subscribe key eventgroupId eventsPort =>
    Bridge.subscribe s handle key.svc key.inst eventgroupId key.method eventsPort
  | .registerMessageHandler key eventsPort => Bridge.registerMessageHandler s handle key eventsPort
  | .unregisterMessageHandler key => Bridge.unregisterMessageHandler s handle key
  | .appDestroy => Bridge.appDestroy s handle

/-- The steps of a call up to the last that the bridge sees. -/
def turnsAlone : HandleCall → Nat
  | .subscribe .. => 5
  | .registerMessageHandler .. => 3
  | .unregisterMessageHandler _ => 2
  | .appDestroy => 1

theorem getApp_toBridge (rest : BridgeState F) (handle : Handle) (s : TeardownState) :
    Bridge.getApp (toBridge rest handle s) handle = if s.inApps then some s.app else none := by
  rw [Bridge.getApp, toBridge]
  split
  · exact AList.lookup_insert _
  · exact AList.lookup_erase _ _

theorem registered_toBridge (rest : BridgeState F) (handle : Handle) (s : TeardownState)
    (hLive : s.inApps = true) (key : HandlerKey) (eventsPort : DartPort) :
    Bridge.registerMessageHandler (toBridge rest handle s) handle key eventsPort =
      toBridge rest handle { s with
        tracked := some ((s.tracked.getD []).insert key)
        app := s.app.registerMessageHandler key eventsPort
        late := s.late || !s.inApps } := by
  have hApp : Bridge.getApp (toBridge rest handle s) handle = some s.app := by
    rw [getApp_toBridge, if_pos hLive]
  rw [Bridge.registerMessageHandler, hApp]
  dsimp only
  rw [Bridge.withApp_some hApp, Bridge.trackHandler]
  cases hTracked : s.tracked with
  | none => simp [toBridge, hLive, hTracked, AList.insert_insert, FiniteMap.insert_erase]
  | some keys => simp [toBridge, hLive, hTracked, AList.insert_insert]

/-- A call that no other call interrupts does what the function of the bridge does. -/
theorem run_alone (rest : BridgeState F) (handle : Handle) (s : TeardownState) (call : HandleCall)
    (hPresent : s.inApps = true → s.deleted = false) :
    toBridge rest handle (run ⟨s, [.called call]⟩ (List.replicate (turnsAlone call) 0)).shared =
      callAlone (toBridge rest handle s) handle call := by
  cases hLive : s.inApps with
  | false =>
    have hApp : Bridge.getApp (toBridge rest handle s) handle = none := by
      rw [getApp_toBridge, hLive]
      rfl
    have hReturned : (run ⟨s, [.called call]⟩ (List.replicate (turnsAlone call) 0)).shared = s := by
      cases call <;> simp [run, turnsAlone, List.replicate, Threads.turn, step, hLive]
    rw [hReturned]
    cases call <;>
      simp [callAlone, Bridge.subscribe, Bridge.registerMessageHandler,
        Bridge.unregisterMessageHandler, Bridge.withApp, Bridge.appDestroy, hApp]
  | true =>
    have hApp : Bridge.getApp (toBridge rest handle s) handle = some s.app := by
      rw [getApp_toBridge, if_pos hLive]
    cases call with
    | subscribe key group port =>
      rw [callAlone, Bridge.subscribe, registered_toBridge rest handle s hLive]
      simp [run, turnsAlone, List.replicate, Threads.turn, step, access, hPresent, hLive]
    | registerMessageHandler key port =>
      rw [callAlone, registered_toBridge rest handle s hLive]
      simp [run, turnsAlone, List.replicate, Threads.turn, step, access, hPresent, hLive]
    | unregisterMessageHandler key =>
      rw [callAlone, Bridge.unregisterMessageHandler, Bridge.withApp_some hApp]
      simp [run, turnsAlone, List.replicate, Threads.turn, step, access, hPresent, hLive, toBridge,
        AList.insert_insert]
    | appDestroy =>
      rw [callAlone, Bridge.appDestroy, hApp]
      cases hTracked : s.tracked with
      | none =>
        simp [run, turnsAlone, Threads.turn, step, hLive, hTracked, toBridge,
          FiniteMap.erase_insert, FiniteMap.erase_erase]
      | some keys =>
        simp [run, turnsAlone, Threads.turn, step, hLive, hTracked, toBridge,
          FiniteMap.erase_insert]

end Alone

end Teardown

end VsomeipDart
