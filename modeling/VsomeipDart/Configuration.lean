import VsomeipDart.Lib.Threads
import VsomeipDart.Types

/-! # The configuration of concurrent applications (`VsomeipApp::VsomeipApp` in `vsomeip_app.cpp`)

The path of a configuration file goes to vsomeip through the process environment. Every construction is a
thread, and every access to the environment or to the lock is one step.
-/

namespace VsomeipDart
set_option autoImplicit false

abbrev ConfigPath := Option Bytes

structure InitState where
  environment : ConfigPath
  /-- the construction that holds `vsomeip_init_mutex()` -/
  initMutex : Option Nat
  /-- the calls of `init()`: the path of the application, and the environment that the call read -/
  inits : List (ConfigPath × ConfigPath)

inductive ConstructionPoint where
  | createApplication
  | lockMutex
  | setEnvironment
  | init
  | unlockMutex
  | returned
  deriving DecidableEq, Repr

structure Construction where
  configPath : ConfigPath
  /-- `create_application` gives an application; otherwise the constructor throws -/
  created : Bool
  point : ConstructionPoint

namespace VsomeipApp

def begin (configPath : ConfigPath) (created : Bool) : Construction :=
  ⟨configPath, created, .createApplication⟩

def construct (i : Nat) (s : InitState) (t : Construction) : Option (InitState × Construction) :=
  match t.point with
  | .createApplication =>
    if t.created then some (s, { t with point := .lockMutex })
    else some (s, { t with point := .returned })
  | .lockMutex =>
    match s.initMutex with
    | none => some ({ s with initMutex := some i }, { t with point := .setEnvironment })
    | some _ => none
  | .setEnvironment =>
    match t.configPath with
    | some path => some ({ s with environment := some path }, { t with point := .init })
    | none => some (s, { t with point := .init })
  | .init =>
    some ({ s with inits := s.inits ++ [(t.configPath, s.environment)] },
      { t with point := .unlockMutex })
  -- the guard unlocks the mutex, whether `init()` succeeded or the constructor throws
  | .unlockMutex => some ({ s with initMutex := none }, { t with point := .returned })
  | .returned => none

/-- Any constructions, none of which has begun, in a process that was started with `start`. -/
def process (start : ConfigPath) (constructions : List (ConfigPath × Bool)) :
    Threads.Config InitState Construction where
  shared := ⟨start, none, []⟩
  threads := constructions.map fun c => begin c.1 c.2

end VsomeipApp

def ConfiguredApart (start : ConfigPath) (inits : List (ConfigPath × ConfigPath)) : Prop :=
  ∀ call ∈ inits, call.2 = call.1.or start

def lastPath (paths : List ConfigPath) : ConfigPath := (paths.filterMap id).getLast?

def environmentAfter (start : ConfigPath) (paths : List ConfigPath) : ConfigPath :=
  (lastPath paths).or start

/-- Every call read the path of its application, or else what the calls before had left. -/
def Recorded (start : ConfigPath) (inits : List (ConfigPath × ConfigPath)) : Prop :=
  ∀ before call after, inits = before ++ call :: after →
    call.2 = call.1.or (environmentAfter start (before.map Prod.fst))

theorem environmentAfter_snoc (start : ConfigPath) (paths : List ConfigPath) (path : ConfigPath) :
    environmentAfter start (paths ++ [path]) = path.or (environmentAfter start paths) := by
  cases path <;> simp [environmentAfter, lastPath]

theorem Recorded.snoc {start : ConfigPath} {inits : List (ConfigPath × ConfigPath)}
    (h : Recorded start inits) {call : ConfigPath × ConfigPath}
    (hCall : call.2 = call.1.or (environmentAfter start (inits.map Prod.fst))) :
    Recorded start (inits ++ [call]) := by
  intro before other after hSplit
  rcases List.eq_nil_or_concat after with rfl | ⟨after', last, rfl⟩
  · obtain ⟨rfl, hLast⟩ := List.append_inj' hSplit rfl
    cases hLast
    exact hCall
  · have hFront : inits ++ [call] = (before ++ other :: after') ++ [last] := by simpa using hSplit
    exact h before other after' (List.append_inj' hFront rfl).1

theorem configuredApart_iff {start : ConfigPath} {inits : List (ConfigPath × ConfigPath)}
    (h : Recorded start inits) : ConfiguredApart start inits ↔
      ∀ before after, inits.map Prod.fst = before ++ none :: after → ∀ path,
        lastPath before = some path → start = some path := by
  constructor
  · intro hApart before after hOrder path hLast
    obtain ⟨front, rest, rfl, rfl, hRest⟩ := List.map_eq_append_iff.mp hOrder
    obtain ⟨call, back, rfl, hNull, -⟩ := List.map_eq_cons_iff.mp hRest
    have hRead := h front call back rfl
    rw [hApart call (List.mem_append_right _ List.mem_cons_self), hNull, Option.none_or,
      Option.none_or, environmentAfter, hLast] at hRead
    exact hRead
  · intro hOrder call hMem
    obtain ⟨front, back, rfl⟩ := List.append_of_mem hMem
    rw [h front call back rfl]
    cases hPath : call.1 with
    | some path => rfl
    | none =>
      have hNull := hOrder (front.map Prod.fst) (back.map Prod.fst) (by
        rw [List.map_append, List.map_cons, hPath])
      rw [environmentAfter]
      cases hLast : lastPath (front.map Prod.fst) with
      | none => rfl
      | some path => rw [hNull path hLast, Option.some_or]

namespace VsomeipApp

def Settled (start : ConfigPath) (s : InitState) : Prop :=
  s.environment = environmentAfter start (s.inits.map Prod.fst)

def SharedInv (start : ConfigPath) (s : InitState) : Prop :=
  Recorded start s.inits ∧ (s.initMutex = none → Settled start s)

/-- Only the holder of the mutex changes the environment. -/
def ThreadInv (start : ConfigPath) (s : InitState) (i : Nat) (t : Construction) : Prop :=
  match t.point with
  | .setEnvironment => s.initMutex = some i ∧ Settled start s
  | .init => s.initMutex = some i ∧
      s.environment = t.configPath.or (environmentAfter start (s.inits.map Prod.fst))
  | .unlockMutex => s.initMutex = some i ∧ Settled start s
  | _ => True

theorem construct_own (start : ConfigPath) (i : Nat) (s : InitState) (t : Construction)
    (s' : InitState) (t' : Construction) (hShared : SharedInv start s) (hThread : ThreadInv start s i t)
    (hStep : construct i s t = some (s', t')) : SharedInv start s' ∧ ThreadInv start s' i t' := by
  obtain ⟨path, created, point⟩ := t
  obtain ⟨hRecorded, hFree⟩ := hShared
  cases point with
  | createApplication =>
    cases created <;> cases hStep <;> exact ⟨⟨hRecorded, hFree⟩, trivial⟩
  | lockMutex =>
    rw [construct] at hStep
    cases hMutex : s.initMutex with
    | some owner =>
      rw [hMutex] at hStep
      cases hStep
    | none =>
      rw [hMutex] at hStep
      cases hStep
      exact ⟨⟨hRecorded, fun h => by cases h⟩, rfl, hFree hMutex⟩
  | setEnvironment =>
    obtain ⟨hOwner, hSettled⟩ := hThread
    cases path with
    | none =>
      cases hStep
      exact ⟨⟨hRecorded, hFree⟩, hOwner, hSettled⟩
    | some path =>
      cases hStep
      refine ⟨⟨hRecorded, fun h => ?_⟩, hOwner, rfl⟩
      rw [hOwner] at h
      cases h
  | init =>
    obtain ⟨hOwner, hEnvironment⟩ := hThread
    cases hStep
    have hSettled : Settled start { s with inits := s.inits ++ [(path, s.environment)] } := by
      rw [Settled, List.map_append, List.map_singleton, environmentAfter_snoc]
      exact hEnvironment
    exact ⟨⟨hRecorded.snoc hEnvironment, fun _ => hSettled⟩, hOwner, hSettled⟩
  | unlockMutex =>
    obtain ⟨hOwner, hSettled⟩ := hThread
    cases hStep
    exact ⟨⟨hRecorded, fun _ => hSettled⟩, trivial⟩
  | returned => cases hStep

/-- A step that changes the shared state is one of the holder, or takes the free mutex. -/
theorem construct_frame {start : ConfigPath} {i : Nat} {s s' : InitState} {t t' : Construction}
    (hThread : ThreadInv start s i t) (hStep : construct i s t = some (s', t')) :
    s' = s ∨ s.initMutex = none ∨ s.initMutex = some i := by
  obtain ⟨path, created, point⟩ := t
  cases point with
  | createApplication => cases created <;> cases hStep <;> exact .inl rfl
  | lockMutex =>
    cases hMutex : s.initMutex with
    | none => exact .inr (.inl rfl)
    | some owner =>
      rw [construct, hMutex] at hStep
      cases hStep
  | setEnvironment => exact .inr (.inr hThread.1)
  | init => exact .inr (.inr hThread.1)
  | unlockMutex => exact .inr (.inr hThread.1)
  | returned => cases hStep

theorem construct_other (start : ConfigPath) (i : Nat) (s : InitState) (t : Construction)
    (s' : InitState) (t' : Construction) (j : Nat) (u : Construction)
    (hThread : ThreadInv start s i t) (hStep : construct i s t = some (s', t')) (hNe : j ≠ i)
    (hOther : ThreadInv start s j u) : ThreadInv start s' j u := by
  have hHolder : s.initMutex = some j → s' = s := by
    intro hOwner
    rcases construct_frame hThread hStep with hSame | hFree | hOwn
    · exact hSame
    · rw [hFree] at hOwner
      cases hOwner
    · rw [hOwn] at hOwner
      exact absurd (Option.some.inj hOwner).symm hNe
  obtain ⟨path, created, point⟩ := u
  cases point with
  | setEnvironment => exact hHolder hOther.1 ▸ hOther
  | init => exact hHolder hOther.1 ▸ hOther
  | unlockMutex => exact hHolder hOther.1 ▸ hOther
  | _ => trivial

theorem process_holds (start : ConfigPath) (constructions : List (ConfigPath × Bool))
    (schedule : List Nat) :
    Threads.Holds (SharedInv start) (ThreadInv start)
      (Threads.run construct (process start constructions) schedule) := by
  have hStart : Threads.Holds (SharedInv start) (ThreadInv start) (process start constructions) := by
    refine ⟨⟨?_, fun _ => rfl⟩, fun i t hThread => ?_⟩
    · intro before call after hSplit
      exact absurd hSplit (by simp [process])
    · obtain ⟨c, -, rfl⟩ := List.mem_map.mp (List.mem_of_getElem? hThread)
      trivial
  exact Threads.run_holds (construct_own start)
    (fun i s t s' t' j u _ hThread hStep hNe hOther =>
      construct_other start i s t s' t' j u hThread hStep hNe hOther) hStart schedule

/-- The configuration of a null path is the start value exactly when no application with another path took
its turn at `init()` before. -/
theorem configuration_iff (start : ConfigPath) (constructions : List (ConfigPath × Bool))
    (schedule : List Nat) :
    ConfiguredApart start
        (Threads.run construct (process start constructions) schedule).shared.inits ↔
      ∀ before after,
        (Threads.run construct (process start constructions) schedule).shared.inits.map Prod.fst =
          before ++ none :: after →
        ∀ path, lastPath before = some path → start = some path :=
  configuredApart_iff (process_holds start constructions schedule).shared.1

theorem configuration_leaks :
    (Threads.run construct (process none [(some [0x61], true), (none, true)])
      [0, 0, 0, 0, 0, 1, 1, 1, 1, 1]).shared.inits =
        [(some [0x61], some [0x61]), (none, some [0x61])] ∧
    ¬ ∀ start constructions schedule, ConfiguredApart start
      (Threads.run construct (process start constructions) schedule).shared.inits := by
  refine ⟨rfl, fun h => ?_⟩
  have hNull := h none [(some [0x61], true), (none, true)] [0, 0, 0, 0, 0, 1, 1, 1, 1, 1]
    (none, some [0x61]) (.tail _ (.head _))
  cases hNull

end VsomeipApp

end VsomeipDart
