import Mathlib.Data.Fintype.Defs
import Mathlib.Logic.Function.Basic

/-! # Release/acquire memory with a detector of data races

The stores of an atomic location stand in the order in which they were made. A load returns any of them
that is not older than the last one its thread has seen there. Clocks count, for each thread, how many of
its accesses happen before: a release store carries the clock of its thread, and an acquire load joins it
to that of the loading thread. An access of a plain location that does not happen after the earlier
accesses it conflicts with is a data race, and has no result. Every atomic location has one writer.
-/

namespace ReleaseAcquire

/-- A store to an atomic location, with the clock that it releases. -/
structure Store (τ V : Type) where
  value : V
  clock : τ → Nat

structure Memory (τ α β V T : Type) where
  stores : α → List (Store τ V)
  /-- the index of the last store of a location that a thread has seen -/
  seen : τ → α → Nat
  clock : τ → τ → Nat
  plain : β → T
  /-- the clocks of the last write and of the last read of a plain location by each thread -/
  written : β → τ → Nat
  read : β → τ → Nat

namespace Memory

variable {τ α β V T : Type}

def initial (value : α → V) (plain : β → T) : Memory τ α β V T where
  stores loc := [⟨value loc, fun _ => 0⟩]
  seen _ _ := 0
  clock _ _ := 0
  plain := plain
  written _ _ := 0
  read _ _ := 0

variable [DecidableEq τ] [DecidableEq α] [DecidableEq β] (m : Memory τ α β V T)

def tick (t : τ) : Memory τ α β V T :=
  { m with clock := Function.update m.clock t (Function.update (m.clock t) t (m.clock t t + 1)) }

def seeing (acquire : Bool) (t : τ) (loc : α) (i : Nat) (s : Store τ V) : Memory τ α β V T :=
  { m with
    seen := Function.update m.seen t (Function.update (m.seen t) loc i)
    clock := if acquire then Function.update m.clock t fun u => max (m.clock t u) (s.clock u)
      else m.clock }

/-- A load that returns the store `lag` before the latest one, if its thread may still see that one. -/
def load (acquire : Bool) (t : τ) (loc : α) (lag : Nat) : Option (V × Memory τ α β V T) :=
  let i := max (m.seen t loc) ((m.stores loc).length - 1 - lag)
  (m.stores loc)[i]?.map fun s => (s.value, m.seeing acquire t loc i s)

def store (release : Bool) (t : τ) (loc : α) (v : V) : Memory τ α β V T :=
  let m := m.tick t
  { m with
    stores := Function.update m.stores loc
      (m.stores loc ++ [⟨v, if release then m.clock t else fun _ => 0⟩])
    seen := Function.update m.seen t (Function.update (m.seen t) loc (m.stores loc).length) }

def reading (t : τ) (b : β) : Memory τ α β V T :=
  let m := m.tick t
  { m with read := Function.update m.read b (Function.update (m.read b) t (m.clock t t)) }

def writing (t : τ) (b : β) (x : T) : Memory τ α β V T :=
  let m := m.tick t
  { m with
    plain := Function.update m.plain b x
    written := Function.update m.written b (Function.update (m.written b) t (m.clock t t)) }

section Races

variable [Fintype τ]

def readPlain (t : τ) (b : β) : Option (T × Memory τ α β V T) :=
  if ∀ u, m.written b u ≤ m.clock t u then some (m.plain b, m.reading t b) else none

def writePlain (t : τ) (b : β) (x : T) : Option (Memory τ α β V T) :=
  if ∀ u, m.written b u ≤ m.clock t u ∧ m.read b u ≤ m.clock t u then some (m.writing t b x) else none

end Races

/-- Nobody knows more accesses of a thread than it has made, and every location was stored to. -/
structure Wf : Prop where
  clock_le : ∀ t u, m.clock t u ≤ m.clock u u
  store_le : ∀ loc, ∀ s ∈ m.stores loc, ∀ u, s.clock u ≤ m.clock u u
  written_le : ∀ b u, m.written b u ≤ m.clock u u
  read_le : ∀ b u, m.read b u ≤ m.clock u u
  seen_lt : ∀ t loc, m.seen t loc < (m.stores loc).length

variable {m} {t : τ} {loc : α} {b : β}

omit [DecidableEq τ] [DecidableEq α] [DecidableEq β] in
theorem Wf.initial (value : α → V) (plain : β → T) : (initial (τ := τ) value plain).Wf where
  clock_le _ _ := le_rfl
  store_le loc s hMem u := by
    rw [List.mem_singleton.mp hMem]
    exact le_rfl
  written_le _ _ := le_rfl
  read_le _ _ := le_rfl
  seen_lt _ _ := Nat.one_pos

section Tick

omit [DecidableEq α] [DecidableEq β]

variable (m t)

theorem clock_tick_self : (m.tick t).clock t t = m.clock t t + 1 := by
  simp only [tick, Function.update_self]

theorem clock_tick_of_ne {u w : τ} (h : w ≠ t) : (m.tick t).clock u w = m.clock u w := by
  rcases eq_or_ne u t with rfl | hOther
  · simp only [tick, Function.update_self, Function.update_of_ne h]
  · simp only [tick, Function.update_of_ne hOther]

theorem clock_le_tick (u w : τ) : m.clock u w ≤ (m.tick t).clock u w := by
  rcases eq_or_ne w t with rfl | hOther
  · rcases eq_or_ne u w with rfl | hThread
    · rw [clock_tick_self]
      exact Nat.le_succ _
    · simp only [tick, Function.update_of_ne hThread]
      exact le_rfl
  · rw [clock_tick_of_ne m t hOther]

variable {m}

theorem Wf.tick (h : m.Wf) : (m.tick t).Wf where
  clock_le u w := by
    rcases eq_or_ne u t with rfl | hOther
    · rcases eq_or_ne w u with rfl | hThread
      · exact le_rfl
      · rw [clock_tick_of_ne m u hThread, clock_tick_of_ne m u hThread]
        exact h.clock_le u w
    · have hSame : (m.tick t).clock u w = m.clock u w := by
        simp only [Memory.tick, Function.update_of_ne hOther]
      rw [hSame]
      exact (h.clock_le u w).trans (clock_le_tick m t w w)
  store_le loc s hMem u := (h.store_le loc s hMem u).trans (clock_le_tick m t u u)
  written_le b u := (h.written_le b u).trans (clock_le_tick m t u u)
  read_le b u := (h.read_le b u).trans (clock_le_tick m t u u)
  seen_lt := h.seen_lt

end Tick

section Load

omit [DecidableEq β]

/-- A load has a result: a store that its thread may still see, the latest one when it does not lag. -/
theorem Wf.load (h : m.Wf) (acquire : Bool) (t : τ) (loc : α) (lag : Nat) :
    ∃ i s, m.seen t loc ≤ i ∧ (lag = 0 → i + 1 = (m.stores loc).length) ∧ (m.stores loc)[i]? = some s ∧
      m.load acquire t loc lag = some (s.value, m.seeing acquire t loc i s) := by
  have hSeen := h.seen_lt t loc
  have hLt : max (m.seen t loc) ((m.stores loc).length - 1 - lag) < (m.stores loc).length := by omega
  refine ⟨_, _, le_max_left _ _, fun hFresh => ?_, List.getElem?_eq_getElem hLt, ?_⟩
  · omega
  · simp only [Memory.load, List.getElem?_eq_getElem hLt, Option.map_some]

theorem seen_seeing_self (acquire : Bool) (i : Nat) (s : Store τ V) :
    (m.seeing acquire t loc i s).seen t loc = i := by
  simp only [seeing, Function.update_self]

theorem seen_seeing_of_ne {u : τ} {loc' : α} (hOther : u ≠ t ∨ loc' ≠ loc) (acquire : Bool) (i : Nat)
    (s : Store τ V) : (m.seeing acquire t loc i s).seen u loc' = m.seen u loc' := by
  rcases eq_or_ne u t with rfl | hThread
  · simp only [seeing, Function.update_self, Function.update_of_ne (hOther.resolve_left (not_not.mpr rfl))]
  · simp only [seeing, Function.update_of_ne hThread]

theorem clock_seeing (i : Nat) (s : Store τ V) (u : τ) :
    (m.seeing true t loc i s).clock t u = max (m.clock t u) (s.clock u) := by
  simp only [seeing, if_true, Function.update_self]

theorem clock_seeing_of_ne {u : τ} (hOther : u ≠ t) (acquire : Bool) (i : Nat) (s : Store τ V) :
    (m.seeing acquire t loc i s).clock u = m.clock u := by
  cases acquire with
  | false => rfl
  | true => simp only [seeing, if_true, Function.update_of_ne hOther]

theorem clock_seeing_le (acquire : Bool) (i : Nat) (s : Store τ V) (u w : τ) :
    m.clock u w ≤ (m.seeing acquire t loc i s).clock u w := by
  rcases eq_or_ne u t with rfl | hOther
  · cases acquire with
    | false => exact le_rfl
    | true =>
      rw [clock_seeing]
      exact le_max_left _ _
  · rw [clock_seeing_of_ne hOther]

theorem Wf.own_seeing (h : m.Wf) {i : Nat} {s : Store τ V} (hStore : (m.stores loc)[i]? = some s)
    (acquire : Bool) (u : τ) : (m.seeing acquire t loc i s).clock u u = m.clock u u := by
  rcases eq_or_ne u t with rfl | hOther
  · cases acquire with
    | false => rfl
    | true =>
      rw [clock_seeing]
      exact max_eq_left (h.store_le loc s (List.mem_of_getElem? hStore) u)
  · rw [clock_seeing_of_ne hOther]

theorem Wf.seeing (h : m.Wf) {acquire : Bool} {i : Nat} {s : Store τ V}
    (hStore : (m.stores loc)[i]? = some s) : (m.seeing acquire t loc i s).Wf where
  clock_le u w := by
    rw [h.own_seeing hStore]
    rcases eq_or_ne u t with rfl | hOther
    · cases acquire with
      | false => exact h.clock_le u w
      | true =>
        rw [clock_seeing]
        exact max_le (h.clock_le u w) (h.store_le loc s (List.mem_of_getElem? hStore) w)
    · rw [clock_seeing_of_ne hOther]
      exact h.clock_le u w
  store_le loc' s' hMem u := by
    rw [h.own_seeing hStore]
    exact h.store_le loc' s' hMem u
  written_le b u := by
    rw [h.own_seeing hStore]
    exact h.written_le b u
  read_le b u := by
    rw [h.own_seeing hStore]
    exact h.read_le b u
  seen_lt u loc' := by
    by_cases hSame : u = t ∧ loc' = loc
    · obtain ⟨rfl, rfl⟩ := hSame
      rw [seen_seeing_self]
      exact (List.getElem?_eq_some_iff.mp hStore).1
    · rw [seen_seeing_of_ne (not_and_or.mp hSame)]
      exact h.seen_lt u loc'

end Load

section Store

omit [DecidableEq β]

theorem stores_store_self (release : Bool) (v : V) : (m.store release t loc v).stores loc =
    m.stores loc ++ [⟨v, if release then (m.tick t).clock t else fun _ => 0⟩] := by
  simp only [store, Function.update_self]
  rfl

theorem stores_store_of_ne {loc' : α} (hOther : loc' ≠ loc) (release : Bool) (v : V) :
    (m.store release t loc v).stores loc' = m.stores loc' := by
  simp only [store, Function.update_of_ne hOther]
  rfl

theorem seen_store_self (release : Bool) (v : V) :
    (m.store release t loc v).seen t loc = (m.stores loc).length := by
  simp only [store, Function.update_self]
  rfl

theorem seen_store_of_ne {u : τ} {loc' : α} (hOther : u ≠ t ∨ loc' ≠ loc) (release : Bool) (v : V) :
    (m.store release t loc v).seen u loc' = m.seen u loc' := by
  rcases eq_or_ne u t with rfl | hThread
  · simp only [store, Function.update_self, Function.update_of_ne (hOther.resolve_left (not_not.mpr rfl))]
    rfl
  · simp only [store, Function.update_of_ne hThread]
    rfl

theorem Wf.store (h : m.Wf) (release : Bool) (v : V) : (m.store release t loc v).Wf where
  clock_le := (h.tick (t := t)).clock_le
  store_le loc' s hMem u := by
    rcases eq_or_ne loc' loc with rfl | hOther
    · rw [stores_store_self] at hMem
      rcases List.mem_append.mp hMem with hOld | hNew
      · exact (h.tick (t := t)).store_le loc' s hOld u
      · rw [List.mem_singleton.mp hNew]
        cases release with
        | false => exact Nat.zero_le _
        | true => exact (h.tick (t := t)).clock_le t u
    · rw [stores_store_of_ne hOther] at hMem
      exact (h.tick (t := t)).store_le loc' s hMem u
  written_le := (h.tick (t := t)).written_le
  read_le := (h.tick (t := t)).read_le
  seen_lt u loc' := by
    have hSeen := h.seen_lt u loc'
    rcases eq_or_ne loc' loc with rfl | hOther
    · rw [stores_store_self, List.length_append, List.length_singleton]
      rcases eq_or_ne u t with rfl | hThread
      · rw [seen_store_self]
        exact Nat.lt_succ_self _
      · rw [seen_store_of_ne (.inl hThread)]
        exact Nat.lt_succ_of_lt hSeen
    · rwa [stores_store_of_ne hOther, seen_store_of_ne (.inr hOther)]

end Store

section Plain

omit [DecidableEq α]

omit [DecidableEq β] in
theorem stamp_le {stamps : τ → Nat} (hStamps : ∀ u, stamps u ≤ m.clock u u) (u : τ) :
    Function.update stamps t ((m.tick t).clock t t) u ≤ (m.tick t).clock u u := by
  rcases eq_or_ne u t with rfl | hOther
  · rw [Function.update_self]
  · rw [Function.update_of_ne hOther]
    exact (hStamps u).trans (clock_le_tick m t u u)

theorem Wf.reading (h : m.Wf) : (m.reading t b).Wf :=
  { h.tick (t := t) with
    read_le := fun b' u => by
      simp only [Memory.reading]
      rcases eq_or_ne b' b with rfl | hOther
      · rw [Function.update_self]
        exact stamp_le (h.read_le b') u
      · rw [Function.update_of_ne hOther]
        exact (h.tick (t := t)).read_le b' u }

theorem Wf.writing (h : m.Wf) (x : T) : (m.writing t b x).Wf :=
  { h.tick (t := t) with
    written_le := fun b' u => by
      simp only [Memory.writing]
      rcases eq_or_ne b' b with rfl | hOther
      · rw [Function.update_self]
        exact stamp_le (h.written_le b') u
      · rw [Function.update_of_ne hOther]
        exact (h.tick (t := t)).written_le b' u }

end Plain

end Memory

end ReleaseAcquire
