import Mathlib.Data.List.Basic

/-! # Variables of a block and the names around it

The variables that a block declares hide the names around it in the whole block, also in front of their
declarations, where they have no value yet.
-/

namespace BlockScope
set_option autoImplicit false

structure Scope (N V : Type) where
  /-- the names around the block -/
  outer : List (N × V)
  /-- the variables that the block declares -/
  locals : List N
  /-- the values of those that have one, the newest first -/
  values : List (N × V)

theorem lookup_of_nodup {N V : Type} [BEq N] [LawfulBEq N] {bindings : List (N × V)}
    (hOnce : (bindings.map Prod.fst).Nodup) {x : N} {v : V} (hMem : (x, v) ∈ bindings) :
    bindings.lookup x = some v := by
  induction bindings with
  | nil => exact absurd hMem List.not_mem_nil
  | cons binding rest ih =>
    rw [List.map_cons, List.nodup_cons] at hOnce
    rw [List.lookup_cons]
    rcases List.mem_cons.mp hMem with rfl | hRest
    · rw [beq_self_eq_true]
    · have hNe : x ≠ binding.1 := by
        rintro rfl
        exact hOnce.1 (List.mem_map.mpr ⟨_, hRest, rfl⟩)
      rw [beq_false_of_ne hNe]
      exact ih hOnce.2 hRest

namespace Scope

variable {N V : Type} [DecidableEq N] (s : Scope N V)

def resolve (x : N) : Option V :=
  if x ∈ s.locals then s.values.lookup x else s.outer.lookup x

def assign (x : N) (v : V) : Scope N V := { s with values := (x, v) :: s.values }

variable {s}

theorem resolve_outer {x : N} {v : V} (h : x ∉ s.locals) (hOnce : (s.outer.map Prod.fst).Nodup)
    (hMem : (x, v) ∈ s.outer) : s.resolve x = some v := (if_neg h).trans (lookup_of_nodup hOnce hMem)

theorem resolve_assign_self {x : N} (h : x ∈ s.locals) (v : V) : (s.assign x v).resolve x = some v := by
  rw [resolve, assign, if_pos h, List.lookup_cons_self]

theorem resolve_assign_other {x y : N} (h : y ≠ x) (v : V) :
    (s.assign x v).resolve y = s.resolve y := by
  rw [resolve, resolve, assign, List.lookup_cons, beq_false_of_ne h]

def assignAll (bindings : List (N × V)) (s : Scope N V) : Scope N V :=
  bindings.foldl (fun s binding => s.assign binding.1 binding.2) s

omit [DecidableEq N] in
@[simp] theorem locals_assignAll (bindings : List (N × V)) (s : Scope N V) :
    (s.assignAll bindings).locals = s.locals := by
  induction bindings generalizing s with
  | nil => rfl
  | cons binding rest ih => exact ih (s.assign binding.1 binding.2)

omit [DecidableEq N] in
@[simp] theorem outer_assignAll (bindings : List (N × V)) (s : Scope N V) :
    (s.assignAll bindings).outer = s.outer := by
  induction bindings generalizing s with
  | nil => rfl
  | cons binding rest ih => exact ih (s.assign binding.1 binding.2)

theorem resolve_assignAll_other {bindings : List (N × V)} {x : N} (h : x ∉ bindings.map Prod.fst)
    (s : Scope N V) : (s.assignAll bindings).resolve x = s.resolve x := by
  induction bindings generalizing s with
  | nil => rfl
  | cons binding rest ih =>
    rw [List.map_cons, List.mem_cons, not_or] at h
    exact (ih h.2 _).trans (resolve_assign_other h.1 binding.2)

/-- Variables that are assigned once keep their values. -/
theorem resolve_assignAll_mem {bindings : List (N × V)} (hOnce : (bindings.map Prod.fst).Nodup)
    {s : Scope N V} {x : N} {v : V} (hMem : (x, v) ∈ bindings) (h : x ∈ s.locals) :
    (s.assignAll bindings).resolve x = some v := by
  induction bindings generalizing s with
  | nil => exact absurd hMem List.not_mem_nil
  | cons binding rest ih =>
    rw [List.map_cons, List.nodup_cons] at hOnce
    rcases List.mem_cons.mp hMem with rfl | hRest
    · exact (resolve_assignAll_other hOnce.1 _).trans (resolve_assign_self h v)
    · exact ih hOnce.2 hRest h

/-- The scopes differ in hidden names at most. -/
structure Same (left right : Scope N V) : Prop where
  locals : left.locals = right.locals
  values : left.values = right.values
  outer : ∀ x, x ∉ left.locals → left.outer.lookup x = right.outer.lookup x

theorem Same.resolve {left right : Scope N V} (h : Same left right) (x : N) :
    left.resolve x = right.resolve x := by
  rw [Scope.resolve, Scope.resolve, ← h.locals, ← h.values]
  split
  · rfl
  · exact h.outer x ‹_›

theorem Same.assign {left right : Scope N V} (h : Same left right) (x : N) (v : V) :
    Same (left.assign x v) (right.assign x v) := by
  refine ⟨h.locals, ?_, h.outer⟩
  rw [Scope.assign, Scope.assign, h.values]

end Scope

end BlockScope
