import VsomeipDart.Lib.Mealy
import VsomeipDart.Lib.Threads

/-! # Calls that take effect at one of their steps

Threads make calls on a shared object, and a call may take several steps. Where each call takes effect at one
of them, and its other steps leave the object alone, a run gives what the calls give one after the other, in
the order in which they took effect.
-/

namespace Linearized

open Threads

variable {σ τ ι ο : Type}

structure Entry (ι ο : Type) where
  thread : Nat
  call : ι
  result : ο
  deriving DecidableEq, Repr

section History

variable (step : Nat → σ → τ → Option (σ × τ)) (effect : σ → τ → Option (ι × ο))

def turnEntries (c : Config σ τ) (i : Nat) : List (Entry ι ο) :=
  match c.threads[i]? with
  | none => []
  | some t =>
    match step i c.shared t with
    | none => []
    | some _ => (effect c.shared t).toList.map fun e => ⟨i, e.1, e.2⟩

def history : Config σ τ → List Nat → List (Entry ι ο)
  | _, [] => []
  | c, i :: rest => turnEntries step effect c i ++ history (turn step c i) rest

/-- The history of a run is a prefix of that of every longer run. -/
theorem history_append (c : Config σ τ) (schedule later : List Nat) :
    history step effect c (schedule ++ later) =
      history step effect c schedule ++ history step effect (run step c schedule) later := by
  induction schedule generalizing c with
  | nil => rfl
  | cons i rest ih => rw [List.cons_append, history, ih, history, run_cons, List.append_assoc]

end History

def own (i : Nat) (entries : List (Entry ι ο)) : List (ι × ο) :=
  entries.filterMap fun e => if e.thread = i then some (e.call, e.result) else none

theorem own_append (i : Nat) (front back : List (Entry ι ο)) : own i (front ++ back) = own i front ++ own i back :=
  List.filterMap_append

theorem own_self (i : Nat) (call : ι) (result : ο) :
    own i [⟨i, call, result⟩] = [(call, result)] := by simp [own]

theorem own_other {i j : Nat} (h : i ≠ j) (call : ι) (result : ο) :
    own j [(⟨i, call, result⟩ : Entry ι ο)] = [] := by simp [own, h]

/-- The calls on the object one after the other, in the order of the history. -/
def Replays (object : σ → ι → Option (σ × ο)) (first : σ) (entries : List (Entry ι ο)) (last : σ) : Prop :=
  Mealy.run? object first (entries.map Entry.call) = some (last, entries.map Entry.result)

variable {object : σ → ι → Option (σ × ο)} {step : Nat → σ → τ → Option (σ × τ)}
  {effect : σ → τ → Option (ι × ο)}

theorem Replays.append {first middle last : σ} {front back : List (Entry ι ο)}
    (hFront : Replays object first front middle) (hBack : Replays object middle back last) :
    Replays object first (front ++ back) last := by
  rw [Replays] at *
  rw [List.map_append, List.map_append, Mealy.run?_append, hFront, Option.bind_some, hBack, Option.map_some]

theorem replays_single {s s' : σ} {i : Nat} {call : ι} {result : ο}
    (h : object s call = some (s', result)) : Replays object s [⟨i, call, result⟩] s' := by
  rw [Replays, List.map_singleton, Mealy.run?_cons, h]
  rfl

/-- A thread's own view of the calls that it has made, and of their results. -/
abbrev View (τ ι ο : Type) := Nat → τ → List (ι × ο) → Prop

/-- What a step does where it takes effect, and where it does not. -/
def Linear (object : σ → ι → Option (σ × ο)) (step : Nat → σ → τ → Option (σ × τ))
    (effect : σ → τ → Option (ι × ο)) (view : View τ ι ο) : Prop :=
  ∀ i s t s' t', step i s t = some (s', t') →
    (effect s t = none ∧ s' = s ∧ ∀ calls, view i t calls → view i t' calls) ∨
    ∃ call result, effect s t = some (call, result) ∧ object s call = some (s', result) ∧
      ∀ calls, view i t calls → view i t' (calls ++ [(call, result)])

structure Explains (object : σ → ι → Option (σ × ο)) (view : View τ ι ο) (first : σ)
    (entries : List (Entry ι ο)) (c : Config σ τ) : Prop where
  replays : Replays object first entries c.shared
  views : ∀ i t, c.threads[i]? = some t → view i t (own i entries)

theorem Explains.turn {view : View τ ι ο} (hLinear : Linear object step effect view) {first : σ}
    {entries : List (Entry ι ο)} {c : Config σ τ} (h : Explains object view first entries c) (i : Nat) :
    Explains object view first (entries ++ turnEntries step effect c i) (turn step c i) := by
  cases hThread : c.threads[i]? with
  | none =>
    rw [turnEntries, hThread, List.append_nil]
    simpa only [Threads.turn, hThread] using h
  | some t =>
    cases hStep : step i c.shared t with
    | none =>
      simp only [turnEntries, hThread, hStep, List.append_nil]
      simpa only [Threads.turn, hThread, hStep] using h
    | some next =>
      rw [turn_eq hThread hStep]
      simp only [turnEntries, hThread, hStep]
      have hView := h.views i t hThread
      rcases hLinear i c.shared t next.1 next.2 hStep with
        ⟨hNone, hSame, hKeeps⟩ | ⟨call, result, hEffect, hObject, hKeeps⟩
      · rw [hNone, hSame]
        refine ⟨by simpa using h.replays, fun j u hThread' => ?_⟩
        rw [Option.toList_none, List.map_nil, List.append_nil]
        rcases getElem?_set hThread hThread' with ⟨rfl, rfl⟩ | ⟨-, hOld⟩
        · exact hKeeps _ hView
        · exact h.views j u hOld
      · rw [hEffect]
        refine ⟨h.replays.append (replays_single hObject), fun j u hThread' => ?_⟩
        rw [Option.toList_some, List.map_singleton, own_append]
        rcases getElem?_set hThread hThread' with ⟨rfl, rfl⟩ | ⟨hOther, hOld⟩
        · rw [own_self]
          exact hKeeps _ hView
        · rw [own_other hOther.symm, List.append_nil]
          exact h.views j u hOld

theorem Explains.run {view : View τ ι ο} (hLinear : Linear object step effect view) {first : σ}
    {entries : List (Entry ι ο)} {c : Config σ τ} (h : Explains object view first entries c)
    (schedule : List Nat) :
    Explains object view first (entries ++ history step effect c schedule) (run step c schedule) := by
  induction schedule generalizing c entries with
  | nil =>
    rw [history, List.append_nil]
    exact h
  | cons i rest ih =>
    rw [history, run_cons, ← List.append_assoc]
    exact ih (h.turn hLinear i)

/-- Every run is explained by the calls one after the other. -/
theorem run_explains {view : View τ ι ο} (hLinear : Linear object step effect view) {c : Config σ τ}
    (hStart : ∀ i t, c.threads[i]? = some t → view i t []) (schedule : List Nat) :
    Explains object view c.shared (history step effect c schedule) (run step c schedule) :=
  @Explains.run _ _ _ _ object step effect view hLinear c.shared [] c ⟨rfl, hStart⟩ schedule

end Linearized
