import Mathlib.Data.List.Induction

/-! # Threads over a shared state

A thread is a local state. Its step reads and writes the shared state, and gives `none` where the thread is
blocked or has ended. A schedule is the list of the threads that are given a turn.
-/

namespace Threads

structure Config (σ τ : Type) where
  shared : σ
  threads : List τ

variable {σ τ : Type}

def turn (step : Nat → σ → τ → Option (σ × τ)) (c : Config σ τ) (i : Nat) : Config σ τ :=
  match c.threads[i]? with
  | none => c
  | some t =>
    match step i c.shared t with
    | none => c
    | some (s, t) => { shared := s, threads := c.threads.set i t }

def run (step : Nat → σ → τ → Option (σ × τ)) (c : Config σ τ) (schedule : List Nat) : Config σ τ :=
  schedule.foldl (turn step) c

variable {step : Nat → σ → τ → Option (σ × τ)}

theorem turn_eq {c : Config σ τ} {i : Nat} {t t' : τ} {s' : σ} (hThread : c.threads[i]? = some t)
    (hStep : step i c.shared t = some (s', t')) :
    turn step c i = { shared := s', threads := c.threads.set i t' } := by
  simp only [turn, hThread, hStep]

theorem turn_cases (step : Nat → σ → τ → Option (σ × τ)) (c : Config σ τ) (i : Nat) :
    turn step c i = c ∨ ∃ t s' t', c.threads[i]? = some t ∧ step i c.shared t = some (s', t') ∧
      turn step c i = { shared := s', threads := c.threads.set i t' } := by
  cases hThread : c.threads[i]? with
  | none => exact .inl (by simp only [turn, hThread])
  | some t =>
    cases hStep : step i c.shared t with
    | none => exact .inl (by simp only [turn, hThread, hStep])
    | some next => exact .inr ⟨t, next.1, next.2, rfl, hStep, turn_eq hThread hStep⟩

@[simp] theorem run_nil (c : Config σ τ) : run step c [] = c := rfl

@[simp] theorem run_cons (c : Config σ τ) (i : Nat) (schedule : List Nat) :
    run step c (i :: schedule) = run step (turn step c i) schedule := rfl

theorem run_append (c : Config σ τ) (left right : List Nat) :
    run step c (left ++ right) = run step (run step c left) right :=
  List.foldl_append

theorem getElem?_set {threads : List τ} {i j : Nat} {t t' u : τ} (hThread : threads[i]? = some t)
    (h : (threads.set i t')[j]? = some u) :
    j = i ∧ u = t' ∨ j ≠ i ∧ threads[j]? = some u := by
  obtain ⟨hLt, -⟩ := List.getElem?_eq_some_iff.mp hThread
  rcases eq_or_ne i j with rfl | hj
  · rw [List.getElem?_set_self hLt] at h
    exact .inl ⟨rfl, (Option.some.inj h).symm⟩
  · rw [List.getElem?_set_ne hj] at h
    exact .inr ⟨Ne.symm hj, h⟩

/-- What some thread satisfies, some thread satisfies after a step, or it was the one that moved. -/
theorem exists_set {threads : List τ} {i : Nat} {t : τ} (hThread : threads[i]? = some t) (t' : τ)
    {Q : τ → Prop} (h : ∃ (j : Nat) (u : τ), threads[j]? = some u ∧ Q u) :
    (∃ (j : Nat) (u : τ), (threads.set i t')[j]? = some u ∧ Q u) ∨ Q t := by
  obtain ⟨j, u, hThere, hQ⟩ := h
  rcases eq_or_ne i j with rfl | hj
  · rw [hThread] at hThere
    exact .inr (Option.some.inj hThere ▸ hQ)
  · exact .inl ⟨j, u, (List.getElem?_set_ne hj).trans hThere, hQ⟩

theorem set_self {threads : List τ} {i : Nat} {t : τ} (hThread : threads[i]? = some t) (t' : τ) :
    (threads.set i t')[i]? = some t' := by
  obtain ⟨hLt, -⟩ := List.getElem?_eq_some_iff.mp hThread
  exact List.getElem?_set_self hLt

/-- What every effective step keeps holds after every schedule. -/
theorem run_induction {P : Config σ τ → Prop}
    (hStep : ∀ c i t s' t', P c → c.threads[i]? = some t → step i c.shared t = some (s', t') →
      P { shared := s', threads := c.threads.set i t' })
    {c : Config σ τ} (hStart : P c) (schedule : List Nat) : P (run step c schedule) := by
  induction schedule generalizing c with
  | nil => exact hStart
  | cons i rest ih =>
    rw [run_cons]
    rcases turn_cases step c i with hSame | ⟨t, s', t', hThread, hNext, hTurn⟩
    · rw [hSame]
      exact ih hStart
    · rw [hTurn]
      exact ih (hStep c i t s' t' hStart hThread hNext)

section Map

variable {κ μ : Type} {step' : Nat → κ → μ → Option (κ × μ)} {f : σ → κ} {g : τ → μ}

def Config.map (f : σ → κ) (g : τ → μ) (c : Config σ τ) : Config κ μ where
  shared := f c.shared
  threads := c.threads.map g

theorem run_map {J : σ → τ → Prop}
    (hStep : ∀ i s t, J s t → step' i (f s) (g t) = (step i s t).map fun next => (f next.1, g next.2))
    (hKeep : ∀ i s t s' t' u, J s t → step i s t = some (s', t') → J s' t' ∧ (J s u → J s' u))
    {c : Config σ τ} (hStart : ∀ t ∈ c.threads, J c.shared t) (schedule : List Nat) :
    (run step c schedule).map f g = run step' (c.map f g) schedule := by
  induction schedule generalizing c with
  | nil => rfl
  | cons i rest ih =>
    have hTurn : (turn step c i).map f g = turn step' (c.map f g) i := by
      cases hThread : c.threads[i]? with
      | none => simp [turn, Config.map, hThread]
      | some t =>
        have hNext := hStep i c.shared t (hStart t (List.mem_of_getElem? hThread))
        cases hOwn : step i c.shared t <;>
          simp [turn, Config.map, hThread, hNext, hOwn, List.map_set]
    rw [run_cons, run_cons, ← hTurn]
    refine ih ?_
    rcases turn_cases step c i with hSame | ⟨t, s', t', hThread, hNext, hTurned⟩
    · rw [hSame]
      exact hStart
    · rw [hTurned]
      have hHere := hStart t (List.mem_of_getElem? hThread)
      intro u hMem
      rcases List.mem_or_eq_of_mem_set hMem with hOld | rfl
      · exact (hKeep i c.shared t s' t' u hHere hNext).2 (hStart u hOld)
      · exact (hKeep i c.shared t s' u u hHere hNext).1

end Map

/-- An invariant of the shared state with one assertion for each thread. -/
structure Holds (I : σ → Prop) (J : σ → Nat → τ → Prop) (c : Config σ τ) : Prop where
  shared : I c.shared
  each : ∀ i t, c.threads[i]? = some t → J c.shared i t

/-- Assertions that their own thread's steps keep and that no other thread's steps break. -/
theorem run_holds {I : σ → Prop} {J : σ → Nat → τ → Prop}
    (hOwn : ∀ i s t s' t', I s → J s i t → step i s t = some (s', t') → I s' ∧ J s' i t')
    (hOther : ∀ i s t s' t' j u, I s → J s i t → step i s t = some (s', t') → j ≠ i → J s j u →
      J s' j u)
    {c : Config σ τ} (hStart : Holds I J c) (schedule : List Nat) :
    Holds I J (run step c schedule) := by
  refine run_induction (fun c i t s' t' h hThread hNext => ?_) hStart schedule
  have hHere := h.each i t hThread
  obtain ⟨hShared, hThere⟩ := hOwn i c.shared t s' t' h.shared hHere hNext
  refine ⟨hShared, fun j u hThread' => ?_⟩
  rcases getElem?_set hThread hThread' with ⟨rfl, rfl⟩ | ⟨hNe, hSame⟩
  · exact hThere
  · exact hOther i c.shared t s' t' j u h.shared hHere hNext hNe (h.each j u hSame)

end Threads
