import Mathlib.Data.List.Induction

/-! # Runs of state machines with outputs

`run` feeds a list of inputs to a machine and collects one output per input; `run?` does the same for a
machine whose steps can fail. `run?_simulates` carries a simulation relation along a whole run.
-/

namespace Mealy

variable {σ τ ι ο : Type}

def run (step : σ → ι → σ × ο) : σ → List ι → σ × List ο
  | s, [] => (s, [])
  | s, i :: rest =>
    let (s, o) := step s i
    let (s, os) := run step s rest
    (s, o :: os)

def run? (step : σ → ι → Option (σ × ο)) : σ → List ι → Option (σ × List ο)
  | s, [] => some (s, [])
  | s, i :: rest => do
    let (s, o) ← step s i
    let (s, os) ← run? step s rest
    return (s, o :: os)

@[simp] theorem run_nil (step : σ → ι → σ × ο) (s : σ) : run step s [] = (s, []) := rfl

@[simp] theorem run_cons (step : σ → ι → σ × ο) (s : σ) (i : ι) (rest : List ι) :
    run step s (i :: rest) = ((run step (step s i).1 rest).1,
      (step s i).2 :: (run step (step s i).1 rest).2) := rfl

theorem run_append (step : σ → ι → σ × ο) (s : σ) (left right : List ι) :
    run step s (left ++ right) = ((run step (run step s left).1 right).1,
      (run step s left).2 ++ (run step (run step s left).1 right).2) := by
  induction left generalizing s with
  | nil => rfl
  | cons i rest ih => simp only [List.cons_append, run_cons, ih]

theorem run_output_length (step : σ → ι → σ × ο) (s : σ) (inputs : List ι) :
    (run step s inputs).2.length = inputs.length := by
  induction inputs generalizing s with
  | nil => rfl
  | cons i rest ih => simp only [run_cons, List.length_cons, ih]

theorem run_snoc (step : σ → ι → σ × ο) (s : σ) (inputs : List ι) (i : ι) :
    run step s (inputs ++ [i]) = ((step (run step s inputs).1 i).1,
      (run step s inputs).2 ++ [(step (run step s inputs).1 i).2]) := by
  rw [run_append, run_cons, run_nil]

/-- A relation that every step keeps, with related outputs, is kept by every run. -/
theorem run_simulates {κ π : Type} {step : σ → ι → σ × ο} {step' : τ → κ → τ × π}
    {f : κ → ι} {g : π → ο} {R : σ → τ → Prop} {P : κ → Prop}
    (hStep : ∀ s t k, P k → R s t → R (step s (f k)).1 (step' t k).1 ∧
      (step s (f k)).2 = g (step' t k).2)
    {s : σ} {t : τ} (h : R s t) {inputs : List κ} (hInputs : ∀ k ∈ inputs, P k) :
    R (run step s (inputs.map f)).1 (run step' t inputs).1 ∧
      (run step s (inputs.map f)).2 = (run step' t inputs).2.map g := by
  induction inputs generalizing s t with
  | nil => exact ⟨h, rfl⟩
  | cons k rest ih =>
    obtain ⟨hNext, hOut⟩ := hStep s t k (hInputs k (List.mem_cons_self ..)) h
    obtain ⟨hLast, hOuts⟩ := ih hNext fun k hMem => hInputs k (List.mem_cons_of_mem _ hMem)
    rw [List.map_cons, run_cons, run_cons, List.map_cons]
    exact ⟨hLast, by rw [hOut, hOuts]⟩

theorem run_flatten_sublist {α : Type} {step : σ → ι → σ × List α} {offer : ι → List α}
    (hOffer : ∀ s i, (step s i).2.Sublist (offer i)) (s : σ) (inputs : List ι) :
    (run step s inputs).2.flatten.Sublist (inputs.flatMap offer) := by
  induction inputs generalizing s with
  | nil => exact List.Sublist.refl _
  | cons i rest ih =>
    rw [run_cons, List.flatten_cons, List.flatMap_cons]
    exact (hOffer s i).append (ih _)

theorem run?_total {step? : σ → ι → Option (σ × ο)} (hStep : ∀ s i, ∃ out, step? s i = some out)
    (s : σ) (inputs : List ι) : ∃ out, run? step? s inputs = some out := by
  induction inputs generalizing s with
  | nil => exact ⟨(s, []), rfl⟩
  | cons i rest ih =>
    obtain ⟨⟨s', o⟩, hHead⟩ := hStep s i
    obtain ⟨out, hTail⟩ := ih s'
    refine ⟨(out.1, o :: out.2), ?_⟩
    rw [run?, hHead]
    show (run? step? s' rest).bind _ = _
    rw [hTail]
    rfl

theorem run?_cons (step? : σ → ι → Option (σ × ο)) (s : σ) (i : ι) (rest : List ι) :
    run? step? s (i :: rest) = (step? s i).bind fun head =>
      (run? step? head.1 rest).map fun tail => (tail.1, head.2 :: tail.2) := by
  rw [run?]
  cases step? s i with
  | none => rfl
  | some head =>
    show (run? step? head.1 rest).bind _ = (run? step? head.1 rest).map _
    cases run? step? head.1 rest <;> rfl

theorem run?_append (step? : σ → ι → Option (σ × ο)) (s : σ) (left right : List ι) :
    run? step? s (left ++ right) = (run? step? s left).bind fun front =>
      (run? step? front.1 right).map fun back => (back.1, front.2 ++ back.2) := by
  induction left generalizing s with
  | nil =>
    show run? step? s right = (run? step? s right).map _
    cases run? step? s right <;> rfl
  | cons i rest ih =>
    rw [List.cons_append, run?_cons, run?_cons]
    cases step? s i with
    | none => rfl
    | some head =>
      simp only [Option.bind_some, ih]
      cases run? step? head.1 rest with
      | none => rfl
      | some front =>
        simp only [Option.bind_some, Option.map_some]
        cases run? step? front.1 right <;> rfl

/-- What holds of the empty run and is kept when a run is extended by one step holds of every run. -/
theorem run?_induction {step? : σ → ι → Option (σ × ο)} {P : List ι → σ → List ο → Prop} {s : σ}
    (hNil : P [] s [])
    (hStep : ∀ inputs s₁ os i s₂ o, P inputs s₁ os → step? s₁ i = some (s₂, o) →
      P (inputs ++ [i]) s₂ (os ++ [o]))
    {inputs : List ι} {s' : σ} {os : List ο} (hRun : run? step? s inputs = some (s', os)) :
    P inputs s' os := by
  induction inputs using List.reverseRecOn generalizing s' os with
  | nil =>
    cases hRun
    exact hNil
  | append_singleton inputs i ih =>
    rw [run?_append] at hRun
    obtain ⟨⟨s₁, os₁⟩, hFront, hLast⟩ := Option.bind_eq_some_iff.mp hRun
    obtain ⟨⟨s₂, os₂⟩, hBack, hOut⟩ := Option.map_eq_some_iff.mp hLast
    rw [run?_cons] at hBack
    obtain ⟨⟨s₃, o⟩, hHead, hEnd⟩ := Option.bind_eq_some_iff.mp hBack
    cases hEnd
    cases hOut
    exact hStep inputs s₁ os₁ i s₃ o (ih hFront) hHead

theorem mem_run?_iff {step? : σ → ι → Option (σ × ο)} {s s' : σ} {inputs : List ι} {os : List ο}
    (hRun : run? step? s inputs = some (s', os)) (o : ο) :
    o ∈ os ↔ ∃ before i after s₁ os₁ s₂, inputs = before ++ i :: after ∧
      run? step? s before = some (s₁, os₁) ∧ step? s₁ i = some (s₂, o) := by
  induction inputs generalizing s s' os with
  | nil =>
    cases hRun
    simp
  | cons i rest ih =>
    rw [run?_cons] at hRun
    obtain ⟨⟨s₁, o₁⟩, hHead, hTail⟩ := Option.bind_eq_some_iff.mp hRun
    obtain ⟨⟨s₂, os₂⟩, hRest, hOut⟩ := Option.map_eq_some_iff.mp hTail
    cases hOut
    rw [List.mem_cons, ih hRest]
    constructor
    · rintro (rfl | ⟨before, j, after, s₃, os₃, s₄, rfl, hBefore, hStep⟩)
      · exact ⟨[], i, rest, s, [], s₁, rfl, rfl, hHead⟩
      · refine ⟨i :: before, j, after, s₃, o₁ :: os₃, s₄, rfl, ?_, hStep⟩
        rw [run?_cons, hHead, Option.bind_some, hBefore]
        rfl
    · rintro ⟨before, j, after, s₃, os₃, s₄, hSplit, hBefore, hStep⟩
      cases before with
      | nil =>
        cases hSplit
        cases hBefore
        rw [hHead] at hStep
        cases hStep
        exact Or.inl rfl
      | cons first before =>
        cases hSplit
        rw [run?_cons, hHead, Option.bind_some] at hBefore
        obtain ⟨⟨s₅, os₅⟩, hBefore', hOut'⟩ := Option.map_eq_some_iff.mp hBefore
        cases hOut'
        exact Or.inr ⟨before, j, after, s₅, os₅, s₄, rfl, hBefore', hStep⟩

/-- A relation that every step keeps, with equal outputs, is kept by every run. -/
theorem run?_simulates {step? : σ → ι → Option (σ × ο)} {step : τ → ι → τ × ο} {R : σ → τ → Prop}
    (hStep : ∀ s t i, R s t → ∃ s', step? s i = some (s', (step t i).2) ∧ R s' (step t i).1)
    {s : σ} {t : τ} (h : R s t) (inputs : List ι) :
    ∃ s', run? step? s inputs = some (s', (run step t inputs).2) ∧ R s' (run step t inputs).1 := by
  induction inputs generalizing s t with
  | nil => exact ⟨s, rfl, h⟩
  | cons i rest ih =>
    obtain ⟨s₁, hHead, hNext⟩ := hStep s t i h
    obtain ⟨s₂, hTail, hLast⟩ := ih hNext
    refine ⟨s₂, ?_, hLast⟩
    rw [run?, hHead]
    show (run? step? s₁ rest).bind _ = _
    rw [hTail]
    rfl

end Mealy
