import VsomeipDart.Lib.KeyedMachine

/-! # Limiters

A limiter passes an input if no input of its key was passed before, or if it is far enough from the last
one that was. Two limiters that differ in what is far do the same on a run exactly if they agree on every
input and the input passed before it.
-/

namespace Limiter

variable {κ ι α : Type} [DecidableEq κ]

/-- The state is the last input that was passed. -/
def step (out : ι → List α) (far : ι → ι → Prop) [DecidableRel far] (last : Option ι) (i : ι) :
    Option ι × List α :=
  match last with
  | none => (some i, out i)
  | some l => if far l i then (some i, out i) else (some l, [])

/-- One state for each key. -/
def turn (key : ι → κ) (out : ι → List α) (far : ι → ι → Prop) [DecidableRel far] :
    (κ → Option ι) → ι → (κ → Option ι) × List α :=
  KeyedMachine.turn key (step out far)

variable {key : ι → κ} {out : ι → List α} {far far' : ι → ι → Prop} [DecidableRel far] [DecidableRel far']

theorem step_pass {last : Option ι} {i : ι} (h : ∀ l, last = some l → far l i) :
    step out far last i = (some i, out i) := by
  cases last with
  | none => rfl
  | some l => exact if_pos (h l rfl)

theorem step_congr {last : Option ι} {i : ι} (h : ∀ l, last = some l → (far l i ↔ far' l i)) :
    step out far last i = step out far' last i := by
  cases last with
  | none => rfl
  | some l => simp only [step, h l rfl]

theorem step_output_iff {last : Option ι} {i : ι} (hOut : out i ≠ []) :
    (step out far last i).2 = (step out far' last i).2 ↔ ∀ l, last = some l → (far l i ↔ far' l i) := by
  constructor
  · rintro hSame l rfl
    by_cases hFar : far l i <;> by_cases hFar' : far' l i
    · exact iff_of_true hFar hFar'
    · simp only [step, if_pos hFar, if_neg hFar'] at hSame
      exact absurd hSame hOut
    · simp only [step, if_neg hFar, if_pos hFar'] at hSame
      exact absurd hSame.symm hOut
    · exact iff_of_false hFar hFar'
  · intro h
    rw [step_congr h]

theorem turn_congr {s : κ → Option ι} {i : ι} (h : ∀ l, s (key i) = some l → (far l i ↔ far' l i)) :
    turn key out far s i = turn key out far' s i := by
  rw [turn, turn, KeyedMachine.turn, KeyedMachine.turn, step_congr h]

variable (out far) in
theorem step_state (last : Option ι) (i : ι) :
    (step out far last i).1 = some i ∨ (step out far last i).1 = last := by
  cases last with
  | none => exact Or.inl rfl
  | some l =>
    rw [step]
    split
    · exact Or.inl rfl
    · exact Or.inr rfl

theorem mem_of_run {s : κ → Option ι} {inputs : List ι} {k : κ} {l : ι}
    (h : (Mealy.run (turn key out far) s inputs).1 k = some l) : s k = some l ∨ l ∈ inputs := by
  induction inputs generalizing s with
  | nil => exact Or.inl h
  | cons i rest ih =>
    rcases ih h with hNext | hMem
    · change Function.update s (key i) (step out far (s (key i)) i).1 k = some l at hNext
      rcases eq_or_ne k (key i) with rfl | hOther
      · rw [Function.update_self] at hNext
        rcases step_state out far (s (key i)) i with hNew | hOld
        · rw [hNew] at hNext
          cases hNext
          exact Or.inr List.mem_cons_self
        · exact Or.inl (hOld.symm.trans hNext)
      · rw [Function.update_of_ne hOther] at hNext
        exact Or.inl hNext
    · exact Or.inr (List.mem_cons_of_mem i hMem)

/-- Before every input of the run the limiters agree on the last one that was passed. -/
theorem run_output_iff (hOut : ∀ i, out i ≠ []) (s : κ → Option ι) (inputs : List ι) :
    (Mealy.run (turn key out far) s inputs).2 = (Mealy.run (turn key out far') s inputs).2 ↔
      ∀ before i after, inputs = before ++ i :: after →
        ∀ l, (Mealy.run (turn key out far) s before).1 (key i) = some l → (far l i ↔ far' l i) := by
  induction inputs generalizing s with
  | nil =>
    refine iff_of_true rfl fun before i after hSplit => ?_
    simp at hSplit
  | cons first rest ih =>
    have hHead : (turn key out far s first).2 = (turn key out far' s first).2 ↔
        ∀ l, s (key first) = some l → (far l first ↔ far' l first) := step_output_iff (hOut first)
    rw [Mealy.run_cons, Mealy.run_cons, List.cons.injEq]
    constructor
    · rintro ⟨hFirst, hRest⟩ before i after hSplit l hLast
      have hAgree := hHead.mp hFirst
      rw [← turn_congr hAgree] at hRest
      cases before with
      | nil =>
        cases hSplit
        exact hAgree l hLast
      | cons first' before =>
        cases hSplit
        exact (ih _).mp hRest before i after rfl l hLast
    · intro h
      have hAgree : ∀ l, s (key first) = some l → (far l first ↔ far' l first) := h [] first rest rfl
      refine ⟨hHead.mpr hAgree, ?_⟩
      rw [← turn_congr hAgree]
      exact (ih _).mpr fun before i after hSplit => h (first :: before) i after (by rw [hSplit]; rfl)

end Limiter
