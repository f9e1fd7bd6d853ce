import Mathlib.Logic.Function.Basic
import VsomeipDart.Lib.Mealy

/-! # Machines that keep one state for each key

Every input has a key, and its step reads and writes the state of that key alone. What the machine puts
out for one key is then what it puts out when it is given only the inputs of that key.
-/

namespace KeyedMachine

variable {κ σ ι α : Type} [DecidableEq κ]

def turn (key : ι → κ) (step : σ → ι → σ × List α) (s : κ → σ) (i : ι) : (κ → σ) × List α :=
  (Function.update s (key i) (step (s (key i)) i).1, (step (s (key i)) i).2)

variable {key : ι → κ} {step : σ → ι → σ × List α}

theorem turn_same (step : σ → ι → σ × List α) {s t : κ → σ} {k : κ} (h : s k = t k) {i : ι}
    (hKey : key i = k) :
    (turn key step s i).1 k = (turn key step t i).1 k ∧
      (turn key step s i).2 = (turn key step t i).2 := by
  subst hKey
  simp only [turn, Function.update_self, h, and_self]

theorem turn_other (s : κ → σ) {k : κ} {i : ι} (hKey : key i ≠ k) :
    (turn key step s i).1 k = s k :=
  Function.update_of_ne (Ne.symm hKey) _ _

/-- A machine whose states are views of those of another: what one step keeps, a turn keeps. -/
theorem turn_view {τ ι' β : Type} {key' : ι' → κ} {step' : τ → ι' → τ × List β} (view : κ → τ → σ)
    {t : κ → τ} {i : ι} {i' : ι'} (hKey : key i = key' i')
    (hStep : (step (view (key i) (t (key i))) i).1 = view (key i) (step' (t (key i)) i').1) :
    (turn key step (fun k => view k (t k)) i).1 = fun k => view k ((turn key' step' t i').1 k) := by
  funext k
  rcases eq_or_ne k (key i) with rfl | hOther
  · simp only [turn, ← hKey, Function.update_self, hStep]
  · rw [turn_other _ (Ne.symm hOther), turn_other _ (hKey ▸ Ne.symm hOther)]

/-- `label` tells the key of an output from the output itself. -/
theorem run_filter {label : α → κ} (hLabel : ∀ s i, ∀ a ∈ (step s i).2, label a = key i) (k : κ)
    {s t : κ → σ} (h : s k = t k) (inputs : List ι) :
    (Mealy.run (turn key step) s inputs).1 k =
        (Mealy.run (turn key step) t (inputs.filter fun i => key i = k)).1 k ∧
      (Mealy.run (turn key step) s inputs).2.flatten.filter (fun a => label a = k) =
        (Mealy.run (turn key step) t (inputs.filter fun i => key i = k)).2.flatten := by
  induction inputs generalizing s t with
  | nil => exact ⟨h, rfl⟩
  | cons i rest ih =>
    by_cases hKey : key i = k
    · obtain ⟨hNext, hOut⟩ := turn_same step h hKey
      obtain ⟨hState, hOuts⟩ := ih hNext
      have hAll : ∀ a ∈ (turn key step t i).2, decide (label a = k) = true := by
        intro a hMem
        rw [decide_eq_true_eq, hLabel _ i a hMem, hKey]
      rw [List.filter_cons_of_pos (by simpa using hKey), Mealy.run_cons, Mealy.run_cons]
      refine ⟨hState, ?_⟩
      rw [List.flatten_cons, List.filter_append, hOut, List.filter_eq_self.mpr hAll, hOuts,
        List.flatten_cons]
    · have hNone : ∀ a ∈ (turn key step s i).2, ¬ decide (label a = k) = true := by
        intro a hMem
        rw [decide_eq_true_eq, hLabel _ i a hMem]
        exact hKey
      obtain ⟨hState, hOuts⟩ := ih ((turn_other s hKey).trans h)
      rw [List.filter_cons_of_neg (by simpa using hKey), Mealy.run_cons]
      refine ⟨hState, ?_⟩
      rw [List.flatten_cons, List.filter_append, List.filter_eq_nil_iff.mpr hNone, List.nil_append,
        hOuts]

theorem run_sole {k : κ} (s : κ → σ) {inputs : List ι} (h : ∀ i ∈ inputs, key i = k) :
    (Mealy.run (turn key step) s inputs).1 k = (Mealy.run step (s k) inputs).1 ∧
      (Mealy.run (turn key step) s inputs).2 = (Mealy.run step (s k) inputs).2 := by
  induction inputs generalizing s with
  | nil => exact ⟨rfl, rfl⟩
  | cons i rest ih =>
    obtain ⟨hKey, hRest⟩ := List.forall_mem_cons.mp h
    obtain ⟨hState, hOuts⟩ := ih (turn key step s i).1 hRest
    have hNext : (turn key step s i).1 k = (step (s k) i).1 := by
      simp only [turn, hKey, Function.update_self]
    rw [hNext] at hState hOuts
    rw [Mealy.run_cons, Mealy.run_cons]
    refine ⟨hState, ?_⟩
    rw [hOuts, turn, hKey]

/-- What is put out for one key is what the steps make of the inputs of that key. -/
theorem run_of_key {label : α → κ} (hLabel : ∀ s i, ∀ a ∈ (step s i).2, label a = key i) (k : κ) (s : κ → σ)
    (inputs : List ι) : (Mealy.run (turn key step) s inputs).2.flatten.filter (fun a => label a = k) =
      (Mealy.run step (s k) (inputs.filter fun i => key i = k)).2.flatten := by
  have hOwn : ∀ i ∈ inputs.filter fun i => key i = k, key i = k := by
    intro i hMem
    simpa using (List.mem_filter.mp hMem).2
  rw [(run_filter hLabel k rfl inputs).2, (run_sole s hOwn).2]

end KeyedMachine
