import Mathlib.Data.List.Induction

/-! # Stores of owners and their parts

An owner stands under a key, a part under the key of its owner and a name. Parts are attached to a present
owner only, and whoever puts or drops the owner discards them. `owners_run_iff` and `parts_run_iff` read
what a store holds off the calls that led to it.
-/

/-- Some call satisfies `starts`, given the calls before it, and no later one satisfies `ends`. -/
def Since {ι : Type} (starts : List ι → ι → Prop) (ends : ι → Prop) (calls : List ι) : Prop :=
  ∃ before call after, calls = before ++ call :: after ∧ starts before call ∧
    ∀ later ∈ after, ¬ ends later

namespace Since

variable {ι κ : Type} {starts : List ι → ι → Prop} {ends : ι → Prop}

theorem not_nil : ¬ Since starts ends [] := by
  rintro ⟨before, call, after, hSplit, -⟩
  simp at hSplit

theorem snoc_iff (calls : List ι) (last : ι) :
    Since starts ends (calls ++ [last]) ↔ starts calls last ∨ Since starts ends calls ∧ ¬ ends last := by
  constructor
  · rintro ⟨before, call, after, hSplit, hStart, hEnds⟩
    rcases List.eq_nil_or_concat after with rfl | ⟨front, final, rfl⟩
    · obtain ⟨rfl, hLast⟩ := List.append_inj' hSplit rfl
      cases hLast
      exact Or.inl hStart
    · rw [List.concat_eq_append] at hSplit hEnds
      have hFront : calls ++ [last] = (before ++ call :: front) ++ [final] := by simpa using hSplit
      obtain ⟨rfl, hLast⟩ := List.append_inj' hFront rfl
      cases hLast
      obtain ⟨hBefore, hEnd⟩ := List.forall_mem_append.mp hEnds
      exact Or.inr ⟨⟨before, call, front, rfl, hStart, hBefore⟩, hEnd last (List.mem_singleton_self _)⟩
  · rintro (hStart | ⟨⟨before, call, after, rfl, hStart, hEnds⟩, hEnd⟩)
    · exact ⟨calls, last, [], rfl, hStart, by simp⟩
    · refine ⟨before, call, after ++ [last], by simp, hStart, ?_⟩
      intro later hMem
      rcases List.mem_append.mp hMem with hBefore | hLast
      · exact hEnds later hBefore
      · exact List.mem_singleton.mp hLast ▸ hEnd

theorem map_iff {starts : List κ → κ → Prop} {ends : κ → Prop} (f : ι → κ) (calls : List ι) :
    Since starts ends (calls.map f) ↔
      Since (fun before call => starts (before.map f) (f call)) (fun call => ends (f call)) calls := by
  induction calls using List.reverseRecOn with
  | nil => exact iff_of_false not_nil not_nil
  | append_singleton calls last ih => rw [List.map_append, List.map_singleton, snoc_iff, snoc_iff, ih]

end Since

/-- No part outlives its owner. -/
@[ext] structure OwnedStore (κ μ α β : Type) where
  owners : κ → Option α
  parts : κ → μ → Option β
  owned : ∀ key name part, parts key name = some part → (owners key).isSome

namespace OwnedStore

inductive Call (κ μ α β : Type) where
  | put (key : κ) (owner : α)
  | drop (key : κ)
  | attach (key : κ) (name : μ) (part : β)
  | detach (key : κ) (name : μ)

variable {κ μ α β : Type}

def Call.Resets (key : κ) : Call κ μ α β → Prop
  | put key' _ | drop key' => key' = key
  | attach .. | detach .. => False

def Call.Sets (key : κ) (name : μ) : Call κ μ α β → Prop
  | attach key' name' _ | detach key' name' => key' = key ∧ name' = name
  | put .. | drop .. => False

def empty : OwnedStore κ μ α β := ⟨fun _ => none, fun _ _ => none, fun _ _ _ hPart => by cases hPart⟩

variable [DecidableEq κ] [DecidableEq μ]

def reset (store : OwnedStore κ μ α β) (key : κ) (owner : Option α) : OwnedStore κ μ α β where
  owners key' := if key' = key then owner else store.owners key'
  parts key' name := if key' = key then none else store.parts key' name
  owned key' name part hPart := by
    split at hPart
    · cases hPart
    · rename_i hOther
      rw [if_neg hOther]
      exact store.owned key' name part hPart

def set (store : OwnedStore κ μ α β) (key : κ) (name : μ) (part : Option β) : OwnedStore κ μ α β where
  owners := store.owners
  parts key' name' :=
    if key' = key ∧ name' = name then (if (store.owners key).isSome then part else none)
    else store.parts key' name'
  owned key' name' part' hPart := by
    split at hPart
    · rename_i hSame
      split at hPart
      · rename_i hOwner
        rw [hSame.1]
        exact hOwner
      · cases hPart
    · exact store.owned key' name' part' hPart

def step (store : OwnedStore κ μ α β) : Call κ μ α β → OwnedStore κ μ α β
  | .put key owner => store.reset key (some owner)
  | .drop key => store.reset key none
  | .attach key name part => store.set key name (some part)
  | .detach key name => store.set key name none

def run (calls : List (Call κ μ α β)) : OwnedStore κ μ α β := calls.foldl step empty

theorem run_snoc (calls : List (Call κ μ α β)) (call : Call κ μ α β) :
    run (calls ++ [call]) = (run calls).step call := by
  rw [run, List.foldl_append]
  rfl

theorem owners_step_iff (store : OwnedStore κ μ α β) (call : Call κ μ α β) (key : κ) (owner : α) :
    (store.step call).owners key = some owner ↔
      call = .put key owner ∨ store.owners key = some owner ∧ ¬ call.Resets key := by
  cases call with
  | put key' owner' =>
    by_cases hKey : key = key'
    · subst hKey
      simp [step, reset, Call.Resets]
    · simp [step, reset, Call.Resets, hKey, Ne.symm hKey]
  | drop key' =>
    by_cases hKey : key = key'
    · subst hKey
      simp [step, reset, Call.Resets]
    · simp [step, reset, Call.Resets, hKey, Ne.symm hKey]
  | attach | detach => simp [step, set, Call.Resets]

theorem parts_step_iff (store : OwnedStore κ μ α β) (call : Call κ μ α β) (key : κ) (name : μ) (part : β) :
    (store.step call).parts key name = some part ↔
      (call = .attach key name part ∧ (store.owners key).isSome) ∨
        store.parts key name = some part ∧ ¬ (call.Resets key ∨ call.Sets key name) := by
  cases call with
  | put key' owner | drop key' =>
    by_cases hKey : key = key'
    · subst hKey
      simp [step, reset, Call.Resets]
    · simp [step, reset, Call.Resets, Call.Sets, hKey, Ne.symm hKey]
  | attach key' name' part' =>
    by_cases hSame : key = key' ∧ name = name'
    · obtain ⟨rfl, rfl⟩ := hSame
      simp [step, set, Call.Sets, and_comm]
    · have hOther : ¬ (key' = key ∧ name' = name) := fun h => hSame ⟨h.1.symm, h.2.symm⟩
      have hCall : (.attach key' name' part' : Call κ μ α β) ≠ .attach key name part := by
        rintro ⟨⟩
        exact hSame ⟨rfl, rfl⟩
      simp [step, set, Call.Resets, Call.Sets, hSame, hOther, hCall]
  | detach key' name' =>
    by_cases hSame : key = key' ∧ name = name'
    · obtain ⟨rfl, rfl⟩ := hSame
      simp [step, set, Call.Sets]
    · have hOther : ¬ (key' = key ∧ name' = name) := fun h => hSame ⟨h.1.symm, h.2.symm⟩
      simp [step, set, Call.Resets, Call.Sets, hSame, hOther]

/-- An owner is there if it was put, and neither put again nor dropped since. -/
theorem owners_run_iff (calls : List (Call κ μ α β)) (key : κ) (owner : α) :
    (run calls).owners key = some owner ↔
      Since (fun _ call => call = .put key owner) (Call.Resets key) calls := by
  induction calls using List.reverseRecOn with
  | nil => exact iff_of_false (by simp [run, empty]) Since.not_nil
  | append_singleton calls call ih => rw [run_snoc, owners_step_iff, Since.snoc_iff, ih]

/-- A part is there if it was attached to a present owner, and nothing has set it or its owner since. -/
theorem parts_run_iff (calls : List (Call κ μ α β)) (key : κ) (name : μ) (part : β) :
    (run calls).parts key name = some part ↔
      Since (fun before call => call = .attach key name part ∧ ((run before).owners key).isSome)
        (fun call => call.Resets key ∨ call.Sets key name) calls := by
  induction calls using List.reverseRecOn with
  | nil => exact iff_of_false (by simp [run, empty]) Since.not_nil
  | append_singleton calls call ih => rw [run_snoc, parts_step_iff, Since.snoc_iff, ih]

end OwnedStore
