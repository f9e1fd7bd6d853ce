import Mathlib.Data.List.TakeWhile
import Mathlib.Order.Basic
import Mathlib.Order.Lattice

/-! # Lists kept in strictly increasing key order

A list of records in which every record has a key of its own, in increasing order, represents a finite
map. Each operation has one lemma for the order and one for the represented map.
-/

namespace KeyedList

variable {α κ : Type} [LinearOrder κ] (key : α → κ)

def Sorted (list : List α) : Prop := list.Pairwise fun a b => key a < key b

def lookup (k : κ) (list : List α) : Option α := list.find? fun a => key a = k

/-- Insertion in front of the first record whose key is not below that of `a`. -/
def insert (a : α) (list : List α) : List α :=
  (list.takeWhile fun b => key b < key a) ++ a :: list.dropWhile fun b => key b < key a

/-- Overwrites the first record that has the key of `a`; `none` when there is no such record. -/
def replace (a : α) : List α → Option (List α)
  | [] => none
  | b :: rest => if key b = key a then some (a :: rest) else (replace a rest).map (b :: ·)

def erase (k : κ) (list : List α) : List α := list.filter fun a => key a ≠ k

variable {key}

@[simp] theorem lookup_nil (k : κ) : lookup key k [] = none := rfl

theorem lookup_cons (k : κ) (a : α) (list : List α) :
    lookup key k (a :: list) = if key a = k then some a else lookup key k list := by
  by_cases h : key a = k <;> simp [lookup, h]

theorem lookup_append (k : κ) (left right : List α) :
    lookup key k (left ++ right) = (lookup key k left).or (lookup key k right) :=
  List.find?_append

theorem lookup_eq_none_iff {k : κ} {list : List α} :
    lookup key k list = none ↔ ∀ a ∈ list, key a ≠ k := by
  simp [lookup]

theorem key_of_lookup {k : κ} {list : List α} {a : α} (h : lookup key k list = some a) :
    key a = k := by
  simpa using List.find?_some h

theorem lookup_eq_some_iff {list : List α} (hSorted : Sorted key list) {k : κ} {a : α} :
    lookup key k list = some a ↔ a ∈ list ∧ key a = k := by
  constructor
  · intro h
    exact ⟨List.mem_of_find?_eq_some h, key_of_lookup h⟩
  · rintro ⟨hMem, hKey⟩
    induction list with
    | nil => cases hMem
    | cons b rest ih =>
      obtain ⟨hHead, hRest⟩ := List.pairwise_cons.mp hSorted
      rw [lookup_cons]
      rcases List.mem_cons.mp hMem with rfl | hMem
      · rw [if_pos hKey]
      · rw [if_neg (fun hEq => (hHead a hMem).ne (hEq.trans hKey.symm)), ih hRest hMem]

theorem sorted_iff_map (list : List α) :
    Sorted key list ↔ (list.map key).Pairwise (· < ·) := by
  rw [Sorted, List.pairwise_map]

theorem Sorted.erase {list : List α} (h : Sorted key list) (k : κ) :
    Sorted key (erase key k list) := h.filter _

theorem lookup_erase (k k' : κ) (list : List α) :
    lookup key k' (erase key k list) = if k' = k then none else lookup key k' list := by
  induction list with
  | nil => simp [erase]
  | cons a rest ih =>
    unfold erase at ih ⊢
    rw [List.filter_cons]
    by_cases hKey : key a = k
    · rw [if_neg (by simpa using hKey), ih, lookup_cons, hKey]
      split <;> rename_i hk
      · rfl
      · rw [if_neg (fun h => hk h.symm)]
    · rw [if_pos (by simpa using hKey), lookup_cons, lookup_cons, ih]
      split
      · rename_i hk
        rw [if_neg (fun h => hKey (hk.trans h))]
      · rfl

section Insert

variable {a : α} {list : List α} (hNew : ∀ b ∈ list, key b ≠ key a)

theorem mem_insert {b : α} : b ∈ insert key a list ↔ b = a ∨ b ∈ list := by
  have hSplit := List.takeWhile_append_dropWhile (p := fun b => decide (key b < key a)) (l := list)
  rw [insert, List.mem_append, List.mem_cons]
  constructor
  · rintro (h | h | h)
    · exact Or.inr (hSplit ▸ List.mem_append_left _ h)
    · exact Or.inl h
    · exact Or.inr (hSplit ▸ List.mem_append_right _ h)
  · rintro (h | h)
    · exact Or.inr (Or.inl h)
    · rw [← hSplit, List.mem_append] at h
      exact h.imp id Or.inr

theorem key_le_of_mem_dropWhile (hSorted : Sorted key list) {b : α}
    (h : b ∈ list.dropWhile fun b => key b < key a) : key a ≤ key b := by
  induction list with
  | nil => cases h
  | cons c rest ih =>
    obtain ⟨hHead, hRest⟩ := List.pairwise_cons.mp hSorted
    by_cases hc : key c < key a
    · rw [List.dropWhile_cons_of_pos (by simpa using hc)] at h
      exact ih hRest h
    · rw [List.dropWhile_cons_of_neg (by simpa using hc)] at h
      rcases List.mem_cons.mp h with rfl | h
      · exact not_lt.mp hc
      · exact (not_lt.mp hc).trans (hHead b h).le

include hNew

theorem Sorted.insert (hSorted : Sorted key list) : Sorted key (insert key a list) := by
  have hSplit := List.takeWhile_append_dropWhile (p := fun b => decide (key b < key a)) (l := list)
  have hBefore : ∀ b ∈ list.takeWhile (fun b => key b < key a), key b < key a := by
    intro b hb
    simpa using List.mem_takeWhile_imp hb
  have hAfter : ∀ b ∈ list.dropWhile (fun b => key b < key a), key a < key b := by
    intro b hb
    have hMem : b ∈ list := hSplit ▸ List.mem_append_right _ hb
    exact lt_of_le_of_ne (key_le_of_mem_dropWhile hSorted hb) (hNew b hMem).symm
  refine List.pairwise_append.mpr ⟨hSorted.sublist (List.takeWhile_sublist _),
    List.pairwise_cons.mpr ⟨hAfter, hSorted.sublist (List.dropWhile_sublist _)⟩, ?_⟩
  intro b hb c hc
  rcases List.mem_cons.mp hc with rfl | hc
  · exact hBefore b hb
  · exact (hBefore b hb).trans (hAfter c hc)

theorem lookup_insert (k : κ) :
    lookup key k (KeyedList.insert key a list) =
      if key a = k then some a else lookup key k list := by
  have hSplit := List.takeWhile_append_dropWhile (p := fun b => decide (key b < key a)) (l := list)
  rw [KeyedList.insert, lookup_append, lookup_cons]
  split <;> rename_i hk
  · have hNone : lookup key k (list.takeWhile fun b => key b < key a) = none := by
      rw [lookup_eq_none_iff]
      intro b hb
      rw [← hk]
      exact hNew b (hSplit ▸ List.mem_append_left _ hb)
    rw [hNone, Option.none_or]
  · rw [← lookup_append, hSplit]

end Insert

theorem replace_eq_none_iff {a : α} {list : List α} :
    replace key a list = none ↔ ∀ b ∈ list, key b ≠ key a := by
  induction list with
  | nil => simp [replace]
  | cons b rest ih =>
    rw [replace]
    split <;> rename_i hb
    · simp [hb]
    · simp [ih, hb]

theorem map_key_of_replace {a : α} {list list' : List α} (h : replace key a list = some list') :
    list'.map key = list.map key := by
  induction list generalizing list' with
  | nil => cases h
  | cons b rest ih =>
    rw [replace] at h
    split at h <;> rename_i hb
    · cases h
      rw [List.map_cons, List.map_cons, hb]
    · obtain ⟨rest', hRest, rfl⟩ := Option.map_eq_some_iff.mp h
      rw [List.map_cons, List.map_cons, ih hRest]

theorem Sorted.replace {a : α} {list list' : List α} (hSorted : Sorted key list)
    (h : KeyedList.replace key a list = some list') : Sorted key list' := by
  rw [sorted_iff_map] at hSorted ⊢
  rwa [map_key_of_replace h]

theorem lookup_replace {a : α} {list list' : List α} (h : replace key a list = some list') (k : κ) :
    lookup key k list' = if key a = k then some a else lookup key k list := by
  induction list generalizing list' with
  | nil => cases h
  | cons b rest ih =>
    rw [replace] at h
    split at h <;> rename_i hb
    · cases h
      rw [lookup_cons, lookup_cons, hb]
      split <;> rfl
    · obtain ⟨rest', hRest, rfl⟩ := Option.map_eq_some_iff.mp h
      rw [lookup_cons, lookup_cons, ih hRest]
      by_cases hk : key b = k
      · rw [if_pos hk, if_pos hk, if_neg (fun ha => hb (hk.trans ha.symm))]
      · rw [if_neg hk, if_neg hk]

end KeyedList
