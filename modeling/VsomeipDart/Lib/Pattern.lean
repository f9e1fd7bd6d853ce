import Mathlib.Data.List.Basic

/-! # Patterns of repeated character classes

A pattern is a list of items, each a character class taken once or repeatedly. A repetition takes as many
characters as it can, and gives some back while the items after it do not match.
-/

namespace Pattern
set_option autoImplicit false

inductive Item (α : Type) where
  | one (p : α → Bool)
  | star (p : α → Bool)
  | plus (p : α → Bool)

section Matching

variable {α : Type}

/-- The ways to take a run of `p`, each with what it leaves, the longest first. -/
def runs (p : α → Bool) : List α → List (List α × List α)
  | [] => [([], [])]
  | c :: rest =>
    if p c then (runs p rest).map (fun way => (c :: way.1, way.2)) ++ [([], c :: rest)]
    else [([], c :: rest)]

def Item.ways : Item α → List α → List (List α × List α)
  | .star p, text => runs p text
  | .one _, [] => []
  | .one p, c :: rest => if p c then [([c], rest)] else []
  | .plus _, [] => []
  | .plus p, c :: rest => if p c then (runs p rest).map fun way => (c :: way.1, way.2) else []

/-- The texts that an item stands for. -/
def Item.Takes : Item α → List α → Prop
  | .one p, taken => ∃ c, taken = [c] ∧ p c = true
  | .star p, taken => ∀ c ∈ taken, p c = true
  | .plus p, taken => taken ≠ [] ∧ ∀ c ∈ taken, p c = true

/-- A match at the start of the text: what each item takes, and what is left. -/
def matchStart : List (Item α) → List α → Option (List (List α) × List α)
  | [], text => some ([], text)
  | item :: items, text =>
    (item.ways text).findSome? fun way =>
      (matchStart items way.2).map fun found => (way.1 :: found.1, found.2)

def search (items : List (Item α)) : List α → Option (List (List α) × List α)
  | [] => matchStart items []
  | c :: rest =>
    match matchStart items (c :: rest) with
    | some found => some found
    | none => search items rest

/-- No match of the items begins with a character of `p`. -/
def Avoids (p : α → Bool) (items : List (Item α)) : Prop :=
  ∀ c rest, p c = true → matchStart items (c :: rest) = none

def Stops (p : α → Bool) (text : List α) : Prop := ∀ c ∈ text.head?, p c = false

end Matching

section Rules

variable {α : Type} {p q : α → Bool} {items : List (Item α)}

@[simp] theorem stops_nil : Stops p [] := nofun

theorem stops_cons {c : α} {rest : List α} (h : p c = false) : Stops p (c :: rest) := by
  intro d hHead
  cases hHead
  exact h

/-- Where everything but the longest run leaves a text that fails, only the longest run counts. -/
theorem findSome?_runs {β : Type} {run rest : List α} (hRun : ∀ c ∈ run, p c = true)
    (hStop : Stops p rest) {f : List α × List α → Option β}
    (hShorter : ∀ taken c left, p c = true → f (taken, c :: left) = none) :
    (runs p (run ++ rest)).findSome? f = f (run, rest) := by
  induction run generalizing f with
  | nil =>
    rw [List.nil_append]
    cases rest with
    | nil =>
      rw [runs, List.findSome?_singleton]
    | cons c rest =>
      have hOut : ¬ p c = true := by
        rw [hStop c rfl]
        exact Bool.false_ne_true
      rw [runs, if_neg hOut, List.findSome?_singleton]
  | cons c run ih =>
    obtain ⟨hHead, hTail⟩ := List.forall_mem_cons.mp hRun
    rw [List.cons_append, runs, if_pos hHead, List.findSome?_append, List.findSome?_map,
      ih hTail (fun taken d left hd => hShorter (c :: taken) d left hd)]
    rw [List.findSome?_singleton, hShorter [] c (run ++ rest) hHead, Option.or_none]
    rfl

theorem matchStart_one {c : α} (rest : List α) (h : p c = true) :
    matchStart (.one p :: items) (c :: rest) =
      (matchStart items rest).map fun found => ([c] :: found.1, found.2) := by
  rw [matchStart, Item.ways, if_pos h, List.findSome?_singleton]

theorem matchStart_one_none {text : List α} (h : Stops p text) :
    matchStart (.one p :: items) text = none := by
  cases text with
  | nil => rfl
  | cons c rest =>
    have hOut : ¬ p c = true := by
      rw [h c rfl]
      exact Bool.false_ne_true
    rw [matchStart, Item.ways, if_neg hOut]
    rfl

theorem matchStart_plus_none {text : List α} (h : Stops p text) :
    matchStart (.plus p :: items) text = none := by
  cases text with
  | nil => rfl
  | cons c rest =>
    have hOut : ¬ p c = true := by
      rw [h c rfl]
      exact Bool.false_ne_true
    rw [matchStart, Item.ways, if_neg hOut]
    rfl

section Run

variable {run rest : List α} (hRun : ∀ c ∈ run, p c = true) (hStop : Stops p rest)
  (hAvoids : Avoids p items)

include hRun hStop hAvoids

theorem matchStart_star :
    matchStart (.star p :: items) (run ++ rest) =
      (matchStart items rest).map fun found => (run :: found.1, found.2) := by
  rw [matchStart, Item.ways]
  refine findSome?_runs hRun hStop fun taken c left hc => ?_
  rw [hAvoids c left hc, Option.map_none]

theorem matchStart_plus (hSome : run ≠ []) :
    matchStart (.plus p :: items) (run ++ rest) =
      (matchStart items rest).map fun found => (run :: found.1, found.2) := by
  cases run with
  | nil => exact absurd rfl hSome
  | cons c run =>
    obtain ⟨hHead, hTail⟩ := List.forall_mem_cons.mp hRun
    rw [List.cons_append, matchStart, Item.ways, if_pos hHead, List.findSome?_map]
    refine findSome?_runs hTail hStop fun taken d left hd => ?_
    rw [Function.comp_apply, hAvoids d left hd, Option.map_none]

end Run

theorem avoids_one (h : ∀ c, p c = true → q c = false) : Avoids p (.one q :: items) :=
  fun c _ hc => matchStart_one_none (stops_cons (h c hc))

theorem avoids_plus (h : ∀ c, p c = true → q c = false) : Avoids p (.plus q :: items) :=
  fun c _ hc => matchStart_plus_none (stops_cons (h c hc))

theorem avoids_star (h : ∀ c, p c = true → q c = false) (hItems : Avoids p items) :
    Avoids p (.star q :: items) := by
  intro c rest hc
  have hOut : ¬ q c = true := by
    rw [h c hc]
    exact Bool.false_ne_true
  rw [matchStart, Item.ways, runs, if_neg hOut, List.findSome?_singleton, hItems c rest hc,
    Option.map_none]

/-- The search passes over characters at which no match begins. -/
theorem search_append {front : List α} (h : ∀ c ∈ front, ∀ rest, matchStart items (c :: rest) = none)
    (rest : List α) : search items (front ++ rest) = search items rest := by
  induction front with
  | nil => rfl
  | cons c front ih =>
    obtain ⟨hHead, hTail⟩ := List.forall_mem_cons.mp h
    rw [List.cons_append, search, hHead (front ++ rest)]
    exact ih hTail

theorem search_start {text : List α} {found : List (List α) × List α}
    (h : matchStart items text = some found) : search items text = some found := by
  cases text with
  | nil => exact h
  | cons c rest => rw [search, h]

end Rules

section Found

variable {α : Type} {items : List (Item α)}

theorem mem_runs {p : α → Bool} {text : List α} {way : List α × List α} :
    way ∈ runs p text ↔ text = way.1 ++ way.2 ∧ ∀ c ∈ way.1, p c = true := by
  induction text generalizing way with
  | nil =>
    obtain ⟨taken, left⟩ := way
    rw [runs, List.mem_singleton, Prod.mk.injEq]
    constructor
    · rintro ⟨rfl, rfl⟩
      exact ⟨rfl, nofun⟩
    · rintro ⟨hText, -⟩
      exact List.append_eq_nil_iff.mp hText.symm
  | cons c rest ih =>
    obtain ⟨taken, left⟩ := way
    have hHere : (c :: rest = [] ++ left ∧ ∀ d ∈ ([] : List α), p d = true) ↔ left = c :: rest := by
      rw [List.nil_append, eq_comm, and_iff_left]
      exact nofun
    rw [runs]
    cases taken with
    | nil =>
      rw [hHere]
      split
      · simp
      · simp
    | cons d taken =>
      split
      · next hHead =>
        simp only [List.mem_append, List.mem_map, List.mem_singleton, Prod.mk.injEq, reduceCtorEq, false_and,
          or_false, Prod.exists, List.cons.injEq, List.cons_append, List.forall_mem_cons]
        constructor
        · rintro ⟨taken, left, hWay, ⟨rfl, rfl⟩, rfl⟩
          obtain ⟨hRest, hTaken⟩ := ih.mp hWay
          exact ⟨⟨rfl, hRest⟩, hHead, hTaken⟩
        · rintro ⟨⟨rfl, hRest⟩, -, hTaken⟩
          exact ⟨taken, left, ih.mpr ⟨hRest, hTaken⟩, ⟨rfl, rfl⟩, rfl⟩
      · next hHead =>
        simp only [List.mem_singleton, Prod.mk.injEq, reduceCtorEq, false_and, List.cons_append, List.cons.injEq,
          List.forall_mem_cons, false_iff]
        rintro ⟨⟨rfl, -⟩, hOwn, -⟩
        exact hHead hOwn

theorem mem_ways {item : Item α} {text : List α} {way : List α × List α} :
    way ∈ item.ways text ↔ text = way.1 ++ way.2 ∧ item.Takes way.1 := by
  obtain ⟨taken, left⟩ := way
  cases item with
  | star p => exact mem_runs
  | one p =>
    cases text with
    | nil =>
      refine iff_of_false List.not_mem_nil ?_
      rintro ⟨hText, c, rfl, -⟩
      cases hText
    | cons d rest =>
      rw [Item.ways, Item.Takes]
      constructor
      · intro hMem
        split at hMem
        · next hHead =>
          cases List.mem_singleton.mp hMem
          exact ⟨rfl, d, rfl, hHead⟩
        · cases hMem
      · rintro ⟨hText, c, rfl, hHead⟩
        cases hText
        rw [if_pos hHead]
        exact List.mem_singleton_self _
  | plus p =>
    cases text with
    | nil =>
      refine iff_of_false List.not_mem_nil ?_
      rintro ⟨hText, hSome, -⟩
      exact hSome (List.append_eq_nil_iff.mp hText.symm).1
    | cons d rest =>
      rw [Item.ways, Item.Takes]
      constructor
      · intro hMem
        split at hMem
        · next hHead =>
          obtain ⟨way, hWay, hSame⟩ := List.mem_map.mp hMem
          obtain ⟨hRest, hTaken⟩ := mem_runs.mp hWay
          cases hSame
          exact ⟨congrArg (d :: ·) hRest, List.cons_ne_nil _ _, List.forall_mem_cons.mpr ⟨hHead, hTaken⟩⟩
        · cases hMem
      · rintro ⟨hText, hSome, hTaken⟩
        obtain ⟨c, taken, rfl⟩ := List.exists_cons_of_ne_nil hSome
        obtain ⟨rfl, rfl⟩ := List.cons.inj hText
        obtain ⟨hHead, hTail⟩ := List.forall_mem_cons.mp hTaken
        rw [if_pos hHead]
        exact List.mem_map.mpr ⟨(taken, left), mem_runs.mpr ⟨rfl, hTail⟩, rfl⟩

theorem takes_matchStart {text : List α} {found : List (List α) × List α}
    (h : matchStart items text = some found) :
    List.Forall₂ Item.Takes items found.1 ∧ text = found.1.flatten ++ found.2 := by
  induction items generalizing text found with
  | nil =>
    cases h
    exact ⟨.nil, rfl⟩
  | cons item items ih =>
    obtain ⟨way, hWay, hFound⟩ := List.exists_of_findSome?_eq_some h
    obtain ⟨hText, hTakes⟩ := mem_ways.mp hWay
    obtain ⟨later, hLater, rfl⟩ := Option.map_eq_some_iff.mp hFound
    obtain ⟨hAll, hRest⟩ := ih hLater
    refine ⟨.cons hTakes hAll, ?_⟩
    rw [hText, hRest, List.flatten_cons, List.append_assoc]

theorem isSome_matchStart {parts : List (List α)} (h : List.Forall₂ Item.Takes items parts) (rest : List α) :
    (matchStart items (parts.flatten ++ rest)).isSome = true := by
  induction h with
  | nil => rfl
  | @cons item part items parts hTakes _ ih =>
    rw [matchStart, List.findSome?_isSome_iff]
    refine ⟨(part, parts.flatten ++ rest), mem_ways.mpr ⟨?_, hTakes⟩, ?_⟩
    · rw [List.flatten_cons, List.append_assoc]
    · rw [Option.isSome_map]
      exact ih

theorem takes_search {text : List α} {found : List (List α) × List α} (h : search items text = some found) :
    List.Forall₂ Item.Takes items found.1 ∧ ∃ front, text = front ++ (found.1.flatten ++ found.2) := by
  induction text with
  | nil =>
    obtain ⟨hAll, hText⟩ := takes_matchStart h
    exact ⟨hAll, [], hText⟩
  | cons c rest ih =>
    rw [search] at h
    split at h
    · next hHere =>
      cases h
      obtain ⟨hAll, hText⟩ := takes_matchStart hHere
      exact ⟨hAll, [], hText⟩
    · obtain ⟨hAll, front, hRest⟩ := ih h
      exact ⟨hAll, c :: front, congrArg (c :: ·) hRest⟩

theorem isSome_search {parts : List (List α)} (h : List.Forall₂ Item.Takes items parts) (front rest : List α) :
    (search items (front ++ (parts.flatten ++ rest))).isSome = true := by
  induction front with
  | nil =>
    obtain ⟨found, hFound⟩ := Option.isSome_iff_exists.mp (isSome_matchStart h rest)
    rw [List.nil_append, search_start hFound]
    rfl
  | cons c front ih =>
    rw [List.cons_append, search]
    split
    · rfl
    · exact ih

end Found

end Pattern
