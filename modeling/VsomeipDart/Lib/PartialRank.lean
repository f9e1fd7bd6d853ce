import Mathlib.Data.List.Sort

/-! # Comparison by ranks that some values lack

`lt` compares the ranks of two values, and is false when one of them has none. A sort may use it on a list
in which every value has a rank.
-/

namespace PartialRank

variable {α ρ : Type} [LinearOrder ρ] (rank : α → Option ρ)

def lt (a b : α) : Bool :=
  match rank a, rank b with
  | some x, some y => decide (x < y)
  | _, _ => false

/-- What a sorting function asks of its comparison, on the values that it sorts. -/
structure StrictWeakOn (less : α → α → Bool) (values : List α) : Prop where
  irrefl : ∀ a ∈ values, less a a = false
  trans : ∀ a ∈ values, ∀ b ∈ values, ∀ c ∈ values,
    less a b = true → less b c = true → less a c = true
  incomparable_trans : ∀ a ∈ values, ∀ b ∈ values, ∀ c ∈ values,
    (less a b = false ∧ less b a = false) → (less b c = false ∧ less c b = false) →
      less a c = false ∧ less c a = false

def Ascending (less : α → α → Bool) (values : List α) : Prop :=
  values.Pairwise fun a b => less b a = false

variable {rank}

theorem lt_some {a b : α} {x y : ρ} (ha : rank a = some x) (hb : rank b = some y) :
    lt rank a b = decide (x < y) := by
  simp only [lt, ha, hb]

theorem lt_none {a b : α} (h : rank a = none ∨ rank b = none) : lt rank a b = false := by
  rw [lt]
  rcases h with ha | hb
  · rw [ha]
  · rw [hb]
    cases rank a <;> rfl

theorem lt_eq_true_iff {a b : α} :
    lt rank a b = true ↔ ∃ x y, rank a = some x ∧ rank b = some y ∧ x < y := by
  cases ha : rank a with
  | none => simp [lt_none (.inl ha)]
  | some x =>
    cases hb : rank b with
    | none => simp [lt_none (.inr hb)]
    | some y => simp [lt_some ha hb]

theorem lt_irrefl (a : α) : lt rank a a = false := by
  cases ha : rank a with
  | none => exact lt_none (.inl ha)
  | some x => simp [lt_some ha ha]

theorem lt_trans {a b c : α} (hab : lt rank a b = true) (hbc : lt rank b c = true) :
    lt rank a c = true := by
  obtain ⟨x, y, ha, hb, hxy⟩ := lt_eq_true_iff.mp hab
  obtain ⟨y', z, hb', hc, hyz⟩ := lt_eq_true_iff.mp hbc
  rw [hb] at hb'
  cases hb'
  exact lt_eq_true_iff.mpr ⟨x, z, ha, hc, hxy.trans hyz⟩

/-- A value without rank is compared with every other as equal, so no two values may be ordered then. -/
theorem strictWeakOn_iff (values : List α) :
    StrictWeakOn (lt rank) values ↔
      ((∃ v ∈ values, rank v = none) → ∀ a ∈ values, ∀ b ∈ values, lt rank a b = false) := by
  constructor
  · rintro h ⟨v, hMem, hNone⟩ a ha b hb
    have hLeft : lt rank a v = false ∧ lt rank v a = false :=
      ⟨lt_none (.inr hNone), lt_none (.inl hNone)⟩
    have hRight : lt rank v b = false ∧ lt rank b v = false :=
      ⟨lt_none (.inl hNone), lt_none (.inr hNone)⟩
    exact (h.incomparable_trans a ha v hMem b hb hLeft hRight).1
  · intro h
    refine ⟨fun a _ => lt_irrefl a, fun a _ b _ c _ => lt_trans, fun a ha b hb c hc hab hbc => ?_⟩
    rcases Classical.em (∃ v ∈ values, rank v = none) with hNone | hRanked
    · exact ⟨h hNone a ha c hc, h hNone c hc a ha⟩
    · obtain ⟨x, hx⟩ : ∃ x, rank a = some x :=
        Option.ne_none_iff_exists'.mp fun hNone => hRanked ⟨a, ha, hNone⟩
      obtain ⟨y, hy⟩ : ∃ y, rank b = some y :=
        Option.ne_none_iff_exists'.mp fun hNone => hRanked ⟨b, hb, hNone⟩
      obtain ⟨z, hz⟩ : ∃ z, rank c = some z :=
        Option.ne_none_iff_exists'.mp fun hNone => hRanked ⟨c, hc, hNone⟩
      simp only [lt_some hx hy, lt_some hy hx, lt_some hy hz, lt_some hz hy, lt_some hx hz,
        lt_some hz hx, decide_eq_false_iff_not, not_lt] at hab hbc ⊢
      exact ⟨hbc.1.trans hab.1, hab.2.trans hbc.2⟩

section Sorting

variable {values : List α} (hRanked : ∀ v ∈ values, rank v ≠ none)

include hRanked

theorem lt_iff_of_ranked {a b : α} (ha : a ∈ values) (hb : b ∈ values) :
    lt rank a b = false ↔ ∃ x y, rank a = some x ∧ rank b = some y ∧ y ≤ x := by
  obtain ⟨x, hx⟩ := Option.ne_none_iff_exists'.mp (hRanked a ha)
  obtain ⟨y, hy⟩ := Option.ne_none_iff_exists'.mp (hRanked b hb)
  simp [lt_some hx hy, hx, hy]

theorem ascending_insertionSort :
    Ascending (lt rank) (values.insertionSort fun a b => !lt rank b a) := by
  -- on the values that have a rank the comparison is total and transitive
  let less (a b : {v // v ∈ values}) : Prop := (!lt rank b.1 a.1) = true
  have hLess : ∀ a b, less a b ↔ lt rank b.1 a.1 = false := fun a b => by simp [less]
  have hTotal : Std.Total less := by
    refine ⟨fun a b => ?_⟩
    rw [hLess, hLess, lt_iff_of_ranked hRanked b.2 a.2, lt_iff_of_ranked hRanked a.2 b.2]
    obtain ⟨x, hx⟩ := Option.ne_none_iff_exists'.mp (hRanked a.1 a.2)
    obtain ⟨y, hy⟩ := Option.ne_none_iff_exists'.mp (hRanked b.1 b.2)
    exact (le_total x y).imp (fun h => ⟨y, x, hy, hx, h⟩) fun h => ⟨x, y, hx, hy, h⟩
  have hTrans : IsTrans _ less := by
    refine ⟨fun a b c hab hbc => ?_⟩
    rw [hLess, lt_iff_of_ranked hRanked b.2 a.2] at hab
    rw [hLess, lt_iff_of_ranked hRanked c.2 b.2] at hbc
    rw [hLess, lt_iff_of_ranked hRanked c.2 a.2]
    obtain ⟨y, x, hy, hx, hxy⟩ := hab
    obtain ⟨z, y', hz, hy', hyz⟩ := hbc
    rw [hy] at hy'
    cases hy'
    exact ⟨z, x, hz, hx, hxy.trans hyz⟩
  have hMap := List.map_insertionSort less (fun a b => (!lt rank b a) = true) Subtype.val
    values.attach fun _ _ _ _ => Iff.rfl
  rw [List.attach_map_subtype_val] at hMap
  rw [Ascending, ← hMap, List.pairwise_map]
  exact (List.pairwise_insertionSort less values.attach).imp fun h => (hLess _ _).mp h

/-- Two ascending arrangements have the same ranks. -/
theorem map_rank_eq_of_ascending {left right : List α} (hLeft : left.Perm values)
    (hRight : right.Perm values) (hAscending : Ascending (lt rank) left)
    (hAscending' : Ascending (lt rank) right) : left.map rank = right.map rank := by
  have hLe : ∀ {l : List α}, l.Perm values → Ascending (lt rank) l →
      (l.map rank).Pairwise fun x y => ∃ a b, x = some a ∧ y = some b ∧ a ≤ b := by
    intro l hPerm h
    rw [List.pairwise_map]
    refine List.Pairwise.imp_of_mem (fun {a b} ha hb hLess => ?_) h
    obtain ⟨y, x, hy, hx, hle⟩ :=
      (lt_iff_of_ranked hRanked (hPerm.mem_iff.mp hb) (hPerm.mem_iff.mp ha)).mp hLess
    exact ⟨x, y, hx, hy, hle⟩
  refine List.Perm.eq_of_pairwise ?_ (hLe hLeft hAscending) (hLe hRight hAscending')
    ((hLeft.trans hRight.symm).map rank)
  rintro x y - - ⟨a, b, rfl, rfl, hab⟩ ⟨b', a', hb, ha, hba⟩
  cases hb
  cases ha
  rw [le_antisymm hab hba]

end Sorting

end PartialRank
