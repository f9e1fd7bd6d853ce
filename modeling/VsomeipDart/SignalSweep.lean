import VsomeipDart.SignalMap

/-! # What one sweep does to a payload and to a signal

A sweep only writes the windows that are in range. A signal whose window meets no other window gets one
sample of its own filter and its own bytes.
-/

namespace VsomeipDart
set_option autoImplicit false

open LittleEndian

namespace SignalMap

theorem mem_mapped {F : Type} (filters : UInt16 → Option (SignalFilter F)) {o : UInt16} :
    o ∈ mapped filters ↔ (filters o).isSome := by
  rw [mapped, List.mem_filter]
  exact and_iff_right (mem_offsets o)

theorem mapped_nodup {F : Type} (filters : UInt16 → Option (SignalFilter F)) :
    (mapped filters).Nodup :=
  (offsets_sorted.filter _).imp fun hab hEq => absurd (hEq ▸ hab) (UInt16.lt_irrefl _)

variable {F : Type} [FloatOps F]

def Sweep.InRange (s : Sweep F) (o : UInt16) : Prop :=
  (s.filters o).isSome ∧ o.toNat + 4 ≤ s.payload.length

/-- The four-byte windows at the two offsets share no byte. -/
def Apart (o o' : UInt16) : Prop := o'.toNat + 4 ≤ o.toNat ∨ o.toNat + 4 ≤ o'.toNat

theorem sample_bits_lt (filter : SignalFilter F) (bits : Nat) :
    (sample filter bits).2 < 256 ^ 4 :=
  (FloatOps.toBits (filter.apply (FloatOps.ofBits (UInt32.ofNat bits))).1).toNat_lt

/-- Everything one step of a sweep can do. -/
theorem feed_cases (s : Sweep F) (o : UInt16) :
    (¬ s.InRange o ∧ feed s o = s) ∨
    ∃ filter, s.filters o = some filter ∧ s.InRange o ∧
      feed s o =
        { filters :=
            Function.update s.filters o (some (sample filter (window 4 s.payload o.toNat)).1)
          payload :=
            patch 4 s.payload o.toNat (sample filter (window 4 s.payload o.toNat)).2
          any := true } := by
  cases hFilter : s.filters o with
  | none =>
    refine Or.inl ⟨?_, by rw [feed, hFilter]⟩
    rintro ⟨hSome, -⟩
    rw [hFilter] at hSome
    cases hSome
  | some filter =>
    by_cases hFits : o.toNat + 4 ≤ s.payload.length
    · refine Or.inr ⟨filter, rfl, ⟨by rw [hFilter]; rfl, hFits⟩, ?_⟩
      rw [feed, hFilter]
      exact if_pos hFits
    · refine Or.inl ⟨fun h => hFits h.2, ?_⟩
      rw [feed, hFilter]
      exact if_neg hFits

theorem feed_length (s : Sweep F) (o : UInt16) :
    (feed s o).payload.length = s.payload.length := by
  rcases feed_cases s o with ⟨-, hSame⟩ | ⟨filter, -, hRange, hFeed⟩
  · rw [hSame]
  · rw [hFeed]
    exact patch_length hRange.2 _

theorem feed_isSome (s : Sweep F) (o o' : UInt16) :
    ((feed s o).filters o').isSome = (s.filters o').isSome := by
  rcases feed_cases s o with ⟨-, hSame⟩ | ⟨filter, hFilter, -, hFeed⟩
  · rw [hSame]
  · rw [hFeed]
    dsimp only
    rcases eq_or_ne o' o with rfl | ho
    · rw [Function.update_self, hFilter]
      rfl
    · rw [Function.update_of_ne ho]

theorem feed_inRange (s : Sweep F) (o o' : UInt16) :
    (feed s o).InRange o' ↔ s.InRange o' := by
  rw [Sweep.InRange, feed_isSome, feed_length, Sweep.InRange]

theorem feed_any (s : Sweep F) (o : UInt16) :
    (feed s o).any = true ↔ s.any = true ∨ s.InRange o := by
  rcases feed_cases s o with ⟨hOut, hSame⟩ | ⟨filter, -, hRange, hFeed⟩
  · rw [hSame, or_iff_left hOut]
  · rw [hFeed]
    exact ⟨fun _ => Or.inr hRange, fun _ => rfl⟩

theorem feed_outside (s : Sweep F) (o : UInt16) {i : Nat}
    (h : s.InRange o → i < o.toNat ∨ o.toNat + 4 ≤ i) :
    (feed s o).payload[i]? = s.payload[i]? := by
  rcases feed_cases s o with ⟨-, hSame⟩ | ⟨filter, -, hRange, hFeed⟩
  · rw [hSame]
  · rw [hFeed]
    exact getElem?_patch_outside hRange.2 _ (h hRange)

theorem feed_apart (s : Sweep F) {o o' : UInt16} (h : Apart o o') :
    (feed s o).filters o' = s.filters o' ∧
      window 4 (feed s o).payload o'.toNat = window 4 s.payload o'.toNat := by
  have hNe : o' ≠ o := by
    rintro rfl
    rcases h with h | h <;> omega
  rcases feed_cases s o with ⟨-, hSame⟩ | ⟨filter, -, hRange, hFeed⟩
  · rw [hSame]
    exact ⟨rfl, rfl⟩
  · rw [hFeed]
    exact ⟨Function.update_of_ne hNe _ _, window_patch_disjoint hRange.2 _ h⟩

theorem feeds_length (list : List UInt16) (s : Sweep F) :
    (list.foldl feed s).payload.length = s.payload.length := by
  induction list generalizing s with
  | nil => rfl
  | cons o rest ih => rw [List.foldl_cons, ih, feed_length]

theorem feeds_any (list : List UInt16) (s : Sweep F) :
    (list.foldl feed s).any = true ↔ s.any = true ∨ ∃ o ∈ list, s.InRange o := by
  induction list generalizing s with
  | nil => simp
  | cons o rest ih =>
    rw [List.foldl_cons, ih, feed_any]
    simp only [feed_inRange, List.mem_cons, exists_eq_or_imp, or_assoc]

theorem feeds_outside (list : List UInt16) (s : Sweep F) {i : Nat}
    (h : ∀ o ∈ list, s.InRange o → i < o.toNat ∨ o.toNat + 4 ≤ i) :
    (list.foldl feed s).payload[i]? = s.payload[i]? := by
  induction list generalizing s with
  | nil => rfl
  | cons o rest ih =>
    have hRest : ∀ o' ∈ rest, (feed s o).InRange o' → i < o'.toNat ∨ o'.toNat + 4 ≤ i := by
      intro o' hMem hRange
      exact h o' (List.mem_cons_of_mem o hMem) ((feed_inRange s o o').mp hRange)
    rw [List.foldl_cons, ih (feed s o) hRest, feed_outside s o (h o List.mem_cons_self)]

theorem feeds_apart (list : List UInt16) (s : Sweep F) {o' : UInt16}
    (h : ∀ o ∈ list, Apart o o') :
    (list.foldl feed s).filters o' = s.filters o' ∧
      window 4 (list.foldl feed s).payload o'.toNat = window 4 s.payload o'.toNat := by
  induction list generalizing s with
  | nil => exact ⟨rfl, rfl⟩
  | cons o rest ih =>
    obtain ⟨hFilter, hWindow⟩ := ih (feed s o) fun o'' hMem => h o'' (List.mem_cons_of_mem o hMem)
    obtain ⟨hFilter', hWindow'⟩ := feed_apart s (h o List.mem_cons_self)
    exact ⟨hFilter.trans hFilter', hWindow.trans hWindow'⟩

section Sweep

variable (filters : UInt16 → Option (SignalFilter F)) (payload : Bytes)

theorem sweep_length : (sweep filters payload).payload.length = payload.length :=
  feeds_length _ _

theorem sweep_any : (sweep filters payload).any = true ↔
    ∃ o, (filters o).isSome ∧ o.toNat + 4 ≤ payload.length := by
  rw [sweep, feeds_any, or_iff_right Bool.false_ne_true]
  constructor
  · rintro ⟨o, -, hRange⟩
    exact ⟨o, hRange⟩
  · rintro ⟨o, hRange⟩
    exact ⟨o, (mem_mapped filters).mpr hRange.1, hRange⟩

theorem sweep_outside {i : Nat}
    (h : ∀ o, (filters o).isSome → o.toNat + 4 ≤ payload.length →
      i < o.toNat ∨ o.toNat + 4 ≤ i) :
    (sweep filters payload).payload[i]? = payload[i]? :=
  feeds_outside _ _ fun o _ hRange => h o hRange.1 hRange.2

theorem sweep_signal {o : UInt16} {filter : SignalFilter F} (hFilter : filters o = some filter)
    (hApart : ∀ o', (filters o').isSome → o' ≠ o → Apart o' o) :
    let s := sweep filters payload
    if o.toNat + 4 ≤ payload.length then
      s.filters o = some (sample filter (window 4 payload o.toNat)).1 ∧
        window 4 s.payload o.toNat = (sample filter (window 4 payload o.toNat)).2
    else s.filters o = some filter := by
  have hMem : o ∈ mapped filters := (mem_mapped filters).mpr (by rw [hFilter]; rfl)
  obtain ⟨left, right, hSplit⟩ := List.append_of_mem hMem
  have hNodup := mapped_nodup filters
  rw [hSplit, List.nodup_middle, List.nodup_cons, List.mem_append, not_or] at hNodup
  obtain ⟨⟨hLeft, hRight⟩, -⟩ := hNodup
  have hOthers : ∀ o' ∈ left ++ right, Apart o' o := by
    intro o' hMem'
    refine hApart o' ((mem_mapped filters).mp ?_) ?_
    · rw [hSplit]
      exact (List.mem_append.mp hMem').elim (List.mem_append_left _)
        fun h => List.mem_append_right _ (List.mem_cons_of_mem o h)
    · rintro rfl
      exact (List.mem_append.mp hMem').elim hLeft hRight
  have hApartLeft : ∀ o' ∈ left, Apart o' o := fun o' h =>
    hOthers o' (List.mem_append_left right h)
  have hApartRight : ∀ o' ∈ right, Apart o' o := fun o' h =>
    hOthers o' (List.mem_append_right left h)
  obtain ⟨hFilterLeft, hWindowLeft⟩ := feeds_apart left ⟨filters, payload, false⟩ hApartLeft
  have hLength := feeds_length left (⟨filters, payload, false⟩ : Sweep F)
  rw [sweep, hSplit, List.foldl_append, List.foldl_cons]
  obtain ⟨before, hBefore⟩ : ∃ before, left.foldl feed ⟨filters, payload, false⟩ = before :=
    ⟨_, rfl⟩
  rw [hBefore] at hFilterLeft hWindowLeft hLength ⊢
  dsimp only at hFilterLeft hWindowLeft hLength ⊢
  obtain ⟨hFilterRight, hWindowRight⟩ := feeds_apart right (feed before o) hApartRight
  rw [hFilterRight, hWindowRight]
  rcases feed_cases before o with ⟨hOut, hSame⟩ | ⟨own, hOwn, hRange, hFeed⟩
  · have hShort : ¬ o.toNat + 4 ≤ payload.length := fun hFits =>
      hOut ⟨by rw [hFilterLeft, hFilter]; rfl, hLength ▸ hFits⟩
    rw [if_neg hShort, hSame, hFilterLeft, hFilter]
  · rw [hFilterLeft, hFilter] at hOwn
    obtain rfl := Option.some.inj hOwn
    rw [if_pos (hLength ▸ hRange.2), hFeed, ← hWindowLeft]
    exact ⟨Function.update_self _ _ _, window_patch_same hRange.2 (sample_bits_lt _ _)⟩

end Sweep

end SignalMap

end VsomeipDart
