import VsomeipDart.RingBufferMemory

/-! # What happens before what in the ring buffer

`Ordered` counts the published and the popped entries. A store of `head_` carries the writes of the entries
that it publishes, and a store of `tail_` the reads of the slots that it frees; a load that lags behind
only shows fewer of them.
-/

namespace VsomeipDart
set_option autoImplicit false

open CircularIndex ReleaseAcquire

namespace AtomicRing

variable {T : Type} (c : Capacity)

/-- The stores of `head_` and `tail_` after `a` entries were published and `p` of them were popped. -/
structure Ordered (m : RingMemory T) (a p : Nat) : Prop where
  wf : m.Wf
  popped_le : p ≤ a
  heads : (m.stores .head).map Store.value = (List.range (a + 1)).map c.slot
  tails : (m.stores .tail).map Store.value = (List.range (p + 1)).map c.slot
  ownHead : m.seen .producer .head = a
  ownTail : m.seen .consumer .tail = p
  /-- the consumer saw the entries that it popped, and the producer enough pops for those it published -/
  seenHead : p ≤ m.seen .consumer .head
  seenTail : a < m.seen .producer .tail + c.n.toNat
  writes : ∀ k st, (m.stores .head)[k]? = some st → ∀ i, p ≤ i → i < k →
    m.written (c.slot i) .producer ≤ st.clock .producer
  reads : ∀ k st, (m.stores .tail)[k]? = some st → ∀ i, a ≤ i + c.n.toNat → i < k →
    m.read (c.slot i) .consumer ≤ st.clock .consumer
  unread : ∀ j, a ≤ j → j < c.n.toNat → m.read (c.slot j) .consumer = 0
  others : ∀ b, m.written b .consumer = 0 ∧ m.read b .producer = 0

variable {c} {m : RingMemory T} {a p : Nat}

theorem Ordered.initial (buf : UInt32 → T) : Ordered c (.initial (fun _ => 0) buf) 0 0 where
  wf := .initial _ _
  popped_le := le_rfl
  heads := by simp [Memory.initial]
  tails := by simp [Memory.initial]
  ownHead := rfl
  ownTail := rfl
  seenHead := le_rfl
  seenTail := by
    have hTwo := c.two_le_toNat
    simp only [Memory.initial]
    omega
  writes k st hStore i _ hLt := by
    have hLength := (List.getElem?_eq_some_iff.mp hStore).1
    simp only [Memory.initial, List.length_singleton] at hLength
    omega
  reads k st hStore i _ hLt := by
    have hLength := (List.getElem?_eq_some_iff.mp hStore).1
    simp only [Memory.initial, List.length_singleton] at hLength
    omega
  unread _ _ _ := rfl
  others _ := ⟨rfl, rfl⟩

namespace Ordered

variable (h : Ordered c m a p)
include h

theorem length_heads : (m.stores .head).length = a + 1 := by
  have hLength := congrArg List.length h.heads
  simpa using hLength

theorem length_tails : (m.stores .tail).length = p + 1 := by
  have hLength := congrArg List.length h.tails
  simpa using hLength

theorem head_value {k : Nat} {st : Store Thread UInt32} (hStore : (m.stores .head)[k]? = some st) :
    k ≤ a ∧ st.value = c.slot k := by
  have hLt := (List.getElem?_eq_some_iff.mp hStore).1
  rw [h.length_heads] at hLt
  have hValue : ((m.stores .head).map Store.value)[k]? = some st.value := by
    rw [List.getElem?_map, hStore, Option.map_some]
  rw [h.heads, List.getElem?_map, List.getElem?_range hLt] at hValue
  exact ⟨Nat.lt_succ_iff.mp hLt, (Option.some.inj hValue).symm⟩

theorem tail_value {k : Nat} {st : Store Thread UInt32} (hStore : (m.stores .tail)[k]? = some st) :
    k ≤ p ∧ st.value = c.slot k := by
  have hLt := (List.getElem?_eq_some_iff.mp hStore).1
  rw [h.length_tails] at hLt
  have hValue : ((m.stores .tail).map Store.value)[k]? = some st.value := by
    rw [List.getElem?_map, hStore, Option.map_some]
  rw [h.tails, List.getElem?_map, List.getElem?_range hLt] at hValue
  exact ⟨Nat.lt_succ_iff.mp hLt, (Option.some.inj hValue).symm⟩

theorem seenTail_le : m.seen .producer .tail ≤ p := by
  have hLt := h.wf.seen_lt .producer .tail
  rw [h.length_tails] at hLt
  exact Nat.lt_succ_iff.mp hLt

theorem seenHead_le : m.seen .consumer .head ≤ a := by
  have hLt := h.wf.seen_lt .consumer .head
  rw [h.length_heads] at hLt
  exact Nat.lt_succ_iff.mp hLt

/-- A load keeps everything: it only shows more to its thread. -/
theorem seeing (acquire : Bool) {t : Thread} {index : RingIndex} {k : Nat} {st : Store Thread UInt32}
    (hSeen : m.seen t index ≤ k) (hStore : (m.stores index)[k]? = some st) :
    Ordered c (m.seeing acquire t index k st) a p := by
  have hMono : ∀ u loc, m.seen u loc ≤ (m.seeing acquire t index k st).seen u loc := by
    intro u loc
    by_cases hSame : u = t ∧ loc = index
    · obtain ⟨rfl, rfl⟩ := hSame
      rwa [Memory.seen_seeing_self]
    · rw [Memory.seen_seeing_of_ne (not_and_or.mp hSame)]
  have hWf : (m.seeing acquire t index k st).Wf := h.wf.seeing hStore
  have hOwnHead := hWf.seen_lt .producer .head
  have hOwnTail := hWf.seen_lt .consumer .tail
  have hHeads : ((m.seeing acquire t index k st).stores .head).length = a + 1 := h.length_heads
  have hTails : ((m.seeing acquire t index k st).stores .tail).length = p + 1 := h.length_tails
  exact { h with
    wf := hWf
    ownHead := by
      have hLe := hMono .producer .head
      rw [h.ownHead] at hLe
      omega
    ownTail := by
      have hLe := hMono .consumer .tail
      rw [h.ownTail] at hLe
      omega
    seenHead := h.seenHead.trans (hMono .consumer .head)
    seenTail := h.seenTail.trans_le (Nat.add_le_add_right (hMono .producer .tail) _) }

theorem writing (hFree : a + 1 < p + c.n.toNat) (entry : T) :
    Ordered c (m.writing .producer (c.slot a) entry) a p :=
  { h with
    wf := h.wf.writing entry
    writes := fun k st hStore i hLe hLt => by
      have hPublished := (h.head_value hStore).1
      have hNe : c.slot i ≠ c.slot a := fun hEq => by
        have hInj := (c.slot_inj (by omega) (by omega)).mp hEq
        omega
      simp only [Memory.writing, Function.update_of_ne hNe]
      exact h.writes k st hStore i hLe hLt
    others := fun b => by
      refine ⟨?_, (h.others b).2⟩
      rcases eq_or_ne b (c.slot a) with rfl | hOther
      · simp only [Memory.writing, Function.update_self,
          Function.update_of_ne (show Thread.consumer ≠ .producer by decide)]
        exact (h.others _).1
      · simp only [Memory.writing, Function.update_of_ne hOther]
        exact (h.others b).1 }

theorem reading (hNext : p < a) : Ordered c (m.reading .consumer (c.slot p)) a p := by
  have hRoom := h.seenTail.trans_le (Nat.add_le_add_right h.seenTail_le _)
  exact { h with
    wf := h.wf.reading
    reads := fun k st hStore i hLe hLt => by
      have hFreed := (h.tail_value hStore).1
      have hNe : c.slot i ≠ c.slot p := fun hEq => by
        have hInj := (c.slot_inj (by omega) (by omega)).mp hEq
        omega
      simp only [Memory.reading, Function.update_of_ne hNe]
      exact h.reads k st hStore i hLe hLt
    unread := fun j hLe hLt => by
      have hNe : c.slot j ≠ c.slot p := fun hEq => by
        have hInj := (c.slot_inj (by omega) (by omega)).mp hEq.symm
        omega
      simp only [Memory.reading, Function.update_of_ne hNe]
      exact h.unread j hLe hLt
    others := fun b => by
      refine ⟨(h.others b).1, ?_⟩
      rcases eq_or_ne b (c.slot p) with rfl | hOther
      · simp only [Memory.reading, Function.update_self,
          Function.update_of_ne (show Thread.producer ≠ .consumer by decide)]
        exact (h.others _).2
      · simp only [Memory.reading, Function.update_of_ne hOther]
        exact (h.others b).2 }

theorem storeHead (hRoom : a + 1 < m.seen .producer .tail + c.n.toNat) :
    Ordered c (m.store true .producer .head (c.slot (a + 1))) (a + 1) p := by
  have hTail : RingIndex.tail ≠ .head := by decide
  have hConsumer : Thread.consumer ≠ .producer := by decide
  exact {
    wf := h.wf.store true _
    popped_le := h.popped_le.trans (Nat.le_succ a)
    heads := by
      rw [Memory.stores_store_self, List.map_append, h.heads, List.range_succ (n := a + 1),
        List.map_append]
      rfl
    tails := by
      rw [Memory.stores_store_of_ne hTail]
      exact h.tails
    ownHead := by rw [Memory.seen_store_self, h.length_heads]
    ownTail := by
      rw [Memory.seen_store_of_ne (.inl hConsumer)]
      exact h.ownTail
    seenHead := by
      rw [Memory.seen_store_of_ne (.inl hConsumer)]
      exact h.seenHead
    seenTail := by
      rw [Memory.seen_store_of_ne (.inr hTail)]
      exact hRoom
    writes := fun k st hStore i hLe hLt => by
      rw [Memory.stores_store_self] at hStore
      rcases Nat.lt_or_ge k (m.stores .head).length with hOld | hNew
      · rw [List.getElem?_append_left hOld] at hStore
        exact h.writes k st hStore i hLe hLt
      · -- the new store carries the clock of the producer, and all writes are its own
        rw [List.getElem?_append_right hNew, List.getElem?_singleton] at hStore
        split at hStore
        · cases hStore
          exact (h.wf.written_le _ .producer).trans (Memory.clock_le_tick m .producer .producer .producer)
        · cases hStore
    reads := fun k st hStore i hLe hLt => by
      rw [Memory.stores_store_of_ne hTail] at hStore
      exact h.reads k st hStore i (by omega) hLt
    unread := fun j hLe hLt => h.unread j (by omega) hLt
    others := h.others }

theorem storeTail (hSeen : p < m.seen .consumer .head) :
    Ordered c (m.store true .consumer .tail (c.slot (p + 1))) a (p + 1) := by
  have hHead : RingIndex.head ≠ .tail := by decide
  have hProducer : Thread.producer ≠ .consumer := by decide
  exact {
    wf := h.wf.store true _
    popped_le := hSeen.trans_le h.seenHead_le
    heads := by
      rw [Memory.stores_store_of_ne hHead]
      exact h.heads
    tails := by
      rw [Memory.stores_store_self, List.map_append, h.tails, List.range_succ (n := p + 1),
        List.map_append]
      rfl
    ownHead := by
      rw [Memory.seen_store_of_ne (.inl hProducer)]
      exact h.ownHead
    ownTail := by rw [Memory.seen_store_self, h.length_tails]
    seenHead := by
      rw [Memory.seen_store_of_ne (.inr hHead)]
      exact hSeen
    seenTail := by
      rw [Memory.seen_store_of_ne (.inl hProducer)]
      exact h.seenTail
    writes := fun k st hStore i hLe hLt => by
      rw [Memory.stores_store_of_ne hHead] at hStore
      exact h.writes k st hStore i (by omega) hLt
    reads := fun k st hStore i hLe hLt => by
      rw [Memory.stores_store_self] at hStore
      rcases Nat.lt_or_ge k (m.stores .tail).length with hOld | hNew
      · rw [List.getElem?_append_left hOld] at hStore
        exact h.reads k st hStore i hLe hLt
      · rw [List.getElem?_append_right hNew, List.getElem?_singleton] at hStore
        split at hStore
        · cases hStore
          exact (h.wf.read_le _ .consumer).trans (Memory.clock_le_tick m .consumer .consumer .consumer)
        · cases hStore
    unread := h.unread
    others := h.others }

/-- What `push` compares: a loaded tail, against the index behind the next one. -/
theorem full_iff {k : Nat} {st : Store Thread UInt32} (hStore : (m.stores .tail)[k]? = some st)
    (hSeen : m.seen .producer .tail ≤ k) : c.slot (a + 1) = st.value ↔ a + 1 = k + c.n.toNat := by
  obtain ⟨hLe, hValue⟩ := h.tail_value hStore
  have hRoom := h.seenTail
  have hPopped := h.popped_le
  rw [hValue]
  constructor
  · intro hEq
    by_contra hNot
    have hInj := (c.slot_inj (i := k) (j := a + 1) (by omega) (by omega)).mp hEq.symm
    omega
  · intro hEq
    rw [hEq, c.slot_add_n]

/-- What `pop` compares: a loaded head, against the next index. -/
theorem empty_iff {k : Nat} {st : Store Thread UInt32} (hStore : (m.stores .head)[k]? = some st)
    (hSeen : m.seen .consumer .head ≤ k) : c.slot p = st.value ↔ k = p := by
  obtain ⟨hLe, hValue⟩ := h.head_value hStore
  have hRoom := h.seenTail.trans_le (Nat.add_le_add_right h.seenTail_le _)
  have hPopped := h.seenHead
  rw [hValue, c.slot_inj (by omega) (by omega)]
  exact eq_comm

/-- The slot behind the entries is free to be written once an acquire load has shown the pop that freed
it. -/
theorem free_after {k : Nat} {st : Store Thread UInt32} (hStore : (m.stores .tail)[k]? = some st)
    (hRoom : a + 1 < k + c.n.toNat) : m.read (c.slot a) .consumer ≤ st.clock .consumer := by
  rcases Nat.lt_or_ge a c.n.toNat with hFirst | hAgain
  · rw [h.unread a le_rfl hFirst]
    exact Nat.zero_le _
  · obtain ⟨i, rfl⟩ := Nat.exists_eq_add_of_le' hAgain
    rw [c.slot_add_n]
    exact h.reads k st hStore i le_rfl (by omega)

end Ordered

end AtomicRing

end VsomeipDart
