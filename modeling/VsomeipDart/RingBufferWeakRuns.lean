import VsomeipDart.RingBufferOrder

/-! # The ring buffer is a queue on release/acquire memory as well

Stale indices only make a thread refuse more: no access of a slot is a data race, and what is popped is
what was pushed. With loads that never lag, the steps are those of the sequentially consistent machine.
-/

namespace VsomeipDart
set_option autoImplicit false

open CircularIndex ReleaseAcquire

namespace AtomicRing

variable {T : Type} (c : Capacity)

/-- What the producer has seen where it is in `push`. -/
def PushSeen (m : RingMemory T) (push : Push T) (a : Nat) : Prop :=
  match push with
  | .copySlot _ _ _ => a + 1 < m.seen .producer .tail + c.n.toNat ∧
      m.read (c.slot a) .consumer ≤ m.clock .producer .consumer
  | .storeHead _ _ => a + 1 < m.seen .producer .tail + c.n.toNat
  | _ => True

def PopSeen (m : RingMemory T) (pop : Pop T) (p : Nat) : Prop :=
  match pop with
  | .copySlot _ => p < m.seen .consumer .head ∧
      m.written (c.slot p) .producer ≤ m.clock .consumer .producer
  | .storeTail _ _ => p < m.seen .consumer .head
  | _ => True

structure Inv (s : AtomicRing T) (accepted popped : List T) : Prop where
  ring : RingBuffer.Inv c s.view accepted popped
  ordered : Ordered c s.memory accepted.length popped.length
  push : PushSeen c s.memory s.push accepted.length
  pop : PopSeen c s.memory s.pop popped.length

variable {c} {s : AtomicRing T} {A P : List T}

theorem latest_head {m : RingMemory T} {a p : Nat} (h : Ordered c m a p) : latest m .head = c.slot a := by
  rw [latest, ← List.getLast?_map, h.heads, List.range_succ, List.map_append, List.map_singleton,
    List.getLast?_append_of_ne_nil _ (List.cons_ne_nil _ _)]
  rfl

theorem latest_tail {m : RingMemory T} {a p : Nat} (h : Ordered c m a p) : latest m .tail = c.slot p := by
  rw [latest, ← List.getLast?_map, h.tails, List.range_succ, List.map_append, List.map_singleton,
    List.getLast?_append_of_ne_nil _ (List.cons_ne_nil _ _)]
  rfl

theorem Inv.create (buf : UInt32 → T) (pushes : List T) (pops : Nat) :
    Inv c (create buf pushes pops) [] [] where
  ring := .create buf pushes pops
  ordered := .initial buf
  push := trivial
  pop := trivial

section Frames

variable {m m' : RingMemory T} {a p : Nat}

/-- What the consumer has seen stays seen, unless the slot that it is about to read is written. -/
theorem PopSeen.mono {pop : Pop T} (h : PopSeen c m pop p)
    (hSeen : m.seen .consumer .head ≤ m'.seen .consumer .head)
    (hClock : m.clock .consumer .producer ≤ m'.clock .consumer .producer)
    (hWritten : p < m.seen .consumer .head →
      m'.written (c.slot p) .producer = m.written (c.slot p) .producer) : PopSeen c m' pop p := by
  cases pop with
  | copySlot tail =>
    obtain ⟨hNext, hKnown⟩ := h
    exact ⟨hNext.trans_le hSeen, (hWritten hNext).trans_le (hKnown.trans hClock)⟩
  | storeTail tail out => exact Nat.lt_of_lt_of_le h hSeen
  | _ => trivial

theorem PushSeen.mono {push : Push T} (h : PushSeen c m push a)
    (hSeen : m.seen .producer .tail ≤ m'.seen .producer .tail)
    (hClock : m.clock .producer .consumer ≤ m'.clock .producer .consumer)
    (hRead : a + 1 < m.seen .producer .tail + c.n.toNat →
      m'.read (c.slot a) .consumer = m.read (c.slot a) .consumer) : PushSeen c m' push a := by
  cases push with
  | copySlot entry head next =>
    obtain ⟨hRoom, hKnown⟩ := h
    exact ⟨by omega, (hRead hRoom).trans_le (hKnown.trans hClock)⟩
  | storeHead entry next =>
    simp only [PushSeen] at h ⊢
    omega
  | _ => trivial

theorem PopSeen.seeing {pop : Pop T} (h : PopSeen c m pop p) (acquire : Bool) (index : RingIndex) (k : Nat)
    (st : Store Thread UInt32) : PopSeen c (m.seeing acquire .producer index k st) pop p :=
  h.mono (Memory.seen_seeing_of_ne (.inl (by decide)) acquire k st).ge (Memory.clock_seeing_le acquire k st _ _)
    fun _ => rfl

theorem PushSeen.seeing {push : Push T} (h : PushSeen c m push a) (acquire : Bool) (index : RingIndex)
    (k : Nat) (st : Store Thread UInt32) : PushSeen c (m.seeing acquire .consumer index k st) push a :=
  h.mono (Memory.seen_seeing_of_ne (.inl (by decide)) acquire k st).ge (Memory.clock_seeing_le acquire k st _ _)
    fun _ => rfl

end Frames

/-- A turn has a result and keeps the invariant; it is one of the sequentially consistent machine if its
load does not lag. -/
def Turns (c : Capacity) (A P : List T) (lag : Nat) (result : Option (AtomicRing T × Option (Return T)))
    (latestResult : RingBuffer T × Option (Return T)) : Prop :=
  ∃ s o, result = some (s, o) ∧ Inv c s (A ++ accepted [o]) (P ++ popped [o]) ∧
    (lag = 0 → latestResult = (s.view, o))

section Push

variable {m : RingMemory T} {pop : Pop T} {pushes : List T} {pops : Nat}

theorem Inv.begin_push {entry : T} (h : Inv c ⟨m, .idle, pop, entry :: pushes, pops⟩ A P) (lag : Nat) :
    Turns c A P lag (stepPush c ⟨m, .idle, pop, entry :: pushes, pops⟩ lag)
      (RingBuffer.stepPush c (view ⟨m, .idle, pop, entry :: pushes, pops⟩)) := by
  have hOrdered : Ordered c m A.length P.length := h.ordered
  obtain ⟨k, st, hSeen, -, hStore, hLoad⟩ := hOrdered.wf.load false .producer .head lag
  obtain ⟨hLe, hValue⟩ := hOrdered.head_value hStore
  have hOwn := hOrdered.ownHead
  obtain rfl : k = A.length := by omega
  have hView : RingBuffer.stepPush c (view ⟨m, .idle, pop, entry :: pushes, pops⟩) =
      (view ⟨m.seeing false .producer .head A.length st, .loadTail entry st.value
        ((st.value + 1) &&& c.mask), pop, pushes, pops⟩, none) := by
    rw [hValue, ← latest_head hOrdered]
    rfl
  have hRing := h.ring.stepPush
  rw [hView] at hRing
  refine ⟨_, none, by simp only [stepPush, hLoad]; rfl, ?_, fun _ => hView⟩
  rw [RingBuffer.accepted_none, RingBuffer.popped_none, List.append_nil, List.append_nil] at *
  exact ⟨hRing, hOrdered.seeing _ hSeen hStore, trivial, h.pop.seeing _ _ _ _⟩

theorem Inv.load_tail {entry : T} {own next : UInt32}
    (h : Inv c ⟨m, .loadTail entry own next, pop, pushes, pops⟩ A P) (lag : Nat) :
    Turns c A P lag (stepPush c ⟨m, .loadTail entry own next, pop, pushes, pops⟩ lag)
      (RingBuffer.stepPush c (view ⟨m, .loadTail entry own next, pop, pushes, pops⟩)) := by
  have hOrdered : Ordered c m A.length P.length := h.ordered
  obtain ⟨rfl, rfl⟩ := h.ring.push
  obtain ⟨k, st, hSeen, hFresh, hStore, hLoad⟩ := hOrdered.wf.load true .producer .tail lag
  obtain ⟨hBehind, hValue⟩ := hOrdered.tail_value hStore
  have hLatest : lag = 0 → st.value = latest m .tail := fun hLag => by
    have hLast := hFresh hLag
    rw [hOrdered.length_tails] at hLast
    rw [latest_tail hOrdered, hValue, Nat.succ.inj hLast]
  have hFull := hOrdered.full_iff hStore hSeen
  have hRoom := hOrdered.seenTail
  by_cases hEq : c.slot (A.length + 1) = st.value
  · refine ⟨⟨m.seeing true .producer .tail k st, .idle, pop, pushes, pops⟩, some (.full entry), ?_, ?_,
      fun hLag => if_pos (hEq.trans (hLatest hLag))⟩
    · simp only [stepPush, hLoad, Option.bind_eq_bind, Option.bind_some, if_pos hEq]
      rfl
    · rw [RingBuffer.accepted_full, show popped [some (.full entry)] = [] from rfl, List.append_nil,
        List.append_nil]
      exact ⟨{ h.ring with push := trivial }, hOrdered.seeing _ hSeen hStore, trivial, h.pop.seeing _ _ _ _⟩
  · have hLess : A.length + 1 < k + c.n.toNat := by
      have hNot := mt hFull.mpr hEq
      omega
    refine ⟨⟨m.seeing true .producer .tail k st, .copySlot entry (c.slot A.length) (c.slot (A.length + 1)),
      pop, pushes, pops⟩, none, ?_, ?_, fun hLag => if_neg fun hOther => hEq (hOther.trans (hLatest hLag).symm)⟩
    · simp only [stepPush, hLoad, Option.bind_eq_bind, Option.bind_some, if_neg hEq]
      rfl
    · rw [RingBuffer.accepted_none, RingBuffer.popped_none, List.append_nil, List.append_nil]
      refine ⟨{ h.ring with push := ⟨rfl, rfl, by omega⟩ }, hOrdered.seeing _ hSeen hStore, ⟨?_, ?_⟩,
        h.pop.seeing _ _ _ _⟩
      · rwa [Memory.seen_seeing_self]
      · rw [Memory.clock_seeing]
        exact (hOrdered.free_after hStore hLess).trans (le_max_right _ _)

theorem Inv.write_slot {entry : T} {own next : UInt32}
    (h : Inv c ⟨m, .copySlot entry own next, pop, pushes, pops⟩ A P) (lag : Nat) :
    Turns c A P lag (stepPush c ⟨m, .copySlot entry own next, pop, pushes, pops⟩ lag)
      (RingBuffer.stepPush c (view ⟨m, .copySlot entry own next, pop, pushes, pops⟩)) := by
  have hOrdered : Ordered c m A.length P.length := h.ordered
  obtain ⟨rfl, rfl, hFree⟩ := h.ring.push
  obtain ⟨hRoom, hKnown⟩ := h.push
  -- the last read of the slot happens before this write
  have hWrite : m.writePlain .producer (c.slot A.length) entry =
      some (m.writing .producer (c.slot A.length) entry) := by
    refine if_pos fun u => ?_
    cases u with
    | producer =>
      exact ⟨hOrdered.wf.written_le _ .producer, (hOrdered.others _).2.trans_le (Nat.zero_le _)⟩
    | consumer => exact ⟨(hOrdered.others _).1.trans_le (Nat.zero_le _), hKnown⟩
  have hRing : RingBuffer.Inv c (view ⟨m.writing .producer (c.slot A.length) entry,
      .storeHead entry (c.slot (A.length + 1)), pop, pushes, pops⟩) (A ++ []) P := h.ring.stepPush
  refine ⟨_, none, by simp only [stepPush, hWrite]; rfl, ?_, fun _ => rfl⟩
  rw [RingBuffer.accepted_none, RingBuffer.popped_none, List.append_nil, List.append_nil]
  rw [List.append_nil] at hRing
  refine ⟨hRing, hOrdered.writing hFree entry, hRoom, h.pop.mono le_rfl
    (Memory.clock_le_tick m .producer .consumer .producer) fun hNext => ?_⟩
  have hNe : c.slot P.length ≠ c.slot A.length := fun hSame => by
    have hSeenHead := hOrdered.seenHead_le
    have hInj := (c.slot_inj hOrdered.popped_le (by omega)).mp hSame
    dsimp only at hNext
    omega
  simp only [Memory.writing, Function.update_of_ne hNe]
  rfl

theorem Inv.store_head {entry : T} {next : UInt32}
    (h : Inv c ⟨m, .storeHead entry next, pop, pushes, pops⟩ A P) (lag : Nat) :
    Turns c A P lag (stepPush c ⟨m, .storeHead entry next, pop, pushes, pops⟩ lag)
      (RingBuffer.stepPush c (view ⟨m, .storeHead entry next, pop, pushes, pops⟩)) := by
  have hOrdered : Ordered c m A.length P.length := h.ordered
  obtain ⟨rfl, hFree, -⟩ := h.ring.push
  have hLength : (A ++ [entry]).length = A.length + 1 := List.length_append
  have hView : RingBuffer.stepPush c (view ⟨m, .storeHead entry (c.slot (A.length + 1)), pop, pushes, pops⟩) =
      (view ⟨m.store true .producer .head (c.slot (A.length + 1)), .idle, pop, pushes, pops⟩,
        some (.pushed entry)) := by
    simp only [RingBuffer.stepPush, view, latest_store, latest_store_of_ne (show RingIndex.tail ≠ .head by decide)]
    rfl
  have hRing := h.ring.stepPush
  rw [hView] at hRing
  refine ⟨_, _, rfl, ?_, fun _ => hView⟩
  rw [RingBuffer.accepted_pushed, show popped [some (.pushed entry)] = [] from rfl, List.append_nil]
  refine ⟨hRing, ?_, trivial, h.pop.mono (Memory.seen_store_of_ne (.inl (by decide)) true _).ge
    (Memory.clock_le_tick m .producer .consumer .producer) fun _ => rfl⟩
  rw [hLength]
  exact hOrdered.storeHead h.push

end Push

theorem Inv.stepPush (h : Inv c s A P) (lag : Nat) :
    Turns c A P lag (s.stepPush c lag) (s.view.stepPush c) := by
  obtain ⟨m, push, pop, pushes, pops⟩ := s
  cases push with
  | idle =>
    cases pushes with
    | nil =>
      refine ⟨_, none, rfl, ?_, fun _ => rfl⟩
      rwa [RingBuffer.accepted_none, RingBuffer.popped_none, List.append_nil, List.append_nil]
    | cons entry rest => exact h.begin_push lag
  | loadTail entry own next => exact h.load_tail lag
  | copySlot entry own next => exact h.write_slot lag
  | storeHead entry next => exact h.store_head lag

section Pop

variable {m : RingMemory T} {push : Push T} {pushes : List T} {pops : Nat}

theorem Inv.begin_pop (h : Inv c ⟨m, push, .idle, pushes, pops + 1⟩ A P) (lag : Nat) :
    Turns c A P lag (stepPop c ⟨m, push, .idle, pushes, pops + 1⟩ lag)
      (RingBuffer.stepPop c (view ⟨m, push, .idle, pushes, pops + 1⟩)) := by
  have hOrdered : Ordered c m A.length P.length := h.ordered
  obtain ⟨k, st, hSeen, -, hStore, hLoad⟩ := hOrdered.wf.load false .consumer .tail lag
  obtain ⟨hLe, hValue⟩ := hOrdered.tail_value hStore
  have hOwn := hOrdered.ownTail
  obtain rfl : k = P.length := by omega
  have hView : RingBuffer.stepPop c (view ⟨m, push, .idle, pushes, pops + 1⟩) =
      (view ⟨m.seeing false .consumer .tail P.length st, push, .loadHead st.value, pushes, pops⟩, none) := by
    rw [hValue, ← latest_tail hOrdered]
    rfl
  have hRing := h.ring.stepPop
  rw [hView] at hRing
  refine ⟨_, none, by simp only [stepPop, hLoad]; rfl, ?_, fun _ => hView⟩
  rw [RingBuffer.accepted_none, RingBuffer.popped_none, List.append_nil, List.append_nil] at *
  exact ⟨hRing, hOrdered.seeing _ hSeen hStore, h.push.seeing _ _ _ _, trivial⟩

theorem Inv.load_head {own : UInt32} (h : Inv c ⟨m, push, .loadHead own, pushes, pops⟩ A P) (lag : Nat) :
    Turns c A P lag (stepPop c ⟨m, push, .loadHead own, pushes, pops⟩ lag)
      (RingBuffer.stepPop c (view ⟨m, push, .loadHead own, pushes, pops⟩)) := by
  have hOrdered : Ordered c m A.length P.length := h.ordered
  obtain rfl : own = c.slot P.length := h.ring.pop
  obtain ⟨k, st, hSeen, hFresh, hStore, hLoad⟩ := hOrdered.wf.load true .consumer .head lag
  obtain ⟨hBehind, hValue⟩ := hOrdered.head_value hStore
  have hLatest : lag = 0 → st.value = latest m .head := fun hLag => by
    have hLast := hFresh hLag
    rw [hOrdered.length_heads] at hLast
    rw [latest_head hOrdered, hValue, Nat.succ.inj hLast]
  have hEmpty := hOrdered.empty_iff hStore hSeen
  have hPopped := hOrdered.seenHead
  by_cases hEq : c.slot P.length = st.value
  · refine ⟨⟨m.seeing true .consumer .head k st, push, .idle, pushes, pops⟩, some .empty, ?_, ?_,
      fun hLag => if_pos (hEq.trans (hLatest hLag))⟩
    · simp only [stepPop, hLoad, Option.bind_eq_bind, Option.bind_some, if_pos hEq]
      rfl
    · rw [RingBuffer.popped_empty, show accepted [some (.empty : Return T)] = [] from rfl, List.append_nil,
        List.append_nil]
      exact ⟨{ h.ring with pop := trivial }, hOrdered.seeing _ hSeen hStore, h.push.seeing _ _ _ _, trivial⟩
  · have hMore : P.length < k := by
      have hNot := mt hEmpty.mpr hEq
      omega
    refine ⟨⟨m.seeing true .consumer .head k st, push, .copySlot (c.slot P.length), pushes, pops⟩, none, ?_,
      ?_, fun hLag => if_neg fun hOther => hEq (hOther.trans (hLatest hLag).symm)⟩
    · simp only [stepPop, hLoad, Option.bind_eq_bind, Option.bind_some, if_neg hEq]
      rfl
    · rw [RingBuffer.accepted_none, RingBuffer.popped_none, List.append_nil, List.append_nil]
      refine ⟨{ h.ring with pop := ⟨rfl, by omega⟩ }, hOrdered.seeing _ hSeen hStore, h.push.seeing _ _ _ _,
        ⟨?_, ?_⟩⟩
      · rwa [Memory.seen_seeing_self]
      · rw [Memory.clock_seeing]
        exact (hOrdered.writes k st hStore _ le_rfl hMore).trans (le_max_right _ _)

theorem Inv.read_slot {own : UInt32} (h : Inv c ⟨m, push, .copySlot own, pushes, pops⟩ A P) (lag : Nat) :
    Turns c A P lag (stepPop c ⟨m, push, .copySlot own, pushes, pops⟩ lag)
      (RingBuffer.stepPop c (view ⟨m, push, .copySlot own, pushes, pops⟩)) := by
  have hOrdered : Ordered c m A.length P.length := h.ordered
  obtain ⟨rfl, hNext⟩ := h.ring.pop
  obtain ⟨hSeen, hKnown⟩ := h.pop
  -- the write of the slot happens before this read
  have hRead : m.readPlain .consumer (c.slot P.length) =
      some (m.plain (c.slot P.length), m.reading .consumer (c.slot P.length)) := by
    refine if_pos fun u => ?_
    cases u with
    | producer => exact hKnown
    | consumer => exact (hOrdered.others _).1.trans_le (Nat.zero_le _)
  have hRing : RingBuffer.Inv c (view ⟨m.reading .consumer (c.slot P.length), push,
      .storeTail (c.slot P.length) (m.plain (c.slot P.length)), pushes, pops⟩) A (P ++ []) := h.ring.stepPop
  refine ⟨_, none, by simp only [stepPop, hRead]; rfl, ?_, fun _ => rfl⟩
  rw [RingBuffer.accepted_none, RingBuffer.popped_none, List.append_nil, List.append_nil]
  rw [List.append_nil] at hRing
  refine ⟨hRing, hOrdered.reading hNext, h.push.mono le_rfl
    (Memory.clock_le_tick m .consumer .producer .consumer) fun hRoom => ?_, hSeen⟩
  have hNe : c.slot A.length ≠ c.slot P.length := fun hSame => by
    have hSeenTail := hOrdered.seenTail_le
    dsimp only at hRoom
    have hInj := (c.slot_inj hOrdered.popped_le (by omega)).mp hSame.symm
    omega
  simp only [Memory.reading, Function.update_of_ne hNe]
  rfl

theorem Inv.store_tail {own : UInt32} {out : T}
    (h : Inv c ⟨m, push, .storeTail own out, pushes, pops⟩ A P) (lag : Nat) :
    Turns c A P lag (stepPop c ⟨m, push, .storeTail own out, pushes, pops⟩ lag)
      (RingBuffer.stepPop c (view ⟨m, push, .storeTail own out, pushes, pops⟩)) := by
  have hOrdered : Ordered c m A.length P.length := h.ordered
  obtain ⟨rfl, -⟩ := h.ring.pop
  have hLength : (P ++ [out]).length = P.length + 1 := List.length_append
  have hView : RingBuffer.stepPop c (view ⟨m, push, .storeTail (c.slot P.length) out, pushes, pops⟩) =
      (view ⟨m.store true .consumer .tail ((c.slot P.length + 1) &&& c.mask), push, .idle, pushes, pops⟩,
        some (.popped out)) := by
    simp only [RingBuffer.stepPop, view, latest_store, latest_store_of_ne (show RingIndex.head ≠ .tail by decide)]
    rfl
  have hRing := h.ring.stepPop
  rw [hView] at hRing
  refine ⟨_, _, rfl, ?_, fun _ => hView⟩
  rw [RingBuffer.popped_popped, show accepted [some (.popped out)] = [] from rfl, List.append_nil]
  refine ⟨hRing, ?_, h.push.mono (Memory.seen_store_of_ne (.inl (by decide)) true _).ge
    (Memory.clock_le_tick m .consumer .producer .consumer) fun _ => rfl, trivial⟩
  rw [hLength, c.slot_succ]
  exact hOrdered.storeTail h.pop

end Pop

theorem Inv.stepPop (h : Inv c s A P) (lag : Nat) :
    Turns c A P lag (s.stepPop c lag) (s.view.stepPop c) := by
  obtain ⟨m, push, pop, pushes, pops⟩ := s
  cases pop with
  | idle =>
    cases pops with
    | zero =>
      refine ⟨_, none, rfl, ?_, fun _ => rfl⟩
      rwa [RingBuffer.accepted_none, RingBuffer.popped_none, List.append_nil, List.append_nil]
    | succ pops => exact h.begin_pop lag
  | loadHead own => exact h.load_head lag
  | copySlot own => exact h.read_slot lag
  | storeTail own out => exact h.store_tail lag

theorem Inv.step (h : Inv c s A P) (turn : Thread × Nat) :
    Turns c A P turn.2 (s.step c turn) (s.view.step c turn.1) := by
  obtain ⟨thread, lag⟩ := turn
  cases thread with
  | producer => exact h.stepPush lag
  | consumer => exact h.stepPop lag

/-- Every schedule has a result: no turn is a data race. -/
theorem Inv.run (h : Inv c s A P) (schedule : List (Thread × Nat)) :
    ∃ s' returns, Mealy.run? (AtomicRing.step c) s schedule = some (s', returns) ∧
      Inv c s' (A ++ accepted returns) (P ++ popped returns) ∧
      ((∀ turn ∈ schedule, turn.2 = 0) →
        Mealy.run (RingBuffer.step c) s.view (schedule.map Prod.fst) = (s'.view, returns)) := by
  induction schedule generalizing s A P with
  | nil =>
    refine ⟨s, [], rfl, ?_, fun _ => rfl⟩
    simpa only [accepted, popped, List.filterMap_nil, List.append_nil] using h
  | cons turn rest ih =>
    obtain ⟨s₁, o, hStep, hNext, hFresh⟩ := h.step turn
    obtain ⟨s', returns, hRest, hLast, hFreshRest⟩ := ih hNext
    refine ⟨s', o :: returns, ?_, ?_, fun hLags => ?_⟩
    · rw [Mealy.run?_cons, hStep, Option.bind_some, hRest, Option.map_some]
    · rw [RingBuffer.accepted_cons, RingBuffer.popped_cons, ← List.append_assoc, ← List.append_assoc]
      exact hLast
    · obtain ⟨hHead, hTail⟩ := List.forall_mem_cons.mp hLags
      rw [List.map_cons, Mealy.run_cons, hFresh hHead, hFreshRest hTail]

theorem Inv.size_consumer (h : Inv c s A P) (headLag tailLag : Nat) :
    ∃ n, s.size c .consumer headLag tailLag = some n ∧ n.toNat ≤ A.length - P.length := by
  have hOrdered := h.ordered
  obtain ⟨k, head, hSeen, -, hHead, hLoad⟩ := hOrdered.wf.load true .consumer .head headLag
  have hNext := hOrdered.seeing true hSeen hHead
  obtain ⟨j, tail, hOwn, -, hTail, hLoadTail⟩ := hNext.wf.load true .consumer .tail tailLag
  obtain ⟨hLe, hHeadValue⟩ := hOrdered.head_value hHead
  obtain ⟨hLeTail, hTailValue⟩ := hNext.tail_value hTail
  rw [hNext.ownTail] at hOwn
  obtain rfl : j = P.length := by omega
  have hRoom := hOrdered.seenTail.trans_le (Nat.add_le_add_right hOrdered.seenTail_le _)
  have hPopped := hOrdered.seenHead
  refine ⟨(head.value - tail.value) &&& c.mask, ?_, ?_⟩
  · simp only [size, hLoad, Option.bind_eq_bind, Option.bind_some, hLoadTail]
    rfl
  · rw [hHeadValue, hTailValue, c.slot_sub (by omega) (by omega)]
    omega

theorem Inv.size_producer (h : Inv c s A P) (headLag tailLag : Nat) :
    ∃ n, s.size c .producer headLag tailLag = some n ∧ A.length - P.length ≤ n.toNat ∧
      n.toNat ≤ c.n.toNat - 1 := by
  have hOrdered := h.ordered
  obtain ⟨k, head, hOwn, -, hHead, hLoad⟩ := hOrdered.wf.load true .producer .head headLag
  have hNext := hOrdered.seeing true hOwn hHead
  obtain ⟨j, tail, hSeen, -, hTail, hLoadTail⟩ := hNext.wf.load true .producer .tail tailLag
  obtain ⟨hLe, hHeadValue⟩ := hOrdered.head_value hHead
  obtain ⟨hLeTail, hTailValue⟩ := hNext.tail_value hTail
  rw [hOrdered.ownHead] at hOwn
  obtain rfl : k = A.length := by omega
  have hRoom := hNext.seenTail
  have hPopped := hOrdered.popped_le
  refine ⟨(head.value - tail.value) &&& c.mask, ?_, ?_⟩
  · simp only [size, hLoad, Option.bind_eq_bind, Option.bind_some, hLoadTail]
    rfl
  · rw [hHeadValue, hTailValue, c.slot_sub (by omega) (by omega)]
    omega

/-- Every schedule of any calls and every lag of the loads: no access of a slot is a data race, the popped
values are the first accepted ones, no more than fit are in the buffer, a load of the latest index refuses
a call only for a full or an empty buffer, and `size()` is never too high for the consumer and never too
low for the producer. When no load lags, the run is one of the sequentially consistent machine. -/
theorem fifo_stale (c : Capacity) (buf : UInt32 → T) (pushes : List T) (pops : Nat)
    (schedule : List (Thread × Nat)) :
    ∃ s returns, Mealy.run? (AtomicRing.step c) (create buf pushes pops) schedule = some (s, returns) ∧
      popped returns <+: accepted returns ∧
      (accepted returns).length - (popped returns).length ≤ c.n.toNat - 1 ∧
      (∀ s' entry, s.step c (.producer, 0) = some (s', some (.full entry)) →
        (accepted returns).length - (popped returns).length = c.n.toNat - 1) ∧
      (∀ s', s.step c (.consumer, 0) = some (s', some .empty) →
        (accepted returns).length - (popped returns).length = 0) ∧
      (∀ headLag tailLag, ∃ n, s.size c .consumer headLag tailLag = some n ∧
        n.toNat ≤ (accepted returns).length - (popped returns).length) ∧
      (∀ headLag tailLag, ∃ n, s.size c .producer headLag tailLag = some n ∧
        (accepted returns).length - (popped returns).length ≤ n.toNat ∧ n.toNat ≤ c.n.toNat - 1) ∧
      ((∀ turn ∈ schedule, turn.2 = 0) →
        Mealy.run (RingBuffer.step c) (RingBuffer.create buf pushes pops) (schedule.map Prod.fst) =
          (s.view, returns)) := by
  obtain ⟨s, returns, hRun, hInv, hFresh⟩ := (Inv.create (c := c) buf pushes pops).run schedule
  rw [List.nil_append, List.nil_append] at hInv
  have hRoom := hInv.ring.room
  have hLe := hInv.ring.length_le
  refine ⟨s, returns, hRun, hInv.ring.order, by omega, fun s' entry hFull => ?_, fun s' hEmpty => ?_,
    hInv.size_consumer, hInv.size_producer, hFresh⟩
  · obtain ⟨s₁, o, hStep, -, hSame⟩ := hInv.step (.producer, 0)
    rw [hStep] at hFull
    cases hFull
    have hEq := hInv.ring.full (congrArg Prod.snd (hSame rfl))
    omega
  · obtain ⟨s₁, o, hStep, -, hSame⟩ := hInv.step (.consumer, 0)
    rw [hStep] at hEmpty
    cases hEmpty
    have hEq := hInv.ring.empty (congrArg Prod.snd (hSame rfl))
    omega

end AtomicRing

end VsomeipDart
