import VsomeipDart.Lib.Mealy
import VsomeipDart.RingBuffer

/-! # Every interleaving of the ring buffer is a first-in first-out queue

The invariant counts the accepted and the popped entries: the two indices are the slots of these counts,
and the slots between them hold the entries that are not popped yet.
-/

namespace VsomeipDart
set_option autoImplicit false

open CircularIndex

namespace RingBuffer

variable {T : Type} (c : Capacity)

/-- What the locals of a `push` say: the slot that it fills is free, since the consumer only frees more. -/
def PushOk (s : RingBuffer T) (accepted popped : List T) : Prop :=
  match s.push with
  | .idle => True
  | .loadTail _ head next => head = c.slot accepted.length ∧ next = c.slot (accepted.length + 1)
  | .copySlot _ head next => head = c.slot accepted.length ∧ next = c.slot (accepted.length + 1) ∧
      accepted.length + 1 < popped.length + c.n.toNat
  | .storeHead entry next => next = c.slot (accepted.length + 1) ∧
      accepted.length + 1 < popped.length + c.n.toNat ∧ s.buf (c.slot accepted.length) = entry

/-- What the locals of a `pop` say: the entry that it takes stays the next one, since the producer only
adds more. -/
def PopOk (s : RingBuffer T) (accepted popped : List T) : Prop :=
  match s.pop with
  | .idle => True
  | .loadHead tail => tail = c.slot popped.length
  | .copySlot tail => tail = c.slot popped.length ∧ popped.length < accepted.length
  | .storeTail tail out => tail = c.slot popped.length ∧ accepted[popped.length]? = some out

structure Inv (s : RingBuffer T) (accepted popped : List T) : Prop where
  order : popped <+: accepted
  room : accepted.length < popped.length + c.n.toNat
  head : s.head = c.slot accepted.length
  tail : s.tail = c.slot popped.length
  slots : ∀ i entry, popped.length ≤ i → accepted[i]? = some entry → s.buf (c.slot i) = entry
  push : PushOk c s accepted popped
  pop : PopOk c s accepted popped

variable {c}

theorem Inv.create (buf : UInt32 → T) (pushes : List T) (pops : Nat) :
    Inv c (create buf pushes pops) [] [] where
  order := List.prefix_rfl
  room := by
    have hTwo := c.two_le_toNat
    simp only [List.length_nil]
    omega
  head := c.slot_zero.symm
  tail := c.slot_zero.symm
  slots i entry _ h := by cases h
  push := trivial
  pop := trivial

variable {s : RingBuffer T} {A P : List T}

theorem Inv.length_le (h : Inv c s A P) : P.length ≤ A.length := h.order.length_le

theorem Inv.full_iff (h : Inv c s A P) :
    c.slot (A.length + 1) = s.tail ↔ A.length = P.length + (c.n.toNat - 1) := by
  have hLe := h.length_le
  have hRoom := h.room
  rw [h.tail]
  constructor
  · intro hEq
    by_contra hNot
    have hInj := (c.slot_inj (i := P.length) (j := A.length + 1) (by omega) (by omega)).mp hEq.symm
    omega
  · intro hEq
    apply UInt32.toNat.inj
    rw [c.slot_toNat, c.slot_toNat, show A.length + 1 = P.length + c.n.toNat by omega,
      Nat.add_mod_right]

theorem Inv.empty_iff (h : Inv c s A P) : c.slot P.length = s.head ↔ A.length = P.length := by
  rw [h.head, c.slot_inj h.length_le h.room]
  exact eq_comm

@[simp] theorem accepted_none : accepted [(none : Option (Return T))] = [] := rfl

@[simp] theorem accepted_full (entry : T) : accepted [some (.full entry)] = [] := rfl

@[simp] theorem accepted_pushed (entry : T) : accepted [some (.pushed entry)] = [entry] := rfl

@[simp] theorem popped_none : popped [(none : Option (Return T))] = [] := rfl

@[simp] theorem popped_empty : popped [some (.empty : Return T)] = [] := rfl

@[simp] theorem popped_popped (out : T) : popped [some (.popped out)] = [out] := rfl

theorem Inv.popOk_append (h : Inv c s A P) (entry : T) : PopOk c s (A ++ [entry]) P := by
  have hPop := h.pop
  unfold PopOk at hPop ⊢
  split <;> rename_i hPc <;> rw [hPc] at hPop
  · trivial
  · exact hPop
  · exact ⟨hPop.1, by rw [List.length_append]; exact hPop.2.trans (Nat.lt_succ_self _)⟩
  · have hLt : P.length < A.length := (List.getElem?_eq_some_iff.mp hPop.2).1
    exact ⟨hPop.1, by rw [List.getElem?_append_left hLt]; exact hPop.2⟩

theorem Inv.pushOk_append (h : Inv c s A P) (out : T) : PushOk c s A (P ++ [out]) := by
  have hPush := h.push
  have hLength : (P ++ [out]).length = P.length + 1 := List.length_append
  unfold PushOk at hPush ⊢
  rw [hLength]
  split <;> rename_i hPc <;> rw [hPc] at hPush
  · trivial
  · exact hPush
  · exact ⟨hPush.1, hPush.2.1, by omega⟩
  · exact ⟨hPush.1, by omega, hPush.2.2⟩

theorem Inv.order_append (h : Inv c s A P) {out : T} (hNext : A[P.length]? = some out) :
    P ++ [out] <+: A := by
  obtain ⟨rest, rfl⟩ := h.order
  rw [List.getElem?_append_right le_rfl, Nat.sub_self] at hNext
  cases rest with
  | nil => cases hNext
  | cons entry rest =>
    cases hNext
    exact ⟨rest, by rw [List.append_assoc]; rfl⟩

theorem Inv.stepPush (h : Inv c s A P) :
    Inv c (s.stepPush c).1 (A ++ accepted [(s.stepPush c).2]) P := by
  obtain ⟨head, tail, buf, push, pop, pushes, pops⟩ := s
  have hPush := h.push
  cases push with
  | idle =>
    cases pushes with
    | nil => simpa only [RingBuffer.stepPush, accepted_none, List.append_nil] using h
    | cons entry rest =>
      simp only [RingBuffer.stepPush, accepted_none, List.append_nil]
      have hHead := h.head
      dsimp only at hHead
      exact { h with push := ⟨hHead, by rw [hHead, c.slot_succ]⟩ }
  | loadTail entry own next =>
    obtain ⟨rfl, rfl⟩ := hPush
    have hFull := h.full_iff
    by_cases hEq : c.slot (A.length + 1) = tail
    · simp only [RingBuffer.stepPush, if_pos hEq, accepted_full, List.append_nil]
      exact { h with push := trivial }
    · simp only [RingBuffer.stepPush, if_neg hEq, accepted_none, List.append_nil]
      have hNotFull := mt hFull.mpr hEq
      have hRoom := h.room
      have hTwo := c.two_le_toNat
      exact { h with push := ⟨rfl, rfl, by omega⟩ }
  | copySlot entry own next =>
    obtain ⟨rfl, rfl, hFree⟩ := hPush
    simp only [RingBuffer.stepPush, accepted_none, List.append_nil]
    refine { h with slots := ?_, push := ⟨rfl, hFree, Function.update_self _ _ _⟩ }
    intro i entry' hLe hEntry
    -- the slot that is filled holds none of the entries that wait
    have hLt : i < A.length := (List.getElem?_eq_some_iff.mp hEntry).1
    have hNe : c.slot i ≠ c.slot A.length := by
      intro hEq
      have hInj := (c.slot_inj hLt.le (by omega)).mp hEq
      omega
    exact (Function.update_of_ne hNe _ _).trans (h.slots i entry' hLe hEntry)
  | storeHead entry next =>
    obtain ⟨rfl, hFree, hSlot⟩ := hPush
    simp only [RingBuffer.stepPush, accepted_pushed]
    exact {
      order := h.order.trans (List.prefix_append A [entry])
      room := by
        rw [List.length_append]
        exact hFree
      head := by rw [List.length_append]; rfl
      tail := h.tail
      slots := by
        intro i entry' hLe hEntry
        rcases Nat.lt_or_ge i A.length with hLt | hGe
        · rw [List.getElem?_append_left hLt] at hEntry
          exact h.slots i entry' hLe hEntry
        · rw [List.getElem?_append_right hGe, List.getElem?_singleton] at hEntry
          split at hEntry <;> rename_i hIndex
          · obtain rfl : i = A.length := by omega
            cases hEntry
            exact hSlot
          · cases hEntry
      push := trivial
      pop := h.popOk_append entry }

theorem Inv.stepPop (h : Inv c s A P) :
    Inv c (s.stepPop c).1 A (P ++ popped [(s.stepPop c).2]) := by
  obtain ⟨head, tail, buf, push, pop, pushes, pops⟩ := s
  have hPop := h.pop
  cases pop with
  | idle =>
    cases pops with
    | zero => simpa only [RingBuffer.stepPop, popped_none, List.append_nil] using h
    | succ pops =>
      simp only [RingBuffer.stepPop, popped_none, List.append_nil]
      exact { h with pop := h.tail }
  | loadHead own =>
    obtain rfl : own = c.slot P.length := hPop
    have hEmpty := h.empty_iff
    by_cases hEq : c.slot P.length = head
    · simp only [RingBuffer.stepPop, if_pos hEq, popped_empty, List.append_nil]
      exact { h with pop := trivial }
    · simp only [RingBuffer.stepPop, if_neg hEq, popped_none, List.append_nil]
      have hNotEmpty := mt hEmpty.mpr hEq
      have hLe := h.length_le
      exact { h with pop := ⟨rfl, by omega⟩ }
  | copySlot own =>
    obtain ⟨rfl, hLt⟩ := hPop
    simp only [RingBuffer.stepPop, popped_none, List.append_nil]
    have hNext : A[P.length]? = some A[P.length] := List.getElem?_eq_getElem hLt
    have hSlot := h.slots P.length _ le_rfl hNext
    exact { h with pop := ⟨rfl, hNext.trans (congrArg some hSlot.symm)⟩ }
  | storeTail own out =>
    obtain ⟨rfl, hNext⟩ := hPop
    simp only [RingBuffer.stepPop, popped_popped]
    have hLt : P.length < A.length := (List.getElem?_eq_some_iff.mp hNext).1
    exact {
      order := h.order_append hNext
      room := by
        have hRoom := h.room
        simp only [List.length_append, List.length_singleton]
        omega
      head := h.head
      tail := by rw [List.length_append]; exact c.slot_succ _
      slots := fun i entry hLe hEntry => h.slots i entry (by
        simp only [List.length_append, List.length_singleton] at hLe
        omega) hEntry
      push := h.pushOk_append out
      pop := trivial }

theorem accepted_cons (o : Option (Return T)) (os : List (Option (Return T))) :
    accepted (o :: os) = accepted [o] ++ accepted os :=
  List.filterMap_append (l := [o])

theorem popped_cons (o : Option (Return T)) (os : List (Option (Return T))) :
    popped (o :: os) = popped [o] ++ popped os :=
  List.filterMap_append (l := [o])

theorem popped_stepPush (s : RingBuffer T) : popped [(s.stepPush c).2] = [] := by
  unfold RingBuffer.stepPush
  split
  · split <;> rfl
  · split <;> rfl
  · rfl
  · rfl

theorem accepted_stepPop (s : RingBuffer T) : accepted [(s.stepPop c).2] = [] := by
  unfold RingBuffer.stepPop
  split
  · split <;> rfl
  · split <;> rfl
  · rfl
  · rfl

theorem Inv.step (h : Inv c s A P) (thread : Thread) :
    Inv c (s.step c thread).1 (A ++ accepted [(s.step c thread).2])
      (P ++ popped [(s.step c thread).2]) := by
  cases thread with
  | producer =>
    simp only [RingBuffer.step, popped_stepPush, List.append_nil]
    exact h.stepPush
  | consumer =>
    simp only [RingBuffer.step, accepted_stepPop, List.append_nil]
    exact h.stepPop

theorem Inv.run (h : Inv c s A P) (schedule : List Thread) :
    Inv c (Mealy.run (RingBuffer.step c) s schedule).1
      (A ++ accepted (Mealy.run (RingBuffer.step c) s schedule).2)
      (P ++ popped (Mealy.run (RingBuffer.step c) s schedule).2) := by
  induction schedule generalizing s A P with
  | nil => simpa only [Mealy.run_nil, accepted, popped, List.filterMap_nil, List.append_nil] using h
  | cons thread rest ih =>
    have hRest := ih (h.step thread)
    rw [Mealy.run_cons]
    dsimp only
    rw [accepted_cons, popped_cons, ← List.append_assoc, ← List.append_assoc]
    exact hRest

theorem Inv.full (h : Inv c s A P) {entry : T}
    (hFull : (s.stepPush c).2 = some (.full entry)) : A.length = P.length + (c.n.toNat - 1) := by
  have hPush := h.push
  unfold RingBuffer.stepPush at hFull
  unfold PushOk at hPush
  split at hFull <;> rename_i hPc
  · split at hFull <;> cases hFull
  · rw [hPc] at hPush
    split at hFull <;> rename_i hEq
    · exact h.full_iff.mp (hPush.2 ▸ hEq)
    · cases hFull
  · cases hFull
  · cases hFull

theorem Inv.empty (h : Inv c s A P) (hEmpty : (s.stepPop c).2 = some .empty) :
    A.length = P.length := by
  have hPop := h.pop
  unfold RingBuffer.stepPop at hEmpty
  unfold PopOk at hPop
  split at hEmpty <;> rename_i hPc
  · split at hEmpty <;> cases hEmpty
  · rw [hPc] at hPop
    split at hEmpty <;> rename_i hEq
    · exact h.empty_iff.mp (hPop ▸ hEq)
    · cases hEmpty
  · cases hEmpty
  · cases hEmpty

theorem Inv.size_eq (h : Inv c s A P) : (s.size c).toNat = A.length - P.length := by
  rw [RingBuffer.size, h.head, h.tail]
  exact c.slot_sub h.length_le h.room

theorem Inv.isEmpty_iff (h : Inv c s A P) : s.empty = true ↔ A.length - P.length = 0 := by
  have hLe := h.length_le
  rw [RingBuffer.empty, beq_iff_eq, eq_comm, h.tail, h.empty_iff]
  omega

theorem Inv.pushSlot (h : Inv c s A P) {entry : T} {own next : UInt32}
    (hPush : s.push = .copySlot entry own next) :
    own = c.slot A.length ∧ A.length + 1 < P.length + c.n.toNat := by
  have hPushOk := h.push
  rw [PushOk, hPush] at hPushOk
  exact ⟨hPushOk.1, hPushOk.2.2⟩

theorem Inv.popSlot (h : Inv c s A P) {own : UInt32} (hPop : s.pop = .copySlot own) :
    own = c.slot P.length ∧ P.length < A.length := by
  have hPopOk := h.pop
  rwa [PopOk, hPop] at hPopOk

theorem Inv.copies_apart (h : Inv c s A P) {entry : T} {own next tail : UInt32}
    (hPush : s.push = .copySlot entry own next) (hPop : s.pop = .copySlot tail) : own ≠ tail := by
  obtain ⟨rfl, hFree⟩ := h.pushSlot hPush
  obtain ⟨rfl, hLt⟩ := h.popSlot hPop
  intro hEq
  have hInj := (c.slot_inj hLt.le (by omega)).mp hEq.symm
  omega

/-- Every schedule of any calls: the popped values are the first accepted ones, `push` fails only on a
full buffer and `pop` only on an empty one, the two queries are exact between calls, and the two threads
never copy the same slot. -/
theorem fifo (c : Capacity) (buf : UInt32 → T) (pushes : List T) (pops : Nat)
    (schedule : List Thread) :
    let run := Mealy.run (RingBuffer.step c) (create buf pushes pops) schedule
    let s := run.1
    let accepted := accepted run.2
    let popped := popped run.2
    popped <+: accepted ∧
    accepted.length - popped.length ≤ c.n.toNat - 1 ∧
    (∀ entry, (s.step c .producer).2 = some (.full entry) →
      accepted.length - popped.length = c.n.toNat - 1) ∧
    ((s.step c .consumer).2 = some .empty → accepted.length - popped.length = 0) ∧
    (s.push = .idle → s.pop = .idle → (s.size c).toNat = accepted.length - popped.length ∧
      (s.empty = true ↔ accepted.length - popped.length = 0)) ∧
    (∀ entry head next, s.push = .copySlot entry head next → head < c.n) ∧
    (∀ tail, s.pop = .copySlot tail → tail < c.n) ∧
    ∀ entry head next tail, s.push = .copySlot entry head next → s.pop = .copySlot tail →
      head ≠ tail := by
  intro run s A P
  have h : Inv c s A P := (Inv.create buf pushes pops).run schedule
  have hRoom := h.room
  have hLe := h.length_le
  refine ⟨h.order, by omega, fun entry hFull => ?_, fun hEmpty => ?_,
    fun _ _ => ⟨h.size_eq, h.isEmpty_iff⟩, fun entry head next hPush => ?_, fun tail hPop => ?_,
    fun entry head next tail hPush hPop => h.copies_apart hPush hPop⟩
  · have hEq := h.full hFull
    omega
  · have hEq := h.empty hEmpty
    omega
  · rw [(h.pushSlot hPush).1]
    exact c.slot_lt _
  · rw [(h.popSlot hPop).1]
    exact c.slot_lt _

end RingBuffer

end VsomeipDart
