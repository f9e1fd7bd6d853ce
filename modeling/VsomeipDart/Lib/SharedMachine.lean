import VsomeipDart.Lib.Mealy
import VsomeipDart.Lib.Threads

/-! # A machine that several consumers share

Every consumer puts the same inputs, in the same order, through one machine. Each receives the stream of its
inputs when all but one of them handle only such inputs as leave no trace in the outputs of others.
-/

namespace SharedMachine

variable {σ ι α : Type}

structure Consumer (ι α : Type) where
  left : List ι
  handled : List ι
  received : List α
  deriving DecidableEq

def consume (machine : σ → ι → σ × List α) (_ : Nat) (s : σ) (c : Consumer ι α) :
    Option (σ × Consumer ι α) :=
  match c.left with
  | [] => none
  | i :: rest =>
    some ((machine s i).1, ⟨rest, c.handled ++ [i], c.received ++ (machine s i).2⟩)

def start (s : σ) (consumers : Nat) (inputs : List ι) : Threads.Config σ (Consumer ι α) where
  shared := s
  threads := List.replicate consumers ⟨inputs, [], []⟩

def stream (machine : σ → ι → σ × List α) (s : σ) (inputs : List ι) : List α :=
  (Mealy.run machine s inputs).2.flatten

/-- The consumer has received the stream of what it has handled. -/
structure Served (machine : σ → ι → σ × List α) (s : σ) (inputs : List ι) (c : Consumer ι α) :
    Prop where
  inOrder : c.handled ++ c.left = inputs
  once : c.received = stream machine s c.handled

variable {machine : σ → ι → σ × List α} {s : σ} {inputs : List ι}

theorem stream_snoc (inputs : List ι) (i : ι) :
    stream machine s (inputs ++ [i]) =
      stream machine s inputs ++ (machine (Mealy.run machine s inputs).1 i).2 := by
  rw [stream, Mealy.run_snoc, List.flatten_append, stream]
  simp

theorem consume_cases {j : Nat} {s' : σ} {c c' : Consumer ι α}
    (h : consume machine j s c = some (s', c')) :
    ∃ i rest, c.left = i :: rest ∧ s' = (machine s i).1 ∧
      c' = ⟨rest, c.handled ++ [i], c.received ++ (machine s i).2⟩ := by
  rw [consume] at h
  split at h
  · cases h
  · rename_i i rest hLeft
    cases h
    exact ⟨i, rest, hLeft, rfl, rfl⟩

theorem start_consumer {consumers j : Nat} {c : Consumer ι α}
    (h : (start s consumers inputs).threads[j]? = some c) : c = ⟨inputs, [], []⟩ := by
  rw [start, List.getElem?_replicate] at h
  split at h
  · exact (Option.some.inj h).symm
  · cases h

theorem served_start {consumers j : Nat} {c : Consumer ι α}
    (h : (start s consumers inputs).threads[j]? = some c) : Served machine s inputs c := by
  obtain rfl := start_consumer h
  exact ⟨rfl, rfl⟩

theorem Served.next {c : Consumer ι α} {i : ι} {rest : List ι} (h : Served machine s inputs c)
    (hLeft : c.left = i :: rest) {out : List α}
    (hOut : out = (machine (Mealy.run machine s c.handled).1 i).2) :
    Served machine s inputs ⟨rest, c.handled ++ [i], c.received ++ out⟩ := by
  constructor
  · have hInputs := h.inOrder
    rw [hLeft] at hInputs
    simpa using hInputs
  · rw [stream_snoc, h.once, hOut]

theorem turn_self {c : Threads.Config σ (Consumer ι α)} {j : Nat} {t : Consumer ι α}
    (hThread : c.threads[j]? = some t) :
    ∃ out, (Threads.turn (consume machine) c j).threads[j]? =
      some ⟨t.left.tail, t.handled ++ t.left.head?.toList, out⟩ := by
  obtain ⟨left, handled, received⟩ := t
  cases left with
  | nil =>
    refine ⟨received, ?_⟩
    simp [Threads.turn, hThread, consume]
  | cons i rest => exact ⟨_, by rw [Threads.turn_eq hThread rfl, Threads.set_self hThread]; rfl⟩

theorem turn_other (c : Threads.Config σ (Consumer ι α)) {i j : Nat} (hOther : i ≠ j) :
    (Threads.turn (consume machine) c i).threads[j]? = c.threads[j]? := by
  rcases Threads.turn_cases (consume machine) c i with hSame | ⟨t, s', t', -, -, hTurn⟩
  · rw [hSame]
  · rw [hTurn, List.getElem?_set_ne hOther]

/-- Where a consumer is after the turns that it has had. -/
theorem consumer_eq {consumers : Nat} (schedule : List Nat) {j : Nat} {c : Consumer ι α}
    (h : (Threads.run (consume machine) (start s consumers inputs) schedule).threads[j]? = some c) :
    c.handled = inputs.take (schedule.count j) ∧ c.left = inputs.drop (schedule.count j) := by
  induction schedule using List.reverseRecOn generalizing c with
  | nil =>
    obtain rfl := start_consumer h
    exact ⟨rfl, rfl⟩
  | append_singleton front i ih =>
    rw [Threads.run_append, Threads.run_cons, Threads.run_nil] at h
    rw [List.count_append, List.count_singleton]
    rcases eq_or_ne i j with rfl | hOther
    · rw [if_pos (beq_self_eq_true i)]
      cases hThread : (Threads.run (consume machine) (start s consumers inputs) front).threads[i]? with
      | none => simp [Threads.turn, hThread] at h
      | some t =>
        obtain ⟨out, hTurn⟩ := @turn_self _ _ _ machine _ _ _ hThread
        obtain rfl := Option.some.inj (hTurn.symm.trans h)
        obtain ⟨hHandled, hLeft⟩ := ih hThread
        exact ⟨by rw [hHandled, hLeft, List.head?_drop, ← List.take_add_one], by rw [hLeft, List.tail_drop]⟩
    · rw [if_neg (by simpa using hOther), Nat.add_zero]
      rw [turn_other _ hOther] at h
      exact ih h

/-- A quiet input has the same output in all states that the inputs lead to, and changes no later output. -/
structure Quietly (machine : σ → ι → σ × List α) (s : σ) (inputs : List ι) (quiet : ι → Prop)
    (Reached : σ → Prop) (Alike : σ → σ → Prop) : Prop where
  first : Reached s
  reached : ∀ {a : σ}, ∀ i ∈ inputs, Reached a → Reached (machine a i).1
  refl : ∀ a : σ, Alike a a
  trans : ∀ {a b c : σ}, Alike a b → Alike b c → Alike a c
  alike : ∀ {a b : σ}, ∀ i ∈ inputs, Alike a b →
    Alike (machine a i).1 (machine b i).1 ∧ (machine a i).2 = (machine b i).2
  quiet : ∀ {a : σ}, ∀ i ∈ inputs, quiet i → Reached a →
    Alike (machine a i).1 a ∧ (machine a i).2 = (machine s i).2

section Quiet

variable {quiet : ι → Prop} {Reached : σ → Prop} {Alike : σ → σ → Prop}

theorem Quietly.run (h : Quietly machine s inputs quiet Reached Alike) {handled : List ι}
    (hMem : ∀ i ∈ handled, i ∈ inputs) : Reached (Mealy.run machine s handled).1 := by
  induction handled using List.reverseRecOn with
  | nil => exact h.first
  | append_singleton front i ih =>
    rw [Mealy.run_snoc]
    exact h.reached i (hMem i (by simp)) (ih fun j hFront => hMem j (by simp [hFront]))

/-- The machine is where the `k`-th consumer has taken it, as far as outputs tell. -/
structure Led (machine : σ → ι → σ × List α) (s : σ) (inputs : List ι) (Reached : σ → Prop)
    (Alike : σ → σ → Prop) (consumers k : Nat) (c : Threads.Config σ (Consumer ι α)) : Prop where
  count : c.threads.length = consumers
  reached : Reached c.shared
  leader : ∀ t : Consumer ι α, c.threads[k]? = some t → Alike c.shared (Mealy.run machine s t.handled).1
  served : ∀ (j : Nat) (t : Consumer ι α), c.threads[j]? = some t → Served machine s inputs t

/-- One consumer may handle all inputs, if the others have handled quiet ones only. -/
theorem run_led (h : Quietly machine s inputs quiet Reached Alike) {consumers k : Nat}
    {schedule : List Nat}
    (hOthers : ∀ j < consumers, j ≠ k → ∀ i ∈ inputs.take (schedule.count j), quiet i) :
    Led machine s inputs Reached Alike consumers k
      (Threads.run (consume machine) (start s consumers inputs) schedule) := by
  induction schedule using List.reverseRecOn with
  | nil =>
    refine ⟨List.length_replicate, h.first, fun t hThread => ?_, fun j t hThread => served_start hThread⟩
    obtain rfl := start_consumer hThread
    exact h.refl s
  | append_singleton front j ih =>
    have hLed := ih fun j' hLt hNe i hMem => hOthers j' hLt hNe i
      (List.take_subset_take_left inputs (by rw [List.count_append]; omega) hMem)
    rw [Threads.run_append, Threads.run_cons, Threads.run_nil]
    rcases Threads.turn_cases (consume machine)
      (Threads.run (consume machine) (start s consumers inputs) front) j with
      hSame | ⟨t, s', t', hThread, hStep, hTurn⟩
    · rwa [hSame]
    rw [hTurn]
    obtain ⟨i, rest, hLeft, rfl, rfl⟩ := consume_cases hStep
    have hServed := hLed.served j t hThread
    have hInputs : t.handled ++ i :: rest = inputs := hLeft ▸ hServed.inOrder
    have hMem : i ∈ inputs := by simp [← hInputs]
    have hOwn : Reached (Mealy.run machine s t.handled).1 := h.run fun x hx => by simp [← hInputs, hx]
    have hQuiet : j ≠ k → quiet i := by
      intro hNe
      obtain ⟨hLt, -⟩ := List.getElem?_eq_some_iff.mp hThread
      refine hOthers j (hLed.count ▸ hLt) hNe i ?_
      have hNext : inputs[front.count j]? = some i := by
        rw [← List.head?_drop, ← (consumer_eq front hThread).2, hLeft]
        rfl
      rw [List.count_append, List.count_singleton_self, List.take_add_one, hNext]
      exact List.mem_append_right _ List.mem_cons_self
    refine ⟨by rw [List.length_set, hLed.count], h.reached i hMem hLed.reached, ?_, ?_⟩
    · intro u hLeader
      rcases Threads.getElem?_set hThread hLeader with ⟨rfl, rfl⟩ | ⟨hNe, hOld⟩
      · rw [Mealy.run_snoc]
        exact (h.alike i hMem (hLed.leader t hThread)).1
      · exact h.trans (h.quiet i hMem (hQuiet (Ne.symm hNe)) hLed.reached).1 (hLed.leader u hOld)
    · intro j' u hThread'
      rcases Threads.getElem?_set hThread hThread' with ⟨-, rfl⟩ | ⟨-, hOld⟩
      · refine hServed.next hLeft ?_
        rcases eq_or_ne j k with rfl | hNe
        · exact (h.alike i hMem (hLed.leader t hThread)).2
        · exact (h.quiet i hMem (hQuiet hNe) hLed.reached).2.trans (h.quiet i hMem (hQuiet hNe) hOwn).2.symm
      · exact hLed.served j' u hOld

end Quiet

end SharedMachine
