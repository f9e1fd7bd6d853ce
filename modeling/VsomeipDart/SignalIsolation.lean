import VsomeipDart.ExactSample
import VsomeipDart.FilterRuns

/-! # Signals are filtered independently

A signal whose window meets no other configured window of its event behaves, inside any run, like one
filter that is fed with the bytes of that window and nothing else.
-/

namespace VsomeipDart
set_option autoImplicit false

open LittleEndian

variable {F : Type} [FloatOps F]

section Signal

variable (k : EventId) (o : UInt16)

/-- No other offset whose window shares a byte with that of `o` is ever configured for `k`. -/
def Isolated (calls : List (FilterCall F)) : Prop :=
  ∀ type o' param sampleHz, FilterCall.setFilter k type o' param sampleHz ∈ calls → o' ≠ o →
    SignalMap.Apart o' o

def FilterCall.Touches : FilterCall F → Prop
  | .setFilter k' _ o' _ _ => k' = k ∧ o' = o
  | .clearFilter k' => k' = k
  | .clearFilterAt k' o' => k' = k ∧ o' = o
  | .apply _ _ => False

def FilterCall.sampleIn : FilterCall F → Option Nat
  | .apply k' payload =>
    if k' = k ∧ o.toNat + 4 ≤ payload.length then some (window 4 payload o.toNat) else none
  | _ => none

/-- The four bytes that a call leaves at the signal, if it is a long enough message of the event. -/
def FilterCall.sampleOut (call : FilterCall F) : FilterOutput → Option Nat
  | .applied payload _ => if (call.sampleIn k o).isSome then some (window 4 payload o.toNat) else none
  | .done => none

def samplesIn (calls : List (FilterCall F)) : List Nat := calls.filterMap (·.sampleIn k o)

def samplesOut (calls : List (FilterCall F)) (outputs : List FilterOutput) : List Nat :=
  (calls.zip outputs).filterMap fun step => step.1.sampleOut k o step.2

end Signal

namespace SignalMap

theorem feeds_isSome (list : List UInt16) (s : Sweep F) (o : UInt16) :
    ((list.foldl feed s).filters o).isSome = (s.filters o).isSome := by
  induction list generalizing s with
  | nil => rfl
  | cons o' rest ih => rw [List.foldl_cons, ih, feed_isSome]

theorem exec_isSome (m : SignalMap F) (call : FilterCall F) {k : EventId} {o : UInt16}
    (h : ((m.exec call).1 k o).isSome) :
    (m k o).isSome ∨ ∃ type param sampleHz, call = .setFilter k type o param sampleHz := by
  have hOther : ∀ {k' : EventId} {filters}, k ≠ k' →
      (Function.update m k' filters k o).isSome → (m k o).isSome := by
    intro k' filters hNe hSome
    rwa [Function.update_of_ne hNe] at hSome
  cases call with
  | setFilter k' type o' param sampleHz =>
    rcases eq_or_ne k k' with rfl | hEvent
    · by_cases ho : o = o'
      · subst ho
        exact Or.inr ⟨type, param, sampleHz, rfl⟩
      · refine Or.inl ?_
        simpa only [exec, set, Function.update_self, Function.update_of_ne ho] using h
    · exact Or.inl (hOther hEvent h)
  | clearFilter k' =>
    rcases eq_or_ne k k' with rfl | hEvent
    · simp only [exec, clear, Function.update_self] at h
      cases h
    · exact Or.inl (hOther hEvent h)
  | clearFilterAt k' o' =>
    rcases eq_or_ne k k' with rfl | hEvent
    · simp only [exec, clearAt, Function.update_self] at h
      rcases eq_or_ne o o' with rfl | ho
      · rw [Function.update_self] at h
        cases h
      · rw [Function.update_of_ne ho] at h
        exact Or.inl h
    · exact Or.inl (hOther hEvent h)
  | apply k' payload =>
    rcases eq_or_ne k k' with rfl | hEvent
    · simp only [exec, Function.update_self, sweep, feeds_isSome] at h
      exact Or.inl h
    · exact Or.inl (hOther hEvent h)

theorem run_isSome (m : SignalMap F) (calls : List (FilterCall F)) {k : EventId} {o : UInt16}
    (h : ((m.run calls).1 k o).isSome) :
    (m k o).isSome ∨ ∃ type param sampleHz, .setFilter k type o param sampleHz ∈ calls := by
  induction calls generalizing m with
  | nil => exact Or.inl h
  | cons call rest ih =>
    rw [run, Mealy.run_cons] at h
    rcases ih (m.exec call).1 h with hBefore | ⟨type, param, sampleHz, hMem⟩
    · rcases exec_isSome m call hBefore with hSome | ⟨type, param, sampleHz, rfl⟩
      · exact Or.inl hSome
      · exact Or.inr ⟨type, param, sampleHz, List.mem_cons_self⟩
    · exact Or.inr ⟨type, param, sampleHz, List.mem_cons_of_mem call hMem⟩

def Alone (m : SignalMap F) (k : EventId) (o : UInt16) : Prop :=
  ∀ o', (m k o').isSome → o' ≠ o → Apart o' o

variable {m : SignalMap F} {k : EventId} {o : UInt16} {filter : SignalFilter F}

theorem Alone.exec (hAlone : m.Alone k o) {call : FilterCall F} (hIsolated : Isolated k o [call]) :
    Alone (m.exec call).1 k o := by
  intro o' hSome hNe
  rcases exec_isSome m call hSome with hBefore | ⟨type, param, sampleHz, rfl⟩
  · exact hAlone o' hBefore hNe
  · exact hIsolated type o' param sampleHz List.mem_cons_self hNe

/-- One call, seen from the signal: a sample of its own message goes through its filter, and every other
call leaves the filter as it is. -/
theorem exec_signal (hFilter : m k o = some filter) (hAlone : m.Alone k o) {call : FilterCall F}
    (hKept : ¬ call.Touches k o) :
    match call.sampleIn k o with
    | none => (m.exec call).1 k o = some filter ∧ call.sampleOut k o (m.exec call).2 = none
    | some bits => (m.exec call).1 k o = some (sample filter bits).1 ∧
        call.sampleOut k o (m.exec call).2 = some (sample filter bits).2 := by
  cases call with
  | setFilter k' type o' param sampleHz =>
    refine ⟨?_, rfl⟩
    simp only [SignalMap.exec, set]
    rcases eq_or_ne k k' with rfl | hEvent
    · rw [Function.update_self, Function.update_of_ne (fun ho => hKept ⟨rfl, ho.symm⟩), hFilter]
    · rw [Function.update_of_ne hEvent, hFilter]
  | clearFilter k' =>
    refine ⟨?_, rfl⟩
    simp only [SignalMap.exec, clear]
    rw [Function.update_of_ne (fun hEvent => hKept hEvent.symm), hFilter]
  | clearFilterAt k' o' =>
    refine ⟨?_, rfl⟩
    simp only [SignalMap.exec, clearAt]
    rcases eq_or_ne k k' with rfl | hEvent
    · rw [Function.update_self, Function.update_of_ne (fun ho => hKept ⟨rfl, ho.symm⟩), hFilter]
    · rw [Function.update_of_ne hEvent, hFilter]
  | apply k' payload =>
    rw [SignalMap.exec, FilterCall.sampleOut, FilterCall.sampleIn]
    dsimp only
    rcases eq_or_ne k' k with rfl | hEvent
    · have hSweep := sweep_signal (m k') payload hFilter hAlone
      rw [Function.update_self]
      by_cases hFits : o.toNat + 4 ≤ payload.length
      · rw [if_pos ⟨rfl, hFits⟩]
        dsimp only at hSweep ⊢
        rw [if_pos hFits] at hSweep
        rw [hSweep.1, hSweep.2]
        exact ⟨rfl, rfl⟩
      · rw [if_neg (fun h => hFits h.2)]
        dsimp only at hSweep ⊢
        rw [if_neg hFits] at hSweep
        exact ⟨hSweep, rfl⟩
    · rw [if_neg (fun h => hEvent h.1), Function.update_of_ne (Ne.symm hEvent)]
      exact ⟨hFilter, rfl⟩

theorem run_signal (hFilter : m k o = some filter) (hAlone : m.Alone k o)
    {calls : List (FilterCall F)} (hIsolated : Isolated k o calls)
    (hKept : ∀ call ∈ calls, ¬ call.Touches k o) :
    (m.run calls).1 k o = some (Mealy.run sample filter (samplesIn k o calls)).1 ∧
      samplesOut k o calls (m.run calls).2 =
        (Mealy.run sample filter (samplesIn k o calls)).2 := by
  induction calls generalizing m filter with
  | nil => exact ⟨hFilter, rfl⟩
  | cons call rest ih =>
    have hStep := exec_signal hFilter hAlone (hKept call List.mem_cons_self)
    have hHead : Isolated k o [call] := fun type o' param sampleHz hMem =>
      hIsolated type o' param sampleHz (List.mem_cons.mpr (Or.inl (List.mem_singleton.mp hMem)))
    have hTail : Isolated k o rest := fun type o' param sampleHz hMem =>
      hIsolated type o' param sampleHz (List.mem_cons_of_mem call hMem)
    have hKeptTail : ∀ other ∈ rest, ¬ other.Touches k o := fun other hMem =>
      hKept other (List.mem_cons_of_mem call hMem)
    rw [run, Mealy.run_cons, samplesIn, samplesOut, List.zip_cons_cons, List.filterMap_cons,
      List.filterMap_cons]
    cases hSample : call.sampleIn k o with
    | none =>
      rw [hSample] at hStep
      obtain ⟨hNext, hOut⟩ := ih hStep.1 (hAlone.exec hHead) hTail hKeptTail
      dsimp only
      rw [hStep.2]
      exact ⟨hNext, hOut⟩
    | some bits =>
      rw [hSample] at hStep
      obtain ⟨hNext, hOut⟩ := ih hStep.1 (hAlone.exec hHead) hTail hKeptTail
      dsimp only
      rw [hStep.2, Mealy.run_cons]
      exact ⟨hNext, congrArg _ hOut⟩

end SignalMap

/-- In any run on a fresh registry, between a `set_filter` for an isolated signal and the next call that
sets or clears it, the values written at the signal are those of one fresh filter fed with the samples
of the signal. No call leaves the payload, and `apply` changes no byte outside the windows in range. -/
theorem FilterRegistry.signals_independent :
    (∀ (k : EventId) (type : FilterType) (o : UInt16) (param sampleHz : F)
      (before after : List (FilterCall F)),
      Isolated k o (before ++ .setFilter k type o param sampleHz :: after) →
      (∀ call ∈ after, ¬ call.Touches k o) →
      let signal := Mealy.run SignalMap.sample (createFilter type param sampleHz)
        (samplesIn k o after)
      ∃ reg outputs, (empty : FilterRegistry F).run
          (before ++ .setFilter k type o param sampleHz :: after) = some (reg, outputs) ∧
        FilterEntry.lookup (reg.listAt k.key) o = some signal.1 ∧
        samplesOut k o after (outputs.drop (before.length + 1)) = signal.2) ∧
    ∀ (calls : List (FilterCall F)) (k : EventId) (payload : Bytes),
      ∃ reg outputs reg' payload' any, (empty : FilterRegistry F).run calls = some (reg, outputs) ∧
        reg.apply k.svc k.inst k.evt payload = some (reg', payload', any) ∧
        payload'.length = payload.length ∧
        ∀ i, (∀ o, reg.Configured k o → o.toNat + 4 ≤ payload.length →
          i < o.toNat ∨ o.toNat + 4 ≤ i) → payload'[i]? = payload[i]? := by
  constructor
  · intro k type o param sampleHz before after hIsolated hKept
    obtain ⟨reg, hRun, hRep⟩ := Represents.empty.run (F := F)
      (before ++ .setFilter k type o param sampleHz :: after)
    obtain ⟨m, hMap⟩ : ∃ m, (SignalMap.run .empty before).1 = m := ⟨_, rfl⟩
    have hSet : (m.set k o (createFilter type param sampleHz)) k o =
        some (createFilter type param sampleHz) := by
      rw [SignalMap.set, Function.update_self, Function.update_self]
    have hAlone : (m.set k o (createFilter type param sampleHz)).Alone k o := by
      intro o' hSome hNe
      rw [SignalMap.set, Function.update_self, Function.update_of_ne hNe, ← hMap] at hSome
      rcases SignalMap.run_isSome .empty before hSome with hEmpty | ⟨type', param', hz', hMem⟩
      · cases hEmpty
      · exact hIsolated type' o' param' hz' (List.mem_append_left _ hMem) hNe
    have hAfter : Isolated k o after := fun type' o' param' hz' hMem =>
      hIsolated type' o' param' hz' (List.mem_append_right _ (List.mem_cons_of_mem _ hMem))
    obtain ⟨hFilter, hOut⟩ := SignalMap.run_signal hSet hAlone hAfter hKept
    have hLength : (SignalMap.run .empty before).2.length = before.length :=
      Mealy.run_output_length SignalMap.exec .empty before
    have hSplit : SignalMap.run .empty (before ++ .setFilter k type o param sampleHz :: after) =
        (((m.set k o (createFilter type param sampleHz)).run after).1,
          (SignalMap.run .empty before).2 ++
            .done :: ((m.set k o (createFilter type param sampleHz)).run after).2) := by
      rw [← hMap, SignalMap.run, Mealy.run_append]
      rfl
    rw [hSplit] at hRun hRep
    dsimp only at hRun hRep
    refine ⟨reg, _, hRun, ?_, ?_⟩
    · rw [← hRep.filters]
      exact hFilter
    · rw [← hOut, ← List.drop_drop, List.drop_left' hLength]
      rfl
  · intro calls k payload
    obtain ⟨reg, hRun, hRep⟩ := Represents.empty.run (F := F) calls
    obtain ⟨reg', hApply, -⟩ := hRep.apply k payload
    refine ⟨reg, _, reg', _, _, hRun, hApply, SignalMap.sweep_length _ _, fun i hOutside => ?_⟩
    exact SignalMap.sweep_outside _ _ fun o hSome => hOutside o ((hRep.configured_iff k o).mpr hSome)

/-- Calls after an averaging filter was set on the first float of an event: two of its messages, with a
second filter, a message without that float and a message of another event between them. -/
def gaugeCalls : List (FilterCall ExactSample) :=
  [.apply ⟨0x1111, 1, 0x8001⟩ [0, 0, 0x80, 0x3f],
    .setFilter ⟨0x1111, 1, 0x8001⟩ .passthrough 4 (.finite 0) (.finite 0),
    .apply ⟨0x1111, 1, 0x8001⟩ [9, 9, 9],
    .apply ⟨0x1111, 1, 0x8002⟩ [0, 0, 0, 0],
    .apply ⟨0x1111, 1, 0x8001⟩ [0, 0, 0x40, 0x40, 7]]

theorem FilterRegistry.signals_independent_gauge :
    ∃ reg outputs, (empty : FilterRegistry ExactSample).run
        (.setFilter ⟨0x1111, 1, 0x8001⟩ .ema 0 (.finite (1 / 2)) (.finite 0) :: gaugeCalls) =
          some (reg, outputs) ∧
      samplesOut ⟨0x1111, 1, 0x8001⟩ 0 gaugeCalls (outputs.drop 1) = [0x3f800000, 0x40000000] := by
  have hIsolated : Isolated ⟨0x1111, 1, 0x8001⟩ 0
      (.setFilter ⟨0x1111, 1, 0x8001⟩ .ema 0 (.finite (1 / 2)) (.finite 0) :: gaugeCalls) := by
    intro type o' param sampleHz hMem hNe
    simp only [gaugeCalls, List.mem_cons, FilterCall.setFilter.injEq, reduceCtorEq, true_and,
      false_or, List.not_mem_nil, or_false] at hMem
    rcases hMem with ⟨-, rfl, -⟩ | ⟨-, rfl, -⟩
    · exact absurd rfl hNe
    · exact Or.inl (by decide)
  obtain ⟨reg, outputs, hRun, -, hOut⟩ := signals_independent.1 ⟨0x1111, 1, 0x8001⟩ .ema 0
    (ExactSample.finite (1 / 2)) (ExactSample.finite 0) [] gaugeCalls hIsolated
    (by simp [gaugeCalls, FilterCall.Touches])
  refine ⟨reg, outputs, hRun, hOut.trans ?_⟩
  decide +kernel

end VsomeipDart
