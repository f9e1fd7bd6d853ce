import VsomeipDart.Delivery
import VsomeipDart.SignalSweep

/-! # A message that several handlers get

Every handler gets a copy of the payload that was filtered anew, so that each filter of the event takes the
same float as often as there are handlers.
-/

namespace VsomeipDart
set_option autoImplicit false

open LittleEndian

section Entries

variable {F : Type} [FloatOps F]

/-- Fed with the same bits `n` times, the filter gives these bits every time. -/
def SignalFilter.Repeats (n : Nat) (filter : SignalFilter F) (bits : Nat) : Prop :=
  (Mealy.run SignalMap.sample filter (List.replicate n bits)).2 = List.replicate n bits

namespace FilterEntry

/-- Every float of the payload that the entry filters, if it takes it `n` times, stays as it is. -/
def Repeats (n : Nat) (payload : Bytes) (e : FilterEntry F) : Prop :=
  e.offset + 4 ≤ payload.length → e.filter.Repeats n (window 4 payload e.offset)

def fed (payload : Bytes) (e : FilterEntry F) : FilterEntry F :=
  if e.offset + 4 ≤ payload.length then
    { e with filter := (SignalMap.sample e.filter (window 4 payload e.offset)).1 }
  else e

@[simp] theorem fed_payloadOffset (payload : Bytes) (e : FilterEntry F) :
    (e.fed payload).payloadOffset = e.payloadOffset := by
  unfold fed
  split <;> rfl

theorem fed_of_fits {payload : Bytes} {e : FilterEntry F} (h : e.offset + 4 ≤ payload.length) :
    e.fed payload =
      { e with filter := (SignalMap.sample e.filter (window 4 payload e.offset)).1 } :=
  if_pos h

theorem fed_of_short {payload : Bytes} {e : FilterEntry F} (h : payload.length < e.offset + 4) :
    e.fed payload = e :=
  if_neg (by omega)

theorem repeats_zero (payload : Bytes) (e : FilterEntry F) : e.Repeats 0 payload := fun _ => rfl

theorem repeats_one {payload : Bytes} {e : FilterEntry F} : e.Repeats 1 payload ↔
    (e.offset + 4 ≤ payload.length →
      (SignalMap.sample e.filter (window 4 payload e.offset)).2 = window 4 payload e.offset) := by
  simp [Repeats, SignalFilter.Repeats]

theorem repeats_succ {n : Nat} {payload : Bytes} {e : FilterEntry F} :
    e.Repeats (n + 1) payload ↔ e.Repeats 1 payload ∧ (e.fed payload).Repeats n payload := by
  rw [repeats_one]
  rcases Nat.lt_or_ge payload.length (e.offset + 4) with hShort | hFits
  · rw [fed_of_short hShort]
    have hOut : ¬ e.offset + 4 ≤ payload.length := by omega
    exact ⟨fun _ => ⟨fun h => absurd h hOut, fun h => absurd h hOut⟩, fun _ h => absurd h hOut⟩
  · rw [fed_of_fits hFits]
    unfold Repeats SignalFilter.Repeats
    rw [List.replicate_succ, Mealy.run_cons, List.cons.injEq]
    exact ⟨fun h => ⟨fun _ => (h hFits).1, fun _ => (h hFits).2⟩,
      fun h hFits' => ⟨h.1 hFits', h.2 hFits'⟩⟩

theorem repeats_iff {n : Nat} {payload : Bytes} {e : FilterEntry F} :
    e.Repeats n payload ↔ ∀ k < n, ((fed payload)^[k] e).Repeats 1 payload := by
  induction n generalizing e with
  | zero => exact ⟨fun _ k hk => absurd hk (Nat.not_lt_zero k), fun _ => repeats_zero payload e⟩
  | succ n ih =>
    rw [repeats_succ, ih]
    constructor
    · rintro ⟨hFirst, hRest⟩ k hk
      cases k with
      | zero => exact hFirst
      | succ k => exact hRest k (by omega)
    · exact fun h => ⟨h 0 (by omega), fun k hk => h (k + 1) (by omega)⟩

end FilterEntry

namespace FilterRegistry

theorem applyEntries_fits {e : FilterEntry F} {payload : Bytes} (h : e.offset + 4 ≤ payload.length)
    (rest : List (FilterEntry F)) (any : Bool) :
    applyEntries (e :: rest) payload any =
      (applyEntries rest (patch 4 payload e.offset
        (SignalMap.sample e.filter (window 4 payload e.offset)).2) true).map
        fun out => (e.fed payload :: out.1, out.2) := by
  rw [applyEntries_sample h rfl, FilterEntry.fed_of_fits h]
  rfl

theorem applyEntries_repeats {entries : List (FilterEntry F)} {payload : Bytes}
    (h : ∀ e ∈ entries, e.Repeats 1 payload) (any : Bool) :
    ∃ any', applyEntries entries payload any =
      some (entries.map (FilterEntry.fed payload), payload, any') := by
  induction entries generalizing any with
  | nil => exact ⟨any, rfl⟩
  | cons e rest ih =>
    obtain ⟨hHead, hRest⟩ := List.forall_mem_cons.mp h
    rcases Nat.lt_or_ge payload.length (e.offset + 4) with hShort | hFits
    · obtain ⟨any', hLoop⟩ := ih hRest any
      refine ⟨any', ?_⟩
      rw [applyEntries_skip hShort, hLoop, List.map_cons, FilterEntry.fed_of_short hShort]
      rfl
    · obtain ⟨any', hLoop⟩ := ih hRest true
      refine ⟨any', ?_⟩
      have hSame := FilterEntry.repeats_one.mp hHead hFits
      rw [applyEntries_fits hFits, hSame, patch_window hFits, hLoop]
      rfl

/-- No two of the floats that the entries filter share a byte. -/
def WindowsApart (entries : List (FilterEntry F)) : Prop :=
  entries.Pairwise fun e e' => SignalMap.Apart e.payloadOffset e'.payloadOffset

theorem WindowsApart.fed {entries : List (FilterEntry F)} (h : WindowsApart entries)
    (payload : Bytes) : WindowsApart (entries.map (FilterEntry.fed payload)) := by
  rw [WindowsApart, List.pairwise_map]
  exact h.imp fun hApart => by simpa using hApart

/-- Over windows that are apart, each filter takes its own float of the original payload and leaves its
result there. Induction over the entries, with the payload as it evolves. -/
theorem applyEntries_apart {entries : List (FilterEntry F)} (hApart : WindowsApart entries)
    (payload : Bytes) (any : Bool) :
    ∃ payload' any', applyEntries entries payload any =
        some (entries.map (FilterEntry.fed payload), payload', any') ∧
      (∀ o, (∀ e ∈ entries, SignalMap.Apart e.payloadOffset o) →
        window 4 payload' o.toNat = window 4 payload o.toNat) ∧
      ∀ e ∈ entries, e.offset + 4 ≤ payload.length → window 4 payload' e.offset =
        (SignalMap.sample e.filter (window 4 payload e.offset)).2 := by
  induction entries generalizing payload any with
  | nil => exact ⟨payload, any, rfl, fun _ _ => rfl, fun e hMem => absurd hMem List.not_mem_nil⟩
  | cons e rest ih =>
    obtain ⟨hHead, hRest⟩ := List.pairwise_cons.mp hApart
    rcases Nat.lt_or_ge payload.length (e.offset + 4) with hShort | hFits
    · obtain ⟨payload', any', hLoop, hOutside, hOwn⟩ := ih hRest payload any
      refine ⟨payload', any', ?_, fun o h => hOutside o fun e' hMem =>
        h e' (List.mem_cons_of_mem e hMem), ?_⟩
      · rw [applyEntries_skip hShort, hLoop, List.map_cons, FilterEntry.fed_of_short hShort]
        rfl
      · intro e' hMem hFits'
        rcases List.mem_cons.mp hMem with rfl | hMem
        · omega
        · exact hOwn e' hMem hFits'
    · obtain ⟨written, hWritten⟩ : ∃ written, patch 4 payload e.offset
        (SignalMap.sample e.filter (window 4 payload e.offset)).2 = written := ⟨_, rfl⟩
      have hLength : written.length = payload.length := hWritten ▸ patch_length hFits _
      have hKept : ∀ o : UInt16, SignalMap.Apart e.payloadOffset o →
          window 4 written o.toNat = window 4 payload o.toNat := fun o h =>
        hWritten ▸ window_patch_disjoint hFits _ h
      have hFed : rest.map (FilterEntry.fed written) = rest.map (FilterEntry.fed payload) := by
        refine List.map_congr_left fun e' hMem => ?_
        rw [FilterEntry.fed, FilterEntry.fed, hLength, FilterEntry.offset,
          hKept _ (hHead e' hMem)]
      obtain ⟨payload', any', hLoop, hOutside, hOwn⟩ := ih hRest written true
      refine ⟨payload', any', ?_, fun o h => ?_, ?_⟩
      · rw [applyEntries_fits hFits, hWritten, hLoop, hFed]
        rfl
      · rw [hOutside o fun e' hMem => h e' (List.mem_cons_of_mem e hMem)]
        exact hKept o (h e List.mem_cons_self)
      · intro e' hMem hFits'
        rcases List.mem_cons.mp hMem with rfl | hMem
        · rw [FilterEntry.offset, hOutside _ fun e' hMem => Or.symm (hHead e' hMem), ← hWritten]
          exact window_patch_same hFits (SignalMap.sample_bits_lt _ _)
        · rw [hOwn e' hMem (hLength ▸ hFits'), FilterEntry.offset, hKept _ (hHead e' hMem)]

end FilterRegistry

end Entries

namespace Bridge

variable {F : Type} [FloatOps F]

def entriesOf (filters : FilterRegistry F) (msg : Vsomeip.Message) : List (FilterEntry F) :=
  filters.listAt (FilterRegistry.makeKey msg.service msg.instanceId msg.method)

theorem filteredPayload_cases (filters : FilterRegistry F) (msg : Vsomeip.Message) :
    ((∀ e ∈ entriesOf filters msg, msg.payload.length < e.offset + 4) ∧
      filteredPayload filters msg = some (filters, msg.payload)) ∨
    ∃ filters' payload any, filteredPayload filters msg = some (filters', payload) ∧
      FilterRegistry.applyEntries (entriesOf filters msg) msg.payload false =
        some (entriesOf filters' msg, payload, any) := by
  rcases Nat.eq_zero_or_pos msg.payload.length with hNil | hPos
  · refine Or.inl ⟨fun e _ => by omega, ?_⟩
    rw [filteredPayload, hNil]
    rfl
  cases hFilter : filters.hasFilter msg.service msg.instanceId msg.method with
  | false =>
    refine Or.inl ⟨?_, filteredPayload_unfiltered hFilter⟩
    rw [FilterRegistry.hasFilter_listAt, Bool.not_eq_false', List.isEmpty_iff] at hFilter
    rw [entriesOf, hFilter]
    exact fun e hMem => absurd hMem List.not_mem_nil
  | true =>
    obtain ⟨list, payload, any, hLoop, -⟩ :=
      FilterRegistry.applyEntries_total (entriesOf filters msg) msg.payload false
    refine Or.inr ⟨⟨filters.entries.insert
      (FilterRegistry.makeKey msg.service msg.instanceId msg.method) list⟩, payload, any, ?_, ?_⟩
    · have hApply := FilterRegistry.apply_listAt hFilter msg.payload
      rw [← entriesOf, hLoop] at hApply
      rw [filteredPayload, if_pos (by simp [hPos, hFilter]), hApply]
      rfl
    · rw [hLoop]
      simp [entriesOf, FilterRegistry.listAt]

variable {filters : FilterRegistry F} {msg : Vsomeip.Message}

theorem map_fed_short {entries : List (FilterEntry F)} {payload : Bytes}
    (h : ∀ e ∈ entries, payload.length < e.offset + 4) :
    entries.map (FilterEntry.fed payload) = entries :=
  (List.map_congr_left fun e hMem => FilterEntry.fed_of_short (h e hMem)).trans (List.map_id entries)

theorem filteredPayload_repeats (h : ∀ e ∈ entriesOf filters msg, e.Repeats 1 msg.payload) :
    ∃ filters', filteredPayload filters msg = some (filters', msg.payload) ∧
      entriesOf filters' msg = (entriesOf filters msg).map (FilterEntry.fed msg.payload) := by
  rcases filteredPayload_cases filters msg with ⟨hShort, hPayload⟩ |
    ⟨filters', payload, any, hPayload, hLoop⟩
  · exact ⟨filters, hPayload, (map_fed_short hShort).symm⟩
  · obtain ⟨any', hSame⟩ := FilterRegistry.applyEntries_repeats h false
    rw [hSame] at hLoop
    obtain ⟨hEntries, rfl, -⟩ : (entriesOf filters msg).map (FilterEntry.fed msg.payload) =
        entriesOf filters' msg ∧ msg.payload = payload ∧ any' = any := by simpa using hLoop
    exact ⟨filters', hPayload, hEntries.symm⟩

theorem filteredPayload_apart (hApart : FilterRegistry.WindowsApart (entriesOf filters msg)) :
    ∃ filters' payload, filteredPayload filters msg = some (filters', payload) ∧
      entriesOf filters' msg = (entriesOf filters msg).map (FilterEntry.fed msg.payload) ∧
      (payload = msg.payload → ∀ e ∈ entriesOf filters msg, e.Repeats 1 msg.payload) := by
  rcases filteredPayload_cases filters msg with ⟨hShort, hPayload⟩ |
    ⟨filters', payload, any, hPayload, hLoop⟩
  · refine ⟨filters, msg.payload, hPayload, (map_fed_short hShort).symm, fun _ e hMem hFits => ?_⟩
    have hOut := hShort e hMem
    omega
  · obtain ⟨payload', any', hSame, -, hOwn⟩ :=
      FilterRegistry.applyEntries_apart hApart msg.payload false
    rw [hSame] at hLoop
    obtain ⟨hEntries, rfl, -⟩ : (entriesOf filters msg).map (FilterEntry.fed msg.payload) =
        entriesOf filters' msg ∧ payload' = payload ∧ any' = any := by simpa using hLoop
    refine ⟨filters', payload', hPayload, hEntries.symm, fun hUnchanged e hMem => ?_⟩
    refine FilterEntry.repeats_one.mpr fun hFits => ?_
    rw [← hOwn e hMem hFits, hUnchanged]

/-- Filters that repeat the floats of a message leave it as it is for every one of its handlers. -/
theorem callHandlers_repeats (h : msg.payload.length ≤ kMaxPayloadBytes.toNat)
    (handlers : List (HandlerKey × DartPort))
    (hRepeats : ∀ e ∈ entriesOf filters msg, e.Repeats handlers.length msg.payload) :
    ∃ filters', callHandlers filters msg handlers = some (filters',
      handlers.map fun handler => (handler.1, handler.2, postOf msg msg.payload)) := by
  induction handlers generalizing filters with
  | nil => exact ⟨filters, rfl⟩
  | cons handler rest ih =>
    obtain ⟨key, port⟩ := handler
    have hFirst : ∀ e ∈ entriesOf filters msg, e.Repeats 1 msg.payload := fun e hMem =>
      (FilterEntry.repeats_succ.mp (hRepeats e hMem)).1
    obtain ⟨filters₁, hPayload, hEntries⟩ := filteredPayload_repeats hFirst
    have hRest : ∀ e ∈ entriesOf filters₁ msg, e.Repeats rest.length msg.payload := by
      intro e hMem
      rw [hEntries] at hMem
      obtain ⟨e', hMem', rfl⟩ := List.mem_map.mp hMem
      exact (FilterEntry.repeats_succ.mp (hRepeats e' hMem')).2
    obtain ⟨filters', hCall⟩ := ih hRest
    refine ⟨filters', ?_⟩
    rw [callHandlers_cons h hPayload, hCall]
    rfl

/-- If the handler behind `front` gets the payload as it is, the filters repeat it at that call. -/
theorem callHandlers_apart (h : msg.payload.length ≤ kMaxPayloadBytes.toNat)
    (front : List (HandlerKey × DartPort)) {key : HandlerKey} {port : DartPort}
    {back : List (HandlerKey × DartPort)} {filters' : FilterRegistry F}
    {posts : List (HandlerKey × DartPort × MessagePost)}
    (hApart : FilterRegistry.WindowsApart (entriesOf filters msg))
    (hCall : callHandlers filters msg (front ++ (key, port) :: back) = some (filters', posts))
    (hPost : posts[front.length]? = some (key, port, postOf msg msg.payload)) :
    ∀ e ∈ entriesOf filters msg,
      ((FilterEntry.fed msg.payload)^[front.length] e).Repeats 1 msg.payload := by
  induction front generalizing filters posts with
  | nil =>
    obtain ⟨filters₁, payload, hPayload, -, hRepeats⟩ := filteredPayload_apart hApart
    rw [List.nil_append, callHandlers_cons h hPayload] at hCall
    obtain ⟨rest, -, hOut⟩ := Option.map_eq_some_iff.mp hCall
    cases hOut
    exact hRepeats (postOf_inj (by simpa using hPost))
  | cons handler front ih =>
    obtain ⟨filters₁, payload, hPayload, hEntries, -⟩ := filteredPayload_apart hApart
    obtain ⟨first, own⟩ := handler
    rw [List.cons_append, callHandlers_cons h hPayload] at hCall
    obtain ⟨rest, hRest, hOut⟩ := Option.map_eq_some_iff.mp hCall
    cases hOut
    have hApart₁ : FilterRegistry.WindowsApart (entriesOf filters₁ msg) :=
      hEntries ▸ hApart.fed msg.payload
    intro e hMem
    refine ih hApart₁ hRest (by simpa using hPost) (e.fed msg.payload) ?_
    rw [hEntries]
    exact List.mem_map_of_mem hMem

end Bridge

end VsomeipDart
