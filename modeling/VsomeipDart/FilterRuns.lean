import VsomeipDart.FilterRefinement
import VsomeipDart.SignalSweep

/-! # Runs of the filter registry

Whole sequences of calls on a fresh registry, against the map from signals to filters.
-/

namespace VsomeipDart
set_option autoImplicit false

variable {F : Type}

/-- `o` is configured for `k`: the list of the event has an entry with this offset. -/
def FilterRegistry.Configured (reg : FilterRegistry F) (k : EventId) (o : UInt16) : Prop :=
  ∃ e ∈ reg.listAt k.key, e.payloadOffset = o

namespace Represents

variable {reg : FilterRegistry F} {m : SignalMap F}

theorem configured_iff (h : Represents reg m) (k : EventId) (o : UInt16) :
    reg.Configured k o ↔ (m k o).isSome := by
  rw [h.filters, FilterEntry.lookup_isSome_iff, List.mem_map]
  rfl

theorem mem_entries_iff (h : Represents reg m) (k : EventId) :
    k.key ∈ reg.entries ↔ ∃ o, (m k o).isSome := by
  constructor
  · intro hMem
    obtain ⟨list, hList⟩ := Option.isSome_iff_exists.mp (AList.lookup_isSome.mpr hMem)
    obtain ⟨e, rest, rfl⟩ := List.exists_cons_of_ne_nil (h.nonempty k.key list hList)
    refine ⟨e.payloadOffset, (h.configured_iff k _).mp ⟨e, ?_, rfl⟩⟩
    rw [FilterRegistry.listAt, hList]
    exact List.mem_cons_self
  · rintro ⟨o, hSome⟩
    obtain ⟨e, hMem, -⟩ := (h.configured_iff k o).mpr hSome
    rw [FilterRegistry.listAt] at hMem
    cases hList : reg.entries.lookup k.key with
    | none =>
      rw [hList] at hMem
      cases hMem
    | some list => exact AList.lookup_isSome.mp (by rw [hList]; rfl)

theorem hasFilter_iff (h : Represents reg m) (k : EventId) :
    reg.hasFilter k.svc k.inst k.evt = true ↔ ∃ o, (m k o).isSome := by
  rw [← h.mem_entries_iff, ← AList.lookup_isSome, FilterRegistry.hasFilter, ← EventId.key]
  cases hList : reg.entries.lookup k.key with
  | none => exact Iff.rfl
  | some list =>
    obtain ⟨e, rest, rfl⟩ := List.exists_cons_of_ne_nil (h.nonempty k.key list hList)
    exact ⟨fun _ => rfl, fun _ => rfl⟩

theorem count_eq (h : Represents reg m) :
    reg.count = Set.ncard {k : EventId | ∃ o, (m k o).isSome} := by
  have hKeys : EventId.key '' {k : EventId | ∃ o, (m k o).isSome} =
      (reg.entries.keys.toFinset : Set UInt64) := by
    ext key
    rw [List.coe_toFinset, Set.mem_ofPred_eq, ← AList.mem_keys]
    constructor
    · rintro ⟨k, hSome, rfl⟩
      exact (h.mem_entries_iff k).mpr hSome
    · intro hMem
      obtain ⟨k, rfl⟩ := h.packed key hMem
      exact ⟨k, (h.mem_entries_iff k).mp hMem, rfl⟩
  have hInjective : Function.Injective EventId.key := fun k k' hEq => EventId.key_inj.mp hEq
  rw [← Set.ncard_image_of_injective _ hInjective, hKeys, Set.ncard_coe_finset,
    List.toFinset_card_of_nodup (AList.keys_nodup reg.entries)]
  rfl

end Represents

section Order

def FilterCall.setTarget : FilterCall F → Option (EventId × UInt16)
  | .setFilter k _ o _ _ => some (k, o)
  | _ => none

def DistinctSets (sets : List (FilterCall F)) : Prop :=
  (∀ call ∈ sets, call.setTarget.isSome) ∧ (sets.map FilterCall.setTarget).Nodup

theorem DistinctSets.tail {call : FilterCall F} {sets : List (FilterCall F)}
    (h : DistinctSets (call :: sets)) : DistinctSets sets :=
  ⟨fun other hMem => h.1 other (List.mem_cons_of_mem call hMem), (List.nodup_cons.mp h.2).2⟩

theorem DistinctSets.perm {sets sets' : List (FilterCall F)} (h : DistinctSets sets)
    (hPerm : sets.Perm sets') : DistinctSets sets' :=
  ⟨fun call hMem => h.1 call (hPerm.mem_iff.mpr hMem), (hPerm.map _).nodup_iff.mp h.2⟩

theorem SignalMap.set_comm (m : SignalMap F) {k k' : EventId} {o o' : UInt16}
    (hNe : (k, o) ≠ (k', o')) (filter filter' : SignalFilter F) :
    (m.set k o filter).set k' o' filter' = (m.set k' o' filter').set k o filter := by
  rcases eq_or_ne k k' with rfl | hEvent
  · have ho : o ≠ o' := fun hEq => hNe (by rw [hEq])
    rw [set, set, set, set, Function.update_self, Function.update_self, Function.update_idem,
      Function.update_idem, Function.update_comm ho]
  · rw [set, set, set, set, Function.update_of_ne (Ne.symm hEvent), Function.update_of_ne hEvent,
      Function.update_comm hEvent]

variable [FloatOps F]

theorem SignalMap.exec_comm (m : SignalMap F) {call call' : FilterCall F}
    (hDistinct : DistinctSets [call, call']) :
    m.run [call, call'] = m.run [call', call] := by
  have hCall := hDistinct.1 call List.mem_cons_self
  have hCall' := hDistinct.1 call' (List.mem_cons_of_mem _ List.mem_cons_self)
  cases call with
  | setFilter k type o param sampleHz =>
    cases call' with
    | setFilter k' type' o' param' sampleHz' =>
      have hNe : (k, o) ≠ (k', o') := by
        intro hEq
        have hNodup := hDistinct.2
        simp [FilterCall.setTarget, hEq] at hNodup
      exact Prod.ext (set_comm m hNe _ _) rfl
    | clearFilter => cases hCall'
    | clearFilterAt => cases hCall'
    | apply => cases hCall'
  | clearFilter => cases hCall
  | clearFilterAt => cases hCall
  | apply => cases hCall

theorem SignalMap.run_sets_perm {sets sets' : List (FilterCall F)} (hPerm : sets.Perm sets')
    (hDistinct : DistinctSets sets) (m : SignalMap F) : m.run sets = m.run sets' := by
  induction hPerm generalizing m with
  | nil => rfl
  | cons call hPerm ih =>
    rw [run, run, Mealy.run_cons, Mealy.run_cons, ← run, ← run, ih hDistinct.tail]
  | swap call call' rest =>
    have hPair : DistinctSets [call', call] :=
      ⟨fun other hMem => hDistinct.1 other (List.mem_append_left rest hMem),
        hDistinct.2.sublist ((List.prefix_append [call', call] rest).sublist.map _)⟩
    have hComm := exec_comm m hPair
    rw [run, run] at hComm
    show m.run ([call', call] ++ rest) = m.run ([call, call'] ++ rest)
    rw [run, run, Mealy.run_append, Mealy.run_append, hComm]
  | trans hFirst _ ihFirst ihSecond =>
    exact (ihFirst hDistinct m).trans (ihSecond (hDistinct.perm hFirst) m)

/-- The registry is a finite map from signals to filters. After any calls on a fresh registry its lists
are non-empty and strictly increasing, its queries and the outputs of all calls are those of the map,
and exchanging `set_filter` calls that name different signals changes no output. -/
theorem FilterRegistry.refines_signal_map (calls : List (FilterCall F)) :
    (∃ reg, (empty : FilterRegistry F).run calls =
        some (reg, (SignalMap.empty.run calls).2) ∧
      (∀ key list, reg.entries.lookup key = some list →
        list ≠ [] ∧ (list.map FilterEntry.payloadOffset).Pairwise (· < ·)) ∧
      (∀ k o, FilterEntry.lookup (reg.listAt k.key) o = (SignalMap.empty.run calls).1 k o) ∧
      (∀ k, reg.hasFilter k.svc k.inst k.evt = true ↔
        ∃ o, ((SignalMap.empty.run calls).1 k o).isSome) ∧
      reg.count = Set.ncard {k : EventId | ∃ o, ((SignalMap.empty.run calls).1 k o).isSome}) ∧
    (∀ k payload, (SignalMap.sweep ((SignalMap.empty.run calls).1 k) payload).any = true ↔
      ∃ o, ((SignalMap.empty.run calls).1 k o).isSome ∧ o.toNat + 4 ≤ payload.length) ∧
    ∀ sets sets' after : List (FilterCall F), DistinctSets sets → sets.Perm sets' →
      ((empty : FilterRegistry F).run (calls ++ sets ++ after)).map Prod.snd =
        ((empty : FilterRegistry F).run (calls ++ sets' ++ after)).map Prod.snd := by
  refine ⟨?_, fun k payload => SignalMap.sweep_any _ payload, ?_⟩
  · obtain ⟨reg, hRun, hRep⟩ := Represents.empty.run calls
    refine ⟨reg, hRun, fun key list hList => ⟨hRep.nonempty key list hList, ?_⟩,
      fun k o => (hRep.filters k o).symm, hRep.hasFilter_iff, hRep.count_eq⟩
    exact (FilterEntry.sorted_iff_offsets list).mp (hRep.sorted key list hList)
  · intro sets sets' after hDistinct hPerm
    obtain ⟨reg, hRun, -⟩ := Represents.empty.run (F := F) (calls ++ sets ++ after)
    obtain ⟨reg', hRun', -⟩ := Represents.empty.run (F := F) (calls ++ sets' ++ after)
    have hSame : SignalMap.empty.run (calls ++ sets ++ after) =
        SignalMap.empty.run (calls ++ sets' ++ after) := by
      have hSets := SignalMap.run_sets_perm hPerm hDistinct (SignalMap.empty.run calls).1
      simp only [SignalMap.run, Mealy.run_append] at hSets ⊢
      rw [hSets]
    rw [hRun, hRun', hSame]
    rfl

end Order

end VsomeipDart
