import Mathlib.Data.Set.Card
import VsomeipDart.Lib.FiniteMap
import VsomeipDart.SignalMap

/-! # The registry refines the map from signals to filters

`Represents` relates the packed keys and the sorted lists of the registry to a `SignalMap`; every call
keeps it and gives the output that the map gives.
-/

namespace VsomeipDart
set_option autoImplicit false

open LittleEndian

namespace FilterEntry

variable {F : Type}

def lookup (list : List (FilterEntry F)) (o : UInt16) : Option (SignalFilter F) :=
  (KeyedList.lookup offset o.toNat list).map filter

theorem lookup_cons (e : FilterEntry F) (rest : List (FilterEntry F)) (o : UInt16) :
    lookup (e :: rest) o = if e.payloadOffset = o then some e.filter else lookup rest o := by
  rw [lookup, KeyedList.lookup_cons, offset]
  by_cases ho : e.payloadOffset = o
  · rw [if_pos ho, if_pos (congrArg UInt16.toNat ho)]
    rfl
  · rw [if_neg ho, if_neg (fun h => ho (UInt16.toNat.inj h))]
    rfl

theorem lookup_isSome_iff (list : List (FilterEntry F)) (o : UInt16) :
    (lookup list o).isSome ↔ o ∈ list.map payloadOffset := by
  induction list with
  | nil => simp [lookup]
  | cons e rest ih =>
    rw [lookup_cons, List.map_cons, List.mem_cons]
    by_cases ho : e.payloadOffset = o
    · simp [ho]
    · rw [if_neg ho, ih, or_iff_right (Ne.symm ho)]

theorem lookup_eq_none {list : List (FilterEntry F)} {o : UInt16}
    (h : o ∉ list.map payloadOffset) : lookup list o = none := by
  rwa [← lookup_isSome_iff, Bool.not_eq_true, Option.isSome_eq_false_iff,
    Option.isNone_iff_eq_none] at h

theorem sorted_iff_offsets (list : List (FilterEntry F)) :
    KeyedList.Sorted offset list ↔ (list.map payloadOffset).Pairwise (· < ·) := by
  rw [List.pairwise_map]
  rfl

end FilterEntry

namespace FilterRegistry

variable {F : Type} [FloatOps F]

/-- The loop over a sorted list is a sweep over its offsets, and stays inside the payload. The
induction keeps a map `filters` that agrees with the entries still ahead. -/
theorem applyEntries_eq (entries : List (FilterEntry F))
    (hSorted : KeyedList.Sorted FilterEntry.offset entries)
    (s : SignalMap.Sweep F) (hFilters : ∀ e ∈ entries, s.filters e.payloadOffset = some e.filter) :
    let s' := (entries.map FilterEntry.payloadOffset).foldl SignalMap.feed s
    ∃ entries', applyEntries entries s.payload s.any = some (entries', s'.payload, s'.any) ∧
      entries'.map FilterEntry.payloadOffset = entries.map FilterEntry.payloadOffset ∧
      s'.filters = fun o => (FilterEntry.lookup entries' o).or (s.filters o) := by
  induction entries generalizing s with
  | nil => exact ⟨[], rfl, rfl, rfl⟩
  | cons e rest ih =>
    obtain ⟨hHead, hRest⟩ := List.pairwise_cons.mp hSorted
    have hOwn : s.filters e.payloadOffset = some e.filter := hFilters e List.mem_cons_self
    have hNe : ∀ b ∈ rest, b.payloadOffset ≠ e.payloadOffset := by
      intro b hb hEq
      exact (hHead b hb).ne (congrArg UInt16.toNat hEq.symm)
    have hFresh : e.payloadOffset ∉ rest.map FilterEntry.payloadOffset := by
      intro hMem
      obtain ⟨b, hb, hEq⟩ := List.mem_map.mp hMem
      exact hNe b hb hEq
    by_cases hFits : e.offset + 4 ≤ s.payload.length
    · obtain ⟨v, filter, hSample⟩ : ∃ v filter, e.filter.apply
        (FloatOps.ofBits (UInt32.ofNat (window 4 s.payload e.offset))) = (v, filter) := ⟨_, _, rfl⟩
      have hFeed : SignalMap.feed s e.payloadOffset =
          ⟨Function.update s.filters e.payloadOffset (some filter),
            patch 4 s.payload e.offset (FloatOps.toBits v).toNat, true⟩ := by
        rw [SignalMap.feed, hOwn]
        refine (if_pos hFits).trans ?_
        rw [← FilterEntry.offset, SignalMap.sample, hSample]
      have hFilters' : ∀ b ∈ rest,
          (SignalMap.feed s e.payloadOffset).filters b.payloadOffset = some b.filter := by
        intro b hb
        simp only [hFeed, Function.update_of_ne (hNe b hb)]
        exact hFilters b (List.mem_cons_of_mem _ hb)
      obtain ⟨rest', hLoop, hKeys, hAfter⟩ := ih hRest (SignalMap.feed s e.payloadOffset) hFilters'
      refine ⟨{ e with filter } :: rest', ?_, ?_, ?_⟩
      · rw [hFeed] at hLoop
        rw [applyEntries_sample hFits hSample, hLoop, List.map_cons, List.foldl_cons, hFeed]
        rfl
      · rw [List.map_cons, List.map_cons, hKeys]
      · rw [List.map_cons, List.foldl_cons, hAfter]
        funext o
        rw [FilterEntry.lookup_cons]
        simp only [hFeed]
        rcases eq_or_ne e.payloadOffset o with rfl | ho
        · rw [FilterEntry.lookup_eq_none (hKeys ▸ hFresh), Function.update_self, if_pos rfl]
          rfl
        · rw [Function.update_of_ne (Ne.symm ho), if_neg ho]
    · have hFeed : SignalMap.feed s e.payloadOffset = s := by
        rw [SignalMap.feed, hOwn]
        exact if_neg hFits
      obtain ⟨rest', hLoop, hKeys, hAfter⟩ :=
        ih hRest s fun b hb => hFilters b (List.mem_cons_of_mem _ hb)
      refine ⟨e :: rest', ?_, ?_, ?_⟩
      · rw [applyEntries_skip (by omega), List.map_cons, List.foldl_cons, hFeed, hLoop]
        rfl
      · rw [List.map_cons, List.map_cons, hKeys]
      · rw [List.map_cons, List.foldl_cons, hFeed, hAfter]
        funext o
        rw [FilterEntry.lookup_cons]
        rcases eq_or_ne e.payloadOffset o with rfl | ho
        · rw [FilterEntry.lookup_eq_none (hKeys ▸ hFresh), if_pos rfl, hOwn]
          rfl
        · rw [if_neg ho]

end FilterRegistry

/-- `reg` holds the filters of `m`: every list is sorted and non-empty, every key is packed from the ids
of an event, and looking an offset up in the list of an event gives the filter of that signal. -/
structure Represents {F : Type} (reg : FilterRegistry F) (m : SignalMap F) : Prop where
  nonempty : ∀ key list, reg.entries.lookup key = some list → list ≠ []
  sorted : ∀ key list, reg.entries.lookup key = some list →
    KeyedList.Sorted FilterEntry.offset list
  packed : ∀ key ∈ reg.entries, ∃ k : EventId, k.key = key
  filters : ∀ (k : EventId) o, m k o = FilterEntry.lookup (reg.listAt k.key) o

namespace Represents

variable {F : Type} {reg : FilterRegistry F} {m : SignalMap F}

theorem empty : Represents (F := F) .empty .empty where
  nonempty key list h := by cases h
  sorted key list h := by cases h
  packed key h := absurd h (AList.notMem_empty key)
  filters k o := rfl

theorem sorted_listAt (h : Represents reg m) (key : UInt64) :
    KeyedList.Sorted FilterEntry.offset (reg.listAt key) := by
  rw [FilterRegistry.listAt]
  cases hList : reg.entries.lookup key with
  | none => exact List.Pairwise.nil
  | some list => exact h.sorted key list hList

theorem insert (h : Represents reg m) (k : EventId) {list : List (FilterEntry F)}
    (hNonempty : list ≠ []) (hSorted : KeyedList.Sorted FilterEntry.offset list)
    {filters : UInt16 → Option (SignalFilter F)}
    (hFilters : ∀ o, filters o = FilterEntry.lookup list o) :
    Represents ⟨reg.entries.insert k.key list⟩ (Function.update m k filters) where
  nonempty key list' hList := by
    rw [FiniteMap.lookup_insert] at hList
    split at hList
    · cases hList
      exact hNonempty
    · exact h.nonempty key list' hList
  sorted key list' hList := by
    rw [FiniteMap.lookup_insert] at hList
    split at hList
    · cases hList
      exact hSorted
    · exact h.sorted key list' hList
  packed key hMem := by
    rcases (AList.mem_insert _).mp hMem with rfl | hMem
    · exact ⟨k, rfl⟩
    · exact h.packed key hMem
  filters k' o := by
    rcases eq_or_ne k' k with rfl | hEvent
    · rw [Function.update_self, hFilters, FilterRegistry.listAt, AList.lookup_insert]
      rfl
    · have hKey : k'.key ≠ k.key := fun hEq => hEvent (EventId.key_inj.mp hEq)
      rw [Function.update_of_ne hEvent, h.filters, FilterRegistry.listAt, FilterRegistry.listAt,
        AList.lookup_insert_ne hKey]

theorem erase (h : Represents reg m) (k : EventId) :
    Represents ⟨reg.entries.erase k.key⟩ (m.clear k) where
  nonempty key list hList := by
    rw [FiniteMap.lookup_erase] at hList
    split at hList
    · cases hList
    · exact h.nonempty key list hList
  sorted key list hList := by
    rw [FiniteMap.lookup_erase] at hList
    split at hList
    · cases hList
    · exact h.sorted key list hList
  packed key hMem := h.packed key (AList.mem_erase.mp hMem).2
  filters k' o := by
    rcases eq_or_ne k' k with rfl | hEvent
    · rw [SignalMap.clear, Function.update_self, FilterRegistry.listAt, AList.lookup_erase]
      rfl
    · have hKey : k'.key ≠ k.key := fun hEq => hEvent (EventId.key_inj.mp hEq)
      rw [SignalMap.clear, Function.update_of_ne hEvent, h.filters, FilterRegistry.listAt,
        FilterRegistry.listAt, AList.lookup_erase_ne hKey]

theorem clearFilterAt (h : Represents reg m) (k : EventId) (o : UInt16) :
    Represents (reg.clearFilterAt k.svc k.inst k.evt o) (m.clearAt k o) := by
  have hLookup : ∀ list : List (FilterEntry F), reg.listAt k.key = list → ∀ o',
      Function.update (m k) o none o' =
        FilterEntry.lookup (KeyedList.erase FilterEntry.offset o.toNat list) o' := by
    rintro list rfl o'
    rw [FilterEntry.lookup, KeyedList.lookup_erase]
    rcases eq_or_ne o' o with rfl | ho
    · rw [Function.update_self, if_pos rfl]
      rfl
    · rw [Function.update_of_ne ho, if_neg (fun hEq => ho (UInt16.toNat.inj hEq)), h.filters]
      rfl
  unfold FilterRegistry.clearFilterAt
  rw [← EventId.key]
  dsimp only
  cases hList : reg.entries.lookup k.key with
  | none =>
    have hNone : reg.listAt k.key = [] := by rw [FilterRegistry.listAt, hList]; rfl
    have hSame : m.clearAt k o = m := by
      rw [SignalMap.clearAt, Function.update_eq_self_iff, Function.update_eq_self_iff, h.filters,
        hNone]
      rfl
    rwa [hSame]
  | some list =>
    have hAt : reg.listAt k.key = list := by rw [FilterRegistry.listAt, hList]; rfl
    dsimp only
    cases hErased : KeyedList.erase FilterEntry.offset o.toNat list with
    | nil =>
      have hClear : m.clearAt k o = m.clear k := by
        refine congrArg (Function.update m k) (funext fun o' => ?_)
        rw [hLookup list hAt o', hErased]
        rfl
      rw [hClear]
      exact h.erase k
    | cons e rest =>
      refine h.insert k (List.cons_ne_nil e rest) ?_ (hErased ▸ hLookup list hAt)
      exact hErased ▸ (h.sorted k.key list hList).erase o.toNat

variable [FloatOps F]

theorem setFilter (h : Represents reg m) (k : EventId) (type : FilterType) (o : UInt16)
    (param sampleHz : F) :
    Represents (reg.setFilter k.svc k.inst k.evt type o param sampleHz)
      (m.set k o (createFilter type param sampleHz)) := by
  have hSorted := h.sorted_listAt k.key
  have hUpdate : ∀ list' : List (FilterEntry F),
      (∀ n, KeyedList.lookup FilterEntry.offset n list' = if o.toNat = n
        then some ⟨o, createFilter type param sampleHz⟩
        else KeyedList.lookup FilterEntry.offset n (reg.listAt k.key)) →
      ∀ o', Function.update (m k) o (some (createFilter type param sampleHz)) o' =
        FilterEntry.lookup list' o' := by
    intro list' hLookup o'
    rw [FilterEntry.lookup, hLookup]
    rcases eq_or_ne o' o with rfl | ho
    · rw [Function.update_self, if_pos rfl]
      rfl
    · rw [Function.update_of_ne ho, if_neg (fun hEq => ho (UInt16.toNat.inj hEq).symm), h.filters]
      rfl
  unfold FilterRegistry.setFilter
  rw [← EventId.key]
  dsimp only
  cases hReplace : KeyedList.replace FilterEntry.offset ⟨o, createFilter type param sampleHz⟩
      (reg.listAt k.key) with
  | some list' =>
    refine h.insert k ?_ (hSorted.replace hReplace)
      (hUpdate list' fun n => KeyedList.lookup_replace hReplace n)
    rintro rfl
    cases hList : reg.listAt k.key with
    | nil => rw [hList] at hReplace; cases hReplace
    | cons e rest =>
      have hKeys := KeyedList.map_key_of_replace hReplace
      rw [hList] at hKeys
      cases hKeys
  | none =>
    have hNew := KeyedList.replace_eq_none_iff.mp hReplace
    refine h.insert k ?_ (hSorted.insert hNew)
      (hUpdate _ fun n => KeyedList.lookup_insert hNew n)
    intro hNil
    have hMem : (⟨o, createFilter type param sampleHz⟩ : FilterEntry F) ∈
        KeyedList.insert FilterEntry.offset ⟨o, createFilter type param sampleHz⟩
          (reg.listAt k.key) := KeyedList.mem_insert.mpr (Or.inl rfl)
    rw [hNil] at hMem
    cases hMem

theorem apply (h : Represents reg m) (k : EventId) (payload : Bytes) :
    let s := SignalMap.sweep (m k) payload
    ∃ reg', reg.apply k.svc k.inst k.evt payload = some (reg', s.payload, s.any) ∧
      Represents reg' (Function.update m k s.filters) := by
  have hSorted := h.sorted_listAt k.key
  have hMapped : SignalMap.mapped (m k) =
      (reg.listAt k.key).map FilterEntry.payloadOffset := by
    refine SignalMap.mapped_eq ((FilterEntry.sorted_iff_offsets _).mp hSorted) fun o => ?_
    rw [h.filters, FilterEntry.lookup_isSome_iff]
  unfold FilterRegistry.apply
  rw [← EventId.key, SignalMap.sweep, hMapped]
  dsimp only
  cases hList : reg.entries.lookup k.key with
  | none =>
    have hNone : reg.listAt k.key = [] := by rw [FilterRegistry.listAt, hList]; rfl
    rw [hNone]
    exact ⟨reg, rfl, by rwa [List.map_nil, List.foldl_nil, Function.update_eq_self]⟩
  | some list =>
    have hAt : reg.listAt k.key = list := by rw [FilterRegistry.listAt, hList]; rfl
    rw [hAt] at hSorted ⊢
    have hOwn : ∀ e ∈ list, m k e.payloadOffset = some e.filter := by
      intro e hMem
      have hFound : KeyedList.lookup FilterEntry.offset e.payloadOffset.toNat list = some e :=
        (KeyedList.lookup_eq_some_iff hSorted).mpr ⟨hMem, rfl⟩
      rw [h.filters, hAt, FilterEntry.lookup, hFound]
      rfl
    obtain ⟨list', hLoop, hKeys, hAfter⟩ :=
      FilterRegistry.applyEntries_eq list hSorted ⟨m k, payload, false⟩ hOwn
    have hNonempty : list ≠ [] := h.nonempty k.key list hList
    have hNonempty' : list' ≠ [] := by
      rintro rfl
      exact hNonempty (List.map_eq_nil_iff.mp hKeys.symm)
    have hSorted' : KeyedList.Sorted FilterEntry.offset list' := by
      rw [FilterEntry.sorted_iff_offsets, hKeys, ← FilterEntry.sorted_iff_offsets]
      exact hSorted
    dsimp only at hLoop ⊢
    rw [if_neg (by simpa using hNonempty), hLoop]
    refine ⟨_, rfl, h.insert k hNonempty' hSorted' fun o => ?_⟩
    rw [hAfter]
    dsimp only
    cases hLookup : FilterEntry.lookup list' o with
    | some filter => rfl
    | none =>
      have hMissing : o ∉ list.map FilterEntry.payloadOffset := by
        rw [← hKeys, ← FilterEntry.lookup_isSome_iff, hLookup]
        exact Bool.false_ne_true
      rw [Option.none_or, h.filters, hAt, FilterEntry.lookup_eq_none hMissing]

/-- One call: the registry never leaves the payload, gives the output of the map, and represents the
map after the call. -/
theorem exec (h : Represents reg m) (call : FilterCall F) :
    ∃ reg', reg.exec call = some (reg', (m.exec call).2) ∧ Represents reg' (m.exec call).1 := by
  cases call with
  | setFilter k type o param sampleHz => exact ⟨_, rfl, h.setFilter k type o param sampleHz⟩
  | clearFilter k => exact ⟨_, rfl, h.erase k⟩
  | clearFilterAt k o => exact ⟨_, rfl, h.clearFilterAt k o⟩
  | apply k payload =>
    obtain ⟨reg', hApply, hNext⟩ := h.apply k payload
    refine ⟨reg', ?_, hNext⟩
    rw [FilterRegistry.exec, hApply]
    rfl

theorem run (h : Represents reg m) (calls : List (FilterCall F)) :
    ∃ reg', reg.run calls = some (reg', (m.run calls).2) ∧ Represents reg' (m.run calls).1 :=
  Mealy.run?_simulates (fun _ _ call hRep => Represents.exec hRep call) h calls

end Represents

end VsomeipDart
