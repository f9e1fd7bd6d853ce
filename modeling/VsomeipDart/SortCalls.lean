import VsomeipDart.FilterRefinement
import VsomeipDart.MedianRuns

/-! # The calls of `std::sort` (`signal_filter.cpp`)

`sorts` gives the ranges that the median filters sort while `FilterRegistry::apply` runs. Samples are the
bytes of received payloads, so every bit pattern can come.
-/

namespace VsomeipDart
set_option autoImplicit false

open LittleEndian PartialRank

section Sorts

variable {F : Type} [FloatOps F]

def SignalFilter.sorts (filter : SignalFilter F) (input : F) : List (List F) :=
  match filter with
  | median filter => [filter.sortRange input]
  | _ => []

namespace FilterRegistry

def entrySorts : List (FilterEntry F) → Bytes → List (List F)
  | [], _ => []
  | e :: rest, payload =>
    if e.offset + 4 > payload.length then entrySorts rest payload
    else
      match loadFloat payload e.offset with
      | none => []
      | some v =>
        e.filter.sorts v ++
          match storeFloat payload e.offset (e.filter.apply v).1 with
          | none => []
          | some payload => entrySorts rest payload

def sorts (reg : FilterRegistry F) (svc inst evt : UInt16) (payload : Bytes) : List (List F) :=
  entrySorts (reg.listAt (makeKey svc inst evt)) payload

/-- One call of `apply`, with the ranges that it sorts. -/
def applySorting (svc inst evt : UInt16) (reg : FilterRegistry F) (payload : Bytes) :
    Option (FilterRegistry F × List (List F)) :=
  (reg.apply svc inst evt payload).map fun out => (out.1, reg.sorts svc inst evt payload)

/-- The samples that a filter at this offset is given: payloads that are too short are passed over. -/
def samplesAt (offset : UInt16) (payloads : List Bytes) : List F :=
  payloads.filterMap fun payload => loadFloat payload offset.toNat

def medianWindow (param : F) : UInt16 :=
  if FloatOps.le (FloatOps.literal 1) param && FloatOps.le param (FloatOps.literal 1024) then
    FloatOps.toUInt16 param
  else 1

section Entries

variable {e : FilterEntry F} {payload : Bytes}

theorem entrySorts_skip (h : payload.length < e.offset + 4) (rest : List (FilterEntry F)) :
    entrySorts (e :: rest) payload = entrySorts rest payload := by
  rw [entrySorts, if_pos h]

theorem entrySorts_sample (h : e.offset + 4 ≤ payload.length) {v : F}
    (hSample : loadFloat payload e.offset = some v) (rest : List (FilterEntry F)) :
    entrySorts (e :: rest) payload = e.filter.sorts v ++
      entrySorts rest (patch 4 payload e.offset (FloatOps.toBits (e.filter.apply v).1).toNat) := by
  rw [entrySorts, if_neg (Nat.not_lt.mpr h), hSample]
  simp only [storeFloat_eq h]

end Entries

section Median

variable {svc inst evt offset : UInt16} {reg : FilterRegistry F} {m : MedianFilter F}
  (hList : reg.listAt (makeKey svc inst evt) = [⟨offset, .median m⟩])

include hList

theorem applySorting_single {payload : Bytes} {m' : MedianFilter F} {out : Bytes × Bool}
    (hLoop : applyEntries [⟨offset, .median m⟩] payload false = some ([⟨offset, .median m'⟩], out)) :
    ∃ reg', applySorting svc inst evt reg payload =
        some (reg', entrySorts [⟨offset, .median m⟩] payload) ∧
      reg'.listAt (makeKey svc inst evt) = [⟨offset, .median m'⟩] := by
  have hFilter : reg.hasFilter svc inst evt = true := by
    rw [hasFilter_listAt, hList]
    rfl
  refine ⟨⟨reg.entries.insert (makeKey svc inst evt) [⟨offset, .median m'⟩]⟩, ?_, ?_⟩
  · rw [applySorting, apply_listAt hFilter, hList, hLoop, sorts, hList]
    rfl
  · rw [listAt, FiniteMap.lookup_insert, if_pos rfl]
    rfl

theorem applySorting_short {payload : Bytes} (h : payload.length < offset.toNat + 4) :
    ∃ reg', applySorting svc inst evt reg payload = some (reg', []) ∧
      reg'.listAt (makeKey svc inst evt) = [⟨offset, .median m⟩] := by
  have hSingle :=
    applySorting_single hList (applyEntries_skip (e := ⟨offset, .median m⟩) h [] false)
  rw [entrySorts_skip (e := ⟨offset, .median m⟩) h []] at hSingle
  exact hSingle

theorem applySorting_sample {payload : Bytes} (h : offset.toNat + 4 ≤ payload.length) {v : F}
    (hSample : loadFloat payload offset.toNat = some v) :
    ∃ reg', applySorting svc inst evt reg payload = some (reg', [m.sortRange v]) ∧
      reg'.listAt (makeKey svc inst evt) = [⟨offset, .median (m.apply v).2⟩] := by
  have hBits := hSample
  rw [loadFloat_eq h, Option.some.injEq] at hBits
  obtain rfl := hBits
  have hLoop := applyEntries_sample (e := ⟨offset, .median m⟩) h rfl [] false
  have hSorts := entrySorts_sample (e := ⟨offset, .median m⟩) h hSample []
  have hSingle := applySorting_single hList hLoop
  rw [hSorts] at hSingle
  exact hSingle

end Median

theorem listAt_setFilter_empty (svc inst evt offset : UInt16) (param sampleHz : F) :
    (empty.setFilter svc inst evt .median offset param sampleHz).listAt (makeKey svc inst evt) =
      [⟨offset, .median (.create (medianWindow param))⟩] := by
  have hNew : (empty : FilterRegistry F).listAt (makeKey svc inst evt) = [] := rfl
  rw [setFilter, hNew]
  simp only [KeyedList.replace]
  rw [listAt, FiniteMap.lookup_insert, if_pos rfl]
  rfl

def lastWindows (n : Nat) : List F → List F → List (List F)
  | _, [] => []
  | past, v :: rest => (past ++ [v]).rtake n :: lastWindows n (past ++ [v]) rest

/-- Over a run on any payloads the sorted ranges are the last samples, rearranged. -/
theorem run_sorts {svc inst evt offset : UInt16} {reg : FilterRegistry F} {m : MedianFilter F}
    (hList : reg.listAt (makeKey svc inst evt) = [⟨offset, .median m⟩]) {past : List F}
    (hPast : m.recent = past.rtake m.windowSize) (payloads : List Bytes) :
    ∃ reg' sorts, Mealy.run? (applySorting svc inst evt) reg payloads = some (reg', sorts) ∧
      List.Forall₂ List.Perm sorts.flatten
        (lastWindows m.windowSize past (samplesAt offset payloads)) := by
  induction payloads generalizing reg m past with
  | nil => exact ⟨reg, [], rfl, List.Forall₂.nil⟩
  | cons payload rest ih =>
    rcases Nat.lt_or_ge payload.length (offset.toNat + 4) with hShort | hFits
    · obtain ⟨reg₁, hStep, hNext⟩ := applySorting_short hList hShort
      obtain ⟨reg', sorts, hRun, hSorts⟩ := ih hNext hPast
      have hSamples : samplesAt (F := F) offset (payload :: rest) = samplesAt offset rest := by
        rw [samplesAt, List.filterMap_cons, loadFloat, readAt, if_neg (Nat.not_le.mpr hShort)]
        rfl
      refine ⟨reg', [] :: sorts, ?_, ?_⟩
      · rw [Mealy.run?_cons, hStep, Option.bind_some, hRun]
        rfl
      · rw [hSamples]
        exact hSorts
    · obtain ⟨v, hSample⟩ : ∃ v : F, loadFloat payload offset.toNat = some v := ⟨_, loadFloat_eq hFits⟩
      obtain ⟨reg₁, hStep, hNext⟩ := applySorting_sample hList hFits hSample
      have hWindow : (m.apply v).2.recent = (past ++ [v]).rtake m.windowSize := by
        rw [m.recent_apply v, hPast, rtake_rtake_append]
      have hSize := (m.apply_state v).1
      obtain ⟨reg', sorts, hRun, hSorts⟩ := ih hNext (hSize.symm ▸ hWindow)
      rw [hSize] at hSorts
      have hSamples : samplesAt (F := F) offset (payload :: rest) = v :: samplesAt offset rest := by
        rw [samplesAt, List.filterMap_cons, hSample]
        rfl
      refine ⟨reg', [m.sortRange v] :: sorts, ?_, ?_⟩
      · rw [Mealy.run?_cons, hStep, Option.bind_some, hRun]
        rfl
      · rw [hSamples, List.flatten_cons, List.singleton_append, lastWindows]
        exact List.Forall₂.cons (hWindow ▸ m.sortRange_perm v) hSorts

end FilterRegistry

end Sorts

/-- Values that `std::sort` may be given: with a NaN among them no two may be ordered. -/
def SafeToSort (values : List Binary32) : Prop :=
  (∃ v ∈ values, v.isNaN = true) → ∀ a ∈ values, ∀ b ∈ values, Binary32.lt a b = false

theorem strictWeakOn_iff_safeToSort {values window : List Binary32} (hPerm : values.Perm window) :
    StrictWeakOn Binary32.lt values ↔ SafeToSort window := by
  rw [Binary32.lt, strictWeakOn_iff, SafeToSort, Binary32.lt]
  simp only [Binary32.order_eq_none_iff, hPerm.mem_iff]

theorem forall_strictWeakOn_iff {sorts windows : List (List Binary32)}
    (h : List.Forall₂ List.Perm sorts windows) :
    (∀ values ∈ sorts, StrictWeakOn Binary32.lt values) ↔ ∀ window ∈ windows, SafeToSort window := by
  induction h with
  | nil => simp
  | cons hPerm _ ih =>
    rw [List.forall_mem_cons, List.forall_mem_cons, strictWeakOn_iff_safeToSort hPerm, ih]

namespace FilterRegistry

/-- The comparison meets the precondition of `std::sort` in every call exactly when every window of last
samples is safe to sort. -/
theorem sorts_iff (svc inst evt offset : UInt16) (param sampleHz : Binary32)
    (payloads : List Bytes) :
    ∃ reg' sorts, Mealy.run? (applySorting svc inst evt)
        (empty.setFilter svc inst evt .median offset param sampleHz) payloads = some (reg', sorts) ∧
      ((∀ values ∈ sorts.flatten, StrictWeakOn Binary32.lt values) ↔
        ∀ window ∈ lastWindows (MedianFilter.effectiveSize (medianWindow param)) []
          (samplesAt offset payloads), SafeToSort window) := by
  have hList := listAt_setFilter_empty svc inst evt offset param sampleHz
  have hEmpty : (MedianFilter.create (F := Binary32) (medianWindow param)).recent =
      ([] : List Binary32).rtake (MedianFilter.effectiveSize (medianWindow param)) :=
    (List.rtake_nil _).symm
  obtain ⟨reg', sorts, hRun, hSorts⟩ := run_sorts hList hEmpty payloads
  exact ⟨reg', sorts, hRun, forall_strictWeakOn_iff hSorts⟩

theorem nan_breaks_sort :
    ((Mealy.run? (applySorting 0x1234 1 0x8001)
        (empty.setFilter 0x1234 1 0x8001 .median 0 (Binary32.ofRat 3) (Binary32.ofRat 100))
        [[0x00, 0x00, 0x80, 0x3f], [0x00, 0x00, 0xc0, 0x7f], [0x00, 0x00, 0x00, 0x40]]).map Prod.snd =
      some [[[⟨0x3f800000⟩]], [[⟨0x3f800000⟩, ⟨0x7fc00000⟩]],
        [[⟨0x3f800000⟩, ⟨0x7fc00000⟩, ⟨0x40000000⟩]]]) ∧
    ¬ StrictWeakOn Binary32.lt [⟨0x3f800000⟩, ⟨0x7fc00000⟩, ⟨0x40000000⟩] := by
  refine ⟨by decide +kernel, fun h => ?_⟩
  have hOrdered := (h.incomparable_trans ⟨0x3f800000⟩ (by simp) ⟨0x7fc00000⟩ (by simp) ⟨0x40000000⟩
    (by simp) (by decide) (by decide)).1
  exact absurd hOrdered (by decide)

end FilterRegistry

end VsomeipDart
