import Mathlib.Data.List.AList
import VsomeipDart.Lib.KeyedList
import VsomeipDart.Lib.LittleEndian
import VsomeipDart.SignalFilter

/-! # The filter registry (`signal_filter.cpp`)

`entries_` is a finite map from packed event keys to lists of filters. A payload pointer with its
length is a byte list; a `memcpy` that leaves the payload is `none`. Allocation does not fail.
-/

namespace VsomeipDart
set_option autoImplicit false

open LittleEndian

structure FilterEntry (F : Type) where
  payloadOffset : UInt16
  filter : SignalFilter F

def FilterEntry.offset {F : Type} (e : FilterEntry F) : Nat := e.payloadOffset.toNat

structure FilterRegistry (F : Type) where
  entries : AList fun _ : UInt64 => List (FilterEntry F)

namespace FilterRegistry

def makeKey (svc inst evt : UInt16) : UInt64 :=
  (svc.toUInt64 <<< 32) ||| (inst.toUInt64 <<< 16) ||| evt.toUInt64

variable {F : Type}

def empty : FilterRegistry F := ⟨∅⟩

/-- The list that `entries_[key]` refers to: the empty list for a key that is not there yet. -/
def listAt (reg : FilterRegistry F) (key : UInt64) : List (FilterEntry F) :=
  (reg.entries.lookup key).getD []

def clearFilter (reg : FilterRegistry F) (svc inst evt : UInt16) : FilterRegistry F :=
  ⟨reg.entries.erase (makeKey svc inst evt)⟩

def clearFilterAt (reg : FilterRegistry F) (svc inst evt : UInt16) (payloadOffset : UInt16) :
    FilterRegistry F :=
  let key := makeKey svc inst evt
  match reg.entries.lookup key with
  | none => reg
  | some list =>
    let list := KeyedList.erase FilterEntry.offset payloadOffset.toNat list
    if list.isEmpty then ⟨reg.entries.erase key⟩ else ⟨reg.entries.insert key list⟩

def hasFilter (reg : FilterRegistry F) (svc inst evt : UInt16) : Bool :=
  match reg.entries.lookup (makeKey svc inst evt) with
  | none => false
  | some list => !list.isEmpty

def count (reg : FilterRegistry F) : Nat := reg.entries.keys.length

theorem hasFilter_listAt (reg : FilterRegistry F) (svc inst evt : UInt16) :
    reg.hasFilter svc inst evt = !(reg.listAt (makeKey svc inst evt)).isEmpty := by
  rw [hasFilter, listAt]
  cases reg.entries.lookup (makeKey svc inst evt) <;> rfl

section Samples

variable [FloatOps F]

def setFilter (reg : FilterRegistry F) (svc inst evt : UInt16) (type : FilterType)
    (payloadOffset : UInt16) (param sampleHz : F) : FilterRegistry F :=
  let key := makeKey svc inst evt
  let list := reg.listAt key
  let e : FilterEntry F := ⟨payloadOffset, createFilter type param sampleHz⟩
  match KeyedList.replace FilterEntry.offset e list with
  -- an entry with this offset gets the new filter
  | some list => ⟨reg.entries.insert key list⟩
  -- otherwise the entry goes in front of the `std::lower_bound` of its offset
  | none => ⟨reg.entries.insert key (KeyedList.insert FilterEntry.offset e list)⟩

def loadFloat (payload : Bytes) (offset : Nat) : Option F :=
  (readAt 4 payload offset).map fun bits => FloatOps.ofBits (UInt32.ofNat bits)

def storeFloat (payload : Bytes) (offset : Nat) (v : F) : Option Bytes :=
  writeAt 4 payload offset (FloatOps.toBits v).toNat

/-- The loop of `apply`, with the entries, the payload and `any` as its state. -/
def applyEntries : List (FilterEntry F) → Bytes → Bool →
    Option (List (FilterEntry F) × Bytes × Bool)
  | [], payload, any => some ([], payload, any)
  | e :: rest, payload, any =>
    if e.offset + 4 > payload.length then do
      let (rest, payload, any) ← applyEntries rest payload any
      return (e :: rest, payload, any)
    else do
      let v ← loadFloat payload e.offset
      let (v, filter) := e.filter.apply v
      let payload ← storeFloat payload e.offset v
      let (rest, payload, any) ← applyEntries rest payload true
      return ({ e with filter } :: rest, payload, any)

def apply (reg : FilterRegistry F) (svc inst evt : UInt16) (payload : Bytes) :
    Option (FilterRegistry F × Bytes × Bool) :=
  let key := makeKey svc inst evt
  match reg.entries.lookup key with
  | none => some (reg, payload, false)
  | some list =>
    if list.isEmpty then some (reg, payload, false)
    else do
      let (list, payload, any) ← applyEntries list payload false
      return (⟨reg.entries.insert key list⟩, payload, any)

theorem loadFloat_eq {payload : Bytes} {offset : Nat} (h : offset + 4 ≤ payload.length) :
    loadFloat (F := F) payload offset =
      some (FloatOps.ofBits (UInt32.ofNat (window 4 payload offset))) := by
  rw [loadFloat, readAt, if_pos h]
  rfl

theorem storeFloat_eq {payload : Bytes} {offset : Nat} (h : offset + 4 ≤ payload.length) (v : F) :
    storeFloat payload offset v = some (patch 4 payload offset (FloatOps.toBits v).toNat) := by
  rw [storeFloat, writeAt, if_pos h]

theorem applyEntries_skip {e : FilterEntry F} {payload : Bytes}
    (h : payload.length < e.offset + 4) (rest : List (FilterEntry F)) (any : Bool) :
    applyEntries (e :: rest) payload any =
      (applyEntries rest payload any).map fun out => (e :: out.1, out.2) := by
  rw [applyEntries, if_pos (by omega)]
  cases applyEntries rest payload any <;> rfl

theorem applyEntries_sample {e : FilterEntry F} {payload : Bytes}
    (h : e.offset + 4 ≤ payload.length) {v : F} {filter : SignalFilter F}
    (hSample : e.filter.apply (FloatOps.ofBits (UInt32.ofNat (window 4 payload e.offset))) =
      (v, filter)) (rest : List (FilterEntry F)) (any : Bool) :
    applyEntries (e :: rest) payload any =
      (applyEntries rest (patch 4 payload e.offset (FloatOps.toBits v).toNat) true).map
        fun out => ({ e with filter } :: out.1, out.2) := by
  rw [applyEntries, if_neg (by omega), loadFloat_eq h]
  simp only [Option.bind_eq_bind, Option.bind_some, hSample, storeFloat_eq h]
  cases applyEntries rest _ true <;> rfl

theorem applyEntries_total (entries : List (FilterEntry F)) (payload : Bytes) (any : Bool) :
    ∃ entries' payload' any', applyEntries entries payload any = some (entries', payload', any') ∧
      payload'.length = payload.length := by
  induction entries generalizing payload any with
  | nil => exact ⟨[], payload, any, rfl, rfl⟩
  | cons e rest ih =>
    rcases Nat.lt_or_ge payload.length (e.offset + 4) with hSkip | hFits
    · obtain ⟨rest', payload', any', hLoop, hLength⟩ := ih payload any
      refine ⟨e :: rest', payload', any', ?_, hLength⟩
      rw [applyEntries_skip hSkip, hLoop]
      rfl
    · obtain ⟨v, filter, hSample⟩ : ∃ v filter, e.filter.apply
        (FloatOps.ofBits (UInt32.ofNat (window 4 payload e.offset))) = (v, filter) := ⟨_, _, rfl⟩
      obtain ⟨rest', payload', any', hLoop, hLength⟩ :=
        ih (patch 4 payload e.offset (FloatOps.toBits v).toNat) true
      refine ⟨{ e with filter } :: rest', payload', any', ?_, hLength.trans (patch_length hFits _)⟩
      rw [applyEntries_sample hFits hSample, hLoop]
      rfl

theorem apply_listAt {reg : FilterRegistry F} {svc inst evt : UInt16}
    (hFilter : reg.hasFilter svc inst evt = true) (payload : Bytes) :
    reg.apply svc inst evt payload =
      (applyEntries (reg.listAt (makeKey svc inst evt)) payload false).map fun out =>
        (⟨reg.entries.insert (makeKey svc inst evt) out.1⟩, out.2) := by
  rw [hasFilter_listAt, listAt] at hFilter
  rw [apply, listAt]
  cases hList : reg.entries.lookup (makeKey svc inst evt) with
  | none => simp [hList] at hFilter
  | some list =>
    rw [hList] at hFilter
    simp at hFilter
    simp [hFilter]
    cases applyEntries list payload false <;> rfl

theorem apply_unfiltered {reg : FilterRegistry F} {svc inst evt : UInt16}
    (hFilter : reg.hasFilter svc inst evt = false) (payload : Bytes) :
    reg.apply svc inst evt payload = some (reg, payload, false) := by
  rw [hasFilter] at hFilter
  rw [apply]
  cases hList : reg.entries.lookup (makeKey svc inst evt) with
  | none => rfl
  | some list =>
    rw [hList] at hFilter
    exact if_pos (by simpa using hFilter)

theorem apply_total (reg : FilterRegistry F) (svc inst evt : UInt16) (payload : Bytes) :
    ∃ reg' payload' any, reg.apply svc inst evt payload = some (reg', payload', any) ∧
      payload'.length = payload.length := by
  cases hFilter : reg.hasFilter svc inst evt with
  | false => exact ⟨reg, payload, false, apply_unfiltered hFilter payload, rfl⟩
  | true =>
    obtain ⟨list, payload', any, hLoop, hLength⟩ :=
      applyEntries_total (reg.listAt (makeKey svc inst evt)) payload false
    refine ⟨⟨reg.entries.insert (makeKey svc inst evt) list⟩, payload', any, ?_, hLength⟩
    rw [apply_listAt hFilter, hLoop]
    rfl

end Samples

theorem makeKey_toNat (svc inst evt : UInt16) :
    (makeKey svc inst evt).toNat = svc.toNat * 2 ^ 32 + (inst.toNat * 2 ^ 16 + evt.toNat) := by
  have hInst : inst.toNat < 2 ^ 16 := inst.toNat_lt
  have hEvt : evt.toNat < 2 ^ 16 := evt.toNat_lt
  have hHigh : (svc.toUInt64 <<< 32).toNat = svc.toNat <<< 32 :=
    toNat_toUInt64_shiftLeft svc (by decide)
  have hMiddle : (inst.toUInt64 <<< 16).toNat = inst.toNat <<< 16 :=
    toNat_toUInt64_shiftLeft inst (by decide)
  have hLow : inst.toNat <<< 16 ||| evt.toNat = inst.toNat * 2 ^ 16 + evt.toNat := by
    rw [← Nat.shiftLeft_add_eq_or_of_lt hEvt, Nat.shiftLeft_eq]
  rw [makeKey, UInt64.toNat_or, UInt64.toNat_or, hHigh, hMiddle, UInt16.toNat_toUInt64,
    Nat.or_assoc, hLow, ← Nat.shiftLeft_add_eq_or_of_lt (by omega), Nat.shiftLeft_eq]

theorem makeKey_inj {svc inst evt svc' inst' evt' : UInt16}
    (h : makeKey svc inst evt = makeKey svc' inst' evt') :
    svc = svc' ∧ inst = inst' ∧ evt = evt' := by
  have hNat := congrArg UInt64.toNat h
  rw [makeKey_toNat, makeKey_toNat] at hNat
  have hInst : inst.toNat < 2 ^ 16 := inst.toNat_lt
  have hEvt : evt.toNat < 2 ^ 16 := evt.toNat_lt
  have hInst' : inst'.toNat < 2 ^ 16 := inst'.toNat_lt
  have hEvt' : evt'.toNat < 2 ^ 16 := evt'.toNat_lt
  exact ⟨UInt16.toNat.inj (by omega), UInt16.toNat.inj (by omega), UInt16.toNat.inj (by omega)⟩

end FilterRegistry

end VsomeipDart
