import Mathlib.Logic.Function.Basic
import VsomeipDart.FilterRegistry
import VsomeipDart.Lib.Mealy

/-! # Signals: what the filter registry is for

A signal is a payload offset of an event. `SignalMap` holds one filter, with its state, for every
configured signal; the calls of the registry are stated on it without lists or packed keys.
-/

namespace VsomeipDart
set_option autoImplicit false

open LittleEndian

structure EventId where
  svc : UInt16
  inst : UInt16
  evt : UInt16
  deriving DecidableEq, Repr

def EventId.key (k : EventId) : UInt64 := FilterRegistry.makeKey k.svc k.inst k.evt

theorem EventId.key_inj {k k' : EventId} : k.key = k'.key ↔ k = k' := by
  constructor
  · intro h
    obtain ⟨hSvc, hInst, hEvt⟩ := FilterRegistry.makeKey_inj h
    cases k
    cases k'
    simp_all
  · exact congrArg EventId.key

inductive FilterCall (F : Type) where
  | setFilter (k : EventId) (type : FilterType) (payloadOffset : UInt16) (param sampleHz : F)
  | clearFilter (k : EventId)
  | clearFilterAt (k : EventId) (payloadOffset : UInt16)
  | apply (k : EventId) (payload : Bytes)

inductive FilterOutput where
  | done
  | applied (payload : Bytes) (any : Bool)
  deriving DecidableEq, Repr

section Calls

variable {F : Type} [FloatOps F]

/-- `none` is a `memcpy` outside the payload. -/
def FilterRegistry.exec (reg : FilterRegistry F) :
    FilterCall F → Option (FilterRegistry F × FilterOutput)
  | .setFilter k type payloadOffset param sampleHz =>
    some (reg.setFilter k.svc k.inst k.evt type payloadOffset param sampleHz, .done)
  | .clearFilter k => some (reg.clearFilter k.svc k.inst k.evt, .done)
  | .clearFilterAt k payloadOffset =>
    some (reg.clearFilterAt k.svc k.inst k.evt payloadOffset, .done)
  | .apply k payload => do
    let (reg, payload, any) ← reg.apply k.svc k.inst k.evt payload
    return (reg, .applied payload any)

def FilterRegistry.run (reg : FilterRegistry F) (calls : List (FilterCall F)) :
    Option (FilterRegistry F × List FilterOutput) :=
  Mealy.run? FilterRegistry.exec reg calls

end Calls

abbrev SignalMap (F : Type) := EventId → UInt16 → Option (SignalFilter F)

namespace SignalMap

def offsets : List UInt16 := (List.range (2 ^ 16)).map UInt16.ofNat

section Sweep

variable {F : Type} [FloatOps F]

def empty : SignalMap F := fun _ _ => none

def mapped (filters : UInt16 → Option (SignalFilter F)) : List UInt16 :=
  offsets.filter fun o => (filters o).isSome

structure Sweep (F : Type) where
  filters : UInt16 → Option (SignalFilter F)
  payload : Bytes
  any : Bool

def sample (filter : SignalFilter F) (bits : Nat) : SignalFilter F × Nat :=
  let out := filter.apply (FloatOps.ofBits (UInt32.ofNat bits))
  (out.2, (FloatOps.toBits out.1).toNat)

/-- Feeds the window at `o` through its filter, in place, if it lies inside the payload. -/
def feed (s : Sweep F) (o : UInt16) : Sweep F :=
  match s.filters o with
  | none => s
  | some filter =>
    if o.toNat + 4 ≤ s.payload.length then
      let out := sample filter (window 4 s.payload o.toNat)
      { filters := Function.update s.filters o (some out.1)
        payload := patch 4 s.payload o.toNat out.2
        any := true }
    else s

def sweep (filters : UInt16 → Option (SignalFilter F)) (payload : Bytes) : Sweep F :=
  (mapped filters).foldl feed ⟨filters, payload, false⟩

def set (m : SignalMap F) (k : EventId) (o : UInt16) (filter : SignalFilter F) : SignalMap F :=
  Function.update m k (Function.update (m k) o (some filter))

def clear (m : SignalMap F) (k : EventId) : SignalMap F := Function.update m k fun _ => none

def clearAt (m : SignalMap F) (k : EventId) (o : UInt16) : SignalMap F :=
  Function.update m k (Function.update (m k) o none)

def exec (m : SignalMap F) : FilterCall F → SignalMap F × FilterOutput
  | .setFilter k type o param sampleHz => (m.set k o (createFilter type param sampleHz), .done)
  | .clearFilter k => (m.clear k, .done)
  | .clearFilterAt k o => (m.clearAt k o, .done)
  | .apply k payload =>
    let s := sweep (m k) payload
    (Function.update m k s.filters, .applied s.payload s.any)

def run (m : SignalMap F) (calls : List (FilterCall F)) : SignalMap F × List FilterOutput :=
  Mealy.run exec m calls

end Sweep

theorem mem_offsets (o : UInt16) : o ∈ offsets :=
  List.mem_map.mpr ⟨o.toNat, List.mem_range.mpr o.toNat_lt, UInt16.ofNat_toNat⟩

theorem offsets_sorted : offsets.Pairwise (· < ·) := by
  rw [offsets, List.pairwise_map]
  refine List.Pairwise.imp_of_mem ?_ List.pairwise_lt_range
  intro a b ha hb hab
  rw [UInt16.lt_iff_toNat_lt, UInt16.toNat_ofNat_of_lt' (List.mem_range.mp ha),
    UInt16.toNat_ofNat_of_lt' (List.mem_range.mp hb)]
  exact hab

theorem mapped_eq {F : Type} {filters : UInt16 → Option (SignalFilter F)} {list : List UInt16}
    (hSorted : list.Pairwise (· < ·)) (hMem : ∀ o, o ∈ list ↔ (filters o).isSome) :
    mapped filters = list := by
  have hMapped : (mapped filters).Pairwise (· < ·) := offsets_sorted.filter _
  have hNodup : ∀ {l : List UInt16}, l.Pairwise (· < ·) → l.Nodup := by
    intro l h
    exact h.imp fun hab hEq => absurd (hEq ▸ hab) (UInt16.lt_irrefl _)
  refine List.Perm.eq_of_pairwise ?_ hMapped hSorted ?_
  · intro a b _ _ hab hba
    exact absurd (UInt16.lt_trans hab hba) (UInt16.lt_irrefl _)
  · rw [List.perm_ext_iff_of_nodup (hNodup hMapped) (hNodup hSorted)]
    intro o
    rw [hMem, mapped, List.mem_filter]
    exact and_iff_right (mem_offsets o)

end SignalMap

end VsomeipDart
