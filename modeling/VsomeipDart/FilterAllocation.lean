import VsomeipDart.ExactSample
import VsomeipDart.FilterRefinement

/-! # `set_filter` when memory runs out

`set_filter` allocates at five places, each of which may throw `std::bad_alloc`. A key that is not in
`entries_` yet gets its empty list first, and keeps it when a later allocation throws.
-/

namespace VsomeipDart
set_option autoImplicit false

inductive Allocation where
  /-- the node that `entries_[key]` creates for a new key -/
  | mapNode
  | filterObject
  | medianWindow
  | medianScratch
  /-- the storage of a list that is full -/
  | listGrowth
  deriving DecidableEq, Repr

inductive BadAlloc where
  | badAlloc
  deriving DecidableEq, Repr

namespace FilterRegistry

variable {F : Type}

def entryAt (reg : FilterRegistry F) (key : UInt64) : FilterRegistry F :=
  match reg.entries.lookup key with
  | none => ⟨reg.entries.insert key []⟩
  | some _ => reg

theorem listAt_entryAt (reg : FilterRegistry F) (key : UInt64) :
    (reg.entryAt key).listAt key = reg.listAt key := by
  rw [entryAt]
  cases hList : reg.entries.lookup key with
  | none => rw [listAt, listAt, AList.lookup_insert, hList]; rfl
  | some list => rfl

theorem entryAt_insert (reg : FilterRegistry F) (key : UInt64) (list : List (FilterEntry F)) :
    (reg.entryAt key).entries.insert key list = reg.entries.insert key list := by
  rw [entryAt]
  cases reg.entries.lookup key with
  | none => exact AList.insert_insert _
  | some list => rfl

section Samples

variable [FloatOps F]

def createFilterIn (grants : Allocation → Bool) (type : FilterType) (param sampleHz : F) :
    Except BadAlloc (SignalFilter F) :=
  if !grants .filterObject then .error .badAlloc
  else if type = .median ∧ !(grants .medianWindow && grants .medianScratch) then .error .badAlloc
  else .ok (createFilter type param sampleHz)

/-- `set_filter`, which may throw on its way. -/
def setFilterIn (grants : Allocation → Bool) (reg : FilterRegistry F) (svc inst evt : UInt16)
    (type : FilterType) (payloadOffset : UInt16) (param sampleHz : F) :
    FilterRegistry F × Except BadAlloc Unit :=
  let key := makeKey svc inst evt
  if (reg.entries.lookup key).isNone && !grants .mapNode then (reg, .error .badAlloc)
  else
    let reg := reg.entryAt key
    let list := reg.listAt key
    match createFilterIn grants type param sampleHz with
    | .error thrown => (reg, .error thrown)
    | .ok filter =>
      let e : FilterEntry F := ⟨payloadOffset, filter⟩
      match KeyedList.replace FilterEntry.offset e list with
      | some list => (⟨reg.entries.insert key list⟩, .ok ())
      | none =>
        if !grants .listGrowth then (reg, .error .badAlloc)
        else (⟨reg.entries.insert key (KeyedList.insert FilterEntry.offset e list)⟩, .ok ())

variable (reg : FilterRegistry F) (svc inst evt : UInt16) (type : FilterType) (payloadOffset : UInt16)
  (param sampleHz : F) (grants : Allocation → Bool)

theorem createFilterIn_cases :
    createFilterIn grants type param sampleHz = .error .badAlloc ∨
      createFilterIn grants type param sampleHz = .ok (createFilter type param sampleHz) := by
  rw [createFilterIn]
  split
  · exact Or.inl rfl
  · split
    · exact Or.inl rfl
    · exact Or.inr rfl

theorem setFilterIn_cases :
    (makeKey svc inst evt ∉ reg.entries ∧ grants .mapNode = false ∧
      reg.setFilterIn grants svc inst evt type payloadOffset param sampleHz = (reg, .error .badAlloc)) ∨
    ((makeKey svc inst evt ∈ reg.entries ∨ grants .mapNode = true) ∧
      reg.setFilterIn grants svc inst evt type payloadOffset param sampleHz =
        (reg.entryAt (makeKey svc inst evt), .error .badAlloc)) ∨
    reg.setFilterIn grants svc inst evt type payloadOffset param sampleHz =
      (reg.setFilter svc inst evt type payloadOffset param sampleHz, .ok ()) := by
  rw [setFilterIn, setFilter]
  simp only [listAt_entryAt, entryAt_insert]
  split
  · rename_i hRefused
    obtain ⟨hNew, hNode⟩ := Bool.and_eq_true_iff.mp hRefused
    refine Or.inl ⟨?_, by simpa using hNode, rfl⟩
    rw [← AList.lookup_eq_none]
    exact Option.isNone_iff_eq_none.mp hNew
  · rename_i hGranted
    have hEntry : makeKey svc inst evt ∈ reg.entries ∨ grants .mapNode = true := by
      rw [← AList.lookup_isSome]
      cases hList : reg.entries.lookup (makeKey svc inst evt) with
      | none => simpa [hList] using hGranted
      | some list => exact Or.inl rfl
    rcases createFilterIn_cases type param sampleHz grants with hFilter | hFilter
    · rw [hFilter]
      exact Or.inr (Or.inl ⟨hEntry, rfl⟩)
    · rw [hFilter]
      dsimp only
      cases KeyedList.replace FilterEntry.offset ⟨payloadOffset, createFilter type param sampleHz⟩
          (reg.listAt (makeKey svc inst evt)) with
      | some list => exact Or.inr (Or.inr rfl)
      | none =>
        dsimp only
        split
        · exact Or.inr (Or.inl ⟨hEntry, rfl⟩)
        · exact Or.inr (Or.inr rfl)

theorem setFilterIn_granted (hGrants : ∀ allocation, grants allocation = true) :
    reg.setFilterIn grants svc inst evt type payloadOffset param sampleHz =
      (reg.setFilter svc inst evt type payloadOffset param sampleHz, .ok ()) := by
  have hFilter : createFilterIn grants type param sampleHz = .ok (createFilter type param sampleHz) := by
    simp [createFilterIn, hGrants]
  rw [setFilterIn, setFilter, hFilter]
  simp only [listAt_entryAt, entryAt_insert, hGrants, Bool.not_true, Bool.and_false, Bool.false_eq_true,
    if_false]
  cases KeyedList.replace FilterEntry.offset ⟨payloadOffset, createFilter type param sampleHz⟩
    (reg.listAt (makeKey svc inst evt)) <;> rfl

variable {reg svc inst evt type payloadOffset param sampleHz grants} {reg' : FilterRegistry F}
  {thrown : BadAlloc}

/-- A call that throws leaves a new key with an empty list, unless its map node is what was refused. -/
theorem setFilterIn_thrown
    (hThrows : reg.setFilterIn grants svc inst evt type payloadOffset param sampleHz =
      (reg', .error thrown)) :
    (makeKey svc inst evt ∈ reg.entries ∨ grants .mapNode = false) ∧ reg' = reg ∨
      (makeKey svc inst evt ∉ reg.entries ∧ grants .mapNode = true) ∧
        reg' = ⟨reg.entries.insert (makeKey svc inst evt) []⟩ := by
  rcases reg.setFilterIn_cases svc inst evt type payloadOffset param sampleHz grants with
    ⟨-, hNode, hCall⟩ | ⟨hEntry, hCall⟩ | hCall
  · obtain ⟨rfl, -⟩ := Prod.mk.inj (hCall.symm.trans hThrows)
    exact Or.inl ⟨Or.inr hNode, rfl⟩
  · obtain ⟨rfl, -⟩ := Prod.mk.inj (hCall.symm.trans hThrows)
    rw [entryAt]
    cases hList : reg.entries.lookup (makeKey svc inst evt) with
    | some list => exact Or.inl ⟨Or.inl (AList.lookup_isSome.mp (by rw [hList]; rfl)), rfl⟩
    | none =>
      have hNew := AList.lookup_eq_none.mp hList
      exact Or.inr ⟨⟨hNew, hEntry.resolve_left hNew⟩, rfl⟩
  · cases hCall.symm.trans hThrows

end Samples

section SameLists

def SameLists (reg other : FilterRegistry F) : Prop := ∀ key, reg.listAt key = other.listAt key

theorem listAt_insert (reg : FilterRegistry F) (key key' : UInt64) (list : List (FilterEntry F)) :
    (⟨reg.entries.insert key list⟩ : FilterRegistry F).listAt key' =
      if key' = key then list else reg.listAt key' := by
  rw [listAt, FiniteMap.lookup_insert]
  split <;> rfl

theorem listAt_erase (reg : FilterRegistry F) (key key' : UInt64) :
    (⟨reg.entries.erase key⟩ : FilterRegistry F).listAt key' =
      if key' = key then [] else reg.listAt key' := by
  rw [listAt, FiniteMap.lookup_erase]
  split <;> rfl

theorem listAt_clearFilterAt (reg : FilterRegistry F) (svc inst evt payloadOffset : UInt16)
    (key : UInt64) :
    (reg.clearFilterAt svc inst evt payloadOffset).listAt key =
      if key = makeKey svc inst evt then
        KeyedList.erase FilterEntry.offset payloadOffset.toNat (reg.listAt key)
      else reg.listAt key := by
  rw [clearFilterAt]
  dsimp only
  cases hList : reg.entries.lookup (makeKey svc inst evt) with
  | none =>
    dsimp only
    split
    · rename_i hKey
      rw [hKey, listAt, hList]
      rfl
    · rfl
  | some list =>
    dsimp only
    split
    · rename_i hEmpty
      rw [listAt_erase]
      split
      · rename_i hKey
        rw [hKey, listAt, hList]
        exact (List.isEmpty_iff.mp hEmpty).symm
      · rfl
    · rw [listAt_insert]
      split
      · rename_i hKey
        rw [hKey, listAt, hList]
        rfl
      · rfl

variable {reg other : FilterRegistry F} (hSame : SameLists reg other)
include hSame

theorem SameLists.hasFilter (svc inst evt : UInt16) :
    reg.hasFilter svc inst evt = other.hasFilter svc inst evt := by
  rw [hasFilter_listAt, hasFilter_listAt, hSame]

theorem SameLists.insert (key : UInt64) {list list' : List (FilterEntry F)} (hList : list = list') :
    SameLists ⟨reg.entries.insert key list⟩ ⟨other.entries.insert key list'⟩ := by
  intro key'
  rw [listAt_insert, listAt_insert, hList, hSame]

variable [FloatOps F]

theorem SameLists.exec (call : FilterCall F) :
    ∃ reg' other' output, reg.exec call = some (reg', output) ∧ other.exec call = some (other', output) ∧
      SameLists reg' other' := by
  cases call with
  | setFilter k type payloadOffset param sampleHz =>
    refine ⟨_, _, .done, rfl, rfl, ?_⟩
    rw [setFilter, setFilter, hSame]
    cases KeyedList.replace FilterEntry.offset ⟨payloadOffset, createFilter type param sampleHz⟩
      (other.listAt (makeKey k.svc k.inst k.evt)) <;> exact hSame.insert _ rfl
  | clearFilter k =>
    refine ⟨_, _, .done, rfl, rfl, fun key => ?_⟩
    rw [clearFilter, clearFilter, listAt_erase, listAt_erase, hSame]
  | clearFilterAt k payloadOffset =>
    refine ⟨_, _, .done, rfl, rfl, fun key => ?_⟩
    rw [listAt_clearFilterAt, listAt_clearFilterAt, hSame]
  | apply k payload =>
    cases hFilter : reg.hasFilter k.svc k.inst k.evt with
    | false =>
      have hOther := (hSame.hasFilter k.svc k.inst k.evt).symm.trans hFilter
      refine ⟨reg, other, .applied payload false, ?_, ?_, hSame⟩
      · rw [FilterRegistry.exec, apply_unfiltered hFilter]
        rfl
      · rw [FilterRegistry.exec, apply_unfiltered hOther]
        rfl
    | true =>
      have hOther := (hSame.hasFilter k.svc k.inst k.evt).symm.trans hFilter
      obtain ⟨list, payload', any, hLoop, -⟩ :=
        applyEntries_total (reg.listAt (makeKey k.svc k.inst k.evt)) payload false
      refine ⟨_, _, .applied payload' any, ?_, ?_, hSame.insert k.key (Eq.refl list)⟩
      · rw [FilterRegistry.exec, apply_listAt hFilter, hLoop]
        rfl
      · rw [FilterRegistry.exec, apply_listAt hOther, ← hSame, hLoop]
        rfl

theorem SameLists.run (calls : List (FilterCall F)) :
    ∃ reg' other' outputs, reg.run calls = some (reg', outputs) ∧ other.run calls = some (other', outputs) ∧
      SameLists reg' other' := by
  induction calls generalizing reg other with
  | nil => exact ⟨reg, other, [], rfl, rfl, hSame⟩
  | cons call rest ih =>
    obtain ⟨reg₁, other₁, output, hReg, hOther, hNext⟩ := hSame.exec call
    obtain ⟨reg₂, other₂, outputs, hRegRest, hOtherRest, hLast⟩ := ih hNext
    refine ⟨reg₂, other₂, output :: outputs, ?_, ?_, hLast⟩
    · rw [FilterRegistry.run, Mealy.run?_cons, hReg, Option.bind_some, ← FilterRegistry.run, hRegRest]
      rfl
    · rw [FilterRegistry.run, Mealy.run?_cons, hOther, Option.bind_some, ← FilterRegistry.run, hOtherRest]
      rfl

end SameLists

theorem count_insert_new {reg : FilterRegistry F} {key : UInt64} (hNew : key ∉ reg.entries)
    (list : List (FilterEntry F)) :
    (⟨reg.entries.insert key list⟩ : FilterRegistry F).count = reg.count + 1 := by
  rw [count, AList.keys_insert, List.erase_of_not_mem hNew]
  rfl

section Runs

variable [FloatOps F]

structure AllocatingCall (F : Type) where
  call : FilterCall F
  grants : Allocation → Bool

/-- Of the calls only `set_filter` allocates. -/
def execIn (reg : FilterRegistry F) (c : AllocatingCall F) :
    Option (FilterRegistry F × Except BadAlloc FilterOutput) :=
  match c.call with
  | .setFilter k type payloadOffset param sampleHz =>
    let (reg, result) := reg.setFilterIn c.grants k.svc k.inst k.evt type payloadOffset param sampleHz
    some (reg, result.map fun _ => .done)
  | call => (reg.exec call).map fun (reg, output) => (reg, .ok output)

def runIn (reg : FilterRegistry F) (calls : List (AllocatingCall F)) :
    Option (FilterRegistry F × List (Except BadAlloc FilterOutput)) :=
  Mealy.run? execIn reg calls

theorem runIn_total (reg : FilterRegistry F) (calls : List (AllocatingCall F)) :
    ∃ out, reg.runIn calls = some out := by
  refine Mealy.run?_total (fun reg c => ?_) reg calls
  rw [execIn]
  split
  · exact ⟨_, rfl⟩
  · obtain ⟨reg', -, output, hExec, -⟩ := SameLists.exec (fun _ => rfl : SameLists reg reg) c.call
    exact ⟨(reg', .ok output), by rw [hExec]; rfl⟩

structure Unaffected (reg reg' : FilterRegistry F) : Prop where
  hasFilter : ∀ svc inst evt, reg'.hasFilter svc inst evt = reg.hasFilter svc inst evt
  count : reg'.count = reg.count
  later : ∀ calls, (reg'.runIn calls).map Prod.snd = (reg.runIn calls).map Prod.snd

/-- Whatever a call that throws leaves behind, no query but `count` and no later call that has memory
tells it. -/
theorem setFilterIn_observed {reg reg' : FilterRegistry F} {grants : Allocation → Bool}
    {svc inst evt : UInt16} {type : FilterType} {payloadOffset : UInt16} {param sampleHz : F}
    {thrown : BadAlloc}
    (hThrows : reg.setFilterIn grants svc inst evt type payloadOffset param sampleHz =
      (reg', .error thrown)) :
    (∀ svc inst evt, reg'.hasFilter svc inst evt = reg.hasFilter svc inst evt) ∧
      ∀ calls, (reg'.run calls).map Prod.snd = (reg.run calls).map Prod.snd := by
  have hSame : SameLists reg' reg := by
    rcases setFilterIn_thrown hThrows with ⟨-, rfl⟩ | ⟨⟨hNew, -⟩, rfl⟩
    · exact fun _ => rfl
    · intro key
      rw [listAt_insert]
      split
      · rename_i hKey
        rw [hKey, listAt, AList.lookup_eq_none.mpr hNew]
        rfl
      · rfl
  refine ⟨hSame.hasFilter, fun calls => ?_⟩
  obtain ⟨_, _, outputs, hReg, hOther, -⟩ := hSame.run calls
  rw [hReg, hOther]
  rfl

theorem unaffected_iff {reg reg' : FilterRegistry F} {grants : Allocation → Bool}
    {svc inst evt : UInt16} {type : FilterType} {payloadOffset : UInt16} {param sampleHz : F}
    {thrown : BadAlloc}
    (hThrows : reg.setFilterIn grants svc inst evt type payloadOffset param sampleHz =
      (reg', .error thrown)) :
    Unaffected reg reg' ↔ makeKey svc inst evt ∈ reg.entries ∨ grants .mapNode = false := by
  rcases setFilterIn_thrown hThrows with ⟨hEntry, rfl⟩ | ⟨⟨hNew, hNode⟩, rfl⟩
  · exact iff_of_true ⟨fun _ _ _ => rfl, rfl, fun _ => rfl⟩ hEntry
  · refine iff_of_false (fun hUnaffected => ?_) (by simp [hNew, hNode])
    have hCount := hUnaffected.count
    rw [count_insert_new hNew] at hCount
    omega

/-- In every state that calls lead to, those that throw among them: a call that throws leaves no trace if
and only if its event has an entry already or its map node is what is refused. -/
theorem thrown_unaffected_iff (calls : List (AllocatingCall F)) :
    ∃ reg outputs, (empty : FilterRegistry F).runIn calls = some (reg, outputs) ∧
      ∀ (grants : Allocation → Bool) (svc inst evt : UInt16) (type : FilterType) (payloadOffset : UInt16)
        (param sampleHz : F) (reg' : FilterRegistry F) (thrown : BadAlloc),
        reg.setFilterIn grants svc inst evt type payloadOffset param sampleHz = (reg', .error thrown) →
          (Unaffected reg reg' ↔ makeKey svc inst evt ∈ reg.entries ∨ grants .mapNode = false) := by
  obtain ⟨⟨reg, outputs⟩, hRun⟩ := (empty : FilterRegistry F).runIn_total calls
  exact ⟨reg, outputs, hRun, fun _ _ _ _ _ _ _ _ _ _ hThrows => unaffected_iff hThrows⟩

end Runs

section Instance

open ExactSample

theorem setFilter_counts :
    ∃ reg', (empty : FilterRegistry ExactSample).setFilterIn (· ≠ .medianScratch) 0x1234 1 0x8001 .median 0
        (finite 5) (finite 100) = (reg', .error .badAlloc) ∧
      reg'.hasFilter 0x1234 1 0x8001 = false ∧ reg'.count = 1 ∧ ¬ Unaffected empty reg' := by
  refine ⟨⟨AList.insert (makeKey 0x1234 1 0x8001) [] ∅⟩, rfl, rfl, rfl, fun hUnaffected => ?_⟩
  cases hUnaffected.count

end Instance

end FilterRegistry

end VsomeipDart
