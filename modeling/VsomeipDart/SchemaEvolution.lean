import VsomeipDart.CapnpRoundTrip

/-! # Fields added to a schema (`capnp_dart_gen.py`)

Fields with higher ordinals come behind the old ones, and leave the offsets of these as they are. A record
of a variable field moves with the length of the header.
-/

namespace VsomeipDart
set_option autoImplicit false

open LittleEndian TextEncoding BlockScope

def Field.default (f : Field) : CapnpValue :=
  match f.kind with
  | some (.scalar s) => s.default
  | some .bool => .bool false
  | some .text => .string []
  | _ => .bytes []

section Compatible

variable (case : StringCase) (old added : List Field)

/-- The Reader with the added fields gets the old fields of an old message, and the default values of the
others. -/
def ReadsOldMessages : Prop :=
  ∀ value : Field → CapnpValue, (∀ f ∈ old, f.Holds (value f)) →
    ∃ bytes, (emit case old).build (old.map fun f => (f.dartName case, value f)) = some bytes ∧
      (∀ f ∈ old, (emit case (old ++ added)).read bytes (f.dartName case) = some (.ok (value f))) ∧
      ∀ f ∈ added, (emit case (old ++ added)).read bytes (f.dartName case) = some (.ok f.default)

/-- The Reader without the added fields gets the old fields of a new message. -/
def ReadsNewMessages : Prop :=
  ∀ value : Field → CapnpValue, (∀ f ∈ old ++ added, f.Holds (value f)) →
    ∃ bytes, (emit case (old ++ added)).build
        ((old ++ added).map fun f => (f.dartName case, value f)) = some bytes ∧
      ∀ f ∈ old, (emit case old).read bytes (f.dartName case) = some (.ok (value f))

/-- No record moves: there is none, or the added fields fit into the padding of the header. -/
def RecordsStay : Prop :=
  variableFields old = [] ∨ (emit case (old ++ added)).headerLen = (emit case old).headerLen

end Compatible

section Layout

variable {case : StringCase} {old added : List Field}

theorem layoutEnd_append (offset : Nat) (front back : List Field) :
    layoutEnd offset (front ++ back) = layoutEnd (layoutEnd offset front) back := by
  induction front generalizing offset with
  | nil => rfl
  | cons f rest ih => rw [List.cons_append, layoutEnd, layoutEnd, ih]

theorem align_mono {size m n : Nat} (hSize : 0 < size) (h : m ≤ n) : align m size ≤ align n size := by
  have hUp := le_align n size
  obtain ⟨q, hq⟩ := align_dvd hSize n
  rw [align]
  split
  · have hMod := Nat.mod_lt m hSize
    have hDiv := Nat.div_add_mod m size
    have hQuot : m / size < q := by
      by_contra hNot
      have hMul := Nat.mul_le_mul_left size (Nat.not_lt.mp hNot)
      omega
    have hNext := Nat.mul_le_mul_left size hQuot
    rw [Nat.succ_eq_add_one, Nat.mul_add] at hNext
    omega
  · omega

theorem headerLen_le : (emit case old).headerLen ≤ (emit case (old ++ added)).headerLen := by
  refine align_mono (by decide) ?_
  rw [layoutEnd_append]
  exact le_layoutEnd _ added

theorem getters_front : ∃ later, (emit case (old ++ added)).getters = (emit case old).getters ++ later ∧
    later = emitGetters case (variableFields old).length (layoutFrom (layoutEnd 0 old) added) := by
  refine ⟨_, ?_, rfl⟩
  show emitGetters case 0 (layoutFrom 0 (old ++ added)) = _
  rw [layoutFrom_append, emitGetters_append, map_field_layoutFrom, Nat.zero_add]
  rfl

theorem locals_mono {x : Name} (h : x ∈ builderLocals case old) : x ∈ builderLocals case (old ++ added) := by
  have hVars : variableFields (old ++ added) = variableFields old ++ variableFields added :=
    List.filter_append old added
  rw [builderLocals] at h ⊢
  rw [List.mem_append, List.mem_append] at h ⊢
  rcases h with (hAlways | hTotal) | hText
  · exact .inl (.inl hAlways)
  · split at hTotal
    · next hSome => exact .inl (.inr (by rwa [if_pos (by rw [hVars]; simp [hSome])]))
    · exact absurd hTotal List.not_mem_nil
  · refine .inr ?_
    rw [hVars, List.filter_append, List.map_append]
    exact List.mem_append_left _ hText

end Layout

section Getters

variable {case : StringCase} {old added : List Field}

/-- Where there is no variable field, the getters do not use the length of the header. -/
theorem get_of_fixed {placed : List Placed} {i : Nat}
    (h : variableFields (placed.map Placed.field) = []) {name : Name} {accessor : Accessor}
    (hMem : (name, accessor) ∈ emitGetters case i placed) (bytes : Bytes)
    (left right : Nat) : accessor.get bytes left = accessor.get bytes right := by
  induction placed with
  | nil => exact absurd hMem List.not_mem_nil
  | cons p rest ih =>
    rw [List.map_cons] at h
    cases hVar : isVariable p.field with
    | true =>
      rw [variableFields_cons hVar] at h
      cases h
    | false =>
      rw [variableFields_cons_fixed hVar] at h
      rw [emitGetters] at hMem
      cases hKind : p.field.kind with
      | none =>
        simp only [hKind] at hMem
        exact ih h hMem
      | some kind =>
        cases kind with
        | bool | scalar s =>
          simp only [hKind] at hMem
          rcases List.mem_cons.mp hMem with hHere | hLater
          · cases hHere
            rfl
          · exact ih h hLater
        | text | data =>
          rw [isVariable, hKind] at hVar
          cases hVar

theorem get_stays (h : RecordsStay case old added) {name : Name} {accessor : Accessor}
    (hMem : (name, accessor) ∈ (emit case old).getters) (bytes : Bytes) :
    accessor.get bytes (emit case (old ++ added)).headerLen =
      accessor.get bytes (emit case old).headerLen := by
  rcases h with hNone | hLen
  · rw [← map_field_layoutFrom 0 old] at hNone
    exact get_of_fixed hNone hMem bytes _ _
  · rw [hLen]

theorem read_getter {fields : List Field} (hTypes : ∀ f ∈ fields, f.kind.isSome = true)
    (hNames : (fields.map (Field.dartName case)).Nodup) {name : Name} {accessor : Accessor}
    (hMem : (name, accessor) ∈ (emit case fields).getters) (bytes : Bytes) :
    (emit case fields).read bytes name =
      some (accessor.get bytes (emit case fields).headerLen) := by
  have hOnce : ((emit case fields).getters.map Prod.fst).Nodup := by
    rw [names_getters hTypes]
    exact hNames
  rw [Emitted.read, lookup_of_nodup hOnce hMem, Option.map_some]

end Getters

section Zeros

variable {bytes : Bytes} {offset : Nat}

theorem readBool_zero (h : bitsAt bytes 1 offset = 0) : readBool bytes offset = .ok (.bool false) := by
  rw [readBool]
  split
  · next hFits =>
    rw [bitsAt, if_neg (by omega), window_one _ hFits] at h
    have hByte : bytes[offset] = 0 := UInt8.toNat_inj.mp h
    rw [hByte]
    rfl
  · rfl

theorem read_zero (s : Scalar) (h : bitsAt bytes s.size offset = 0) : s.read bytes offset = .ok s.default := by
  rw [s.read_eq, h]
  cases s <;> rfl

theorem readText_zero (h : bitsAt bytes 4 offset = 0) :
    readText bytes offset = .ok (.string []) := by
  by_cases hFits : RecordFits bytes offset
  · exact readText_empty hFits ((content_eq_nil bytes hFits).mpr h)
  · exact readText_unfit hFits

theorem readData_zero (h : bitsAt bytes 4 offset = 0) : readData bytes offset = .ok (.bytes []) := by
  by_cases hFits : RecordFits bytes offset
  · rw [readData_fits hFits, (content_eq_nil bytes hFits).mpr h]
  · exact readData_unfit hFits

theorem bitsAt_zero {start : Nat} (h : ∀ b ∈ bytes.drop start, b = 0) (hLe : start ≤ offset) (size : Nat) :
    bitsAt bytes size offset = 0 := by
  rw [bitsAt]
  split
  · rfl
  · exact window_eq_zero h hLe size

theorem bitsAt_behind {size : Nat} (h : bytes.length < offset + size) : bitsAt bytes size offset = 0 := if_pos h

end Zeros

section Added

variable {case : StringCase} {old added : List Field} {value : Field → CapnpValue}

/-- Behind the fixed fields the header is empty. -/
theorem bitsAt_padding {size offset : Nat} (hStart : layoutEnd 0 old ≤ offset)
    (hSpace : offset + size ≤ (emit case old).headerLen ∨ variableFields old = []) :
    bitsAt (image case old value) size offset = 0 := by
  obtain ⟨header, hHeader⟩ : ∃ header, header = patches (fixedWrites value (layoutFrom 0 old))
      (List.replicate (emit case old).headerLen (0 : UInt8)) := ⟨_, rfl⟩
  have hLength : header.length = (emit case old).headerLen := by rw [hHeader, length_header]
  have hZero : ∀ b ∈ header.drop (layoutEnd 0 old), b = 0 := by
    rw [hHeader, drop_patches]
    · exact fun b hMem => List.eq_of_mem_replicate (List.mem_of_mem_drop hMem)
    · rw [List.length_replicate]
      exact le_align _ 8
    · exact fixedWrites_fit value fun p hMem => (placed_bounds hMem).2
  rw [image, ← hHeader]
  rcases hSpace with hInside | hNone
  · rw [bitsAt, if_neg (by rw [List.length_append]; omega), window_append (by omega)]
    exact window_eq_zero hZero hStart size
  · rw [hNone, List.flatMap_nil, List.append_nil]
    exact bitsAt_zero hZero hStart size

/-- Behind the records of the old fields there is none. -/
theorem length_le_recordStart (h : RecordsStay case old added) (hProper : Proper case old value) {i : Nat}
    (hi : (variableFields old).length ≤ i) : (image case old value).length ≤
      recordStart (emit case (old ++ added)).headerLen (image case old value) i := by
  have hMono : Monotone (recordStart (emit case (old ++ added)).headerLen (image case old value)) :=
    monotone_nat_of_le_succ fun n => by
      rw [recordStart]
      omega
  refine le_trans ?_ (hMono hi)
  rcases h with hNone | hLen
  · rw [hNone, image, hNone, List.flatMap_nil, List.append_nil, length_header]
    exact headerLen_le
  · have hLengths : ∀ f ∈ variableFields old, (payload value f).length < 256 ^ 4 := fun f hMem =>
      payload_length (hProper.holds f (mem_variableFields.mp hMem).1) hMem
    have hEnd := recordStart_records (patches (fixedWrites value (layoutFrom 0 old))
      (List.replicate (emit case old).headerLen 0)) hLengths []
    rw [length_header, List.append_nil] at hEnd
    rw [hLen, image, hEnd]

/-- The getters of the added fields find nothing in an old message. -/
theorem get_added (h : RecordsStay case old added) (hProper : Proper case old value)
    {placed : List Placed} (hTypes : ∀ p ∈ placed, p.field.kind.isSome = true)
    (hStart : ∀ p ∈ placed, layoutEnd 0 old ≤ p.offset)
    (hEnd : ∀ p ∈ placed, p.offset + p.field.size ≤ (emit case (old ++ added)).headerLen) {i : Nat}
    (hi : (variableFields old).length ≤ i) : ∀ p ∈ placed, ∃ accessor,
      (p.field.dartName case, accessor) ∈ emitGetters case i placed ∧
        accessor.get (image case old value) (emit case (old ++ added)).headerLen =
          .ok p.field.default := by
  have hBits : ∀ offset size, layoutEnd 0 old ≤ offset →
      offset + size ≤ (emit case (old ++ added)).headerLen →
        bitsAt (image case old value) size offset = 0 := by
    intro offset size hLow hHigh
    refine bitsAt_padding hLow ?_
    rcases h with hNone | hLen
    · exact .inr hNone
    · exact .inl (by rwa [← hLen])
  have hRecord : ∀ j, (variableFields old).length ≤ j → bitsAt (image case old value) 4
      (recordStart (emit case (old ++ added)).headerLen (image case old value) j) = 0 := by
    intro j hj
    have hLong := length_le_recordStart h hProper hj
    exact bitsAt_behind (by omega)
  induction placed generalizing i with
  | nil => exact fun p hMem => absurd hMem List.not_mem_nil
  | cons p rest ih =>
    obtain ⟨hKindHead, hKindTail⟩ := List.forall_mem_cons.mp hTypes
    obtain ⟨hStartHead, hStartTail⟩ := List.forall_mem_cons.mp hStart
    obtain ⟨hEndHead, hEndTail⟩ := List.forall_mem_cons.mp hEnd
    obtain ⟨kind, hKind⟩ := Option.isSome_iff_exists.mp hKindHead
    rw [Field.size, hKind] at hEndHead
    rw [List.forall_mem_cons]
    cases kind with
    | bool =>
      simp only [emitGetters, hKind]
      refine ⟨⟨.bool p.offset, List.mem_cons_self, ?_⟩, fun q hMem => ?_⟩
      · rw [Field.default, hKind]
        exact readBool_zero (hBits _ 1 hStartHead hEndHead)
      · obtain ⟨accessor, hThere, hGet⟩ := ih hKindTail hStartTail hEndTail hi q hMem
        exact ⟨accessor, List.mem_cons_of_mem _ hThere, hGet⟩
    | scalar s =>
      simp only [emitGetters, hKind]
      refine ⟨⟨.scalar s p.offset, List.mem_cons_self, ?_⟩, fun q hMem => ?_⟩
      · rw [Field.default, hKind]
        exact read_zero s (hBits _ _ hStartHead hEndHead)
      · obtain ⟨accessor, hThere, hGet⟩ := ih hKindTail hStartTail hEndTail hi q hMem
        exact ⟨accessor, List.mem_cons_of_mem _ hThere, hGet⟩
    | text =>
      simp only [emitGetters, hKind]
      refine ⟨⟨.text i, List.mem_cons_self, ?_⟩, fun q hMem => ?_⟩
      · rw [Field.default, hKind, Accessor.get_text]
        exact readText_zero (hRecord i hi)
      · obtain ⟨accessor, hThere, hGet⟩ := ih hKindTail hStartTail hEndTail (Nat.le_succ_of_le hi) q hMem
        exact ⟨accessor, List.mem_cons_of_mem _ hThere, hGet⟩
    | data =>
      simp only [emitGetters, hKind]
      refine ⟨⟨.data i, List.mem_cons_self, ?_⟩, fun q hMem => ?_⟩
      · rw [Field.default, hKind, Accessor.get_data]
        exact readData_zero (hRecord i hi)
      · obtain ⟨accessor, hThere, hGet⟩ := ih hKindTail hStartTail hEndTail (Nat.le_succ_of_le hi) q hMem
        exact ⟨accessor, List.mem_cons_of_mem _ hThere, hGet⟩

end Added

section Moved

variable {case : StringCase} {fields : List Field}

def Field.sample (f : Field) : CapnpValue := if f.kind = some .text then .string ['a'] else .bytes [0]

/-- One field differs from its default value. -/
def onlyHolds (g f : Field) : CapnpValue := if f = g then f.sample else f.default

theorem sample_ne_default {f : Field} (hVar : isVariable f = true) : f.sample ≠ f.default := by
  rcases (isVariable_iff f).mp hVar with hKind | hKind <;> simp [Field.sample, Field.default, hKind]

theorem holds_default {f : Field} (hKind : f.kind.isSome = true) : f.Holds f.default := by
  obtain ⟨kind, hSome⟩ := Option.isSome_iff_exists.mp hKind
  rw [Field.Holds, Field.default, hSome]
  cases kind with
  | bool => exact ⟨false, rfl⟩
  | text => exact ⟨[], rfl, by decide, by decide⟩
  | data => exact ⟨[], rfl, by decide⟩
  | scalar s => cases s <;> exact ⟨0, rfl, by decide⟩

theorem holds_sample {f : Field} (hVar : isVariable f = true) : f.Holds f.sample := by
  rw [Field.Holds, Field.sample]
  rcases (isVariable_iff f).mp hVar with hKind | hKind
  · rw [hKind, if_pos rfl]
    exact ⟨['a'], rfl, by decide, by decide⟩
  · rw [hKind, if_neg (by decide)]
    exact ⟨[0], rfl, by decide⟩

theorem holds_onlyHolds {g f : Field} (hVar : isVariable g = true) (hKind : f.kind.isSome = true) :
    f.Holds (onlyHolds g f) := by
  rw [onlyHolds]
  split
  · next hSame => exact hSame ▸ holds_sample hVar
  · exact holds_default hKind

theorem record_default {g f : Field} (hOther : f ≠ g) (hVar : isVariable f = true) :
    ∀ b ∈ record (onlyHolds g) f, b = 0 := by
  have hNone : payload (onlyHolds g) f = [] := by
    rw [payload, onlyHolds, if_neg hOther, Field.default]
    rcases (isVariable_iff f).mp hVar with hKind | hKind
    · rw [hKind]
      rfl
    · rw [hKind]
  rw [record, hNone, List.append_nil]
  exact toBytes_zero 4

theorem length_sample {g : Field} (hVar : isVariable g = true) : (record (onlyHolds g) g).length = 5 := by
  rw [length_record, payload, onlyHolds, if_pos rfl, Field.sample]
  rcases (isVariable_iff g).mp hVar with hKind | hKind
  · rw [hKind, if_pos rfl]
    rfl
  · rw [hKind, if_neg (by decide)]
    rfl

theorem fixedWrites_zero {g : Field} (hVar : isVariable g = true) (placed : List Placed) :
    ∀ w ∈ fixedWrites (onlyHolds g) placed, w.value = 0 := by
  intro w hMem
  obtain ⟨p, -, hWrite⟩ := List.mem_filterMap.mp hMem
  have hOther : p.field.kind = some .bool ∨ (∃ s, p.field.kind = some (.scalar s)) → p.field ≠ g := by
    rintro hKind rfl
    rw [isVariable_iff] at hVar
    rcases hKind with hFixed | ⟨s, hFixed⟩ <;> simp [hFixed] at hVar
  rw [fixedWrite] at hWrite
  split at hWrite
  · next hKind =>
    cases hWrite
    rw [onlyHolds, if_neg (hOther (.inl hKind)), Field.default, hKind]
    rfl
  · next s hKind =>
    cases hWrite
    rw [onlyHolds, if_neg (hOther (.inr ⟨s, hKind⟩)), Field.default, hKind]
    cases s <;> rfl
  · cases hWrite

theorem header_zero {g : Field} (hVar : isVariable g = true) : ∀ b ∈ patches
    (fixedWrites (onlyHolds g) (layoutFrom 0 fields)) (List.replicate (emit case fields).headerLen 0), b = 0 :=
  patches_zero (fixedWrites_zero hVar _) fun _ hMem => List.eq_of_mem_replicate hMem

/-- A word behind the record of the first variable field there is nothing else. -/
theorem zero_behind {g : Field} {vars : List Field} (hVars : variableFields fields = g :: vars)
    (hOnce : g ∉ vars) :
    ∀ b ∈ (image case fields (onlyHolds g)).drop ((emit case fields).headerLen + 8), b = 0 := by
  have hAll : ∀ f ∈ g :: vars, isVariable f = true := by
    rw [← hVars]
    exact fun f hMem => (List.mem_filter.mp hMem).2
  obtain ⟨hVar, hRest⟩ := List.forall_mem_cons.mp hAll
  have hDrop : (image case fields (onlyHolds g)).drop ((emit case fields).headerLen + 8) =
      (vars.flatMap (record (onlyHolds g))).drop 3 := by
    rw [image, hVars, List.flatMap_cons, ← List.append_assoc,
      show (emit case fields).headerLen + 8 = (emit case fields).headerLen + 5 + 3 from rfl,
      ← List.drop_drop, List.drop_left']
    rw [List.length_append, length_header, length_sample hVar]
  rw [hDrop]
  intro b hMem
  obtain ⟨f, hThere, hByte⟩ := List.mem_flatMap.mp (List.mem_of_mem_drop hMem)
  have hOther : f ≠ g := by
    rintro rfl
    exact hOnce hThere
  exact record_default hOther (hRest f hThere) b hByte

/-- A Reader that looks for the first record where there is a zero finds nothing. -/
theorem read_first {g : Field} {vars : List Field} (hVars : variableFields fields = g :: vars)
    {bytes : Bytes} {headerLen : Nat} (hZero : bitsAt bytes 4 headerLen = 0) :
    ∃ accessor, (g.dartName case, accessor) ∈ (emit case fields).getters ∧
      accessor.get bytes headerLen = .ok g.default := by
  obtain ⟨front, back, rfl, hFront, hVar, -⟩ := List.filter_eq_cons_iff.mp hVars
  obtain ⟨p, later, rfl, -, hGetters⟩ := @getter_of_field case (front ++ g :: back) front back g rfl
  have hNone : variableFields front = [] := List.filter_eq_nil_iff.mpr hFront
  rw [hGetters, hNone]
  rcases (isVariable_iff p.field).mp hVar with hKind | hKind
  · refine ⟨.text 0, List.mem_append_right _ ?_, ?_⟩
    · simp only [emitGetters, hKind]
      exact List.mem_cons_self
    · rw [Accessor.get_text, Field.default, hKind]
      exact readText_zero hZero
  · refine ⟨.data 0, List.mem_append_right _ ?_, ?_⟩
    · simp only [emitGetters, hKind]
      exact List.mem_cons_self
    · rw [Accessor.get_data, Field.default, hKind]
      exact readData_zero hZero

end Moved

section Main

variable {case : StringCase} {structName : Name} {old added : List Field}

theorem old_getter {name : Name} {accessor : Accessor} (hMem : (name, accessor) ∈ (emit case old).getters) :
    (name, accessor) ∈ (emit case (old ++ added)).getters := by
  obtain ⟨later, hGetters, -⟩ := @getters_front case old added
  rw [hGetters]
  exact List.mem_append_left _ hMem

/-- Where the records move, they move by a word. -/
theorem exists_first_of_moves (hMoves : ¬ RecordsStay case old added) : ∃ g vars,
    variableFields old = g :: vars ∧ (emit case old).headerLen + 8 ≤ (emit case (old ++ added)).headerLen := by
  obtain ⟨hSome, hLonger⟩ := not_or.mp hMoves
  obtain ⟨g, vars, hVars⟩ := List.exists_cons_of_ne_nil hSome
  have hLe := @headerLen_le case old added
  obtain ⟨m, hOld⟩ : 8 ∣ (emit case old).headerLen := align_dvd (by decide) _
  obtain ⟨n, hNew⟩ : 8 ∣ (emit case (old ++ added)).headerLen := align_dvd (by decide) _
  exact ⟨g, vars, hVars, by omega⟩

/-- Both versions of a schema have classes that compile and assign what they are given. -/
structure Versions (case : StringCase) (structName : Name) (old added : List Field) : Prop where
  types : ∀ f ∈ old ++ added, f.kind.isSome = true
  compileOld : Compiles case structName old
  compileNew : Compiles case structName (old ++ added)
  free : ∀ f ∈ old ++ added, f.dartName case ∉ builderLocals case (old ++ added)

namespace Versions

variable (h : Versions case structName old added)
include h

theorem names : ((old ++ added).map (Field.dartName case)).Nodup := by
  rw [← typedFields_eq h.types]
  exact (namesTaken_of_compiles h.compileNew).once

theorem types_old : ∀ f ∈ old, f.kind.isSome = true := fun f hMem => h.types f (List.mem_append_left _ hMem)

theorem names_old : (old.map (Field.dartName case)).Nodup :=
  ((List.sublist_append_left old added).map _).nodup h.names

theorem proper_old {value : Field → CapnpValue} (hHolds : ∀ f ∈ old, f.Holds (value f)) :
    Proper case old value :=
  ⟨h.names_old, fun f hMem hLocal => h.free f (List.mem_append_left _ hMem) (locals_mono hLocal), hHolds⟩

theorem proper_new {value : Field → CapnpValue} (hHolds : ∀ f ∈ old ++ added, f.Holds (value f)) :
    Proper case (old ++ added) value := ⟨h.names, h.free, hHolds⟩

theorem first_once {g : Field} {vars : List Field} (hVars : variableFields old = g :: vars) : g ∉ vars := by
  have hOnce : (variableFields old).Nodup := (List.Nodup.of_map _ h.names_old).filter _
  rw [hVars] at hOnce
  exact (List.nodup_cons.mp hOnce).1

theorem readsOldMessages (hStay : RecordsStay case old added) : ReadsOldMessages case old added := by
  intro value hHolds
  have hProper := h.proper_old hHolds
  refine ⟨image case old value, build_eq hProper, fun f hMem => ?_, fun f hMem => ?_⟩
  · obtain ⟨accessor, hGetter, hRead⟩ := read_image hProper hMem
    rw [read_getter h.types h.names (old_getter hGetter), get_stays hStay hGetter, hRead]
  · obtain ⟨later, hGetters, rfl⟩ := @getters_front case old added
    have hFields : added = (layoutFrom (layoutEnd 0 old) added).map Placed.field :=
      (map_field_layoutFrom _ added).symm
    rw [hFields] at hMem
    obtain ⟨p, hPlaced, rfl⟩ := List.mem_map.mp hMem
    have hInside : ∀ p ∈ layoutFrom (layoutEnd 0 old) added,
        p.offset + p.field.size ≤ (emit case (old ++ added)).headerLen := by
      intro p hPlaced
      refine layout_fits ?_
      rw [layoutFrom_append]
      exact List.mem_append_right _ hPlaced
    obtain ⟨accessor, hThere, hRead⟩ := get_added hStay hProper
      (fun p hPlaced => h.types _ (List.mem_append_right _ (field_mem hPlaced)))
      (fun p hPlaced => (placed_bounds hPlaced).1) hInside le_rfl p hPlaced
    have hGetter : (p.field.dartName case, accessor) ∈ (emit case (old ++ added)).getters := by
      rw [hGetters]
      exact List.mem_append_right _ hThere
    rw [read_getter h.types h.names hGetter, hRead]

theorem readsNewMessages (hStay : RecordsStay case old added) : ReadsNewMessages case old added := by
  intro value hHolds
  have hProper := h.proper_new hHolds
  refine ⟨image case (old ++ added) value, build_eq hProper, fun f hMem => ?_⟩
  obtain ⟨accessor, hGetter, -⟩ := read_image
    (h.proper_old fun f hMem => hHolds f (List.mem_append_left _ hMem)) hMem
  obtain ⟨accessor', hGetter', hRead⟩ := read_image hProper (List.mem_append_left added hMem)
  have hSame := (read_getter h.types h.names (old_getter hGetter) _).symm.trans
    (read_getter h.types h.names hGetter' (image case (old ++ added) value))
  rw [read_getter h.types_old h.names_old hGetter, ← get_stays hStay hGetter, Option.some.inj hSame, hRead]

theorem not_readsOldMessages (hMoves : ¬ RecordsStay case old added) :
    ¬ ReadsOldMessages case old added := by
  intro hReads
  obtain ⟨g, vars, hVars, hFar⟩ := exists_first_of_moves hMoves
  obtain ⟨hMem, hVar⟩ := List.mem_filter.mp (hVars ▸ List.mem_cons_self : g ∈ variableFields old)
  have hHolds : ∀ f ∈ old, f.Holds (onlyHolds g f) := fun f hThere =>
    holds_onlyHolds hVar (h.types_old f hThere)
  obtain ⟨bytes, hBuild, hOld, -⟩ := hReads (onlyHolds g) hHolds
  cases hBuild.symm.trans (build_eq (h.proper_old hHolds))
  have hZero : bitsAt (image case old (onlyHolds g)) 4 (emit case (old ++ added)).headerLen = 0 :=
    bitsAt_zero (zero_behind hVars (h.first_once hVars)) hFar 4
  obtain ⟨accessor, hGetter, hGet⟩ := @read_first case _ g vars hVars _ _ hZero
  have hRead := hOld g hMem
  rw [read_getter h.types h.names (old_getter hGetter), hGet, onlyHolds, if_pos rfl] at hRead
  exact sample_ne_default hVar (Except.ok.inj (Option.some.inj hRead)).symm

theorem not_readsNewMessages (hMoves : ¬ RecordsStay case old added) :
    ¬ ReadsNewMessages case old added := by
  intro hReads
  obtain ⟨g, vars, hVars, hFar⟩ := exists_first_of_moves hMoves
  obtain ⟨hMem, hVar⟩ := List.mem_filter.mp (hVars ▸ List.mem_cons_self : g ∈ variableFields old)
  have hHolds : ∀ f ∈ old ++ added, f.Holds (onlyHolds g f) := fun f hThere =>
    holds_onlyHolds hVar (h.types f hThere)
  obtain ⟨bytes, hBuild, hOld⟩ := hReads (onlyHolds g) hHolds
  cases hBuild.symm.trans (build_eq (h.proper_new hHolds))
  have hZero : bitsAt (image case (old ++ added) (onlyHolds g)) 4 (emit case old).headerLen = 0 := by
    obtain ⟨header, hHeader⟩ : ∃ header, header = patches
        (fixedWrites (onlyHolds g) (layoutFrom 0 (old ++ added)))
        (List.replicate (emit case (old ++ added)).headerLen (0 : UInt8)) := ⟨_, rfl⟩
    have hLength : header.length = (emit case (old ++ added)).headerLen := by rw [hHeader, length_header]
    have hBytes : ∀ b ∈ header.drop 0, b = 0 := by
      rw [hHeader]
      exact header_zero hVar
    rw [image, ← hHeader, bitsAt, if_neg (by rw [List.length_append]; omega), window_append (by omega)]
    exact window_eq_zero hBytes (Nat.zero_le _) 4
  obtain ⟨accessor, hGetter, hGet⟩ := @read_first case _ g vars hVars _ _ hZero
  have hRead := hOld g hMem
  rw [read_getter h.types_old h.names_old hGetter, hGet, onlyHolds, if_pos rfl] at hRead
  exact sample_ne_default hVar (Except.ok.inj (Option.some.inj hRead)).symm

end Versions

/-- Readers and messages of the two versions understand each other if and only if no record moves. -/
theorem added_fields_iff (h : Versions case structName old added) :
    (ReadsOldMessages case old added ↔ RecordsStay case old added) ∧
      (ReadsNewMessages case old added ↔ RecordsStay case old added) := by
  refine ⟨⟨fun hReads => ?_, h.readsOldMessages⟩, fun hReads => ?_, h.readsNewMessages⟩
  · by_contra hMoves
    exact h.not_readsOldMessages hMoves hReads
  · by_contra hMoves
    exact h.not_readsNewMessages hMoves hReads

end Main

def flagField : Field := ⟨['o', 'n'], 2, BOOL_TYPE⟩

theorem flag_taken : NamesTaken asciiCase LABEL [nameField, speedField, flagField] := by
  refine ⟨.inr (by decide), by decide, by decide, by decide, by decide,
    by decide, fun f hTyped hLocal => absurd hLocal ?_⟩
  revert f
  decide

/-- A flag fits into the padding of the header; the first number makes the header longer. -/
theorem added_fields_flag :
    (ReadsOldMessages asciiCase [nameField, speedField] [flagField] ∧
      ReadsNewMessages asciiCase [nameField, speedField] [flagField]) ∧
    ¬ ReadsOldMessages asciiCase [nameField] [speedField] ∧
      ¬ ReadsNewMessages asciiCase [nameField] [speedField] := by
  have hSpeed : Compiles asciiCase LABEL [nameField, speedField] := compiles_iff.mpr ⟨by decide, speed_taken⟩
  have hFlag : Compiles asciiCase LABEL ([nameField, speedField] ++ [flagField]) :=
    compiles_iff.mpr ⟨by decide, flag_taken⟩
  obtain ⟨hOld, hNew⟩ := @added_fields_iff asciiCase LABEL [nameField, speedField] [flagField]
    ⟨by decide, hSpeed, hFlag, by decide⟩
  obtain ⟨hOld', hNew'⟩ := @added_fields_iff asciiCase LABEL [nameField] [speedField]
    ⟨by decide, label_compiles, hSpeed, by decide⟩
  have hMoves : ¬ RecordsStay asciiCase [nameField] [speedField] := by
    rintro (hNone | hLen)
    · cases hNone
    · exact absurd hLen (by decide)
  exact ⟨⟨hOld.mpr (.inr (by decide)), hNew.mpr (.inr (by decide))⟩, fun h => hMoves (hOld'.mp h),
    fun h => hMoves (hNew'.mp h)⟩

end VsomeipDart
