import Mathlib.Data.List.Induction
import VsomeipDart.CapnpCompiles

/-! # What the generated Builder writes, the generated Reader reads

The Builder's variables can hide a parameter of the same name. Where they do not, every field comes back.
-/

namespace VsomeipDart
set_option autoImplicit false

open LittleEndian TextEncoding BlockScope

/-- The generated classes compile, and every assignment comes back from the bytes that `build` returns. -/
def RoundTrips (case : StringCase) (structName : Name) (fields : List Field) : Prop :=
  Compiles case structName fields ∧
  ∀ value : Field → CapnpValue, (∀ f ∈ fields, f.Holds (value f)) →
    ∃ bytes, (emit case fields).build (fields.map fun f => (f.dartName case, value f)) = some bytes ∧
      ∀ f ∈ fields, (emit case fields).read bytes (f.dartName case) = some (.ok (value f))

theorem exists_other_value {f : Field} (hKind : f.kind.isSome = true) :
    ∃ v w, v ≠ w ∧ f.Holds v ∧ f.Holds w := by
  obtain ⟨kind, hSome⟩ := Option.isSome_iff_exists.mp hKind
  simp only [Field.Holds, hSome]
  cases kind with
  | bool => exact ⟨.bool false, .bool true, by decide, ⟨_, rfl⟩, ⟨_, rfl⟩⟩
  | text => exact ⟨.string [], .string ['a'], by decide, ⟨[], rfl, by decide, by decide⟩,
      ⟨['a'], rfl, by decide, by decide⟩⟩
  | data => exact ⟨.bytes [], .bytes [0], by decide, ⟨[], rfl, by decide⟩, ⟨[0], rfl, by decide⟩⟩
  | scalar s =>
    cases s with
    | float32 => exact ⟨.float32 0, .float32 1, by decide, ⟨0, rfl, by decide⟩, ⟨1, rfl, by decide⟩⟩
    | float64 => exact ⟨.float64 0, .float64 1, by decide, ⟨0, rfl, by decide⟩, ⟨1, rfl, by decide⟩⟩
    | uint8 | uint16 | uint32 =>
      exact ⟨.int 0, .int 1, by decide, ⟨0, rfl, by decide⟩, ⟨1, rfl, by decide⟩⟩
    | uint64 | int8 | int16 | int32 | int64 =>
      exact ⟨.int 0, .int 1, by decide, ⟨0, rfl, by decide⟩, ⟨1, rfl, by decide⟩⟩

theorem not_hidden_of_roundTrips {case : StringCase} {structName : Name} {fields : List Field}
    (hTypes : ∀ f ∈ fields, f.kind.isSome = true) (h : RoundTrips case structName fields) {f : Field}
    (hMem : f ∈ fields) : f.dartName case ∉ builderLocals case fields := by
  intro hHidden
  have hValue : ∀ g : Field, ∃ u, g ∈ fields → g.Holds u := by
    intro g
    by_cases hThere : g ∈ fields
    · obtain ⟨u, -, -, hHolds, -⟩ := exists_other_value (hTypes g hThere)
      exact ⟨u, fun _ => hHolds⟩
    · exact ⟨.int 0, fun h => absurd h hThere⟩
  choose base hBase using hValue
  obtain ⟨v, w, hNe, hv, hw⟩ := exists_other_value (hTypes f hMem)
  have hRange : ∀ u, f.Holds u → ∀ g ∈ fields, g.Holds (Function.update base f u g) := by
    intro u hu g hThere
    rcases eq_or_ne g f with rfl | hOther
    · rwa [Function.update_self]
    · rw [Function.update_of_ne hOther]
      exact hBase g hThere
  have hSame : ∀ g : Field, g.dartName case ≠ f.dartName case →
      Function.update base f v g = Function.update base f w g := by
    intro g hName
    have hOther : g ≠ f := by
      rintro rfl
      exact hName rfl
    rw [Function.update_of_ne hOther, Function.update_of_ne hOther]
  obtain ⟨left, hLeft, hReadLeft⟩ := h.2 _ (hRange v hv)
  obtain ⟨right, hRight, hReadRight⟩ := h.2 _ (hRange w hw)
  have hBuild := build_hidden hHidden hSame
  rw [arguments, arguments, hLeft, hRight] at hBuild
  cases hBuild
  have hBoth := (hReadLeft f hMem).symm.trans (hReadRight f hMem)
  rw [Function.update_self, Function.update_self] at hBoth
  cases hBoth
  exact hNe rfl

section Getters

variable {case : StringCase}

theorem layoutFrom_append (offset : Nat) (front back : List Field) :
    layoutFrom offset (front ++ back) =
      layoutFrom offset front ++ layoutFrom (layoutEnd offset front) back := by
  induction front generalizing offset with
  | nil => rfl
  | cons f rest ih => rw [List.cons_append, layoutFrom, ih, layoutFrom, layoutEnd, List.cons_append]

theorem emitGetters_append (i : Nat) (front back : List Placed) :
    emitGetters case i (front ++ back) = emitGetters case i front ++
      emitGetters case (i + (variableFields (front.map Placed.field)).length) back := by
  induction front generalizing i with
  | nil => rfl
  | cons p rest ih =>
    rw [List.map_cons]
    cases hKind : p.field.kind with
    | none =>
      have hFixed : isVariable p.field = false := by rw [isVariable, hKind]; rfl
      simp only [List.cons_append, emitGetters, hKind, ih, variableFields_cons_fixed hFixed]
    | some kind =>
      cases kind with
      | bool | scalar s =>
        have hFixed : isVariable p.field = false := by rw [isVariable, hKind]; rfl
        simp only [List.cons_append, emitGetters, hKind, ih, variableFields_cons_fixed hFixed]
      | text | data =>
        have hVar : isVariable p.field = true := by rw [isVariable, hKind]; rfl
        simp only [List.cons_append, emitGetters, hKind, ih, variableFields_cons hVar, List.length_cons,
          Nat.add_right_comm i 1]
        rfl

theorem map_fst_emitGetters {placed : List Placed} (hTypes : ∀ p ∈ placed, p.field.kind.isSome = true)
    (i : Nat) : (emitGetters case i placed).map Prod.fst =
      placed.map fun p => p.field.dartName case := by
  induction placed generalizing i with
  | nil => rfl
  | cons p rest ih =>
    obtain ⟨hHead, hTail⟩ := List.forall_mem_cons.mp hTypes
    obtain ⟨kind, hKind⟩ := Option.isSome_iff_exists.mp hHead
    cases kind <;> simp only [emitGetters, hKind, List.map_cons, ih hTail] <;> rfl

end Getters

section ReadBack

variable {case : StringCase} {fields : List Field} {value : Field → CapnpValue}

theorem bitsAt_image {p : Placed} (hPlaced : p ∈ layoutFrom 0 fields) {w : Write}
    (hWrite : fixedWrite value p = some w) (hValue : w.value < 256 ^ w.width) :
    bitsAt (image case fields value) w.width w.offset = w.value := by
  have hMem : w ∈ fixedWrites value (layoutFrom 0 fields) := List.mem_filterMap.mpr ⟨p, hPlaced, hWrite⟩
  have hFits : ∀ w ∈ fixedWrites value (layoutFrom 0 fields),
      w.Fits (List.replicate (emit case fields).headerLen (0 : UInt8)).length := by
    rw [List.length_replicate]
    exact fixedWrites_fit value fun p hMem => layout_fits hMem
  have hHere := hFits w hMem
  rw [← patches_length hFits, Write.Fits] at hHere
  rw [bitsAt, image, if_neg (by rw [List.length_append]; omega), window_append hHere]
  exact window_patches hFits (fixedWrites_ascend value 0 fields) hMem hValue

section Record

variable {data : Bytes} (h : data.length < 256 ^ 4) (front back : Bytes)
include h

theorem bitsAt_record : bitsAt (front ++ (toBytes 4 data.length ++ (data ++ back))) 4 front.length =
    data.length := by
  have hRead := readAt_field h front (data ++ back)
  rw [readAt] at hRead
  split at hRead
  · rw [bitsAt, if_neg (by omega)]
    exact Option.some.inj hRead
  · cases hRead

theorem recordFits_record :
    RecordFits (front ++ (toBytes 4 data.length ++ (data ++ back))) front.length := by
  rw [RecordFits, bitsAt_record h]
  simp only [List.length_append, toBytes_length]
  omega

theorem content_record :
    content (front ++ (toBytes 4 data.length ++ (data ++ back))) front.length = data := by
  rw [content, bitsAt_record h, ← List.drop_drop, List.drop_left, List.drop_left' (toBytes_length ..),
    List.take_left]

end Record

/-- The Reader's sum of the lengths is the place at which the Builder's cursor was. -/
theorem recordStart_records (header : Bytes) {front : List Field}
    (hLengths : ∀ f ∈ front, (payload value f).length < 256 ^ 4) (back : List Field) :
    recordStart header.length (header ++ (front ++ back).flatMap (record value)) front.length =
      (header ++ front.flatMap (record value)).length := by
  induction front using List.reverseRecOn generalizing back with
  | nil => rw [List.flatMap_nil, List.append_nil, List.length_nil, recordStart]
  | append_singleton front g ih =>
    have hLength := hLengths g (List.mem_append_right front List.mem_cons_self)
    have hStart := ih (fun f hMem => hLengths f (List.mem_append_left [g] hMem)) (g :: back)
    have hBytes : header ++ (front ++ g :: back).flatMap (record value) =
        (header ++ front.flatMap (record value)) ++ (toBytes 4 (payload value g).length ++
          (payload value g ++ back.flatMap (record value))) := by
      rw [List.flatMap_append, List.flatMap_cons, record, List.append_assoc, List.append_assoc]
    rw [List.append_assoc, List.singleton_append, List.length_append, List.length_singleton, recordStart,
      hStart, hBytes, bitsAt_record hLength, List.flatMap_append, List.flatMap_singleton]
    simp only [List.length_append, length_record]
    omega

theorem readText_decodes {bytes : Bytes} {start : Nat} {text : List Char} (hFits : RecordFits bytes start)
    (hContent : content bytes start = utf8 text) (hMark : text.head? ≠ some byteOrderMark) :
    readText bytes start = .ok (.string text) := by
  have hDecode := utf8Decode_utf8 hMark
  by_cases hNone : content bytes start = []
  · have hEmpty : utf8Decode (utf8 []) = some text := by
      rw [← hDecode, ← hContent, hNone]
      rfl
    rw [utf8Decode_utf8 (by decide)] at hEmpty
    cases hEmpty
    exact readText_empty hFits hNone
  · rw [readText_fits hFits hNone, hContent, hDecode]

theorem getter_of_field {front back : List Field} {f : Field} (hSplit : fields = front ++ f :: back) :
    ∃ p later, p.field = f ∧ p ∈ layoutFrom 0 fields ∧ (emit case fields).getters =
      emitGetters case 0 (layoutFrom 0 front) ++
        emitGetters case (variableFields front).length (p :: later) := by
  have hLayout : layoutFrom 0 fields =
      layoutFrom 0 front ++ layoutFrom (layoutEnd 0 front) (f :: back) := by
    rw [hSplit, layoutFrom_append]
  refine ⟨⟨f, place (layoutEnd 0 front) f⟩,
    layoutFrom (place (layoutEnd 0 front) f + f.size) back, rfl, ?_, ?_⟩
  · rw [hLayout]
    exact List.mem_append_right _ List.mem_cons_self
  · show emitGetters case 0 (layoutFrom 0 fields) = _
    rw [hLayout, emitGetters_append, map_field_layoutFrom, Nat.zero_add]
    rfl

theorem readBool_image {p : Placed} (hPlaced : p ∈ layoutFrom 0 fields) (hKind : p.field.kind = some .bool)
    {b : Bool} (hValue : value p.field = .bool b) :
    readBool (image case fields value) p.offset = .ok (.bool b) := by
  have hWrite : fixedWrite value p = some ⟨1, p.offset, if b then 1 else 0⟩ := by
    rw [fixedWrite, hKind, hValue]
    cases b <;> rfl
  have hSmall : (if b then 1 else 0) < 256 ^ 1 := by cases b <;> decide
  have hBits : bitsAt (image case fields value) 1 p.offset = if b then 1 else 0 :=
    bitsAt_image hPlaced hWrite hSmall
  have hFits : p.offset < (image case fields value).length := by
    have hHeader : p.offset + p.field.size ≤ (emit case fields).headerLen := layout_fits hPlaced
    simp only [Field.size, hKind] at hHeader
    rw [image, List.length_append, length_header]
    omega
  rw [bitsAt, if_neg (by omega), window_one _ hFits] at hBits
  have hByte : (image case fields value)[p.offset] = if b then 1 else 0 := by
    rw [← UInt8.toNat_inj, hBits]
    cases b <;> rfl
  rw [readBool, dif_pos hFits, hByte]
  cases b <;> rfl

theorem readScalar_image {p : Placed} {s : Scalar} (hPlaced : p ∈ layoutFrom 0 fields)
    (hKind : p.field.kind = some (.scalar s)) (hHolds : s.Holds (value p.field)) :
    s.read (image case fields value) p.offset = .ok (value p.field) := by
  obtain ⟨bits, hPattern, hRange, hValue⟩ := Scalar.value_pattern hHolds
  have hWrite : fixedWrite value p = some ⟨s.size, p.offset, bits⟩ := by
    rw [fixedWrite, hKind]
    dsimp only
    rw [hPattern, Option.getD_some]
  rw [s.read_eq, bitsAt_image hPlaced hWrite hRange, hValue]

/-- The record of a variable field lies where the Reader looks for it. -/
theorem record_image (h : Proper case fields value) {front back : List Field} {f : Field}
    (hSplit : fields = front ++ f :: back) (hVar : isVariable f = true) :
    RecordFits (image case fields value) (recordStart (emit case fields).headerLen
      (image case fields value) (variableFields front).length) ∧
    content (image case fields value) (recordStart (emit case fields).headerLen
      (image case fields value) (variableFields front).length) = payload value f := by
  have hVars : variableFields fields = variableFields front ++ f :: variableFields back := by
    rw [hSplit, variableFields, List.filter_append, List.filter_cons_of_pos hVar]
    rfl
  have hLength : ∀ g ∈ variableFields fields, (payload value g).length < 256 ^ 4 := fun g hMem =>
    payload_length (h.holds g (mem_variableFields.mp hMem).1) hMem
  rw [hVars] at hLength
  have hStart := @recordStart_records value
    (patches (fixedWrites value (layoutFrom 0 fields)) (List.replicate (emit case fields).headerLen 0))
    _ (fun g hMem => hLength g (List.mem_append_left _ hMem)) (f :: variableFields back)
  rw [length_header, ← hVars, ← image] at hStart
  have hBytes : image case fields value =
      (patches (fixedWrites value (layoutFrom 0 fields)) (List.replicate (emit case fields).headerLen 0) ++
        (variableFields front).flatMap (record value)) ++ (toBytes 4 (payload value f).length ++
          (payload value f ++ (variableFields back).flatMap (record value))) := by
    rw [image, hVars, List.flatMap_append, List.flatMap_cons, record, List.append_assoc, List.append_assoc]
  have hOwn := hLength f (List.mem_append_right _ List.mem_cons_self)
  rw [hStart, hBytes]
  exact ⟨recordFits_record hOwn _ _, content_record hOwn _ _⟩

end ReadBack

section Main

variable {case : StringCase} {structName : Name} {fields : List Field} {value : Field → CapnpValue}

theorem read_image (h : Proper case fields value) {f : Field} (hMem : f ∈ fields) :
    ∃ accessor, (f.dartName case, accessor) ∈ (emit case fields).getters ∧
      accessor.get (image case fields value) (emit case fields).headerLen = .ok (value f) := by
  obtain ⟨front, back, hSplit⟩ := List.append_of_mem hMem
  obtain ⟨p, later, rfl, hPlaced, hGetters⟩ := @getter_of_field case fields front back f hSplit
  have hHold := h.holds p.field hMem
  have hGetter : ∀ accessor, (p.field.dartName case, accessor) ∈
      emitGetters case (variableFields front).length (p :: later) →
        (p.field.dartName case, accessor) ∈ (emit case fields).getters := by
    intro accessor hThere
    rw [hGetters]
    exact List.mem_append_right _ hThere
  rw [Field.Holds] at hHold
  cases hKind : p.field.kind with
  | none =>
    rw [hKind] at hHold
    exact absurd hHold id
  | some kind =>
    rw [hKind] at hHold
    cases kind with
    | bool =>
      obtain ⟨b, hValue⟩ := hHold
      refine ⟨.bool p.offset, hGetter _ ?_, ?_⟩
      · rw [emitGetters, hKind]
        exact List.mem_cons_self
      · exact (readBool_image hPlaced hKind hValue).trans (congrArg Except.ok hValue.symm)
    | scalar s =>
      refine ⟨.scalar s p.offset, hGetter _ ?_, readScalar_image hPlaced hKind hHold⟩
      rw [emitGetters, hKind]
      exact List.mem_cons_self
    | text =>
      obtain ⟨text, hValue, hMark, -⟩ := hHold
      have hVar : isVariable p.field = true := (isVariable_iff p.field).mpr (.inl hKind)
      obtain ⟨hFits, hContent⟩ := record_image h hSplit hVar
      refine ⟨.text (variableFields front).length, hGetter _ ?_, ?_⟩
      · rw [emitGetters, hKind]
        exact List.mem_cons_self
      · rw [payload, hValue] at hContent
        rw [Accessor.get_text, readText_decodes hFits hContent hMark, hValue]
    | data =>
      obtain ⟨data, hValue, -⟩ := hHold
      have hVar : isVariable p.field = true := (isVariable_iff p.field).mpr (.inr hKind)
      obtain ⟨hFits, hContent⟩ := record_image h hSplit hVar
      refine ⟨.data (variableFields front).length, hGetter _ ?_, ?_⟩
      · rw [emitGetters, hKind]
        exact List.mem_cons_self
      · rw [payload, hValue] at hContent
        rw [Accessor.get_data, readData_fits hFits, hContent, hValue]

theorem names_getters (hTypes : ∀ f ∈ fields, f.kind.isSome = true) :
    (emit case fields).getters.map Prod.fst = fields.map (Field.dartName case) := by
  have hPlaced : ∀ p ∈ layoutFrom 0 fields, p.field.kind.isSome = true :=
    fun p hMem => hTypes p.field (field_mem hMem)
  have hPlain : (layoutFrom 0 fields).map (fun p => p.field.dartName case) =
      ((layoutFrom 0 fields).map Placed.field).map (Field.dartName case) := by rw [List.map_map]; rfl
  exact (map_fst_emitGetters hPlaced 0).trans (by rw [hPlain, map_field_layoutFrom])

theorem typedFields_eq (hTypes : ∀ f ∈ fields, f.kind.isSome = true) : typedFields fields = fields :=
  List.filter_eq_self.mpr hTypes

theorem roundTrips_of_free (hTypes : ∀ f ∈ fields, f.kind.isSome = true)
    (hNames : (fields.map (Field.dartName case)).Nodup) (hCompiles : Compiles case structName fields)
    (hFree : ∀ f ∈ fields, f.dartName case ∉ builderLocals case fields) :
    RoundTrips case structName fields := by
  refine ⟨hCompiles, fun value hHolds => ?_⟩
  have hProper : Proper case fields value := ⟨hNames, hFree, hHolds⟩
  refine ⟨image case fields value, build_eq hProper, fun f hMem => ?_⟩
  obtain ⟨accessor, hGetter, hRead⟩ := read_image hProper hMem
  have hOnce : ((emit case fields).getters.map Prod.fst).Nodup := by
    rw [names_getters hTypes]
    exact hNames
  rw [Emitted.read, lookup_of_nodup hOnce hGetter, Option.map_some, hRead]

/-- The generated classes round-trip if and only if there is a field, Dart takes the names, and no variable of
`build` hides a field. -/
theorem round_trips_iff (hTypes : ∀ f ∈ fields, f.kind.isSome = true)
    (hNames : (fields.map (Field.dartName case)).Nodup) :
    RoundTrips case structName fields ↔ fields ≠ [] ∧ NamesTaken case structName fields ∧
      ∀ f ∈ fields, f.dartName case ∉ builderLocals case fields := by
  have hTyped := typedFields_eq hTypes
  constructor
  · intro h
    obtain ⟨hSome, hTaken⟩ := compiles_iff.mp h.1
    rw [hTyped] at hSome
    exact ⟨hSome, hTaken, fun f hMem => not_hidden_of_roundTrips hTypes h hMem⟩
  · rintro ⟨hSome, hTaken, hFree⟩
    exact roundTrips_of_free hTypes hNames (compiles_iff.mpr ⟨by rwa [hTyped], hTaken⟩) hFree

end Main

def speedField : Field :=
  ⟨['m', 'a', 'x', '_', 's', 'p', 'e', 'e', 'd'], 1, ['U', 'I', 'n', 't', '1', '6']⟩

theorem speed_taken : NamesTaken asciiCase LABEL [nameField, speedField] := by
  refine ⟨.inr (by decide), by decide, by decide, by decide, by decide,
    by decide, fun f hTyped hLocal => absurd hLocal ?_⟩
  revert f
  decide

theorem round_trips_speed : RoundTrips asciiCase LABEL [nameField, speedField] :=
  (round_trips_iff (by decide) (by decide)).mpr ⟨by decide, speed_taken, by decide⟩

def totalField : Field := ⟨['t', 'o', 't', 'a', 'l'], 1, ['U', 'I', 'n', 't', '3', '2']⟩

/-- The classes compile, but the variable `total` hides the field `total`: what is written is the length of the
message. -/
theorem total_hides_field :
    (∀ f ∈ [nameField, totalField], f.kind.isSome = true) ∧
      ([nameField, totalField].map (Field.dartName asciiCase)).Nodup ∧
      Compiles asciiCase LABEL [nameField, totalField] ∧
      ¬ RoundTrips asciiCase LABEL [nameField, totalField] := by
  have hTypes : ∀ f ∈ [nameField, totalField], f.kind.isSome = true := by decide
  refine ⟨hTypes, by decide, compiles_iff.mpr ⟨by decide, .inr (by decide), by decide, by decide,
    by decide, by decide, by decide, fun f hTyped hLocal => ?_⟩, fun h => ?_⟩
  · have hName : ∀ f ∈ [nameField, totalField], f.dartName asciiCase ∈ builderLocals asciiCase
        [nameField, totalField] → f = totalField := by decide
    obtain rfl := hName f (mem_typedFields.mp hTyped).1 hLocal
    exact .inl ⟨by decide, .uint32, by decide, rfl⟩
  · have hMem : totalField ∈ [nameField, totalField] := by decide
    exact not_hidden_of_roundTrips hTypes h hMem (by decide)

example : ((emit asciiCase [nameField, totalField]).build [(['n', 'a', 'm', 'e'], .string []),
    (['t', 'o', 't', 'a', 'l'], .int 7)]) = some [12, 0, 0, 0, 0, 0, 0, 0, 0, 0, 0, 0] := by decide

end VsomeipDart
