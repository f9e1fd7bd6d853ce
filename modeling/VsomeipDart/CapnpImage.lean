import VsomeipDart.CapnpBuild

/-! # The whole of `build`

Where no parameter is hidden, every name that `build` uses stands for what it was meant for.
-/

namespace VsomeipDart
set_option autoImplicit false

open LittleEndian TextEncoding BlockScope

section Names

theorem bytesName_ne {y : Name} (h : y.getLast? ≠ some 's') (x : Name) : bytesName x ≠ y := by
  rintro rfl
  rw [bytesName, List.getLast?_append] at h
  exact h rfl

theorem bytesName_injective : Function.Injective bytesName := fun _ _ h => List.append_cancel_right h

variable {case : StringCase} {fields : List Field}

theorem isVariable_iff (f : Field) : isVariable f = true ↔ f.kind = some .text ∨ f.kind = some .data := by
  rw [isVariable, Bool.or_eq_true, beq_iff_eq, beq_iff_eq]

theorem isText_iff (f : Field) : (f.kind == some .text) = true ↔ f.kind = some .text := beq_iff_eq

theorem mem_variableFields {f : Field} : f ∈ variableFields fields ↔
    f ∈ fields ∧ (f.kind = some .text ∨ f.kind = some .data) := by
  rw [variableFields, List.mem_filter, isVariable_iff]

theorem variableFields_cons {f : Field} (h : isVariable f = true) (rest : List Field) :
    variableFields (f :: rest) = f :: variableFields rest := List.filter_cons_of_pos h

theorem variableFields_cons_fixed {f : Field} (h : isVariable f = false) (rest : List Field) :
    variableFields (f :: rest) = variableFields rest :=
  List.filter_cons_of_neg (Bool.eq_false_iff.mp h)

def textFields (vars : List Field) : List Field := vars.filter fun f => f.kind == some .text

theorem mem_textFields {vars : List Field} {f : Field} :
    f ∈ textFields vars ↔ f ∈ vars ∧ f.kind = some .text := by
  rw [textFields, List.mem_filter, isText_iff]

theorem ne_of_free {x y : Name} (h : x ∉ builderLocals case fields) (hy : y ∈ builderLocals case fields) :
    x ≠ y := by
  rintro rfl
  exact h hy

theorem buf_mem : buf ∈ builderLocals case fields := by
  rw [builderLocals]
  exact List.mem_append_left _ (List.mem_append_left _ List.mem_cons_self)

theorem bd_mem : bd ∈ builderLocals case fields := by
  rw [builderLocals]
  exact List.mem_append_left _ (List.mem_append_left _ (List.mem_cons_of_mem _ List.mem_cons_self))

theorem total_mem (hVars : variableFields fields ≠ []) : total ∈ builderLocals case fields := by
  rw [builderLocals, if_pos hVars]
  exact List.mem_append_left _ (List.mem_append_right _ List.mem_cons_self)

theorem cursor_mem (hVars : variableFields fields ≠ []) : cursor ∈ builderLocals case fields := by
  rw [builderLocals, if_pos hVars]
  exact List.mem_append_left _ (List.mem_append_right _ (List.mem_cons_of_mem _ List.mem_cons_self))

theorem bytesName_mem {f : Field} (h : f ∈ textFields (variableFields fields)) :
    bytesName (f.dartName case) ∈ builderLocals case fields := by
  rw [builderLocals]
  exact List.mem_append_right _ (List.mem_map_of_mem h)

end Names

section Steps

variable {case : StringCase} {value : Field → CapnpValue}

def encodings (case : StringCase) (value : Field → CapnpValue) (texts : List Field) :
    List (Name × Operand) :=
  texts.map fun f => (bytesName (f.dartName case), .value (.bytes (payload value f)))

/-- A text is encoded before another variable can be mistaken for it. -/
theorem run_encodings {s : BlockState} {texts : List Field}
    (hTexts : ∀ f ∈ texts, ∃ text, value f = .string text ∧
      s.scope.resolve (f.dartName case) = some (.value (.string text)))
    (hFresh : ∀ f ∈ texts, ∀ g ∈ texts, f.dartName case ≠ bytesName (g.dartName case)) (rest : List Stmt) :
    s.run (texts.map (fun f => .declare (bytesName (f.dartName case)) (.encode (f.dartName case))) ++
        rest) =
      { s with scope := s.scope.assignAll (encodings case value texts) }.run rest := by
  induction texts generalizing s with
  | nil => rfl
  | cons f texts ih =>
    obtain ⟨⟨text, hValue, hText⟩, hLaterTexts⟩ := List.forall_mem_cons.mp hTexts
    have hEncode : s.eval (.encode (f.dartName case)) = some (.value (.bytes (payload value f))) := by
      rw [BlockState.eval, hText, payload, hValue]
    rw [List.map_cons, List.cons_append, BlockState.run_cons (BlockState.exec_declare hEncode)]
    refine ih (fun g hMem => ?_) fun g hg h hh =>
      hFresh g (List.mem_cons_of_mem f hg) h (List.mem_cons_of_mem f hh)
    obtain ⟨other, hOther, hResolve⟩ := hLaterTexts g hMem
    have hNe := hFresh g (List.mem_cons_of_mem f hMem) f List.mem_cons_self
    exact ⟨other, hOther, (Scope.resolve_assign_other hNe _).trans hResolve⟩

/-- The state in front of the setters: the list and the view of it. -/
def opened (scope : Scope Name Operand) : Scope Name Operand := (scope.assign buf .buffer).assign bd .view

theorem opened_other {scope : Scope Name Operand} {x : Name} (hBuf : x ≠ buf) (hBd : x ≠ bd) :
    (opened scope).resolve x = scope.resolve x := by
  rw [opened, Scope.resolve_assign_other hBd, Scope.resolve_assign_other hBuf]

theorem opened_buf {scope : Scope Name Operand} (h : buf ∈ scope.locals) :
    (opened scope).resolve buf = some .buffer := by
  rw [opened, Scope.resolve_assign_other (by decide), Scope.resolve_assign_self h]

theorem opened_bd {scope : Scope Name Operand} (h : bd ∈ scope.locals) :
    (opened scope).resolve bd = some .view := Scope.resolve_assign_self h _

/-- A new list, and the fixed fields in it. -/
theorem run_fill {s : BlockState} {placed : List Placed} {e : Expr} {size : Nat}
    (hSize : s.evalIndex e = some size) (hBuf : buf ∈ s.scope.locals) (hBd : bd ∈ s.scope.locals)
    (hArgs : ∀ p ∈ placed, (opened s.scope).resolve (p.field.dartName case) =
      some (.value (value p.field)))
    (hHolds : ∀ p ∈ placed, p.field.Holds (value p.field))
    (hFits : ∀ p ∈ placed, p.offset + p.field.size ≤ size) (rest : List Stmt) :
    s.run (.newList buf e :: .newView bd buf :: (emitSetters case placed ++ rest)) =
      BlockState.run ⟨opened s.scope, patches (fixedWrites value placed) (List.replicate size 0)⟩ rest := by
  have hList : BlockState.exec ⟨s.scope.assign buf .buffer, List.replicate size 0⟩ (.newView bd buf) =
      some ⟨opened s.scope, List.replicate size 0⟩ :=
    BlockState.exec_newView (Scope.resolve_assign_self hBuf _)
  have hLength : ∀ p ∈ placed, p.offset + p.field.size ≤ (List.replicate size (0 : UInt8)).length := by
    rwa [List.length_replicate]
  rw [BlockState.run_cons (BlockState.exec_newList hSize), BlockState.run_cons hList]
  exact run_setters case value (opened_bd hBd) hArgs hHolds hLength rest

end Steps

section Build

variable {case : StringCase} {fields : List Field} {value : Field → CapnpValue}

theorem resolve_argument (hNames : (fields.map (Field.dartName case)).Nodup) {f : Field} (h : f ∈ fields)
    (hFree : f.dartName case ∉ builderLocals case fields) :
    ((emit case fields).start (arguments case fields value)).scope.resolve (f.dartName case) =
      some (.value (value f)) := by
  have hOuter : f.dartName case ∉ ((emit case fields).start (arguments case fields value)).scope.locals :=
    fun hLocal => hFree ((mem_locals case fields _).mp hLocal)
  have hOnce : (((emit case fields).start (arguments case fields value)).scope.outer.map
      Prod.fst).Nodup := by
    rw [Emitted.start, arguments, List.map_map, List.map_map]
    exact hNames
  have hArgument : (f.dartName case, value f) ∈ arguments case fields value :=
    List.mem_map.mpr ⟨f, h, rfl⟩
  exact Scope.resolve_outer hOuter hOnce (List.mem_map.mpr ⟨_, hArgument, rfl⟩)

/-- The bytes of an assignment: the header with the fixed fields, and the records. -/
def image (case : StringCase) (fields : List Field) (value : Field → CapnpValue) : Bytes :=
  patches (fixedWrites value (layoutFrom 0 fields)) (List.replicate (emit case fields).headerLen 0) ++
    (variableFields fields).flatMap (record value)

theorem layout_fits {p : Placed} (h : p ∈ layoutFrom 0 fields) :
    p.offset + p.field.size ≤ (emit case fields).headerLen :=
  (placed_bounds h).2.trans (le_align _ 8)

theorem field_mem {p : Placed} {offset : Nat} (h : p ∈ layoutFrom offset fields) : p.field ∈ fields := by
  rw [← map_field_layoutFrom offset fields]
  exact List.mem_map_of_mem h

/-- Without variable fields `build` returns the header. -/
theorem build_fixed (hNames : (fields.map (Field.dartName case)).Nodup)
    (hFree : ∀ f ∈ fields, f.dartName case ∉ builderLocals case fields)
    (hHolds : ∀ f ∈ fields, f.Holds (value f)) (hVars : ¬ variableFields fields ≠ []) :
    (emit case fields).build (arguments case fields value) =
      some (patches (fixedWrites value (layoutFrom 0 fields))
        (List.replicate (emit case fields).headerLen 0)) := by
  obtain ⟨s, hStart⟩ : ∃ s, s = (emit case fields).start (arguments case fields value) := ⟨_, rfl⟩
  have hLocal : ∀ x ∈ builderLocals case fields, x ∈ s.scope.locals := by
    intro x hMem
    rw [hStart]
    exact (mem_locals case fields x).mpr hMem
  have hArgs : ∀ p ∈ layoutFrom 0 fields, (opened s.scope).resolve (p.field.dartName case) =
      some (.value (value p.field)) := by
    intro p hMem
    have hThere := hFree p.field (field_mem hMem)
    rw [opened_other (ne_of_free hThere buf_mem) (ne_of_free hThere bd_mem), hStart]
    exact resolve_argument hNames (field_mem hMem) hThere
  have hBody : (emit case fields).body = .newList buf (.lit (emit case fields).headerLen) ::
      .newView bd buf :: (emitSetters case (layoutFrom 0 fields) ++ [.ret buf]) := by
    rw [body_eq, emitBuild, map_field_layoutFrom, if_neg hVars]
    rfl
  rw [Emitted.build, ← hStart, hBody, run_fill (s.evalIndex_lit _) (hLocal buf buf_mem) (hLocal bd bd_mem)
    hArgs (fun p hMem => hHolds _ (field_mem hMem)) (fun p hMem => layout_fits hMem), BlockState.run,
    opened_buf (hLocal buf buf_mem)]

theorem source_ne {f : Field} {y : Name} (hFree : f.dartName case ∉ builderLocals case fields)
    (hMem : y ∈ builderLocals case fields) (hEnd : y.getLast? ≠ some 's') : source case f ≠ y := by
  rw [source]
  split
  · exact bytesName_ne hEnd _
  · exact ne_of_free hFree hMem

def encoded (case : StringCase) (fields : List Field) (value : Field → CapnpValue) :
    Scope Name Operand :=
  ((emit case fields).start (arguments case fields value)).scope.assignAll
    (encodings case value (textFields (variableFields fields)))

theorem encoded_local {x : Name} (h : x ∈ builderLocals case fields) :
    x ∈ (encoded case fields value).locals := by
  rw [encoded, Scope.locals_assignAll]
  exact (mem_locals case fields x).mpr h

theorem encoded_argument (hNames : (fields.map (Field.dartName case)).Nodup) {f : Field} (h : f ∈ fields)
    (hFree : f.dartName case ∉ builderLocals case fields) :
    (encoded case fields value).resolve (f.dartName case) = some (.value (value f)) := by
  rw [encoded, Scope.resolve_assignAll_other]
  · exact resolve_argument hNames h hFree
  · intro hThere
    rw [encodings, List.map_map] at hThere
    obtain ⟨g, hText, hSame⟩ := List.mem_map.mp hThere
    exact ne_of_free hFree (bytesName_mem hText) hSame.symm

theorem encoded_sources (hNames : (fields.map (Field.dartName case)).Nodup)
    (hFree : ∀ f ∈ fields, f.dartName case ∉ builderLocals case fields)
    (hHolds : ∀ f ∈ fields, f.Holds (value f)) {f : Field} (hVar : f ∈ variableFields fields) :
    (encoded case fields value).resolve (source case f) = some (.value (.bytes (payload value f))) := by
  obtain ⟨hMem, hKind⟩ := mem_variableFields.mp hVar
  rcases hKind with hText | hData
  · have hThere : f ∈ textFields (variableFields fields) := mem_textFields.mpr ⟨hVar, hText⟩
    have hOnce : ((encodings case value (textFields (variableFields fields))).map Prod.fst).Nodup := by
      have hSub : (textFields (variableFields fields)).Sublist fields :=
        List.filter_sublist.trans List.filter_sublist
      have hBindings := ((hSub.map (Field.dartName case)).nodup hNames).map bytesName_injective
      rw [List.map_map] at hBindings
      rw [encodings, List.map_map]
      exact hBindings
    rw [source, if_pos hText, encoded]
    refine Scope.resolve_assignAll_mem hOnce (List.mem_map.mpr ⟨f, hThere, rfl⟩) ?_
    exact (mem_locals case fields _).mpr (bytesName_mem hThere)
  · have hHold := hHolds f hMem
    simp only [Field.Holds, hData] at hHold
    obtain ⟨data, hValue, -⟩ := hHold
    have hPayload : Operand.value (value f) = .value (.bytes (payload value f)) := by
      rw [payload, hValue]
    rw [source, if_neg (by rw [hData]; decide), encoded_argument hNames hMem (hFree f hMem), hPayload]

theorem payload_length {f : Field} (hHolds : f.Holds (value f)) (hVar : f ∈ variableFields fields) :
    (payload value f).length < 256 ^ 4 := by
  obtain ⟨-, hText | hData⟩ := mem_variableFields.mp hVar
  · simp only [Field.Holds, hText] at hHolds
    obtain ⟨text, hValue, -, hLength⟩ := hHolds
    rwa [payload, hValue]
  · simp only [Field.Holds, hData] at hHolds
    obtain ⟨data, hValue, hLength⟩ := hHolds
    rwa [payload, hValue]

/-- Where no parameter is hidden, and every argument is in range. -/
structure Proper (case : StringCase) (fields : List Field) (value : Field → CapnpValue) : Prop where
  names : (fields.map (Field.dartName case)).Nodup
  free : ∀ f ∈ fields, f.dartName case ∉ builderLocals case fields
  holds : ∀ f ∈ fields, f.Holds (value f)

theorem run_encoded (h : Proper case fields value) (rest : List Stmt) :
    BlockState.run ((emit case fields).start (arguments case fields value))
      (emitEncodings case (variableFields fields) ++ rest) =
        BlockState.run ⟨encoded case fields value, []⟩ rest := by
  refine run_encodings (fun f hText => ?_) (fun f hf g hg => ?_) rest
  · obtain ⟨hVar, hKind⟩ := mem_textFields.mp hText
    have hMem := (mem_variableFields.mp hVar).1
    have hHold := h.holds f hMem
    simp only [Field.Holds, hKind] at hHold
    obtain ⟨text, hValue, -⟩ := hHold
    refine ⟨text, hValue, ?_⟩
    rw [resolve_argument h.names hMem (h.free f hMem), hValue]
  · have hMem := (mem_variableFields.mp (mem_textFields.mp hf).1).1
    exact ne_of_free (h.free f hMem) (bytesName_mem hg)

theorem length_header : (patches (fixedWrites value (layoutFrom 0 fields))
    (List.replicate (emit case fields).headerLen 0)).length = (emit case fields).headerLen := by
  rw [patches_length, List.length_replicate]
  rw [List.length_replicate]
  exact fixedWrites_fit value fun p hMem => layout_fits hMem

theorem patches_records (size : Nat) : patches (fixedWrites value (layoutFrom 0 fields))
    (List.replicate ((emit case fields).headerLen + size) 0) =
      patches (fixedWrites value (layoutFrom 0 fields)) (List.replicate (emit case fields).headerLen 0) ++
        List.replicate size 0 := by
  rw [← List.replicate_append_replicate, patches_append]
  rw [List.length_replicate]
  exact fixedWrites_fit value fun p hMem => layout_fits hMem

theorem body_variable (hVars : variableFields fields ≠ []) : (emit case fields).body =
    emitEncodings case (variableFields fields) ++
      (.declare total (emitTotal case (emit case fields).headerLen (variableFields fields)) ::
        .newList buf (.var total) :: .newView bd buf :: (emitSetters case (layoutFrom 0 fields) ++
          (.declare cursor (.lit (emit case fields).headerLen) ::
            (emitRecords case (variableFields fields) ++ [.ret buf])))) := by
  rw [body_eq, emitBuild, map_field_layoutFrom, if_pos hVars]
  simp only [List.append_assoc, List.cons_append, List.nil_append]
  rfl

theorem build_variable (h : Proper case fields value) (hVars : variableFields fields ≠ []) :
    (emit case fields).build (arguments case fields value) = some (image case fields value) := by
  obtain ⟨records, hRecords⟩ : ∃ size, size = recordsLength value (variableFields fields) := ⟨_, rfl⟩
  obtain ⟨scope, hScope⟩ : ∃ scope, scope = (encoded case fields value).assign total
      (.value (.int ((emit case fields).headerLen + records : Nat))) := ⟨_, rfl⟩
  have hLocal : ∀ x ∈ builderLocals case fields, x ∈ scope.locals := by
    intro x hMem
    rw [hScope]
    exact encoded_local hMem
  have hEncoded : ∀ x, x ≠ total → x ≠ buf → x ≠ bd →
      (opened scope).resolve x = (encoded case fields value).resolve x := by
    intro x hTotal hBuf hBd
    rw [opened_other hBuf hBd, hScope, Scope.resolve_assign_other hTotal]
  have hTotal : BlockState.eval ⟨encoded case fields value, []⟩
      (emitTotal case (emit case fields).headerLen (variableFields fields)) =
        some (.value (.int ((emit case fields).headerLen + records : Nat))) := by
    rw [hRecords]
    exact eval_sum (fun f hVar => encoded_sources h.names h.free h.holds hVar) rfl
  have hDeclare : BlockState.exec ⟨encoded case fields value, []⟩
      (.declare total (emitTotal case (emit case fields).headerLen (variableFields fields))) =
        some ⟨scope, []⟩ := by
    rw [BlockState.exec_declare hTotal, hScope]
  have hSize : BlockState.eval ⟨scope, []⟩ (.var total) =
      some (.value (.int ((emit case fields).headerLen + records : Nat))) := by
    rw [BlockState.eval, hScope]
    exact Scope.resolve_assign_self (encoded_local (total_mem hVars)) _
  have hArgs : ∀ p ∈ layoutFrom 0 fields, (opened scope).resolve (p.field.dartName case) =
      some (.value (value p.field)) := by
    intro p hMem
    have hFree := h.free p.field (field_mem hMem)
    rw [hEncoded _ (ne_of_free hFree (total_mem hVars)) (ne_of_free hFree buf_mem)
      (ne_of_free hFree bd_mem)]
    exact encoded_argument h.names (field_mem hMem) hFree
  have hFits : ∀ p ∈ layoutFrom 0 fields,
      p.offset + p.field.size ≤ (emit case fields).headerLen + records :=
    fun p hMem => (layout_fits hMem).trans (Nat.le_add_right _ _)
  have hSources : ∀ f ∈ variableFields fields,
      ((opened scope).assign cursor (.value (.int (emit case fields).headerLen))).resolve (source case f) =
        some (.value (.bytes (payload value f))) := by
    intro f hVar
    have hFree := h.free f (mem_variableFields.mp hVar).1
    rw [Scope.resolve_assign_other (source_ne hFree (cursor_mem hVars) (by decide)),
      hEncoded _ (source_ne hFree (total_mem hVars) (by decide)) (source_ne hFree buf_mem (by decide))
        (source_ne hFree bd_mem (by decide))]
    exact encoded_sources h.names h.free h.holds hVar
  rw [Emitted.build, body_variable hVars, run_encoded h, BlockState.run_cons hDeclare,
    run_fill (BlockState.evalIndex_of_eval hSize) (hLocal buf buf_mem) (hLocal bd bd_mem) hArgs
      (fun p hMem => h.holds _ (field_mem hMem)) hFits, patches_records, hRecords,
    BlockState.run_cons (BlockState.exec_declare rfl)]
  refine run_records ?_ ?_ ?_ (hLocal cursor (cursor_mem hVars)) hSources ?_ ?_ rfl
  · exact (Scope.resolve_assign_other (by decide) _).trans (opened_bd (hLocal bd bd_mem))
  · exact (Scope.resolve_assign_other (by decide) _).trans (opened_buf (hLocal buf buf_mem))
  · rw [length_header]
    exact Scope.resolve_assign_self (hLocal cursor (cursor_mem hVars)) _
  · intro f hVar
    exact source_ne (h.free f (mem_variableFields.mp hVar).1) (cursor_mem hVars) (by decide)
  · intro f hVar
    exact payload_length (h.holds f (mem_variableFields.mp hVar).1) hVar

theorem build_eq (h : Proper case fields value) :
    (emit case fields).build (arguments case fields value) = some (image case fields value) := by
  by_cases hVars : variableFields fields ≠ []
  · exact build_variable h hVars
  · rw [build_fixed h.names h.free h.holds hVars, image, not_not.mp hVars, List.flatMap_nil,
      List.append_nil]

end Build

end VsomeipDart
