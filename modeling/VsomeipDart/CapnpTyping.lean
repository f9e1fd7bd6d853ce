import VsomeipDart.CapnpImage

/-! # The static types in the body of `build`

Dart checks the statements one after the other. A variable has its type from its declaration on; in front of
that its name is refused, although a parameter may have it too.
-/

namespace VsomeipDart
set_option autoImplicit false

open BlockScope

abbrev TypeScope := Scope Name DartType

/-- `none` is a type error, or a variable in front of its declaration. -/
def Expr.type (s : TypeScope) : Expr → Option DartType
  | .lit _ => some .int
  | .var x => s.resolve x
  | .length x =>
    match s.resolve x with
    | some .uint8List | some .string => some .int
    | _ => none
  | .add left right => if left.type s = some .int ∧ right.type s = some .int then some .int else none
  | .encode x => if s.resolve x = some .string then some .uint8List else none
  | .bit x => if s.resolve x = some .bool then some .int else none

/-- The types behind a statement. -/
def Stmt.check (s : TypeScope) : Stmt → Option TypeScope
  | .declare x e => (e.type s).map fun type => s.assign x type
  | .newList x size => if size.type s = some .int then some (s.assign x .uint8List) else none
  | .newView x list => if s.resolve list = some .uint8List then some (s.assign x .byteData) else none
  | .increase x e => if s.resolve x = some .int ∧ e.type s = some .int then some s else none
  | .set view width offset e =>
    if s.resolve view = some .byteData ∧ offset.type s = some .int ∧ e.type s = some width.dartType then
      some s
    else none
  | .setRange list start stop source =>
    if s.resolve list = some .uint8List ∧ start.type s = some .int ∧ stop.type s = some .int ∧
        s.resolve source = some .uint8List then
      some s
    else none
  | .ret x => if s.resolve x = some .uint8List then some s else none

def checkBody (s : TypeScope) (body : List Stmt) : Option TypeScope := body.foldlM Stmt.check s

namespace Emitted

variable (code : Emitted)

def typeScope : TypeScope where
  outer := code.parameters
  locals := code.body.filterMap Stmt.declares
  values := []

def TypeChecks : Prop := (checkBody code.typeScope code.body).isSome = true

instance : Decidable code.TypeChecks :=
  inferInstanceAs (Decidable ((checkBody code.typeScope code.body).isSome = true))

end Emitted

section Check

theorem checkBody_append (s : TypeScope) (front back : List Stmt) :
    checkBody s (front ++ back) = (checkBody s front).bind fun s => checkBody s back :=
  List.foldlM_append

theorem checkBody_cons (s : TypeScope) (stmt : Stmt) (rest : List Stmt) :
    checkBody s (stmt :: rest) = (stmt.check s).bind fun s => checkBody s rest :=
  List.foldlM_cons

@[simp] theorem checkBody_nil (s : TypeScope) : checkBody s [] = some s := rfl

end Check

section Segments

variable {case : StringCase} {s : TypeScope}

/-- No variable holds a text, as none is declared with one. -/
def NoTexts (s : TypeScope) : Prop := ∀ x ∈ s.locals, s.resolve x ≠ some .string

theorem NoTexts.assign (h : NoTexts s) (x : Name) : NoTexts (s.assign x .uint8List) := by
  intro y hLocal
  rcases eq_or_ne y x with rfl | hOther
  · have hOwn : y ∈ s.locals := hLocal
    rw [Scope.resolve_assign_self hOwn]
    decide
  · rw [Scope.resolve_assign_other hOther]
    exact h y hLocal

theorem resolve_text_assign (h : NoTexts s) {x : Name} (hLocal : x ∈ s.locals) (y : Name) :
    (s.assign x .uint8List).resolve y = some .string ↔ s.resolve y = some .string := by
  rcases eq_or_ne y x with rfl | hOther
  · exact iff_of_false ((h.assign y) y hLocal) (h y hLocal)
  · rw [Scope.resolve_assign_other hOther]

def encodedTypes (case : StringCase) (texts : List Field) : List (Name × DartType) :=
  texts.map fun f => (bytesName (f.dartName case), .uint8List)

theorem check_encodings {texts : List Field} (hTexts : NoTexts s)
    (hLocal : ∀ f ∈ texts, bytesName (f.dartName case) ∈ s.locals) (s' : TypeScope) :
    checkBody s (texts.map fun f => .declare (bytesName (f.dartName case)) (.encode (f.dartName case))) =
        some s' ↔
      (∀ f ∈ texts, s.resolve (f.dartName case) = some .string) ∧
        s' = s.assignAll (encodedTypes case texts) := by
  induction texts generalizing s with
  | nil => simp [encodedTypes, Scope.assignAll, eq_comm]
  | cons f rest ih =>
    obtain ⟨hHead, hTail⟩ := List.forall_mem_cons.mp hLocal
    rw [List.map_cons, checkBody_cons, Stmt.check, Expr.type, List.forall_mem_cons]
    by_cases hText : s.resolve (f.dartName case) = some .string
    · rw [if_pos hText, Option.map_some, Option.bind_some, ih (hTexts.assign _) hTail]
      simp only [resolve_text_assign hTexts hHead, hText, true_and]
      rfl
    · simp [hText]

theorem type_add {left right : Expr} {t : DartType} : (Expr.add left right).type s = some t ↔
    (left.type s = some .int ∧ right.type s = some .int) ∧ t = .int := by
  rw [Expr.type, Option.ite_none_right_eq_some, Option.some.injEq, eq_comm (a := t)]

theorem type_sum (vars : List Field) (e : Expr) (he : ∀ t, e.type s = some t → t = .int) (t : DartType) :
    (vars.foldl (fun e f => .add (.add e (.lit 4)) (.length (source case f))) e).type s = some t ↔
      e.type s = some .int ∧ (∀ f ∈ vars, (Expr.length (source case f)).type s = some .int) ∧
        t = .int := by
  induction vars generalizing e with
  | nil =>
    simp only [List.foldl_nil, List.not_mem_nil, false_implies, implies_true, true_and]
    constructor
    · intro h
      obtain rfl := he t h
      exact ⟨h, rfl⟩
    · rintro ⟨h, rfl⟩
      exact h
  | cons f rest ih =>
    have hNext : (Expr.add (.add e (.lit 4)) (.length (source case f))).type s = some .int ↔
        e.type s = some .int ∧ (Expr.length (source case f)).type s = some .int := by
      have hFour : (Expr.lit 4).type s = some .int := rfl
      rw [type_add, type_add, and_iff_left rfl, and_iff_left rfl, and_iff_left hFour]
    have hOnly : ∀ t, (Expr.add (.add e (.lit 4)) (.length (source case f))).type s = some t → t = .int :=
      fun t h => (type_add.mp h).2
    rw [List.foldl_cons, ih _ hOnly, hNext, List.forall_mem_cons]
    simp only [and_assoc]

theorem type_total (headerLen : Nat) (vars : List Field) (t : DartType) :
    (emitTotal case headerLen vars).type s = some t ↔
      (∀ f ∈ vars, (Expr.length (source case f)).type s = some .int) ∧ t = .int := by
  have hOnly : ∀ t, (Expr.lit headerLen).type s = some t → t = .int :=
    fun t h => (Option.some.inj h).symm
  rw [emitTotal, type_sum vars _ hOnly]
  exact and_iff_right rfl

/-- The setter of a fixed field finds its parameter. -/
def SetterChecks (case : StringCase) (s : TypeScope) (f : Field) : Prop :=
  ∀ kind, f.kind = some kind → kind ≠ .text → kind ≠ .data →
    s.resolve (f.dartName case) = some kind.dartType

theorem setterChecks_iff {f : Field} {kind : Kind} (hKind : f.kind = some kind) (hText : kind ≠ .text)
    (hData : kind ≠ .data) :
    SetterChecks case s f ↔ s.resolve (f.dartName case) = some kind.dartType := by
  refine ⟨fun h => h kind hKind hText hData, fun h other hOther _ _ => ?_⟩
  rw [hKind] at hOther
  cases hOther
  exact h

theorem setterChecks_other {f : Field} (h : ∀ kind, f.kind = some kind → kind = .text ∨ kind = .data) :
    SetterChecks case s f := fun kind hKind hText hData =>
  ((h kind hKind).elim hText hData).elim

theorem check_setters {placed : List Placed} (hView : s.resolve bd = some .byteData) (s' : TypeScope) :
    checkBody s (emitSetters case placed) = some s' ↔
      (∀ p ∈ placed, SetterChecks case s p.field) ∧ s' = s := by
  induction placed with
  | nil => simp [emitSetters, eq_comm]
  | cons p rest ih =>
    have hStep : ∀ (w : Scalar) (e : Expr) (type : DartType),
        (e.type s = some w.dartType ↔ s.resolve (p.field.dartName case) = some type) →
        (checkBody s (.set bd w (.lit p.offset) e :: emitSetters case rest) = some s' ↔
          (s.resolve (p.field.dartName case) = some type ∧
            ∀ q ∈ rest, SetterChecks case s q.field) ∧ s' = s) := by
      intro w e type hType
      rw [checkBody_cons, Stmt.check, and_assoc, ← ih, ← hType]
      by_cases hArg : e.type s = some w.dartType
      · rw [if_pos ⟨hView, rfl, hArg⟩, Option.bind_some]
        simp [hArg]
      · rw [if_neg fun h => hArg h.2.2]
        simp [hArg]
    rw [emitSetters, List.forall_mem_cons]
    cases hKind : p.field.kind with
    | none =>
      have hHead : SetterChecks case s p.field :=
        setterChecks_other fun kind h => by rw [hKind] at h; cases h
      rw [and_iff_right hHead]
      exact ih
    | some kind =>
      cases kind with
      | text | data =>
        have hHead : SetterChecks case s p.field := setterChecks_other fun kind h => by
          rw [hKind] at h
          cases h
          simp
        rw [and_iff_right hHead]
        exact ih
      | bool =>
        rw [setterChecks_iff hKind (by decide) (by decide)]
        refine hStep .uint8 (.bit _) .bool ?_
        simp [Expr.type, Scalar.dartType]
      | scalar w =>
        rw [setterChecks_iff hKind (by simp) (by simp)]
        exact hStep w (.var _) w.dartType Iff.rfl

theorem check_records {vars : List Field} (hView : s.resolve bd = some .byteData)
    (hBuf : s.resolve buf = some .uint8List) (hCursor : s.resolve cursor = some .int) (s' : TypeScope) :
    checkBody s (emitRecords case vars) = some s' ↔
      (∀ f ∈ vars, s.resolve (source case f) = some .uint8List) ∧ s' = s := by
  induction vars with
  | nil => simp [emitRecords, eq_comm]
  | cons f rest ih =>
    have hCons : emitRecords case (f :: rest) = .set bd .uint32 (.var cursor) (.length (source case f)) ::
        .increase cursor (.lit 4) :: .setRange buf (.var cursor)
          (.add (.var cursor) (.length (source case f))) (source case f) ::
        .increase cursor (.length (source case f)) :: emitRecords case rest := rfl
    rw [hCons, List.forall_mem_cons, and_assoc, ← ih]
    simp only [checkBody_cons, Stmt.check]
    by_cases hSource : s.resolve (source case f) = some .uint8List
    · simp [Expr.type, hView, hBuf, hCursor, hSource, Scalar.dartType]
    · refine iff_of_false (fun h => ?_) fun h => hSource h.1
      obtain ⟨s₁, hSet, h⟩ := Option.bind_eq_some_iff.mp h
      obtain ⟨s₂, hSkip, h⟩ := Option.bind_eq_some_iff.mp h
      obtain ⟨s₃, hCopy, -⟩ := Option.bind_eq_some_iff.mp h
      obtain rfl : s = s₁ := by simpa using (Option.ite_none_right_eq_some.mp hSet).2
      obtain rfl : s = s₂ := by simpa using (Option.ite_none_right_eq_some.mp hSkip).2
      exact hSource (Option.ite_none_right_eq_some.mp hCopy).1.2.2.2

end Segments

section Body

variable (case : StringCase) (fields : List Field)

def encodedScope : TypeScope :=
  (emit case fields).typeScope.assignAll (encodedTypes case (textFields (variableFields fields)))

def openedScope (s : TypeScope) : TypeScope := (s.assign buf .uint8List).assign bd .byteData

variable {case fields}

theorem typeScope_local {x : Name} :
    x ∈ (emit case fields).typeScope.locals ↔ x ∈ builderLocals case fields := mem_locals case fields x

theorem openedScope_other {s : TypeScope} {x : Name} (hBuf : x ≠ buf) (hBd : x ≠ bd) :
    (openedScope s).resolve x = s.resolve x := by
  rw [openedScope, Scope.resolve_assign_other hBd, Scope.resolve_assign_other hBuf]

theorem openedScope_buf {s : TypeScope} (h : buf ∈ s.locals) :
    (openedScope s).resolve buf = some .uint8List := by
  rw [openedScope, Scope.resolve_assign_other (by decide), Scope.resolve_assign_self h]

theorem openedScope_bd {s : TypeScope} (h : bd ∈ s.locals) :
    (openedScope s).resolve bd = some .byteData := Scope.resolve_assign_self h _

/-- From the list on, with the setters in between. -/
theorem check_fill {s : TypeScope} (hBuf : buf ∈ s.locals) (hBd : bd ∈ s.locals) {size : Expr}
    (hSize : size.type s = some .int) (placed : List Placed) (rest : List Stmt) (s' : TypeScope) :
    checkBody s (.newList buf size :: .newView bd buf :: (emitSetters case placed ++ rest)) = some s' ↔
      (∀ p ∈ placed, SetterChecks case (openedScope s) p.field) ∧
        checkBody (openedScope s) rest = some s' := by
  have hList : Stmt.check s (.newList buf size) = some (s.assign buf .uint8List) := if_pos hSize
  have hView : Stmt.check (s.assign buf .uint8List) (.newView bd buf) = some (openedScope s) :=
    if_pos (Scope.resolve_assign_self hBuf _)
  rw [checkBody_cons, hList, Option.bind_some, checkBody_cons, hView, Option.bind_some, checkBody_append,
    Option.bind_eq_some_iff]
  simp only [check_setters (openedScope_bd hBd), and_assoc, exists_and_left, exists_eq_left]

theorem typeChecks_fixed (hVars : ¬ variableFields fields ≠ []) : (emit case fields).TypeChecks ↔
    ∀ f ∈ fields, SetterChecks case (openedScope (emit case fields).typeScope) f := by
  have hBuf : buf ∈ (emit case fields).typeScope.locals := typeScope_local.mpr buf_mem
  have hBd : bd ∈ (emit case fields).typeScope.locals := typeScope_local.mpr bd_mem
  have hBody : (emit case fields).body = .newList buf (.lit (emit case fields).headerLen) ::
      .newView bd buf :: (emitSetters case (layoutFrom 0 fields) ++ [.ret buf]) := by
    rw [body_eq, emitBuild, map_field_layoutFrom, if_neg hVars]
    rfl
  have hRet : checkBody (openedScope (emit case fields).typeScope) [.ret buf] =
      some (openedScope (emit case fields).typeScope) := by
    rw [checkBody_cons, Stmt.check, if_pos (openedScope_buf hBuf)]
    rfl
  rw [Emitted.TypeChecks, Option.isSome_iff_exists, hBody]
  simp only [check_fill hBuf hBd (rfl : Expr.type _ (.lit _) = _), hRet, Option.some.injEq, exists_and_left,
    exists_eq', and_true]
  rw [← List.forall_mem_map, map_field_layoutFrom]

theorem encodedScope_local {x : Name} (h : x ∈ builderLocals case fields) :
    x ∈ (encodedScope case fields).locals := by
  rw [encodedScope, Scope.locals_assignAll]
  exact typeScope_local.mpr h

theorem typeChecks_variable (hVars : variableFields fields ≠ []) : (emit case fields).TypeChecks ↔
    (∀ f ∈ textFields (variableFields fields),
      (emit case fields).typeScope.resolve (f.dartName case) = some .string) ∧
    (∀ f ∈ variableFields fields,
      (Expr.length (source case f)).type (encodedScope case fields) = some .int) ∧
    (∀ f ∈ fields, SetterChecks case (openedScope ((encodedScope case fields).assign total .int)) f) ∧
    ∀ f ∈ variableFields fields,
      ((openedScope ((encodedScope case fields).assign total .int)).assign cursor .int).resolve
        (source case f) = some .uint8List := by
  obtain ⟨summed, hSummed⟩ : ∃ s, s = (encodedScope case fields).assign total .int := ⟨_, rfl⟩
  have hLocal : ∀ x ∈ builderLocals case fields, x ∈ summed.locals := by
    intro x hMem
    rw [hSummed]
    exact encodedScope_local hMem
  have hTexts : NoTexts (emit case fields).typeScope := by
    intro x hMem
    rw [Scope.resolve, if_pos hMem]
    simp [Emitted.typeScope]
  have hBytes : ∀ f ∈ textFields (variableFields fields),
      bytesName (f.dartName case) ∈ (emit case fields).typeScope.locals := fun f hMem =>
    typeScope_local.mpr (bytesName_mem hMem)
  have hSize : (Expr.var total).type summed = some .int := by
    rw [hSummed]
    exact Scope.resolve_assign_self (encodedScope_local (total_mem hVars)) _
  obtain ⟨last, hLast⟩ : ∃ s, s = (openedScope summed).assign cursor .int := ⟨_, rfl⟩
  have hView : last.resolve bd = some .byteData := by
    rw [hLast, Scope.resolve_assign_other (by decide)]
    exact openedScope_bd (hLocal bd bd_mem)
  have hBuf : last.resolve buf = some .uint8List := by
    rw [hLast, Scope.resolve_assign_other (by decide)]
    exact openedScope_buf (hLocal buf buf_mem)
  have hCursor : last.resolve cursor = some .int := by
    rw [hLast]
    exact Scope.resolve_assign_self (hLocal cursor (cursor_mem hVars)) _
  have hTail : ∀ s', checkBody (openedScope summed) (.declare cursor (.lit (emit case fields).headerLen) ::
      (emitRecords case (variableFields fields) ++ [.ret buf])) = some s' ↔
      (∀ f ∈ variableFields fields, last.resolve (source case f) = some .uint8List) ∧ s' = last := by
    intro s'
    have hDeclare : Stmt.check (openedScope summed) (.declare cursor (.lit (emit case fields).headerLen)) =
        some last := by
      rw [hLast]
      rfl
    have hRet : checkBody last [.ret buf] = some last := by
      rw [checkBody_cons, Stmt.check, if_pos hBuf]
      rfl
    rw [checkBody_cons, hDeclare, Option.bind_some, checkBody_append, Option.bind_eq_some_iff]
    simp only [check_records hView hBuf hCursor, and_assoc, exists_and_left, exists_eq_left, hRet,
      Option.some.injEq]
    rw [eq_comm (a := s')]
  have hTotal : ∀ (rest : List Stmt) (s' : TypeScope), checkBody (encodedScope case fields)
      (.declare total (emitTotal case (emit case fields).headerLen (variableFields fields)) :: rest) =
        some s' ↔
      (∀ f ∈ variableFields fields,
        (Expr.length (source case f)).type (encodedScope case fields) = some .int) ∧
        checkBody summed rest = some s' := by
    intro rest s'
    rw [checkBody_cons, Option.bind_eq_some_iff, hSummed]
    simp only [Stmt.check, Option.map_eq_some_iff, type_total, and_assoc, exists_and_left, exists_eq_left,
      exists_eq_left']
  have hEncodings : ∀ s', checkBody (emit case fields).typeScope
      (emitEncodings case (variableFields fields)) = some s' ↔
      (∀ f ∈ textFields (variableFields fields),
        (emit case fields).typeScope.resolve (f.dartName case) = some .string) ∧
        s' = encodedScope case fields := check_encodings hTexts hBytes
  have hFill := @check_fill case summed (hLocal buf buf_mem) (hLocal bd bd_mem) (.var total) hSize
    (layoutFrom 0 fields)
  rw [← hSummed, ← hLast, Emitted.TypeChecks, Option.isSome_iff_exists, body_variable hVars]
  simp only [checkBody_append, Option.bind_eq_some_iff, hEncodings, and_assoc, exists_and_left,
    exists_eq_left, hTotal, hFill, hTail, exists_eq, and_true]
  rw [← List.forall_mem_map, map_field_layoutFrom]

end Body

section Hidden

def typedFields (fields : List Field) : List Field := fields.filter fun f => f.kind.isSome

variable {case : StringCase} {fields : List Field}

theorem mem_builderLocals {x : Name} : x ∈ builderLocals case fields ↔ x = buf ∨ x = bd ∨
    (variableFields fields ≠ [] ∧ (x = total ∨ x = cursor)) ∨
    ∃ f ∈ textFields (variableFields fields), x = bytesName (f.dartName case) := by
  rw [builderLocals, List.mem_append, List.mem_append]
  have hTotal : x ∈ (if variableFields fields ≠ [] then [total, cursor] else []) ↔
      variableFields fields ≠ [] ∧ (x = total ∨ x = cursor) := by
    split
    · next hSome => simp [hSome]
    · next hNone => simp [hNone]
  have hTexts : x ∈ ((variableFields fields).filter fun f => f.kind == some .text).map
      (fun f => bytesName (f.dartName case)) ↔
        ∃ f ∈ textFields (variableFields fields), x = bytesName (f.dartName case) := by
    rw [List.mem_map]
    exact exists_congr fun f => and_congr_right fun _ => eq_comm
  rw [hTotal, hTexts]
  simp only [List.mem_cons, List.not_mem_nil, or_false, or_assoc]

/-- A variable in front of its declaration has no type. -/
theorem typeScope_hidden {x : Name} (h : x ∈ builderLocals case fields) :
    (emit case fields).typeScope.resolve x = none := by
  rw [Scope.resolve, if_pos (typeScope_local.mpr h)]
  rfl

theorem map_fst_parameters : (emit case fields).parameters.map Prod.fst =
    (typedFields fields).map (Field.dartName case) := by
  show (emitParameters case fields).map Prod.fst = _
  induction fields with
  | nil => rfl
  | cons f rest ih =>
    cases hKind : f.kind with
    | none =>
      rw [emitParameters, List.filterMap_cons_none (by rw [hKind]; rfl), typedFields,
        List.filter_cons_of_neg (by simp [hKind])]
      exact ih
    | some kind =>
      rw [emitParameters, List.filterMap_cons_some (by rw [hKind]; rfl), typedFields,
        List.filter_cons_of_pos (by simp [hKind]), List.map_cons, List.map_cons]
      exact congrArg (List.cons _) ih

theorem mem_typedFields {f : Field} : f ∈ typedFields fields ↔ f ∈ fields ∧ f.kind.isSome = true :=
  List.mem_filter

section Types

variable (hOnce : ((typedFields fields).map (Field.dartName case)).Nodup)
include hOnce

/-- A parameter that no variable hides has the type of its field. -/
theorem resolve_parameter {s : TypeScope} (hOuter : s.outer = (emit case fields).parameters)
    {f : Field} (hMem : f ∈ fields) {kind : Kind} (hKind : f.kind = some kind)
    (hFree : f.dartName case ∉ s.locals) : s.resolve (f.dartName case) = some kind.dartType := by
  refine Scope.resolve_outer hFree ?_ ?_
  · rw [hOuter, map_fst_parameters]
    exact hOnce
  · rw [hOuter]
    exact List.mem_filterMap.mpr ⟨f, hMem, by rw [hKind]; rfl⟩

theorem encodedTypes_nodup :
    ((encodedTypes case (textFields (variableFields fields))).map Prod.fst).Nodup := by
  have hSub : (textFields (variableFields fields)).Sublist (typedFields fields) := by
    rw [textFields, variableFields, typedFields, List.filter_filter]
    refine List.monotone_filter_right fields fun f hText => ?_
    rw [Bool.and_eq_true, isText_iff] at hText
    rw [hText.1]
    rfl
  have hBindings := ((hSub.map (Field.dartName case)).nodup hOnce).map bytesName_injective
  rw [List.map_map] at hBindings
  rw [encodedTypes, List.map_map]
  exact hBindings

theorem encodedScope_bytes {f : Field} (h : f ∈ textFields (variableFields fields)) :
    (encodedScope case fields).resolve (bytesName (f.dartName case)) = some .uint8List :=
  Scope.resolve_assignAll_mem (encodedTypes_nodup hOnce) (List.mem_map.mpr ⟨f, h, rfl⟩)
    (typeScope_local.mpr (bytesName_mem h))

theorem encodedScope_hidden {x : Name} (h : x ∈ builderLocals case fields) {type : DartType}
    (hType : (encodedScope case fields).resolve x = some type) :
    type = .uint8List ∧ ∃ f ∈ textFields (variableFields fields), x = bytesName (f.dartName case) := by
  by_cases hBytes : x ∈ (encodedTypes case (textFields (variableFields fields))).map Prod.fst
  · rw [encodedTypes, List.map_map] at hBytes
    obtain ⟨f, hText, rfl⟩ := List.mem_map.mp hBytes
    have hOwn := encodedScope_bytes hOnce hText
    rw [Function.comp_apply, hOwn] at hType
    exact ⟨(Option.some.inj hType).symm, f, hText, rfl⟩
  · rw [encodedScope, Scope.resolve_assignAll_other hBytes, typeScope_hidden h] at hType
    cases hType

end Types

/-- A variable may hide the parameter of a field where it has the type that the parameter has, and is declared
in front of its use. -/
def MayBeHidden (case : StringCase) (fields : List Field) (f : Field) : Prop :=
  (f.dartName case = total ∧ ∃ s : Scalar, f.kind = some (.scalar s) ∧ s.dartType = .int) ∨
    (f.kind = some .data ∧
      ∃ g ∈ textFields (variableFields fields), f.dartName case = bytesName (g.dartName case))

section Checked

/-- What a variable in front of the setters can be taken for. -/
theorem openedScope_hidden {s : TypeScope} {x : Name} {type : DartType}
    (hOther : ∀ type, s.resolve x = some type → type = .uint8List ∨ (type = .int ∧ x = total))
    (hBuf : buf ∈ s.locals) (hBd : bd ∈ s.locals) (h : (openedScope s).resolve x = some type) :
    type = .uint8List ∨ type = .byteData ∨ (type = .int ∧ x = total) := by
  by_cases hList : x = buf
  · rw [hList, openedScope_buf hBuf] at h
    exact .inl (Option.some.inj h).symm
  · by_cases hView : x = bd
    · rw [hView, openedScope_bd hBd] at h
      exact .inr (.inl (Option.some.inj h).symm)
    · rw [openedScope_other hList hView] at h
      exact (hOther type h).imp_right .inr

/-- A setter of a fixed field checks where no variable hides its parameter, or `total` does that for an `int`. -/
theorem setterChecks_hidden {s : TypeScope} {f : Field}
    (hHidden : ∀ type, s.resolve (f.dartName case) = some type →
      type = .uint8List ∨ type = .byteData ∨ (type = .int ∧ f.dartName case = total))
    (hChecks : SetterChecks case s f) (hKind : f.kind ≠ some .text) (hData : f.kind ≠ some .data)
    (hSome : f.kind.isSome = true) : MayBeHidden case fields f := by
  obtain ⟨kind, hOwn⟩ := Option.isSome_iff_exists.mp hSome
  have hType := hChecks kind hOwn (fun h => hKind (h ▸ hOwn)) fun h => hData (h ▸ hOwn)
  cases kind with
  | text => exact absurd hOwn hKind
  | data => exact absurd hOwn hData
  | bool => rcases hHidden _ hType with h | h | ⟨h, -⟩ <;> cases h
  | scalar w =>
    rcases hHidden _ hType with h | h | ⟨h, hName⟩
    · cases w <;> cases h
    · cases w <;> cases h
    · exact .inl ⟨hName, w, hOwn, h⟩

variable (hOnce : ((typedFields fields).map (Field.dartName case)).Nodup)
include hOnce

theorem typeChecks_fixed_iff (hVars : ¬ variableFields fields ≠ []) : (emit case fields).TypeChecks ↔
    ∀ f ∈ typedFields fields, f.dartName case ∈ builderLocals case fields → MayBeHidden case fields f := by
  have hFixed : ∀ f ∈ fields, f.kind ≠ some .text ∧ f.kind ≠ some .data := by
    intro f hMem
    have hNone := List.filter_eq_nil_iff.mp (not_not.mp hVars) f hMem
    rw [isVariable_iff] at hNone
    exact not_or.mp hNone
  rw [typeChecks_fixed hVars]
  constructor
  · intro hSetters f hTyped hLocal
    obtain ⟨hMem, hSome⟩ := mem_typedFields.mp hTyped
    refine setterChecks_hidden (fun type hType => ?_) (hSetters f hMem) (hFixed f hMem).1
      (hFixed f hMem).2 hSome
    refine openedScope_hidden (fun t h => ?_) (typeScope_local.mpr buf_mem) (typeScope_local.mpr bd_mem) hType
    rw [typeScope_hidden hLocal] at h
    cases h
  · intro hHidden f hMem kind hKind hText hData
    have hFree : f.dartName case ∉ builderLocals case fields := by
      intro hLocal
      rcases hHidden f (mem_typedFields.mpr ⟨hMem, by rw [hKind]; rfl⟩) hLocal with ⟨hTotal, -⟩ | ⟨hIs, -⟩
      · rw [hTotal, mem_builderLocals] at hLocal
        rcases hLocal with h | h | ⟨h, -⟩ | ⟨g, hText, -⟩
        · exact absurd h (by decide)
        · exact absurd h (by decide)
        · exact hVars h
        · exact (hVars (List.ne_nil_of_mem (mem_textFields.mp hText).1)).elim
      · exact (hFixed f hMem).2 hIs
    exact resolve_parameter hOnce rfl hMem hKind fun h => hFree (typeScope_local.mp h)

theorem typeChecks_variable_iff (hVars : variableFields fields ≠ []) : (emit case fields).TypeChecks ↔
    ∀ f ∈ typedFields fields, f.dartName case ∈ builderLocals case fields → MayBeHidden case fields f := by
  obtain ⟨summed, hSummed⟩ : ∃ s, s = (encodedScope case fields).assign total .int := ⟨_, rfl⟩
  obtain ⟨last, hLast⟩ : ∃ s, s = (openedScope summed).assign cursor .int := ⟨_, rfl⟩
  have hLocals : ∀ {s : TypeScope}, s = encodedScope case fields ∨ s = openedScope summed ∨ s = last →
      s.outer = (emit case fields).parameters ∧ s.locals = (emit case fields).typeScope.locals := by
    have hOuter : (encodedScope case fields).outer = (emit case fields).parameters := by
      rw [encodedScope, Scope.outer_assignAll]
      rfl
    have hLocal : (encodedScope case fields).locals = (emit case fields).typeScope.locals := by
      rw [encodedScope, Scope.locals_assignAll]
    rintro s (rfl | rfl | rfl)
    · exact ⟨hOuter, hLocal⟩
    · rw [hSummed]
      exact ⟨hOuter, hLocal⟩
    · rw [hLast, hSummed]
      exact ⟨hOuter, hLocal⟩
  -- a parameter that is not hidden has its type everywhere
  have hParameter : ∀ {s : TypeScope}, s = encodedScope case fields ∨ s = openedScope summed ∨ s = last →
      ∀ f ∈ fields, ∀ kind, f.kind = some kind → f.dartName case ∉ builderLocals case fields →
        s.resolve (f.dartName case) = some kind.dartType := by
    intro s hs f hMem kind hKind hFree
    obtain ⟨hOuter, hLocal⟩ := hLocals hs
    refine resolve_parameter hOnce hOuter hMem hKind fun h => hFree (typeScope_local.mp ?_)
    rwa [hLocal] at h
  have hInner : ∀ x, x ≠ total → x ≠ buf → x ≠ bd → x ≠ cursor →
      last.resolve x = (encodedScope case fields).resolve x := by
    intro x hTotal hBuf hBd hCursor
    rw [hLast, Scope.resolve_assign_other hCursor, openedScope_other hBuf hBd, hSummed,
      Scope.resolve_assign_other hTotal]
  have hBytes : ∀ f ∈ textFields (variableFields fields),
      (encodedScope case fields).resolve (bytesName (f.dartName case)) = some .uint8List ∧
        last.resolve (bytesName (f.dartName case)) = some .uint8List := by
    intro f hText
    have hOwn := encodedScope_bytes hOnce hText
    refine ⟨hOwn, ?_⟩
    rw [hInner _ (bytesName_ne (by decide) _) (bytesName_ne (by decide) _) (bytesName_ne (by decide) _)
      (bytesName_ne (by decide) _), hOwn]
  rw [typeChecks_variable hVars, ← hSummed, ← hLast]
  constructor
  · rintro ⟨hTexts, hLengths, hSetters, -⟩ f hTyped hLocal
    obtain ⟨hMem, hSome⟩ := mem_typedFields.mp hTyped
    by_cases hText : f.kind = some .text
    · have hType := hTexts f (mem_textFields.mpr ⟨mem_variableFields.mpr ⟨hMem, .inl hText⟩, hText⟩)
      rw [typeScope_hidden hLocal] at hType
      cases hType
    · by_cases hData : f.kind = some .data
      · have hLength := hLengths f (mem_variableFields.mpr ⟨hMem, .inr hData⟩)
        rw [source, if_neg hText, Expr.type] at hLength
        cases hType : (encodedScope case fields).resolve (f.dartName case) with
        | none =>
          rw [hType] at hLength
          cases hLength
        | some type => exact .inr ⟨hData, (encodedScope_hidden hOnce hLocal hType).2⟩
      · refine setterChecks_hidden (fun type hType => ?_) (hSetters f hMem) hText hData hSome
        refine openedScope_hidden (fun t h => ?_) ?_ ?_ hType
        · by_cases hName : f.dartName case = total
          · rw [hName, hSummed, Scope.resolve_assign_self (encodedScope_local (total_mem hVars))] at h
            exact .inr ⟨(Option.some.inj h).symm, hName⟩
          · rw [hSummed, Scope.resolve_assign_other hName] at h
            exact .inl (encodedScope_hidden hOnce hLocal h).1
        · rw [hSummed]
          exact encodedScope_local buf_mem
        · rw [hSummed]
          exact encodedScope_local bd_mem
  · intro hHidden
    have hData : ∀ f ∈ fields, f.kind = some .data →
        (encodedScope case fields).resolve (f.dartName case) = some .uint8List ∧
          last.resolve (f.dartName case) = some .uint8List := by
      intro f hMem hKind
      by_cases hLocal : f.dartName case ∈ builderLocals case fields
      · rcases hHidden f (mem_typedFields.mpr ⟨hMem, by rw [hKind]; rfl⟩) hLocal with ⟨-, s, hScalar, -⟩ |
          ⟨-, g, hText, hName⟩
        · rw [hKind] at hScalar
          cases hScalar
        · rw [hName]
          exact hBytes g hText
      · exact ⟨hParameter (.inl rfl) f hMem .data hKind hLocal,
          hParameter (.inr (.inr rfl)) f hMem .data hKind hLocal⟩
    have hSources : ∀ f ∈ variableFields fields,
        (encodedScope case fields).resolve (source case f) = some .uint8List ∧
          last.resolve (source case f) = some .uint8List := by
      intro f hVar
      obtain ⟨hMem, hKind⟩ := mem_variableFields.mp hVar
      rw [source]
      split
      · next hText => exact hBytes f (mem_textFields.mpr ⟨hVar, hText⟩)
      · next hText => exact hData f hMem (hKind.resolve_left hText)
    refine ⟨fun f hText => ?_, fun f hVar => ?_, fun f hMem kind hKind hText hNoData => ?_,
      fun f hVar => (hSources f hVar).2⟩
    · obtain ⟨hVar, hKind⟩ := mem_textFields.mp hText
      obtain ⟨hMem, -⟩ := mem_variableFields.mp hVar
      refine resolve_parameter hOnce rfl hMem hKind fun h => ?_
      rcases hHidden f (mem_typedFields.mpr ⟨hMem, by rw [hKind]; rfl⟩) (typeScope_local.mp h) with
        ⟨-, s, hScalar, -⟩ | ⟨hIs, -⟩
      · rw [hKind] at hScalar
        cases hScalar
      · rw [hKind] at hIs
        cases hIs
    · rw [Expr.type, (hSources f hVar).1]
    · by_cases hLocal : f.dartName case ∈ builderLocals case fields
      · rcases hHidden f (mem_typedFields.mpr ⟨hMem, by rw [hKind]; rfl⟩) hLocal with
          ⟨hName, s, hScalar, hInt⟩ | ⟨hIs, -⟩
        · rw [hKind] at hScalar
          cases hScalar
          rw [hName, openedScope_other (by decide) (by decide), hSummed,
            Scope.resolve_assign_self (encodedScope_local (total_mem hVars))]
          exact congrArg some hInt.symm
        · rw [hKind] at hIs
          exact absurd (Option.some.inj hIs) hNoData
      · exact hParameter (.inr (.inl rfl)) f hMem kind hKind hLocal

/-- The body of `build` has its types if and only if each field whose name is that of a variable may be hidden. -/
theorem typeChecks_iff : (emit case fields).TypeChecks ↔
    ∀ f ∈ typedFields fields, f.dartName case ∈ builderLocals case fields → MayBeHidden case fields f := by
  by_cases hVars : variableFields fields ≠ []
  · exact typeChecks_variable_iff hOnce hVars
  · exact typeChecks_fixed_iff hOnce hVars

end Checked

end Hidden

end VsomeipDart
