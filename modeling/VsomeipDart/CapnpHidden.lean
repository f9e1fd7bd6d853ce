import VsomeipDart.CapnpLayout

/-! # Parameters that a variable of `build` hides

What `build` returns does not depend on them.
-/

namespace VsomeipDart
set_option autoImplicit false

open LittleEndian BlockScope

def builderLocals (case : StringCase) (fields : List Field) : List Name :=
  let vars := variableFields fields
  [buf, bd] ++ (if vars ≠ [] then [total, cursor] else []) ++
    (vars.filter fun f => f.kind == some .text).map fun f => bytesName (f.dartName case)

/-- States that differ in hidden parameters at most. -/
structure Alike (left right : BlockState) : Prop where
  scope : Scope.Same left.scope right.scope
  memory : left.memory = right.memory

namespace Alike

variable {left right : BlockState} (h : Alike left right)

include h

theorem eval (e : Expr) : left.eval e = right.eval e := by
  induction e with
  | lit n => rfl
  | var x => exact h.scope.resolve x
  | length x => rw [BlockState.eval, BlockState.eval, h.scope.resolve x, h.memory]
  | add l r ihLeft ihRight => rw [BlockState.eval, BlockState.eval, ihLeft, ihRight]
  | encode x => rw [BlockState.eval, BlockState.eval, h.scope.resolve x]
  | bit x => rw [BlockState.eval, BlockState.eval, h.scope.resolve x]

theorem evalIndex (e : Expr) : left.evalIndex e = right.evalIndex e := by
  rw [BlockState.evalIndex, BlockState.evalIndex, h.eval e]

/-- A statement takes both to states that are alike again. -/
theorem exec (stmt : Stmt) : Option.Rel Alike (left.exec stmt) (right.exec stmt) := by
  cases stmt with
  | declare x e =>
    rw [BlockState.exec, BlockState.exec, h.eval e]
    cases right.eval e with
    | none => exact .none
    | some v => exact .some ⟨h.scope.assign x v, h.memory⟩
  | newList x size =>
    rw [BlockState.exec, BlockState.exec, h.evalIndex size]
    cases right.evalIndex size with
    | none => exact .none
    | some n => exact .some ⟨h.scope.assign x .buffer, rfl⟩
  | newView x list =>
    rw [BlockState.exec, BlockState.exec, h.scope.resolve list]
    split
    · exact .some ⟨h.scope.assign x .view, h.memory⟩
    · exact .none
  | increase x e =>
    rw [BlockState.exec, BlockState.exec, h.eval (.add (.var x) e)]
    cases right.eval (.add (.var x) e) with
    | none => exact .none
    | some v => exact .some ⟨h.scope.assign x v, h.memory⟩
  | set view s offset e =>
    rw [BlockState.exec, BlockState.exec, h.scope.resolve view, h.evalIndex offset, h.eval e, h.memory]
    split
    · next n v hView hOffset hValue =>
      cases s.pattern v with
      | none => exact .none
      | some pattern =>
        show Option.Rel Alike ((writeAt s.size right.memory n pattern).bind _)
          ((writeAt s.size right.memory n pattern).bind _)
        cases writeAt s.size right.memory n pattern with
        | none => exact .none
        | some memory => exact .some ⟨h.scope, rfl⟩
    · exact .none
  | setRange list start stop source =>
    rw [BlockState.exec, BlockState.exec, h.scope.resolve list, h.evalIndex start, h.evalIndex stop,
      h.scope.resolve source, h.memory]
    split
    · split
      · exact .some ⟨h.scope, rfl⟩
      · exact .none
    · exact .none
  | ret x => exact .none

theorem run (stmts : List Stmt) : left.run stmts = right.run stmts := by
  induction stmts generalizing left right with
  | nil => rfl
  | cons stmt rest ih =>
    have hRest : ((left.exec stmt).bind fun s => s.run rest) =
        (right.exec stmt).bind fun s => s.run rest := by
      have hExec := h.exec stmt
      generalize left.exec stmt = next, right.exec stmt = other at hExec ⊢
      cases hExec with
      | none => rfl
      | some hNext => exact ih hNext
    cases stmt with
    | ret x =>
      rw [BlockState.run, BlockState.run, h.scope.resolve x, h.memory]
    | _ => exact hRest

end Alike

section Locals

variable (case : StringCase)

theorem declares_setters (placed : List Placed) :
    (emitSetters case placed).filterMap Stmt.declares = [] := by
  induction placed with
  | nil => rfl
  | cons p rest ih =>
    rw [emitSetters]
    split
    · exact ih
    · exact ih
    · exact ih

theorem declares_records (vars : List Field) :
    (emitRecords case vars).filterMap Stmt.declares = [] := by
  induction vars with
  | nil => rfl
  | cons f rest ih => exact ih

theorem declares_encodings (vars : List Field) :
    (emitEncodings case vars).filterMap Stmt.declares =
      (vars.filter fun f => f.kind == some .text).map fun f => bytesName (f.dartName case) := by
  rw [emitEncodings, List.filterMap_map]
  exact congrFun (List.filterMap_eq_map (f := fun f : Field => bytesName (f.dartName case))) _

theorem body_eq (fields : List Field) : (emit case fields).body =
    emitBuild case (layoutFrom 0 fields) (align (layoutEnd 0 fields) 8) := rfl

theorem mem_locals (fields : List Field) (x : Name) :
    x ∈ (emit case fields).body.filterMap Stmt.declares ↔ x ∈ builderLocals case fields := by
  rw [body_eq, emitBuild, map_field_layoutFrom, builderLocals]
  by_cases hVars : variableFields fields ≠ []
  · rw [if_pos hVars, if_pos hVars]
    simp only [List.filterMap_append, declares_encodings, declares_setters, declares_records,
      List.filterMap_cons, List.filterMap_nil, Stmt.declares, List.mem_append, List.mem_cons,
      List.not_mem_nil, or_false]
    tauto
  · rw [if_neg hVars, if_neg hVars, not_not.mp hVars]
    simp only [List.filterMap_append, declares_setters, List.filterMap_cons, List.filterMap_nil,
      Stmt.declares, List.filter_nil, List.map_nil, List.append_nil]

end Locals

def arguments (case : StringCase) (fields : List Field) (value : Field → CapnpValue) :
    List (Name × CapnpValue) := fields.map fun f => (f.dartName case, value f)

theorem lookup_arguments_congr {case : StringCase} {fields : List Field} {left right : Field → CapnpValue}
    {hidden x : Name} (hSame : ∀ f : Field, f.dartName case ≠ hidden → left f = right f)
    (hx : x ≠ hidden) :
    @List.lookup _ _ instBEqOfDecidableEq x
        ((arguments case fields left).map fun arg => (arg.1, Operand.value arg.2)) =
      @List.lookup _ _ instBEqOfDecidableEq x
        ((arguments case fields right).map fun arg => (arg.1, Operand.value arg.2)) := by
  induction fields with
  | nil => rfl
  | cons f rest ih =>
    simp only [arguments, List.map_cons, List.lookup_cons] at ih ⊢
    split
    · next hName =>
      have hOther : f.dartName case ≠ hidden := by
        rw [← eq_of_beq hName]
        exact hx
      rw [hSame f hOther]
    · exact ih

/-- A field that a variable hides has no part in what `build` returns. -/
theorem build_hidden {case : StringCase} {fields : List Field} {hidden : Name}
    (hHidden : hidden ∈ builderLocals case fields) {left right : Field → CapnpValue}
    (hSame : ∀ f : Field, f.dartName case ≠ hidden → left f = right f) :
    (emit case fields).build (arguments case fields left) =
      (emit case fields).build (arguments case fields right) := by
  have hStart : Alike ((emit case fields).start (arguments case fields left))
      ((emit case fields).start (arguments case fields right)) := by
    refine ⟨⟨rfl, rfl, fun x hOuter => ?_⟩, rfl⟩
    refine lookup_arguments_congr hSame ?_
    rintro rfl
    exact hOuter ((mem_locals case fields x).mpr hHidden)
  exact hStart.run _

end VsomeipDart
