import Mathlib.Logic.Relation
import VsomeipDart.CapnpBuilder

/-! # The members of a generated Reader (`emit`)

A Reader has private members besides its getters, and `emit` writes only those that are needed. A member is
here its name, with the private members that its code refers to.
-/

namespace VsomeipDart
set_option autoImplicit false

structure Member where
  name : Name
  uses : List Name
  deriving DecidableEq, Repr

namespace Reader

def OFFSET : Name := ['O', 'f', 'f', 's', 'e', 't']
def BYTES : Name := ['_', 'b', 'y', 't', 'e', 's']
def HEADER_LEN : Name := ['_', 'k', 'H', 'e', 'a', 'd', 'e', 'r', 'L', 'e', 'n']
def READ : Name := ['_', 'r', 'e', 'a', 'd']
def READ_TEXT : Name := READ ++ TEXT_TYPE
def READ_DATA : Name := READ ++ DATA_TYPE

/-- The second column of `SCALAR_TYPES`. -/
def suffix : Scalar → Name
  | .float32 => ['F', 'l', 'o', 'a', 't', '3', '2']
  | .float64 => ['F', 'l', 'o', 'a', 't', '6', '4']
  | .uint8 => ['U', 'i', 'n', 't', '8']
  | .uint16 => ['U', 'i', 'n', 't', '1', '6']
  | .uint32 => ['U', 'i', 'n', 't', '3', '2']
  | .uint64 => ['U', 'i', 'n', 't', '6', '4']
  | .int8 => ['I', 'n', 't', '8']
  | .int16 => ['I', 'n', 't', '1', '6']
  | .int32 => ['I', 'n', 't', '3', '2']
  | .int64 => ['I', 'n', 't', '6', '4']

def readName (s : Scalar) : Name := READ ++ suffix s

def helperOrder : List Scalar :=
  [.float32, .float64, .uint8, .uint16, .uint32, .uint64, .int8, .int16, .int32, .int64]

section Emit

variable (case : StringCase)

/-- `_var_offset_sym` -/
def varOffsetSym (f : Field) : Name := '_' :: f.dartName case ++ OFFSET

/-- What the code of a getter refers to; a `UInt8` and a `Bool` are read in place. -/
def accessorUses (vars : List Field) : Accessor → List Name
  | .bool _ => [BYTES]
  | .scalar .uint8 _ => [BYTES]
  | .scalar s _ => [readName s]
  | .text i => READ_TEXT :: vars[i]?.toList.map (varOffsetSym case)
  | .data i => READ_DATA :: vars[i]?.toList.map (varOffsetSym case)

/-- The offset functions of some variable fields, which stand behind `prev`. -/
def offsets : Option Field → List Field → List Member
  | _, [] => []
  | none, f :: rest => ⟨varOffsetSym case f, [HEADER_LEN]⟩ :: offsets (some f) rest
  | some prev, f :: rest =>
    ⟨varOffsetSym case f, [varOffsetSym case prev, readName .uint32]⟩ :: offsets (some f) rest

/-- `used_suffixes` for the fields that are no `Text` and no `Data`. -/
def scalarSuffix (f : Field) : Option Scalar :=
  match f.kind with
  | some (.scalar s) => if s = .uint8 then none else some s
  | _ => none

def usedSuffixes (fields : List Field) : List Scalar :=
  fields.filterMap scalarSuffix ++ if fields.any isVariable then [.uint32] else []

def helpers (fields : List Field) : List Member :=
  (helperOrder.filter fun s => s ∈ usedSuffixes fields).map fun s => ⟨readName s, [BYTES]⟩

def variableSection (fields : List Field) : List Member :=
  if variableFields fields = [] then []
  else ⟨HEADER_LEN, []⟩ :: offsets case none (variableFields fields)

/-- `_readText` or `_readData`, if there is a field of the kind. -/
def variableRead (name : Name) (kind : Kind) (fields : List Field) : List Member :=
  if fields.any fun f => f.kind = some kind then [⟨name, [BYTES, readName .uint32]⟩] else []

def privates (fields : List Field) : List Member :=
  ⟨BYTES, []⟩ :: variableSection case fields ++ helpers fields ++
    (variableRead READ_TEXT .text fields ++ variableRead READ_DATA .data fields)

/-- The constructor, which checks that there are bytes, and the getters. -/
def publics (structName : Name) (fields : List Field) : List Member :=
  ⟨structName, [BYTES]⟩ ::
    (emitGetters case 0 (layout fields).1).map fun g => ⟨g.1, accessorUses case (variableFields fields) g.2⟩

end Emit

variable {case : StringCase}

def fieldUses (case : StringCase) (f : Field) : List Name :=
  match f.kind with
  | some .bool => [BYTES]
  | some (.scalar .uint8) => [BYTES]
  | some (.scalar s) => [readName s]
  | some .text => [READ_TEXT, varOffsetSym case f]
  | some .data => [READ_DATA, varOffsetSym case f]
  | none => []

theorem variableFields_cons_of_variable {f : Field} (h : isVariable f = true) (rest : List Field) :
    variableFields (f :: rest) = f :: variableFields rest :=
  List.filter_cons_of_pos h

theorem variableFields_cons_of_fixed {f : Field} (h : isVariable f = false) (rest : List Field) :
    variableFields (f :: rest) = variableFields rest :=
  List.filter_cons_of_neg (by rw [h]; exact Bool.false_ne_true)

/-- The getters are those of the fields that have a kind, each with its own offset function. The induction is
on the fields, with the variable fields `before` in front of them. -/
theorem getters_eq (fields before : List Field) (offset : Nat) :
    (emitGetters case before.length (layoutFrom offset fields)).map
      (fun g => (⟨g.1, accessorUses case (before ++ variableFields fields) g.2⟩ : Member)) =
    (fields.filter fun f => f.kind.isSome).map fun f => ⟨f.dartName case, fieldUses case f⟩ := by
  induction fields generalizing before offset with
  | nil => rfl
  | cons f rest ih =>
    have hMoved : before ++ f :: variableFields rest = (before ++ [f]) ++ variableFields rest := by simp
    have hOwn : (before ++ f :: variableFields rest)[before.length]? = some f := by simp
    have hLength : (before ++ [f]).length = before.length + 1 := List.length_append
    cases hKind : f.kind with
    | none =>
      have hFixed : isVariable f = false := by simp [isVariable, hKind]
      rw [layoutFrom, emitGetters, List.filter_cons_of_neg (by simp [hKind]), variableFields_cons_of_fixed hFixed]
      simp only [hKind]
      exact ih before _
    | some kind =>
      rw [layoutFrom, emitGetters, List.filter_cons_of_pos (by simp [hKind]), List.map_cons, fieldUses]
      cases kind with
      | bool =>
        have hFixed : isVariable f = false := by simp [isVariable, hKind]
        simp only [hKind, variableFields_cons_of_fixed hFixed]
        exact congrArg (List.cons _) (ih before _)
      | scalar s =>
        have hFixed : isVariable f = false := by simp [isVariable, hKind]
        simp only [hKind, variableFields_cons_of_fixed hFixed, List.map_cons]
        refine congrArg₂ List.cons ?_ (ih before _)
        cases s <;> rfl
      | text =>
        have hVariable : isVariable f = true := by simp [isVariable, hKind]
        simp only [hKind, variableFields_cons_of_variable hVariable, List.map_cons, accessorUses, hOwn]
        rw [hMoved, ← hLength]
        exact congrArg (List.cons _) (ih (before ++ [f]) _)
      | data =>
        have hVariable : isVariable f = true := by simp [isVariable, hKind]
        simp only [hKind, variableFields_cons_of_variable hVariable, List.map_cons, accessorUses, hOwn]
        rw [hMoved, ← hLength]
        exact congrArg (List.cons _) (ih (before ++ [f]) _)

theorem getter_mem {structName : Name} {fields : List Field} {f : Field} (hMem : f ∈ fields)
    (hKind : f.kind.isSome) : ⟨f.dartName case, fieldUses case f⟩ ∈ publics case structName fields := by
  have hGetters := @getters_eq case fields [] 0
  refine List.mem_cons_of_mem _ ?_
  rw [layout]
  exact hGetters ▸ List.mem_map.mpr ⟨f, List.mem_filter.mpr ⟨hMem, hKind⟩, rfl⟩

theorem uses_of_public {structName : Name} {fields : List Field} {g : Member}
    (hMem : g ∈ publics case structName fields) : g.uses = [BYTES] ∨ ∃ f ∈ fields, g.uses = fieldUses case f := by
  have hGetters := @getters_eq case fields [] 0
  rcases List.mem_cons.mp hMem with rfl | hGetter
  · exact Or.inl rfl
  · rw [layout] at hGetter
    obtain ⟨f, hField, rfl⟩ := List.mem_map.mp (hGetters ▸ hGetter)
    exact Or.inr ⟨f, (List.mem_filter.mp hField).1, rfl⟩

section Names

variable (case)

theorem offsets_names (prev : Option Field) (vars : List Field) :
    (offsets case prev vars).map Member.name = vars.map (varOffsetSym case) := by
  induction vars generalizing prev with
  | nil => cases prev <;> rfl
  | cons f rest ih =>
    cases prev <;> exact congrArg (List.cons _) (ih (some f))

theorem uses_of_offset {prev : Option Field} {vars : List Field} {m : Member} (hMem : m ∈ offsets case prev vars)
    {n : Name} (hUses : n ∈ m.uses) :
    n = HEADER_LEN ∨ n = readName .uint32 ∨ ∃ f ∈ prev.toList ++ vars, n = varOffsetSym case f := by
  induction vars generalizing prev with
  | nil => cases prev <;> cases hMem
  | cons f rest ih =>
    cases prev with
    | none =>
      rcases List.mem_cons.mp hMem with rfl | hRest
      · exact Or.inl (List.mem_singleton.mp hUses)
      · exact ih hRest
    | some prev =>
      rcases List.mem_cons.mp hMem with rfl | hRest
      · simp only [List.mem_cons, List.not_mem_nil, or_false] at hUses
        rcases hUses with rfl | rfl
        · exact Or.inr (Or.inr ⟨prev, List.mem_cons_self, rfl⟩)
        · exact Or.inr (Or.inl rfl)
      · refine (ih hRest).imp_right (Or.imp_right ?_)
        rintro ⟨g, hField, rfl⟩
        exact ⟨g, List.mem_cons_of_mem _ hField, rfl⟩

variable (fields : List Field)

/-- The private members that are no offset functions. -/
def fixedNames : List Name :=
  BYTES :: ((if variableFields fields = [] then [] else [HEADER_LEN]) ++ (helpers fields).map Member.name ++
    (variableRead READ_TEXT .text fields ++ variableRead READ_DATA .data fields).map Member.name)

theorem privates_names : ((privates case fields).map Member.name).Perm
    ((variableFields fields).map (varOffsetSym case) ++ fixedNames fields) := by
  have hSection : (variableSection case fields).map Member.name =
      (if variableFields fields = [] then [] else [HEADER_LEN]) ++
        (variableFields fields).map (varOffsetSym case) := by
    rw [variableSection]
    split
    · rename_i hNone
      rw [hNone]
      rfl
    · rw [List.map_cons, offsets_names]
      rfl
  rw [privates, List.cons_append, List.cons_append, List.map_cons, List.map_append, List.map_append, hSection,
    fixedNames]
  refine List.Perm.trans ?_ List.perm_middle.symm
  rw [← List.append_assoc, ← List.append_assoc]
  exact ((List.perm_append_comm.append_right _).append_right _).cons _

def FIXED_NAMES : List Name := BYTES :: ([HEADER_LEN] ++ helperOrder.map readName ++ [READ_TEXT, READ_DATA])

theorem fixedNames_sublist : (fixedNames fields).Sublist FIXED_NAMES := by
  have hHeader : (if variableFields fields = [] then [] else [HEADER_LEN]).Sublist [HEADER_LEN] := by
    split
    · exact List.nil_sublist _
    · exact List.Sublist.refl _
  have hHelpers : ((helpers fields).map Member.name).Sublist (helperOrder.map readName) := by
    rw [helpers, List.map_map]
    exact List.filter_sublist.map readName
  have hRead : ∀ name kind, ((variableRead name kind fields).map Member.name).Sublist [name] := by
    intro name kind
    rw [variableRead]
    split
    · exact List.Sublist.refl _
    · exact List.nil_sublist _
  rw [fixedNames, List.map_append]
  exact ((hHeader.append hHelpers).append ((hRead READ_TEXT .text).append (hRead READ_DATA .data))).cons_cons _

theorem not_offset_of_fixed : ∀ n ∈ FIXED_NAMES, ¬ OFFSET <:+ n := by
  decide

/-- No two private members have one name exactly if the Dart names of the variable fields differ. -/
theorem privates_nodup : ((privates case fields).map Member.name).Nodup ↔
    ((variableFields fields).map (Field.dartName case)).Nodup := by
  have hFixed : (fixedNames fields).Nodup := (fixedNames_sublist fields).nodup (by decide)
  have hInjective : Function.Injective fun n : Name => '_' :: n ++ OFFSET := fun n n' h =>
    List.append_cancel_right (List.cons.inj h).2
  have hSyms : (variableFields fields).map (varOffsetSym case) =
      ((variableFields fields).map (Field.dartName case)).map fun n => '_' :: n ++ OFFSET := by
    rw [List.map_map]
    rfl
  rw [(privates_names case fields).nodup_iff, List.nodup_append, hSyms, List.nodup_map_iff hInjective]
  refine ⟨And.left, fun h => ⟨h, hFixed, ?_⟩⟩
  rintro sym hSym name hName rfl
  obtain ⟨n, -, rfl⟩ := List.mem_map.mp hSym
  exact not_offset_of_fixed _ ((fixedNames_sublist fields).subset hName) (List.suffix_append _ _)

end Names

section Closed

variable {fields : List Field}

theorem bytes_mem : ⟨BYTES, []⟩ ∈ privates case fields := by
  simp [privates]

theorem section_subset {m : Member} (hMem : m ∈ variableSection case fields) : m ∈ privates case fields := by
  simp [privates, hMem]

theorem header_mem (hSome : variableFields fields ≠ []) : ⟨HEADER_LEN, []⟩ ∈ privates case fields := by
  refine section_subset ?_
  rw [variableSection, if_neg hSome]
  exact List.mem_cons_self

theorem offset_mem {m : Member} (hMem : m ∈ offsets case none (variableFields fields)) :
    m ∈ privates case fields := by
  refine section_subset ?_
  have hSome : variableFields fields ≠ [] := by
    intro hNone
    rw [hNone] at hMem
    cases hMem
  rw [variableSection, if_neg hSome]
  exact List.mem_cons_of_mem _ hMem

theorem helper_mem {s : Scalar} (hUsed : s ∈ usedSuffixes fields) : ⟨readName s, [BYTES]⟩ ∈ privates case fields := by
  have hOrder : s ∈ helperOrder := by cases s <;> decide
  have hHelper : ⟨readName s, [BYTES]⟩ ∈ helpers fields :=
    List.mem_map.mpr ⟨s, List.mem_filter.mpr ⟨hOrder, by simpa using hUsed⟩, rfl⟩
  simp [privates, hHelper]

theorem uint32_used (hSome : variableFields fields ≠ []) : .uint32 ∈ usedSuffixes fields := by
  obtain ⟨f, hMem⟩ := List.exists_mem_of_ne_nil _ hSome
  obtain ⟨hField, hVariable⟩ := List.mem_filter.mp hMem
  have hAny : fields.any isVariable = true := List.any_eq_true.mpr ⟨f, hField, hVariable⟩
  rw [usedSuffixes, if_pos hAny]
  exact List.mem_append_right _ List.mem_cons_self

theorem read_mem {f : Field} (hField : f ∈ fields) {kind : Kind} (hKind : f.kind = some kind) (name : Name) :
    ⟨name, [BYTES, readName .uint32]⟩ ∈ variableRead name kind fields := by
  have hAny : (fields.any fun f => f.kind = some kind) = true :=
    List.any_eq_true.mpr ⟨f, hField, decide_eq_true hKind⟩
  rw [variableRead, if_pos hAny]
  exact List.mem_cons_self

theorem variable_mem {f : Field} (hField : f ∈ fields) (hKind : f.kind = some .text ∨ f.kind = some .data) :
    f ∈ variableFields fields := by
  refine List.mem_filter.mpr ⟨hField, ?_⟩
  rcases hKind with hText | hData
  · simp [isVariable, hText]
  · simp [isVariable, hData]

theorem symbol_mem {f : Field} (hMem : f ∈ variableFields fields) :
    ∃ m ∈ privates case fields, m.name = varOffsetSym case f := by
  have hName : varOffsetSym case f ∈ (offsets case none (variableFields fields)).map Member.name := by
    rw [offsets_names]
    exact List.mem_map_of_mem hMem
  obtain ⟨m, hOffset, hSymbol⟩ := List.mem_map.mp hName
  exact ⟨m, offset_mem hOffset, hSymbol⟩

/-- What a getter refers to is declared. -/
theorem declared_of_field {f : Field} (hField : f ∈ fields) {n : Name} (hUses : n ∈ fieldUses case f) :
    ∃ m ∈ privates case fields, m.name = n := by
  cases hKind : f.kind with
  | none =>
    simp [fieldUses, hKind] at hUses
  | some kind =>
    cases kind with
    | bool =>
      simp only [fieldUses, hKind, List.mem_singleton] at hUses
      exact ⟨_, bytes_mem, hUses.symm⟩
    | scalar s =>
      by_cases hByte : s = .uint8
      · subst hByte
        simp only [fieldUses, hKind, List.mem_singleton] at hUses
        exact ⟨_, bytes_mem, hUses.symm⟩
      · have hUsed : s ∈ usedSuffixes fields := by
          refine List.mem_append_left _ (List.mem_filterMap.mpr ⟨f, hField, ?_⟩)
          rw [scalarSuffix, hKind]
          exact if_neg hByte
        have hName : n = readName s := by
          cases s <;> simp_all [fieldUses]
        exact ⟨_, helper_mem hUsed, hName.symm⟩
    | text =>
      simp only [fieldUses, hKind, List.mem_cons, List.not_mem_nil, or_false] at hUses
      rcases hUses with rfl | rfl
      · exact ⟨⟨READ_TEXT, [BYTES, readName .uint32]⟩, by simp [privates, read_mem hField hKind], rfl⟩
      · exact symbol_mem (variable_mem hField (Or.inl hKind))
    | data =>
      simp only [fieldUses, hKind, List.mem_cons, List.not_mem_nil, or_false] at hUses
      rcases hUses with rfl | rfl
      · exact ⟨⟨READ_DATA, [BYTES, readName .uint32]⟩, by simp [privates, read_mem hField hKind], rfl⟩
      · exact symbol_mem (variable_mem hField (Or.inr hKind))

/-- What `emit` writes besides the getters. -/
inductive Written (case : StringCase) (fields : List Field) : Member → Prop where
  | bytes : Written case fields ⟨BYTES, []⟩
  | header (f : Field) (rest : List Field) : variableFields fields = f :: rest → Written case fields ⟨HEADER_LEN, []⟩
  | offset (m : Member) : m ∈ offsets case none (variableFields fields) → Written case fields m
  | helper (s : Scalar) : s ∈ usedSuffixes fields → Written case fields ⟨readName s, [BYTES]⟩
  | text (f : Field) : f ∈ fields → f.kind = some .text → Written case fields ⟨READ_TEXT, [BYTES, readName .uint32]⟩
  | data (f : Field) : f ∈ fields → f.kind = some .data → Written case fields ⟨READ_DATA, [BYTES, readName .uint32]⟩

theorem field_of_read {name : Name} {kind : Kind} {m : Member} (hMem : m ∈ variableRead name kind fields) :
    m = ⟨name, [BYTES, readName .uint32]⟩ ∧ ∃ f ∈ fields, f.kind = some kind := by
  rw [variableRead] at hMem
  split at hMem
  · rename_i hAny
    obtain ⟨f, hField, hKind⟩ := List.any_eq_true.mp hAny
    exact ⟨List.mem_singleton.mp hMem, f, hField, of_decide_eq_true hKind⟩
  · cases hMem

theorem written_of_mem {m : Member} (hMem : m ∈ privates case fields) : Written case fields m := by
  simp only [privates, List.cons_append, List.mem_cons, List.mem_append] at hMem
  rcases hMem with rfl | ((hSection | hHelper) | (hText | hData))
  · exact .bytes
  · rw [variableSection] at hSection
    split at hSection
    · cases hSection
    · rename_i hSome
      obtain ⟨f, rest, hVars⟩ := List.exists_cons_of_ne_nil hSome
      rcases List.mem_cons.mp hSection with rfl | hOffset
      · exact .header f rest hVars
      · exact .offset m hOffset
  · obtain ⟨s, hUsed, rfl⟩ := List.mem_map.mp hHelper
    exact .helper s (by simpa using (List.mem_filter.mp hUsed).2)
  · obtain ⟨rfl, f, hField, hKind⟩ := field_of_read hText
    exact .text f hField hKind
  · obtain ⟨rfl, f, hField, hKind⟩ := field_of_read hData
    exact .data f hField hKind

theorem field_of_variable {f : Field} (hMem : f ∈ variableFields fields) :
    f ∈ fields ∧ (f.kind = some .text ∨ f.kind = some .data) := by
  obtain ⟨hField, hVariable⟩ := List.mem_filter.mp hMem
  exact ⟨hField, by simpa [isVariable] using hVariable⟩

theorem symbol_used {f : Field} (hKind : f.kind = some .text ∨ f.kind = some .data) :
    f.kind.isSome ∧ varOffsetSym case f ∈ fieldUses case f := by
  rcases hKind with hText | hData
  · simp [fieldUses, hText]
  · simp [fieldUses, hData]

theorem suffix_used {f : Field} {s : Scalar} (hSuffix : scalarSuffix f = some s) :
    f.kind.isSome ∧ readName s ∈ fieldUses case f := by
  rw [scalarSuffix] at hSuffix
  cases hKind : f.kind with
  | none => simp [hKind] at hSuffix
  | some kind =>
    cases kind with
    | scalar t =>
      simp only [hKind] at hSuffix
      split at hSuffix
      · cases hSuffix
      · obtain rfl := Option.some.inj hSuffix
        refine ⟨rfl, ?_⟩
        rw [fieldUses, hKind]
        cases t with
        | uint8 => contradiction
        | _ => exact List.mem_cons_self
    | _ => simp [hKind] at hSuffix

theorem declared {m : Member} (hWritten : Written case fields m) {n : Name} (hUses : n ∈ m.uses) :
    ∃ m' ∈ privates case fields, m'.name = n := by
  have hRead : variableFields fields ≠ [] → n ∈ [BYTES, readName .uint32] →
      ∃ m' ∈ privates case fields, m'.name = n := by
    intro hSome hMem
    simp only [List.mem_cons, List.not_mem_nil, or_false] at hMem
    rcases hMem with rfl | rfl
    · exact ⟨_, bytes_mem, rfl⟩
    · exact ⟨_, helper_mem (uint32_used hSome), rfl⟩
  cases hWritten with
  | bytes => cases hUses
  | header f rest hVars => cases hUses
  | offset m hOffset =>
    have hSome : variableFields fields ≠ [] := by
      intro hNone
      rw [hNone] at hOffset
      cases hOffset
    rcases uses_of_offset case hOffset hUses with rfl | rfl | ⟨f, hMem, rfl⟩
    · exact ⟨_, header_mem hSome, rfl⟩
    · exact ⟨_, helper_mem (uint32_used hSome), rfl⟩
    · exact symbol_mem hMem
  | helper s hUsed => exact ⟨_, bytes_mem, (List.mem_singleton.mp hUses).symm⟩
  | text f hField hKind => exact hRead (List.ne_nil_of_mem (variable_mem hField (Or.inl hKind))) hUses
  | data f hField hKind => exact hRead (List.ne_nil_of_mem (variable_mem hField (Or.inr hKind))) hUses

/-- A member refers to a private one. -/
def Refers (case : StringCase) (fields : List Field) (m m' : Member) : Prop :=
  m' ∈ privates case fields ∧ m'.name ∈ m.uses

theorem reached (structName : Name) {m : Member} (hMem : m ∈ privates case fields) :
    ∃ g ∈ publics case structName fields, Relation.TransGen (Refers case fields) g m := by
  cases written_of_mem hMem with
  | bytes => exact ⟨_, List.mem_cons_self, .single ⟨hMem, List.mem_cons_self⟩⟩
  | header f rest hVars =>
    have hFirst : f ∈ variableFields fields := by
      rw [hVars]
      exact List.mem_cons_self
    obtain ⟨hField, hKind⟩ := field_of_variable hFirst
    obtain ⟨hSome, hSymbol⟩ := @symbol_used case f hKind
    have hOffset : ⟨varOffsetSym case f, [HEADER_LEN]⟩ ∈ privates case fields := by
      refine offset_mem ?_
      rw [hVars]
      exact List.mem_cons_self
    exact ⟨_, getter_mem hField hSome, .tail (.single ⟨hOffset, hSymbol⟩) ⟨hMem, List.mem_cons_self⟩⟩
  | offset m hOffset =>
    have hName : m.name ∈ (variableFields fields).map (varOffsetSym case) := by
      rw [← offsets_names case none]
      exact List.mem_map_of_mem hOffset
    obtain ⟨f, hVariable, hSymbol⟩ := List.mem_map.mp hName
    obtain ⟨hField, hKind⟩ := field_of_variable hVariable
    obtain ⟨hSome, hUsed⟩ := @symbol_used case f hKind
    exact ⟨_, getter_mem hField hSome, .single ⟨hMem, hSymbol ▸ hUsed⟩⟩
  | helper s hUsed =>
    rcases List.mem_append.mp hUsed with hScalar | hVariable
    · obtain ⟨f, hField, hSuffix⟩ := List.mem_filterMap.mp hScalar
      obtain ⟨hSome, hUses⟩ := @suffix_used case f s hSuffix
      exact ⟨_, getter_mem hField hSome, .single ⟨hMem, hUses⟩⟩
    · split at hVariable
      · rename_i hAny
        obtain rfl := List.mem_singleton.mp hVariable
        obtain ⟨f, hField, hVar⟩ := List.any_eq_true.mp hAny
        have hKind : f.kind = some .text ∨ f.kind = some .data := by simpa [isVariable] using hVar
        -- `_readText` and `_readData` read the length
        rcases hKind with hKind | hKind
        · have hRead : ⟨READ_TEXT, [BYTES, readName .uint32]⟩ ∈ privates case fields := by
            simp [privates, read_mem hField hKind]
          have hUses : READ_TEXT ∈ fieldUses case f := by simp [fieldUses, hKind]
          exact ⟨_, getter_mem hField (by simp [hKind]),
            .tail (.single ⟨hRead, hUses⟩) ⟨hMem, List.mem_cons_of_mem _ List.mem_cons_self⟩⟩
        · have hRead : ⟨READ_DATA, [BYTES, readName .uint32]⟩ ∈ privates case fields := by
            simp [privates, read_mem hField hKind]
          have hUses : READ_DATA ∈ fieldUses case f := by simp [fieldUses, hKind]
          exact ⟨_, getter_mem hField (by simp [hKind]),
            .tail (.single ⟨hRead, hUses⟩) ⟨hMem, List.mem_cons_of_mem _ List.mem_cons_self⟩⟩
      · cases hVariable
  | text f hField hKind =>
    exact ⟨_, getter_mem hField (by simp [hKind]), .single ⟨hMem, by simp [fieldUses, hKind]⟩⟩
  | data f hField hKind =>
    exact ⟨_, getter_mem hField (by simp [hKind]), .single ⟨hMem, by simp [fieldUses, hKind]⟩⟩

/-- Every private member that the code of a Reader refers to is declared, every declared one is needed by a
getter or the constructor, and no two have one name exactly if the Dart names of the variable fields differ. -/
theorem members_closed (case : StringCase) (structName : Name) (fields : List Field) :
    (∀ m ∈ publics case structName fields ++ privates case fields, ∀ n ∈ m.uses,
      ∃ m' ∈ privates case fields, m'.name = n) ∧
    (∀ m ∈ privates case fields, ∃ g ∈ publics case structName fields,
      Relation.TransGen (Refers case fields) g m) ∧
    (((privates case fields).map Member.name).Nodup ↔
      ((variableFields fields).map (Field.dartName case)).Nodup) := by
  refine ⟨fun m hMem n hUses => ?_, fun m hMem => reached structName hMem, privates_nodup case fields⟩
  rcases List.mem_append.mp hMem with hPublic | hPrivate
  · rcases uses_of_public hPublic with hBytes | ⟨f, hField, hFieldUses⟩
    · rw [hBytes] at hUses
      exact ⟨_, bytes_mem, (List.mem_singleton.mp hUses).symm⟩
    · rw [hFieldUses] at hUses
      exact declared_of_field hField hUses
  · exact declared (written_of_mem hPrivate) hUses

end Closed

end Reader

end VsomeipDart
