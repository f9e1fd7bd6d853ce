import VsomeipDart.CapnpMembers
import VsomeipDart.CapnpTyping

/-! # When the generated classes compile

The rules of Dart on names are here those that a name of the struct or of a field can break: how a name is
spelled, which members a class can have, and what the code can no longer refer to when a getter, a parameter or
a variable hides it.
-/

namespace VsomeipDart
set_option autoImplicit false

open BlockScope

namespace Dart

def reservedWords : List Name :=
  ["assert", "break", "case", "catch", "class", "const", "continue", "default", "do", "else", "enum",
    "extends", "false", "final", "finally", "for", "if", "in", "is", "new", "null", "rethrow", "return",
    "super", "switch", "this", "throw", "true", "try", "var", "void", "while", "with"].map String.toList

def identifierStart (c : Char) : Bool := c.isAlpha || c == '_' || c == '$'

def identifierPart (c : Char) : Bool := identifierStart c || c.isDigit

def isIdentifier : Name → Bool
  | [] => false
  | c :: rest => identifierStart c && rest.all identifierPart

/-- A name that can be declared. -/
def IsName (n : Name) : Prop := isIdentifier n = true ∧ n ∉ reservedWords

instance (n : Name) : Decidable (IsName n) := inferInstanceAs (Decidable (_ ∧ _))

theorem isIdentifier_append {suffix : Name} (hSuffix : isIdentifier suffix = true) (n : Name) :
    isIdentifier (n ++ suffix) = true ↔ n = [] ∨ isIdentifier n = true := by
  have hParts : suffix.all identifierPart = true := by
    cases suffix with
    | nil => rfl
    | cons c rest =>
      simp only [isIdentifier, Bool.and_eq_true] at hSuffix
      simp [identifierPart, hSuffix]
  cases n with
  | nil => simpa using hSuffix
  | cons c rest => simp [isIdentifier, hParts]

def INT : Name := "int".toList
def DOUBLE : Name := "double".toList
def BOOL : Name := "bool".toList
def STRING : Name := "String".toList
def UINT8_LIST : Name := "Uint8List".toList
def BYTE_DATA : Name := "ByteData".toList
def ENDIAN : Name := "Endian".toList
def UTF8 : Name := "utf8".toList

def libraryNames : List Name := [INT, DOUBLE, BOOL, STRING, UINT8_LIST, BYTE_DATA, ENDIAN, UTF8]

/-- The members of `Object` that are no getters of one of the types here. -/
def objectMembers : List Name := ["runtimeType", "toString", "noSuchMethod"].map String.toList

def HASH_CODE : Name := "hashCode".toList

/-- What `Object` lets a getter be: `hashCode` is an `int`. -/
def Overrides (name : Name) (type : DartType) : Prop :=
  name ∉ objectMembers ∧ (name = HASH_CODE → type = .int)

instance (name : Name) (type : DartType) : Decidable (Overrides name type) :=
  inferInstanceAs (Decidable (_ ∧ _))

end Dart

open Dart

def DartType.name : DartType → Name
  | int => INT
  | double => DOUBLE
  | bool => BOOL
  | string => STRING
  | uint8List => UINT8_LIST
  | byteData => BYTE_DATA

def Accessor.dartType : Accessor → DartType
  | bool _ => .bool
  | scalar s _ => s.dartType
  | text _ => .string
  | data _ => .uint8List

def READER : Name := "Reader".toList
def BUILDER : Name := "Builder".toList

section Reader

variable (case : StringCase) (structName : Name) (fields : List Field)

/-- A member of the Reader is `schemaId`, a getter or a private one. -/
def memberNames : List Name :=
  schemaId :: ((emit case fields).getters.map Prod.fst ++ (Reader.privates case fields).map Member.name)

/-- What a read helper uses: its own type, that of the offset, and the view of the bytes. -/
def helperLibrary (s : Scalar) : List Name :=
  if s = .uint8 then [INT] else [s.dartType.name, INT, BYTE_DATA] ++ if 1 < s.size then [ENDIAN] else []

/-- What the code of the Reader uses of the libraries, member by member. -/
def readerLibrary : List Name :=
  [INT, UINT8_LIST] ++ (emit case fields).getters.map (fun g => g.2.dartType.name) ++
    (if variableFields fields = [] then [] else [INT]) ++
    (Reader.helperOrder.filter fun s => s ∈ Reader.usedSuffixes fields).flatMap helperLibrary ++
    (if fields.any fun f => f.kind = some .text then [STRING, INT, UTF8] else []) ++
    if fields.any fun f => f.kind = some .data then [UINT8_LIST, INT] else []

structure ReaderCompiles : Prop where
  className : IsName (structName ++ READER)
  names : ∀ n ∈ memberNames case fields, IsName n
  once : (memberNames case fields).Nodup
  enclosing : structName ++ READER ∉ memberNames case fields
  overrides : ∀ g ∈ (emit case fields).getters, Overrides g.1 g.2.dartType
  visible : ∀ n ∈ readerLibrary case fields, n ∉ memberNames case fields

end Reader

section Builder

def Expr.library : Expr → List Name
  | lit _ | var _ | length _ | bit _ => []
  | add left right => left.library ++ right.library
  | encode _ => [UTF8]

/-- What a statement uses of the libraries. Of the variables only the cursor is declared with its type. -/
def Stmt.library : Stmt → List Name
  | declare x e => (if x = cursor then [INT] else []) ++ e.library
  | newList _ size => UINT8_LIST :: size.library
  | newView _ _ => [BYTE_DATA]
  | increase _ e => e.library
  | set _ width offset e => (if 1 < width.size then [ENDIAN] else []) ++ (offset.library ++ e.library)
  | setRange _ start stop _ => start.library ++ stop.library
  | ret _ => []

variable (case : StringCase) (structName : Name) (fields : List Field)

def parameterNames : List Name := (emit case fields).parameters.map Prod.fst

def localNames : List Name := (emit case fields).body.filterMap Stmt.declares

/-- Named parameters are not private, and their list is not empty. -/
structure BuilderCompiles : Prop where
  className : IsName (structName ++ BUILDER)
  nonempty : parameterNames case fields ≠ []
  names : ∀ n ∈ parameterNames case fields ++ localNames case fields, IsName n
  named : ∀ n ∈ parameterNames case fields, n.head? ≠ some '_'
  once : (parameterNames case fields).Nodup
  locals : (localNames case fields).Nodup
  visible : ∀ stmt ∈ (emit case fields).body, ∀ n ∈ stmt.library,
    n ∉ parameterNames case fields ++ localNames case fields
  types : (emit case fields).TypeChecks

structure Compiles : Prop where
  reader : ReaderCompiles case structName fields
  builder : BuilderCompiles case structName fields

end Builder

section Names

def isWide (f : Field) : Bool :=
  match f.kind with
  | some (.scalar s) => 1 < s.size
  | some .bool | none => false
  | some .text | some .data => true

def hasType (fields : List Field) (type : DartType) : Bool :=
  fields.any fun f => f.kind.map Kind.dartType = some type

/-- The names of the libraries that the classes use for these fields. -/
def usedNames (fields : List Field) : List Name :=
  [INT, UINT8_LIST, BYTE_DATA] ++ (if hasType fields .bool then [BOOL] else []) ++
    (if hasType fields .double then [DOUBLE] else []) ++
    (if hasType fields .string then [STRING, UTF8] else []) ++ if fields.any isWide then [ENDIAN] else []

/-- What Dart asks of the names of the struct and the fields. -/
structure NamesTaken (case : StringCase) (structName : Name) (fields : List Field) : Prop where
  struct : structName = [] ∨ isIdentifier structName = true
  names : ∀ f ∈ typedFields fields, IsName (f.dartName case) ∧ (f.dartName case).head? ≠ some '_'
  once : ((typedFields fields).map (Field.dartName case)).Nodup
  members : ∀ f ∈ typedFields fields, f.dartName case ≠ schemaId ∧ f.dartName case ≠ structName ++ READER
  overrides : ∀ f ∈ typedFields fields, ∀ kind ∈ f.kind, Overrides (f.dartName case) kind.dartType
  libraries : ∀ f ∈ typedFields fields, f.dartName case ∉ usedNames fields
  hidden : ∀ f ∈ typedFields fields, f.dartName case ∈ builderLocals case fields → MayBeHidden case fields f

end Names

section Signature

variable {case : StringCase} {fields : List Field}

/-- The getters and the parameters are the fields whose types are known, with these types. -/
theorem getters_signature (fields : List Field) (offset i : Nat) :
    (emitGetters case i (layoutFrom offset fields)).map (fun g => (g.1, g.2.dartType)) =
      emitParameters case fields := by
  induction fields generalizing offset i with
  | nil => rfl
  | cons f rest ih =>
    rw [layoutFrom, emitGetters, emitParameters]
    cases hKind : f.kind with
    | none =>
      rw [List.filterMap_cons_none (by rw [hKind]; rfl)]
      exact ih _ i
    | some kind =>
      rw [List.filterMap_cons_some (by rw [hKind]; rfl)]
      cases kind <;> exact congrArg (List.cons _) (ih _ _)

theorem signature : (emit case fields).getters.map (fun g => (g.1, g.2.dartType)) =
    (emit case fields).parameters := getters_signature fields 0 0

theorem map_fst_getters : (emit case fields).getters.map Prod.fst =
    (typedFields fields).map (Field.dartName case) := by
  rw [← map_fst_parameters, ← signature, List.map_map]
  rfl

theorem mem_parameters {g : Name × DartType} : g ∈ (emit case fields).parameters ↔
    ∃ f ∈ fields, ∃ kind, f.kind = some kind ∧ g = (f.dartName case, kind.dartType) := by
  show g ∈ emitParameters case fields ↔ _
  rw [emitParameters, List.mem_filterMap]
  refine exists_congr fun f => and_congr_right fun _ => ?_
  rw [Option.map_eq_some_iff]
  exact exists_congr fun kind => and_congr_right fun _ => eq_comm

theorem forall_getters {p : Name → DartType → Prop} :
    (∀ g ∈ (emit case fields).getters, p g.1 g.2.dartType) ↔
      ∀ f ∈ typedFields fields, ∀ kind ∈ f.kind, p (f.dartName case) kind.dartType := by
  have hSignature : (∀ g ∈ (emit case fields).getters, p g.1 g.2.dartType) ↔
      ∀ g ∈ (emit case fields).parameters, p g.1 g.2 := by
    rw [← signature, List.forall_mem_map]
  rw [hSignature]
  constructor
  · intro h f hTyped kind hKind
    exact h _ (mem_parameters.mpr ⟨f, (mem_typedFields.mp hTyped).1, kind, hKind, rfl⟩)
  · intro h g hMem
    obtain ⟨f, hField, kind, hKind, rfl⟩ := mem_parameters.mp hMem
    exact h f (mem_typedFields.mpr ⟨hField, by rw [hKind]; rfl⟩) kind hKind

theorem mem_memberNames {n : Name} : n ∈ memberNames case fields ↔
    n = schemaId ∨ (∃ f ∈ typedFields fields, f.dartName case = n) ∨
      n ∈ (Reader.privates case fields).map Member.name := by
  rw [memberNames, List.mem_cons, List.mem_append, map_fst_getters, List.mem_map]

theorem hasType_iff {type : DartType} : hasType fields type = true ↔
    ∃ f ∈ typedFields fields, f.kind.map Kind.dartType = some type := by
  rw [hasType, List.any_eq_true]
  simp only [decide_eq_true_eq, mem_typedFields]
  constructor
  · rintro ⟨f, hMem, hKind⟩
    exact ⟨f, ⟨hMem, Option.isSome_map .. ▸ Option.isSome_of_eq_some hKind⟩, hKind⟩
  · rintro ⟨f, ⟨hMem, -⟩, hKind⟩
    exact ⟨f, hMem, hKind⟩

end Signature

section Libraries

variable {case : StringCase} {fields : List Field}

theorem mem_usedNames {n : Name} : n ∈ usedNames fields ↔
    n ∈ [INT, UINT8_LIST, BYTE_DATA] ∨ (hasType fields .bool = true ∧ n = BOOL) ∨
      (hasType fields .double = true ∧ n = DOUBLE) ∨
      (hasType fields .string = true ∧ n ∈ [STRING, UTF8]) ∨ (fields.any isWide = true ∧ n = ENDIAN) := by
  simp only [usedNames, List.mem_append, List.mem_ite_nil_right, List.mem_singleton, or_assoc]

theorem usedNames_subset {n : Name} (h : n ∈ usedNames fields) : n ∈ libraryNames := by
  have hAlways : ∀ n ∈ [INT, UINT8_LIST, BYTE_DATA], n ∈ libraryNames := by decide
  have hTexts : ∀ n ∈ [STRING, UTF8], n ∈ libraryNames := by decide
  rcases mem_usedNames.mp h with h | ⟨-, rfl⟩ | ⟨-, rfl⟩ | ⟨-, h⟩ | ⟨-, rfl⟩
  · exact hAlways n h
  · decide
  · decide
  · exact hTexts n h
  · decide

theorem always_used {n : Name} (h : n ∈ [INT, UINT8_LIST, BYTE_DATA]) : n ∈ usedNames fields :=
  mem_usedNames.mpr (.inl h)

theorem text_used {f : Field} (hMem : f ∈ fields) (hKind : f.kind = some .text) {n : Name}
    (h : n ∈ [STRING, UTF8]) : n ∈ usedNames fields := by
  have hType : hasType fields .string = true :=
    List.any_eq_true.mpr ⟨f, hMem, by simp [hKind, Kind.dartType]⟩
  exact mem_usedNames.mpr (.inr (.inr (.inr (.inl ⟨hType, h⟩))))

theorem name_used {f : Field} (hMem : f ∈ fields) {kind : Kind} (hKind : f.kind = some kind) :
    kind.dartType.name ∈ usedNames fields := by
  have hType : hasType fields kind.dartType = true :=
    List.any_eq_true.mpr ⟨f, hMem, by simp [hKind]⟩
  generalize kind.dartType = type at hType ⊢
  cases type <;> simp [usedNames, DartType.name, hType]

theorem endian_used {f : Field} (hMem : f ∈ fields) (hWide : isWide f = true) : ENDIAN ∈ usedNames fields := by
  have hAny : fields.any isWide = true := List.any_eq_true.mpr ⟨f, hMem, hWide⟩
  simp [usedNames, hAny]

theorem isWide_of_variable {f : Field} (h : isVariable f = true) : isWide f = true := by
  rcases (isVariable_iff f).mp h with hKind | hKind <;> simp [isWide, hKind]

theorem isWide_scalar {f : Field} {s : Scalar} (hKind : f.kind = some (.scalar s)) :
    isWide f = decide (1 < s.size) := by
  simp [isWide, hKind]

theorem helper_used {s : Scalar} (hUsed : s ∈ Reader.usedSuffixes fields) {n : Name}
    (hMem : n ∈ helperLibrary s) : n ∈ usedNames fields := by
  have hOwn : s.dartType.name ∈ usedNames fields ∧ (1 < s.size → ENDIAN ∈ usedNames fields) := by
    rcases List.mem_append.mp hUsed with hScalar | hVariable
    · obtain ⟨f, hField, hSuffix⟩ := List.mem_filterMap.mp hScalar
      have hKind : f.kind = some (.scalar s) := by
        rw [Reader.scalarSuffix] at hSuffix
        split at hSuffix
        · next t hKind =>
          split at hSuffix
          · cases hSuffix
          · rw [hKind, Option.some.inj hSuffix]
        · cases hSuffix
      refine ⟨name_used hField hKind, fun hSize => endian_used hField ?_⟩
      rw [isWide_scalar hKind]
      exact decide_eq_true hSize
    · split at hVariable
      · next hAny =>
        obtain rfl := List.mem_singleton.mp hVariable
        obtain ⟨f, hField, hVar⟩ := List.any_eq_true.mp hAny
        exact ⟨always_used List.mem_cons_self, fun _ => endian_used hField (isWide_of_variable hVar)⟩
      · cases hVariable
  rw [helperLibrary] at hMem
  split at hMem
  · exact always_used (List.mem_singleton.mp hMem ▸ List.mem_cons_self)
  · simp only [List.mem_append, List.mem_cons, List.not_mem_nil, or_false, List.mem_ite_nil_right] at hMem
    rcases hMem with (rfl | rfl | rfl) | ⟨hSize, rfl⟩
    · exact hOwn.1
    · exact always_used (by simp)
    · exact always_used (by simp)
    · exact hOwn.2 hSize

theorem readerLibrary_used {n : Name} (h : n ∈ readerLibrary case fields) : n ∈ usedNames fields := by
  simp only [readerLibrary, List.mem_append, List.mem_flatMap, List.mem_filter, decide_eq_true_eq] at h
  rcases h with ((((h | h) | h) | ⟨s, ⟨-, hUsed⟩, h⟩) | h) | h
  · exact always_used (List.mem_cons.mpr ((List.mem_cons.mp h).imp_right fun h =>
      List.mem_cons.mpr (.inl (List.mem_singleton.mp h))))
  · obtain ⟨g, hGetter, rfl⟩ := List.mem_map.mp h
    have hAll := (@forall_getters case fields fun _ type => type.name ∈ usedNames fields).mpr
      fun f hTyped kind hKind => name_used (mem_typedFields.mp hTyped).1 hKind
    exact hAll g hGetter
  · split at h
    · cases h
    · exact always_used (List.mem_singleton.mp h ▸ List.mem_cons_self)
  · exact helper_used hUsed h
  · split at h
    · next hAny =>
      obtain ⟨f, hField, hKind⟩ := List.any_eq_true.mp hAny
      simp only [List.mem_cons, List.not_mem_nil, or_false] at h
      rcases h with rfl | rfl | rfl
      · exact text_used hField (of_decide_eq_true hKind) List.mem_cons_self
      · exact always_used List.mem_cons_self
      · exact text_used hField (of_decide_eq_true hKind) (List.mem_cons_of_mem _ List.mem_cons_self)
    · cases h
  · split at h
    · simp only [List.mem_cons, List.not_mem_nil, or_false] at h
      rcases h with rfl | rfl
      · exact always_used (List.mem_cons_of_mem _ List.mem_cons_self)
      · exact always_used List.mem_cons_self
    · cases h

theorem total_library (headerLen : Nat) (vars : List Field) : (emitTotal case headerLen vars).library = [] := by
  have hFold : ∀ e : Expr, e.library = [] →
      (vars.foldl (fun e f => .add (.add e (.lit 4)) (.length (source case f))) e).library = [] := by
    induction vars with
    | nil => exact fun e he => he
    | cons f rest ih => exact fun e he => ih _ (by simp [Expr.library, he])
  exact hFold _ rfl

theorem setters_library {placed : List Placed} {stmt : Stmt} (hMem : stmt ∈ emitSetters case placed) {n : Name}
    (h : n ∈ stmt.library) : n = ENDIAN ∧ ∃ p ∈ placed, isWide p.field = true := by
  induction placed with
  | nil => cases hMem
  | cons p rest ih =>
    have hLater : stmt ∈ emitSetters case rest → n = ENDIAN ∧ ∃ q ∈ p :: rest, isWide q.field = true := by
      intro hRest
      obtain ⟨hName, q, hThere, hWide⟩ := ih hRest
      exact ⟨hName, q, List.mem_cons_of_mem p hThere, hWide⟩
    rw [emitSetters] at hMem
    split at hMem
    · rcases List.mem_cons.mp hMem with rfl | hRest
      · simp [Stmt.library, Expr.library, Scalar.size] at h
      · exact hLater hRest
    · next s hKind =>
      rcases List.mem_cons.mp hMem with rfl | hRest
      · simp only [Stmt.library, Expr.library, List.append_nil, List.mem_ite_nil_right,
          List.mem_singleton] at h
        refine ⟨h.2, p, List.mem_cons_self, ?_⟩
        rw [isWide_scalar hKind]
        exact decide_eq_true h.1
      · exact hLater hRest
    · exact hLater hMem

theorem records_library {vars : List Field} {stmt : Stmt} (hMem : stmt ∈ emitRecords case vars) {n : Name}
    (h : n ∈ stmt.library) : n = ENDIAN ∧ ∃ f, f ∈ vars := by
  obtain ⟨f, hVar, hStmt⟩ := List.mem_flatMap.mp hMem
  simp only [List.mem_cons, List.not_mem_nil, or_false] at hStmt
  rcases hStmt with rfl | rfl | rfl | rfl
  · simp only [Stmt.library, Expr.library, List.append_nil, List.mem_ite_nil_right, List.mem_singleton] at h
    exact ⟨h.2, f, hVar⟩
  · cases h
  · cases h
  · cases h

theorem body_cases {stmt : Stmt} (h : stmt ∈ (emit case fields).body) :
    stmt ∈ emitSetters case (layoutFrom 0 fields) ∨ (∃ size, size.library = [] ∧ stmt = .newList buf size) ∨
      stmt = .newView bd buf ∨ stmt = .ret buf ∨ (∃ e, e.library = [] ∧ stmt = .declare total e) ∨
      (∃ n, stmt = .declare cursor (.lit n)) ∨ (∃ f ∈ textFields (variableFields fields),
        stmt = .declare (bytesName (f.dartName case)) (.encode (f.dartName case))) ∨
      stmt ∈ emitRecords case (variableFields fields) := by
  rw [body_eq, emitBuild, map_field_layoutFrom] at h
  split at h
  · simp only [emitEncodings, List.append_assoc, List.mem_append, List.mem_map, List.mem_cons,
      List.not_mem_nil, or_false] at h
    rcases h with ⟨f, hText, rfl⟩ | (rfl | rfl | rfl) | h | rfl | h | rfl
    · exact .inr (.inr (.inr (.inr (.inr (.inr (.inl ⟨f, hText, rfl⟩))))))
    · exact .inr (.inr (.inr (.inr (.inl ⟨_, total_library _ _, rfl⟩))))
    · exact .inr (.inl ⟨_, rfl, rfl⟩)
    · exact .inr (.inr (.inl rfl))
    · exact .inl h
    · exact .inr (.inr (.inr (.inr (.inr (.inl ⟨_, rfl⟩)))))
    · exact .inr (.inr (.inr (.inr (.inr (.inr (.inr h))))))
    · exact .inr (.inr (.inr (.inl rfl)))
  · simp only [List.append_assoc, List.mem_append, List.mem_cons, List.not_mem_nil, or_false] at h
    rcases h with (rfl | rfl) | h | rfl
    · exact .inr (.inl ⟨_, rfl, rfl⟩)
    · exact .inr (.inr (.inl rfl))
    · exact .inl h
    · exact .inr (.inr (.inr (.inl rfl)))

theorem builderLibrary_used {stmt : Stmt} (hMem : stmt ∈ (emit case fields).body) {n : Name}
    (h : n ∈ stmt.library) : n ∈ usedNames fields := by
  rcases body_cases hMem with hSetter | ⟨size, hSize, rfl⟩ | rfl | rfl | ⟨e, he, rfl⟩ | ⟨k, rfl⟩ |
    ⟨f, hText, rfl⟩ | hRecord
  · obtain ⟨rfl, p, hPlaced, hWide⟩ := setters_library hSetter h
    exact endian_used (field_mem hPlaced) hWide
  · rw [Stmt.library, hSize] at h
    exact always_used (List.mem_singleton.mp h ▸ List.mem_cons_of_mem _ List.mem_cons_self)
  · exact always_used (by rw [List.mem_singleton.mp h]; simp)
  · cases h
  · rw [Stmt.library, he, if_neg (by decide)] at h
    cases h
  · rw [Stmt.library, if_pos rfl] at h
    exact always_used (List.mem_singleton.mp h ▸ List.mem_cons_self)
  · obtain ⟨hVar, hKind⟩ := mem_textFields.mp hText
    rw [Stmt.library, if_neg (bytesName_ne (by decide) _)] at h
    exact text_used (mem_variableFields.mp hVar).1 hKind
      (List.mem_singleton.mp h ▸ List.mem_cons_of_mem _ List.mem_cons_self)
  · obtain ⟨rfl, f, hVar⟩ := records_library hRecord h
    obtain ⟨hField, hVariable⟩ := List.mem_filter.mp hVar
    exact endian_used hField (isWide_of_variable hVariable)

theorem newView_mem : .newView bd buf ∈ (emit case fields).body := by
  rw [body_eq, emitBuild]
  split <;> simp

theorem endian_reader {f : Field} (hMem : f ∈ fields) (hWide : isWide f = true) :
    ENDIAN ∈ readerLibrary case fields := by
  have hHelper : ∀ s ∈ Reader.usedSuffixes fields, s ≠ .uint8 → 1 < s.size →
      ENDIAN ∈ readerLibrary case fields := by
    intro s hUsed hByte hSize
    have hOrder : s ∈ Reader.helperOrder := by cases s <;> decide
    have hLibrary : ENDIAN ∈ helperLibrary s := by simp [helperLibrary, hByte, hSize]
    have hHelper : s ∈ Reader.helperOrder.filter fun s => s ∈ Reader.usedSuffixes fields :=
      List.mem_filter.mpr ⟨hOrder, decide_eq_true hUsed⟩
    have hHelpers := List.mem_flatMap.mpr ⟨s, hHelper, hLibrary⟩
    simp only [readerLibrary, List.mem_append]
    exact .inl (.inl (.inr hHelpers))
  cases hKind : f.kind with
  | none => simp [isWide, hKind] at hWide
  | some kind =>
    cases kind with
    | bool => simp [isWide, hKind] at hWide
    | scalar s =>
      rw [isWide_scalar hKind, decide_eq_true_eq] at hWide
      have hByte : s ≠ .uint8 := by
        rintro rfl
        exact absurd hWide (by decide)
      refine hHelper s (List.mem_append_left _ (List.mem_filterMap.mpr ⟨f, hMem, ?_⟩)) hByte hWide
      rw [Reader.scalarSuffix, hKind]
      exact if_neg hByte
    | text | data =>
      have hVar : f ∈ variableFields fields := mem_variableFields.mpr ⟨hMem, by simp [hKind]⟩
      exact hHelper .uint32 (Reader.uint32_used (List.ne_nil_of_mem hVar)) (by decide) (by decide)

theorem used_somewhere {n : Name} (h : n ∈ usedNames fields) :
    n ∈ readerLibrary case fields ∨ ∃ stmt ∈ (emit case fields).body, n ∈ stmt.library := by
  have hFront : ∀ n ∈ [INT, UINT8_LIST] ++ (emit case fields).getters.map (fun g => g.2.dartType.name),
      n ∈ readerLibrary case fields := by
    intro n h
    simp only [readerLibrary, List.append_assoc]
    rw [← List.append_assoc]
    exact List.mem_append_left _ h
  have hGetter : ∀ {type : DartType}, hasType fields type = true → type.name ∈ readerLibrary case fields := by
    intro type hType
    obtain ⟨f, hTyped, hKind⟩ := hasType_iff.mp hType
    obtain ⟨kind, hOwn, rfl⟩ := Option.map_eq_some_iff.mp hKind
    have hParameter : (f.dartName case, kind.dartType) ∈ (emit case fields).parameters :=
      mem_parameters.mpr ⟨f, (mem_typedFields.mp hTyped).1, kind, hOwn, rfl⟩
    obtain ⟨g, hMem, hSame⟩ := List.mem_map.mp (signature ▸ hParameter)
    refine hFront _ (List.mem_append_right _ (List.mem_map.mpr ⟨g, hMem, ?_⟩))
    rw [(Prod.mk.inj hSame).2]
  rcases mem_usedNames.mp h with h | ⟨hType, rfl⟩ | ⟨hType, rfl⟩ | ⟨hType, h⟩ | ⟨hWide, rfl⟩
  · simp only [List.mem_cons, List.not_mem_nil, or_false] at h
    rcases h with rfl | rfl | rfl
    · exact .inl (hFront _ (by simp))
    · exact .inl (hFront _ (by simp))
    · exact .inr ⟨_, newView_mem, List.mem_cons_self⟩
  · exact .inl (hGetter hType)
  · exact .inl (hGetter hType)
  · simp only [List.mem_cons, List.not_mem_nil, or_false] at h
    rcases h with rfl | rfl
    · exact .inl (hGetter hType)
    · obtain ⟨f, hTyped, hKind⟩ := hasType_iff.mp hType
      have hText : f.kind = some .text := by
        obtain ⟨kind, hOwn, hString⟩ := Option.map_eq_some_iff.mp hKind
        cases kind with
        | text => exact hOwn
        | bool | data => cases hString
        | scalar s => cases s <;> cases hString
      have hAny : (fields.any fun f => f.kind = some .text) = true :=
        List.any_eq_true.mpr ⟨f, (mem_typedFields.mp hTyped).1, decide_eq_true hText⟩
      refine .inl ?_
      simp [readerLibrary, hAny]
  · obtain ⟨f, hMem, hOwn⟩ := List.any_eq_true.mp hWide
    exact .inl (endian_reader hMem hOwn)

end Libraries

section Spelling

variable {case : StringCase} {fields : List Field}

/-- A suffix that no reserved word ends with makes a name of every identifier. -/
theorem isName_append {suffix : Name} (hSuffix : isIdentifier suffix = true)
    (hFree : ∀ w ∈ reservedWords, ¬ suffix <:+ w) {n : Name} :
    IsName (n ++ suffix) ↔ n = [] ∨ isIdentifier n = true := by
  rw [IsName, isIdentifier_append hSuffix, and_iff_left]
  exact fun hReserved => hFree _ hReserved (List.suffix_append n suffix)

theorem isName_reader {n : Name} : IsName (n ++ READER) ↔ n = [] ∨ isIdentifier n = true :=
  isName_append (by decide) (by decide)

theorem isName_builder {n : Name} : IsName (n ++ BUILDER) ↔ n = [] ∨ isIdentifier n = true :=
  isName_append (by decide) (by decide)

theorem isName_bytesName {n : Name} (h : isIdentifier n = true) : IsName (bytesName n) :=
  (isName_append (by decide) (by decide)).mpr (.inr h)

theorem isName_varOffsetSym {f : Field} (h : isIdentifier (f.dartName case) = true) :
    IsName (Reader.varOffsetSym case f) := by
  have hParts : (f.dartName case).all identifierPart = true := by
    cases hName : f.dartName case with
    | nil => rfl
    | cons c rest =>
      rw [hName, isIdentifier, Bool.and_eq_true] at h
      simp [identifierPart, h]
  have hSuffix : Reader.OFFSET.all identifierPart = true := by decide
  refine ⟨?_, fun hReserved => ?_⟩
  · rw [Reader.varOffsetSym, List.cons_append, isIdentifier, List.all_append, hParts, hSuffix]
    decide
  · have hHead : ∀ w ∈ reservedWords, w.head? ≠ some '_' := by decide
    exact hHead _ hReserved rfl

theorem privates_cases {n : Name} (h : n ∈ (Reader.privates case fields).map Member.name) :
    (∃ f ∈ typedFields fields, n = Reader.varOffsetSym case f) ∨ n ∈ Reader.FIXED_NAMES := by
  rw [(Reader.privates_names case fields).mem_iff, List.mem_append, List.mem_map] at h
  rcases h with ⟨f, hVar, rfl⟩ | hFixed
  · obtain ⟨hMem, hKind⟩ := mem_variableFields.mp hVar
    exact .inl ⟨f, mem_typedFields.mpr ⟨hMem, by rcases hKind with h | h <;> rw [h] <;> rfl⟩, rfl⟩
  · exact .inr ((Reader.fixedNames_sublist fields).subset hFixed)

/-- The private members are told apart from all other names by their first letter. -/
theorem head_private {n : Name} (h : n ∈ (Reader.privates case fields).map Member.name) : n.head? = some '_' := by
  have hFixed : ∀ n ∈ Reader.FIXED_NAMES, n.head? = some '_' := by decide
  rcases privates_cases h with ⟨f, -, rfl⟩ | hMem
  · rfl
  · exact hFixed n hMem

theorem getLast?_reader : READER.getLast? = some 'r' := by decide

theorem private_ne_reader {n : Name} (h : n ∈ (Reader.privates case fields).map Member.name) (structName : Name) :
    n ≠ structName ++ READER := by
  rintro rfl
  have hFixed : ∀ n ∈ Reader.FIXED_NAMES, ¬ READER <:+ n := by decide
  rcases privates_cases h with ⟨f, -, hSame⟩ | hMem
  · have hLast := congrArg List.getLast? hSame
    rw [Reader.varOffsetSym, List.getLast?_append, List.getLast?_append, getLast?_reader] at hLast
    exact absurd (Option.some.inj hLast) (by decide)
  · exact hFixed _ hMem (List.suffix_append _ _)

theorem localNames_eq : localNames case fields =
    ((textFields (variableFields fields)).map fun f => bytesName (f.dartName case)) ++
      if variableFields fields ≠ [] then [total, buf, bd, cursor] else [buf, bd] := by
  rw [localNames, body_eq, emitBuild, map_field_layoutFrom]
  by_cases hVars : variableFields fields ≠ []
  · rw [if_pos hVars, if_pos hVars]
    simp only [List.filterMap_append, declares_encodings, declares_setters, declares_records,
      List.filterMap_cons, List.filterMap_nil, Stmt.declares, List.append_nil, List.append_assoc,
      List.nil_append, List.cons_append]
    rfl
  · rw [if_neg hVars, if_neg hVars, not_not.mp hVars]
    simp only [List.filterMap_append, declares_setters, List.filterMap_cons, List.filterMap_nil,
      Stmt.declares, List.append_nil]
    rfl

end Spelling

section Main

variable {case : StringCase} {structName : Name} {fields : List Field}

theorem namesTaken_of_compiles (h : Compiles case structName fields) : NamesTaken case structName fields := by
  obtain ⟨hReader, hBuilder⟩ := h
  have hMember : ∀ f ∈ typedFields fields, f.dartName case ∈ memberNames case fields := fun f hTyped =>
    mem_memberNames.mpr (.inr (.inl ⟨f, hTyped, rfl⟩))
  have hParameter : ∀ f ∈ typedFields fields, f.dartName case ∈ parameterNames case fields := by
    intro f hTyped
    rw [parameterNames, map_fst_parameters]
    exact List.mem_map_of_mem hTyped
  have hOnce : ((typedFields fields).map (Field.dartName case)).Nodup := by
    rw [← map_fst_parameters]
    exact hBuilder.once
  refine ⟨isName_reader.mp hReader.className, fun f hTyped => ?_, hOnce, fun f hTyped => ?_, ?_,
    fun f hTyped hUsed => ?_, (typeChecks_iff hOnce).mp hBuilder.types⟩
  · exact ⟨hReader.names _ (hMember f hTyped), hBuilder.named _ (hParameter f hTyped)⟩
  · refine ⟨fun hSame => ?_, fun hSame => hReader.enclosing (hSame ▸ hMember f hTyped)⟩
    have hFresh := (List.nodup_cons.mp hReader.once).1
    rw [List.mem_append, map_fst_getters] at hFresh
    exact hFresh (.inl (hSame ▸ List.mem_map_of_mem hTyped))
  · exact (@forall_getters case fields Overrides).mp hReader.overrides
  · rcases @used_somewhere case fields _ hUsed with hLibrary | ⟨stmt, hBody, hLibrary⟩
    · exact hReader.visible _ hLibrary (hMember f hTyped)
    · exact hBuilder.visible stmt hBody _ hLibrary (List.mem_append_left _ (hParameter f hTyped))

namespace NamesTaken

variable (h : NamesTaken case structName fields)
include h

theorem readerCompiles : ReaderCompiles case structName fields where
  className := isName_reader.mpr h.struct
  names n hMem := by
    rcases mem_memberNames.mp hMem with rfl | ⟨f, hTyped, rfl⟩ | hPrivate
    · decide
    · exact (h.names f hTyped).1
    · have hFixed : ∀ n ∈ Reader.FIXED_NAMES, IsName n := by decide
      rcases privates_cases hPrivate with ⟨f, hTyped, rfl⟩ | hThere
      · exact isName_varOffsetSym (h.names f hTyped).1.1
      · exact hFixed n hThere
  once := by
    have hVariables : ((variableFields fields).map (Field.dartName case)).Nodup := by
      have hSub : (variableFields fields).Sublist (typedFields fields) := by
        refine List.monotone_filter_right fields fun f hVar => ?_
        rcases (isVariable_iff f).mp hVar with hKind | hKind <;> rw [hKind] <;> rfl
      exact (hSub.map _).nodup h.once
    rw [memberNames, List.nodup_cons, List.nodup_append, map_fst_getters, List.mem_append]
    refine ⟨?_, h.once, (Reader.privates_nodup case fields).mpr hVariables, ?_⟩
    · rintro (hGetter | hPrivate)
      · obtain ⟨f, hTyped, hSame⟩ := List.mem_map.mp hGetter
        exact (h.members f hTyped).1 hSame
      · exact absurd (head_private hPrivate) (by decide)
    · rintro n hGetter m hPrivate rfl
      obtain ⟨f, hTyped, rfl⟩ := List.mem_map.mp hGetter
      exact (h.names f hTyped).2 (head_private hPrivate)
  enclosing hMem := by
    rcases mem_memberNames.mp hMem with hSame | ⟨f, hTyped, hSame⟩ | hPrivate
    · have hLast := congrArg List.getLast? hSame
      rw [List.getLast?_append, getLast?_reader] at hLast
      exact absurd (Option.some.inj hLast) (by decide)
    · exact (h.members f hTyped).2 hSame
    · exact private_ne_reader hPrivate structName rfl
  overrides := (@forall_getters case fields Overrides).mpr h.overrides
  visible n hLibrary hMem := by
    have hUsed := readerLibrary_used hLibrary
    have hNames : ∀ n ∈ libraryNames, n ≠ schemaId ∧ n.head? ≠ some '_' := by decide
    obtain ⟨hSchema, hHead⟩ := hNames n (usedNames_subset hUsed)
    rcases mem_memberNames.mp hMem with hSame | ⟨f, hTyped, rfl⟩ | hPrivate
    · exact hSchema hSame
    · exact h.libraries f hTyped hUsed
    · exact hHead (head_private hPrivate)

theorem localNames_isName {n : Name} (hMem : n ∈ localNames case fields) : IsName n ∧ n ∉ libraryNames := by
  have hPlain : ∀ n ∈ [buf, bd, total, cursor], IsName n ∧ n ∉ libraryNames := by decide
  have hLast : ∀ n ∈ libraryNames, n.getLast? ≠ some 's' := by decide
  rcases mem_builderLocals.mp ((mem_locals case fields n).mp hMem) with rfl | rfl | ⟨-, rfl | rfl⟩ |
    ⟨f, hText, rfl⟩
  · exact hPlain _ (by simp)
  · exact hPlain _ (by simp)
  · exact hPlain _ (by simp)
  · exact hPlain _ (by simp)
  · obtain ⟨hVar, hKind⟩ := mem_textFields.mp hText
    have hTyped : f ∈ typedFields fields :=
      mem_typedFields.mpr ⟨(mem_variableFields.mp hVar).1, by rw [hKind]; rfl⟩
    refine ⟨isName_bytesName (h.names f hTyped).1.1, fun hLibrary => hLast _ hLibrary ?_⟩
    rw [bytesName, List.getLast?_append]
    rfl

theorem builderCompiles (hSome : typedFields fields ≠ []) : BuilderCompiles case structName fields where
  className := isName_builder.mpr h.struct
  nonempty := by
    rw [parameterNames, map_fst_parameters]
    exact fun hNil => hSome (List.map_eq_nil_iff.mp hNil)
  names n hMem := by
    rcases List.mem_append.mp hMem with hParameter | hLocal
    · rw [parameterNames, map_fst_parameters] at hParameter
      obtain ⟨f, hTyped, rfl⟩ := List.mem_map.mp hParameter
      exact (h.names f hTyped).1
    · exact (h.localNames_isName hLocal).1
  named n hMem := by
    rw [parameterNames, map_fst_parameters] at hMem
    obtain ⟨f, hTyped, rfl⟩ := List.mem_map.mp hMem
    exact (h.names f hTyped).2
  once := by
    rw [parameterNames, map_fst_parameters]
    exact h.once
  locals := by
    have hTexts := encodedTypes_nodup h.once
    rw [encodedTypes, List.map_map] at hTexts
    rw [localNames_eq, List.nodup_append]
    refine ⟨hTexts, by split <;> decide, ?_⟩
    rintro n hBytes m hPlain rfl
    obtain ⟨f, -, rfl⟩ := List.mem_map.mp hBytes
    have hLast : ∀ n ∈ [total, buf, bd, cursor], n.getLast? ≠ some 's' := by decide
    refine hLast (bytesName (f.dartName case)) ?_ (by rw [bytesName, List.getLast?_append]; rfl)
    split at hPlain
    · exact hPlain
    · simp only [List.mem_cons, List.not_mem_nil, or_false] at hPlain
      rcases hPlain with hSame | hSame <;> simp [hSame]
  visible stmt hBody n hLibrary hMem := by
    have hUsed := builderLibrary_used hBody hLibrary
    rcases List.mem_append.mp hMem with hParameter | hLocal
    · rw [parameterNames, map_fst_parameters] at hParameter
      obtain ⟨f, hTyped, rfl⟩ := List.mem_map.mp hParameter
      exact h.libraries f hTyped hUsed
    · exact (h.localNames_isName hLocal).2 (usedNames_subset hUsed)
  types := (typeChecks_iff h.once).mpr h.hidden

end NamesTaken

/-- The generated classes compile if and only if there is a parameter, and Dart takes the names. -/
theorem compiles_iff : Compiles case structName fields ↔
    typedFields fields ≠ [] ∧ NamesTaken case structName fields := by
  constructor
  · intro h
    refine ⟨fun hNil => h.builder.nonempty ?_, namesTaken_of_compiles h⟩
    rw [parameterNames, map_fst_parameters, hNil]
    rfl
  · rintro ⟨hSome, h⟩
    exact ⟨h.readerCompiles, h.builderCompiles hSome⟩

end Main

section Safety

variable (case : StringCase) (structName : Name) (fields : List Field) (bytes : Bytes)

/-- An accessor can be called, and is safe on a buffer, if and only if Dart takes the names, and each text that
lies in the buffer, and is not empty, is one. -/
theorem accessors_safe_iff :
    (∀ getter ∈ (emit case fields).getters, Compiles case structName fields ∧
        getter.2.Safe (emit case fields).headerLen bytes) ↔
      typedFields fields = [] ∨ NamesTaken case structName fields ∧
        ∀ name i, (name, .text i) ∈ (emit case fields).getters →
          RecordFits bytes (recordStart (emit case fields).headerLen bytes i) →
          content bytes (recordStart (emit case fields).headerLen bytes i) ≠ [] →
          ∃ text, content bytes (recordStart (emit case fields).headerLen bytes i) =
            TextEncoding.utf8 text := by
  rw [← getters_safe_iff]
  have hGetters : (emit case fields).getters = [] ↔ typedFields fields = [] := by
    rw [← List.map_eq_nil_iff, map_fst_getters, List.map_eq_nil_iff]
  by_cases hNone : typedFields fields = []
  · rw [hGetters.mpr hNone]
    exact iff_of_true (fun _ hMem => absurd hMem List.not_mem_nil) (.inl hNone)
  · obtain ⟨getter, hMem⟩ := List.exists_mem_of_ne_nil _ fun h => hNone (hGetters.mp h)
    rw [or_iff_right hNone]
    constructor
    · intro h
      exact ⟨(compiles_iff.mp (h getter hMem).1).2, fun other hOther => (h other hOther).2⟩
    · rintro ⟨hNames, hSafe⟩ other hOther
      exact ⟨compiles_iff.mpr ⟨hNone, hNames⟩, hSafe other hOther⟩

end Safety

def LABEL : Name := "Label".toList

theorem label_compiles : Compiles asciiCase LABEL [nameField] := by
  refine compiles_iff.mpr ⟨by decide, .inr (by decide), by decide, by decide,
    by decide, by decide, by decide, fun f hTyped hLocal => absurd hLocal ?_⟩
  revert f
  decide

/-- A text field, and a record whose only byte is in no UTF-8 text. -/
theorem malformed_text_throws : Compiles asciiCase LABEL [nameField] ∧
    ¬ ∀ getter ∈ (emit asciiCase [nameField]).getters, Compiles asciiCase LABEL [nameField] ∧
      getter.2.Safe (emit asciiCase [nameField]).headerLen [1, 0, 0, 0, 0xFF] := by
  refine ⟨label_compiles, fun hSafe => ?_⟩
  have hGetter : (['n', 'a', 'm', 'e'], Accessor.text 0) ∈ (emit asciiCase [nameField]).getters := by
    decide
  obtain ⟨v, hValue, -⟩ := (hSafe _ hGetter).2
  have hNone : utf8Decode [0xFF] = none := by decide
  have hFits : RecordFits [1, 0, 0, 0, 0xFF] 0 := by decide
  have hRead := readText_fits hFits (by decide)
  have hContent : content [1, 0, 0, 0, 0xFF] 0 = [0xFF] := by decide
  rw [hContent, hNone] at hRead
  have hThrows : (Accessor.text 0).get [1, 0, 0, 0, 0xFF]
      (emit asciiCase [nameField]).headerLen = .error .formatException := hRead
  rw [hThrows] at hValue
  cases hValue

end VsomeipDart
