import VsomeipDart.SchemaLines

/-! # Field declarations of a schema file

A declaration carries every gap in which Cap'n Proto allows white space; the declarations are on lines of
their own, so that no gap has a line feed. A value and a comment are any text, and an ordinal is any
integer literal.
-/

namespace VsomeipDart
set_option autoImplicit false

open Pattern

abbrev Gap := {text : List Char // ∀ c ∈ text, capnpSpace c = true}

abbrev Word := {text : List Char // text ≠ [] ∧ ∀ c ∈ text, asciiWord c = true}

abbrev LineText := {text : List Char // '\n' ∉ text}

def isOctalDigit (c : Char) : Bool := '0' ≤ c && c ≤ '7'

/-- An integer literal of Cap'n Proto. The digits of an octal one are those behind its zero. -/
inductive IntegerLiteral where
  | decimal (digits : {digits : List Char // digits ≠ [] ∧ digits.head? ≠ some '0' ∧
      ∀ c ∈ digits, c.isDigit = true})
  | octal (digits : {digits : List Char // ∀ c ∈ digits, isOctalDigit c = true})
  | hexadecimal (digits : {digits : List Char // digits ≠ [] ∧ ∀ c ∈ digits, PythonText.isHexDigit c = true})

namespace IntegerLiteral

def text : IntegerLiteral → List Char
  | decimal digits => digits.1
  | octal digits => '0' :: digits.1
  | hexadecimal digits => '0' :: 'x' :: digits.1

def digitsValue (base : Nat) (digits : List Char) : Nat :=
  digits.foldl (fun value c => base * value + PythonText.hexDigit c) 0

def value : IntegerLiteral → Nat
  | decimal digits => digitsValue 10 digits.1
  | octal digits => digitsValue 8 digits.1
  | hexadecimal digits => digitsValue 16 digits.1

def isHexadecimal : IntegerLiteral → Bool
  | hexadecimal _ => true
  | decimal _ | octal _ => false

/-- What `int` makes of the text, for which every number is a decimal one. -/
def pythonValue (literal : IntegerLiteral) : Nat := digitsValue 10 literal.text

end IntegerLiteral

inductive TypeTail where
  /-- `Outer.Inner` -/
  | member (rest : LineText)
  /-- `List(Text)` -/
  | parameters (rest : LineText)

def TypeTail.text : TypeTail → List Char
  | member rest => '.' :: rest.1
  | parameters rest => '(' :: rest.1

structure Declaration where
  lead : Gap
  name : Word
  beforeAt : Gap
  afterAt : Gap
  ordinal : IntegerLiteral
  beforeColon : Gap
  afterColon : Gap
  /-- the dot of a type that is named from the top level, and the gap after it -/
  root : Option Gap
  typeName : Word
  afterType : Gap
  typeTail : Option TypeTail
  defaultValue : Option LineText
  afterEnd : Gap
  comment : Option LineText

namespace Declaration

variable (d : Declaration)

def rootText : List Char := (d.root.map fun gap => '.' :: gap.1).getD []

def tailText : List Char := (d.typeTail.map TypeTail.text).getD []

/-- From the end of the type's first name and the gap after it. -/
def ending : List Char :=
  d.tailText ++ ((d.defaultValue.map fun value => '=' :: value.1).getD [] ++
    ';' :: (d.afterEnd.1 ++ (d.comment.map fun text => '#' :: text.1).getD []))

section Suffixes

variable (ending : List Char)

def fromType : List Char := d.typeName.1 ++ (d.afterType.1 ++ ending)

def fromColon : List Char := ':' :: (d.afterColon.1 ++ (d.rootText ++ d.fromType ending))

def fromOrdinal : List Char := d.ordinal.text ++ (d.beforeColon.1 ++ d.fromColon ending)

def fromAt : List Char := '@' :: (d.afterAt.1 ++ d.fromOrdinal ending)

def fromName : List Char := d.name.1 ++ (d.beforeAt.1 ++ d.fromAt ending)

def withEnding : List Char := d.lead.1 ++ d.fromName ending

end Suffixes

def text : List Char := d.withEnding d.ending

def field : Field :=
  ⟨d.name.1, d.ordinal.value, (if d.root.isSome then ['.'] else []) ++ (d.typeName.1 ++ d.tailText)⟩

/-- No white space after the `@` and the colon, and no other that breaks the line for Python. -/
structure Tight : Prop where
  afterAt : d.afterAt.1 = []
  afterColon : d.afterColon.1 = []
  beforeAt : Unbroken d.beforeAt.1
  beforeColon : Unbroken d.beforeColon.1
  afterType : Unbroken d.afterType.1

instance : Decidable d.Tight :=
  decidable_of_iff (d.afterAt.1 = [] ∧ d.afterColon.1 = [] ∧ Unbroken d.beforeAt.1 ∧
      Unbroken d.beforeColon.1 ∧ Unbroken d.afterType.1)
    ⟨fun ⟨h₁, h₂, h₃, h₄, h₅⟩ => ⟨h₁, h₂, h₃, h₄, h₅⟩,
      fun ⟨h₁, h₂, h₃, h₄, h₅⟩ => ⟨h₁, h₂, h₃, h₄, h₅⟩⟩

/-- A tight declaration of a type that is a single word, without a hexadecimal ordinal and a default value. -/
structure Matched : Prop where
  tight : d.Tight
  ordinal : d.ordinal.isHexadecimal = false
  root : d.root.isNone = true
  typeTail : d.typeTail.isNone = true
  defaultValue : d.defaultValue.isNone = true

instance : Decidable d.Matched :=
  decidable_of_iff (d.Tight ∧ d.ordinal.isHexadecimal = false ∧ d.root.isNone = true ∧
      d.typeTail.isNone = true ∧ d.defaultValue.isNone = true)
    ⟨fun ⟨h₁, h₂, h₃, h₄, h₅⟩ => ⟨h₁, h₂, h₃, h₄, h₅⟩,
      fun ⟨h₁, h₂, h₃, h₄, h₅⟩ => ⟨h₁, h₂, h₃, h₄, h₅⟩⟩

/-- The ordinal is the same in decimal. -/
def Plain : Prop := d.Matched ∧ d.ordinal.pythonValue = d.ordinal.value

instance : Decidable d.Plain :=
  inferInstanceAs (Decidable (d.Matched ∧ d.ordinal.pythonValue = d.ordinal.value))

def readAs : Field := { d.field with ordinal := d.ordinal.pythonValue }

/-- An octal ordinal makes another field of the line. -/
def misread : List Field :=
  if d.Matched ∧ d.ordinal.pythonValue ≠ d.ordinal.value then [d.readAs] else []

/-- An ending starts with a semicolon when the type is a single word and there is no default value. -/
theorem ending_cases : ∃ c rest, d.ending = c :: rest ∧ c ∈ marks ∧ c ≠ '@' ∧ c ≠ '#' ∧
    (c = ';' ↔ d.typeTail.isNone = true ∧ d.defaultValue.isNone = true) := by
  rw [ending, tailText]
  cases d.typeTail with
  | some tail =>
    cases tail with
    | member rest =>
      exact ⟨'.', _, rfl, by decide, by decide, by decide, fun h => absurd h (by decide), nofun⟩
    | parameters rest =>
      exact ⟨'(', _, rfl, by decide, by decide, by decide, fun h => absurd h (by decide), nofun⟩
  | none =>
    cases d.defaultValue with
    | some value =>
      exact ⟨'=', _, rfl, by decide, by decide, by decide, fun h => absurd h (by decide), nofun⟩
    | none => exact ⟨';', _, rfl, by decide, by decide, by decide, fun _ => ⟨rfl, rfl⟩, fun _ => rfl⟩

end Declaration

theorem isSpace_gap (py : PythonText) (gap : Gap) : ∀ c ∈ gap.1, py.isSpace c = true :=
  fun c hMem => py.isSpace_capnpSpace (gap.2 c hMem)

theorem isWord_word (py : PythonText) (word : Word) : ∀ c ∈ word.1, py.isWord c = true :=
  fun c hMem => py.isWord_asciiWord (word.2.2 c hMem)

namespace PythonText

variable (py : PythonText)

/-- Whatever white space is in front of it, the text's first line is no field. -/
def Inert (text : List Char) : Prop :=
  ∀ ws : List Char, (∀ c ∈ ws, py.isSpace c = true) → py.readField (ws ++ firstLine text) = none

theorem readField_blank {ws : List Char} (hWs : ∀ c ∈ ws, py.isSpace c = true) :
    py.readField ws = none := by
  have hNone := py.readField_noWord hWs stops_nil stops_nil
  rwa [List.append_nil] at hNone

section Gaps

variable {gap : List Char} (hGap : ∀ c ∈ gap, py.isSpace c = true) (text : List Char)

include hGap

/-- A gap and what comes before the next break are either on one line, or the line is blank. -/
theorem firstLine_gap : (Unbroken gap ∧ firstLine (gap ++ text) = gap ++ firstLine text) ∨
    (¬ Unbroken gap ∧ ∀ c ∈ firstLine (gap ++ text), py.isSpace c = true) := by
  by_cases hBreak : Unbroken gap
  · exact .inl ⟨hBreak, firstLine_append hBreak text⟩
  · exact .inr ⟨hBreak, fun c hMem => hGap c (firstLine_broken hBreak text hMem)⟩

variable {text}

theorem fieldsAfter_gap (h : py.Inert text) : py.fieldsAfter (gap ++ text) = py.fieldsAfter text := by
  induction gap with
  | nil => rfl
  | cons c gap ih =>
    obtain ⟨-, hTail⟩ := List.forall_mem_cons.mp hGap
    rw [List.cons_append]
    cases hBreak : lineBoundary c with
    | false => rw [py.fieldsAfter_cons hBreak, ih hTail]
    | true =>
      have hNone : py.readField (firstLine (gap ++ text)) = none := by
        rcases py.firstLine_gap hTail text with ⟨-, hLine⟩ | ⟨-, hBlank⟩
        · rw [hLine]
          exact h gap hTail
        · exact py.readField_blank hBlank
      rw [py.fieldsAfter_boundary hBreak, fieldsIn, hNone, ih hTail]
      rfl

variable (text) in
theorem fieldsIn_gap : ∃ ws : List Char, (∀ c ∈ ws, py.isSpace c = true) ∧
    py.fieldsIn (gap ++ text) = (py.readField (ws ++ firstLine text)).toList ++ py.fieldsAfter text := by
  induction gap with
  | nil => exact ⟨[], nofun, rfl⟩
  | cons c gap ih =>
    obtain ⟨-, hTail⟩ := List.forall_mem_cons.mp hGap
    rw [List.cons_append]
    cases hBreak : lineBoundary c with
    | true =>
      rw [py.fieldsIn_boundary hBreak]
      exact ih hTail
    | false =>
      rcases py.firstLine_gap hGap text with ⟨hWhole, hLine⟩ | ⟨hBroken, hBlank⟩
      · refine ⟨c :: gap, hGap, ?_⟩
        rw [fieldsIn, ← List.cons_append, hLine, py.fieldsAfter_append hWhole]
      · have hLater : ¬ Unbroken gap := by
          intro hGap
          exact hBroken (List.forall_mem_cons.mpr ⟨hBreak, hGap⟩)
        have hSame : py.fieldsIn (c :: (gap ++ text)) = py.fieldsIn (gap ++ text) := by
          rw [List.cons_append] at hBlank
          rw [fieldsIn, fieldsIn, py.fieldsAfter_cons hBreak, py.readField_blank hBlank,
            py.readField_blank fun d hMem => hTail d (firstLine_broken hLater text hMem)]
        rw [hSame]
        exact ih hTail

end Gaps

theorem inert_mark {c : Char} (h : c ∈ marks) (rest : List Char) :
    py.Inert (c :: rest) := by
  obtain ⟨hWord, hSpace, -⟩ := py.mark h
  exact fun ws hWs => py.readField_noWord hWs (stops_firstLine (stops_cons hSpace))
    (stops_firstLine (stops_cons hWord))

theorem inert_word {word : List Char} (hWord : ∀ c ∈ word, asciiWord c = true) (hSome : word ≠ [])
    (gap : Gap) {c : Char} (h : c ∈ marks) (hAt : c ≠ '@') (rest : List Char) :
    py.Inert (word ++ (gap.1 ++ c :: rest)) := by
  intro ws hWs
  obtain ⟨hNoWord, hNoSpace, -⟩ := py.mark h
  have hChars : ∀ d ∈ word, py.isWord d = true := fun d hMem => py.isWord_asciiWord (hWord d hMem)
  rw [firstLine_append fun d hMem => unbroken_word (hWord d hMem)]
  rcases py.firstLine_gap (isSpace_gap py gap) (c :: rest) with ⟨-, hLine⟩ | ⟨-, hBlank⟩
  · rw [hLine]
    refine py.readField_noAt hWs hChars hSome (isSpace_gap py gap)
      (stops_firstLine (stops_cons hNoSpace)) (stops_firstLine (stops_cons hNoWord))
      (stops_firstLine (stops_cons (beq_eq_false_iff_ne.mpr hAt)))
  · have hNone := py.readField_noAt hWs hChars hSome hBlank stops_nil stops_nil stops_nil
    rwa [List.append_nil] at hNone

section Steps

/-- A step of `FIELD_RE` over a gap and a mark. -/
theorem matchStart_mark {p : Char → Bool} (hp : ∀ c, py.isSpace c = true → p c = false) (gap : Gap)
    {c : Char} (hc : c ∈ marks) (items : List (Item Char)) (rest : List Char) :
    matchStart (.star py.isSpace :: .one p :: items) (firstLine (gap.1 ++ c :: rest)) =
      if Unbroken gap.1 ∧ p c = true then
        (matchStart items (firstLine rest)).map fun found => (gap.1 :: [c] :: found.1, found.2)
      else none := by
  obtain ⟨-, hSpace, hBreak⟩ := py.mark hc
  have hGap := isSpace_gap py gap
  rcases py.firstLine_gap hGap (c :: rest) with ⟨hWhole, hLine⟩ | ⟨hBroken, hBlank⟩
  · rw [hLine, firstLine_cons hBreak]
    cases hMark : p c with
    | true => rw [if_pos ⟨hWhole, rfl⟩, py.matchStart_gap hGap hp hMark]
    | false =>
      rw [if_neg fun h => Bool.false_ne_true h.2]
      exact py.matchStart_gap_none hGap hp (stops_cons hSpace) (stops_cons hMark) items
  · have hNone := py.matchStart_gap_none hBlank hp stops_nil stops_nil items
    rw [if_neg fun h => hBroken h.1, ← hNone, List.append_nil]

theorem stops_gap {p : Char → Bool} (hp : ∀ c, py.isSpace c = true → p c = false) (gap : Gap)
    {rest : List Char} (hRest : Stops p rest) : Stops p (gap.1 ++ rest) := by
  cases hChars : gap.1 with
  | nil => exact hRest
  | cons c chars =>
    exact stops_cons (hp c (isSpace_gap py gap c (by rw [hChars]; exact List.mem_cons_self)))

/-- A step over a gap and a word or number: `FIELD_RE` has no place for the gap. -/
theorem matchStart_run {p : Char → Bool} (hp : ∀ c, py.isSpace c = true → p c = false) (gap : Gap)
    {run rest : List Char} (hRun : ∀ c ∈ run, p c = true) (hSome : run ≠ []) (hWhole : Unbroken run)
    (hStop : Stops p rest) {items : List (Item Char)} (hAvoids : Avoids p items) :
    matchStart (.plus p :: items) (firstLine (gap.1 ++ (run ++ rest))) =
      if gap.1 = [] then (matchStart items (firstLine rest)).map fun found => (run :: found.1, found.2)
      else none := by
  cases hChars : gap.1 with
  | nil =>
    rw [if_pos rfl, List.nil_append, firstLine_append hWhole]
    exact matchStart_plus hRun (stops_firstLine hStop) hAvoids hSome
  | cons c chars =>
    have hSpace : py.isSpace c = true := isSpace_gap py gap c (by rw [hChars]; exact List.mem_cons_self)
    rw [if_neg (List.cons_ne_nil c chars), List.cons_append]
    exact matchStart_plus_none (stops_firstLine (stops_cons (hp c hSpace)))

end Steps

end PythonText

theorem asciiWord_hexDigit {c : Char} (h : PythonText.isHexDigit c = true) : asciiWord c = true := by
  rw [asciiWord, Bool.or_eq_true, isAlphanum_iff]
  have hVal : c.toNat = c.val.toNat := rfl
  simp only [PythonText.isHexDigit, Char.isDigit, Bool.or_eq_true, Bool.and_eq_true, decide_eq_true_eq,
    Char.le_def, UInt32.le_iff_toNat_le, ge_iff_le] at h
  have hLetters : 'a'.val.toNat = 97 ∧ 'f'.val.toNat = 102 ∧ 'A'.val.toNat = 65 ∧ 'F'.val.toNat = 70 :=
    ⟨rfl, rfl, rfl, rfl⟩
  have hDigits : '0'.val.toNat = 48 ∧ '9'.val.toNat = 57 := ⟨rfl, rfl⟩
  refine .inl ?_
  omega

namespace IntegerLiteral

theorem isDigit_of_octal {c : Char} (h : isOctalDigit c = true) : c.isDigit = true := by
  simp only [isOctalDigit, Char.isDigit, Bool.and_eq_true, decide_eq_true_eq, Char.le_def,
    UInt32.le_iff_toNat_le, ge_iff_le] at h ⊢
  have hDigits : '7'.val.toNat = 55 ∧ '9'.val.toNat = 57 := ⟨rfl, rfl⟩
  omega

theorem isHexDigit_of_digit {c : Char} (h : c.isDigit = true) : PythonText.isHexDigit c = true := by
  rw [PythonText.isHexDigit, h]
  rfl

/-- In a literal that is not hexadecimal there are only digits. -/
theorem isDigit_text {literal : IntegerLiteral} (h : literal.isHexadecimal = false) :
    ∀ c ∈ literal.text, c.isDigit = true := by
  cases literal with
  | decimal digits => exact digits.2.2.2
  | octal digits => exact List.forall_mem_cons.mpr ⟨by decide, fun c hMem => isDigit_of_octal (digits.2 c hMem)⟩
  | hexadecimal _ => cases h

variable (literal : IntegerLiteral)

theorem mem_text {c : Char} (hMem : c ∈ literal.text) : c = 'x' ∨ PythonText.isHexDigit c = true := by
  cases hKind : literal.isHexadecimal with
  | false => exact .inr (isHexDigit_of_digit (isDigit_text hKind c hMem))
  | true =>
    cases literal with
    | hexadecimal digits =>
      rcases List.mem_cons.mp hMem with rfl | hMem
      · exact .inr (by decide)
      · exact (List.mem_cons.mp hMem).imp_right (digits.2.2 c)
    | decimal _ | octal _ => cases hKind

theorem asciiWord_text : ∀ c ∈ literal.text, asciiWord c = true := by
  intro c hMem
  rcases literal.mem_text hMem with rfl | hDigit
  · decide
  · exact asciiWord_hexDigit hDigit

theorem text_ne_nil : literal.text ≠ [] := by
  cases literal with
  | decimal digits => exact digits.2.1
  | octal _ | hexadecimal _ => exact List.cons_ne_nil _ _

theorem foldl_digits_le {base other : Nat} (h : base ≤ other) (digits : List Char) {m n : Nat} (hStart : m ≤ n) :
    digits.foldl (fun value c => base * value + PythonText.hexDigit c) m ≤
      digits.foldl (fun value c => other * value + PythonText.hexDigit c) n := by
  induction digits generalizing m n with
  | nil => exact hStart
  | cons c digits ih => exact ih (Nat.add_le_add_right (Nat.mul_le_mul h hStart) _)

/-- Read in decimal, a number is not smaller. -/
theorem value_le_pythonValue (h : literal.isHexadecimal = false) : literal.value ≤ literal.pythonValue := by
  cases literal with
  | decimal digits => exact le_rfl
  | octal digits => exact foldl_digits_le (by decide) digits.1 (Nat.zero_le _)
  | hexadecimal _ => cases h

theorem toInt_text (py : PythonText) (h : literal.isHexadecimal = false) :
    py.toInt literal.text = literal.pythonValue := by
  rw [PythonText.toInt, pythonValue, digitsValue]
  apply List.foldl_ext
  intro value c hMem
  have hDigit := isDigit_text h c hMem
  rw [py.value_ascii c hDigit, PythonText.hexDigit, if_pos hDigit]

theorem isDigit_of_text (py : PythonText) (h : literal.isHexadecimal = false) :
    ∀ c ∈ literal.text, py.isDigit c = true := by
  intro c hMem
  rw [py.digit_ascii c (toNat_lt_of_asciiWord (literal.asciiWord_text c hMem))]
  exact isDigit_text h c hMem

end IntegerLiteral

namespace Declaration

variable (d : Declaration)

theorem asciiWord_ordinal : ∀ c ∈ d.ordinal.text, asciiWord c = true := d.ordinal.asciiWord_text

section Reading

variable (py : PythonText)

variable {c : Char} (hMark : c ∈ marks) (rest : List Char)

include hMark

theorem fieldsAfter_fromType : py.fieldsAfter (d.fromType (c :: rest)) = py.fieldsAfter (c :: rest) := by
  rw [fromType, py.fieldsAfter_append fun e hMem => unbroken_word (d.typeName.2.2 e hMem),
    py.fieldsAfter_gap (isSpace_gap py d.afterType) (py.inert_mark hMark rest)]

section Breaks

variable (hAt : c ≠ '@')

include hAt

theorem inert_fromType : py.Inert (d.fromType (c :: rest)) :=
  py.inert_word d.typeName.2.2 d.typeName.2.1 d.afterType hMark hAt rest

theorem inert_type : py.Inert (d.rootText ++ d.fromType (c :: rest)) := by
  rw [rootText]
  cases d.root with
  | none => exact d.inert_fromType py hMark rest hAt
  | some gap => exact py.inert_mark (by decide) _

theorem fieldsAfter_type :
    py.fieldsAfter (d.rootText ++ d.fromType (c :: rest)) = py.fieldsAfter (c :: rest) := by
  rw [rootText]
  cases d.root with
  | none => exact d.fieldsAfter_fromType py hMark rest
  | some gap =>
    have hDot := (py.mark (c := '.') (by decide)).2.2
    rw [Option.map_some, Option.getD_some, List.cons_append, py.fieldsAfter_cons hDot,
      py.fieldsAfter_gap (isSpace_gap py gap) (d.inert_fromType py hMark rest hAt),
      d.fieldsAfter_fromType py hMark rest]

/-- White space that breaks a declaration makes no field out of its parts. -/
theorem fieldsAfter_fromName :
    py.fieldsAfter (d.fromName (c :: rest)) = py.fieldsAfter (c :: rest) := by
  have hSign := (py.mark (c := '@') (by decide)).2.2
  have hColon := (py.mark (c := ':') (by decide)).2.2
  have hOrdinal : py.Inert (d.fromOrdinal (c :: rest)) :=
    py.inert_word d.asciiWord_ordinal d.ordinal.text_ne_nil d.beforeColon (by decide) (by decide) _
  have hFromAt : py.Inert (d.fromAt (c :: rest)) := py.inert_mark (by decide) _
  have hFromColon : py.Inert (d.fromColon (c :: rest)) := py.inert_mark (by decide) _
  rw [fromName, py.fieldsAfter_append fun e hMem => unbroken_word (d.name.2.2 e hMem),
    py.fieldsAfter_gap (isSpace_gap py d.beforeAt) hFromAt, fromAt,
    py.fieldsAfter_cons hSign, py.fieldsAfter_gap (isSpace_gap py d.afterAt) hOrdinal, fromOrdinal,
    py.fieldsAfter_append fun e hMem => unbroken_word (d.asciiWord_ordinal e hMem),
    py.fieldsAfter_gap (isSpace_gap py d.beforeColon) hFromColon, fromColon,
    py.fieldsAfter_cons hColon,
    py.fieldsAfter_gap (isSpace_gap py d.afterColon) (d.inert_type py hMark rest hAt),
    d.fieldsAfter_type py hMark rest hAt]

end Breaks

theorem matchStart_type :
    matchStart py.typePart (firstLine (d.afterColon.1 ++ (d.rootText ++ d.fromType (c :: rest)))) =
      if d.afterColon.1 = [] ∧ d.root.isNone = true ∧ Unbroken d.afterType.1 ∧
          (c == ';' || c == '#') = true then
        some ([d.typeName.1, d.afterType.1, [c]], firstLine rest)
      else none := by
  cases hRoot : d.root with
  | some gap =>
    have hDot : Stops py.isWord (d.rootText ++ d.fromType (c :: rest)) := by
      rw [rootText, hRoot]
      exact stops_cons (py.mark (by decide)).1
    rw [if_neg fun h => Bool.false_ne_true h.2.1]
    exact matchStart_plus_none (stops_firstLine (py.stops_gap (fun _ => py.space_not_word) _ hDot))
  | none =>
    have hType : Unbroken d.typeName.1 := fun e hMem => unbroken_word (d.typeName.2.2 e hMem)
    have hEnd : Stops py.isWord (c :: rest) := stops_cons (py.mark hMark).1
    have hStop := py.stops_gap (fun _ => py.space_not_word) d.afterType hEnd
    rw [rootText, hRoot, Option.map_none, Option.getD_none, List.nil_append, fromType, PythonText.typePart,
      py.matchStart_run (fun _ => py.space_not_word) d.afterColon (isWord_word py d.typeName)
        d.typeName.2.1 hType hStop py.avoids_typeEnd,
      PythonText.typeEnd, py.matchStart_mark (fun _ => py.space_not_end) d.afterType hMark]
    by_cases hGap : d.afterColon.1 = []
    · by_cases hTail : Unbroken d.afterType.1 ∧ (c == ';' || c == '#') = true
      · rw [if_pos hGap, if_pos hTail, if_pos ⟨hGap, rfl, hTail⟩]
        rfl
      · rw [if_pos hGap, if_neg hTail, if_neg fun h => hTail h.2.2]
        rfl
    · rw [if_neg hGap, if_neg fun h => hGap h.1]

theorem matchStart_colon :
    matchStart py.colonPart (firstLine (d.beforeColon.1 ++ d.fromColon (c :: rest))) =
      if Unbroken d.beforeColon.1 ∧ d.afterColon.1 = [] ∧ d.root.isNone = true ∧
          Unbroken d.afterType.1 ∧ (c == ';' || c == '#') = true then
        some ([d.beforeColon.1, [':'], d.typeName.1, d.afterType.1, [c]], firstLine rest)
      else none := by
  rw [fromColon, PythonText.colonPart,
    py.matchStart_mark (fun _ => py.space_not_mark (by decide)) d.beforeColon (by decide),
    d.matchStart_type py hMark rest]
  by_cases hGap : Unbroken d.beforeColon.1
  · rw [if_pos ⟨hGap, rfl⟩]
    by_cases hRest : d.afterColon.1 = [] ∧ d.root.isNone = true ∧ Unbroken d.afterType.1 ∧
        (c == ';' || c == '#') = true
    · rw [if_pos hRest, if_pos ⟨hGap, hRest⟩]
      rfl
    · rw [if_neg hRest, if_neg fun h => hRest h.2]
      rfl
  · rw [if_neg fun h => hGap h.1, if_neg fun h => hGap h.1]

theorem matchStart_ordinal :
    matchStart py.ordinalPart (firstLine (d.afterAt.1 ++ d.fromOrdinal (c :: rest))) =
      if d.afterAt.1 = [] ∧ d.ordinal.isHexadecimal = false ∧ Unbroken d.beforeColon.1 ∧ d.afterColon.1 = [] ∧
          d.root.isNone = true ∧ Unbroken d.afterType.1 ∧ (c == ';' || c == '#') = true then
        some ([d.ordinal.text, d.beforeColon.1, [':'], d.typeName.1, d.afterType.1, [c]], firstLine rest)
      else none := by
  have hDigit : ∀ e, py.isSpace e = true → py.isDigit e = false :=
    fun e he => py.not_digit (py.space_not_word he)
  cases hKind : d.ordinal.isHexadecimal with
  | false =>
    have hStop : Stops py.isDigit (d.beforeColon.1 ++ d.fromColon (c :: rest)) := by
      refine py.stops_gap hDigit d.beforeColon (stops_cons (py.not_digit ?_))
      exact (py.mark (by decide)).1
    rw [fromOrdinal, PythonText.ordinalPart,
      py.matchStart_run hDigit d.afterAt (d.ordinal.isDigit_of_text py hKind) d.ordinal.text_ne_nil
        (fun e hMem => unbroken_word (d.asciiWord_ordinal e hMem)) hStop py.avoids_colonPart]
    by_cases hAfterAt : d.afterAt.1 = []
    · rw [if_pos hAfterAt, d.matchStart_colon py hMark rest]
      by_cases hRest : Unbroken d.beforeColon.1 ∧ d.afterColon.1 = [] ∧ d.root.isNone = true ∧
          Unbroken d.afterType.1 ∧ (c == ';' || c == '#') = true
      · rw [if_pos hRest, if_pos ⟨hAfterAt, rfl, hRest⟩]
        rfl
      · rw [if_neg hRest, if_neg fun h => hRest h.2.2]
        rfl
    · rw [if_neg hAfterAt, if_neg fun h => hAfterAt h.1]
  | true =>
    obtain ⟨digits, hLiteral⟩ : ∃ digits, d.ordinal.text = '0' :: 'x' :: digits := by
      cases hForm : d.ordinal with
      | hexadecimal digits => exact ⟨digits.1, rfl⟩
      | decimal _ | octal _ =>
        rw [hForm] at hKind
        cases hKind
    have hWord : ∀ e : Char, (e.isAlphanum || e == '_') = true → py.isSpace e = false := by
      intro e he
      exact py.space_of_word e (py.isWord_asciiWord he)
    have hLetter : py.isDigit 'x' = false := by
      rw [py.digit_ascii 'x' (by decide)]
      rfl
    have hZero : ∀ e ∈ ['0'], py.isDigit e = true := by
      intro e hMem
      rw [List.mem_singleton.mp hMem, py.digit_ascii '0' (by decide)]
      rfl
    have hWhole : Unbroken ['0'] := List.forall_mem_singleton.mpr rfl
    -- the number ends in front of the letter, where there is no colon
    have hStop : Stops py.isDigit ('x' :: (digits ++ (d.beforeColon.1 ++ d.fromColon (c :: rest)))) :=
      stops_cons hLetter
    have hNone := py.matchStart_gap_none (List.forall_mem_nil _) (p := fun e => e == ':')
      (fun _ => py.space_not_mark (by decide))
      (stops_firstLine (stops_cons (hWord 'x' (by decide)) :
        Stops py.isSpace ('x' :: (digits ++ (d.beforeColon.1 ++ d.fromColon (c :: rest))))))
      (stops_firstLine (stops_cons (by decide))) py.typePart
    rw [List.nil_append] at hNone
    rw [if_neg fun h => Bool.false_ne_true h.2.1.symm, fromOrdinal, PythonText.ordinalPart, hLiteral,
      show '0' :: 'x' :: digits ++ (d.beforeColon.1 ++ d.fromColon (c :: rest)) =
        ['0'] ++ 'x' :: (digits ++ (d.beforeColon.1 ++ d.fromColon (c :: rest))) from rfl,
      py.matchStart_run hDigit d.afterAt hZero (List.cons_ne_nil _ _) hWhole hStop py.avoids_colonPart]
    split
    · rw [PythonText.colonPart, hNone]
      rfl
    · rfl

/-- What `FIELD_RE` makes of a declaration on one line, whatever its end. -/
theorem readField_fromName {ws : List Char} (hWs : ∀ c ∈ ws, py.isSpace c = true) :
    py.readField (ws ++ firstLine (d.fromName (c :: rest))) =
      if d.Tight ∧ d.ordinal.isHexadecimal = false ∧ d.root.isNone = true ∧ (c == ';' || c == '#') = true then
        some ⟨d.name.1, d.ordinal.pythonValue, d.typeName.1⟩
      else none := by
  have hFromAt : Stops py.isWord (d.fromAt (c :: rest)) := stops_cons (py.mark (by decide)).1
  have hName : Unbroken d.name.1 := fun e hMem => unbroken_word (d.name.2.2 e hMem)
  have hStart := py.matchStart_name hWs (isWord_word py d.name) d.name.2.1
    (stops_firstLine (py.stops_gap (fun _ => py.space_not_word) d.beforeAt hFromAt))
  rw [fromName, firstLine_append hName, PythonText.readField, hStart, PythonText.atPart, fromAt,
    py.matchStart_mark (fun _ => py.space_not_mark (by decide)) d.beforeAt (by decide)]
  by_cases hBeforeAt : Unbroken d.beforeAt.1
  swap
  · rw [if_neg fun h => hBeforeAt h.1, if_neg fun h => hBeforeAt h.1.beforeAt]
    rfl
  rw [if_pos ⟨hBeforeAt, rfl⟩, d.matchStart_ordinal py hMark rest]
  by_cases hRest : d.afterAt.1 = [] ∧ d.ordinal.isHexadecimal = false ∧ Unbroken d.beforeColon.1 ∧
      d.afterColon.1 = [] ∧ d.root.isNone = true ∧ Unbroken d.afterType.1 ∧ (c == ';' || c == '#') = true
  · obtain ⟨hAfterAt, hKind, hBeforeColon, hAfterColon, hRoot, hAfterType, hEnd⟩ := hRest
    rw [if_pos ⟨hAfterAt, hKind, hBeforeColon, hAfterColon, hRoot, hAfterType, hEnd⟩,
      if_pos ⟨⟨hAfterAt, hAfterColon, hBeforeAt, hBeforeColon, hAfterType⟩, hKind, hRoot, hEnd⟩]
    show some (Field.mk d.name.1 (py.toInt d.ordinal.text) d.typeName.1) = _
    rw [d.ordinal.toInt_text py hKind]
  · rw [if_neg hRest, if_neg fun h => hRest
      ⟨h.1.afterAt, h.2.1, h.1.beforeColon, h.1.afterColon, h.2.2.1, h.1.afterType, h.2.2.2⟩]
    rfl

end Reading

/-- What is read from a line is its field, or one with another ordinal. -/
theorem field_or_misread : (if d.Matched then [d.readAs] else []) =
    (if d.Plain then [d.field] else []) ++ d.misread := by
  rw [misread]
  by_cases hMatched : d.Matched
  · rw [if_pos hMatched]
    by_cases hSame : d.ordinal.pythonValue = d.ordinal.value
    · rw [if_pos ⟨hMatched, hSame⟩, if_neg fun h => h.2 hSame, List.append_nil, readAs, hSame]
      rfl
    · rw [if_neg fun h => hSame h.2, if_pos ⟨hMatched, hSame⟩, List.nil_append]
  · rw [if_neg hMatched, if_neg fun h => hMatched h.1, if_neg fun h => hMatched h.1]
    rfl

theorem fieldsIn_withEnding (py : PythonText) {c : Char} {rest : List Char} (hEnding : d.ending = c :: rest)
    (seen : List Char) : py.fieldsIn (d.withEnding (c :: seen)) =
      (if d.Plain then [d.field] else []) ++ (d.misread ++ py.fieldsAfter (c :: seen)) := by
  obtain ⟨e, others, hSame, hMark, hAt, hComment, hSemicolon⟩ := d.ending_cases
  rw [hEnding] at hSame
  cases hSame
  obtain ⟨ws, hWs, hFields⟩ := py.fieldsIn_gap (isSpace_gap py d.lead) (d.fromName (c :: seen))
  rw [withEnding, hFields, d.readField_fromName py hMark seen hWs,
    d.fieldsAfter_fromName py hMark seen hAt, ← List.append_assoc, ← d.field_or_misread]
  congr 1
  have hEnd : (c == ';' || c == '#') = true ↔ d.typeTail.isNone = true ∧ d.defaultValue.isNone = true := by
    rw [← hSemicolon, Bool.or_eq_true, beq_iff_eq, beq_iff_eq]
    exact or_iff_left hComment
  by_cases hMatched : d.Matched
  · obtain ⟨hTight, hKind, hRoot, hTail, hValue⟩ := hMatched
    have hField : d.readAs = ⟨d.name.1, d.ordinal.pythonValue, d.typeName.1⟩ := by
      rw [readAs, field, tailText, Option.isNone_iff_eq_none.mp hRoot, Option.isNone_iff_eq_none.mp hTail]
      simp
    rw [if_pos ⟨hTight, hKind, hRoot, hEnd.mpr ⟨hTail, hValue⟩⟩, if_pos ⟨hTight, hKind, hRoot, hTail, hValue⟩,
      hField]
    rfl
  · rw [if_neg hMatched, if_neg fun h => hMatched
      ⟨h.1, h.2.1, h.2.2.1, (hEnd.mp h.2.2.2).1, (hEnd.mp h.2.2.2).2⟩]
    rfl

end Declaration

end VsomeipDart
