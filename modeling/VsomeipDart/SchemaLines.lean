import Mathlib.Data.Bool.AllAny
import VsomeipDart.SchemaText

/-! # The lines of a schema file, as `parse_schema` reads them

`FIELD_RE` is matched step by step along a declaration. White space may break the line for Python; what
stands before such a break and what comes after it is then read as two lines.
-/

namespace VsomeipDart
set_option autoImplicit false

open Pattern

/-- The white space of Cap'n Proto, but for the line feed. -/
def capnpSpace (c : Char) : Bool := c ∈ [' ', '\t', '\r', '\x0b', '\x0c']

def asciiWord (c : Char) : Bool := c.isAlphanum || c == '_'

def marks : List Char := ['@', ':', ';', '#', '.', '(', '=']

/-- No line ends here for Python. -/
def Unbroken (text : List Char) : Prop := ∀ c ∈ text, lineBoundary c = false

instance : DecidablePred Unbroken := fun text =>
  inferInstanceAs (Decidable (∀ c ∈ text, lineBoundary c = false))

def firstLine (text : List Char) : List Char := text.takeWhile fun c => !lineBoundary c

section Lines

theorem firstLine_cons_boundary {c : Char} (h : lineBoundary c = true) (rest : List Char) :
    firstLine (c :: rest) = [] := by
  rw [firstLine, List.takeWhile_cons_of_neg]
  rw [h]
  decide

theorem firstLine_cons {c : Char} (h : lineBoundary c = false) (rest : List Char) :
    firstLine (c :: rest) = c :: firstLine rest := by
  rw [firstLine, List.takeWhile_cons_of_pos]
  · rfl
  · rw [h]
    rfl

theorem firstLine_append {front : List Char} (h : Unbroken front) (rest : List Char) :
    firstLine (front ++ rest) = front ++ firstLine rest := by
  refine List.takeWhile_append_of_pos fun c hMem => ?_
  rw [h c hMem]
  rfl

/-- Where a text is broken, its first line is a part of it. -/
theorem firstLine_broken {front : List Char} (h : ¬ Unbroken front) (rest : List Char) :
    firstLine (front ++ rest) ⊆ front := by
  induction front with
  | nil => exact absurd nofun h
  | cons c front ih =>
    cases hBreak : lineBoundary c with
    | true =>
      rw [List.cons_append, firstLine_cons_boundary hBreak]
      exact List.nil_subset _
    | false =>
      have hLater : ¬ Unbroken front := by
        intro hFront
        exact h (List.forall_mem_cons.mpr ⟨hBreak, hFront⟩)
      rw [List.cons_append, firstLine_cons hBreak]
      exact List.cons_subset_cons c (ih hLater)

theorem firstLine_lineFeed (text rest : List Char) :
    firstLine (text ++ '\n' :: rest) = firstLine text := by
  induction text with
  | nil => exact firstLine_cons_boundary (by decide) rest
  | cons c text ih =>
    cases hBreak : lineBoundary c with
    | true => rw [List.cons_append, firstLine_cons_boundary hBreak, firstLine_cons_boundary hBreak]
    | false => rw [List.cons_append, firstLine_cons hBreak, firstLine_cons hBreak, ih]

theorem stops_firstLine {p : Char → Bool} {text : List Char} (h : Stops p text) :
    Stops p (firstLine text) := by
  cases text with
  | nil => exact h
  | cons c rest =>
    cases hBreak : lineBoundary c with
    | true =>
      rw [firstLine_cons_boundary hBreak]
      exact stops_nil
    | false =>
      rw [firstLine_cons hBreak]
      exact stops_cons (h c rfl)

end Lines

theorem toNat_of_capnpSpace {c : Char} (h : capnpSpace c = true) :
    (9 ≤ c.toNat ∧ c.toNat ≤ 13) ∨ c.toNat = 32 := by
  have hAll : ∀ d ∈ [' ', '\t', '\r', '\x0b', '\x0c'], (9 ≤ d.toNat ∧ d.toNat ≤ 13) ∨ d.toNat = 32 :=
    List.all_iff_forall_prop.mp (by decide)
  exact hAll c (of_decide_eq_true h)

theorem unbroken_word {c : Char} (h : asciiWord c = true) : lineBoundary c = false := by
  have hAll : ∀ d ∈ ['\n', '\r', '\x0b', '\x0c', '\x1c', '\x1d', '\x1e', '\x85', '\u2028', '\u2029'],
      asciiWord d = false := List.all_iff_forall_prop.mp (by decide)
  by_contra hBreak
  rw [Bool.not_eq_false] at hBreak
  rw [hAll c (of_decide_eq_true hBreak)] at h
  cases h

theorem toNat_lt_of_asciiWord {c : Char} (h : asciiWord c = true) : c.toNat < 128 := by
  rcases Bool.or_eq_true _ _ ▸ h with hAlphanum | hUnderscore
  · have hCodes := (isAlphanum_iff c).mp hAlphanum
    omega
  · rw [eq_of_beq hUnderscore]
    decide

namespace PythonText

variable (py : PythonText)

def fieldsAfter : List Char → List Field
  | [] => []
  | c :: rest =>
    if lineBoundary c then (py.readField (firstLine rest)).toList ++ fieldsAfter rest
    else fieldsAfter rest

def fieldsIn (text : List Char) : List Field :=
  (py.readField (firstLine text)).toList ++ py.fieldsAfter text

@[simp] theorem readField_nil : py.readField [] = none := rfl

theorem fieldsAfter_boundary {c : Char} (h : lineBoundary c = true) (rest : List Char) :
    py.fieldsAfter (c :: rest) = py.fieldsIn rest := by
  rw [fieldsAfter, if_pos h]
  rfl

theorem fieldsAfter_cons {c : Char} (h : lineBoundary c = false) (rest : List Char) :
    py.fieldsAfter (c :: rest) = py.fieldsAfter rest := by
  rw [fieldsAfter, h]
  exact if_neg Bool.false_ne_true

theorem fieldsAfter_append {front : List Char} (h : Unbroken front) (rest : List Char) :
    py.fieldsAfter (front ++ rest) = py.fieldsAfter rest := by
  induction front with
  | nil => rfl
  | cons c front ih =>
    obtain ⟨hHead, hTail⟩ := List.forall_mem_cons.mp h
    rw [List.cons_append, py.fieldsAfter_cons hHead, ih hTail]

theorem fieldsIn_boundary {c : Char} (h : lineBoundary c = true) (rest : List Char) :
    py.fieldsIn (c :: rest) = py.fieldsIn rest := by
  rw [fieldsIn, firstLine_cons_boundary h, py.fieldsAfter_boundary h]
  rfl

/-- `splitlines` yields the first line, and then lines that hold the fields after it. -/
def Split (text : List Char) : Prop :=
  (text = [] ∧ splitlines text = []) ∨ ∃ lines, splitlines text = firstLine text :: lines ∧
    lines.filterMap py.readField = py.fieldsAfter text

theorem Split.fields {py : PythonText} {text : List Char} (h : py.Split text) :
    (splitlines text).filterMap py.readField = py.fieldsIn text := by
  rcases h with ⟨rfl, -⟩ | ⟨lines, hLines, hFields⟩
  · rfl
  · rw [hLines, fieldsIn, ← hFields, List.filterMap_cons]
    cases py.readField (firstLine text) with
    | none => rfl
    | some field => rfl

theorem split_text (text : List Char) : py.Split text := by
  induction text using splitlines.induct with
  | case1 => exact .inl ⟨rfl, rfl⟩
  | case2 rest ih =>
    refine .inr ⟨splitlines rest, ?_, ?_⟩
    · rw [splitlines, firstLine_cons_boundary (by decide)]
    · rw [ih.fields, py.fieldsAfter_boundary (by decide), py.fieldsIn_boundary (by decide)]
  | case3 c rest hPair hBreak ih =>
    refine .inr ⟨splitlines rest, ?_, ?_⟩
    · rw [splitlines.eq_3 c rest hPair, if_pos hBreak, firstLine_cons_boundary hBreak]
    · rw [ih.fields, py.fieldsAfter_boundary hBreak]
  | case4 c rest hPair hBreak hNone ih =>
    rcases ih with ⟨rfl, -⟩ | ⟨lines, hLines, -⟩
    · rw [Bool.not_eq_true] at hBreak
      refine .inr ⟨[], ?_, ?_⟩
      · rw [splitlines.eq_3 c [] hPair, hBreak, if_neg Bool.false_ne_true, firstLine_cons hBreak]
        rfl
      · rw [py.fieldsAfter_cons hBreak]
        rfl
    · rw [hNone] at hLines
      cases hLines
  | case5 c rest hPair hBreak line lines hLine ih =>
    rw [Bool.not_eq_true] at hBreak
    rcases ih with ⟨-, hNone⟩ | ⟨others, hLines, hFields⟩
    · rw [hLine] at hNone
      cases hNone
    · refine .inr ⟨others, ?_, ?_⟩
      · rw [splitlines.eq_3 c rest hPair, hBreak, if_neg Bool.false_ne_true, hLines,
          firstLine_cons hBreak]
      · rw [hFields, py.fieldsAfter_cons hBreak]

/-- The lines that Python splits a text into hold the fields of its lines. -/
theorem filterMap_splitlines (text : List Char) :
    (splitlines text).filterMap py.readField = py.fieldsIn text := (py.split_text text).fields

theorem fieldsAfter_lineFeed (text rest : List Char) :
    py.fieldsAfter (text ++ '\n' :: rest) = py.fieldsAfter text ++ py.fieldsIn rest := by
  induction text with
  | nil => exact py.fieldsAfter_boundary (by decide) rest
  | cons c text ih =>
    cases hBreak : lineBoundary c with
    | true =>
      rw [List.cons_append, py.fieldsAfter_boundary hBreak, py.fieldsAfter_boundary hBreak, fieldsIn,
        firstLine_lineFeed, ih, ← List.append_assoc]
      rfl
    | false => rw [List.cons_append, py.fieldsAfter_cons hBreak, py.fieldsAfter_cons hBreak, ih]

theorem fieldsIn_lineFeed (text rest : List Char) :
    py.fieldsIn (text ++ '\n' :: rest) = py.fieldsIn text ++ py.fieldsIn rest := by
  rw [fieldsIn, firstLine_lineFeed, fieldsAfter_lineFeed, ← List.append_assoc]
  rfl

section Characters

theorem isSpace_capnpSpace {c : Char} (h : capnpSpace c = true) : py.isSpace c = true := by
  have hCode := toNat_of_capnpSpace h
  rw [py.space_ascii c (by omega)]
  simp only [Bool.or_eq_true, decide_eq_true_eq]
  omega

theorem isWord_asciiWord {c : Char} (h : asciiWord c = true) : py.isWord c = true := by
  rw [py.word_ascii c (toNat_lt_of_asciiWord h)]
  exact h

theorem mark {c : Char} (h : c ∈ marks) :
    py.isWord c = false ∧ py.isSpace c = false ∧ lineBoundary c = false := by
  have hAll : ∀ d ∈ marks, d.toNat < 128 ∧
      (d.isAlphanum || d == '_') = false ∧
      (decide (9 ≤ d.toNat ∧ d.toNat ≤ 13) || decide (28 ≤ d.toNat ∧ d.toNat ≤ 32)) = false ∧
      lineBoundary d = false := List.all_iff_forall_prop.mp (by decide)
  obtain ⟨hCode, hWord, hSpace, hBreak⟩ := hAll c h
  rw [py.word_ascii c hCode, py.space_ascii c hCode]
  exact ⟨hWord, hSpace, hBreak⟩

theorem space_not_word {c : Char} (h : py.isSpace c = true) : py.isWord c = false := by
  by_contra hWord
  rw [Bool.not_eq_false] at hWord
  rw [py.space_of_word c hWord] at h
  cases h

theorem not_digit {c : Char} (h : py.isWord c = false) : py.isDigit c = false := by
  by_contra hDigit
  rw [Bool.not_eq_false] at hDigit
  rw [py.word_of_digit c hDigit] at h
  cases h

theorem ne_of_class {p : Char → Bool} {mark c : Char} (hMark : p mark = false) (hc : p c = true) :
    (c == mark) = false := by
  rw [beq_eq_false_iff_ne]
  rintro rfl
  rw [hMark] at hc
  cases hc

end Characters

section Steps

variable {ws : List Char} (hWs : ∀ c ∈ ws, py.isSpace c = true)

/-- What `FIELD_RE` has left after the type. -/
def typeEnd : List (Item Char) := [.star py.isSpace, .one fun c => c == ';' || c == '#']

def typePart : List (Item Char) := .plus py.isWord :: py.typeEnd

def colonPart : List (Item Char) := .star py.isSpace :: .one (fun c => c == ':') :: py.typePart

def ordinalPart : List (Item Char) := .plus py.isDigit :: py.colonPart

/-- What `FIELD_RE` has left after the name. -/
def atPart : List (Item Char) := .star py.isSpace :: .one (fun c => c == '@') :: py.ordinalPart

theorem space_not_mark {mark : Char} (hMark : mark ∈ marks) {c : Char}
    (hc : py.isSpace c = true) : (c == mark) = false :=
  ne_of_class (py.mark hMark).2.1 hc

theorem word_not_mark {mark : Char} (hMark : mark ∈ marks) {c : Char}
    (hc : py.isWord c = true) : (c == mark) = false :=
  ne_of_class (py.mark hMark).1 hc

theorem space_not_end {c : Char} (hc : py.isSpace c = true) : (c == ';' || c == '#') = false := by
  rw [py.space_not_mark (by decide) hc, py.space_not_mark (by decide) hc]
  rfl

theorem word_not_end {c : Char} (hc : py.isWord c = true) : (c == ';' || c == '#') = false := by
  rw [py.word_not_mark (by decide) hc, py.word_not_mark (by decide) hc]
  rfl

theorem avoids_typeEnd : Avoids py.isWord py.typeEnd :=
  avoids_star py.space_of_word (avoids_one fun _ => py.word_not_end)

theorem avoids_atPart : Avoids py.isWord py.atPart :=
  avoids_star py.space_of_word (avoids_one fun _ => py.word_not_mark (by decide))

theorem avoids_colonPart : Avoids py.isDigit py.colonPart := by
  refine avoids_star (fun c hc => py.space_of_word c (py.word_of_digit c hc)) (avoids_one fun c hc => ?_)
  exact py.word_not_mark (by decide) (py.word_of_digit c hc)

include hWs

/-- White space and then a mark of this kind. -/
theorem matchStart_gap {p : Char → Bool} (hp : ∀ c, py.isSpace c = true → p c = false) {c : Char}
    (hc : p c = true) (items : List (Item Char)) (rest : List Char) :
    matchStart (.star py.isSpace :: .one p :: items) (ws ++ c :: rest) =
      (matchStart items rest).map fun found => (ws :: [c] :: found.1, found.2) := by
  have hSpace : py.isSpace c = false := by
    by_contra hSpace
    rw [Bool.not_eq_false] at hSpace
    rw [hp c hSpace] at hc
    cases hc
  rw [matchStart_star hWs (stops_cons hSpace) (avoids_one hp), matchStart_one rest hc, Option.map_map]
  rfl

theorem matchStart_gap_none {p : Char → Bool} (hp : ∀ c, py.isSpace c = true → p c = false)
    {rest : List Char} (hSpace : Stops py.isSpace rest) (hRest : Stops p rest) (items : List (Item Char)) :
    matchStart (.star py.isSpace :: .one p :: items) (ws ++ rest) = none := by
  rw [matchStart_star hWs hSpace (avoids_one hp), matchStart_one_none hRest]
  rfl

theorem matchStart_name {name rest : List Char} (hName : ∀ c ∈ name, py.isWord c = true)
    (hSome : name ≠ []) (hStop : Stops py.isWord rest) :
    matchStart py.FIELD_RE (ws ++ (name ++ rest)) =
      (matchStart py.atPart rest).map fun found => (ws :: name :: found.1, found.2) := by
  have hSpace : Stops py.isSpace (name ++ rest) := by
    cases name with
    | nil => exact absurd rfl hSome
    | cons c name => exact stops_cons (py.space_of_word c (hName c List.mem_cons_self))
  have hPattern : py.FIELD_RE = .star py.isSpace :: .plus py.isWord :: py.atPart := rfl
  rw [hPattern, matchStart_star hWs hSpace (avoids_plus fun c => py.space_not_word),
    matchStart_plus hName hStop py.avoids_atPart hSome, Option.map_map]
  rfl

theorem readField_noWord {rest : List Char} (hSpace : Stops py.isSpace rest)
    (hWord : Stops py.isWord rest) : py.readField (ws ++ rest) = none := by
  have hPattern : py.FIELD_RE = .star py.isSpace :: .plus py.isWord :: py.atPart := rfl
  rw [readField, hPattern, matchStart_star hWs hSpace (avoids_plus fun c => py.space_not_word),
    matchStart_plus_none hWord]
  rfl

/-- No field on a line whose first word comes before something else than an `@`. -/
theorem readField_noAt {name gap rest : List Char} (hName : ∀ c ∈ name, py.isWord c = true)
    (hSome : name ≠ []) (hGap : ∀ c ∈ gap, py.isSpace c = true) (hSpace : Stops py.isSpace rest)
    (hWord : Stops py.isWord rest) (hAt : Stops (fun c => c == '@') rest) :
    py.readField (ws ++ (name ++ (gap ++ rest))) = none := by
  have hStop : Stops py.isWord (gap ++ rest) := by
    cases gap with
    | nil => exact hWord
    | cons c gap => exact stops_cons (py.space_not_word (hGap c List.mem_cons_self))
  rw [readField, py.matchStart_name hWs hName hSome hStop, atPart,
    py.matchStart_gap_none hGap (fun c => py.space_not_mark (by decide)) hSpace hAt]
  rfl

end Steps

end PythonText

end VsomeipDart
