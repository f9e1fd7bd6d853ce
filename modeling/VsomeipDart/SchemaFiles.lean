import VsomeipDart.Declarations

/-! # Schema files of one struct (`parse_schema`)

A file is an id and a struct, and the lines of the struct are declarations, comments and blank lines.
`parse_schema` counts braces over all of the text, so that comments and default values can end the body.
-/

namespace VsomeipDart
set_option autoImplicit false

open Pattern

inductive BodyLine where
  | declaration (d : Declaration)
  | comment (lead : Gap) (text : LineText)
  | blank (gap : Gap)

namespace BodyLine

def head : BodyLine → List Char
  | declaration d => d.withEnding []
  | comment lead _ => lead.1
  | blank gap => gap.1

/-- From where the author writes what he likes. -/
def ending : BodyLine → List Char
  | declaration d => d.ending
  | comment _ text => '#' :: text.1
  | blank _ => []

def text (line : BodyLine) : List Char := line.head ++ line.ending

def fields : BodyLine → List Field
  | declaration d => [d.field]
  | comment .. | blank _ => []

def Plain : BodyLine → Prop
  | declaration d => d.Plain
  | comment .. | blank _ => True

def misread : BodyLine → List Field
  | declaration d => d.misread
  | comment .. | blank _ => []

instance : DecidablePred Plain
  | declaration d => inferInstanceAs (Decidable d.Plain)
  | comment .. | blank _ => isTrue trivial

end BodyLine

def lineText (lines : List BodyLine) : List Char := lines.flatMap fun line => line.text ++ ['\n']

def declared (lines : List BodyLine) : List Field := lines.flatMap BodyLine.fields

section Braces

/-- The part of a text in front of the brace that closes this depth, and the depth after it: zero when it is
closed. -/
def cut : Nat → List Char → List Char × Nat
  | 0, _ => ([], 0)
  | depth + 1, [] => ([], depth + 1)
  | depth + 1, c :: rest =>
    if c = '\x7b' then
      let (seen, left) := cut (depth + 2) rest
      (c :: seen, left)
    else if c = '\x7d' ∧ depth = 0 then ([], 0)
    else if c = '\x7d' then
      let (seen, left) := cut depth rest
      (c :: seen, left)
    else
      let (seen, left) := cut (depth + 1) rest
      (c :: seen, left)

def Braceless (text : List Char) : Prop := ∀ c ∈ text, c ≠ '\x7b' ∧ c ≠ '\x7d'

theorem cut_cons {c : Char} (hOpen : c ≠ '\x7b') (hClose : c ≠ '\x7d') {depth : Nat} (h : depth ≠ 0)
    (rest : List Char) : cut depth (c :: rest) = (c :: (cut depth rest).1, (cut depth rest).2) := by
  cases depth with
  | zero => exact absurd rfl h
  | succ depth => rw [cut, if_neg hOpen, if_neg fun h => hClose h.1, if_neg hClose]

theorem cut_open (depth : Nat) (rest : List Char) :
    cut (depth + 1) ('\x7b' :: rest) = ('\x7b' :: (cut (depth + 2) rest).1, (cut (depth + 2) rest).2) := by
  rw [cut, if_pos rfl]

theorem cut_close {depth : Nat} (h : depth ≠ 0) (rest : List Char) :
    cut (depth + 1) ('\x7d' :: rest) = ('\x7d' :: (cut depth rest).1, (cut depth rest).2) := by
  rw [cut, if_neg (by decide), if_neg fun hLast => h hLast.2, if_pos rfl]

@[simp] theorem cut_nil (depth : Nat) : cut depth [] = ([], depth) := by
  cases depth with
  | zero => rfl
  | succ depth => rfl

@[simp] theorem cut_zero (text : List Char) : cut 0 text = ([], 0) := by
  cases text with
  | nil => rfl
  | cons c rest => rfl

theorem cut_append (depth : Nat) (front rest : List Char) :
    cut depth (front ++ rest) =
      ((cut depth front).1 ++ (cut (cut depth front).2 rest).1, (cut (cut depth front).2 rest).2) := by
  induction front generalizing depth with
  | nil => rw [cut_nil, List.nil_append, List.nil_append]
  | cons c front ih =>
    cases depth with
    | zero => simp only [cut_zero, List.nil_append]
    | succ depth =>
      rw [List.cons_append, cut, cut]
      split_ifs with hOpen hClosed hClose
      · dsimp only
        rw [ih]
        rfl
      · simp only [cut_zero, List.nil_append]
      · dsimp only
        rw [ih]
        rfl
      · dsimp only
        rw [ih]
        rfl

theorem cut_braceless {text : List Char} (h : Braceless text) {depth : Nat} (hDepth : depth ≠ 0) :
    cut depth text = (text, depth) := by
  induction text with
  | nil => exact cut_nil depth
  | cons c rest ih =>
    obtain ⟨⟨hOpen, hClose⟩, hRest⟩ := List.forall_mem_cons.mp h
    rw [cut_cons hOpen hClose hDepth, ih hRest]

/-- `enclosed` goes over a text as `cut` does. -/
theorem enclosed_append {depth : Nat} (hDepth : depth ≠ 0) (front rest : List Char) :
    PythonText.enclosed depth (front ++ rest) =
      if (cut depth front).2 = 0 then some (cut depth front).1
      else (PythonText.enclosed (cut depth front).2 rest).map ((cut depth front).1 ++ ·) := by
  induction front generalizing depth with
  | nil =>
    rw [cut_nil, if_neg hDepth, List.nil_append]
    simp
  | cons c front ih =>
    cases depth with
    | zero => exact absurd rfl hDepth
    | succ depth =>
      have hStep : ∀ next, next ≠ 0 → (PythonText.enclosed next (front ++ rest)).map (c :: ·) =
          if (cut next front).2 = 0 then some (c :: (cut next front).1)
          else (PythonText.enclosed (cut next front).2 rest).map (c :: (cut next front).1 ++ ·) := by
        intro next hNext
        rw [ih hNext]
        split
        · rfl
        · rw [Option.map_map]
          rfl
      rw [List.cons_append, PythonText.enclosed]
      by_cases hOpen : c = '\x7b'
      · subst hOpen
        rw [if_pos rfl, cut_open]
        exact hStep (depth + 2) (Nat.succ_ne_zero _)
      · rw [if_neg hOpen]
        by_cases hClose : c = '\x7d'
        · subst hClose
          rw [if_pos rfl]
          by_cases hLast : depth = 0
          · subst hLast
            rfl
          · rw [if_neg (by omega), cut_close hLast]
            exact hStep depth hLast
        · rw [if_neg hClose, cut_cons hOpen hClose hDepth]
          exact hStep (depth + 1) hDepth

theorem enclosed_braceless {text : List Char} (h : Braceless text) (depth : Nat) :
    PythonText.enclosed depth text = none := by
  induction text with
  | nil => rfl
  | cons c rest ih =>
    obtain ⟨⟨hOpen, hClose⟩, hRest⟩ := List.forall_mem_cons.mp h
    rw [PythonText.enclosed, if_neg hOpen, if_neg hClose, ih hRest]
    rfl

end Braces

namespace BodyLine

def next (depth : Nat) (line : BodyLine) : Nat := (cut depth line.ending).2

end BodyLine

def depthAfter (lines : List BodyLine) : Nat := lines.foldl BodyLine.next 1

/-- The declared fields that the parser has no eyes for: the line is not plain, or the body has ended. -/
def skipped : Nat → List BodyLine → List Field
  | _, [] => []
  | depth, line :: lines =>
    (if depth ≠ 0 ∧ line.Plain then [] else line.fields) ++ skipped (line.next depth) lines

/-- The declared fields that the parser finds where they are declared. -/
def kept : Nat → List BodyLine → List Field
  | _, [] => []
  | depth, line :: lines =>
    (if depth ≠ 0 ∧ line.Plain then line.fields else []) ++ kept (line.next depth) lines

namespace PythonText

variable (py : PythonText)

/-- The fields that are read but not declared: they have other ordinals there, or stand in comments and values,
on what Python takes for new lines. -/
def strays : Nat → List BodyLine → List Field
  | _, [] => []
  | depth, line :: lines =>
    (if depth = 0 then [] else line.misread) ++
      (py.fieldsAfter (cut depth line.ending).1 ++ strays (line.next depth) lines)

end PythonText

theorem braceless_gap (gap : Gap) : Braceless gap.1 := by
  have hAll : ∀ d ∈ [' ', '\t', '\r', '\x0b', '\x0c'], d ≠ '\x7b' ∧ d ≠ '\x7d' :=
    List.all_iff_forall_prop.mp (by decide)
  exact fun c hMem => hAll c (of_decide_eq_true (gap.2 c hMem))

theorem braceless_word {text : List Char} (h : ∀ c ∈ text, asciiWord c = true) : Braceless text := by
  intro c hMem
  have hWord := h c hMem
  constructor
  · rintro rfl
    revert hWord
    decide
  · rintro rfl
    revert hWord
    decide

theorem braceless_append {front rest : List Char} (hFront : Braceless front) (hRest : Braceless rest) :
    Braceless (front ++ rest) := List.forall_mem_append.mpr ⟨hFront, hRest⟩

theorem braceless_cons {c : Char} (hOpen : c ≠ '\x7b') (hClose : c ≠ '\x7d') {rest : List Char}
    (hRest : Braceless rest) : Braceless (c :: rest) := List.forall_mem_cons.mpr ⟨⟨hOpen, hClose⟩, hRest⟩

theorem braceless_nil : Braceless [] := List.forall_mem_nil _

theorem Declaration.braceless_head (d : Declaration) : Braceless (d.withEnding []) := by
  have hRoot : Braceless d.rootText := by
    rw [rootText]
    cases d.root with
    | none => exact braceless_nil
    | some gap => exact braceless_cons (by decide) (by decide) (braceless_gap gap)
  have hType : Braceless (d.fromType []) :=
    braceless_append (braceless_word d.typeName.2.2)
      (braceless_append (braceless_gap d.afterType) braceless_nil)
  have hColon : Braceless (d.fromColon []) := braceless_cons (by decide) (by decide)
    (braceless_append (braceless_gap d.afterColon) (braceless_append hRoot hType))
  have hOrdinal : Braceless (d.fromOrdinal []) := braceless_append (braceless_word d.asciiWord_ordinal)
    (braceless_append (braceless_gap d.beforeColon) hColon)
  have hAt : Braceless (d.fromAt []) := braceless_cons (by decide) (by decide)
    (braceless_append (braceless_gap d.afterAt) hOrdinal)
  exact braceless_append (braceless_gap d.lead)
    (braceless_append (braceless_word d.name.2.2) (braceless_append (braceless_gap d.beforeAt) hAt))

theorem Declaration.withEnding_eq (d : Declaration) (ending : List Char) :
    d.withEnding ending = d.withEnding [] ++ ending := by
  simp only [withEnding, fromName, fromAt, fromOrdinal, fromColon, fromType, List.append_assoc,
    List.cons_append, List.append_nil]

theorem BodyLine.braceless_head (line : BodyLine) : Braceless line.head := by
  cases line with
  | declaration d => exact d.braceless_head
  | comment lead text => exact braceless_gap lead
  | blank gap => exact braceless_gap gap

section Lines

variable (py : PythonText)

theorem fieldsIn_blank (gap : Gap) : py.fieldsIn gap.1 = [] := by
  obtain ⟨ws, hWs, hFields⟩ := py.fieldsIn_gap (isSpace_gap py gap) []
  have hBlank : py.readField (ws ++ firstLine []) = none :=
    py.readField_blank fun c hMem => hWs c ((List.mem_append.mp hMem).resolve_right nofun)
  rw [List.append_nil, hBlank] at hFields
  exact hFields

theorem fieldsIn_line {depth : Nat} (hDepth : depth ≠ 0) (line : BodyLine) :
    py.fieldsIn (line.head ++ (cut depth line.ending).1) =
      (if line.Plain then line.fields else []) ++
        (line.misread ++ py.fieldsAfter (cut depth line.ending).1) := by
  cases line with
  | declaration d =>
    obtain ⟨c, rest, hEnding, hMark, -⟩ := d.ending_cases
    have hBraces : ∀ e ∈ marks, e ≠ '\x7b' ∧ e ≠ '\x7d' :=
      List.all_iff_forall_prop.mp (by decide)
    have hCut : (cut depth d.ending).1 = c :: (cut depth rest).1 := by
      rw [hEnding, cut_cons (hBraces c hMark).1 (hBraces c hMark).2 hDepth]
    have hFields := d.fieldsIn_withEnding py hEnding (cut depth rest).1
    rw [d.withEnding_eq] at hFields
    rw [BodyLine.head, BodyLine.ending, hCut]
    exact hFields
  | comment lead text =>
    have hCut : (cut depth ('#' :: text.1)).1 = '#' :: (cut depth text.1).1 := by
      rw [cut_cons (by decide) (by decide) hDepth]
    obtain ⟨ws, hWs, hFields⟩ := py.fieldsIn_gap (isSpace_gap py lead) ('#' :: (cut depth text.1).1)
    rw [BodyLine.head, BodyLine.ending, hCut, hFields, py.inert_mark (by decide) _ ws hWs,
      if_pos (show (BodyLine.comment lead text).Plain from trivial)]
    rfl
  | blank gap =>
    have hFields := fieldsIn_blank py gap
    rw [BodyLine.head, BodyLine.ending, cut_nil, List.append_nil, hFields,
      if_pos (show (BodyLine.blank gap).Plain from trivial)]
    rfl

theorem next_zero (line : BodyLine) : line.next 0 = 0 := by rw [BodyLine.next, cut_zero]

theorem foldl_next_zero (lines : List BodyLine) : lines.foldl BodyLine.next 0 = 0 := by
  induction lines with
  | nil => rfl
  | cons line lines ih => rw [List.foldl_cons, next_zero, ih]

theorem kept_zero (lines : List BodyLine) : kept 0 lines = [] := by
  induction lines with
  | nil => rfl
  | cons line lines ih => rw [kept, if_neg fun h => h.1 rfl, next_zero, ih, List.append_nil]

theorem strays_zero (lines : List BodyLine) : py.strays 0 lines = [] := by
  induction lines with
  | nil => rfl
  | cons line lines ih =>
    rw [PythonText.strays, cut_zero, next_zero, ih, if_pos rfl]
    rfl

theorem perm_interchange {α : Type} (a b c d : List α) :
    (a ++ b ++ (c ++ d)).Perm (a ++ c ++ (b ++ d)) := by
  rw [List.append_assoc, List.append_assoc]
  refine List.Perm.append_left a ?_
  rw [← List.append_assoc, ← List.append_assoc]
  exact List.Perm.append_right d List.perm_append_comm

theorem declared_perm (depth : Nat) (lines : List BodyLine) :
    (declared lines).Perm (kept depth lines ++ skipped depth lines) := by
  induction lines generalizing depth with
  | nil => exact List.Perm.refl []
  | cons line lines ih =>
    have hLine : line.fields.Perm ((if depth ≠ 0 ∧ line.Plain then line.fields else []) ++
        (if depth ≠ 0 ∧ line.Plain then [] else line.fields)) := by
      split
      · rw [List.append_nil]
      · rw [List.nil_append]
    exact (hLine.append (ih (line.next depth))).trans (perm_interchange _ _ _ _)

theorem cut_line {depth : Nat} (hDepth : depth ≠ 0) (line : BodyLine) (more : List Char) :
    cut depth (line.text ++ ['\n'] ++ more) =
      (line.head ++ ((cut depth line.ending).1 ++ (cut (line.next depth) ('\n' :: more)).1),
        (cut (line.next depth) ('\n' :: more)).2) := by
  rw [BodyLine.text, List.append_assoc, List.append_assoc, cut_append,
    cut_braceless line.braceless_head hDepth,
    cut_append]
  rfl

/-- The body that the parser cuts out holds the fields it keeps, and the strays. -/
theorem fieldsIn_body {depth : Nat} (hDepth : depth ≠ 0) (lines : List BodyLine) (indent : Gap) :
    (py.fieldsIn (cut depth (lineText lines ++ indent.1)).1).Perm
        (kept depth lines ++ py.strays depth lines) ∧
      (cut depth (lineText lines ++ indent.1)).2 = lines.foldl BodyLine.next depth := by
  induction lines generalizing depth with
  | nil =>
    have hCut : cut depth (lineText [] ++ indent.1) = (indent.1, depth) :=
      cut_braceless (braceless_gap indent) hDepth
    rw [hCut, fieldsIn_blank]
    exact ⟨List.Perm.refl _, rfl⟩
  | cons line lines ih =>
    have hLine := fieldsIn_line py hDepth line
    have hKept : (if depth ≠ 0 ∧ line.Plain then line.fields else []) =
        if line.Plain then line.fields else [] := by
      simp only [ne_eq, hDepth, not_false_eq_true, true_and]
    rw [lineText, List.flatMap_cons, List.append_assoc, cut_line hDepth, List.foldl_cons, kept, hKept,
      PythonText.strays, if_neg hDepth, ← List.append_assoc line.misread]
    by_cases hNext : line.next depth = 0
    · rw [hNext, cut_zero, kept_zero, strays_zero, List.append_nil, List.append_nil, List.append_nil, hLine,
        foldl_next_zero]
      exact ⟨List.Perm.refl _, rfl⟩
    · obtain ⟨hRest, hDepths⟩ := ih hNext
      rw [cut_cons (by decide) (by decide) hNext, ← List.append_assoc, py.fieldsIn_lineFeed, hLine]
      exact ⟨(hRest.append_left _).trans (perm_interchange _ _ _ _), hDepths⟩

end Lines

/-- White space between the parts of a file. -/
abbrev White := {text : List Char // ∀ c ∈ text, (capnpSpace c || c == '\n') = true}

structure SchemaFile where
  lead : White
  id : IntegerLiteral
  beforeEnd : White
  afterId : White
  afterStruct : {gap : White // gap.1 ≠ []}
  structName : Word
  beforeBrace : White
  lines : List BodyLine
  indent : Gap
  tail : White

namespace SchemaFile

variable (file : SchemaFile)

def idText : List Char :=
  file.lead.1 ++ '@' :: (file.id.text ++ (file.beforeEnd.1 ++ ';' :: file.afterId.1))

/-- From behind the brace that opens the struct. -/
def bodyText : List Char := lineText file.lines ++ file.indent.1 ++ '\x7d' :: file.tail.1

def structText : List Char :=
  ['s', 't', 'r', 'u', 'c', 't'] ++ (file.afterStruct.1.1 ++ (file.structName.1 ++ (file.beforeBrace.1 ++
    '\x7b' :: file.bodyText)))

def text : List Char := file.idText ++ file.structText

end SchemaFile

section White

variable (py : PythonText)

theorem isSpace_white (white : White) : ∀ c ∈ white.1, py.isSpace c = true := by
  intro c hMem
  rcases Bool.or_eq_true _ _ ▸ white.2 c hMem with hSpace | hFeed
  · exact py.isSpace_capnpSpace hSpace
  · rw [eq_of_beq hFeed, py.space_ascii '\n' (by decide)]
    decide

theorem toNat_white (white : White) : ∀ c ∈ white.1, c.toNat ≤ 32 := by
  intro c hMem
  rcases Bool.or_eq_true _ _ ▸ white.2 c hMem with hSpace | hFeed
  · have hCode := toNat_of_capnpSpace hSpace
    omega
  · rw [eq_of_beq hFeed]
    decide

theorem stops_white {p : Char → Bool} (hp : ∀ c, py.isSpace c = true → p c = false) (white : White)
    {rest : List Char} (hRest : Stops p rest) : Stops p (white.1 ++ rest) := by
  cases hChars : white.1 with
  | nil => exact hRest
  | cons c chars =>
    exact stops_cons (hp c (isSpace_white py white c (by rw [hChars]; exact List.mem_cons_self)))

/-- What `ID_RE` looks for. -/
def PythonText.HasId (text : List Char) : Prop :=
  ∃ front digits gap back : List Char, text = front ++ (['@', '0', 'x'] ++ (digits ++ (gap ++ ';' :: back))) ∧
    (digits ≠ [] ∧ ∀ c ∈ digits, PythonText.isHexDigit c = true) ∧ ∀ c ∈ gap, py.isSpace c = true

theorem takes_id_iff {parts : List (List Char)} : List.Forall₂ Item.Takes py.ID_RE parts ↔
    ∃ digits gap : List Char, parts = [['@'], ['0'], ['x'], digits, gap, [';']] ∧
      (digits ≠ [] ∧ ∀ c ∈ digits, PythonText.isHexDigit c = true) ∧ ∀ c ∈ gap, py.isSpace c = true := by
  have hPattern : py.ID_RE = [.one fun c => c == '@', .one fun c => c == '0', .one fun c => c == 'x',
      .plus PythonText.isHexDigit, .star py.isSpace, .one fun c => c == ';'] := rfl
  have hOne : ∀ (mark : Char) (part : List Char),
      (Item.one fun c => c == mark).Takes part ↔ part = [mark] := by
    intro mark part
    constructor
    · rintro ⟨c, rfl, hSame⟩
      rw [eq_of_beq hSame]
    · rintro rfl
      exact ⟨mark, rfl, beq_self_eq_true mark⟩
  rw [hPattern]
  constructor
  · rintro (_ | ⟨hAt, _ | ⟨hZero, _ | ⟨hLetter, _ | ⟨hDigits, _ | ⟨hGap, _ | ⟨hEnd, ⟨⟩⟩⟩⟩⟩⟩⟩)
    rw [(hOne _ _).mp hAt, (hOne _ _).mp hZero, (hOne _ _).mp hLetter, (hOne _ _).mp hEnd]
    exact ⟨_, _, rfl, hDigits, hGap⟩
  · rintro ⟨digits, gap, rfl, hDigits, hGap⟩
    exact .cons ((hOne _ _).mpr rfl) (.cons ((hOne _ _).mpr rfl) (.cons ((hOne _ _).mpr rfl)
      (.cons hDigits (.cons hGap (.cons ((hOne _ _).mpr rfl) .nil)))))

/-- `ID_RE` finds an id if and only if there is one in the text. -/
theorem search_id_of_hasId {text : List Char} (h : py.HasId text) : ∃ digits gap rest : List Char,
    search py.ID_RE text = some ([['@'], ['0'], ['x'], digits, gap, [';']], rest) := by
  obtain ⟨front, digits, gap, back, hText, hDigits, hGap⟩ := h
  have hTakes := (takes_id_iff py).mpr ⟨digits, gap, rfl, hDigits, hGap⟩
  obtain ⟨found, hFound⟩ := Option.isSome_iff_exists.mp (isSome_search hTakes front back)
  obtain ⟨digits', gap', hParts, -⟩ := (takes_id_iff py).mp (takes_search hFound).1
  refine ⟨digits', gap', found.2, ?_⟩
  rw [← hParts, Prod.mk.eta, ← hFound, hText]
  simp only [List.flatten_cons, List.flatten_nil, List.append_assoc, List.cons_append, List.nil_append]

theorem search_id_of_not {text : List Char} (h : ¬ py.HasId text) : search py.ID_RE text = none := by
  cases hFound : search py.ID_RE text with
  | none => rfl
  | some found =>
    obtain ⟨hTakes, front, hText⟩ := takes_search hFound
    obtain ⟨digits, gap, hParts, hDigits, hGap⟩ := (takes_id_iff py).mp hTakes
    refine absurd ⟨front, digits, gap, found.2, ?_, hDigits, hGap⟩ h
    rw [hText, hParts]
    simp only [List.flatten_cons, List.flatten_nil, List.append_assoc, List.cons_append, List.nil_append]

theorem search_struct (file : SchemaFile) : search py.STRUCT_RE file.text =
    some ([['s'], ['t'], ['r'], ['u'], ['c'], ['t'], file.afterStruct.1.1, file.structName.1,
      file.beforeBrace.1, ['\x7b']], file.bodyText) := by
  have hSkip : ∀ c ∈ file.idText, ∀ rest, matchStart py.STRUCT_RE (c :: rest) = none := by
    intro c hMem rest
    refine matchStart_one_none (stops_cons (beq_eq_false_iff_ne.mpr ?_))
    rintro rfl
    have hWhite : ∀ white : White, 's' ∉ white.1 := fun white hThere =>
      absurd (toNat_white white 's' hThere) (by decide)
    rcases List.mem_append.mp hMem with hLead | hMem
    · exact hWhite _ hLead
    rcases List.mem_append.mp (List.mem_of_ne_of_mem (by decide) hMem) with hId | hMem
    · rcases file.id.mem_text hId with hLetter | hDigit
      · exact absurd hLetter (by decide)
      · exact absurd hDigit (by decide)
    rcases List.mem_append.mp hMem with hEnd | hMem
    · exact hWhite _ hEnd
    · exact hWhite _ (List.mem_of_ne_of_mem (by decide) hMem)
  have hBrace : py.isWord '\x7b' = false ∧ py.isSpace '\x7b' = false := by
    rw [py.word_ascii _ (by decide), py.space_ascii _ (by decide)]
    decide
  have hOpen : ∀ c, py.isSpace c = true → (c == '\x7b') = false := fun _ => PythonText.ne_of_class hBrace.2
  have hPattern : py.STRUCT_RE = .one (fun c => c == 's') :: .one (fun c => c == 't') ::
      .one (fun c => c == 'r') :: .one (fun c => c == 'u') :: .one (fun c => c == 'c') ::
      .one (fun c => c == 't') :: .plus py.isSpace :: .plus py.isWord ::
        [.star py.isSpace, .one fun c => c == '\x7b'] := rfl
  have hName : Stops py.isSpace (file.structName.1 ++ (file.beforeBrace.1 ++ '\x7b' :: file.bodyText)) := by
    cases hChars : file.structName.1 with
    | nil => exact absurd hChars file.structName.2.1
    | cons c chars =>
      refine stops_cons (py.space_of_word c (isWord_word py file.structName c ?_))
      rw [hChars]
      exact List.mem_cons_self
  have hStop : Stops py.isWord (file.beforeBrace.1 ++ '\x7b' :: file.bodyText) :=
    stops_white py (fun _ => py.space_not_word) _ (stops_cons hBrace.1)
  have hWord : Avoids py.isWord [.star py.isSpace, .one fun c => c == '\x7b'] :=
    avoids_star py.space_of_word (avoids_one fun _ => PythonText.ne_of_class hBrace.1)
  rw [SchemaFile.text, search_append hSkip]
  refine search_start ?_
  rw [SchemaFile.structText, List.cons_append, List.cons_append, List.cons_append, List.cons_append,
    List.cons_append, List.cons_append, List.nil_append, hPattern, matchStart_one _ (by decide),
    matchStart_one _ (by decide), matchStart_one _ (by decide), matchStart_one _ (by decide),
    matchStart_one _ (by decide), matchStart_one _ (by decide),
    matchStart_plus (isSpace_white py file.afterStruct.1) hName
      (avoids_plus fun _ => py.space_not_word) file.afterStruct.2,
    matchStart_plus (isWord_word py file.structName) hStop hWord file.structName.2.1,
    py.matchStart_gap (isSpace_white py file.beforeBrace) hOpen (by decide)]
  rfl

theorem parseSchema_text (file : SchemaFile) (h : py.HasId file.text) : ∃ schemaId,
    py.parseSchema file.text = (PythonText.enclosed 1 file.bodyText).map fun body =>
      ⟨file.structName.1, schemaId, PythonText.sortByOrdinal (py.fieldsIn body)⟩ := by
  obtain ⟨digits, gap, rest, hId⟩ := search_id_of_hasId py h
  refine ⟨PythonText.hexToInt digits % 0x10000, ?_⟩
  rw [PythonText.parseSchema, hId, search_struct]
  dsimp only
  cases PythonText.enclosed 1 file.bodyText with
  | none => rfl
  | some body =>
    dsimp only
    rw [py.filterMap_splitlines]
    rfl

theorem parseSchema_none (file : SchemaFile) (h : ¬ py.HasId file.text) : py.parseSchema file.text = none := by
  rw [PythonText.parseSchema, search_id_of_not py h]

/-- The line of a hexadecimal id has it. -/
theorem hasId_hexadecimal (file : SchemaFile) (h : file.id.isHexadecimal = true) : py.HasId file.text := by
  cases hId : file.id with
  | decimal _ | octal _ =>
    rw [hId] at h
    cases h
  | hexadecimal digits =>
    refine ⟨file.lead.1, digits.1, file.beforeEnd.1, file.afterId.1 ++ file.structText, ?_, digits.2,
      isSpace_white py file.beforeEnd⟩
    rw [SchemaFile.text, SchemaFile.idText, hId, IntegerLiteral.text]
    simp only [List.append_assoc, List.cons_append, List.nil_append]

end White

theorem braceless_white (white : White) : Braceless white.1 := by
  intro c hMem
  have hCode := toNat_white white c hMem
  constructor
  · rintro rfl
    exact absurd hCode (by decide)
  · rintro rfl
    exact absurd hCode (by decide)

theorem enclosed_body (file : SchemaFile) : PythonText.enclosed 1 file.bodyText =
    if 1 < depthAfter file.lines then none
    else some (cut 1 (lineText file.lines ++ file.indent.1)).1 := by
  have hDepth : (cut 1 (lineText file.lines ++ file.indent.1)).2 = depthAfter file.lines :=
    (fieldsIn_body asciiText Nat.one_ne_zero file.lines file.indent).2
  rw [SchemaFile.bodyText, enclosed_append Nat.one_ne_zero, hDepth]
  by_cases hClosed : depthAfter file.lines = 0
  · rw [if_pos hClosed, if_neg (by omega)]
  · rw [if_neg hClosed, PythonText.enclosed, if_neg (by decide), if_pos rfl]
    by_cases hLast : depthAfter file.lines = 1
    · rw [if_pos hLast, if_neg (by omega), Option.map_some, List.append_nil]
    · rw [if_neg hLast, if_pos (by omega), enclosed_braceless (braceless_white file.tail)]
      rfl

theorem sortByOrdinal_perm (fields : List Field) : (PythonText.sortByOrdinal fields).Perm fields :=
  List.perm_insertionSort _ fields

theorem sortByOrdinal_ascending (fields : List Field) :
    (PythonText.sortByOrdinal fields).Pairwise fun a b => a.ordinal ≤ b.ordinal := by
  have hTotal : Std.Total fun a b : Field => a.ordinal ≤ b.ordinal := ⟨fun a b => Nat.le_total _ _⟩
  have hTrans : IsTrans Field fun a b => a.ordinal ≤ b.ordinal := ⟨fun _ _ _ => Nat.le_trans⟩
  exact List.pairwise_insertionSort _ fields

/-- A schema has every declared field and no other, by ordinal. -/
def Complete (lines : List BodyLine) (result : Option Schema) : Prop :=
  ∀ schema, result = some schema → schema.fields.Perm (declared lines) ∧
    schema.fields.Pairwise fun a b => a.ordinal ≤ b.ordinal

theorem complete_of_none {lines : List BodyLine} {result : Option Schema} (h : result = none) :
    Complete lines result := by
  rw [h]
  exact nofun

theorem complete_of_open (py : PythonText) {file : SchemaFile} (h : 1 < depthAfter file.lines) :
    Complete file.lines (py.parseSchema file.text) := by
  by_cases hId : py.HasId file.text
  · obtain ⟨schemaId, hParse⟩ := parseSchema_text py file hId
    rw [enclosed_body, if_pos h] at hParse
    exact complete_of_none hParse
  · exact complete_of_none (parseSchema_none py file hId)

theorem complete_iff_of_closed (py : PythonText) {file : SchemaFile} (hId : py.HasId file.text)
    (h : ¬ 1 < depthAfter file.lines) : Complete file.lines (py.parseSchema file.text) ↔
      (py.strays 1 file.lines).Perm (skipped 1 file.lines) := by
  have hBody := (fieldsIn_body py Nat.one_ne_zero file.lines file.indent).1
  have hDeclared := declared_perm 1 file.lines
  obtain ⟨schemaId, hParse⟩ := parseSchema_text py file hId
  rw [Complete, hParse, enclosed_body, if_neg h]
  constructor
  · intro hComplete
    have hFields := (hComplete _ rfl).1
    have hAll := (hBody.symm.trans ((sortByOrdinal_perm _).symm.trans hFields)).trans hDeclared
    exact (List.perm_append_left_iff _).mp hAll
  · rintro hStrays schema ⟨⟩
    refine ⟨(sortByOrdinal_perm _).trans ?_, sortByOrdinal_ascending _⟩
    exact hBody.trans ((hStrays.append_left _).trans hDeclared.symm)

/-- `parse_schema` returns every declared field, or `None`, if and only if there is no hexadecimal id, the braces
do not close, or the strays make up for what it skips. -/
theorem parse_complete_iff (py : PythonText) (file : SchemaFile) :
    Complete file.lines (py.parseSchema file.text) ↔
      ¬ py.HasId file.text ∨ 1 < depthAfter file.lines ∨
        (py.strays 1 file.lines).Perm (skipped 1 file.lines) := by
  by_cases hId : py.HasId file.text
  case neg => exact iff_of_true (complete_of_none (parseSchema_none py file hId)) (.inl hId)
  rw [or_iff_right (not_not.mpr hId)]
  by_cases hOpen : 1 < depthAfter file.lines
  · exact iff_of_true (complete_of_open py hOpen) (.inl hOpen)
  · rw [complete_iff_of_closed py hId hOpen, or_iff_right hOpen]

theorem cut_subset (depth : Nat) (text : List Char) : (cut depth text).1 ⊆ text := by
  induction text generalizing depth with
  | nil =>
    rw [cut_nil]
    exact List.Subset.refl []
  | cons c rest ih =>
    cases depth with
    | zero =>
      rw [cut_zero]
      exact List.nil_subset _
    | succ depth =>
      rw [cut]
      split_ifs
      · exact List.cons_subset_cons c (ih (depth + 2))
      · exact List.nil_subset _
      · exact List.cons_subset_cons c (ih depth)
      · exact List.cons_subset_cons c (ih (depth + 1))

theorem BodyLine.misread_cases (line : BodyLine) : line.misread = [] ∨ ¬ line.Plain ∧ ∃ declared read : Field,
    line.fields = [declared] ∧ line.misread = [read] ∧ declared.ordinal < read.ordinal := by
  cases line with
  | comment _ _ | blank _ => exact .inl rfl
  | declaration d =>
    by_cases h : d.Matched ∧ d.ordinal.pythonValue ≠ d.ordinal.value
    · refine .inr ⟨fun hPlain => h.2 hPlain.2, d.field, d.readAs, rfl, if_pos h, ?_⟩
      exact Nat.lt_of_le_of_ne (d.ordinal.value_le_pythonValue h.1.ordinal) h.2.symm
    · exact .inl (if_neg h)

/-- Where Python sees no new line in comments and values, the strays are skipped fields with greater ordinals. -/
theorem strays_greater (py : PythonText) {lines : List BodyLine} (h : ∀ line ∈ lines, Unbroken line.ending)
    (depth : Nat) : ∃ declared : List Field, declared.Sublist (skipped depth lines) ∧
      List.Forall₂ (fun own read : Field => own.ordinal < read.ordinal) declared (py.strays depth lines) := by
  induction lines generalizing depth with
  | nil => exact ⟨[], List.nil_sublist _, .nil⟩
  | cons line lines ih =>
    obtain ⟨hLine, hLines⟩ := List.forall_mem_cons.mp h
    obtain ⟨declared, hSub, hGreater⟩ := ih hLines (line.next depth)
    have hSeen : Unbroken (cut depth line.ending).1 := fun c hMem => hLine c (cut_subset depth _ hMem)
    have hNone := py.fieldsAfter_append hSeen []
    rw [List.append_nil] at hNone
    have hRead : (if depth = 0 then [] else line.misread) = [] ∨ ¬ line.Plain ∧ ∃ own read : Field,
        line.fields = [own] ∧ (if depth = 0 then [] else line.misread) = [read] ∧
          own.ordinal < read.ordinal := by
      split
      · exact .inl rfl
      · exact line.misread_cases
    rw [PythonText.strays, skipped, hNone, PythonText.fieldsAfter, List.nil_append]
    rcases hRead with hNothing | ⟨hPlain, own, read, hFields, hRead, hLess⟩
    · rw [hNothing, List.nil_append]
      exact ⟨declared, hSub.trans (List.sublist_append_right _ _), hGreater⟩
    · rw [hRead, if_neg fun hBoth => hPlain hBoth.2, hFields]
      exact ⟨own :: declared, hSub.cons_cons own, .cons hLess hGreater⟩

/-- Without such line ends the parser is complete if the braces do not close, or no field is skipped. -/
theorem parse_complete_unbroken (py : PythonText) (file : SchemaFile) (hId : file.id.isHexadecimal = true)
    (h : ∀ line ∈ file.lines, Unbroken line.ending) :
    Complete file.lines (py.parseSchema file.text) ↔
      1 < depthAfter file.lines ∨ skipped 1 file.lines = [] := by
  by_cases hOpen : 1 < depthAfter file.lines
  · exact iff_of_true (complete_of_open py hOpen) (.inl hOpen)
  rw [complete_iff_of_closed py (hasId_hexadecimal py file hId) hOpen, or_iff_right hOpen]
  obtain ⟨declared, hSub, hGreater⟩ := strays_greater py h 1
  constructor
  · intro hPerm
    -- all skipped fields are read with greater ordinals, and yet the ordinals have the same sum
    have hSums : ∀ {front back : List Field},
        List.Forall₂ (fun own read : Field => own.ordinal < read.ordinal) front back →
          (front.map Field.ordinal).sum + front.length ≤ (back.map Field.ordinal).sum := by
      intro front back hLess
      induction hLess with
      | nil => exact le_rfl
      | cons hHead _ ih =>
        simp only [List.map_cons, List.sum_cons, List.length_cons]
        omega
    obtain rfl := hSub.eq_of_length (hGreater.length_eq.trans hPerm.length_eq)
    have hMore := hSums hGreater
    have hOrdinals := (hPerm.map Field.ordinal).sum_nat
    exact List.eq_nil_of_length_eq_zero (by omega)
  · intro hNone
    rw [hNone, List.sublist_nil] at hSub
    rw [hSub] at hGreater
    rw [hNone, List.forall₂_nil_left_iff.mp hGreater]

/-- `speed @0 :UInt16 = 5;` -/
def speedWithDefault : Declaration where
  lead := ⟨[' '], List.all_eq_true.mp rfl⟩
  name := ⟨['s', 'p', 'e', 'e', 'd'], by decide, List.all_eq_true.mp rfl⟩
  beforeAt := ⟨[' '], List.all_eq_true.mp rfl⟩
  afterAt := ⟨[], List.all_eq_true.mp rfl⟩
  ordinal := .octal ⟨[], nofun⟩
  beforeColon := ⟨[' '], List.all_eq_true.mp rfl⟩
  afterColon := ⟨[], List.all_eq_true.mp rfl⟩
  root := none
  typeName := ⟨['U', 'I', 'n', 't', '1', '6'], by decide, List.all_eq_true.mp rfl⟩
  afterType := ⟨[' '], List.all_eq_true.mp rfl⟩
  typeTail := none
  defaultValue := some ⟨[' ', '5'], by decide⟩
  afterEnd := ⟨[], List.all_eq_true.mp rfl⟩
  comment := none

/-- `gear @1 :UInt8;` -/
def gear : Declaration :=
  { speedWithDefault with
    name := ⟨['g', 'e', 'a', 'r'], by decide, List.all_eq_true.mp rfl⟩
    ordinal := .decimal ⟨['1'], by decide, by decide, List.all_eq_true.mp rfl⟩
    typeName := ⟨['U', 'I', 'n', 't', '8'], by decide, List.all_eq_true.mp rfl⟩
    afterType := ⟨[], List.all_eq_true.mp rfl⟩
    defaultValue := none }

def gearbox : SchemaFile where
  lead := ⟨[], List.all_eq_true.mp rfl⟩
  id := .hexadecimal ⟨['1'], by decide, List.all_eq_true.mp rfl⟩
  beforeEnd := ⟨[], List.all_eq_true.mp rfl⟩
  afterId := ⟨['\n'], List.all_eq_true.mp rfl⟩
  afterStruct := ⟨⟨[' '], List.all_eq_true.mp rfl⟩, by decide⟩
  structName := ⟨['G'], by decide, List.all_eq_true.mp rfl⟩
  beforeBrace := ⟨[' '], List.all_eq_true.mp rfl⟩
  lines := [.blank ⟨[], List.all_eq_true.mp rfl⟩, .declaration speedWithDefault, .declaration gear]
  indent := ⟨[], List.all_eq_true.mp rfl⟩
  tail := ⟨['\n'], List.all_eq_true.mp rfl⟩

/-- The field with the default value is missing from what `parse_schema` returns. -/
theorem default_value_drops_field :
    ¬ Complete gearbox.lines (asciiText.parseSchema gearbox.text) := by
  intro hComplete
  have hParsed : asciiText.parseSchema gearbox.text = some ⟨['G'], 1, [gear.field]⟩ := by
    decide
  have hFields := (hComplete _ hParsed).1
  exact absurd hFields.length_eq (by decide)

end VsomeipDart
