import Mathlib.Data.List.Sort
import VsomeipDart.Lib.Pattern

/-! # Reading schema files (`capnp_dart_gen.py`, `parse_schema`)

A Python string is a list of characters.
-/

namespace VsomeipDart
set_option autoImplicit false

/-- Python's character classes. Outside ASCII nothing is said but that they are kept apart. -/
structure PythonText where
  /-- `\w` -/
  isWord : Char → Bool
  /-- `\s` -/
  isSpace : Char → Bool
  /-- `\d` -/
  isDigit : Char → Bool
  /-- the value of a digit to `int` -/
  digit : Char → Nat
  word_ascii : ∀ c, c.toNat < 128 → isWord c = (c.isAlphanum || c == '_')
  space_ascii : ∀ c, c.toNat < 128 →
    isSpace c = (decide (9 ≤ c.toNat ∧ c.toNat ≤ 13) || decide (28 ≤ c.toNat ∧ c.toNat ≤ 32))
  digit_ascii : ∀ c, c.toNat < 128 → isDigit c = c.isDigit
  value_ascii : ∀ c, c.isDigit = true → digit c = c.toNat - 48
  space_of_word : ∀ c, isWord c = true → isSpace c = false
  word_of_digit : ∀ c, isDigit c = true → isWord c = true

structure Field where
  name : List Char
  ordinal : Nat
  capnpType : List Char
  deriving DecidableEq, Repr

structure Schema where
  structName : List Char
  schemaId : Nat
  fields : List Field
  deriving DecidableEq, Repr

/-- Where `str.splitlines` breaks a line. -/
def lineBoundary (c : Char) : Bool :=
  c ∈ ['\n', '\r', '\x0b', '\x0c', '\x1c', '\x1d', '\x1e', '\x85', '\u2028', '\u2029']

def splitlines : List Char → List (List Char)
  | [] => []
  | '\r' :: '\n' :: rest => [] :: splitlines rest
  | c :: rest =>
    if lineBoundary c then [] :: splitlines rest
    else
      match splitlines rest with
      | [] => [[c]]
      | line :: lines => (c :: line) :: lines

namespace PythonText

open Pattern

variable (py : PythonText)

def literal (word : List Char) : List (Item Char) := word.map fun c => .one fun d => d == c

def FIELD_RE : List (Item Char) :=
  [.star py.isSpace, .plus py.isWord, .star py.isSpace, .one fun c => c == '@', .plus py.isDigit,
    .star py.isSpace, .one fun c => c == ':', .plus py.isWord, .star py.isSpace,
    .one fun c => c == ';' || c == '#']

def STRUCT_RE : List (Item Char) :=
  literal ['s', 't', 'r', 'u', 'c', 't'] ++
    [.plus py.isSpace, .plus py.isWord, .star py.isSpace, .one fun c => c == '\x7b']

def isHexDigit (c : Char) : Bool :=
  c.isDigit || ('a' ≤ c && c ≤ 'f') || ('A' ≤ c && c ≤ 'F')

def ID_RE : List (Item Char) :=
  literal ['@', '0', 'x'] ++ [.plus isHexDigit, .star py.isSpace, .one fun c => c == ';']

def toInt (digits : List Char) : Nat := digits.foldl (fun value c => 10 * value + py.digit c) 0

def hexDigit (c : Char) : Nat :=
  if c.isDigit then c.toNat - 48 else if 'a' ≤ c then c.toNat - 87 else c.toNat - 55

/-- `int(digits, 16)` -/
def hexToInt (digits : List Char) : Nat := digits.foldl (fun value c => 16 * value + hexDigit c) 0

def readField (line : List Char) : Option Field :=
  match matchStart py.FIELD_RE line with
  | some ([_, name, _, _, ordinal, _, _, type, _, _], _) => some ⟨name, py.toInt ordinal, type⟩
  | _ => none

/-- The text from a brace of this depth to the brace that closes it. -/
def enclosed : Nat → List Char → Option (List Char)
  | _, [] => none
  | depth, c :: rest =>
    if c = '\x7b' then (enclosed (depth + 1) rest).map (c :: ·)
    else if c = '\x7d' then
      if depth = 1 then some []
      else (enclosed (depth - 1) rest).map (c :: ·)
    else (enclosed depth rest).map (c :: ·)

/-- `fields.sort(key=lambda f: f.ordinal)`, which is stable. -/
def sortByOrdinal (fields : List Field) : List Field :=
  fields.insertionSort fun a b => a.ordinal ≤ b.ordinal

def parseSchema (text : List Char) : Option Schema :=
  match search py.ID_RE text with
  | some ([_, _, _, digits, _, _], _) =>
    match search py.STRUCT_RE text with
    | some ([_, _, _, _, _, _, _, structName, _, _], rest) =>
      match enclosed 1 rest with
      | none => none
      | some body =>
        some {
          structName
          schemaId := hexToInt digits % 0x10000
          fields := sortByOrdinal ((splitlines body).filterMap py.readField) }
    | _ => none
  | _ => none

end PythonText

theorem isAlphanum_iff (c : Char) : c.isAlphanum = true ↔ (65 ≤ c.toNat ∧ c.toNat ≤ 90) ∨
    (97 ≤ c.toNat ∧ c.toNat ≤ 122) ∨ (48 ≤ c.toNat ∧ c.toNat ≤ 57) := by
  have hShape : c.isAlphanum = (decide (c.val ≥ 'A'.val ∧ c.val ≤ 'Z'.val) ||
      c.val ≥ 'a'.val && c.val ≤ 'z'.val || c.val ≥ '0'.val && c.val ≤ '9'.val) := rfl
  rw [hShape]
  simp only [Bool.or_eq_true, Bool.and_eq_true, decide_eq_true_eq, ge_iff_le, UInt32.le_iff_toNat_le]
  exact or_assoc

theorem toNat_of_word {c : Char} (h : (c.isAlphanum || c == '_') = true) : 48 ≤ c.toNat := by
  rcases Bool.or_eq_true _ _ ▸ h with hAlphanum | hUnderscore
  · have hCodes := (isAlphanum_iff c).mp hAlphanum
    omega
  · rw [eq_of_beq hUnderscore]
    decide

def asciiText : PythonText where
  isWord c := c.isAlphanum || c == '_'
  isSpace c := decide (9 ≤ c.toNat ∧ c.toNat ≤ 13) || decide (28 ≤ c.toNat ∧ c.toNat ≤ 32)
  isDigit c := c.isDigit
  digit c := c.toNat - 48
  word_ascii := fun _ _ => rfl
  space_ascii := fun _ _ => rfl
  digit_ascii := fun _ _ => rfl
  value_ascii := fun _ _ => rfl
  space_of_word := by
    intro c h
    have hCode := toNat_of_word h
    simp only [Bool.or_eq_false_iff, decide_eq_false_iff_not]
    omega
  word_of_digit := by
    intro c h
    simp [Char.isAlphanum, h]

end VsomeipDart
