import Mathlib.Data.Char
import Mathlib.Tactic.SplitIfs

/-! # UTF-8 bytes and UTF-16 code units

A text is a list of Unicode scalar values. Read one by one, the bytes of its UTF-8 form are its UTF-16
code units only when every character is ASCII.
-/

namespace TextEncoding

def utf8 (text : List Char) : List UInt8 := text.flatMap String.utf8EncodeChar

def codeUnits (c : Char) : List UInt16 :=
  if c.toNat < 0x10000 then [UInt16.ofNat c.toNat]
  else [UInt16.ofNat (0xD800 + (c.toNat - 0x10000) / 0x400),
    UInt16.ofNat (0xDC00 + (c.toNat - 0x10000) % 0x400)]

def utf16 (text : List Char) : List UInt16 := text.flatMap codeUnits

def Ascii (text : List Char) : Prop := ∀ c ∈ text, c.toNat < 128

@[simp] theorem utf8_nil : utf8 [] = [] := rfl

@[simp] theorem utf16_nil : utf16 [] = [] := rfl

@[simp] theorem utf8_cons (c : Char) (text : List Char) :
    utf8 (c :: text) = String.utf8EncodeChar c ++ utf8 text := List.flatMap_cons

@[simp] theorem utf16_cons (c : Char) (text : List Char) :
    utf16 (c :: text) = codeUnits c ++ utf16 text := List.flatMap_cons

@[simp] theorem ascii_cons {c : Char} {text : List Char} :
    Ascii (c :: text) ↔ c.toNat < 128 ∧ Ascii text := List.forall_mem_cons

theorem utf8EncodeChar_ascii {c : Char} (h : c.toNat < 128) :
    String.utf8EncodeChar c = [UInt8.ofNat c.toNat] := by
  have hLe : c.val.toNat ≤ 0x7f := Nat.lt_succ_iff.mp h
  simp only [String.utf8EncodeChar, hLe, if_true]
  rfl

/-- Outside ASCII a character has more bytes than code units, and never more than three times as many. -/
theorem length_utf8EncodeChar (c : Char) :
    (codeUnits c).length ≤ (String.utf8EncodeChar c).length ∧
      (String.utf8EncodeChar c).length ≤ 3 * (codeUnits c).length ∧
      ((String.utf8EncodeChar c).length = (codeUnits c).length → c.toNat < 128) := by
  have hSame : c.val.toNat = c.toNat := rfl
  simp only [String.utf8EncodeChar, codeUnits, hSame]
  split_ifs <;> simp only [List.length_cons, List.length_nil] <;> omega

theorem length_utf16_le (text : List Char) : (utf16 text).length ≤ (utf8 text).length := by
  induction text with
  | nil => simp
  | cons c text ih =>
    have hChar := (length_utf8EncodeChar c).1
    simp only [utf8_cons, utf16_cons, List.length_append]
    omega

theorem length_utf8_le (text : List Char) : (utf8 text).length ≤ 3 * (utf16 text).length := by
  induction text with
  | nil => simp
  | cons c text ih =>
    have hChar := (length_utf8EncodeChar c).2.1
    simp only [utf8_cons, utf16_cons, List.length_append]
    omega

theorem ascii_of_length_eq {text : List Char} (h : (utf8 text).length = (utf16 text).length) :
    Ascii text := by
  induction text with
  | nil => simp [Ascii]
  | cons c text ih =>
    obtain ⟨hLe, -, hEq⟩ := length_utf8EncodeChar c
    have hRest := length_utf16_le text
    simp only [utf8_cons, utf16_cons, List.length_append] at h
    exact ascii_cons.mpr ⟨hEq (by omega), ih (by omega)⟩

/-- Bytes taken as code units give the text back exactly for ASCII. -/
theorem map_utf8_eq_utf16_iff (text : List Char) :
    (utf8 text).map UInt8.toUInt16 = utf16 text ↔ Ascii text := by
  constructor
  · intro h
    apply ascii_of_length_eq
    rw [← h, List.length_map]
  · intro h
    induction text with
    | nil => rfl
    | cons c text ih =>
      obtain ⟨hChar, hText⟩ := ascii_cons.mp h
      have hUnit : (UInt8.ofNat c.toNat).toUInt16 = UInt16.ofNat c.toNat := by
        apply UInt16.toNat.inj
        rw [UInt8.toNat_toUInt16, UInt8.toNat_ofNat', UInt16.toNat_ofNat']
        omega
      rw [utf8_cons, utf16_cons, List.map_append, ih hText, utf8EncodeChar_ascii hChar, codeUnits,
        if_pos (by omega), List.map_singleton, hUnit]

/-- The text with these bytes, if there is one. -/
def ofUtf8 (bytes : List UInt8) : Option (List Char) :=
  bytes.toByteArray.utf8Decode?.map Array.toList

theorem utf8Encode_eq (text : List Char) : text.utf8Encode = (utf8 text).toByteArray := rfl

theorem ofUtf8_eq_some {bytes : List UInt8} {text : List Char} :
    ofUtf8 bytes = some text ↔ bytes = utf8 text := by
  constructor
  · intro h
    obtain ⟨chars, hDecode, rfl⟩ := Option.map_eq_some_iff.mp h
    have hSome : bytes.toByteArray.utf8Decode?.isSome := by rw [hDecode]; rfl
    have hEncode := @ByteArray.utf8Encode_get_utf8Decode? bytes.toByteArray hSome
    simp only [hDecode, Option.get_some, utf8Encode_eq] at hEncode
    have hBytes := congrArg ByteArray.data hEncode
    simpa using hBytes.symm
  · rintro rfl
    rw [ofUtf8, ← utf8Encode_eq, List.utf8Decode?_utf8Encode]
    rfl

theorem zero_notMem_utf8EncodeChar {c : Char} (h : c.toNat ≠ 0) :
    (0 : UInt8) ∉ String.utf8EncodeChar c := by
  have hSame : c.val.toNat = c.toNat := rfl
  have hByte : ∀ n, n % 256 ≠ 0 → (0 : UInt8) ≠ UInt8.ofNat n := by
    intro n hn hEq
    apply hn
    rw [← UInt8.toNat_ofNat', ← hEq]
    rfl
  simp only [String.utf8EncodeChar, hSame]
  split
  · simp only [List.mem_singleton]
    exact hByte _ (by omega)
  · split
    · simp only [List.mem_cons, List.not_mem_nil, or_false, not_or]
      exact ⟨hByte _ (by omega), hByte _ (by omega)⟩
    · split
      · simp only [List.mem_cons, List.not_mem_nil, or_false, not_or]
        exact ⟨hByte _ (by omega), hByte _ (by omega), hByte _ (by omega)⟩
      · simp only [List.mem_cons, List.not_mem_nil, or_false, not_or]
        exact ⟨hByte _ (by omega), hByte _ (by omega), hByte _ (by omega), hByte _ (by omega)⟩

theorem zero_notMem_utf8 {text : List Char} (h : ∀ c ∈ text, c.toNat ≠ 0) :
    (0 : UInt8) ∉ utf8 text := by
  intro hMem
  obtain ⟨c, hChar, hZero⟩ := List.mem_flatMap.mp hMem
  exact zero_notMem_utf8EncodeChar (h c hChar) hZero

end TextEncoding
