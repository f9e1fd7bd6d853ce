import VsomeipDart.CapnpBuilder

/-! # The generated accessors on any buffer

An accessor looks whether its field lies in the buffer. The offsets of variable fields are sums of lengths
that the buffer itself gives.
-/

namespace VsomeipDart
set_option autoImplicit false

open LittleEndian TextEncoding

section Bits

variable (bytes : Bytes)

/-- The pattern at an offset, without a bit where the buffer is too short. -/
def bitsAt (size offset : Nat) : Nat :=
  if bytes.length < offset + size then 0 else window size bytes offset

theorem getBits_fits {size offset : Nat} (h : ¬ bytes.length < offset + size) :
    getBits size bytes offset = .ok (window size bytes offset) := by
  rw [getBits, readAt, if_pos (by omega)]

theorem readBits_eq (size offset : Nat) :
    readBits size bytes offset = .ok (bitsAt bytes size offset) := by
  rw [readBits, bitsAt]
  by_cases hShort : bytes.length < offset + size
  · rw [if_pos hShort, if_pos hShort]
  · rw [if_neg hShort, if_neg hShort, getBits_fits bytes hShort]

theorem window_one {offset : Nat} (h : offset < bytes.length) :
    window 1 bytes offset = bytes[offset].toNat := by
  rw [window, List.drop_eq_getElem_cons h]
  rfl

end Bits

/-- The value that a pattern stands for. -/
def Scalar.value : Scalar → Nat → CapnpValue
  | float32, p => .float32 p
  | float64, p => .float64 p
  | uint8, p | uint16, p | uint32, p => .int p
  | uint64, p => .int (signed 8 p)
  | int8, p => .int (signed 1 p)
  | int16, p => .int (signed 2 p)
  | int32, p => .int (signed 4 p)
  | int64, p => .int (signed 8 p)

theorem Scalar.read_eq (s : Scalar) (bytes : Bytes) (offset : Nat) :
    s.read bytes offset = .ok (s.value (bitsAt bytes s.size offset)) := by
  cases s with
  | uint8 =>
    rw [Scalar.read, readUint8, Scalar.value, Scalar.size, bitsAt]
    by_cases hFits : bytes.length > offset
    · rw [dif_pos hFits, if_neg (by omega), window_one bytes hFits]
    · rw [dif_neg hFits, if_pos (by omega)]
      rfl
  | int8 =>
    rw [Scalar.read, readInt8, Scalar.value, Scalar.size, bitsAt]
    by_cases hShort : bytes.length ≤ offset
    · rw [if_pos hShort, if_pos (by omega)]
      rfl
    · rw [if_neg hShort, if_neg (by omega), getBits_fits bytes (by omega)]
      rfl
  | float32 => rw [Scalar.read, readFloat32, readBits_eq]; rfl
  | float64 => rw [Scalar.read, readFloat64, readBits_eq]; rfl
  | uint16 => rw [Scalar.read, readUint16, readBits_eq]; rfl
  | uint32 => rw [Scalar.read, readUint32, readBits_eq]; rfl
  | uint64 => rw [Scalar.read, readUint64, readBits_eq]; rfl
  | int16 => rw [Scalar.read, readInt16, readBits_eq]; rfl
  | int32 => rw [Scalar.read, readInt32, readBits_eq]; rfl
  | int64 => rw [Scalar.read, readInt64, readBits_eq]; rfl

section Records

variable (headerLen : Nat) (bytes : Bytes)

/-- Where the record of a variable field begins. -/
def recordStart : Nat → Nat
  | 0 => headerLen
  | i + 1 => recordStart i + 4 + bitsAt bytes 4 (recordStart i)

theorem varOffset_eq (i : Nat) : varOffset bytes headerLen i = .ok (recordStart headerLen bytes i) := by
  induction i with
  | zero => rfl
  | succ i ih =>
    rw [varOffset, ih, recordStart]
    show (readBits 4 bytes (recordStart headerLen bytes i)).bind _ = _
    rw [readBits_eq]
    rfl

/-- The record and all of its bytes lie in the buffer. -/
def RecordFits (start : Nat) : Prop := start + 4 + bitsAt bytes 4 start ≤ bytes.length

instance (start : Nat) : Decidable (RecordFits bytes start) :=
  inferInstanceAs (Decidable (start + 4 + bitsAt bytes 4 start ≤ bytes.length))

def content (start : Nat) : Bytes := (bytes.drop (start + 4)).take (bitsAt bytes 4 start)

theorem content_eq_nil {start : Nat} (h : RecordFits bytes start) :
    content bytes start = [] ↔ bitsAt bytes 4 start = 0 := by
  rw [← List.length_eq_zero_iff, content, List.length_take, List.length_drop]
  rw [RecordFits] at h
  omega

variable {bytes}

theorem readText_unfit {start : Nat} (h : ¬ RecordFits bytes start) :
    readText bytes start = .ok (.string []) := by
  rw [RecordFits] at h
  rw [readText]
  by_cases hShort : bytes.length < start + 4
  · rw [if_pos hShort]
  · rw [if_neg hShort, readBits_eq]
    exact if_pos (.inr (by omega))

theorem readText_empty {start : Nat} (h : RecordFits bytes start) (hNone : content bytes start = [])
    : readText bytes start = .ok (.string []) := by
  have hLength := (content_eq_nil bytes h).mp hNone
  rw [RecordFits] at h
  rw [readText, if_neg (by omega), readBits_eq]
  exact if_pos (.inl hLength)

theorem readText_fits {start : Nat} (h : RecordFits bytes start) (hSome : content bytes start ≠ [])
    : readText bytes start =
      match utf8Decode (content bytes start) with
      | some text => .ok (.string text)
      | none => .error .formatException := by
  have hLength : bitsAt bytes 4 start ≠ 0 := fun hZero => hSome ((content_eq_nil bytes h).mpr hZero)
  rw [RecordFits] at h
  rw [readText, if_neg (by omega), readBits_eq]
  exact if_neg (not_or.mpr ⟨hLength, by omega⟩)

theorem readData_unfit {start : Nat} (h : ¬ RecordFits bytes start) :
    readData bytes start = .ok (.bytes []) := by
  rw [RecordFits] at h
  rw [readData]
  by_cases hShort : bytes.length < start + 4
  · rw [if_pos hShort]
  · rw [if_neg hShort, readBits_eq]
    exact if_pos (.inr (by omega))

theorem readData_fits {start : Nat} (h : RecordFits bytes start) :
    readData bytes start = .ok (.bytes (content bytes start)) := by
  by_cases hZero : bitsAt bytes 4 start = 0
  · have hNone := (content_eq_nil bytes h).mpr hZero
    rw [RecordFits] at h
    rw [readData, if_neg (by omega), readBits_eq, hNone]
    exact if_pos (.inl hZero)
  · rw [RecordFits] at h
    rw [readData, if_neg (by omega), readBits_eq]
    exact if_neg (not_or.mpr ⟨hZero, by omega⟩)

end Records

def Scalar.default : Scalar → CapnpValue
  | float32 => .float32 0
  | float64 => .float64 0
  | _ => .int 0

namespace Accessor

variable (headerLen : Nat) (bytes : Bytes)

def Fits : Accessor → Prop
  | bool offset => offset + 1 ≤ bytes.length
  | scalar s offset => offset + s.size ≤ bytes.length
  | text i | data i => RecordFits bytes (recordStart headerLen bytes i)

def Decodes : Accessor → Prop
  | text i => (utf8Decode (content bytes (recordStart headerLen bytes i))).isSome = true
  | bool _ | scalar .. | data _ => True

def default : Accessor → CapnpValue
  | bool _ => .bool false
  | scalar s _ => s.default
  | text _ => .string []
  | data _ => .bytes []

/-- The accessor returns a value, the default one where there is nothing else to return. -/
def Safe (a : Accessor) : Prop :=
  ∃ v, a.get bytes headerLen = .ok v ∧
    (¬ (a.Fits headerLen bytes ∧ a.Decodes headerLen bytes) → v = a.default)

theorem safe_bool (offset : Nat) : (bool offset).Safe headerLen bytes := by
  by_cases hFits : bytes.length > offset
  · refine ⟨.bool ((bytes[offset] &&& 0x01) != 0), dif_pos hFits, fun hNot => ?_⟩
    exact absurd ⟨hFits, trivial⟩ hNot
  · exact ⟨.bool false, dif_neg hFits, fun _ => rfl⟩

theorem safe_scalar (s : Scalar) (offset : Nat) : (scalar s offset).Safe headerLen bytes := by
  refine ⟨s.value (bitsAt bytes s.size offset), s.read_eq bytes offset, fun hNot => ?_⟩
  have hShort : bytes.length < offset + s.size := by
    by_contra hLong
    exact hNot ⟨Nat.le_of_not_lt hLong, trivial⟩
  rw [bitsAt, if_pos hShort]
  cases s <;> rfl

theorem get_text (i : Nat) : (text i).get bytes headerLen =
    readText bytes (recordStart headerLen bytes i) := by
  rw [Accessor.get, varOffset_eq]
  rfl

theorem get_data (i : Nat) : (data i).get bytes headerLen =
    readData bytes (recordStart headerLen bytes i) := by
  rw [Accessor.get, varOffset_eq]
  rfl

theorem safe_data (i : Nat) : (data i).Safe headerLen bytes := by
  by_cases hFits : RecordFits bytes (recordStart headerLen bytes i)
  · refine ⟨_, (get_data headerLen bytes i).trans (readData_fits hFits), fun hNot => ?_⟩
    exact absurd ⟨hFits, trivial⟩ hNot
  · exact ⟨_, (get_data headerLen bytes i).trans (readData_unfit hFits), fun _ => rfl⟩

/-- The accessor of a text is safe unless it meets bytes that it cannot decode. -/
theorem safe_text_iff (i : Nat) : (text i).Safe headerLen bytes ↔
    (RecordFits bytes (recordStart headerLen bytes i) →
      content bytes (recordStart headerLen bytes i) ≠ [] →
      (utf8Decode (content bytes (recordStart headerLen bytes i))).isSome = true) := by
  by_cases hFits : RecordFits bytes (recordStart headerLen bytes i)
  · by_cases hNone : content bytes (recordStart headerLen bytes i) = []
    · refine iff_of_true ⟨.string [], ?_, fun _ => rfl⟩ fun _ hSome => absurd hNone hSome
      rw [get_text, readText_empty hFits hNone]
    · have hRead := readText_fits hFits hNone
      rw [← get_text headerLen bytes i] at hRead
      constructor
      · rintro ⟨v, hValue, -⟩ - -
        rw [hRead] at hValue
        cases hText : utf8Decode (content bytes (recordStart headerLen bytes i)) with
        | some text => rfl
        | none =>
          rw [hText] at hValue
          cases hValue
      · intro hDecodes
        obtain ⟨text, hText⟩ := Option.isSome_iff_exists.mp (hDecodes hFits hNone)
        rw [hText] at hRead
        refine ⟨.string text, hRead, fun hNot => absurd ⟨hFits, ?_⟩ hNot⟩
        rw [Decodes, hText]
        rfl
  · refine iff_of_true ⟨.string [], ?_, fun _ => rfl⟩ fun hThere => absurd hThere hFits
    rw [get_text, readText_unfit hFits]

end Accessor

/-- The accessors of the fields are safe on a buffer if and only if each text that lies in it, and is not
empty, can be decoded. -/
theorem getters_safe_iff (case : StringCase) (fields : List Field) (bytes : Bytes) :
    (∀ getter ∈ (emit case fields).getters,
        getter.2.Safe (emit case fields).headerLen bytes) ↔
      ∀ name i, (name, .text i) ∈ (emit case fields).getters →
        RecordFits bytes (recordStart (emit case fields).headerLen bytes i) →
        content bytes (recordStart (emit case fields).headerLen bytes i) ≠ [] →
        ∃ text, content bytes (recordStart (emit case fields).headerLen bytes i) = utf8 text := by
  simp only [← utf8Decode_isSome]
  constructor
  · intro hSafe name i hMem
    exact (Accessor.safe_text_iff _ bytes i).mp (hSafe (name, .text i) hMem)
  · rintro hTexts ⟨name, accessor⟩ hMem
    cases accessor with
    | bool offset => exact Accessor.safe_bool _ bytes offset
    | scalar s offset => exact Accessor.safe_scalar _ bytes s offset
    | text i => exact (Accessor.safe_text_iff _ bytes i).mpr (hTexts name i hMem)
    | data i => exact Accessor.safe_data _ bytes i

def asciiCase : StringCase where
  lower text := text.map Char.toLower
  capitalize
    | [] => []
    | c :: rest => c.toUpper :: rest.map Char.toLower

def nameField : Field := ⟨['n', 'a', 'm', 'e'], 0, TEXT_TYPE⟩

end VsomeipDart
