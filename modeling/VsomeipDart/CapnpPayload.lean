import VsomeipDart.Lib.LittleEndian
import VsomeipDart.Types

/-! # The payload builder (`capnp_service.h`, `capnp_service.cpp`)

`size_t` has 64 bits and wraps. The host is little-endian; a `float` and a `double` are their bit
patterns. A store outside the buffer is `none`.
-/

namespace VsomeipDart
set_option autoImplicit false

open LittleEndian

structure CapnpPayloadBuilder where
  buf : Bytes
  size_lt : buf.length < 2 ^ 64
  deriving DecidableEq, Repr

namespace CapnpPayloadBuilder

def create (capacity : UInt64) : CapnpPayloadBuilder :=
  ⟨List.replicate capacity.toNat 0, by
    rw [List.length_replicate]
    exact capacity.toNat_lt⟩

variable (builder : CapnpPayloadBuilder)

def size : UInt64 := .ofNat builder.buf.length

def store (width offset value : Nat) : Option CapnpPayloadBuilder :=
  if hFits : offset + width ≤ builder.buf.length then
    some ⟨patch width builder.buf offset value, (patch_length hFits value).trans_lt builder.size_lt⟩
  else none

/-- The copy of a value, unless the guard finds that it does not fit. -/
def copy (width offset : UInt64) (value : Nat) : Option CapnpPayloadBuilder :=
  if offset + width > builder.size then some builder else builder.store width.toNat offset.toNat value

def setFloat32 (offset : UInt64) (value : UInt32) : Option CapnpPayloadBuilder :=
  builder.copy 4 offset value.toNat

def setFloat64 (offset : UInt64) (value : UInt64) : Option CapnpPayloadBuilder :=
  builder.copy 8 offset value.toNat

/-- The guard of `set_uint8` adds nothing to the offset. -/
def setUint8 (offset : UInt64) (value : UInt8) : Option CapnpPayloadBuilder :=
  if offset ≥ builder.size then some builder else builder.store 1 offset.toNat value.toNat

def setUint16 (offset : UInt64) (value : UInt16) : Option CapnpPayloadBuilder :=
  builder.copy 2 offset value.toNat

def setUint32 (offset : UInt64) (value : UInt32) : Option CapnpPayloadBuilder :=
  builder.copy 4 offset value.toNat

def setUint64 (offset : UInt64) (value : UInt64) : Option CapnpPayloadBuilder :=
  builder.copy 8 offset value.toNat

def take : Bytes × CapnpPayloadBuilder := (builder.buf, ⟨[], by decide⟩)

end CapnpPayloadBuilder

inductive SetCall where
  | float32 (offset : UInt64) (value : UInt32)
  | float64 (offset : UInt64) (value : UInt64)
  | uint8 (offset : UInt64) (value : UInt8)
  | uint16 (offset : UInt64) (value : UInt16)
  | uint32 (offset : UInt64) (value : UInt32)
  | uint64 (offset : UInt64) (value : UInt64)
  deriving DecidableEq, Repr

namespace SetCall

def width : SetCall → UInt64
  | uint8 .. => 1
  | uint16 .. => 2
  | float32 .. | uint32 .. => 4
  | float64 .. | uint64 .. => 8

def offset : SetCall → UInt64
  | float32 offset _ | float64 offset _ | uint8 offset _ | uint16 offset _ | uint32 offset _
  | uint64 offset _ => offset

def value : SetCall → Nat
  | float32 _ value | uint32 _ value => value.toNat
  | float64 _ value | uint64 _ value => value.toNat
  | uint8 _ value => value.toNat
  | uint16 _ value => value.toNat

def write (call : SetCall) : Write := ⟨call.width.toNat, call.offset.toNat, call.value⟩

/-- The sum of offset and width wraps to a number that passes the guard. -/
def Wraps (capacity : Nat) : SetCall → Prop
  | uint8 .. => False
  | call => 2 ^ 64 ≤ call.offset.toNat + call.width.toNat ∧
      call.offset.toNat + call.width.toNat - 2 ^ 64 ≤ capacity

theorem not_wraps_of_fits {call : SetCall} {capacity : Nat} (hCapacity : capacity < 2 ^ 64)
    (hFits : call.write.Fits capacity) : ¬ call.Wraps capacity := by
  have hSum : call.offset.toNat + call.width.toNat < 2 ^ 64 := Nat.lt_of_le_of_lt hFits hCapacity
  cases call with
  | uint8 => exact id
  | float32 | float64 | uint16 | uint32 | uint64 =>
    exact fun hWraps => absurd hWraps.1 (Nat.not_le.mpr hSum)

/-- The bytes of the value are written where there is room for them, and nothing else is. -/
structure Writes (call : SetCall) (before after : Bytes) : Prop where
  size_eq : after.length = before.length
  written : call.write.Fits before.length → ∀ i, after[i]? =
    if call.offset.toNat ≤ i ∧ i < call.offset.toNat + call.width.toNat then
      (toBytes call.width.toNat call.value)[i - call.offset.toNat]?
    else before[i]?
  ignored : ¬ call.write.Fits before.length → after = before

end SetCall

namespace CapnpPayloadBuilder

def exec (builder : CapnpPayloadBuilder) : SetCall → Option CapnpPayloadBuilder
  | .float32 offset value => builder.setFloat32 offset value
  | .float64 offset value => builder.setFloat64 offset value
  | .uint8 offset value => builder.setUint8 offset value
  | .uint16 offset value => builder.setUint16 offset value
  | .uint32 offset value => builder.setUint32 offset value
  | .uint64 offset value => builder.setUint64 offset value

def run (builder : CapnpPayloadBuilder) (calls : List SetCall) : Option CapnpPayloadBuilder :=
  calls.foldlM exec builder

variable (builder : CapnpPayloadBuilder)

theorem size_toNat : builder.size.toNat = builder.buf.length := UInt64.toNat_ofNat_of_lt' builder.size_lt

theorem copy_eq (width offset : UInt64) (value : Nat) :
    builder.copy width offset value =
      if builder.buf.length < (offset.toNat + width.toNat) % 2 ^ 64 then some builder
      else builder.store width.toNat offset.toNat value := by
  rw [copy]
  simp only [gt_iff_lt, UInt64.lt_iff_toNat_lt, size_toNat, UInt64.toNat_add]

theorem setUint8_eq (offset : UInt64) (value : UInt8) :
    builder.setUint8 offset value =
      if builder.buf.length < offset.toNat + 1 then some builder
      else builder.store 1 offset.toNat value.toNat := by
  rw [setUint8]
  simp only [ge_iff_le, UInt64.le_iff_toNat_le, size_toNat, Nat.lt_succ_iff]

theorem copy_of_not_wraps {width offset : UInt64}
    (hWraps : ¬ (2 ^ 64 ≤ offset.toNat + width.toNat ∧
      offset.toNat + width.toNat - 2 ^ 64 ≤ builder.buf.length)) (value : Nat) :
    builder.copy width offset value =
      if builder.buf.length < offset.toNat + width.toNat then some builder
      else builder.store width.toNat offset.toNat value := by
  have hOffset := offset.toNat_lt
  have hWidth := width.toNat_lt
  have hSize := builder.size_lt
  rw [copy_eq]
  congr 1
  apply propext
  omega

theorem copy_of_wraps {width offset : UInt64} (hWrapped : 2 ^ 64 ≤ offset.toNat + width.toNat)
    (hPasses : offset.toNat + width.toNat - 2 ^ 64 ≤ builder.buf.length) (value : Nat) :
    builder.copy width offset value = none := by
  have hOffset := offset.toNat_lt
  have hWidth := width.toNat_lt
  have hSize := builder.size_lt
  rw [copy_eq, if_neg (by omega), store, dif_neg (by omega)]

/-- A call that does not wrap is ignored if its value does not fit, and stores it otherwise. -/
theorem exec_of_not_wraps {call : SetCall} (hWraps : ¬ call.Wraps builder.buf.length) :
    builder.exec call =
      if builder.buf.length < call.offset.toNat + call.width.toNat then some builder
      else builder.store call.width.toNat call.offset.toNat call.value := by
  cases call with
  | uint8 offset value => exact builder.setUint8_eq offset value
  | float32 offset value => exact builder.copy_of_not_wraps hWraps _
  | float64 offset value => exact builder.copy_of_not_wraps hWraps _
  | uint16 offset value => exact builder.copy_of_not_wraps hWraps _
  | uint32 offset value => exact builder.copy_of_not_wraps hWraps _
  | uint64 offset value => exact builder.copy_of_not_wraps hWraps _

theorem exec_of_wraps {call : SetCall} (hWraps : call.Wraps builder.buf.length) :
    builder.exec call = none := by
  cases call with
  | uint8 => exact hWraps.elim
  | float32 | float64 | uint16 | uint32 | uint64 => exact builder.copy_of_wraps hWraps.1 hWraps.2 _

theorem create_size (capacity : UInt64) : (create capacity).buf.length = capacity.toNat :=
  List.length_replicate

theorem exec_step {call : SetCall} (hWraps : ¬ call.Wraps builder.buf.length) :
    ∃ builder', builder.exec call = some builder' ∧
      builder'.buf = patches ([call.write].filter fun w => w.Fits builder.buf.length) builder.buf := by
  rw [builder.exec_of_not_wraps hWraps]
  by_cases hFits : call.write.Fits builder.buf.length
  · refine ⟨_, (if_neg (Nat.not_lt.mpr hFits)).trans (dif_pos hFits), ?_⟩
    simp only [List.filter_cons, hFits, decide_true, if_true, List.filter_nil]
    rfl
  · refine ⟨builder, if_pos (Nat.not_le.mp hFits), ?_⟩
    simp only [List.filter_cons, hFits, decide_false, List.filter_nil]
    rfl

theorem run_of_not_wraps {calls : List SetCall}
    (hWraps : ∀ call ∈ calls, ¬ call.Wraps builder.buf.length) :
    ∃ builder', builder.run calls = some builder' ∧ builder'.buf.length = builder.buf.length ∧
      builder'.buf =
        patches ((calls.map SetCall.write).filter fun w => w.Fits builder.buf.length) builder.buf := by
  induction calls generalizing builder with
  | nil => exact ⟨builder, rfl, rfl, rfl⟩
  | cons call rest ih =>
    obtain ⟨hHead, hTail⟩ := List.forall_mem_cons.mp hWraps
    obtain ⟨middle, hExec, hMiddle⟩ := builder.exec_step hHead
    have hLength : middle.buf.length = builder.buf.length := by
      rw [hMiddle]
      exact patches_length fun w hMem => of_decide_eq_true (List.mem_filter.mp hMem).2
    rw [← hLength] at hTail
    obtain ⟨last, hRun, hSize, hLast⟩ := ih middle hTail
    refine ⟨last, ?_, hSize.trans hLength, ?_⟩
    · rw [run, List.foldlM_cons, hExec]
      exact hRun
    · rw [hLast, hLength, hMiddle, ← patches_append_writes, ← List.filter_append]
      rfl

theorem exec_writes {call : SetCall} (hWraps : ¬ call.Wraps builder.buf.length) :
    ∃ builder', builder.exec call = some builder' ∧ call.Writes builder.buf builder'.buf := by
  rw [builder.exec_of_not_wraps hWraps]
  by_cases hFits : call.write.Fits builder.buf.length
  · refine ⟨_, (if_neg (Nat.not_lt.mpr hFits)).trans (dif_pos hFits), ?_⟩
    exact ⟨patch_length hFits _, fun _ => getElem?_patch hFits _, fun hOut => absurd hFits hOut⟩
  · exact ⟨builder, if_pos (Nat.not_le.mp hFits), rfl, fun hIn => absurd hIn hFits, fun _ => rfl⟩

/-- Every call of a run writes its value or nothing, and what is taken is the replay of the writes that
fit over zeros. -/
structure KeepsInside (capacity : UInt64) (calls : List SetCall) : Prop where
  each : ∀ before call after, calls = before ++ call :: after → ∃ builder builder',
    (create capacity).run before = some builder ∧ builder.exec call = some builder' ∧
      builder.buf.length = capacity.toNat ∧ call.Writes builder.buf builder'.buf
  taken : ∃ builder, (create capacity).run calls = some builder ∧ builder.take.1 =
    patches ((calls.map SetCall.write).filter fun w => w.Fits capacity.toNat)
      (List.replicate capacity.toNat 0)

theorem keepsInside_iff (capacity : UInt64) (calls : List SetCall) :
    KeepsInside capacity calls ↔ ∀ call ∈ calls, ¬ call.Wraps capacity.toNat := by
  constructor
  · intro hKeeps call hMem hWraps
    obtain ⟨before, after, hSplit⟩ := List.append_of_mem hMem
    obtain ⟨builder, builder', -, hExec, hLength, -⟩ := hKeeps.each before call after hSplit
    rw [builder.exec_of_wraps (hLength ▸ hWraps)] at hExec
    cases hExec
  · intro hWraps
    rw [← create_size capacity] at hWraps
    constructor
    · rintro before call after rfl
      obtain ⟨hBefore, hRest⟩ := List.forall_mem_append.mp hWraps
      obtain ⟨builder, hRun, hLength, -⟩ := (create capacity).run_of_not_wraps hBefore
      have hCall := hRest call List.mem_cons_self
      rw [← hLength] at hCall
      obtain ⟨builder', hExec, hWrites⟩ := builder.exec_writes hCall
      exact ⟨builder, builder', hRun, hExec, hLength.trans (create_size capacity), hWrites⟩
    · obtain ⟨builder, hRun, -, hBuf⟩ := (create capacity).run_of_not_wraps hWraps
      rw [create_size] at hBuf
      exact ⟨builder, hRun, hBuf⟩

theorem setUint32_leaves : ¬ KeepsInside 16 [.uint32 18446744073709551614 0] := by
  intro hKeeps
  obtain ⟨builder, hRun, -⟩ := hKeeps.taken
  cases hRun

end CapnpPayloadBuilder

end VsomeipDart
