import Mathlib.Tactic.Ring

/-! # Little-endian byte strings

A natural number below `256 ^ width` is written as `width` bytes, least significant byte first, and
read back from any place of a longer byte string.
-/

namespace LittleEndian

def toBytes : Nat → Nat → List UInt8
  | 0, _ => []
  | width + 1, value => UInt8.ofNat value :: toBytes width (value / 256)

def ofBytes : List UInt8 → Nat
  | [] => 0
  | byte :: rest => byte.toNat + 256 * ofBytes rest

@[simp] theorem toBytes_length (width value : Nat) : (toBytes width value).length = width := by
  induction width generalizing value with
  | zero => rfl
  | succ width ih => rw [toBytes, List.length_cons, ih]

theorem ofBytes_toBytes {width value : Nat} (h : value < 256 ^ width) :
    ofBytes (toBytes width value) = value := by
  induction width generalizing value with
  | zero =>
    have hZero : value = 0 := by simpa using h
    exact hZero.symm
  | succ width ih =>
    have hRest : value / 256 < 256 ^ width := by
      rw [Nat.pow_succ] at h
      omega
    have hByte : (UInt8.ofNat value).toNat = value % 256 := UInt8.toNat_ofNat'
    rw [toBytes, ofBytes, ih hRest, hByte]
    exact Nat.mod_add_div value 256

theorem toBytes_ofBytes (bytes : List UInt8) : toBytes bytes.length (ofBytes bytes) = bytes := by
  induction bytes with
  | nil => rfl
  | cons byte rest ih =>
    have hByte : byte.toNat < 256 := byte.toNat_lt
    have hLow : UInt8.ofNat (byte.toNat + 256 * ofBytes rest) = byte := by
      apply UInt8.toNat.inj
      rw [UInt8.toNat_ofNat']
      omega
    have hHigh : (byte.toNat + 256 * ofBytes rest) / 256 = ofBytes rest := by omega
    rw [List.length_cons, ofBytes, toBytes, hLow, hHigh, ih]

theorem toBytes_eq_map (width value : Nat) :
    toBytes width value = (List.range width).map fun i => UInt8.ofNat (value / 256 ^ i) := by
  induction width generalizing value with
  | zero => rfl
  | succ width ih =>
    rw [toBytes, ih, List.range_succ_eq_map, List.map_cons, List.map_map]
    congr 1
    · simp
    · apply List.map_congr_left
      intro i _
      simp only [Function.comp_apply, Nat.succ_eq_add_one, Nat.pow_succ', Nat.div_div_eq_div_mul]

def window (width : Nat) (bytes : List UInt8) (offset : Nat) : Nat :=
  ofBytes ((bytes.drop offset).take width)

def patch (width : Nat) (bytes : List UInt8) (offset value : Nat) : List UInt8 :=
  bytes.take offset ++ (toBytes width value ++ bytes.drop (offset + width))

/-- A checked read: `none` when the window does not lie inside `bytes`. -/
def readAt (width : Nat) (bytes : List UInt8) (offset : Nat) : Option Nat :=
  if offset + width ≤ bytes.length then some (window width bytes offset) else none

def writeAt (width : Nat) (bytes : List UInt8) (offset value : Nat) : Option (List UInt8) :=
  if offset + width ≤ bytes.length then some (patch width bytes offset value) else none

/-- A field written between `front` and `back` is what a reader at offset `front.length` sees. -/
theorem readAt_field {width value : Nat} (h : value < 256 ^ width) (front back : List UInt8) :
    readAt width (front ++ (toBytes width value ++ back)) front.length = some value := by
  have hFits : front.length + width ≤ (front ++ (toBytes width value ++ back)).length := by
    simp only [List.length_append, toBytes_length]
    omega
  rw [readAt, if_pos hFits, window, List.drop_left, List.take_left' (toBytes_length width value),
    ofBytes_toBytes h]

theorem ofBytes_eq_zero {bytes : List UInt8} (h : ∀ b ∈ bytes, b = 0) : ofBytes bytes = 0 := by
  induction bytes with
  | nil => rfl
  | cons b rest ih =>
    obtain ⟨rfl, hRest⟩ := List.forall_mem_cons.mp h
    rw [ofBytes, ih hRest]
    rfl

theorem window_eq_zero {bytes : List UInt8} {start offset : Nat} (h : ∀ b ∈ bytes.drop start, b = 0)
    (hLe : start ≤ offset) (width : Nat) : window width bytes offset = 0 := by
  refine ofBytes_eq_zero fun b hMem => h b ?_
  obtain ⟨later, rfl⟩ := Nat.exists_eq_add_of_le hLe
  rw [← List.drop_drop] at hMem
  exact List.mem_of_mem_drop (List.mem_of_mem_take hMem)

theorem toBytes_zero (width : Nat) : ∀ b ∈ toBytes width 0, b = 0 := by
  induction width with
  | zero => exact fun b hMem => absurd hMem List.not_mem_nil
  | succ width ih => exact List.forall_mem_cons.mpr ⟨rfl, ih⟩

theorem window_congr {width : Nat} {left right : List UInt8} {offset : Nat}
    (h : ∀ i < width, left[offset + i]? = right[offset + i]?) :
    window width left offset = window width right offset := by
  have hSlice : (left.drop offset).take width = (right.drop offset).take width := by
    apply List.ext_getElem?
    intro i
    by_cases hi : i < width
    · rw [List.getElem?_take_of_lt hi, List.getElem?_take_of_lt hi, List.getElem?_drop,
        List.getElem?_drop, h i hi]
    · rw [List.getElem?_take_eq_none (by omega), List.getElem?_take_eq_none (by omega)]
  rw [window, window, hSlice]

theorem patch_behind {width : Nat} {old : List UInt8} (h : old.length = width) (front back : List UInt8)
    (value : Nat) :
    patch width (front ++ (old ++ back)) front.length value = front ++ (toBytes width value ++ back) := by
  rw [patch, List.take_left, ← List.drop_drop, List.drop_left, List.drop_left' h]

section Patch

variable {width : Nat} {bytes : List UInt8} {offset : Nat} (hFits : offset + width ≤ bytes.length)
include hFits

theorem patch_length (value : Nat) : (patch width bytes offset value).length = bytes.length := by
  simp only [patch, List.length_append, List.length_take, toBytes_length, List.length_drop]
  omega

theorem window_patch_same {value : Nat} (h : value < 256 ^ width) :
    window width (patch width bytes offset value) offset = value := by
  have hTake : (bytes.take offset).length = offset := List.length_take_of_le (by omega)
  have hRead := readAt_field h (bytes.take offset) (bytes.drop (offset + width))
  rw [hTake, readAt] at hRead
  split at hRead
  · exact Option.some.inj hRead
  · cases hRead

theorem patch_window : patch width bytes offset (window width bytes offset) = bytes := by
  have hLength : ((bytes.drop offset).take width).length = width := by
    rw [List.length_take, List.length_drop]
    omega
  have hOwn : toBytes width (window width bytes offset) = (bytes.drop offset).take width := by
    have hInverse := toBytes_ofBytes ((bytes.drop offset).take width)
    rwa [hLength] at hInverse
  rw [patch, hOwn, ← List.drop_drop, List.take_append_drop, List.take_append_drop]

theorem getElem?_patch_outside (value : Nat) {i : Nat} (h : i < offset ∨ offset + width ≤ i) :
    (patch width bytes offset value)[i]? = bytes[i]? := by
  have hTake : (bytes.take offset).length = offset := List.length_take_of_le (by omega)
  rw [patch]
  rcases h with hBefore | hAfter
  · rw [List.getElem?_append_left (by omega), List.getElem?_take_of_lt hBefore]
  · rw [List.getElem?_append_right (by omega), List.getElem?_append_right (by simp; omega),
      List.getElem?_drop, toBytes_length, hTake]
    congr 1
    omega

theorem getElem?_patch (value i : Nat) :
    (patch width bytes offset value)[i]? =
      if offset ≤ i ∧ i < offset + width then (toBytes width value)[i - offset]? else bytes[i]? := by
  split
  · have hTake : (bytes.take offset).length = offset := List.length_take_of_le (by omega)
    rw [patch, List.getElem?_append_right (by omega), hTake,
      List.getElem?_append_left (by rw [toBytes_length]; omega)]
  · exact getElem?_patch_outside hFits value (by omega)

theorem window_patch_apart (value : Nat) {size other : Nat}
    (h : other + size ≤ offset ∨ offset + width ≤ other) :
    window size (patch width bytes offset value) other = window size bytes other := by
  apply window_congr
  intro i hi
  exact getElem?_patch_outside hFits value (by omega)

theorem window_patch_disjoint (value : Nat) {other : Nat}
    (h : other + width ≤ offset ∨ offset + width ≤ other) :
    window width (patch width bytes offset value) other = window width bytes other :=
  window_patch_apart hFits value h

theorem patch_append (back : List UInt8) (value : Nat) :
    patch width (bytes ++ back) offset value = patch width bytes offset value ++ back := by
  rw [patch, patch, List.take_append_of_le_length (by omega), List.drop_append_of_le_length hFits,
    List.append_assoc, List.append_assoc]

theorem window_append (back : List UInt8) :
    window width (bytes ++ back) offset = window width bytes offset := by
  apply window_congr
  intro i hi
  exact List.getElem?_append_left (by omega)

end Patch

/-- A field of a record: its width, its offset and its value. -/
structure Write where
  width : Nat
  offset : Nat
  value : Nat

def Write.Fits (w : Write) (size : Nat) : Prop := w.offset + w.width ≤ size

instance (w : Write) (size : Nat) : Decidable (w.Fits size) := Nat.decLe _ _

def Write.Before (left right : Write) : Prop := left.offset + left.width ≤ right.offset

def patches (writes : List Write) (bytes : List UInt8) : List UInt8 :=
  writes.foldl (fun bytes w => patch w.width bytes w.offset w.value) bytes

section Patches

variable {writes : List Write}

theorem patches_append_writes (later : List Write) (bytes : List UInt8) :
    patches (writes ++ later) bytes = patches later (patches writes bytes) := List.foldl_append

theorem patches_length {bytes : List UInt8} (hFits : ∀ w ∈ writes, w.Fits bytes.length) :
    (patches writes bytes).length = bytes.length := by
  induction writes generalizing bytes with
  | nil => rfl
  | cons w rest ih =>
    obtain ⟨hHead, hTail⟩ := List.forall_mem_cons.mp hFits
    have hLength := patch_length hHead w.value
    refine (ih fun w' hMem => ?_).trans hLength
    rw [hLength]
    exact hTail w' hMem

theorem patches_append {bytes : List UInt8} (hFits : ∀ w ∈ writes, w.Fits bytes.length)
    (back : List UInt8) : patches writes (bytes ++ back) = patches writes bytes ++ back := by
  induction writes generalizing bytes with
  | nil => rfl
  | cons w rest ih =>
    obtain ⟨hHead, hTail⟩ := List.forall_mem_cons.mp hFits
    show patches rest (patch w.width (bytes ++ back) w.offset w.value) =
      patches rest (patch w.width bytes w.offset w.value) ++ back
    rw [patch_append hHead]
    refine ih fun w' hMem => ?_
    rw [patch_length hHead]
    exact hTail w' hMem

/-- Fields written behind a place leave it as it is. -/
theorem window_patches_before {bytes : List UInt8} (hFits : ∀ w ∈ writes, w.Fits bytes.length)
    {width offset : Nat} (hApart : ∀ w ∈ writes, offset + width ≤ w.offset) :
    window width (patches writes bytes) offset = window width bytes offset := by
  induction writes generalizing bytes with
  | nil => rfl
  | cons w rest ih =>
    obtain ⟨hHead, hTail⟩ := List.forall_mem_cons.mp hFits
    obtain ⟨hFirst, hRest⟩ := List.forall_mem_cons.mp hApart
    have hPatched : window width (patch w.width bytes w.offset w.value) offset =
        window width bytes offset := window_patch_apart hHead w.value (.inl hFirst)
    refine (ih (fun w' hMem => ?_) hRest).trans hPatched
    rw [patch_length hHead]
    exact hTail w' hMem

/-- Of fields written one behind the other, each keeps its value. -/
theorem window_patches {bytes : List UInt8} (hFits : ∀ w ∈ writes, w.Fits bytes.length)
    (hOrder : writes.Pairwise Write.Before) {w : Write} (hMem : w ∈ writes)
    (hValue : w.value < 256 ^ w.width) : window w.width (patches writes bytes) w.offset = w.value := by
  induction writes generalizing bytes with
  | nil => exact absurd hMem List.not_mem_nil
  | cons first rest ih =>
    obtain ⟨hHead, hTail⟩ := List.forall_mem_cons.mp hFits
    obtain ⟨hBefore, hLater⟩ := List.pairwise_cons.mp hOrder
    have hRest : ∀ w' ∈ rest, w'.Fits (patch first.width bytes first.offset first.value).length := by
      intro w' hThere
      rw [patch_length hHead]
      exact hTail w' hThere
    rcases List.mem_cons.mp hMem with rfl | hThere
    · exact (window_patches_before hRest hBefore).trans (window_patch_same hHead hValue)
    · exact ih hRest hLater hThere

theorem drop_patches {writes : List Write} {bytes : List UInt8} {stop : Nat} (hStop : stop ≤ bytes.length)
    (hFits : ∀ w ∈ writes, w.Fits stop) : (patches writes bytes).drop stop = bytes.drop stop := by
  have hTake : (bytes.take stop).length = stop := List.length_take_of_le hStop
  have hPatched : (patches writes (bytes.take stop)).length = stop := by
    rw [patches_length, hTake]
    rwa [hTake]
  have hSplit : patches writes bytes = patches writes (bytes.take stop) ++ bytes.drop stop := by
    rw [← patches_append (by rwa [hTake]), List.take_append_drop]
  rw [hSplit, List.drop_left' hPatched]

theorem patches_zero {bytes : List UInt8} (hWrites : ∀ w ∈ writes, w.value = 0)
    (hBytes : ∀ b ∈ bytes, b = 0) : ∀ b ∈ patches writes bytes, b = 0 := by
  induction writes generalizing bytes with
  | nil => exact hBytes
  | cons w rest ih =>
    obtain ⟨hHead, hTail⟩ := List.forall_mem_cons.mp hWrites
    refine ih hTail fun b hMem => ?_
    dsimp only at hMem
    rw [hHead, patch, List.mem_append, List.mem_append] at hMem
    rcases hMem with hFront | hValue | hBack
    · exact hBytes b (List.mem_of_mem_take hFront)
    · exact toBytes_zero w.width b hValue
    · exact hBytes b (List.mem_of_mem_drop hBack)

end Patches

end LittleEndian
