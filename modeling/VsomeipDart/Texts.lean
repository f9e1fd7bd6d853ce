import VsomeipDart.Lib.TextEncoding
import VsomeipDart.WorkerEvents

/-! # Names and error texts on their way to Dart

A text goes to the native side as UTF-8 (`native_bindings.dart`) and comes back as bytes, which the codec
takes for UTF-16 code units.
-/

namespace VsomeipDart
set_option autoImplicit false

open TextEncoding

def NativeBindings.toNativeUtf8 (text : List Char) : Bytes := utf8 text ++ [0]

def stringOfCString (chars : Bytes) : Bytes := chars.takeWhile fun byte => byte ≠ 0

def VsomeipApp.onState (appName : Bytes) (registered : Bool) : NativeEvent :=
  .state ⟨registered, appName⟩

theorem stringOfCString_toNativeUtf8 {name : List Char} (h : ∀ c ∈ name, c.toNat ≠ 0) :
    stringOfCString (NativeBindings.toNativeUtf8 name) = utf8 name := by
  have hZero := zero_notMem_utf8 h
  have hAll : ∀ byte ∈ utf8 name, (decide (byte ≠ 0)) = true := by
    intro byte hMem
    simp only [decide_eq_true_eq]
    rintro rfl
    exact hZero hMem
  rw [stringOfCString, NativeBindings.toNativeUtf8, List.takeWhile_append_of_pos hAll]
  simp

/-- A cut that is not far below the length keeps the text exactly when it cuts nothing. -/
theorem take_utf8_eq_utf16_iff {text : List Char} {n : Nat}
    (h : (utf8 text).length ≤ n ∨ 3 * n < (utf8 text).length) :
    ((utf8 text).take n).map UInt8.toUInt16 = utf16 text ↔
      Ascii text ∧ (utf8 text).length ≤ n := by
  rcases h with hLe | hLt
  · rw [List.take_of_length_le hLe, map_utf8_eq_utf16_iff]
    exact ⟨fun hAscii => ⟨hAscii, hLe⟩, And.left⟩
  · constructor
    · intro hEq
      have hLength := congrArg List.length hEq
      have hBound := length_utf8_le text
      simp only [List.length_map, List.length_take] at hLength
      omega
    · rintro ⟨-, hLe⟩
      omega

namespace NativeEvent

/-- What is posted of an event: the length goes through a `uint32_t`. -/
theorem post_some {event : NativeEvent} {obj : CObject} (h : event.post true = some obj) :
    obj = .value (.externalTypedData (event.disc :: event.data.take (event.data.length % 2 ^ 32))) ∧
      event.data.length % 2 ^ 32 ≤ 2 ^ 20 := by
  have hLength : (UInt32.ofNat event.data.length).toNat = event.data.length % 2 ^ 32 :=
    UInt32.toNat_ofNat'
  simp only [post, Bridge.postToDart, Bool.not_true, Bool.false_eq_true, if_false] at h
  split at h
  · cases h
  · rename_i hCap
    rw [gt_iff_lt, UInt32.lt_iff_toNat_lt, hLength, kMaxPayloadBytes_toNat] at hCap
    rw [← Option.some.inj h, hLength]
    exact ⟨rfl, by omega⟩

end NativeEvent

theorem decodeState_prefix (registered : Bool) (appName : Bytes) (n : Nat) :
    WireCodec.decodeState
        (VsomeipDisc.kState :: (NativeEvent.data (.state ⟨registered, appName⟩)).take (n + 1)) 0 =
      .ok ⟨registered, (appName.take n).map UInt8.toUInt16⟩ :=
  NativeEvent.decodeState_data ⟨registered, appName.take n⟩

theorem decodeState_iff {registered : Bool} {name : List Char} {buffer : Bytes}
    (hPost : (NativeEvent.state ⟨registered, utf8 name⟩).post true =
      some (.value (.externalTypedData buffer))) :
    WireCodec.decodeState buffer 0 = .ok ⟨registered, utf16 name⟩ ↔
      Ascii name ∧ (utf8 name).length + 1 < 2 ^ 32 := by
  obtain ⟨hObj, hCap⟩ := NativeEvent.post_some hPost
  have hLength : (NativeEvent.data (.state ⟨registered, utf8 name⟩)).length =
      (utf8 name).length + 1 := by
    simp only [NativeEvent.data, List.length_append, List.length_singleton]
    omega
  rw [hLength] at hObj hCap
  injection hObj with hObj
  injection hObj with hBuffer
  cases hCut : ((utf8 name).length + 1) % 2 ^ 32 with
  | zero =>
    -- nothing but the discriminator is posted
    rw [hCut] at hBuffer
    rw [hBuffer]
    constructor
    · intro h
      cases h
    · rintro ⟨-, hLt⟩
      omega
  | succ n =>
    rw [hCut] at hBuffer hCap
    rw [hBuffer]
    have hDecode := decodeState_prefix registered (utf8 name) n
    rw [NativeEvent.disc, hDecode, Except.ok.injEq, VsomeipStateEvent.mk.injEq,
      take_utf8_eq_utf16_iff (by omega)]
    simp only [true_and]
    exact and_congr_right fun _ => by omega

theorem decodeError_iff {text : List Char} {buffer : Bytes}
    (hPost : (NativeEvent.error (utf8 text)).post true =
      some (.value (.externalTypedData buffer))) :
    WireCodec.decodeError buffer 0 = .ok (utf16 text) ↔
      Ascii text ∧ (utf8 text).length < 2 ^ 32 := by
  obtain ⟨hObj, hCap⟩ := NativeEvent.post_some hPost
  injection hObj with hObj
  injection hObj with hBuffer
  rw [NativeEvent.data] at hBuffer hCap
  have hDecode : WireCodec.decodeError buffer 0 =
      .ok (((utf8 text).take ((utf8 text).length % 2 ^ 32)).map UInt8.toUInt16) := by
    rw [hBuffer, WireCodec.decodeError, WireCodec.fromCharCodes, if_pos (by simp)]
    rfl
  rw [hDecode, Except.ok.injEq, take_utf8_eq_utf16_iff (by omega)]
  exact and_congr_right fun _ => by omega

/-- A name or an error text that is posted comes out of the codec exactly when it is ASCII and its length
fits the 32-bit field. -/
theorem texts_arrive_iff (text : List Char) (buffer : Bytes) :
    (∀ registered : Bool, (∀ c ∈ text, c.toNat ≠ 0) →
      (VsomeipApp.onState (stringOfCString (NativeBindings.toNativeUtf8 text)) registered).post true =
        some (.value (.externalTypedData buffer)) →
      (WireCodec.decodeState buffer 0 = .ok ⟨registered, utf16 text⟩ ↔
        Ascii text ∧ (utf8 text).length + 1 < 2 ^ 32)) ∧
    ((NativeEvent.error (utf8 text)).post true = some (.value (.externalTypedData buffer)) →
      (WireCodec.decodeError buffer 0 = .ok (utf16 text) ↔
        Ascii text ∧ (utf8 text).length < 2 ^ 32)) := by
  refine ⟨fun registered hName hPost => ?_, decodeError_iff⟩
  rw [VsomeipApp.onState, stringOfCString_toNativeUtf8 hName] at hPost
  exact decodeState_iff hPost

theorem texts_arrive_iff_radio :
    WireCodec.decodeState [0x03, 1, 0x72, 0x61, 0x64, 0x69, 0x6F] 0 =
        .ok ⟨true, utf16 ['r', 'a', 'd', 'i', 'o']⟩ ∧
      WireCodec.decodeError [0x05, 0x6F, 0x66, 0x66] 0 = .ok (utf16 ['o', 'f', 'f']) := by
  constructor
  · exact ((texts_arrive_iff ['r', 'a', 'd', 'i', 'o'] _).1 true (by simp) rfl).mpr
      ⟨by simp [Ascii], by decide⟩
  · exact ((texts_arrive_iff ['o', 'f', 'f'] _).2 rfl).mpr ⟨by simp [Ascii], by decide⟩

/-- The name with the one character U+00E9 arrives as the two characters U+00C3 and U+00A9. -/
theorem accented_name_garbled :
    (VsomeipApp.onState (stringOfCString (NativeBindings.toNativeUtf8 [Char.ofNat 0xE9])) true).post
        true = some (.value (.externalTypedData [0x03, 1, 0xC3, 0xA9])) ∧
      WireCodec.decodeState [0x03, 1, 0xC3, 0xA9] 0 = .ok ⟨true, [0xC3, 0xA9]⟩ ∧
      utf16 [Char.ofNat 0xE9] = [0xE9] := by
  decide

end VsomeipDart
