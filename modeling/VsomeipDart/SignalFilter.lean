import Mathlib.Data.List.Sort
import VsomeipDart.Types

/-! # Per-signal smoothing filters (`signal_filter.cpp`)

The filters are generic in the sample type: `FloatOps` is what they use of a C++ `float`. Nothing is
assumed of the operations, so a fact about every filter holds whatever the rounding is.
-/

namespace VsomeipDart
set_option autoImplicit false

class FloatOps (F : Type) where
  /-- the `float` with these four bytes, and its four bytes -/
  ofBits : UInt32 → F
  toBits : F → UInt32
  /-- a `float` literal of the source -/
  literal : Rat → F
  add : F → F → F
  sub : F → F → F
  mul : F → F → F
  div : F → F → F
  lt : F → F → Bool
  le : F → F → Bool
  toUInt16 : F → UInt16

/-- A `uint8_t` cast to `FilterType` need not be one of the four enumerators. -/
inductive FilterType where
  | passthrough
  | ema
  | median
  | lowpass1
  | other (raw : UInt8)
  deriving DecidableEq, Repr

def FilterType.ofByte (raw : UInt8) : FilterType :=
  if raw = 0 then passthrough
  else if raw = 1 then ema
  else if raw = 2 then median
  else if raw = 3 then lowpass1
  else other raw

section Filters

variable {F : Type} [FloatOps F]

open FloatOps

structure EmaFilter (F : Type) where
  alpha : F
  y : F
  initialized : Bool

namespace EmaFilter

def create (alpha : F) : EmaFilter F where
  alpha :=
    if !(lt (literal 0) alpha && le alpha (literal 1)) then
      if lt (literal 1) alpha then literal 1 else literal 0.001
    else alpha
  y := literal 0
  initialized := false

def apply (filter : EmaFilter F) (input : F) : F × EmaFilter F :=
  if !filter.initialized then
    (input, { filter with y := input, initialized := true })
  else
    let y := add (mul filter.alpha input) (mul (sub (literal 1) filter.alpha) filter.y)
    (y, { filter with y })

end EmaFilter

structure Lowpass1Filter (F : Type) where
  alpha : F
  y : F
  initialized : Bool

namespace Lowpass1Filter

def kTwoPi : F := literal 6.28318530718

def create (cutoffHz sampleHz : F) : Lowpass1Filter F where
  alpha :=
    let cutoffHz := if !lt (literal 0) cutoffHz then literal 0.001 else cutoffHz
    let sampleHz := if !lt (literal 0) sampleHz then literal 1 else sampleHz
    let rc := div (literal 1) (mul kTwoPi cutoffHz)
    let dt := div (literal 1) sampleHz
    div dt (add rc dt)
  y := literal 0
  initialized := false

def apply (filter : Lowpass1Filter F) (input : F) : F × Lowpass1Filter F :=
  if !filter.initialized then
    (input, { filter with y := input, initialized := true })
  else
    let y := add (mul filter.alpha input) (mul (sub (literal 1) filter.alpha) filter.y)
    (y, { filter with y })

end Lowpass1Filter

structure MedianFilter (F : Type) where
  windowSize : Nat
  window : List F
  scratch : List F
  nextIdx : Nat
  full : Bool
  window_length : window.length = windowSize
  scratch_length : scratch.length = windowSize
  nextIdx_lt : nextIdx < windowSize

/-- `std::sort` with the `float` comparison `<`, for which the order of equal values is open -/
def sortFloats (values : List F) : List F :=
  values.insertionSort fun a b => !lt b a

@[simp] theorem sortFloats_length (values : List F) : (sortFloats values).length = values.length :=
  List.length_insertionSort _ values

namespace MedianFilter

def create (windowSize : UInt16) : MedianFilter F :=
  let size := if windowSize = 0 then 1 else windowSize.toNat
  { windowSize := size
    window := List.replicate size (literal 0)
    scratch := List.replicate size (literal 0)
    nextIdx := 0
    full := false
    window_length := List.length_replicate
    scratch_length := List.length_replicate
    nextIdx_lt := by
      show 0 < if windowSize = 0 then 1 else windowSize.toNat
      split
      · decide
      · rename_i hSize
        exact Nat.pos_of_ne_zero fun hZero => hSize (UInt16.toNat.inj hZero) }

def apply (filter : MedianFilter F) (input : F) : F × MedianFilter F :=
  let window := filter.window.set filter.nextIdx input
  let nextIdx := (filter.nextIdx + 1) % filter.windowSize
  let full := filter.full || nextIdx == 0
  let valid := if full then filter.windowSize else nextIdx
  have hWindow : window.length = filter.windowSize := by
    rw [List.length_set, filter.window_length]
  have hNext : nextIdx < filter.windowSize := Nat.mod_lt _ (Nat.zero_lt_of_lt filter.nextIdx_lt)
  have hValid : valid ≤ filter.windowSize := by
    show (if full then filter.windowSize else nextIdx) ≤ filter.windowSize
    split <;> omega
  if hZero : valid = 0 then
    (input, { filter with
      window, nextIdx, full, window_length := hWindow, nextIdx_lt := hNext })
  else
    -- copy the valid part of the window over the scratch buffer and sort it there
    let scratch := sortFloats (window.take valid) ++ filter.scratch.drop valid
    have hScratch : scratch.length = filter.windowSize := by
      have hOld := filter.scratch_length
      show (sortFloats (window.take valid) ++ filter.scratch.drop valid).length = filter.windowSize
      simp only [List.length_append, sortFloats_length, List.length_take, List.length_drop]
      omega
    have hMiddle : valid / 2 < scratch.length := by omega
    (scratch[valid / 2], { filter with
      window, scratch, nextIdx, full
      window_length := hWindow, scratch_length := hScratch, nextIdx_lt := hNext })

def reset (filter : MedianFilter F) : MedianFilter F :=
  { filter with
    window := List.replicate filter.windowSize (literal 0)
    scratch := List.replicate filter.windowSize (literal 0)
    nextIdx := 0
    full := false
    window_length := List.length_replicate
    scratch_length := List.length_replicate
    nextIdx_lt := Nat.zero_lt_of_lt filter.nextIdx_lt }

end MedianFilter

inductive SignalFilter (F : Type) where
  | passthrough
  | ema (filter : EmaFilter F)
  | lowpass1 (filter : Lowpass1Filter F)
  | median (filter : MedianFilter F)

namespace SignalFilter

def apply (filter : SignalFilter F) (input : F) : F × SignalFilter F :=
  match filter with
  | passthrough => (input, passthrough)
  | ema filter => (filter.apply input).map id ema
  | lowpass1 filter => (filter.apply input).map id lowpass1
  | median filter => (filter.apply input).map id median

end SignalFilter

def createFilter (type : FilterType) (param sampleHz : F) : SignalFilter F :=
  match type with
  | .passthrough => .passthrough
  | .ema => .ema (.create param)
  | .lowpass1 => .lowpass1 (.create param sampleHz)
  | .median =>
    let window :=
      if le (literal 1) param && le param (literal 1024) then toUInt16 param else 1
    .median (.create window)
  | .other _ => .passthrough

end Filters

end VsomeipDart
