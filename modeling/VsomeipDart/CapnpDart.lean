import VsomeipDart.Lib.BlockScope
import VsomeipDart.Lib.LittleEndian
import VsomeipDart.Lib.TextEncoding
import VsomeipDart.SchemaText
import VsomeipDart.Types

/-! # The generated Dart classes (`capnp_dart_gen.py`, `layout` and `emit`)

`emit` writes Dart text; what is modelled is the code in it, statement by statement, and what Dart makes
of that. Floating-point values are bit patterns of the width of their field. Offsets are far from the 64
bits of an `int`.
-/

namespace VsomeipDart
set_option autoImplicit false

open LittleEndian TextEncoding BlockScope

abbrev Name := List Char

inductive Scalar where
  | float32
  | float64
  | uint8
  | uint16
  | uint32
  | uint64
  | int8
  | int16
  | int32
  | int64
  deriving DecidableEq, Repr

def Scalar.size : Scalar → Nat
  | float32 | uint32 | int32 => 4
  | float64 | uint64 | int64 => 8
  | uint8 | int8 => 1
  | uint16 | int16 => 2

inductive Kind where
  | scalar (s : Scalar)
  | bool
  | text
  | data
  deriving DecidableEq, Repr

/-- The types that the generated code writes or infers. -/
inductive DartType where
  | int
  | double
  | bool
  | string
  | uint8List
  | byteData
  deriving DecidableEq, Repr

def Scalar.dartType : Scalar → DartType
  | float32 | float64 => .double
  | uint8 | uint16 | uint32 | uint64 | int8 | int16 | int32 | int64 => .int

def Kind.dartType : Kind → DartType
  | scalar s => s.dartType
  | bool => .bool
  | text => .string
  | data => .uint8List

def SCALAR_TYPES : List (Name × Scalar) :=
  [(['F', 'l', 'o', 'a', 't', '3', '2'], .float32), (['F', 'l', 'o', 'a', 't', '6', '4'], .float64),
    (['U', 'I', 'n', 't', '8'], .uint8), (['U', 'I', 'n', 't', '1', '6'], .uint16),
    (['U', 'I', 'n', 't', '3', '2'], .uint32), (['U', 'I', 'n', 't', '6', '4'], .uint64),
    (['I', 'n', 't', '8'], .int8), (['I', 'n', 't', '1', '6'], .int16),
    (['I', 'n', 't', '3', '2'], .int32), (['I', 'n', 't', '6', '4'], .int64)]

def BOOL_TYPE : Name := ['B', 'o', 'o', 'l']
def TEXT_TYPE : Name := ['T', 'e', 'x', 't']
def DATA_TYPE : Name := ['D', 'a', 't', 'a']

namespace Field

/-- `is_scalar`, `is_bool`, `is_text` and `is_data`; there may be none of them. -/
def kind (f : Field) : Option Kind :=
  match SCALAR_TYPES.lookup f.capnpType with
  | some s => some (.scalar s)
  | none =>
    if f.capnpType = BOOL_TYPE then some .bool
    else if f.capnpType = TEXT_TYPE then some .text
    else if f.capnpType = DATA_TYPE then some .data
    else none

def size (f : Field) : Nat :=
  match f.kind with
  | some (.scalar s) => s.size
  | some .bool => 1
  | _ => 0

end Field

/-- Python's `str.lower` and `str.capitalize`. -/
structure StringCase where
  lower : List Char → List Char
  capitalize : List Char → List Char

/-- The name of a field in the Dart code. A field's name is not empty. -/
def StringCase.snakeToCamel (case : StringCase) (name : Name) : Name :=
  if '_' ∉ name then
    match name with
    | [] => []
    | c :: rest => case.lower [c] ++ rest
  else
    match name.splitOn '_' with
    | [] => []
    | first :: rest => first ++ rest.flatMap case.capitalize

section Layout

def align (offset size : Nat) : Nat :=
  if offset % size ≠ 0 then offset + (size - offset % size) else offset

structure Placed where
  field : Field
  offset : Nat
  deriving DecidableEq, Repr

def place (offset : Nat) (f : Field) : Nat :=
  match f.kind with
  | some (.scalar s) => align offset s.size
  | _ => offset

def layoutFrom : Nat → List Field → List Placed
  | _, [] => []
  | offset, f :: rest =>
    let start := place offset f
    ⟨f, start⟩ :: layoutFrom (start + f.size) rest

def layoutEnd : Nat → List Field → Nat
  | offset, [] => offset
  | offset, f :: rest => layoutEnd (place offset f + f.size) rest

def layout (fields : List Field) : List Placed × Nat := (layoutFrom 0 fields, align (layoutEnd 0 fields) 8)

end Layout

inductive CapnpValue where
  | int (n : Int)
  | float32 (bits : Nat)
  | float64 (bits : Nat)
  | bool (b : Bool)
  | string (text : List Char)
  | bytes (data : Bytes)
  deriving DecidableEq, Repr

inductive ReadError where
  | rangeError
  | formatException
  deriving DecidableEq, Repr

def byteOrderMark : Char := '\uFEFF'

/-- `utf8.decode`, which drops a byte order mark in front, and throws a `FormatException` for `none`. -/
def utf8Decode (bytes : Bytes) : Option (List Char) :=
  (ofUtf8 bytes).map fun text => if text.head? = some byteOrderMark then text.tail else text

theorem utf8Decode_isSome (bytes : Bytes) :
    (utf8Decode bytes).isSome = true ↔ ∃ text, bytes = utf8 text := by
  rw [utf8Decode, Option.isSome_map, Option.isSome_iff_exists]
  exact exists_congr fun text => ofUtf8_eq_some

theorem utf8Decode_utf8 {text : List Char} (h : text.head? ≠ some byteOrderMark) :
    utf8Decode (utf8 text) = some text := by
  rw [utf8Decode, ofUtf8_eq_some.mpr rfl, Option.map_some, if_neg h]

section Reader

/-- The value of a pattern in two's complement. -/
def signed (size pattern : Nat) : Int :=
  if 2 * pattern < 256 ^ size then pattern else (pattern : Int) - (256 : Int) ^ size

/-- `ByteData.sublistView(_bytes).getUint…(offset, Endian.little)` -/
def getBits (size : Nat) (bytes : Bytes) (offset : Nat) : Except ReadError Nat :=
  match readAt size bytes offset with
  | some pattern => .ok pattern
  | none => .error .rangeError

/-- The read helpers; 0 and 0.0 are the pattern without a bit. -/
def readBits (size : Nat) (bytes : Bytes) (offset : Nat) : Except ReadError Nat :=
  if bytes.length < offset + size then .ok 0 else getBits size bytes offset

variable (bytes : Bytes) (offset : Nat)

def readFloat32 : Except ReadError CapnpValue := (readBits 4 bytes offset).map .float32
def readFloat64 : Except ReadError CapnpValue := (readBits 8 bytes offset).map .float64
def readUint16 : Except ReadError CapnpValue := (readBits 2 bytes offset).map fun p => .int p
def readUint32 : Except ReadError CapnpValue := (readBits 4 bytes offset).map fun p => .int p
/-- A Dart `int` is signed. -/
def readUint64 : Except ReadError CapnpValue := (readBits 8 bytes offset).map fun p => .int (signed 8 p)
def readInt16 : Except ReadError CapnpValue := (readBits 2 bytes offset).map fun p => .int (signed 2 p)
def readInt32 : Except ReadError CapnpValue := (readBits 4 bytes offset).map fun p => .int (signed 4 p)
def readInt64 : Except ReadError CapnpValue := (readBits 8 bytes offset).map fun p => .int (signed 8 p)

def readInt8 : Except ReadError CapnpValue :=
  if bytes.length ≤ offset then .ok (.int 0)
  else (getBits 1 bytes offset).map fun p => .int (signed 1 p)

/-- An accessor of a `UInt8` field, which uses no helper. -/
def readUint8 : Except ReadError CapnpValue :=
  if h : bytes.length > offset then .ok (.int bytes[offset].toNat) else .ok (.int 0)

def readBool : Except ReadError CapnpValue :=
  if h : bytes.length > offset then .ok (.bool ((bytes[offset] &&& 0x01) != 0)) else .ok (.bool false)

def Scalar.read : Scalar → Except ReadError CapnpValue
  | float32 => readFloat32 bytes offset
  | float64 => readFloat64 bytes offset
  | uint8 => readUint8 bytes offset
  | uint16 => readUint16 bytes offset
  | uint32 => readUint32 bytes offset
  | uint64 => readUint64 bytes offset
  | int8 => readInt8 bytes offset
  | int16 => readInt16 bytes offset
  | int32 => readInt32 bytes offset
  | int64 => readInt64 bytes offset

def readText : Except ReadError CapnpValue :=
  if bytes.length < offset + 4 then .ok (.string [])
  else do
    let len ← readBits 4 bytes offset
    let start := offset + 4
    if len = 0 ∨ bytes.length < start + len then return .string []
    match utf8Decode ((bytes.drop start).take len) with
    | some text => return .string text
    | none => .error .formatException

def readData : Except ReadError CapnpValue :=
  if bytes.length < offset + 4 then .ok (.bytes [])
  else do
    let len ← readBits 4 bytes offset
    let start := offset + 4
    if len = 0 ∨ bytes.length < start + len then return .bytes []
    return .bytes ((bytes.drop start).take len)

/-- `_…Offset()` of the variable field at an index, which calls that of the field before it. -/
def varOffset (headerLen : Nat) : Nat → Except ReadError Nat
  | 0 => .ok headerLen
  | i + 1 => do
    let prev ← varOffset headerLen i
    let len ← readBits 4 bytes prev
    return prev + 4 + len

/-- The body of a getter. -/
inductive Accessor where
  | bool (offset : Nat)
  | scalar (s : Scalar) (offset : Nat)
  | text (index : Nat)
  | data (index : Nat)
  deriving DecidableEq, Repr

def Accessor.get (headerLen : Nat) : Accessor → Except ReadError CapnpValue
  | bool offset => readBool bytes offset
  | scalar s offset => s.read bytes offset
  | text i => do readText bytes (← varOffset bytes headerLen i)
  | data i => do readData bytes (← varOffset bytes headerLen i)

end Reader

section Emit

variable (case : StringCase)

/-- The getters of the Reader, with `i` variable fields in front. -/
def emitGetters (i : Nat) : List Placed → List (Name × Accessor)
  | [] => []
  | p :: rest =>
    let name := case.snakeToCamel p.field.name
    match p.field.kind with
    | some .bool => (name, .bool p.offset) :: emitGetters i rest
    | some (.scalar s) => (name, .scalar s p.offset) :: emitGetters i rest
    | some .text => (name, .text i) :: emitGetters (i + 1) rest
    | some .data => (name, .data i) :: emitGetters (i + 1) rest
    | none => emitGetters i rest

end Emit

end VsomeipDart
