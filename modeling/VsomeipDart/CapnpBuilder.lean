import VsomeipDart.CapnpDart

/-! # The generated Builder class (`capnp_dart_gen.py`, `emit`)

The body of `build` is a block of Dart statements. Its variables have fixed names or names that are made
from those of the fields, and the parameters are named as the fields are. Where Dart refuses to compile
the block, because a variable is used in front of its declaration or has the wrong type, it has no result.
-/

namespace VsomeipDart
set_option autoImplicit false

open LittleEndian TextEncoding BlockScope

/-- What an expression denotes: a value, the list that `build` fills, or the view of it. -/
inductive Operand where
  | value (v : CapnpValue)
  | buffer
  | view
  deriving DecidableEq, Repr

inductive Expr where
  | lit (n : Nat)
  | var (x : Name)
  /-- `x.length` -/
  | length (x : Name)
  | add (left right : Expr)
  /-- `utf8.encode(x)` -/
  | encode (x : Name)
  /-- `x ? 1 : 0` -/
  | bit (x : Name)

inductive Stmt where
  /-- `final x = e;` and `int x = e;` -/
  | declare (x : Name) (e : Expr)
  /-- `final x = Uint8List(size);` -/
  | newList (x : Name) (size : Expr)
  /-- `final x = ByteData.sublistView(list);` -/
  | newView (x list : Name)
  /-- `x += e;` -/
  | increase (x : Name) (e : Expr)
  /-- `view.set…(offset, e, Endian.little);` -/
  | set (view : Name) (s : Scalar) (offset e : Expr)
  /-- `list.setRange(start, stop, source);` -/
  | setRange (list : Name) (start stop : Expr) (source : Name)
  /-- `return x;` -/
  | ret (x : Name)

def Stmt.declares : Stmt → Option Name
  | declare x _ | newList x _ | newView x _ => some x
  | increase .. | set .. | setRange .. | ret _ => none

structure BlockState where
  scope : Scope Name Operand
  /-- the bytes of the list -/
  memory : Bytes

/-- The bits that a setter writes: an `int` is cut to the width. -/
def Scalar.pattern : Scalar → CapnpValue → Option Nat
  | float32, .float32 bits | float64, .float64 bits => some bits
  | float32, _ | float64, _ => none
  | s, .int n => some (n % (256 : Int) ^ s.size).toNat
  | _, _ => none

namespace BlockState

def eval (s : BlockState) : Expr → Option Operand
  | .lit n => some (.value (.int n))
  | .var x => s.scope.resolve x
  | .length x =>
    match s.scope.resolve x with
    | some (.value (.bytes data)) => some (.value (.int data.length))
    | some (.value (.string text)) => some (.value (.int (utf16 text).length))
    | some .buffer => some (.value (.int s.memory.length))
    | _ => none
  | .add left right =>
    match s.eval left, s.eval right with
    | some (.value (.int m)), some (.value (.int n)) => some (.value (.int (m + n)))
    | _, _ => none
  | .encode x =>
    match s.scope.resolve x with
    | some (.value (.string text)) => some (.value (.bytes (utf8 text)))
    | _ => none
  | .bit x =>
    match s.scope.resolve x with
    | some (.value (.bool b)) => some (.value (.int (if b then 1 else 0)))
    | _ => none

def evalIndex (s : BlockState) (e : Expr) : Option Nat :=
  match s.eval e with
  | some (.value (.int n)) => if 0 ≤ n then some n.toNat else none
  | _ => none

def exec (s : BlockState) : Stmt → Option BlockState
  | .declare x e => do
    let v ← s.eval e
    return { s with scope := s.scope.assign x v }
  | .newList x size => do
    let size ← s.evalIndex size
    return { scope := s.scope.assign x .buffer, memory := List.replicate size 0 }
  | .newView x list =>
    match s.scope.resolve list with
    | some .buffer => some { s with scope := s.scope.assign x .view }
    | _ => none
  | .increase x e => do
    let v ← s.eval (.add (.var x) e)
    return { s with scope := s.scope.assign x v }
  | .set view width offset e =>
    match s.scope.resolve view, s.evalIndex offset, s.eval e with
    | some .view, some offset, some (.value v) => do
      let pattern ← width.pattern v
      let memory ← writeAt width.size s.memory offset pattern
      return { s with memory }
    | _, _, _ => none
  | .setRange list start stop source =>
    match s.scope.resolve list, s.evalIndex start, s.evalIndex stop, s.scope.resolve source with
    | some .buffer, some start, some stop, some (.value (.bytes data)) =>
      if start ≤ stop ∧ stop ≤ s.memory.length ∧ stop - start ≤ data.length then
        some { s with
          memory := s.memory.take start ++ (data.take (stop - start) ++ s.memory.drop stop) }
      else none
    | _, _, _, _ => none
  | .ret _ => none

def run (s : BlockState) : List Stmt → Option Bytes
  | [] => none
  | .ret x :: _ =>
    match s.scope.resolve x with
    | some .buffer => some s.memory
    | some (.value (.bytes data)) => some data
    | _ => none
  | stmt :: rest => do
    let s ← s.exec stmt
    s.run rest

end BlockState

section Emit

def buf : Name := ['b', 'u', 'f']
def bd : Name := ['b', 'd']
def total : Name := ['t', 'o', 't', 'a', 'l']
def cursor : Name := ['p']
def schemaId : Name := ['s', 'c', 'h', 'e', 'm', 'a', 'I', 'd']

def bytesName (name : Name) : Name := name ++ ['B', 'y', 't', 'e', 's']

variable (case : StringCase)

def Field.dartName (f : Field) : Name := case.snakeToCamel f.name

def isVariable (f : Field) : Bool := f.kind == some .text || f.kind == some .data

def variableFields (fields : List Field) : List Field := fields.filter isVariable

def source (f : Field) : Name :=
  if f.kind = some .text then bytesName (f.dartName case) else f.dartName case

def emitEncodings (vars : List Field) : List Stmt :=
  (vars.filter fun f => f.kind == some .text).map fun f =>
    .declare (bytesName (f.dartName case)) (.encode (f.dartName case))

def emitTotal (headerLen : Nat) (vars : List Field) : Expr :=
  vars.foldl (fun e f => .add (.add e (.lit 4)) (.length (source case f))) (.lit headerLen)

def emitSetters : List Placed → List Stmt
  | [] => []
  | p :: rest =>
    let name := p.field.dartName case
    match p.field.kind with
    | some .bool => .set bd .uint8 (.lit p.offset) (.bit name) :: emitSetters rest
    | some (.scalar s) => .set bd s (.lit p.offset) (.var name) :: emitSetters rest
    | _ => emitSetters rest

def emitRecords (vars : List Field) : List Stmt :=
  vars.flatMap fun f =>
    [.set bd .uint32 (.var cursor) (.length (source case f)),
      .increase cursor (.lit 4),
      .setRange buf (.var cursor) (.add (.var cursor) (.length (source case f))) (source case f),
      .increase cursor (.length (source case f))]

/-- Like a getter, a parameter is only there for a field whose type is known. -/
def emitParameters (fields : List Field) : List (Name × DartType) :=
  fields.filterMap fun f => f.kind.map fun kind => (f.dartName case, kind.dartType)

def emitBuild (placed : List Placed) (headerLen : Nat) : List Stmt :=
  let vars := variableFields (placed.map Placed.field)
  if vars ≠ [] then
    emitEncodings case vars ++ [.declare total (emitTotal case headerLen vars), .newList buf (.var total),
      .newView bd buf] ++ emitSetters case placed ++ [.declare cursor (.lit headerLen)] ++
      emitRecords case vars ++ [.ret buf]
  else
    [.newList buf (.lit headerLen), .newView bd buf] ++ emitSetters case placed ++ [.ret buf]

end Emit

/-- What `emit` writes for a list of fields: the header length, the getters of the Reader, and the parameters
and the body of `build`. -/
structure Emitted where
  headerLen : Nat
  getters : List (Name × Accessor)
  parameters : List (Name × DartType)
  body : List Stmt

def emit (case : StringCase) (fields : List Field) : Emitted :=
  let (placed, headerLen) := layout fields
  { headerLen
    getters := emitGetters case 0 placed
    parameters := emitParameters case fields
    body := emitBuild case placed headerLen }

namespace Emitted

variable (code : Emitted)

def start (args : List (Name × CapnpValue)) : BlockState where
  scope :=
    { outer := args.map fun arg => (arg.1, .value arg.2)
      locals := code.body.filterMap Stmt.declares
      values := [] }
  memory := []

def build (args : List (Name × CapnpValue)) : Option Bytes := (code.start args).run code.body

def read (bytes : Bytes) (name : Name) : Option (Except ReadError CapnpValue) :=
  (code.getters.lookup name).map fun accessor => accessor.get bytes code.headerLen

end Emitted

end VsomeipDart
