import VsomeipDart.Bridge
import VsomeipDart.Lib.OwnedHeap

/-! # The buffers that are posted to Dart (`vsomeip_bridge.cpp`)

A buffer is on the heap, and in a `unique_ptr` until a post of it succeeds. From then on it is the Dart VM
that frees it, by the callback of the external typed data, as soon as no one in Dart holds it. Any number of
threads post; an allocation can fail, a post can be refused, and an address is used again once it is free.
-/

namespace VsomeipDart
set_option autoImplicit false

namespace PostedBuffers

/-- A call of `post_to_dart` or `post_message_to_dart`. There are as many bytes behind a pointer as the length
says, and the data of the first is never null. -/
inductive Call where
  | toDart (port : DartPort) (disc : UInt8) (data : Bytes) (len : UInt32) (fits : len.toNat ≤ data.length)
  | messageToDart (port : DartPort) (post : MessagePost)
    (fits : ∀ payload ∈ post.payload, post.payloadLen.toNat ≤ payload.length)

namespace Call

def port : Call → DartPort
  | toDart port .. => port
  | messageToDart port .. => port

def returns (ready : Bool) : Call → Bool
  | toDart _ _ _ len _ => !ready || decide (len > kMaxPayloadBytes)
  | messageToDart _ post _ => !ready || decide (post.payloadLen > kMaxPayloadBytes)

/-- What is copied into a buffer, which is of that size; without a payload there is none. -/
def copied : Call → Option Bytes
  | toDart _ disc data len _ => some (disc :: data.take len.toNat)
  | messageToDart _ post _ =>
    match post.payload with
    | some payload => if post.payloadLen > 0 then some (payload.take post.payloadLen.toNat) else none
    | none => none

def size : Call → Nat
  | toDart _ _ _ len _ => len.toNat + 1
  | messageToDart _ post _ => post.payloadLen.toNat

def object (buffer : Option Bytes) : Call → CObject
  | toDart .. => .value (.externalTypedData (buffer.getD []))
  | messageToDart _ post _ =>
    .array [.typedData post.header, (buffer.map CValue.externalTypedData).getD .null]

def post (ready : Bool) : Call → Option (DartPort × CObject)
  | toDart port disc data len _ => (Bridge.postToDart ready disc data len).map fun obj => (port, obj)
  | messageToDart port post _ => (Bridge.postMessageToDart ready post).map fun obj => (port, obj)

end Call

/-- Where a thread is in a call; `owned` is the pointer in the `unique_ptr`. -/
inductive Stage where
  | idle
  /-- behind `owned.reset`, with a buffer that nothing is copied to -/
  | allocated (call : Call) (owned : Nat)
  /-- in front of `g_post_cobject` -/
  | built (call : Call) (owned : Option Nat)
  /-- behind `g_post_cobject` -/
  | returned (owned : Option Nat) (accepted : Bool)

structure Poster where
  calls : List Call
  stage : Stage
  /-- what Dart is given -/
  posts : List (DartPort × CObject)

structure External where
  peer : Nat
  bytes : Bytes

structure Process where
  heap : Heap Bytes
  externals : List External
  posters : List Poster

structure Choice where
  /-- `none` is a `std::bad_alloc` -/
  address : Option Nat
  garbage : Bytes
  accepted : Bool

inductive Action where
  | turn (i : Nat) (choice : Choice)
  /-- the VM calls the callback of one of its objects -/
  | finalize (k : Nat)

/-- `memcpy`; `none` is a write outside of a buffer. -/
def fill (heap : Heap Bytes) (addr : Nat) (bytes : Bytes) : Option (Heap Bytes) := do
  let block ← heap addr
  if bytes.length ≤ block.length then heap.write addr (bytes ++ block.drop bytes.length) else none

/-- A step of a thread; `none` is a memory fault. -/
def step (ready : Bool) (choice : Choice) (heap : Heap Bytes) (externals : List External) (t : Poster) :
    Option (Heap Bytes × List External × Poster) :=
  match t.stage with
  | .idle =>
    match t.calls with
    | [] => some (heap, externals, t)
    | call :: rest =>
      if call.returns ready then some (heap, externals, { t with calls := rest })
      else if call.copied.isNone then
        some (heap, externals, { t with calls := rest, stage := .built call none })
      else
        match choice.address with
        | none => some (heap, externals, { t with calls := rest })
        | some addr =>
          -- the allocator does not give an address that is in use
          if (heap addr).isSome then some (heap, externals, t)
          else some (heap.put addr (choice.garbage.takeD call.size 0), externals,
            { t with calls := rest, stage := .allocated call addr })
  | .allocated call owned => do
    let heap ← fill heap owned (call.copied.getD [])
    return (heap, externals, { t with stage := .built call (some owned) })
  | .built call none =>
    if choice.accepted then
      some (heap, externals,
        { t with stage := .returned none true, posts := t.posts ++ [(call.port, call.object none)] })
    else some (heap, externals, { t with stage := .returned none false })
  | .built call (some owned) => do
    let bytes ← heap owned
    if choice.accepted then
      return (heap, externals ++ [⟨owned, bytes⟩],
        { t with stage := .returned (some owned) true, posts := t.posts ++ [(call.port, call.object bytes)] })
    else return (heap, externals, { t with stage := .returned (some owned) false })
  | .returned (some owned) false => do
    let heap ← heap.free owned
    return (heap, externals, { t with stage := .idle })
  | .returned _ _ => some (heap, externals, { t with stage := .idle })

def act (ready : Bool) (s : Process) : Action → Option Process
  | .turn i choice =>
    match s.posters[i]? with
    | none => some s
    | some t => do
      let (heap, externals, t) ← step ready choice s.heap s.externals t
      return { heap, externals, posters := s.posters.set i t }
  | .finalize k =>
    match s.externals[k]? with
    | none => some s
    | some external => do
      let heap ← s.heap.free external.peer
      return { s with heap, externals := s.externals.eraseIdx k }

def start (plan : List (List Call)) : Process where
  heap := Heap.empty
  externals := []
  posters := plan.map fun calls => ⟨calls, .idle, []⟩

def run (ready : Bool) (s : Process) (actions : List Action) : Option Process := actions.foldlM (act ready) s

end PostedBuffers

end VsomeipDart
