import Mathlib.Logic.Function.Basic
import VsomeipDart.Lib.CircularIndex

/-! # The single-producer single-consumer ring buffer (`ring_buffer.h`)

Two threads take turns in any order; a turn is one atomic step of a `push` or of a `pop`. Each thread
keeps the locals of the call it is in.
-/

namespace VsomeipDart
set_option autoImplicit false

open CircularIndex

inductive Thread where
  | producer
  | consumer
  deriving DecidableEq, Repr

/-- Where the producer is in `push(entry)`: the next step is the named one. -/
inductive Push (T : Type) where
  | idle
  | loadTail (entry : T) (head next : UInt32)
  | copySlot (entry : T) (head next : UInt32)
  | storeHead (entry : T) (next : UInt32)

inductive Pop (T : Type) where
  | idle
  | loadHead (tail : UInt32)
  | copySlot (tail : UInt32)
  | storeTail (tail : UInt32) (out : T)

inductive Return (T : Type) where
  | pushed (entry : T)
  | full (entry : T)
  | popped (out : T)
  | empty
  deriving DecidableEq, Repr

/-- The buffer, the two threads and the calls that they still have to make. -/
structure RingBuffer (T : Type) where
  head : UInt32
  tail : UInt32
  buf : UInt32 → T
  push : Push T
  pop : Pop T
  pushes : List T
  pops : Nat

namespace RingBuffer

variable {T : Type}

def create (buf : UInt32 → T) (pushes : List T) (pops : Nat) : RingBuffer T where
  head := 0
  tail := 0
  buf := buf
  push := .idle
  pop := .idle
  pushes := pushes
  pops := pops

variable (c : Capacity)

def stepPush (s : RingBuffer T) : RingBuffer T × Option (Return T) :=
  match s.push with
  | .idle =>
    match s.pushes with
    | [] => (s, none)
    | entry :: rest =>
      let head := s.head
      let next := (head + 1) &&& c.mask
      ({ s with push := .loadTail entry head next, pushes := rest }, none)
  | .loadTail entry head next =>
    if next = s.tail then ({ s with push := .idle }, some (.full entry))
    else ({ s with push := .copySlot entry head next }, none)
  | .copySlot entry head next =>
    ({ s with buf := Function.update s.buf head entry, push := .storeHead entry next }, none)
  | .storeHead entry next => ({ s with head := next, push := .idle }, some (.pushed entry))

def stepPop (s : RingBuffer T) : RingBuffer T × Option (Return T) :=
  match s.pop with
  | .idle =>
    match s.pops with
    | 0 => (s, none)
    | pops + 1 => ({ s with pop := .loadHead s.tail, pops }, none)
  | .loadHead tail =>
    if tail = s.head then ({ s with pop := .idle }, some .empty)
    else ({ s with pop := .copySlot tail }, none)
  | .copySlot tail => ({ s with pop := .storeTail tail (s.buf tail) }, none)
  | .storeTail tail out =>
    ({ s with tail := (tail + 1) &&& c.mask, pop := .idle }, some (.popped out))

def step (s : RingBuffer T) : Thread → RingBuffer T × Option (Return T)
  | .producer => s.stepPush c
  | .consumer => s.stepPop c

def size (s : RingBuffer T) : UInt32 := (s.head - s.tail) &&& c.mask

def empty (s : RingBuffer T) : Bool := s.head == s.tail

end RingBuffer

def Return.accepted? {T : Type} : Return T → Option T
  | .pushed entry => some entry
  | _ => none

def Return.popped? {T : Type} : Return T → Option T
  | .popped out => some out
  | _ => none

def accepted {T : Type} (returns : List (Option (Return T))) : List T :=
  returns.filterMap (·.bind Return.accepted?)

def popped {T : Type} (returns : List (Option (Return T))) : List T :=
  returns.filterMap (·.bind Return.popped?)

end VsomeipDart
