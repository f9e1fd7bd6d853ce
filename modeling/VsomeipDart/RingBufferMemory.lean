import Mathlib.Data.Finset.Insert
import VsomeipDart.Lib.ReleaseAcquire
import VsomeipDart.RingBufferRuns

/-! # The ring buffer on release/acquire memory (`ring_buffer.h`)

The two indices are atomic and the slots are plain memory. A thread may load a stale index of the other
one: a step comes with how far its load lags behind. A data race has no result.
-/

namespace VsomeipDart
set_option autoImplicit false

open CircularIndex ReleaseAcquire

instance : Fintype Thread := ⟨{.producer, .consumer}, fun t => by cases t <;> decide⟩

/-- The atomic members `head_` and `tail_`. -/
inductive RingIndex where
  | head
  | tail
  deriving DecidableEq, Repr

abbrev RingMemory (T : Type) := Memory Thread RingIndex UInt32 UInt32 T

structure AtomicRing (T : Type) where
  memory : RingMemory T
  push : Push T
  pop : Pop T
  pushes : List T
  pops : Nat

namespace AtomicRing

variable {T : Type}

def create (buf : UInt32 → T) (pushes : List T) (pops : Nat) : AtomicRing T where
  memory := .initial (fun _ => 0) buf
  push := .idle
  pop := .idle
  pushes := pushes
  pops := pops

variable (c : Capacity)

def stepPush (s : AtomicRing T) (lag : Nat) : Option (AtomicRing T × Option (Return T)) :=
  match s.push with
  | .idle =>
    match s.pushes with
    | [] => some (s, none)
    | entry :: rest => do
      let (head, memory) ← s.memory.load false .producer .head lag
      let next := (head + 1) &&& c.mask
      return ({ s with memory, push := .loadTail entry head next, pushes := rest }, none)
  | .loadTail entry head next => do
    let (tail, memory) ← s.memory.load true .producer .tail lag
    if next = tail then return ({ s with memory, push := .idle }, some (.full entry))
    else return ({ s with memory, push := .copySlot entry head next }, none)
  | .copySlot entry head next => do
    let memory ← s.memory.writePlain .producer head entry
    return ({ s with memory, push := .storeHead entry next }, none)
  | .storeHead entry next =>
    some ({ s with memory := s.memory.store true .producer .head next, push := .idle },
      some (.pushed entry))

def stepPop (s : AtomicRing T) (lag : Nat) : Option (AtomicRing T × Option (Return T)) :=
  match s.pop with
  | .idle =>
    match s.pops with
    | 0 => some (s, none)
    | pops + 1 => do
      let (tail, memory) ← s.memory.load false .consumer .tail lag
      return ({ s with memory, pop := .loadHead tail, pops }, none)
  | .loadHead tail => do
    let (head, memory) ← s.memory.load true .consumer .head lag
    if tail = head then return ({ s with memory, pop := .idle }, some .empty)
    else return ({ s with memory, pop := .copySlot tail }, none)
  | .copySlot tail => do
    let (out, memory) ← s.memory.readPlain .consumer tail
    return ({ s with memory, pop := .storeTail tail out }, none)
  | .storeTail tail out =>
    some ({ s with memory := s.memory.store true .consumer .tail ((tail + 1) &&& c.mask), pop := .idle },
      some (.popped out))

/-- A turn of a thread, whose load lags behind by so many stores. -/
def step (s : AtomicRing T) : Thread × Nat → Option (AtomicRing T × Option (Return T))
  | (.producer, lag) => s.stepPush c lag
  | (.consumer, lag) => s.stepPop c lag

/-- `size()` by one of the two threads, whose loads lag behind by so many stores. -/
def size (s : AtomicRing T) (t : Thread) (headLag tailLag : Nat) : Option UInt32 := do
  let (head, memory) ← s.memory.load true t .head headLag
  let (tail, _) ← memory.load true t .tail tailLag
  return (head - tail) &&& c.mask

def latest (m : RingMemory T) (index : RingIndex) : UInt32 :=
  ((m.stores index).getLast?.map Store.value).getD 0

/-- The ring buffer with the latest values of the indices. -/
def view (s : AtomicRing T) : RingBuffer T where
  head := latest s.memory .head
  tail := latest s.memory .tail
  buf := s.memory.plain
  push := s.push
  pop := s.pop
  pushes := s.pushes
  pops := s.pops

theorem latest_store (m : RingMemory T) (release : Bool) (t : Thread) (index : RingIndex) (v : UInt32) :
    latest (m.store release t index v) index = v := by
  rw [latest, Memory.stores_store_self, List.getLast?_concat]
  rfl

theorem latest_store_of_ne {index other : RingIndex} (h : other ≠ index) (m : RingMemory T) (release : Bool)
    (t : Thread) (v : UInt32) : latest (m.store release t index v) other = latest m other := by
  rw [latest, Memory.stores_store_of_ne h, ← latest]

end AtomicRing

end VsomeipDart
