import Mathlib.Data.List.Chain
import VsomeipDart.Lib.CircularBuffer

/-! # The history behind a sparkline (`example/flutter_drone_cockpit`)

A bounded buffer of samples, of which one is taken in each interval of the clock, that is read in milliseconds.
The samples stay abstract: nothing is computed with them. There is room for one at least: without any the first
`add` that is due throws.
-/

namespace VsomeipDart
set_option autoImplicit false

structure Duration where
  inMicroseconds : Int
  deriving DecidableEq

namespace Duration

def milliseconds (n : Int) : Duration := ⟨1000 * n⟩

def inMilliseconds (d : Duration) : Int := d.inMicroseconds.tdiv 1000

end Duration

structure SignalHistory (D : Type) where
  /-- `_buf`, `_head` and `_count` -/
  ring : CircularBuffer D
  interval : Duration
  lastCaptureMs : Int

inductive HistoryCall (D : Type) where
  /-- with what `DateTime.now()` reads -/
  | add (now : Int) (value : D)
  | clear

namespace SignalHistory

variable {D : Type}

/-- A `Float64List` is filled with zeros. -/
def create (capacity : Nat) (interval : Duration) (zero : D) (h : 0 < capacity) : SignalHistory D :=
  ⟨.create capacity zero h, interval, 0⟩

def createDefault (zero : D) : SignalHistory D := create 120 (.milliseconds 50) zero (Nat.succ_pos 119)

def capacity (history : SignalHistory D) : Nat := history.ring.slots.length

def add (now : Int) (value : D) (history : SignalHistory D) : SignalHistory D :=
  if now - history.lastCaptureMs < history.interval.inMilliseconds then history
  else { history with ring := history.ring.push value, lastCaptureMs := now }

def samples (history : SignalHistory D) : List D := history.ring.toList

def length (history : SignalHistory D) : Nat := history.ring.count

def clear (history : SignalHistory D) : SignalHistory D :=
  { history with ring := history.ring.clear, lastCaptureMs := 0 }

def exec (history : SignalHistory D) : HistoryCall D → SignalHistory D
  | .add now value => history.add now value
  | .clear => history.clear

def run (history : SignalHistory D) (calls : List (HistoryCall D)) : SignalHistory D :=
  calls.foldl exec history

def due (interval : Duration) (taken : List (Int × D)) (now : Int) : Bool :=
  interval.inMilliseconds ≤ now - (taken.getLast?.map Prod.fst).getD 0

/-- The readings and values that were taken since the last `clear`. -/
def taken (interval : Duration) (calls : List (HistoryCall D)) : List (Int × D) :=
  calls.foldl (fun taken call =>
    match call with
    | .add now value => if due interval taken now then taken ++ [(now, value)] else taken
    | .clear => []) []

/-- What holds of a history in which `taken` was taken. -/
structure Keeps (history : SignalHistory D) (taken : List (Int × D)) : Prop where
  holds : history.ring.Holds (taken.map Prod.snd)
  last : history.lastCaptureMs = (taken.getLast?.map Prod.fst).getD 0
  spaced : (taken.map Prod.fst).IsChain fun earlier later =>
    history.interval.inMilliseconds ≤ later - earlier

theorem keeps_create (capacity : Nat) (interval : Duration) (zero : D) (h : 0 < capacity) :
    (create capacity interval zero h).Keeps [] :=
  ⟨CircularBuffer.holds_create capacity zero h, rfl, .nil⟩

theorem Keeps.add {history : SignalHistory D} {taken : List (Int × D)} (h : history.Keeps taken) (now : Int)
    (value : D) : (history.add now value).Keeps
      (if due history.interval taken now then taken ++ [(now, value)] else taken) := by
  have hLast := h.last
  rw [SignalHistory.add, hLast]
  cases hDue : due history.interval taken now with
  | false =>
    rw [if_neg Bool.false_ne_true, if_pos (by simpa [due] using hDue)]
    exact h
  | true =>
    have hFar := of_decide_eq_true hDue
    rw [if_pos rfl, if_neg (by omega)]
    refine ⟨?_, ?_, ?_⟩
    · rw [List.map_append]
      exact h.holds.push value
    · simp
    · rw [List.map_append]
      refine h.spaced.append (List.isChain_singleton _) fun earlier hEarlier later hLater => ?_
      obtain rfl : now = later := by simpa using hLater
      rw [List.getLast?_map, Option.mem_def] at hEarlier
      rwa [hEarlier] at hFar

theorem keeps_clear (history : SignalHistory D) : history.clear.Keeps [] :=
  ⟨CircularBuffer.holds_clear history.ring, rfl, .nil⟩

theorem add_capacity (history : SignalHistory D) (now : Int) (value : D) :
    (history.add now value).capacity = history.capacity ∧
      (history.add now value).interval = history.interval := by
  rw [SignalHistory.add]
  split
  · exact ⟨rfl, rfl⟩
  · exact ⟨List.length_set, rfl⟩

theorem Keeps.run {history : SignalHistory D} {before : List (HistoryCall D)}
    (h : history.Keeps (taken history.interval before)) (calls : List (HistoryCall D)) :
    (history.run calls).Keeps (taken history.interval (before ++ calls)) ∧
      (history.run calls).capacity = history.capacity ∧ (history.run calls).interval = history.interval := by
  induction calls generalizing history before with
  | nil =>
    rw [List.append_nil]
    exact ⟨h, rfl, rfl⟩
  | cons call rest ih =>
    have hExec : (history.exec call).Keeps (taken history.interval (before ++ [call])) ∧
        (history.exec call).capacity = history.capacity ∧
          (history.exec call).interval = history.interval := by
      rw [taken, List.foldl_append]
      cases call with
      | add now value => exact ⟨h.add now value, history.add_capacity now value⟩
      | clear => exact ⟨history.keeps_clear, rfl, rfl⟩
    obtain ⟨hNext, hCapacity, hInterval⟩ := hExec
    rw [← hInterval] at hNext
    obtain ⟨hKeeps, hSame, hSameInterval⟩ := ih hNext
    rw [hInterval, List.append_assoc] at hKeeps
    exact ⟨hKeeps, hSame.trans hCapacity, hSameInterval.trans hInterval⟩

/-- Whatever the clock does, the samples are the newest of those that were taken since the last `clear`, as
many as there is room for, and the whole milliseconds of the interval are between any two that follow each other. -/
theorem samples_newest (capacity : Nat) (interval : Duration) (zero : D) (h : 0 < capacity)
    (calls : List (HistoryCall D)) :
    ((create capacity interval zero h).run calls).samples =
        ((taken interval calls).map Prod.snd).rtake capacity ∧
      ((create capacity interval zero h).run calls).length = min (taken interval calls).length capacity ∧
      ((taken interval calls).map Prod.fst).IsChain fun earlier later =>
        interval.inMilliseconds ≤ later - earlier := by
  obtain ⟨hKeeps, hCapacity, hInterval⟩ := @Keeps.run _ _ [] (keeps_create capacity interval zero h) calls
  have hSlots : ((create capacity interval zero h).run calls).ring.slots.length = capacity :=
    hCapacity.trans List.length_replicate
  refine ⟨?_, ?_, ?_⟩
  · rw [samples, CircularBuffer.toList_eq hKeeps.holds, hSlots]
    rfl
  · rw [length, hKeeps.holds.count, hSlots, List.length_map]
    rfl
  · have hSpaced := hKeeps.spaced
    rwa [hInterval] at hSpaced

/-- The second value comes too early, and the last one takes the place of the first. -/
theorem samples_newest_two :
    ((create 2 (.milliseconds 50) 0 (by decide)).run
      [.add 1000 1, .add 1010 2, .add 1050 3, .add 1120 4]).samples = [3, 4] :=
  (samples_newest 2 (.milliseconds 50) 0 (by decide) _).1.trans (by decide)

end SignalHistory

end VsomeipDart
