import Mathlib.Algebra.Order.Floor.Ring
import VsomeipDart.Lib.Limiter
import VsomeipDart.ThrottleSpacing
import VsomeipDart.Throttling

/-! # Throttling by the wall clock (`throttle.dart`, `vsomeip_worker.dart`)

`_nowUs` is `DateTime.now()`, a clock that can be set. Time is in microseconds, in any ordered ring with a
floor; between the messages real time passes and the clock is adjusted.
-/

namespace VsomeipDart
set_option autoImplicit false

section Clock

variable (T : Type)

structure Clock where
  elapsed : T
  ahead : T

inductive ClockEvent [LE T] [Zero T] where
  | pass (duration : {duration : T // 0 ≤ duration})
  | adjust (step : T)
  | message (buffers : MessageBuffers)

structure Arrival where
  clock : Clock T
  buffers : MessageBuffers

end Clock

variable {T : Type}

section Time

variable [Ring T] [LinearOrder T]

def arrivals (clock : Clock T) : List (ClockEvent T) → List (Arrival T)
  | [] => []
  | .pass duration :: rest => arrivals { clock with elapsed := clock.elapsed + duration.1 } rest
  | .adjust step :: rest => arrivals { clock with ahead := clock.ahead + step } rest
  | .message buffers :: rest => ⟨clock, buffers⟩ :: arrivals clock rest

/-- Nobody sets the clock, and it is read at whole microseconds. -/
def Steady : ClockEvent T → Prop
  | .pass duration => ∃ n : Int, duration.1 = n
  | .adjust _ => False
  | .message _ => True

theorem arrivals_steady (clock : Clock T) {events : List (ClockEvent T)}
    (hSteady : ∀ event ∈ events, Steady event) : ∀ arrival ∈ arrivals clock events,
      (∃ n : Int, arrival.clock.elapsed = clock.elapsed + n) ∧ arrival.clock.ahead = clock.ahead := by
  induction events generalizing clock with
  | nil => simp [arrivals]
  | cons event rest ih =>
    obtain ⟨hHead, hTail⟩ := List.forall_mem_cons.mp hSteady
    cases event with
    | pass duration =>
      obtain ⟨n, hWhole⟩ := hHead
      intro arrival hMem
      obtain ⟨⟨m, hElapsed⟩, hAhead⟩ := ih _ hTail arrival hMem
      refine ⟨⟨n + m, ?_⟩, hAhead⟩
      rw [hElapsed, hWhole, Int.cast_add, add_assoc]
    | adjust => exact hHead.elim
    | message buffers =>
      rw [arrivals, List.forall_mem_cons]
      exact ⟨⟨⟨0, by simp⟩, rfl⟩, ih clock hTail⟩

/-- `DateTime.now().microsecondsSinceEpoch` -/
def Clock.nowUs [FloorRing T] (clock : Clock T) : Int := ⌊clock.elapsed + clock.ahead⌋

end Time

namespace Arrival

def key (arrival : Arrival T) : SomeIpKey := arrival.buffers.message.key

def sent (arrival : Arrival T) : List DartObject := [.someIpMessage arrival.buffers.message]

def turn [Ring T] [LinearOrder T] [FloorRing T] (arrival : Arrival T) : Int × DartObject :=
  (arrival.clock.nowUs, arrival.buffers.object)

end Arrival

/-- Throttles as their constructor leaves them. -/
structure FreshThrottles where
  throttles : Throttles
  fresh : ∀ key throttle, throttles.lookup key = some throttle →
    ∃ maxHz, SignalThrottle.create maxHz = .ok throttle

namespace FreshThrottles

def unlimited : FreshThrottles := ⟨∅, fun _ _ hThrottle => by cases hThrottle⟩

variable (config : FreshThrottles)

def worker : WorkerState := ⟨config.throttles, true⟩

def set (key : SomeIpKey) {maxHz : Double} {throttle : SignalThrottle}
    (hCreate : SignalThrottle.create maxHz = .ok throttle) : FreshThrottles where
  throttles := config.throttles.insert key throttle
  fresh key' throttle' hThrottle := by
    rw [FiniteMap.lookup_insert] at hThrottle
    split at hThrottle
    · cases hThrottle
      exact ⟨maxHz, hCreate⟩
    · exact config.fresh key' throttle' hThrottle

def intervalUs (key : SomeIpKey) : Int :=
  match config.throttles.lookup key with
  | none => 0
  | some throttle => throttle.intervalUs

variable [Ring T] [LinearOrder T] [FloorRing T]

/-- The interval of the signal has passed in real time. -/
def DueByTime (last now : Arrival T) : Prop :=
  config.intervalUs now.key = 0 ∨
    (config.intervalUs now.key : T) ≤ now.clock.elapsed - last.clock.elapsed

def DueByClock (last now : Arrival T) : Prop :=
  config.intervalUs now.key = 0 ∨ config.intervalUs now.key ≤ now.clock.nowUs - last.clock.nowUs

instance : DecidableRel (config.DueByTime (T := T)) := fun _ _ => inferInstanceAs (Decidable (_ ∨ _))

instance : DecidableRel (config.DueByClock (T := T)) := fun _ _ => inferInstanceAs (Decidable (_ ∨ _))

def sends (log : List (Arrival T)) : List (List DartObject) :=
  (Mealy.run Worker.turn config.worker (log.map Arrival.turn)).2

/-- The limiter on real time: a message of a signal is passed if none was passed before, or if the
interval has passed since the last one that was. -/
def timeTurn : (SomeIpKey → Option (Arrival T)) → Arrival T →
    (SomeIpKey → Option (Arrival T)) × List DartObject :=
  Limiter.turn Arrival.key Arrival.sent config.DueByTime

def clockTurn : (SomeIpKey → Option (Arrival T)) → Arrival T →
    (SomeIpKey → Option (Arrival T)) × List DartObject :=
  Limiter.turn Arrival.key Arrival.sent config.DueByClock

def timed (log : List (Arrival T)) : (SomeIpKey → Option (Arrival T)) × List (List DartObject) :=
  Mealy.run config.timeTurn (fun _ => none) log

section Worker

/-- The throttle of a signal once `last` was the last of its messages to be forwarded. -/
def throttleAt (key : SomeIpKey) (last : Option (Arrival T)) : Option SignalThrottle :=
  (config.throttles.lookup key).map fun throttle =>
    if throttle.intervalUs = 0 then throttle
    else { throttle with lastForwardUs := last.map fun arrival => arrival.clock.nowUs }

theorem throttleAt_none (key : SomeIpKey) :
    config.throttleAt key (none : Option (Arrival T)) = config.throttles.lookup key := by
  rw [throttleAt]
  cases hThrottle : config.throttles.lookup key with
  | none => rfl
  | some throttle =>
    obtain ⟨maxHz, hCreate⟩ := config.fresh key throttle hThrottle
    have hLast := SignalThrottle.lastForwardUs_of_create hCreate
    rw [Option.map_some, Option.map_none, ← hLast, ite_self]

theorem throttleAt_unlimited {key : SomeIpKey} (hZero : config.intervalUs key = 0)
    (last last' : Option (Arrival T)) : config.throttleAt key last = config.throttleAt key last' := by
  rw [intervalUs] at hZero
  rw [throttleAt, throttleAt]
  cases hThrottle : config.throttles.lookup key with
  | none => rfl
  | some throttle =>
    rw [hThrottle] at hZero
    rw [Option.map_some, Option.map_some, if_pos hZero, if_pos hZero]

/-- A throttle is a limiter on the readings of the clock. -/
theorem signalStep_limiter (last : Option (Arrival T)) (now : Arrival T) :
    (Worker.signalStep (config.throttleAt now.key last) (now.clock.nowUs, .message now.buffers)).1 =
        config.throttleAt now.key (Limiter.step Arrival.sent config.DueByClock last now).1 ∧
      (Worker.signalStep (config.throttleAt now.key last)
          (now.clock.nowUs, .message now.buffers)).2.map .someIpMessage =
        (Limiter.step Arrival.sent config.DueByClock last now).2 := by
  by_cases hZero : config.intervalUs now.key = 0
  · have hDue : ∀ l, last = some l → config.DueByClock l now := fun _ _ => Or.inl hZero
    rw [Limiter.step_pass hDue, config.throttleAt_unlimited hZero last none, throttleAt_none,
      config.throttleAt_unlimited hZero (some now) none, throttleAt_none]
    rw [intervalUs] at hZero
    cases hThrottle : config.throttles.lookup now.key with
    | none => exact ⟨rfl, rfl⟩
    | some throttle =>
      rw [hThrottle] at hZero
      rw [Worker.signalStep_some, SignalThrottle.shouldForward_unlimited hZero]
      exact ⟨rfl, rfl⟩
  · have hLimit := hZero
    rw [intervalUs] at hLimit
    cases hThrottle : config.throttles.lookup now.key with
    | none =>
      rw [hThrottle] at hLimit
      exact absurd rfl hLimit
    | some throttle =>
      rw [hThrottle] at hLimit
      have hAt : ∀ last : Option (Arrival T), config.throttleAt now.key last = some
          { throttle with lastForwardUs := last.map fun arrival => arrival.clock.nowUs } := by
        intro last
        rw [throttleAt, hThrottle, Option.map_some, if_neg hLimit]
      have hInterval : config.intervalUs now.key = throttle.intervalUs := by rw [intervalUs, hThrottle]
      rw [hAt, hAt, Worker.signalStep_some]
      cases last with
      | none =>
        simp [SignalThrottle.shouldForward, hLimit, Limiter.step, Arrival.sent]
      | some l =>
        have hFar : config.DueByClock l now ↔ throttle.intervalUs ≤ now.clock.nowUs - l.clock.nowUs := by
          rw [DueByClock, hInterval]
          exact or_iff_right hLimit
        by_cases hDue : throttle.intervalUs ≤ now.clock.nowUs - l.clock.nowUs
        · rw [Limiter.step, if_pos (hFar.mpr hDue)]
          simp [SignalThrottle.shouldForward, hLimit, hDue, Arrival.sent]
        · rw [Limiter.step, if_neg fun h => hDue (hFar.mp h)]
          simp [SignalThrottle.shouldForward, hLimit, hDue]

theorem holds_worker :
    Worker.Holds config.worker fun key => config.throttleAt key (none : Option (Arrival T)) :=
  ⟨rfl, fun key => (config.throttleAt_none key).symm⟩

theorem turn_limiter {st : WorkerState} {last : SomeIpKey → Option (Arrival T)} (now : Arrival T)
    (hHolds : Worker.Holds st fun key => config.throttleAt key (last key)) :
    Worker.Holds (Worker.turn st now.turn).1 (fun key =>
        config.throttleAt key ((config.clockTurn last now).1 key)) ∧
      (Worker.turn st now.turn).2 = (config.clockTurn last now).2 := by
  obtain ⟨hNext, hSent⟩ := Worker.turn_holds (now.clock.nowUs, .message now.buffers) trivial hHolds
  obtain ⟨hThrottle, hOut⟩ := config.signalStep_limiter (last now.key) now
  refine ⟨?_, hSent.trans hOut⟩
  have hSignals : (Worker.signalsTurn (fun key => config.throttleAt key (last key))
      (now.clock.nowUs, .message now.buffers)).1 =
      fun key => config.throttleAt key ((config.clockTurn last now).1 key) :=
    KeyedMachine.turn_view config.throttleAt rfl hThrottle
  rw [← hSignals]
  exact hNext

theorem sends_eq (log : List (Arrival T)) :
    config.sends log = (Mealy.run config.clockTurn (fun _ => none) log).2 := by
  have hRun := (Mealy.run_simulates (g := id)
    (R := fun st (last : SomeIpKey → Option (Arrival T)) =>
      Worker.Holds st fun key => config.throttleAt key (last key)) (P := fun _ : Arrival T => True)
    (fun st last now _ hHolds => config.turn_limiter now hHolds) config.holds_worker
    fun _ (_ : _ ∈ log) => trivial).2
  rw [sends, hRun, List.map_id]

end Worker

/-- The worker forwards a message exactly if the limiter on real time does. -/
def KeepsRealTime (clock : Clock T) (events : List (ClockEvent T)) : Prop :=
  config.sends (arrivals clock events) = (config.timed (arrivals clock events)).2

/-- Between a message of a limited signal and the last one that was due by real time, the adjustments do
not carry the time that passed across the interval. What is left of the earlier reading below a
microsecond counts as time that passed. -/
def StepsHarmless (clock : Clock T) (events : List (ClockEvent T)) : Prop :=
  ∀ before now after, arrivals clock events = before ++ now :: after →
    ∀ last, (config.timed before).1 now.key = some last → config.intervalUs now.key ≠ 0 →
      ((config.intervalUs now.key : T) ≤ now.clock.elapsed - last.clock.elapsed ↔
        (config.intervalUs now.key : T) ≤ now.clock.elapsed - last.clock.elapsed +
          (now.clock.ahead - last.clock.ahead) + Int.fract (last.clock.elapsed + last.clock.ahead))

theorem le_nowUs_sub_iff [IsStrictOrderedRing T] (interval : Int) (last now : Clock T) :
    interval ≤ now.nowUs - last.nowUs ↔ (interval : T) ≤
      now.elapsed - last.elapsed + (now.ahead - last.ahead) + Int.fract (last.elapsed + last.ahead) := by
  have hPassed : now.elapsed - last.elapsed + (now.ahead - last.ahead) +
      (last.elapsed + last.ahead - ⌊last.elapsed + last.ahead⌋) =
      now.elapsed + now.ahead - ⌊last.elapsed + last.ahead⌋ := by abel
  rw [Clock.nowUs, Clock.nowUs, le_sub_iff_add_le, Int.le_floor, Int.cast_add, Int.fract, hPassed,
    le_sub_iff_add_le]

theorem dueByTime_iff_dueByClock [IsStrictOrderedRing T] (last now : Arrival T) :
    (config.DueByTime last now ↔ config.DueByClock last now) ↔ (config.intervalUs now.key ≠ 0 →
      ((config.intervalUs now.key : T) ≤ now.clock.elapsed - last.clock.elapsed ↔
        (config.intervalUs now.key : T) ≤ now.clock.elapsed - last.clock.elapsed +
          (now.clock.ahead - last.clock.ahead) + Int.fract (last.clock.elapsed + last.clock.ahead))) := by
  rw [DueByTime, DueByClock, le_nowUs_sub_iff]
  by_cases hZero : config.intervalUs now.key = 0
  · exact iff_of_true (iff_of_true (Or.inl hZero) (Or.inl hZero)) fun hLimit => absurd hZero hLimit
  · rw [or_iff_right hZero, or_iff_right hZero]
    exact (imp_iff_right hZero).symm

theorem keepsRealTime_iff_due (clock : Clock T) (events : List (ClockEvent T)) :
    config.KeepsRealTime clock events ↔
      ∀ before now after, arrivals clock events = before ++ now :: after →
        ∀ last, (config.timed before).1 now.key = some last →
          (config.DueByTime last now ↔ config.DueByClock last now) := by
  have hSent : ∀ now : Arrival T, now.sent ≠ [] := fun now => List.cons_ne_nil _ _
  rw [KeepsRealTime, sends_eq, eq_comm]
  exact Limiter.run_output_iff hSent _ _

/-- The worker keeps to real time if and only if no adjustment between two messages that are due one after
the other decides about the second. -/
theorem keepsRealTime_iff [IsStrictOrderedRing T] (clock : Clock T) (events : List (ClockEvent T)) :
    config.KeepsRealTime clock events ↔ config.StepsHarmless clock events := by
  rw [keepsRealTime_iff_due]
  simp only [dueByTime_iff_dueByClock]
  rfl

theorem keepsRealTime_of_steady [IsStrictOrderedRing T] (clock : Clock T) {events : List (ClockEvent T)}
    (hSteady : ∀ event ∈ events, Steady event) : config.KeepsRealTime clock events := by
  rw [keepsRealTime_iff_due]
  intro before now after hSplit last hLast
  have hAll := arrivals_steady clock hSteady
  simp only [hSplit, List.forall_mem_append, List.forall_mem_cons] at hAll
  obtain ⟨hBefore, ⟨⟨n, hNow⟩, hAhead⟩, -⟩ := hAll
  have hMem : last ∈ before := (Limiter.mem_of_run hLast).resolve_left (by simp)
  obtain ⟨⟨m, hThen⟩, hAhead'⟩ := hBefore last hMem
  have hElapsed : now.clock.elapsed - last.clock.elapsed = ((n - m : Int) : T) := by
    rw [hNow, hThen, Int.cast_sub]
    abel
  have hRead : now.clock.nowUs - last.clock.nowUs = n - m := by
    rw [Clock.nowUs, Clock.nowUs, hNow, hThen, hAhead, hAhead', add_right_comm, add_right_comm _ (m : T),
      Int.floor_add_intCast, Int.floor_add_intCast]
    abel
  rw [DueByTime, DueByClock, hElapsed, hRead, Int.cast_le]

section Instance

theorem create_50 : SignalThrottle.create (.finite 50) = .ok ⟨.finite 50, 20000, none⟩ := by decide +kernel

def at50Hz : FreshThrottles := unlimited.set (PortLog.eventOf 1).message.key create_50

def start : Clock Rat := ⟨0, 0⟩

/-- Half a second forward between two messages that are 20 ms apart. -/
theorem at50Hz_keeps : at50Hz.StepsHarmless start
    [.message (PortLog.eventOf 1), .adjust 500000, .pass ⟨20000, by decide⟩,
      .message (PortLog.eventOf 1)] :=
  (at50Hz.keepsRealTime_iff start _).mp (by
    rw [KeepsRealTime]
    decide +kernel)

/-- One hour back: an hour later the event is still held back. One second forward: the event is let
through twice in a millisecond. -/
theorem at50Hz_fails :
    ¬ at50Hz.KeepsRealTime start
        [.message (PortLog.eventOf 1), .adjust (-3600000000), .pass ⟨3600000000, by decide⟩,
          .message (PortLog.eventOf 1)] ∧
      ¬ at50Hz.KeepsRealTime start
        [.message (PortLog.eventOf 1), .adjust 1000000, .pass ⟨1000, by decide⟩,
          .message (PortLog.eventOf 1)] := by
  rw [KeepsRealTime, KeepsRealTime]
  decide +kernel

end Instance

end FreshThrottles

end VsomeipDart
