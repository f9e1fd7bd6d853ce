import Mathlib.Data.List.DropRight
import VsomeipDart.CockpitTelemetry
import VsomeipDart.SignalIsolation

/-! # The display of the cockpit as a function of what it has received

`display` says what `Telemetry` holds behind a log of notifications, without filters that have a state and
without a payload that is written in place.
-/

namespace VsomeipDart
set_option autoImplicit false

open LittleEndian DroneSim

namespace Cockpit

/-- A notification, and the clock readings of its handler. -/
structure Notified where
  event : UInt16
  payload : Bytes
  clock : Nat → Int

def Notified.message (note : Notified) : Vsomeip.Message := notification note.event note.payload

/-- The payload of the event has the size that the simulator gives it. -/
inductive Notified.Fits : Notified → Prop
  | attitude {payload : Bytes} (clock : Nat → Int) (h : payload.length = 16) : Fits ⟨ATTITUDE_EVT, payload, clock⟩
  | motion {payload : Bytes} (clock : Nat → Int) (h : payload.length = 16) : Fits ⟨MOTION_EVT, payload, clock⟩
  | battery {payload : Bytes} (clock : Nat → Int) (h : payload.length = 8) : Fits ⟨BATTERY_EVT, payload, clock⟩
  | status (clock : Nat → Int) (armed flightMode gpsFix satCount : UInt8) :
    Fits ⟨STATUS_EVT, [armed, flightMode, gpsFix, satCount], clock⟩
  | signal (clock : Nat → Int) (rssi linkQuality : UInt8) : Fits ⟨SIGNAL_EVT, [rssi, linkQuality, 0, 0], clock⟩
  | gimbal {payload : Bytes} (clock : Nat → Int) (h : payload.length = 8) : Fits ⟨GIMBAL_EVT, payload, clock⟩

def ofEvent (log : List Notified) (event : UInt16) : List Notified := log.filter fun note => note.event == event

theorem ofEvent_snoc_self (log : List Notified) (event : UInt16) (payload : Bytes) (clock : Nat → Int) :
    ofEvent (log ++ [⟨event, payload, clock⟩]) event = ofEvent log event ++ [⟨event, payload, clock⟩] := by
  simp [ofEvent]

theorem ofEvent_snoc_ne (log : List Notified) {event event' : UInt16} (h : event ≠ event') (payload : Bytes)
    (clock : Nat → Int) : ofEvent (log ++ [⟨event, payload, clock⟩]) event' = ofEvent log event' := by
  simp [ofEvent, h]

/-- The weight of the filter that the cockpit sets at an offset. -/
def weight (event offset : UInt16) : Option Rat :=
  (smoothed.find? fun filter => filter.1 == event && filter.2.1 == offset).map fun filter => filter.2.2

theorem weight_mem {event offset : UInt16} {alpha : Rat} (h : weight event offset = some alpha) :
    (event, offset, alpha) ∈ smoothed := by
  obtain ⟨⟨event', offset', alpha'⟩, hFind, rfl⟩ := Option.map_eq_some_iff.mp h
  have hSame := List.find?_some hFind
  simp only [Bool.and_eq_true, beq_iff_eq] at hSame
  obtain ⟨rfl, rfl⟩ := hSame
  exact List.mem_of_find?_eq_some hFind

theorem weight_isSome {event offset : UInt16} {alpha : Rat} (h : (event, offset, alpha) ∈ smoothed) :
    (weight event offset).isSome := by
  rw [weight, Option.isSome_map, List.find?_isSome]
  exact ⟨_, h, by simp⟩

section Display

variable {D F : Type} [FloatOps F] [DoubleOps D F]

/-- The filter of the weight behind some samples, and what it made of them. -/
def smooth (alpha : Rat) (samples : List Nat) : SignalFilter F × List Nat :=
  Mealy.run SignalMap.sample (createFilter .ema (FloatOps.literal alpha) (FloatOps.literal 100)) samples

/-- What is delivered of the samples at an offset of an event. -/
def delivered (F : Type) [FloatOps F] (event offset : UInt16) (samples : List Nat) : List Nat :=
  match weight event offset with
  | some alpha => (smooth alpha samples : SignalFilter F × List Nat).2
  | none => samples

def samplesAt (notes : List Notified) (offset : UInt16) : List Nat :=
  notes.map fun note => window 4 note.payload offset.toNat

/-- The `double` that Dart reads from four bytes. -/
def shown (bits : Nat) : D := DoubleOps.widen (FloatOps.ofBits (UInt32.ofNat bits) : F)

def values (log : List Notified) (event offset : UInt16) : List D :=
  (delivered F event offset (samplesAt (ofEvent log event) offset)).map shown

def newest (values : List D) : D := values.getLast?.getD DoubleOps.zero

def byteAt (log : List Notified) (event : UInt16) (i : Nat) : UInt8 :=
  ((ofEvent log event).getLast?.bind fun note => note.payload[i]?).getD 0

/-- The history of a value, with the reading `i` of the clock. -/
def history (log : List Notified) (event offset : UInt16) (i : Nat) : SignalHistory D :=
  (SignalHistory.createDefault DoubleOps.zero).run
    (List.zipWith (fun note value => .add (note.clock i) value) (ofEvent log event) (values log event offset))

/-- When the drone was armed for the last time, or 0 if it is not armed. -/
def armedSince (log : List Notified) : Int :=
  let spell := (ofEvent log STATUS_EVT).rtakeWhile fun note => note.payload[0]?.getD 0 != 0
  (spell.head?.map fun note => note.clock 0).getD 0

/-- `now` is when the cockpit was connected. -/
def display (now : Int) (log : List Notified) : Telemetry D where
  pitch := newest (values log ATTITUDE_EVT 0)
  roll := newest (values log ATTITUDE_EVT 4)
  yaw := newest (values log ATTITUDE_EVT 8)
  throttle := newest (values log ATTITUDE_EVT 12)
  altitude := newest (values log MOTION_EVT 0)
  vsi := newest (values log MOTION_EVT 4)
  groundSpeed := newest (values log MOTION_EVT 8)
  distance := newest (values log MOTION_EVT 12)
  voltage := newest (values log BATTERY_EVT 0)
  percent := newest (values log BATTERY_EVT 4)
  armed := byteAt log STATUS_EVT 0
  flightMode := byteAt log STATUS_EVT 1
  gpsFix := byteAt log STATUS_EVT 2
  satCount := byteAt log STATUS_EVT 3
  rssi := byteAt log SIGNAL_EVT 0
  linkQuality := byteAt log SIGNAL_EVT 1
  gimbalPitch := newest (values log GIMBAL_EVT 0)
  gimbalRoll := newest (values log GIMBAL_EVT 4)
  altitudeHistory := history log MOTION_EVT 0 0
  vsiHistory := history log MOTION_EVT 4 1
  groundSpeedHistory := history log MOTION_EVT 8 2
  lastUpdateMs := (log.getLast?.map fun note => note.clock 3).getD now
  armedSinceMs := armedSince log

theorem display_nil (now : Int) :
    (display now [] : Telemetry D) = { Telemetry.create DoubleOps.zero with lastUpdateMs := now } := by
  rfl

theorem smooth_snoc (alpha : Rat) (samples : List Nat) (bits : Nat) :
    (smooth alpha (samples ++ [bits]) : SignalFilter F × List Nat) =
      ((SignalMap.sample (smooth alpha samples).1 bits).1,
        (smooth alpha samples : SignalFilter F × List Nat).2 ++
          [(SignalMap.sample (smooth alpha samples : SignalFilter F × List Nat).1 bits).2]) :=
  Mealy.run_snoc _ _ _ _

theorem delivered_length (event offset : UInt16) (samples : List Nat) :
    (delivered F event offset samples).length = samples.length := by
  rw [delivered]
  split
  · exact Mealy.run_output_length _ _ _
  · rfl

theorem samplesAt_snoc (notes : List Notified) (note : Notified) (offset : UInt16) :
    samplesAt (notes ++ [note]) offset = samplesAt notes offset ++ [window 4 note.payload offset.toNat] :=
  List.map_append

theorem values_snoc_ne (log : List Notified) {event event' : UInt16} (h : event ≠ event') (payload : Bytes)
    (clock : Nat → Int) (offset : UInt16) :
    (values (log ++ [⟨event, payload, clock⟩]) event' offset : List D) = values log event' offset := by
  rw [values, ofEvent_snoc_ne log h, values]

theorem byteAt_snoc_ne (log : List Notified) {event event' : UInt16} (h : event ≠ event') (payload : Bytes)
    (clock : Nat → Int) (i : Nat) :
    byteAt (log ++ [⟨event, payload, clock⟩]) event' i = byteAt log event' i := by
  rw [byteAt, ofEvent_snoc_ne log h, byteAt]

theorem history_snoc_ne (log : List Notified) {event event' : UInt16} (h : event ≠ event') (payload : Bytes)
    (clock : Nat → Int) (offset : UInt16) (i : Nat) :
    (history (log ++ [⟨event, payload, clock⟩]) event' offset i : SignalHistory D) =
      history log event' offset i := by
  rw [history, ofEvent_snoc_ne log h, values_snoc_ne log h, history]

theorem armedSince_snoc_ne (log : List Notified) {event : UInt16} (h : event ≠ STATUS_EVT) (payload : Bytes)
    (clock : Nat → Int) : armedSince (log ++ [⟨event, payload, clock⟩]) = armedSince log := by
  rw [armedSince, ofEvent_snoc_ne log h, armedSince]

theorem byteAt_snoc_self (log : List Notified) (event : UInt16) (payload : Bytes) (clock : Nat → Int) (i : Nat) :
    byteAt (log ++ [⟨event, payload, clock⟩]) event i = payload[i]?.getD 0 := by
  rw [byteAt, ofEvent_snoc_self, List.getLast?_concat]
  rfl

/-- The newest status is not in a spell exactly if the drone is not armed in it. -/
theorem armedSince_snoc_self (log : List Notified) (payload : Bytes) (clock : Nat → Int) :
    armedSince (log ++ [⟨STATUS_EVT, payload, clock⟩]) =
      if payload[0]?.getD 0 = 0 then 0
      else if byteAt log STATUS_EVT 0 = 0 then clock 0 else armedSince log := by
  rw [armedSince, ofEvent_snoc_self, List.rtakeWhile_concat, byteAt, armedSince]
  by_cases hArmed : payload[0]?.getD 0 = 0
  · simp [hArmed]
  · simp only [bne_iff_ne, ne_eq, hArmed, not_false_eq_true, if_true, if_false]
    rcases List.eq_nil_or_concat' (ofEvent log STATUS_EVT) with hNil | ⟨front, last, hLast⟩
    · rw [hNil]
      rfl
    · rw [hLast, List.getLast?_concat, List.rtakeWhile_concat]
      by_cases hBefore : last.payload[0]?.getD 0 = 0
      · simp [hBefore]
      · simp only [bne_iff_ne, ne_eq, hBefore, not_false_eq_true, if_true, Option.bind_some, if_false]
        cases front.rtakeWhile fun note => note.payload[0]?.getD 0 != 0 <;> rfl

theorem armedSince_of_disarmed {log : List Notified} (h : byteAt log STATUS_EVT 0 = 0) : armedSince log = 0 := by
  rw [armedSince]
  rw [byteAt] at h
  rcases List.eq_nil_or_concat' (ofEvent log STATUS_EVT) with hNil | ⟨front, last, hLast⟩
  · rw [hNil]
    rfl
  · rw [hLast, List.getLast?_concat, Option.bind_some] at h
    rw [hLast, List.rtakeWhile_concat_neg _ _ _ (by simpa using h)]
    rfl

theorem lastUpdate_snoc (now : Int) (log : List Notified) (note : Notified) :
    ((log ++ [note]).getLast?.map fun note => note.clock 3).getD now = note.clock 3 := by
  rw [List.getLast?_concat]
  rfl

end Display

section Updates

variable {D F : Type} [FloatOps F] [DoubleOps D F] (clock : Nat → Int) (t : Telemetry D) {payload : Bytes}

theorem getFloat32_window {offset : Nat} (h : offset + 4 ≤ payload.length) :
    (getFloat32 payload offset : Except DartError D) = .ok (shown (window 4 payload offset)) := by
  rw [getFloat32, readAt, if_pos h]
  rfl

theorem update_attitude (h : payload.length = 16) : t.update clock ATTITUDE_EVT.toNat payload =
    .ok { t with
      pitch := shown (window 4 payload 0)
      roll := shown (window 4 payload 4)
      yaw := shown (window 4 payload 8)
      throttle := shown (window 4 payload 12) } := by
  unfold Telemetry.update
  rw [if_pos rfl, if_pos h.ge]
  simp only [getFloat32_window, h, Nat.reduceAdd, Nat.reduceLeDiff]
  rfl

theorem update_motion (h : payload.length = 16) : t.update clock MOTION_EVT.toNat payload =
    .ok { t with
      altitude := shown (window 4 payload 0)
      vsi := shown (window 4 payload 4)
      groundSpeed := shown (window 4 payload 8)
      distance := shown (window 4 payload 12)
      altitudeHistory := t.altitudeHistory.add (clock 0) (shown (window 4 payload 0))
      vsiHistory := t.vsiHistory.add (clock 1) (shown (window 4 payload 4))
      groundSpeedHistory := t.groundSpeedHistory.add (clock 2) (shown (window 4 payload 8)) } := by
  unfold Telemetry.update
  rw [if_neg (by decide), if_pos rfl, if_pos h.ge]
  simp only [getFloat32_window, h, Nat.reduceAdd, Nat.reduceLeDiff]
  rfl

theorem update_battery (h : payload.length = 8) : t.update clock BATTERY_EVT.toNat payload =
    .ok { t with
      voltage := shown (window 4 payload 0)
      percent := shown (window 4 payload 4) } := by
  unfold Telemetry.update
  rw [if_neg (by decide), if_neg (by decide), if_pos rfl, if_pos h.ge]
  simp only [getFloat32_window, h, Nat.reduceAdd, Nat.reduceLeDiff]
  rfl

theorem update_status (armed flightMode gpsFix satCount : UInt8) :
    t.update clock STATUS_EVT.toNat [armed, flightMode, gpsFix, satCount] =
      .ok { t with
        armed, flightMode, gpsFix, satCount
        armedSinceMs := if armed = 0 then (if t.armed = 0 then t.armedSinceMs else 0)
          else if t.armed = 0 then clock 0 else t.armedSinceMs } := by
  unfold Telemetry.update
  rw [if_neg (by decide), if_neg (by decide), if_neg (by decide), if_pos rfl]
  by_cases hArmed : armed = 0 <;> by_cases hBefore : t.armed = 0 <;>
    simp [Telemetry.updateArmedTransition, hArmed, hBefore] <;> rfl

theorem update_signal (rssi linkQuality : UInt8) :
    t.update clock SIGNAL_EVT.toNat [rssi, linkQuality, 0, 0] = .ok { t with rssi, linkQuality } := by
  unfold Telemetry.update
  rw [if_neg (by decide), if_neg (by decide), if_neg (by decide), if_neg (by decide),
    if_pos rfl]
  rfl

theorem update_gimbal (h : payload.length = 8) : t.update clock GIMBAL_EVT.toNat payload =
    .ok { t with
      gimbalPitch := shown (window 4 payload 0)
      gimbalRoll := shown (window 4 payload 4) } := by
  unfold Telemetry.update
  rw [if_neg (by decide), if_neg (by decide), if_neg (by decide), if_neg (by decide),
    if_neg (by decide), if_pos rfl, if_pos h.ge]
  simp only [getFloat32_window, h, Nat.reduceAdd, Nat.reduceLeDiff]
  rfl

end Updates

end Cockpit

end VsomeipDart
