import VsomeipDart.CockpitRuns
import VsomeipDart.ExactSample

/-! # A cockpit follows the drone

The simulator publishes each part of its state at a rate of its own, and the status when it changes. However
long it flies, the cockpit shows the newest state of each part that was published since it is connected.
-/

namespace VsomeipDart
set_option autoImplicit false

open LittleEndian DroneSim Cockpit

namespace Flight

section Published

variable {D F : Type} [FloatOps F] [DoubleOps D F]

def wire (x : D) : Nat := (FloatOps.toBits (DoubleOps.narrow x : F)).toNat

theorem wire_lt (x : D) : wire x < 256 ^ 4 := UInt32.toNat_lt _

/-- The writes of `pack`, one value behind the other. -/
def packed (values : List D) : List Write := values.zipIdx.map fun place => ⟨4, 4 * place.2, wire place.1⟩

theorem window_packed (values : List D) {i : Nat} (hi : i < values.length) :
    window 4 (patches (packed values) (List.replicate (4 * values.length) 0)) (4 * i) = wire values[i] := by
  have hMem : (⟨4, 4 * i, wire values[i]⟩ : Write) ∈ packed values :=
    List.mem_map.mpr ⟨(values[i], i), List.mem_zipIdx_iff_getElem?.mpr (List.getElem?_eq_getElem hi), rfl⟩
  refine window_patches (fun w hThere => ?_) ?_ hMem (wire_lt _)
  · obtain ⟨⟨x, j⟩, hPlace, rfl⟩ := List.mem_map.mp hThere
    obtain ⟨hj, -⟩ := List.getElem?_eq_some_iff.mp (List.mem_zipIdx_iff_getElem?.mp hPlace)
    rw [List.length_replicate, Write.Fits]
    dsimp only at hj ⊢
    omega
  · rw [packed, List.pairwise_map]
    refine List.pairwise_iff_getElem.mpr fun j k hj hk hjk => ?_
    simp only [List.getElem_zipIdx, Write.Before]
    omega

theorem window_buildAttitude (s : DroneState D) :
    window 4 (buildAttitude s) 0 = wire s.pitch ∧ window 4 (buildAttitude s) 4 = wire s.roll ∧
      window 4 (buildAttitude s) 8 = wire s.yaw ∧ window 4 (buildAttitude s) 12 = wire s.throttle :=
  have h {i : Nat} (hi : i < 4) := window_packed [s.pitch, s.roll, s.yaw, s.throttle] hi
  ⟨h (by decide : 0 < 4), h (by decide : 1 < 4), h (by decide : 2 < 4), h (by decide : 3 < 4)⟩

theorem window_buildMotion (s : DroneState D) :
    window 4 (buildMotion s) 0 = wire s.altitudeM ∧ window 4 (buildMotion s) 4 = wire s.vsiMs ∧
      window 4 (buildMotion s) 8 = wire s.groundSpeedMs ∧ window 4 (buildMotion s) 12 = wire s.distanceM :=
  have h {i : Nat} (hi : i < 4) := window_packed [s.altitudeM, s.vsiMs, s.groundSpeedMs, s.distanceM] hi
  ⟨h (by decide : 0 < 4), h (by decide : 1 < 4), h (by decide : 2 < 4), h (by decide : 3 < 4)⟩

theorem window_buildBattery (s : DroneState D) :
    window 4 (buildBattery s) 0 = wire s.voltageV ∧ window 4 (buildBattery s) 4 = wire s.percent :=
  have h {i : Nat} (hi : i < 2) := window_packed [s.voltageV, s.percent] hi
  ⟨h (by decide : 0 < 2), h (by decide : 1 < 2)⟩

theorem window_buildGimbal (s : DroneState D) :
    window 4 (buildGimbal s) 0 = wire s.gimbalPitchDeg ∧ window 4 (buildGimbal s) 4 = wire s.gimbalRollDeg :=
  have h {i : Nat} (hi : i < 2) := window_packed [s.gimbalPitchDeg, s.gimbalRollDeg] hi
  ⟨h (by decide : 0 < 2), h (by decide : 1 < 2)⟩

/-- The elements whose place is a multiple of `n`, with the first at the place `start`. -/
def every {α : Type} (n start : Nat) (list : List α) : List α :=
  ((list.zipIdx start).filter fun place => place.2 % n == 0).map Prod.fst

theorem every_cons {α : Type} (n start : Nat) (a : α) (rest : List α) :
    every n start (a :: rest) = (if start % n == 0 then [a] else []) ++ every n (start + 1) rest := by
  rw [every, List.zipIdx_cons, List.filter_cons]
  split <;> rfl

theorem every_one {α : Type} (start : Nat) (list : List α) : every 1 start list = list := by
  induction list generalizing start with
  | nil => rfl
  | cons a rest ih => rw [every_cons, ih, Nat.mod_one, if_pos (beq_self_eq_true 0), List.singleton_append]

theorem last_cons {α β : Type} (f : α → β) (a : α) (rest : List α) (b : β) :
    ((a :: rest).getLast?.map f).getD b = (rest.getLast?.map f).getD (f a) := by
  rw [List.getLast?_cons]
  cases rest.getLast? <;> rfl

def heard (p : Publisher) (t : DroneTick D) : List Notified :=
  (p.publish t.state).2.map fun msg => ⟨msg.method, msg.payload, t.clock msg.method⟩

def flightLog : Publisher → List (DroneTick D) → List Notified
  | _, [] => []
  | p, t :: rest => heard p t ++ flightLog (p.publish t.state).1 rest

def note (event : UInt16) (build : DroneState D → Bytes) (t : DroneTick D) : Notified :=
  ⟨event, build t.state, t.clock event⟩

def noteIf (due : Bool) (event : UInt16) (build : DroneState D → Bytes) (t : DroneTick D) : List Notified :=
  if due then [note event build t] else []

theorem heard_eq (p : Publisher) (t : DroneTick D) :
    heard p t = noteIf true ATTITUDE_EVT buildAttitude t ++
      (noteIf (p.tickCount % 5 == 0) MOTION_EVT buildMotion t ++
      (noteIf (p.tickCount % 10 == 0) GIMBAL_EVT buildGimbal t ++
      (noteIf (p.tickCount % 25 == 0) SIGNAL_EVT buildSignal t ++
      (noteIf (p.tickCount % 50 == 0) BATTERY_EVT buildBattery t ++
      noteIf (p.statusChanged t.state) STATUS_EVT buildStatus t)))) := by
  simp only [heard, Publisher.publish, List.map_append, apply_ite (List.map _), List.map_cons, List.map_nil]
  rfl

theorem ofEvent_append (left right : List Notified) (event : UInt16) :
    ofEvent (left ++ right) event = ofEvent left event ++ ofEvent right event := List.filter_append left right

theorem ofEvent_noteIf_self (due : Bool) (event : UInt16) (build : DroneState D → Bytes) (t : DroneTick D) :
    ofEvent (noteIf due event build t) event = noteIf due event build t := by
  cases due <;> simp [ofEvent, noteIf, note]

theorem ofEvent_noteIf_ne (due : Bool) {event event' : UInt16} (h : event ≠ event')
    (build : DroneState D → Bytes) (t : DroneTick D) : ofEvent (noteIf due event build t) event' = [] := by
  cases due <;> simp [ofEvent, noteIf, note, h]

theorem publish_tickCount (p : Publisher) (s : DroneState D) :
    (p.publish s).1.tickCount = p.tickCount + 1 := by
  rw [Publisher.publish]
  split <;> rfl

/-- An event that is published in every `n`th iteration. -/
theorem ofEvent_flightLog {event : UInt16} {build : DroneState D → Bytes} {n : Nat}
    (h : ∀ (p : Publisher) (t : DroneTick D), ofEvent (heard p t) event =
      noteIf (p.tickCount % n == 0) event build t) (p : Publisher) (ticks : List (DroneTick D)) :
    ofEvent (flightLog p ticks) event = (every n p.tickCount ticks).map (note event build) := by
  induction ticks generalizing p with
  | nil => rfl
  | cons t rest ih =>
    rw [flightLog, ofEvent_append, h, ih, publish_tickCount, every_cons, List.map_append, noteIf]
    split <;> rfl

/-- The iterations in which the status is published. -/
def changes : Publisher → List (DroneTick D) → List (DroneTick D)
  | _, [] => []
  | p, t :: rest => (if p.statusChanged t.state then [t] else []) ++ changes (p.publish t.state).1 rest

theorem ofEvent_heard (p : Publisher) (t : DroneTick D) :
    ofEvent (heard p t) ATTITUDE_EVT = noteIf true ATTITUDE_EVT buildAttitude t ∧
    ofEvent (heard p t) MOTION_EVT = noteIf (p.tickCount % 5 == 0) MOTION_EVT buildMotion t ∧
    ofEvent (heard p t) GIMBAL_EVT = noteIf (p.tickCount % 10 == 0) GIMBAL_EVT buildGimbal t ∧
    ofEvent (heard p t) SIGNAL_EVT = noteIf (p.tickCount % 25 == 0) SIGNAL_EVT buildSignal t ∧
    ofEvent (heard p t) BATTERY_EVT = noteIf (p.tickCount % 50 == 0) BATTERY_EVT buildBattery t ∧
    ofEvent (heard p t) STATUS_EVT = noteIf (p.statusChanged t.state) STATUS_EVT buildStatus t := by
  simp (disch := decide) only [heard_eq, ofEvent_append, ofEvent_noteIf_self, ofEvent_noteIf_ne,
    List.append_nil, List.nil_append, and_self]

theorem ofEvent_status (p : Publisher) (ticks : List (DroneTick D)) :
    ofEvent (flightLog p ticks) STATUS_EVT = (changes p ticks).map (note STATUS_EVT buildStatus) := by
  induction ticks generalizing p with
  | nil => rfl
  | cons t rest ih =>
    obtain ⟨-, -, -, -, -, hStatus⟩ := ofEvent_heard p t
    rw [flightLog, ofEvent_append, hStatus, ih, changes, List.map_append, noteIf]
    split <;> rfl

theorem heard_fits (p : Publisher) (t : DroneTick D) : ∀ note ∈ heard p t, note.Fits := by
  intro note hMem
  simp only [heard_eq, List.mem_append, noteIf, List.mem_ite_nil_right, List.mem_singleton] at hMem
  rcases hMem with ⟨-, rfl⟩ | ⟨-, rfl⟩ | ⟨-, rfl⟩ | ⟨-, rfl⟩ | ⟨-, rfl⟩ | ⟨-, rfl⟩
  · exact .attitude _ rfl
  · exact .motion _ rfl
  · exact .gimbal _ rfl
  · exact .signal _ _ _
  · exact .battery _ rfl
  · exact .status _ _ _ _ _

def lastStatus (p : Publisher) : Bytes := [p.lastArmed, p.lastMode, p.lastFix, p.lastSats]

theorem status_of_same {p : Publisher} {s : DroneState D} (h : p.statusChanged s = false) :
    lastStatus p = buildStatus s := by
  simp only [Publisher.statusChanged, Bool.or_eq_false_iff, bne_eq_false_iff_eq] at h
  obtain ⟨⟨⟨hArmed, hMode⟩, hFix⟩, hSats⟩ := h
  rw [lastStatus, buildStatus, hArmed, hMode, hFix, hSats]

theorem publish_status (p : Publisher) (s : DroneState D) : lastStatus (p.publish s).1 = buildStatus s := by
  rw [Publisher.publish]
  cases hChanged : p.statusChanged s with
  | true => rfl
  | false => exact status_of_same hChanged

/-- The status that was published last is that of the last iteration, published there or before. -/
theorem last_changes (p : Publisher) (ticks : List (DroneTick D)) :
    ((changes p ticks).getLast?.map fun t => buildStatus t.state).getD (lastStatus p) =
      (ticks.getLast?.map fun t => buildStatus t.state).getD (lastStatus p) := by
  induction ticks generalizing p with
  | nil => rfl
  | cons t rest ih =>
    have hRest := ih (p.publish t.state).1
    rw [publish_status] at hRest
    rw [last_cons, ← hRest, changes]
    cases hChanged : p.statusChanged t.state with
    | true => exact last_cons _ t _ _
    | false =>
      rw [status_of_same hChanged]
      rfl

theorem changes_eq_nil {p : Publisher} {ticks : List (DroneTick D)} :
    changes p ticks = [] ↔ ∀ t ∈ ticks, p.statusChanged t.state = false := by
  induction ticks generalizing p with
  | nil => simp [changes]
  | cons t rest ih =>
    rw [changes, List.append_eq_nil_iff, List.forall_mem_cons]
    cases hChanged : p.statusChanged t.state with
    | true => simp
    | false =>
      have hSame : (p.publish t.state).1.statusChanged = (p.statusChanged : DroneState D → Bool) := by
        funext s
        simp only [Publisher.publish, hChanged]
        rfl
      simp [ih, hSame]

end Published

section Followed

variable {D F : Type} [FloatOps F] [DoubleOps D F]

def newestOf (ticks : List (DroneTick D)) (value : DroneState D → D) : D :=
  newest (ticks.map fun t => shown (wire (value t.state)))

/-- Some values behind the exponential filter of a weight. -/
def smoothedBy (alpha : Rat) (ticks : List (DroneTick D)) (value : DroneState D → D) : List D :=
  (smooth alpha (ticks.map fun t => wire (value t.state)) : SignalFilter F × List Nat).2.map shown

/-- A history of values, with the reading `i` of the clock in the handler of the motion. -/
def sparkline (ticks : List (DroneTick D)) (i : Nat) (values : List D) : SignalHistory D :=
  (SignalHistory.createDefault DoubleOps.zero).run
    (List.zipWith (fun t value => .add (t.clock MOTION_EVT i) value) ticks values)

/-- What a cockpit shows that was connected when the simulator was at `p`. -/
structure Follows (p : Publisher) (ticks : List (DroneTick D)) (t : Telemetry D) : Prop where
  pitch : t.pitch = newest (smoothedBy 0.18 ticks DroneState.pitch)
  roll : t.roll = newest (smoothedBy 0.20 ticks DroneState.roll)
  yaw : t.yaw = newest (smoothedBy 0.30 ticks DroneState.yaw)
  throttle : t.throttle = newestOf ticks DroneState.throttle
  altitude : t.altitude = newest (smoothedBy 0.50 (every 5 p.tickCount ticks) DroneState.altitudeM)
  vsi : t.vsi = newest (smoothedBy 0.30 (every 5 p.tickCount ticks) DroneState.vsiMs)
  groundSpeed : t.groundSpeed = newestOf (every 5 p.tickCount ticks) DroneState.groundSpeedMs
  distance : t.distance = newestOf (every 5 p.tickCount ticks) DroneState.distanceM
  gimbalPitch : t.gimbalPitch = newestOf (every 10 p.tickCount ticks) DroneState.gimbalPitchDeg
  gimbalRoll : t.gimbalRoll = newestOf (every 10 p.tickCount ticks) DroneState.gimbalRollDeg
  signal : [t.rssi, t.linkQuality] = ((every 25 p.tickCount ticks).getLast?.map fun t =>
    [t.state.rssiPct, t.state.linkQuality]).getD [0, 0]
  voltage : t.voltage = newestOf (every 50 p.tickCount ticks) DroneState.voltageV
  percent : t.percent = newestOf (every 50 p.tickCount ticks) DroneState.percent
  altitudeHistory : t.altitudeHistory = sparkline (every 5 p.tickCount ticks) 0
    (smoothedBy 0.50 (every 5 p.tickCount ticks) DroneState.altitudeM)
  vsiHistory : t.vsiHistory = sparkline (every 5 p.tickCount ticks) 1
    (smoothedBy 0.30 (every 5 p.tickCount ticks) DroneState.vsiMs)
  groundSpeedHistory : t.groundSpeedHistory = sparkline (every 5 p.tickCount ticks) 2
    ((every 5 p.tickCount ticks).map fun t => shown (wire t.state.groundSpeedMs))
  /-- the status of the last state, if it has changed since the cockpit is connected -/
  status : (∃ t ∈ ticks, p.statusChanged t.state) → ∀ last ∈ ticks.getLast?,
    [t.armed, t.flightMode, t.gpsFix, t.satCount] = buildStatus last.state
  noStatus : (∀ t ∈ ticks, p.statusChanged t.state = false) →
    [t.armed, t.flightMode, t.gpsFix, t.satCount] = [0, 0, 0, 0]

theorem samplesAt_note {event offset : UInt16} {build : DroneState D → Bytes} {value : DroneState D → D}
    (hWindow : ∀ s, window 4 (build s) offset.toNat = wire (value s)) (ticks : List (DroneTick D)) :
    samplesAt (ticks.map (note event build)) offset = ticks.map fun t => wire (value t.state) := by
  rw [samplesAt, List.map_map]
  exact List.map_congr_left fun t _ => hWindow t.state

section Log

variable {log : List Notified} {event offset : UInt16} {build : DroneState D → Bytes}
  {value : DroneState D → D} {ticks : List (DroneTick D)} {alpha : Rat}
  (hLog : ofEvent log event = ticks.map (note event build))
  (hWindow : ∀ s, window 4 (build s) offset.toNat = wire (value s))
include hLog hWindow

theorem values_smoothed (hWeight : weight event offset = some alpha) :
    values log event offset = smoothedBy alpha ticks value := by
  rw [values, hLog, samplesAt_note hWindow, delivered, hWeight]
  rfl

theorem values_unfiltered (hWeight : weight event offset = none) :
    values log event offset = ticks.map fun t => (shown (wire (value t.state)) : D) := by
  rw [values, hLog, samplesAt_note hWindow, delivered, hWeight, List.map_map]
  rfl

end Log

theorem byteAt_note {log : List Notified} {event : UInt16} {build : DroneState D → Bytes}
    {ticks : List (DroneTick D)} (hLog : ofEvent log event = ticks.map (note event build)) (i : Nat) :
    byteAt log event i = (ticks.getLast?.bind fun t => (build t.state)[i]?).getD 0 := by
  rw [byteAt, hLog, List.getLast?_map]
  cases ticks.getLast? <;> rfl

theorem display_status (now : Int) (p : Publisher) (ticks : List (DroneTick D)) :
    let t : Telemetry D := display now (flightLog p ticks)
    [t.armed, t.flightMode, t.gpsFix, t.satCount] =
      ((changes p ticks).getLast?.map fun t => buildStatus t.state).getD [0, 0, 0, 0] := by
  have hByte := byteAt_note (ofEvent_status p ticks)
  rw [display]
  dsimp only
  rw [hByte, hByte, hByte, hByte]
  cases (changes p ticks).getLast? <;> rfl

theorem follows_display (now : Int) (p : Publisher) (ticks : List (DroneTick D)) :
    Follows p ticks (display now (flightLog p ticks)) := by
  have hEvent := fun (p : Publisher) (t : DroneTick D) => ofEvent_heard p t
  have hAttitude : ofEvent (flightLog p ticks) ATTITUDE_EVT = ticks.map (note ATTITUDE_EVT buildAttitude) := by
    rw [@ofEvent_flightLog _ _ _ _ _ _ 1 fun p t => ?_, every_one]
    rw [Nat.mod_one]
    exact (ofEvent_heard p t).1
  have hMotion := ofEvent_flightLog (fun p t => (hEvent p t).2.1) p ticks
  have hGimbal := ofEvent_flightLog (fun p t => (hEvent p t).2.2.1) p ticks
  have hSignal := ofEvent_flightLog (fun p t => (hEvent p t).2.2.2.1) p ticks
  have hBattery := ofEvent_flightLog (fun p t => (hEvent p t).2.2.2.2.1) p ticks
  have hAltitude : values (flightLog p ticks) MOTION_EVT 0 =
      smoothedBy 0.50 (every 5 p.tickCount ticks) DroneState.altitudeM :=
    values_smoothed hMotion (fun s => (window_buildMotion s).1) rfl
  have hVsi : values (flightLog p ticks) MOTION_EVT 4 =
      smoothedBy 0.30 (every 5 p.tickCount ticks) DroneState.vsiMs :=
    values_smoothed hMotion (fun s => (window_buildMotion s).2.1) rfl
  have hGroundSpeed : values (flightLog p ticks) MOTION_EVT 8 =
      (every 5 p.tickCount ticks).map fun t => (shown (wire t.state.groundSpeedMs) : D) :=
    values_unfiltered hMotion (fun s => (window_buildMotion s).2.2.1) rfl
  have hHistory {offset : UInt16} {values' : List D} (i : Nat)
      (hValues : values (flightLog p ticks) MOTION_EVT offset = values') :
      history (flightLog p ticks) MOTION_EVT offset i = sparkline (every 5 p.tickCount ticks) i values' := by
    rw [history, hValues, hMotion, List.zipWith_map_left]
    rfl
  exact {
    pitch := congrArg newest (values_smoothed hAttitude (fun s => (window_buildAttitude s).1) rfl)
    roll := congrArg newest (values_smoothed hAttitude (fun s => (window_buildAttitude s).2.1) rfl)
    yaw := congrArg newest (values_smoothed hAttitude (fun s => (window_buildAttitude s).2.2.1) rfl)
    throttle := congrArg newest (values_unfiltered hAttitude (fun s => (window_buildAttitude s).2.2.2) rfl)
    altitude := congrArg newest hAltitude
    vsi := congrArg newest hVsi
    groundSpeed := congrArg newest hGroundSpeed
    distance := congrArg newest (values_unfiltered hMotion (fun s => (window_buildMotion s).2.2.2) rfl)
    gimbalPitch := congrArg newest (values_unfiltered hGimbal (fun s => (window_buildGimbal s).1) rfl)
    gimbalRoll := congrArg newest (values_unfiltered hGimbal (fun s => (window_buildGimbal s).2) rfl)
    signal := by
      have hByte := byteAt_note hSignal
      rw [display]
      dsimp only
      rw [hByte, hByte]
      cases (every 25 p.tickCount ticks).getLast? <;> rfl
    voltage := congrArg newest (values_unfiltered hBattery (fun s => (window_buildBattery s).1) rfl)
    percent := congrArg newest (values_unfiltered hBattery (fun s => (window_buildBattery s).2) rfl)
    altitudeHistory := hHistory 0 hAltitude
    vsiHistory := hHistory 1 hVsi
    groundSpeedHistory := hHistory 2 hGroundSpeed
    status := by
      rintro ⟨t, hMem, hChanged⟩ last hLast
      rw [display_status]
      have hSome : changes p ticks ≠ [] := by
        intro hNil
        rw [changes_eq_nil.mp hNil t hMem] at hChanged
        cases hChanged
      have hChanges := last_changes p ticks
      rw [Option.mem_def.mp hLast, List.getLast?_eq_some_getLast hSome] at hChanges
      rw [List.getLast?_eq_some_getLast hSome]
      exact hChanges
    noStatus := by
      intro hSame
      rw [display_status, changes_eq_nil.mpr hSame]
      rfl }

theorem publish_notification (p : Publisher) (s : DroneState D) :
    ∀ msg ∈ (p.publish s).2, msg = notification msg.method msg.payload := by
  intro msg hMem
  simp only [Publisher.publish, List.mem_append, List.mem_ite_nil_right, List.mem_singleton] at hMem
  rcases hMem with rfl | ⟨-, rfl⟩ | ⟨-, rfl⟩ | ⟨-, rfl⟩ | ⟨-, rfl⟩ | ⟨-, rfl⟩ <;> rfl

theorem receive_messages (c : Cockpit D F) (clock : UInt16 → Nat → Int) {msgs : List Vsomeip.Message}
    (h : ∀ msg ∈ msgs, msg = notification msg.method msg.payload) :
    msgs.foldlM (fun c msg => c.receive (clock msg.method) msg) c =
      (msgs.map fun msg => (⟨msg.method, msg.payload, clock msg.method⟩ : Notified)).foldlM
        (fun c note => c.receive note.clock note.message) c := by
  induction msgs generalizing c with
  | nil => rfl
  | cons msg rest ih =>
    obtain ⟨hMsg, hRest⟩ := List.forall_mem_cons.mp h
    rw [List.map_cons, List.foldlM_cons, List.foldlM_cons, Notified.message, ← hMsg]
    exact congrArg _ (funext fun c => ih c hRest)

theorem displays_tick {flight : Flight D F} {now : Int} {log : List Notified}
    (h : Displays flight.cockpit now log) (t : DroneTick D) (hCount : flight.publisher.tickCount + 1 < 2 ^ 31) :
    ∃ flight', flight.tick t = some flight' ∧ flight'.publisher = (flight.publisher.publish t.state).1 ∧
      flight'.drone = DroneSim.tick t.state flight.drone ∧
      Displays flight'.cockpit now (log ++ heard flight.publisher t) := by
  obtain ⟨c', hReceives, hNext⟩ := h.receives _ (heard_fits flight.publisher t)
  refine ⟨⟨(flight.publisher.publish t.state).1, DroneSim.tick t.state flight.drone, c'⟩, ?_, rfl, rfl, hNext⟩
  rw [heard, ← receive_messages _ _ (publish_notification flight.publisher t.state)] at hReceives
  -- what is published does not depend on the inputs of the pilot
  change (flight.publisher.publish (DroneSim.tick t.state flight.drone)).2.foldlM _ _ = _ at hReceives
  have hBelow : (flight.publisher.publish (DroneSim.tick t.state flight.drone)).1.tickCount < 2 ^ 31 := by
    rwa [publish_tickCount]
  rw [Flight.tick]
  dsimp only
  rw [hReceives, Option.bind_eq_bind, Option.bind_some, if_pos hBelow]
  rfl

end Followed

section Steered

variable {D F : Type} [FloatOps F] [DoubleOps D F]

def controlValues (ctrl : Cockpit.Controls D) : List D := [ctrl.thr, ctrl.yaw, ctrl.pitch, ctrl.roll]

def controlMessage (ctrl : Cockpit.Controls D) : Vsomeip.Message :=
  { Vsomeip.createRequest with
    service := SERVICE_ID
    instanceId := INSTANCE_ID
    method := CTRL_INPUT_METHOD
    messageType := Vsomeip.MT_REQUEST_NO_RETURN
    payload := patches (packed (controlValues ctrl)) (List.replicate 16 0) }

theorem sendControlInput_sent {c : Cockpit D F} {app : Vsomeip.Application}
    (hApp : Bridge.getApp c.bridge c.handle = some app) (ctrl : Cockpit.Controls D) :
    c.sendControlInput ctrl =
      (Bridge.withApp c.bridge c.handle fun app => app.send (controlMessage ctrl), .sent) := by
  have hBuffer : (patches (packed (controlValues ctrl)) (List.replicate 16 0)).take 16 =
      patches (packed (controlValues ctrl)) (List.replicate 16 0) := List.take_of_length_le (le_refl 16)
  rw [Cockpit.sendControlInput, Bridge.sendFireForget, hApp, controlMessage, ← hBuffer]
  rfl

theorem onMessage_controlMessage (ctrl : Cockpit.Controls D) (s : DroneState D) :
    onMessage s (controlMessage ctrl) =
      { s with
        pilotThrottle := shown (wire ctrl.thr)
        pilotYaw := shown (wire ctrl.yaw)
        pilotPitch := shown (wire ctrl.pitch)
        pilotRoll := shown (wire ctrl.roll)
        pilotInputAge := DoubleOps.zero } := by
  have hMatches : (⟨SERVICE_ID, INSTANCE_ID, CTRL_INPUT_METHOD⟩ : HandlerKey).Matches (controlMessage ctrl) =
      true := by rfl
  have hLong : ¬ (controlMessage ctrl).payload.length < 16 := Nat.lt_irrefl 16
  have h {i : Nat} (hi : i < 4) := window_packed (controlValues ctrl) hi
  have hThr : window 4 (controlMessage ctrl).payload 0 = wire ctrl.thr := h (by decide : 0 < 4)
  have hYaw : window 4 (controlMessage ctrl).payload 4 = wire ctrl.yaw := h (by decide : 1 < 4)
  have hPitch : window 4 (controlMessage ctrl).payload 8 = wire ctrl.pitch := h (by decide : 2 < 4)
  have hRoll : window 4 (controlMessage ctrl).payload 12 = wire ctrl.roll := h (by decide : 3 < 4)
  rw [onMessage, hMatches, if_pos rfl, onControlInput, if_neg hLong]
  dsimp only
  rw [hThr, hYaw, hPitch, hRoll]
  rfl

/-- A control input reaches the drone, and the cockpit shows what it showed before. -/
theorem displays_steer {flight : Flight D F} {now : Int} {log : List Notified}
    (h : Displays flight.cockpit now log) (ctrl : Cockpit.Controls D) :
    (flight.steer ctrl).publisher = flight.publisher ∧
      (flight.steer ctrl).drone = onMessage flight.drone (controlMessage ctrl) ∧
      Displays (flight.steer ctrl).cockpit now log := by
  obtain ⟨m, ⟨⟨sent, hApp⟩, hRep⟩, hTracks, hShown⟩ := h
  have hNext := Bridge.getApp_withApp hApp fun app => app.send (controlMessage ctrl)
  have hFilters : (Bridge.withApp flight.cockpit.bridge flight.cockpit.handle fun app =>
      app.send (controlMessage ctrl)).filters = flight.cockpit.bridge.filters := by
    rw [Bridge.withApp_some hApp]
  rw [Flight.steer, sendControlInput_sent hApp]
  refine ⟨rfl, ?_, m, ⟨⟨sent ++ [controlMessage ctrl], hNext⟩, ?_⟩, hTracks, hShown⟩
  · dsimp only [Flight.outbox]
    rw [hNext, hApp]
    simp [Vsomeip.Application.send]
  · dsimp only
    rw [hFilters]
    exact hRep

def ticks (steps : List (FlightStep D)) : List (DroneTick D) :=
  steps.filterMap fun
    | .tick t => some t
    | .steer _ => none

def inputs (steps : List (FlightStep D)) : List (Cockpit.Controls D) :=
  steps.filterMap fun
    | .tick _ => none
    | .steer ctrl => some ctrl

/-- What the pilot has put in last, as `float`s. -/
def pilot (s : DroneState D) : List D := [s.pilotThrottle, s.pilotYaw, s.pilotPitch, s.pilotRoll]

theorem displays_run {flight : Flight D F} {now : Int} {log : List Notified}
    (h : Displays flight.cockpit now log) (steps : List (FlightStep D))
    (hCount : flight.publisher.tickCount + (ticks steps).length < 2 ^ 31) :
    ∃ flight', flight.run steps = some flight' ∧
      Displays flight'.cockpit now (log ++ flightLog flight.publisher (ticks steps)) ∧
      pilot flight'.drone = ((inputs steps).getLast?.map fun ctrl =>
        (controlValues ctrl).map fun x => shown (wire x)).getD (pilot flight.drone) := by
  induction steps generalizing flight log with
  | nil => exact ⟨flight, rfl, by rwa [ticks, List.filterMap_nil, flightLog, List.append_nil], rfl⟩
  | cons step rest ih =>
    cases step with
    | tick t =>
      have hTicks : (ticks (.tick t :: rest)).length = (ticks rest).length + 1 := rfl
      rw [hTicks] at hCount
      obtain ⟨next, hTick, hPublisher, hDrone, hNext⟩ := displays_tick h t (by omega)
      obtain ⟨flight', hRun, hLast, hPilot⟩ := ih hNext (by
        rw [hPublisher, publish_tickCount]
        omega)
      refine ⟨flight', ?_, ?_, ?_⟩
      · rw [Flight.run, List.foldlM_cons, Flight.step, hTick]
        exact hRun
      · rw [hPublisher, List.append_assoc] at hLast
        exact hLast
      · rw [hDrone] at hPilot
        exact hPilot
    | steer ctrl =>
      obtain ⟨hPublisher, hDrone, hNext⟩ := displays_steer h ctrl
      obtain ⟨flight', hRun, hLast, hPilot⟩ := ih hNext (by rwa [hPublisher])
      refine ⟨flight', ?_, ?_, ?_⟩
      · rw [Flight.run, List.foldlM_cons, Flight.step]
        exact hRun
      · rwa [hPublisher] at hLast
      · rw [hDrone, onMessage_controlMessage] at hPilot
        rw [hPilot]
        exact (last_cons _ ctrl (inputs rest) _).symm

/-- Whatever its filters have seen before, a cockpit shows the newest of what is published since it is
connected, if no other signal of the six events is filtered, and `tick_count` does not overflow. Meanwhile the drone
is steered by what the pilot has put in last. -/
theorem telemetry_follows (calls : List (FilterCall F)) (outputs : List FilterOutput) (b : BridgeState F)
    (hRun : FilterRegistry.empty.run calls = some (b.filters, outputs))
    (hOnly : ∀ event ∈ subscribed, ∀ offset, b.filters.Configured (eventOf event) offset →
      ∃ alpha, (event, offset, alpha) ∈ smoothed)
    (p : Publisher) (drone : DroneState D) (handle : Handle) (nativePortId : DartPort) (now : Int)
    (steps : List (FlightStep D)) (hCount : p.tickCount + (ticks steps).length < 2 ^ 31) :
    ∃ flight', (⟨p, drone, connect b handle nativePortId now⟩ : Flight D F).run steps = some flight' ∧
      Follows p (ticks steps) flight'.cockpit.screen.telemetry ∧
      pilot flight'.drone = ((inputs steps).getLast?.map fun ctrl =>
        (controlValues ctrl).map fun x => shown (wire x)).getD (pilot drone) := by
  obtain ⟨filters, hFilters, hRep⟩ := Represents.empty.run calls
  obtain ⟨rfl, -⟩ := Prod.mk.inj (Option.some.inj (hFilters.symm.trans hRun))
  have hDisplays : Displays (connect b handle nativePortId now : Cockpit D F) now [] := by
    refine ⟨_, ready_connect hRep handle nativePortId now, tracks_connect fun event hEvent offset hSome => ?_,
      (display_nil now).symm⟩
    obtain ⟨alpha, hMem⟩ := hOnly event hEvent offset ((hRep.configured_iff _ _).mpr hSome)
    exact weight_isSome hMem
  obtain ⟨flight', hFlight, ⟨m, -, -, hShown⟩, hPilot⟩ :=
    @displays_run _ _ _ _ ⟨p, drone, connect b handle nativePortId now⟩ _ _ hDisplays steps hCount
  refine ⟨flight', hFlight, ?_, hPilot⟩
  rw [hShown]
  exact follows_display now p (ticks steps)

end Steered

instance : DoubleOps ExactSample ExactSample where
  zero := .finite 0
  narrow := id
  widen := id

def droneStart : DroneState ExactSample where
  pitch := .finite 0
  roll := .finite 0
  yaw := .finite 0
  throttle := .finite 0.45
  altitudeM := .finite 2.5
  vsiMs := .finite 0
  groundSpeedMs := .finite 0
  distanceM := .finite 0
  voltageV := .finite 16.8
  percent := .finite 100
  armed := 1
  flightMode := 1
  gpsFix := 3
  satCount := 14
  rssiPct := 95
  linkQuality := 99
  gimbalPitchDeg := .finite 0
  gimbalRollDeg := .finite 0
  pilotThrottle := .finite 0
  pilotYaw := .finite 0
  pilotPitch := .finite 0
  pilotRoll := .finite 0
  pilotInputAge := .finite 99

theorem telemetry_follows_start :
    ∃ flight', (⟨Publisher.start, droneStart, connect Bridge.initial 4096 7 1000⟩ :
        Flight ExactSample ExactSample).run
          [.tick ⟨droneStart, fun _ _ => 1020⟩,
            .steer ⟨.finite 1, .finite 0, .finite (-1), .finite 0⟩,
            .tick ⟨droneStart, fun _ _ => 1040⟩] = some flight' ∧
      [flight'.cockpit.screen.telemetry.armed, flight'.cockpit.screen.telemetry.flightMode,
        flight'.cockpit.screen.telemetry.gpsFix, flight'.cockpit.screen.telemetry.satCount] =
          [1, 1, 3, 14] ∧
      pilot flight'.drone = [.finite 1, .finite 0, .finite (-1), .finite 0] := by
  obtain ⟨flight', hRun, hFollows, hPilot⟩ := @telemetry_follows ExactSample ExactSample _ _ [] []
    Bridge.initial rfl (fun event _ offset hConfigured =>
      absurd ((Represents.empty.configured_iff _ _).mp hConfigured) Bool.false_ne_true)
    .start droneStart 4096 7 1000
    [.tick ⟨droneStart, fun _ _ => 1020⟩, .steer ⟨.finite 1, .finite 0, .finite (-1), .finite 0⟩,
      .tick ⟨droneStart, fun _ _ => 1040⟩] (by decide)
  refine ⟨flight', hRun, hFollows.status ⟨_, List.mem_cons_self, rfl⟩ _ rfl, hPilot.trans ?_⟩
  decide +kernel

end Flight

end VsomeipDart
