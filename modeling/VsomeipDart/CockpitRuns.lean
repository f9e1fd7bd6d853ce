import VsomeipDart.CockpitDisplay

/-! # Runs of a connected cockpit

Behind every log of notifications of the right sizes the telemetry is what `display` says. The filters of the
bridge are where the samples of the log have brought them.
-/

namespace VsomeipDart
set_option autoImplicit false

open LittleEndian DroneSim

namespace Cockpit

variable {D F : Type} [FloatOps F] [DoubleOps D F]

theorem smoothed_room : ∀ filter ∈ smoothed, (filter.1 = ATTITUDE_EVT ∨ filter.1 = MOTION_EVT) ∧
    filter.2.1.toNat % 4 = 0 ∧ filter.2.1.toNat + 4 ≤ 16 := by
  decide

theorem weight_none {event : UInt16} (hAttitude : event ≠ ATTITUDE_EVT) (hMotion : event ≠ MOTION_EVT)
    (offset : UInt16) : weight event offset = none := by
  cases hWeight : weight event offset with
  | none => rfl
  | some alpha => exact absurd (smoothed_room _ (weight_mem hWeight)).1 (not_or.mpr ⟨hAttitude, hMotion⟩)

theorem Notified.Fits.subscribed {note : Notified} (h : note.Fits) : note.event ∈ subscribed := by
  cases h <;> exact of_decide_eq_true rfl

theorem Notified.Fits.payload_ne {note : Notified} (h : note.Fits) : note.payload ≠ [] := by
  rw [← List.length_pos_iff]
  cases h <;> simp_all

theorem Notified.Fits.payload_le {note : Notified} (h : note.Fits) : note.payload.length ≤ 16 := by
  cases h <;> simp_all

theorem Notified.Fits.room {note : Notified} (h : note.Fits) {offset : UInt16} {alpha : Rat}
    (hWeight : weight note.event offset = some alpha) : offset.toNat + 4 ≤ note.payload.length := by
  obtain ⟨hEvent, -, hRoom⟩ := smoothed_room _ (weight_mem hWeight)
  cases h with
  | attitude clock hLength => exact hLength ▸ hRoom
  | motion clock hLength => exact hLength ▸ hRoom
  | _ => exact absurd hEvent (of_decide_eq_false rfl)

/-- The filters of the six events are those of the cockpit, where the samples of the log have brought them. -/
structure Tracks (m : SignalMap F) (log : List Notified) : Prop where
  filter : ∀ {event offset : UInt16} {alpha : Rat}, weight event offset = some alpha →
    m (eventOf event) offset = some (smooth alpha (samplesAt (ofEvent log event) offset)).1
  only : ∀ {event : UInt16}, event ∈ subscribed → ∀ offset, (m (eventOf event) offset).isSome →
    (weight event offset).isSome

namespace Tracks

variable {m : SignalMap F} {log : List Notified}

/-- Windows of the event that are configured or in its record share no byte. -/
theorem apart (h : Tracks m log) {event : UInt16} (hEvent : event ∈ subscribed) {offset other : UInt16}
    (hAligned : offset.toNat % 4 = 0) (hSome : (m (eventOf event) other).isSome) (hNe : other ≠ offset) :
    SignalMap.Apart other offset := by
  obtain ⟨alpha, hWeight⟩ := Option.isSome_iff_exists.mp (h.only hEvent other hSome)
  obtain ⟨-, hOther, -⟩ := smoothed_room _ (weight_mem hWeight)
  have hDiffer : other.toNat ≠ offset.toNat := fun hSame => hNe (UInt16.toNat_inj.mp hSame)
  dsimp only at hOther
  rw [SignalMap.Apart]
  omega

theorem delivered_snoc (h : Tracks m log) {event : UInt16} (hEvent : event ∈ subscribed) {offset : UInt16}
    (hAligned : offset.toNat % 4 = 0) {payload : Bytes} (hRoom : offset.toNat + 4 ≤ payload.length) :
    delivered F event offset
        (samplesAt (ofEvent log event) offset ++ [window 4 payload offset.toNat]) =
      delivered F event offset (samplesAt (ofEvent log event) offset) ++
        [window 4 (SignalMap.sweep (m (eventOf event)) payload).payload offset.toNat] := by
  rw [delivered, delivered]
  cases hWeight : weight event offset with
  | none =>
    have hSame : window 4 (SignalMap.sweep (m (eventOf event)) payload).payload offset.toNat =
        window 4 payload offset.toNat := by
      refine window_congr fun i hi => SignalMap.sweep_outside _ _ fun other hSome _ => ?_
      have hNe : other ≠ offset := by
        rintro rfl
        have hThere := h.only hEvent other hSome
        rw [hWeight] at hThere
        cases hThere
      rcases h.apart hEvent hAligned hSome hNe with hBehind | hBefore <;> omega
    rw [hSame]
  | some alpha =>
    have hSignal := SignalMap.sweep_signal (m (eventOf event)) payload (h.filter hWeight)
      fun other hSome hNe => h.apart hEvent hAligned hSome hNe
    dsimp only at hSignal
    rw [if_pos hRoom] at hSignal
    dsimp only
    rw [smooth_snoc]
    dsimp only
    rw [hSignal.2]

theorem sweep (h : Tracks m log) {note : Notified} (hFits : note.Fits) :
    Tracks (Function.update m (eventOf note.event)
      (SignalMap.sweep (m (eventOf note.event)) note.payload).filters) (log ++ [note]) where
  filter {event offset alpha} hWeight := by
    obtain ⟨ownEvent, payload, clock⟩ := note
    obtain ⟨-, hAligned, -⟩ := smoothed_room _ (weight_mem hWeight)
    rcases eq_or_ne ownEvent event with rfl | hNe
    · have hSignal := SignalMap.sweep_signal (m (eventOf ownEvent)) payload (h.filter hWeight)
        fun other hSome hNe => h.apart hFits.subscribed hAligned hSome hNe
      dsimp only at hSignal
      rw [if_pos (hFits.room hWeight)] at hSignal
      rw [Function.update_self, hSignal.1, ofEvent_snoc_self, samplesAt_snoc, smooth_snoc]
    · have hOther : eventOf event ≠ eventOf ownEvent := fun hSame => hNe (congrArg EventId.evt hSame).symm
      rw [Function.update_of_ne hOther, ofEvent_snoc_ne log hNe]
      exact h.filter hWeight
  only {event} hEvent offset hSome := by
    refine h.only hEvent offset ?_
    rcases eq_or_ne (eventOf event) (eventOf note.event) with hSame | hOther
    · rw [hSame, Function.update_self, SignalMap.sweep, SignalMap.feeds_isSome] at hSome
      rwa [hSame]
    · rwa [Function.update_of_ne hOther] at hSome

/-- Without filters for the event the payload is delivered as it is. -/
theorem sweep_unfiltered (h : Tracks m log) {event : UInt16} (hEvent : event ∈ subscribed)
    (hNone : ∀ offset, weight event offset = none) (payload : Bytes) :
    (SignalMap.sweep (m (eventOf event)) payload).payload = payload := by
  refine List.ext_getElem? fun i => SignalMap.sweep_outside _ _ fun offset hSome _ => ?_
  have hThere := h.only hEvent offset hSome
  rw [hNone offset] at hThere
  cases hThere

section Values

variable {event offset : UInt16} {payload : Bytes} (clock : Nat → Int)

theorem values_snoc (h : Tracks m log) (hEvent : event ∈ subscribed) (hAligned : offset.toNat % 4 = 0)
    (hRoom : offset.toNat + 4 ≤ payload.length) :
    (values (log ++ [⟨event, payload, clock⟩]) event offset : List D) =
      values log event offset ++
        [shown (window 4 (SignalMap.sweep (m (eventOf event)) payload).payload offset.toNat)] := by
  rw [values, ofEvent_snoc_self, samplesAt_snoc, h.delivered_snoc hEvent hAligned hRoom, List.map_append]
  rfl

theorem newest_snoc (h : Tracks m log) (hEvent : event ∈ subscribed) (hAligned : offset.toNat % 4 = 0)
    (hRoom : offset.toNat + 4 ≤ payload.length) :
    (newest (values (log ++ [⟨event, payload, clock⟩]) event offset) : D) =
      shown (window 4 (SignalMap.sweep (m (eventOf event)) payload).payload offset.toNat) := by
  rw [h.values_snoc clock hEvent hAligned hRoom, newest, List.getLast?_concat]
  rfl

theorem history_snoc (h : Tracks m log) (hEvent : event ∈ subscribed) (hAligned : offset.toNat % 4 = 0)
    (hRoom : offset.toNat + 4 ≤ payload.length) (i : Nat) :
    (history (log ++ [⟨event, payload, clock⟩]) event offset i : SignalHistory D) =
      (history log event offset i).add (clock i)
        (shown (window 4 (SignalMap.sweep (m (eventOf event)) payload).payload offset.toNat)) := by
  have hLength : (ofEvent log event).length = (values log event offset : List D).length := by
    rw [values, List.length_map, delivered_length, samplesAt, List.length_map]
  rw [history, h.values_snoc clock hEvent hAligned hRoom, ofEvent_snoc_self, List.zipWith_append hLength,
    SignalHistory.run, List.foldl_append]
  rfl

end Values

end Tracks

section Receive

variable {m : SignalMap F} {log : List Notified}

/-- What the screen makes of a notification, filtered, is what is displayed behind it. -/
theorem Tracks.update (h : Tracks m log) {note : Notified} (hFits : note.Fits) (now : Int) :
    ∃ t : Telemetry D, (display now log : Telemetry D).update note.clock note.event.toNat
        (SignalMap.sweep (m (eventOf note.event)) note.payload).payload = .ok t ∧
      { t with lastUpdateMs := note.clock 3 } = display now (log ++ [note]) := by
  have hEvent := hFits.subscribed
  cases hFits with
  | attitude clock hLength =>
    have hSwept := (SignalMap.sweep_length (m (eventOf ATTITUDE_EVT)) _).trans hLength
    have hNewest (offset : UInt16) (hAligned : offset.toNat % 4 = 0) (hRoom : offset.toNat + 4 ≤ 16) :=
      newest_snoc (D := D) clock h hEvent hAligned (hLength ▸ hRoom)
    refine ⟨_, update_attitude clock _ hSwept, ?_⟩
    rw [display, display, lastUpdate_snoc]
    simp (disch := decide) only [values_snoc_ne, byteAt_snoc_ne, history_snoc_ne, armedSince_snoc_ne, hNewest]
    rfl
  | motion clock hLength =>
    have hSwept := (SignalMap.sweep_length (m (eventOf MOTION_EVT)) _).trans hLength
    have hNewest (offset : UInt16) (hAligned : offset.toNat % 4 = 0) (hRoom : offset.toNat + 4 ≤ 16) :=
      newest_snoc (D := D) clock h hEvent hAligned (hLength ▸ hRoom)
    have hHistory (offset : UInt16) (hAligned : offset.toNat % 4 = 0) (hRoom : offset.toNat + 4 ≤ 16) :=
      history_snoc (D := D) clock h hEvent hAligned (hLength ▸ hRoom)
    refine ⟨_, update_motion clock _ hSwept, ?_⟩
    rw [display, display, lastUpdate_snoc]
    simp (disch := decide) only [values_snoc_ne, byteAt_snoc_ne, armedSince_snoc_ne, hNewest, hHistory]
    rfl
  | battery clock hLength =>
    have hSwept := (SignalMap.sweep_length (m (eventOf BATTERY_EVT)) _).trans hLength
    have hNewest (offset : UInt16) (hAligned : offset.toNat % 4 = 0) (hRoom : offset.toNat + 4 ≤ 8) :=
      newest_snoc (D := D) clock h hEvent hAligned (hLength ▸ hRoom)
    refine ⟨_, update_battery clock _ hSwept, ?_⟩
    rw [display, display, lastUpdate_snoc]
    simp (disch := decide) only [values_snoc_ne, byteAt_snoc_ne, history_snoc_ne, armedSince_snoc_ne, hNewest]
    rfl
  | status clock armed flightMode gpsFix satCount =>
    have hUpdate := update_status clock (display now log : Telemetry D) armed flightMode gpsFix satCount
    rw [← h.sweep_unfiltered hEvent (@weight_none STATUS_EVT (by decide) (by decide))
      [armed, flightMode, gpsFix, satCount]] at hUpdate
    refine ⟨_, hUpdate, ?_⟩
    have hSince : (if byteAt log STATUS_EVT 0 = 0 then armedSince log else 0) = 0 := by
      split
      next hDisarmed => exact armedSince_of_disarmed hDisarmed
      next => rfl
    rw [display, display, lastUpdate_snoc, armedSince_snoc_self]
    dsimp only
    rw [hSince]
    simp (disch := decide) only [values_snoc_ne, byteAt_snoc_ne, history_snoc_ne, byteAt_snoc_self]
    rfl
  | signal clock rssi linkQuality =>
    have hUpdate := update_signal clock (display now log : Telemetry D) rssi linkQuality
    rw [← h.sweep_unfiltered hEvent (@weight_none SIGNAL_EVT (by decide) (by decide))
      [rssi, linkQuality, 0, 0]] at hUpdate
    refine ⟨_, hUpdate, ?_⟩
    rw [display, display, lastUpdate_snoc]
    simp (disch := decide) only [values_snoc_ne, byteAt_snoc_ne, history_snoc_ne, armedSince_snoc_ne,
      byteAt_snoc_self]
    rfl
  | gimbal clock hLength =>
    have hSwept := (SignalMap.sweep_length (m (eventOf GIMBAL_EVT)) _).trans hLength
    have hNewest (offset : UInt16) (hAligned : offset.toNat % 4 = 0) (hRoom : offset.toNat + 4 ≤ 8) :=
      newest_snoc (D := D) clock h hEvent hAligned (hLength ▸ hRoom)
    refine ⟨_, update_gimbal clock _ hSwept, ?_⟩
    rw [display, display, lastUpdate_snoc]
    simp (disch := decide) only [values_snoc_ne, byteAt_snoc_ne, history_snoc_ne, armedSince_snoc_ne, hNewest]
    rfl

def Displays (c : Cockpit D F) (now : Int) (log : List Notified) : Prop :=
  ∃ m, Ready c m ∧ Tracks m log ∧ c.screen.telemetry = display now log

theorem Displays.receive {c : Cockpit D F} {now : Int} (h : Displays c now log) {note : Notified}
    (hFits : note.Fits) :
    ∃ c', c.receive note.clock note.message = some c' ∧ Displays c' now (log ++ [note]) := by
  obtain ⟨m, hReady, hTracks, hShown⟩ := h
  obtain ⟨t, hUpdate, hTelemetry⟩ := hTracks.update (D := D) hFits now
  rw [← hShown] at hUpdate
  have hCap : note.payload.length ≤ kMaxPayloadBytes.toNat := by
    have hLe := hFits.payload_le
    rw [kMaxPayloadBytes_toNat]
    omega
  obtain ⟨c', hReceive, hNext, hScreen⟩ :=
    receive_notification hReady note.clock hFits.subscribed hFits.payload_ne hCap hUpdate
  exact ⟨c', hReceive, _, hNext, hTracks.sweep hFits, hScreen.trans hTelemetry⟩

/-- A run of the cockpit over the notifications that it is given. -/
theorem Displays.receives {c : Cockpit D F} {now : Int} (h : Displays c now log) (notes : List Notified)
    (hFits : ∀ note ∈ notes, note.Fits) :
    ∃ c', notes.foldlM (fun c note => c.receive note.clock note.message) c = some c' ∧
      Displays c' now (log ++ notes) := by
  induction notes generalizing c log with
  | nil => exact ⟨c, rfl, by rwa [List.append_nil]⟩
  | cons note rest ih =>
    obtain ⟨hFirst, hRest⟩ := List.forall_mem_cons.mp hFits
    obtain ⟨next, hReceive, hNext⟩ := h.receive hFirst
    obtain ⟨c', hRun, hLast⟩ := ih hNext hRest
    refine ⟨c', ?_, ?_⟩
    · rw [List.foldlM_cons, hReceive]
      exact hRun
    · rwa [List.append_assoc] at hLast

end Receive

section Connect

variable {m : SignalMap F}

theorem connectedMap_isSome (m : SignalMap F) (filters : List (UInt16 × UInt16 × Rat)) (event offset : UInt16)
    (h : (connectedMap m filters (eventOf event) offset).isSome) :
    (m (eventOf event) offset).isSome ∨ ∃ alpha, (event, offset, alpha) ∈ filters := by
  induction filters generalizing m with
  | nil => exact .inl h
  | cons filter rest ih =>
    obtain ⟨event', offset', alpha⟩ := filter
    rcases ih _ h with hSet | ⟨alpha', hMem⟩
    · change ((m.set (eventOf event') offset' _) (eventOf event) offset).isSome at hSet
      rcases eq_or_ne (eventOf event) (eventOf event') with hEvent | hEvent
      · rcases eq_or_ne offset offset' with rfl | hOffset
        · obtain rfl : event = event' := congrArg EventId.evt hEvent
          exact .inr ⟨alpha, List.mem_cons_self⟩
        · rw [SignalMap.set, hEvent, Function.update_self, Function.update_of_ne hOffset, ← hEvent] at hSet
          exact .inl hSet
      · rw [SignalMap.set, Function.update_of_ne hEvent] at hSet
        exact .inl hSet
    · exact .inr ⟨alpha', List.mem_cons_of_mem _ hMem⟩

theorem tracks_connect
    (h : ∀ event ∈ subscribed, ∀ offset, (m (eventOf event) offset).isSome → (weight event offset).isSome) :
    Tracks (connectedMap m smoothed) [] where
  filter hWeight := by
    have hSet : ∀ filter ∈ smoothed, connectedMap m smoothed (eventOf filter.1) filter.2.1 =
        some (createFilter .ema (FloatOps.literal filter.2.2) (FloatOps.literal 100)) := by
      simp only [smoothed, List.forall_mem_cons]
      exact ⟨rfl, rfl, rfl, rfl, rfl, fun _ hNone => absurd hNone List.not_mem_nil⟩
    exact hSet _ (weight_mem hWeight)
  only {event} hEvent offset hSome := by
    rcases connectedMap_isSome m smoothed event offset hSome with hThere | ⟨alpha, hMem⟩
    · exact h event hEvent offset hThere
    · exact weight_isSome hMem

end Connect

end Cockpit

end VsomeipDart
