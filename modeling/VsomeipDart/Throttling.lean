import VsomeipDart.Lib.FiniteMap
import VsomeipDart.Lib.KeyedMachine
import VsomeipDart.Worker

/-! # Throttling of signals in the worker isolate (`vsomeip_worker.dart`)

Messages of any number of signals arrive at the worker port between commands that set their rates.
-/

namespace VsomeipDart
set_option autoImplicit false

/-- A post of `post_message_to_dart`: a 21-byte message header and a payload or null. -/
structure MessageBuffers where
  header : Bytes
  second : DartValue
  header_length : header.length = 21
  header_disc : header.head? = some DartDisc.message

namespace MessageBuffers

def object (buffers : MessageBuffers) : DartObject :=
  .list [.uint8List buffers.header, buffers.second]

def message (buffers : MessageBuffers) : SomeIpMessage :=
  WireCodec.toMessage (WireCodec.headerAt buffers.header) buffers.second.uint8List?

end MessageBuffers

inductive WorkerPost where
  | message (buffers : MessageBuffers)
  | setThrottle (cmd : SetThrottleCmd)

namespace SetThrottleCmd

def key (cmd : SetThrottleCmd) : SomeIpKey := ⟨cmd.serviceId, cmd.instanceId, cmd.methodId⟩

/-- The interval of a positive rate does not overflow a double. -/
def RateFits (cmd : SetThrottleCmd) : Prop :=
  ∀ value, cmd.maxHz = .finite value → 0 < value → 1000000 / value < Double.overflowBound

end SetThrottleCmd

namespace WorkerPost

def object : WorkerPost → DartObject
  | message buffers => buffers.object
  | setThrottle cmd => .setThrottleCmd cmd

def key : WorkerPost → SomeIpKey
  | message buffers => buffers.message.key
  | setThrottle cmd => cmd.key

def RateFits : WorkerPost → Prop
  | message _ => True
  | setThrottle cmd => cmd.RateFits

def message? : WorkerPost → Option SomeIpMessage
  | message buffers => some buffers.message
  | setThrottle _ => none

def commandFor (key : SomeIpKey) : WorkerPost → Option SetThrottleCmd
  | message _ => none
  | setThrottle cmd => if cmd.key = key then some cmd else none

end WorkerPost

/-- What is handled at the port, in order, with the clock reading of each turn. -/
abbrev PortLog := List (Int × WorkerPost)

namespace PortLog

def received (log : PortLog) : List DartObject :=
  (log.filterMap fun entry => entry.2.message?).map .someIpMessage

def forwarded (log : PortLog) : List DartObject :=
  (Mealy.run Worker.turn .initial (log.map fun entry => (entry.1, entry.2.object))).2.flatten

def ofSignal (key : SomeIpKey) (log : PortLog) : PortLog := log.filter fun entry => entry.2.key = key

def lastCommand (key : SomeIpKey) (log : PortLog) : Option SetThrottleCmd :=
  (log.filterMap fun entry => entry.2.commandFor key).getLast?

end PortLog

def DartObject.IsOfSignal (key : SomeIpKey) : DartObject → Bool
  | someIpMessage msg => msg.key == key
  | _ => false

namespace Worker

/-- What the worker does to one signal: the state is the throttle of the signal, if it has one. -/
def signalStep (throttle : Option SignalThrottle) (entry : Int × WorkerPost) :
    Option SignalThrottle × List SomeIpMessage :=
  match entry.2, throttle with
  | .message buffers, none => (none, [buffers.message])
  | .message buffers, some throttle =>
    (some (throttle.shouldForward entry.1).2,
      if (throttle.shouldForward entry.1).1 then [buffers.message] else [])
  | .setThrottle cmd, _ => ((SignalThrottle.create cmd.maxHz).toOption, [])

@[simp] theorem signalStep_none (now : Int) (buffers : MessageBuffers) :
    signalStep none (now, .message buffers) = (none, [buffers.message]) := rfl

@[simp] theorem signalStep_some (now : Int) (buffers : MessageBuffers) (throttle : SignalThrottle) :
    signalStep (some throttle) (now, .message buffers) =
      (some (throttle.shouldForward now).2,
        if (throttle.shouldForward now).1 then [buffers.message] else []) := rfl

@[simp] theorem signalStep_setThrottle (now : Int) (cmd : SetThrottleCmd)
    (throttle : Option SignalThrottle) : signalStep throttle (now, .setThrottle cmd) =
      ((SignalThrottle.create cmd.maxHz).toOption, []) := by
  cases throttle <;> rfl

/-- All signals at once, each with its own throttle. -/
def signalsTurn : (SomeIpKey → Option SignalThrottle) → Int × WorkerPost →
    (SomeIpKey → Option SignalThrottle) × List SomeIpMessage :=
  KeyedMachine.turn (fun entry => entry.2.key) signalStep

/-- The map of the worker holds the throttles of the signals. -/
def Holds (st : WorkerState) (signals : SomeIpKey → Option SignalThrottle) : Prop :=
  st.portOpen = true ∧ ∀ key, st.throttles.lookup key = signals key

theorem lookup_insert_eq (throttles : Throttles) (key key' : SomeIpKey) (throttle : SignalThrottle) :
    (throttles.insert key throttle).lookup key' =
      Function.update (fun k => throttles.lookup k) key (some throttle) key' := by
  rw [FiniteMap.lookup_insert, Function.update_apply]

theorem listener_message (now : Int) (st : WorkerState) (buffers : MessageBuffers) :
    listener now st buffers.object =
      (handleMessage now buffers.header buffers.second.uint8List? st.throttles).map
        fun out => ({ st with throttles := out.1 }, out.2) := by
  rw [MessageBuffers.object, listener_pair]
  obtain ⟨header, second, hLength, hDisc⟩ := buffers
  cases header with
  | nil => cases hDisc
  | cons disc rest =>
    cases hDisc
    rfl

/-- One turn of the worker is one turn of the signals. -/
theorem turn_holds {st : WorkerState} {signals : SomeIpKey → Option SignalThrottle}
    (entry : Int × WorkerPost) (hRate : entry.2.RateFits) (h : Holds st signals) :
    Holds (turn st (entry.1, entry.2.object)).1 (signalsTurn signals entry).1 ∧
      (turn st (entry.1, entry.2.object)).2 =
        (signalsTurn signals entry).2.map .someIpMessage := by
  obtain ⟨hOpen, hLookup⟩ := h
  obtain ⟨now, post⟩ := entry
  cases post with
  | message buffers =>
    have hDecode : WireCodec.decodeHeader buffers.header 0 = .ok (WireCodec.headerAt buffers.header) :=
      WireCodec.decodeHeader_eq buffers.header_length.ge
    have hHere := hLookup buffers.message.key
    cases hThrottle : st.throttles.lookup buffers.message.key with
    | none =>
      have hTurn : turn st (now, buffers.object) = (st, [.someIpMessage buffers.message]) :=
        turn_ok hOpen (by
          rw [listener_message, handleMessage_none now _ hDecode hThrottle]
          rfl)
      rw [WorkerPost.object, hTurn, signalsTurn, KeyedMachine.turn, WorkerPost.key, ← hHere,
        hThrottle, signalStep_none]
      refine ⟨⟨hOpen, fun key => ?_⟩, rfl⟩
      rw [hLookup, ← hThrottle, hHere, Function.update_eq_self]
    | some throttle =>
      have hTurn : turn st (now, buffers.object) =
          ({ st with throttles :=
              st.throttles.insert buffers.message.key (throttle.shouldForward now).2 },
            if (throttle.shouldForward now).1 then [.someIpMessage buffers.message] else []) :=
        turn_ok hOpen (by
          rw [listener_message, handleMessage_some now _ hDecode hThrottle]
          rfl)
      rw [WorkerPost.object, hTurn, signalsTurn, KeyedMachine.turn, WorkerPost.key, ← hHere,
        hThrottle, signalStep_some]
      refine ⟨⟨hOpen, fun key => ?_⟩, ?_⟩
      · rw [lookup_insert_eq, funext hLookup]
      · dsimp only
        split <;> rfl
  | setThrottle cmd =>
    obtain ⟨throttle, hCreate⟩ := (SignalThrottle.create_isOk_iff cmd.maxHz).mpr hRate
    have hTurn : turn st (now, .setThrottleCmd cmd) =
        ({ st with throttles := st.throttles.insert cmd.key throttle }, []) :=
      turn_ok hOpen (by
        unfold listener
        simp only [branch, DartObject.list?, hCreate]
        rfl)
    rw [WorkerPost.object, hTurn, signalsTurn, KeyedMachine.turn, WorkerPost.key,
      signalStep_setThrottle, hCreate]
    refine ⟨⟨hOpen, fun key => ?_⟩, rfl⟩
    rw [lookup_insert_eq, funext hLookup]
    rfl

theorem key_of_mem_signalStep (throttle : Option SignalThrottle) (entry : Int × WorkerPost) :
    ∀ msg ∈ (signalStep throttle entry).2, msg.key = entry.2.key := by
  obtain ⟨now, post⟩ := entry
  intro msg hMem
  cases post with
  | message buffers =>
    cases throttle with
    | none => exact congrArg SomeIpMessage.key (List.mem_singleton.mp hMem)
    | some throttle =>
      rw [signalStep_some] at hMem
      split at hMem
      · exact congrArg SomeIpMessage.key (List.mem_singleton.mp hMem)
      · cases hMem
  | setThrottle cmd =>
    rw [signalStep_setThrottle] at hMem
    cases hMem

theorem signalStep_sublist (throttle : Option SignalThrottle) (entry : Int × WorkerPost) :
    (signalStep throttle entry).2.Sublist entry.2.message?.toList := by
  obtain ⟨now, post⟩ := entry
  cases post with
  | message buffers =>
    cases throttle with
    | none => exact List.Sublist.refl _
    | some throttle =>
      rw [signalStep_some]
      split
      · exact List.Sublist.refl _
      · exact List.nil_sublist _
  | setThrottle cmd =>
    rw [signalStep_setThrottle]
    exact List.nil_sublist _

def noThrottles : SomeIpKey → Option SignalThrottle := fun _ => none

def signalsRun (log : PortLog) : (SomeIpKey → Option SignalThrottle) × List (List SomeIpMessage) :=
  Mealy.run signalsTurn noThrottles log

theorem signalsRun_snoc (log : PortLog) (entry : Int × WorkerPost) :
    signalsRun (log ++ [entry]) = ((signalsTurn (signalsRun log).1 entry).1,
      (signalsRun log).2 ++ [(signalsTurn (signalsRun log).1 entry).2]) :=
  Mealy.run_snoc signalsTurn _ log entry

end Worker

namespace PortLog

open Worker

theorem lastCommand_snoc (key : SomeIpKey) (log : PortLog) (now : Int) (post : WorkerPost) :
    lastCommand key (log ++ [(now, post)]) = (post.commandFor key).or (lastCommand key log) := by
  rw [lastCommand, List.filterMap_append]
  cases hCommand : post.commandFor key with
  | none => simp [hCommand, lastCommand]
  | some cmd => simp [hCommand]

/-- A signal has a throttle only after a command, and no limit after one with no positive rate. -/
theorem throttle_of_run (key : SomeIpKey) {log : PortLog}
    (hRates : ∀ entry ∈ log, entry.2.RateFits) {throttle : SignalThrottle}
    (h : (signalsRun log).1 key = some throttle) :
    ∃ cmd, lastCommand key log = some cmd ∧ (¬ cmd.maxHz.isPositive → throttle.intervalUs = 0) := by
  induction log using List.reverseRecOn generalizing throttle with
  | nil => cases h
  | append_singleton log entry ih =>
    have ih := @ih fun entry hMem => hRates entry (List.mem_append_left _ hMem)
    obtain ⟨now, post⟩ := entry
    rw [signalsRun_snoc, signalsTurn] at h
    rw [lastCommand_snoc]
    rcases eq_or_ne post.key key with rfl | hKey
    · simp only [KeyedMachine.turn, Function.update_self] at h
      cases post with
      | message buffers =>
        rw [WorkerPost.commandFor, Option.none_or]
        cases hBefore : (signalsRun log).1 (WorkerPost.message buffers).key with
        | none =>
          rw [hBefore, signalStep_none] at h
          cases h
        | some throttle' =>
          rw [hBefore, signalStep_some] at h
          cases h
          obtain ⟨cmd, hLast, hInterval⟩ := ih hBefore
          refine ⟨cmd, hLast, fun hRate => ?_⟩
          rw [SignalThrottle.shouldForward_intervalUs, hInterval hRate]
      | setThrottle cmd =>
        rw [signalStep_setThrottle] at h
        refine ⟨cmd, by simp [WorkerPost.commandFor, WorkerPost.key], fun hRate => ?_⟩
        cases hCreate : SignalThrottle.create cmd.maxHz with
        | error err =>
          rw [hCreate] at h
          cases h
        | ok throttle' =>
          rw [hCreate] at h
          cases h
          exact SignalThrottle.intervalUs_of_create hCreate hRate
    · have hNone : post.commandFor key = none := by
        cases post with
        | message buffers => rfl
        | setThrottle cmd => exact if_neg hKey
      have hOther : (KeyedMachine.turn (fun entry : Int × WorkerPost => entry.2.key) signalStep
          (signalsRun log).1 (now, post)).1 key = (signalsRun log).1 key :=
        KeyedMachine.turn_other _ hKey
      rw [hOther] at h
      rw [hNone, Option.none_or]
      exact ih h

theorem forwarded_eq {log : PortLog} (hRates : ∀ entry ∈ log, entry.2.RateFits) :
    forwarded log = (signalsRun log).2.flatten.map .someIpMessage := by
  have hStart : Holds .initial noThrottles := ⟨rfl, fun _ => rfl⟩
  have hRun := (Mealy.run_simulates (g := List.map DartObject.someIpMessage)
    (P := fun entry : Int × WorkerPost => entry.2.RateFits)
    (fun st signals entry hRate h => turn_holds entry hRate h) hStart hRates).2
  rw [forwarded, hRun, signalsRun, List.map_flatten]

theorem received_eq (log : PortLog) :
    received log = (log.flatMap fun entry => entry.2.message?.toList).map .someIpMessage := by
  rw [received, List.filterMap_eq_flatMap_toList]

/-- Messages of a signal that has no positive rate all get through. -/
theorem forwarded_snoc {log : PortLog} (hRates : ∀ entry ∈ log, entry.2.RateFits) (now : Int)
    {buffers : MessageBuffers}
    (hRate : ∀ cmd, lastCommand buffers.message.key log = some cmd → ¬ cmd.maxHz.isPositive) :
    forwarded (log ++ [(now, .message buffers)]) =
      forwarded log ++ [.someIpMessage buffers.message] := by
  have hRates' : ∀ entry ∈ log ++ [(now, WorkerPost.message buffers)], entry.2.RateFits := by
    simp only [List.forall_mem_append, List.forall_mem_singleton]
    exact ⟨hRates, trivial⟩
  have hForward : (signalsTurn (signalsRun log).1 (now, .message buffers)).2 = [buffers.message] := by
    rw [signalsTurn, KeyedMachine.turn, WorkerPost.key]
    cases hThrottle : (signalsRun log).1 buffers.message.key with
    | none => rfl
    | some throttle =>
      obtain ⟨cmd, hLast, hInterval⟩ := throttle_of_run _ hRates hThrottle
      rw [signalStep_some, SignalThrottle.shouldForward_unlimited (hInterval (hRate cmd hLast)), if_pos rfl]
  rw [forwarded_eq hRates, forwarded_eq hRates', signalsRun_snoc, hForward, List.flatten_append,
    List.map_append]
  rfl

/-- Throttling keeps the order, treats every signal as if it were alone, and drops nothing of a signal
without a positive rate, as long as no command sets a rate whose interval overflows. -/
theorem throttling_isolates (log : PortLog) (hRates : ∀ entry ∈ log, entry.2.RateFits) :
    (forwarded log).Sublist (received log) ∧
      (∀ key, (forwarded log).filter (DartObject.IsOfSignal key) = forwarded (log.ofSignal key)) ∧
      ∀ before now buffers after, log = before ++ (now, .message buffers) :: after →
        (∀ cmd, lastCommand buffers.message.key before = some cmd → ¬ cmd.maxHz.isPositive) →
        forwarded (before ++ [(now, .message buffers)]) =
          forwarded before ++ [.someIpMessage buffers.message] := by
  refine ⟨?_, fun key => ?_, ?_⟩
  · have hTurn : ∀ signals entry, (signalsTurn signals entry).2.Sublist entry.2.message?.toList :=
      fun signals entry => signalStep_sublist (signals entry.2.key) entry
    rw [forwarded_eq hRates, received_eq]
    exact (Mealy.run_flatten_sublist hTurn _ log).map _
  · have hStart : noThrottles key = noThrottles key := rfl
    have hFilter := (KeyedMachine.run_filter key_of_mem_signalStep key hStart log).2
    have hRates' : ∀ entry ∈ log.ofSignal key, entry.2.RateFits :=
      fun entry hMem => hRates entry (List.mem_of_mem_filter hMem)
    rw [forwarded_eq hRates, forwarded_eq hRates', List.filter_map]
    exact congrArg _ hFilter
  · rintro before now buffers after rfl hRate
    exact forwarded_snoc (fun entry hMem => hRates entry (List.mem_append_left _ hMem)) now hRate

/-- A notification of event 0x8001 of a service. -/
def eventOf (service : UInt8) : MessageBuffers where
  header := [0x01, service, 0, 1, 0, 0x01, 0x80, 0x02, 0, 0, 0, 0, 0, 0, 0, 0, 0, 0, 0, 0, 0]
  second := .null
  header_length := rfl
  header_disc := rfl

def rateOf (service : UInt8) (maxHz : Double) : SetThrottleCmd := ⟨service.toNat, 1, 0x8001, maxHz⟩

def speedAt30Hz : PortLog :=
  [(0, .setThrottle (rateOf 1 (.finite 30))), (1, .message (eventOf 1)), (2, .message (eventOf 1)),
    (3, .message (eventOf 2))]

theorem throttling_isolates_speed :
    (forwarded speedAt30Hz).Sublist (received speedAt30Hz) ∧
      (forwarded speedAt30Hz).filter (DartObject.IsOfSignal ⟨1, 1, 0x8001⟩) =
        forwarded (speedAt30Hz.ofSignal ⟨1, 1, 0x8001⟩) ∧
      forwarded (speedAt30Hz.take 3 ++ [(3, .message (eventOf 2))]) =
        forwarded (speedAt30Hz.take 3) ++ [.someIpMessage (eventOf 2).message] := by
  have hRates : ∀ entry ∈ speedAt30Hz, entry.2.RateFits := by
    simp only [speedAt30Hz, List.forall_mem_cons]
    refine ⟨fun value hValue hPositive => ?_, trivial, trivial, trivial, by simp⟩
    cases hValue
    decide +kernel
  have hAll := throttling_isolates speedAt30Hz hRates
  exact ⟨hAll.1, hAll.2.1 _, hAll.2.2 (speedAt30Hz.take 3) 3 (eventOf 2) [] rfl (by decide)⟩

/-- The least positive rate for one event: the worker dies of it, and the other event is lost. -/
theorem least_rate_silences_other :
    forwarded [(0, .setThrottle (rateOf 1 (.finite (1 / 2 ^ 1074)))), (1, .message (eventOf 2))] =
        [] ∧
      forwarded (ofSignal ⟨2, 1, 0x8001⟩
        [(0, .setThrottle (rateOf 1 (.finite (1 / 2 ^ 1074)))), (1, .message (eventOf 2))]) =
        [.someIpMessage (eventOf 2).message] ∧
      ¬ ∀ (log : PortLog) key,
        (forwarded log).filter (DartObject.IsOfSignal key) = forwarded (log.ofSignal key) := by
  have hLost : forwarded
      [(0, .setThrottle (rateOf 1 (.finite (1 / 2 ^ 1074)))), (1, .message (eventOf 2))] = [] := by
    decide +kernel
  have hAlone : forwarded (ofSignal ⟨2, 1, 0x8001⟩
      [(0, .setThrottle (rateOf 1 (.finite (1 / 2 ^ 1074)))), (1, .message (eventOf 2))]) =
      [.someIpMessage (eventOf 2).message] := by
    decide +kernel
  refine ⟨hLost, hAlone, fun h => ?_⟩
  have hSame := h [(0, .setThrottle (rateOf 1 (.finite (1 / 2 ^ 1074)))), (1, .message (eventOf 2))]
    ⟨2, 1, 0x8001⟩
  rw [hLost, hAlone] at hSame
  cases hSame

end PortLog

end VsomeipDart
