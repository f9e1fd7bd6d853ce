import Mathlib.Data.List.Induction

/-! # The event-loop thread of an application (`start` and `stop` in `vsomeip_app.cpp`)

One caller makes one call after another; between the steps of a call the event-loop threads make theirs.
`app_->start()` can return at any time, and does once `app_->stop()` has been called.
-/

namespace VsomeipDart
set_option autoImplicit false

/-- Where an event-loop thread is: `left` is behind `app_->start()`, which
returned or threw a `std::exception`. -/
inductive LoopPoint where
  | spawned
  | inStart
  | left
  | ended
  deriving DecidableEq, Repr

inductive CallerPoint where
  | idle
  /-- `start` has set `running_` -/
  | claimed
  /-- `start` has created the thread that it will assign to `thread_` -/
  | created
  /-- `stop` has called `app_->stop()` -/
  | stopping
  /-- `stop` is behind the join -/
  | joined
  deriving DecidableEq, Repr

structure AppLoop where
  running : Bool
  /-- `thread_` holds a thread that has not been joined -/
  joinable : Bool
  /-- all event-loop threads, the newest last -/
  loops : List LoopPoint
  caller : CallerPoint
  /-- the last call that returned is `stop` -/
  stopped : Bool
  /-- a thread was assigned to `thread_` while it held an unjoined one, which ends the process -/
  overwritten : Bool
  deriving DecidableEq, Repr

inductive LoopAction where
  | start
  | createThread
  | assignThread
  | stop
  | join
  | clearRunning
  /-- a step of an event-loop thread -/
  | loop (i : Nat)
  deriving DecidableEq, Repr

namespace AppLoop

def initial : AppLoop := ⟨false, false, [], .idle, false, false⟩

def act (s : AppLoop) : LoopAction → AppLoop
  | .start =>
    if s.caller = .idle then
      if s.running then { s with stopped := false }
      else { s with running := true, caller := .claimed }
    else s
  | .createThread =>
    if s.caller = .claimed then { s with loops := s.loops ++ [.spawned], caller := .created } else s
  | .assignThread =>
    if s.caller = .created then
      { s with
        joinable := true
        caller := .idle
        stopped := false
        overwritten := s.overwritten || s.joinable }
    else s
  | .stop => if s.caller = .idle then { s with caller := .stopping } else s
  | .join =>
    if s.caller = .stopping then
      if s.joinable then
        -- `thread_` holds the newest thread
        if s.loops.getLast? = some .ended then { s with joinable := false, caller := .joined } else s
      else { s with caller := .joined }
    else s
  | .clearRunning =>
    if s.caller = .joined then { s with running := false, caller := .idle, stopped := true } else s
  | .loop i =>
    match s.loops[i]? with
    | some .spawned => { s with loops := s.loops.set i .inStart }
    | some .inStart => { s with loops := s.loops.set i .left }
    | some .left => { s with loops := s.loops.set i .ended, running := false }
    | some .ended => s
    | none => s

/-- No thread makes a step after `std::terminate`. -/
def step (s : AppLoop) (action : LoopAction) : AppLoop :=
  if s.overwritten then s else s.act action

def run (actions : List LoopAction) : AppLoop := actions.foldl step initial

structure Safe (s : AppLoop) : Prop where
  oneLoop : (s.loops.filter fun p => p ≠ .ended).length ≤ 1
  kept : s.overwritten = false
  stopped : s.caller = .idle → s.stopped = true → s.joinable = false ∧ s.running = false

/-- `start` is called while the loop runs, or after `stop` has joined it. -/
def StartsInTime (actions : List LoopAction) : Prop :=
  ∀ before after, actions = before ++ .start :: after → (run before).caller = .idle →
    (run before).running = true ∨ (run before).joinable = false

def Held (s : AppLoop) : Prop := s.caller = .created ∨ s.joinable = true

theorem not_held {s : AppLoop} (hCaller : s.caller ≠ .created) (hJoinable : s.joinable = false) :
    ¬ s.Held := by
  rintro (hCreated | hJoin)
  · exact hCaller hCreated
  · rw [hJoin] at hJoinable
    cases hJoinable

structure Inv (s : AppLoop) : Prop where
  kept : s.overwritten = false
  held : s.Held → ∃ front p, s.loops = front ++ [p] ∧ (∀ q ∈ front, q = .ended) ∧
    (p ≠ .ended → s.running = true)
  free : ¬ s.Held → ∀ q ∈ s.loops, q = .ended
  unjoinable : s.caller = .claimed ∨ s.caller = .created ∨ s.caller = .joined → s.joinable = false
  claimed : s.caller = .claimed → s.running = true
  stopped : s.caller = .idle → s.stopped = true → s.joinable = false ∧ s.running = false

theorem filter_ended {loops : List LoopPoint} (h : ∀ q ∈ loops, q = .ended) :
    loops.filter (fun p => p ≠ .ended) = [] :=
  List.filter_eq_nil_iff.mpr fun q hMem => by simp [h q hMem]

theorem Inv.safe {s : AppLoop} (h : Inv s) : Safe s := by
  refine ⟨?_, h.kept, h.stopped⟩
  rcases Classical.em s.Held with hHeld | hFree
  · obtain ⟨front, p, hLoops, hFront, -⟩ := h.held hHeld
    rw [hLoops, List.filter_append, filter_ended hFront, List.nil_append]
    exact List.length_filter_le _ _
  · rw [filter_ended (h.free hFree)]
    exact Nat.zero_le 1

theorem inv_initial : Inv initial where
  kept := rfl
  held h := by
    rcases h with h | h <;> cases h
  free _ _ h := absurd h List.not_mem_nil
  unjoinable _ := rfl
  claimed h := by cases h
  stopped _ h := by cases h

theorem Inv.held_of_live {s : AppLoop} (h : Inv s) {i : Nat} {q : LoopPoint}
    (hThread : s.loops[i]? = some q) (hLive : q ≠ .ended) : s.Held := by
  by_contra hFree
  exact hLive (h.free hFree q (List.mem_of_getElem? hThread))

theorem set_newest {front : List LoopPoint} {p q : LoopPoint} {i : Nat} (next : LoopPoint)
    (hFront : ∀ r ∈ front, r = .ended) (hThread : (front ++ [p])[i]? = some q) (hLive : q ≠ .ended) :
    q = p ∧ (front ++ [p]).set i next = front ++ [next] := by
  rcases Nat.lt_or_ge i front.length with hLt | hGe
  · rw [List.getElem?_append_left hLt] at hThread
    exact absurd (hFront q (List.mem_of_getElem? hThread)) hLive
  · rw [List.getElem?_append_right hGe] at hThread
    obtain ⟨hZero, hEq⟩ := List.getElem?_eq_some_iff.mp hThread
    have hLast : i = front.length := by
      rw [List.length_singleton] at hZero
      omega
    subst hLast
    simp at hEq
    exact ⟨hEq.symm, by simp⟩

theorem Inv.advance {s : AppLoop} (h : Inv s) {i : Nat} {q next : LoopPoint}
    (hThread : s.loops[i]? = some q) (hLive : q ≠ .ended) {running : Bool}
    (hRunning : next ≠ .ended → running = s.running) :
    Inv { s with loops := s.loops.set i next, running } := by
  have hHeld := h.held_of_live hThread hLive
  refine ⟨h.kept, fun _ => ?_, fun hFree => absurd hHeld hFree, h.unjoinable,
    fun (hCaller : s.caller = .claimed) => ?_, fun (hCaller : s.caller = .idle) hStopped => ?_⟩
  · obtain ⟨front, p, hLoops, hFront, hRun⟩ := h.held hHeld
    rw [hLoops] at hThread
    obtain ⟨rfl, hSet⟩ := set_newest next hFront hThread hLive
    refine ⟨front, next, by rw [← hSet, ← hLoops], hFront, fun hNext => ?_⟩
    rw [← hRun hLive]
    exact hRunning hNext
  · exact absurd hHeld (not_held (by simp [hCaller]) (h.unjoinable (.inl hCaller)))
  · obtain ⟨hJoinable, -⟩ := h.stopped hCaller hStopped
    exact absurd hHeld (not_held (by simp [hCaller]) hJoinable)

theorem Inv.loop {s : AppLoop} (h : Inv s) (i : Nat) : Inv (s.act (.loop i)) := by
  cases hThread : s.loops[i]? with
  | none => rwa [act, hThread]
  | some q =>
    rw [act, hThread]
    cases q with
    | spawned => exact h.advance hThread (by decide) fun _ => rfl
    | inStart => exact h.advance hThread (by decide) fun _ => rfl
    | left => exact h.advance hThread (by decide) fun hNext => absurd rfl hNext
    | ended => exact h

section Steps

variable {s : AppLoop} (h : Inv s)

include h

theorem Inv.start (hTime : s.caller = .idle → s.running = true ∨ s.joinable = false) :
    Inv (s.act .start) := by
  rw [act]
  split
  · rename_i hIdle
    split
    · exact ⟨h.kept, h.held, h.free, h.unjoinable, h.claimed, nofun⟩
    · rename_i hRunning
      have hJoinable := (hTime hIdle).resolve_left hRunning
      have hFree : ¬ s.Held := not_held (by simp [hIdle]) hJoinable
      refine ⟨h.kept, ?_, fun _ => h.free hFree, fun _ => hJoinable, fun _ => rfl, nofun⟩
      rintro (hCreated | hJoin)
      · cases hCreated
      · exact absurd (.inr hJoin) hFree
  · exact h

theorem Inv.createThread : Inv (s.act .createThread) := by
  rw [act]
  split
  · rename_i hClaimed
    have hJoinable := h.unjoinable (.inl hClaimed)
    have hFree : ¬ s.Held := not_held (by simp [hClaimed]) hJoinable
    exact ⟨h.kept, fun _ => ⟨s.loops, .spawned, rfl, h.free hFree, fun _ => h.claimed hClaimed⟩,
      fun hNot => absurd (.inl rfl) hNot, fun _ => hJoinable, nofun, nofun⟩
  · exact h

theorem Inv.assignThread : Inv (s.act .assignThread) := by
  rw [act]
  split
  · rename_i hCreated
    have hJoinable := h.unjoinable (.inr (.inl hCreated))
    exact ⟨by simp [h.kept, hJoinable], fun _ => h.held (.inl hCreated),
      fun hNot => absurd (.inr rfl) hNot, by simp, nofun, nofun⟩
  · exact h

theorem Inv.stop : Inv (s.act .stop) := by
  rw [act]
  split
  · rename_i hIdle
    refine ⟨h.kept, ?_, fun hNot => h.free fun hHeld => hNot ?_, by simp, nofun, nofun⟩
    · rintro (hCreated | hJoin)
      · cases hCreated
      · exact h.held (.inr hJoin)
    · rcases hHeld with hCreated | hJoin
      · rw [hIdle] at hCreated
        cases hCreated
      · exact .inr hJoin
  · exact h

theorem Inv.join : Inv (s.act .join) := by
  rw [act]
  split
  · rename_i hStopping
    split
    · rename_i hJoinable
      split
      · rename_i hEnded
        obtain ⟨front, p, hLoops, hFront, -⟩ := h.held (.inr hJoinable)
        have hAll : ∀ q ∈ s.loops, q = .ended := by
          rw [hLoops, List.getLast?_concat] at hEnded
          rw [hLoops]
          exact List.forall_mem_append.mpr
            ⟨hFront, List.forall_mem_singleton.mpr (Option.some.inj hEnded)⟩
        exact ⟨h.kept, fun hHeld => by rcases hHeld with hCaller | hJoin <;> contradiction,
          fun _ => hAll, fun _ => rfl, nofun, nofun⟩
      · exact h
    · rename_i hJoinable
      have hFree : ¬ s.Held := not_held (by simp [hStopping]) (Bool.eq_false_iff.mpr hJoinable)
      refine ⟨h.kept, ?_, fun _ => h.free hFree, fun _ => Bool.eq_false_iff.mpr hJoinable, nofun, nofun⟩
      rintro (hCreated | hJoin)
      · cases hCreated
      · exact absurd hJoin hJoinable
  · exact h

theorem Inv.clearRunning : Inv (s.act .clearRunning) := by
  rw [act]
  split
  · rename_i hJoined
    have hJoinable := h.unjoinable (.inr (.inr hJoined))
    have hFree : ¬ s.Held := not_held (by simp [hJoined]) hJoinable
    refine ⟨h.kept, ?_, fun _ => h.free hFree, fun _ => hJoinable, nofun, fun _ _ => ⟨hJoinable, rfl⟩⟩
    rintro (hCreated | hJoin)
    · cases hCreated
    · exact absurd (.inr hJoin) hFree
  · exact h

end Steps

theorem Inv.step {s : AppLoop} (h : Inv s) (action : LoopAction)
    (hTime : action = .start → s.caller = .idle → s.running = true ∨ s.joinable = false) :
    Inv (s.step action) := by
  rw [AppLoop.step, h.kept, if_neg Bool.false_ne_true]
  cases action with
  | start => exact h.start (hTime rfl)
  | createThread => exact h.createThread
  | assignThread => exact h.assignThread
  | stop => exact h.stop
  | join => exact h.join
  | clearRunning => exact h.clearRunning
  | loop i => exact h.loop i

theorem inv_run {actions : List LoopAction} (hTime : StartsInTime actions) : Inv (run actions) := by
  induction actions using List.reverseRecOn with
  | nil => exact inv_initial
  | append_singleton before action ih =>
    have hBefore : StartsInTime before := by
      intro front back hSplit
      exact hTime front (back ++ [action]) (by rw [hSplit]; simp)
    rw [run, List.foldl_append]
    refine (ih hBefore).step action fun hStart => ?_
    rw [hStart] at hTime
    exact hTime before [] rfl

theorem run_safe (actions : List LoopAction) (hTime : StartsInTime actions) : Safe (run actions) :=
  (inv_run hTime).safe

/-- A run whose first call is `start` and that makes no other is in time. -/
theorem startsInTime_cons {actions : List LoopAction} (hOnce : .start ∉ actions) :
    StartsInTime (.start :: actions) := by
  intro before after hSplit _
  cases before with
  | nil => exact .inr rfl
  | cons first before =>
    obtain ⟨-, rfl⟩ := List.cons.inj hSplit
    simp at hOnce

theorem run_safe_stop :
    Safe (run [.start, .createThread, .assignThread, .loop 0, .stop, .loop 0, .loop 0, .join,
      .clearRunning]) :=
  run_safe _ (startsInTime_cons (by decide))

/-- Any later `start` overwrites the thread that nobody has joined. -/
theorem late_start_overwrites {s : AppLoop} (hKept : s.overwritten = false) (hIdle : s.caller = .idle)
    (hRunning : s.running = false) (hJoinable : s.joinable = true) :
    (((s.step .start).step .createThread).step .assignThread).overwritten = true := by
  simp [AppLoop.step, act, hKept, hIdle, hRunning, hJoinable]

/-- The loop ends by itself and `start` is called again: `running_` is clear, `thread_` is not. -/
theorem restart_overwrites : ¬ ∀ actions, Safe (run actions) := by
  intro hSafe
  have hKept := (hSafe [.start, .createThread, .assignThread, .loop 0, .loop 0, .loop 0, .start,
    .createThread, .assignThread]).kept
  revert hKept
  decide

end AppLoop

end VsomeipDart
