import VsomeipDart.Lib.Threads
import VsomeipDart.PostedBuffers

/-! # Every posted buffer has one owner

The threads that post and the VM own the blocks of the heap, each block once, so that no buffer is freed twice
or used behind its end, and none is lost. What Dart holds is what was posted.
-/

namespace VsomeipDart
set_option autoImplicit false

namespace PostedBuffers

def Stage.owned : Stage → Option Nat
  | idle => none
  | allocated _ owned => some owned
  | built _ owned => owned
  | returned owned accepted => if accepted then none else owned

def Stage.pending : Stage → List Call
  | allocated call _ => [call]
  | built call _ => [call]
  | _ => []

/-- What a thread knows of its own buffer. -/
inductive Stage.Sound (ready : Bool) (heap : Heap Bytes) : Stage → Prop
  | idle : Sound ready heap .idle
  | allocated {call : Call} {owned : Nat} {bytes block : Bytes} (goes : call.returns ready = false)
    (copied : call.copied = some bytes) (there : heap owned = some block) (room : block.length = call.size) :
    Sound ready heap (.allocated call owned)
  | built {call : Call} {owned : Nat} {bytes : Bytes} (goes : call.returns ready = false)
    (copied : call.copied = some bytes) (there : heap owned = some bytes) : Sound ready heap (.built call owned)
  | empty {call : Call} (goes : call.returns ready = false) (copied : call.copied = none) :
    Sound ready heap (.built call none)
  | returned (owned : Option Nat) (accepted : Bool) : Sound ready heap (.returned owned accepted)

def Choice.Succeeds (choice : Choice) : Prop := choice.address.isSome ∧ choice.accepted = true

/-- Of the calls that a thread has made, some have posted what they post where nothing fails, and all of them
where nothing has failed. -/
def Poster.Made (ready : Bool) (plan : List (List Call)) (lossless : Prop) (i : Nat) (t : Poster) : Prop :=
  ∃ made, plan[i]? = some (made ++ (t.stage.pending ++ t.calls)) ∧
    t.posts.Sublist (made.filterMap (Call.post ready)) ∧
    (lossless → t.posts = made.filterMap (Call.post ready))

theorem copied_length {call : Call} {bytes : Bytes} (h : call.copied = some bytes) : bytes.length = call.size := by
  cases call with
  | toDart port disc data len fits =>
    cases h
    rw [List.length_cons, List.length_take, Nat.min_eq_left fits]
    rfl
  | messageToDart port post fits =>
    rw [Call.copied] at h
    cases hPayload : post.payload with
    | none =>
      rw [hPayload] at h
      cases h
    | some payload =>
      rw [hPayload] at h
      obtain ⟨-, hTake⟩ := Option.ite_none_right_eq_some.mp h
      cases hTake
      rw [List.length_take, Nat.min_eq_left (fits payload hPayload)]
      rfl

theorem post_object {ready : Bool} {call : Call} (h : call.returns ready = false) :
    call.post ready = some (call.port, call.object call.copied) := by
  cases call with
  | toDart port disc data len fits =>
    obtain ⟨hReady, hCap⟩ := Bool.or_eq_false_iff.mp h
    rw [Call.post, Bridge.postToDart, hReady, if_neg Bool.false_ne_true, if_neg (of_decide_eq_false hCap)]
    rfl
  | messageToDart port post fits =>
    obtain ⟨hReady, hCap⟩ := Bool.or_eq_false_iff.mp h
    rw [Call.post, Bridge.postMessageToDart, hReady, if_neg Bool.false_ne_true,
      if_neg (of_decide_eq_false hCap), Call.object, Call.copied]
    cases post.payload with
    | none => rfl
    | some payload =>
      by_cases hSome : post.payloadLen > 0 <;> simp [hSome, Call.port]

theorem Stage.Sound.frame {ready : Bool} {heap heap' : Heap Bytes} {stage : Stage} (h : stage.Sound ready heap)
    (hFrame : ∀ addr ∈ stage.owned, heap' addr = heap addr) : stage.Sound ready heap' := by
  cases h with
  | idle => exact .idle
  | allocated goes copied there room => exact .allocated goes copied ((hFrame _ rfl).trans there) room
  | built goes copied there => exact .built goes copied ((hFrame _ rfl).trans there)
  | empty goes copied => exact .empty goes copied
  | returned owned accepted => exact .returned owned accepted

/-- A buffer is filled within its bounds. -/
theorem fill_owned {heap : Heap Bytes} {owned : Nat} {others : List Nat} {bytes block : Bytes}
    (h : Heap.Owned heap (owned :: others)) (hThere : heap owned = some block)
    (hRoom : bytes.length = block.length) :
    fill heap owned bytes = some (heap.put owned bytes) ∧ Heap.Owned (heap.put owned bytes) (owned :: others) ∧
      ∀ other ∈ others, heap.put owned bytes other = heap other := by
  obtain ⟨hWrite, hOwned, hFrame⟩ := h.write bytes
  refine ⟨?_, hOwned, hFrame⟩
  rw [fill, hThere]
  show (if bytes.length ≤ block.length then _ else _) = _
  rw [if_pos hRoom.le, hRoom, List.drop_length, List.append_nil, hWrite]

/-- A step is no memory fault, keeps who owns what, and leaves what others own as it is. -/
structure Kept (ready : Bool) (choice : Choice) (heap : Heap Bytes) (t : Poster) (others : List Nat) (heap' : Heap Bytes)
    (externals' : List External) (t' : Poster) : Prop where
  owned : Heap.Owned heap' (t'.stage.owned.toList ++ (others ++ externals'.map External.peer))
  sound : t'.stage.Sound ready heap'
  held : ∀ external ∈ externals', heap' external.peer = some external.bytes
  frame : ∀ addr ∈ others, heap' addr = heap addr
  made : ∀ {plan : List (List Call)} {lossless : Prop} {i : Nat}, (lossless → choice.Succeeds) →
    t.Made ready plan lossless i → t'.Made ready plan lossless i

section Step

variable {ready : Bool} {heap : Heap Bytes} {externals : List External} {others : List Nat}
  {calls rest : List Call} {call : Call} {posts : List (DartPort × CObject)}

theorem post_returns {call : Call} (h : call.returns ready = true) : call.post ready = none := by
  cases call with
  | toDart port disc data len fits =>
    rcases Bool.or_eq_true_iff.mp h with hReady | hCap
    · rw [Call.post, Bridge.postToDart, hReady, if_pos rfl]
      rfl
    · rw [Call.post, Bridge.postToDart, if_pos (of_decide_eq_true hCap), ite_self]
      rfl
  | messageToDart port post fits =>
    rcases Bool.or_eq_true_iff.mp h with hReady | hCap
    · rw [Call.post, Bridge.postMessageToDart, hReady, if_pos rfl]
      rfl
    · rw [Call.post, Bridge.postMessageToDart, if_pos (of_decide_eq_true hCap), ite_self]
      rfl

theorem made_next {plan : List (List Call)} {lossless : Prop} {i : Nat} {t t' : Poster}
    (h : t.Made ready plan lossless i) (hCalls : t.stage.pending ++ t.calls = call :: t'.calls)
    (hPending : t'.stage.pending = [])
    (hPosts : t'.posts = t.posts ∧ (lossless → call.post ready = none) ∨
      ∃ post, call.post ready = some post ∧ t'.posts = t.posts ++ [post]) :
    t'.Made ready plan lossless i := by
  obtain ⟨made, hPlan, hSome, hAll⟩ := h
  refine ⟨made ++ [call], ?_, ?_⟩
  · rw [hPlan, hCalls, hPending, List.append_assoc]
    rfl
  · rw [List.filterMap_append]
    rcases hPosts with ⟨hSame, hNone⟩ | ⟨post, hPost, hNext⟩
    · rw [hSame]
      refine ⟨hSome.trans (List.sublist_append_left _ _), fun hLossless => ?_⟩
      rw [List.filterMap_cons_none (hNone hLossless), List.filterMap_nil, List.append_nil, hAll hLossless]
    · rw [hNext, List.filterMap_cons_some hPost, List.filterMap_nil]
      exact ⟨hSome.append (List.Sublist.refl _), fun hLossless => by rw [hAll hLossless]⟩

variable (hHeld : ∀ external ∈ externals, heap external.peer = some external.bytes)
include hHeld

theorem kept_call (choice : Choice) (hOwned : Heap.Owned heap (others ++ externals.map External.peer)) :
    ∃ heap' externals' t', step ready choice heap externals ⟨call :: rest, .idle, posts⟩ =
        some (heap', externals', t') ∧
      Kept ready choice heap ⟨call :: rest, .idle, posts⟩ others heap' externals' t' := by
  rw [step]
  dsimp only
  cases hGoes : call.returns ready with
  | true => exact ⟨_, _, _, rfl, hOwned, .idle, hHeld, fun _ _ => rfl, fun _ hMade =>
      made_next hMade rfl rfl (.inl ⟨rfl, fun _ => post_returns hGoes⟩)⟩
  | false =>
    rw [if_neg Bool.false_ne_true]
    cases hCopied : call.copied with
    | none => exact ⟨_, _, _, rfl, hOwned, .empty hGoes hCopied, hHeld, fun _ _ => rfl, fun _ => id⟩
    | some bytes =>
      rw [Option.isNone_some, if_neg Bool.false_ne_true]
      cases hAddress : choice.address with
      | none =>
        refine ⟨_, _, _, rfl, hOwned, .idle, hHeld, fun _ _ => rfl, fun hSucceeds hMade =>
          made_next hMade rfl rfl (.inl ⟨rfl, fun hLossless => ?_⟩)⟩
        have hThere := (hSucceeds hLossless).1
        rw [hAddress] at hThere
        cases hThere
      | some addr =>
        dsimp only
        cases hAddr : heap addr with
        | some block => exact ⟨_, _, _, rfl, hOwned, .idle, hHeld, fun _ _ => rfl, fun _ => id⟩
        | none =>
          rw [Option.isSome_none, if_neg Bool.false_ne_true]
          obtain ⟨hNext, hFrame⟩ := hOwned.alloc hAddr (choice.garbage.takeD call.size 0)
          refine ⟨_, _, _, rfl, hNext, .allocated hGoes hCopied (Function.update_self _ _ _)
            (List.takeD_length _ _ _), fun external hMem => ?_, fun other hMem => ?_, fun _ => id⟩
          · rw [hFrame _ (List.mem_append_right _ (List.mem_map_of_mem hMem)), hHeld external hMem]
          · exact hFrame other (List.mem_append_left _ hMem)

theorem kept_allocated {owned : Nat} (choice : Choice)
    (hOwned : Heap.Owned heap (owned :: (others ++ externals.map External.peer)))
    (hSound : Stage.Sound ready heap (.allocated call owned)) :
    ∃ heap' externals' t', step ready choice heap externals ⟨calls, .allocated call owned, posts⟩ =
        some (heap', externals', t') ∧
      Kept ready choice heap ⟨calls, .allocated call owned, posts⟩ others heap' externals' t' := by
  obtain _ | ⟨hGoes, hCopied, hThere, hRoom⟩ := hSound
  obtain ⟨hFill, hNext, hFrame⟩ := fill_owned hOwned hThere ((copied_length hCopied).trans hRoom.symm)
  rw [step]
  dsimp only
  rw [hCopied, Option.getD_some, hFill]
  refine ⟨_, _, _, rfl, hNext, .built hGoes hCopied (Function.update_self _ _ _), fun external hMem => ?_,
    fun other hMem => ?_, fun _ => id⟩
  · rw [hFrame _ (List.mem_append_right _ (List.mem_map_of_mem hMem)), hHeld external hMem]
  · exact hFrame other (List.mem_append_left _ hMem)

theorem kept_empty (choice : Choice) (hOwned : Heap.Owned heap (others ++ externals.map External.peer))
    (hSound : Stage.Sound ready heap (.built call none)) :
    ∃ heap' externals' t', step ready choice heap externals ⟨calls, .built call none, posts⟩ =
        some (heap', externals', t') ∧
      Kept ready choice heap ⟨calls, .built call none, posts⟩ others heap' externals' t' := by
  obtain _ | _ | _ | ⟨hGoes, hCopied⟩ := hSound
  rw [step]
  dsimp only
  cases hAccepted : choice.accepted with
  | true => exact ⟨_, _, _, rfl, hOwned, .returned _ _, hHeld, fun _ _ => rfl, fun _ hMade =>
      made_next hMade rfl rfl (.inr ⟨_, post_object hGoes, by rw [hCopied]⟩)⟩
  | false => exact ⟨_, _, _, rfl, hOwned, .returned _ _, hHeld, fun _ _ => rfl, fun hSucceeds hMade =>
      made_next hMade rfl rfl (.inl ⟨rfl, fun hLossless => absurd hAccepted (by simp [(hSucceeds hLossless).2])⟩)⟩

/-- An accepted buffer goes from the `unique_ptr` to the VM. -/
theorem kept_built {owned : Nat} (choice : Choice)
    (hOwned : Heap.Owned heap (owned :: (others ++ externals.map External.peer)))
    (hSound : Stage.Sound ready heap (.built call (some owned))) :
    ∃ heap' externals' t', step ready choice heap externals ⟨calls, .built call (some owned), posts⟩ =
        some (heap', externals', t') ∧
      Kept ready choice heap ⟨calls, .built call (some owned), posts⟩ others heap' externals' t' := by
  obtain _ | _ | ⟨hGoes, hCopied, hThere⟩ | _ := hSound
  rw [step]
  dsimp only
  rw [hThere]
  cases hAccepted : choice.accepted with
  | false => exact ⟨_, _, _, rfl, hOwned, .returned _ _, hHeld, fun _ _ => rfl, fun hSucceeds hMade =>
      made_next hMade rfl rfl (.inl ⟨rfl, fun hLossless => absurd hAccepted (by simp [(hSucceeds hLossless).2])⟩)⟩
  | true =>
    refine ⟨_, _, _, rfl, hOwned.perm ?_, .returned _ _, ?_, fun _ _ => rfl, fun _ hMade =>
      made_next hMade rfl rfl (.inr ⟨_, post_object hGoes, by rw [hCopied]⟩)⟩
    · change List.Perm _ (others ++ _)
      rw [List.map_append, ← List.append_assoc]
      exact (List.perm_append_singleton _ _).symm
    · intro external hMem
      rcases List.mem_append.mp hMem with hOld | hNew
      · exact hHeld external hOld
      · obtain rfl := List.mem_singleton.mp hNew
        exact hThere

theorem kept_returned (choice : Choice) (owned : Option Nat) (accepted : Bool)
    (hOwned : Heap.Owned heap ((Stage.returned owned accepted).owned.toList ++
      (others ++ externals.map External.peer))) :
    ∃ heap' externals' t', step ready choice heap externals ⟨calls, .returned owned accepted, posts⟩ =
        some (heap', externals', t') ∧
      Kept ready choice heap ⟨calls, .returned owned accepted, posts⟩ others heap' externals' t' := by
  rw [step]
  cases accepted with
  | true => exact ⟨heap, externals, ⟨calls, .idle, posts⟩, by cases owned <;> rfl, hOwned, .idle, hHeld, fun _ _ => rfl, fun _ => id⟩
  | false =>
    cases owned with
    | none => exact ⟨_, _, _, rfl, hOwned, .idle, hHeld, fun _ _ => rfl, fun _ => id⟩
    | some owned =>
      have hOwned : Heap.Owned heap (owned :: (others ++ externals.map External.peer)) := hOwned
      obtain ⟨hFree, hNext, hFrame⟩ := hOwned.free
      dsimp only
      rw [hFree]
      refine ⟨_, _, _, rfl, hNext, .idle, fun external hMem => ?_, fun other hMem => ?_, fun _ => id⟩
      · rw [hFrame _ (List.mem_append_right _ (List.mem_map_of_mem hMem)), hHeld external hMem]
      · exact hFrame other (List.mem_append_left _ hMem)

theorem kept_step (choice : Choice) {t : Poster}
    (hOwned : Heap.Owned heap (t.stage.owned.toList ++ (others ++ externals.map External.peer)))
    (hSound : t.stage.Sound ready heap) :
    ∃ heap' externals' t', step ready choice heap externals t = some (heap', externals', t') ∧
      Kept ready choice heap t others heap' externals' t' := by
  obtain ⟨calls, stage, posts⟩ := t
  cases stage with
  | idle =>
    cases calls with
    | nil => exact ⟨_, _, _, rfl, hOwned, .idle, hHeld, fun _ _ => rfl, fun _ => id⟩
    | cons call rest => exact kept_call hHeld choice hOwned
  | allocated call owned => exact kept_allocated hHeld choice hOwned hSound
  | built call owned =>
    cases owned with
    | none => exact kept_empty hHeld choice hOwned hSound
    | some owned => exact kept_built hHeld choice hOwned hSound
  | returned owned accepted => exact kept_returned hHeld choice owned accepted hOwned

end Step

structure OneOwner (ready : Bool) (plan : List (List Call)) (lossless : Prop) (s : Process) : Prop where
  owned : Heap.Owned s.heap (s.posters.filterMap (fun t => t.stage.owned) ++ s.externals.map External.peer)
  held : ∀ external ∈ s.externals, s.heap external.peer = some external.bytes
  sound : ∀ (i : Nat) (t : Poster), s.posters[i]? = some t → t.stage.Sound ready s.heap
  made : ∀ (i : Nat) (t : Poster), s.posters[i]? = some t → t.Made ready plan lossless i

theorem oneOwner_start (ready : Bool) (plan : List (List Call)) (lossless : Prop) :
    OneOwner ready plan lossless (start plan) := by
  have hPosters {i : Nat} {t : Poster} (hThread : (start plan).posters[i]? = some t) :
      ∃ calls, plan[i]? = some calls ∧ t = ⟨calls, .idle, []⟩ := by
    rw [start, List.getElem?_map] at hThread
    obtain ⟨calls, hCalls, rfl⟩ := Option.map_eq_some_iff.mp hThread
    exact ⟨calls, hCalls, rfl⟩
  have hNone : (start plan).posters.filterMap (fun t => t.stage.owned) = [] := by
    rw [start, List.filterMap_map]
    exact List.filterMap_eq_nil_iff.mpr fun _ _ => rfl
  refine ⟨?_, fun _ hMem => absurd hMem List.not_mem_nil, fun i t hThread => ?_, fun i t hThread => ?_⟩
  · rw [hNone]
    exact Heap.Owned.empty
  · obtain ⟨calls, -, rfl⟩ := hPosters hThread
    exact .idle
  · obtain ⟨calls, hCalls, rfl⟩ := hPosters hThread
    exact ⟨[], hCalls, List.Sublist.refl _, fun _ => rfl⟩

/-- What a thread owns is among what is not owned by another one. -/
theorem owned_mem_others {posters : List Poster} {i j : Nat} {others : List Nat} (hNe : j ≠ i)
    (hMoved : ∀ t' : Poster, ((posters.set i t').filterMap fun t => t.stage.owned).Perm
      (t'.stage.owned.toList ++ others)) {u : Poster} (hThread : posters[j]? = some u) {addr : Nat}
    (hOwned : addr ∈ u.stage.owned) : addr ∈ others := by
  have hThere : (posters.set i ⟨[], .idle, []⟩)[j]? = some u := (List.getElem?_set_ne hNe.symm).trans hThread
  exact (hMoved ⟨[], .idle, []⟩).mem_iff.mp
    (List.mem_filterMap.mpr ⟨u, List.mem_of_getElem? hThere, hOwned⟩)

variable {ready : Bool} {plan : List (List Call)} {lossless : Prop} {s : Process}

theorem OneOwner.turn (h : OneOwner ready plan lossless s) (i : Nat) {choice : Choice}
    (hSucceeds : lossless → choice.Succeeds) :
    ∃ s', act ready s (.turn i choice) = some s' ∧ OneOwner ready plan lossless s' := by
  rw [act]
  cases hThread : s.posters[i]? with
  | none => exact ⟨s, rfl, h⟩
  | some t =>
    obtain ⟨others, hOwners, hMoved⟩ := Heap.filterMap_set hThread fun t => t.stage.owned
    have hOwned := h.owned.perm (hOwners.append_right _)
    rw [List.append_assoc] at hOwned
    obtain ⟨heap', externals', t', hStep, hKept⟩ := kept_step h.held choice hOwned (h.sound i t hThread)
    dsimp only
    rw [hStep]
    refine ⟨_, rfl, ?_, hKept.held, fun j u hThere => ?_, fun j u hThere => ?_⟩
    · have hNext := hKept.owned
      rw [← List.append_assoc] at hNext
      exact hNext.perm ((hMoved t').symm.append_right _)
    · rcases Threads.getElem?_set hThread hThere with ⟨rfl, rfl⟩ | ⟨hNe, hSame⟩
      · exact hKept.sound
      · exact (h.sound j u hSame).frame fun addr hAddr =>
          hKept.frame addr (owned_mem_others hNe hMoved hSame hAddr)
    · rcases Threads.getElem?_set hThread hThere with ⟨rfl, rfl⟩ | ⟨-, hSame⟩
      · exact hKept.made hSucceeds (h.made _ _ hThread)
      · exact h.made j u hSame

theorem OneOwner.finalize (h : OneOwner ready plan lossless s) (k : Nat) :
    ∃ s', act ready s (.finalize k) = some s' ∧ OneOwner ready plan lossless s' := by
  rw [act]
  cases hExternal : s.externals[k]? with
  | none => exact ⟨s, rfl, h⟩
  | some external =>
    obtain ⟨hLt, rfl⟩ := List.getElem?_eq_some_iff.mp hExternal
    have hPerm : s.externals.Perm (s.externals[k] :: s.externals.eraseIdx k) :=
      (List.getElem_cons_eraseIdx_perm hLt).symm
    have hOwned := h.owned.perm (((hPerm.map External.peer).append_left _).trans List.perm_middle)
    obtain ⟨hFree, hNext, hFrame⟩ := hOwned.free
    dsimp only
    rw [hFree]
    refine ⟨_, rfl, hNext, fun external hMem => ?_, fun i t hThread => ?_, h.made⟩
    · exact (hFrame _ (List.mem_append_right _ (List.mem_map_of_mem hMem))).trans
        (h.held external (List.mem_of_mem_eraseIdx hMem))
    · exact (h.sound i t hThread).frame fun addr hAddr => hFrame addr
        (List.mem_append_left _ (List.mem_filterMap.mpr ⟨t, List.mem_of_getElem? hThread, hAddr⟩))

theorem OneOwner.run (h : OneOwner ready plan lossless s) {actions : List Action}
    (hSucceeds : lossless → ∀ i choice, .turn i choice ∈ actions → choice.Succeeds) :
    ∃ s', PostedBuffers.run ready s actions = some s' ∧ OneOwner ready plan lossless s' := by
  induction actions generalizing s with
  | nil => exact ⟨s, rfl, h⟩
  | cons action rest ih =>
    have hAct : ∃ s', act ready s action = some s' ∧ OneOwner ready plan lossless s' := by
      cases action with
      | turn i choice => exact h.turn i fun hLossless => hSucceeds hLossless i choice List.mem_cons_self
      | finalize k => exact h.finalize k
    obtain ⟨next, hNext, hOwner⟩ := hAct
    obtain ⟨s', hRun, hLast⟩ := ih hOwner fun hLossless i choice hMem =>
      hSucceeds hLossless i choice (List.mem_cons_of_mem _ hMem)
    refine ⟨s', ?_, hLast⟩
    rw [PostedBuffers.run, List.foldlM_cons, hNext]
    exact hRun

/-- Without a thread in a call and without an object of the VM, nothing is left on the heap. -/
theorem OneOwner.heap_empty (h : OneOwner ready plan lossless s) (hIdle : ∀ t ∈ s.posters, t.stage = .idle)
    (hNone : s.externals = []) : s.heap = Heap.empty := by
  funext addr
  have hOwners : s.posters.filterMap (fun t => t.stage.owned) = [] :=
    List.filterMap_eq_nil_iff.mpr fun t hMem => by rw [hIdle t hMem, Stage.owned]
  have hOwned := h.owned
  rw [hOwners, hNone] at hOwned
  exact Option.not_isSome_iff_eq_none.mp fun hSome =>
    absurd ((hOwned.mem_iff addr).mpr hSome) List.not_mem_nil

/-- Whatever the threads, the allocator and the VM do, there is no memory fault, and every buffer has one
owner; what a thread posts is what it posts where nothing fails, but for the posts that failed; and once the
threads are through and the VM holds nothing, all buffers are freed. -/
theorem buffers_owned (ready : Bool) (plan : List (List Call)) (actions : List Action) :
    ∃ s, run ready (start plan) actions = some s ∧
      OneOwner ready plan (∀ i choice, .turn i choice ∈ actions → choice.Succeeds) s ∧
      ((∀ t ∈ s.posters, t.stage = .idle) → s.externals = [] → s.heap = Heap.empty) := by
  obtain ⟨s, hRun, hOwner⟩ := @OneOwner.run ready plan (∀ i choice, .turn i choice ∈ actions → choice.Succeeds) _
    (oneOwner_start ready plan _) actions id
  exact ⟨s, hRun, hOwner, hOwner.heap_empty⟩

end PostedBuffers

end VsomeipDart
