import VsomeipDart.CapnpHidden

/-! # What `build` returns

Where no parameter is hidden, the setters fill the header, and the records of the variable fields follow.
-/

namespace VsomeipDart
set_option autoImplicit false

open LittleEndian TextEncoding BlockScope

/-- A value in the range of a scalar. A `UInt64` is a 64-bit pattern in a signed `int`. -/
def Scalar.Holds (s : Scalar) (v : CapnpValue) : Prop :=
  match s with
  | float32 => ∃ bits, v = .float32 bits ∧ bits < 256 ^ 4
  | float64 => ∃ bits, v = .float64 bits ∧ bits < 256 ^ 8
  | uint8 | uint16 | uint32 => ∃ n : Nat, v = .int n ∧ n < 256 ^ s.size
  | uint64 | int8 | int16 | int32 | int64 =>
    ∃ n : Int, v = .int n ∧ -(256 : Int) ^ s.size ≤ 2 * n ∧ 2 * n < (256 : Int) ^ s.size

/-- A value that may be assigned to the field. A text with a byte order mark in front is none of those that
`utf8.decode` gives back. -/
def Field.Holds (f : Field) (v : CapnpValue) : Prop :=
  match f.kind with
  | some (.scalar s) => s.Holds v
  | some .bool => ∃ b, v = .bool b
  | some .text => ∃ text, v = .string text ∧ text.head? ≠ some byteOrderMark ∧ (utf8 text).length < 256 ^ 4
  | some .data => ∃ data, v = .bytes data ∧ data.length < 256 ^ 4
  | none => False

section Patterns

theorem toNat_emod_lt (size : Nat) (n : Int) : (n % (256 : Int) ^ size).toNat < 256 ^ size := by
  have hCast : ((256 ^ size : Nat) : Int) = (256 : Int) ^ size := Nat.cast_pow 256 size
  have hPos : 0 < (256 : Int) ^ size := by
    rw [← hCast]
    exact Int.natCast_pos.mpr (Nat.pow_pos (by decide))
  have hLow := Int.emod_nonneg n hPos.ne'
  have hHigh := Int.emod_lt_of_pos n hPos
  omega

theorem toNat_emod_natCast {size n : Nat} (h : n < 256 ^ size) :
    ((n : Int) % (256 : Int) ^ size).toNat = n := by
  have hCast : ((256 ^ size : Nat) : Int) = (256 : Int) ^ size := Nat.cast_pow 256 size
  rw [← hCast, Int.emod_eq_of_lt (Int.natCast_nonneg n) (Int.ofNat_lt.mpr h), Int.toNat_natCast]

theorem signed_emod {size : Nat} {n : Int} (hLow : -(256 : Int) ^ size ≤ 2 * n)
    (hHigh : 2 * n < (256 : Int) ^ size) : signed size (n % (256 : Int) ^ size).toNat = n := by
  have hCast : ((256 ^ size : Nat) : Int) = (256 : Int) ^ size := Nat.cast_pow 256 size
  have hPos : 0 < (256 : Int) ^ size := by
    rw [← hCast]
    exact Int.natCast_pos.mpr (Nat.pow_pos (by decide))
  rw [signed]
  by_cases hSign : 0 ≤ n
  · have hSame : n % (256 : Int) ^ size = n := Int.emod_eq_of_lt hSign (by omega)
    rw [hSame, if_pos (by omega), Int.toNat_of_nonneg hSign]
  · have hWrap : n % (256 : Int) ^ size = n + (256 : Int) ^ size := by
      rw [← Int.add_emod_right]
      exact Int.emod_eq_of_lt (by omega) (by omega)
    rw [hWrap, if_neg (by omega), Int.toNat_of_nonneg (by omega)]
    exact Int.add_sub_cancel n _

/-- A value in range is what its pattern stands for. -/
theorem Scalar.value_pattern {s : Scalar} {v : CapnpValue} (h : s.Holds v) :
    ∃ p, s.pattern v = some p ∧ p < 256 ^ s.size ∧ s.value p = v := by
  cases s with
  | float32 =>
    obtain ⟨bits, rfl, hBits⟩ := h
    exact ⟨bits, rfl, hBits, rfl⟩
  | float64 =>
    obtain ⟨bits, rfl, hBits⟩ := h
    exact ⟨bits, rfl, hBits, rfl⟩
  | uint8 | uint16 | uint32 =>
    obtain ⟨n, rfl, hRange⟩ := h
    exact ⟨n, congrArg some (toNat_emod_natCast hRange), hRange, rfl⟩
  | uint64 | int8 | int16 | int32 | int64 =>
    obtain ⟨n, rfl, hLow, hHigh⟩ := h
    exact ⟨_, rfl, toNat_emod_lt _ n, congrArg CapnpValue.int (signed_emod hLow hHigh)⟩

end Patterns

section Records

variable (value : Field → CapnpValue)

def payload (f : Field) : Bytes :=
  match value f with
  | .string text => utf8 text
  | .bytes data => data
  | _ => []

def record (f : Field) : Bytes := toBytes 4 (payload value f).length ++ payload value f

def recordsLength (vars : List Field) : Nat := (vars.map fun f => 4 + (payload value f).length).sum

theorem length_record (f : Field) : (record value f).length = 4 + (payload value f).length := by
  rw [record, List.length_append, toBytes_length]

def fixedWrite (p : Placed) : Option Write :=
  match p.field.kind with
  | some .bool => some ⟨1, p.offset, if value p.field = .bool true then 1 else 0⟩
  | some (.scalar s) => some ⟨s.size, p.offset, (s.pattern (value p.field)).getD 0⟩
  | _ => none

def fixedWrites (placed : List Placed) : List Write := placed.filterMap (fixedWrite value)

theorem fixedWrite_bounds {p : Placed} {w : Write} (h : fixedWrite value p = some w) :
    w.offset = p.offset ∧ w.width = p.field.size := by
  rw [fixedWrite] at h
  rw [Field.size]
  split at h
  · next hKind =>
    cases h
    rw [hKind]
    exact ⟨rfl, rfl⟩
  · next s hKind =>
    cases h
    rw [hKind]
    exact ⟨rfl, rfl⟩
  · cases h

/-- The setters write into the header. -/
theorem fixedWrites_fit {placed : List Placed} {size : Nat}
    (h : ∀ p ∈ placed, p.offset + p.field.size ≤ size) : ∀ w ∈ fixedWrites value placed, w.Fits size := by
  intro w hMem
  obtain ⟨p, hPlaced, hWrite⟩ := List.mem_filterMap.mp hMem
  obtain ⟨hOffset, hWidth⟩ := fixedWrite_bounds value hWrite
  rw [Write.Fits, hOffset, hWidth]
  exact h p hPlaced

theorem fixedWrites_ascend (offset : Nat) (fields : List Field) :
    (fixedWrites value (layoutFrom offset fields)).Pairwise Write.Before := by
  refine (placed_ascending offset fields).filterMap (fixedWrite value) ?_
  intro p q hOrder left hLeft right hRight
  obtain ⟨hStart, hWidth⟩ := fixedWrite_bounds value hLeft
  obtain ⟨hNext, -⟩ := fixedWrite_bounds value hRight
  rw [Write.Before, hStart, hWidth, hNext]
  exact hOrder

end Records

namespace BlockState

theorem run_cons {s next : BlockState} {stmt : Stmt} (h : s.exec stmt = some next) (rest : List Stmt) :
    s.run (stmt :: rest) = next.run rest := by
  cases stmt with
  | ret x => cases h
  | _ =>
    show (s.exec _).bind (fun s => s.run rest) = next.run rest
    rw [h]
    rfl

theorem evalIndex_lit (s : BlockState) (n : Nat) : s.evalIndex (.lit n) = some n := rfl

theorem evalIndex_of_eval {s : BlockState} {e : Expr} {n : Nat} (h : s.eval e = some (.value (.int n))) :
    s.evalIndex e = some n := by
  rw [evalIndex, h]
  exact if_pos (Int.natCast_nonneg n)

theorem exec_set {s : BlockState} {view : Name} {width : Scalar} {offset e : Expr} {n p : Nat}
    {v : CapnpValue} (hView : s.scope.resolve view = some .view) (hOffset : s.evalIndex offset = some n)
    (hValue : s.eval e = some (.value v)) (hPattern : width.pattern v = some p)
    (hFits : n + width.size ≤ s.memory.length) : s.exec (.set view width offset e) =
      some { s with memory := patch width.size s.memory n p } := by
  rw [exec, hView, hOffset, hValue]
  dsimp only
  rw [hPattern]
  show (writeAt width.size s.memory n p).bind _ = _
  rw [writeAt, if_pos hFits]
  rfl

theorem exec_declare {s : BlockState} {x : Name} {e : Expr} {v : Operand} (h : s.eval e = some v) :
    s.exec (.declare x e) = some { s with scope := s.scope.assign x v } := by
  show (s.eval e).bind _ = _
  rw [h]
  rfl

theorem exec_newList {s : BlockState} {x : Name} {size : Expr} {n : Nat} (h : s.evalIndex size = some n) :
    s.exec (.newList x size) = some ⟨s.scope.assign x .buffer, List.replicate n 0⟩ := by
  show (s.evalIndex size).bind _ = _
  rw [h]
  rfl

theorem exec_newView {s : BlockState} {x list : Name} (h : s.scope.resolve list = some .buffer) :
    s.exec (.newView x list) = some { s with scope := s.scope.assign x .view } := by
  rw [exec, h]

theorem exec_increase {s : BlockState} {x : Name} {e : Expr} {m n : Int}
    (hVar : s.scope.resolve x = some (.value (.int m))) (h : s.eval e = some (.value (.int n))) :
    s.exec (.increase x e) = some { s with scope := s.scope.assign x (.value (.int (m + n))) } := by
  have hSum : s.eval (.add (.var x) e) = some (.value (.int (m + n))) := by
    rw [eval, eval, hVar, h]
  show (s.eval (.add (.var x) e)).bind _ = _
  rw [hSum]
  rfl

theorem exec_setRange {s : BlockState} {list x : Name} {start stop : Expr} {n : Nat} {data : Bytes}
    (hList : s.scope.resolve list = some .buffer) (hStart : s.evalIndex start = some n)
    (hStop : s.evalIndex stop = some (n + data.length))
    (hSource : s.scope.resolve x = some (.value (.bytes data)))
    (hFits : n + data.length ≤ s.memory.length) : s.exec (.setRange list start stop x) =
      some { s with memory := s.memory.take n ++ (data ++ s.memory.drop (n + data.length)) } := by
  rw [exec, hList, hStart, hStop, hSource]
  dsimp only
  rw [if_pos ⟨by omega, hFits, by omega⟩, Nat.add_sub_cancel_left, List.take_length]

end BlockState

section Setters

variable (case : StringCase) (value : Field → CapnpValue)

theorem run_setters {s : BlockState} {placed : List Placed} (hView : s.scope.resolve bd = some .view)
    (hArgs : ∀ p ∈ placed, s.scope.resolve (p.field.dartName case) = some (.value (value p.field)))
    (hHolds : ∀ p ∈ placed, p.field.Holds (value p.field))
    (hFits : ∀ p ∈ placed, p.offset + p.field.size ≤ s.memory.length) (rest : List Stmt) :
    s.run (emitSetters case placed ++ rest) =
      { s with memory := patches (fixedWrites value placed) s.memory }.run rest := by
  induction placed generalizing s with
  | nil => rfl
  | cons p placed ih =>
    obtain ⟨hArg, hLaterArgs⟩ := List.forall_mem_cons.mp hArgs
    obtain ⟨hHold, hLaterHolds⟩ := List.forall_mem_cons.mp hHolds
    obtain ⟨hFit, hLaterFits⟩ := List.forall_mem_cons.mp hFits
    have hStep : ∀ (size bits : Nat), p.offset + size ≤ s.memory.length →
        { s with memory := patch size s.memory p.offset bits }.run (emitSetters case placed ++ rest) =
          { s with
            memory := patches (⟨size, p.offset, bits⟩ :: fixedWrites value placed) s.memory }.run rest := by
      intro size bits hHere
      refine ih hView hLaterArgs hLaterHolds ?_
      rw [patch_length hHere]
      exact hLaterFits
    rw [Field.size] at hFit
    cases hKind : p.field.kind with
    | none =>
      simp only [emitSetters, fixedWrites, List.filterMap_cons, fixedWrite, hKind]
      exact ih hView hLaterArgs hLaterHolds hLaterFits
    | some kind =>
      rw [hKind] at hFit
      cases kind with
      | text | data =>
        simp only [emitSetters, fixedWrites, List.filterMap_cons, fixedWrite, hKind]
        exact ih hView hLaterArgs hLaterHolds hLaterFits
      | bool =>
        simp only [Field.Holds, hKind] at hHold
        obtain ⟨b, hBool⟩ := hHold
        have hValue : s.eval (.bit (p.field.dartName case)) =
            some (.value (.int (if b then 1 else 0))) := by
          rw [BlockState.eval, hArg, hBool]
        have hPattern : Scalar.uint8.pattern (.int (if b then 1 else 0)) =
            some (if value p.field = .bool true then 1 else 0) := by
          rw [hBool]
          cases b <;> rfl
        simp only [emitSetters, fixedWrites, List.filterMap_cons, fixedWrite, hKind, List.cons_append]
        rw [BlockState.run_cons (BlockState.exec_set hView (s.evalIndex_lit _) hValue hPattern hFit)]
        exact hStep 1 _ hFit
      | scalar scalar =>
        simp only [Field.Holds, hKind] at hHold
        obtain ⟨bits, hPattern, -, -⟩ := Scalar.value_pattern hHold
        have hValue : s.eval (.var (p.field.dartName case)) = some (.value (value p.field)) := hArg
        simp only [emitSetters, fixedWrites, List.filterMap_cons, fixedWrite, hKind, List.cons_append]
        rw [BlockState.run_cons (BlockState.exec_set hView (s.evalIndex_lit _) hValue hPattern hFit),
          hPattern]
        exact hStep scalar.size bits hFit

end Setters

section Run

variable (case : StringCase) (value : Field → CapnpValue)

/-- Every variable field has its bytes in the variable or parameter that `build` takes them from. -/
def Sources (s : BlockState) (vars : List Field) : Prop :=
  ∀ f ∈ vars, s.scope.resolve (source case f) = some (.value (.bytes (payload value f)))

variable {case value}

theorem eval_length {s : BlockState} {x : Name} {data : Bytes}
    (h : s.scope.resolve x = some (.value (.bytes data))) :
    s.eval (.length x) = some (.value (.int data.length)) := by
  rw [BlockState.eval, h]

theorem eval_add {s : BlockState} {left right : Expr} {m n : Int}
    (hLeft : s.eval left = some (.value (.int m))) (hRight : s.eval right = some (.value (.int n))) :
    s.eval (.add left right) = some (.value (.int (m + n))) := by
  rw [BlockState.eval, hLeft, hRight]

theorem eval_sum {s : BlockState} {vars : List Field} (hSources : Sources case value s vars) {e : Expr}
    {n : Nat} (h : s.eval e = some (.value (.int n))) :
    s.eval (vars.foldl (fun e f => .add (.add e (.lit 4)) (.length (source case f))) e) =
      some (.value (.int (n + recordsLength value vars : Nat))) := by
  induction vars generalizing e n with
  | nil => exact h
  | cons f rest ih =>
    obtain ⟨hHead, hTail⟩ := List.forall_mem_cons.mp hSources
    have hStep := eval_add (eval_add h (show s.eval (.lit 4) = some (.value (.int 4)) from rfl))
      (eval_length hHead)
    have hCast : (n : Int) + 4 + ((payload value f).length : Int) =
        ((n + 4 + (payload value f).length : Nat) : Int) := by omega
    rw [hCast] at hStep
    rw [List.foldl_cons, ih hTail hStep, recordsLength, recordsLength, List.map_cons, List.sum_cons]
    congr 4
    omega

/-- The statements for one record write it behind what is there, and move the cursor behind it. -/
theorem run_record {s : BlockState} {x : Name} {data front back : Bytes}
    (hView : s.scope.resolve bd = some .view) (hBuf : s.scope.resolve buf = some .buffer)
    (hCursor : s.scope.resolve cursor = some (.value (.int front.length)))
    (hLocal : cursor ∈ s.scope.locals) (hSource : s.scope.resolve x = some (.value (.bytes data)))
    (hName : x ≠ cursor) (hLength : data.length < 256 ^ 4)
    (hMemory : s.memory = front ++ (List.replicate 4 0 ++ (List.replicate data.length 0 ++ back)))
    (rest : List Stmt) :
    s.run (.set bd .uint32 (.var cursor) (.length x) :: .increase cursor (.lit 4) ::
        .setRange buf (.var cursor) (.add (.var cursor) (.length x)) x :: .increase cursor (.length x) ::
        rest) =
      BlockState.run
        ⟨(s.scope.assign cursor (.value (.int (front.length + 4 : Nat)))).assign cursor
            (.value (.int (front.length + 4 + data.length : Nat))),
          front ++ (toBytes 4 data.length ++ (data ++ back))⟩ rest := by
  obtain ⟨memory, hBytes⟩ : ∃ memory, memory =
      front ++ (toBytes 4 data.length ++ (List.replicate data.length 0 ++ back)) := ⟨_, rfl⟩
  obtain ⟨scope, hScope⟩ : ∃ scope, scope =
      s.scope.assign cursor (.value (.int (front.length + 4 : Nat))) := ⟨_, rfl⟩
  have hAfter : ∀ y, y ≠ cursor → scope.resolve y = s.scope.resolve y := by
    intro y hNe
    rw [hScope, Scope.resolve_assign_other hNe]
  have hNow : scope.resolve cursor = some (.value (.int (front.length + 4 : Nat))) := by
    rw [hScope, Scope.resolve_assign_self hLocal]
  have hSet : s.exec (.set bd .uint32 (.var cursor) (.length x)) = some ⟨s.scope, memory⟩ := by
    have hPattern : Scalar.uint32.pattern (.int data.length) = some data.length :=
      congrArg some (toNat_emod_natCast hLength)
    have hFits : front.length + Scalar.uint32.size ≤ s.memory.length := by
      rw [hMemory, List.length_append, List.length_append, List.length_replicate, Scalar.size]
      omega
    have hEval : s.eval (.var cursor) = some (.value (.int front.length)) := hCursor
    rw [BlockState.exec_set hView (BlockState.evalIndex_of_eval hEval) (eval_length hSource) hPattern
      hFits, hMemory, Scalar.size, patch_behind (List.length_replicate ..), hBytes]
  have hSkip : BlockState.exec ⟨s.scope, memory⟩ (.increase cursor (.lit 4)) = some ⟨scope, memory⟩ := by
    have hFour : BlockState.eval ⟨s.scope, memory⟩ (.lit 4) = some (.value (.int 4)) := rfl
    rw [BlockState.exec_increase (s := ⟨s.scope, memory⟩) hCursor hFour, hScope]
    rfl
  have hPlace : BlockState.eval ⟨scope, memory⟩ (.var cursor) =
      some (.value (.int (front.length + 4 : Nat))) := hNow
  have hThere : scope.resolve x = some (.value (.bytes data)) := (hAfter x hName).trans hSource
  have hEnd : BlockState.eval ⟨scope, memory⟩ (.add (.var cursor) (.length x)) =
      some (.value (.int (front.length + 4 + data.length : Nat))) := eval_add hPlace (eval_length hThere)
  have hCopy : BlockState.exec ⟨scope, memory⟩
      (.setRange buf (.var cursor) (.add (.var cursor) (.length x)) x) =
        some ⟨scope, front ++ (toBytes 4 data.length ++ (data ++ back))⟩ := by
    have hBehind : (front ++ toBytes 4 data.length).length = front.length + 4 := by
      rw [List.length_append, toBytes_length]
    have hFits : front.length + 4 + data.length ≤ memory.length := by
      rw [hBytes]
      simp only [List.length_append, toBytes_length, List.length_replicate]
      omega
    have hSplit : memory = (front ++ toBytes 4 data.length) ++ (List.replicate data.length 0 ++ back) := by
      rw [hBytes, List.append_assoc]
    rw [BlockState.exec_setRange ((hAfter buf (by decide)).trans hBuf)
      (BlockState.evalIndex_of_eval hPlace) (BlockState.evalIndex_of_eval hEnd) hThere hFits]
    dsimp only
    rw [hSplit, List.take_left' hBehind, ← List.drop_drop, List.drop_left' hBehind,
      List.drop_left' (List.length_replicate ..), List.append_assoc]
  have hMove := BlockState.exec_increase (s := ⟨scope, front ++ (toBytes 4 data.length ++ (data ++ back))⟩)
    hNow (eval_length hThere)
  rw [BlockState.run_cons hSet, BlockState.run_cons hSkip, BlockState.run_cons hCopy,
    BlockState.run_cons hMove, hScope]
  rfl

theorem run_records {s : BlockState} {vars : List Field} {front : Bytes}
    (hView : s.scope.resolve bd = some .view) (hBuf : s.scope.resolve buf = some .buffer)
    (hCursor : s.scope.resolve cursor = some (.value (.int front.length)))
    (hLocal : cursor ∈ s.scope.locals) (hSources : Sources case value s vars)
    (hNames : ∀ f ∈ vars, source case f ≠ cursor)
    (hLengths : ∀ f ∈ vars, (payload value f).length < 256 ^ 4)
    (hMemory : s.memory = front ++ List.replicate (recordsLength value vars) 0) :
    s.run (emitRecords case vars ++ [.ret buf]) = some (front ++ vars.flatMap (record value)) := by
  induction vars generalizing s front with
  | nil =>
    have hSame : s.memory = front := by rw [hMemory]; exact List.append_nil front
    show s.run [.ret buf] = _
    rw [BlockState.run, hBuf, hSame, List.flatMap_nil, List.append_nil]
  | cons f rest ih =>
    obtain ⟨hSource, hLaterSources⟩ := List.forall_mem_cons.mp hSources
    obtain ⟨hName, hLaterNames⟩ := List.forall_mem_cons.mp hNames
    obtain ⟨hLength, hLaterLengths⟩ := List.forall_mem_cons.mp hLengths
    have hSplit : s.memory = front ++ (List.replicate 4 0 ++
        (List.replicate (payload value f).length 0 ++ List.replicate (recordsLength value rest) 0)) := by
      rw [hMemory, List.replicate_append_replicate, List.replicate_append_replicate, recordsLength,
        List.map_cons, List.sum_cons, Nat.add_assoc]
      rfl
    have hStep := run_record hView hBuf hCursor hLocal hSource hName hLength hSplit
      (emitRecords case rest ++ [.ret buf])
    have hFront : (front ++ record value f).length = front.length + 4 + (payload value f).length := by
      rw [List.length_append, length_record, Nat.add_assoc]
    have hOther : ∀ (y : Name) (v w : Operand), y ≠ cursor →
        ((s.scope.assign cursor v).assign cursor w).resolve y = s.scope.resolve y := by
      intro y v w hNe
      rw [Scope.resolve_assign_other hNe, Scope.resolve_assign_other hNe]
    refine hStep.trans ((@ih _ (front ++ record value f) ?_ ?_ ?_ ?_ ?_ hLaterNames hLaterLengths
      ?_).trans ?_)
    · exact (hOther bd _ _ (by decide)).trans hView
    · exact (hOther buf _ _ (by decide)).trans hBuf
    · rw [hFront]
      exact Scope.resolve_assign_self hLocal _
    · exact hLocal
    · exact fun g hMem => (hOther _ _ _ (hLaterNames g hMem)).trans (hLaterSources g hMem)
    · rw [record, List.append_assoc, List.append_assoc]
    · rw [List.flatMap_cons, List.append_assoc]

end Run

end VsomeipDart
