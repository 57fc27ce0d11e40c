/-
  Calls of driver operations, one after the other.

  An `Operation` is the call of a setter (possibly in a `psu.verify_writes` scope of
  its own), of a property, or of `psu.scpi.write` and `psu.scpi.query`.  Inside a
  batch scope the calls only collect: `pendingFrom` lists the operations that
  they leave behind, and `callAll_collect` says that nothing else happens.
-/
import Spd3000.Driver
import Spd3000.Layout

namespace Spd3000

variable {ε : Type}

/-- A call of the driver; a write may stand in a verification scope of its own. -/
inductive Operation where
  | write (verify : Option Bool) (command : PyStr) (verification : Option Verification)
      (unavailableReason : Option PyStr)
  | read (commands : List PyStr) (nonempty : commands ≠ [])
      (parser : Parser (List PyStr) .exception)

namespace Operation

/-- The operation that `_write` or `_queries` builds; `verify` says whether writes are verified
    around the call, and `i` is the new deferred result. -/
def pending (verify : Bool) (i : ℕ) : Operation → PendingOperation
  | write override command verification reason =>
    .write ⟨command, SPD3000.selectVerification (override.getD verify) verification reason⟩
  | read commands nonempty parser => .read ⟨commands, nonempty, parser, i⟩

/-- The number of deferred results that a call creates. -/
def created : Operation → ℕ
  | write .. => 0
  | read .. => 1

/-- What a call returns inside a batch scope. -/
def collected (i : ℕ) : Operation → Returned
  | write .. => .value .none
  | read .. => .deferred i

end Operation

/-- The operations that calls leave behind, if `i` is the next deferred result. -/
def pendingFrom (verify : Bool) : ℕ → List Operation → List PendingOperation
  | _, [] => []
  | i, op :: ops => op.pending verify i :: pendingFrom verify (i + op.created) ops

/-- What the calls return inside a batch scope. -/
def collectedFrom : ℕ → List Operation → List Returned
  | _, [] => []
  | i, op :: ops => op.collected i :: collectedFrom (i + op.created) ops

/-- The number of deferred results that calls create. -/
def createdBy (ops : List Operation) : ℕ := (ops.map Operation.created).sum

@[simp] theorem createdBy_cons (op : Operation) (ops : List Operation) :
    createdBy (op :: ops) = op.created + createdBy ops := rfl

@[simp] theorem createdBy_nil : createdBy [] = 0 := rfl

theorem deferredsOf_pendingFrom (verify : Bool) (i : ℕ) (ops : List Operation) :
    deferredsOf (pendingFrom verify i ops) = List.range' i (createdBy ops) := by
  induction ops generalizing i with
  | nil => rfl
  | cons op ops ih =>
    cases op with
    | write => simpa [pendingFrom, deferredsOf, Operation.pending, Operation.created, createdBy]
        using ih i
    | read => simpa [pendingFrom, deferredsOf, Operation.pending, Operation.created, createdBy,
        Nat.add_comm 1, List.range'_succ] using ih (i + 1)

/-- The reads among the operations carry deferred results from `i` on. -/
theorem mem_pendingFrom_read {verify : Bool} {i : ℕ} {ops : List Operation} {r : PendingRead}
    (hr : .read r ∈ pendingFrom verify i ops) : i ≤ r.deferred ∧ r.deferred < i + createdBy ops := by
  have hmem : r.deferred ∈ deferredsOf (pendingFrom verify i ops) :=
    List.mem_filterMap.2 ⟨_, hr, rfl⟩
  rwa [deferredsOf_pendingFrom, List.mem_range'_1] at hmem

section
variable [PyText] (E : Executor ε)

/-- One call. -/
def Operation.call : Operation → SPD3000 ε → Except PyExc Returned × SPD3000 ε
  | .write override command verification reason, d =>
    let body := fun d : SPD3000 ε => d.write E command verification reason
    let (r, d) := match override with
      | none => body d
      | some b => d.verifyWritesScope b body
    (r.map fun _ => .value .none, d)
  | .read commands nonempty parser, d => d.queries E commands nonempty parser

/-- The calls one after the other, up to the first exception. -/
def callAll : List Operation → SPD3000 ε → Except PyExc (List Returned) × SPD3000 ε
  | [], d => (.ok [], d)
  | op :: ops, d => match op.call E d with
    | (.error e, d) => (.error e, d)
    | (.ok v, d) =>
      let (r, d) := callAll ops d
      (r.map (v :: ·), d)

/-- The driver after calls inside a batch scope. -/
def SPD3000.collect (ops : List Operation) (h : Deferreds) (d : SPD3000 ε) : SPD3000 ε :=
  let pending := pendingFrom d.shouldVerifyWrites d.nextDeferred ops
  { d with
    pendingOperations := d.pendingOperations ++ pending
    batchResponseDeferreds := d.batchResponseDeferreds ++ deferredsOf pending
    deferreds := h
    nextDeferred := d.nextDeferred + createdBy ops }

/-- The deferred results that calls inside a batch scope have created. -/
structure Collected (d : SPD3000 ε) (ops : List Operation) (h : Deferreds) : Prop where
  other : ∀ i, i < d.nextDeferred ∨ d.nextDeferred + createdBy ops ≤ i → h i = d.deferreds i
  created : ∀ r, .read r ∈ pendingFrom d.shouldVerifyWrites d.nextDeferred ops →
    h r.deferred = .pending (SPD3000.label r.commands)

/-- A call inside a batch scope only collects. -/
theorem call_collect (op : Operation) (d : SPD3000 ε) (ha : d.batchActive) :
    ∃ h, op.call E d = (.ok (op.collected d.nextDeferred), d.collect [op] h) ∧
      Collected d [op] h := by
  obtain ⟨x, g, overrides, active, pending, responses, ids, depth, h, next, lists, nextList⟩ := d
  cases ha
  cases op with
  | write override command verification reason =>
    refine ⟨h, ?_, fun _ _ => rfl, fun r hr => ?_⟩
    · cases override <;>
        simp [Operation.call, SPD3000.write, SPD3000.withLock, SPD3000.verifyWritesScope,
          SPD3000.beginVerifyWrites, SPD3000.endVerifyWrites, SPD3000.acquire, SPD3000.release,
          SPD3000.collect, SPD3000.shouldVerifyWrites, pendingFrom, deferredsOf, createdBy,
          Operation.pending, Operation.created, Operation.collected, Except.map]
    · simp [pendingFrom, Operation.pending] at hr
  | read commands nonempty parser =>
    refine ⟨Function.update h next (.pending (SPD3000.label commands)), ?_, fun i hi => ?_,
      fun r hr => ?_⟩
    · simp [Operation.call, SPD3000.queries, SPD3000.withLock, SPD3000.acquire, SPD3000.release,
        SPD3000.newDeferred, SPD3000.collect, pendingFrom, deferredsOf, createdBy,
        Operation.pending, Operation.created, Operation.collected]
    · simp only [createdBy_cons, createdBy_nil, Operation.created] at hi
      exact Function.update_of_ne (by omega) ..
    · obtain rfl : r = ⟨commands, nonempty, parser, next⟩ := by
        simpa [pendingFrom, Operation.pending] using hr
      exact Function.update_self ..

omit [PyText] in
theorem SPD3000.collect_cons (op : Operation) (ops : List Operation) (h h' : Deferreds)
    (d : SPD3000 ε) : (d.collect [op] h).collect ops h' = d.collect (op :: ops) h' := by
  have hverify : (d.collect [op] h).shouldVerifyWrites = d.shouldVerifyWrites := rfl
  have hnext : (d.collect [op] h).nextDeferred = d.nextDeferred + op.created := rfl
  rw [SPD3000.collect, hverify, hnext]
  cases op <;> simp [SPD3000.collect, pendingFrom, deferredsOf, Nat.add_assoc, Operation.pending]

omit [PyText] in
theorem Collected.cons {d : SPD3000 ε} {op : Operation} {ops : List Operation} {h h' : Deferreds}
    (hop : Collected d [op] h) (hops : Collected (d.collect [op] h) ops h') :
    Collected d (op :: ops) h' := by
  have hnext : (d.collect [op] h).nextDeferred = d.nextDeferred + op.created := rfl
  have hone : createdBy [op] = op.created := rfl
  have hsum := createdBy_cons op ops
  refine ⟨fun i hi => ?_, fun r hr => ?_⟩
  · rw [hops.other i (by omega)]
    exact hop.other i (by omega)
  · rcases List.mem_cons.1 hr with hr | hr
    · have hmem : .read r ∈ pendingFrom d.shouldVerifyWrites d.nextDeferred [op] := by
        simp [pendingFrom, hr]
      rw [hops.other _ (.inl (by have := mem_pendingFrom_read hmem; omega))]
      exact hop.created r hmem
    · exact hops.created r hr

/-- Inside a batch scope, calls only collect. -/
theorem callAll_collect (ops : List Operation) (d : SPD3000 ε) (ha : d.batchActive) :
    ∃ h, callAll E ops d = (.ok (collectedFrom d.nextDeferred ops), d.collect ops h) ∧
      Collected d ops h := by
  induction ops generalizing d with
  | nil =>
    refine ⟨d.deferreds, ?_, fun _ _ => rfl, fun r hr => absurd hr (List.not_mem_nil)⟩
    simp [callAll, SPD3000.collect, pendingFrom, deferredsOf, createdBy, collectedFrom]
  | cons op ops ih =>
    obtain ⟨h, hop, hcol⟩ := call_collect E op d ha
    obtain ⟨h', hops, hcol'⟩ := ih (d.collect [op] h) ha
    refine ⟨h', ?_, hcol.cons hcol'⟩
    rw [callAll, hop]
    simp only [hops, SPD3000.collect_cons, Except.map]
    rfl

/-! ## The scope around the calls -/

/-- The body of a batch scope: calls, and possibly an exception of the program after them. -/
def scopeBody (ops : List Operation) (raised : Option PyExc) (d : SPD3000 ε) :
    Except PyExc (List Returned) × SPD3000 ε :=
  match callAll E ops d with
  | (.error e, d) => (.error e, d)
  | (.ok vs, d) => match raised with
    | none => (.ok vs, d)
    | some e => (.error e, d)

/-- The driver inside a batch scope, before the first call. -/
def SPD3000.entered (d : SPD3000 ε) : SPD3000 ε :=
  { d with
    lists := Function.update d.lists d.nextList []
    nextList := d.nextList + 1
    lockDepth := d.lockDepth + 1
    batchActive := true
    pendingOperations := []
    batchResponses := some d.nextList
    batchResponseDeferreds := [] }

/-- The driver after a batch scope with the given calls. -/
def SPD3000.left (ops : List Operation) (x : ε) (h : Deferreds) (responses : List PyVal)
    (d : SPD3000 ε) : SPD3000 ε :=
  { d with
    executor := x
    lists := Function.update d.lists d.nextList responses
    nextList := d.nextList + 1
    batchActive := false
    pendingOperations := []
    batchResponses := none
    batchResponseDeferreds := []
    deferreds := h
    nextDeferred := d.nextDeferred + createdBy ops }

theorem extend_resolved {l : ℕ} {ids : List ℕ} {vs : List PyVal} {d : SPD3000 ε}
    (h : ids.map (fun i => (d.deferreds i).getValue) = vs.map .ok) :
    d.extend l ids = (.ok (), { d with lists := Function.update d.lists l (d.lists l ++ vs) }) := by
  induction ids generalizing vs d with
  | nil =>
    obtain rfl : vs = [] := by simpa using h.symm
    simp [SPD3000.extend]
  | cons i ids ih =>
    cases vs with
    | nil => cases h
    | cons v vs =>
      simp only [List.map_cons, List.cons.injEq] at h
      rw [SPD3000.extend, h.1]
      dsimp only
      rw [@ih vs]
      · simp
      · exact h.2

/-- The operations that a scope collects. -/
abbrev SPD3000.collects (d : SPD3000 ε) (ops : List Operation) : List PendingOperation :=
  pendingFrom d.shouldVerifyWrites d.nextDeferred ops

variable {E} {d : SPD3000 ε} {ops : List Operation}

theorem batchScope_raised (ha : d.batchActive = false) (e : PyExc) :
    ∃ h, Collected d ops h ∧ d.batchScope E (scopeBody E ops (some e)) =
      (.error e, d.left ops d.executor (SPD3000.cancelAll (d.collects ops) h) []) := by
  obtain ⟨h, hrun, hcol⟩ := callAll_collect E ops d.entered rfl
  refine ⟨h, ⟨hcol.other, hcol.created⟩, ?_⟩
  have hbegin : d.newList.2.beginBatch d.newList.1 = (.ok (), d.entered) := by
    simp [SPD3000.beginBatch, SPD3000.newList, SPD3000.acquire, ha, SPD3000.entered]
  unfold SPD3000.batchScope scopeBody
  simp only [hbegin, hrun]
  rfl

theorem batchScope_empty (ha : d.batchActive = false) :
    d.batchScope E (scopeBody E [] none) = (.ok [], d.left [] d.executor d.deferreds []) := by
  have hbegin : d.newList.2.beginBatch d.newList.1 = (.ok (), d.entered) := by
    simp [SPD3000.beginBatch, SPD3000.newList, SPD3000.acquire, ha, SPD3000.entered]
  unfold SPD3000.batchScope scopeBody
  simp only [hbegin, callAll]
  rfl

omit d in
theorem endBatch_error {y : SPD3000 ε} (hne : y.pendingOperations ≠ []) {e : PyExc} {x : ε}
    {h : Deferreds}
    (he : executePending E y.pendingOperations y.executor y.deferreds = (.error e, x, h)) :
    y.endBatch E true = (.error e, SPD3000.release { y with
      executor := x, deferreds := h, pendingOperations := [], batchActive := false,
      batchResponses := none, batchResponseDeferreds := [] }) := by
  have hempty : y.pendingOperations.isEmpty = false := by simpa using hne
  simp only [SPD3000.endBatch, SPD3000.executeOperations, hempty, he, Bool.not_true,
    Bool.false_eq_true, if_false]

omit d in
theorem endBatch_ok {y : SPD3000 ε} (hne : y.pendingOperations ≠ []) {l : ℕ}
    (hl : y.batchResponses = some l) {x : ε} {h : Deferreds} {vs : List PyVal}
    (he : executePending E y.pendingOperations y.executor y.deferreds = (.ok (), x, h))
    (hvs : y.batchResponseDeferreds.map (fun i => (h i).getValue) = vs.map .ok) :
    y.endBatch E true = (.ok (), SPD3000.release { y with
      executor := x, deferreds := h, pendingOperations := [], batchActive := false,
      batchResponses := none, batchResponseDeferreds := [],
      lists := Function.update y.lists l (y.lists l ++ vs) }) := by
  have hempty : y.pendingOperations.isEmpty = false := by simpa using hne
  simp only [SPD3000.endBatch, SPD3000.executeOperations, hempty, he, hl, Bool.not_true,
    Bool.false_eq_true, if_false]
  rw [extend_resolved hvs]

/-- A scope whose body completes executes what it has collected. -/
theorem batchScope_completed (ha : d.batchActive = false) (hne : ops ≠ []) :
    ∃ h, Collected d ops h ∧
      (∀ e x h', executePending E (d.collects ops) d.executor h = (.error e, x, h') →
        d.batchScope E (scopeBody E ops none) = (.error e, d.left ops x h' [])) ∧
      ∀ x h' vs, executePending E (d.collects ops) d.executor h = (.ok (), x, h') →
        (deferredsOf (d.collects ops)).map (fun i => (h' i).getValue) = vs.map .ok →
        d.batchScope E (scopeBody E ops none) =
          (.ok (collectedFrom d.nextDeferred ops), d.left ops x h' vs) := by
  obtain ⟨h, hrun, hcol⟩ := callAll_collect E ops d.entered rfl
  have hbegin : d.newList.2.beginBatch d.newList.1 = (.ok (), d.entered) := by
    simp [SPD3000.beginBatch, SPD3000.newList, SPD3000.acquire, ha, SPD3000.entered]
  have hpending : (d.entered.collect ops h).pendingOperations = d.collects ops := rfl
  have hne' : (d.entered.collect ops h).pendingOperations ≠ [] := by
    cases ops with
    | nil => exact absurd rfl hne
    | cons op ops => simp [hpending, pendingFrom]
  refine ⟨h, ⟨hcol.other, hcol.created⟩, fun e x h' he => ?_, fun x h' vs he hvs => ?_⟩
  · have hend := endBatch_error hne' he
    unfold SPD3000.batchScope scopeBody
    simp only [hbegin, hrun, Except.isOk, Except.toBool, hend]
    rfl
  · have hend := endBatch_ok hne' rfl he hvs
    unfold SPD3000.batchScope scopeBody
    simp only [hbegin, hrun, Except.isOk, Except.toBool, hend]
    simp [SPD3000.release, SPD3000.left, SPD3000.entered, SPD3000.collect]

/-! ## Calls outside of a scope -/

theorem write_alone (ha : d.batchActive = false) {command : PyStr}
    {verification : Option Verification} {reason : Option PyStr} {r : Except PyExc Unit} {x : ε}
    {h : Deferreds}
    (he : executePending E [.write ⟨command,
      SPD3000.selectVerification d.shouldVerifyWrites verification reason⟩] d.executor d.deferreds =
        (r, x, h)) :
    d.write E command verification reason = (r, { d with executor := x, deferreds := h }) := by
  have hverify : d.acquire.shouldVerifyWrites = d.shouldVerifyWrites := rfl
  have hexec : d.acquire.executeOperations E [.write ⟨command,
      SPD3000.selectVerification d.shouldVerifyWrites verification reason⟩] =
        (r, { d.acquire with executor := x, deferreds := h }) := by
    rw [SPD3000.executeOperations]
    exact congrArg (fun y => (y.1, { d.acquire with executor := y.2.1, deferreds := y.2.2 })) he
  have hactive : d.acquire.batchActive = false := ha
  simp only [SPD3000.write, SPD3000.withLock, hverify, hactive, hexec, Bool.false_eq_true, if_false]
  simp [SPD3000.release, SPD3000.acquire, ha]

theorem read_alone (ha : d.batchActive = false) {commands : List PyStr} {hne : commands ≠ []}
    {parser : Parser (List PyStr) .exception} {r : Except PyExc Unit} {x : ε} {h : Deferreds}
    (he : executePending E [.read ⟨commands, hne, parser, d.nextDeferred⟩] d.executor
      (Function.update d.deferreds d.nextDeferred (.pending (SPD3000.label commands))) = (r, x, h)) :
    d.queries E commands hne parser =
      (r.bind fun _ => (h d.nextDeferred).getValue.map .value,
        { d with executor := x, deferreds := h, nextDeferred := d.nextDeferred + 1 }) := by
  have hactive : (d.acquire.newDeferred (SPD3000.label commands)).2.batchActive = false := ha
  have hexec : (d.acquire.newDeferred (SPD3000.label commands)).2.executeOperations E
      [.read ⟨commands, hne, parser, d.nextDeferred⟩] =
        (r, { (d.acquire.newDeferred (SPD3000.label commands)).2 with
          executor := x, deferreds := h }) := by
    rw [SPD3000.executeOperations]
    exact congrArg (fun y => (y.1, { (d.acquire.newDeferred (SPD3000.label commands)).2 with
      executor := y.2.1, deferreds := y.2.2 })) he
  have hid : (d.acquire.newDeferred (SPD3000.label commands)).1 = d.nextDeferred := rfl
  simp only [SPD3000.queries, SPD3000.withLock, hactive, hid, hexec, Bool.false_eq_true, if_false]
  cases r <;> simp [SPD3000.release, SPD3000.acquire, SPD3000.newDeferred, Except.bind, ha]

end

end Spd3000
