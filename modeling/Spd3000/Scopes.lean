/-
  Driver programs with nested scopes.

  A `Program` calls driver methods and continues with what they return or raise,
  so an exception may be raised, passed on or caught anywhere.  `run` executes a
  program on the driver, whose scopes are kept in mutable fields.  `eval` is the
  reference: there the scopes are lexical, an operation is sent or collected
  according to the arguments `scope` and `inBatch`, and no scope is ever left
  over.  `run_eval` says that the two agree.
-/
import Spd3000.Operations

namespace Spd3000

variable {ε : Type}

/-! ## Programs -/

/-- Programs over a driver.  A continuation takes the outcome of a call or of a scope; the body
    of a batch scope takes the list that the scope yields. -/
inductive Program where
  | done (outcome : Except PyExc PyVal)
  | write (command : PyStr) (verification : Option Verification) (reason : Option PyStr)
      (next : Except PyExc Unit → Program)
  | read (commands : List PyStr) (nonempty : commands ≠ [])
      (parser : Parser (List PyStr) .exception) (next : Except PyExc Returned → Program)
  /-- `psu.scpi.execute(batch)` -/
  | execute (batch : CommandBatch) (next : Except PyExc BatchResult → Program)
  /-- `psu.verify_writes_globally = enabled` -/
  | setGlobally (enabled : Bool) (next : Program)
  | verifyWrites (enabled : Bool) (body : Program) (next : Except PyExc PyVal → Program)
  | batch (body : ℕ → Program) (next : Except PyExc PyVal → Program)
  /-- `deferred.value` -/
  | value (deferred : ℕ) (next : Except PyExc PyVal → Program)
  /-- The contents of a list that a batch scope has yielded. -/
  | responses (list : ℕ) (next : List PyVal → Program)

section
variable [PyText]

/-- The program on the driver. -/
def Program.run (E : Executor ε) : Program → SPD3000 ε → Except PyExc PyVal × SPD3000 ε
  | done outcome, d => (outcome, d)
  | write command verification reason next, d =>
    let (r, d) := d.write E command verification reason
    (next r).run E d
  | read commands nonempty parser next, d =>
    let (r, d) := d.queries E commands nonempty parser
    (next r).run E d
  | execute b next, d =>
    let (r, d) := d.executeRawBatch E b
    (next r).run E d
  | setGlobally enabled next, d => next.run E { d with verifyWritesGlobally := enabled }
  | verifyWrites enabled body next, d =>
    let (r, d) := d.verifyWritesScope enabled (body.run E)
    (next r).run E d
  | batch body next, d =>
    let (r, d) := d.batchScope E ((body d.nextList).run E)
    (next r).run E d
  | value deferred next, d => (next (d.deferreds deferred).getValue).run E d
  | responses list next, d => (next (d.lists list)).run E d

end

/-! ## The reference interpreter -/

/-- What exists apart from scopes: the executor, the batches handed to it, the global flag and
    the objects of the program. -/
structure Reference (ε : Type) where
  executor : ε
  sent : List CommandBatch
  verifyWritesGlobally : Bool
  deferreds : Deferreds
  nextDeferred : ℕ
  lists : ℕ → List PyVal
  nextList : ℕ

def commandOf (c : Bool × PyStr) : Option Command :=
  if h : ValidCommand c.2 then some (if c.1 then .query ⟨c.2, h⟩ else .write ⟨c.2, h⟩) else none

/-- The commands of the operations, in order, as one batch; there is none without commands or
    with an invalid text. -/
def batchOf (ops : List PendingOperation) : Option CommandBatch :=
  match (textsOf ops).mapM commandOf with
  | some (c :: cs) => some ⟨c :: cs, List.cons_ne_nil c cs⟩
  | _ => none

namespace Reference
variable [PyText]

/-- Hand operations to the executor as one batch. -/
def send (E : Executor ε) (ops : List PendingOperation) (s : Reference ε) :
    Except PyExc Unit × Reference ε :=
  let (r, x, h) := executePending E ops s.executor s.deferreds
  (r, { s with executor := x, deferreds := h, sent := s.sent ++ (batchOf ops).toList })

def newDeferred (label : PyStr) (s : Reference ε) : Reference ε :=
  { s with
    deferreds := Function.update s.deferreds s.nextDeferred (.pending label)
    nextDeferred := s.nextDeferred + 1 }

def newList (s : Reference ε) : Reference ε :=
  { s with
    lists := Function.update s.lists s.nextList []
    nextList := s.nextList + 1 }

/-- Append the values of deferred results to a list. -/
def extend (list : ℕ) : List ℕ → Reference ε → Except PyExc Unit × Reference ε
  | [], s => (.ok (), s)
  | i :: ids, s => match (s.deferreds i).getValue with
    | .error e => (.error e, s)
    | .ok v => extend list ids
        { s with lists := Function.update s.lists list (s.lists list ++ [v]) }

/-- The end of a batch scope that has collected `ops`: a body that raised sends nothing. -/
def leaveBatch (E : Executor ε) (list : ℕ) (outcome : Except PyExc PyVal)
    (ops : List PendingOperation) (s : Reference ε) : Except PyExc PyVal × Reference ε :=
  match outcome with
  | .error e => (.error e, { s with deferreds := SPD3000.cancelAll ops s.deferreds })
  | .ok v => match if ops.isEmpty then (.ok (), s) else s.send E ops with
    | (.error e, s) => (.error e, s)
    | (.ok (), s) => match s.extend list (deferredsOf ops) with
      | (.error e, s) => (.error e, s)
      | (.ok (), s) => (.ok v, s)

end Reference

section
variable [PyText]

/-- The reference interpreter: `scope` is the value of the innermost verification scope, if any,
    and `inBatch` says whether the program is inside a batch scope.  It returns the operations
    collected for that scope. -/
def Program.eval (E : Executor ε) : Program → Option Bool → Bool → Reference ε →
    Except PyExc PyVal × List PendingOperation × Reference ε
  | done outcome, _, _, s => (outcome, [], s)
  | write command verification reason next, scope, inBatch, s =>
    let op := .write ⟨command, SPD3000.selectVerification
      (scope.getD s.verifyWritesGlobally) verification reason⟩
    if inBatch then
      let (r, ops, s) := (next (.ok ())).eval E scope inBatch s
      (r, op :: ops, s)
    else
      let (r, s) := s.send E [op]
      (next r).eval E scope inBatch s
  | read commands nonempty parser next, scope, inBatch, s =>
    let i := s.nextDeferred
    let op := .read ⟨commands, nonempty, parser, i⟩
    let s := s.newDeferred (SPD3000.label commands)
    if inBatch then
      let (r, ops, s) := (next (.ok (.deferred i))).eval E scope inBatch s
      (r, op :: ops, s)
    else
      let (r, s) := s.send E [op]
      (next (r.bind fun _ => (s.deferreds i).getValue.map .value)).eval E scope inBatch s
  | execute b next, scope, inBatch, s =>
    if inBatch then
      (next (.error (.msg .spd3000ValidationError
        "psu.scpi.execute() cannot run inside a batch collection scope"))).eval E scope inBatch s
    else if scope.getD s.verifyWritesGlobally then
      (next (.error (.msg .spd3000ValidationError
        "psu.verify_writes() cannot infer expected values for psu.scpi.execute()"))).eval E
          scope inBatch s
    else
      let (r, x) := E.execute b s.executor
      (next r).eval E scope inBatch { s with executor := x, sent := s.sent ++ [b] }
  | setGlobally enabled next, scope, inBatch, s =>
    next.eval E scope inBatch { s with verifyWritesGlobally := enabled }
  | verifyWrites enabled body next, scope, inBatch, s =>
    let (r, ops, s) := body.eval E (some enabled) inBatch s
    let (r, ops', s) := (next r).eval E scope inBatch s
    (r, ops ++ ops', s)
  | batch body next, scope, inBatch, s =>
    let list := s.nextList
    let s := s.newList
    if inBatch then
      (next (.error (.msg .spd3000ValidationError
        "Nested batch executions are not supported"))).eval E scope inBatch s
    else
      let (r, ops, s) := (body list).eval E scope true s
      let (r, s) := s.leaveBatch E list r ops
      (next r).eval E scope inBatch s
  | value deferred next, scope, inBatch, s =>
    (next (s.deferreds deferred).getValue).eval E scope inBatch s
  | responses list next, scope, inBatch, s => (next (s.lists list)).eval E scope inBatch s

end

/-! ## The batches handed to the executor -/

theorem commandOf_eq_some {c : Bool × PyStr} {command : Command} :
    commandOf c = some command ↔ command.sent = c := by
  obtain ⟨kind, text⟩ := c
  unfold commandOf
  constructor
  · intro h
    split_ifs at h with hv hk
    · cases h; simp only at hk; rw [hk]; rfl
    · cases h; simp only [Bool.not_eq_true] at hk; rw [hk]; rfl
  · rintro h
    have hv : ValidCommand text := by
      have := command.valid
      rwa [show command.text = text from congrArg Prod.snd h] at this
    rw [dif_pos hv]
    cases command <;> cases h <;> rfl

theorem mapM_commandOf {texts : List (Bool × PyStr)} {commands : List Command} :
    texts.mapM commandOf = some commands ↔ commands.map Command.sent = texts := by
  induction texts generalizing commands with
  | nil => simp [eq_comm]
  | cons c texts ih =>
    simp only [List.mapM_cons, Option.bind_eq_bind, Option.bind_eq_some_iff, Option.pure_def,
      Option.some.injEq, commandOf_eq_some, ih]
    constructor
    · rintro ⟨command, rfl, rest, rfl, rfl⟩
      rfl
    · cases commands with
      | nil => rintro ⟨⟩
      | cons command rest => rintro ⟨⟩; exact ⟨_, rfl, _, rfl, rfl⟩

theorem batchOf_eq_some {ops : List PendingOperation} {batch : CommandBatch} :
    batchOf ops = some batch ↔ BatchOf ops batch := by
  obtain ⟨commands, hne⟩ := batch
  unfold batchOf BatchOf
  dsimp only
  rw [← mapM_commandOf]
  cases (textsOf ops).mapM commandOf with
  | none => simp
  | some cs =>
    cases cs with
    | nil => simp [hne.symm]
    | cons c cs => simp

/-- The executor, with a log of the batches it has been handed. -/
def Executor.recorded (E : Executor ε) : Executor (ε × List CommandBatch) where
  execute b x := ((E.execute b x.1).1, (E.execute b x.1).2, x.2 ++ [b])
  aligned b x r _ h := E.aligned b x.1 r (E.execute b x.1).2 (Prod.ext (Prod.mk.inj h).1 rfl)

section
variable [PyText]

/-- An execution hands over the batch of the operations, and nothing else. -/
theorem executePending_recorded (E : Executor ε) (ops : List PendingOperation) (x : ε)
    (log : List CommandBatch) (h : Deferreds) :
    executePending E.recorded ops (x, log) h =
      ((executePending E ops x h).1,
        ((executePending E ops x h).2.1, log ++ (batchOf ops).toList),
        (executePending E ops x h).2.2) := by
  by_cases hv : ∀ op ∈ ops, op.Valid
  · by_cases hne : ops = []
    · subst hne
      simp [executePending, plan, executePlan, CommandBatch.make, Plan.empty, batchOf, textsOf]
    · obtain ⟨batch, hb⟩ := exists_batchOf hne hv
      obtain ⟨p, hp, hcommands⟩ := hb.planned
      rw [batchOf_eq_some.2 hb]
      unfold executePending
      rw [hp.plan]
      simp only [executePlan_eq E hcommands, executePlan_eq E.recorded hcommands]
      simp only [Executor.recorded, Option.toList_some]
  · obtain ⟨e, he, -⟩ := plan_invalid hv .empty
    have hnone : batchOf ops = none := by
      rw [Option.eq_none_iff_forall_ne_some]
      intro batch hb
      exact hv (batchOf_eq_some.1 hb).valid
    simp [executePending, he, hnone]

end

/-! ## Simulation -/

namespace SPD3000

/-- What the reference interpreter sees of a driver. -/
def reference (d : SPD3000 (ε × List CommandBatch)) : Reference ε :=
  ⟨d.executor.1, d.executor.2, d.verifyWritesGlobally, d.deferreds, d.nextDeferred, d.lists,
    d.nextList⟩

/-- The driver in the same scopes, with the state of the reference and further collected
    operations. -/
def advance (s : Reference ε) (ops : List PendingOperation) (d : SPD3000 (ε × List CommandBatch)) :
    SPD3000 (ε × List CommandBatch) :=
  { d with
    executor := (s.executor, s.sent)
    verifyWritesGlobally := s.verifyWritesGlobally
    deferreds := s.deferreds
    nextDeferred := s.nextDeferred
    lists := s.lists
    nextList := s.nextList
    pendingOperations := d.pendingOperations ++ ops
    batchResponseDeferreds := d.batchResponseDeferreds ++ deferredsOf ops }

/-- No batch scope has been entered, and nothing is collected. -/
structure Outside (d : SPD3000 ε) : Prop where
  active : d.batchActive = false
  pending : d.pendingOperations = []
  responses : d.batchResponses = none
  deferreds : d.batchResponseDeferreds = []

variable {d : SPD3000 (ε × List CommandBatch)}

@[simp] theorem reference_advance (s : Reference ε) (ops : List PendingOperation) :
    (d.advance s ops).reference = s := rfl

@[simp] theorem advance_reference : d.advance d.reference [] = d := by
  simp [advance, reference, deferredsOf]

@[simp] theorem advance_advance (s s' : Reference ε) (ops ops' : List PendingOperation) :
    (d.advance s ops).advance s' ops' = d.advance s' (ops ++ ops') := by
  simp [advance, deferredsOf]

theorem Outside.advance (h : d.Outside) (s : Reference ε) : (d.advance s []).Outside :=
  ⟨h.active, by simp [SPD3000.advance, h.pending], h.responses,
    by simp [SPD3000.advance, h.deferreds, deferredsOf]⟩

/-- Outside of batch scopes nothing is collected. -/
def Ready (d : SPD3000 ε) : Prop := d.batchActive = false → d.Outside

theorem Ready.outside (hd : d.Ready) (ha : d.batchActive = false) (s : Reference ε) :
    (d.advance s []).Ready := fun _ => (hd ha).advance s

theorem ready_inside (ha : d.batchActive = true) (s : Reference ε) (ops : List PendingOperation) :
    (d.advance s ops).Ready := fun h => absurd (ha.symm.trans h) (by decide)

theorem shouldVerifyWrites_eq (d : SPD3000 ε) :
    d.shouldVerifyWrites = d.verifyWritesOverrides.head?.getD d.verifyWritesGlobally := by
  unfold shouldVerifyWrites
  cases d.verifyWritesOverrides <;> rfl

end SPD3000

section
variable [PyText] {d : SPD3000 (ε × List CommandBatch)}

theorem executeOperations_recorded (E : Executor ε) (ops : List PendingOperation) :
    d.executeOperations E.recorded ops =
      ((d.reference.send E ops).1, d.advance (d.reference.send E ops).2 []) := by
  obtain ⟨⟨x, log⟩, _⟩ := d
  simp [SPD3000.executeOperations, executePending_recorded, SPD3000.advance, SPD3000.reference,
    Reference.send, deferredsOf]

theorem extend_reference (list : ℕ) (ids : List ℕ) :
    d.extend list ids =
      ((d.reference.extend list ids).1, d.advance (d.reference.extend list ids).2 []) := by
  induction ids generalizing d with
  | nil => simp [SPD3000.extend, Reference.extend]
  | cons i ids ih =>
    simp only [SPD3000.extend, Reference.extend]
    cases hv : (d.deferreds i).getValue with
    | error e =>
      have hv' : (d.reference.deferreds i).getValue = .error e := hv
      simp [hv']
    | ok v =>
      have hv' : (d.reference.deferreds i).getValue = .ok v := hv
      simp only [hv', ih]
      rfl

/-! ## One call -/

variable {E : Executor ε}

/-- The write that a setter adds in the scopes of the driver. -/
abbrev SPD3000.pendingWrite (d : SPD3000 ε) (command : PyStr) (verification : Option Verification)
    (reason : Option PyStr) : PendingOperation :=
  .write ⟨command, SPD3000.selectVerification
    (d.verifyWritesOverrides.head?.getD d.verifyWritesGlobally) verification reason⟩

theorem write_inside (ha : d.batchActive = true) (command : PyStr)
    (verification : Option Verification) (reason : Option PyStr) :
    d.write E.recorded command verification reason =
      (.ok (), d.advance d.reference [d.pendingWrite command verification reason]) := by
  have hverify : d.acquire.shouldVerifyWrites =
      d.verifyWritesOverrides.head?.getD d.verifyWritesGlobally := d.shouldVerifyWrites_eq
  have hactive : d.acquire.batchActive = true := ha
  simp only [SPD3000.write, SPD3000.withLock, hverify, hactive, if_true]
  simp [SPD3000.release, SPD3000.acquire, SPD3000.advance, SPD3000.reference, deferredsOf, ha]

theorem write_outside (ha : d.batchActive = false) (command : PyStr)
    (verification : Option Verification) (reason : Option PyStr) :
    d.write E.recorded command verification reason =
      ((d.reference.send E [d.pendingWrite command verification reason]).1,
        d.advance (d.reference.send E [d.pendingWrite command verification reason]).2 []) := by
  have he := executePending_recorded E [d.pendingWrite command verification reason] d.executor.1
    d.executor.2 d.deferreds
  rw [SPD3000.pendingWrite, ← d.shouldVerifyWrites_eq] at he
  rw [write_alone ha he]
  simp [SPD3000.advance, SPD3000.reference, Reference.send, deferredsOf, SPD3000.pendingWrite,
    d.shouldVerifyWrites_eq]

theorem read_inside (ha : d.batchActive = true) (commands : List PyStr) (hne : commands ≠ [])
    (parser : Parser (List PyStr) .exception) :
    d.queries E.recorded commands hne parser =
      (.ok (.deferred d.nextDeferred),
        d.advance (d.reference.newDeferred (SPD3000.label commands))
          [.read ⟨commands, hne, parser, d.nextDeferred⟩]) := by
  have hactive : (d.acquire.newDeferred (SPD3000.label commands)).2.batchActive = true := ha
  simp only [SPD3000.queries, SPD3000.withLock, hactive, if_true]
  simp [SPD3000.release, SPD3000.acquire, SPD3000.newDeferred, SPD3000.advance, SPD3000.reference,
    Reference.newDeferred, deferredsOf, ha]

theorem read_outside (ha : d.batchActive = false) (commands : List PyStr) (hne : commands ≠ [])
    (parser : Parser (List PyStr) .exception) :
    let sent := (d.reference.newDeferred (SPD3000.label commands)).send E
      [.read ⟨commands, hne, parser, d.nextDeferred⟩]
    d.queries E.recorded commands hne parser =
      (sent.1.bind fun _ => (sent.2.deferreds d.nextDeferred).getValue.map .value,
        d.advance sent.2 []) := by
  rw [read_alone ha (executePending_recorded E _ d.executor.1 d.executor.2 _)]
  simp [SPD3000.advance, SPD3000.reference, Reference.send, Reference.newDeferred, deferredsOf]

omit [PyText] in
theorem execute_inside (ha : d.batchActive = true) (b : CommandBatch) :
    d.executeRawBatch E.recorded b = (.error (.msg .spd3000ValidationError
      "psu.scpi.execute() cannot run inside a batch collection scope"), d) := by
  have hactive : d.acquire.batchActive = true := ha
  simp only [SPD3000.executeRawBatch, SPD3000.withLock, hactive, if_true]
  rfl

omit [PyText] in
theorem execute_verified (ha : d.batchActive = false)
    (hv : d.verifyWritesOverrides.head?.getD d.verifyWritesGlobally = true) (b : CommandBatch) :
    d.executeRawBatch E.recorded b = (.error (.msg .spd3000ValidationError
      "psu.verify_writes() cannot infer expected values for psu.scpi.execute()"), d) := by
  have hactive : d.acquire.batchActive = false := ha
  have hverify : d.acquire.shouldVerifyWrites = true := d.shouldVerifyWrites_eq.trans hv
  simp only [SPD3000.executeRawBatch, SPD3000.withLock, hactive, hverify, Bool.false_eq_true,
    if_false, if_true]
  rfl

omit [PyText] in
theorem execute_unverified (ha : d.batchActive = false)
    (hv : d.verifyWritesOverrides.head?.getD d.verifyWritesGlobally = false) (b : CommandBatch) :
    d.executeRawBatch E.recorded b = ((E.execute b d.executor.1).1, d.advance { d.reference with
      executor := (E.execute b d.executor.1).2
      sent := d.executor.2 ++ [b] } []) := by
  have hactive : d.acquire.batchActive = false := ha
  have hverify : d.acquire.shouldVerifyWrites = false := d.shouldVerifyWrites_eq.trans hv
  simp only [SPD3000.executeRawBatch, SPD3000.withLock, hactive, hverify, Bool.false_eq_true,
    if_false]
  simp [SPD3000.release, SPD3000.acquire, SPD3000.advance, SPD3000.reference, Executor.recorded,
    deferredsOf, ha]

/-! ## Batch scopes -/

/-- The fields that `_end_batch` resets first. -/
def SPD3000.reset (d : SPD3000 ε) : SPD3000 ε :=
  { d with
    pendingOperations := []
    batchActive := false
    batchResponses := none
    batchResponseDeferreds := [] }

/-- Leaving a batch scope: `o` is what `_end_batch` does, and the scope raises its exception or
    has the outcome `r` of its body. -/
theorem endBatch_reference {ops : List PendingOperation} {list : ℕ}
    (hp : d.pendingOperations = ops) (hl : d.batchResponses = some list)
    (hi : d.batchResponseDeferreds = deferredsOf ops) (r : Except PyExc PyVal) :
    ∃ o, d.endBatch E.recorded r.isOk =
        (o, (d.reset.advance (d.reference.leaveBatch E list r ops).2 []).release) ∧
      (o.bind fun _ => r) = (d.reference.leaveBatch E list r ops).1 := by
  have href : d.reset.reference = d.reference := rfl
  cases r with
  | error e =>
    refine ⟨.ok (), ?_, rfl⟩
    simp only [SPD3000.endBatch, Except.isOk, Except.toBool, Reference.leaveBatch, hp]
    simp [SPD3000.reset, SPD3000.advance, SPD3000.reference, deferredsOf]
  | ok v =>
    have hexec := executeOperations_recorded (d := d.reset) E ops
    rw [href] at hexec
    have hreset : d.reset = { d with
      pendingOperations := []
      batchActive := false
      batchResponses := none
      batchResponseDeferreds := [] } := rfl
    simp only [SPD3000.endBatch, Except.isOk, Except.toBool, Bool.not_true, Bool.false_eq_true,
      if_false, Reference.leaveBatch, hp, hl, hi, ← hreset, hexec]
    cases ops with
    | nil =>
      refine ⟨.ok (), ?_, rfl⟩
      simp [SPD3000.extend, Reference.extend, deferredsOf, ← href]
    | cons op ops =>
      simp only [List.isEmpty_cons, Bool.false_eq_true, if_false]
      generalize d.reference.send E (op :: ops) = sent
      obtain ⟨r, s⟩ := sent
      cases r with
      | error e => exact ⟨_, rfl, rfl⟩
      | ok _ =>
        simp only [extend_reference, SPD3000.reference_advance, SPD3000.advance_advance,
          List.append_nil]
        generalize s.extend list (deferredsOf (op :: ops)) = extended
        obtain ⟨r, s⟩ := extended
        cases r <;> exact ⟨_, rfl, rfl⟩

omit [PyText] in
/-- A verification scope around a body that advances the driver. -/
theorem verifyWritesScope_advance {enabled : Bool}
    {body : SPD3000 (ε × List CommandBatch) → Except PyExc PyVal × SPD3000 (ε × List CommandBatch)}
    {r : Except PyExc PyVal} {s : Reference ε} {ops : List PendingOperation}
    (h : body (d.beginVerifyWrites enabled) = (r, (d.beginVerifyWrites enabled).advance s ops)) :
    d.verifyWritesScope enabled body = (r, d.advance s ops) := by
  rw [SPD3000.verifyWritesScope, h]
  rfl

/-- A batch scope around a body that advances the driver. -/
theorem batchScope_advance (hd : d.Outside)
    {body : SPD3000 (ε × List CommandBatch) → Except PyExc PyVal × SPD3000 (ε × List CommandBatch)}
    {r : Except PyExc PyVal} {s : Reference ε} {ops : List PendingOperation}
    (h : body d.entered = (r, d.entered.advance s ops)) :
    d.batchScope E.recorded body = ((s.leaveBatch E d.nextList r ops).1,
      d.advance (s.leaveBatch E d.nextList r ops).2 []) := by
  have hbegin : d.newList.2.beginBatch d.newList.1 = (.ok (), d.entered) := by
    simp [SPD3000.beginBatch, SPD3000.newList, SPD3000.acquire, hd.active, SPD3000.entered]
  obtain ⟨o, hend, ho⟩ := endBatch_reference (E := E) (d := d.entered.advance s ops) rfl rfl rfl r
  have hleft : ((d.entered.advance s ops).reset.advance
      (s.leaveBatch E d.nextList r ops).2 []).release =
        d.advance (s.leaveBatch E d.nextList r ops).2 [] := by
    simp [SPD3000.reset, SPD3000.release, SPD3000.entered, SPD3000.advance, deferredsOf, hd.active,
      hd.pending, hd.responses, hd.deferreds]
  rw [SPD3000.batchScope]
  simp only [hbegin, h, hend]
  rw [← hleft, ← (show _ = (s.leaveBatch E d.nextList r ops).1 from ho)]
  cases o <;> rfl

/-- A batch scope inside a batch scope is refused. -/
theorem batchScope_nested (ha : d.batchActive = true)
    (body : SPD3000 (ε × List CommandBatch) →
      Except PyExc PyVal × SPD3000 (ε × List CommandBatch)) :
    d.batchScope E.recorded body = (.error (.msg .spd3000ValidationError
      "Nested batch executions are not supported"), d.advance d.reference.newList []) := by
  have hbegin : d.newList.2.beginBatch d.newList.1 = (.error (.msg .spd3000ValidationError
      "Nested batch executions are not supported"), d.advance d.reference.newList []) := by
    simp [SPD3000.beginBatch, SPD3000.newList, SPD3000.acquire, SPD3000.release, ha,
      SPD3000.advance, SPD3000.reference, Reference.newList, deferredsOf]
  rw [SPD3000.batchScope]
  simp only [hbegin]

/-- Outside of a batch scope, the reference collects nothing. -/
theorem eval_outside (p : Program) (scope : Option Bool) (s : Reference ε) :
    (p.eval E scope false s).2.1 = [] := by
  induction p generalizing scope s with
  | done outcome => rfl
  | write command verification reason next ih => exact ih ..
  | read commands hne parser next ih => exact ih ..
  | execute b next ih =>
    simp only [Program.eval, Bool.false_eq_true, if_false]
    split_ifs
    · exact ih ..
    · exact ih ..
  | setGlobally enabled next ih => exact ih ..
  | verifyWrites enabled body next ihb ih =>
    simp only [Program.eval, ihb, ih, List.append_nil]
  | batch body next ihb ih => exact ih ..
  | value deferred next ih => exact ih ..
  | responses list next ih => exact ih ..

/-! ## Programs -/

/-- The driver runs a program as the reference does, and keeps its own scopes. -/
def Simulated (E : Executor ε) (p : Program) (d : SPD3000 (ε × List CommandBatch)) : Prop :=
  p.run E.recorded d =
    ((p.eval E d.verifyWritesOverrides.head? d.batchActive d.reference).1,
      d.advance (p.eval E d.verifyWritesOverrides.head? d.batchActive d.reference).2.2
        (p.eval E d.verifyWritesOverrides.head? d.batchActive d.reference).2.1)

/-- What follows a step that has collected operations. -/
theorem Simulated.advance {p : Program} {s : Reference ε} {ops : List PendingOperation}
    (h : Simulated E p (d.advance s ops)) :
    p.run E.recorded (d.advance s ops) =
      ((p.eval E d.verifyWritesOverrides.head? d.batchActive s).1,
        d.advance (p.eval E d.verifyWritesOverrides.head? d.batchActive s).2.2
          (ops ++ (p.eval E d.verifyWritesOverrides.head? d.batchActive s).2.1)) := by
  rw [Simulated, SPD3000.reference_advance, SPD3000.advance_advance] at h
  exact h

/-- The driver agrees with the reference interpreter. -/
theorem run_eval (E : Executor ε) (p : Program) (d : SPD3000 (ε × List CommandBatch))
    (hd : d.Ready) : Simulated E p d := by
  induction p generalizing d with
  | done outcome =>
    rw [Simulated]
    simp [Program.run, Program.eval]
  | write command verification reason next ih =>
    rw [Simulated]
    cases ha : d.batchActive with
    | false =>
      simp only [Program.run, Program.eval, write_outside ha, Bool.false_eq_true, if_false]
      exact ha ▸ (ih _ _ (hd.outside ha _)).advance
    | true =>
      simp only [Program.run, Program.eval, write_inside ha, if_true]
      exact ha ▸ (ih _ _ (SPD3000.ready_inside ha _ _)).advance
  | read commands hne parser next ih =>
    rw [Simulated]
    cases ha : d.batchActive with
    | false =>
      simp only [Program.run, Program.eval, read_outside ha, Bool.false_eq_true, if_false]
      exact ha ▸ (ih _ _ (hd.outside ha _)).advance
    | true =>
      simp only [Program.run, Program.eval, read_inside ha, if_true]
      exact ha ▸ (ih _ _ (SPD3000.ready_inside ha _ _)).advance
  | execute b next ih =>
    rw [Simulated]
    cases ha : d.batchActive with
    | false =>
      cases hv : d.verifyWritesOverrides.head?.getD d.verifyWritesGlobally with
      | false =>
        have hv' : d.verifyWritesOverrides.head?.getD d.reference.verifyWritesGlobally = false := hv
        simp only [Program.run, Program.eval, execute_unverified ha hv, hv', Bool.false_eq_true,
          if_false]
        exact ha ▸ (ih _ _ (hd.outside ha _)).advance
      | true =>
        have hv' : d.verifyWritesOverrides.head?.getD d.reference.verifyWritesGlobally = true := hv
        simp only [Program.run, Program.eval, execute_verified ha hv, hv', Bool.false_eq_true,
          if_false, if_true]
        exact ha ▸ ih _ _ hd
    | true =>
      simp only [Program.run, Program.eval, execute_inside ha, if_true]
      exact ha ▸ ih _ _ hd
  | setGlobally enabled next ih =>
    have hadvance : { d with verifyWritesGlobally := enabled } =
        d.advance { d.reference with verifyWritesGlobally := enabled } [] := by
      simp [SPD3000.advance, SPD3000.reference, deferredsOf]
    rw [Simulated]
    simp only [Program.run, Program.eval, hadvance]
    cases ha : d.batchActive with
    | false => exact ha ▸ (ih _ (hd.outside ha _)).advance
    | true => exact ha ▸ (ih _ (SPD3000.ready_inside ha _ _)).advance
  | verifyWrites enabled body next ihb ih =>
    have hbody := verifyWritesScope_advance (d := d) (ihb (d.beginVerifyWrites enabled) fun ha =>
      ⟨ha, (hd ha).pending, (hd ha).responses, (hd ha).deferreds⟩)
    rw [Simulated]
    simp only [Program.run, Program.eval]
    rw [hbody]
    refine (ih _ _ ?_).advance
    cases ha : d.batchActive with
    | false =>
      have hactive : (d.beginVerifyWrites enabled).batchActive = false := ha
      rw [hactive, eval_outside]
      exact hd.outside ha _
    | true => exact SPD3000.ready_inside ha _ _
  | batch body next ihb ih =>
    rw [Simulated]
    cases ha : d.batchActive with
    | false =>
      have hbody := batchScope_advance (E := E) (hd ha) (ihb d.nextList d.entered
        fun h => absurd h (by simp [SPD3000.entered]))
      simp only [Program.run, Program.eval, Bool.false_eq_true, if_false]
      rw [hbody]
      exact ha ▸ (ih _ _ (hd.outside ha _)).advance
    | true =>
      simp only [Program.run, Program.eval, batchScope_nested ha, if_true]
      exact ha ▸ (ih _ _ (SPD3000.ready_inside ha _ _)).advance
  | value deferred next ih => exact ih _ _ hd
  | responses list next ih => exact ih _ _ hd

/-- What a program does on a driver: its outcome, the batches handed to the executor and the
    objects are those of the reference, and it leaves no scope behind. -/
structure FollowsReference (d : SPD3000 (ε × List CommandBatch)) (r : Except PyExc PyVal)
    (d' : SPD3000 (ε × List CommandBatch)) (r' : Except PyExc PyVal) (s : Reference ε) : Prop where
  outcome : r = r'
  sent : d'.executor.2 = s.sent
  executor : d'.executor.1 = s.executor
  objects : d'.reference = s
  overrides : d'.verifyWritesOverrides = d.verifyWritesOverrides
  lockDepth : d'.lockDepth = d.lockDepth
  outside : d'.Outside

/-- **Scope semantics.**  Started outside of batch scopes, a program does what the reference
    interpreter does. -/
theorem scope_semantics (E : Executor ε) (p : Program) (d : SPD3000 (ε × List CommandBatch))
    (hd : d.Outside) :
    FollowsReference d (p.run E.recorded d).1 (p.run E.recorded d).2
      (p.eval E d.verifyWritesOverrides.head? false d.reference).1
      (p.eval E d.verifyWritesOverrides.head? false d.reference).2.2 := by
  have h := run_eval E p d fun _ => hd
  rw [Simulated, hd.active, eval_outside] at h
  rw [h]
  exact ⟨rfl, rfl, rfl, rfl, rfl, rfl, hd.advance _⟩

end

/-! ## A program -/

/-- An executor that answers every query with `1`. -/
def ones : Executor Unit where
  execute b s := (.ok ⟨b.commands.map fun c => if c.isQuery then some "1" else none⟩, s)
  aligned _ _ _ _ h := by cases h; simp

def identify : CommandBatch := ⟨[.query ⟨"*IDN?", by decide⟩], by simp⟩

/-- `psu.scpi.execute` in a verification scope, then a write in a batch scope. -/
def executeThenBatch : Program :=
  .verifyWrites true (.execute identify fun _ => .done (.ok .none)) fun _ =>
    .batch (fun _ => .write "OUTP CH1,ON" none none fun _ => .done (.ok .none)) .done

def newDriver : SPD3000 (Unit × List CommandBatch) := .make ((), []) false

theorem executeThenBatch_agrees :
    FollowsReference newDriver (@Program.run _ PyText.blank ones.recorded executeThenBatch newDriver).1
      (@Program.run _ PyText.blank ones.recorded executeThenBatch newDriver).2
      (@Program.eval _ PyText.blank ones executeThenBatch none false newDriver.reference).1
      (@Program.eval _ PyText.blank ones executeThenBatch none false newDriver.reference).2.2 :=
  @scope_semantics _ PyText.blank ones executeThenBatch newDriver ⟨rfl, rfl, rfl, rfl⟩

end Spd3000
