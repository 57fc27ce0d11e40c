/-
  What the driver makes of an exception of the executor.

  A readback stands right after its write, so the index of a failed command says
  whether it was the readback of some write (`ReadbackAt`).  The lookup in
  `failedVerification` finds exactly that write (`outward_spec`), with one
  exception: an error without an index is taken for the missing readback of a
  write that cannot be verified (`Unplaced`), and an assertion fails before any
  deferred result is rejected.
-/
import Spd3000.Layout

namespace Spd3000

variable {ε : Type}

/-! ## Positions of failures -/

/-- The readback of the write stands at position `i` of the batch. -/
def ReadbackAt (ops : List PendingOperation) (i : ℕ) (w : PendingWrite) (v : Verification)
    (readback : Readback) : Prop :=
  ∃ pre post, ops = pre ++ .write w :: post ∧ w.verification = some v ∧
    v.readback = some readback ∧ i = (textsOf pre).length + 1

/-- The exception is an `SPD3000Error` of the command at position `i`. -/
def FailsAt (e : PyExc) (i : ℕ) : Prop :=
  e.isinstance .spd3000Error ∧ pyEq (.int i) (e.getattr "batch_command_index")

/-- The exception is an `SPD3000Error` without a position, and some write is to be verified
    but cannot be. -/
def Unplaced (ops : List PendingOperation) (e : PyExc) : Prop :=
  e.isinstance .spd3000Error ∧ e.getattr "batch_command_index" = .none ∧
    ∃ w v, .write w ∈ ops ∧ w.verification = some v ∧ v.readback = none

theorem FailsAt.unique {e : PyExc} {i j : ℕ} (hi : FailsAt e i) (hj : FailsAt e j) : i = j := by
  have := pyEq_int_unique hi.2 hj.2
  exact_mod_cast this

theorem FailsAt.not_unplaced {ops : List PendingOperation} {e : PyExc} {i : ℕ} (h : FailsAt e i) :
    ¬ Unplaced ops e := by
  rintro ⟨-, hnone, -⟩
  have h2 := h.2
  rw [hnone, pyEq_int_none] at h2
  cases h2

/-- Operations that start at the same position are the same. -/
theorem append_cons_unique {pre pre' post post' : List PendingOperation} {op op' : PendingOperation}
    (h : pre ++ op :: post = pre' ++ op' :: post')
    (hlen : (textsOf pre).length = (textsOf pre').length) : pre = pre' ∧ op = op' := by
  induction pre generalizing pre' with
  | nil =>
    cases pre' with
    | nil => cases h; exact ⟨rfl, rfl⟩
    | cons q pre' =>
      have := List.length_pos_iff.2 (texts_ne_nil q)
      simp only [textsOf, List.flatMap_nil, List.length_nil, List.flatMap_cons,
        List.length_append] at hlen
      omega
  | cons q pre ih =>
    cases pre' with
    | nil =>
      have := List.length_pos_iff.2 (texts_ne_nil q)
      simp only [textsOf, List.flatMap_nil, List.length_nil, List.flatMap_cons,
        List.length_append] at hlen
      omega
    | cons q' pre' =>
      simp only [List.cons_append, List.cons.injEq] at h
      obtain ⟨rfl, h⟩ := h
      simp only [textsOf, List.flatMap_cons, List.length_append, Nat.add_left_cancel_iff] at hlen
      obtain ⟨rfl, rfl⟩ := ih h hlen
      exact ⟨rfl, rfl⟩

/-- A position belongs to the readback of at most one write. -/
theorem ReadbackAt.unique {ops : List PendingOperation} {i : ℕ} {w w' : PendingWrite}
    {v v' : Verification} {readback readback' : Readback} (h : ReadbackAt ops i w v readback)
    (h' : ReadbackAt ops i w' v' readback') : w = w' ∧ v = v' ∧ readback = readback' := by
  obtain ⟨pre, post, rfl, hv, hb, rfl⟩ := h
  obtain ⟨pre', post', hops, hv', hb', hi⟩ := h'
  obtain ⟨-, hop⟩ := append_cons_unique hops (by omega)
  cases hop
  rw [hv] at hv'; cases hv'
  rw [hb] at hb'; cases hb'
  exact ⟨rfl, rfl, rfl⟩

/-! ## The lookup of the failed readback -/

section
variable [PyText]

/-- The outcome of the lookup for an exception of the executor. -/
inductive Outward (ops : List PendingOperation) (e : PyExc) : Except PyExc PyExc → Prop
  | unplaced : Unplaced ops e → Outward ops e (.error (.new .assertionError []))
  | readback {i w v readback} : FailsAt e i → ReadbackAt ops i w v readback →
      Outward ops e (.ok (readbackFailed w v readback e))
  | other : ¬ Unplaced ops e → (∀ i w v readback, FailsAt e i → ¬ ReadbackAt ops i w v readback) →
      Outward ops e (.ok e)

omit [PyText] in
/-- A verified write with a readback and the position of the readback. -/
theorem readbackAt_of_planned {ops : List PendingOperation} {w : PlannedWrite} {i : ℕ}
    (hw : w ∈ writesFrom 0 ops) (hi : w.queryIndex = some i) :
    ∃ readback, w.verification.readback = some readback ∧
      ReadbackAt ops i w.operation w.verification readback := by
  obtain ⟨pre, post, hops, hpl⟩ := mem_writesFrom.1 hw
  obtain ⟨hv, -, hq⟩ := plannedWrite_eq_some hpl
  rw [hq] at hi
  obtain ⟨readback, hb, rfl⟩ := Option.map_eq_some_iff.1 hi
  exact ⟨readback, hb, pre, post, hops, hv, hb, by omega⟩

omit [PyText] in
theorem planned_of_readbackAt {ops : List PendingOperation} {i : ℕ} {w : PendingWrite}
    {v : Verification} {readback : Readback} (h : ReadbackAt ops i w v readback) :
    ∃ n, ⟨w, v, n, some i⟩ ∈ writesFrom 0 ops := by
  obtain ⟨pre, post, rfl, hv, hb, rfl⟩ := h
  refine ⟨0 + (textsOf pre).length, mem_writesFrom.2 ⟨pre, post, rfl, ?_⟩⟩
  rw [plannedWrite, hv, Option.map_some, hb]
  simp

omit [PyText] in
theorem unverifiable_of_planned {ops : List PendingOperation} {w : PlannedWrite}
    (hw : w ∈ writesFrom 0 ops) (hi : w.queryIndex = none) :
    w.verification.readback = none ∧ ∃ w' v, PendingOperation.write w' ∈ ops ∧
      w'.verification = some v ∧ v.readback = none := by
  obtain ⟨pre, post, hops, hpl⟩ := mem_writesFrom.1 hw
  obtain ⟨hv, -, hq⟩ := plannedWrite_eq_some hpl
  rw [hq, Option.map_eq_none_iff] at hi
  exact ⟨hi, w.operation, w.verification, by rw [hops]; simp, hv, hi⟩

omit [PyText] in
theorem planned_of_unverifiable {ops : List PendingOperation} {w : PendingWrite} {v : Verification}
    (hw : PendingOperation.write w ∈ ops) (hv : w.verification = some v) (hb : v.readback = none) :
    ∃ n, ⟨w, v, n, none⟩ ∈ writesFrom 0 ops := by
  obtain ⟨pre, post, rfl⟩ := List.append_of_mem hw
  refine ⟨0 + (textsOf pre).length, mem_writesFrom.2 ⟨pre, post, rfl, ?_⟩⟩
  rw [plannedWrite, hv, Option.map_some, hb]
  rfl

theorem outward_spec {ops : List PendingOperation} {p : Plan} (hp : Planned ops p) (e : PyExc) :
    Outward ops e (p.outward e) := by
  unfold Plan.outward Plan.failedVerification
  rw [hp.verifications]
  split
  · rename_i hnone
    rw [List.find?_eq_none] at hnone
    refine .other ?_ fun i w v readback hi hw => ?_
    · rintro ⟨-, hidx, w, v, hw, hv, hb⟩
      obtain ⟨n, hmem⟩ := planned_of_unverifiable hw hv hb
      exact hnone _ hmem (by rw [hidx]; rfl)
    · obtain ⟨n, hmem⟩ := planned_of_readbackAt hw
      exact hnone _ hmem hi.2
  · rename_i w hfind
    have hmem := List.mem_of_find?_eq_some hfind
    have hpos := List.find?_some hfind
    by_cases hspd : e.isinstance .spd3000Error
    · rw [if_pos hspd]
      cases hi : w.queryIndex with
      | none =>
        obtain ⟨hb, hex⟩ := unverifiable_of_planned hmem hi
        rw [hb]
        rw [hi, optionalIndex, pyEq_none_left] at hpos
        exact .unplaced ⟨hspd, hpos, hex⟩
      | some i =>
        obtain ⟨readback, hb, hat⟩ := readbackAt_of_planned hmem hi
        rw [hb]
        rw [hi, optionalIndex] at hpos
        exact .readback ⟨hspd, hpos⟩ hat
    · rw [if_neg hspd]
      exact .other (fun h => hspd h.1) fun i _ _ _ h => absurd h.1 hspd

/-! ## Attribution -/

omit [PyText] in
theorem rejectAll_apply (e : PyExc) (reads : List PlannedRead) (h : Deferreds) (i : ℕ) :
    rejectAll e reads h i =
      if i ∈ reads.map (·.operation.deferred) then (h i).reject e else h i := by
  unfold rejectAll
  induction reads generalizing h with
  | nil => simp
  | cons r reads ih =>
    rw [List.foldl_cons, ih, List.map_cons]
    by_cases hi : i = r.operation.deferred
    · subst hi
      simp [Deferred.reject]
    · simp [hi, Deferreds.modify_of_ne]

/-- What a call does with an exception of the executor. -/
theorem executePending_error (E : Executor ε) {ops : List PendingOperation} {batch : CommandBatch}
    (hb : BatchOf ops batch) {x x' : ε} {e : PyExc} (he : E.execute batch x = (.error e, x'))
    (h : Deferreds) :
    ∃ p, Planned ops p ∧ executePending E ops x h =
      ((processError p e h).1, x', (processError p e h).2) := by
  obtain ⟨p, hp, hcommands⟩ := hb.planned
  refine ⟨p, hp, ?_⟩
  unfold executePending
  rw [hp.plan]
  simp only [executePlan_eq E hcommands, he]

/-- The exception that leaves the driver names the write whose readback failed, and else is
    the exception of the executor; it is the error of every collected read. -/
structure FailureAttributed (ops : List PendingOperation) (e : PyExc) (h : Deferreds)
    (r : Except PyExc Unit) (h' : Deferreds) : Prop where
  readback : ∀ i w v readback, FailsAt e i → ReadbackAt ops i w v readback →
    r = .error (readbackFailed w v readback e)
  other : (∀ i w v readback, FailsAt e i → ¬ ReadbackAt ops i w v readback) → r = .error e
  rejected : ∃ e', r = .error e' ∧ ∀ i ∈ deferredsOf ops, h' i = (h i).reject e'

/-- **Attribution of executor failures.**  An exception of the executor is attributed
    unless it is an error without a position while a write cannot be verified. -/
theorem failure_attributed_iff (E : Executor ε) (ops : List PendingOperation) (batch : CommandBatch)
    (hb : BatchOf ops batch) (x x' : ε) (e : PyExc) (he : E.execute batch x = (.error e, x'))
    (h : Deferreds) :
    FailureAttributed ops e h (executePending E ops x h).1 (executePending E ops x h).2.2 ↔
      ¬ Unplaced ops e := by
  obtain ⟨p, hp, hrun⟩ := executePending_error E hb he h
  have ho := outward_spec hp e
  have hreads : p.reads.map (·.operation.deferred) = deferredsOf ops := by
    rw [hp.reads, readsFrom_deferreds]
  have hreject : ∀ e', ∀ i ∈ deferredsOf ops, rejectAll e' p.reads h i = (h i).reject e' := by
    intro e' i hi
    rw [rejectAll_apply, hreads, if_pos hi]
  rw [hrun]
  unfold processError
  generalize p.outward e = o at ho
  cases ho with
  | unplaced hu =>
    refine iff_of_false (fun ha => ?_) (not_not_intro hu)
    have hother := ha.other fun i _ _ _ hi => absurd hu hi.not_unplaced
    cases hother
    exact absurd hu.1 (by decide)
  | @readback i w v readback hi hat =>
    refine iff_of_true ⟨fun j w' v' readback' hj hat' => ?_, fun hno => absurd hat (hno i _ _ _ hi),
      _, rfl, hreject _⟩ hi.not_unplaced
    obtain rfl := hi.unique hj
    obtain ⟨rfl, rfl, rfl⟩ := hat.unique hat'
    rfl
  | other hu hno =>
    exact iff_of_true ⟨fun i w v readback hi hat => absurd hat (hno i w v readback hi),
      fun _ => rfl, _, rfl, hreject _⟩ hu

end

/-! ## A readback that times out -/

/-- A world that takes every write and answers as many queries as its state says, with `1`;
    every further read times out. -/
def answering : World ℕ where
  clock n := (0, n)
  sleeper _ n := n
  idle n := n
  write _ n := (.ok (), n)
  read
    | 0 => (.error (.msg .timeoutError "timed out"), 0)
    | n + 1 => (.ok [49, LF], n)

/-- An executor that gets `n` more answers. -/
def answeringExecutor (lastWriteAt : Option ℚ) (n : ℕ) : DirectExecutor ℕ :=
  ⟨.default, lastWriteAt, false, n⟩

/-- The error of a query at position `i` whose read times out. -/
def queryTimeout [PyText] (i : ℕ) (c : CommandText) : PyExc :=
  annotateExecutionError
    (.msg .spd3000TimeoutError (PyText.str (.msg .timeoutError "timed out"))) i (.query c)

theorem attempt_answering (c : Command) (t : Option ℚ) (n : ℕ) :
    (answeringExecutor t n).attempt answering c = match c, n with
      | .write _, n => (.ok none, answeringExecutor (some 0) n)
      | .query _, n + 1 => (.ok (some "1"), answeringExecutor (some 0) n)
      | .query _, 0 => (.error (.msg .timeoutError "timed out"), answeringExecutor (some 0) 0) := by
  rw [DirectExecutor.attempt,
    DirectExecutor.waitBeforeWrite_still answering (fun _ => rfl) fun _ _ => rfl]
  cases c with
  | write => rfl
  | query => cases n <;> rfl

theorem runCommand_answering [PyText] (i : ℕ) (c : Command) (t : Option ℚ) (n : ℕ) :
    (answeringExecutor t n).runCommand answering i c = match c, n with
      | .write _, n => (.ok none, answeringExecutor (some 0) n)
      | .query _, n + 1 => (.ok (some "1"), answeringExecutor (some 0) n)
      | .query c, 0 => (.error (queryTimeout i c), answeringExecutor (some 0) 0) := by
  rw [DirectExecutor.runCommand, attempt_answering]
  cases c with
  | write => rfl
  | query => cases n <;> rfl

/-- A parser that takes the response as it is. -/
def rawResponse : Parser PyStr .spd3000Error where
  parse response := .ok (.str response)
  raises _ _ h := nomatch h

/-- The parser of `psu.scpi.query`. -/
def firstResponse : Parser (List PyStr) .exception where
  parse responses := .ok (.str (responses.headD []))
  raises _ _ h := nomatch h

def queryVoltage : CommandText := ⟨"CH2:VOLT?", by decide⟩

def writeCurrent : CommandText := ⟨"CH2:CURR 1", by decide⟩

def queryCurrent : CommandText := ⟨"CH2:CURR?", by decide⟩

def currentReadback : Readback := ⟨queryCurrent.text, rawResponse⟩

def currentVerification : Verification := ⟨some currentReadback, .str "1", none⟩

def setCurrent : PendingWrite := ⟨writeCurrent.text, some currentVerification⟩

/-- A reading of the voltage, then a verified write of the current. -/
def readAndSet : List PendingOperation :=
  [.read ⟨[queryVoltage.text], by simp, firstResponse, 0⟩, .write setCurrent]

def readAndSetBatch : CommandBatch :=
  ⟨[.query queryVoltage, .write writeCurrent, .query queryCurrent], by simp⟩

/-- The reading is answered and the readback times out. -/
def readbackRun [PyText] : Except PyExc Unit × DirectExecutor ℕ × Deferreds :=
  executePending (DirectExecutor.executor answering) readAndSet (answeringExecutor none 1)
    fun _ => .pending []

theorem readback_timeout_attributed :
    let e := @queryTimeout PyText.blank 2 queryCurrent
    @FailureAttributed PyText.blank readAndSet e (fun _ => .pending [])
        (@readbackRun PyText.blank).1 (@readbackRun PyText.blank).2.2 ∧
      (@readbackRun PyText.blank).1 =
        .error (@readbackFailed PyText.blank setCurrent currentVerification currentReadback e) := by
  let _ : PyText := PyText.blank
  intro e
  have hat : ReadbackAt readAndSet 2 setCurrent currentVerification currentReadback :=
    ⟨[_], [], rfl, rfl, rfl, rfl⟩
  have hfails : FailsAt e 2 := ⟨by decide, by decide⟩
  have hrun : (DirectExecutor.executor answering).execute readAndSetBatch
      (answeringExecutor none 1) = (.error e, answeringExecutor (some 0) 0) := by
    simp only [DirectExecutor.executor, DirectExecutor.execute, readAndSetBatch,
      DirectExecutor.runFrom, runCommand_answering]
    rfl
  have h := (failure_attributed_iff (DirectExecutor.executor answering) readAndSet readAndSetBatch
    rfl _ _ e hrun fun _ => .pending []).2 hfails.not_unplaced
  exact ⟨h, h.readback 2 _ _ _ hfails hat⟩

/-! ## A closed executor -/

/-- A world in which nothing happens. -/
def stillWorld : World Unit where
  clock s := (0, s)
  sleeper _ s := s
  idle s := s
  write _ s := (.ok (), s)
  read s := (.ok [LF], s)

/-- A direct executor that has been closed. -/
def closedExecutor : DirectExecutor Unit :=
  ⟨.default, none, true, ()⟩

def switchOutput : CommandText := ⟨"OUTP CH3,ON", by decide⟩

def outputOn : CommandBatch := ⟨[.write switchOutput], by simp⟩

/-- CH3 has no readback of its output. -/
def outputUnverifiable : Verification := ⟨none, .bool true,
  some "Siglent documents no query or SYST:STAT? bit for CH3 output state"⟩

/-- The verified write of the output of CH3. -/
def outputWrite : List PendingOperation := [.write ⟨switchOutput.text, some outputUnverifiable⟩]

def executorClosed : PyExc := .msg .spd3000ConnectionError "Executor is closed"

/-- The connection error of a verified write to CH3 is lost in an `AssertionError`. -/
theorem closed_error_lost :
    ¬ ∀ [PyText] (ops : List PendingOperation) (batch : CommandBatch) (x x' : DirectExecutor Unit)
      (e : PyExc) (h : Deferreds), BatchOf ops batch →
      (DirectExecutor.executor stillWorld).execute batch x = (.error e, x') →
      FailureAttributed ops e h (executePending (DirectExecutor.executor stillWorld) ops x h).1
        (executePending (DirectExecutor.executor stillWorld) ops x h).2.2 := by
  intro hall
  let _ : PyText := PyText.blank
  have h := hall (outputWrite) outputOn closedExecutor closedExecutor
    executorClosed (fun _ => .pending []) rfl rfl
  have hu : Unplaced (outputWrite) executorClosed :=
    ⟨by decide, rfl, _, outputUnverifiable, List.mem_singleton_self _, rfl, rfl⟩
  have hother := h.other fun _ _ _ _ hi _ => absurd hu hi.not_unplaced
  cases hother

end Spd3000
