/-
  A batch and the same operations executed one by one.

  The executor of this file does not fail: `scripted` answers the queries that it
  receives with the next strings of a script and keeps a log of all commands.
  `outcome` is what an operation makes of its own responses.  Executed alone, an
  operation has its outcome (`call_alone`); in a batch, the reads get their
  outcomes (`mem_zip_outcomes`) and the error with the least index is the first
  error among the outcomes (`raiseFirst_errorsOf`).
-/
import Spd3000.Settling

namespace Spd3000

/-! ## A scripted executor -/

/-- The commands sent so far, and the number of queries among them. -/
structure Script where
  sent : List (Bool × PyStr)
  next : ℕ

/-- The responses to commands, if the next query gets answer `n`. -/
def responsesFrom (answers : ℕ → PyStr) : ℕ → List (Bool × PyStr) → List (Option PyStr)
  | _, [] => []
  | n, (true, _) :: cs => some (answers n) :: responsesFrom answers (n + 1) cs
  | n, (false, _) :: cs => none :: responsesFrom answers n cs

def queryCount (cs : List (Bool × PyStr)) : ℕ := cs.countP (·.1)

/-- The executor after commands. -/
def Script.after (s : Script) (cs : List (Bool × PyStr)) : Script :=
  ⟨s.sent ++ cs, s.next + queryCount cs⟩

@[simp] theorem length_responsesFrom (answers : ℕ → PyStr) (n : ℕ) (cs : List (Bool × PyStr)) :
    (responsesFrom answers n cs).length = cs.length := by
  induction cs generalizing n with
  | nil => rfl
  | cons c cs ih => obtain ⟨_ | _, t⟩ := c <;> simp [responsesFrom, ih]

theorem responsesFrom_append (answers : ℕ → PyStr) (n : ℕ) (cs cs' : List (Bool × PyStr)) :
    responsesFrom answers n (cs ++ cs') =
      responsesFrom answers n cs ++ responsesFrom answers (n + queryCount cs) cs' := by
  induction cs generalizing n with
  | nil => rfl
  | cons c cs ih =>
    obtain ⟨_ | _, t⟩ := c
    · simp [responsesFrom, ih, queryCount]
    · simp [responsesFrom, ih, queryCount, Nat.add_assoc, Nat.add_comm 1]

theorem Script.after_append (s : Script) (cs cs' : List (Bool × PyStr)) :
    s.after (cs ++ cs') = (s.after cs).after cs' := by
  simp [Script.after, queryCount, Nat.add_assoc]

/-- An executor that never fails and answers its queries in order. -/
def scripted (answers : ℕ → PyStr) : Executor Script where
  execute b s := (.ok ⟨responsesFrom answers s.next (b.commands.map Command.sent)⟩,
    s.after (b.commands.map Command.sent))
  aligned b s r s' h := by
    cases h
    simp

/-! ## The outcome of an operation -/

section
variable [PyText]

/-- What an operation makes of its own responses. -/
def PendingOperation.outcome (own : List (Option PyStr)) : PendingOperation → Except PyExc PyVal
  | read r => parseResponses r (SPD3000.label r.commands) own
  | write w => match w.verification with
    | none => .ok .none
    | some v => match v.readback with
      | none => .error (unverifiable w v)
      | some readback => match checkReadback w v readback (own[1]?.getD none) with
        | none => .ok .none
        | some e => .error e

/-- The outcomes of operations, each for its own responses. -/
def outcomesFrom (answers : ℕ → PyStr) : ℕ → List PendingOperation → List (Except PyExc PyVal)
  | _, [] => []
  | n, op :: ops => op.outcome (responsesFrom answers n op.texts) ::
      outcomesFrom answers (n + queryCount op.texts) ops

/-- The first exception among outcomes. -/
def firstError {α : Type} : List (Except PyExc α) → Except PyExc Unit
  | [] => .ok ()
  | .error e :: _ => .error e
  | .ok _ :: os => firstError os

/-! ## The reported error -/

omit [PyText] in
/-- An entry with an index below all others is the one that is raised. -/
theorem raiseFirst_eq {errors : List (ℕ × PyExc)} {i : ℕ} {e : PyExc} (hmem : (i, e) ∈ errors)
    (hlt : ∀ a ∈ errors, a = (i, e) ∨ i < a.1) : raiseFirst errors = .error e := by
  unfold raiseFirst
  obtain ⟨m, hm⟩ : ∃ m, errors.argmin (·.1) = some m := by
    rw [← Option.ne_none_iff_exists']
    intro hnone
    rw [List.argmin_eq_none] at hnone
    rw [hnone] at hmem
    cases hmem
  have hle := List.le_of_mem_argmin hmem (Option.mem_def.2 hm)
  rcases hlt m (List.argmin_mem (Option.mem_def.2 hm)) with rfl | h
  · rw [hm]
  · exact absurd h (by simpa using hle)

/-- The entry that an operation at offset `n` adds to the errors. -/
def operationError (values : List (Option PyStr)) (h : Deferreds) (n : ℕ) :
    PendingOperation → Option (ℕ × PyExc)
  | .read r => readError values h ⟨r, List.range' n r.commands.length⟩
  | .write w => (plannedWrite n w).bind (writeError values)

theorem operationError_index {values : List (Option PyStr)} {h : Deferreds} {n : ℕ}
    {op : PendingOperation} {i : ℕ} {e : PyExc} (he : operationError values h n op = some (i, e)) :
    n ≤ i ∧ i < n + op.texts.length := by
  cases op with
  | read r =>
    obtain ⟨commands, hne, parser, id⟩ := r
    simp only [operationError, readError] at he
    split at he
    · cases he
    · cases he
      cases commands with
      | nil => exact absurd rfl hne
      | cons c cs => simp [PendingOperation.texts, List.range'_succ]
  | write w =>
    obtain ⟨pw, hpw, he⟩ := Option.bind_eq_some_iff.1 he
    obtain ⟨v, hv, rfl⟩ := Option.map_eq_some_iff.1 hpw
    cases hb : v.readback with
    | none =>
      simp only [writeError, hb, Option.map_none] at he
      cases he
      simp [PendingOperation.texts]
    | some readback =>
      simp only [writeError, hb, Option.map_some, Option.map_eq_some_iff] at he
      obtain ⟨e', -, he⟩ := he
      cases he
      simp [PendingOperation.texts, PendingWrite.readback, hv, hb]

theorem mem_errorsOf_cons {values : List (Option PyStr)} {h : Deferreds} {n : ℕ}
    {op : PendingOperation} {ops : List PendingOperation} {a : ℕ × PyExc} :
    a ∈ errorsOf values h n (op :: ops) ↔ operationError values h n op = some a ∨
      a ∈ errorsOf values h (n + op.texts.length) ops := by
  cases op with
  | read r => simp [errorsOf, readsFrom, writesFrom, operationError, or_assoc]
  | write w =>
    simp only [errorsOf, readsFrom, writesFrom, operationError, List.mem_append,
      List.filterMap_append]
    cases hpw : plannedWrite n w with
    | none => simp
    | some pw => simp [or_left_comm]

theorem errorsOf_cons_none {values : List (Option PyStr)} {h : Deferreds} {n : ℕ}
    {op : PendingOperation} {ops : List PendingOperation} (he : operationError values h n op = none) :
    errorsOf values h n (op :: ops) = errorsOf values h (n + op.texts.length) ops := by
  cases op with
  | read r =>
    simp only [operationError] at he
    simp [errorsOf, readsFrom, writesFrom, he]
  | write w =>
    simp only [operationError, Option.bind_eq_none_iff] at he
    cases hpw : plannedWrite n w with
    | none => simp [errorsOf, readsFrom, writesFrom, hpw]
    | some pw => simp [errorsOf, readsFrom, writesFrom, hpw, he pw hpw]

theorem errorsOf_index {values : List (Option PyStr)} {h : Deferreds} {n : ℕ}
    {ops : List PendingOperation} {a : ℕ × PyExc} (ha : a ∈ errorsOf values h n ops) : n ≤ a.1 := by
  induction ops generalizing n with
  | nil => cases ha
  | cons op ops ih =>
    rcases mem_errorsOf_cons.1 ha with he | ha
    · exact (operationError_index he).1
    · exact (Nat.le_add_right ..).trans (ih ha)

omit [PyText] in
/-- The values at the positions of an operation are its own responses. -/
theorem valuesAt_own (pre own post : List (Option PyStr)) :
    valuesAt (pre ++ (own ++ post)) (List.range' pre.length own.length) = own := by
  refine List.ext_getElem (by simp [valuesAt]) fun i _ hi => ?_
  simp only [valuesAt, List.getElem_map, List.getElem_range', Nat.one_mul]
  rw [List.getElem?_append_right (by omega), Nat.add_sub_cancel_left,
    List.getElem?_append_left hi, List.getElem?_eq_getElem hi, Option.getD_some]

/-- The exception of an outcome. -/
def raisedBy {α : Type} : Except PyExc α → Option PyExc
  | .ok _ => none
  | .error e => some e

/-- In a batch, an operation reports the error of its own outcome. -/
theorem operationError_own (pre post : List (Option PyStr)) {own : List (Option PyStr)}
    {h : Deferreds} {op : PendingOperation} (hlen : own.length = op.texts.length)
    (hlabel : ∀ r, op = .read r → (h r.deferred).command = SPD3000.label r.commands) :
    (operationError (pre ++ (own ++ post)) h pre.length op).map (·.2) = raisedBy (op.outcome own) := by
  cases op with
  | read r =>
    have hsize : r.commands.length = own.length := by simp [hlen, PendingOperation.texts]
    simp only [operationError, readError, readOutcome, hsize, valuesAt_own, hlabel r rfl,
      PendingOperation.outcome]
    cases parseResponses r (SPD3000.label r.commands) own <;> rfl
  | write w =>
    cases hv : w.verification with
    | none => simp [operationError, plannedWrite, hv, PendingOperation.outcome, raisedBy]
    | some v =>
      cases hb : v.readback with
      | none =>
        simp [operationError, plannedWrite, hv, hb, PendingOperation.outcome, raisedBy, writeError]
      | some readback =>
        have htwo : own.length = 2 := by
          simp [hlen, PendingOperation.texts, PendingWrite.readback, hv, hb]
        have hget : (pre ++ (own ++ post))[pre.length + 1]? = own[1]? := by
          rw [List.getElem?_append_right (by omega), List.getElem?_append_left (by omega)]
          congr 1
          omega
        simp only [operationError, plannedWrite, hv, hb, Option.map_some, Option.bind_some,
          writeError, hget, PendingOperation.outcome]
        cases checkReadback w v readback (own[1]?.getD none) <;> rfl

/-- **The reported error.**  The error with the least index is that of the first operation that
    fails on its own responses. -/
theorem raiseFirst_errorsOf (answers : ℕ → PyStr) (ops : List PendingOperation) (h : Deferreds)
    (hlabel : ∀ r, .read r ∈ ops → (h r.deferred).command = SPD3000.label r.commands)
    (pre : List (Option PyStr)) (n : ℕ) :
    raiseFirst (errorsOf (pre ++ responsesFrom answers n (textsOf ops)) h pre.length ops) =
      firstError (outcomesFrom answers n ops) := by
  induction ops generalizing pre n with
  | nil => rfl
  | cons op ops ih =>
    have htexts : textsOf (op :: ops) = op.texts ++ textsOf ops := by simp [textsOf]
    rw [htexts, responsesFrom_append]
    have hown := operationError_own pre
      (responsesFrom answers (n + queryCount op.texts) (textsOf ops))
      (length_responsesFrom answers n op.texts) fun r hr => hlabel r (by simp [hr])
    cases ho : op.outcome (responsesFrom answers n op.texts) with
    | ok v =>
      rw [ho] at hown
      have hrest := ih (fun r hr => hlabel r (by simp [hr])) (pre ++ responsesFrom answers n op.texts)
        (n + queryCount op.texts)
      rw [List.append_assoc, List.length_append, length_responsesFrom] at hrest
      rw [errorsOf_cons_none (Option.map_eq_none_iff.1 hown), hrest, outcomesFrom, ho, firstError]
    | error e =>
      rw [ho] at hown
      obtain ⟨⟨i, _⟩, hi, rfl⟩ := Option.map_eq_some_iff.1 hown
      rw [outcomesFrom, ho, firstError]
      refine raiseFirst_eq (mem_errorsOf_cons.2 (.inl hi)) fun a ha => ?_
      rcases mem_errorsOf_cons.1 ha with hsame | hlater
      · exact .inl (Option.some.inj (hsame.symm.trans hi))
      · have h1 := (operationError_index hi).2
        have h2 := errorsOf_index hlater
        exact .inr (by omega)

/-! ## Execution -/

omit [PyText] in
theorem textsOf_batch {ops : List PendingOperation} (hne : ops ≠ []) (hv : ∀ op ∈ ops, op.Valid)
    (answers : ℕ → PyStr) (s : Script) :
    ∃ batch, BatchOf ops batch ∧ (scripted answers).execute batch s =
      (.ok ⟨responsesFrom answers s.next (textsOf ops)⟩, s.after (textsOf ops)) := by
  obtain ⟨batch, hb⟩ := exists_batchOf hne hv
  refine ⟨batch, hb, ?_⟩
  rw [← (show batch.commands.map Command.sent = textsOf ops from hb)]
  rfl

/-- What the scripted executor makes of operations. -/
theorem executePending_scripted {ops : List PendingOperation} (hne : ops ≠ [])
    (hv : ∀ op ∈ ops, op.Valid) (hn : (deferredsOf ops).Nodup) (answers : ℕ → PyStr) (s : Script)
    {h : Deferreds}
    (hp : ∀ r, .read r ∈ ops → h r.deferred = .pending (SPD3000.label r.commands)) :
    ∃ h', executePending (scripted answers) ops s h =
        (firstError (outcomesFrom answers s.next ops), s.after (textsOf ops), h') ∧
      ∀ r ∈ readsFrom 0 ops, (h' r.operation.deferred).getValue =
        readOutcome (responsesFrom answers s.next (textsOf ops))
          (SPD3000.label r.operation.commands) r := by
  obtain ⟨batch, hb, hexec⟩ := textsOf_batch hne hv answers s
  obtain ⟨h', hrun, -, hown⟩ := executePending_result (scripted answers) hb hexec hn h
  have hfirst := raiseFirst_errorsOf answers ops h (fun r hr => by rw [hp r hr]; rfl) [] s.next
  refine ⟨h', ?_, fun r hr => ?_⟩
  · rw [hrun, ← hfirst]
    rfl
  · rw [hown r hr, hp r.operation (mem_of_mem_readsFrom hr)]
    exact (settle_pending ..).1

/-- The calls one by one, whatever their outcomes. -/
def callEach {ε : Type} (E : Executor ε) : List Operation → SPD3000 ε →
    List (Except PyExc Returned) × SPD3000 ε
  | [], d => ([], d)
  | op :: ops, d =>
    let (r, d) := op.call E d
    let (rs, d) := callEach E ops d
    (r :: rs, d)

/-- What a driver does not change while it executes an operation alone. -/
structure Idle (d d' : SPD3000 Script) (created : ℕ) : Prop where
  active : d'.batchActive = false
  verify : d'.shouldVerifyWrites = d.shouldVerifyWrites
  next : d'.nextDeferred = d.nextDeferred + created

/-- The execution of a single operation. -/
theorem executePending_single (answers : ℕ → PyStr) {p : PendingOperation} (hv : p.Valid)
    (s : Script) {h : Deferreds}
    (hp : ∀ r, p = .read r → h r.deferred = .pending (SPD3000.label r.commands)) :
    ∃ h', executePending (scripted answers) [p] s h =
        ((p.outcome (responsesFrom answers s.next p.texts)).map fun _ => (), s.after p.texts, h') ∧
      ∀ r, p = .read r →
        (h' r.deferred).getValue = p.outcome (responsesFrom answers s.next p.texts) := by
  have htexts : textsOf [p] = p.texts := by simp [textsOf]
  have hfirst : firstError (outcomesFrom answers s.next [p]) =
      (p.outcome (responsesFrom answers s.next p.texts)).map fun _ => () := by
    rw [outcomesFrom, outcomesFrom]
    cases p.outcome (responsesFrom answers s.next p.texts) <;> rfl
  have hn : (deferredsOf [p]).Nodup := by cases p <;> simp [deferredsOf]
  obtain ⟨h', hrun, hown⟩ := executePending_scripted (List.cons_ne_nil p []) (by simpa using hv) hn
    answers s (fun r hr => hp r (List.mem_singleton.1 hr).symm)
  rw [hfirst, htexts] at hrun
  refine ⟨h', hrun, ?_⟩
  rintro r rfl
  have hmem : ⟨r, List.range' 0 r.commands.length⟩ ∈ readsFrom 0 [.read r] := by simp [readsFrom]
  have hlen : (responsesFrom answers s.next (PendingOperation.read r).texts).length =
      r.commands.length := by simp [PendingOperation.texts]
  have hslice := valuesAt_own [] (responsesFrom answers s.next (PendingOperation.read r).texts) []
  rw [hlen, List.append_nil, List.nil_append, List.length_nil] at hslice
  rw [hown _ hmem, htexts, readOutcome]
  dsimp only
  rw [hslice, PendingOperation.outcome]

theorem outcome_write (w : PendingWrite) (own : List (Option PyStr)) :
    (PendingOperation.write w).outcome own =
      ((PendingOperation.write w).outcome own).map fun _ => .none := by
  unfold PendingOperation.outcome
  dsimp only
  split
  · rfl
  · split
    · rfl
    · split <;> rfl

/-- An operation executed alone has the outcome of its own responses. -/
theorem call_alone (answers : ℕ → PyStr) (op : Operation) (d : SPD3000 Script)
    (ha : d.batchActive = false) {p : PendingOperation}
    (hp : p = op.pending d.shouldVerifyWrites d.nextDeferred) (hv : p.Valid) :
    ∃ d', op.call (scripted answers) d =
        ((p.outcome (responsesFrom answers d.executor.next p.texts)).map .value, d') ∧
      d'.executor = d.executor.after p.texts ∧ Idle d d' op.created := by
  cases op with
  | write override command verification reason =>
    obtain ⟨h, hrun, -⟩ := executePending_single answers hv d.executor (h := d.deferreds)
      (by rintro r rfl; cases hp)
    have houtcome : p.outcome (responsesFrom answers d.executor.next p.texts) =
        (p.outcome (responsesFrom answers d.executor.next p.texts)).map fun _ => .none := by
      rw [hp]
      exact outcome_write ..
    generalize p.outcome (responsesFrom answers d.executor.next p.texts) = o at hrun houtcome
    have hreturn : (o.map fun _ => ()).map (fun _ => Returned.value .none) = o.map .value := by
      rw [houtcome]
      cases o <;> rfl
    refine ⟨{ d with
      executor := d.executor.after p.texts
      deferreds := h }, ?_, rfl, ha, rfl, rfl⟩
    cases override with
    | none =>
      have hwrite := write_alone ha (hp ▸ hrun)
      rw [Operation.call]
      dsimp only
      rw [hwrite, hreturn, ← hp]
    | some b =>
      have hscope : (d.beginVerifyWrites b).write (scripted answers) command verification reason =
          (o.map fun _ => (), { d.beginVerifyWrites b with
            executor := d.executor.after p.texts
            deferreds := h }) :=
        write_alone (d := d.beginVerifyWrites b) ha (hp ▸ hrun)
      rw [Operation.call]
      dsimp only
      rw [SPD3000.verifyWritesScope, hscope]
      simp only [SPD3000.beginVerifyWrites, SPD3000.endVerifyWrites, hreturn]
      rfl
  | read commands hne parser =>
    obtain ⟨h, hrun, hown⟩ := executePending_single answers hv d.executor
      (h := Function.update d.deferreds d.nextDeferred (.pending (SPD3000.label commands)))
      (by
        rintro r rfl
        cases hp
        exact Function.update_self ..)
    have hvalue := hown _ hp
    generalize p.outcome (responsesFrom answers d.executor.next p.texts) = o at hrun hvalue
    rw [hp, Operation.pending] at hrun
    refine ⟨{ d with
      executor := d.executor.after p.texts
      deferreds := h
      nextDeferred := d.nextDeferred + 1 }, ?_, rfl, ha, rfl, rfl⟩
    rw [hp, Operation.call, read_alone ha hrun, hvalue]
    cases o <;> rfl

/-- Calls one by one: each has the outcome of its own responses. -/
theorem callEach_spec (answers : ℕ → PyStr) (ops : List Operation) (d : SPD3000 Script)
    (ha : d.batchActive = false) (hv : ∀ p ∈ d.collects ops, p.Valid) :
    ∃ d', callEach (scripted answers) ops d =
        ((outcomesFrom answers d.executor.next (d.collects ops)).map (·.map .value), d') ∧
      d'.executor = d.executor.after (textsOf (d.collects ops)) := by
  induction ops generalizing d with
  | nil => exact ⟨d, rfl, by simp [Script.after, pendingFrom, textsOf, queryCount]⟩
  | cons op ops ih =>
    have hcons : d.collects (op :: ops) = op.pending d.shouldVerifyWrites d.nextDeferred ::
        pendingFrom d.shouldVerifyWrites (d.nextDeferred + op.created) ops := rfl
    rw [hcons] at hv ⊢
    obtain ⟨d', hop, hexec, hidle⟩ := call_alone answers op d ha rfl (hv _ List.mem_cons_self)
    have hrest : d'.collects ops =
        pendingFrom d.shouldVerifyWrites (d.nextDeferred + op.created) ops := by
      rw [SPD3000.collects, hidle.verify, hidle.next]
    obtain ⟨d'', hops, hexec'⟩ := ih d' hidle.active fun p hp =>
      hv p (List.mem_cons_of_mem _ (hrest ▸ hp))
    rw [hrest, hexec] at hops hexec'
    refine ⟨d'', ?_, ?_⟩
    · simp only [callEach, hop, hops, outcomesFrom, List.map_cons]
      rfl
    · rw [hexec', ← Script.after_append]
      simp [textsOf]

/-- In a batch, a read finds its own responses. -/
theorem mem_zip_outcomes (answers : ℕ → PyStr) (verify : Bool) (ops : List Operation) (j : ℕ)
    (pre : List (Option PyStr)) (n : ℕ) {i : ℕ} {o : Except PyExc PyVal}
    (hmem : (Returned.deferred i, o) ∈
      (collectedFrom j ops).zip (outcomesFrom answers n (pendingFrom verify j ops))) :
    ∃ p ∈ readsFrom pre.length (pendingFrom verify j ops), p.operation.deferred = i ∧
      readOutcome (pre ++ responsesFrom answers n (textsOf (pendingFrom verify j ops)))
        (SPD3000.label p.operation.commands) p = o := by
  induction ops generalizing j pre n with
  | nil => cases hmem
  | cons op ops ih =>
    have htexts : ∀ q qs, textsOf (q :: qs) = q.texts ++ textsOf qs := by simp [textsOf]
    rw [pendingFrom, htexts, responsesFrom_append]
    rw [pendingFrom, collectedFrom, outcomesFrom, List.zip_cons_cons, List.mem_cons] at hmem
    rcases hmem with hhead | htail
    · obtain ⟨hi, ho⟩ := Prod.mk.inj hhead
      cases op with
      | write => cases hi
      | read commands hne parser =>
        cases hi
        refine ⟨_, List.mem_cons_self, rfl, ?_⟩
        have hlen : commands.length = (responsesFrom answers n
            (Operation.pending verify i (.read commands hne parser)).texts).length := by
          simp [Operation.pending, PendingOperation.texts]
        rw [ho, readOutcome]
        dsimp only
        rw [hlen, valuesAt_own]
        rfl
    · obtain ⟨p, hp, hid, hread⟩ := ih _ (pre ++ responsesFrom answers n (op.pending verify j).texts)
        _ htail
      rw [List.length_append, length_responsesFrom] at hp
      rw [List.append_assoc] at hread
      refine ⟨p, ?_, hid, hread⟩
      cases op with
      | write => exact hp
      | read => exact List.mem_cons_of_mem _ hp

omit [PyText] in
theorem firstError_map {α β : Type} (f : α → β) (os : List (Except PyExc α)) :
    firstError (os.map (·.map f)) = firstError os := by
  induction os with
  | nil => rfl
  | cons o os ih =>
    cases o with
    | error e => rfl
    | ok v => exact ih

/-- A batch sends the texts of its operations in order, raises the first exception among their
    outcomes, and resolves each read to its own outcome. -/
theorem batchScope_spec (answers : ℕ → PyStr) (d : SPD3000 Script) (ha : d.batchActive = false)
    (ops : List Operation) (hv : ∀ p ∈ d.collects ops, p.Valid) :
    let outcomes := outcomesFrom answers d.executor.next (d.collects ops)
    let batch := d.batchScope (scripted answers) (scopeBody (scripted answers) ops none)
    batch.2.executor = d.executor.after (textsOf (d.collects ops)) ∧
      batch.1.map (fun _ => ()) = firstError outcomes ∧
      ∀ i o, (Returned.deferred i, o) ∈ (collectedFrom d.nextDeferred ops).zip outcomes →
        (batch.2.deferreds i).getValue = o := by
  dsimp only
  by_cases hne : ops = []
  · subst hne
    rw [batchScope_empty ha]
    refine ⟨?_, rfl, fun i o hmem => nomatch hmem⟩
    simp [SPD3000.left, Script.after, pendingFrom, textsOf, queryCount]
  · obtain ⟨h, hc, herr, hok⟩ := batchScope_completed (E := scripted answers) ha hne
    have hpending : d.collects ops ≠ [] := by
      cases ops with
      | nil => exact absurd rfl hne
      | cons op ops => simp [pendingFrom]
    have hnodup : (deferredsOf (d.collects ops)).Nodup := by
      rw [deferredsOf_pendingFrom]
      exact List.nodup_range'
    obtain ⟨h', hrun, hown⟩ := executePending_scripted hpending hv hnodup answers d.executor
      (h := h) hc.created
    have hread : ∀ i o, (Returned.deferred i, o) ∈ (collectedFrom d.nextDeferred ops).zip
        (outcomesFrom answers d.executor.next (d.collects ops)) → (h' i).getValue = o := by
      intro i o hmem
      obtain ⟨p, hp, rfl, ho⟩ := mem_zip_outcomes answers _ ops _ [] _ hmem
      rw [hown p hp]
      exact ho
    cases hfirst : firstError (outcomesFrom answers d.executor.next (d.collects ops)) with
    | error e =>
      rw [hfirst] at hrun
      rw [herr e _ h' hrun]
      exact ⟨rfl, rfl, hread⟩
    | ok _ =>
      rw [hfirst] at hrun
      have hex := executePending_spec (scripted answers) hpending hnodup d.executor h
      rw [hrun] at hex
      obtain ⟨vs, hvs⟩ := hex.values hc.awaiting
      rw [hok _ h' vs hrun hvs]
      exact ⟨rfl, rfl, hread⟩

/-- **A batch is equivalent to immediate execution.**  One by one, the operations send their
    texts in order and each has the outcome of its own responses.  With the same responses, a
    batch sends what its operations send one by one, raises the first exception among them, and
    resolves each read to what it returns alone. -/
theorem batch_equivalent (answers : ℕ → PyStr) (d : SPD3000 Script) (ha : d.batchActive = false)
    (ops : List Operation) (hv : ∀ p ∈ d.collects ops, p.Valid) :
    let alone := callEach (scripted answers) ops d
    let batch := d.batchScope (scripted answers) (scopeBody (scripted answers) ops none)
    alone.2.executor = d.executor.after (textsOf (d.collects ops)) ∧
      alone.1 = (outcomesFrom answers d.executor.next (d.collects ops)).map (·.map .value) ∧
      batch.2.executor = alone.2.executor ∧
      batch.1.map (fun _ => ()) = firstError alone.1 ∧
      ∀ i outcome, (Returned.deferred i, outcome) ∈ (collectedFrom d.nextDeferred ops).zip alone.1 →
        (batch.2.deferreds i).getValue.map .value = outcome := by
  obtain ⟨d', halone, hexec⟩ := callEach_spec answers ops d ha hv
  obtain ⟨hsent, hraised, hread⟩ := batchScope_spec answers d ha ops hv
  rw [halone]
  refine ⟨hexec, rfl, hsent.trans hexec.symm, ?_, ?_⟩
  · dsimp only
    rw [hraised, firstError_map]
  · intro i outcome hmem
    dsimp only at hmem
    rw [List.zip_map_right] at hmem
    obtain ⟨⟨_, o⟩, hmem', heq⟩ := List.mem_map.1 hmem
    cases heq
    exact congrArg _ (hread i o hmem')

end

/-! ## A verified write and a read -/

/-- The write `CH1:VOLT 1` with its readback, and a query of the current. -/
def voltageAndCurrent : List Operation :=
  [.write none "CH1:VOLT 1" (some ⟨some ⟨"CH1:VOLT?", rawResponse⟩, .str "1", none⟩) none,
    scpiQuery "CH1:CURR?"]

def scriptDriver : SPD3000 Script := .make ⟨[], 0⟩ true

theorem voltageAndCurrent_valid :
    ∀ p ∈ scriptDriver.collects voltageAndCurrent, p.Valid := by
  intro p hp c hc
  rcases List.mem_cons.1 hp with rfl | hp
  · rcases List.mem_cons.1 hc with rfl | hc
    · exact (by decide : ValidCommand (lit "CH1:VOLT 1"))
    · obtain rfl := List.mem_singleton.1 hc
      exact (by decide : ValidCommand (lit "CH1:VOLT?"))
  · obtain rfl := List.mem_singleton.1 hp
    obtain rfl := List.mem_singleton.1 hc
    exact (by decide : ValidCommand (lit "CH1:CURR?"))

theorem voltage_batch_sent :
    (@SPD3000.batchScope _ _ PyText.blank (scripted fun _ => "1")
      (@scopeBody _ PyText.blank (scripted fun _ => "1") voltageAndCurrent none)
      scriptDriver).2.executor =
    ⟨[(false, "CH1:VOLT 1"), (true, "CH1:VOLT?"), (true, "CH1:CURR?")], 2⟩ := by
  obtain ⟨halone, -, hbatch, -⟩ := @batch_equivalent PyText.blank (fun _ => "1") scriptDriver rfl
    voltageAndCurrent voltageAndCurrent_valid
  rw [hbatch, halone]
  rfl

end Spd3000
