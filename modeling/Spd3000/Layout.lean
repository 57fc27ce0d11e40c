/-
  What `executePending` does, operation by operation.

  The commands of a batch are those of its operations one after the other
  (`Operation.texts`), so an operation at offset `n` reads its responses from
  there on: `readsFrom` and `writesFrom` are the tables of positions, and
  `plan_valid` says that the first loop builds exactly these.  `settleReads_spec`
  and `verifyWrites_spec` describe the loops over the results for positions in
  range.
-/
import Spd3000.Pending

namespace Spd3000

/-! ## The commands of an operation -/

/-- The kind and the text of a command. -/
def Command.sent (c : Command) : Bool × PyStr := (c.isQuery, c.text)

theorem Command.sent_injective : Function.Injective Command.sent := by
  rintro (⟨t, ht⟩ | ⟨t, ht⟩) (⟨u, hu⟩ | ⟨u, hu⟩) h <;>
    simp only [Command.sent, Command.isQuery, Command.text, Prod.mk.injEq, Bool.false_eq_true,
      Bool.true_eq_false, false_and, true_and] at h
  · subst h; rfl
  · subst h; rfl

/-- The readback of a write that is to be verified and can be. -/
def PendingWrite.readback (w : PendingWrite) : Option Readback := w.verification.bind (·.readback)

namespace PendingOperation

/-- The commands that an operation sends. -/
def texts : PendingOperation → List (Bool × PyStr)
  | read r => r.commands.map (true, ·)
  | write w => (false, w.command) :: w.readback.toList.map fun readback => (true, readback.query)

def Valid (op : PendingOperation) : Prop := ∀ c ∈ op.texts, ValidCommand c.2

end PendingOperation

/-- The positions of the reads, if the first operation starts at offset `n`. -/
def readsFrom : ℕ → List PendingOperation → List PlannedRead
  | _, [] => []
  | n, op :: ops => match op with
    | .read r => ⟨r, List.range' n r.commands.length⟩ :: readsFrom (n + op.texts.length) ops
    | .write _ => readsFrom (n + op.texts.length) ops

/-- The positions of a write and its readback. -/
def plannedWrite (n : ℕ) (w : PendingWrite) : Option PlannedWrite :=
  w.verification.map fun v => ⟨w, v, n, v.readback.map fun _ => n + 1⟩

theorem plannedWrite_eq_some {n : ℕ} {w : PlannedWrite} (h : plannedWrite n w.operation = some w) :
    w.operation.verification = some w.verification ∧ w.writeIndex = n ∧
      w.queryIndex = w.verification.readback.map fun _ => n + 1 := by
  obtain ⟨v, hv, he⟩ := Option.map_eq_some_iff.1 h
  obtain ⟨op, v', n', q⟩ := w
  cases he
  exact ⟨hv, rfl, rfl⟩

/-- The positions of the verified writes, if the first operation starts at offset `n`. -/
def writesFrom : ℕ → List PendingOperation → List PlannedWrite
  | _, [] => []
  | n, op :: ops => match op with
    | .read _ => writesFrom (n + op.texts.length) ops
    | .write w => (plannedWrite n w).toList ++ writesFrom (n + op.texts.length) ops

/-! ## Planning -/

/-- The plan that results from adding operations to a plan. -/
structure Plan.Extends (p : Plan) (ops : List PendingOperation) (p' : Plan) : Prop where
  commands : p'.commands.map Command.sent =
    p.commands.map Command.sent ++ ops.flatMap PendingOperation.texts
  reads : p'.reads = p.reads ++ readsFrom p.commands.length ops
  verifications : p'.verifications = p.verifications ++ writesFrom p.commands.length ops

theorem Plan.Extends.length {p p' : Plan} {ops : List PendingOperation} (h : p.Extends ops p') :
    p'.commands.length = p.commands.length + (ops.flatMap PendingOperation.texts).length := by
  have := congrArg List.length h.commands
  simpa using this

theorem addQuery_valid {text : PyStr} (h : ValidCommand text) (p : Plan) :
    p.addQuery text = .ok { p with commands := p.commands ++ [.query ⟨text, h⟩] } := by
  rw [Plan.addQuery, validatedCommand_valid h]; rfl

theorem addWrite_valid {text : PyStr} (h : ValidCommand text) (p : Plan) :
    p.addWrite text = .ok { p with commands := p.commands ++ [.write ⟨text, h⟩] } := by
  rw [Plan.addWrite, validatedCommand_valid h]; rfl

theorem addQuery_invalid {text : PyStr} (h : ¬ ValidCommand text) (p : Plan) :
    ∃ e, p.addQuery text = .error e ∧ e.cls = .spd3000ValidationError := by
  obtain ⟨e, he, hc⟩ := validatedCommand_invalid h
  exact ⟨e, by rw [Plan.addQuery, he]; rfl, hc⟩

theorem addWrite_invalid {text : PyStr} (h : ¬ ValidCommand text) (p : Plan) :
    ∃ e, p.addWrite text = .error e ∧ e.cls = .spd3000ValidationError := by
  obtain ⟨e, he, hc⟩ := validatedCommand_invalid h
  exact ⟨e, by rw [Plan.addWrite, he]; rfl, hc⟩

theorem addQueries_valid {texts : List PyStr} (h : ∀ t ∈ texts, ValidCommand t) (p : Plan) :
    ∃ p', Plan.addQueries texts p = .ok (List.range' p.commands.length texts.length, p') ∧
      p'.commands.map Command.sent = p.commands.map Command.sent ++ texts.map (true, ·) ∧
      p'.reads = p.reads ∧ p'.verifications = p.verifications := by
  induction texts generalizing p with
  | nil => exact ⟨p, rfl, by simp, rfl, rfl⟩
  | cons t texts ih =>
    have ht := h t (by simp)
    obtain ⟨p', hp', hc, hr, hv⟩ := ih (fun u hu => h u (by simp [hu]))
      { p with commands := p.commands ++ [.query ⟨t, ht⟩] }
    refine ⟨p', ?_, by rw [hc]; simp [Command.sent, Command.isQuery, Command.text], hr, hv⟩
    rw [Plan.addQueries, addQuery_valid ht]
    dsimp only
    rw [hp', List.length_append]
    rfl

theorem addQueries_invalid {texts : List PyStr} (h : ¬ ∀ t ∈ texts, ValidCommand t) (p : Plan) :
    ∃ e, Plan.addQueries texts p = .error e ∧ e.cls = .spd3000ValidationError := by
  induction texts generalizing p with
  | nil => simp at h
  | cons t texts ih =>
    rw [Plan.addQueries]
    by_cases ht : ValidCommand t
    · obtain ⟨e, he, hc⟩ := ih (fun hall => h (by simpa [ht] using hall))
        { p with commands := p.commands ++ [.query ⟨t, ht⟩] }
      exact ⟨e, by rw [addQuery_valid ht]; dsimp only; rw [he], hc⟩
    · obtain ⟨e, he, hc⟩ := addQuery_invalid ht p
      exact ⟨e, by rw [he], hc⟩

theorem add_valid {op : PendingOperation} (h : op.Valid) (p : Plan) :
    ∃ p', p.add op = .ok p' ∧ p.Extends [op] p' := by
  cases op with
  | read r =>
    obtain ⟨p', hp', hc, hr, hv⟩ := addQueries_valid
      (fun t ht => h (true, t) (List.mem_map_of_mem ht)) p
    refine ⟨_, by rw [Plan.add, hp'], ⟨?_, ?_, ?_⟩⟩
    · simpa [PendingOperation.texts] using hc
    · simp [hr, readsFrom]
    · simp [hv, writesFrom]
  | write w =>
    have hw : ValidCommand w.command := h (false, w.command) (by simp [PendingOperation.texts])
    simp only [Plan.add, Plan.addVerifiedWrite, addWrite_valid hw]
    cases hv : w.verification with
    | none =>
      refine ⟨_, rfl, ⟨?_, ?_, ?_⟩⟩
      · simp [PendingOperation.texts, PendingWrite.readback, hv, Command.sent, Command.isQuery,
          Command.text]
      · simp [readsFrom]
      · simp [writesFrom, plannedWrite, hv]
    | some v =>
      cases hb : v.readback with
      | none =>
        dsimp only
        rw [hb]
        refine ⟨_, rfl, ⟨?_, ?_, ?_⟩⟩
        · simp [PendingOperation.texts, PendingWrite.readback, hv, hb, Command.sent,
            Command.isQuery, Command.text]
        · simp [readsFrom]
        · simp [writesFrom, plannedWrite, hv, hb]
      | some readback =>
        have hq : ValidCommand readback.query := h (true, readback.query) (by
          simp [PendingOperation.texts, PendingWrite.readback, hv, hb])
        dsimp only
        rw [hb]
        dsimp only
        rw [addQuery_valid hq]
        refine ⟨_, rfl, ⟨?_, ?_, ?_⟩⟩
        · simp [PendingOperation.texts, PendingWrite.readback, hv, hb, Command.sent,
            Command.isQuery, Command.text]
        · simp [readsFrom]
        · simp [writesFrom, plannedWrite, hv, hb]

theorem add_invalid {op : PendingOperation} (h : ¬ op.Valid) (p : Plan) :
    ∃ e, p.add op = .error e ∧ e.cls = .spd3000ValidationError := by
  cases op with
  | read r =>
    have hr : ¬ ∀ t ∈ r.commands, ValidCommand t := by
      intro hall
      refine h fun c hc => ?_
      obtain ⟨t, ht, rfl⟩ := List.mem_map.1 hc
      exact hall t ht
    obtain ⟨e, he, hc⟩ := addQueries_invalid hr p
    exact ⟨e, by rw [Plan.add, he], hc⟩
  | write w =>
    by_cases hw : ValidCommand w.command
    · obtain ⟨v, readback, hv, hb, hq⟩ : ∃ v readback, w.verification = some v ∧
          v.readback = some readback ∧ ¬ ValidCommand readback.query := by
        by_contra hno
        refine h fun c hc => ?_
        rcases List.mem_cons.1 hc with rfl | hc
        · exact hw
        · obtain ⟨readback, hr, rfl⟩ := List.mem_map.1 hc
          obtain ⟨v, hv, hb⟩ := Option.bind_eq_some_iff.1 (Option.mem_toList.1 hr)
          by_contra hq
          exact hno ⟨v, readback, hv, hb, hq⟩
      obtain ⟨e, he, hc⟩ := addQuery_invalid hq
        { p with commands := p.commands ++ [.write ⟨w.command, hw⟩] }
      refine ⟨e, ?_, hc⟩
      simp only [Plan.add, Plan.addVerifiedWrite, addWrite_valid hw, hv, hb, he]
    · obtain ⟨e, he, hc⟩ := addWrite_invalid hw p
      exact ⟨e, by rw [Plan.add, Plan.addVerifiedWrite, he], hc⟩

theorem Plan.Extends.cons {p p' p'' : Plan} {op : PendingOperation} {ops : List PendingOperation}
    (h : p.Extends [op] p') (h' : p'.Extends ops p'') : p.Extends (op :: ops) p'' where
  commands := by rw [h'.commands, h.commands]; simp
  reads := by
    rw [h'.reads, h.reads, h.length, List.append_assoc]
    cases op <;> simp [readsFrom]
  verifications := by
    rw [h'.verifications, h.verifications, h.length, List.append_assoc]
    cases op <;> simp [writesFrom]

/-- The first loop, when all texts are valid commands. -/
theorem plan_valid {ops : List PendingOperation} (h : ∀ op ∈ ops, op.Valid) (p : Plan) :
    ∃ p', plan ops p = .ok p' ∧ p.Extends ops p' := by
  induction ops generalizing p with
  | nil => exact ⟨p, rfl, ⟨by simp, by simp [readsFrom], by simp [writesFrom]⟩⟩
  | cons op ops ih =>
    obtain ⟨p', hp', he⟩ := add_valid (h op (by simp)) p
    obtain ⟨p'', hp'', he'⟩ := ih (fun op' h' => h op' (by simp [h'])) p'
    exact ⟨p'', by rw [plan, hp']; exact hp'', he.cons he'⟩

/-- The first loop, when some text is not a valid command. -/
theorem plan_invalid {ops : List PendingOperation} (h : ¬ ∀ op ∈ ops, op.Valid) (p : Plan) :
    ∃ e, plan ops p = .error e ∧ e.cls = .spd3000ValidationError := by
  induction ops generalizing p with
  | nil => simp at h
  | cons op ops ih =>
    rw [plan]
    by_cases hop : op.Valid
    · obtain ⟨p', hp', -⟩ := add_valid hop p
      obtain ⟨e, he, hc⟩ := ih (fun hall => h (by simpa [hop] using hall)) p'
      exact ⟨e, by rw [hp']; exact he, hc⟩
    · obtain ⟨e, he, hc⟩ := add_invalid hop p
      exact ⟨e, by rw [he], hc⟩

/-- The commands of a batch of operations. -/
def textsOf (ops : List PendingOperation) : List (Bool × PyStr) := ops.flatMap PendingOperation.texts

theorem texts_ne_nil (op : PendingOperation) : op.texts ≠ [] := by
  cases op with
  | read r => simpa [PendingOperation.texts] using r.nonempty
  | write w => simp [PendingOperation.texts]

/-- The plan of a batch of operations. -/
structure Planned (ops : List PendingOperation) (p : Plan) : Prop where
  plan : plan ops .empty = .ok p
  commands : p.commands.map Command.sent = textsOf ops
  reads : p.reads = readsFrom 0 ops
  verifications : p.verifications = writesFrom 0 ops

theorem exists_planned {ops : List PendingOperation} (h : ∀ op ∈ ops, op.Valid) :
    ∃ p, Planned ops p := by
  obtain ⟨p, hp, he⟩ := plan_valid h .empty
  exact ⟨p, hp, by simpa [Plan.empty, textsOf] using he.commands, by simpa [Plan.empty] using he.reads,
    by simpa [Plan.empty] using he.verifications⟩

theorem Planned.length {ops : List PendingOperation} {p : Plan} (h : Planned ops p) :
    p.commands.length = (textsOf ops).length := by
  simpa using congrArg List.length h.commands

/-- The batch handed to the executor consists of the commands of the operations. -/
def BatchOf (ops : List PendingOperation) (batch : CommandBatch) : Prop :=
  batch.commands.map Command.sent = textsOf ops

theorem BatchOf.valid {ops : List PendingOperation} {batch : CommandBatch} (h : BatchOf ops batch) :
    ∀ op ∈ ops, op.Valid := by
  intro op hop c hc
  have hmem : c ∈ batch.commands.map Command.sent := h ▸ List.mem_flatMap_of_mem hop hc
  obtain ⟨command, -, rfl⟩ := List.mem_map.1 hmem
  exact command.valid

theorem BatchOf.planned {ops : List PendingOperation} {batch : CommandBatch}
    (h : BatchOf ops batch) : ∃ p, Planned ops p ∧ p.commands = batch.commands := by
  obtain ⟨p, hp⟩ := exists_planned h.valid
  exact ⟨p, hp, Command.sent_injective.list_map (hp.commands.trans h.symm)⟩

theorem exists_batchOf {ops : List PendingOperation} (hne : ops ≠ []) (h : ∀ op ∈ ops, op.Valid) :
    ∃ batch, BatchOf ops batch := by
  obtain ⟨p, hp⟩ := exists_planned h
  have hcommands : p.commands ≠ [] := by
    intro hnil
    have hlen := hp.length
    cases ops with
    | nil => exact hne rfl
    | cons op ops =>
      have := List.length_pos_iff.2 (texts_ne_nil op)
      simp only [hnil, textsOf, List.flatMap_cons, List.length_nil, List.length_append] at hlen
      omega
  exact ⟨⟨p.commands, hcommands⟩, hp.commands⟩

/-- The body of the `try` statement is the call of the executor. -/
theorem executePlan_eq {ε : Type} (E : Executor ε) {p : Plan} {batch : CommandBatch}
    (h : p.commands = batch.commands) (x : ε) : executePlan E p x = E.execute batch x := by
  obtain ⟨commands, hne⟩ := batch
  subst h
  unfold executePlan CommandBatch.make
  rw [dif_neg hne]

/-! ## Positions -/

/-- The deferred results of the reads, in order. -/
def deferredsOf (ops : List PendingOperation) : List ℕ :=
  ops.filterMap fun | .read r => some r.deferred | .write _ => none

theorem readsFrom_deferreds (n : ℕ) (ops : List PendingOperation) :
    (readsFrom n ops).map (·.operation.deferred) = deferredsOf ops := by
  induction ops generalizing n with
  | nil => rfl
  | cons op ops ih => cases op <;> simp [readsFrom, deferredsOf, ih]

theorem readsFrom_range {n : ℕ} {ops : List PendingOperation} {r : PlannedRead}
    (hr : r ∈ readsFrom n ops) : ∀ i ∈ r.indexes, n ≤ i ∧ i < n + (textsOf ops).length := by
  induction ops generalizing n with
  | nil => simp [readsFrom] at hr
  | cons op ops ih =>
    have hlen : (textsOf (op :: ops)).length = op.texts.length + (textsOf ops).length := by
      simp [textsOf]
    intro i hi
    cases op with
    | read r' =>
      rcases List.mem_cons.1 hr with rfl | hr
      · have hsize : (PendingOperation.read r').texts.length = r'.commands.length := by
          simp [PendingOperation.texts]
        rw [List.mem_range'_1] at hi
        omega
      · have := ih hr i hi
        omega
    | write w =>
      have := ih hr i hi
      omega

/-- The verified writes stand where their operations do. -/
theorem mem_writesFrom {n : ℕ} {ops : List PendingOperation} {w : PlannedWrite} :
    w ∈ writesFrom n ops ↔ ∃ pre post, ops = pre ++ .write w.operation :: post ∧
      plannedWrite (n + (textsOf pre).length) w.operation = some w := by
  have hop : ∀ {m w'}, plannedWrite m w' = some w → w.operation = w' := by
    intro m w' h
    obtain ⟨v, -, rfl⟩ := Option.map_eq_some_iff.1 h
    rfl
  induction ops generalizing n with
  | nil => simp [writesFrom]
  | cons op ops ih =>
    have htail : (∃ pre post, ops = pre ++ .write w.operation :: post ∧
        plannedWrite (n + op.texts.length + (textsOf pre).length) w.operation = some w) →
        ∃ pre post, op :: ops = pre ++ .write w.operation :: post ∧
          plannedWrite (n + (textsOf pre).length) w.operation = some w := by
      rintro ⟨pre, post, rfl, h⟩
      exact ⟨op :: pre, post, rfl, by simpa [textsOf, Nat.add_assoc] using h⟩
    have hcons : ∀ {pre post}, op :: ops = pre ++ PendingOperation.write w.operation :: post →
        plannedWrite (n + (textsOf pre).length) w.operation = some w →
        (op = .write w.operation ∧ plannedWrite n w.operation = some w) ∨
        ∃ pre post, ops = pre ++ .write w.operation :: post ∧
          plannedWrite (n + op.texts.length + (textsOf pre).length) w.operation = some w := by
      intro pre post h hw
      cases pre with
      | nil => cases h; exact .inl ⟨rfl, hw⟩
      | cons op' pre =>
        cases h
        exact .inr ⟨pre, post, rfl, by simpa [textsOf, Nat.add_assoc] using hw⟩
    cases op with
    | read r =>
      have ih' := @ih (n + (PendingOperation.read r).texts.length)
      refine ih'.trans ⟨htail, fun ⟨pre, post, h, hw⟩ => ?_⟩
      rcases hcons h hw with ⟨h, -⟩ | h
      · cases h
      · exact h
    | write w' =>
      have ih' := @ih (n + (PendingOperation.write w').texts.length)
      refine (List.mem_append.trans (or_congr Option.mem_toList ih')).trans ?_
      constructor
      · rintro (h | h)
        · obtain rfl := hop h
          exact ⟨[], ops, rfl, h⟩
        · exact htail h
      · rintro ⟨pre, post, h, hw⟩
        rcases hcons h hw with ⟨h, hw⟩ | h
        · cases h; exact .inl hw
        · exact .inr h

/-! ## The loops over the results -/

section
variable [PyText]

omit [PyText] in
@[simp] theorem Deferreds.modify_self (h : Deferreds) (i : ℕ) (f : Deferred → Deferred) :
    h.modify i f i = f (h i) := Function.update_self ..

omit [PyText] in
theorem Deferreds.modify_of_ne (h : Deferreds) {i j : ℕ} (hij : j ≠ i) (f : Deferred → Deferred) :
    h.modify i f j = h j := Function.update_of_ne hij ..

/-- The values at the positions of a read. -/
def valuesAt (values : List (Option PyStr)) (indexes : List ℕ) : List (Option PyStr) :=
  indexes.map fun i => (values[i]?).getD none

omit [PyText] in
theorem mapM_valueAt {values : List (Option PyStr)} {indexes : List ℕ}
    (h : ∀ i ∈ indexes, i < values.length) :
    indexes.mapM (valueAt values) = .ok (valuesAt values indexes) := by
  induction indexes with
  | nil => rfl
  | cons i is ih =>
    have hi : valueAt values i = .ok ((values[i]?).getD none) := by
      rw [valueAt, List.getElem?_eq_getElem (h i (by simp))]; rfl
    rw [List.mapM_cons, hi, ih fun j hj => h j (by simp [hj])]
    rfl

/-- What a read makes of the values at its positions. -/
def readOutcome (values : List (Option PyStr)) (label : PyStr) (r : PlannedRead) :
    Except PyExc PyVal :=
  parseResponses r.operation label (valuesAt values r.indexes)

/-- The entry of a read in `deferred_errors`. -/
def readError (values : List (Option PyStr)) (h : Deferreds) (r : PlannedRead) :
    Option (ℕ × PyExc) :=
  match readOutcome values (h r.operation.deferred).command r with
  | .ok _ => none
  | .error e => some (r.indexes.headD 0, e)

/-- The loop over the reads: each deferred result gets its own outcome, the others stay. -/
theorem settleReads_spec (values : List (Option PyStr)) (rs : List PlannedRead)
    (hidx : ∀ r ∈ rs, ∀ i ∈ r.indexes, i < values.length)
    (hnodup : (rs.map (·.operation.deferred)).Nodup) (h : Deferreds) :
    ∃ h', settleReads values rs h = (.ok (rs.filterMap (readError values h)), h') ∧
      (∀ i ∉ rs.map (·.operation.deferred), h' i = h i) ∧
      ∀ r ∈ rs, h' r.operation.deferred =
        settle (readOutcome values (h r.operation.deferred).command r) (h r.operation.deferred) := by
  induction rs generalizing h with
  | nil => exact ⟨h, rfl, fun _ _ => rfl, fun r hr => absurd hr (List.not_mem_nil)⟩
  | cons r rs ih =>
    rw [List.map_cons, List.nodup_cons] at hnodup
    have hne : ∀ r' ∈ rs, r'.operation.deferred ≠ r.operation.deferred := fun r' hr' he =>
      hnodup.1 (he ▸ List.mem_map_of_mem hr')
    obtain ⟨h', hrun, hother, hown⟩ := ih (fun r' hr' => hidx r' (by simp [hr'])) hnodup.2
      (h.modify r.operation.deferred (settle (readOutcome values (h r.operation.deferred).command r)))
    have herr : rs.filterMap (readError values (h.modify r.operation.deferred
        (settle (readOutcome values (h r.operation.deferred).command r)))) =
        rs.filterMap (readError values h) := by
      refine List.filterMap_congr fun r' hr' => ?_
      rw [readError, readError, Deferreds.modify_of_ne _ (hne r' hr')]
    rw [herr] at hrun
    refine ⟨h', ?_, fun i hi => ?_, fun r' hr' => ?_⟩
    · rw [settleReads, mapM_valueAt (hidx r (by simp))]
      have hout : parseResponses r.operation (h r.operation.deferred).command
          (valuesAt values r.indexes) = readOutcome values (h r.operation.deferred).command r := rfl
      simp only [hout, hrun, List.filterMap_cons, readError]
      cases readOutcome values (h r.operation.deferred).command r <;> rfl
    · rw [List.map_cons, List.mem_cons, not_or] at hi
      rw [hother i hi.2, Deferreds.modify_of_ne _ hi.1]
    · rcases List.mem_cons.1 hr' with rfl | hr'
      · rw [hother _ hnodup.1, Deferreds.modify_self]
      · rw [hown r' hr', Deferreds.modify_of_ne _ (hne r' hr')]

/-- The entry of a verified write in `verification_errors`. -/
def writeError (values : List (Option PyStr)) (w : PlannedWrite) : Option (ℕ × PyExc) :=
  match w.queryIndex, w.verification.readback with
  | some i, some readback =>
    (checkReadback w.operation w.verification readback ((values[i]?).getD none)).map fun e => (i, e)
  | _, _ => some (w.writeIndex, unverifiable w.operation w.verification)

/-- A planned write has a position for its readback if it has a readback. -/
def PlannedWrite.Wf (w : PlannedWrite) : Prop :=
  w.queryIndex.isSome = w.verification.readback.isSome

theorem verifyWrites_spec {values : List (Option PyStr)} {ws : List PlannedWrite}
    (hidx : ∀ w ∈ ws, ∀ i ∈ w.queryIndex, i < values.length) (hwf : ∀ w ∈ ws, w.Wf) :
    verifyWrites values ws = .ok (ws.filterMap (writeError values)) := by
  induction ws with
  | nil => rfl
  | cons w ws ih =>
    have hw : verifyWrite values w = .ok (writeError values w) := by
      have h := hwf w (by simp)
      unfold verifyWrite writeError
      cases hi : w.queryIndex with
      | none => rfl
      | some i =>
        obtain ⟨readback, hb⟩ : ∃ readback, w.verification.readback = some readback := by
          rw [PlannedWrite.Wf, hi] at h
          exact Option.isSome_iff_exists.1 h.symm
        have hlt := hidx w (by simp) i hi
        simp only [valueAt, List.getElem?_eq_getElem hlt, hb]
        rfl
    rw [verifyWrites, hw, ih (fun w' h' => hidx w' (by simp [h'])) fun w' h' => hwf w' (by simp [h'])]
    cases he : writeError values w <;> simp [Except.map, he]

/-! ## The whole function -/

omit [PyText] in
theorem writesFrom_range {ops : List PendingOperation} {w : PlannedWrite}
    (hw : w ∈ writesFrom 0 ops) : ∀ i ∈ w.queryIndex, i < (textsOf ops).length := by
  obtain ⟨pre, post, rfl, hpl⟩ := mem_writesFrom.1 hw
  obtain ⟨hv, -, hq⟩ := plannedWrite_eq_some hpl
  intro i hi
  rw [hq, Option.mem_def, Option.map_eq_some_iff] at hi
  obtain ⟨readback, hb, rfl⟩ := hi
  simp only [textsOf, List.flatMap_append, List.flatMap_cons, List.length_append,
    PendingOperation.texts, PendingWrite.readback, hv, Option.bind_some, hb, Option.toList_some,
    List.map_cons, List.map_nil, List.length_cons, List.length_nil]
  omega

omit [PyText] in
theorem writesFrom_wf {ops : List PendingOperation} {w : PlannedWrite}
    (hw : w ∈ writesFrom 0 ops) : w.Wf := by
  obtain ⟨pre, post, -, hpl⟩ := mem_writesFrom.1 hw
  obtain ⟨-, -, hq⟩ := plannedWrite_eq_some hpl
  rw [PlannedWrite.Wf, hq, Option.isSome_map]

/-- The lists `deferred_errors` and `verification_errors`. -/
def errorsOf (values : List (Option PyStr)) (h : Deferreds) (n : ℕ) (ops : List PendingOperation) :
    List (ℕ × PyExc) :=
  (readsFrom n ops).filterMap (readError values h) ++
    (writesFrom n ops).filterMap (writeError values)

/-- The exception raised for a list of errors. -/
def raiseFirst (errors : List (ℕ × PyExc)) : Except PyExc Unit :=
  match errors.argmin (·.1) with
  | some (_, e) => .error e
  | none => .ok ()

/-- What a call does when the executor returns. -/
theorem executePending_result {ε : Type} (E : Executor ε) {ops : List PendingOperation}
    {batch : CommandBatch} (hb : BatchOf ops batch) {x x' : ε} {result : BatchResult}
    (he : E.execute batch x = (.ok result, x')) (hn : (deferredsOf ops).Nodup) (h : Deferreds) :
    ∃ h', executePending E ops x h = (raiseFirst (errorsOf result.values h 0 ops), x', h') ∧
      (∀ i ∉ deferredsOf ops, h' i = h i) ∧
      ∀ r ∈ readsFrom 0 ops, h' r.operation.deferred =
        settle (readOutcome result.values (h r.operation.deferred).command r)
          (h r.operation.deferred) := by
  obtain ⟨p, hp, hcommands⟩ := hb.planned
  have hlen : result.values.length = (textsOf ops).length := by
    rw [E.aligned _ _ _ _ he, ← hcommands, hp.length]
  obtain ⟨h', hsettle, hother, hown⟩ := settleReads_spec result.values (readsFrom 0 ops)
    (fun r hr i hi => by have := readsFrom_range hr i hi; omega)
    (by rwa [readsFrom_deferreds]) h
  have hverify : verifyWrites result.values (writesFrom 0 ops) =
      .ok ((writesFrom 0 ops).filterMap (writeError result.values)) :=
    verifyWrites_spec (fun w hw i hi => by have := writesFrom_range hw i hi; omega)
      fun w hw => writesFrom_wf hw
  rw [readsFrom_deferreds] at hother
  refine ⟨h', ?_, hother, hown⟩
  unfold executePending
  rw [hp.plan]
  simp only [executePlan_eq E hcommands, he, processResult, hp.reads, hp.verifications, hsettle,
    hverify]
  unfold raiseFirst errorsOf
  cases ((readsFrom 0 ops).filterMap (readError result.values h) ++
    (writesFrom 0 ops).filterMap (writeError result.values)).argmin (·.1) <;> rfl

end

end Spd3000
