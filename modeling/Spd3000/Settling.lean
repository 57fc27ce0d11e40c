/-
  What is left of a batch scope: its deferred results and the list it yields.

  `Executed` lists the outcomes of `_execute_pending_operations`.  Two of them
  settle no deferred result: a collected text that is not a valid command
  (`refused`) and an error that is mistaken for a missing readback (`unplaced`).
  `settled_iff` says that every scope without these is left `Settled`.
-/
import Spd3000.Operations
import Spd3000.Failures

namespace Spd3000

section
variable {ε : Type} [PyText]

/-! ## Outcomes of an execution -/

/-- The outcomes of executing operations. -/
inductive Executed (E : Executor ε) (ops : List PendingOperation) (x : ε) (h : Deferreds) :
    Except PyExc Unit → ε → Deferreds → Prop
  | refused {e} : (¬ ∀ op ∈ ops, op.Valid) → Executed E ops x h (.error e) x h
  | unplaced {batch e x'} : BatchOf ops batch → E.execute batch x = (.error e, x') →
      Unplaced ops e → Executed E ops x h (.error (.new .assertionError [])) x' h
  | failed {batch e x' e' h'} : BatchOf ops batch → E.execute batch x = (.error e, x') →
      ¬ Unplaced ops e → (∀ i ∈ deferredsOf ops, h' i = (h i).reject e') →
      Executed E ops x h (.error e') x' h'
  | returned {batch result x' h'} : BatchOf ops batch → E.execute batch x = (.ok result, x') →
      (∀ r ∈ readsFrom 0 ops, h' r.operation.deferred =
        settle (readOutcome result.values (h r.operation.deferred).command r)
          (h r.operation.deferred)) →
      Executed E ops x h (raiseFirst (errorsOf result.values h 0 ops)) x' h'

theorem executePending_spec (E : Executor ε) {ops : List PendingOperation} (hne : ops ≠ [])
    (hn : (deferredsOf ops).Nodup) (x : ε) (h : Deferreds) :
    Executed E ops x h (executePending E ops x h).1 (executePending E ops x h).2.1
      (executePending E ops x h).2.2 := by
  by_cases hv : ∀ op ∈ ops, op.Valid
  · obtain ⟨batch, hb⟩ := exists_batchOf hne hv
    obtain ⟨r, x', hr⟩ : ∃ r x', E.execute batch x = (r, x') := ⟨_, _, rfl⟩
    cases r with
    | error e =>
      obtain ⟨p, hp, hrun⟩ := executePending_error E hb hr h
      have ho := outward_spec hp e
      rw [hrun, processError]
      generalize p.outward e = o at ho
      have hreject : ∀ e', ∀ i ∈ deferredsOf ops, rejectAll e' p.reads h i = (h i).reject e' := by
        intro e' i hi
        rw [rejectAll_apply, hp.reads, readsFrom_deferreds, if_pos hi]
      cases ho with
      | unplaced hu => exact .unplaced hb hr hu
      | readback hi hat => exact .failed hb hr hi.not_unplaced (hreject _)
      | other hu _ => exact .failed hb hr hu (hreject _)
    | ok result =>
      obtain ⟨h', hrun, -, hown⟩ := executePending_result E hb hr hn h
      rw [hrun]
      exact .returned hb hr hown
  · obtain ⟨e, he, -⟩ := plan_invalid hv .empty
    rw [executePending, he]
    exact .refused hv

/-! ## Settled scopes -/

/-- The value that a read parses from its own responses in the batch. -/
def OwnValue (E : Executor ε) (ops : List PendingOperation) (x : ε) (r : PlannedRead) (v : PyVal) :
    Prop :=
  ∃ batch result x', BatchOf ops batch ∧ E.execute batch x = (.ok result, x') ∧
    readOutcome result.values (SPD3000.label r.operation.commands) r = .ok v

/-- A scope that has collected `ops` and has been left with outcome `r`: every deferred result
    created in it is done, with its own value or an error, and the yielded list holds the values
    of all reads in order, or nothing. -/
structure Settled {α : Type} (E : Executor ε) (ops : List PendingOperation) (d : SPD3000 ε)
    (r : Except PyExc α) (d' : SPD3000 ε) : Prop where
  done : ∀ i, d.nextDeferred ≤ i → i < d'.nextDeferred → (d'.deferreds i).done
  own : ∀ p ∈ readsFrom 0 ops, ∀ v, (d'.deferreds p.operation.deferred).getValue = .ok v →
    OwnValue E ops d.executor p v
  success : ∀ a, r = .ok a → (readsFrom 0 ops).map
    (fun p => (d'.deferreds p.operation.deferred).getValue) = (d'.lists d.nextList).map .ok
  failure : ∀ e, r = .error e → d'.lists d.nextList = []

/-- The operations can be executed: all texts are valid commands, and the executor raises no
    error without a position while a write cannot be verified. -/
def Executable (E : Executor ε) (ops : List PendingOperation) (x : ε) : Prop :=
  (∀ op ∈ ops, op.Valid) ∧
    ∀ batch e x', BatchOf ops batch → E.execute batch x = (.error e, x') → ¬ Unplaced ops e

omit [PyText] in
theorem BatchOf.unique {ops : List PendingOperation} {b b' : CommandBatch} (h : BatchOf ops b)
    (h' : BatchOf ops b') : b = b' := by
  obtain ⟨commands, hne⟩ := b
  obtain ⟨commands', hne'⟩ := b'
  obtain rfl : commands = commands' :=
    Command.sent_injective.list_map (Eq.trans h h'.symm)
  rfl

theorem Executed.unsettled {E : Executor ε} {ops : List PendingOperation} {x x' : ε}
    {h h' : Deferreds} {r : Except PyExc Unit} (he : Executed E ops x h r x' h')
    (hx : ¬ Executable E ops x) : (∃ e, r = .error e) ∧ h' = h := by
  cases he with
  | refused _ => exact ⟨⟨_, rfl⟩, rfl⟩
  | unplaced _ _ _ => exact ⟨⟨_, rfl⟩, rfl⟩
  | failed hb hr hu _ =>
    refine absurd ⟨hb.valid, fun b e y hb' hy => ?_⟩ hx
    obtain rfl := hb.unique hb'
    rw [hr] at hy
    cases hy
    exact hu
  | returned hb hr _ =>
    refine absurd ⟨hb.valid, fun b e y hb' hy => ?_⟩ hx
    obtain rfl := hb.unique hb'
    rw [hr] at hy
    cases hy

omit [PyText] in
theorem raiseFirst_ok {errors : List (ℕ × PyExc)} (h : raiseFirst errors = .ok ()) : errors = [] := by
  unfold raiseFirst at h
  split at h
  · cases h
  · rename_i hnone
    exact List.argmin_eq_none.1 hnone

omit [PyText] in
theorem exists_map_ok {α β : Type} {f : α → Except PyExc β} {l : List α}
    (h : ∀ x ∈ l, ∃ v, f x = .ok v) : ∃ vs : List β, l.map f = vs.map .ok := by
  induction l with
  | nil => exact ⟨[], rfl⟩
  | cons x l ih =>
    obtain ⟨v, hv⟩ := h x (by simp)
    obtain ⟨vs, hvs⟩ := ih fun y hy => h y (by simp [hy])
    exact ⟨v :: vs, by rw [List.map_cons, hv, hvs, List.map_cons]⟩

/-- The reads of the operations are pending. -/
def Awaiting (ops : List PendingOperation) (h : Deferreds) : Prop :=
  ∀ p ∈ readsFrom 0 ops, h p.operation.deferred = .pending (SPD3000.label p.operation.commands)

section
variable {E : Executor ε} {ops : List PendingOperation} {x x' : ε} {h h' : Deferreds}
  {r : Except PyExc Unit}

theorem settle_pending (o : Except PyExc PyVal) (command : PyStr) :
    (settle o (.pending command)).getValue = o ∧ (settle o (.pending command)).done := by
  cases o <;> exact ⟨rfl, rfl⟩

theorem Executed.own (he : Executed E ops x h r x' h') (hp : Awaiting ops h) :
    ∀ p ∈ readsFrom 0 ops, ∀ v, (h' p.operation.deferred).getValue = .ok v →
      OwnValue E ops x p v := by
  intro p hmem v hv
  have hd : p.operation.deferred ∈ deferredsOf ops := by
    rw [← readsFrom_deferreds 0]
    exact List.mem_map_of_mem hmem
  cases he with
  | refused _ => rw [hp p hmem] at hv; cases hv
  | unplaced _ _ _ => rw [hp p hmem] at hv; cases hv
  | failed _ _ _ hreject => rw [hreject _ hd] at hv; cases hv
  | returned hb hr hown =>
    rw [hown p hmem, hp p hmem, (settle_pending ..).1] at hv
    exact ⟨_, _, _, hb, hr, hv⟩

theorem Executed.done (he : Executed E ops x h r x' h') (hp : Awaiting ops h)
    (hx : Executable E ops x) : ∀ i ∈ deferredsOf ops, (h' i).done := by
  intro i hi
  cases he with
  | refused hv => exact absurd hx.1 hv
  | unplaced hb hr hu => exact absurd hu (hx.2 _ _ _ hb hr)
  | failed _ _ _ hreject => rw [hreject i hi]; simp [Deferred.done, Deferred.reject]
  | returned _ _ hown =>
    rw [← readsFrom_deferreds 0] at hi
    obtain ⟨p, hmem, rfl⟩ := List.mem_map.1 hi
    rw [hown p hmem, hp p hmem]
    exact (settle_pending ..).2

/-- A call that does not raise has resolved all reads. -/
theorem Executed.values (he : Executed E ops x h (.ok ()) x' h') (hp : Awaiting ops h) :
    ∃ vs : List PyVal, (deferredsOf ops).map (fun i => (h' i).getValue) = vs.map .ok := by
  generalize hr : Except.ok () = r at he
  cases he with
  | refused _ => cases hr
  | unplaced _ _ _ => cases hr
  | failed _ _ _ _ => cases hr
  | returned hb hexec hown =>
    have hnil := (List.append_eq_nil_iff.1 (raiseFirst_ok hr.symm)).1
    rw [List.filterMap_eq_nil_iff] at hnil
    rw [← readsFrom_deferreds 0, List.map_map]
    have hvalue : ∀ p ∈ readsFrom 0 ops, ∃ v, (h' p.operation.deferred).getValue = .ok v := by
      intro p hmem
      have hnone := hnil p hmem
      rw [readError, hp p hmem] at hnone
      rw [hown p hmem, hp p hmem, (settle_pending ..).1]
      cases ho : readOutcome _ (Deferred.pending (SPD3000.label p.operation.commands)).command p with
      | ok v => exact ⟨v, rfl⟩
      | error e => rw [ho] at hnone; cases hnone
    exact exists_map_ok hvalue

end

/-! ## Every scope -/

omit [PyText] in
theorem mem_of_mem_readsFrom {n : ℕ} {ops : List PendingOperation} {p : PlannedRead}
    (hp : p ∈ readsFrom n ops) : .read p.operation ∈ ops := by
  induction ops generalizing n with
  | nil => cases hp
  | cons op ops ih =>
    cases op with
    | read r =>
      rcases List.mem_cons.1 hp with rfl | hp
      · exact List.mem_cons_self
      · exact List.mem_cons_of_mem _ (ih hp)
    | write w => exact List.mem_cons_of_mem _ (ih hp)

omit [PyText] in
theorem Collected.awaiting {d : SPD3000 ε} {ops : List Operation} {h : Deferreds}
    (hc : Collected d ops h) : Awaiting (d.collects ops) h :=
  fun _ hp => hc.created _ (mem_of_mem_readsFrom hp)

theorem cancelAll_apply (ops : List PendingOperation) (h : Deferreds) (i : ℕ) :
    SPD3000.cancelAll ops h i = if i ∈ deferredsOf ops then (h i).cancel else h i := by
  unfold SPD3000.cancelAll
  induction ops generalizing h with
  | nil => rfl
  | cons op ops ih =>
    rw [List.foldl_cons, ih]
    cases op with
    | read r =>
      have hcons : deferredsOf (.read r :: ops) = r.deferred :: deferredsOf ops := rfl
      rw [hcons]
      by_cases hi : i = r.deferred
      · subst hi
        simp [Deferred.cancel]
      · simp [hi, Deferreds.modify_of_ne]
    | write w => rfl

variable {E : Executor ε} {d : SPD3000 ε} {ops : List Operation}

/-- What is to be shown of a scope that has been left with deferred results `h` and list `vs`. -/
theorem settled_left {α : Type} {r : Except PyExc α} {x : ε} {h : Deferreds} {vs : List PyVal}
    (hdone : ∀ i ∈ deferredsOf (d.collects ops), (h i).done)
    (hown : ∀ p ∈ readsFrom 0 (d.collects ops), ∀ v, (h p.operation.deferred).getValue = .ok v →
      OwnValue E (d.collects ops) d.executor p v)
    (hok : ∀ a, r = .ok a →
      (deferredsOf (d.collects ops)).map (fun i => (h i).getValue) = vs.map .ok)
    (herr : ∀ e, r = .error e → vs = []) :
    Settled E (d.collects ops) d r (d.left ops x h vs) where
  done i hi hi' := by
    refine hdone i ?_
    rw [deferredsOf_pendingFrom, List.mem_range'_1]
    exact ⟨hi, hi'⟩
  own := hown
  success a ha := by
    have hlist : (d.left ops x h vs).lists d.nextList = vs := Function.update_self ..
    rw [hlist, ← hok a ha, ← readsFrom_deferreds 0, List.map_map]
    rfl
  failure e he := by
    rw [← herr e he]
    exact Function.update_self ..

/-- Every deferred result stays pending, if one was created at all. -/
theorem not_settled_pending {α : Type} {r : Except PyExc α} {x : ε} {h : Deferreds}
    {vs : List PyVal} (hc : Collected d ops h) (h0 : createdBy ops ≠ 0) :
    ¬ Settled E (d.collects ops) d r (d.left ops x h vs) := by
  intro hs
  have hmem : d.nextDeferred ∈ deferredsOf (d.collects ops) := by
    rw [deferredsOf_pendingFrom, List.mem_range'_1]
    omega
  rw [← readsFrom_deferreds 0] at hmem
  obtain ⟨p, hp, hi⟩ := List.mem_map.1 hmem
  have hdone := hs.done d.nextDeferred le_rfl (Nat.lt_add_of_pos_right (Nat.pos_of_ne_zero h0))
  have hpending : (d.left ops x h vs).deferreds d.nextDeferred =
      .pending (SPD3000.label p.operation.commands) := by
    rw [← hi]
    exact hc.awaiting p hp
  rw [hpending] at hdone
  cases hdone

omit [PyText] in
theorem created_eq_zero (h : createdBy ops = 0) : deferredsOf (d.collects ops) = [] := by
  rw [deferredsOf_pendingFrom, h, List.range'_zero]

theorem settled_raised (ha : d.batchActive = false) (e : PyExc) :
    Settled E (d.collects ops) d (d.batchScope E (scopeBody E ops (some e))).1
      (d.batchScope E (scopeBody E ops (some e))).2 := by
  obtain ⟨h, -, hrun⟩ := @batchScope_raised _ _ E _ ops ha e
  rw [hrun]
  refine settled_left (fun i hi => ?_) (fun p hp v hv => ?_) (fun _ h => by cases h) fun _ _ => rfl
  · rw [cancelAll_apply, if_pos hi]
    simp [Deferred.done, Deferred.cancel]
  · have hi : p.operation.deferred ∈ deferredsOf (d.collects ops) := by
      rw [← readsFrom_deferreds 0]
      exact List.mem_map_of_mem hp
    rw [cancelAll_apply, if_pos hi] at hv
    cases hv

/-- A scope whose body completes is settled, exactly if nothing waits or it can be executed. -/
theorem settled_executed {α : Type} {r : Except PyExc Unit} {r' : Except PyExc α} {x : ε}
    {h h' : Deferreds} {vs : List PyVal} (hc : Collected d ops h)
    (hex : Executed E (d.collects ops) d.executor h r x h')
    (hok : ∀ a, r' = .ok a →
      (deferredsOf (d.collects ops)).map (fun i => (h' i).getValue) = vs.map .ok)
    (herr : ∀ e, r' = .error e → vs = []) :
    Settled E (d.collects ops) d r' (d.left ops x h' vs) ↔
      createdBy ops = 0 ∨ Executable E (d.collects ops) d.executor := by
  constructor
  · intro hs
    by_contra hno
    rw [not_or] at hno
    obtain ⟨-, rfl⟩ := hex.unsettled hno.2
    exact not_settled_pending hc hno.1 hs
  · intro hcond
    refine settled_left (fun i hi => ?_) (hex.own hc.awaiting) hok herr
    rcases hcond with h0 | hx
    · rw [created_eq_zero h0] at hi
      cases hi
    · exact hex.done hc.awaiting hx i hi

/-- **Every deferred result is settled.**  A batch scope that is entered leaves all its deferred
    results settled and the list complete or empty, exactly if it collects no read, or its body
    raises, or what it has collected can be executed. -/
theorem settled_iff (E : Executor ε) (d : SPD3000 ε) (ha : d.batchActive = false)
    (ops : List Operation) (raised : Option PyExc) :
    Settled E (d.collects ops) d (d.batchScope E (scopeBody E ops raised)).1
        (d.batchScope E (scopeBody E ops raised)).2 ↔
      createdBy ops = 0 ∨ raised.isSome ∨ Executable E (d.collects ops) d.executor := by
  cases raised with
  | some e => exact iff_of_true (settled_raised ha e) (.inr (.inl rfl))
  | none =>
    simp only [Option.isSome_none, Bool.false_eq_true, false_or]
    by_cases hne : ops = []
    · subst hne
      rw [batchScope_empty ha]
      exact iff_of_true (settled_left (fun i hi => absurd hi List.not_mem_nil)
        (fun p hp => absurd hp List.not_mem_nil) (fun _ _ => rfl) fun _ _ => rfl) (.inl rfl)
    · obtain ⟨h, hc, herr, hok⟩ := batchScope_completed (E := E) ha hne
      have hpending : d.collects ops ≠ [] := by
        cases ops with
        | nil => exact absurd rfl hne
        | cons op ops => simp [pendingFrom]
      have hnodup : (deferredsOf (d.collects ops)).Nodup := by
        rw [deferredsOf_pendingFrom]
        exact List.nodup_range'
      have hex := executePending_spec E hpending hnodup d.executor h
      obtain ⟨r, x, h', hrun⟩ : ∃ r x h', executePending E (d.collects ops) d.executor h =
        (r, x, h') := ⟨_, _, _, rfl⟩
      rw [hrun] at hex
      cases r with
      | error e =>
        rw [herr e x h' hrun]
        exact settled_executed hc hex (fun _ h => by cases h) fun _ _ => rfl
      | ok _ =>
        obtain ⟨vs, hvs⟩ := hex.values hc.awaiting
        rw [hok x h' vs hrun hvs]
        exact settled_executed hc hex (fun _ _ => hvs) fun _ h => by cases h

end

/-! ## A scope whose execution fails -/

/-- The call `psu.scpi.query(text)`. -/
def scpiQuery (text : PyStr) : Operation := .read [text] (by simp) firstResponse

/-- A write that cannot be verified, a write with a readback, and two readings. -/
def mixedOperations : List Operation :=
  [.write none switchOutput.text (some outputUnverifiable) none,
    .write none writeCurrent.text (some currentVerification) none, scpiQuery queryVoltage.text,
    scpiQuery queryCurrent.text]

def mixedBatch : CommandBatch :=
  ⟨[.write switchOutput, .write writeCurrent, .query queryCurrent, .query queryVoltage,
    .query queryCurrent], by simp⟩

/-- A driver in verified mode, whose executor gets two answers. -/
def answeredDriver : SPD3000 (DirectExecutor ℕ) := .make (answeringExecutor none 2) true

/-- The scope of the operations: its execution fails at the last query. -/
def mixedScope [PyText] : Except PyExc (List Returned) × SPD3000 (DirectExecutor ℕ) :=
  answeredDriver.batchScope (DirectExecutor.executor answering)
    (scopeBody (DirectExecutor.executor answering) mixedOperations none)

section
variable [PyText]

omit [PyText] in
theorem mixedBatch_batchOf : BatchOf (answeredDriver.collects mixedOperations) mixedBatch := rfl

theorem mixedBatch_fails :
    (DirectExecutor.executor answering).execute mixedBatch answeredDriver.executor =
      (.error (queryTimeout 4 queryCurrent), answeringExecutor (some 0) 0) := by
  simp only [DirectExecutor.executor, DirectExecutor.execute, mixedBatch, answeredDriver,
    SPD3000.make, DirectExecutor.runFrom, runCommand_answering]
  rfl

/-- The error of the scope has a position, although a write cannot be verified. -/
theorem mixed_executable : Executable (DirectExecutor.executor answering)
    (answeredDriver.collects mixedOperations) answeredDriver.executor := by
  refine ⟨mixedBatch_batchOf.valid, fun batch e x' hb hr => ?_⟩
  obtain rfl := hb.unique mixedBatch_batchOf
  rw [mixedBatch_fails] at hr
  cases hr
  rintro ⟨-, hnone, -⟩
  cases hnone

theorem mixedScope_raises : ∃ e, mixedScope.1 = .error e := by
  have hne : mixedOperations ≠ [] := List.cons_ne_nil _ _
  obtain ⟨h, -, herr, -⟩ := batchScope_completed (E := DirectExecutor.executor answering)
    (d := answeredDriver) rfl hne
  obtain ⟨p, -, hrun⟩ := executePending_error _ mixedBatch_batchOf mixedBatch_fails h
  obtain ⟨e, he⟩ : ∃ e, (processError p (queryTimeout 4 queryCurrent) h).1 = .error e := by
    unfold processError
    split <;> exact ⟨_, rfl⟩
  rw [he] at hrun
  exact ⟨e, congrArg Prod.fst (herr _ _ _ hrun)⟩

end

theorem mixed_settled : (∃ e, (@mixedScope PyText.blank).1 = .error e) ∧
    @Settled _ PyText.blank _ (@DirectExecutor.executor PyText.blank _ answering)
      (answeredDriver.collects mixedOperations) answeredDriver (@mixedScope PyText.blank).1
      (@mixedScope PyText.blank).2 := by
  let _ : PyText := PyText.blank
  exact ⟨mixedScope_raises, (settled_iff (DirectExecutor.executor answering) answeredDriver rfl
    mixedOperations none).2 (.inr (.inr mixed_executable))⟩

/-! ## A text that is not a command -/

def idleDriver : SPD3000 (DirectExecutor Unit) :=
  .make ⟨.default, none, false, ()⟩ false

/-- A query with a line terminator leaves its deferred result pending. -/
theorem terminator_pending :
    ¬ ∀ [PyText] (E : Executor (DirectExecutor Unit)) (d : SPD3000 (DirectExecutor Unit))
      (ops : List Operation) (raised : Option PyExc), d.batchActive = false →
      Settled E (d.collects ops) d (d.batchScope E (scopeBody E ops raised)).1
        (d.batchScope E (scopeBody E ops raised)).2 := by
  intro hall
  let _ : PyText := PyText.blank
  have h := hall (DirectExecutor.executor stillWorld) idleDriver [scpiQuery "CH1:VOLT?\n"] none rfl
  have hdone := h.done 0 le_rfl Nat.one_pos
  cases hdone

end Spd3000
