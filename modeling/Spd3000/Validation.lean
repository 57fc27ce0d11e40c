/-
  Arguments are validated before anything is sent.

  A call of a semantic operation that is refused (`Refusal`) leaves the driver as
  it is.  One whose arguments are accepted executes or collects exactly one
  pending operation, of the documented form.  What is raised after the arguments
  have been accepted is no refusal: it comes from the executor, from a response
  or from a verification (`executePending_permitted`).
-/
import Spd3000.Forms
import Spd3000.Scopes
import Spd3000.Settling

namespace Spd3000

variable {ε : Type}

/-- An exception is an `SPD3000ValidationError` or an `UnsupportedFeatureError`. -/
def Refusal (e : PyExc) : Prop :=
  e.isinstance .spd3000ValidationError ∨ e.isinstance .unsupportedFeatureError

/-- An exception is no refusal. -/
def Permitted (e : PyExc) : Prop := ¬ Refusal e

theorem permitted_of_cls {e : PyExc} (cls : ExcClass) (h : e.cls = cls)
    (hcls : (cls.isSubclass .spd3000ValidationError || cls.isSubclass .unsupportedFeatureError) =
      false) : Permitted e := by
  rw [Bool.or_eq_false_iff] at hcls
  rintro (hv | hu)
  · rw [PyExc.isinstance, h, hcls.1] at hv
    cases hv
  · rw [PyExc.isinstance, h, hcls.2] at hu
    cases hu

theorem ResponseError.permitted {e : PyExc} (h : ResponseError e) : Permitted e := by
  rcases h with h | h | h | h
  · exact permitted_of_cls _ h rfl
  · exact permitted_of_cls _ h rfl
  · exact permitted_of_cls _ h rfl
  · exact permitted_of_cls _ h rfl

/-- The executor raises no refusals. -/
def Executor.NeverRefuses (E : Executor ε) : Prop :=
  ∀ batch x e x', E.execute batch x = (.error e, x') → Permitted e

/-- The reads among the operations parse responses. -/
def ParsesResponses (ops : List PendingOperation) : Prop :=
  ∀ r, .read r ∈ ops → ∀ responses, Raises ResponseError (r.parser.parse responses)

section
variable [PyText]

/-! ## Executions -/

theorem readError_permitted {values : List (Option PyStr)} {h : Deferreds} {r : PlannedRead}
    {i : ℕ} {e : PyExc} (hr : ∀ responses, Raises ResponseError (r.operation.parser.parse responses))
    (he : readError values h r = some (i, e)) : Permitted e := by
  unfold readError at he
  split at he
  · cases he
  · rename_i e' hout
    cases he
    unfold readOutcome parseResponses at hout
    split at hout
    · cases hout
      exact permitted_of_cls .spd3000ProtocolError rfl rfl
    · exact (hr _ e hout).permitted

theorem writeError_permitted {values : List (Option PyStr)} {w : PlannedWrite} {i : ℕ} {e : PyExc}
    (he : writeError values w = some (i, e)) : Permitted e := by
  have hverification : ∀ message command query expected actual,
      Permitted (verificationError message command query expected actual) :=
    fun _ _ _ _ _ => permitted_of_cls .spd3000VerificationError rfl rfl
  unfold writeError at he
  split at he
  · obtain ⟨e', hcheck, heq⟩ := Option.map_eq_some_iff.1 he
    cases heq
    unfold checkReadback at hcheck
    split at hcheck
    · cases hcheck
      exact hverification _ _ _ _ _
    · split at hcheck
      · cases hcheck
        exact hverification _ _ _ _ _
      · split_ifs at hcheck
        cases hcheck
        exact hverification _ _ _ _ _
  · cases he
    exact hverification _ _ _ _ _

omit [PyText] in
theorem mem_of_raiseFirst {errors : List (ℕ × PyExc)} {e : PyExc}
    (h : raiseFirst errors = .error e) : ∃ i, (i, e) ∈ errors := by
  unfold raiseFirst at h
  split at h
  · rename_i i e' hmin
    cases h
    exact ⟨i, List.argmin_mem hmin⟩
  · cases h

theorem errorsOf_permitted {values : List (Option PyStr)} {h : Deferreds}
    {ops : List PendingOperation} (hparse : ParsesResponses ops) {i : ℕ} {e : PyExc}
    (he : (i, e) ∈ errorsOf values h 0 ops) : Permitted e := by
  rcases List.mem_append.1 he with he | he
  · obtain ⟨r, hr, hread⟩ := List.mem_filterMap.1 he
    exact readError_permitted (hparse _ (mem_of_mem_readsFrom hr)) hread
  · obtain ⟨w, -, hwrite⟩ := List.mem_filterMap.1 he
    exact writeError_permitted hwrite

/-- An execution of valid operations hands over their batch and raises no refusal. -/
theorem executePending_permitted {E : Executor ε} (hE : E.NeverRefuses)
    {ops : List PendingOperation} (hne : ops ≠ []) (hv : ∀ op ∈ ops, op.Valid)
    (hparse : ParsesResponses ops) (hn : (deferredsOf ops).Nodup) (x : ε) (h : Deferreds) :
    Raises Permitted (executePending E ops x h).1 ∧
      ∃ batch, BatchOf ops batch ∧ (executePending E ops x h).2.1 = (E.execute batch x).2 := by
  obtain ⟨batch, hb⟩ := exists_batchOf hne hv
  obtain ⟨r, x', hr⟩ : ∃ r x', E.execute batch x = (r, x') := ⟨_, _, rfl⟩
  cases r with
  | error e =>
    obtain ⟨p, hp, hrun⟩ := executePending_error E hb hr h
    have ho := outward_spec hp e
    rw [hrun, processError]
    refine ⟨?_, batch, hb, by rw [hr]⟩
    generalize p.outward e = o at ho
    cases ho with
    | unplaced hu => exact .error (permitted_of_cls .assertionError rfl rfl)
    | readback hi hat => exact .error (permitted_of_cls .spd3000VerificationError rfl rfl)
    | other hu hno => exact .error (hE _ _ _ _ hr)
  | ok result =>
    obtain ⟨h', hrun, -, -⟩ := executePending_result E hb hr hn h
    rw [hrun]
    refine ⟨fun e he => ?_, batch, hb, by rw [hr]⟩
    obtain ⟨i, hmem⟩ := mem_of_raiseFirst he
    exact errorsOf_permitted hparse hmem

/-! ## Calls -/

/-- The driver after a call outside of batch scopes: one batch has been handed over. -/
structure CalledAlone (E : Executor ε) (p : PendingOperation) (d d' : SPD3000 ε) : Prop where
  pending : d'.pendingOperations = d.pendingOperations
  handed : ∃ batch, BatchOf [p] batch ∧ d'.executor = (E.execute batch d.executor).2

theorem write_alone_permitted {E : Executor ε} (hE : E.NeverRefuses) {command : PyStr}
    {verification : Option Verification} {reason : Option PyStr} {d : SPD3000 ε}
    (ha : d.batchActive = false) {w : PendingOperation}
    (hw : w = .write ⟨command,
      SPD3000.selectVerification d.shouldVerifyWrites verification reason⟩)
    (hv : w.Valid) : Raises Permitted (d.write E command verification reason).1 ∧
      CalledAlone E w d (d.write E command verification reason).2 := by
  subst hw
  obtain ⟨hpermitted, batch, hb, hx⟩ := executePending_permitted hE (List.cons_ne_nil _ _)
    (List.forall_mem_singleton.2 hv) (fun r hr => by cases List.mem_singleton.1 hr) .nil d.executor
    d.deferreds
  obtain ⟨r, x, h, hrun⟩ : ∃ r x h, executePending E [.write ⟨command,
    SPD3000.selectVerification d.shouldVerifyWrites verification reason⟩] d.executor d.deferreds =
      (r, x, h) := ⟨_, _, _, rfl⟩
  rw [hrun] at hpermitted hx
  rw [write_alone ha hrun]
  exact ⟨hpermitted, rfl, batch, hb, hx⟩

theorem read_alone_permitted {E : Executor ε} (hE : E.NeverRefuses) {commands : List PyStr}
    {hne : commands ≠ []} {parser : Parser (List PyStr) .exception}
    (hparser : ∀ responses, Raises ResponseError (parser.parse responses)) {d : SPD3000 ε}
    (ha : d.batchActive = false) {p : PendingOperation}
    (hp : p = .read ⟨commands, hne, parser, d.nextDeferred⟩) (hv : p.Valid) :
    Raises Permitted (d.queries E commands hne parser).1 ∧
      CalledAlone E p d (d.queries E commands hne parser).2 := by
  have hparse : ParsesResponses [p] := by
    intro r hr
    rw [hp, List.mem_singleton] at hr
    cases hr
    exact hparser
  have hn : (deferredsOf [p]).Nodup := by
    rw [hp]
    exact List.nodup_singleton _
  have hops : [p] ≠ [] := List.cons_ne_nil _ _
  obtain ⟨hpermitted, batch, hb, hx⟩ := executePending_permitted hE hops
    (List.forall_mem_singleton.2 hv) hparse hn d.executor
      (Function.update d.deferreds d.nextDeferred (.pending (SPD3000.label commands)))
  have hspec := executePending_spec E hops hn d.executor
    (Function.update d.deferreds d.nextDeferred (.pending (SPD3000.label commands)))
  subst hp
  obtain ⟨r, x, h, hrun⟩ : ∃ r x h, executePending E [.read ⟨commands, hne, parser, d.nextDeferred⟩]
    d.executor (Function.update d.deferreds d.nextDeferred (.pending (SPD3000.label commands))) =
      (r, x, h) := ⟨_, _, _, rfl⟩
  rw [hrun] at hpermitted hx hspec
  rw [read_alone ha hrun]
  refine ⟨?_, rfl, batch, hb, hx⟩
  cases r with
  | error e => exact .error (hpermitted e rfl)
  | ok u =>
    -- a read that does not raise has resolved its deferred result
    have hawaiting : Awaiting [.read ⟨commands, hne, parser, d.nextDeferred⟩]
        (Function.update d.deferreds d.nextDeferred (.pending (SPD3000.label commands))) := by
      intro p hmem
      cases List.mem_singleton.1 hmem
      exact Function.update_self ..
    obtain ⟨vs, hvs⟩ := hspec.values hawaiting
    cases vs with
    | nil => cases hvs
    | cons v vs =>
      have hvalue : (h d.nextDeferred).getValue = .ok v := (List.cons.inj hvs).1
      dsimp only [Except.bind]
      rw [hvalue]
      exact .ok _

/-- A documented operation outside of batch scopes. -/
theorem call_documented {E : Executor ε} (hE : E.NeverRefuses) {form : Form} {o : Operation}
    (ho : o.Documented form) (hform : form.commands.all sendable) {d : SPD3000 ε}
    (ha : d.batchActive = false) : Raises Permitted (o.call E d).1 ∧
      CalledAlone E (o.pending d.shouldVerifyWrites d.nextDeferred) d (o.call E d).2 := by
  have hvalid := (ho.pending d.shouldVerifyWrites d.nextDeferred).valid hform
  cases ho with
  | write _ _ =>
    obtain ⟨hpermitted, hcalled⟩ := write_alone_permitted hE ha rfl hvalid
    exact ⟨hpermitted.map, hcalled⟩
  | read _ hparser => exact read_alone_permitted hE hparser ha rfl hvalid

/-! ## Semantic operations -/

/-- The call of a semantic operation. -/
def SemanticCall.call (E : Executor ε) (m : Model) (op : SemanticCall) (d : SPD3000 ε) :
    Except PyExc Returned × SPD3000 ε :=
  match op.method m with
  | .error e => (.error e, d)
  | .ok o => o.call E d

/-- The arguments of the call are accepted. -/
def SemanticCall.Accepted (m : Model) (op : SemanticCall) : Prop := ∃ o, op.method m = .ok o

/-- The driver after a call that has executed or collected exactly this operation. -/
structure OneOperation (p : PendingOperation) (d d' : SPD3000 (ε × List CommandBatch)) : Prop where
  collected : d.batchActive →
    d'.pendingOperations = d.pendingOperations ++ [p] ∧ d'.executor = d.executor
  executed : d.batchActive = false → d'.pendingOperations = d.pendingOperations ∧
    ∃ batch, BatchOf [p] batch ∧ d'.executor.2 = d.executor.2 ++ [batch]

/-- A call that is refused leaves the driver as it is; one whose arguments are accepted executes or
    collects one operation of the documented form. -/
structure ValidatedFirst (E : Executor ε) (m : Model) (op : SemanticCall)
    (d : SPD3000 (ε × List CommandBatch)) : Prop where
  refused : ∀ e, (op.call E.recorded m d).1 = .error e → Refusal e →
    (op.call E.recorded m d).2 = d
  accepted : op.Accepted m → ∃ p : PendingOperation, p.HasForm op.form ∧
    OneOperation p d (op.call E.recorded m d).2

omit [PyText] in
theorem recorded_neverRefuses {E : Executor ε} (hE : E.NeverRefuses) : E.recorded.NeverRefuses := by
  intro batch x e x' h
  exact hE batch x.1 e _ (Prod.ext (Prod.mk.inj h).1 rfl)

/-- **Validation precedes input and output.** -/
theorem validated_first (E : Executor ε)
    (hE : ∀ batch x e x', E.execute batch x = (.error e, x') → ¬ Refusal e) (m : Model)
    (op : SemanticCall) (d : SPD3000 (ε × List CommandBatch)) : ValidatedFirst E m op d := by
  cases hmethod : op.method m with
  | error e =>
    have hcall : op.call E.recorded m d = (.error e, d) := by rw [SemanticCall.call, hmethod]
    refine ⟨fun _ _ _ => by rw [hcall], ?_⟩
    rintro ⟨o, ho⟩
    rw [hmethod] at ho
    cases ho
  | ok o =>
    have hcall : op.call E.recorded m d = o.call E.recorded d := by
      rw [SemanticCall.call, hmethod]
    have ho := method_documented m op o hmethod
    have hsend := form_sendable op
    by_cases ha : d.batchActive
    · obtain ⟨h, hcollect, -⟩ := call_collect E.recorded o d ha
      refine ⟨fun e he => ?_, fun _ => ⟨o.pending d.shouldVerifyWrites d.nextDeferred,
        ho.pending _ _, ?_⟩⟩
      · rw [hcall, hcollect] at he
        cases he
      · rw [hcall, hcollect]
        exact ⟨fun _ => ⟨rfl, rfl⟩, fun hfalse => absurd ha (by rw [hfalse]; exact nofun)⟩
    · rw [Bool.not_eq_true] at ha
      obtain ⟨hpermitted, hpending, batch, hb, hx⟩ :=
        call_documented (recorded_neverRefuses hE) ho hsend ha
      refine ⟨fun e he hrefusal => ?_, fun _ => ⟨o.pending d.shouldVerifyWrites d.nextDeferred,
        ho.pending _ _, fun hactive => ?_, fun _ => ?_⟩⟩
      · rw [hcall] at he
        exact absurd hrefusal (hpermitted e he)
      · rw [ha] at hactive
        cases hactive
      · rw [hcall]
        exact ⟨hpending, batch, hb, by rw [hx]; rfl⟩

end

/-- The call `psu.output("ch1", "on")`. -/
def switchOn : SemanticCall := .output (.str "ch1") (.str "on")

theorem switchOn_validated : @ValidatedFirst Unit PyText.blank ones .spd3303X switchOn newDriver ∧
    @SemanticCall.Accepted PyText.blank .spd3303X switchOn :=
  ⟨@validated_first Unit PyText.blank ones (fun _ _ _ _ h => by cases h) .spd3303X switchOn newDriver,
    ⟨_, rfl⟩⟩

end Spd3000
