/-
  Verified writes on a power supply whose answers are true.

  A `Supply` has a front panel, with short numbers and a contiguous netmask on it.
  It may do with a command whatever it likes, also lose it, but its answer to the
  query of a setting shows what is on the panel.
  `Session` says what verified calls end in: a write returns if the panel shows the
  requested value right after it, and raises otherwise.  `verification_exact`
  connects this to the driver, whose comparison is one of floats, texts and
  dictionaries; `toVal_eq_iff` is what makes the comparison exact.
-/
import Spd3000.Readbacks
import Mathlib.Data.List.GetD

namespace Spd3000

/-! ## The same value -/

/-- The addresses of a setting have 32 bits. -/
def Setting.Fits : (s : Setting) → s.Value → Prop
  | .ipaddr, ip | .maskaddr, ip | .gateaddr, ip => ip < 2 ^ 32
  | _, _ => True

theorem pyEq_float {x y : ℚ} (hx : Short x) (hy : Short y) :
    pyEq (.float (floatOfRat x)) (.float (floatOfRat y)) = true ↔ x = y := by
  rw [← floatOfRat_inj hx hy]
  obtain ⟨p, hp, -⟩ := floatOfRat_close hx.1
  obtain ⟨q, hq, -⟩ := floatOfRat_close hy.1
  rw [hp, hq, PyFloat.finite.injEq]
  exact beq_iff_eq

theorem pyEq_bool (b b' : Bool) : pyEq (.bool b) (.bool b') = true ↔ b = b' := by
  cases b <;> cases b' <;> decide

theorem pyEqEntries_cons {k : PyStr} {v w : PyVal} {entries : PyDict} (others : PyDict)
    (h : PyDict.get entries k = some w) :
    pyEqEntries ((k, v) :: others) entries = (pyEq v w && pyEqEntries others entries) := by
  rw [pyEqEntries, h]

theorem pyEq_timerStep (v i t v' i' t' : PyFloat) :
    pyEq (timerStep v i t) (timerStep v' i' t') = true ↔ pyEq (.float v) (.float v') = true ∧
      pyEq (.float i) (.float i') = true ∧ pyEq (.float t) (.float t') = true := by
  have hentries : pyEq (timerStep v i t) (timerStep v' i' t') =
      (pyEq (.float v) (.float v') && (pyEq (.float i) (.float i') &&
        (pyEq (.float t) (.float t') && true))) := by
    unfold timerStep
    rw [pyEq, pyEqEntries_cons (w := .float v') _ rfl, pyEqEntries_cons (w := .float i') _ rfl,
      pyEqEntries_cons (w := .float t') _ rfl, pyEqEntries]
    rfl
  rw [hentries, Bool.and_eq_true, Bool.and_eq_true, Bool.and_true]

theorem OperatingMode.value_inj {mode mode' : OperatingMode} :
    mode.value = mode'.value ↔ mode = mode' := by
  refine ⟨fun h => ?_, congrArg _⟩
  cases mode <;> cases mode' <;> first | rfl | exact absurd h (by decide)

theorem Channel.value_inj {c c' : Channel} : c.value = c'.value ↔ c = c' := by
  refine ⟨fun h => ?_, congrArg _⟩
  cases c <;> cases c' <;> first | rfl | exact absurd h (by decide)

/-- The driver tells the values of a setting apart. -/
theorem toVal_eq_iff {s : Setting} {v v' : s.Value} (hv : s.Brief v) (hv' : s.Brief v')
    (hf : s.Fits v) (hf' : s.Fits v') : pyEq (s.toVal v) (s.toVal v') = true ↔ v = v' := by
  cases s with
  | voltage | current => exact pyEq_float hv hv'
  | output | waveform | timer | dhcp | locked => exact pyEq_bool v v'
  | tracking => rw [Setting.toVal, Setting.toVal, pyEq_str, beq_iff_eq, OperatingMode.value_inj]
  | timerStep c group =>
    obtain ⟨x, y, z⟩ := v
    obtain ⟨x', y', z'⟩ := v'
    obtain ⟨hx, hy, hz⟩ := hv
    obtain ⟨hx', hy', hz'⟩ := hv'
    rw [Setting.toVal, Setting.toVal, pyEq_timerStep, pyEq_float hx hx', pyEq_float hy hy',
      pyEq_float hz hz', Prod.mk.injEq, Prod.mk.injEq]
  | instrument => rw [Setting.toVal, Setting.toVal, pyEq_str, beq_iff_eq, Channel.value_inj]
  | ipaddr | maskaddr | gateaddr =>
    rw [Setting.toVal, Setting.toVal, pyEq_str, beq_iff_eq, addressText_inj hf hf']

theorem Setting.Shows.fits {s : Setting} {v : s.Value} {response : PyStr}
    (h : s.Shows v response) : s.Fits v := by
  cases s with
  | ipaddr | maskaddr | gateaddr => exact ipv4Address_lt h
  | _ => exact trivial

theorem maskOf_lt {text : PyStr} {ip : ℕ} (h : maskOf text = some ip) : ip < 2 ^ 32 := by
  rcases Option.or_eq_some_iff.1 h with h | ⟨-, h⟩
  · exact ipv4Address_lt h
  · exact networkMask_lt h

/-- The addresses that calls request have 32 bits. -/
theorem SemanticCall.requested_fits {call : SemanticCall} {s : Setting} {v : s.Value}
    (h : call.requested = some ⟨s, v⟩) : s.Fits v := by
  have haddress {read : PyStr → Option ℕ} {value : PyArg} (hread : ∀ text ip,
      read text = some ip → ip < 2 ^ 32) {ip : ℕ} (hip : value.asStr.bind read = some ip) :
      ip < 2 ^ 32 := by
    obtain ⟨text, -, htext⟩ := Option.bind_eq_some_iff.1 hip
    exact hread text ip htext
  cases s with
  | ipaddr | maskaddr | gateaddr =>
    cases call with
    | setIpaddr value | setHost value | setGateaddr value | setGateway value =>
      obtain ⟨ip, hip, heq⟩ := Option.map_eq_some_iff.1 h
      cases heq <;> exact haddress (fun _ _ => ipv4Address_lt) hip
    | setMaskaddr value | setSubnetMask value =>
      obtain ⟨ip, hip, heq⟩ := Option.map_eq_some_iff.1 h
      cases heq <;> exact haddress (fun _ _ => maskOf_lt) hip
    | setOutput c state | setDhcp state | setNetworkDhcp state => cases state <;> cases h
    | _ => simp [SemanticCall.requested, Option.bind_eq_some_iff] at h
  | _ => trivial

/-! ## Supplies -/

/-- The verification scope around the call alone. -/
def Operation.override : Operation → Option Bool
  | .write override .. => override
  | .read .. => none

/-- A power supply of a model: what is on its front panel, and what commands and queries do.  The
    panel shows numbers with few decimal places and a mask of ones followed by zeros, and answers
    show what is on the panel. -/
structure Supply (m : Model) (σ : Type) where
  panel : σ → (s : Setting) → s.Value
  write : PyStr → σ → σ
  query : PyStr → σ → PyStr × σ
  brief : ∀ x (s : Setting), s.Readable m → s.Brief (panel x s)
  honest : ∀ x (s : Setting), s.Readable m → s.Shows (panel x s) (query s.query x).1

namespace Supply
variable {m : Model} {σ : Type} (P : Supply m σ)

/-- One command, and the response to it. -/
def step : Bool × PyStr → σ → Option PyStr × σ
  | (true, text), x => (some (P.query text x).1, (P.query text x).2)
  | (false, text), x => (none, P.write text x)

def responses : List (Bool × PyStr) → σ → List (Option PyStr)
  | [], _ => []
  | c :: cs, x => (P.step c x).1 :: responses cs (P.step c x).2

def after (cs : List (Bool × PyStr)) (x : σ) : σ := cs.foldl (fun x c => (P.step c x).2) x

@[simp] theorem length_responses (cs : List (Bool × PyStr)) (x : σ) :
    (P.responses cs x).length = cs.length := by
  induction cs generalizing x with
  | nil => rfl
  | cons c cs ih => rw [responses, List.length_cons, List.length_cons, ih]

theorem responses_append (cs cs' : List (Bool × PyStr)) (x : σ) :
    P.responses (cs ++ cs') x = P.responses cs x ++ P.responses cs' (P.after cs x) := by
  induction cs generalizing x with
  | nil => rfl
  | cons c cs ih =>
    rw [List.cons_append, responses, responses, ih]
    rfl

/-- The supply as an executor that never fails. -/
def executor : Executor σ where
  execute b x :=
    (.ok ⟨P.responses (b.commands.map Command.sent) x⟩, P.after (b.commands.map Command.sent) x)
  aligned b x r x' h := by
    cases h
    rw [length_responses, List.length_map]

/-! ## Outcomes -/

/-- What a script answers to the queries of some commands. -/
theorem exists_answers (cs : List (Bool × PyStr)) (x : σ) :
    ∃ answers : ℕ → PyStr, responsesFrom answers 0 cs = P.responses cs x := by
  have hscript : ∀ (cs : List (Bool × PyStr)) (x : σ) (pre : List PyStr), ∃ post : List PyStr,
      responsesFrom (fun i => (pre ++ post).getD i []) pre.length cs = P.responses cs x := by
    intro cs
    induction cs with
    | nil => exact fun _ _ => ⟨[], rfl⟩
    | cons c cs ih =>
      intro x pre
      obtain ⟨_ | _, text⟩ := c
      · obtain ⟨post, hpost⟩ := ih (P.write text x) pre
        exact ⟨post, congrArg (none :: ·) hpost⟩
      · obtain ⟨post, hpost⟩ := ih (P.query text x).2 (pre ++ [(P.query text x).1])
        refine ⟨(P.query text x).1 :: post, ?_⟩
        rw [List.length_append, ← List.append_cons] at hpost
        rw [responsesFrom, responses]
        refine congrArg₂ _ ?_ hpost
        rw [List.getD_append_right _ _ _ _ le_rfl, Nat.sub_self]
        rfl
  obtain ⟨post, hpost⟩ := hscript cs x []
  exact ⟨_, hpost⟩

section
variable [PyText]

/-- The outcomes of operations, one after the other. -/
def outcomes : List PendingOperation → σ → List (Except PyExc PyVal)
  | [], _ => []
  | op :: ops, x => op.outcome (P.responses op.texts x) :: outcomes ops (P.after op.texts x)

/-- A script with the answers of the supply leads to its outcomes. -/
theorem outcomes_eq {answers : ℕ → PyStr} {ops : List PendingOperation} {n : ℕ} {x : σ}
    (h : responsesFrom answers n (textsOf ops) = P.responses (textsOf ops) x) :
    outcomesFrom answers n ops = P.outcomes ops x := by
  induction ops generalizing n x with
  | nil => rfl
  | cons op ops ih =>
    have htexts : textsOf (op :: ops) = op.texts ++ textsOf ops := List.flatMap_cons
    rw [htexts, responsesFrom_append, responses_append] at h
    obtain ⟨hown, hrest⟩ := List.append_inj h (by rw [length_responsesFrom, length_responses])
    rw [outcomesFrom, outcomes, hown, ih hrest]

/-! ## The driver on a supply -/

omit [PyText] in
theorem execute_batchOf {ops : List PendingOperation} {batch : CommandBatch}
    (hb : BatchOf ops batch) (x : σ) :
    P.executor.execute batch x = (.ok ⟨P.responses (textsOf ops) x⟩, P.after (textsOf ops) x) := by
  rw [← (show batch.commands.map Command.sent = textsOf ops from hb)]
  rfl

/-- What a driver makes of operations depends on what its executor makes of the batch. -/
theorem executePending_alike {ε ε' : Type} {E : Executor ε} {E' : Executor ε'}
    {ops : List PendingOperation} {batch : CommandBatch} (hb : BatchOf ops batch) {x x' : ε}
    {y y' : ε'} {r : Except PyExc BatchResult} (h : E.execute batch x = (r, x'))
    (h' : E'.execute batch y = (r, y')) (ds : Deferreds) :
    executePending E ops x ds =
      ((executePending E' ops y ds).1, x', (executePending E' ops y ds).2.2) := by
  obtain ⟨p, hp, hcommands⟩ := hb.planned
  unfold executePending
  rw [hp.plan]
  dsimp only
  rw [executePlan_eq E hcommands, executePlan_eq E' hcommands, h, h']

variable {P}

/-- What the driver makes of operations. -/
theorem executePending_supplied {ops : List PendingOperation} (hne : ops ≠ [])
    (hv : ∀ op ∈ ops, op.Valid) (hn : (deferredsOf ops).Nodup) (x : σ) {h : Deferreds}
    (hp : ∀ r, .read r ∈ ops → h r.deferred = .pending (SPD3000.label r.commands)) :
    ∃ h', executePending P.executor ops x h =
        (firstError (P.outcomes ops x), P.after (textsOf ops) x, h') ∧
      ∀ r ∈ readsFrom 0 ops, (h' r.operation.deferred).getValue =
        readOutcome (P.responses (textsOf ops) x) (SPD3000.label r.operation.commands) r := by
  obtain ⟨answers, hanswers⟩ := P.exists_answers (textsOf ops) x
  obtain ⟨batch, hb, hscript⟩ := textsOf_batch hne hv answers ⟨[], 0⟩
  obtain ⟨h', hrun, hown⟩ := executePending_scripted hne hv hn answers ⟨[], 0⟩ hp
  rw [hanswers] at hscript hown
  refine ⟨h', ?_, hown⟩
  rw [executePending_alike hb (P.execute_batchOf hb x) hscript, hrun, P.outcomes_eq hanswers]

/-- The execution of a single operation. -/
theorem executePending_one {p : PendingOperation} (hv : p.Valid) (x : σ) {h : Deferreds}
    (hp : ∀ r, p = .read r → h r.deferred = .pending (SPD3000.label r.commands)) :
    ∃ h', executePending P.executor [p] x h =
        ((p.outcome (P.responses p.texts x)).map fun _ => (), P.after p.texts x, h') ∧
      ∀ r, p = .read r → (h' r.deferred).getValue = p.outcome (P.responses p.texts x) := by
  have htexts : textsOf [p] = p.texts := List.flatMap_singleton ..
  have hvalid : ∀ op ∈ [p], op.Valid := by simpa using hv
  obtain ⟨answers, hanswers⟩ := P.exists_answers p.texts x
  obtain ⟨batch, hb, hscript⟩ := textsOf_batch (List.cons_ne_nil p []) hvalid answers ⟨[], 0⟩
  obtain ⟨h', hrun, hown⟩ := executePending_single answers hv ⟨[], 0⟩ hp
  have hexecute := P.execute_batchOf hb x
  rw [htexts] at hscript hexecute
  rw [hanswers] at hscript hrun hown
  refine ⟨h', ?_, hown⟩
  rw [executePending_alike hb hexecute hscript, hrun]

/-- A call outside of a batch scope has the outcome of its operation. -/
theorem call_supplied {op : Operation} (hop : op.override = none) {d : SPD3000 σ}
    (ha : d.batchActive = false) {p : PendingOperation}
    (hp : p = op.pending d.shouldVerifyWrites d.nextDeferred) (hv : p.Valid) :
    ∃ h, op.call P.executor d = ((p.outcome (P.responses p.texts d.executor)).map .value,
      { d with
        executor := P.after p.texts d.executor
        deferreds := h
        nextDeferred := d.nextDeferred + op.created }) := by
  cases op with
  | write override command verification reason =>
    obtain rfl : override = none := hop
    obtain ⟨h, hrun, -⟩ := executePending_one (P := P) hv d.executor (h := d.deferreds)
      (by rintro r rfl; cases hp)
    have houtcome : p.outcome (P.responses p.texts d.executor) =
        (p.outcome (P.responses p.texts d.executor)).map fun _ => .none := by
      rw [hp]
      exact outcome_write ..
    generalize p.outcome (P.responses p.texts d.executor) = o at hrun houtcome
    have hreturn : (o.map fun _ => ()).map (fun _ => Returned.value .none) = o.map .value := by
      rw [houtcome]
      cases o <;> rfl
    refine ⟨h, ?_⟩
    have hwrite := write_alone ha (hp ▸ hrun)
    rw [Operation.call]
    dsimp only
    rw [hwrite, hreturn, ← hp]
    rfl
  | read commands hne parser =>
    obtain ⟨h, hrun, hown⟩ := executePending_one (P := P) hv d.executor
      (h := Function.update d.deferreds d.nextDeferred (.pending (SPD3000.label commands)))
      (by
        rintro r rfl
        cases hp
        exact Function.update_self ..)
    have hvalue := hown _ hp
    generalize p.outcome (P.responses p.texts d.executor) = o at hrun hvalue
    rw [hp, Operation.pending] at hrun
    refine ⟨h, ?_⟩
    rw [hp, Operation.call, read_alone ha hrun, hvalue]
    cases o <;> rfl

/-- Calls one by one return the values of the outcomes up to the first exception. -/
theorem callAll_supplied {ops : List Operation} (hops : ∀ op ∈ ops, op.override = none)
    {d : SPD3000 σ} (ha : d.batchActive = false) (hv : ∀ p ∈ d.collects ops, p.Valid) :
    (callAll P.executor ops d).1 =
      ((P.outcomes (d.collects ops) d.executor).mapM id).map (List.map .value) := by
  induction ops generalizing d with
  | nil => rfl
  | cons op ops ih =>
    rw [List.forall_mem_cons] at hops
    have hcons : d.collects (op :: ops) = op.pending d.shouldVerifyWrites d.nextDeferred ::
        pendingFrom d.shouldVerifyWrites (d.nextDeferred + op.created) ops := rfl
    rw [hcons, List.forall_mem_cons] at hv
    obtain ⟨h, hcall⟩ := call_supplied (P := P) hops.1 ha rfl hv.1
    have hrest : (callAll P.executor ops { d with
          executor := P.after (op.pending d.shouldVerifyWrites d.nextDeferred).texts d.executor
          deferreds := h
          nextDeferred := d.nextDeferred + op.created }).1 =
        ((P.outcomes (pendingFrom d.shouldVerifyWrites (d.nextDeferred + op.created) ops)
          (P.after (op.pending d.shouldVerifyWrites d.nextDeferred).texts d.executor)).mapM id).map
            (List.map .value) := ih hops.2 ha hv.2
    rw [hcons, outcomes, callAll, hcall, List.mapM_cons]
    generalize (P.outcomes (pendingFrom _ _ _) _).mapM id = vs at hrest ⊢
    cases (op.pending d.shouldVerifyWrites d.nextDeferred).outcome _ with
    | error e => rfl
    | ok v =>
      dsimp only [Except.map]
      rw [hrest]
      cases vs <;> rfl

/-- A batch scope raises the first exception among the outcomes, and each read has its own. -/
theorem batchScope_supplied {ops : List Operation} {d : SPD3000 σ} (ha : d.batchActive = false)
    (hv : ∀ p ∈ d.collects ops, p.Valid) :
    (d.batchScope P.executor (scopeBody P.executor ops none)).1 =
        (firstError (P.outcomes (d.collects ops) d.executor)).map
          (fun _ => collectedFrom d.nextDeferred ops) ∧
      ∀ i o, (Returned.deferred i, o) ∈
          (collectedFrom d.nextDeferred ops).zip (P.outcomes (d.collects ops) d.executor) →
        ((d.batchScope P.executor (scopeBody P.executor ops none)).2.deferreds i).getValue = o := by
  by_cases hne : ops = []
  · subst hne
    rw [batchScope_empty ha]
    exact ⟨rfl, fun i o hmem => by cases hmem⟩
  · obtain ⟨h, hc, herr, hok⟩ := batchScope_completed (E := P.executor) ha hne
    have hpending : d.collects ops ≠ [] := by
      cases ops with
      | nil => exact absurd rfl hne
      | cons op ops => exact List.cons_ne_nil _ _
    have hnodup : (deferredsOf (d.collects ops)).Nodup := by
      rw [deferredsOf_pendingFrom]
      exact List.nodup_range'
    obtain ⟨answers, hanswers⟩ := P.exists_answers (textsOf (d.collects ops)) d.executor
    have houtcomes := P.outcomes_eq hanswers
    obtain ⟨h', hrun, hown⟩ := executePending_supplied (P := P) hpending hv hnodup d.executor
      (h := h) hc.created
    have hread : ∀ i o, (Returned.deferred i, o) ∈
        (collectedFrom d.nextDeferred ops).zip (P.outcomes (d.collects ops) d.executor) →
          (h' i).getValue = o := by
      intro i o hmem
      rw [← houtcomes] at hmem
      obtain ⟨p, hp, rfl, ho⟩ := mem_zip_outcomes answers _ ops _ [] _ hmem
      rw [hown p hp, ← hanswers]
      exact ho
    cases hfirst : firstError (P.outcomes (d.collects ops) d.executor) with
    | error e =>
      rw [hfirst] at hrun
      rw [herr e _ h' hrun]
      exact ⟨rfl, hread⟩
    | ok _ =>
      rw [hfirst] at hrun
      have hex := executePending_spec P.executor hpending hnodup d.executor h
      rw [hrun] at hex
      obtain ⟨vs, hvs⟩ := hex.values hc.awaiting
      rw [hok _ h' vs hrun hvs]
      exact ⟨rfl, hread⟩

end

/-! ## Sessions -/

/-- The answers to queries, one after the other. -/
def queries : List PyStr → σ → List PyStr × σ
  | [], x => ([], x)
  | text :: texts, x =>
    let (answers, x') := queries texts (P.query text x).2
    ((P.query text x).1 :: answers, x')

end Supply

/-- The exception says that a command could not be verified. -/
def Blames (command : PyStr) (e : PyExc) : Prop :=
  e.cls = .spd3000VerificationError ∧ e.getattr "command" = .str command

/-- What a verified call ends in, and how it leaves the supply. -/
inductive Supply.Outcome {m : Model} {σ : Type} (P : Supply m σ) (x : σ) (call : SemanticCall) :
    Operation → Except PyExc PyVal → σ → Prop
  /-- After the write, the panel shows the requested value. -/
  | confirmed {command : PyStr} {verification : Option Verification} {reason : Option PyStr}
    {s : Setting} {v : s.Value} (hrequested : call.requested = some ⟨s, v⟩) (hs : s.Readable m)
    (hpanel : P.panel (P.write command x) s = v) :
    Outcome P x call (.write none command verification reason) (.ok .none)
      (P.query s.query (P.write command x)).2
  /-- After the write, the panel shows something else. -/
  | refuted {command : PyStr} {verification : Option Verification} {reason : Option PyStr}
    {s : Setting} {v : s.Value} {e : PyExc} (hrequested : call.requested = some ⟨s, v⟩)
    (hs : s.Readable m) (hpanel : P.panel (P.write command x) s ≠ v) (he : Blames command e) :
    Outcome P x call (.write none command verification reason) (.error e)
      (P.query s.query (P.write command x)).2
  /-- The supply cannot be asked for what is written. -/
  | unverifiable {command : PyStr} {verification : Option Verification} {reason : Option PyStr}
    {e : PyExc} (hrequested : ∀ s v, call.requested = some ⟨s, v⟩ → ¬ s.Readable m)
    (he : Blames command e) :
    Outcome P x call (.write none command verification reason) (.error e) (P.write command x)
  | shown {commands : List PyStr} {nonempty : commands ≠ []}
    {parser : Parser (List PyStr) .exception} {s : Setting} (hasks : call.asks = some s) :
    Outcome P x call (.read commands nonempty parser) (.ok (s.toVal (P.panel x s)))
      (P.query s.query x).2
  | answered {commands : List PyStr} {nonempty : commands ≠ []}
    {parser : Parser (List PyStr) .exception} (hasks : call.asks = none) :
    Outcome P x call (.read commands nonempty parser) (parser.parse (P.queries commands x).1)
      (P.queries commands x).2

/-- What verified calls end in, each in the state that the calls before it have left. -/
inductive Supply.Session {m : Model} {σ : Type} (P : Supply m σ) :
    List (SemanticCall × Operation) → σ → List (Except PyExc PyVal) → Prop
  | nil {x : σ} : Session P [] x []
  | cons {call : SemanticCall} {op : Operation} {calls : List (SemanticCall × Operation)} {x x' : σ}
    {o : Except PyExc PyVal} {os : List (Except PyExc PyVal)} (ho : P.Outcome x call op o x')
    (hos : Session P calls x' os) : Session P ((call, op) :: calls) x (o :: os)

/-- The numbers that a call requests have few decimal places, and a mask is ones followed by
    zeros. -/
def SemanticCall.Brief (call : SemanticCall) : Prop :=
  ∀ s v, call.requested = some ⟨s, v⟩ → s.Brief v

section
variable [PyText] {m : Model} {σ : Type} {P : Supply m σ}

omit [PyText] in
theorem Supply.responses_queries (texts : List PyStr) (x : σ) :
    P.responses (texts.map (true, ·)) x = (P.queries texts x).1.map some ∧
      P.after (texts.map (true, ·)) x = (P.queries texts x).2 := by
  induction texts generalizing x with
  | nil => exact ⟨rfl, rfl⟩
  | cons text texts ih =>
    obtain ⟨hresponses, hafter⟩ := ih (P.query text x).2
    exact ⟨congrArg (some _ :: ·) hresponses, hafter⟩

omit [PyText] in
theorem mapM_some (texts : List PyStr) : (texts.map some).mapM id = some texts := by
  induction texts with
  | nil => rfl
  | cons text texts ih =>
    rw [List.map_cons, List.mapM_cons, ih]
    rfl

/-- The comparison of a readback is a comparison with the panel. -/
theorem checkReadback_shown {s : Setting} {v v' : s.Value} {response : PyStr}
    (hpanel : s.Brief v') (hshows : s.Shows v' response) (hbrief : s.Brief v) (hfits : s.Fits v)
    {w : PendingWrite}
    {verification : Verification} {readback : Readback}
    (hparse : s.ReadBy readback.parser.parse) (hexpected : verification.expected = s.toVal v) :
    (v' = v ∧ checkReadback w verification readback (some response) = none) ∨
      (v' ≠ v ∧ ∃ e, checkReadback w verification readback (some response) = some e ∧
        Blames w.command e) := by
  rw [checkReadback, hparse v' response hpanel hshows, hexpected]
  have hequal := toVal_eq_iff hpanel hbrief hshows.fits hfits
  by_cases heq : v' = v
  · exact .inl ⟨heq, if_pos (hequal.2 heq)⟩
  · exact .inr ⟨heq, _, if_neg (mt hequal.1 heq), rfl, rfl⟩

/-- One verified call. -/
theorem Supply.outcome_spec {call : SemanticCall} {op : Operation}
    (hc : Operation.Concerns m call op) (hbrief : call.Brief) (x : σ) (i : ℕ) :
    P.Outcome x call op ((op.pending true i).outcome (P.responses (op.pending true i).texts x))
      (P.after (op.pending true i).texts x) := by
  cases hc with
  | @verified command verification readback s v hrequested hs hreadback hquery hparse hexpected =>
    have htexts : (PendingOperation.write ⟨command, some verification⟩).texts =
        [(false, command), (true, s.query)] := by
      simp [PendingOperation.texts, PendingWrite.readback, hreadback, hquery]
    have hpending : (Operation.write none command (some verification) none).pending true i =
        .write ⟨command, some verification⟩ := rfl
    have hresponse : (P.responses [(false, command), (true, s.query)] x)[1]?.getD none =
        some (P.query s.query (P.write command x)).1 := rfl
    rw [hpending, htexts, PendingOperation.outcome]
    dsimp only
    rw [hreadback]
    dsimp only
    rw [hresponse]
    have hv := hbrief s v hrequested
    have hchecked := checkReadback_shown (w := ⟨command, some verification⟩)
      (P.brief (P.write command x) s hs) (P.honest (P.write command x) s hs) hv
      (SemanticCall.requested_fits hrequested) hparse (hexpected hv)
    obtain ⟨heq, hnone⟩ | ⟨hne, e, hsome, he⟩ := hchecked
    · rw [hnone]
      exact .confirmed hrequested hs heq
    · rw [hsome]
      exact .refuted hrequested hs hne he
  | @unverified command verification reason hreadback hrequested =>
    obtain ⟨v, hv, hnone⟩ : ∃ v,
        SPD3000.selectVerification true verification reason = some v ∧ v.readback = none := by
      cases verification with
      | none => exact ⟨_, rfl, rfl⟩
      | some v => exact ⟨v, rfl, hreadback v rfl⟩
    have hpending : (Operation.write none command verification reason).pending true i =
        .write ⟨command, some v⟩ := by
      rw [← hv]
      rfl
    have htexts : (PendingOperation.write ⟨command, some v⟩).texts = [(false, command)] := by
      simp [PendingOperation.texts, PendingWrite.readback, hnone]
    rw [hpending, htexts, PendingOperation.outcome]
    dsimp only
    rw [hnone]
    exact .unverifiable hrequested ⟨rfl, rfl⟩
  | @read commands nonempty parser hasks =>
    have hresponses := P.responses_queries commands x
    have houtcome : (PendingOperation.read ⟨commands, nonempty, parser, i⟩).outcome
        (P.responses (commands.map (true, ·)) x) = parser.parse (P.queries commands x).1 := by
      rw [PendingOperation.outcome, hresponses.1, parseResponses, mapM_some]
    show P.Outcome x call _ ((PendingOperation.read ⟨commands, nonempty, parser, i⟩).outcome
      (P.responses (commands.map (true, ·)) x)) (P.after (commands.map (true, ·)) x)
    rw [houtcome, hresponses.2]
    cases h : call.asks with
    | none => exact .answered h
    | some s =>
      obtain ⟨hs, rfl, hparse⟩ := hasks s h
      have hvalue := hparse _ _ (P.brief x s hs) (P.honest x s hs)
      have hqueries : P.queries [s.query] x =
          ([(P.query s.query x).1], (P.query s.query x).2) := rfl
      rw [hqueries]
      dsimp only at hvalue ⊢
      rw [hvalue]
      exact .shown h

/-- Verified calls on a supply. -/
theorem Supply.session_spec {cs : List (SemanticCall × Operation)}
    (hcs : ∀ c ∈ cs, c.1.method m = .ok c.2) (hbrief : ∀ c ∈ cs, c.1.Brief) (x : σ) (i : ℕ) :
    P.Session cs x (P.outcomes (pendingFrom true i (cs.map Prod.snd)) x) := by
  induction cs generalizing x i with
  | nil => exact .nil
  | cons c cs ih =>
    rw [List.forall_mem_cons] at hcs hbrief
    exact .cons (Supply.outcome_spec (method_concerns m c.1 c.2 hcs.1) hbrief.1 x i)
      (ih hcs.2 hbrief.2 _ _)

theorem method_valid {cs : List (SemanticCall × Operation)}
    (hcs : ∀ c ∈ cs, c.1.method m = .ok c.2) (verify : Bool) (i : ℕ) :
    ∀ p ∈ pendingFrom verify i (cs.map Prod.snd), p.Valid := by
  induction cs generalizing i with
  | nil => exact List.forall_mem_nil _
  | cons c cs ih =>
    rw [List.forall_mem_cons] at hcs
    refine List.forall_mem_cons.2 ⟨?_, ih hcs.2 _⟩
    exact ((method_documented m c.1 c.2 hcs.1).pending verify i).valid (form_sendable c.1)

theorem method_override {cs : List (SemanticCall × Operation)}
    (hcs : ∀ c ∈ cs, c.1.method m = .ok c.2) : ∀ op ∈ cs.map Prod.snd, op.override = none := by
  intro op hop
  obtain ⟨⟨call, op⟩, hc, rfl⟩ := List.mem_map.1 hop
  cases method_concerns m call op (hcs _ hc) <;> rfl

/-- **Verification is exact.**  On a supply that tells the truth, verified calls end, one by one as
    well as in a batch scope, in what the panel shows: a write returns if the panel shows the
    requested value after it, and else raises an exception that names the command; a read returns
    what the panel shows. -/
theorem verification_exact (P : Supply m σ) {d : SPD3000 σ} (ha : d.batchActive = false)
    (hverify : d.shouldVerifyWrites = true) {cs : List (SemanticCall × Operation)}
    (hcs : ∀ c ∈ cs, c.1.method m = .ok c.2) (hbrief : ∀ c ∈ cs, c.1.Brief) :
    ∃ os, P.Session cs d.executor os ∧
      (callAll P.executor (cs.map Prod.snd) d).1 = (os.mapM id).map (List.map .value) ∧
      (d.batchScope P.executor (scopeBody P.executor (cs.map Prod.snd) none)).1 =
        (firstError os).map (fun _ => collectedFrom d.nextDeferred (cs.map Prod.snd)) ∧
      ∀ i o, (Returned.deferred i, o) ∈ (collectedFrom d.nextDeferred (cs.map Prod.snd)).zip os →
        ((d.batchScope P.executor
          (scopeBody P.executor (cs.map Prod.snd) none)).2.deferreds i).getValue = o := by
  have hv : ∀ p ∈ d.collects (cs.map Prod.snd), p.Valid := method_valid hcs _ _
  refine ⟨P.outcomes (d.collects (cs.map Prod.snd)) d.executor, ?_,
    Supply.callAll_supplied (method_override hcs) ha hv, Supply.batchScope_supplied ha hv⟩
  rw [SPD3000.collects, hverify]
  exact Supply.session_spec hcs hbrief _ _

end

/-! ## A supply that only switches CH1 -/

/-- The answers of a supply; the first argument says whether CH1 is on. -/
def switchAnswer (on : Bool) (text : PyStr) : PyStr :=
  if (lit "TIMER").isPrefixOf text then "0,0,0"
  else if text = lit "SYST:STAT?" then (if on then "0x14" else "0x4")
  else if text = lit "INST?" then "CH1"
  else if text = lit "IPADDR?" then "0.0.0.0"
  else if text = lit "MASKADDR?" then "255.255.255.0"
  else if text = lit "GATEADDR?" then "0.0.0.0"
  else if text = lit "DHCP?" then "OFF"
  else if text = lit "*LOCK?" then "UNLOCK"
  else "0"

def switchPanel (on : Bool) : (s : Setting) → s.Value
  | .voltage _ | .current _ => (0 : ℚ)
  | .output c => decide (c = .ch1) && on
  | .tracking => OperatingMode.independent
  | .waveform _ | .timer _ | .dhcp | .locked => false
  | .timerStep _ _ => ((0 : ℚ), (0 : ℚ), (0 : ℚ))
  | .instrument => Channel.ch1
  | .ipaddr | .gateaddr => (0 : ℕ)
  | .maskaddr => (4294967040 : ℕ)

theorem short_zero : Short 0 := ⟨by norm_num, 0, by norm_num⟩

theorem literal_zero : Literal (lit "0") 0 :=
  ⟨⟨0, 0⟩, by decide, by norm_num [PyDecimal.signed, Decimals.Dec.value]⟩

theorem switch_status (on : Bool) :
    intLiteral (strip (switchAnswer on (lit "SYST:STAT?"))) = some (if on then 20 else 4) := by
  cases on <;> decide

theorem switch_brief (on : Bool) (s : Setting) : s.Brief (switchPanel on s) := by
  cases s with
  | voltage | current => exact short_zero
  | timerStep => exact ⟨short_zero, short_zero, short_zero⟩
  | maskaddr => exact ⟨24, by decide, show (4294967040 : ℕ) = Masks.netmask 32 24 by decide⟩
  | _ => exact trivial

/-- The answers show what is on the panel. -/
theorem switch_honest (on : Bool) {s : Setting} (hs : s.Readable .spd3303X) :
    s.Shows (switchPanel on s) (switchAnswer on s.query) := by
  cases s with
  | voltage c =>
    have hanswer : strip (switchAnswer on (Setting.voltage c).query) = lit "0" := by
      cases c <;> cases on <;> decide
    show Literal (strip _) 0
    rw [hanswer]
    exact literal_zero
  | current c =>
    have hanswer : strip (switchAnswer on (Setting.current c).query) = lit "0" := by
      cases c <;> cases on <;> decide
    show Literal (strip _) 0
    rw [hanswer]
    exact literal_zero
  | output c =>
    refine ⟨_, switch_status on, ?_⟩
    cases c with
    | ch3 => exact absurd rfl hs
    | _ => cases on <;> decide
  | waveform c | timer c => exact ⟨_, switch_status on, by cases c <;> cases on <;> decide⟩
  | tracking => exact ⟨_, switch_status on, by cases on <;> rfl⟩
  | timerStep c group =>
    have hstart : (lit "TIMER").isPrefixOf (Timer.stepQuery c group) = true := by
      rw [List.isPrefixOf_iff_prefix, Timer.stepQuery, List.append_assoc, List.append_assoc]
      exact ⟨lit ":SET? " ++ (c.value ++ (lit "," ++ digitsText group.toNat)), rfl⟩
    refine ⟨lit "0", lit "0", lit "0", ?_, literal_zero, literal_zero, literal_zero⟩
    rw [Setting.query, switchAnswer, if_pos hstart]
    decide
  | instrument => exact ⟨Channel.noConfusion, by cases on <;> decide⟩
  | ipaddr | gateaddr =>
    show ipv4Address _ = some 0
    cases on <;> decide
  | maskaddr =>
    show ipv4Address _ = some 4294967040
    cases on <;> decide
  | dhcp =>
    left
    show upper _ ∈ switchWords false
    cases on <;> decide
  | locked => exact .inr (by cases on <;> decide)

/-- A supply that knows a single command. -/
def switchSupply : Supply .spd3303X Bool where
  panel := switchPanel
  write text on := if text = lit "OUTP CH1,ON" then true else on
  query text on := (switchAnswer on text, on)
  brief on s _ := switch_brief on s
  honest on _ hs := switch_honest on hs

/-- The getter of an output. -/
def outputRead [PyText] (c : Channel) : SemanticCall × Operation :=
  (.getOutput c, queryOf "SYST:STAT?"
    (statusResponse .spd3303X fun status => .bool (status.channel c).output)
    fun response =>
      (statusResponse_raises .spd3303X _ response).imp fun _ => ProtocolError.response)

/-- Both outputs are switched on, and one of them is read. -/
def switchCalls [PyText] : List (SemanticCall × Operation) := [
  (.output (.str "ch1") (.str "on"), writeOf "OUTP CH1,ON" (verifiedByStatus .spd3303X (.bool true)
    fun status => .bool (status.channel .ch1).output)),
  (.output (.str "ch2") (.str "on"), writeOf "OUTP CH2,ON" (verifiedByStatus .spd3303X (.bool true)
    fun status => .bool (status.channel .ch2).output)),
  outputRead .ch1]

theorem switchCalls_accepted [PyText] : ∀ c ∈ switchCalls, c.1.method .spd3303X = .ok c.2 := by
  simp only [switchCalls, List.forall_mem_cons]
  exact ⟨rfl, rfl, rfl, List.forall_mem_nil _⟩

theorem switchCalls_brief [PyText] : ∀ c ∈ switchCalls, c.1.Brief := by
  simp only [switchCalls, List.forall_mem_cons]
  refine ⟨?_, ?_, ?_, List.forall_mem_nil _⟩ <;> rintro s v ⟨⟩ <;> trivial

/-- The write to CH1 is confirmed and the one to CH2 is not; the read shows that CH1 is on. -/
theorem switch_verified : ∃ os, switchSupply.Session (@switchCalls PyText.blank) false os ∧
    (@callAll _ PyText.blank switchSupply.executor ((@switchCalls PyText.blank).map Prod.snd)
      (.make false true)).1 = (os.mapM id).map (List.map .value) ∧
    os.map Except.toOption = [some .none, none, some (.bool true)] := by
  let _ : PyText := PyText.blank
  obtain ⟨os, hsession, halone, -⟩ := verification_exact switchSupply (d := .make false true) rfl
    rfl switchCalls_accepted switchCalls_brief
  refine ⟨os, hsession, halone, ?_⟩
  obtain ⟨⟩ | ⟨hfirst, ⟨⟩ | ⟨hsecond, ⟨⟩ | ⟨hthird, ⟨⟩⟩⟩⟩ := hsession
  cases hfirst with
  | refuted hrequested hs hpanel => cases hrequested; exact absurd rfl hpanel
  | unverifiable hrequested => exact absurd Channel.noConfusion (hrequested _ _ rfl)
  | confirmed =>
    cases hsecond with
    | confirmed hrequested hs hpanel => cases hrequested; cases hpanel
    | unverifiable hrequested => exact absurd Channel.noConfusion (hrequested _ _ rfl)
    | refuted =>
      cases hthird with
      | answered hasks => cases hasks
      | shown hasks => cases hasks; rfl

end Spd3000
