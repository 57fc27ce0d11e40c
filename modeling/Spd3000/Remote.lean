/-
  The driver over a gateway (`gateway/client.py` and `gateway/server.py` under
  `driver.py`).

  A client with an open session, the handler it is connected to and what executes
  batches behind the owner make one executor, `remote`.  `Exchange.executed` says
  what becomes of one batch; over whole programs the driver then does what it
  does directly on the physical executor.
-/
import Spd3000.Simulation

namespace Spd3000

variable {ε : Type}

/-! ## The physical side -/

/-- A batch with its outcome. -/
abbrev Outcome := CommandBatch × Except PyExc BatchResult

/-- The executor, with a log of the batches it has been handed and their outcomes. -/
def Executor.observed (E : Executor ε) : Executor (ε × List Outcome) where
  execute b x := ((E.execute b x.1).1, (E.execute b x.1).2, x.2 ++ [(b, (E.execute b x.1).1)])
  aligned b x r _ h := E.aligned b x.1 r (E.execute b x.1).2 (Prod.ext (Prod.mk.inj h).1 rfl)

section
variable [PyText]

/-! ## The gateway as an executor -/

/-- A client, and the executor behind the gateway it is connected to. -/
structure Remote (ε : Type) where
  client : GatewayExecutor
  physical : ε

namespace Remote
variable (g : GatewayServer) (J : Codec) (session : Session) (beats : ℕ → List PyStr)
  (E : Executor ε)

/-- The owner, while it has the next request of the client. -/
def owner (x : Remote ε) :
    CommandBatch → ExecutionSettings → List PyStr × Except PyExc BatchResult :=
  ownerOf (beats x.client.nextId) fun b => (E.execute b x.physical).1

/-- The batches that reach the owner when the client executes a batch. -/
def submitted (batch : CommandBatch) (x : Remote ε) : List CommandBatch :=
  if x.client.closed then []
  else match batch.commands.mapM serializeCommand with
    | .error _ => []
    | .ok commands => match J.encodeMessage (requestMessage (.int x.client.nextId) "execute"
        [("commands", .list commands)]) with
      | .error _ => []
      | .ok data => (submittedBatches (g.serveRequest J session (x.owner beats E) data)).map (·.1)

/-- A client that would wait for ever runs into the timeout of its socket. -/
def execute (batch : CommandBatch) (x : Remote ε) : Except PyExc BatchResult × Remote ε :=
  let (result, client) := x.client.execute J (g.stream J session (x.owner beats E)) batch
  (result.getD (.error (requestFailed (.msg .timeoutError "timed out"))),
    ⟨client, (x.submitted g J session beats E batch).foldl (fun y b => (E.execute b y).2)
      x.physical⟩)

end Remote

omit [PyText] in
theorem length_textOrNone {values : List PyVal} {texts : List (Option PyStr)}
    (h : values.mapM GatewayExecutor.textOrNone = some texts) : texts.length = values.length := by
  induction values generalizing texts with
  | nil => cases h; rfl
  | cons v values ih =>
    rw [List.mapM_cons] at h
    obtain ⟨text, -, h⟩ := Option.bind_eq_some_iff.1 h
    obtain ⟨texts, htexts, h⟩ := Option.bind_eq_some_iff.1 h
    cases h
    rw [List.length_cons, List.length_cons, ih htexts]

omit [PyText] in
/-- What passes the checks of the client has a value for each command. -/
theorem batchResult_length {batch : CommandBatch} {result : PyVal} {r : BatchResult}
    (h : GatewayExecutor.batchResult batch result = .ok r) :
    r.values.length = batch.commands.length := by
  unfold GatewayExecutor.batchResult at h
  split at h
  · split at h
    · split at h
      · rename_i hvalues
        split_ifs at h with hlength
        cases h
        rw [length_textOrNone hvalues, hlength]
      · cases h
    · cases h
  · cases h

theorem client_aligned {J : Codec} {S : Stream} {batch : CommandBatch} {x x' : GatewayExecutor}
    {r : BatchResult} (h : x.execute J S batch = (some (.ok r), x')) :
    r.values.length = batch.commands.length := by
  unfold GatewayExecutor.execute at h
  split at h
  · cases h
  · rename_i commands _
    obtain ⟨result, y⟩ := x.request J S "execute" [("commands", .list commands)]
    have hresult := congrArg Prod.fst h
    dsimp only at hresult
    obtain ⟨v, -, hv⟩ := Option.map_eq_some_iff.1 hresult
    cases v with
    | error e => cases hv
    | ok v => exact batchResult_length hv

/-- The gateway, as the driver uses it. -/
def Remote.executor (g : GatewayServer) (J : Codec) (session : Session) (beats : ℕ → List PyStr)
    (E : Executor ε) : Executor (Remote ε) where
  execute := Remote.execute g J session beats E
  aligned b x r x' h := by
    have hresult := congrArg Prod.fst h
    rw [Remote.execute] at hresult
    dsimp only at hresult
    revert hresult
    generalize ho : x.client.execute J (g.stream J session (x.owner beats E)) b = o
    obtain ⟨result, client⟩ := o
    intro hresult
    cases result with
    | none => cases hresult
    | some result =>
      dsimp only [Option.getD_some] at hresult
      rw [hresult] at ho
      exact client_aligned ho

/-! ## One batch -/

omit [PyText] in
theorem SameException.symm {e e' : PyExc} (h : SameException e e') : SameException e' e :=
  ⟨h.cls.symm, h.args.symm, fun name hname => (h.annotations name hname).symm⟩

section
variable {loads : Bytes → Except PyExc PyVal} {beats : ℕ → List PyStr} {E : Executor ε}

/-- A batch that the gateway can carry as request `n`, with its outcome on the physical
    executor. -/
structure Passes (loads : Bytes → Except PyExc PyVal) (beats : ℕ → List PyStr) (n : ℕ)
    (batch : CommandBatch) (outcome : Except PyExc BatchResult) : Prop where
  exchange : Exchange loads ⟨n, false, []⟩ batch (beats n) outcome
  size : ∀ c ∈ batch.commands, c.text.length ≤ MAX_COMMAND_BYTES

variable (g : GatewayServer) (session : Session) {n : ℕ} {batch : CommandBatch} {y : ε}

/-- What the client makes of the response. -/
theorem resultOf_outcome {outcome : Except PyExc BatchResult} (h : Deliverable batch outcome) :
    ∃ r, SameResult outcome r ∧ (match resultOf (.int n) (finalResponse (.int n) outcome) with
      | .error e => .error e
      | .ok result => GatewayExecutor.batchResult batch result) = r := by
  cases h with
  | @returned result hlength =>
    refine ⟨_, .returned result, ?_⟩
    rw [resultOf_returned]
    exact batchResult_values hlength
  | raised he =>
    obtain ⟨e', hresult, hsame⟩ := resultOf_raised he n
    refine ⟨_, .raised hsame.symm, ?_⟩
    rw [hresult]

/-- The batch is executed once, and its outcome comes back. -/
theorem remote_execute (h : Passes loads beats n batch (E.execute batch y).1) :
    ∃ r, SameResult (E.execute batch y).1 r ∧
      (Remote.executor g (Json.codec loads) session beats E).execute batch ⟨⟨n, false, []⟩, y⟩ =
        (r, ⟨⟨n + 1, false, []⟩, (E.execute batch y).2⟩) := by
  obtain ⟨data, hencode, hsubmitted, hreceive⟩ := @Exchange.served _ loads ⟨n, false, []⟩ batch
    (beats n) (fun b => (E.execute b y).1) h.exchange h.size g session
  have hcommands : batch.commands.mapM serializeCommand = .ok (batch.commands.map commandPayload) :=
    mapM_eq_ok fun c hc => serializeCommand_short (h.size c hc)
  obtain ⟨r, hsame, hresult⟩ := resultOf_outcome (n := n) h.exchange.deliverable
  rw [executeMessage] at hencode
  have hphysical : Remote.submitted g (Json.codec loads) session beats E batch
      ⟨⟨n, false, []⟩, y⟩ = [batch] := by
    rw [Remote.submitted, if_neg Bool.false_ne_true, hcommands]
    dsimp only [Remote.owner]
    rw [hencode]
    dsimp only
    rw [hsubmitted]
    rfl
  have hclient : GatewayExecutor.execute (Json.codec loads)
      (g.stream (Json.codec loads) session (Remote.owner beats E ⟨⟨n, false, []⟩, y⟩)) batch
      ⟨n, false, []⟩ = (some r, ⟨n + 1, false, []⟩) := by
    have hwrite : (g.stream (Json.codec loads) session (ownerOf (beats n) fun b =>
        (E.execute b y).1)).write data = .ok data.length := rfl
    have hrequest : GatewayExecutor.request (Json.codec loads)
        (g.stream (Json.codec loads) session (Remote.owner beats E ⟨⟨n, false, []⟩, y⟩)) "execute"
        [("commands", .list (batch.commands.map commandPayload))] ⟨n, false, []⟩ =
        (some (resultOf (.int n) (finalResponse (.int n) (E.execute batch y).1)),
          ⟨n + 1, false, []⟩) := by
      rw [GatewayExecutor.request, if_neg Bool.false_ne_true]
      dsimp only [Remote.owner] at hencode hreceive ⊢
      rw [hencode]
      dsimp only
      rw [hwrite]
      dsimp only
      rw [List.take_length, List.nil_append, hreceive]
      rfl
    rw [GatewayExecutor.execute, hcommands]
    dsimp only
    rw [hrequest, ← hresult]
    rfl
  refine ⟨r, hsame, ?_⟩
  have hexecute : Remote.execute g (Json.codec loads) session beats E batch ⟨⟨n, false, []⟩, y⟩ =
      (r, ⟨⟨n + 1, false, []⟩, (E.execute batch y).2⟩) := by
    rw [Remote.execute]
    dsimp only
    rw [hclient, hphysical]
    rfl
  exact hexecute

/-! ## Programs -/

end

end

/-! ## A program -/

/-- A batch scope with a write and a read, and a write after it. -/
def batchThenSave : Program :=
  .batch (fun _ => .write "OUTP CH2,ON" none none fun _ =>
    .read [lit "MEAS:CURR? CH1"] (List.cons_ne_nil _ _) ⟨fun _ => .ok .none, nofun⟩ fun _ =>
      .done (.ok .none)) fun _ =>
    .write "*SAV 1" none none fun r => .done (r.map fun _ => .none)

theorem batchThenSave_alike : batchThenSave.Alike batchThenSave :=
  .batch (fun _ => .write fun _ _ _ => .read fun _ _ _ => .done (.refl _)) fun _ _ _ =>
    .write fun _ _ hr => .done (hr.map _)

def onAndMeasure : CommandBatch :=
  ⟨[.write ⟨"OUTP CH2,ON", by decide⟩, .query ⟨"MEAS:CURR? CH1", by decide⟩], List.cons_ne_nil _ _⟩

def saveFirst : CommandBatch := ⟨[.write ⟨"*SAV 1", by decide⟩], List.cons_ne_nil _ _⟩

/-- The messages that the program leads to, with a heartbeat for the first batch. -/
def savingMessages : List PyDict :=
  [executeMessage (.int 2) onAndMeasure,
    @finalResponse PyText.blank (.int 2) (.ok ⟨[none, some (lit "1")]⟩),
    heartbeatMessage (.int 2) "executing", executeMessage (.int 3) saveFirst,
    @finalResponse PyText.blank (.int 3) (.ok ⟨[none]⟩)]

def savingBeats (n : ℕ) : List PyStr := if n = 2 then ["executing"] else []

end Spd3000
