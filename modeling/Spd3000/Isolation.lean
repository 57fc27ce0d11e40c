/-
  The threads of one driver do not disturb each other.

  The history of a run tells which batch scope is open and what has been
  collected in it, the verification scopes of each thread, and the global flag.
  The invariant (`Isolated`) compares the lock with the scopes and methods that
  the threads are in, and the fields of the driver with the history.  A thread
  that holds the lock finds all others at rest, so one step is a matter of one
  thread (`Consistent.step`).
-/
import Spd3000.Threads

namespace Spd3000

variable {ε τ : Type} [DecidableEq τ]

/-! ## What a history tells -/

def nextStatus (status : Option (τ × List PendingOperation)) (e : τ × Happening) :
    Option (τ × List PendingOperation) :=
  match e.2 with
  | .opened => some (e.1, [])
  | .collected op => status.map fun b => (b.1, b.2 ++ [op])
  | .closed _ _ => none
  | _ => status

/-- The open batch scope: its thread, and what has been collected in it. -/
def batchStatus (es : List (τ × Happening)) : Option (τ × List PendingOperation) :=
  es.foldl nextStatus none

def nextStack (t : τ) (stack : List Bool) (e : τ × Happening) : List Bool :=
  if e.1 = t then match e.2 with
    | .entered enabled => enabled :: stack
    | .left => stack.tail
    | _ => stack
  else stack

/-- The values of the verification scopes that a thread is in, the innermost one first. -/
def verifyStack (t : τ) (es : List (τ × Happening)) : List Bool := es.foldl (nextStack t) []

def nextFlag (flag : Bool) (e : τ × Happening) : Bool :=
  match e.2 with
  | .assigned enabled => enabled
  | _ => flag

/-- The global flag, which was `initially` set. -/
def globalFlag (initially : Bool) (es : List (τ × Happening)) : Bool := es.foldl nextFlag initially

/-- The verification decision of a thread. -/
def decision (initially : Bool) (t : τ) (es : List (τ × Happening)) : Bool :=
  (verifyStack t es).headD (globalFlag initially es)

/-- The batches handed to the executor. -/
def handedBatches (es : List (τ × Happening)) : List CommandBatch :=
  es.flatMap fun e => match e.2 with
    | .sent op => (batchOf [op]).toList
    | .closed ops true => (batchOf ops).toList
    | .executed batch => [batch]
    | _ => []

/-- A write carries a verification exactly if writes are to be verified. -/
def Decided (verify : Bool) (op : PendingOperation) : Prop :=
  ∀ w, op = .write w → w.verification.isSome = verify

/-- What may happen after a history. -/
structure Allowed (initially : Bool) (es : List (τ × Happening)) (e : τ × Happening) : Prop where
  /-- While a batch scope is open, only its thread does anything. -/
  own : ∀ u ops, batchStatus es = some (u, ops) → e.1 = u
  opened : e.2 = .opened → batchStatus es = none
  collected : ∀ op, e.2 = .collected op →
    (batchStatus es).isSome ∧ Decided (decision initially e.1 es) op
  sent : ∀ op, e.2 = .sent op → batchStatus es = none ∧ Decided (decision initially e.1 es) op
  /-- A batch scope ends with what has been collected in it. -/
  closed : ∀ ops executed, e.2 = .closed ops executed → batchStatus es = some (e.1, ops)
  executed : ∀ batch, e.2 = .executed batch →
    batchStatus es = none ∧ decision initially e.1 es = false

/-- Everything in a history was allowed when it happened. -/
def AllAllowed (initially : Bool) (es : List (τ × Happening)) : Prop :=
  ∀ before e after, es = before ++ e :: after → Allowed initially before e

/-- A happening that opens, collects, sends and closes nothing. -/
def Happening.harmless : Happening → Bool
  | .refused | .entered _ | .left | .assigned _ => true
  | _ => false

/-- The beginning or the end of a verification scope. -/
def Happening.ofStack : Happening → Bool
  | .entered _ | .left => true
  | _ => false

section
variable {initially : Bool} {es : List (τ × Happening)} {t : τ}

theorem Allowed.of_harmless (hown : ∀ u ops, batchStatus es = some (u, ops) → t = u) {x : Happening}
    (hx : x.harmless) : Allowed initially es (t, x) := by
  refine ⟨hown, ?_, ?_, ?_, ?_, ?_⟩
  · rintro rfl
    cases hx
  · rintro op rfl
    cases hx
  · rintro op rfl
    cases hx
  · rintro ops executed rfl
    cases hx
  · rintro batch rfl
    cases hx

theorem Allowed.of_opened (hown : ∀ u ops, batchStatus es = some (u, ops) → t = u)
    (hnone : batchStatus es = none) : Allowed initially es (t, .opened) := by
  refine ⟨hown, fun _ => hnone, ?_, ?_, ?_, ?_⟩
  · rintro _ ⟨⟩
  · rintro _ ⟨⟩
  · rintro _ _ ⟨⟩
  · rintro _ ⟨⟩

theorem Allowed.of_collected (hown : ∀ u ops, batchStatus es = some (u, ops) → t = u)
    {op : PendingOperation} (hopen : (batchStatus es).isSome)
    (hdecided : Decided (decision initially t es) op) : Allowed initially es (t, .collected op) := by
  refine ⟨hown, ?_, ?_, ?_, ?_, ?_⟩
  · rintro ⟨⟩
  · rintro _ ⟨⟩
    exact ⟨hopen, hdecided⟩
  · rintro _ ⟨⟩
  · rintro _ _ ⟨⟩
  · rintro _ ⟨⟩

theorem Allowed.of_sent (hown : ∀ u ops, batchStatus es = some (u, ops) → t = u)
    {op : PendingOperation} (hnone : batchStatus es = none)
    (hdecided : Decided (decision initially t es) op) : Allowed initially es (t, .sent op) := by
  refine ⟨hown, ?_, ?_, ?_, ?_, ?_⟩
  · rintro ⟨⟩
  · rintro _ ⟨⟩
  · rintro _ ⟨⟩
    exact ⟨hnone, hdecided⟩
  · rintro _ _ ⟨⟩
  · rintro _ ⟨⟩

theorem Allowed.of_closed (hown : ∀ u ops, batchStatus es = some (u, ops) → t = u)
    {ops : List PendingOperation} {executed : Bool} (hopen : batchStatus es = some (t, ops)) :
    Allowed initially es (t, .closed ops executed) := by
  refine ⟨hown, ?_, ?_, ?_, ?_, ?_⟩
  · rintro ⟨⟩
  · rintro _ ⟨⟩
  · rintro _ ⟨⟩
  · rintro _ _ ⟨⟩
    exact hopen
  · rintro _ ⟨⟩

theorem Allowed.of_executed (hown : ∀ u ops, batchStatus es = some (u, ops) → t = u)
    {batch : CommandBatch} (hnone : batchStatus es = none)
    (hdecision : decision initially t es = false) : Allowed initially es (t, .executed batch) := by
  refine ⟨hown, ?_, ?_, ?_, ?_, ?_⟩
  · rintro ⟨⟩
  · rintro _ ⟨⟩
  · rintro _ ⟨⟩
  · rintro _ _ ⟨⟩
  · rintro _ ⟨⟩
    exact ⟨hnone, hdecision⟩

end

section
variable (es : List (τ × Happening)) (e : τ × Happening)

omit [DecidableEq τ] in
@[simp] theorem batchStatus_concat : batchStatus (es ++ [e]) = nextStatus (batchStatus es) e := by
  rw [batchStatus, List.foldl_append]
  rfl

@[simp] theorem verifyStack_concat (t : τ) :
    verifyStack t (es ++ [e]) = nextStack t (verifyStack t es) e := by
  rw [verifyStack, List.foldl_append]
  rfl

omit [DecidableEq τ] in
@[simp] theorem globalFlag_concat (initially : Bool) :
    globalFlag initially (es ++ [e]) = nextFlag (globalFlag initially es) e := by
  rw [globalFlag, List.foldl_append]
  rfl

theorem allAllowed_concat {initially : Bool} (h : AllAllowed initially es)
    (he : Allowed initially es e) : AllAllowed initially (es ++ [e]) := by
  intro before e' after heq
  rcases List.eq_nil_or_concat after with rfl | ⟨after', last, rfl⟩
  · obtain ⟨rfl, hlast⟩ := List.append_inj' heq rfl
    cases hlast
    exact he
  · rw [List.concat_eq_append, ← List.cons_append, ← List.append_assoc] at heq
    obtain ⟨hinit, -⟩ := List.append_inj' heq rfl
    exact h before e' after' hinit

end

/-! ## The invariant of a thread that no other one disturbs -/

def OpenScope.override : OpenScope → Option Bool
  | batch => none
  | verifyWrites enabled => some enabled

def OpenScope.isBatch : OpenScope → Bool
  | batch => true
  | verifyWrites _ => false

/-- How often a thread holds the lock: once for each open scope, and once inside a method. -/
def DriverThread.load (h : DriverThread) : ℕ :=
  h.scopes.length + match h.activity with
    | .idle => 0
    | _ => 1

/-- The operations collected in the batch scope of a thread, until they are executed. -/
def DriverThread.collected (h : DriverThread) (d : SPD3000 ε) : Option (List PendingOperation) :=
  match h.activity with
  | .endingBatch _ pending _ _ => some pending
  | _ => if d.batchActive then some d.pendingOperations else none

/-- The fields of the driver, compared with the scopes of the only thread that uses it and with the
    history. -/
structure Consistent (initially : Bool) (t : τ) (h : DriverThread) (d : SPD3000 ε)
    (es : List (τ × Happening)) : Prop where
  overrides : d.verifyWritesOverrides = h.scopes.filterMap OpenScope.override
  stack : verifyStack t es = h.scopes.filterMap OpenScope.override
  flag : d.verifyWritesGlobally = globalFlag initially es
  active : h.scopes.countP OpenScope.isBatch = if d.batchActive then 1 else 0
  status : batchStatus es = (h.collected d).map (t, ·)
  ending : ∀ execute ops list ids, h.activity = .endingBatch execute ops list ids →
    d.batchActive = false
  decided : ∀ op, h.activity = .handing op → Decided d.shouldVerifyWrites op

variable {initially : Bool} {t : τ} {h : DriverThread} {d d' : SPD3000 ε}
  {es : List (τ × Happening)}

def Activity.isEnding : Activity → Bool
  | .endingBatch _ _ _ _ => true
  | _ => false

/-- A thread is neither handing over an operation nor at the end of a batch scope. -/
def Activity.plain : Activity → Bool
  | .handing _ | .endingBatch _ _ _ _ => false
  | _ => true

theorem Consistent.of_plain {scopes : List OpenScope} {a : Activity} (ha : a.plain)
    (hoverrides : d.verifyWritesOverrides = scopes.filterMap OpenScope.override)
    (hstack : verifyStack t es = scopes.filterMap OpenScope.override)
    (hflag : d.verifyWritesGlobally = globalFlag initially es)
    (hactive : scopes.countP OpenScope.isBatch = if d.batchActive then 1 else 0)
    (hstatus : batchStatus es = (DriverThread.collected ⟨scopes, a⟩ d).map (t, ·)) :
    Consistent initially t ⟨scopes, a⟩ d es := by
  refine ⟨hoverrides, hstack, hflag, hactive, hstatus, ?_, ?_⟩
  · rintro execute ops list ids rfl
    cases ha
  · rintro op rfl
    cases ha

theorem Consistent.decision (hc : Consistent initially t h d es) :
    d.shouldVerifyWrites = decision initially t es := by
  unfold SPD3000.shouldVerifyWrites Spd3000.decision
  rw [hc.stack, ← hc.overrides, ← hc.flag]
  cases d.verifyWritesOverrides <;> rfl

/-- What the scopes of the driver are. -/
structure SameScopes (d d' : SPD3000 ε) : Prop where
  overrides : d'.verifyWritesOverrides = d.verifyWritesOverrides
  flag : d'.verifyWritesGlobally = d.verifyWritesGlobally
  active : d'.batchActive = d.batchActive
  pending : d'.pendingOperations = d.pendingOperations

theorem SameScopes.verify (hs : SameScopes d d') : d'.shouldVerifyWrites = d.shouldVerifyWrites := by
  unfold SPD3000.shouldVerifyWrites
  rw [hs.overrides, hs.flag]

section
variable [PyText] (E : Executor ε)

theorem executeOperations_scopes (ops : List PendingOperation) (d : SPD3000 ε) :
    SameScopes d (d.executeOperations E ops).2 := ⟨rfl, rfl, rfl, rfl⟩

theorem extend_scopes (list : ℕ) (ids : List ℕ) :
    ∀ d : SPD3000 ε, SameScopes d (SPD3000.extend list ids d).2 := by
  induction ids with
  | nil => exact fun d => ⟨rfl, rfl, rfl, rfl⟩
  | cons i ids ih =>
    intro d
    rw [SPD3000.extend]
    cases (d.deferreds i).getValue with
    | error e => exact ⟨rfl, rfl, rfl, rfl⟩
    | ok v =>
      obtain ⟨ho, hf, ha, hp⟩ := ih { d with
        lists := Function.update d.lists list (d.lists list ++ [v]) }
      exact ⟨ho, hf, ha, hp⟩

theorem finishBatch_scopes (execute : Bool) (pending : List PendingOperation)
    (responses : Option ℕ) (ids : List ℕ) (d : SPD3000 ε) :
    SameScopes d (d.finishBatch E execute pending responses ids).2 := by
  have hsame : SameScopes d d := ⟨rfl, rfl, rfl, rfl⟩
  cases execute with
  | false => exact ⟨rfl, rfl, rfl, rfl⟩
  | true =>
    have hsent : SameScopes d (if pending.isEmpty then (.ok (), d)
        else d.executeOperations E pending).2 := by
      split_ifs
      · exact hsame
      · exact executeOperations_scopes E pending d
    rw [SPD3000.finishBatch, if_neg (by simp)]
    generalize (if pending.isEmpty then (Except.ok (), d)
      else d.executeOperations E pending) = r at hsent
    obtain ⟨r, d'⟩ := r
    cases r with
    | error e => exact hsent
    | ok u =>
      cases responses with
      | none => exact hsent
      | some list =>
        have hlist := extend_scopes list ids d'
        exact ⟨hlist.overrides.trans hsent.overrides, hlist.flag.trans hsent.flag,
          hlist.active.trans hsent.active, hlist.pending.trans hsent.pending⟩

/-! ## Steps -/

/-- What a step of the thread `t` leaves behind. -/
def Kept (initially : Bool) (t : τ) (es : List (τ × Happening))
    (r : ThreadView ε τ × List Happening) : Prop :=
  Consistent initially t r.1.thread r.1.device (es ++ r.2.map (t, ·)) ∧
    (r.2 = [] ∨ ∃ x, r.2 = [x] ∧ Allowed initially es (t, x))

omit [PyText] in
/-- While a batch scope is open, it is the one of this thread. -/
theorem Consistent.own (hc : Consistent initially t h d es) :
    ∀ u ops, batchStatus es = some (u, ops) → t = u := by
  intro u ops hstatus
  rw [hc.status, Option.map_eq_some_iff] at hstatus
  obtain ⟨_, -, heq⟩ := hstatus
  exact congrArg Prod.fst heq

omit [PyText] in
/-- A thread goes on in a method, and nothing happens that concerns other threads. -/
theorem Consistent.move (hc : Consistent initially t h d es) (hs : SameScopes d d') {a : Activity}
    (hcollected : DriverThread.collected ⟨h.scopes, a⟩ d' = h.collected d)
    (hending : a.isEnding = false)
    (hdecided : ∀ op, a = .handing op → Decided d'.shouldVerifyWrites op) :
    Consistent initially t ⟨h.scopes, a⟩ d' es where
  overrides := hs.overrides.trans hc.overrides
  stack := hc.stack
  flag := hs.flag.trans hc.flag
  active := by rw [hs.active]; exact hc.active
  status := by rw [hcollected]; exact hc.status
  ending execute ops list ids ha := by
    cases (show a = _ from ha)
    cases hending
  decided := hdecided

variable {scopes : List OpenScope} {l : RLock τ}

omit [DecidableEq τ] [PyText] in
theorem collected_same (hs : SameScopes d d') {a a' : Activity} (ha : a.isEnding = false)
    (ha' : a'.isEnding = false) :
    DriverThread.collected ⟨scopes, a'⟩ d' = DriverThread.collected ⟨scopes, a⟩ d := by
  have hplain : ∀ (d : SPD3000 ε) (a : Activity), a.isEnding = false →
      DriverThread.collected ⟨scopes, a⟩ d =
        if d.batchActive then some d.pendingOperations else none := by
    intro d a ha
    cases a with
    | endingBatch execute ops list ids => cases ha
    | _ => rfl
  rw [hplain d' a' ha', hplain d a ha, hs.active, hs.pending]

omit [PyText] in
/-- A thread has done its work in a method. -/
theorem Consistent.leave {a : Activity} (hc : Consistent initially t ⟨scopes, a⟩ d es)
    (ha : a.isEnding = false) (hs : SameScopes d d') :
    Consistent initially t ⟨scopes, .leaving⟩ d' es := by
  refine hc.move hs (collected_same hs ha rfl) rfl ?_
  rintro _ ⟨⟩

omit [PyText] in
/-- Something happens that opens and closes nothing. -/
theorem Consistent.log (hc : Consistent initially t h d es) {x : Happening}
    (hstatus : nextStatus (batchStatus es) (t, x) = batchStatus es)
    (hstack : nextStack t (verifyStack t es) (t, x) = verifyStack t es)
    (hflag : nextFlag (globalFlag initially es) (t, x) = globalFlag initially es) :
    Consistent initially t h d (es ++ [(t, x)]) where
  overrides := hc.overrides
  stack := by rw [verifyStack_concat, hstack]; exact hc.stack
  flag := by rw [globalFlag_concat, hflag]; exact hc.flag
  active := hc.active
  status := by rw [batchStatus_concat, hstatus]; exact hc.status
  ending := hc.ending
  decided := hc.decided

omit [PyText] in
theorem nextStack_quiet {stack : List Bool} {x : Happening} (hx : x.ofStack = false) :
    nextStack t stack (t, x) = stack := by
  rw [nextStack, if_pos rfl]
  cases x with
  | entered b => cases hx
  | left => cases hx
  | _ => rfl

omit [PyText] in
theorem Consistent.runCall {call : DriverCall}
    (hc : Consistent initially t ⟨scopes, .running call⟩ d es) :
    Kept initially t es (ThreadView.runCall E call ⟨⟨scopes, .running call⟩, l, d⟩) := by
  have hsame : SameScopes d d := ⟨rfl, rfl, rfl, rfl⟩
  have hstatus : batchStatus es = if d.batchActive then some (t, d.pendingOperations) else none := by
    rw [hc.status, DriverThread.collected]
    split_ifs <;> rfl
  cases call with
  | write command verification reason =>
    refine ⟨?_, .inl rfl⟩
    rw [ThreadView.runCall, List.map_nil, List.append_nil]
    refine hc.move hsame (collected_same hsame rfl rfl) rfl ?_
    intro op hop w hw
    cases hop
    cases hw
    unfold SPD3000.selectVerification
    cases d.shouldVerifyWrites <;> rfl
  | queries commands nonempty parser =>
    refine ⟨?_, .inl rfl⟩
    rw [ThreadView.runCall, List.map_nil, List.append_nil]
    have hnew : SameScopes d (d.newDeferred (SPD3000.label commands)).2 := ⟨rfl, rfl, rfl, rfl⟩
    refine hc.move hnew (collected_same hnew rfl rfl) rfl ?_
    intro op hop w hw
    cases hop
    cases hw
  | setGlobally enabled =>
    refine ⟨?_, .inr ⟨_, rfl, .of_harmless hc.own rfl⟩⟩
    rw [ThreadView.runCall, List.map_singleton]
    refine .of_plain rfl hc.overrides ?_ ?_ hc.active ?_
    · rw [verifyStack_concat, hc.stack]
      simp [nextStack]
    · rw [globalFlag_concat]
      rfl
    · rw [batchStatus_concat]
      exact hc.status
  | executeRawBatch batch =>
    rw [ThreadView.runCall]
    split_ifs with hbusy
    · exact ⟨(hc.leave rfl hsame).log rfl (nextStack_quiet rfl) rfl,
        .inr ⟨_, rfl, .of_harmless hc.own rfl⟩⟩
    · rw [Bool.or_eq_true, not_or, Bool.not_eq_true, Bool.not_eq_true] at hbusy
      obtain ⟨hactive, hverify⟩ := hbusy
      have hrun : SameScopes d { d with executor := (E.execute batch d.executor).2 } :=
        ⟨rfl, rfl, rfl, rfl⟩
      refine ⟨(hc.leave rfl hrun).log rfl (nextStack_quiet rfl) rfl,
        .inr ⟨_, rfl, .of_executed hc.own ?_ ?_⟩⟩
      · rw [hstatus, hactive]
        rfl
      · rw [← hc.decision]
        exact hverify
  | beginBatch =>
    rw [ThreadView.runCall]
    split_ifs with hactive
    · exact ⟨(hc.leave rfl hsame).log rfl (nextStack_quiet rfl) rfl,
        .inr ⟨_, rfl, .of_harmless hc.own rfl⟩⟩
    · rw [Bool.not_eq_true] at hactive
      have hnone : batchStatus es = none := by rw [hstatus, hactive]; rfl
      refine ⟨?_, .inr ⟨_, rfl, .of_opened hc.own hnone⟩⟩
      have hcount := hc.active
      rw [hactive] at hcount
      rw [List.map_singleton]
      refine .of_plain rfl ?_ ?_ ?_ ?_ ?_
      · exact hc.overrides
      · rw [verifyStack_concat, nextStack_quiet (x := .opened) rfl, hc.stack]
        rfl
      · rw [globalFlag_concat]
        exact hc.flag
      · rw [List.countP_cons_of_pos rfl, hcount]
        rfl
      · rw [batchStatus_concat]
        rfl
  | beginVerifyWrites enabled =>
    refine ⟨?_, .inr ⟨_, rfl, .of_harmless hc.own rfl⟩⟩
    rw [ThreadView.runCall, List.map_singleton]
    refine .of_plain rfl ?_ ?_ ?_ ?_ ?_
    · exact congrArg (enabled :: ·) hc.overrides
    · rw [verifyStack_concat, nextStack, if_pos rfl]
      exact congrArg (enabled :: ·) hc.stack
    · rw [globalFlag_concat]
      exact hc.flag
    · rw [List.countP_cons_of_neg (by simp [OpenScope.isBatch])]
      exact hc.active
    · rw [batchStatus_concat]
      exact hstatus.trans (by rw [DriverThread.collected]; split_ifs <;> rfl)

theorem Consistent.hand {op : PendingOperation}
    (hc : Consistent initially t ⟨scopes, .handing op⟩ d es) :
    Kept initially t es (ThreadView.hand E op ⟨⟨scopes, .handing op⟩, l, d⟩) := by
  have hstatus : batchStatus es = if d.batchActive then some (t, d.pendingOperations) else none := by
    rw [hc.status, DriverThread.collected]
    split_ifs <;> rfl
  have hdecided : Decided (Spd3000.decision initially t es) op := by
    rw [← hc.decision]
    exact hc.decided op rfl
  unfold ThreadView.hand
  dsimp only
  split_ifs with hactive
  · rw [if_pos hactive] at hstatus
    refine ⟨?_, .inr ⟨_, rfl, .of_collected hc.own (by rw [hstatus]; rfl) hdecided⟩⟩
    · rw [List.map_singleton]
      refine .of_plain rfl hc.overrides ?_ ?_ hc.active ?_
      · rw [verifyStack_concat, nextStack_quiet (x := .collected op) rfl, hc.stack]
      · rw [globalFlag_concat]
        exact hc.flag
      · rw [batchStatus_concat, hstatus, DriverThread.collected, if_pos hactive]
        rfl
  · rw [if_neg hactive] at hstatus
    have hsent := executeOperations_scopes E [op] d
    exact ⟨(hc.leave rfl hsent).log rfl (nextStack_quiet rfl) rfl,
      .inr ⟨_, rfl, .of_sent hc.own hstatus hdecided⟩⟩

omit [PyText] in
/-- The end of a batch scope takes the operations out of the fields, where the next scope would
    reset them. -/
theorem Consistent.exit {completed : Bool} {r : ThreadView ε τ × List Happening}
    (hc : Consistent initially t ⟨scopes, .idle⟩ d es)
    (hexit : ThreadView.exit completed ⟨⟨scopes, .idle⟩, l, d⟩ = some r) :
    Kept initially t es r := by
  have hstatus : batchStatus es = if d.batchActive then some (t, d.pendingOperations) else none := by
    rw [hc.status, DriverThread.collected]
    split_ifs <;> rfl
  rcases scopes with _ | ⟨_ | enabled, scopes⟩
  · cases hexit
  · cases hexit
    have hcount := hc.active
    rw [List.countP_cons_of_pos rfl] at hcount
    have hactive : d.batchActive = true := by
      by_contra hinactive
      rw [if_neg hinactive] at hcount
      cases hcount
    rw [if_pos hactive] at hcount hstatus
    refine ⟨?_, .inl rfl⟩
    rw [List.map_nil, List.append_nil]
    refine ⟨hc.overrides, hc.stack, hc.flag, Nat.succ.inj hcount, hstatus, fun _ _ _ _ _ => rfl, ?_⟩
    rintro _ ⟨⟩
  · cases hexit
    refine ⟨?_, .inr ⟨_, rfl, .of_harmless hc.own rfl⟩⟩
    have hcount := hc.active
    rw [List.countP_cons_of_neg (by simp [OpenScope.isBatch])] at hcount
    rw [List.map_singleton]
    refine .of_plain rfl (congrArg List.tail hc.overrides) ?_ ?_ hcount ?_
    · rw [verifyStack_concat, nextStack, if_pos rfl]
      exact congrArg List.tail hc.stack
    · rw [globalFlag_concat]
      exact hc.flag
    · rw [batchStatus_concat]
      exact hc.status

/-- A step of a thread that no other one disturbs. -/
theorem Consistent.step {v : ThreadView ε τ} {a : ThreadAction}
    {r : ThreadView ε τ × List Happening} (hc : Consistent initially t v.thread v.device es)
    (hstep : v.step E t a = some r) : Kept initially t es r := by
  obtain ⟨⟨scopes, activity⟩, l, d⟩ := v
  have hsame : SameScopes d d.acquire ∧ SameScopes d d.release :=
    ⟨⟨rfl, rfl, rfl, rfl⟩, ⟨rfl, rfl, rfl, rfl⟩⟩
  cases activity with
  | idle =>
    cases a with
    | call call =>
      obtain ⟨l', -, rfl⟩ := Option.map_eq_some_iff.1 hstep
      refine ⟨?_, .inl rfl⟩
      rw [List.map_nil, List.append_nil]
      refine hc.move hsame.1 (collected_same hsame.1 rfl rfl) rfl ?_
      rintro _ ⟨⟩
    | exit completed => exact hc.exit hstep
    | next => cases hstep
  | running call =>
    cases a with
    | next => cases hstep; exact hc.runCall E
    | _ => cases hstep
  | handing op =>
    cases a with
    | next => cases hstep; exact hc.hand E
    | _ => cases hstep
  | endingBatch execute pending responses ids =>
    cases a with
    | next =>
      cases hstep
      have hinactive := hc.ending execute pending responses ids rfl
      have hfinished := finishBatch_scopes E execute pending responses ids d
      have hstatus : batchStatus es = some (t, pending) := hc.status
      refine ⟨?_, .inr ⟨_, rfl, .of_closed hc.own hstatus⟩⟩
      · rw [List.map_singleton]
        refine .of_plain rfl (hfinished.overrides.trans hc.overrides) ?_ ?_ ?_ ?_
        · rw [verifyStack_concat, nextStack_quiet (x := .closed pending execute) rfl]
          exact hc.stack
        · rw [globalFlag_concat]
          exact hfinished.flag.trans hc.flag
        · have hactive := hfinished.active
          show scopes.countP OpenScope.isBatch = if _ then 1 else 0
          rw [hactive]
          exact hc.active
        · rw [batchStatus_concat, DriverThread.collected]
          dsimp only
          rw [hfinished.active, hinactive]
          rfl
    | _ => cases hstep
  | leaving =>
    cases a with
    | next =>
      obtain ⟨l', -, rfl⟩ := Option.map_eq_some_iff.1 hstep
      refine ⟨?_, .inl rfl⟩
      rw [List.map_nil, List.append_nil]
      refine hc.move hsame.2 (collected_same hsame.2 rfl rfl) rfl ?_
      rintro _ ⟨⟩
    | _ => cases hstep

/-! ## The lock -/

omit [DecidableEq τ] [PyText] in
theorem runCall_load (call : DriverCall) :
    (ThreadView.runCall E call ⟨⟨scopes, .running call⟩, l, d⟩).1.lock = l ∧
      (ThreadView.runCall E call ⟨⟨scopes, .running call⟩, l, d⟩).1.thread.load =
        scopes.length + 1 := by
  cases call with
  | executeRawBatch batch =>
    rw [ThreadView.runCall]
    split_ifs <;> exact ⟨rfl, rfl⟩
  | beginBatch =>
    rw [ThreadView.runCall]
    split_ifs <;> exact ⟨rfl, rfl⟩
  | _ => exact ⟨rfl, rfl⟩

omit [DecidableEq τ] in
theorem hand_load (op : PendingOperation) :
    (ThreadView.hand E op ⟨⟨scopes, .handing op⟩, l, d⟩).1.lock = l ∧
      (ThreadView.hand E op ⟨⟨scopes, .handing op⟩, l, d⟩).1.thread.load = scopes.length + 1 := by
  unfold ThreadView.hand
  dsimp only
  split_ifs <;> exact ⟨rfl, rfl⟩

/-- A step needs the lock, or acquires it, and keeps the account of how often it is held. -/
theorem step_lock {v : ThreadView ε τ} {a : ThreadAction} {r : ThreadView ε τ × List Happening}
    (hload : v.lock.depth t = v.thread.load) (hstep : v.step E t a = some r) :
    v.lock.Available t ∧ r.1.lock.depth t = r.1.thread.load ∧ r.1.lock.Available t := by
  have hheld : 0 < v.thread.load → v.lock.Available t := fun hpos =>
    RLock.available_of_depth (hload ▸ hpos)
  obtain ⟨⟨scopes, activity⟩, l, d⟩ := v
  cases activity with
  | idle =>
    cases a with
    | call call =>
      obtain ⟨l', hacquire, rfl⟩ := Option.map_eq_some_iff.1 hstep
      obtain ⟨havailable, hdepth, hothers⟩ := RLock.acquire_spec hacquire
      exact ⟨havailable, hdepth.trans (congrArg (· + 1) hload), hothers⟩
    | exit completed =>
      rcases scopes with _ | ⟨_ | enabled, scopes⟩
      · cases hstep
      · cases hstep
        exact ⟨hheld (Nat.succ_pos _), hload, hheld (Nat.succ_pos _)⟩
      · cases hstep
        exact ⟨hheld (Nat.succ_pos _), hload, hheld (Nat.succ_pos _)⟩
    | next => cases hstep
  | running call =>
    cases a with
    | next =>
      cases hstep
      have havailable := hheld (Nat.succ_pos _)
      obtain ⟨hlock, hsame⟩ := runCall_load (l := l) (d := d) E call
      rw [hlock, hsame]
      exact ⟨havailable, hload, havailable⟩
    | _ => cases hstep
  | handing op =>
    cases a with
    | next =>
      cases hstep
      have havailable := hheld (Nat.succ_pos _)
      obtain ⟨hlock, hsame⟩ := hand_load (l := l) (d := d) E op
      rw [hlock, hsame]
      exact ⟨havailable, hload, havailable⟩
    | _ => cases hstep
  | endingBatch execute pending responses ids =>
    cases a with
    | next =>
      cases hstep
      exact ⟨hheld (Nat.succ_pos _), hload, hheld (Nat.succ_pos _)⟩
    | _ => cases hstep
  | leaving =>
    cases a with
    | next =>
      obtain ⟨l', hrelease, rfl⟩ := Option.map_eq_some_iff.1 hstep
      obtain ⟨hdepth, hothers⟩ := RLock.release_spec hrelease
      exact ⟨hheld (Nat.succ_pos _), Nat.succ.inj (hdepth.symm.trans hload), hothers⟩
    | _ => cases hstep

/-! ## All threads -/

/-- The lock is held as often as the scopes and methods of the threads say, and the fields of the
    driver are those of the only thread that is not at rest. -/
structure Isolated (initially : Bool) (s : SharedDriver ε τ) (es : List (τ × Happening)) :
    Prop where
  depth : ∀ t, s.lock.depth t = (s.threads t).load
  consistent : ∀ t, (∀ u, u ≠ t → s.threads u = .rest) →
    Consistent initially t (s.threads t) s.device es
  scopes : ∀ t, verifyStack t es = (s.threads t).scopes.filterMap OpenScope.override
  allowed : AllAllowed initially es

omit [DecidableEq τ] [PyText] in
theorem rest_of_load (hload : h.load = 0) : h = .rest := by
  obtain ⟨scopes, activity⟩ := h
  rw [DriverThread.load, Nat.add_eq_zero_iff, List.length_eq_zero_iff] at hload
  obtain ⟨rfl, hidle⟩ := hload
  cases activity with
  | idle => rfl
  | _ => cases hidle

omit [PyText] in
/-- What is consistent with a thread at rest is consistent with every thread at rest. -/
theorem Consistent.rest {u : τ} (hc : Consistent initially t .rest d es)
    (hstack : verifyStack u es = []) : Consistent initially u .rest d es := by
  have hinactive : d.batchActive = false := by
    by_contra hactive
    have hcount := hc.active
    rw [Bool.not_eq_false] at hactive
    rw [if_pos hactive] at hcount
    cases hcount
  refine .of_plain rfl hc.overrides hstack hc.flag hc.active ?_
  rw [hc.status, DriverThread.collected]
  show Option.map _ (if d.batchActive then _ else _) = Option.map _ (if d.batchActive then _ else _)
  rw [hinactive]
  rfl

theorem Isolated.step {s s' : SharedDriver ε τ} {hs : List (τ × Happening)} {a : τ × ThreadAction}
    (hi : Isolated initially s es) (hstep : (threadSystem E).step a s = some (s', hs)) :
    Isolated initially s' (es ++ hs) := by
  obtain ⟨t, a⟩ := a
  obtain ⟨r, hr, heq⟩ := Option.map_eq_some_iff.1 hstep
  cases heq
  obtain ⟨havailable, hdepth, havailable'⟩ := step_lock E (hi.depth t) hr
  -- the lock is not held by another thread, so all others are at rest
  have hothers : ∀ u, u ≠ t → s.threads u = .rest := fun u hu =>
    rest_of_load ((hi.depth u).symm.trans (havailable u hu))
  obtain ⟨hconsistent, hallowed⟩ := (hi.consistent t hothers).step E hr
  have hstacks : ∀ u, u ≠ t → verifyStack u (es ++ r.2.map (t, ·)) = [] := by
    intro u hu
    have hbefore : verifyStack u es = [] := by
      rw [hi.scopes u, hothers u hu]
      rfl
    rcases hallowed with hnone | ⟨x, hone, -⟩
    · rw [hnone, List.map_nil, List.append_nil, hbefore]
    · rw [hone, List.map_singleton, verifyStack_concat, hbefore, nextStack, if_neg hu.symm]
  refine ⟨fun u => ?_, fun u hu => ?_, fun u => ?_, ?_⟩ <;> dsimp only at *
  · by_cases hut : u = t
    · rw [hut, Function.update_self]
      exact hdepth
    · rw [Function.update_of_ne hut, hothers u hut]
      exact havailable' u hut
  · by_cases hut : u = t
    · rw [hut, Function.update_self]
      exact hconsistent
    · have hrest := hu t (Ne.symm hut)
      rw [Function.update_self] at hrest
      rw [hrest] at hconsistent
      rw [Function.update_of_ne hut, hothers u hut]
      exact hconsistent.rest (hstacks u hut)
  · by_cases hut : u = t
    · rw [hut, Function.update_self]
      exact hconsistent.stack
    · rw [Function.update_of_ne hut, hothers u hut]
      exact hstacks u hut
  · rcases hallowed with hnone | ⟨x, hone, hx⟩
    · rw [hnone, List.map_nil, List.append_nil]
      exact hi.allowed
    · rw [hone, List.map_singleton]
      exact allAllowed_concat es (t, x) hi.allowed hx

/-! ## What is handed to the executor -/

omit [DecidableEq τ] [PyText] in
@[simp] theorem handedBatches_append (es es' : List (τ × Happening)) :
    handedBatches (es ++ es') = handedBatches es ++ handedBatches es' := List.flatMap_append

theorem extend_executor (list : ℕ) (ids : List ℕ) :
    ∀ d : SPD3000 ε, (SPD3000.extend list ids d).2.executor = d.executor := by
  induction ids with
  | nil => exact fun d => rfl
  | cons i ids ih =>
    intro d
    rw [SPD3000.extend]
    cases (d.deferreds i).getValue with
    | error e => rfl
    | ok v => exact ih _

section
variable {d : SPD3000 (ε × List CommandBatch)}

theorem executeOperations_log (ops : List PendingOperation) :
    (d.executeOperations E.recorded ops).2.executor.2 =
      d.executor.2 ++ (batchOf ops).toList := by
  rw [executeOperations_recorded]
  rfl

omit [DecidableEq τ] in
theorem finishBatch_log (execute : Bool) (pending : List PendingOperation) (responses : Option ℕ)
    (ids : List ℕ) :
    (d.finishBatch E.recorded execute pending responses ids).2.executor.2 =
      d.executor.2 ++ handedBatches [(t, .closed pending execute)] := by
  cases execute with
  | false => exact (List.append_nil _).symm
  | true =>
    have hsent : (if pending.isEmpty then (.ok (), d)
        else d.executeOperations E.recorded pending).2.executor.2 =
        d.executor.2 ++ handedBatches [(t, .closed pending true)] := by
      have hhanded : handedBatches [(t, .closed pending true)] = (batchOf pending).toList :=
        List.append_nil _
      rw [hhanded]
      split_ifs with hempty
      · rw [List.isEmpty_iff.1 hempty]
        exact (List.append_nil _).symm
      · exact executeOperations_log E pending
    rw [SPD3000.finishBatch, if_neg (by simp)]
    generalize (if pending.isEmpty then (Except.ok (), d)
      else d.executeOperations E.recorded pending) = r at hsent
    obtain ⟨r, d'⟩ := r
    cases r with
    | error e => exact hsent
    | ok u =>
      cases responses with
      | none => exact hsent
      | some list => exact (congrArg Prod.snd (extend_executor list ids d')).trans hsent

end

/-- A step hands to the executor what the history tells. -/
theorem step_log {v : ThreadView (ε × List CommandBatch) τ} {a : ThreadAction}
    {r : ThreadView (ε × List CommandBatch) τ × List Happening}
    (hstep : v.step E.recorded t a = some r) :
    r.1.device.executor.2 = v.device.executor.2 ++ handedBatches (r.2.map (t, ·)) := by
  obtain ⟨⟨scopes, activity⟩, l, d⟩ := v
  have hquiet : d.executor.2 = d.executor.2 ++ [] := (List.append_nil _).symm
  cases activity with
  | idle =>
    cases a with
    | call call =>
      obtain ⟨l', -, rfl⟩ := Option.map_eq_some_iff.1 hstep
      exact hquiet
    | exit completed =>
      rcases scopes with _ | ⟨_ | enabled, scopes⟩ <;> cases hstep <;> exact hquiet
    | next => cases hstep
  | running call =>
    cases a with
    | next =>
      cases hstep
      cases call with
      | executeRawBatch batch =>
        rw [ThreadView.runCall]
        split_ifs
        · exact hquiet
        · rfl
      | beginBatch =>
        rw [ThreadView.runCall]
        split_ifs <;> exact hquiet
      | _ => exact hquiet
    | _ => cases hstep
  | handing op =>
    cases a with
    | next =>
      cases hstep
      unfold ThreadView.hand
      dsimp only
      split_ifs
      · exact hquiet
      · rw [executeOperations_log]
        exact congrArg (d.executor.2 ++ ·) (List.append_nil _).symm
    | _ => cases hstep
  | endingBatch execute pending responses ids =>
    cases a with
    | next =>
      cases hstep
      exact finishBatch_log E execute pending responses ids
    | _ => cases hstep
  | leaving =>
    cases a with
    | next =>
      obtain ⟨l', -, rfl⟩ := Option.map_eq_some_iff.1 hstep
      exact hquiet
    | _ => cases hstep

/-! ## What the threads issue -/

/-- The commands of the operation that a thread has issued and not yet handed over. -/
def Activity.inFlight : Activity → List (List PyStr)
  | running (.write command _ _) => [[command]]
  | running (.queries commands _ _) => [commands]
  | handing (.write w) => [[w.command]]
  | handing (.read r) => [r.commands]
  | _ => []

/-- The operation that a thread issues with an action. -/
def ThreadAction.issued : ThreadAction → List (List PyStr)
  | call (.write command _ _) => [[command]]
  | call (.queries commands _ _) => [commands]
  | _ => []

/-- The operation that is collected or sent. -/
def Happening.handled : Happening → List (List PyStr)
  | collected (.write w) => [[w.command]]
  | collected (.read r) => [r.commands]
  | sent (.write w) => [[w.command]]
  | sent (.read r) => [r.commands]
  | _ => []

/-- The operations that a thread issues in a run. -/
def issuedBy (t : τ) (labels : List (τ × ThreadAction)) : List (List PyStr) :=
  labels.flatMap fun l => if l.1 = t then l.2.issued else []

/-- The operations of a thread that are collected or sent. -/
def handledBy (t : τ) (es : List (τ × Happening)) : List (List PyStr) :=
  es.flatMap fun e => if e.1 = t then e.2.handled else []

omit [PyText] in
theorem handledBy_append (es es' : List (τ × Happening)) :
    handledBy t (es ++ es') = handledBy t es ++ handledBy t es' := List.flatMap_append

theorem step_issued {v : ThreadView ε τ} {a : ThreadAction} {r : ThreadView ε τ × List Happening}
    (hstep : v.step E t a = some r) :
    v.thread.activity.inFlight ++ a.issued =
      r.2.flatMap Happening.handled ++ r.1.thread.activity.inFlight := by
  obtain ⟨⟨scopes, activity⟩, l, d⟩ := v
  cases activity with
  | idle =>
    cases a with
    | call call =>
      obtain ⟨l', -, rfl⟩ := Option.map_eq_some_iff.1 hstep
      cases call <;> rfl
    | exit completed =>
      rcases scopes with _ | ⟨_ | enabled, scopes⟩ <;> cases hstep <;> rfl
    | next => cases hstep
  | running call =>
    cases a with
    | next =>
      cases hstep
      cases call with
      | executeRawBatch batch =>
        rw [ThreadView.runCall]
        split_ifs <;> rfl
      | beginBatch =>
        rw [ThreadView.runCall]
        split_ifs <;> rfl
      | _ => rfl
    | _ => cases hstep
  | handing op =>
    cases a with
    | next =>
      cases hstep
      unfold ThreadView.hand
      dsimp only
      split_ifs <;> cases op <;> rfl
    | _ => cases hstep
  | endingBatch execute pending responses ids =>
    cases a with
    | next => cases hstep; rfl
    | _ => cases hstep
  | leaving =>
    cases a with
    | next =>
      obtain ⟨l', -, rfl⟩ := Option.map_eq_some_iff.1 hstep
      rfl
    | _ => cases hstep

theorem shared_step_issued {s s' : SharedDriver ε τ} {es : List (τ × Happening)}
    {l : τ × ThreadAction} (hstep : (threadSystem E).step l s = some (s', es)) :
    (s.threads t).activity.inFlight ++ issuedBy t [l] =
      handledBy t es ++ (s'.threads t).activity.inFlight := by
  obtain ⟨u, a⟩ := l
  obtain ⟨r, hr, heq⟩ := Option.map_eq_some_iff.1 hstep
  cases heq
  have hhandled : ∀ xs : List Happening, handledBy t (xs.map (u, ·)) =
      if u = t then xs.flatMap Happening.handled else [] := by
    intro xs
    rw [handledBy, List.flatMap_map]
    split_ifs
    · rfl
    · exact List.flatMap_eq_nil_iff.2 fun _ _ => rfl
  rw [hhandled]
  by_cases hut : u = t
  · subst hut
    have hissued := step_issued E hr
    simpa [issuedBy] using hissued
  · simp [issuedBy, hut, Function.update_of_ne (Ne.symm hut)]

/-- Every operation that a thread issues is collected or sent, in the order of its calls. -/
theorem run_issued {labels : List (τ × ThreadAction)} :
    ∀ {s s' : SharedDriver ε τ} {es : List (τ × Happening)},
      (threadSystem E).run labels s = some (s', es) →
      (s.threads t).activity.inFlight ++ issuedBy t labels =
        handledBy t es ++ (s'.threads t).activity.inFlight := by
  induction labels with
  | nil =>
    intro s s' es hrun
    cases hrun
    exact List.append_nil _
  | cons l labels ih =>
    intro s s' es hrun
    rw [Runs.System.run] at hrun
    cases hstep : (threadSystem E).step l s with
    | none => rw [hstep] at hrun; cases hrun
    | some next =>
      obtain ⟨s₁, es₁⟩ := next
      rw [hstep] at hrun
      obtain ⟨⟨s₂, es₂⟩, hrest, heq⟩ := Option.map_eq_some_iff.1 hrun
      cases heq
      have hsplit : issuedBy t (l :: labels) = issuedBy t [l] ++ issuedBy t labels := by
        simp [issuedBy]
      rw [hsplit, ← List.append_assoc, shared_step_issued E hstep, List.append_assoc, ih hrest,
        ← List.append_assoc, handledBy_append]

/-! ## Whole runs -/

omit [PyText] in
theorem isolated_make (x : ε) (initially : Bool) :
    Isolated initially (SharedDriver.make x initially : SharedDriver ε τ) [] where
  depth _ := rfl
  consistent _ _ := .of_plain rfl rfl rfl rfl rfl rfl
  scopes _ := rfl
  allowed before e after h := by
    have hlength := congrArg List.length h
    rw [List.length_append, List.length_cons, List.length_nil] at hlength
    omega

theorem Isolated.run {s s' : SharedDriver ε τ} {es es' : List (τ × Happening)}
    {labels : List (τ × ThreadAction)} (hi : Isolated initially s es)
    (hrun : (threadSystem E).run labels s = some (s', es')) :
    Isolated initially s' (es ++ es') :=
  Runs.System.invariant (P := Isolated initially) (fun _ _ _ _ _ h => h.step E) hi hrun

/-- Nothing that a thread is doing waits for another thread. -/
theorem Isolated.goes_on {s : SharedDriver ε τ} (hi : Isolated initially s es)
    (hbusy : (s.threads t).activity ≠ .idle) : ((threadSystem E).step (t, .next) s).isSome := by
  have hdepth := hi.depth t
  show (Option.map _ (ThreadView.step E t .next ⟨s.threads t, s.lock, s.device⟩)).isSome
  rw [Option.isSome_map]
  generalize s.threads t = h at hbusy hdepth ⊢
  obtain ⟨scopes, activity⟩ := h
  cases activity with
  | idle => exact absurd rfl hbusy
  | leaving =>
    have hheld : 0 < s.lock.depth t := hdepth ▸ Nat.succ_pos _
    obtain ⟨l', hl'⟩ := RLock.exists_release hheld
    simp only [ThreadView.step, hl', Option.map_some, Option.isSome_some]
  | _ => rfl

/-- What happens inside a batch scope. -/
def Happening.Inside : Happening → Prop
  | opened | sent _ | closed _ _ | executed _ => False
  | _ => True

/-- The operations collected in a history. -/
def collectedIn (es : List (τ × Happening)) : List PendingOperation :=
  es.flatMap fun e => match e.2 with
    | .collected op => [op]
    | _ => []

/-- Since the thread `t` has opened a batch scope, only this thread did anything, and it collected
    `ops`. -/
def CollectedBy (t : τ) (ops : List PendingOperation) (es : List (τ × Happening)) : Prop :=
  ∃ earlier inside, es = earlier ++ (t, .opened) :: inside ∧
    (∀ e ∈ inside, e.1 = t ∧ e.2.Inside) ∧ ops = collectedIn inside

omit [PyText] [DecidableEq τ] in
theorem CollectedBy.concat {ops : List PendingOperation} {x : Happening}
    (h : CollectedBy t ops es) (hx : x.Inside) :
    CollectedBy t (ops ++ collectedIn [(t, x)]) (es ++ [(t, x)]) := by
  obtain ⟨earlier, inside, rfl, hinside, rfl⟩ := h
  refine ⟨earlier, inside ++ [(t, x)], ?_, ?_, ?_⟩
  · rw [List.append_assoc, List.cons_append]
  · intro e he
    rcases List.mem_append.1 he with he | he
    · exact hinside e he
    · rw [List.mem_singleton.1 he]
      exact ⟨rfl, hx⟩
  · exact List.flatMap_append.symm

omit [PyText] in
theorem AllAllowed.collectedBy {ops : List PendingOperation} (h : AllAllowed initially es)
    (hstatus : batchStatus es = some (t, ops)) : CollectedBy t ops es := by
  induction es using List.reverseRecOn generalizing t ops with
  | nil => cases hstatus
  | append_singleton es e ih =>
    obtain ⟨u, x⟩ := e
    have hx : Allowed initially es (u, x) := h es (u, x) [] rfl
    have hbefore : AllAllowed initially es := fun before e after heq =>
      h before e (after ++ [(u, x)]) (by rw [heq, List.append_assoc, List.cons_append])
    rw [batchStatus_concat] at hstatus
    -- what leaves the scope as it is happens inside
    have hquiet : nextStatus (batchStatus es) (u, x) = batchStatus es → x.Inside →
        collectedIn [(u, x)] = [] → CollectedBy t ops (es ++ [(u, x)]) := by
      intro hsame hinside hnone
      rw [hsame] at hstatus
      have hcollected := (ih hbefore hstatus).concat (x := x) hinside
      obtain rfl : u = t := hx.own t ops hstatus
      rwa [hnone, List.append_nil] at hcollected
    cases x with
    | opened =>
      cases hstatus
      exact ⟨es, [], rfl, nofun, rfl⟩
    | collected op =>
      obtain ⟨⟨v, ops'⟩, hopen, heq⟩ := Option.map_eq_some_iff.1 hstatus
      cases heq
      have hcollected := (ih hbefore hopen).concat (x := .collected op) trivial
      obtain rfl : u = v := hx.own v ops' hopen
      exact hcollected
    | closed ops' executed => cases hstatus
    | sent op =>
      have hnone := (hx.sent op rfl).1
      exact absurd (hnone.symm.trans hstatus) nofun
    | executed batch =>
      have hnone := (hx.executed batch rfl).1
      exact absurd (hnone.symm.trans hstatus) nofun
    | _ => exact hquiet rfl trivial rfl

/-- What has been handed to the executor is what the history tells. -/
def Logged (s : SharedDriver (ε × List CommandBatch) τ) (es : List (τ × Happening)) : Prop :=
  s.device.executor.2 = handedBatches es

theorem run_log {s s' : SharedDriver (ε × List CommandBatch) τ} {es : List (τ × Happening)}
    {labels : List (τ × ThreadAction)}
    (hrun : (threadSystem E.recorded).run labels s = some (s', es)) (hs : Logged s []) :
    Logged s' es := by
  refine Runs.System.invariant (P := Logged) ?_ hs hrun
  intro s es a s' es' hs hstep
  obtain ⟨r, hr, heq⟩ := Option.map_eq_some_iff.1 hstep
  cases heq
  rw [Logged, handedBatches_append, ← hs]
  exact step_log E hr

/-- What the threads of a driver have done in a run. -/
structure ThreadsIsolated (initially : Bool) (labels : List (τ × ThreadAction))
    (s : SharedDriver (ε × List CommandBatch) τ) (es : List (τ × Happening)) : Prop where
  allowed : AllAllowed initially es
  /-- A batch scope ends with the operations that its thread has issued in it. -/
  collected : ∀ before t ops executed after, es = before ++ (t, .closed ops executed) :: after →
    CollectedBy t ops before
  issued : ∀ t, issuedBy t labels = handledBy t es ++ (s.threads t).activity.inFlight
  sent : Logged s es
  continues : ∀ t, (s.threads t).activity ≠ .idle →
    ((threadSystem E.recorded).step (t, .next) s).isSome
  free : (∀ t, s.threads t = .rest) → s.lock = .free

/-- **Thread isolation.**  In every interleaving, an operation is collected or sent for the thread
    that issued it only, and the lock is free once all threads are at rest. -/
theorem threads_isolated (E : Executor ε) (x : ε) (initially : Bool)
    {labels : List (τ × ThreadAction)} {s : SharedDriver (ε × List CommandBatch) τ}
    {es : List (τ × Happening)}
    (hrun : (threadSystem E.recorded).run labels (.make (x, []) initially) = some (s, es)) :
    ThreadsIsolated E initially labels s es := by
  have hi : Isolated initially s es := (isolated_make (x, []) initially).run E.recorded hrun
  refine ⟨hi.allowed, ?_, fun t => run_issued E.recorded hrun, ?_,
    fun t => hi.goes_on E.recorded, ?_⟩
  · rintro before t ops executed after rfl
    have hclosed := hi.allowed before _ after rfl
    exact AllAllowed.collectedBy (fun _ _ _ heq => hi.allowed _ _ _ (by
      rw [heq, List.append_assoc, List.cons_append])) (hclosed.closed ops executed rfl)
  · exact run_log E hrun rfl
  · intro hrest
    refine RLock.eq_free fun t => ?_
    rw [hi.depth t, hrest t]
    rfl

end

/-- One thread collects a write in a batch scope, where a nested scope is refused, and sends it; the
    other one changes the global flag and leaves a verification scope with an exception. -/
def twoThreads : List (Bool × ThreadAction) :=
  [(false, .call .beginBatch), (false, .next),
    (false, .call .beginBatch), (false, .next), (false, .next),
    (false, .call (.write "CH2:VOLT 1.5" none none)), (false, .next), (false, .next),
    (false, .next),
    (false, .exit true), (false, .next), (false, .next),
    (true, .call (.setGlobally true)), (true, .next), (true, .next),
    (true, .call (.beginVerifyWrites false)), (true, .next),
    (true, .call (.write "CH2:CURR 1" none none)), (true, .next), (true, .next), (true, .next),
    (true, .exit false), (true, .next)]

theorem twoThreads_isolated : ∃ s es,
    (@threadSystem _ Bool _ PyText.blank ones.recorded).run twoThreads (.make ((), []) false) =
      some (s, es) ∧ @ThreadsIsolated _ Bool _ PyText.blank ones false twoThreads s es := by
  refine ⟨_, _, rfl, ?_⟩
  exact @threads_isolated _ Bool _ PyText.blank ones () false twoThreads _ _ rfl

end Spd3000
