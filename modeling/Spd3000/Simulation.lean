/-
  Driver programs over two executors that behave alike.

  What a program can see of an exception is its class, its arguments and its
  batch position (`SameException`); a program that treats such exceptions alike
  is related to itself by `Program.Alike`.  `Simulates` relates two executors
  batch by batch, as long as a condition on the first one lasts.  The driver
  carries that over to whole programs: `executePending_same` is the step, one
  lemma for each method of the driver follows, and `run_same` is the induction
  on the program.
-/
import Spd3000.Threads
import Spd3000.Transparency

namespace Spd3000

variable {ε ε' α : Type}

/-! ## Outcomes -/

/-- The same value, or an exception that looks the same. -/
inductive SameResult : Except PyExc α → Except PyExc α → Prop
  | returned (a : α) : SameResult (.ok a) (.ok a)
  | raised {e e' : PyExc} : SameException e e' → SameResult (.error e) (.error e')

theorem SameException.refl (e : PyExc) : SameException e e := ⟨rfl, rfl, fun _ _ => rfl⟩

theorem SameException.isinstance {e e' : PyExc} (h : SameException e e') (cls : ExcClass) :
    e'.isinstance cls = e.isinstance cls := by
  rw [PyExc.isinstance, PyExc.isinstance, h.cls]

theorem SameException.getattr {e e' : PyExc} (h : SameException e e') {name : PyStr}
    (hname : name ∈ ANNOTATIONS) : e'.getattr name = e.getattr name := by
  rw [PyExc.getattr, PyExc.getattr, PyDict.getD, PyDict.getD, h.annotations name hname]

namespace SameResult

theorem refl : ∀ r : Except PyExc α, SameResult r r
  | .ok a => .returned a
  | .error e => .raised (.refl e)

theorem of_eq {r r' : Except PyExc α} (h : r = r') : SameResult r r' := h ▸ refl r

theorem map {β : Type} {r r' : Except PyExc α} (f : α → β) (h : SameResult r r') :
    SameResult (r.map f) (r'.map f) := by
  cases h with
  | returned a => exact .returned (f a)
  | raised he => exact .raised he

theorem isOk {r r' : Except PyExc α} (h : SameResult r r') : r'.isOk = r.isOk := by
  cases h <;> rfl

end SameResult

/-! ## Deferred results -/

structure SameDeferred (d d' : Deferred) : Prop where
  command : d.command = d'.command
  value : d.value = d'.value
  error : Option.Rel SameException d.error d'.error

theorem SameDeferred.refl (d : Deferred) : SameDeferred d d := by
  refine ⟨rfl, rfl, ?_⟩
  cases d.error with
  | none => exact .none
  | some e => exact .some (.refl e)

def SameDeferreds (h h' : Deferreds) : Prop := ∀ i, SameDeferred (h i) (h' i)

theorem SameDeferreds.modify {h h' : Deferreds} (hh : SameDeferreds h h') (i : ℕ)
    {f k : Deferred → Deferred} (hf : ∀ d d', SameDeferred d d' → SameDeferred (f d) (k d')) :
    SameDeferreds (h.modify i f) (h'.modify i k) := by
  intro j
  rw [Deferreds.modify, Deferreds.modify]
  by_cases hj : j = i
  · subst hj
    rw [Function.update_self, Function.update_self]
    exact hf _ _ (hh j)
  · rw [Function.update_of_ne hj, Function.update_of_ne hj]
    exact hh j

theorem SameDeferred.reject {e e' : PyExc} (he : SameException e e') (d d' : Deferred)
    (hd : SameDeferred d d') : SameDeferred (d.reject e) (d'.reject e') :=
  ⟨hd.command, hd.value, .some he⟩

theorem SameDeferred.settle (outcome : Except PyExc PyVal) (d d' : Deferred)
    (hd : SameDeferred d d') : SameDeferred (settle outcome d) (settle outcome d') := by
  cases outcome with
  | ok v => exact ⟨hd.command, rfl, hd.error⟩
  | error e => exact hd.reject (.refl e)

theorem SameDeferreds.newDeferred {h h' : Deferreds} (hh : SameDeferreds h h') (i : ℕ)
    (command : PyStr) :
    SameDeferreds (Function.update h i (.pending command))
      (Function.update h' i (.pending command)) :=
  hh.modify i (f := fun _ => .pending command) (k := fun _ => .pending command)
    fun _ _ _ => .refl _

theorem rejectAll_same {e e' : PyExc} (he : SameException e e') (reads : List PlannedRead)
    {h h' : Deferreds} (hh : SameDeferreds h h') :
    SameDeferreds (rejectAll e reads h) (rejectAll e' reads h') := by
  induction reads generalizing h h' with
  | nil => exact hh
  | cons r reads ih => exact ih (hh.modify _ (SameDeferred.reject he))

section
variable [PyText]

theorem SameDeferred.getValue {d d' : Deferred} (hd : SameDeferred d d') :
    SameResult d.getValue d'.getValue := by
  obtain ⟨command, value, error⟩ := d
  obtain ⟨command', value', error'⟩ := d'
  obtain ⟨rfl, rfl, herror⟩ := hd
  cases herror with
  | none => exact .refl _
  | some he => exact .raised he

theorem SameDeferred.cancel (d d' : Deferred) (hd : SameDeferred d d') :
    SameDeferred d.cancel d'.cancel := by
  refine ⟨hd.command, hd.value, ?_⟩
  rw [Deferred.cancel, Deferred.cancel, hd.command]
  exact .some (.refl _)

theorem cancelAll_same (pending : List PendingOperation) {h h' : Deferreds}
    (hh : SameDeferreds h h') :
    SameDeferreds (SPD3000.cancelAll pending h) (SPD3000.cancelAll pending h') := by
  induction pending generalizing h h' with
  | nil => exact hh
  | cons op pending ih =>
    cases op with
    | read r => exact ih (hh.modify _ SameDeferred.cancel)
    | write w => exact ih hh

/-! ## Results of a batch -/

theorem settleReads_same (values : List (Option PyStr)) (reads : List PlannedRead)
    {h h' : Deferreds} (hh : SameDeferreds h h') :
    (settleReads values reads h').1 = (settleReads values reads h).1 ∧
      SameDeferreds (settleReads values reads h).2 (settleReads values reads h').2 := by
  induction reads generalizing h h' with
  | nil => exact ⟨rfl, hh⟩
  | cons r reads ih =>
    rw [settleReads, settleReads]
    cases r.indexes.mapM (valueAt values) with
    | error e => exact ⟨rfl, hh⟩
    | ok responses =>
      have hcommand : (h' r.operation.deferred).command = (h r.operation.deferred).command :=
        (hh _).command.symm
      dsimp only
      rw [hcommand]
      set outcome := parseResponses r.operation (h r.operation.deferred).command responses
      obtain ⟨heq, hsame⟩ := ih (hh.modify r.operation.deferred (SameDeferred.settle outcome))
      revert heq hsame
      generalize settleReads values reads (h.modify _ _) = s
      generalize settleReads values reads (h'.modify _ _) = s'
      obtain ⟨r₁, h₁⟩ := s
      obtain ⟨r₂, h₂⟩ := s'
      rintro rfl hsame
      cases r₂ with
      | error e => exact ⟨rfl, hsame⟩
      | ok errors => cases outcome <;> exact ⟨rfl, hsame⟩

theorem processResult_same (p : Plan) (values : List (Option PyStr)) {h h' : Deferreds}
    (hh : SameDeferreds h h') :
    (processResult p values h').1 = (processResult p values h).1 ∧
      SameDeferreds (processResult p values h).2 (processResult p values h').2 := by
  obtain ⟨heq, hsame⟩ := settleReads_same values p.reads hh
  rw [processResult, processResult]
  revert heq hsame
  generalize settleReads values p.reads h = s
  generalize settleReads values p.reads h' = s'
  obtain ⟨r₁, h₁⟩ := s
  obtain ⟨r₂, h₂⟩ := s'
  rintro rfl hsame
  cases r₂ with
  | error e => exact ⟨rfl, hsame⟩
  | ok errors =>
    dsimp only
    cases verifyWrites values p.verifications with
    | error e => exact ⟨rfl, hsame⟩
    | ok errors' =>
      dsimp only
      cases (errors ++ errors').argmin (·.1) <;> exact ⟨rfl, hsame⟩

/-- The text of an exception of the driver is made of its class and its arguments. -/
def StrOfArgs : Prop :=
  ∀ e e' : PyExc, e.isinstance .spd3000Error → e.cls = e'.cls → e.args = e'.args →
    PyText.str e = PyText.str e'

theorem processError_same (hstr : StrOfArgs) (p : Plan) {e e' : PyExc} (he : SameException e e')
    {h h' : Deferreds} (hh : SameDeferreds h h') :
    SameResult (processError p e h).1 (processError p e' h').1 ∧
      SameDeferreds (processError p e h).2 (processError p e' h').2 := by
  have hfailed : p.failedVerification e' = p.failedVerification e := by
    rw [Plan.failedVerification, Plan.failedVerification, he.getattr (by decide)]
  have hraised : SameResult (α := Unit) (.error e) (.error e') ∧
      SameDeferreds (rejectAll e p.reads h) (rejectAll e' p.reads h') :=
    ⟨.raised he, rejectAll_same he p.reads hh⟩
  rw [processError, processError, Plan.outward, Plan.outward, hfailed, he.isinstance]
  cases p.failedVerification e with
  | none => exact hraised
  | some w =>
    dsimp only
    split_ifs with hdriver
    · cases w.verification.readback with
      | none => exact ⟨.refl _, hh⟩
      | some readback =>
        have htext : readbackFailed w.operation w.verification readback e' =
            readbackFailed w.operation w.verification readback e := by
          rw [readbackFailed, readbackFailed, hstr e e' hdriver he.cls he.args]
        dsimp only
        rw [htext]
        exact ⟨.refl _, rejectAll_same (.refl _) p.reads hh⟩
    · exact hraised

end

/-! ## Executors -/

/-- The second executor does what the first one does, for as long as `P` holds of the first. -/
structure Simulates (E : Executor ε) (E' : Executor ε') (R : ε → ε' → Prop) (P : ε → Prop) :
    Prop where
  /-- Once lost, `P` stays lost. -/
  before : ∀ b x, P (E.execute b x).2 → P x
  step : ∀ b x x', R x x' → P (E.execute b x).2 →
    SameResult (E.execute b x).1 (E'.execute b x').1 ∧ R (E.execute b x).2 (E'.execute b x').2

/-- An executor after some further batches. -/
inductive Handed (E : Executor ε) (x : ε) : ε → Prop
  | refl : Handed E x x
  | step {y : ε} (b : CommandBatch) : Handed E x y → Handed E x (E.execute b y).2

theorem Handed.trans {E : Executor ε} {x y z : ε} (h : Handed E x y) (h' : Handed E y z) :
    Handed E x z := by
  induction h' with
  | refl => exact h
  | step b _ ih => exact ih.step b

theorem Simulates.handed {E : Executor ε} {E' : Executor ε'} {R : ε → ε' → Prop} {P : ε → Prop}
    (hE : Simulates E E' R P) {x y : ε} (h : Handed E x y) (hy : P y) : P x := by
  induction h with
  | refl => exact hy
  | step b _ ih => exact ih (hE.before b _ hy)

/-! ## The driver -/

namespace SPD3000

/-- The same driver over another executor, with other deferred results. -/
def moved (x' : ε') (h' : Deferreds) (d : SPD3000 ε) : SPD3000 ε' where
  executor := x'
  verifyWritesGlobally := d.verifyWritesGlobally
  verifyWritesOverrides := d.verifyWritesOverrides
  batchActive := d.batchActive
  pendingOperations := d.pendingOperations
  batchResponses := d.batchResponses
  batchResponseDeferreds := d.batchResponseDeferreds
  lockDepth := d.lockDepth
  deferreds := h'
  nextDeferred := d.nextDeferred
  lists := d.lists
  nextList := d.nextList

end SPD3000

/-- Drivers in the same scopes, with related executors and deferred results that look the same. -/
def SameDriver (R : ε → ε' → Prop) (d : SPD3000 ε) (d' : SPD3000 ε') : Prop :=
  ∃ x' h', R d.executor x' ∧ SameDeferreds d.deferreds h' ∧ d' = d.moved x' h'

/-- Two calls end alike, if `P` has lasted. -/
def Lockstep (R : ε → ε' → Prop) (P : ε → Prop) (o : Except PyExc α × SPD3000 ε)
    (o' : Except PyExc α × SPD3000 ε') : Prop :=
  P o.2.executor → SameResult o.1 o'.1 ∧ SameDriver R o.2 o'.2

section
variable [PyText] {E : Executor ε} {E' : Executor ε'} {R : ε → ε' → Prop} {P : ε → Prop}

omit [PyText] in
theorem executePlan_handed (p : Plan) (x : ε) : Handed E x (executePlan E p x).2 := by
  rw [executePlan]
  cases CommandBatch.make p.commands with
  | error e => exact .refl
  | ok batch => exact .step batch .refl

/-- An execution hands over at most one batch. -/
theorem executePending_handed (ops : List PendingOperation) (x : ε) (h : Deferreds) :
    Handed E x (executePending E ops x h).2.1 := by
  rw [executePending]
  cases plan ops .empty with
  | error e => exact .refl
  | ok p => exact executePlan_handed p x

theorem executePending_same (hE : Simulates E E' R P) (hstr : StrOfArgs)
    (ops : List PendingOperation) {x : ε} {x' : ε'} (hx : R x x') {h h' : Deferreds}
    (hh : SameDeferreds h h') (hP : P (executePending E ops x h).2.1) :
    SameResult (executePending E ops x h).1 (executePending E' ops x' h').1 ∧
      R (executePending E ops x h).2.1 (executePending E' ops x' h').2.1 ∧
      SameDeferreds (executePending E ops x h).2.2 (executePending E' ops x' h').2.2 := by
  revert hP
  rw [executePending, executePending]
  cases plan ops .empty with
  | error e => exact fun _ => ⟨.refl _, hx, hh⟩
  | ok p =>
    dsimp only
    rw [executePlan, executePlan]
    cases CommandBatch.make p.commands with
    | error e =>
      obtain ⟨hr, hs⟩ := processError_same hstr p (.refl e) hh
      exact fun _ => ⟨hr, hx, hs⟩
    | ok batch =>
      intro hP
      obtain ⟨hsame, hR⟩ := hE.step batch x x' hx hP
      revert hsame hR
      dsimp only
      generalize E.execute batch x = o
      generalize E'.execute batch x' = o'
      obtain ⟨r, y⟩ := o
      obtain ⟨r', y'⟩ := o'
      intro hsame hR
      cases hsame with
      | returned result =>
        obtain ⟨hr, hs⟩ := processResult_same p result.values hh
        exact ⟨.of_eq hr.symm, hR, hs⟩
      | raised he =>
        obtain ⟨hr, hs⟩ := processError_same hstr p he hh
        exact ⟨hr, hR, hs⟩

variable {d : SPD3000 ε} {d' : SPD3000 ε'}

theorem executeOperations_same (hE : Simulates E E' R P) (hstr : StrOfArgs)
    (ops : List PendingOperation) (hd : SameDriver R d d') :
    Lockstep R P (d.executeOperations E ops) (d'.executeOperations E' ops) := by
  obtain ⟨x', h', hx, hh, rfl⟩ := hd
  intro hP
  obtain ⟨hr, hR, hs⟩ := executePending_same hE hstr ops hx hh hP
  exact ⟨hr, _, _, hR, hs, rfl⟩

omit [PyText] in
theorem withLock_same {body : SPD3000 ε → Except PyExc α × SPD3000 ε}
    {body' : SPD3000 ε' → Except PyExc α × SPD3000 ε'}
    (h : Lockstep R P (body d.acquire) (body' d'.acquire)) :
    Lockstep R P (SPD3000.withLock body d) (SPD3000.withLock body' d') := by
  intro hP
  obtain ⟨hr, x', h', hx, hh, heq⟩ := h hP
  refine ⟨hr, x', h', hx, hh, ?_⟩
  rw [SPD3000.withLock, SPD3000.withLock]
  dsimp only
  rw [heq]
  rfl

theorem write_same (hE : Simulates E E' R P) (hstr : StrOfArgs) (command : PyStr)
    (verification : Option Verification) (reason : Option PyStr) (hd : SameDriver R d d') :
    Lockstep R P (d.write E command verification reason)
      (d'.write E' command verification reason) := by
  obtain ⟨x', h', hx, hh, rfl⟩ := hd
  refine withLock_same ?_
  have hverify : ((d.moved x' h').acquire).shouldVerifyWrites = d.acquire.shouldVerifyWrites := rfl
  have hactive : ((d.moved x' h').acquire).batchActive = d.acquire.batchActive := rfl
  rw [hverify, hactive]
  split_ifs
  · exact fun _ => ⟨.refl _, x', h', hx, hh, rfl⟩
  · exact executeOperations_same hE hstr _ ⟨x', h', hx, hh, rfl⟩

theorem queries_same (hE : Simulates E E' R P) (hstr : StrOfArgs) (commands : List PyStr)
    (hne : commands ≠ []) (parser : Parser (List PyStr) .exception) (hd : SameDriver R d d') :
    Lockstep R P (d.queries E commands hne parser) (d'.queries E' commands hne parser) := by
  obtain ⟨x', h', hx, hh, rfl⟩ := hd
  refine withLock_same ?_
  have hnew := hh.newDeferred d.nextDeferred (SPD3000.label commands)
  have hactive : ((d.moved x' h').acquire.newDeferred (SPD3000.label commands)).2.batchActive =
      (d.acquire.newDeferred (SPD3000.label commands)).2.batchActive := rfl
  have hid : ((d.moved x' h').acquire.newDeferred (SPD3000.label commands)).1 =
      (d.acquire.newDeferred (SPD3000.label commands)).1 := rfl
  dsimp only
  rw [hactive, hid]
  have hsame : SameDriver R (d.acquire.newDeferred (SPD3000.label commands)).2
      ((d.moved x' h').acquire.newDeferred (SPD3000.label commands)).2 := ⟨x', _, hx, hnew, rfl⟩
  split_ifs
  · exact fun _ => ⟨.refl _, x', _, hx, hnew, rfl⟩
  · have hexec := executeOperations_same hE hstr [.read ⟨commands, hne, parser,
      (d.acquire.newDeferred (SPD3000.label commands)).1⟩] hsame
    revert hexec
    generalize (d.acquire.newDeferred (SPD3000.label commands)).2.executeOperations E _ = o
    generalize ((d.moved x' h').acquire.newDeferred
      (SPD3000.label commands)).2.executeOperations E' _ = o'
    obtain ⟨r, e⟩ := o
    obtain ⟨r', e'⟩ := o'
    intro hexec hP
    have hlast : P e.executor := by
      revert hP
      cases r <;> exact id
    obtain ⟨hr, y', k', hy, hk, rfl⟩ := hexec hlast
    cases hr with
    | returned _ => exact ⟨((hk _).getValue).map _, y', k', hy, hk, rfl⟩
    | raised he => exact ⟨.raised he, y', k', hy, hk, rfl⟩

omit [PyText] in
theorem executeRawBatch_same (hE : Simulates E E' R P) (batch : CommandBatch)
    (hd : SameDriver R d d') :
    Lockstep R P (d.executeRawBatch E batch) (d'.executeRawBatch E' batch) := by
  obtain ⟨x', h', hx, hh, rfl⟩ := hd
  refine withLock_same ?_
  have hverify : ((d.moved x' h').acquire).shouldVerifyWrites = d.acquire.shouldVerifyWrites := rfl
  have hactive : ((d.moved x' h').acquire).batchActive = d.acquire.batchActive := rfl
  rw [hverify, hactive]
  split_ifs
  · exact fun _ => ⟨.refl _, x', h', hx, hh, rfl⟩
  · exact fun _ => ⟨.refl _, x', h', hx, hh, rfl⟩
  · intro hP
    obtain ⟨hr, hR⟩ := hE.step batch d.executor x' hx hP
    exact ⟨hr, _, h', hR, hh, rfl⟩

/-! ### Scopes -/

theorem extend_same (list : ℕ) (ids : List ℕ) (hd : SameDriver R d d') :
    Lockstep R P (d.extend list ids) (d'.extend list ids) := by
  induction ids generalizing d d' with
  | nil => exact fun _ => ⟨.refl _, hd⟩
  | cons i ids ih =>
    obtain ⟨x', h', hx, hh, rfl⟩ := hd
    have hvalue : SameResult (d.deferreds i).getValue ((d.moved x' h').deferreds i).getValue :=
      (hh i).getValue
    rw [SPD3000.extend, SPD3000.extend]
    revert hvalue
    generalize (d.deferreds i).getValue = r
    generalize ((d.moved x' h').deferreds i).getValue = r'
    intro hvalue
    cases hvalue with
    | returned v => exact ih ⟨x', h', hx, hh, rfl⟩
    | raised he => exact fun _ => ⟨.raised he, x', h', hx, hh, rfl⟩

/-- A call that uses the executor only to execute batches. -/
def HandsOn (E : Executor ε) (d : SPD3000 ε) (o : Except PyExc α × SPD3000 ε) : Prop :=
  Handed E d.executor o.2.executor

theorem executeOperations_handed (ops : List PendingOperation) (d : SPD3000 ε) :
    HandsOn E d (d.executeOperations E ops) := executePending_handed ops _ _

theorem write_handed (command : PyStr) (verification : Option Verification)
    (reason : Option PyStr) (d : SPD3000 ε) :
    HandsOn E d (d.write E command verification reason) := by
  rw [HandsOn, SPD3000.write, SPD3000.withLock]
  dsimp only
  split_ifs
  · exact .refl
  · exact executeOperations_handed _ d.acquire

theorem queries_handed (commands : List PyStr) (hne : commands ≠ [])
    (parser : Parser (List PyStr) .exception) (d : SPD3000 ε) :
    HandsOn E d (d.queries E commands hne parser) := by
  rw [HandsOn, SPD3000.queries, SPD3000.withLock]
  dsimp only
  split_ifs
  · exact .refl
  · have hexec := executeOperations_handed (E := E) [.read ⟨commands, hne, parser,
      (d.acquire.newDeferred (SPD3000.label commands)).1⟩]
      (d.acquire.newDeferred (SPD3000.label commands)).2
    revert hexec
    generalize (d.acquire.newDeferred (SPD3000.label commands)).2.executeOperations E _ = o
    obtain ⟨r, e⟩ := o
    intro hexec
    cases r <;> exact hexec

omit [PyText] in
theorem executeRawBatch_handed (batch : CommandBatch) (d : SPD3000 ε) :
    HandsOn E d (d.executeRawBatch E batch) := by
  rw [HandsOn, SPD3000.executeRawBatch, SPD3000.withLock]
  dsimp only
  split_ifs
  · exact .refl
  · exact .refl
  · exact .step batch .refl

theorem extend_handed (list : ℕ) (ids : List ℕ) (d : SPD3000 ε) :
    HandsOn E d (d.extend list ids) := by
  induction ids generalizing d with
  | nil => exact .refl
  | cons i ids ih =>
    rw [SPD3000.extend]
    cases (d.deferreds i).getValue with
    | error e => exact .refl
    | ok v => exact ih { d with lists := Function.update d.lists list (d.lists list ++ [v]) }

theorem finishBatch_handed (execute : Bool) (pending : List PendingOperation)
    (responses : Option ℕ) (ids : List ℕ) (d : SPD3000 ε) :
    HandsOn E d (d.finishBatch E execute pending responses ids) := by
  rw [SPD3000.finishBatch]
  cases execute with
  | false => exact .refl
  | true =>
    have hexec : HandsOn E d
        (if pending.isEmpty then (.ok (), d) else d.executeOperations E pending) := by
      split_ifs
      · exact .refl
      · exact executeOperations_handed pending d
    revert hexec
    generalize (if pending.isEmpty then (.ok (), d) else d.executeOperations E pending) = o
    obtain ⟨r, e⟩ := o
    intro hexec
    cases r with
    | error _ => exact hexec
    | ok _ =>
      cases responses with
      | none => exact hexec
      | some list => exact hexec.trans (extend_handed list ids e)

theorem endBatch_handed (execute : Bool) (d : SPD3000 ε) : HandsOn E d (d.endBatch E execute) := by
  rw [SPD3000.endBatch_eq]
  exact finishBatch_handed (d := d.takeBatch) ..

omit [PyText] in
theorem verifyWritesScope_handed (enabled : Bool)
    {body : SPD3000 ε → Except PyExc α × SPD3000 ε}
    (hbody : HandsOn E (d.beginVerifyWrites enabled) (body (d.beginVerifyWrites enabled))) :
    HandsOn E d (d.verifyWritesScope enabled body) := by
  rw [SPD3000.verifyWritesScope]
  revert hbody
  generalize body (d.beginVerifyWrites enabled) = o
  obtain ⟨r, e⟩ := o
  intro hbody
  dsimp only
  rw [SPD3000.endVerifyWrites]
  cases e.verifyWritesOverrides with
  | nil => exact hbody
  | cons _ _ => exact hbody

/-- An attempt to nest a batch scope. -/
theorem batchScope_active (ha : d.batchActive = true)
    (body : SPD3000 ε → Except PyExc α × SPD3000 ε) :
    d.batchScope E body = (.error (.msg .spd3000ValidationError
      "Nested batch executions are not supported"), d.newList.2) := by
  have hbegin : d.newList.2.beginBatch d.newList.1 = (.error (.msg .spd3000ValidationError
      "Nested batch executions are not supported"), d.newList.2) := by
    simp [SPD3000.beginBatch, SPD3000.newList, SPD3000.acquire, SPD3000.release, ha]
  rw [SPD3000.batchScope]
  simp only [hbegin]

theorem batchScope_inactive (ha : d.batchActive = false)
    (body : SPD3000 ε → Except PyExc α × SPD3000 ε) :
    d.batchScope E body =
      (((body d.entered).2.endBatch E (body d.entered).1.isOk).1.bind fun _ => (body d.entered).1,
        ((body d.entered).2.endBatch E (body d.entered).1.isOk).2) := by
  have hbegin : d.newList.2.beginBatch d.newList.1 = (.ok (), d.entered) := by
    simp [SPD3000.beginBatch, SPD3000.newList, SPD3000.acquire, ha, SPD3000.entered]
  rw [SPD3000.batchScope]
  simp only [hbegin]
  generalize (body d.entered).2.endBatch E (body d.entered).1.isOk = o
  obtain ⟨r, e⟩ := o
  cases r <;> rfl

theorem batchScope_handed {body : SPD3000 ε → Except PyExc α × SPD3000 ε}
    (hbody : ∀ d, HandsOn E d (body d)) (d : SPD3000 ε) : HandsOn E d (d.batchScope E body) := by
  cases ha : d.batchActive with
  | true =>
    rw [batchScope_active ha]
    exact .refl
  | false =>
    rw [batchScope_inactive ha]
    exact (hbody d.entered).trans (endBatch_handed _ _)

end

/-! ## Programs -/

/-- Two programs that do the same, and go on alike after exceptions that look the same. -/
inductive Program.Alike : Program → Program → Prop
  | done {r r'} : SameResult r r' → Alike (.done r) (.done r')
  | write {command verification reason next next'} :
      (∀ r r', SameResult r r' → Alike (next r) (next' r')) →
      Alike (.write command verification reason next) (.write command verification reason next')
  | read {commands nonempty parser next next'} :
      (∀ r r', SameResult r r' → Alike (next r) (next' r')) →
      Alike (.read commands nonempty parser next) (.read commands nonempty parser next')
  | execute {batch next next'} : (∀ r r', SameResult r r' → Alike (next r) (next' r')) →
      Alike (.execute batch next) (.execute batch next')
  | setGlobally {enabled next next'} : Alike next next' →
      Alike (.setGlobally enabled next) (.setGlobally enabled next')
  | verifyWrites {enabled body body' next next'} : Alike body body' →
      (∀ r r', SameResult r r' → Alike (next r) (next' r')) →
      Alike (.verifyWrites enabled body next) (.verifyWrites enabled body' next')
  | batch {body body' next next'} : (∀ list, Alike (body list) (body' list)) →
      (∀ r r', SameResult r r' → Alike (next r) (next' r')) →
      Alike (.batch body next) (.batch body' next')
  | value {deferred next next'} : (∀ r r', SameResult r r' → Alike (next r) (next' r')) →
      Alike (.value deferred next) (.value deferred next')
  | responses {list next next'} : (∀ values, Alike (next values) (next' values)) →
      Alike (.responses list next) (.responses list next')

section
variable [PyText] {E : Executor ε} {E' : Executor ε'} {R : ε → ε' → Prop} {P : ε → Prop}

/-- A program uses the executor only to execute batches. -/
theorem run_handed (p : Program) (d : SPD3000 ε) : HandsOn E d (p.run E d) := by
  induction p generalizing d with
  | done outcome => exact .refl
  | write command verification reason next ih =>
    exact (write_handed command verification reason d).trans (ih _ _)
  | read commands hne parser next ih =>
    exact (queries_handed commands hne parser d).trans (ih _ _)
  | execute batch next ih => exact (executeRawBatch_handed batch d).trans (ih _ _)
  | setGlobally enabled next ih => exact ih { d with verifyWritesGlobally := enabled }
  | verifyWrites enabled body next ihb ih =>
    exact (verifyWritesScope_handed enabled (ihb _)).trans (ih _ _)
  | batch body next ihb ih => exact (batchScope_handed (ihb d.nextList) d).trans (ih _ _)
  | value deferred next ih => exact ih _ d
  | responses list next ih => exact ih _ d

/-! ### Step by step -/

theorem finishBatch_same (hE : Simulates E E' R P) (hstr : StrOfArgs) (execute : Bool)
    (pending : List PendingOperation) (responses : Option ℕ) (ids : List ℕ) {d : SPD3000 ε}
    {d' : SPD3000 ε'} (hd : SameDriver R d d') :
    Lockstep R P (d.finishBatch E execute pending responses ids)
      (d'.finishBatch E' execute pending responses ids) := by
  rw [SPD3000.finishBatch, SPD3000.finishBatch]
  cases execute with
  | false =>
    obtain ⟨x', h', hx, hh, rfl⟩ := hd
    exact fun _ => ⟨.refl _, x', _, hx, cancelAll_same pending hh, rfl⟩
  | true =>
    have hexec : Lockstep R P (if pending.isEmpty then (.ok (), d) else d.executeOperations E pending)
        (if pending.isEmpty then (.ok (), d') else d'.executeOperations E' pending) := by
      split_ifs
      · exact fun _ => ⟨.refl _, hd⟩
      · exact executeOperations_same hE hstr pending hd
    simp only [Bool.not_true, Bool.false_eq_true, if_false]
    revert hexec
    generalize (if pending.isEmpty then (.ok (), d) else d.executeOperations E pending) = o
    generalize (if pending.isEmpty then (.ok (), d') else d'.executeOperations E' pending) = o'
    obtain ⟨r, e⟩ := o
    obtain ⟨r', e'⟩ := o'
    intro hexec hP
    have hlast : P e.executor := by
      cases r with
      | error _ => exact hP
      | ok _ =>
        cases responses with
        | none => exact hP
        | some list => exact hE.handed (extend_handed list ids e) hP
    obtain ⟨hr, he⟩ := hexec hlast
    cases hr with
    | raised hsame => exact ⟨.raised hsame, he⟩
    | returned _ =>
      cases responses with
      | none => exact ⟨.refl _, he⟩
      | some list => exact extend_same list ids he hP

theorem endBatch_same (hE : Simulates E E' R P) (hstr : StrOfArgs) (execute : Bool)
    {d : SPD3000 ε} {d' : SPD3000 ε'} (hd : SameDriver R d d') :
    Lockstep R P (d.endBatch E execute) (d'.endBatch E' execute) := by
  obtain ⟨x', h', hx, hh, rfl⟩ := hd
  intro hP
  rw [SPD3000.endBatch_eq] at hP ⊢
  rw [SPD3000.endBatch_eq]
  obtain ⟨hr, y', k', hy, hk, heq⟩ := finishBatch_same hE hstr execute d.pendingOperations
    d.batchResponses d.batchResponseDeferreds
    (show SameDriver R d.takeBatch (d.moved x' h').takeBatch from ⟨x', h', hx, hh, rfl⟩) hP
  refine ⟨hr, y', k', hy, hk, ?_⟩
  have hrelease : ((d.moved x' h').takeBatch.finishBatch E' execute d.pendingOperations
      d.batchResponses d.batchResponseDeferreds).2.release = _ := congrArg SPD3000.release heq
  exact hrelease

/-- A batch scope whose body runs alike. -/
theorem batchScope_same (hE : Simulates E E' R P) (hstr : StrOfArgs) {d : SPD3000 ε}
    {d' : SPD3000 ε'} (hd : SameDriver R d d')
    {body : SPD3000 ε → Except PyExc α × SPD3000 ε}
    {body' : SPD3000 ε' → Except PyExc α × SPD3000 ε'}
    (hbody : ∀ d d', SameDriver R d d' → Lockstep R P (body d) (body' d')) :
    Lockstep R P (d.batchScope E body) (d'.batchScope E' body') := by
  obtain ⟨x', h', hx, hh, rfl⟩ := hd
  cases ha : d.batchActive with
  | true =>
    rw [batchScope_active ha, batchScope_active (d := d.moved x' h') ha]
    exact fun _ => ⟨.refl _, x', h', hx, hh, rfl⟩
  | false =>
    rw [batchScope_inactive ha, batchScope_inactive (d := d.moved x' h') ha]
    have hentered : SameDriver R d.entered (d.moved x' h').entered := ⟨x', h', hx, hh, rfl⟩
    have hlock := hbody _ _ hentered
    revert hlock
    generalize body d.entered = o
    generalize body' (d.moved x' h').entered = o'
    intro hlock hP
    obtain ⟨hr, he⟩ := hlock (hE.handed (endBatch_handed _ _) hP)
    rw [hr.isOk]
    obtain ⟨hr', he'⟩ := endBatch_same hE hstr _ he hP
    refine ⟨?_, he'⟩
    revert hr'
    generalize (SPD3000.endBatch E o.1.isOk o.2).1 = s
    generalize (SPD3000.endBatch E' o.1.isOk o'.2).1 = s'
    intro hr'
    cases hr' with
    | returned _ => exact hr
    | raised hsame => exact .raised hsame

omit [PyText] in
theorem verifyWritesScope_same (enabled : Bool) {d : SPD3000 ε} {d' : SPD3000 ε'}
    (hd : SameDriver R d d') {body : SPD3000 ε → Except PyExc α × SPD3000 ε}
    {body' : SPD3000 ε' → Except PyExc α × SPD3000 ε'}
    (hbody : ∀ d d', SameDriver R d d' → Lockstep R P (body d) (body' d')) :
    Lockstep R P (d.verifyWritesScope enabled body) (d'.verifyWritesScope enabled body') := by
  obtain ⟨x', h', hx, hh, rfl⟩ := hd
  have hbegun : SameDriver R (d.beginVerifyWrites enabled)
      ((d.moved x' h').beginVerifyWrites enabled) := ⟨x', h', hx, hh, rfl⟩
  have hlock := hbody _ _ hbegun
  rw [SPD3000.verifyWritesScope, SPD3000.verifyWritesScope]
  revert hlock
  generalize body (d.beginVerifyWrites enabled) = o
  generalize body' ((d.moved x' h').beginVerifyWrites enabled) = o'
  obtain ⟨r, e⟩ := o
  obtain ⟨r', e'⟩ := o'
  intro hlock
  dsimp only
  rw [SPD3000.endVerifyWrites, SPD3000.endVerifyWrites]
  cases ho : e.verifyWritesOverrides with
  | nil =>
    intro hP
    obtain ⟨-, y', k', hy, hk, rfl⟩ := hlock hP
    rw [show (e.moved y' k').verifyWritesOverrides = [] from ho]
    exact ⟨.refl _, y', k', hy, hk, rfl⟩
  | cons override overrides =>
    intro hP
    obtain ⟨hr, y', k', hy, hk, rfl⟩ := hlock hP
    rw [show (e.moved y' k').verifyWritesOverrides = override :: overrides from ho]
    exact ⟨hr, y', k', hy, hk, rfl⟩

/-- What follows a call runs alike, if the call did. -/
theorem Lockstep.next (hE : Simulates E E' R P) {o : Except PyExc α × SPD3000 ε}
    {o' : Except PyExc α × SPD3000 ε'} (ho : Lockstep R P o o') {p p' : Except PyExc α → Program}
    (hp : ∀ r r', SameResult r r' → ∀ d d', SameDriver R d d' →
      Lockstep R P ((p r).run E d) ((p' r').run E' d')) :
    Lockstep R P ((p o.1).run E o.2) ((p' o'.1).run E' o'.2) := by
  intro hP
  obtain ⟨hr, hd⟩ := ho (hE.handed (run_handed (p o.1) o.2) hP)
  exact hp _ _ hr _ _ hd hP

/-- A program on two executors of which the second simulates the first. -/
theorem run_same (hE : Simulates E E' R P) (hstr : StrOfArgs) {p p' : Program}
    (hp : p.Alike p') {d : SPD3000 ε} {d' : SPD3000 ε'} (hd : SameDriver R d d') :
    Lockstep R P (p.run E d) (p'.run E' d') := by
  induction hp generalizing d d' with
  | done hr => exact fun _ => ⟨hr, hd⟩
  | write _ ih =>
    exact (write_same hE hstr _ _ _ hd).next hE fun r r' hr _ _ => ih r r' hr
  | read _ ih =>
    exact (queries_same hE hstr _ _ _ hd).next hE fun r r' hr _ _ => ih r r' hr
  | execute _ ih =>
    exact (executeRawBatch_same hE _ hd).next hE fun r r' hr _ _ => ih r r' hr
  | setGlobally _ ih =>
    obtain ⟨x', h', hx, hh, rfl⟩ := hd
    exact ih ⟨x', h', hx, hh, rfl⟩
  | verifyWrites _ _ ihb ih =>
    exact (verifyWritesScope_same _ hd fun _ _ hd => ihb hd).next hE fun r r' hr _ _ => ih r r' hr
  | batch _ _ ihb ih =>
    obtain ⟨x', h', hx, hh, rfl⟩ := hd
    have hmoved : SameDriver R d (d.moved x' h') := ⟨x', h', hx, hh, rfl⟩
    have hscope := batchScope_same hE hstr hmoved fun _ _ hd => ihb d.nextList hd
    exact hscope.next hE fun r r' hr _ _ => ih r r' hr
  | value _ ih =>
    obtain ⟨x', h', hx, hh, rfl⟩ := hd
    exact ih _ _ (hh _).getValue ⟨x', h', hx, hh, rfl⟩
  | responses _ ih =>
    obtain ⟨x', h', hx, hh, rfl⟩ := hd
    exact ih _ ⟨x', h', hx, hh, rfl⟩

end

end Spd3000
