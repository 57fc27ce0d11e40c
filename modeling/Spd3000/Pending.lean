/-
  Execution of collected driver operations: `_execute_pending_operations` of
  `driver.py`.

  `plan` is the first loop, which lays out the commands of all operations and
  notes at which positions the responses will be.  `executePending` hands them to
  the executor as one batch; `outward` is the error path, `settleReads` and
  `verifyWrites` are the loops over the results.  Deferred results are objects:
  `Deferreds` gives the state of each.
-/
import Spd3000.Execution
import Mathlib.Data.List.MinMax
import Mathlib.Logic.Function.Basic

namespace Spd3000

/-! ## Operations -/

/-- A parser that raises only exceptions of a class. -/
structure Parser (α : Type) (base : ExcClass) where
  parse : α → Except PyExc PyVal
  raises : ∀ x e, parse x = .error e → e.isinstance base

/-- The query that verifies a write, and the parser of its response. -/
structure Readback where
  query : PyStr
  parser : Parser PyStr .spd3000Error

/-- How a write is to be verified; without a readback it is reported as unverifiable. -/
structure Verification where
  readback : Option Readback
  expected : PyVal
  unavailableReason : Option PyStr

structure PendingWrite where
  command : PyStr
  verification : Option Verification

/-- A read of one or several queries; `deferred` is its deferred result. -/
structure PendingRead where
  commands : List PyStr
  nonempty : commands ≠ []
  parser : Parser (List PyStr) .exception
  deferred : ℕ

inductive PendingOperation where
  | read (r : PendingRead)
  | write (w : PendingWrite)

/-- The state of all deferred results. -/
abbrev Deferreds := ℕ → Deferred

def Deferreds.modify (h : Deferreds) (i : ℕ) (f : Deferred → Deferred) : Deferreds :=
  Function.update h i (f (h i))

/-- What the driver needs of its executor: the results are aligned with the batch. -/
structure Executor (ε : Type) where
  execute : CommandBatch → ε → Except PyExc BatchResult × ε
  aligned : ∀ b x r x', execute b x = (.ok r, x') → r.values.length = b.commands.length

/-- A direct executor, as the driver uses it. -/
def DirectExecutor.executor [PyText] {σ : Type} (W : World σ) : Executor (DirectExecutor σ) where
  execute b x := x.execute W b
  aligned _ _ _ _ h := DirectExecutor.execute_length W h

/-! ## Planning the commands -/

structure PlannedRead where
  operation : PendingRead
  indexes : List ℕ

structure PlannedWrite where
  operation : PendingWrite
  verification : Verification
  writeIndex : ℕ
  queryIndex : Option ℕ

/-- The lists `commands`, `verification_indexes` and `read_indexes`. -/
structure Plan where
  commands : List Command
  verifications : List PlannedWrite
  reads : List PlannedRead

namespace Plan

def empty : Plan := ⟨[], [], []⟩

def addWrite (text : PyStr) (p : Plan) : Except PyExc Plan :=
  (validatedCommand text).map fun c => { p with commands := p.commands ++ [.write c] }

def addQuery (text : PyStr) (p : Plan) : Except PyExc Plan :=
  (validatedCommand text).map fun c => { p with commands := p.commands ++ [.query c] }

def addQueries : List PyStr → Plan → Except PyExc (List ℕ × Plan)
  | [], p => .ok ([], p)
  | text :: texts, p => match p.addQuery text with
    | .error e => .error e
    | .ok p' => match addQueries texts p' with
      | .error e => .error e
      | .ok (indexes, p'') => .ok (p.commands.length :: indexes, p'')

/-- The body of the loop for a write. -/
def addVerifiedWrite (w : PendingWrite) (p : Plan) : Except PyExc Plan :=
  match p.addWrite w.command with
  | .error e => .error e
  | .ok p' => match w.verification with
    | none => .ok p'
    | some v => match v.readback with
      | none => .ok { p' with
          verifications := p'.verifications ++ [⟨w, v, p.commands.length, none⟩] }
      | some readback => match p'.addQuery readback.query with
        | .error e => .error e
        | .ok p'' => .ok { p'' with verifications :=
            p''.verifications ++ [⟨w, v, p.commands.length, some p'.commands.length⟩] }

def add : PendingOperation → Plan → Except PyExc Plan
  | .read r, p => match addQueries r.commands p with
    | .error e => .error e
    | .ok (indexes, p) => .ok { p with reads := p.reads ++ [⟨r, indexes⟩] }
  | .write w, p => p.addVerifiedWrite w

end Plan

def plan : List PendingOperation → Plan → Except PyExc Plan
  | [], p => .ok p
  | op :: ops, p => match p.add op with
    | .error e => .error e
    | .ok p => plan ops p

/-! ## The error path -/

section
variable [PyText]

/-- An optional index, as it is compared with the index of an error. -/
def optionalIndex : Option ℕ → PyVal
  | none => .none
  | some i => .int i

/-- The first verified write whose query index equals the index of the error. -/
def Plan.failedVerification (p : Plan) (e : PyExc) : Option PlannedWrite :=
  p.verifications.find? fun w =>
    pyEq (optionalIndex w.queryIndex) (e.getattr "batch_command_index")

/-- The error for a readback that failed in the executor. -/
def readbackFailed (w : PendingWrite) (v : Verification) (readback : Readback) (e : PyExc) : PyExc :=
  verificationError
    (lit "Verification query " ++ PyText.repr (.str readback.query) ++ lit " failed after " ++
      PyText.repr (.str w.command) ++ lit ": " ++ PyText.str e)
    w.command (some readback.query) v.expected .none

/-- The exception that leaves for an exception of the executor, or the `AssertionError`
    raised on the way. -/
def Plan.outward (p : Plan) (e : PyExc) : Except PyExc PyExc :=
  match p.failedVerification e with
  | none => .ok e
  | some w =>
    if e.isinstance .spd3000Error then match w.verification.readback with
      | none => .error (.new .assertionError [])
      | some readback => .ok (readbackFailed w.operation w.verification readback e)
    else .ok e

def rejectAll (e : PyExc) (reads : List PlannedRead) (h : Deferreds) : Deferreds :=
  reads.foldl (fun h r => h.modify r.operation.deferred (Deferred.reject e)) h

/-! ## The results -/

/-- The lookup `result.values[index]`. -/
def valueAt (values : List (Option PyStr)) (index : ℕ) : Except PyExc (Option PyStr) :=
  match values[index]? with
  | some v => .ok v
  | none => .error (.msg .indexError "tuple index out of range")

/-- What a read makes of its responses. -/
def parseResponses (r : PendingRead) (label : PyStr) (responses : List (Option PyStr)) :
    Except PyExc PyVal :=
  match responses.mapM id with
  | none => .error (.msg .spd3000ProtocolError
      (lit "Query " ++ PyText.repr (.str label) ++ lit " returned no response"))
  | some texts => r.parser.parse texts

def settle (outcome : Except PyExc PyVal) (d : Deferred) : Deferred :=
  match outcome with
  | .ok v => d.resolve v
  | .error e => d.reject e

/-- The loop over the reads, with the list `deferred_errors`. -/
def settleReads (values : List (Option PyStr)) :
    List PlannedRead → Deferreds → Except PyExc (List (ℕ × PyExc)) × Deferreds
  | [], h => (.ok [], h)
  | r :: rs, h => match r.indexes.mapM (valueAt values) with
    | .error e => (.error e, h)
    | .ok responses =>
      let i := r.operation.deferred
      let outcome := parseResponses r.operation (h i).command responses
      match settleReads values rs (h.modify i (settle outcome)) with
      | (.error e, h) => (.error e, h)
      | (.ok errors, h) => match outcome with
        | .ok _ => (.ok errors, h)
        | .error e => (.ok ((r.indexes.headD 0, e) :: errors), h)

def unverifiable (w : PendingWrite) (v : Verification) : PyExc :=
  verificationError
    (lit "Verification is unavailable after " ++ PyText.repr (.str w.command) ++ lit ": " ++
      v.unavailableReason.getD "None")
    w.command none v.expected .none

/-- What a verified write makes of the response to its readback. -/
def checkReadback (w : PendingWrite) (v : Verification) (readback : Readback)
    (response : Option PyStr) : Option PyExc :=
  match response with
  | none => some (verificationError
      (lit "Verification query " ++ PyText.repr (.str readback.query) ++
        lit " returned no response")
      w.command (some readback.query) v.expected .none)
  | some response => match readback.parser.parse response with
    | .error e => some (verificationError
        (lit "Verification query " ++ PyText.repr (.str readback.query) ++
          lit " returned an unusable response after " ++ PyText.repr (.str w.command) ++
          lit ": " ++ PyText.str e)
        w.command (some readback.query) v.expected (.str response))
    | .ok actual =>
      if pyEq actual v.expected then none
      else some (verificationError
        (lit "Verification failed after " ++ PyText.repr (.str w.command) ++ lit ": " ++
          PyText.repr (.str readback.query) ++ lit " returned " ++ PyText.repr actual ++
          lit ", expected " ++ PyText.repr v.expected)
        w.command (some readback.query) v.expected actual)

/-- The body of the loop over the verified writes. -/
def verifyWrite (values : List (Option PyStr)) (w : PlannedWrite) :
    Except PyExc (Option (ℕ × PyExc)) :=
  match w.queryIndex with
  | none => .ok (some (w.writeIndex, unverifiable w.operation w.verification))
  | some i => match valueAt values i, w.verification.readback with
    | .error e, _ => .error e
    | .ok _, none => .error (.new .assertionError [])
    | .ok response, some readback =>
      .ok ((checkReadback w.operation w.verification readback response).map fun e => (i, e))

/-- The loop over the verified writes, with the list `verification_errors`. -/
def verifyWrites (values : List (Option PyStr)) : List PlannedWrite →
    Except PyExc (List (ℕ × PyExc))
  | [] => .ok []
  | w :: ws => match verifyWrite values w with
    | .error e => .error e
    | .ok error => (verifyWrites values ws).map (error.toList ++ ·)

/-! ## The whole function -/

variable {ε : Type}

/-- The end of `_execute_pending_operations` after the executor has returned. -/
def processResult (p : Plan) (values : List (Option PyStr)) (h : Deferreds) :
    Except PyExc Unit × Deferreds :=
  match settleReads values p.reads h with
  | (.error e, h) => (.error e, h)
  | (.ok deferredErrors, h) => match verifyWrites values p.verifications with
    | .error e => (.error e, h)
    | .ok verificationErrors =>
      match (deferredErrors ++ verificationErrors).argmin (·.1) with
      | some (_, e) => (.error e, h)
      | none => (.ok (), h)

/-- The `except` clause around the call of the executor. -/
def processError (p : Plan) (e : PyExc) (h : Deferreds) : Except PyExc Unit × Deferreds :=
  match p.outward e with
  | .error e => (.error e, h)
  | .ok e => (.error e, rejectAll e p.reads h)

/-- The body of the `try` statement. -/
def executePlan (E : Executor ε) (p : Plan) (x : ε) : Except PyExc BatchResult × ε :=
  match CommandBatch.make p.commands with
  | .error e => (.error e, x)
  | .ok batch => E.execute batch x

def executePending (E : Executor ε) (pending : List PendingOperation) (x : ε) (h : Deferreds) :
    Except PyExc Unit × ε × Deferreds :=
  match plan pending .empty with
  | .error e => (.error e, x, h)
  | .ok p =>
    let (r, x) := executePlan E p x
    let (r, h) := match r with
      | .error e => processError p e h
      | .ok result => processResult p result.values h
    (r, x, h)

end

end Spd3000
