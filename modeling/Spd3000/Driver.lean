/-
  The driver object (`SPD3000` in `driver.py`) as far as operations, batch scopes
  and verification scopes go: `_write`, `_queries`, `_begin_batch`, `_end_batch`,
  the verification overrides and `_execute_raw_batch`.

  Deferred results and the lists that `psu.batch()` yields are objects; the
  driver keeps references to them.
-/
import Spd3000.Pending

namespace Spd3000

variable {ε α : Type}

/-- The fields of the driver, and the objects it has created. -/
structure SPD3000 (ε : Type) where
  executor : ε
  verifyWritesGlobally : Bool
  /-- The innermost override comes first. -/
  verifyWritesOverrides : List Bool
  batchActive : Bool
  pendingOperations : List PendingOperation
  batchResponses : Option ℕ
  batchResponseDeferreds : List ℕ
  /-- How often the thread has acquired the operation lock. -/
  lockDepth : ℕ
  deferreds : Deferreds
  nextDeferred : ℕ
  lists : ℕ → List PyVal
  nextList : ℕ

/-- What a driver method returns. -/
inductive Returned where
  | value (v : PyVal)
  | deferred (id : ℕ)

namespace SPD3000

/-- A new driver. -/
def make (executor : ε) (verifyWritesGlobally : Bool) : SPD3000 ε where
  executor := executor
  verifyWritesGlobally := verifyWritesGlobally
  verifyWritesOverrides := []
  batchActive := false
  pendingOperations := []
  batchResponses := none
  batchResponseDeferreds := []
  lockDepth := 0
  deferreds _ := .pending []
  nextDeferred := 0
  lists _ := []
  nextList := 0

def acquire (d : SPD3000 ε) : SPD3000 ε := { d with lockDepth := d.lockDepth + 1 }

def release (d : SPD3000 ε) : SPD3000 ε := { d with lockDepth := d.lockDepth - 1 }

/-- The statement `with self._operation_lock`. -/
def withLock (body : SPD3000 ε → Except PyExc α × SPD3000 ε) (d : SPD3000 ε) :
    Except PyExc α × SPD3000 ε :=
  let (r, d) := body d.acquire
  (r, d.release)

def shouldVerifyWrites (d : SPD3000 ε) : Bool :=
  match d.verifyWritesOverrides with
  | b :: _ => b
  | [] => d.verifyWritesGlobally

/-! ## Verification scopes -/

def beginVerifyWrites (enabled : Bool) (d : SPD3000 ε) : SPD3000 ε :=
  let d := d.acquire
  { d with verifyWritesOverrides := enabled :: d.verifyWritesOverrides }

def endVerifyWrites (d : SPD3000 ε) : Except PyExc Unit × SPD3000 ε :=
  match d.verifyWritesOverrides with
  | [] => (.error (.msg .runtimeError "psu.verify_writes context exited without entering"),
      d.release)
  | _ :: overrides => (.ok (), { d with verifyWritesOverrides := overrides }.release)

/-- The statement `with psu.verify_writes(enabled)`. -/
def verifyWritesScope (enabled : Bool) (body : SPD3000 ε → Except PyExc α × SPD3000 ε)
    (d : SPD3000 ε) : Except PyExc α × SPD3000 ε :=
  let (r, d) := body (d.beginVerifyWrites enabled)
  match d.endVerifyWrites with
  | (.error e, d) => (.error e, d)
  | (.ok (), d) => (r, d)

/-! ## Operations -/

/-- The verification of a write that defines none. -/
def defaultVerification (unavailableReason : Option PyStr) : Verification where
  readback := none
  expected := .none
  unavailableReason := some (match unavailableReason with
    | none | some [] => "No automatic verification is defined for this write operation"
    | some reason => reason)

/-- The verification that `_write` selects. -/
def selectVerification (verify : Bool) (verification : Option Verification)
    (unavailableReason : Option PyStr) : Option Verification :=
  if verify then some (verification.getD (defaultVerification unavailableReason)) else none

section
variable [PyText] (E : Executor ε)

def executeOperations (pending : List PendingOperation) (d : SPD3000 ε) :
    Except PyExc Unit × SPD3000 ε :=
  let (r, x, h) := executePending E pending d.executor d.deferreds
  (r, { d with executor := x, deferreds := h })

/-- The method `_write`. -/
def write (command : PyStr) (verification : Option Verification)
    (unavailableReason : Option PyStr) : SPD3000 ε → Except PyExc Unit × SPD3000 ε :=
  withLock fun d =>
    let selected := selectVerification d.shouldVerifyWrites verification unavailableReason
    let pending := PendingOperation.write ⟨command, selected⟩
    if d.batchActive then
      (.ok (), { d with pendingOperations := d.pendingOperations ++ [pending] })
    else d.executeOperations E [pending]

/-- The label of a deferred result: the query, or the queries joined by `"; "`. -/
def label (commands : List PyStr) : PyStr := (lit "; ").intercalate commands

/-- A new deferred result. -/
def newDeferred (command : PyStr) (d : SPD3000 ε) : ℕ × SPD3000 ε :=
  (d.nextDeferred, { d with
    deferreds := Function.update d.deferreds d.nextDeferred (.pending command)
    nextDeferred := d.nextDeferred + 1 })

/-- The method `_queries`. -/
def queries (commands : List PyStr) (nonempty : commands ≠ [])
    (parser : Parser (List PyStr) .exception) :
    SPD3000 ε → Except PyExc Returned × SPD3000 ε :=
  withLock fun d =>
    let (i, d) := d.newDeferred (label commands)
    let pending := PendingOperation.read ⟨commands, nonempty, parser, i⟩
    if d.batchActive then
      (.ok (.deferred i), { d with
        pendingOperations := d.pendingOperations ++ [pending]
        batchResponseDeferreds := d.batchResponseDeferreds ++ [i] })
    else match d.executeOperations E [pending] with
      | (.error e, d) => (.error e, d)
      | (.ok (), d) => ((d.deferreds i).getValue.map .value, d)

/-- The method `_execute_raw_batch`. -/
def executeRawBatch (batch : CommandBatch) : SPD3000 ε → Except PyExc BatchResult × SPD3000 ε :=
  withLock fun d =>
    if d.batchActive then (.error (.msg .spd3000ValidationError
      "psu.scpi.execute() cannot run inside a batch collection scope"), d)
    else if d.shouldVerifyWrites then (.error (.msg .spd3000ValidationError
      "psu.verify_writes() cannot infer expected values for psu.scpi.execute()"), d)
    else
      let (r, x) := E.execute batch d.executor
      (r, { d with executor := x })

/-! ## Batch scopes -/

/-- The list that a batch context yields. -/
def newList (d : SPD3000 ε) : ℕ × SPD3000 ε :=
  (d.nextList, { d with lists := Function.update d.lists d.nextList []
                        nextList := d.nextList + 1 })

omit [PyText] in
def beginBatch (responses : ℕ) (d : SPD3000 ε) : Except PyExc Unit × SPD3000 ε :=
  let d := d.acquire
  if d.batchActive then
    (.error (.msg .spd3000ValidationError "Nested batch executions are not supported"), d.release)
  else (.ok (), { d with
    batchActive := true
    pendingOperations := []
    batchResponses := some responses
    batchResponseDeferreds := [] })

def cancelAll (pending : List PendingOperation) (h : Deferreds) : Deferreds :=
  pending.foldl (fun h op => match op with
    | .read r => h.modify r.deferred Deferred.cancel
    | .write _ => h) h

/-- The loop of `responses.extend(deferred.value for deferred in deferreds)`. -/
def extend (responses : ℕ) : List ℕ → SPD3000 ε → Except PyExc Unit × SPD3000 ε
  | [], d => (.ok (), d)
  | i :: deferreds, d => match (d.deferreds i).getValue with
    | .error e => (.error e, d)
    | .ok v => extend responses deferreds
        { d with lists := Function.update d.lists responses (d.lists responses ++ [v]) }

def endBatch (execute : Bool) (d : SPD3000 ε) : Except PyExc Unit × SPD3000 ε :=
  let pending := d.pendingOperations
  let responses := d.batchResponses
  let deferreds := d.batchResponseDeferreds
  let d := { d with
    pendingOperations := []
    batchActive := false
    batchResponses := none
    batchResponseDeferreds := [] }
  let (r, d) :=
    if !execute then (.ok (), { d with deferreds := cancelAll pending d.deferreds })
    else
      let (r, d) := if pending.isEmpty then (.ok (), d) else d.executeOperations E pending
      match r, responses with
      | .error e, _ => (.error e, d)
      | .ok (), none => (.ok (), d)
      | .ok (), some responses => extend responses deferreds d
  (r, d.release)

/-- The statement `with psu.batch() as responses`. -/
def batchScope (body : SPD3000 ε → Except PyExc α × SPD3000 ε) (d : SPD3000 ε) :
    Except PyExc α × SPD3000 ε :=
  let (responses, d) := d.newList
  match d.beginBatch responses with
  | (.error e, d) => (.error e, d)
  | (.ok (), d) =>
    let (r, d) := body d
    match d.endBatch E r.isOk with
    | (.error e, d) => (.error e, d)
    | (.ok (), d) => (r, d)

end

end SPD3000

end Spd3000
