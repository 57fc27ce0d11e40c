/-
  Threads that share one driver (`SPD3000` with its operation lock).

  The driver methods are cut into steps where another thread could come between:
  the lock is acquired, fields are read or written, the executor runs, the lock
  is released.  Only the acquisition waits, so whatever keeps the threads apart
  must follow from the lock.  Each step is a step of the method in `Driver`.
-/
import Spd3000.Scopes
import Spd3000.Lib.Locks
import Spd3000.Lib.Runs

namespace Spd3000

variable {ε τ : Type}

/-! ## Methods in steps -/

/-- The driver methods that acquire the operation lock first. -/
inductive DriverCall where
  | write (command : PyStr) (verification : Option Verification) (reason : Option PyStr)
  | queries (commands : List PyStr) (nonempty : commands ≠ [])
      (parser : Parser (List PyStr) .exception)
  | setGlobally (enabled : Bool)
  | executeRawBatch (batch : CommandBatch)
  | beginBatch
  | beginVerifyWrites (enabled : Bool)

/-- Where a thread is inside a driver method. -/
inductive Activity where
  | idle
  /-- It has acquired the lock for a call. -/
  | running (call : DriverCall)
  /-- It has built an operation and will collect or execute it. -/
  | handing (op : PendingOperation)
  /-- It has taken the collected operations out of the fields, at the end of a batch scope. -/
  | endingBatch (execute : Bool) (pending : List PendingOperation) (responses : Option ℕ)
      (deferreds : List ℕ)
  /-- It has yet to release the lock. -/
  | leaving

inductive OpenScope where
  | batch
  | verifyWrites (enabled : Bool)

/-- A thread: its open scopes, the innermost one first, and what it is doing. -/
structure DriverThread where
  scopes : List OpenScope
  activity : Activity

/-- A thread outside of all scopes and methods. -/
def DriverThread.rest : DriverThread := ⟨[], .idle⟩

/-- What a thread does next: call a method, leave its innermost scope, or go on in its method.  A
    batch scope is left with or without an exception. -/
inductive ThreadAction where
  | call (call : DriverCall)
  | exit (completed : Bool)
  | next

/-- What happens in a step. -/
inductive Happening where
  | opened
  | refused
  | collected (op : PendingOperation)
  | sent (op : PendingOperation)
  | closed (ops : List PendingOperation) (executed : Bool)
  | executed (batch : CommandBatch)
  | entered (enabled : Bool)
  | left
  | assigned (enabled : Bool)

namespace SPD3000

/-- The beginning of `_end_batch`. -/
def takeBatch (d : SPD3000 ε) : SPD3000 ε :=
  { d with
    pendingOperations := []
    batchActive := false
    batchResponses := none
    batchResponseDeferreds := [] }

section
variable [PyText] (E : Executor ε)

/-- The rest of `_end_batch`, up to the release of the lock. -/
def finishBatch (execute : Bool) (pending : List PendingOperation) (responses : Option ℕ)
    (deferreds : List ℕ) (d : SPD3000 ε) : Except PyExc Unit × SPD3000 ε :=
  if !execute then (.ok (), { d with deferreds := cancelAll pending d.deferreds })
  else
    let (r, d) := if pending.isEmpty then (.ok (), d) else d.executeOperations E pending
    match r, responses with
    | .error e, _ => (.error e, d)
    | .ok (), none => (.ok (), d)
    | .ok (), some responses => extend responses deferreds d

theorem endBatch_eq (execute : Bool) (d : SPD3000 ε) : d.endBatch E execute =
    ((d.takeBatch.finishBatch E execute d.pendingOperations d.batchResponses
        d.batchResponseDeferreds).1,
      (d.takeBatch.finishBatch E execute d.pendingOperations d.batchResponses
        d.batchResponseDeferreds).2.release) := by
  cases execute <;> rfl

end

end SPD3000

/-! ## Steps of a thread -/

/-- A thread with the state it works on. -/
structure ThreadView (ε τ : Type) where
  thread : DriverThread
  lock : RLock τ
  device : SPD3000 ε

namespace ThreadView

section
variable [PyText] (E : Executor ε)

/-- The body of a call, once the lock has been acquired. -/
def runCall (call : DriverCall) (v : ThreadView ε τ) : ThreadView ε τ × List Happening :=
  let d := v.device
  match call with
  | .write command verification reason =>
    let selected := SPD3000.selectVerification d.shouldVerifyWrites verification reason
    ({ v with thread := ⟨v.thread.scopes, .handing (.write ⟨command, selected⟩)⟩ }, [])
  | .queries commands nonempty parser =>
    let (i, d) := d.newDeferred (SPD3000.label commands)
    ({ v with
        thread := ⟨v.thread.scopes, .handing (.read ⟨commands, nonempty, parser, i⟩)⟩
        device := d }, [])
  | .setGlobally enabled =>
    ({ v with
        thread := ⟨v.thread.scopes, .leaving⟩
        device := { d with verifyWritesGlobally := enabled } }, [.assigned enabled])
  | .executeRawBatch batch =>
    if d.batchActive || d.shouldVerifyWrites then
      ({ v with thread := ⟨v.thread.scopes, .leaving⟩ }, [.refused])
    else ({ v with
        thread := ⟨v.thread.scopes, .leaving⟩
        device := { d with executor := (E.execute batch d.executor).2 } }, [.executed batch])
  | .beginBatch =>
    if d.batchActive then ({ v with thread := ⟨v.thread.scopes, .leaving⟩ }, [.refused])
    else
      let (responses, d) := d.newList
      ({ v with
          thread := ⟨.batch :: v.thread.scopes, .idle⟩
          device := { d with
            batchActive := true
            pendingOperations := []
            batchResponses := some responses
            batchResponseDeferreds := [] } }, [.opened])
  | .beginVerifyWrites enabled =>
    ({ v with
        thread := ⟨.verifyWrites enabled :: v.thread.scopes, .idle⟩
        device := { d with verifyWritesOverrides := enabled :: d.verifyWritesOverrides } },
      [.entered enabled])

/-- An operation is collected in a batch scope and executed outside. -/
def hand (op : PendingOperation) (v : ThreadView ε τ) : ThreadView ε τ × List Happening :=
  let d := v.device
  if d.batchActive then
    let deferreds := match op with
      | .read r => [r.deferred]
      | .write _ => []
    ({ v with
        thread := ⟨v.thread.scopes, .leaving⟩
        device := { d with
          pendingOperations := d.pendingOperations ++ [op]
          batchResponseDeferreds := d.batchResponseDeferreds ++ deferreds } }, [.collected op])
  else ({ v with
      thread := ⟨v.thread.scopes, .leaving⟩
      device := (d.executeOperations E [op]).2 }, [.sent op])

end

/-- The thread leaves its innermost scope. -/
def exit (completed : Bool) (v : ThreadView ε τ) : Option (ThreadView ε τ × List Happening) :=
  let d := v.device
  match v.thread.scopes with
  | [] => none
  | .batch :: scopes => some ({ v with
      thread := ⟨scopes, .endingBatch completed d.pendingOperations d.batchResponses
        d.batchResponseDeferreds⟩
      device := d.takeBatch }, [])
  | .verifyWrites _ :: scopes => some ({ v with
      thread := ⟨scopes, .leaving⟩
      device := { d with verifyWritesOverrides := d.verifyWritesOverrides.tail } }, [.left])

variable [DecidableEq τ] [PyText] (E : Executor ε)

/-- One step of the thread `t`; an acquisition of the lock that waits is not enabled. -/
def step (t : τ) (a : ThreadAction) (v : ThreadView ε τ) :
    Option (ThreadView ε τ × List Happening) :=
  match a, v.thread.activity with
  | .call call, .idle => (v.lock.acquire t).map fun lock =>
      (⟨⟨v.thread.scopes, .running call⟩, lock, v.device.acquire⟩, [])
  | .exit completed, .idle => v.exit completed
  | .next, .running call => some (v.runCall E call)
  | .next, .handing op => some (v.hand E op)
  | .next, .endingBatch execute pending responses deferreds => some ({ v with
      thread := ⟨v.thread.scopes, .leaving⟩
      device := (v.device.finishBatch E execute pending responses deferreds).2 },
      [.closed pending execute])
  | .next, .leaving => (v.lock.release t).map fun lock =>
      (⟨⟨v.thread.scopes, .idle⟩, lock, v.device.release⟩, [])
  | _, _ => none

end ThreadView

/-! ## All threads -/

/-- A driver that threads share. -/
structure SharedDriver (ε τ : Type) where
  device : SPD3000 ε
  lock : RLock τ
  threads : τ → DriverThread

/-- A new driver, which no thread uses yet. -/
def SharedDriver.make (executor : ε) (verifyWritesGlobally : Bool) : SharedDriver ε τ :=
  ⟨.make executor verifyWritesGlobally, .free, fun _ => .rest⟩

/-- The threads of a driver, in any order of steps. -/
def threadSystem [DecidableEq τ] [PyText] (E : Executor ε) :
    Runs.System (SharedDriver ε τ) (τ × ThreadAction) (τ × Happening) where
  step l s := (ThreadView.step E l.1 l.2 ⟨s.threads l.1, s.lock, s.device⟩).map fun r =>
    (⟨r.1.device, r.1.lock, Function.update s.threads l.1 r.1.thread⟩, r.2.map (l.1, ·))

/-! ## Undisturbed methods -/

section
variable [DecidableEq τ] [PyText] (E : Executor ε)

/-- The steps of one thread, while no other thread takes one. -/
def ThreadView.steps (t : τ) (actions : List ThreadAction) (v : ThreadView ε τ) :
    Option (ThreadView ε τ) :=
  actions.foldlM (fun v a => (v.step E t a).map Prod.fst) v

variable {t : τ} {l l' : RLock τ} {scopes : List OpenScope} {d : SPD3000 ε}

theorem steps_of_step {a : ThreadAction} {v v' : ThreadView ε τ} {happened : List Happening}
    (h : v.step E t a = some (v', happened)) (actions : List ThreadAction) :
    ThreadView.steps E t (a :: actions) v = ThreadView.steps E t actions v' := by
  rw [ThreadView.steps, List.foldlM_cons, h]
  rfl

/-- The first step of a call acquires the lock. -/
theorem steps_call (h : l.acquire t = some l') (call : DriverCall) (actions : List ThreadAction) :
    ThreadView.steps E t (.call call :: actions) ⟨⟨scopes, .idle⟩, l, d⟩ =
      ThreadView.steps E t actions ⟨⟨scopes, .running call⟩, l', d.acquire⟩ := by
  have hstep : ThreadView.step E t (.call call) ⟨⟨scopes, .idle⟩, l, d⟩ =
      some (⟨⟨scopes, .running call⟩, l', d.acquire⟩, []) := by
    show Option.map _ (l.acquire t) = _
    rw [h]
    rfl
  exact steps_of_step E hstep actions

theorem steps_running (call : DriverCall) (actions : List ThreadAction) :
    ThreadView.steps E t (.next :: actions) ⟨⟨scopes, .running call⟩, l, d⟩ =
      ThreadView.steps E t actions (ThreadView.runCall E call ⟨⟨scopes, .running call⟩, l, d⟩).1 :=
  steps_of_step E rfl actions

theorem steps_handing (op : PendingOperation) (actions : List ThreadAction) :
    ThreadView.steps E t (.next :: actions) ⟨⟨scopes, .handing op⟩, l, d⟩ =
      ThreadView.steps E t actions (ThreadView.hand E op ⟨⟨scopes, .handing op⟩, l, d⟩).1 :=
  steps_of_step E rfl actions

/-- The last step of a method releases the lock. -/
theorem steps_leaving (h : l'.release t = some l) :
    ThreadView.steps E t [.next] ⟨⟨scopes, .leaving⟩, l', d⟩ =
      some ⟨⟨scopes, .idle⟩, l, d.release⟩ := by
  have hstep : ThreadView.step E t .next ⟨⟨scopes, .leaving⟩, l', d⟩ =
      some (⟨⟨scopes, .idle⟩, l, d.release⟩, []) := by
    show Option.map _ (l'.release t) = _
    rw [h]
    rfl
  exact steps_of_step E hstep []

/-- Undisturbed, the steps of a write are the method. -/
theorem steps_write (h : l.acquire t = some l') (command : PyStr)
    (verification : Option Verification) (reason : Option PyStr) :
    ThreadView.steps E t [.call (.write command verification reason), .next, .next, .next]
        ⟨⟨scopes, .idle⟩, l, d⟩ =
      some ⟨⟨scopes, .idle⟩, l, (d.write E command verification reason).2⟩ := by
  have hrelease := RLock.release_acquire h
  rw [steps_call E h, steps_running, ThreadView.runCall, steps_handing, ThreadView.hand,
    SPD3000.write, SPD3000.withLock]
  dsimp only
  cases hactive : d.acquire.batchActive with
  | true =>
    rw [if_pos rfl, if_pos rfl, steps_leaving E hrelease]
    simp
  | false => rw [if_neg (by decide), if_neg (by decide), steps_leaving E hrelease]

theorem steps_queries (h : l.acquire t = some l') (commands : List PyStr)
    (nonempty : commands ≠ []) (parser : Parser (List PyStr) .exception) :
    ThreadView.steps E t [.call (.queries commands nonempty parser), .next, .next, .next]
        ⟨⟨scopes, .idle⟩, l, d⟩ =
      some ⟨⟨scopes, .idle⟩, l, (d.queries E commands nonempty parser).2⟩ := by
  have hrelease := RLock.release_acquire h
  rw [steps_call E h, steps_running, ThreadView.runCall, steps_handing, ThreadView.hand,
    SPD3000.queries, SPD3000.withLock, SPD3000.newDeferred]
  dsimp only
  cases hactive : d.acquire.batchActive with
  | true => rw [if_pos rfl, if_pos rfl, steps_leaving E hrelease]
  | false =>
    rw [if_neg (by decide), if_neg (by decide), steps_leaving E hrelease]
    generalize SPD3000.executeOperations E _ _ = r
    obtain ⟨r, d'⟩ := r
    cases r with
    | error e => rfl
    | ok u => rfl

theorem steps_executeRawBatch (h : l.acquire t = some l') (batch : CommandBatch) :
    ThreadView.steps E t [.call (.executeRawBatch batch), .next, .next] ⟨⟨scopes, .idle⟩, l, d⟩ =
      some ⟨⟨scopes, .idle⟩, l, (d.executeRawBatch E batch).2⟩ := by
  have hrelease := RLock.release_acquire h
  rw [steps_call E h, steps_running, ThreadView.runCall, SPD3000.executeRawBatch, SPD3000.withLock]
  dsimp only
  cases hactive : d.acquire.batchActive with
  | true =>
    rw [Bool.true_or, if_pos rfl, if_pos rfl]
    exact steps_leaving E hrelease
  | false =>
    cases hverify : d.acquire.shouldVerifyWrites with
    | true =>
      rw [Bool.false_or, if_pos rfl, if_neg Bool.false_ne_true, if_pos rfl]
      exact steps_leaving E hrelease
    | false =>
      rw [Bool.false_or, if_neg Bool.false_ne_true, if_neg Bool.false_ne_true,
        if_neg Bool.false_ne_true]
      exact steps_leaving E hrelease

/-- A nested batch scope is refused, and the lock is released again. -/
theorem steps_refused (h : l.acquire t = some l') (hactive : d.batchActive = true) (list : ℕ) :
    ThreadView.steps E t [.call .beginBatch, .next, .next] ⟨⟨scopes, .idle⟩, l, d⟩ =
      some ⟨⟨scopes, .idle⟩, l, (d.beginBatch list).2⟩ := by
  have hrelease := RLock.release_acquire h
  have hacquired : d.acquire.batchActive = true := hactive
  rw [steps_call E h, steps_running, ThreadView.runCall, SPD3000.beginBatch]
  dsimp only
  rw [if_pos hacquired, if_pos hacquired]
  exact steps_leaving E hrelease

theorem steps_beginBatch (h : l.acquire t = some l') (hactive : d.batchActive = false) :
    ThreadView.steps E t [.call .beginBatch, .next] ⟨⟨scopes, .idle⟩, l, d⟩ =
      some ⟨⟨.batch :: scopes, .idle⟩, l', (d.newList.2.beginBatch d.newList.1).2⟩ := by
  have hinactive : ¬ d.acquire.batchActive = true := by
    rw [SPD3000.acquire, hactive]
    decide
  have hinactive' : ¬ d.newList.2.acquire.batchActive = true := hinactive
  rw [steps_call E h, steps_running, ThreadView.runCall, SPD3000.beginBatch]
  dsimp only
  rw [if_neg hinactive, if_neg hinactive']
  rfl

theorem steps_endBatch (h : l.acquire t = some l') (completed : Bool) :
    ThreadView.steps E t [.exit completed, .next, .next] ⟨⟨.batch :: scopes, .idle⟩, l', d⟩ =
      some ⟨⟨scopes, .idle⟩, l, (d.endBatch E completed).2⟩ := by
  have hrelease := RLock.release_acquire h
  rw [steps_of_step E rfl, steps_of_step E rfl, steps_leaving E hrelease, SPD3000.endBatch_eq]

theorem steps_beginVerifyWrites (h : l.acquire t = some l') (enabled : Bool) :
    ThreadView.steps E t [.call (.beginVerifyWrites enabled), .next] ⟨⟨scopes, .idle⟩, l, d⟩ =
      some ⟨⟨.verifyWrites enabled :: scopes, .idle⟩, l', d.beginVerifyWrites enabled⟩ := by
  rw [steps_call E h, steps_running]
  rfl

theorem steps_endVerifyWrites (h : l.acquire t = some l') (enabled completed : Bool) :
    ThreadView.steps E t [.exit completed, .next]
        ⟨⟨.verifyWrites enabled :: scopes, .idle⟩, l', d⟩ =
      some ⟨⟨scopes, .idle⟩, l, d.endVerifyWrites.2⟩ := by
  have hrelease := RLock.release_acquire h
  rw [steps_of_step E rfl, steps_leaving E hrelease, SPD3000.endVerifyWrites]
  cases hoverrides : d.verifyWritesOverrides with
  | nil => simp [SPD3000.release, hoverrides]
  | cons enabled overrides => rfl

end

end Spd3000
