/-
  What a direct executor has done when a batch ends (`DirectExecutor.execute`).

  `recorded` is a world with a list of the transport calls.  Every command is
  either performed completely or interrupted (`runCommand_calls`), so the calls
  of a batch are those of the performed commands and, if it raised, of the one
  command at which it stopped (`runFrom_trace`).  The error that leaves the loop
  names that command: its clauses are tried in order, and the classes of the
  driver come first although some of them are timeouts and connection errors.
-/
import Spd3000.Lib.Locks
import Spd3000.Spacing

namespace Spd3000

variable {σ τ : Type}

/-! ## Transport calls -/

/-- A call of the transport, and its outcome. -/
inductive TransportCall where
  | write (data : Bytes) (outcome : Except PyExc Unit)
  | read (outcome : Except PyExc Bytes)

/-- The world with a list of its transport calls. -/
def World.recorded (W : World σ) : World (σ × List TransportCall) where
  clock s := ((W.clock s.1).1, (W.clock s.1).2, s.2)
  sleeper d s := (W.sleeper d s.1, s.2)
  idle s := (W.idle s.1, s.2)
  write b s := ((W.write b s.1).1, (W.write b s.1).2, s.2 ++ [.write b (W.write b s.1).1])
  read s := ((W.read s.1).1, (W.read s.1).2, s.2 ++ [.read (W.read s.1).1])

theorem World.recorded_hom (W : World σ) : W.recorded.Hom W Prod.fst := ⟨fun _ => rfl,
  fun _ _ => rfl, fun _ => rfl, fun _ _ => rfl, fun _ => rfl⟩

theorem World.recorded_write {W : World σ} {b : Bytes} {s s' : σ × List TransportCall}
    {r : Except PyExc Unit} (h : W.recorded.write b s = (r, s')) : s'.2 = s.2 ++ [.write b r] := by
  obtain ⟨rfl, rfl⟩ := Prod.mk.inj h
  rfl

theorem World.recorded_read {W : World σ} {s s' : σ × List TransportCall}
    {r : Except PyExc Bytes} (h : W.recorded.read s = (r, s')) : s'.2 = s.2 ++ [.read r] := by
  obtain ⟨rfl, rfl⟩ := Prod.mk.inj h
  rfl

/-- The transport raises `SPD3000Error`, `TimeoutError` or `OSError`, and nothing else. -/
structure World.RaisesIO (W : World σ) : Prop where
  write : ∀ b s e s', W.write b s = (.error e, s') →
    e.isinstance .spd3000Error ∨ e.isinstance .timeoutError ∨ e.isinstance .osError
  read : ∀ s e s', W.read s = (.error e, s') →
    e.isinstance .spd3000Error ∨ e.isinstance .timeoutError ∨ e.isinstance .osError

/-! ## Commands -/

/-- A command has been performed completely: its transport calls, and its value. -/
inductive Performed : Command → List TransportCall → Option PyStr → Prop
  | write {c} : c.isQuery = false → Performed c [.write (DirectExecutor.line c) (.ok ())] none
  | query {c data text} : c.isQuery = true → decodeAscii data = some text →
      Performed c [.write (DirectExecutor.line c) (.ok ()), .read (.ok data)]
        (some (rstripNewlines text))

/-- A command has been interrupted: its transport calls, and what was raised. -/
inductive Interrupted : Command → List TransportCall → PyExc → Prop
  | write {c e} : Interrupted c [.write (DirectExecutor.line c) (.error e)] e
  | read {c e} : c.isQuery = true →
      Interrupted c [.write (DirectExecutor.line c) (.ok ()), .read (.error e)] e
  | notAscii {c data} : c.isQuery = true → decodeAscii data = none →
      Interrupted c [.write (DirectExecutor.line c) (.ok ()), .read (.ok data)]
        (.msg .spd3000ProtocolError "Instrument response was not ASCII")

/-- Some commands have been performed, one after the other. -/
inductive PerformedAll : List Command → List TransportCall → List (Option PyStr) → Prop
  | nil : PerformedAll [] [] []
  | cons {c cs calls calls' v vs} : Performed c calls v → PerformedAll cs calls' vs →
      PerformedAll (c :: cs) (calls ++ calls') (v :: vs)

/-- The error of a batch reports what was raised, and at which command. -/
structure Reported (index : ℕ) (c : Command) (cause e : PyExc) : Prop where
  driver : e.isinstance .spd3000Error
  same : cause.isinstance .spd3000Error → e.cls = cause.cls ∧ e.args = cause.args
  timeout : cause.isinstance .timeoutError → e.isinstance .spd3000TimeoutError
  connection : cause.isinstance .osError → cause.isinstance .timeoutError = false →
    e.isinstance .spd3000ConnectionError
  index : e.getattr "batch_command_index" = .int index
  kind : e.getattr "batch_command_kind" =
    .str (if c.isQuery then lit "query" else lit "write")
  text : e.getattr "batch_command" = .str c.text

/-- The commands of a batch, its transport calls, and how it ends: it is refused by a closed
    executor, all commands are performed, or those before the one at which it raises. -/
inductive BatchTrace (commands : List Command) (closed : Bool) :
    List TransportCall → Except PyExc BatchResult → Prop
  | refused : closed = true →
      BatchTrace commands closed [] (.error (.msg .spd3000ConnectionError "Executor is closed"))
  | returned {calls values} : closed = false → PerformedAll commands calls values →
      BatchTrace commands closed calls (.ok ⟨values⟩)
  | raised {performed c rest calls values calls' cause e} : closed = false →
      commands = performed ++ c :: rest → PerformedAll performed calls values →
      Interrupted c calls' cause → Reported performed.length c cause e →
      BatchTrace commands closed (calls ++ calls') (.error e)

/-- The bytes that a list of calls has written completely. -/
def writtenBy (calls : List TransportCall) : List Bytes :=
  calls.filterMap fun | .write data (.ok ()) => some data | _ => none

/-- Performed commands are written as lines, in order, and have aligned values. -/
theorem PerformedAll.written {cs : List Command} {calls : List TransportCall}
    {vs : List (Option PyStr)} (h : PerformedAll cs calls vs) :
    writtenBy calls = cs.map DirectExecutor.line ∧ vs.length = cs.length := by
  induction h with
  | nil => exact ⟨rfl, rfl⟩
  | @cons c cs calls calls' v vs hc _ ih =>
    have hline : writtenBy calls = [DirectExecutor.line c] := by
      cases hc with
      | write _ => rfl
      | query _ _ => rfl
    constructor
    · rw [writtenBy, List.filterMap_append, List.map_cons]
      exact congrArg₂ _ hline ih.1
    · rw [List.length_cons, List.length_cons, ih.2]

/-! ## Errors -/

/-- The only timeouts among the errors of the driver are its own. -/
theorem ExcClass.timeout_of_both {cls : ExcClass} (h : cls.isSubclass .spd3000Error)
    (ht : cls.isSubclass .timeoutError) : cls.isSubclass .spd3000TimeoutError := by
  induction cls with
  | subclass name base ih =>
    simp only [isSubclass, mro, List.contains_cons, Bool.or_eq_true, beq_iff_eq, reduceCtorEq,
      false_or] at h ht ⊢
    exact ih h ht
  | _ => revert h ht; decide

/-- Their other errors of the operating system are connection errors. -/
theorem ExcClass.connection_of_both {cls : ExcClass} (h : cls.isSubclass .spd3000Error)
    (ho : cls.isSubclass .osError) (ht : cls.isSubclass .timeoutError = false) :
    cls.isSubclass .spd3000ConnectionError := by
  induction cls with
  | subclass name base ih =>
    simp only [isSubclass, mro, List.contains_cons, Bool.or_eq_true, beq_iff_eq, reduceCtorEq,
      false_or, Bool.or_eq_false_iff, beq_eq_false_iff_ne, ne_eq, not_false_eq_true,
      true_and] at h ho ht ⊢
    exact ih h ho ht
  | _ => revert h ho ht; decide

/-- An annotated error reports the class, the arguments and the position it is given. -/
theorem reported_annotated {index : ℕ} {c : Command} {cause e : PyExc}
    (hdriver : e.isinstance .spd3000Error)
    (hsame : cause.isinstance .spd3000Error → e.cls = cause.cls ∧ e.args = cause.args)
    (htimeout : cause.isinstance .timeoutError → e.isinstance .spd3000TimeoutError)
    (hconnection : cause.isinstance .osError → cause.isinstance .timeoutError = false →
      e.isinstance .spd3000ConnectionError) :
    Reported index c cause (annotateExecutionError e index c) where
  driver := hdriver
  same := hsame
  timeout := htimeout
  connection := hconnection
  index := by
    simp [annotateExecutionError, PyExc.getattr, PyDict.getD, PyExc.get_setattr]
  kind := by
    simp [annotateExecutionError, PyExc.getattr, PyDict.getD, PyExc.get_setattr]
  text := by
    simp [annotateExecutionError, PyExc.getattr, PyDict.getD, PyExc.get_setattr]

section
variable [PyText]

/-- The `except` clauses report every error that a transport may raise. -/
theorem translate_reported {index : ℕ} {c : Command} {cause : PyExc}
    (h : cause.isinstance .spd3000Error ∨ cause.isinstance .timeoutError ∨
      cause.isinstance .osError) :
    Reported index c cause (DirectExecutor.translate index c cause) := by
  unfold DirectExecutor.translate
  by_cases hs : cause.isinstance .spd3000Error
  · rw [if_pos hs]
    exact reported_annotated hs (fun _ => ⟨rfl, rfl⟩) (ExcClass.timeout_of_both hs)
      (ExcClass.connection_of_both hs)
  · rw [if_neg hs]
    by_cases ht : cause.isinstance .timeoutError
    · rw [if_pos ht]
      exact reported_annotated rfl (fun h => absurd h hs) (fun _ => rfl)
        (fun _ hf => absurd (ht.symm.trans hf) Bool.true_eq_false.mp)
    · rw [if_neg ht]
      have ho : cause.isinstance .osError := by
        rcases h with h | h | h
        · exact absurd h hs
        · exact absurd h ht
        · exact h
      rw [if_pos ho]
      exact reported_annotated rfl (fun h => absurd h hs) (fun h => absurd h ht) (fun _ _ => rfl)

/-! ## Batches -/

variable {W : World σ}

/-- What the calls of one command say about its outcome. -/
def Attempts (c : Command) (calls : List TransportCall) : Except PyExc (Option PyStr) → Prop
  | .ok v => Performed c calls v
  | .error cause => Interrupted c calls cause

omit [PyText] in
theorem waitBeforeWrite_calls (x : DirectExecutor (σ × List TransportCall)) :
    (x.waitBeforeWrite W.recorded).world.2 = x.world.2 := by
  unfold DirectExecutor.waitBeforeWrite
  cases x.lastWriteAt with
  | none => rfl
  | some t =>
    dsimp only [World.recorded]
    split_ifs <;> rfl

omit [PyText] in
/-- A query that has been written, up to its read. -/
theorem query_calls {data : Bytes} {d : ℚ} {y s s' : σ × List TransportCall}
    {r : Except PyExc Bytes} (hw : W.recorded.write data y = (.ok (), s))
    (hr : W.recorded.read (W.recorded.sleeper d (W.recorded.clock s).2) = (r, s')) :
    s'.2 = y.2 ++ [.write data (.ok ()), .read r] := by
  have hlog : s.2 = _ := World.recorded_write hw
  have hpause : (W.recorded.sleeper d (W.recorded.clock s).2).2 = s.2 := rfl
  rw [World.recorded_read hr, hpause, hlog, List.append_assoc]
  rfl

omit [PyText] in
theorem attempt_calls (c : Command) (x : DirectExecutor (σ × List TransportCall)) :
    ∃ calls, (x.attempt W.recorded c).2.world.2 = x.world.2 ++ calls ∧
      Attempts c calls (x.attempt W.recorded c).1 := by
  have h := DirectExecutor.attempt_spec W.recorded c x
  rw [← waitBeforeWrite_calls (W := W) x]
  generalize x.attempt W.recorded c = a at h ⊢
  generalize x.waitBeforeWrite W.recorded = y at h ⊢
  obtain ⟨r, x'⟩ := a
  cases h with
  | writeFailed hw => exact ⟨_, World.recorded_write hw, .write⟩
  | @written s hw hq =>
    have hlog : s.2 = _ := World.recorded_write hw
    exact ⟨_, hlog, .write hq⟩
  | @readFailed s e s' hw hq hr => exact ⟨_, query_calls hw hr, .read hq⟩
  | @answered s data s' hw hq hr =>
    refine ⟨_, query_calls hw hr, ?_⟩
    rw [DirectExecutor.decode]
    cases hdecoded : decodeAscii data with
    | none => exact .notAscii hq hdecoded
    | some text => exact .query hq hdecoded

omit [PyText] in
theorem recorded_raises (hW : W.RaisesIO) {c : Command} {x : DirectExecutor (σ × List TransportCall)}
    {cause : PyExc} (h : (x.attempt W.recorded c).1 = .error cause) :
    cause.isinstance .spd3000Error ∨ cause.isinstance .timeoutError ∨
      cause.isinstance .osError := by
  have hspec := DirectExecutor.attempt_spec W.recorded c x
  generalize x.attempt W.recorded c = a at h hspec
  obtain ⟨r, x'⟩ := a
  cases hspec with
  | writeFailed hw =>
    cases h
    exact hW.write _ _ _ _ (Prod.ext (Prod.mk.inj hw).1 rfl)
  | written _ _ => cases h
  | readFailed _ _ hr =>
    cases h
    exact hW.read _ _ _ (Prod.ext (Prod.mk.inj hr).1 rfl)
  | @answered s data s' _ _ _ =>
    rw [DirectExecutor.decode] at h
    cases hdecoded : decodeAscii data with
    | none =>
      rw [hdecoded] at h
      cases h
      exact .inl rfl
    | some text =>
      rw [hdecoded] at h
      cases h

/-- The trace of the loop from position `index` on. -/
inductive LoopTrace (index : ℕ) (commands : List Command) :
    List TransportCall → Except PyExc (List (Option PyStr)) → Prop
  | returned {calls values} : PerformedAll commands calls values →
      LoopTrace index commands calls (.ok values)
  | raised {performed c rest calls values calls' cause e} :
      commands = performed ++ c :: rest → PerformedAll performed calls values →
      Interrupted c calls' cause → Reported (index + performed.length) c cause e →
      LoopTrace index commands (calls ++ calls') (.error e)

/-- The loop, by induction over the commands that are left. -/
theorem runFrom_trace (hW : W.RaisesIO) (cs : List Command) :
    ∀ (index : ℕ) (x : DirectExecutor (σ × List TransportCall)),
      ∃ calls, (x.runFrom W.recorded index cs).2.world.2 = x.world.2 ++ calls ∧
        LoopTrace index cs calls (x.runFrom W.recorded index cs).1 := by
  induction cs with
  | nil => exact fun _ x => ⟨[], (List.append_nil _).symm, .returned .nil⟩
  | cons c cs ih =>
    intro index x
    obtain ⟨calls, hlog, hcalls⟩ := attempt_calls (W := W) c x
    have hraises : ∀ cause, (x.attempt W.recorded c).1 = .error cause → _ := fun _ =>
      recorded_raises hW
    unfold DirectExecutor.runFrom DirectExecutor.runCommand
    generalize x.attempt W.recorded c = a at hlog hcalls hraises
    obtain ⟨r, y⟩ := a
    cases r with
    | error cause =>
      have hreported : Reported index c cause (DirectExecutor.translate index c cause) :=
        translate_reported (hraises cause rfl)
      have hnothing : PerformedAll [] [] [] := .nil
      exact ⟨calls, hlog, .raised rfl hnothing hcalls hreported⟩
    | ok v =>
      obtain ⟨calls', hlog', htrace⟩ := ih (index + 1) y
      refine ⟨calls ++ calls', ?_, ?_⟩
      · show (y.runFrom W.recorded (index + 1) cs).2.world.2 = _
        rw [hlog', hlog, List.append_assoc]
      · show LoopTrace index (c :: cs) _ ((y.runFrom W.recorded (index + 1) cs).1.map (v :: ·))
        generalize (y.runFrom W.recorded (index + 1) cs).1 = r at htrace
        cases htrace with
        | returned hall => exact .returned (.cons hcalls hall)
        | raised hcs hall hinterrupted hreported =>
          rw [← List.append_assoc]
          refine .raised (by rw [hcs]; rfl) (.cons hcalls hall) hinterrupted ?_
          rw [List.length_cons, ← Nat.add_assoc, Nat.add_right_comm]
          exact hreported

/-! ## The lock -/

/-- A direct executor with its lock. -/
structure SharedExecutor (τ σ : Type) where
  lock : RLock τ
  executor : DirectExecutor σ

/-- The method `execute`, called by a thread; `none` where the thread waits for the lock. -/
def SharedExecutor.execute [DecidableEq τ] (W : World σ) (t : τ) (batch : CommandBatch)
    (s : SharedExecutor τ σ) : Option (Except PyExc BatchResult × SharedExecutor τ σ) :=
  match s.lock.acquire t with
  | none => none
  | some lock =>
    let (r, x) := s.executor.execute W batch
    (lock.release t).map fun lock => (r, ⟨lock, x⟩)

def SharedExecutor.map {σ' : Type} (f : σ → σ') (s : SharedExecutor τ σ) : SharedExecutor τ σ' :=
  ⟨s.lock, s.executor.map f⟩

/-- A shared executor whose world starts to list its transport calls. -/
def SharedExecutor.recording (s : SharedExecutor τ σ) :
    SharedExecutor τ (σ × List TransportCall) :=
  s.map fun x => (x, [])

/-- A thread that may take the lock runs the batch, and leaves the lock as it was found. -/
theorem SharedExecutor.execute_available [DecidableEq τ] {W : World σ} {t : τ}
    {s : SharedExecutor τ σ} (batch : CommandBatch) (hlock : s.lock.Available t) :
    s.execute W t batch =
      some ((s.executor.execute W batch).1, ⟨s.lock, (s.executor.execute W batch).2⟩) := by
  obtain ⟨lock, hacquire⟩ := RLock.exists_acquire hlock
  rw [execute, hacquire]
  dsimp only
  rw [RLock.release_acquire hacquire]
  rfl

theorem execute_trace (hW : W.RaisesIO) (batch : CommandBatch) (x : DirectExecutor σ) :
    BatchTrace batch.commands x.closed
      ((x.map fun s => (s, [])).execute W.recorded batch).2.world.2
      ((x.map fun s => (s, [])).execute W.recorded batch).1 := by
  unfold DirectExecutor.execute
  by_cases hclosed : x.closed
  · rw [if_pos (show (x.map fun s => (s, ([] : List TransportCall))).closed from hclosed)]
    exact .refused hclosed
  · rw [if_neg (show ¬ (x.map fun s => (s, ([] : List TransportCall))).closed from hclosed)]
    obtain ⟨calls, hlog, htrace⟩ := runFrom_trace hW batch.commands 0
      (x.map fun s => (s, ([] : List TransportCall)))
    rw [Bool.not_eq_true] at hclosed
    generalize (x.map fun s => (s, ([] : List TransportCall))).runFrom W.recorded 0
      batch.commands = a at hlog htrace
    obtain ⟨r, y⟩ := a
    have hcalls : y.world.2 = calls := hlog
    cases htrace with
    | returned hall =>
      rw [← hcalls] at hall
      exact .returned hclosed hall
    | raised hcommands hall hinterrupted hreported =>
      rw [Nat.zero_add] at hreported
      show BatchTrace _ _ y.world.2 _
      rw [hcalls]
      exact .raised hclosed hcommands hall hinterrupted hreported

/-- **A direct executor performs a prefix of a batch and says where it stopped.**  Whatever its
    history and the behaviour of the transport, the calls that `execute` leaves in a recording
    world are those of the trace; the plain world sees the same run, and the lock is left as it
    was found. -/
theorem batch_performed [DecidableEq τ] (hW : W.RaisesIO) (t : τ) (batch : CommandBatch)
    (s : SharedExecutor τ σ) (hlock : s.lock.Available t) :
    ∃ r s', s.recording.execute W.recorded t batch = some (r, s') ∧
      s.execute W t batch = some (r, s'.map Prod.fst) ∧ s'.lock = s.lock ∧
      BatchTrace batch.commands s.executor.closed s'.executor.world.2 r := by
  have hrecorded : s.recording.execute W.recorded t batch = _ :=
    SharedExecutor.execute_available batch hlock
  have hplain : s.executor.execute W batch = _ :=
    execute_map W.recorded_hom batch s.recording.executor
  refine ⟨_, _, hrecorded, ?_, rfl, execute_trace hW batch s.executor⟩
  rw [SharedExecutor.execute_available batch hlock, hplain]
  rfl

end

/-- A world whose second transport call is a write that times out. -/
def stallingWorld : World ℕ where
  clock n := (0, n)
  sleeper _ n := n
  idle n := n
  write _ n := (if n = 1 then .error (.msg .timeoutError "timed out") else .ok (), n + 1)
  read n := (.ok [48, LF], n + 1)

theorem stallingWorld_raises : stallingWorld.RaisesIO where
  write b s e s' h := by
    obtain ⟨hr, -⟩ := Prod.mk.inj h
    split_ifs at hr
    cases hr
    exact .inr (.inl rfl)
  read s e s' h := by cases h

/-- A write and a query, as they are sent to switch an output on and read it back. -/
def switchedOn : CommandBatch :=
  ⟨[.write ⟨"OUTP CH1,ON", by decide⟩, .query ⟨"OUTP? CH1", by decide⟩], List.cons_ne_nil _ _⟩

def stallingExecutor : SharedExecutor Unit ℕ := ⟨.free, ⟨.default, none, false, 0⟩⟩

theorem batch_performed_stalling :
    ∃ r s', @SharedExecutor.execute _ _ PyText.blank _ stallingWorld.recorded () switchedOn
        stallingExecutor.recording = some (r, s') ∧
      @SharedExecutor.execute _ _ PyText.blank _ stallingWorld () switchedOn stallingExecutor =
        some (r, s'.map Prod.fst) ∧ s'.lock = stallingExecutor.lock ∧
      BatchTrace switchedOn.commands stallingExecutor.executor.closed s'.executor.world.2 r :=
  @batch_performed _ _ PyText.blank stallingWorld _ stallingWorld_raises () switchedOn
    stallingExecutor RLock.available_free

end Spd3000
