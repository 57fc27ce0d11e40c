/-
  Command-level execution (`execution.py`): commands and batches, the settings,
  deferred results, and `DirectExecutor`, which runs a batch on a transport and
  keeps the command spacing.

  The transport, the clock and the sleeper are a `World`, a state machine that
  the executor calls.  `attempt` is the body of the loop of
  `DirectExecutor.execute`, `runCommand` adds its `except` clauses, and `execute`
  is the loop.
-/
import Spd3000.Exceptions

namespace Spd3000

variable {σ : Type}

/-! ## Commands -/

/-- The test `"\n" in text or "\r" in text`. -/
def hasLineTerminator (text : PyStr) : Bool := text.any fun c => c.val == 10 || c.val == 13

/-- What `_validated_command` accepts: a non-blank, single-line ASCII text. -/
def ValidCommand (text : PyStr) : Prop :=
  strip text ≠ [] ∧ hasLineTerminator text = false ∧ isAscii text

instance (text : PyStr) : Decidable (ValidCommand text) := inferInstanceAs (Decidable (_ ∧ _))

/-- The text of a `Write` or a `Query`, validated when the object is built. -/
structure CommandText where
  text : PyStr
  valid : ValidCommand text

@[ext] theorem CommandText.ext {c d : CommandText} (h : c.text = d.text) : c = d := by
  cases c; cases d; cases h; rfl

def validatedCommand (text : PyStr) : Except PyExc CommandText :=
  if h₁ : strip text = [] then
    .error (.msg .spd3000ValidationError "SCPI command must be a non-empty string")
  else if h₂ : hasLineTerminator text then
    .error (.msg .spd3000ValidationError "SCPI command must not contain a line terminator")
  else if h₃ : isAscii text = false then
    .error (.msg .spd3000ValidationError "SCPI command must contain ASCII characters only")
  else .ok ⟨text, h₁, by simpa using h₂, by simpa using h₃⟩

theorem validatedCommand_valid {text : PyStr} (h : ValidCommand text) :
    validatedCommand text = .ok ⟨text, h⟩ := by
  obtain ⟨h1, h2, h3⟩ := h
  unfold validatedCommand
  rw [dif_neg h1, dif_neg (by simp [h2]), dif_neg (by simp [h3])]

theorem validatedCommand_invalid {text : PyStr} (h : ¬ ValidCommand text) :
    ∃ e, validatedCommand text = .error e ∧ e.cls = .spd3000ValidationError := by
  unfold validatedCommand
  split_ifs with h1 h2 h3
  · exact ⟨_, rfl, rfl⟩
  · exact ⟨_, rfl, rfl⟩
  · exact ⟨_, rfl, rfl⟩
  · exact absurd ⟨h1, by simpa using h2, by simpa using h3⟩ h

/-- A `Write` (no response is read) or a `Query` (its response is read). -/
inductive Command where
  | write (text : CommandText)
  | query (text : CommandText)

namespace Command

def text : Command → PyStr
  | write t | query t => t.text

def isQuery : Command → Bool
  | write _ => false
  | query _ => true

theorem valid : ∀ c : Command, ValidCommand c.text
  | write t | query t => t.valid

end Command

/-- A non-interleaved, non-empty sequence of writes and queries. -/
structure CommandBatch where
  commands : List Command
  nonempty : commands ≠ []

def CommandBatch.make (commands : List Command) : Except PyExc CommandBatch :=
  if h : commands = [] then
    .error (.msg .spd3000ValidationError "A command batch must not be empty")
  else .ok ⟨commands, h⟩

/-- Results aligned with a command batch; writes produce `None`. -/
structure BatchResult where
  values : List (Option PyStr)

/-! ## Deferred results -/

/-- A query result populated when its collecting batch exits. -/
structure Deferred where
  command : PyStr
  value : Option PyVal
  error : Option PyExc

namespace Deferred
variable [PyText]

def pending (command : PyStr) : Deferred := ⟨command, none, none⟩

/-- Whether the batch has resolved, failed, or cancelled this result. -/
def done (d : Deferred) : Bool := d.value.isSome || d.error.isSome

/-- The property `value`: the resolved value, or its pending or stored error. -/
def getValue (d : Deferred) : Except PyExc PyVal :=
  match d.error, d.value with
  | some e, _ => .error e
  | none, none => .error (.msg .spd3000DeferredResultError
      (lit "Query " ++ PyText.repr (.str d.command) ++
        lit " is pending until its batch execution completes"))
  | none, some v => .ok v

def resolve (v : PyVal) (d : Deferred) : Deferred := { d with value := some v }

def reject (e : PyExc) (d : Deferred) : Deferred := { d with error := some e }

def cancel (d : Deferred) : Deferred :=
  { d with error := some (.msg .spd3000DeferredResultError
      (lit "Query " ++ PyText.repr (.str d.command) ++
        lit " was cancelled because its batch body did not complete")) }

end Deferred

/-! ## Settings -/

/-- Timing and timeout settings: finite, non-negative interval, positive timeout. -/
structure ExecutionSettings where
  minCommandInterval : ℚ
  timeout : ℚ
  interval_nonneg : 0 ≤ minCommandInterval
  timeout_pos : 0 < timeout

/-- The settings `ExecutionSettings()`. -/
def ExecutionSettings.default : ExecutionSettings := ⟨1 / 10, 5, by norm_num, by norm_num⟩

def finiteNumber (name : PyStr) (value : PyVal) : Except PyExc ℚ :=
  match value with
  | .int i => match floatOfInt i with
    | some q => .ok q
    | none => .error (.msg .overflowError "int too large to convert to float")
  | .float (.finite q) => .ok q
  | .float _ => .error (.msg .spd3000ValidationError (name ++ lit " must be finite"))
  | _ => .error (.msg .spd3000ValidationError (name ++ lit " must be a real number"))

def ExecutionSettings.make (minCommandInterval timeout : PyVal) :
    Except PyExc ExecutionSettings :=
  match finiteNumber "min_command_interval" minCommandInterval with
  | .error e => .error e
  | .ok interval => match finiteNumber "timeout" timeout with
    | .error e => .error e
    | .ok timeoutValue =>
      if h₁ : interval < 0 then
        .error (.msg .spd3000ValidationError "min_command_interval must be non-negative")
      else if h₂ : timeoutValue ≤ 0 then
        .error (.msg .spd3000ValidationError "timeout must be greater than zero")
      else .ok ⟨interval, timeoutValue, not_lt.1 h₁, not_le.1 h₂⟩

/-! ## Direct execution -/

/-- The transport, clock and sleeper a direct executor is built with, and the
    time its thread may spend waiting for work. -/
structure World (σ : Type) where
  clock : σ → ℚ × σ
  sleeper : ℚ → σ → σ
  idle : σ → σ
  write : Bytes → σ → Except PyExc Unit × σ
  read : σ → Except PyExc Bytes × σ

structure DirectExecutor (σ : Type) where
  settings : ExecutionSettings
  lastWriteAt : Option ℚ
  closed : Bool
  world : σ

/-- Attach the batch position to an error. -/
def annotateExecutionError (e : PyExc) (index : ℕ) (command : Command) : PyExc :=
  ((e.setattr "batch_command_index" (.int index)).setattr "batch_command_kind"
    (.str (if command.isQuery then lit "query" else lit "write"))).setattr "batch_command"
    (.str command.text)

namespace DirectExecutor

def decode (data : Bytes) : Except PyExc PyStr :=
  match decodeAscii data with
  | some s => .ok (rstripNewlines s)
  | none => .error (.msg .spd3000ProtocolError "Instrument response was not ASCII")

variable (W : World σ)

def waitBeforeWrite (x : DirectExecutor σ) : DirectExecutor σ :=
  match x.lastWriteAt with
  | none => x
  | some t =>
    let (now, s) := W.clock x.world
    let remaining := x.settings.minCommandInterval - (now - t)
    { x with world := if 0 < remaining then W.sleeper remaining s else s }

/-- The bytes a command is sent as. -/
def line (command : Command) : Bytes := encodeAscii command.text ++ [LF]

/-- The body of the `try` statement for one command. -/
def attempt (command : Command) (x : DirectExecutor σ) :
    Except PyExc (Option PyStr) × DirectExecutor σ :=
  let x := waitBeforeWrite W x
  match W.write (line command) x.world with
  | (.error e, s) => (.error e, { x with world := s })
  | (.ok (), s) =>
    let (now, s) := W.clock s
    let x := { x with lastWriteAt := some now, world := s }
    if command.isQuery then
      match W.read (W.sleeper x.settings.minCommandInterval s) with
      | (.error e, s) => (.error e, { x with world := s })
      | (.ok data, s) => ((decode data).map some, { x with world := s })
    else (.ok none, x)

/-- The outcomes of `attempt` after the wait: the write raises; a write command is
    written; the read of a query raises; the response of a query is read. -/
inductive Attempted (c : Command) (x : DirectExecutor σ) :
    Except PyExc (Option PyStr) → DirectExecutor σ → Prop
  | writeFailed {e s} : W.write (line c) x.world = (.error e, s) →
      Attempted c x (.error e) { x with world := s }
  | written {s} : W.write (line c) x.world = (.ok (), s) → c.isQuery = false →
      Attempted c x (.ok none)
        { x with lastWriteAt := some (W.clock s).1, world := (W.clock s).2 }
  | readFailed {s e s'} : W.write (line c) x.world = (.ok (), s) → c.isQuery = true →
      W.read (W.sleeper x.settings.minCommandInterval (W.clock s).2) = (.error e, s') →
      Attempted c x (.error e) { x with lastWriteAt := some (W.clock s).1, world := s' }
  | answered {s data s'} : W.write (line c) x.world = (.ok (), s) → c.isQuery = true →
      W.read (W.sleeper x.settings.minCommandInterval (W.clock s).2) = (.ok data, s') →
      Attempted c x ((decode data).map some)
        { x with lastWriteAt := some (W.clock s).1, world := s' }

theorem attempt_spec (c : Command) (x : DirectExecutor σ) :
    Attempted W c (x.waitBeforeWrite W) (x.attempt W c).1 (x.attempt W c).2 := by
  unfold attempt
  dsimp only
  split
  · rename_i hw; exact .writeFailed hw
  · rename_i s hw
    split_ifs with hq
    · split <;> rename_i hr
      · exact .readFailed hw hq hr
      · exact .answered hw hq hr
    · exact .written hw (by simpa using hq)

/-- If neither reading the clock nor sleeping changes the world, the wait does nothing. -/
theorem waitBeforeWrite_still (hclock : ∀ s, (W.clock s).2 = s) (hsleep : ∀ r s, W.sleeper r s = s)
    (x : DirectExecutor σ) : x.waitBeforeWrite W = x := by
  unfold waitBeforeWrite
  split
  · rfl
  · dsimp only
    simp only [hsleep, hclock, ite_self]

theorem waitBeforeWrite_settings (x : DirectExecutor σ) :
    (x.waitBeforeWrite W).settings = x.settings := by
  unfold waitBeforeWrite; split <;> rfl

/-- A command changes neither the settings nor whether the executor is closed. -/
theorem attempt_frame (c : Command) (x : DirectExecutor σ) :
    (x.attempt W c).2.settings = x.settings ∧ (x.attempt W c).2.closed = x.closed := by
  have hwait : (x.waitBeforeWrite W).closed = x.closed := by
    unfold waitBeforeWrite; split <;> rfl
  have h := attempt_spec W c x
  generalize x.attempt W c = a at h
  obtain ⟨r, y⟩ := a
  cases h with
  | writeFailed _ => exact ⟨waitBeforeWrite_settings W x, hwait⟩
  | written _ _ => exact ⟨waitBeforeWrite_settings W x, hwait⟩
  | readFailed _ _ _ => exact ⟨waitBeforeWrite_settings W x, hwait⟩
  | answered _ _ _ => exact ⟨waitBeforeWrite_settings W x, hwait⟩

section
variable [PyText]

/-- The `except` clauses: the error that leaves the loop for an error in its body. -/
def translate (index : ℕ) (command : Command) (e : PyExc) : PyExc :=
  if e.isinstance .spd3000Error then annotateExecutionError e index command
  else if e.isinstance .timeoutError then
    annotateExecutionError (.msg .spd3000TimeoutError (PyText.str e)) index command
  else if e.isinstance .osError then
    annotateExecutionError (.msg .spd3000ConnectionError (PyText.str e)) index command
  else e

def runCommand (index : ℕ) (command : Command) (x : DirectExecutor σ) :
    Except PyExc (Option PyStr) × DirectExecutor σ :=
  let (r, x) := attempt W command x
  (r.mapError (translate index command), x)

/-- The loop over the commands from position `index` on. -/
def runFrom (index : ℕ) : List Command → DirectExecutor σ →
    Except PyExc (List (Option PyStr)) × DirectExecutor σ
  | [], x => (.ok [], x)
  | c :: cs, x => match runCommand W index c x with
    | (.error e, x) => (.error e, x)
    | (.ok v, x) =>
      let (r, x) := runFrom (index + 1) cs x
      (r.map (v :: ·), x)

def execute (batch : CommandBatch) (x : DirectExecutor σ) :
    Except PyExc BatchResult × DirectExecutor σ :=
  if x.closed then (.error (.msg .spd3000ConnectionError "Executor is closed"), x)
  else
    let (r, x) := runFrom W 0 batch.commands x
    (r.map BatchResult.mk, x)

theorem runCommand_snd (index : ℕ) (c : Command) (x : DirectExecutor σ) :
    (x.runCommand W index c).2 = (x.attempt W c).2 := rfl

theorem runCommand_ok {index : ℕ} {c : Command} {x x' : DirectExecutor σ} {v : Option PyStr} :
    x.runCommand W index c = (.ok v, x') ↔ x.attempt W c = (.ok v, x') := by
  unfold runCommand
  obtain ⟨r, y⟩ := x.attempt W c
  cases r <;> simp [Except.mapError]

/-- The results of a batch are aligned with its commands. -/
theorem runFrom_length (cs : List Command) :
    ∀ {index : ℕ} {x x' : DirectExecutor σ} {vs : List (Option PyStr)},
      x.runFrom W index cs = (.ok vs, x') → vs.length = cs.length := by
  induction cs with
  | nil => intro _ _ _ _ h; cases h; rfl
  | cons c cs ih =>
    intro index x x' vs h
    unfold runFrom at h
    split at h
    · cases h
    · rename_i v y _
      obtain ⟨r, z, hr⟩ : ∃ r z, y.runFrom W (index + 1) cs = (r, z) := ⟨_, _, rfl⟩
      simp only [hr] at h
      cases r with
      | error => cases h
      | ok ws => cases h; simp [ih hr]

theorem execute_length {b : CommandBatch} {x x' : DirectExecutor σ} {result : BatchResult}
    (h : x.execute W b = (.ok result, x')) : result.values.length = b.commands.length := by
  unfold execute at h
  split at h
  · cases h
  · obtain ⟨r, y, hr⟩ : ∃ r y, x.runFrom W 0 b.commands = (r, y) := ⟨_, _, rfl⟩
    rw [hr] at h
    cases r with
    | error => cases h
    | ok vs => cases h; exact runFrom_length W _ hr

end

end DirectExecutor

end Spd3000
