/-
  Handler threads and the worker of `_PhysicalOwner` (`gateway/server.py`).

  Any number of connections hand in works; one worker takes them from the queue.
  A `Label` says which thread makes the next step, so a list of labels is an
  interleaving.  The steps of the worker are those of `_run` and of the loop of
  `DirectExecutor.execute`, cut where another thread can come in between; events
  record what can be seen from outside.  `elapse` stands for whatever happens to
  the instrument and the clock in the meantime.
-/
import Spd3000.Lib.Runs
import Spd3000.Owner
import Spd3000.Server

namespace Spd3000

variable {σ ι : Type}

/-! ## Threads -/

/-- The object `_Work`. -/
structure SubmittedWork where
  work : Work
  done : Bool
  result : Option BatchResult
  error : Option PyExc
  remoteTraceback : PyStr
  state : PyStr

/-- The assignment `work.state = "executing"`. -/
def SubmittedWork.begin (w : SubmittedWork) : SubmittedWork := { w with state := "executing" }

def SubmittedWork.new (work : Work) : SubmittedWork := ⟨work, false, none, none, [], "queued"⟩

/-- A handler thread: before the handshake, between two requests, in `_PhysicalOwner.execute`
    (with the client connected or gone) in the wait, after a wait that has timed out, or in the
    call of `heartbeat` with the state that it has read, or ended. -/
inductive Handler where
  | new
  | idle (session : Session)
  | waiting (session : Session) (work : ℕ) (connected : Bool)
  | beating (session : Session) (work : ℕ) (connected : Bool)
  | sending (session : Session) (work : ℕ) (connected : Bool) (state : PyStr)
  | ended

/-- The worker thread: in `queue.get()`, with a work before and after the wait for the interval,
    in the loop of `execute`, and in the `finally` clause with the outcome of the work. -/
inductive Worker where
  | getting
  | taken (work : ℕ)
  | waited (work : ℕ)
  | executing (work index : ℕ) (rest : List Command) (values : List (Option PyStr))
  | completing (work : ℕ) (outcome : Except PyExc BatchResult)
  /-- The thread has ended with an exception that is no `Exception`. -/
  | dead

/-- The gateway: its handlers, the works handed in so far, the queue, and the worker. -/
structure Gateway (σ ι : Type) where
  handlers : ι → Handler
  works : ℕ → SubmittedWork
  nextWork : ℕ
  queue : List ℕ
  worker : Worker
  owner : PhysicalOwner σ

inductive Label (σ ι : Type) where
  | accept (c : ι) (settings : ExecutionSettings)
  | submit (c : ι) (batch : CommandBatch)
  | timeout (c : ι)
  | look (c : ι)
  | heartbeat (c : ι)
  | disconnect (c : ι)
  | handBack (c : ι)
  | work
  | elapse (f : σ → σ)

/-- A command that has reached the executor: for which work, under which settings, and what
    the executor made of it. -/
structure Execution where
  work : ℕ
  command : Command
  settings : ExecutionSettings
  result : Except PyExc (Option PyStr)

/-- A work that a connection has put into the queue. -/
structure Submission (ι : Type) where
  connection : ι
  id : ℕ
  work : Work

inductive GatewayEvent (ι : Type) where
  | accepted (c : ι) (settings : ExecutionSettings)
  | submitted (s : Submission ι)
  | executed (x : Execution)
  | looked (c : ι) (state : PyStr)
  | heartbeat (c : ι) (state : PyStr)
  | handedBack (c : ι) (work : ℕ) (outcome : Except PyExc BatchResult)

section
variable [PyText]

/-! ## Steps -/

/-- The end of `_PhysicalOwner.execute`. -/
def SubmittedWork.outcome (w : SubmittedWork) : Except PyExc BatchResult :=
  match w.error with
  | some e => .error (e.setattr "gateway_remote_traceback" (.str w.remoteTraceback))
  | none => match w.result with
    | none => .error (.msg .gatewayInternalError "Physical owner returned no result")
    | some result => .ok result

/-- What the `except` clause and the `finally` clause of `_run` store in a work. -/
def SubmittedWork.complete (outcome : Except PyExc BatchResult) (w : SubmittedWork) :
    SubmittedWork :=
  match outcome with
  | .ok result => { w with result := some result, done := true }
  | .error e =>
    if e.isinstance .exception then
      { w with error := some e, remoteTraceback := PyText.traceback e, done := true }
    else { w with done := true }

/-- After the `finally` clause the worker goes on, unless what was raised is no `Exception`. -/
def Worker.after : Except PyExc BatchResult → Worker
  | .ok _ => .getting
  | .error e => if e.isinstance .exception then .getting else .dead

namespace Gateway

def setHandler [DecidableEq ι] (c : ι) (h : Handler) (g : Gateway σ ι) : Gateway σ ι :=
  { g with handlers := Function.update g.handlers c h }

def modifyWork (n : ℕ) (f : SubmittedWork → SubmittedWork) (g : Gateway σ ι) : Gateway σ ι :=
  { g with works := Function.update g.works n (f (g.works n)) }

def submit [DecidableEq ι] (c : ι) (session : Session) (batch : CommandBatch) (g : Gateway σ ι) :
    Gateway σ ι × List (GatewayEvent ι) :=
  let work : Work := ⟨batch, session.settings⟩
  ({ g with
      handlers := Function.update g.handlers c (.waiting session g.nextWork true)
      works := Function.update g.works g.nextWork (.new work)
      nextWork := g.nextWork + 1
      queue := g.queue ++ [g.nextWork] },
    [.submitted ⟨c, g.nextWork, work⟩])

variable (W : World σ)

/-- The next step of the worker. -/
def workerStep (g : Gateway σ ι) : Option (Gateway σ ι × List (GatewayEvent ι)) :=
  match g.worker with
  | .getting => match g.queue with
    | [] => none
    | n :: queue =>
      let x := { g.owner.executor with world := W.idle g.owner.executor.world }
      some (({ g with
        queue := queue
        worker := .taken n
        owner := { g.owner with executor := x } } : Gateway σ ι).modifyWork n
          SubmittedWork.begin, [])
  | .taken n => some ({ g with
      worker := .waited n
      owner := g.owner.waitForInterval W (g.works n).work.settings }, [])
  | .waited n =>
    let x := { g.owner.executor with settings := (g.works n).work.settings }
    let worker := if x.closed then
        .completing n (.error (.msg .spd3000ConnectionError "Executor is closed"))
      else .executing n 0 (g.works n).work.batch.commands []
    some ({ g with worker := worker, owner := { g.owner with executor := x } }, [])
  | .executing n _ [] values => some ({ g with worker := .completing n (.ok ⟨values⟩) }, [])
  | .executing n index (c :: rest) values =>
    let (r, x) := g.owner.executor.runCommand W index c
    let worker := match r with
      | .error e => .completing n (.error e)
      | .ok v => .executing n (index + 1) rest (values ++ [v])
    some ({ g with worker := worker, owner := { g.owner with executor := x } },
      [.executed ⟨n, c, g.owner.executor.settings, r⟩])
  | .completing n outcome =>
    some (({ g with
      worker := .after outcome
      owner := g.owner.finish W (g.works n).work.settings } : Gateway σ ι).modifyWork n
        (·.complete outcome), [])
  | .dead => none

def step [DecidableEq ι] (l : Label σ ι) (g : Gateway σ ι) :
    Option (Gateway σ ι × List (GatewayEvent ι)) :=
  match l with
  | .accept c settings => match g.handlers c with
    | .new => some (g.setHandler c (.idle ⟨settings⟩), [.accepted c settings])
    | _ => none
  | .submit c batch => match g.handlers c with
    | .idle session => some (g.submit c session batch)
    | _ => none
  | .timeout c => match g.handlers c with
    | .waiting session n connected =>
      if (g.works n).done then none
      else some (g.setHandler c (.beating session n connected), [])
    | _ => none
  | .look c => match g.handlers c with
    | .beating session n connected =>
      let state := (g.works n).state
      some (g.setHandler c (.sending session n connected state), [.looked c state])
    | _ => none
  -- `heartbeat` encodes and writes after the argument has been read, and `_run` may go on meanwhile
  | .heartbeat c => match g.handlers c with
    | .sending session n connected state =>
      some (g.setHandler c (.waiting session n connected), [.heartbeat c state])
    | _ => none
  | .disconnect c => match g.handlers c with
    | .waiting session n _ => some (g.setHandler c (.waiting session n false), [])
    | .beating session n _ => some (g.setHandler c (.beating session n false), [])
    | .sending session n _ state => some (g.setHandler c (.sending session n false state), [])
    | _ => some (g.setHandler c .ended, [])
  | .handBack c => match g.handlers c with
    | .waiting session n connected =>
      if (g.works n).done then
        some (g.setHandler c (if connected then .idle session else .ended),
          [.handedBack c n (g.works n).outcome])
      else none
    | _ => none
  | .work => g.workerStep W
  | .elapse f =>
    let x := { g.owner.executor with world := f g.owner.executor.world }
    some ({ g with owner := { g.owner with executor := x } }, [])

/-- A gateway that has started, with the given executor; what `works` holds from `nextWork` on
    is never looked at. -/
def start (x : DirectExecutor σ) : Gateway σ ι where
  handlers _ := .new
  works _ := .new ⟨⟨[.query ⟨"SYST:STAT?", by decide⟩], List.cons_ne_nil _ _⟩, .default⟩
  nextWork := 0
  queue := []
  worker := .getting
  owner := ⟨x, none, none⟩

/-- The gateway as a labelled system. -/
def system [DecidableEq ι] : Runs.System (Gateway σ ι) (Label σ ι) (GatewayEvent ι) := ⟨step W⟩

end Gateway

/-! ## What can be seen in a history -/

/-- The outcome of a work, as `execute` hands it back. -/
def handedOutcome (outcome : Except PyExc BatchResult) : Except PyExc BatchResult :=
  outcome.mapError fun e => e.setattr "gateway_remote_traceback" (.str (PyText.traceback e))

end

/-- The works in the order in which they have entered the queue. -/
def submissions (es : List (GatewayEvent ι)) : List (Submission ι) :=
  es.filterMap fun | .submitted s => some s | _ => none

/-- The commands that have reached the executor. -/
def executions (es : List (GatewayEvent ι)) : List Execution :=
  es.filterMap fun | .executed x => some x | _ => none

/-- The commands that have reached the executor for a work. -/
def executionsOf (n : ℕ) (xs : List Execution) : List Execution := xs.filter (·.work = n)

section
variable [DecidableEq ι]

/-- The settings with which a connection has opened a session. -/
def acceptedBy (c : ι) (es : List (GatewayEvent ι)) : List ExecutionSettings :=
  es.filterMap fun | .accepted c' settings => if c' = c then some settings else none | _ => none

/-- The works of a connection, in the order of its calls. -/
def submittedBy (c : ι) (es : List (GatewayEvent ι)) : List ℕ :=
  es.filterMap fun | .submitted s => if s.connection = c then some s.id else none | _ => none

/-- The works whose outcome has been handed back to a connection. -/
def handedBackTo (c : ι) (es : List (GatewayEvent ι)) : List ℕ :=
  es.filterMap fun | .handedBack c' n _ => if c' = c then some n else none | _ => none

end

@[simp] theorem submissions_append (es es' : List (GatewayEvent ι)) :
    submissions (es ++ es') = submissions es ++ submissions es' := List.filterMap_append ..

@[simp] theorem executions_append (es es' : List (GatewayEvent ι)) :
    executions (es ++ es') = executions es ++ executions es' := List.filterMap_append ..

@[simp] theorem executionsOf_append (n : ℕ) (xs ys : List Execution) :
    executionsOf n (xs ++ ys) = executionsOf n xs ++ executionsOf n ys := List.filter_append ..

@[simp] theorem acceptedBy_append [DecidableEq ι] (c : ι) (es es' : List (GatewayEvent ι)) :
    acceptedBy c (es ++ es') = acceptedBy c es ++ acceptedBy c es' := List.filterMap_append ..

@[simp] theorem submittedBy_append [DecidableEq ι] (c : ι) (es es' : List (GatewayEvent ι)) :
    submittedBy c (es ++ es') = submittedBy c es ++ submittedBy c es' := List.filterMap_append ..

@[simp] theorem handedBackTo_append [DecidableEq ι] (c : ι) (es es' : List (GatewayEvent ι)) :
    handedBackTo c (es ++ es') = handedBackTo c es ++ handedBackTo c es' := List.filterMap_append ..

/-- The commands of a batch have all been executed, or up to the first one that raised; this
    is the outcome of the batch. -/
inductive Completed (commands : List Command) : List Execution → Except PyExc BatchResult → Prop
  | returned {xs} {values : List (Option PyStr)} : xs.map (·.command) = commands →
      xs.map (·.result) = values.map .ok → Completed commands xs (.ok ⟨values⟩)
  | raised {xs x e rest} {values : List (Option PyStr)} :
      (xs ++ [x]).map (·.command) ++ rest = commands → xs.map (·.result) = values.map .ok → x.result = .error e →
      Completed commands (xs ++ [x]) (.error e)

/-! ## The worker -/

section
variable [PyText]

/-- A work that the worker has finished. -/
def Gateway.Finished (g : Gateway σ ι) (xs : List Execution) (n : ℕ) : Prop :=
  (g.works n).done = true ∧ ∃ outcome,
    Completed (g.works n).work.batch.commands (executionsOf n xs) outcome ∧
      (g.works n).outcome = handedOutcome outcome

/-- The worker is busy with work `n`, and the works after it are in the queue. -/
def Gateway.Busy (g : Gateway σ ι) (n finished : ℕ) : Prop :=
  n = finished ∧ n < g.nextWork ∧ g.queue = List.range' (n + 1) (g.nextWork - (n + 1))

/-- What the state of the worker says about its work. -/
def Gateway.Phase (g : Gateway σ ι) (xs : List Execution) (finished : ℕ) : Worker → Prop
  | .getting => finished ≤ g.nextWork ∧ executionsOf finished xs = [] ∧
      g.queue = List.range' finished (g.nextWork - finished)
  | .taken n | .waited n => g.Busy n finished ∧ executionsOf n xs = []
  | .executing n _ rest values => g.Busy n finished ∧
      g.owner.executor.settings = (g.works n).work.settings ∧
      (executionsOf n xs).map (·.command) ++ rest = (g.works n).work.batch.commands ∧
      (executionsOf n xs).map (·.result) = values.map .ok
  | .completing n outcome => g.Busy n finished ∧
      Completed (g.works n).work.batch.commands (executionsOf n xs) outcome ∧
      ∀ e, outcome = .error e → e.isinstance .exception
  | .dead => False

/-- The worker has finished the works below `finished`, one after the other, and no other. -/
structure Gateway.Served (g : Gateway σ ι) (xs : List Execution) (finished : ℕ) : Prop where
  phase : g.Phase xs finished g.worker
  done : ∀ n < finished, g.Finished xs n
  waiting : ∀ n, finished ≤ n → (g.works n).done = false ∧ (g.works n).error = none
  ordered : xs.Pairwise fun x y => x.work ≤ y.work
  bounded : ∀ x ∈ xs, x.work ≤ finished
  settings : ∀ x ∈ xs, x.settings = (g.works x.work).work.settings
  opened : g.owner.executor.closed = false

/-- The transport raises only exceptions that `except Exception` catches. -/
structure World.Raises (W : World σ) : Prop where
  write : ∀ b s e s', W.write b s = (.error e, s') → e.isinstance .exception
  read : ∀ s e s', W.read s = (.error e, s') → e.isinstance .exception

omit [PyText] in
theorem isinstance_exception {cls : ExcClass} {e : PyExc} (h : cls.isSubclass .exception)
    (he : e.cls = cls) : e.isinstance .exception := by
  rw [PyExc.isinstance, he]
  exact h

/-- Then a command that raises does so as well. -/
theorem runCommand_raises {W : World σ} (hW : W.Raises) {index : ℕ} {c : Command}
    {x x' : DirectExecutor σ} {e : PyExc} (h : x.runCommand W index c = (.error e, x')) :
    e.isinstance .exception := by
  have hattempt : ∀ e', (x.attempt W c).1 = .error e' → e'.isinstance .exception := by
    intro e' he
    have hspec := DirectExecutor.attempt_spec W c x
    generalize x.attempt W c = a at hspec he
    obtain ⟨r, y⟩ := a
    cases hspec with
    | writeFailed hw => cases he; exact hW.write _ _ _ _ hw
    | written _ _ => cases he
    | readFailed _ _ hr => cases he; exact hW.read _ _ _ hr
    | @answered s data s' _ _ _ =>
      cases hd : DirectExecutor.decode data with
      | ok text => rw [hd] at he; cases he
      | error e'' =>
        rw [hd] at he
        cases he
        unfold DirectExecutor.decode at hd
        split at hd
        · cases hd
        · cases hd
          exact isinstance_exception rfl rfl
  unfold DirectExecutor.runCommand at h
  generalize x.attempt W c = a at h hattempt
  obtain ⟨r, y⟩ := a
  cases r with
  | ok v => cases h
  | error e' =>
    cases h
    have he := hattempt e' rfl
    unfold DirectExecutor.translate
    split_ifs
    · simpa [annotateExecutionError] using he
    · exact isinstance_exception rfl rfl
    · exact isinstance_exception rfl rfl
    · exact he

omit [PyText] in
theorem after_eq_getting {outcome : Except PyExc BatchResult}
    (h : ∀ e, outcome = .error e → e.isinstance .exception) : Worker.after outcome = .getting := by
  cases outcome with
  | ok _ => rfl
  | error e => exact if_pos (h e rfl)

theorem complete_outcome {w : SubmittedWork} {outcome : Except PyExc BatchResult}
    (hw : w.error = none) (h : ∀ e, outcome = .error e → e.isinstance .exception) :
    (w.complete outcome).outcome = handedOutcome outcome := by
  cases outcome with
  | ok result => simp [SubmittedWork.complete, SubmittedWork.outcome, hw, handedOutcome,
      Except.mapError]
  | error e => simp [SubmittedWork.complete, SubmittedWork.outcome, h e rfl, handedOutcome,
      Except.mapError]

/-- What a step of the worker leaves alone. -/
structure Gateway.WorkerFrame (g g' : Gateway σ ι) (es : List (GatewayEvent ι)) (finished : ℕ) :
    Prop where
  handlers : g'.handlers = g.handlers
  nextWork : g'.nextWork = g.nextWork
  works : ∀ n < finished, g'.works n = g.works n
  work : ∀ n, (g'.works n).work = (g.works n).work
  events : ∀ e ∈ es, ∃ x, e = .executed x

namespace Gateway
variable {g g' : Gateway σ ι} {xs : List Execution} {finished : ℕ}

theorem Finished.congr {n : ℕ} (h : g.Finished xs n) (hw : g'.works n = g.works n) :
    g'.Finished xs n := by
  rw [Finished, hw]
  exact h

/-- Executions for the current work do not touch the works finished before. -/
theorem Finished.append {n : ℕ} (h : g.Finished xs n) (hw : g'.works n = g.works n)
    {x : Execution} (hx : x.work ≠ n) : g'.Finished (xs ++ [x]) n := by
  have hnil : executionsOf n [x] = [] := List.filter_cons_of_neg (by simpa using hx)
  obtain ⟨hdone, outcome, hc, ho⟩ := h
  rw [Finished, hw, executionsOf_append, hnil, List.append_nil]
  exact ⟨hdone, outcome, hc, ho⟩

/-- What the worker has served does not depend on the handlers and on the instrument. -/
theorem Served.congr (h : g.Served xs finished) (hworks : g'.works = g.works)
    (hnext : g'.nextWork = g.nextWork) (hqueue : g'.queue = g.queue)
    (hworker : g'.worker = g.worker)
    (hsettings : g'.owner.executor.settings = g.owner.executor.settings)
    (hclosed : g'.owner.executor.closed = g.owner.executor.closed) : g'.Served xs finished := by
  have hphase : g'.Phase xs finished g.worker := by
    have hp := h.phase
    cases hw : g.worker with
    | dead => rw [hw] at hp; exact hp.elim
    | _ => rw [hw] at hp; simpa only [Phase, Busy, hworks, hnext, hqueue, hsettings] using hp
  refine ⟨hworker ▸ hphase, fun n hn => ?_, fun n hn => ?_, h.ordered, h.bounded, fun x hx => ?_,
    hclosed.trans h.opened⟩
  · rw [Finished, hworks]
    exact h.done n hn
  · rw [hworks]
    exact h.waiting n hn
  · rw [hworks]
    exact h.settings x hx

/-- A step that executes no command and finishes no work. -/
theorem Served.silent (h : g.Served xs finished) {n : ℕ} {f : SubmittedWork → SubmittedWork}
    (hworks : g'.works = Function.update g.works n (f (g.works n)))
    (hf : ∀ w, (f w).work = w.work ∧ (f w).done = w.done ∧ (f w).error = w.error)
    (hn : finished ≤ n) (hopened : g'.owner.executor.closed = g.owner.executor.closed)
    (hphase : g'.Phase xs finished g'.worker) : g'.Served xs finished := by
  have hsame : ∀ m, (g'.works m).work = (g.works m).work ∧ (g'.works m).done = (g.works m).done ∧
      (g'.works m).error = (g.works m).error := by
    intro m
    rw [hworks]
    by_cases hm : m = n
    · subst hm
      rw [Function.update_self]
      exact hf _
    · rw [Function.update_of_ne hm]
      exact ⟨rfl, rfl, rfl⟩
  refine ⟨hphase, fun m hm => ?_, fun m hm => ?_, h.ordered, h.bounded, fun x hx => ?_,
    hopened.trans h.opened⟩
  · refine (h.done m hm).congr ?_
    rw [hworks, Function.update_of_ne (by omega)]
  · rw [(hsame m).2.1, (hsame m).2.2]
    exact h.waiting m hm
  · rw [(hsame _).1]
    exact h.settings x hx

omit [PyText] in
/-- Nothing changes about a work. -/
theorem update_id (g : Gateway σ ι) (n : ℕ) : g.works = Function.update g.works n (id (g.works n)) :=
  (Function.update_eq_self ..).symm

/-- The works that have been served are in the history of the queue. -/
theorem Served.le (h : g.Served xs finished) : finished ≤ g.nextWork ∧
    ∀ x ∈ xs, x.work < g.nextWork := by
  have hphase := h.phase
  have hlt : finished < g.nextWork → ∀ x ∈ xs, x.work < g.nextWork := fun hlt x hx =>
    (h.bounded x hx).trans_lt hlt
  have hbusy : ∀ n, g.Busy n finished → finished < g.nextWork := by
    rintro n ⟨rfl, hn, -⟩
    exact hn
  cases hw : g.worker with
  | getting =>
    rw [hw] at hphase
    obtain ⟨hle, hnil, -⟩ := hphase
    refine ⟨hle, fun x hx => ?_⟩
    have hne : x.work ≠ finished := by
      intro he
      have hmem : x ∈ executionsOf finished xs := List.mem_filter.2 ⟨hx, by simp [he]⟩
      rw [hnil] at hmem
      cases hmem
    have := h.bounded x hx
    omega
  | taken n => rw [hw] at hphase; exact ⟨(hbusy n hphase.1).le, hlt (hbusy n hphase.1)⟩
  | waited n => rw [hw] at hphase; exact ⟨(hbusy n hphase.1).le, hlt (hbusy n hphase.1)⟩
  | executing n _ _ _ => rw [hw] at hphase; exact ⟨(hbusy n hphase.1).le, hlt (hbusy n hphase.1)⟩
  | completing n _ => rw [hw] at hphase; exact ⟨(hbusy n hphase.1).le, hlt (hbusy n hphase.1)⟩
  | dead => rw [hw] at hphase; exact hphase.elim

omit [PyText] in
theorem queue_concat {n m : ℕ} (h : n ≤ m) :
    List.range' n (m - n) ++ [m] = List.range' n (m + 1 - n) := by
  rw [Nat.sub_add_comm h, List.range'_1_concat, Nat.add_sub_cancel' h]

/-- A new work enters the queue. -/
theorem Served.submit [DecidableEq ι] (h : g.Served xs finished) (c : ι) (session : Session)
    (batch : CommandBatch) : (g.submit c session batch).1.Served xs finished := by
  obtain ⟨hle, hlt⟩ := h.le
  have hold : ∀ n, n < g.nextWork → (g.submit c session batch).1.works n = g.works n :=
    fun n hn => Function.update_of_ne hn.ne ..
  have hbusy : ∀ n, g.Busy n finished → (g.submit c session batch).1.Busy n finished := by
    rintro n ⟨rfl, hn, hqueue⟩
    refine ⟨rfl, Nat.lt_succ_of_lt hn, ?_⟩
    show g.queue ++ [g.nextWork] = _
    rw [hqueue]
    exact queue_concat hn
  refine ⟨?_, fun n hn => ?_, fun n hn => ?_, h.ordered, h.bounded, fun x hx => ?_, h.opened⟩
  · have hphase := h.phase
    show (g.submit c session batch).1.Phase xs finished g.worker
    cases hw : g.worker with
    | getting =>
      rw [hw] at hphase
      obtain ⟨-, hnil, hqueue⟩ := hphase
      refine ⟨hle.trans (Nat.le_succ _), hnil, ?_⟩
      show g.queue ++ [g.nextWork] = _
      rw [hqueue]
      exact queue_concat hle
    | taken n => rw [hw] at hphase; exact ⟨hbusy n hphase.1, hphase.2⟩
    | waited n => rw [hw] at hphase; exact ⟨hbusy n hphase.1, hphase.2⟩
    | executing n _ _ _ =>
      rw [hw] at hphase
      obtain ⟨hb, hsettings, hcommands, hresults⟩ := hphase
      refine ⟨hbusy n hb, ?_, ?_, hresults⟩
      · rw [hold n hb.2.1]
        exact hsettings
      · rw [hold n hb.2.1]
        exact hcommands
    | completing n _ =>
      rw [hw] at hphase
      obtain ⟨hb, hcompleted, hexception⟩ := hphase
      refine ⟨hbusy n hb, ?_, hexception⟩
      rw [hold n hb.2.1]
      exact hcompleted
    | dead => rw [hw] at hphase; exact hphase
  · rw [Finished, hold n (hn.trans_le hle)]
    exact h.done n hn
  · by_cases hnew : n = g.nextWork
    · subst hnew
      have hself : (g.submit c session batch).1.works g.nextWork =
          .new ⟨batch, session.settings⟩ := Function.update_self ..
      rw [hself]
      exact ⟨rfl, rfl⟩
    · have hsame : (g.submit c session batch).1.works n = g.works n :=
        Function.update_of_ne hnew ..
      rw [hsame]
      exact h.waiting n hn
  · rw [hold _ (hlt x hx)]
    exact h.settings x hx

theorem Served.current (h : g.Served xs finished) {n : ℕ} (hn : finished < n) :
    executionsOf n xs = [] := by
  rw [executionsOf, List.filter_eq_nil_iff]
  intro x hx
  have := h.bounded x hx
  simp only [decide_eq_true_eq]
  omega

variable {W : World σ} {es : List (GatewayEvent ι)}

omit [PyText] in
/-- The frame of a step that changes at most the current work, and executes nothing. -/
theorem workerFrame {n : ℕ} {f : SubmittedWork → SubmittedWork}
    (hworks : g'.works = Function.update g.works n (f (g.works n)))
    (hf : ∀ w, (f w).work = w.work) (hn : finished ≤ n) (hhandlers : g'.handlers = g.handlers)
    (hnext : g'.nextWork = g.nextWork) : g.WorkerFrame g' [] finished := by
  refine ⟨hhandlers, hnext, fun m hm => ?_, fun m => ?_, fun e he => absurd he List.not_mem_nil⟩
  · rw [hworks, Function.update_of_ne (by omega)]
  · rw [hworks]
    by_cases hm : m = n
    · subst hm
      rw [Function.update_self]
      exact hf _
    · rw [Function.update_of_ne hm]

/-- What a step of the worker does: it serves on, and leaves the rest alone. -/
def ServesOn (g g' : Gateway σ ι) (xs : List Execution) (es : List (GatewayEvent ι))
    (finished : ℕ) : Prop :=
  ∃ finished', finished ≤ finished' ∧ g'.Served (xs ++ executions es) finished' ∧
    g.WorkerFrame g' es finished

theorem step_getting (h : g.Served xs finished) (hw : g.worker = .getting)
    (hstep : g.workerStep W = some (g', es)) : g.ServesOn g' xs es finished := by
  have hphase := h.phase
  rw [hw] at hphase
  obtain ⟨hle, hnil, hqueue⟩ := hphase
  rw [workerStep, hw] at hstep
  dsimp only at hstep
  cases hq : g.queue with
  | nil => rw [hq] at hstep; cases hstep
  | cons n queue =>
    rw [hq] at hstep hqueue
    obtain ⟨k, hk⟩ : ∃ k, g.nextWork - finished = k + 1 := by
      cases hk : g.nextWork - finished with
      | zero => rw [hk] at hqueue; cases hqueue
      | succ k => exact ⟨k, rfl⟩
    rw [hk, List.range'_succ, List.cons.injEq] at hqueue
    obtain ⟨rfl, rfl⟩ := hqueue
    cases hstep
    refine ⟨n, le_rfl, ?_, workerFrame (f := SubmittedWork.begin) rfl (fun _ => rfl) le_rfl rfl rfl⟩
    rw [executions, List.filterMap_nil, List.append_nil]
    refine h.silent (f := SubmittedWork.begin) rfl (fun _ => ⟨rfl, rfl, rfl⟩) le_rfl rfl
      ⟨⟨rfl, ?_, ?_⟩, hnil⟩
    · show n < g.nextWork
      omega
    · show List.range' (n + 1) k = List.range' (n + 1) (g.nextWork - (n + 1))
      congr 1
      omega

theorem step_taken {n : ℕ} (h : g.Served xs finished) (hw : g.worker = .taken n)
    (hstep : g.workerStep W = some (g', es)) : g.ServesOn g' xs es finished := by
  have hphase := h.phase
  rw [hw] at hphase
  rw [workerStep, hw] at hstep
  cases hstep
  have hexec : (g.owner.waitForInterval W (g.works n).work.settings).executor.closed =
      g.owner.executor.closed := by
    unfold PhysicalOwner.waitForInterval
    split <;> rfl
  refine ⟨finished, le_rfl, ?_, workerFrame (g.update_id finished) (fun _ => rfl) le_rfl rfl rfl⟩
  rw [executions, List.filterMap_nil, List.append_nil]
  exact h.silent (g.update_id finished) (fun _ => ⟨rfl, rfl, rfl⟩) le_rfl hexec hphase

theorem step_waited {n : ℕ} (h : g.Served xs finished) (hw : g.worker = .waited n)
    (hstep : g.workerStep W = some (g', es)) : g.ServesOn g' xs es finished := by
  have hphase := h.phase
  rw [hw] at hphase
  obtain ⟨hbusy, hnil⟩ := hphase
  rw [workerStep, hw] at hstep
  simp only [h.opened, Bool.false_eq_true, if_false] at hstep
  cases hstep
  refine ⟨finished, le_rfl, ?_, workerFrame (g.update_id finished) (fun _ => rfl) le_rfl rfl rfl⟩
  rw [executions, List.filterMap_nil, List.append_nil]
  refine h.silent (g.update_id finished) (fun _ => ⟨rfl, rfl, rfl⟩) le_rfl h.opened.symm
    ⟨hbusy, rfl, ?_, ?_⟩
  · rw [hnil]
    rfl
  · rw [hnil]
    rfl

theorem step_returned {n index : ℕ} {values : List (Option PyStr)} (h : g.Served xs finished)
    (hw : g.worker = .executing n index [] values) (hstep : g.workerStep W = some (g', es)) :
    g.ServesOn g' xs es finished := by
  have hphase := h.phase
  rw [hw] at hphase
  obtain ⟨hbusy, -, hcommands, hresults⟩ := hphase
  rw [List.append_nil] at hcommands
  rw [workerStep, hw] at hstep
  cases hstep
  refine ⟨finished, le_rfl, ?_, workerFrame (g.update_id finished) (fun _ => rfl) le_rfl rfl rfl⟩
  rw [executions, List.filterMap_nil, List.append_nil]
  exact h.silent (g.update_id finished) (fun _ => ⟨rfl, rfl, rfl⟩) le_rfl rfl
    ⟨hbusy, .returned hcommands hresults, fun _ he => by cases he⟩

/-- A further execution of the current work. -/
theorem Served.executed (h : g.Served xs finished) {x : Execution} (hx : x.work = finished)
    (hsettings : x.settings = (g.works finished).work.settings) (hworks : g'.works = g.works)
    (hopened : g'.owner.executor.closed = false)
    (hphase : g'.Phase (xs ++ [x]) finished g'.worker) : g'.Served (xs ++ [x]) finished := by
  refine ⟨hphase, fun m hm => ?_, fun m hm => ?_, ?_, fun y hy => ?_, fun y hy => ?_, hopened⟩
  · exact (h.done m hm).append (by rw [hworks]) (hx.trans_ne hm.ne')
  · rw [hworks]
    exact h.waiting m hm
  · rw [List.pairwise_append]
    refine ⟨h.ordered, List.pairwise_singleton .., fun y hy z hz => ?_⟩
    obtain rfl := List.mem_singleton.1 hz
    rw [hx]
    exact h.bounded y hy
  · rcases List.mem_append.1 hy with hy | hy
    · exact h.bounded y hy
    · obtain rfl := List.mem_singleton.1 hy
      exact hx.le
  · rw [hworks]
    rcases List.mem_append.1 hy with hy | hy
    · exact h.settings y hy
    · obtain rfl := List.mem_singleton.1 hy
      rw [hsettings, hx]

theorem step_command (hW : W.Raises) {n index : ℕ} {c : Command} {rest : List Command}
    {values : List (Option PyStr)} (h : g.Served xs finished)
    (hw : g.worker = .executing n index (c :: rest) values)
    (hstep : g.workerStep W = some (g', es)) : g.ServesOn g' xs es finished := by
  have hphase := h.phase
  rw [hw] at hphase
  obtain ⟨hbusy, hsettings, hcommands, hresults⟩ := hphase
  obtain ⟨rfl, hlt, hqueue⟩ := hbusy
  rw [workerStep, hw] at hstep
  obtain ⟨hsettings', hclosed'⟩ := DirectExecutor.attempt_frame W c g.owner.executor
  rw [← DirectExecutor.runCommand_snd W index] at hsettings' hclosed'
  obtain ⟨r, x, hrun⟩ : ∃ r x, g.owner.executor.runCommand W index c = (r, x) := ⟨_, _, rfl⟩
  rw [hrun] at hsettings' hclosed'
  simp only [hrun, Option.some.injEq, Prod.mk.injEq] at hstep
  obtain ⟨rfl, rfl⟩ := hstep
  have hown : ∀ x : Execution, x.work = n →
      executionsOf n (xs ++ [x]) = executionsOf n xs ++ [x] := by
    intro x hx
    simp [executionsOf, hx]
  refine ⟨n, le_rfl, h.executed rfl hsettings rfl (hclosed'.trans h.opened) ?_, rfl, rfl,
    fun _ _ => rfl, fun _ => rfl, fun e he => ⟨_, List.mem_singleton.1 he⟩⟩
  cases r with
  | error e =>
    refine ⟨⟨rfl, hlt, hqueue⟩, ?_, fun e' he => ?_⟩
    · rw [hown _ rfl]
      exact .raised (by simpa using hcommands) hresults rfl
    · cases he
      exact runCommand_raises hW hrun
  | ok v =>
    refine ⟨⟨rfl, hlt, hqueue⟩, hsettings'.trans hsettings, ?_, ?_⟩
    · rw [hown _ rfl]
      simpa using hcommands
    · rw [hown _ rfl]
      simp [hresults]

theorem step_completing {n : ℕ} {outcome : Except PyExc BatchResult} (h : g.Served xs finished)
    (hw : g.worker = .completing n outcome) (hstep : g.workerStep W = some (g', es)) :
    g.ServesOn g' xs es finished := by
  have hphase := h.phase
  rw [hw] at hphase
  obtain ⟨hbusy, hcompleted, hexception⟩ := hphase
  obtain ⟨rfl, hlt, hqueue⟩ := hbusy
  rw [workerStep, hw] at hstep
  dsimp only at hstep
  rw [after_eq_getting hexception] at hstep
  cases hstep
  have hcomplete : ∀ w : SubmittedWork, (w.complete outcome).work = w.work ∧
      (w.complete outcome).done = true := by
    intro w
    cases outcome with
    | ok _ => exact ⟨rfl, rfl⟩
    | error e =>
      unfold SubmittedWork.complete
      dsimp only
      rw [if_pos (hexception e rfl)]
      exact ⟨rfl, rfl⟩
  have hcurrent : ∀ m, n < m → (Function.update g.works n ((g.works n).complete outcome)) m =
      g.works m := fun m hm => Function.update_of_ne hm.ne' ..
  refine ⟨n + 1, Nat.le_succ n, ?_, workerFrame (f := (·.complete outcome)) rfl
    (fun w => (hcomplete w).1) le_rfl rfl rfl⟩
  rw [executions, List.filterMap_nil, List.append_nil]
  have hwork : ∀ m, (Function.update g.works n ((g.works n).complete outcome) m).work =
      (g.works m).work := by
    intro m
    by_cases hm : m = n
    · subst hm
      rw [Function.update_self]
      exact (hcomplete _).1
    · rw [Function.update_of_ne hm]
  refine ⟨⟨hlt, h.current (Nat.lt_succ_self n), hqueue⟩, fun m hm => ?_, fun m hm => ?_, h.ordered,
    fun x hx => (h.bounded x hx).trans (Nat.le_succ n), fun x hx => ?_, h.opened⟩
  · by_cases hmn : m = n
    · subst hmn
      refine ⟨?_, outcome, ?_, ?_⟩
      · show (Function.update g.works m ((g.works m).complete outcome) m).done = true
        rw [Function.update_self]
        exact (hcomplete _).2
      · show Completed (Function.update g.works m ((g.works m).complete outcome) m).work.batch.commands
          (executionsOf m xs) outcome
        rw [hwork]
        exact hcompleted
      · show (Function.update g.works m ((g.works m).complete outcome) m).outcome = _
        rw [Function.update_self]
        exact complete_outcome (h.waiting m le_rfl).2 hexception
    · have hsame : Function.update g.works n ((g.works n).complete outcome) m = g.works m :=
        Function.update_of_ne hmn ..
      exact (h.done m (by omega)).congr hsame
  · show (Function.update g.works n ((g.works n).complete outcome) m).done = false ∧
      (Function.update g.works n ((g.works n).complete outcome) m).error = none
    rw [hcurrent m hm]
    exact h.waiting m (Nat.le_of_succ_le hm)
  · exact (h.settings x hx).trans (congrArg Work.settings (hwork _)).symm

/-- Every step of the worker serves on. -/
theorem workerStep_served (hW : W.Raises) (h : g.Served xs finished)
    (hstep : g.workerStep W = some (g', es)) : g.ServesOn g' xs es finished := by
  cases hw : g.worker with
  | getting => exact step_getting h hw hstep
  | taken n => exact step_taken h hw hstep
  | waited n => exact step_waited h hw hstep
  | executing n index rest values =>
    cases rest with
    | nil => exact step_returned h hw hstep
    | cons c rest => exact step_command hW h hw hstep
  | completing n outcome => exact step_completing h hw hstep
  | dead =>
    have hphase := h.phase
    rw [hw] at hphase
    exact hphase.elim

end Gateway

end

end Spd3000
