/-
  The whole gateway: the handlers with the bytes of their clients, and the worker
  they share (`gateway/server.py`).

  `Server` describes one connection; what the owner makes of a batch is a part of
  its turn there.  `Interleaving` describes the owner; where its calls come from
  is left open there.  In `Serving` the two meet: a line that asks for a batch
  becomes a call of `_PhysicalOwner.execute`, and the heartbeats and the outcome
  of this call are what the handler sends.  A call is a connection `(c, k)` of
  the gateway below, since a heartbeat that raises leaves its call in the wait.

  `serving_refines`: in any interleaving, every connection sees the events of
  `handle`, on turns in which the owner has answered with the heartbeats and the
  outcome of the very batch that the turn has handed in; so what holds of a
  connection with any turns holds of the connections of a running gateway.
-/
import Spd3000.Heartbeats
import Spd3000.Responses

namespace Spd3000

variable {σ ι : Type}

/-! ## The system -/

/-- A turn that waits in `_PhysicalOwner.execute`: the line it has read, the batch in it, the
    failures of its writes, their number so far, and whether the client is connected. -/
structure PendingTurn where
  line : Bytes
  session : Session
  batch : CommandBatch
  send : ℕ → Option PyExc
  count : ℕ
  connected : Bool

/-- A handler is between two turns (or has ended), or waits in one. -/
inductive Doing where
  | between (next : Next)
  | waiting (turn : PendingTurn)

/-- The handlers, with the number of calls they are done with, and the gateway below. -/
structure Serving (σ ι : Type) where
  gateway : Gateway σ (ι × ℕ)
  doing : ι → Doing
  calls : ι → ℕ

inductive ServingLabel (σ ι : Type) where
  /-- `readline` returns or raises; the writes of the turn may fail. -/
  | read (c : ι) (line : Except PyExc Bytes) (send : ℕ → Option PyExc)
  | timeout (c : ι)
  | look (c : ι)
  | heartbeat (c : ι)
  | handBack (c : ι)
  | work
  | elapse (f : σ → σ)

/-- The connection whose handler makes the step. -/
def ServingLabel.connection : ServingLabel σ ι → Option ι
  | .read c _ _ | .timeout c | .look c | .heartbeat c | .handBack c => some c
  | .work | .elapse _ => none

inductive ServingEvent (ι : Type) where
  | handler (c : ι) (e : HandlerEvent)
  | owner (e : GatewayEvent (ι × ℕ))

section
variable [PyText]

/-- A turn that does not call the owner. -/
def Turn.alone (line : Except PyExc Bytes) (send : ℕ → Option PyExc) : Turn :=
  ⟨line, fun _ _ => ([], .error (.msg .gatewayInternalError "Physical owner returned no result")),
    send⟩

def PendingTurn.turn (p : PendingTurn) : Turn := .alone (.ok p.line) p.send

/-- What is left of a turn once the call has returned or raised. -/
def PendingTurn.finish (J : Codec) (p : PendingTurn) (result : Except PyExc PyVal) :
    List HandlerEvent × Next :=
  respond J p.turn (idOn J p.line) (.str "execute")
    ⟨some p.session, result, false, none, ⟨[], p.count, p.connected⟩⟩

/-- The call of `send_heartbeat` in the wait: what it raises, what it sends, and the turn after
    it. -/
def PendingTurn.beat (J : Codec) (p : PendingTurn) (state : PyStr) :
    Option PyExc × List HandlerEvent × PendingTurn :=
  let (raised, w) := sendHeartbeat J p.turn (idOn J p.line) state ⟨[], p.count, p.connected⟩
  (raised, w.events, { p with count := w.count, connected := w.connected })

/-- The turn that a line starts, if its batch goes to the owner. -/
def pendingOn (J : Codec) (session : Option Session) (line : Except PyExc Bytes)
    (send : ℕ → Option PyExc) : Option PendingTurn :=
  line.toOption.bind fun line => (submittedOn J session line).map fun b =>
    ⟨line, ⟨b.2⟩, b.1, send, 0, true⟩

namespace Serving
variable [DecidableEq ι] (server : GatewayServer) (J : Codec) (W : World σ)

def setDoing (c : ι) (d : Doing) (s : Serving σ ι) : Serving σ ι :=
  { s with doing := Function.update s.doing c d }

/-- The handler has left its call. -/
def leave (c : ι) (next : Next) (s : Serving σ ι) : Serving σ ι :=
  { s with
    doing := Function.update s.doing c (.between next)
    calls := Function.update s.calls c (s.calls c + 1) }

/-- The next step of a handler between two turns. -/
def read (c : ι) (session : Option Session) (line : Except PyExc Bytes) (send : ℕ → Option PyExc)
    (s : Serving σ ι) : Option (Serving σ ι × List (ServingEvent ι)) :=
  match pendingOn J session line send with
  | none =>
    let (events, next) := server.turn J (.alone line send) session
    some (s.setDoing c (.between next), events.map (.handler c))
  | some p =>
    ((Gateway.system W).run [.accept (c, s.calls c) p.session.settings,
        .submit (c, s.calls c) p.batch] s.gateway).map fun (g, es) =>
      ({ s.setDoing c (.waiting p) with gateway := g },
        [.handler c (.received p.line), .handler c (.submitted p.batch p.session.settings)] ++
          es.map .owner)

def step (l : ServingLabel σ ι) (s : Serving σ ι) :
    Option (Serving σ ι × List (ServingEvent ι)) :=
  match l with
  | .read c line send => match s.doing c with
    | .between (.goOn session) => s.read server J W c session line send
    | _ => none
  | .timeout c => match s.doing c with
    | .waiting _ => (s.gateway.step W (.timeout (c, s.calls c))).map fun (g, es) =>
      ({ s with gateway := g }, es.map .owner)
    | .between _ => none
  | .look c => match s.doing c with
    | .waiting _ => (s.gateway.step W (.look (c, s.calls c))).map fun (g, es) =>
      ({ s with gateway := g }, es.map .owner)
    | .between _ => none
  | .heartbeat c => match s.doing c, s.gateway.step W (.heartbeat (c, s.calls c)) with
    | .waiting p, some (g, [.heartbeat _ state]) =>
      let (raised, beats, p) := p.beat J state
      let events := .owner (.heartbeat (c, s.calls c) state) :: beats.map (.handler c)
      match raised with
      | none => some ({ s.setDoing c (.waiting p) with gateway := g }, events)
      | some e =>
        let (rest, next) := p.finish J (executeResult (.error e))
        some ({ s.leave c next with gateway := g }, events ++ rest.map (.handler c))
    | _, _ => none
  | .handBack c => match s.doing c, s.gateway.step W (.handBack (c, s.calls c)) with
    | .waiting p, some (g, [.handedBack _ n outcome]) =>
      let (rest, next) := p.finish J (executeResult outcome)
      some ({ s.leave c next with gateway := g },
        .owner (.handedBack (c, s.calls c) n outcome) :: rest.map (.handler c))
    | _, _ => none
  | .work => (s.gateway.step W .work).map fun (g, es) =>
      ({ s with gateway := g }, es.map .owner)
  | .elapse f => (s.gateway.step W (.elapse f)).map fun (g, es) =>
      ({ s with gateway := g }, es.map .owner)

/-- A gateway that has started. -/
def start (x : DirectExecutor σ) : Serving σ ι :=
  ⟨.start x, fun _ => .between (.goOn none), fun _ => 0⟩

def system : Runs.System (Serving σ ι) (ServingLabel σ ι) (ServingEvent ι) := ⟨step server J W⟩

end Serving

end

/-! ## What can be seen -/

/-- What the owner does. -/
def owned (es : List (ServingEvent ι)) : List (GatewayEvent (ι × ℕ)) :=
  es.filterMap fun | .owner e => some e | .handler _ _ => none

/-- What the handler of a connection does. -/
def seenBy [DecidableEq ι] (c : ι) (es : List (ServingEvent ι)) : List HandlerEvent :=
  es.filterMap fun | .handler c' e => if c' = c then some e else none | .owner _ => none

/-- The states that the heartbeats of a call have told. -/
def statesTo [DecidableEq ι] (c : ι × ℕ) (es : List (GatewayEvent (ι × ℕ))) : List PyStr :=
  es.filterMap fun | .heartbeat c' state => if c' = c then some state else none | _ => none

@[simp] theorem owned_append (es es' : List (ServingEvent ι)) :
    owned (es ++ es') = owned es ++ owned es' := List.filterMap_append ..

@[simp] theorem owned_owner (es : List (GatewayEvent (ι × ℕ))) :
    owned (es.map .owner) = es := by
  induction es with
  | nil => rfl
  | cons e es ih => exact congrArg (e :: ·) ih

@[simp] theorem owned_handler (c : ι) (es : List HandlerEvent) :
    owned (es.map (.handler c)) = [] := by
  rw [owned, List.filterMap_map]
  exact List.filterMap_eq_nil_iff.2 fun _ _ => rfl

section
variable [DecidableEq ι]

@[simp] theorem seenBy_append (c : ι) (es es' : List (ServingEvent ι)) :
    seenBy c (es ++ es') = seenBy c es ++ seenBy c es' := List.filterMap_append ..

@[simp] theorem statesTo_append (c : ι × ℕ) (es es' : List (GatewayEvent (ι × ℕ))) :
    statesTo c (es ++ es') = statesTo c es ++ statesTo c es' := List.filterMap_append ..

@[simp] theorem seenBy_owner (c : ι) (es : List (GatewayEvent (ι × ℕ))) :
    seenBy c (es.map .owner) = [] := by
  rw [seenBy, List.filterMap_map]
  exact List.filterMap_eq_nil_iff.2 fun _ _ => rfl

@[simp] theorem seenBy_handler (c : ι) (es : List HandlerEvent) :
    seenBy c (es.map (.handler c)) = es := by
  induction es with
  | nil => rfl
  | cons e es ih =>
    rw [List.map_cons, ← List.singleton_append, seenBy_append, ih]
    simp [seenBy]

theorem seenBy_other {c c' : ι} (h : c' ≠ c) (es : List HandlerEvent) :
    seenBy c (es.map (.handler c')) = [] := by
  rw [seenBy, List.filterMap_map]
  exact List.filterMap_eq_nil_iff.2 fun _ _ => if_neg h

/-- Events of others tell a call nothing. -/
theorem statesTo_foreign {c : ι × ℕ} {es : List (GatewayEvent (ι × ℕ))}
    (h : ∀ e ∈ es, e.connection ≠ some c) : statesTo c es = [] := by
  refine List.filterMap_eq_nil_iff.2 fun e he => ?_
  cases e with
  | heartbeat c' state => exact if_neg fun hc => h _ he (congrArg some hc)
  | _ => rfl

end

/-! ## Steps of the gateway below -/

/-- The connection whose handler makes the step. -/
def Label.connection : Label σ ι → Option ι
  | .accept c _ | .submit c _ | .timeout c | .look c | .heartbeat c | .disconnect c
  | .handBack c => some c
  | .work | .elapse _ => none

section
variable [PyText] [DecidableEq ι] {W : World σ} {g g' : Gateway σ ι} {es : List (GatewayEvent ι)}

omit [DecidableEq ι] in
theorem Gateway.workerStep_apart (h : g.workerStep W = some (g', es)) :
    g'.handlers = g.handlers ∧ ∀ e ∈ es, e.connection = none := by
  have hnil : ∀ e ∈ ([] : List (GatewayEvent ι)), e.connection = none := fun _ he => nomatch he
  rw [Gateway.workerStep] at h
  cases hw : g.worker with
  | getting =>
    rw [hw] at h
    dsimp only at h
    cases hq : g.queue with
    | nil => rw [hq] at h; cases h
    | cons n queue =>
      rw [hq] at h
      cases h
      exact ⟨rfl, hnil⟩
  | taken n | waited n | completing n outcome =>
    rw [hw] at h
    cases h
    exact ⟨rfl, hnil⟩
  | executing n index rest values =>
    rw [hw] at h
    cases rest with
    | nil =>
      cases h
      exact ⟨rfl, hnil⟩
    | cons c rest =>
      cases h
      exact ⟨rfl, by simp [GatewayEvent.connection]⟩
  | dead => rw [hw] at h; cases h

/-- A step of one handler, or of the worker, leaves the other handlers alone. -/
theorem Gateway.step_apart {l : Label σ ι} (h : g.step W l = some (g', es)) {c : ι}
    (hc : l.connection ≠ some c) :
    g'.handlers c = g.handlers c ∧ ∀ e ∈ es, e.connection ≠ some c := by
  have hother : ∀ {c'}, (some c' : Option ι) ≠ some c → ∀ hd,
      Function.update g.handlers c' hd c = g.handlers c := fun hne hd =>
    Function.update_of_ne (fun heq => hne (congrArg some heq.symm)) ..
  have hnil : ∀ e ∈ ([] : List (GatewayEvent ι)), e.connection ≠ some c :=
    List.forall_mem_nil _
  have hone : ∀ e : GatewayEvent ι, e.connection = l.connection →
      ∀ e' ∈ [e], e'.connection ≠ some c := by
    intro e he e' he'
    rw [List.mem_singleton.1 he', he]
    exact hc
  cases l with
  | accept c' settings =>
    cases hh : g.handlers c' with
    | new =>
      simp only [Gateway.step, hh] at h
      cases h
      exact ⟨hother hc _, hone _ rfl⟩
    | _ => simp [Gateway.step, hh] at h
  | submit c' batch =>
    cases hh : g.handlers c' with
    | idle session =>
      simp only [Gateway.step, hh] at h
      cases h
      exact ⟨hother hc _, hone _ rfl⟩
    | _ => simp [Gateway.step, hh] at h
  | timeout c' =>
    cases hh : g.handlers c' with
    | waiting session n connected =>
      simp only [Gateway.step, hh] at h
      split_ifs at h
      cases h
      exact ⟨hother hc _, hnil⟩
    | _ => simp [Gateway.step, hh] at h
  | look c' =>
    cases hh : g.handlers c' with
    | beating session n connected =>
      simp only [Gateway.step, hh] at h
      cases h
      exact ⟨hother hc _, hone _ rfl⟩
    | _ => simp [Gateway.step, hh] at h
  | heartbeat c' =>
    cases hh : g.handlers c' with
    | sending session n connected state =>
      simp only [Gateway.step, hh] at h
      cases h
      exact ⟨hother hc _, hone _ rfl⟩
    | _ => simp [Gateway.step, hh] at h
  | disconnect c' =>
    cases hh : g.handlers c' with
    | _ =>
      simp only [Gateway.step, hh] at h
      cases h
      exact ⟨hother hc _, hnil⟩
  | handBack c' =>
    cases hh : g.handlers c' with
    | waiting session n connected =>
      simp only [Gateway.step, hh] at h
      split_ifs at h
      all_goals
        cases h
        exact ⟨hother hc _, hone _ rfl⟩
    | _ => simp [Gateway.step, hh] at h
  | work =>
    obtain ⟨hhandlers, hevents⟩ := Gateway.workerStep_apart h
    refine ⟨congrFun hhandlers c, fun e he heq => ?_⟩
    rw [hevents e he] at heq
    cases heq
  | elapse f =>
    cases h
    exact ⟨rfl, hnil⟩

theorem Gateway.run_apart {ls : List (Label σ ι)} (h : (Gateway.system W).run ls g = some (g', es))
    {c : ι} (hc : ∀ l ∈ ls, l.connection ≠ some c) :
    g'.handlers c = g.handlers c ∧ ∀ e ∈ es, e.connection ≠ some c := by
  show g'.handlers c = g.handlers c ∧ ∀ e ∈ [] ++ es, e.connection ≠ some c
  refine Runs.System.invariant_of (M := Gateway.system W)
    (P := fun g₁ es₁ => g₁.handlers c = g.handlers c ∧ ∀ e ∈ es₁, e.connection ≠ some c)
    (fun l hl g₁ es₁ g₂ es₂ hP hstep => ?_) ⟨rfl, fun _ he => nomatch he⟩ h
  obtain ⟨hhandlers, hevents⟩ := Gateway.step_apart hstep (hc l hl)
  refine ⟨hhandlers.trans hP.1, fun e he => ?_⟩
  exact (List.mem_append.1 he).elim (hP.2 e) (hevents e)

end

/-! ## One turn -/

section
variable [PyText] {J : Codec} {T U : Turn} {requestId : PyVal}

theorem sendHeartbeat_congr (h : T.send = U.send) :
    sendHeartbeat J T requestId = sendHeartbeat J U requestId := by
  funext state w
  simp only [sendHeartbeat, h]

theorem sendHeartbeats_congr (h : T.send = U.send) (states : List PyStr) (w : Writes) :
    sendHeartbeats J T requestId states w = sendHeartbeats J U requestId states w := by
  induction states generalizing w with
  | nil => rfl
  | cons state states ih => simp only [sendHeartbeats, sendHeartbeat_congr h, ih]

/-- What has been sent before does not matter to a heartbeat. -/
theorem sendHeartbeat_after (before : List HandlerEvent) (state : PyStr) (count : ℕ)
    (connected : Bool) : sendHeartbeat J T requestId state ⟨before, count, connected⟩ =
      let (raised, w) := sendHeartbeat J T requestId state ⟨[], count, connected⟩
      (raised, { w with events := before ++ w.events }) := by
  unfold sendHeartbeat
  cases connected with
  | false => simp
  | true =>
    simp only [Bool.not_true, Bool.false_eq_true, if_false]
    cases (heartbeatNotification requestId state).bind J.encodeMessage with
    | error e =>
      dsimp only
      split_ifs <;> simp
    | ok data =>
      dsimp only
      cases T.send count with
      | none => simp
      | some e =>
        dsimp only
        split_ifs <;> simp

/-- One more heartbeat. -/
theorem sendHeartbeats_concat (states : List PyStr) (state : PyStr) {w w' : Writes}
    (h : sendHeartbeats J T requestId states w = (none, w')) :
    sendHeartbeats J T requestId (states ++ [state]) w = sendHeartbeat J T requestId state w' := by
  induction states generalizing w with
  | nil =>
    cases h
    rw [List.nil_append, sendHeartbeats]
    generalize sendHeartbeat J T requestId state _ = sent
    obtain ⟨raised, w₁⟩ := sent
    cases raised <;> rfl
  | cons s states ih =>
    rw [sendHeartbeats] at h
    rw [List.cons_append, sendHeartbeats]
    generalize sendHeartbeat J T requestId s w = sent at h ⊢
    obtain ⟨raised, w₁⟩ := sent
    cases raised with
    | some e => cases h
    | none => exact ih h

/-- The end of a turn does not depend on what has been sent in it. -/
theorem respond_after (h : T.send = U.send) (method : PyVal) (session : Option Session)
    (result : Except PyExc PyVal) (b : CommandBatch × ExecutionSettings) (w : Writes) :
    respond J T requestId method ⟨session, result, false, some b, w⟩ =
      let (rest, next) := respond J U requestId method
        ⟨session, result, false, none, ⟨[], w.count, w.connected⟩⟩
      (.submitted b.1 b.2 :: (w.events ++ rest), next) := by
  unfold respond
  simp only [h, Option.map_some, Option.toList_some, Option.map_none, Option.toList_none]
  by_cases hleft : (pyEq method (.str "execute") && !w.connected) = true
  · simp [hleft]
  · rw [if_neg hleft, if_neg hleft]
    cases J.encodeMessage (response requestId result) with
    | error e => simp
    | ok data => cases U.send w.count <;> simp

/-- What a turn makes of its call, which a heartbeat may have left by an exception. -/
def callResult (raised : Option PyExc) (outcome : Except PyExc BatchResult) : Except PyExc PyVal :=
  executeResult (raised.elim outcome .error)

variable {session : Option Session}

omit [PyText] in
theorem methodAndParams_eq_some {method params : PyVal} {m : PyStr} {ps : PyDict} :
    methodAndParams method params = some (m, ps) ↔ method = .str m ∧ params = .dict ps := by
  constructor
  · intro h
    unfold methodAndParams at h
    split at h
    · cases h
      exact ⟨rfl, rfl⟩
    · cases h
  · rintro ⟨rfl, rfl⟩
    rfl

/-- A turn whose batch goes to the owner has read an execute request in a session. -/
theorem pendingOn_spec {line : Except PyExc Bytes} {send : ℕ → Option PyExc} {p : PendingTurn}
    (h : pendingOn J session line send = some p) :
    line = .ok p.line ∧ session = some p.session ∧ p.send = send ∧ p.count = 0 ∧
      p.connected = true ∧ submittedOn J session p.line = some (p.batch, p.session.settings) ∧
      ∃ request params, J.receiveMessage malformedLine p.line = .ok request ∧
        request.getD "method" = .str "execute" ∧
        (request.get "params").getD (.dict []) = .dict params ∧
        requestedBatch params = .ok p.batch := by
  obtain ⟨bytes, hbytes, hp⟩ := Option.bind_eq_some_iff.1 h
  obtain ⟨⟨batch, settings⟩, hsubmitted, rfl⟩ := Option.map_eq_some_iff.1 hp
  have hline : line = .ok bytes := by
    cases line with
    | error e => cases hbytes
    | ok line => cases hbytes; rfl
  have hbatch := hsubmitted
  rw [submittedOn, submittedFor] at hbatch
  obtain ⟨s, hs, hbatch⟩ := Option.bind_eq_some_iff.1 hbatch
  obtain ⟨⟨method, params⟩, hrequest, hbatch⟩ := Option.bind_eq_some_iff.1 hbatch
  split_ifs at hbatch with hexecute
  obtain ⟨batch', hbatch, heq⟩ := Option.map_eq_some_iff.1 hbatch
  cases heq
  obtain rfl : method = lit "execute" := hexecute
  refine ⟨hline, hs, rfl, rfl, rfl, hsubmitted, ?_⟩
  have hrequested : requestedBatch params = .ok batch := by
    cases hr : requestedBatch params with
    | error e => rw [hr] at hbatch; cases hbatch
    | ok b => rw [hr] at hbatch; cases hbatch; rfl
  rw [requestOf] at hrequest
  cases hreceive : J.receiveMessage "Request exceeded limits or lacked LF" bytes with
  | error e => rw [hreceive] at hrequest; cases hrequest
  | ok request =>
    rw [hreceive] at hrequest
    obtain ⟨hmethod, hparams⟩ := methodAndParams_eq_some.1 hrequest
    exact ⟨request, params, hreceive, hmethod, hparams, hrequested⟩

/-- The turn of an execute request: the call, its heartbeats, and the end of the turn. -/
theorem turn_pending (server : GatewayServer) {p : PendingTurn} {raised : Option PyExc} {w : Writes}
    (h : pendingOn J session T.line T.send = some p)
    (hbeats : sendHeartbeats J T (idOn J p.line) (T.owner p.batch p.session.settings).1 noWrites =
      (raised, w)) : server.turn J T session =
    let (rest, next) := { p with count := w.count, connected := w.connected }.finish J
      (callResult raised (T.owner p.batch p.session.settings).2)
    (.received p.line :: .submitted p.batch p.session.settings :: (w.events ++ rest), next) := by
  obtain ⟨hline, rfl, hsend, -, -, -, request, params, hreceive, hmethod, hparams, hbatch⟩ :=
    pendingOn_spec h
  have hne : p.line ≠ [] := by
    intro hnil
    rw [hnil, Codec.receiveMessage, if_pos (.inr (by simp))] at hreceive
    cases hreceive
  have hid : idOn J p.line = request.getD "id" := by rw [idOn, hreceive]
  have hreply : server.answer J T (some p.session) (request.getD "id") (.str "execute")
      (.dict params) =
      ⟨some p.session, callResult raised (T.owner p.batch p.session.settings).2, false,
        some (p.batch, p.session.settings), w⟩ := by
    have hanswer : server.answer J T (some p.session) (request.getD "id") (.str "execute")
        (.dict params) = executeRequest J T (request.getD "id") params p.session := by
      simp only [GatewayServer.answer, if_true]
    rw [hanswer, executeRequest, hbatch]
    rw [hid] at hbeats
    simp only [hbeats]
    cases raised with
    | some e => rfl
    | none => cases (T.owner p.batch p.session.settings).2 <;> rfl
  rw [turn_line server J hline hne, hreceive]
  simp only [GatewayServer.serveInterpreted, hmethod, hparams, hreply]
  rw [respond_after (U := p.turn) hsend.symm, ← hid]
  rfl

end

/-! ## Turns and their calls -/

section
variable [PyText] [DecidableEq ι]

/-- The turns of a handler, up to call number `k`, where `P` is what the owner has made of each
    call. -/
inductive Turns (server : GatewayServer) (J : Codec) (P : ℕ → Turn → PendingTurn → Prop) :
    ℕ → List Turn → Prop
  | start : Turns server J P 0 []
  | alone {k ts T session} : Turns server J P k ts → (server.handle J ts).2 = .goOn session →
      pendingOn J session T.line T.send = none → Turns server J P k (ts ++ [T])
  | called {k ts T session p} : Turns server J P k ts → (server.handle J ts).2 = .goOn session →
      pendingOn J session T.line T.send = some p → P k T p → Turns server J P (k + 1) (ts ++ [T])

omit [DecidableEq ι] in
theorem Turns.mono {server : GatewayServer} {J : Codec} {P Q : ℕ → Turn → PendingTurn → Prop}
    {n : ℕ} {ts : List Turn} (h : Turns server J P n ts) (hPQ : ∀ k < n, ∀ T p, P k T p → Q k T p) :
    Turns server J Q n ts := by
  induction h with
  | start => exact .start
  | alone _ hnext hnone ih => exact (ih hPQ).alone hnext hnone
  | called _ hnext hsome hP ih =>
    exact (ih fun k hk => hPQ k (hk.trans (Nat.lt_succ_self _))).called hnext hsome
      (hPQ _ (Nat.lt_succ_self _) _ _ hP)

/-- The owner has heartbeats and an outcome for a call, as the turn has them; what it has done
    with the batch does not matter to a turn whose heartbeat has raised. -/
structure CallOutcome (J : Codec) (es : List (GatewayEvent (ι × ℕ)))
    (P : ℕ → CommandBatch → Except PyExc BatchResult → Prop) (c : ι × ℕ) (T : Turn)
    (p : PendingTurn) : Prop where
  states : (T.owner p.batch p.session.settings).1 = statesTo c es
  outcome : ∃ n, ⟨c, n, ⟨p.batch, p.session.settings⟩⟩ ∈ submissions es ∧
    (P n p.batch (T.owner p.batch p.session.settings).2 ∨
      (sendHeartbeats J T (idOn J p.line) (statesTo c es) noWrites).1.isSome)

/-- The outcome has been handed back. -/
def HandedBack (es : List (GatewayEvent (ι × ℕ))) (c : ι × ℕ) (n : ℕ) (_ : CommandBatch)
    (outcome : Except PyExc BatchResult) : Prop := .handedBack c n outcome ∈ es

/-- The commands of the batch have reached the executor, and this is what has come of them. -/
def CameOf (es : List (GatewayEvent ι)) (n : ℕ) (batch : CommandBatch)
    (outcome : Except PyExc BatchResult) : Prop :=
  ∃ raw, Completed batch.commands (executionsOf n (executions es)) raw ∧ outcome = handedOutcome raw

/-- The handler is in the call of `_PhysicalOwner.execute` for a work. -/
def Handler.InCall (session : Session) (n : ℕ) : Handler → Prop
  | .waiting session' n' _ | .beating session' n' _ | .sending session' n' _ _ =>
    session' = session ∧ n' = n
  | .new | .idle _ | .ended => False

namespace Serving
variable (server : GatewayServer) (J : Codec)

/-- Where the handler of a connection stands after some turns. -/
def Stands (s : Serving σ ι) (es : List (ServingEvent ι)) (c : ι) (ts : List Turn) : Doing → Prop
  | .between next => server.handle J ts = (seenBy c es, next)
  | .waiting p => ∃ log beats n,
    server.handle J ts = (log, .goOn (some p.session)) ∧
    seenBy c es = log ++ .received p.line :: .submitted p.batch p.session.settings :: beats ∧
    pendingOn J (some p.session) (.ok p.line) p.send = some { p with count := 0, connected := true } ∧
    sendHeartbeats J p.turn (idOn J p.line) (statesTo (c, s.calls c) (owned es)) noWrites =
      (none, ⟨beats, p.count, p.connected⟩) ∧
    (s.gateway.handlers (c, s.calls c)).InCall p.session n ∧
    ⟨(c, s.calls c), n, ⟨p.batch, p.session.settings⟩⟩ ∈ submissions (owned es)

/-- The number of calls that a handler has made. -/
def made (s : Serving σ ι) (c : ι) : ℕ :=
  match s.doing c with
  | .between _ => s.calls c
  | .waiting _ => s.calls c + 1

/-- The handler of a connection has taken turns of `handle`, and its next call is a new one. -/
structure Conducts (s : Serving σ ι) (es : List (ServingEvent ι)) (c : ι) : Prop where
  fresh : ∀ k, s.made c ≤ k →
    s.gateway.handlers (c, k) = .new ∧ statesTo (c, k) (owned es) = []
  turns : ∃ ts, Turns server J
    (fun k => CallOutcome J (owned es) (HandedBack (owned es) (c, k)) (c, k)) (s.calls c) ts ∧
    s.Stands server J es c ts (s.doing c)

/-- Steps that are foreign to a connection. -/
structure Apart (c : ι) (s s' : Serving σ ι) (es' : List (ServingEvent ι)) : Prop where
  doing : s'.doing c = s.doing c
  calls : s'.calls c = s.calls c
  handlers : ∀ k, s'.gateway.handlers (c, k) = s.gateway.handlers (c, k)
  handled : seenBy c es' = []
  owned : ∀ k, ∀ e ∈ owned es', e.connection ≠ some (c, k)

end Serving

variable {server : GatewayServer} {J : Codec} {W : World σ} {s s' : Serving σ ι}
  {es es' : List (ServingEvent ι)}

/-- The past of a call is kept, if its states are. -/
theorem CallOutcome.append {c : ι × ℕ} {gs gs' : List (GatewayEvent (ι × ℕ))} {T : Turn}
    {p : PendingTurn} (h : CallOutcome J gs (HandedBack gs c) c T p)
    (hstates : statesTo c gs' = []) :
    CallOutcome J (gs ++ gs') (HandedBack (gs ++ gs') c) c T p := by
  have hsame : statesTo c (gs ++ gs') = statesTo c gs := by
    rw [statesTo_append, hstates, List.append_nil]
  obtain ⟨n, hsubmitted, hout⟩ := h.outcome
  refine ⟨h.states.trans hsame.symm, n, ?_, ?_⟩
  · rw [submissions_append]
    exact List.mem_append_left _ hsubmitted
  · rw [hsame]
    exact hout.imp (fun hback => List.mem_append_left _ hback) id

namespace Serving

theorem Conducts.apart {c : ι} (h : s.Conducts server J es c) (ha : Apart c s s' es') :
    s'.Conducts server J (es ++ es') c := by
  have hstates : ∀ k, statesTo (c, k) (owned es') = [] := fun k => statesTo_foreign (ha.owned k)
  have hsame : ∀ k, statesTo (c, k) (owned (es ++ es')) = statesTo (c, k) (owned es) := by
    intro k
    rw [owned_append, statesTo_append, hstates, List.append_nil]
  have hmade : s'.made c = s.made c := by rw [made, made, ha.doing, ha.calls]
  obtain ⟨ts, hts, hstands⟩ := h.turns
  refine ⟨fun k hk => ?_, ts, ?_, ?_⟩
  · rw [ha.handlers, hsame]
    exact h.fresh k (hmade ▸ hk)
  · rw [ha.calls, owned_append]
    exact hts.mono fun k _ T p hP => hP.append (hstates k)
  · rw [ha.doing]
    have hhandled : seenBy c (es ++ es') = seenBy c es := by
      rw [seenBy_append, ha.handled, List.append_nil]
    cases hd : s.doing c with
    | between next =>
      rw [hd] at hstands
      rw [Stands, hhandled]
      exact hstands
    | waiting p =>
      rw [hd] at hstands
      obtain ⟨log, beats, n, hlog, hevents, hpending, hbeats, hcall, hsubmitted⟩ := hstands
      refine ⟨log, beats, n, hlog, hhandled.trans hevents, hpending, ?_, ?_, ?_⟩
      · rw [ha.calls, hsame]
        exact hbeats
      · rw [ha.calls, ha.handlers]
        exact hcall
      · rw [ha.calls, owned_append, submissions_append]
        exact List.mem_append_left _ hsubmitted

end Serving

/-- What the steps of a call are at the gateway below. -/
theorem Gateway.timeout_events {g g' : Gateway σ ι} {c : ι} {gs : List (GatewayEvent ι)}
    (h : g.step W (.timeout c) = some (g', gs)) : ∃ session n connected,
      g.handlers c = .waiting session n connected ∧
      g' = g.setHandler c (.beating session n connected) ∧ gs = [] := by
  cases hh : g.handlers c with
  | waiting session n connected =>
    simp only [Gateway.step, hh] at h
    split_ifs at h
    cases h
    exact ⟨session, n, connected, rfl, rfl, rfl⟩
  | _ => simp [Gateway.step, hh] at h

theorem Gateway.look_events {g g' : Gateway σ ι} {c : ι} {gs : List (GatewayEvent ι)}
    (h : g.step W (.look c) = some (g', gs)) : ∃ session n connected,
      g.handlers c = .beating session n connected ∧
      g' = g.setHandler c (.sending session n connected (g.works n).state) ∧
      gs = [.looked c (g.works n).state] := by
  cases hh : g.handlers c with
  | beating session n connected =>
    simp only [Gateway.step, hh] at h
    cases h
    exact ⟨session, n, connected, rfl, rfl, rfl⟩
  | _ => simp [Gateway.step, hh] at h

theorem Gateway.heartbeat_events {g g' : Gateway σ ι} {c : ι} {gs : List (GatewayEvent ι)}
    (h : g.step W (.heartbeat c) = some (g', gs)) : ∃ session n connected state,
      g.handlers c = .sending session n connected state ∧
      g' = g.setHandler c (.waiting session n connected) ∧ gs = [.heartbeat c state] := by
  cases hh : g.handlers c with
  | sending session n connected state =>
    simp only [Gateway.step, hh] at h
    cases h
    exact ⟨session, n, connected, state, rfl, rfl, rfl⟩
  | _ => simp [Gateway.step, hh] at h

theorem Gateway.handBack_events {g g' : Gateway σ ι} {c : ι} {gs : List (GatewayEvent ι)}
    (h : g.step W (.handBack c) = some (g', gs)) : ∃ session n connected,
      g.handlers c = .waiting session n connected ∧ gs = [.handedBack c n (g.works n).outcome] := by
  cases hh : g.handlers c with
  | waiting session n connected =>
    simp only [Gateway.step, hh] at h
    split_ifs at h <;> cases h <;> exact ⟨session, n, connected, rfl, rfl⟩
  | _ => simp [Gateway.step, hh] at h

namespace Serving

/-- What a step can do. -/
inductive Steps (server : GatewayServer) (J : Codec) (W : World σ) (s : Serving σ ι) :
    ServingLabel σ ι → Serving σ ι → List (ServingEvent ι) → Prop
  | alone {c line send session} : s.doing c = .between (.goOn session) →
      pendingOn J session line send = none →
      Steps server J W s (.read c line send)
        (s.setDoing c (.between (server.turn J (.alone line send) session).2))
        ((server.turn J (.alone line send) session).1.map (.handler c))
  | call {c line send session p g gs} : s.doing c = .between (.goOn session) →
      pendingOn J session line send = some p →
      (Gateway.system W).run [.accept (c, s.calls c) p.session.settings,
        .submit (c, s.calls c) p.batch] s.gateway = some (g, gs) →
      Steps server J W s (.read c line send) { s.setDoing c (.waiting p) with gateway := g }
        ([HandlerEvent.received p.line, .submitted p.batch p.session.settings].map (.handler c) ++
          gs.map .owner)
  | timeout {c p g gs} : s.doing c = .waiting p →
      s.gateway.step W (.timeout (c, s.calls c)) = some (g, gs) →
      Steps server J W s (.timeout c) { s with gateway := g } (gs.map .owner)
  | look {c p g gs} : s.doing c = .waiting p →
      s.gateway.step W (.look (c, s.calls c)) = some (g, gs) →
      Steps server J W s (.look c) { s with gateway := g } (gs.map .owner)
  | beat {c p g state beats p'} : s.doing c = .waiting p →
      s.gateway.step W (.heartbeat (c, s.calls c)) =
        some (g, [.heartbeat (c, s.calls c) state]) →
      p.beat J state = (none, beats, p') →
      Steps server J W s (.heartbeat c) { s.setDoing c (.waiting p') with gateway := g }
        ([.heartbeat (c, s.calls c) state].map .owner ++ beats.map (.handler c))
  | raised {c p g state e beats p'} : s.doing c = .waiting p →
      s.gateway.step W (.heartbeat (c, s.calls c)) =
        some (g, [.heartbeat (c, s.calls c) state]) →
      p.beat J state = (some e, beats, p') →
      Steps server J W s (.heartbeat c)
        { s.leave c (p'.finish J (executeResult (.error e))).2 with gateway := g }
        ([.heartbeat (c, s.calls c) state].map .owner ++
          (beats ++ (p'.finish J (executeResult (.error e))).1).map (.handler c))
  | handBack {c p g n outcome} : s.doing c = .waiting p →
      s.gateway.step W (.handBack (c, s.calls c)) =
        some (g, [.handedBack (c, s.calls c) n outcome]) →
      Steps server J W s (.handBack c)
        { s.leave c (p.finish J (executeResult outcome)).2 with gateway := g }
        ([.handedBack (c, s.calls c) n outcome].map .owner ++
          (p.finish J (executeResult outcome)).1.map (.handler c))
  | below {l : ServingLabel σ ι} {l' : Label σ (ι × ℕ)} {g gs} : l.connection = none →
      l'.connection = none → s.gateway.step W l' = some (g, gs) →
      Steps server J W s l { s with gateway := g } (gs.map .owner)

theorem step_cases {l : ServingLabel σ ι} (h : s.step server J W l = some (s', es')) :
    Steps server J W s l s' es' := by
  cases l with
  | read c line send =>
    cases hd : s.doing c with
    | waiting p => simp [step, hd] at h
    | between next =>
      cases next with
      | stop | crash e => simp [step, hd] at h
      | goOn session =>
        simp only [step, hd, read] at h
        cases hp : pendingOn J session line send with
        | none =>
          rw [hp] at h
          cases h
          exact .alone hd hp
        | some p =>
          rw [hp] at h
          obtain ⟨⟨g, gs⟩, hrun, heq⟩ := Option.map_eq_some_iff.1 h
          cases heq
          exact .call hd hp hrun
  | timeout c =>
    cases hd : s.doing c with
    | between next => simp [step, hd] at h
    | waiting p =>
      simp only [step, hd] at h
      obtain ⟨⟨g, gs⟩, hstep, heq⟩ := Option.map_eq_some_iff.1 h
      cases heq
      exact .timeout hd hstep
  | look c =>
    cases hd : s.doing c with
    | between next => simp [step, hd] at h
    | waiting p =>
      simp only [step, hd] at h
      obtain ⟨⟨g, gs⟩, hstep, heq⟩ := Option.map_eq_some_iff.1 h
      cases heq
      exact .look hd hstep
  | heartbeat c =>
    cases hd : s.doing c with
    | between next => simp [step, hd] at h
    | waiting p =>
      cases hstep : s.gateway.step W (.heartbeat (c, s.calls c)) with
      | none => simp [step, hd, hstep] at h
      | some below =>
        obtain ⟨g, gs⟩ := below
        obtain ⟨session, n, connected, state, -, -, rfl⟩ := Gateway.heartbeat_events hstep
        simp only [step, hd, hstep] at h
        obtain ⟨raised, beats, p', hbeat⟩ : ∃ raised beats p',
          p.beat J state = (raised, beats, p') := ⟨_, _, _, rfl⟩
        rw [hbeat] at h
        cases raised with
        | none =>
          cases h
          exact .beat hd hstep hbeat
        | some e =>
          cases h
          have hraised : Steps server J W s _ _ _ := .raised hd hstep hbeat
          rw [List.map_append, ← List.append_assoc] at hraised
          exact hraised
  | handBack c =>
    cases hd : s.doing c with
    | between next => simp [step, hd] at h
    | waiting p =>
      cases hstep : s.gateway.step W (.handBack (c, s.calls c)) with
      | none => simp [step, hd, hstep] at h
      | some below =>
        obtain ⟨g, gs⟩ := below
        obtain ⟨session, n, connected, -, rfl⟩ := Gateway.handBack_events hstep
        simp only [step, hd, hstep] at h
        cases h
        exact .handBack hd hstep
  | work =>
    simp only [step] at h
    obtain ⟨⟨g, gs⟩, hstep, heq⟩ := Option.map_eq_some_iff.1 h
    cases heq
    exact .below rfl rfl hstep
  | elapse f =>
    simp only [step] at h
    obtain ⟨⟨g, gs⟩, hstep, heq⟩ := Option.map_eq_some_iff.1 h
    cases heq
    exact .below rfl rfl hstep

/-- A step of one handler, or of the worker, leaves the other connections alone. -/
theorem step_apart {l : ServingLabel σ ι} (h : s.step server J W l = some (s', es')) {c : ι}
    (hc : l.connection ≠ some c) : Apart c s s' es' := by
  have hne : ∀ {c'}, (some c' : Option ι) ≠ some c → c ≠ c' := fun h heq =>
    h (congrArg some heq.symm)
  have hcall : ∀ {c'}, (some c' : Option ι) ≠ some c → ∀ j k, (some (c', j) : Option (ι × ℕ)) ≠
      some (c, k) := fun h j k heq => h (congrArg some (Prod.mk.inj (Option.some.inj heq)).1)
  have hevent : ∀ {c'}, (some c' : Option ι) ≠ some c → ∀ events : List HandlerEvent,
      seenBy c (events.map (.handler c')) = [] := fun h events =>
    seenBy_other (fun heq => h (congrArg some heq)) events
  cases step_cases h with
  | @alone c' line send session hd hp =>
    refine ⟨Function.update_of_ne (hne hc) .., rfl, fun _ => rfl, hevent hc _, fun k e he => ?_⟩
    rw [owned_handler] at he
    cases he
  | @call c' line send session p g gs hd hp hrun =>
    have hapart : ∀ k, _ := fun k => Gateway.run_apart hrun (c := (c, k)) (by
      simpa [Label.connection] using fun h _ => hne hc h.symm)
    refine ⟨Function.update_of_ne (hne hc) .., rfl, fun k => (hapart k).1, ?_, fun k e he => ?_⟩
    · rw [seenBy_append, seenBy_owner, List.append_nil]
      exact hevent hc _
    · rw [owned_append, owned_handler, owned_owner, List.nil_append] at he
      exact (hapart k).2 e he
  | @timeout c' p g gs hd hstep | @look c' p g gs hd hstep =>
    have hapart : ∀ k, _ := fun k => Gateway.step_apart hstep (c := (c, k)) (hcall hc _ k)
    refine ⟨rfl, rfl, fun k => (hapart k).1, seenBy_owner c _, fun k e he => ?_⟩
    rw [owned_owner] at he
    exact (hapart k).2 e he
  | @beat c' p g state beats p' hd hstep hbeat =>
    have hapart : ∀ k, _ := fun k => Gateway.step_apart hstep (c := (c, k)) (hcall hc _ k)
    refine ⟨Function.update_of_ne (hne hc) .., rfl, fun k => (hapart k).1, ?_, fun k e he => ?_⟩
    · rw [seenBy_append, seenBy_owner]
      exact hevent hc _
    · rw [owned_append, owned_handler, owned_owner, List.append_nil] at he
      exact (hapart k).2 e he
  | @raised c' p g state e beats p' hd hstep hbeat =>
    have hapart : ∀ k, _ := fun k => Gateway.step_apart hstep (c := (c, k)) (hcall hc _ k)
    refine ⟨Function.update_of_ne (hne hc) .., Function.update_of_ne (hne hc) ..,
      fun k => (hapart k).1, ?_, fun k e he => ?_⟩
    · rw [seenBy_append, seenBy_owner]
      exact hevent hc _
    · rw [owned_append, owned_handler, owned_owner, List.append_nil] at he
      exact (hapart k).2 e he
  | @handBack c' p g n outcome hd hstep =>
    have hapart : ∀ k, _ := fun k => Gateway.step_apart hstep (c := (c, k)) (hcall hc _ k)
    refine ⟨Function.update_of_ne (hne hc) .., Function.update_of_ne (hne hc) ..,
      fun k => (hapart k).1, ?_, fun k e he => ?_⟩
    · rw [seenBy_append, seenBy_owner]
      exact hevent hc _
    · rw [owned_append, owned_handler, owned_owner, List.append_nil] at he
      exact (hapart k).2 e he
  | @below _ l' g gs _ hl hstep =>
    have hapart : ∀ k, _ := fun k => Gateway.step_apart hstep (c := (c, k)) (by simp [hl])
    refine ⟨rfl, rfl, fun k => (hapart k).1, seenBy_owner c _, fun k e he => ?_⟩
    rw [owned_owner] at he
    exact (hapart k).2 e he

omit [PyText] [DecidableEq ι] in
theorem made_between {c : ι} {next : Next} (hd : s.doing c = .between next) :
    s.made c = s.calls c := by rw [made, hd]

omit [PyText] [DecidableEq ι] in
theorem made_waiting {c : ι} {p : PendingTurn} (hd : s.doing c = .waiting p) :
    s.made c = s.calls c + 1 := by rw [made, hd]

omit [DecidableEq ι] in
theorem handle_concat {ts : List Turn} {log : List HandlerEvent} {session : Option Session}
    (h : server.handle J ts = (log, .goOn session)) (T : Turn) : server.handle J (ts ++ [T]) =
      (log ++ (server.turn J T session).1, (server.turn J T session).2) := by
  rw [GatewayServer.handle] at h
  rw [GatewayServer.handle, List.foldl_append, h]
  rfl

/-- The calls to come are still new after a step of another call. -/
theorem Conducts.fresh_append {c : ι} {k : ℕ} {g : Gateway σ (ι × ℕ)}
    {gs : List (GatewayEvent (ι × ℕ))} (h : s.Conducts server J es c) (hk : s.made c ≤ k)
    (ha : g.handlers (c, k) = s.gateway.handlers (c, k) ∧ ∀ e ∈ gs, e.connection ≠ some (c, k)) :
    g.handlers (c, k) = .new ∧ statesTo (c, k) (owned es ++ gs) = [] := by
  obtain ⟨hnew, hnil⟩ := h.fresh k hk
  exact ⟨ha.1.trans hnew, by rw [statesTo_append, hnil, statesTo_foreign ha.2, List.append_nil]⟩

/-- A turn without a call. -/
theorem Conducts.alone {c : ι} {line : Except PyExc Bytes} {send : ℕ → Option PyExc}
    {session : Option Session} (h : s.Conducts server J es c)
    (hd : s.doing c = .between (.goOn session)) (hp : pendingOn J session line send = none) :
    Conducts server J (s.setDoing c (.between (server.turn J (.alone line send) session).2))
      (es ++ (server.turn J (.alone line send) session).1.map (.handler c)) c := by
  obtain ⟨ts, hts, hstands⟩ := h.turns
  rw [hd] at hstands
  have hhandle : server.handle J ts = (seenBy c es, .goOn session) := hstands
  have hself : (s.setDoing c (.between (server.turn J (.alone line send) session).2)).doing c =
      .between (server.turn J (.alone line send) session).2 := Function.update_self ..
  refine ⟨fun k hk => ?_, ts ++ [.alone line send], ?_, ?_⟩
  · rw [owned_append, owned_handler, List.append_nil]
    exact h.fresh k ((made_between hd).le.trans ((made_between hself).ge.trans hk))
  · rw [owned_append, owned_handler, List.append_nil]
    exact hts.alone (by rw [hhandle]) hp
  · rw [hself]
    show server.handle J (ts ++ [Turn.alone line send]) = (seenBy c (es ++ _), _)
    rw [handle_concat hhandle, seenBy_append, seenBy_handler]

/-- A call enters the queue. -/
theorem call_run {g g' : Gateway σ ι} {c : ι} {session : Session} {batch : CommandBatch}
    {gs : List (GatewayEvent ι)} (hnew : g.handlers c = .new) (h : (Gateway.system W).run
      [.accept c session.settings, .submit c batch] g = some (g', gs)) :
    g'.handlers c = .waiting session g.nextWork true ∧
      gs = [.accepted c session.settings,
        .submitted ⟨c, g.nextWork, ⟨batch, session.settings⟩⟩] := by
  have haccept : (Gateway.system W).step (.accept c session.settings) g =
      some (g.setHandler c (.idle session), [.accepted c session.settings]) := by
    simp only [Gateway.system, Gateway.step, hnew]
  have hidle : (g.setHandler c (.idle session)).handlers c = .idle session :=
    Function.update_self ..
  have hsubmit : (Gateway.system W).step (.submit c batch) (g.setHandler c (.idle session)) =
      some ((g.setHandler c (.idle session)).submit c session batch) := by
    simp only [Gateway.system, Gateway.step, hidle]
  have hrun := Runs.System.run_cons haccept (Runs.System.run_cons hsubmit
    (show (Gateway.system W).run [] _ = some (_, []) from rfl))
  rw [h] at hrun
  cases hrun
  exact ⟨Function.update_self .., rfl⟩

theorem Conducts.call {c : ι} {line : Except PyExc Bytes} {send : ℕ → Option PyExc}
    {session : Option Session} {p : PendingTurn} {g : Gateway σ (ι × ℕ)}
    {gs : List (GatewayEvent (ι × ℕ))} (h : s.Conducts server J es c)
    (hd : s.doing c = .between (.goOn session)) (hp : pendingOn J session line send = some p)
    (hrun : (Gateway.system W).run [.accept (c, s.calls c) p.session.settings,
      .submit (c, s.calls c) p.batch] s.gateway = some (g, gs)) :
    Conducts server J { s.setDoing c (.waiting p) with gateway := g }
      (es ++ ([HandlerEvent.received p.line, .submitted p.batch p.session.settings].map
        (.handler c) ++ gs.map .owner)) c := by
  obtain ⟨ts, hts, hstands⟩ := h.turns
  rw [hd] at hstands
  have hhandle : server.handle J ts = (seenBy c es, .goOn session) := hstands
  obtain ⟨hline, rfl, rfl, hcount, hconnected, -, -⟩ := pendingOn_spec hp
  obtain ⟨hnew, hnil⟩ := h.fresh (s.calls c) (made_between hd).le
  obtain ⟨hwaiting, rfl⟩ := call_run hnew hrun
  have hapart : ∀ k, s.calls c + 1 ≤ k → _ := fun k hk =>
    Gateway.run_apart hrun (c := (c, k)) (by simp [Label.connection]; omega)
  set s' : Serving σ ι := { s.setDoing c (.waiting p) with gateway := g } with hs'
  have hself : s'.doing c = .waiting p := Function.update_self ..
  have howned : ∀ gs : List (GatewayEvent (ι × ℕ)), owned (es ++
      ([HandlerEvent.received p.line, .submitted p.batch p.session.settings].map (.handler c) ++
        gs.map .owner)) = owned es ++ gs := fun gs => by
    rw [owned_append, owned_append, owned_handler, owned_owner, List.nil_append]
  refine ⟨fun k hk => ?_, ts, ?_, ?_⟩
  · rw [made_waiting hself] at hk
    rw [howned]
    exact h.fresh_append ((made_between hd).le.trans ((Nat.le_succ _).trans hk)) (hapart k hk)
  · rw [howned]
    refine hts.mono fun k hk T q hP => hP.append ?_
    rfl
  · rw [hself]
    refine ⟨seenBy c es, [], s.gateway.nextWork, hhandle, ?_, ?_, ?_, ?_, ?_⟩
    · rw [seenBy_append, seenBy_append, seenBy_handler, seenBy_owner, List.append_nil]
    · rw [← hline, hp, ← hcount, ← hconnected]
    · rw [howned, statesTo_append]
      show sendHeartbeats J p.turn _ (statesTo (c, s.calls c) (owned es) ++ []) _ = _
      rw [hnil, hcount, hconnected]
      rfl
    · show (g.handlers (c, s.calls c)).InCall _ _
      rw [hwaiting]
      exact ⟨rfl, rfl⟩
    · rw [howned, submissions_append]
      exact List.mem_append_right _ List.mem_cons_self

/-- A handler goes on in its call, and tells nothing. -/
theorem Conducts.inCall {c : ι} {p : PendingTurn} {l : Label σ (ι × ℕ)} {g : Gateway σ (ι × ℕ)}
    {gs : List (GatewayEvent (ι × ℕ))} (h : s.Conducts server J es c) (hd : s.doing c = .waiting p)
    (hstep : s.gateway.step W l = some (g, gs)) (hl : l.connection = some (c, s.calls c))
    (hcall : ∀ session n, (s.gateway.handlers (c, s.calls c)).InCall session n →
      (g.handlers (c, s.calls c)).InCall session n)
    (hstates : statesTo (c, s.calls c) gs = []) :
    Conducts server J { s with gateway := g } (es ++ gs.map .owner) c := by
  obtain ⟨ts, hts, hstands⟩ := h.turns
  rw [hd] at hstands
  obtain ⟨log, beats, n, hlog, hevents, hpending, hbeats, hincall, hsubmitted⟩ := hstands
  have hapart : ∀ k, k ≠ s.calls c → _ := fun k hk =>
    Gateway.step_apart hstep (c := (c, k)) (by simpa [hl] using hk.symm)
  have howned : owned (es ++ gs.map .owner) = owned es ++ gs := by rw [owned_append, owned_owner]
  refine ⟨fun k hk => ?_, ts, ?_, ?_⟩
  · have hmade : s.calls c + 1 ≤ k := (made_waiting (s := { s with gateway := g }) hd).ge.trans hk
    rw [howned]
    exact h.fresh_append ((made_waiting hd).le.trans hmade)
      (hapart k (Nat.lt_of_succ_le hmade).ne')
  · rw [howned]
    exact hts.mono fun k hk T q hP => hP.append (statesTo_foreign (hapart k hk.ne).2)
  · show Stands server J { s with gateway := g } (es ++ gs.map .owner) c ts (s.doing c)
    rw [hd]
    refine ⟨log, beats, n, hlog, ?_, hpending, ?_, hcall _ _ hincall, ?_⟩
    · rw [seenBy_append, seenBy_owner, List.append_nil]
      exact hevents
    · rw [howned, statesTo_append, hstates, List.append_nil]
      exact hbeats
    · rw [howned, submissions_append]
      exact List.mem_append_left _ hsubmitted

theorem Conducts.timeout {c : ι} {p : PendingTurn} {g : Gateway σ (ι × ℕ)}
    {gs : List (GatewayEvent (ι × ℕ))} (h : s.Conducts server J es c) (hd : s.doing c = .waiting p)
    (hstep : s.gateway.step W (.timeout (c, s.calls c)) = some (g, gs)) :
    Conducts server J { s with gateway := g } (es ++ gs.map .owner) c := by
  obtain ⟨session, n, connected, hwaiting, hg, hgs⟩ := Gateway.timeout_events hstep
  refine h.inCall hd hstep rfl (fun session' n' hcall => ?_) (by rw [hgs]; rfl)
  have hself : g.handlers (c, s.calls c) = .beating session n connected := by
    rw [hg]
    exact Function.update_self ..
  rw [hwaiting] at hcall
  rw [hself]
  exact hcall

theorem Conducts.look {c : ι} {p : PendingTurn} {g : Gateway σ (ι × ℕ)}
    {gs : List (GatewayEvent (ι × ℕ))} (h : s.Conducts server J es c) (hd : s.doing c = .waiting p)
    (hstep : s.gateway.step W (.look (c, s.calls c)) = some (g, gs)) :
    Conducts server J { s with gateway := g } (es ++ gs.map .owner) c := by
  obtain ⟨session, n, connected, hbeating, hg, hgs⟩ := Gateway.look_events hstep
  refine h.inCall hd hstep rfl (fun session' n' hcall => ?_) (by rw [hgs]; rfl)
  have hself : g.handlers (c, s.calls c) =
      .sending session n connected (s.gateway.works n).state := by
    rw [hg]
    exact Function.update_self ..
  rw [hbeating] at hcall
  rw [hself]
  exact hcall

/-- What a heartbeat adds to a turn. -/
theorem beat_spec {p p' : PendingTurn} {state : PyStr} {raised : Option PyExc}
    {sent beats : List HandlerEvent} {states : List PyStr}
    (hbeats : sendHeartbeats J p.turn (idOn J p.line) states noWrites =
      (none, ⟨beats, p.count, p.connected⟩)) (h : p.beat J state = (raised, sent, p')) :
    p' = { p with count := p'.count, connected := p'.connected } ∧
    sendHeartbeats J p.turn (idOn J p.line) (states ++ [state]) noWrites =
      (raised, ⟨beats ++ sent, p'.count, p'.connected⟩) := by
  rw [sendHeartbeats_concat _ _ hbeats, sendHeartbeat_after]
  rw [PendingTurn.beat] at h
  generalize sendHeartbeat J p.turn (idOn J p.line) state ⟨[], p.count, p.connected⟩ = w at h ⊢
  cases h
  exact ⟨rfl, rfl⟩

theorem Conducts.beat {c : ι} {p p' : PendingTurn} {g : Gateway σ (ι × ℕ)} {state : PyStr}
    {sent : List HandlerEvent} (h : s.Conducts server J es c) (hd : s.doing c = .waiting p)
    (hstep : s.gateway.step W (.heartbeat (c, s.calls c)) =
      some (g, [.heartbeat (c, s.calls c) state])) (hbeat : p.beat J state = (none, sent, p')) :
    Conducts server J { s.setDoing c (.waiting p') with gateway := g }
      (es ++ ([.heartbeat (c, s.calls c) state].map .owner ++ sent.map (.handler c))) c := by
  obtain ⟨ts, hts, hstands⟩ := h.turns
  rw [hd] at hstands
  obtain ⟨log, beats, n, hlog, hevents, hpending, hbeats, hcall, hsubmitted⟩ := hstands
  obtain ⟨hp', hbeats'⟩ := beat_spec hbeats hbeat
  have hapart : ∀ k, k ≠ s.calls c → _ := fun k hk =>
    Gateway.step_apart hstep (c := (c, k)) (by simpa [Label.connection] using hk.symm)
  obtain ⟨session', n', connected', state', hsending, hg, -⟩ := Gateway.heartbeat_events hstep
  have hwaiting : g.handlers (c, s.calls c) = .waiting session' n' connected' := by
    rw [hg]
    exact Function.update_self ..
  set s' : Serving σ ι := { s.setDoing c (.waiting p') with gateway := g } with hs'
  have hself : s'.doing c = .waiting p' := Function.update_self ..
  have howned : owned (es ++ ([.heartbeat (c, s.calls c) state].map .owner ++ sent.map (.handler c)))
      = owned es ++ [.heartbeat (c, s.calls c) state] := by
    rw [owned_append, owned_append, owned_handler, owned_owner, List.append_nil]
  refine ⟨fun k hk => ?_, ts, ?_, ?_⟩
  · rw [made_waiting hself] at hk
    rw [howned]
    exact h.fresh_append ((made_waiting hd).le.trans hk) (hapart k (Nat.lt_of_succ_le hk).ne')
  · rw [howned]
    exact hts.mono fun k hk T q hP => hP.append (statesTo_foreign (hapart k hk.ne).2)
  · rw [hself, hp']
    refine ⟨log, beats ++ sent, n, hlog, ?_, hpending, ?_, ?_, ?_⟩
    · rw [seenBy_append, seenBy_append, seenBy_handler, seenBy_owner, hevents]
      simp
    · rw [howned, statesTo_append]
      have hstate : statesTo (c, s.calls c) [.heartbeat (c, s.calls c) state] = [state] := by
        simp [statesTo]
      exact hstate ▸ hbeats'
    · show (g.handlers (c, s.calls c)).InCall _ _
      rw [hsending] at hcall
      rw [hwaiting]
      exact hcall
    · rw [howned, submissions_append]
      exact List.mem_append_left _ hsubmitted

/-- The end of a turn whose call has returned or raised. -/
theorem Conducts.leave {c : ι} {p q : PendingTurn} {g : Gateway σ (ι × ℕ)} {n : ℕ}
    {gs : List (GatewayEvent (ι × ℕ))} {raised : Option PyExc} {outcome : Except PyExc BatchResult}
    {ts : List Turn} {log beats sent : List HandlerEvent} (h : s.Conducts server J es c)
    (hd : s.doing c = .waiting p)
    (hts : Turns server J (fun k => CallOutcome J (owned es) (HandedBack (owned es) (c, k)) (c, k))
      (s.calls c) ts)
    (hlog : server.handle J ts = (log, .goOn (some p.session)))
    (hevents : seenBy c es =
      log ++ .received p.line :: .submitted p.batch p.session.settings :: beats)
    (hpending : pendingOn J (some p.session) (.ok p.line) p.send =
      some { p with count := 0, connected := true })
    (hsubmitted : ⟨(c, s.calls c), n, ⟨p.batch, p.session.settings⟩⟩ ∈ submissions (owned es))
    (hq : q = { p with count := q.count, connected := q.connected })
    (hbeats : sendHeartbeats J p.turn (idOn J p.line)
      (statesTo (c, s.calls c) (owned es ++ gs)) noWrites =
        (raised, ⟨beats ++ sent, q.count, q.connected⟩))
    (hout : .handedBack (c, s.calls c) n outcome ∈ gs ∨ raised.isSome)
    (hapart : ∀ k, k ≠ s.calls c → g.handlers (c, k) = s.gateway.handlers (c, k) ∧
      ∀ e ∈ gs, e.connection ≠ some (c, k)) :
    Conducts server J { s.leave c (q.finish J (callResult raised outcome)).2 with gateway := g }
      (es ++ (gs.map .owner ++
        (sent ++ (q.finish J (callResult raised outcome)).1).map (.handler c))) c := by
  set done := q.finish J (callResult raised outcome) with hdone
  set s' : Serving σ ι := { s.leave c done.2 with gateway := g } with hs'
  have hself : s'.doing c = .between done.2 := Function.update_self ..
  have hcalls : s'.calls c = s.calls c + 1 := Function.update_self ..
  have howned : owned (es ++ (gs.map .owner ++ (sent ++ done.1).map (.handler c))) =
      owned es ++ gs := by
    rw [owned_append, owned_append, owned_handler, owned_owner, List.append_nil]
  -- the turn, with what the owner has made of the batch
  let T : Turn := ⟨.ok p.line, fun _ _ => (statesTo (c, s.calls c) (owned es ++ gs), outcome), p.send⟩
  have hsame : ∀ states, sendHeartbeats J T (idOn J p.line) states noWrites =
      sendHeartbeats J p.turn (idOn J p.line) states noWrites := fun states =>
    sendHeartbeats_congr (T := T) (U := p.turn) rfl states noWrites
  have hturn : server.turn J T (some p.session) = (.received p.line ::
      .submitted p.batch p.session.settings :: (beats ++ sent ++ done.1), done.2) := by
    rw [turn_pending server (T := T) hpending ((hsame _).trans hbeats), hdone, hq]
  refine ⟨fun k hk => ?_, ts ++ [T], ?_, ?_⟩
  · rw [made_between hself, hcalls] at hk
    rw [howned]
    exact h.fresh_append ((made_waiting hd).le.trans hk) (hapart k (Nat.lt_of_succ_le hk).ne')
  · rw [howned, hcalls]
    refine (hts.mono fun k hk T q hP => hP.append (statesTo_foreign (hapart k hk.ne).2)).called
      (by rw [hlog]) hpending ⟨rfl, n, ?_, ?_⟩
    · rw [submissions_append]
      exact List.mem_append_left _ hsubmitted
    · refine hout.imp (fun hback => List.mem_append_right _ hback) fun hraised => ?_
      rw [hsame, hbeats]
      exact hraised
  · rw [hself]
    show server.handle J (ts ++ [T]) = (seenBy c (es ++ _), done.2)
    rw [handle_concat hlog, hturn, seenBy_append, seenBy_append, seenBy_handler,
      seenBy_owner, hevents]
    simp

theorem Conducts.raised {c : ι} {p p' : PendingTurn} {g : Gateway σ (ι × ℕ)} {state : PyStr}
    {e : PyExc} {sent : List HandlerEvent} (h : s.Conducts server J es c)
    (hd : s.doing c = .waiting p) (hstep : s.gateway.step W (.heartbeat (c, s.calls c)) =
      some (g, [.heartbeat (c, s.calls c) state])) (hbeat : p.beat J state = (some e, sent, p')) :
    Conducts server J
      { s.leave c (p'.finish J (executeResult (.error e))).2 with gateway := g }
      (es ++ ([.heartbeat (c, s.calls c) state].map .owner ++
        (sent ++ (p'.finish J (executeResult (.error e))).1).map (.handler c))) c := by
  obtain ⟨ts, hts, hstands⟩ := h.turns
  rw [hd] at hstands
  obtain ⟨log, beats, n, hlog, hevents, hpending, hbeats, -, hsubmitted⟩ := hstands
  obtain ⟨hp', hbeats'⟩ := beat_spec hbeats hbeat
  have hstate : statesTo (c, s.calls c) (owned es ++ [.heartbeat (c, s.calls c) state]) =
      statesTo (c, s.calls c) (owned es) ++ [state] := by
    rw [statesTo_append]
    simp [statesTo]
  rw [← hstate] at hbeats'
  -- what the owner makes of the batch later on does not matter
  have hresult : callResult (some e) (.ok ⟨[]⟩) = executeResult (.error e) := by
    rw [callResult, Option.elim_some]
  rw [← hresult]
  exact h.leave hd hts hlog hevents hpending hsubmitted hp' hbeats' (.inr rfl)
    fun k hk => Gateway.step_apart hstep (by simpa [Label.connection] using hk.symm)

theorem Conducts.handBack {c : ι} {p : PendingTurn} {g : Gateway σ (ι × ℕ)} {n : ℕ}
    {outcome : Except PyExc BatchResult} (h : s.Conducts server J es c)
    (hd : s.doing c = .waiting p) (hstep : s.gateway.step W (.handBack (c, s.calls c)) =
      some (g, [.handedBack (c, s.calls c) n outcome])) :
    Conducts server J { s.leave c (p.finish J (executeResult outcome)).2 with gateway := g }
      (es ++ ([.handedBack (c, s.calls c) n outcome].map .owner ++
        (p.finish J (executeResult outcome)).1.map (.handler c))) c := by
  obtain ⟨ts, hts, hstands⟩ := h.turns
  rw [hd] at hstands
  obtain ⟨log, beats, n', hlog, hevents, hpending, hbeats, hcall, hsubmitted⟩ := hstands
  obtain ⟨session', m, connected', hwaiting, hgs⟩ := Gateway.handBack_events hstep
  obtain rfl : n = n' := by
    cases hgs
    rw [hwaiting] at hcall
    exact hcall.2
  have hbeats' : sendHeartbeats J p.turn (idOn J p.line) (statesTo (c, s.calls c)
      (owned es ++ [.handedBack (c, s.calls c) n outcome])) noWrites =
        (none, ⟨beats ++ [], p.count, p.connected⟩) := by
    rw [statesTo_append, List.append_nil]
    exact (congrArg (sendHeartbeats J _ _ · _) (List.append_nil _)).trans hbeats
  have hresult : callResult none outcome = executeResult outcome := by
    rw [callResult, Option.elim_none]
  rw [← hresult]
  exact h.leave hd hts hlog hevents hpending hsubmitted rfl hbeats' (.inl List.mem_cons_self)
    fun k hk => Gateway.step_apart hstep (by simpa [Label.connection] using hk.symm)

/-- Every step keeps what the connections have seen in line with their turns. -/
theorem conducts_step {l : ServingLabel σ ι} (h : ∀ c, s.Conducts server J es c)
    (hstep : s.step server J W l = some (s', es')) (c : ι) : s'.Conducts server J (es ++ es') c := by
  by_cases hc : l.connection = some c
  · cases step_cases hstep with
    | alone hd hp =>
      obtain rfl := Option.some.inj hc
      exact (h _).alone hd hp
    | call hd hp hrun =>
      obtain rfl := Option.some.inj hc
      exact (h _).call hd hp hrun
    | timeout hd hbelow =>
      obtain rfl := Option.some.inj hc
      exact (h _).timeout hd hbelow
    | look hd hbelow =>
      obtain rfl := Option.some.inj hc
      exact (h _).look hd hbelow
    | beat hd hbelow hbeat =>
      obtain rfl := Option.some.inj hc
      exact (h _).beat hd hbelow hbeat
    | raised hd hbelow hbeat =>
      obtain rfl := Option.some.inj hc
      exact (h _).raised hd hbelow hbeat
    | handBack hd hbelow =>
      obtain rfl := Option.some.inj hc
      exact (h _).handBack hd hbelow
    | below hl _ _ => cases hl.symm.trans hc
  · exact (h c).apart (step_apart hstep hc)

/-- The gateway below has taken steps of its own. -/
theorem gateway_step {l : ServingLabel σ ι} (h : s.step server J W l = some (s', es')) :
    ∃ ls, (Gateway.system W).run ls s.gateway = some (s'.gateway, owned es') := by
  have hone : ∀ {l : Label σ (ι × ℕ)} {g gs}, s.gateway.step W l = some (g, gs) →
      (Gateway.system W).run [l] s.gateway = some (g, gs) := fun hstep => by
    have hrun := Runs.System.run_cons (M := Gateway.system W) hstep
      (show (Gateway.system W).run [] _ = some (_, []) from rfl)
    rwa [List.append_nil] at hrun
  cases step_cases h with
  | alone hd hp => exact ⟨[], by rw [owned_handler]; rfl⟩
  | call hd hp hrun =>
    exact ⟨_, by rw [owned_append, owned_handler, owned_owner, List.nil_append]; exact hrun⟩
  | timeout hd hstep | look hd hstep | below _ _ hstep => exact ⟨_, by rw [owned_owner]; exact hone hstep⟩
  | beat hd hstep hbeat | raised hd hstep hbeat | handBack hd hstep =>
    exact ⟨_, by rw [owned_append, owned_handler, owned_owner, List.append_nil]; exact hone hstep⟩

end Serving

/-! ## Batches -/

omit [DecidableEq ι] in
/-- The batches that a handler has handed in. -/
def batchesBy (log : List HandlerEvent) : List Work :=
  log.filterMap fun | .submitted b settings => some ⟨b, settings⟩ | _ => none

/-- The works of a connection in the queue. -/
def worksOf (c : ι) (gs : List (GatewayEvent (ι × ℕ))) : List Work :=
  (submissions gs).filterMap fun s => if s.connection.1 = c then some s.work else none

omit [PyText] [DecidableEq ι] in
@[simp] theorem batchesBy_append (log log' : List HandlerEvent) :
    batchesBy (log ++ log') = batchesBy log ++ batchesBy log' := List.filterMap_append ..

omit [PyText] in
@[simp] theorem worksOf_append (c : ι) (gs gs' : List (GatewayEvent (ι × ℕ))) :
    worksOf c (gs ++ gs') = worksOf c gs ++ worksOf c gs' := by
  rw [worksOf, submissions_append, List.filterMap_append]
  rfl

omit [PyText] [DecidableEq ι] in
theorem batchesBy_sent {log : List HandlerEvent} (h : AllSent log) : batchesBy log = [] := by
  refine List.filterMap_eq_nil_iff.2 fun e he => ?_
  obtain ⟨data, rfl⟩ := h e he
  rfl

omit [DecidableEq ι] in
theorem respond_alone {T : Turn} {requestId method : PyVal} {reply : Reply}
    (hnone : reply.submitted = none) (hsent : AllSent reply.writes.events) :
    batchesBy (respond J T requestId method reply).1 = [] := by
  obtain ⟨tail, htail, hevents⟩ := respond_events J T requestId method reply
  rw [hevents, hnone]
  exact batchesBy_sent fun e he => (List.mem_append.1 he).elim (hsent e) (htail e)

omit [DecidableEq ι] in
/-- A turn that does not call the owner hands in nothing. -/
theorem turn_alone {T : Turn} {session : Option Session}
    (h : pendingOn J session T.line T.send = none) :
    batchesBy (server.turn J T session).1 = [] := by
  unfold GatewayServer.turn
  split
  · rfl
  · rfl
  · rename_i b bs hline
    rw [hline] at h
    show batchesBy (.received (b :: bs) :: _) = []
    cases hreceive : J.receiveMessage "Request exceeded limits or lacked LF" (b :: bs) with
    | error e => exact respond_alone rfl fun _ he => nomatch he
    | ok request =>
      have hanswers := answer_answers server J T session (request.getD "id")
        (request.getD "method") ((request.get "params").getD (.dict []))
      refine respond_alone ?_ hanswers.sent
      rw [Option.eq_none_iff_forall_ne_some]
      rintro ⟨batch, settings⟩ hsubmitted
      obtain ⟨rfl, params, hrequest, hbatch⟩ := hanswers.submitted batch settings hsubmitted
      have hasked : requestOf J (b :: bs) = some (lit "execute", params) := by
        rw [requestOf, hreceive]
        exact hrequest
      have hpending : submittedOn J (some ⟨settings⟩) (b :: bs) = some (batch, settings) := by
        simp [submittedOn, submittedFor, hasked, hbatch, Except.toOption]
      simp [pendingOn, Except.toOption, hpending] at h

omit [PyText] in
theorem worksOf_foreign {c : ι} {gs : List (GatewayEvent (ι × ℕ))}
    (h : ∀ k, ∀ e ∈ gs, e.connection ≠ some (c, k)) : worksOf c gs = [] := by
  refine List.filterMap_eq_nil_iff.2 fun sub hsub => ?_
  obtain ⟨e, he, heq⟩ := List.mem_filterMap.1 hsub
  cases e with
  | submitted sub' =>
    cases heq
    exact if_neg fun hc => h sub.connection.2 _ he (congrArg some (Prod.ext hc rfl))
  | _ => cases heq

omit [DecidableEq ι] in
theorem PendingTurn.beat_sent {p p' : PendingTurn} {state : PyStr} {raised : Option PyExc}
    {sent : List HandlerEvent} (h : p.beat J state = (raised, sent, p')) : batchesBy sent = [] := by
  have hsent := sendHeartbeat_sent J p.turn (idOn J p.line) state
    (w := ⟨[], p.count, p.connected⟩) fun _ he => nomatch he
  rw [PendingTurn.beat] at h
  generalize sendHeartbeat J p.turn (idOn J p.line) state ⟨[], p.count, p.connected⟩ = w at h hsent
  cases h
  exact batchesBy_sent hsent

omit [DecidableEq ι] in
theorem PendingTurn.finish_sent (p : PendingTurn) (result : Except PyExc PyVal) :
    batchesBy (p.finish J result).1 = [] := respond_alone rfl fun _ he => nomatch he

/-- A step hands in the batch that it puts into the queue. -/
theorem Serving.Conducts.requested {l : ServingLabel σ ι} {c : ι} (h : s.Conducts server J es c)
    (hstep : s.step server J W l = some (s', es')) :
    worksOf c (owned es') = batchesBy (seenBy c es') := by
  by_cases hc : l.connection = some c
  · cases Serving.step_cases hstep with
    | alone hd hp =>
      obtain rfl := Option.some.inj hc
      rw [owned_handler, seenBy_handler, turn_alone hp]
      rfl
    | @call c' line send session p g gs hd hp hrun =>
      obtain rfl := Option.some.inj hc
      obtain ⟨-, rfl⟩ := Serving.call_run (h.fresh _ (Serving.made_between hd).le).1 hrun
      rw [owned_append, owned_handler, owned_owner, seenBy_append, seenBy_handler,
        seenBy_owner]
      simp [worksOf, submissions, batchesBy]
    | timeout hd hbelow =>
      obtain ⟨-, -, -, -, -, rfl⟩ := Gateway.timeout_events hbelow
      rfl
    | look hd hbelow =>
      obtain ⟨-, -, -, -, -, rfl⟩ := Gateway.look_events hbelow
      rfl
    | beat hd hbelow hbeat =>
      obtain rfl := Option.some.inj hc
      rw [owned_append, owned_handler, owned_owner, seenBy_append, seenBy_handler,
        seenBy_owner, List.nil_append, PendingTurn.beat_sent hbeat]
      rfl
    | raised hd hbelow hbeat =>
      obtain rfl := Option.some.inj hc
      rw [owned_append, owned_handler, owned_owner, seenBy_append, seenBy_handler,
        seenBy_owner, List.nil_append, batchesBy_append, PendingTurn.beat_sent hbeat,
        PendingTurn.finish_sent]
      rfl
    | handBack hd hbelow =>
      obtain rfl := Option.some.inj hc
      rw [owned_append, owned_handler, owned_owner, seenBy_append, seenBy_handler,
        seenBy_owner, List.nil_append, PendingTurn.finish_sent]
      rfl
    | below hl _ _ => cases hl.symm.trans hc
  · have hapart := Serving.step_apart hstep hc
    rw [hapart.handled, worksOf_foreign hapart.owned]
    rfl

/-! ## Runs -/

/-- How a running gateway looks to its clients: the batches in the queue are those that the
    handlers have handed in, and every handler has taken turns of `handle`, each with the heartbeats
    and the outcome of its own batch. -/
structure Refined (server : GatewayServer) (J : Codec) (s : Serving σ ι)
    (es : List (ServingEvent ι)) : Prop where
  serial : Serial (owned es)
  requested : ∀ c, worksOf c (owned es) = batchesBy (seenBy c es)
  turns : ∀ c, ∃ ts, Turns server J (fun k => CallOutcome J (owned es) (CameOf (owned es)) (c, k))
    (s.calls c) ts ∧ s.Stands server J es c ts (s.doing c)

/-- The invariant of a run from the start. -/
structure Serving.Kept (server : GatewayServer) (J : Codec) (W : World σ) (x : DirectExecutor σ)
    (s : Serving σ ι) (es : List (ServingEvent ι)) : Prop where
  run : ∃ ls, (Gateway.system W).run ls (.start x) = some (s.gateway, owned es)
  requested : ∀ c, worksOf c (owned es) = batchesBy (seenBy c es)
  conducts : ∀ c, s.Conducts server J es c

theorem Serving.kept_step {x : DirectExecutor σ} {l : ServingLabel σ ι}
    (h : s.Kept server J W x es) (hstep : s.step server J W l = some (s', es')) :
    s'.Kept server J W x (es ++ es') where
  run := by
    obtain ⟨ls, hrun⟩ := h.run
    obtain ⟨ls', hrun'⟩ := Serving.gateway_step hstep
    exact ⟨ls ++ ls', owned_append es es' ▸ Runs.System.run_append hrun hrun'⟩
  requested c := by
    rw [owned_append, worksOf_append, seenBy_append, batchesBy_append, h.requested c,
      (h.conducts c).requested hstep]
  conducts := Serving.conducts_step h.conducts hstep

theorem Serving.kept_start (x : DirectExecutor σ) :
    (Serving.start x : Serving σ ι).Kept server J W x [] where
  run := ⟨[], rfl⟩
  requested _ := rfl
  conducts _ := ⟨fun _ _ => ⟨rfl, rfl⟩, [], .start, rfl⟩

theorem Serving.kept_run {x : DirectExecutor σ} {ls : List (ServingLabel σ ι)}
    (h : (Serving.system server J W).run ls (.start x) = some (s, es)) :
    s.Kept server J W x es :=
  Runs.System.invariant (M := Serving.system server J W)
    (fun _ _ _ _ _ hkept hstep => Serving.kept_step hkept hstep) (Serving.kept_start x) h

/-- The gateway below is in a state that the worker has served. -/
theorem Serving.Kept.inv (hW : W.Raises) {x : DirectExecutor σ} (hx : x.closed = false)
    (h : s.Kept server J W x es) : ∃ finished, Inv s.gateway (owned es) finished := by
  obtain ⟨ls, hrun⟩ := h.run
  exact inv_run hW hx hrun

/-- A running gateway refines its connections: each client sees `handle`, on turns in which the
    owner has answered with what has come of the batch of this turn, whatever the interleaving of
    the handlers and the worker. -/
theorem serving_refines (hW : W.Raises) {x : DirectExecutor σ} (hx : x.closed = false)
    {ls : List (ServingLabel σ ι)}
    (h : (Serving.system server J W).run ls (.start x) = some (s, es)) :
    Refined server J s es := by
  have hkept := Serving.kept_run h
  obtain ⟨finished, hinv⟩ := hkept.inv hW hx
  have hserial := hinv.serial
  refine ⟨hserial, hkept.requested, fun c => ?_⟩
  obtain ⟨ts, hts, hstands⟩ := (hkept.conducts c).turns
  refine ⟨ts, hts.mono fun k _ T p hP => ?_, hstands⟩
  obtain ⟨hstates, n, hsubmitted, hout⟩ := hP
  refine ⟨hstates, n, hsubmitted, hout.imp (fun hback => ?_) id⟩
  -- works have numbers of their own, so the work handed back is the one handed in
  obtain ⟨sub, hsub, -, hid, raw, hcompleted, hraw⟩ := hserial.outcomes _ _ _ hback
  have hwork := (hinv.submission hsub).2
  rw [hid, (hinv.submission hsubmitted).2] at hwork
  rw [← hwork] at hcompleted
  exact ⟨raw, hcompleted, hraw⟩

/-! ## Where commands come from -/

/-- Each batch that a handler has handed in was asked for by the line before it, in the session
    that an earlier line has opened. -/
theorem Serving.Stands.admitted {c : ι} {ts : List Turn}
    (h : s.Stands server J es c ts (s.doing c)) : Admitted server J (seenBy c es) := by
  obtain ⟨hadmitted, hrunning⟩ := handle_admitted server J ts
  cases hd : s.doing c with
  | between next =>
    rw [hd] at h
    have hhandle : server.handle J ts = (seenBy c es, next) := h
    rwa [hhandle] at hadmitted
  | waiting p =>
    rw [hd] at h
    obtain ⟨log, beats, n, hlog, hevents, hpending, hbeats, -, -⟩ := h
    obtain ⟨-, -, -, -, -, -, request, params, hreceive, hmethod, hparams, hbatch⟩ :=
      pendingOn_spec hpending
    have hasked : Requests J p.line p.batch := by
      refine ⟨params, ?_, hbatch⟩
      rw [requestOf, show J.receiveMessage "Request exceeded limits or lacked LF" p.line = .ok request
        from hreceive]
      exact methodAndParams_eq_some.2 ⟨hmethod, hparams⟩
    have hsent : AllSent beats := by
      have hsent := sendHeartbeats_sent J p.turn (idOn J p.line)
        (statesTo (c, s.calls c) (owned es)) (w := noWrites) (List.forall_mem_nil _)
      rwa [hbeats] at hsent
    rw [hlog] at hadmitted hrunning
    rw [hevents]
    refine hadmitted.append server J (hrunning _ rfl) ?_ fun b settings hmem => ?_
    · refine List.filterMap_eq_nil_iff.2 fun e he => ?_
      rcases List.mem_cons.1 he with rfl | he
      · rfl
      · obtain ⟨data, rfl⟩ := hsent e he
        rfl
    · rcases List.mem_cons.1 hmem with heq | hmem
      · cases heq
        exact ⟨rfl, hasked⟩
      · obtain ⟨data, heq⟩ := hsent _ hmem
        cases heq

omit [PyText] [DecidableEq ι] in
/-- The executed commands of a batch are commands of the batch. -/
theorem Completed.mem {commands : List Command} {xs : List Execution}
    {outcome : Except PyExc BatchResult} (h : Completed commands xs outcome) {x : Execution}
    (hx : x ∈ xs) : x.command ∈ commands := by
  cases h with
  | returned hcommands _ => exact hcommands ▸ List.mem_map_of_mem hx
  | raised hcommands _ _ => exact hcommands ▸ List.mem_append_left _ (List.mem_map_of_mem hx)

/-- The instrument gets only what clients have asked for: a command that reaches the executor
    belongs to a batch that some client has requested in a line, after a handshake that the gateway
    has accepted on the same connection, and it is executed under the settings of that handshake. -/
theorem executed_requested (hW : W.Raises) {x : DirectExecutor σ} (hx : x.closed = false)
    {ls : List (ServingLabel σ ι)}
    (h : (Serving.system server J W).run ls (.start x) = some (s, es)) {e : Execution}
    (he : e ∈ executions (owned es)) : ∃ c pre batch post lines line,
      seenBy c es = pre ++ .submitted batch e.settings :: post ∧ e.command ∈ batch.commands ∧
      receivedLines pre = lines ++ [line] ∧ Requests J line batch ∧
      sessionOf server J lines = some ⟨e.settings⟩ := by
  have hkept := Serving.kept_run h
  obtain ⟨finished, hinv⟩ := hkept.inv hW hx
  have hserial := hinv.serial
  obtain ⟨sub, hsub, hmem⟩ := List.mem_flatMap.1 (hserial.blocks ▸ he)
  have hsettings : e.settings = sub.work.settings := (hserial.settings sub hsub).2 e hmem
  have hcommand : e.command ∈ sub.work.batch.commands := by
    rcases hserial.batches sub hsub with ⟨outcome, hcompleted⟩ | ⟨⟨hbegun, -⟩, -⟩
    · exact hcompleted.mem hmem
    · exact hbegun.subset (List.mem_map_of_mem hmem)
  -- the work of the submission is one that its handler has handed in
  have hwork : sub.work ∈ batchesBy (seenBy sub.connection.1 es) := by
    rw [← hkept.requested]
    exact List.mem_filterMap.2 ⟨sub, hsub, if_pos rfl⟩
  obtain ⟨event, hevent, heq⟩ := List.mem_filterMap.1 hwork
  cases event with
  | submitted batch settings =>
    rw [← Option.some.inj heq] at hsettings hcommand
    obtain ⟨pre, post, hlog⟩ := List.append_of_mem hevent
    obtain ⟨ts, -, hstands⟩ := (hkept.conducts sub.connection.1).turns
    obtain ⟨lines, line, hlines, hasked, hsession⟩ := hstands.admitted.submitted pre _ _ post hlog
    refine ⟨sub.connection.1, pre, batch, post, lines, line, ?_, hcommand, hlines, hasked, ?_⟩
    · rw [hsettings]
      exact hlog
    · rw [hsettings]
      exact hsession
  | _ => cases heq

end

/-! ## Two clients on the line -/

/-- Two clients introduce themselves and query a voltage; the second one asks while the batch of the
    first one is pending. -/
def twoVoltages : List (ServingLabel ℚ Bool) :=
  let line message := Except.ok (@lineOf PyText.blank message)
  let query := executeMessage (.int 2) readVoltage
  [.read true (line greeting) fun _ => none, .read false (line greeting) fun _ => none,
    .read true (line query) fun _ => none, .work, .timeout true, .look true,
    .read false (line query) fun _ => none, .timeout false, .look false] ++
    List.replicate 4 .work ++ [.heartbeat true, .heartbeat false] ++ List.replicate 7 .work ++
    [.handBack true, .handBack false]

theorem twoVoltages_run : ∃ s es, (@Serving.system _ _ PyText.blank _ openGateway
    (@Json.codec PyText.blank readsVoltage) tickingWorld).run twoVoltages
      (.start ⟨.default, none, false, 0⟩) = some (s, es) ∧
    (executions (owned es)).length = 2 ∧ ∀ c, (seenBy c es).length = 6 := by
  let _ : PyText := PyText.blank
  have hrun : ((Serving.system openGateway (Json.codec readsVoltage) tickingWorld).run twoVoltages
      (.start ⟨.default, none, false, 0⟩)).map (fun p => ((executions (owned p.2)).length,
        (seenBy true p.2).length, (seenBy false p.2).length)) = some (2, 6, 6) := by
    decide +kernel
  obtain ⟨⟨s, es⟩, hrun, hlengths⟩ := Option.map_eq_some_iff.1 hrun
  obtain ⟨hexecuted, hlengths⟩ := Prod.mk.inj hlengths
  obtain ⟨htrue, hfalse⟩ := Prod.mk.inj hlengths
  exact ⟨s, es, hrun, hexecuted, fun c => by cases c <;> assumption⟩

theorem serving_refines_two_clients : ∃ s es, @Refined _ _ PyText.blank _ openGateway
    (@Json.codec PyText.blank readsVoltage) (s : Serving ℚ Bool) es ∧
    (executions (owned es)).length = 2 ∧ ∀ c, (seenBy c es).length = 6 := by
  let _ : PyText := PyText.blank
  obtain ⟨s, es, hrun, hlengths⟩ := twoVoltages_run
  exact ⟨s, es, serving_refines tickingWorld_raises rfl hrun, hlengths⟩

theorem executed_requested_two_clients : ∃ (es : List (ServingEvent Bool)) (e : Execution),
    e ∈ executions (owned es) ∧ ∃ c pre batch post lines line,
      seenBy c es = pre ++ .submitted batch e.settings :: post ∧ e.command ∈ batch.commands ∧
      receivedLines pre = lines ++ [line] ∧
      @Requests PyText.blank (@Json.codec PyText.blank readsVoltage) line batch ∧
      @sessionOf PyText.blank openGateway (@Json.codec PyText.blank readsVoltage) lines =
        some ⟨e.settings⟩ := by
  let _ : PyText := PyText.blank
  obtain ⟨s, es, hrun, hexecuted, -⟩ := twoVoltages_run
  obtain ⟨e, he⟩ := List.exists_mem_of_length_pos (hexecuted.symm ▸ Nat.zero_lt_two)
  exact ⟨es, e, he, executed_requested tickingWorld_raises rfl hrun he⟩

end Spd3000
