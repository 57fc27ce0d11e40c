/-
  A client never takes another request's answer (`GatewayExecutor._request` and
  `close`, called by any threads).

  Requests are counted: the client gives the `k`-th request its next id, and the
  server stamps every line with the request it was produced for.  Abandoned
  requests leave such lines behind (`SharedClient.arriving`).  The id on a line
  is the one of its request (`Stamped`), and both checks of the client compare
  it with the id of the request that waits.
-/
import Spd3000.Responses
import Spd3000.Sending
import Spd3000.Lib.Locks
import Spd3000.Lib.Runs

namespace Spd3000

section
variable [PyText]

/-! ## One line -/

/-- What the loop of `_request` makes of a line. -/
inductive LineRead where
  | heartbeat (state : PyStr)
  | response (message : PyDict)
  | failed (e : PyExc)

def readLine (J : Codec) (requestId : PyVal) (line : Bytes) : LineRead :=
  match J.receiveMessage "Gateway response exceeded limits or lacked LF" line with
  | .error e => .failed e
  | .ok message => match parseHeartbeatNotification message requestId with
    | .error e => .failed e
    | .ok (some state) => .heartbeat state
    | .ok none => .response message

/-- How the loop goes on after a line, for what it makes of the lines after it. -/
def LineRead.andThen (lines : List (Except PyExc Bytes))
    (rest : Option (Except PyExc PyDict) × List (Except PyExc Bytes)) :
    LineRead → Option (Except PyExc PyDict) × List (Except PyExc Bytes)
  | heartbeat _ => rest
  | response message => (some (.ok message), lines)
  | failed e => (some (.error e), lines)

theorem receive_cons (J : Codec) (requestId : PyVal) {line : Bytes} (hline : line ≠ [])
    (lines : List (Except PyExc Bytes)) : receive J requestId (.ok line :: lines) =
      (readLine J requestId line).andThen lines (receive J requestId lines) := by
  obtain ⟨b, bs, rfl⟩ := List.exists_cons_of_ne_nil hline
  rw [receive, readLine]
  cases J.receiveMessage "Gateway response exceeded limits or lacked LF" (b :: bs) with
  | error e => rfl
  | ok message =>
    dsimp only
    cases parseHeartbeatNotification message requestId with
    | error e => rfl
    | ok state => cases state <;> rfl

/-- How `_request` ends with a response: it returns its result, raises its error, or refuses it. -/
inductive Verdict where
  | returned (result : PyVal)
  | raised (e : PyExc)
  | refused (e : PyExc)

def verdict (requestId : PyVal) (response : PyDict) : Verdict :=
  if !pyEq (response.getD "id") requestId then
    .refused (.msg .gatewayProtocolError "Gateway response ID did not match the request")
  else match response.get "error" with
    | some error =>
      let data := match error with
        | .dict error => PyDict.getD error "data"
        | _ => .none
      match reconstructException data with
      | .error e => .raised e
      | .ok e => .raised e
    | none => match response.get "result" with
      | some result => .returned result
      | none => .refused (.msg .gatewayProtocolError "Gateway response had no result or error")

def Verdict.result : Verdict → Except PyExc PyVal
  | returned result => .ok result
  | raised e => .error e
  | refused e => .error e

theorem verdict_result (requestId : PyVal) (response : PyDict) :
    (verdict requestId response).result = resultOf requestId response := by
  unfold verdict resultOf
  split_ifs
  · rfl
  · cases response.get "error" with
    | some error =>
      dsimp only
      generalize reconstructException _ = r
      cases r <;> rfl
    | none =>
      dsimp only
      cases response.get "result" <;> rfl

/-! ## Lines of the server -/

variable {loads : Bytes → Except PyExc PyVal} {data : Bytes} {i j : ℤ}

/-- A heartbeat counts as one for the request with its id only. -/
theorem readLine_heartbeat {state : PyStr} (hstate : state ∈ HEARTBEAT_STATES)
    (h : Carried loads (heartbeatMessage (.int i) state) data) :
    readLine (Json.codec loads) (.int j) (data ++ [LF]) =
      if i = j then .heartbeat state
      else .failed (.msg .gatewayProtocolError
        "Gateway heartbeat request ID did not match the request") := by
  rw [readLine, h.receive]
  dsimp only
  split_ifs with hij
  · subst hij
    rw [parseHeartbeatNotification_beat hstate]
  · have hmethod : (heartbeatMessage (.int i) state).getD "method" = .str "heartbeat" := rfl
    have hid : (heartbeatMessage (.int i) state).get "id" = none := rfl
    have hparams : (heartbeatMessage (.int i) state).getD "params" =
        .dict [("request_id", .int i), ("state", .str state)] := rfl
    have hrequest : PyDict.getD [("request_id", .int i), ("state", .str state)] "request_id" =
        .int i := rfl
    simp [parseHeartbeatNotification, hmethod, hid, hparams, hrequest, hij]

/-- A response ends the loop. -/
theorem readLine_response {requestId : PyVal} {result : Except PyExc PyVal}
    (h : Carried loads (response requestId result) data) :
    readLine (Json.codec loads) (.int j) (data ++ [LF]) =
      .response (response requestId result) := by
  have hparse : parseHeartbeatNotification (response requestId result) (.int j) = .ok none := by
    have hmethod : (response requestId result).getD "method" = .none := by
      cases result <;> rfl
    simp [parseHeartbeatNotification, hmethod]
  rw [readLine, h.receive]
  dsimp only
  rw [hparse]

/-- It is refused unless it carries the id of the request. -/
theorem verdict_refused {requestId : PyVal} (hne : pyEq requestId (.int j) = false)
    (result : Except PyExc PyVal) : ∃ e, verdict (.int j) (response requestId result) = .refused e := by
  have hid : (response requestId result).getD "id" = requestId := by
    cases result <;> rfl
  exact ⟨_, if_pos (by rw [hid, hne]; rfl)⟩

end

/-! ## The client, its threads and its server -/

/-- What becomes of the line of a request: whether the server receives it, and what `write`
    raises. -/
structure Sending where
  received : Bool
  raises : Option PyExc

/-- The request whose response a thread waits for: its number, its id, and whether it has been
    made by `close`. -/
structure Waiting (τ : Type) where
  thread : τ
  request : ℕ
  requestId : ℕ
  closing : Bool

/-- A client that threads share, and what is on its way to and from the server. -/
structure SharedClient (τ : Type) where
  lock : RLock τ
  nextId : ℕ
  closed : Bool
  waiting : Option (Waiting τ)
  /-- The number of requests so far. -/
  requests : ℕ
  /-- The requests that the server has received and not yet answered, with their ids. -/
  received : List (ℕ × ℕ)
  /-- The lines that have not been read, with the requests that they were produced for. -/
  arriving : List (Option ℕ × Bytes)

inductive ClientLabel (τ : Type) where
  | request (thread : τ) (method : PyStr) (params : PyDict) (sending : Sending)
  /-- A close, with what becomes of its request if it makes one. -/
  | close (thread : τ) (sending : Option Sending)
  | read (thread : τ)
  /-- An exception is raised while the thread waits. -/
  | abandon (thread : τ) (e : PyExc)
  /-- An exception is raised after the thread has read a line. -/
  | interrupt (thread : τ) (e : PyExc)
  | heartbeat (state : PyStr)
  | answer (result : Except PyExc PyVal)
  /-- The server reports a line that it could not decode. -/
  | complain (e : PyExc)

inductive ClientEvent where
  | served (message : PyDict)
  | beat (request : ℕ) (origin : Option ℕ) (state : PyStr)
  | ended (request : ℕ) (origin : Option ℕ) (verdict : Verdict)
  | failed (request : ℕ) (e : PyExc)
  | rejected (e : PyExc)

namespace SharedClient

variable {τ : Type} [DecidableEq τ]

/-- A client whose connection has just been established. -/
def start : SharedClient τ := ⟨.free, 1, false, none, 0, [], []⟩

/-- A request ends: `_request` releases the lock, and so does `close`, which suppresses any
    `Exception` of its request. -/
def finish (w : Waiting τ) (raised : Option PyExc) (s : SharedClient τ) :
    Option (SharedClient τ) :=
  (s.lock.release w.thread).bind fun lock =>
    if w.closing then (lock.release w.thread).map fun lock =>
      { s with lock := lock
               waiting := none
               closed := s.closed || raised.all (·.isinstance .exception) }
    else some { s with lock := lock, waiting := none }

/-- A request ends with an exception of its own. -/
def fail (w : Waiting τ) (e : PyExc) (s : SharedClient τ) :
    Option (SharedClient τ × List ClientEvent) :=
  (s.finish w (some e)).map (·, [.failed w.request e])

section
variable [PyText] (J : Codec)

/-- The method `_request`, from where it holds the lock up to its loop. -/
def begin (t : τ) (method : PyStr) (params : PyDict) (sending : Sending) (closing : Bool)
    (s : SharedClient τ) : Option (SharedClient τ × List ClientEvent) :=
  if s.closed then
    (s.lock.release t).map fun lock =>
      ({ s with lock := lock }, [.rejected (.msg .gatewayConnectionError "Gateway executor is closed")])
  else
    let w : Waiting τ := ⟨t, s.requests, s.nextId, closing⟩
    let s := { s with nextId := s.nextId + 1, requests := s.requests + 1 }
    match J.encodeMessage (requestMessage (.int w.requestId) method params) with
    | .error e => s.fail w (requestFailed e)
    | .ok _ =>
      let s := { s with
        received := s.received ++ if sending.received then [(w.request, w.requestId)] else [] }
      match sending.raises with
      | some e => s.fail w (requestFailed e)
      | none => some ({ s with waiting := some w }, [])

/-- A thread reads a line in the loop of `_request`. -/
def readNext (w : Waiting τ) (s : SharedClient τ) : Option (SharedClient τ × List ClientEvent) :=
  match s.arriving with
  | [] => none
  | (origin, line) :: arriving =>
    let s := { s with arriving := arriving }
    match readLine J (.int w.requestId) line with
    | .heartbeat state => some (s, [.beat w.request origin state])
    | .failed e => s.fail w (requestFailed e)
    | .response message =>
      let v := verdict (.int w.requestId) message
      let raised := match v with
        | .returned _ => none
        | .raised e | .refused e => some e
      (s.finish w raised).map (·, [.ended w.request origin v])

/-- The server sends a message. -/
def serve (origin : Option ℕ) (message : PyDict) (s : SharedClient τ) :
    Option (SharedClient τ × List ClientEvent) :=
  match J.encodeMessage message with
  | .error _ => none
  | .ok data => some ({ s with arriving := s.arriving ++ [(origin, data)] }, [.served message])

/-- One step of a thread or of the server.  A thread that cannot acquire the lock waits. -/
def step (l : ClientLabel τ) (s : SharedClient τ) : Option (SharedClient τ × List ClientEvent) :=
  match l with
  | .request t method params sending =>
    if s.waiting.isSome then none
    else (s.lock.acquire t).bind fun lock =>
      begin J t method params sending false { s with lock := lock }
  | .close t sending =>
    if s.waiting.isSome then none
    else (s.lock.acquire t).bind fun lock =>
      if s.closed then (lock.release t).map fun lock => ({ s with lock := lock }, [])
      else match sending with
        | none => (lock.release t).map fun lock => ({ s with lock := lock, closed := true }, [])
        | some sending => (lock.acquire t).bind fun lock =>
          begin J t "close" [] sending true { s with lock := lock }
  | .read t => s.waiting.bind fun w => if w.thread = t then s.readNext J w else none
  | .abandon t e => s.waiting.bind fun w =>
    if w.thread = t then s.fail w (requestFailed e) else none
  | .interrupt t e => s.waiting.bind fun w =>
    if w.thread = t then match s.arriving with
      | [] => none
      | _ :: arriving => { s with arriving := arriving }.fail w e
    else none
  | .heartbeat state => match s.received with
    | [] => none
    | (k, id) :: _ => match heartbeatNotification (.int id) state with
      | .error _ => none
      | .ok message => s.serve J (some k) message
  | .answer result => match s.received with
    | [] => none
    | (k, id) :: received =>
      { s with received := received }.serve J (some k) (response (.int id) result)
  | .complain e => s.serve J none (response .none (.error e))

end

end SharedClient

/-- The messages that the server has sent. -/
def servedMessages (es : List ClientEvent) : List PyDict :=
  es.filterMap fun | .served message => some message | _ => none

/-- A heartbeat, a result or a remote error is only taken from a line for the request itself. -/
structure OwnAnswers (es : List ClientEvent) : Prop where
  beats : ∀ k origin state, .beat k origin state ∈ es → origin = some k
  returned : ∀ k origin result, .ended k origin (.returned result) ∈ es → origin = some k
  raised : ∀ k origin e, .ended k origin (.raised e) ∈ es → origin = some k

section
variable [PyText] {loads : Bytes → Except PyExc PyVal}

omit [PyText] in
theorem OwnAnswers.append {es es' : List ClientEvent} (h : OwnAnswers es) (h' : OwnAnswers es') :
    OwnAnswers (es ++ es') := by
  refine ⟨fun k origin state hmem => ?_, fun k origin result hmem => ?_, fun k origin e hmem => ?_⟩
  · exact (List.mem_append.1 hmem).elim (h.beats k origin state) (h'.beats k origin state)
  · exact (List.mem_append.1 hmem).elim (h.returned k origin result) (h'.returned k origin result)
  · exact (List.mem_append.1 hmem).elim (h.raised k origin e) (h'.raised k origin e)

/-! ## The invariant -/

/-- A line carries a message with the id of the request that it was produced for, or no id. -/
inductive Stamped (loads : Bytes → Except PyExc PyVal) : Option ℕ → Bytes → Prop
  | heartbeat {k : ℕ} {state : PyStr} {data : Bytes} : state ∈ HEARTBEAT_STATES →
      Carried loads (heartbeatMessage (.int (k + 1 : ℕ)) state) data →
      Stamped loads (some k) (data ++ [LF])
  | answer {k : ℕ} {result : Except PyExc PyVal} {data : Bytes} :
      Carried loads (response (.int (k + 1 : ℕ)) result) data → Stamped loads (some k) (data ++ [LF])
  | complaint {e : PyExc} {data : Bytes} : Carried loads (response .none (.error e)) data →
      Stamped loads none (data ++ [LF])

/-- The ids are the numbers of the requests, from one on. -/
structure Correlated {τ : Type} (loads : Bytes → Except PyExc PyVal) (s : SharedClient τ) :
    Prop where
  nextId : s.nextId = s.requests + 1
  waiting : ∀ w, s.waiting = some w → w.requestId = w.request + 1
  received : ∀ r ∈ s.received, r.2 = r.1 + 1
  arriving : ∀ l ∈ s.arriving, Stamped loads l.1 l.2

/-- A line that the server sends for a message that the client reads back. -/
theorem carried_of_encode {message : PyDict} {line : Bytes}
    (hencode : (Json.codec loads).encodeMessage message = .ok line)
    (hloads : RoundTrips loads message) (hversion : message.getD "jsonrpc" = .str "2.0") :
    ∃ data, line = data ++ [LF] ∧ Carried loads message data := by
  obtain ⟨data, hdumps, hsize, rfl⟩ := Codec.encodeMessage_eq_ok.1 hencode
  exact ⟨data, rfl, hdumps, hloads data hdumps, hsize, hversion⟩

/-- A heartbeat on a line is taken by the request of the line only. -/
theorem Stamped.own_heartbeat {origin : Option ℕ} {line : Bytes} (h : Stamped loads origin line)
    {k : ℕ} {state : PyStr}
    (hread : readLine (Json.codec loads) (.int (k + 1 : ℕ)) line = .heartbeat state) :
    origin = some k := by
  cases h with
  | @heartbeat k' state' data hstate hcarried =>
    rw [readLine_heartbeat hstate hcarried] at hread
    split_ifs at hread with hid
    rw [Nat.cast_inj, Nat.add_right_cancel_iff] at hid
    rw [hid]
  | answer hcarried =>
    rw [readLine_response hcarried] at hread
    cases hread
  | complaint hcarried =>
    rw [readLine_response hcarried] at hread
    cases hread

/-- A response on a line is refused by every other request. -/
theorem Stamped.own_response {origin : Option ℕ} {line : Bytes} (h : Stamped loads origin line)
    {k : ℕ} {message : PyDict}
    (hread : readLine (Json.codec loads) (.int (k + 1 : ℕ)) line = .response message) :
    origin = some k ∨ ∃ e, verdict (.int (k + 1 : ℕ)) message = .refused e := by
  cases h with
  | heartbeat hstate hcarried =>
    rw [readLine_heartbeat hstate hcarried] at hread
    split_ifs at hread
  | @answer k' result data hcarried =>
    rw [readLine_response hcarried] at hread
    cases hread
    by_cases hk : k' = k
    · exact .inl (congrArg some hk)
    · refine .inr (verdict_refused ?_ result)
      rw [pyEq_int, beq_eq_false_iff_ne, ne_eq, Nat.cast_inj, Nat.add_right_cancel_iff]
      exact hk
  | complaint hcarried =>
    rw [readLine_response hcarried] at hread
    cases hread
    exact .inr (verdict_refused rfl _)

/-! ## Steps -/

variable {τ : Type} [DecidableEq τ] {s t : SharedClient τ} {es : List ClientEvent}

omit [PyText] in
theorem servedMessages_append (es es' : List ClientEvent) :
    servedMessages (es ++ es') = servedMessages es ++ servedMessages es' := List.filterMap_append ..

omit [PyText] in
/-- What the end of a request changes. -/
theorem finish_spec {w : Waiting τ} {raised : Option PyExc} (h : s.finish w raised = some t) :
    t.waiting = none ∧ t.nextId = s.nextId ∧ t.requests = s.requests ∧ t.received = s.received ∧
      t.arriving = s.arriving := by
  obtain ⟨lock, -, h⟩ := Option.bind_eq_some_iff.1 h
  split_ifs at h
  · obtain ⟨_, -, rfl⟩ := Option.map_eq_some_iff.1 h
    exact ⟨rfl, rfl, rfl, rfl, rfl⟩
  · cases h
    exact ⟨rfl, rfl, rfl, rfl, rfl⟩

theorem Correlated.finish (h : Correlated loads s) {w : Waiting τ} {raised : Option PyExc}
    (hfinish : s.finish w raised = some t) : Correlated loads t := by
  obtain ⟨hwaiting, hnextId, hrequests, hreceived, harriving⟩ := finish_spec hfinish
  refine ⟨by rw [hnextId, hrequests, h.nextId], fun w' hw' => ?_, hreceived ▸ h.received,
    harriving ▸ h.arriving⟩
  rw [hwaiting] at hw'
  cases hw'

theorem Correlated.fail (h : Correlated loads s) {w : Waiting τ} {e : PyExc}
    (hfail : s.fail w e = some (t, es)) : Correlated loads t ∧ es = [.failed w.request e] := by
  obtain ⟨t', hfinish, heq⟩ := Option.map_eq_some_iff.1 hfail
  cases heq
  exact ⟨h.finish hfinish, rfl⟩

/-- The next request gets the next id. -/
theorem Correlated.begin (h : Correlated loads s) {thread : τ} {method : PyStr} {params : PyDict}
    {sending : Sending} {closing : Bool}
    (hbegin : s.begin (Json.codec loads) thread method params sending closing = some (t, es)) :
    Correlated loads t ∧ OwnAnswers es ∧ servedMessages es = [] := by
  have hown : ∀ k e, OwnAnswers [.failed k e] := fun k e =>
    ⟨by simp, by simp, by simp⟩
  unfold SharedClient.begin at hbegin
  by_cases hclosed : s.closed
  · rw [if_pos hclosed] at hbegin
    obtain ⟨lock, -, heq⟩ := Option.map_eq_some_iff.1 hbegin
    cases heq
    exact ⟨⟨h.nextId, h.waiting, h.received, h.arriving⟩, ⟨by simp, by simp, by simp⟩, rfl⟩
  · rw [if_neg hclosed] at hbegin
    have hnext : Correlated loads { s with nextId := s.nextId + 1, requests := s.requests + 1 } :=
      ⟨congrArg (· + 1) h.nextId, h.waiting, h.received, h.arriving⟩
    dsimp only at hbegin
    split at hbegin
    · obtain ⟨ht, rfl⟩ := hnext.fail hbegin
      exact ⟨ht, hown _ _, rfl⟩
    · have hsent : Correlated loads { s with
          nextId := s.nextId + 1
          requests := s.requests + 1
          received := s.received ++ if sending.received then [(s.requests, s.nextId)] else [] } := by
        refine ⟨hnext.nextId, h.waiting, List.forall_mem_append.2 ⟨h.received, ?_⟩, h.arriving⟩
        split_ifs
        · exact List.forall_mem_singleton.2 h.nextId
        · exact fun r hr => absurd hr List.not_mem_nil
      cases hraises : sending.raises with
      | some e =>
        rw [hraises] at hbegin
        obtain ⟨ht, rfl⟩ := hsent.fail hbegin
        exact ⟨ht, hown _ _, rfl⟩
      | none =>
        rw [hraises] at hbegin
        cases hbegin
        refine ⟨⟨hsent.nextId, fun w hw => ?_, hsent.received, hsent.arriving⟩,
          ⟨by simp, by simp, by simp⟩, rfl⟩
        cases hw
        exact h.nextId

omit [DecidableEq τ] in
/-- The server stamps its messages. -/
theorem Correlated.serve (h : Correlated loads s) {origin : Option ℕ} {message : PyDict}
    (hserve : s.serve (Json.codec loads) origin message = some (t, es))
    (hloads : ∀ m ∈ servedMessages es, RoundTrips loads m)
    (hversion : message.getD "jsonrpc" = .str "2.0")
    (hstamp : ∀ data, Carried loads message data → Stamped loads origin (data ++ [LF])) :
    Correlated loads t ∧ OwnAnswers es := by
  unfold SharedClient.serve at hserve
  cases hencode : (Json.codec loads).encodeMessage message with
  | error e =>
    rw [hencode] at hserve
    cases hserve
  | ok line =>
    rw [hencode] at hserve
    cases hserve
    obtain ⟨data, rfl, hcarried⟩ :=
      carried_of_encode hencode (hloads message List.mem_cons_self) hversion
    refine ⟨⟨h.nextId, h.waiting, h.received, ?_⟩, ⟨by simp, by simp, by simp⟩⟩
    rw [List.forall_mem_append, List.forall_mem_singleton]
    exact ⟨h.arriving, hstamp data hcarried⟩

/-- A thread takes what it reads only if the line is for its own request. -/
theorem Correlated.readNext (h : Correlated loads s) {w : Waiting τ} (hw : s.waiting = some w)
    (hread : s.readNext (Json.codec loads) w = some (t, es)) :
    Correlated loads t ∧ OwnAnswers es := by
  unfold SharedClient.readNext at hread
  cases harriving : s.arriving with
  | nil =>
    rw [harriving] at hread
    cases hread
  | cons l arriving =>
    obtain ⟨origin, line⟩ := l
    have hlines := h.arriving
    rw [harriving] at hread
    rw [harriving, List.forall_mem_cons] at hlines
    obtain ⟨hstamped, hrest⟩ := hlines
    have hnext : Correlated loads { s with arriving := arriving } :=
      ⟨h.nextId, h.waiting, h.received, hrest⟩
    rw [h.waiting w hw] at hread
    dsimp only at hread
    cases hline : readLine (Json.codec loads) (.int (w.request + 1 : ℕ)) line with
    | heartbeat state =>
      rw [hline] at hread
      cases hread
      have hown := hstamped.own_heartbeat hline
      refine ⟨hnext, ⟨fun k origin' state' hmem => ?_, by simp, by simp⟩⟩
      cases List.mem_singleton.1 hmem
      exact hown
    | failed e =>
      rw [hline] at hread
      obtain ⟨ht, rfl⟩ := hnext.fail hread
      exact ⟨ht, ⟨by simp, by simp, by simp⟩⟩
    | response message =>
      have hown := hstamped.own_response hline
      rw [hline] at hread
      obtain ⟨t', hfinish, heq⟩ := Option.map_eq_some_iff.1 hread
      cases heq
      refine ⟨hnext.finish hfinish, ⟨by simp, fun k origin' result hmem => ?_,
        fun k origin' e hmem => ?_⟩⟩
      all_goals
        obtain ⟨rfl, rfl, hverdict⟩ := ClientEvent.ended.inj (List.mem_singleton.1 hmem)
        rcases hown with hown | ⟨e', he'⟩
        · exact hown
        · rw [he'] at hverdict
          cases hverdict

theorem Correlated.step (h : Correlated loads s) {l : ClientLabel τ}
    (hstep : s.step (Json.codec loads) l = some (t, es))
    (hloads : ∀ m ∈ servedMessages es, RoundTrips loads m) :
    Correlated loads t ∧ OwnAnswers es := by
  have hquiet : OwnAnswers [] := ⟨by simp, by simp, by simp⟩
  have hlock : ∀ lock, Correlated loads { s with lock := lock } := fun lock =>
    ⟨h.nextId, h.waiting, h.received, h.arriving⟩
  have hfailed : ∀ k e, OwnAnswers [.failed k e] := fun k e => ⟨by simp, by simp, by simp⟩
  cases l with
  | request thread method params sending =>
    rw [SharedClient.step] at hstep
    split_ifs at hstep
    obtain ⟨lock, -, hbegin⟩ := Option.bind_eq_some_iff.1 hstep
    obtain ⟨ht, hown, -⟩ := (hlock lock).begin hbegin
    exact ⟨ht, hown⟩
  | close thread sending =>
    rw [SharedClient.step] at hstep
    split_ifs at hstep with hwaiting hclosed
    · obtain ⟨lock, -, hclose⟩ := Option.bind_eq_some_iff.1 hstep
      obtain ⟨lock', -, heq⟩ := Option.map_eq_some_iff.1 hclose
      cases heq
      exact ⟨hlock lock', hquiet⟩
    · obtain ⟨lock, -, hclose⟩ := Option.bind_eq_some_iff.1 hstep
      cases sending with
      | none =>
        obtain ⟨lock', -, heq⟩ := Option.map_eq_some_iff.1 hclose
        cases heq
        exact ⟨⟨h.nextId, h.waiting, h.received, h.arriving⟩, hquiet⟩
      | some sending =>
        obtain ⟨lock', -, hbegin⟩ := Option.bind_eq_some_iff.1 hclose
        obtain ⟨ht, hown, -⟩ := (hlock lock').begin hbegin
        exact ⟨ht, hown⟩
  | read thread =>
    obtain ⟨w, hw, hread⟩ := Option.bind_eq_some_iff.1 hstep
    split_ifs at hread
    exact h.readNext hw hread
  | abandon thread e =>
    obtain ⟨w, hw, hfail⟩ := Option.bind_eq_some_iff.1 hstep
    split_ifs at hfail
    obtain ⟨ht, rfl⟩ := h.fail hfail
    exact ⟨ht, hfailed _ _⟩
  | interrupt thread e =>
    obtain ⟨w, hw, hfail⟩ := Option.bind_eq_some_iff.1 hstep
    split_ifs at hfail
    cases harriving : s.arriving with
    | nil => rw [harriving] at hfail; cases hfail
    | cons line arriving =>
      have hlines := h.arriving
      rw [harriving] at hfail
      rw [harriving, List.forall_mem_cons] at hlines
      have hnext : Correlated loads { s with arriving := arriving } :=
        ⟨h.nextId, h.waiting, h.received, hlines.2⟩
      obtain ⟨ht, rfl⟩ := hnext.fail hfail
      exact ⟨ht, hfailed _ _⟩
  | heartbeat state =>
    unfold SharedClient.step at hstep
    cases hreceived : s.received with
    | nil => rw [hreceived] at hstep; cases hstep
    | cons r received =>
      obtain ⟨k, id⟩ := r
      have hids := h.received
      rw [hreceived, List.forall_mem_cons] at hids
      obtain rfl : id = k + 1 := hids.1
      rw [hreceived] at hstep
      dsimp only at hstep
      by_cases hstate : state ∈ HEARTBEAT_STATES
      · rw [heartbeatNotification_eq hstate] at hstep
        exact h.serve hstep hloads rfl fun data hcarried => .heartbeat hstate hcarried
      · rw [heartbeatNotification, if_neg hstate] at hstep
        cases hstep
  | answer result =>
    unfold SharedClient.step at hstep
    cases hreceived : s.received with
    | nil => rw [hreceived] at hstep; cases hstep
    | cons r received =>
      obtain ⟨k, id⟩ := r
      have hids := h.received
      rw [hreceived, List.forall_mem_cons] at hids
      obtain ⟨rfl, hrest⟩ : id = k + 1 ∧ _ := hids
      rw [hreceived] at hstep
      have hanswered : Correlated loads { s with received := received } :=
        ⟨h.nextId, h.waiting, hrest, h.arriving⟩
      exact hanswered.serve hstep hloads (by cases result <;> rfl) fun data => .answer
  | complain e => exact h.serve hstep hloads rfl fun data => .complaint

/-! ## Runs -/

def clientSystem (τ : Type) [DecidableEq τ] (loads : Bytes → Except PyExc PyVal) :
    Runs.System (SharedClient τ) (ClientLabel τ) ClientEvent where
  step l s := s.step (Json.codec loads) l

/-- **A client never takes another request's answer.** -/
theorem answers_own {labels : List (ClientLabel τ)}
    (hrun : (clientSystem τ loads).run labels .start = some (s, es))
    (hloads : ∀ message ∈ servedMessages es, RoundTrips loads message) : OwnAnswers es := by
  have hinv : (∀ message ∈ servedMessages es, RoundTrips loads message) →
      Correlated loads s ∧ OwnAnswers es := by
    have hstart : (∀ message ∈ servedMessages [], RoundTrips loads message) →
        Correlated loads (.start : SharedClient τ) ∧ OwnAnswers [] := fun _ =>
      ⟨⟨rfl, by simp [SharedClient.start], by simp [SharedClient.start],
        by simp [SharedClient.start]⟩, ⟨by simp, by simp, by simp⟩⟩
    refine Runs.System.invariant (P := fun s es =>
      (∀ message ∈ servedMessages es, RoundTrips loads message) →
        Correlated loads s ∧ OwnAnswers es) ?_ hstart hrun
    intro s es l t es' ih hstep hloads
    rw [servedMessages_append, List.forall_mem_append] at hloads
    obtain ⟨hs, hown⟩ := ih hloads.1
    obtain ⟨ht, hown'⟩ := hs.step hstep hloads.2
    exact ⟨ht, hown.append hown'⟩
  exact (hinv hloads).2

/-! ## The lock -/

/-- The lock is held exactly while a thread waits: twice if the request belongs to `close`. -/
def Guarded (s : SharedClient τ) : Prop :=
  s.lock = s.waiting.elim .free fun w => .held w.thread (if w.closing then 1 else 0)

omit [PyText] in
theorem finish_free {w : Waiting τ} (h : s.lock = .held w.thread (if w.closing then 1 else 0))
    (raised : Option PyExc) : ∃ t, s.finish w raised = some t ∧ t.lock = .free := by
  unfold SharedClient.finish
  rw [h]
  by_cases hclosing : w.closing <;> simp [RLock.release, hclosing]

omit [PyText] in
theorem finish_guarded {w : Waiting τ} (h : s.lock = .held w.thread (if w.closing then 1 else 0))
    {raised : Option PyExc} (hfinish : s.finish w raised = some t) : Guarded t := by
  obtain ⟨t', ht', hfree⟩ := finish_free h raised
  obtain rfl : t' = t := Option.some.inj (ht'.symm.trans hfinish)
  rw [Guarded, (finish_spec hfinish).1]
  exact hfree

omit [PyText] in
theorem fail_guarded {w : Waiting τ} (h : s.lock = .held w.thread (if w.closing then 1 else 0))
    {e : PyExc} (hfail : s.fail w e = some (t, es)) : Guarded t := by
  obtain ⟨t', hfinish, heq⟩ := Option.map_eq_some_iff.1 hfail
  cases heq
  exact finish_guarded h hfinish

theorem begin_guarded {J : Codec} {thread : τ} {method : PyStr} {params : PyDict}
    {sending : Sending} {closing : Bool} (hwaiting : s.waiting = none)
    (hlock : s.lock = .held thread (if closing then 1 else 0))
    (hopen : closing = true → s.closed = false)
    (hbegin : s.begin J thread method params sending closing = some (t, es)) : Guarded t := by
  unfold SharedClient.begin at hbegin
  by_cases hclosed : s.closed
  · rw [if_pos hclosed] at hbegin
    have hplain : closing = false := by
      by_contra hclosing
      rw [Bool.not_eq_false] at hclosing
      rw [hopen hclosing] at hclosed
      cases hclosed
    obtain ⟨lock, hrelease, heq⟩ := Option.map_eq_some_iff.1 hbegin
    cases heq
    rw [hlock, hplain] at hrelease
    simp only [Bool.false_eq_true, if_false, RLock.release, if_true, Option.some.injEq] at hrelease
    rw [Guarded, ← hrelease]
    show RLock.free = Option.elim s.waiting _ _
    rw [hwaiting]
    rfl
  · rw [if_neg hclosed] at hbegin
    dsimp only at hbegin
    split at hbegin
    · exact fail_guarded hlock hbegin
    · cases hraises : sending.raises with
      | some e =>
        rw [hraises] at hbegin
        exact fail_guarded hlock hbegin
      | none =>
        rw [hraises] at hbegin
        cases hbegin
        exact hlock

omit [PyText] [DecidableEq τ] in
theorem Guarded.waiting (h : Guarded s) {w : Waiting τ} (hw : s.waiting = some w) :
    s.lock = .held w.thread (if w.closing then 1 else 0) := by
  rw [Guarded, hw] at h
  exact h

omit [DecidableEq τ] in
theorem serve_guarded {J : Codec} (h : Guarded s) {origin : Option ℕ} {message : PyDict}
    (hserve : s.serve J origin message = some (t, es)) : Guarded t := by
  unfold SharedClient.serve at hserve
  cases hencode : J.encodeMessage message with
  | error e =>
    rw [hencode] at hserve
    cases hserve
  | ok line =>
    rw [hencode] at hserve
    cases hserve
    exact h

theorem readNext_guarded {J : Codec} (h : Guarded s) {w : Waiting τ} (hw : s.waiting = some w)
    (hread : s.readNext J w = some (t, es)) : Guarded t := by
  have hlock : ∀ arriving, ({ s with arriving := arriving } : SharedClient τ).lock =
      .held w.thread (if w.closing then 1 else 0) := fun _ => h.waiting hw
  unfold SharedClient.readNext at hread
  split at hread
  · cases hread
  · dsimp only at hread
    split at hread
    · cases hread
      exact h
    · exact fail_guarded (hlock _) hread
    · obtain ⟨t', hfinish, heq⟩ := Option.map_eq_some_iff.1 hread
      cases heq
      exact finish_guarded (hlock _) hfinish

theorem step_guarded {J : Codec} (h : Guarded s) {l : ClientLabel τ}
    (hstep : s.step J l = some (t, es)) : Guarded t := by
  have hfree : ¬ s.waiting.isSome = true → s.waiting = none ∧ s.lock = .free := by
    intro hidle
    have hnone : s.waiting = none := by simpa using hidle
    rw [Guarded, hnone] at h
    exact ⟨hnone, h⟩
  cases l with
  | request thread method params sending =>
    rw [SharedClient.step] at hstep
    split_ifs at hstep with hidle
    obtain ⟨hnone, hlock⟩ := hfree hidle
    rw [hlock] at hstep
    simp only [RLock.acquire, Option.bind_some] at hstep
    exact begin_guarded (s := { s with lock := .held thread 0 }) hnone rfl
      (fun hclosing => by cases hclosing) hstep
  | close thread sending =>
    rw [SharedClient.step] at hstep
    split_ifs at hstep with hidle hclosed
    · obtain ⟨hnone, hlock⟩ := hfree hidle
      rw [hlock] at hstep
      simp only [RLock.acquire, RLock.release, Option.bind_some, if_true, Option.map_some,
        Option.some.injEq, Prod.mk.injEq] at hstep
      obtain ⟨rfl, -⟩ := hstep
      rw [Guarded, hnone]
      rfl
    · obtain ⟨hnone, hlock⟩ := hfree hidle
      rw [hlock] at hstep
      cases sending with
      | none =>
        simp only [RLock.acquire, RLock.release, Option.bind_some, if_true, Option.map_some,
          Option.some.injEq, Prod.mk.injEq] at hstep
        obtain ⟨rfl, -⟩ := hstep
        rw [Guarded, hnone]
        rfl
      | some sending =>
        simp only [RLock.acquire, Option.bind_some, if_true] at hstep
        exact begin_guarded (s := { s with lock := .held thread 1 }) hnone rfl
          (fun _ => by simpa using hclosed) hstep
  | read thread =>
    obtain ⟨w, hw, hread⟩ := Option.bind_eq_some_iff.1 hstep
    split_ifs at hread
    exact readNext_guarded h hw hread
  | abandon thread e =>
    obtain ⟨w, hw, hfail⟩ := Option.bind_eq_some_iff.1 hstep
    split_ifs at hfail
    exact fail_guarded (h.waiting hw) hfail
  | interrupt thread e =>
    obtain ⟨w, hw, hfail⟩ := Option.bind_eq_some_iff.1 hstep
    have hlock : ∀ arriving, ({ s with arriving := arriving } : SharedClient τ).lock =
        .held w.thread (if w.closing then 1 else 0) := fun _ => h.waiting hw
    split_ifs at hfail
    split at hfail
    · cases hfail
    · exact fail_guarded (hlock _) hfail
  | heartbeat state =>
    rw [SharedClient.step] at hstep
    split at hstep
    · cases hstep
    · split at hstep
      · cases hstep
      · exact serve_guarded h hstep
  | answer result =>
    have hanswered : ∀ received, Guarded { s with received := received } := fun _ => h
    rw [SharedClient.step] at hstep
    split at hstep
    · cases hstep
    · exact serve_guarded (hanswered _) hstep
  | complain e => exact serve_guarded h hstep

/-- The lock is free unless a thread waits, and then again once its request has been abandoned. -/
theorem lock_released {labels : List (ClientLabel τ)}
    (hrun : (clientSystem τ loads).run labels .start = some (s, es)) :
    (s.waiting = none → s.lock = .free) ∧ ∀ w, s.waiting = some w → ∀ e, ∃ t es',
      s.step (Json.codec loads) (.abandon w.thread e) = some (t, es') ∧ t.lock = .free := by
  have hstart : Guarded (.start : SharedClient τ) := rfl
  have hguarded : Guarded s := @Runs.System.invariant _ _ _ (clientSystem τ loads)
    (fun s _ => Guarded s) (fun s es l t es' h hstep => step_guarded h hstep) labels .start s [] es
    hstart hrun
  refine ⟨fun hnone => ?_, fun w hw e => ?_⟩
  · rw [Guarded, hnone] at hguarded
    exact hguarded
  · obtain ⟨t, hfinish, hfree⟩ := finish_free (hguarded.waiting hw) (some (requestFailed e))
    refine ⟨t, [.failed w.request (requestFailed e)], ?_, hfree⟩
    rw [SharedClient.step, hw, Option.bind_some, if_pos rfl, SharedClient.fail, hfinish]
    rfl

/-! ## The handler as the server -/

/-- The data sent are heartbeats and responses with the given id. -/
def Speaks (J : Codec) (requestId : PyVal) (events : List HandlerEvent) : Prop :=
  ∀ data, .sent data ∈ events → ∃ message, J.encodeMessage message = .ok data ∧
    ((∃ state ∈ HEARTBEAT_STATES, message = heartbeatMessage requestId state) ∨
      ∃ result, message = response requestId result)

theorem sendHeartbeat_speaks {J : Codec} (T : Turn) {requestId : PyVal} (state : PyStr)
    {w : Writes} (h : Speaks J requestId w.events) :
    Speaks J requestId (sendHeartbeat J T requestId state w).2.events := by
  unfold sendHeartbeat
  split_ifs
  · exact h
  · split
    · split_ifs <;> exact h
    · rename_i data hdata
      split
      · split_ifs <;> exact h
      · intro data' hmem
        rcases List.mem_append.1 hmem with hmem | hmem
        · exact h data' hmem
        · cases List.mem_singleton.1 hmem
          by_cases hstate : state ∈ HEARTBEAT_STATES
          · rw [heartbeatNotification_eq hstate] at hdata
            exact ⟨_, hdata, .inl ⟨state, hstate, rfl⟩⟩
          · rw [heartbeatNotification, if_neg hstate] at hdata
            cases hdata

theorem sendHeartbeats_speaks {J : Codec} (T : Turn) {requestId : PyVal} (states : List PyStr) :
    ∀ {w : Writes}, Speaks J requestId w.events →
      Speaks J requestId (sendHeartbeats J T requestId states w).2.events := by
  induction states with
  | nil => exact fun h => h
  | cons state states ih =>
    intro w h
    have hone := sendHeartbeat_speaks T state h
    unfold sendHeartbeats
    split <;> rename_i hsent <;> rw [hsent] at hone
    · exact hone
    · exact ih hone

theorem answer_speaks (g : GatewayServer) {J : Codec} (T : Turn) (session : Option Session)
    (requestId method params : PyVal) :
    Speaks J requestId (g.answer J T session requestId method params).writes.events := by
  have hnothing : Speaks J requestId noWrites.events := fun data h => absurd h List.not_mem_nil
  unfold GatewayServer.answer
  split
  · split
    · split_ifs
      · exact hnothing
      · split <;> exact hnothing
    · split_ifs
      · unfold executeRequest
        split
        · exact hnothing
        · exact sendHeartbeats_speaks T _ hnothing
      · exact hnothing
      · exact hnothing
      · exact hnothing
  · exact hnothing

theorem respond_speaks {J : Codec} (T : Turn) {requestId : PyVal} (method : PyVal) {r : Reply}
    (h : Speaks J requestId r.writes.events) :
    Speaks J requestId (respond J T requestId method r).1 := by
  have hbefore : Speaks J requestId ((r.submitted.map fun b =>
      HandlerEvent.submitted b.1 b.2).toList ++ r.writes.events) := by
    intro data hmem
    rcases List.mem_append.1 hmem with hmem | hmem
    · rw [Option.mem_toList, Option.map_eq_some_iff] at hmem
      obtain ⟨_, -, heq⟩ := hmem
      cases heq
    · exact h data hmem
  unfold respond
  dsimp only
  split
  · exact hbefore
  · split
    · exact hbefore
    · rename_i data hdata
      split
      · exact hbefore
      · intro data' hmem
        rcases List.mem_append.1 hmem with hmem | hmem
        · exact hbefore data' hmem
        · cases List.mem_singleton.1 hmem
          exact ⟨_, hdata, .inr ⟨r.result, rfl⟩⟩

/-- A handler stamps what it sends with the id on the line that it has read. -/
theorem turn_speaks (g : GatewayServer) {J : Codec} {T : Turn} {line : Bytes}
    (hline : T.line = .ok line) (hne : line ≠ []) (session : Option Session) :
    Speaks J (idOn J line) (g.turn J T session).1 := by
  have hserved : Speaks J (idOn J line)
      (g.serveInterpreted J T session (J.receiveMessage malformedLine line)).1 := by
    have hsimple : ∀ e, Speaks J .none (Reply.simple session (.error e)).writes.events :=
      fun _ data h => absurd h List.not_mem_nil
    unfold GatewayServer.serveInterpreted idOn
    cases J.receiveMessage malformedLine line with
    | error e => exact respond_speaks T _ (hsimple e)
    | ok request => exact respond_speaks T _ (answer_speaks g T session _ _ _)
  rw [turn_line g J hline hne]
  intro data hmem
  rcases List.mem_cons.1 hmem with hmem | hmem
  · cases hmem
  · exact hserved data hmem

/-- The handler sends lines as the server of `SharedClient` does: on the line of the `k`-th request,
    lines for that request. -/
theorem turn_stamped (g : GatewayServer) {T : Turn} {k : ℕ} {method : PyStr} {params : PyDict}
    {data : Bytes} (hrequest : Carried loads (requestMessage (.int (k + 1 : ℕ)) method params) data)
    (hline : T.line = .ok (data ++ [LF])) (session : Option Session) (line : Bytes)
    (hsent : .sent line ∈ (g.turn (Json.codec loads) T session).1) :
    ∃ message, (Json.codec loads).encodeMessage message = .ok line ∧
      (RoundTrips loads message → Stamped loads (some k) line) := by
  have hid : idOn (Json.codec loads) (data ++ [LF]) = .int (k + 1 : ℕ) := by
    rw [idOn, hrequest.receive]
    rfl
  obtain ⟨message, hencode, hmessage⟩ :=
    turn_speaks g hline (List.concat_ne_nil LF data) session line hsent
  rw [hid] at hmessage
  refine ⟨message, hencode, fun hloads => ?_⟩
  rcases hmessage with ⟨state, hstate, rfl⟩ | ⟨result, rfl⟩
  · obtain ⟨body, rfl, hcarried⟩ := carried_of_encode hencode hloads rfl
    exact .heartbeat hstate hcarried
  · obtain ⟨body, rfl, hcarried⟩ := carried_of_encode hencode hloads (by cases result <;> rfl)
    exact .answer hcarried

end

/-! ## Two threads, one abandoned request -/

section
variable [PyText]

/-- One thread abandons its request after a heartbeat; its answer arrives while another thread
    waits. -/
def abandonedRun : List (ClientLabel Bool) :=
  [.request true "execute" [] ⟨true, none⟩, .heartbeat "executing", .read true,
    .abandon true (.msg .baseException "interrupted"), .answer (.ok (.dict [("ok", .bool true)])),
    .request false "ping" [] ⟨true, none⟩, .read false]

/-- The heartbeat and the answer to the abandoned request. -/
def staleBeat : PyDict := heartbeatMessage (.int 1) "executing"

def staleAnswer : PyDict := response (.int 1) (.ok (.dict [("ok", .bool true)]))

def abandonedEvents : List ClientEvent :=
  [.served staleBeat, .beat 0 (some 0) "executing", .failed 0 (.msg .baseException "interrupted"),
    .served staleAnswer, .ended 1 (some 0) (.refused (.msg .gatewayProtocolError
      "Gateway response ID did not match the request"))]

theorem abandonedRun_events {loads : Bytes → Except PyExc PyVal} {beat answer first second : Bytes}
    (hbeat : Carried loads staleBeat beat) (hanswer : Carried loads staleAnswer answer)
    (hfirst : (Json.codec loads).encodeMessage (requestMessage (.int 1) "execute" []) = .ok first)
    (hsecond : (Json.codec loads).encodeMessage (requestMessage (.int 2) "ping" []) = .ok second) :
    (clientSystem Bool loads).run abandonedRun .start =
      some (⟨.free, 3, false, none, 2, [(1, 2)], []⟩, abandonedEvents) := by
  have hsend := hbeat.encode
  have hreply := hanswer.encode
  have hstate : heartbeatNotification (.int 1) "executing" = .ok staleBeat :=
    heartbeatNotification_eq (by decide) _
  have hresponse : response (.int 1) (.ok (.dict [("ok", .bool true)])) = staleAnswer := rfl
  have hread : readLine (Json.codec loads) (.int 1) (beat ++ [LF]) = .heartbeat "executing" :=
    readLine_heartbeat (by decide) hbeat
  have hinterrupted : requestFailed (.msg .baseException "interrupted") =
      .msg .baseException "interrupted" := rfl
  have hstale : readLine (Json.codec loads) (.int 2) (answer ++ [LF]) = .response staleAnswer :=
    readLine_response hanswer
  have hverdict : verdict (.int 2) staleAnswer = .refused (.msg .gatewayProtocolError
      "Gateway response ID did not match the request") := rfl
  simp [clientSystem, Runs.System.run, abandonedRun, abandonedEvents, SharedClient.step,
    SharedClient.start, SharedClient.begin, SharedClient.serve, SharedClient.readNext,
    SharedClient.fail, SharedClient.finish, RLock.acquire, RLock.release, hfirst, hsecond, hsend,
    hreply, hstate, hresponse, hread, hinterrupted, hstale, hverdict]

end

/-- The waiting thread refuses the answer to the abandoned request. -/
theorem answers_own_abandoned :
    @Runs.System.run _ _ _ (@clientSystem PyText.blank Bool _
        (@readBack PyText.blank [staleBeat, @staleAnswer PyText.blank])) abandonedRun .start =
      some (⟨.free, 3, false, none, 2, [(1, 2)], []⟩, @abandonedEvents PyText.blank) ∧
    OwnAnswers (@abandonedEvents PyText.blank) := by
  let _ : PyText := PyText.blank
  have hloads : ∀ m ∈ [staleBeat, staleAnswer], RoundTrips (readBack [staleBeat, staleAnswer]) m :=
    readBack_roundTrips (by decide +kernel)
  have hbeatFits : Fits staleBeat := ⟨_, rfl, by decide +kernel⟩
  have hanswerFits : Fits staleAnswer := ⟨_, rfl, by decide +kernel⟩
  obtain ⟨beat, hbeat⟩ := hbeatFits.carried (hloads staleBeat (by simp)) rfl
  obtain ⟨answer, hanswer⟩ := hanswerFits.carried (hloads staleAnswer (by simp)) rfl
  have hfirstFits : Fits (requestMessage (.int 1) "execute" []) := ⟨_, rfl, by decide +kernel⟩
  have hsecondFits : Fits (requestMessage (.int 2) "ping" []) := ⟨_, rfl, by decide +kernel⟩
  obtain ⟨first, hfirst⟩ := (encodeMessage_fits _).2 hfirstFits
  obtain ⟨second, hsecond⟩ := (encodeMessage_fits _).2 hsecondFits
  have hrun := abandonedRun_events hbeat hanswer hfirst hsecond
  exact ⟨hrun, answers_own hrun hloads⟩

end Spd3000
