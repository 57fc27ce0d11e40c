/-
  No instrument access without a handshake: what any sequence of turns of the
  connection handlers can do.

  The session of a connection is the first accepted handshake among the lines it
  has received (`sessionOf`).  One turn keeps this (`turn_spec`), submits a batch
  only under that session, and goes on only if it did not answer a close request;
  `Admitted` carries this over a run.  In a gateway with many connections a turn
  of one leaves the others alone, so each runs as if on its own (`serve_eq`).
-/
import Spd3000.Server

namespace Spd3000

variable [PyText]

/-! ## What a log shows -/

/-- The lines received. -/
def receivedLines (log : List HandlerEvent) : List Bytes :=
  log.filterMap fun | .received line => some line | _ => none

omit [PyText] in
@[simp] theorem receivedLines_append (log log' : List HandlerEvent) :
    receivedLines (log ++ log') = receivedLines log ++ receivedLines log' := List.filterMap_append ..

section
variable (g : GatewayServer) (J : Codec)

/-- The method and the params of a request, if they are well formed. -/
def methodAndParams (method params : PyVal) : Option (PyStr × PyDict) :=
  match method, params with
  | .str method, .dict params => some (method, params)
  | _, _ => none

/-- The method and the params that a line asks for. -/
def requestOf (line : Bytes) : Option (PyStr × PyDict) :=
  match J.receiveMessage "Request exceeded limits or lacked LF" line with
  | .ok request =>
    methodAndParams (request.getD "method") ((request.get "params").getD (.dict []))
  | .error _ => none

/-- The session of a line that is an acceptable handshake. -/
def accepted (line : Bytes) : Option Session :=
  (requestOf J line).bind fun r =>
    if r.1 = lit "handshake" then (g.handshake r.2).toOption else none

/-- The session that the first accepted handshake establishes. -/
def sessionOf (lines : List Bytes) : Option Session := lines.findSome? (accepted g J)

theorem sessionOf_snoc (lines : List Bytes) (line : Bytes) :
    sessionOf g J (lines ++ [line]) = (sessionOf g J lines).or (accepted g J line) := by
  simp [sessionOf, List.findSome?_append]

/-- The line asks for the execution of the batch. -/
def Requests (line : Bytes) (batch : CommandBatch) : Prop :=
  ∃ params, requestOf J line = some (lit "execute", params) ∧ requestedBatch params = .ok batch

def Closes (line : Bytes) : Prop := ∃ params, requestOf J line = some (lit "close", params)

/-! ## One turn -/

/-- Heartbeats and responses are data sent. -/
def AllSent (events : List HandlerEvent) : Prop := ∀ e ∈ events, ∃ data, e = .sent data

theorem sendHeartbeat_sent (T : Turn) (id : PyVal) (state : PyStr) {w : Writes}
    (h : AllSent w.events) : AllSent (sendHeartbeat J T id state w).2.events := by
  unfold sendHeartbeat
  split_ifs
  · exact h
  · split
    · split_ifs <;> exact h
    · split
      · split_ifs <;> exact h
      · intro e he
        rcases List.mem_append.1 he with he | he
        · exact h e he
        · exact ⟨_, List.mem_singleton.1 he⟩

theorem sendHeartbeats_sent (T : Turn) (id : PyVal) (states : List PyStr) :
    ∀ {w : Writes}, AllSent w.events → AllSent (sendHeartbeats J T id states w).2.events := by
  induction states with
  | nil => exact fun h => h
  | cons state states ih =>
    intro w h
    have h1 := sendHeartbeat_sent J T id state h
    unfold sendHeartbeats
    split <;> rename_i hr <;> rw [hr] at h1
    · exact h1
    · exact ih h1

/-- What a reply contains, for the request it answers. -/
structure Answers (session : Option Session) (request : Option (PyStr × PyDict)) (r : Reply) :
    Prop where
  sent : AllSent r.writes.events
  carried : r.session = session.or (request.bind fun q =>
    if q.1 = lit "handshake" then (g.handshake q.2).toOption else none)
  submitted : ∀ b st, r.submitted = some (b, st) → session = some ⟨st⟩ ∧
    ∃ params, request = some (lit "execute", params) ∧ requestedBatch params = .ok b
  close : r.closeAfter = false → ¬ (session.isSome ∧ ∃ params, request = some (lit "close", params))

theorem answers_simple {session session' : Option Session} {request : Option (PyStr × PyDict)}
    {result : Except PyExc PyVal}
    (h : session' = session.or (request.bind fun q =>
      if q.1 = lit "handshake" then (g.handshake q.2).toOption else none))
    (hclose : ¬ (session.isSome ∧ ∃ params, request = some (lit "close", params))) :
    Answers g session request (.simple session' result) :=
  ⟨fun _ h => by simp [Reply.simple, noWrites] at h, h, fun _ _ h => (by cases h), fun _ => hclose⟩

theorem executeRequest_answers (T : Turn) (id : PyVal) (params : PyDict) (s : Session) :
    Answers g (some s) (some (lit "execute", params)) (executeRequest J T id params s) := by
  have hclose : ¬ ((some s).isSome ∧ ∃ p, some (lit "execute", params) = some (lit "close", p)) := by
    simp
  unfold executeRequest
  split
  · exact answers_simple g (by simp) hclose
  · rename_i batch hb
    refine ⟨sendHeartbeats_sent J T id _ fun _ h => by simp [noWrites] at h, by simp,
      fun b st h => ?_, fun _ => hclose⟩
    cases h
    exact ⟨rfl, params, rfl, hb⟩

theorem answer_answers (T : Turn) (session : Option Session) (id method params : PyVal) :
    Answers g session (methodAndParams method params) (g.answer J T session id method params) := by
  unfold GatewayServer.answer
  split
  · rename_i method params
    change Answers g session (some (method, params)) _
    cases session with
    | none =>
      have hclose : ∀ q : Option (PyStr × PyDict), ¬ ((none : Option Session).isSome ∧
          ∃ p, q = some (lit "close", p)) := by simp
      dsimp only
      split_ifs with hm
      · exact answers_simple g (by simp [hm]) (hclose _)
      · rw [not_not] at hm
        cases hh : g.handshake params with
        | error e => exact answers_simple g (by simp [hm, hh, Except.toOption]) (hclose _)
        | ok s => exact answers_simple g (by simp [hm, hh, Except.toOption]) (hclose _)
    | some s =>
      dsimp only
      split_ifs with h1 h2 h3
      · rw [h1]; exact executeRequest_answers g J T id params s
      · exact answers_simple g (by simp) (by simp [h2])
      · exact ⟨fun _ h => by simp [Reply.simple, noWrites] at h, by simp [Reply.simple],
          fun _ _ h => (by cases h), fun h => by cases h⟩
      · exact answers_simple g (by simp) (by simp [h3])
  · rename_i h
    have hnone : methodAndParams method params = none := by
      unfold methodAndParams
      split
      · exact absurd rfl (h _ _ rfl)
      · rfl
    exact answers_simple g (by simp [hnone]) (by simp [hnone])

/-- What one turn of a handler with the given session does. -/
inductive TurnDone (session : Option Session) : List HandlerEvent → Next → Prop
  | ended {next : Next} : (∀ s, next ≠ .goOn s) → TurnDone session [] next
  | line {line : Bytes} {rest : List HandlerEvent} {next : Next} : receivedLines rest = [] →
      (∀ b st, .submitted b st ∈ rest → session = some ⟨st⟩ ∧ Requests J line b) →
      (∀ s, next = .goOn s → s = session.or (accepted g J line) ∧
        ¬ (session.isSome ∧ Closes J line)) →
      TurnDone session (.received line :: rest) next

theorem respond_goOn {T : Turn} {id method : PyVal} {reply : Reply} {s : Option Session}
    (h : (respond J T id method reply).2 = .goOn s) :
    s = reply.session ∧ reply.closeAfter = false := by
  unfold respond at h
  dsimp only at h
  split at h
  · cases h
  · split at h
    · dsimp only at h; split_ifs at h
    · split at h
      · dsimp only at h; split_ifs at h
      · dsimp only at h
        split_ifs at h with hc
        cases h
        exact ⟨rfl, by simpa using hc⟩

theorem respond_events (T : Turn) (id method : PyVal) (reply : Reply) :
    ∃ tail, AllSent tail ∧ (respond J T id method reply).1 =
      (reply.submitted.map fun s => HandlerEvent.submitted s.1 s.2).toList ++
        reply.writes.events ++ tail := by
  have hnil : AllSent [] := by simp [AllSent]
  unfold respond
  dsimp only
  split
  · exact ⟨[], hnil, (List.append_nil _).symm⟩
  · split
    · exact ⟨[], hnil, (List.append_nil _).symm⟩
    · split
      · exact ⟨[], hnil, (List.append_nil _).symm⟩
      · rename_i data _ _ _
        exact ⟨[.sent data], by simp [AllSent], rfl⟩

theorem respond_done {T : Turn} {line : Bytes} {session : Option Session} {id method : PyVal}
    {reply : Reply} (h : Answers g session (requestOf J line) reply) :
    TurnDone g J session (.received line :: (respond J T id method reply).1)
      (respond J T id method reply).2 := by
  obtain ⟨tail, htail, hev⟩ := respond_events J T id method reply
  have hsent : ∀ e ∈ reply.writes.events ++ tail, ∃ data, e = .sent data := fun e he =>
    (List.mem_append.1 he).elim (h.sent e) (htail e)
  rw [hev, List.append_assoc]
  refine .line ?_ (fun b st hm => ?_) fun s hs => ?_
  · refine List.filterMap_eq_nil_iff.2 fun e he => ?_
    rcases List.mem_append.1 he with he | he
    · rw [Option.mem_toList, Option.map_eq_some_iff] at he
      obtain ⟨_, -, rfl⟩ := he
      rfl
    · obtain ⟨_, rfl⟩ := hsent e he
      rfl
  · rcases List.mem_append.1 hm with hm | hm
    · rw [Option.mem_toList, Option.map_eq_some_iff] at hm
      obtain ⟨_, hsub, heq⟩ := hm
      cases heq
      exact h.submitted _ _ hsub
    · obtain ⟨_, heq⟩ := hsent _ hm
      cases heq
  · obtain ⟨rfl, hc⟩ := respond_goOn J hs
    exact ⟨h.carried, h.close hc⟩

theorem turn_done (T : Turn) (session : Option Session) :
    TurnDone g J session (g.turn J T session).1 (g.turn J T session).2 := by
  unfold GatewayServer.turn
  split
  · exact .ended fun s => by split_ifs <;> simp
  · exact .ended fun s => by simp
  · rename_i b bs _
    cases hr : J.receiveMessage "Request exceeded limits or lacked LF" (b :: bs) with
    | error e =>
      refine respond_done g J ?_
      rw [requestOf, hr]
      exact answers_simple g (by simp) (by simp)
    | ok request =>
      refine respond_done g J ?_
      rw [requestOf, hr]
      exact answer_answers g J T session _ _ _

/-! ## Runs -/

/-- What the log of a connection shows: each batch was asked for by the last line received,
    under the session that an earlier line established; and no line follows a close request
    in that session. -/
structure Admitted (log : List HandlerEvent) : Prop where
  submitted : ∀ pre b st post, log = pre ++ .submitted b st :: post →
    ∃ lines line, receivedLines pre = lines ++ [line] ∧ Requests J line b ∧
      sessionOf g J lines = some ⟨st⟩
  closed : ∀ pre line post, log = pre ++ .received line :: post → Closes J line →
    (sessionOf g J (receivedLines pre)).isSome → receivedLines post = []

/-- A handler whose loop is running holds the session of the lines it has received, none of
    which closed it. -/
structure Running (log : List HandlerEvent) (session : Option Session) : Prop where
  session : session = sessionOf g J (receivedLines log)
  closed : ∀ pre line post, log = pre ++ .received line :: post → Closes J line →
    (sessionOf g J (receivedLines pre)).isSome = false

omit [PyText] in
/-- The events of a turn that follow a log. -/
theorem append_line_eq {log rest pre post : List HandlerEvent} {line : Bytes} {e : HandlerEvent}
    (h : log ++ .received line :: rest = pre ++ e :: post) :
    (∃ mid, log = pre ++ e :: mid ∧ post = mid ++ .received line :: rest) ∨
      (pre = log ∧ e = .received line ∧ post = rest) ∨
      ∃ mid, pre = log ++ .received line :: mid ∧ rest = mid ++ e :: post := by
  rcases List.append_eq_append_iff.1 h with ⟨mid, rfl, hm⟩ | ⟨mid, rfl, hm⟩
  · cases mid with
    | nil =>
      cases hm
      exact .inr (.inl ⟨List.append_nil _, rfl, rfl⟩)
    | cons e' mid =>
      cases hm
      exact .inr (.inr ⟨mid, rfl, rfl⟩)
  · cases mid with
    | nil =>
      cases hm
      exact .inr (.inl ⟨(List.append_nil _).symm, rfl, rfl⟩)
    | cons e' mid =>
      cases hm
      exact .inl ⟨mid, rfl, rfl⟩

omit [PyText] in
theorem receivedLines_part {a b : List HandlerEvent} {e : HandlerEvent}
    (h : receivedLines (a ++ e :: b) = []) : receivedLines a = [] ∧ ∀ line, e ≠ .received line := by
  rw [receivedLines_append, List.append_eq_nil_iff] at h
  refine ⟨h.1, fun line he => ?_⟩
  rw [he] at h
  exact absurd h.2 (List.cons_ne_nil _ _)

section
variable {log rest : List HandlerEvent} {line : Bytes} {session : Option Session}

theorem Admitted.append (ha : Admitted g J log) (hr : Running g J log session)
    (hrest : receivedLines rest = [])
    (hsub : ∀ b st, .submitted b st ∈ rest → session = some ⟨st⟩ ∧ Requests J line b) :
    Admitted g J (log ++ .received line :: rest) where
  submitted pre b st post h := by
    rcases append_line_eq h with ⟨mid, rfl, -⟩ | ⟨-, he, -⟩ | ⟨mid, rfl, rfl⟩
    · exact ha.submitted pre b st mid rfl
    · cases he
    · obtain ⟨hs, hreq⟩ := hsub b st (by simp)
      refine ⟨receivedLines log, line, ?_, hreq, hr.session ▸ hs⟩
      rw [receivedLines_append]
      show receivedLines log ++ line :: receivedLines mid = _
      rw [(receivedLines_part hrest).1]
  closed pre line' post h hc hs := by
    rcases append_line_eq h with ⟨mid, rfl, -⟩ | ⟨rfl, he, rfl⟩ | ⟨mid, rfl, rfl⟩
    · rw [hr.closed pre line' mid rfl hc] at hs; cases hs
    · exact hrest
    · exact absurd rfl ((receivedLines_part hrest).2 line')

theorem Running.append (hr : Running g J log session) (hrest : receivedLines rest = [])
    (hclose : ¬ (session.isSome ∧ Closes J line)) :
    Running g J (log ++ .received line :: rest) (session.or (accepted g J line)) where
  session := by
    rw [receivedLines_append]
    show _ = sessionOf g J (receivedLines log ++ line :: receivedLines rest)
    rw [hrest, sessionOf_snoc, ← hr.session]
  closed pre line' post h hc := by
    rcases append_line_eq h with ⟨mid, rfl, -⟩ | ⟨rfl, he, -⟩ | ⟨mid, rfl, rfl⟩
    · exact hr.closed pre line' mid rfl hc
    · cases he
      rw [← hr.session]
      exact Bool.eq_false_iff.2 fun hs => hclose ⟨hs, hc⟩
    · exact absurd rfl ((receivedLines_part hrest).2 line')

end

/-- One more turn of a connection. -/
theorem goOn_admitted {c : GatewayServer.Connected} (T : Turn) (ha : Admitted g J c.1)
    (hr : ∀ s, c.2 = .goOn s → Running g J c.1 s) :
    Admitted g J (g.goOn J c T).1 ∧
      ∀ s, (g.goOn J c T).2 = .goOn s → Running g J (g.goOn J c T).1 s := by
  obtain ⟨log, next⟩ := c
  unfold GatewayServer.goOn
  cases next with
  | stop | crash => exact ⟨ha, hr⟩
  | goOn session =>
    have ht := turn_done g J T session
    dsimp only
    generalize (g.turn J T session).1 = events at ht ⊢
    generalize (g.turn J T session).2 = next at ht ⊢
    cases ht with
    | ended hn =>
      rw [List.append_nil]
      exact ⟨ha, fun s hs => absurd hs (hn s)⟩
    | line hrest hsub hnext =>
      refine ⟨ha.append g J (hr session rfl) hrest hsub, fun s hs => ?_⟩
      obtain ⟨rfl, hclose⟩ := hnext s hs
      exact (hr session rfl).append g J hrest hclose

theorem handle_admitted (turns : List Turn) :
    Admitted g J (g.handle J turns).1 ∧
      ∀ s, (g.handle J turns).2 = .goOn s → Running g J (g.handle J turns).1 s := by
  induction turns using List.reverseRecOn with
  | nil =>
    have hnil : ∀ {pre post : List HandlerEvent} {e : HandlerEvent}, [] ≠ pre ++ e :: post := by simp
    refine ⟨⟨fun _ _ _ _ h => absurd h hnil, fun _ _ _ h => absurd h hnil⟩, fun s hs => ?_⟩
    cases hs
    exact ⟨rfl, fun _ _ _ h => absurd h hnil⟩
  | append_singleton turns T ih =>
    rw [GatewayServer.handle, List.foldl_append]
    exact goOn_admitted g J T ih.1 ih.2

/-! ## All connections -/

variable {ι : Type} [DecidableEq ι]

/-- The turns of one connection. -/
def turnsOf (i : ι) (schedule : List (ι × Turn)) : List Turn :=
  schedule.filterMap fun t => if t.1 = i then some t.2 else none

/-- A connection runs as if the others were not there. -/
theorem serve_eq (schedule : List (ι × Turn)) (i : ι) :
    g.serve J schedule i = g.handle J (turnsOf i schedule) := by
  induction schedule using List.reverseRecOn with
  | nil => rfl
  | append_singleton schedule t ih =>
    simp only [GatewayServer.serve, List.foldl_append, List.foldl_cons, List.foldl_nil] at ih ⊢
    by_cases hi : t.1 = i
    · subst hi
      rw [Function.update_self, ih]
      simp [turnsOf, GatewayServer.handle]
    · rw [Function.update_of_ne (Ne.symm hi), ih]
      simp [turnsOf, hi]

/-- **No instrument access without a handshake.**  In every schedule of the connections,
    each connection submits batches only as requested by a line received after an accepted
    handshake on it, with the settings of that handshake; its session is the first accepted
    handshake among its own lines; and nothing is received after a close request. -/
theorem access_after_handshake (schedule : List (ι × Turn)) (i : ι) :
    Admitted g J (g.serve J schedule i).1 ∧
      (∀ s, (g.serve J schedule i).2 = .goOn s →
        s = sessionOf g J (receivedLines (g.serve J schedule i).1)) ∧
      ∀ (j : ι) (T : Turn), j ≠ i →
        g.serve J (schedule ++ [(j, T)]) i = g.serve J schedule i := by
  refine ⟨?_, fun s hs => ?_, fun j T hj => ?_⟩
  · rw [serve_eq]
    exact (handle_admitted g J _).1
  · rw [serve_eq] at hs ⊢
    exact ((handle_admitted g J _).2 s hs).session
  · simp [serve_eq, turnsOf, hj]

end

end Spd3000
