/-
  One response to each request (`GatewayServer._handle`).

  While the socket of the client works, a turn can fail to answer in one way
  only: the response does not fit into a message, and the error of
  `encode_message` leaves the handler, although the batch may have been executed
  (`turn_answered`).  A heartbeat that does not fit replaces the outcome of the
  batch by an error, and the response with that error does not fit either
  (`fits_beat_of_error`).
-/
import Spd3000.Framing
import Spd3000.Transparency

namespace Spd3000

section
variable [PyText]

/-! ## What fits into a message -/

variable {loads : Bytes → Except PyExc PyVal}

/-- A message is encoded exactly if it fits. -/
theorem encodeMessage_fits (loads : Bytes → Except PyExc PyVal) {message : PyDict} :
    (∃ data, (Json.codec loads).encodeMessage message = .ok data) ↔ Fits message := by
  constructor
  · rintro ⟨data, h⟩
    obtain ⟨encoded, hdumps, hsize, -⟩ := Codec.encodeMessage_eq_ok.1 h
    exact ⟨encoded, hdumps, hsize⟩
  · rintro ⟨encoded, hdumps, hsize⟩
    exact ⟨encoded ++ [LF], Codec.encodeMessage_eq_ok.2 ⟨encoded, hdumps, hsize, rfl⟩⟩

/-- Otherwise a protocol error is raised. -/
theorem encodeMessage_raises {message : PyDict} {e : PyExc}
    (h : (Json.codec loads).encodeMessage message = .error e) : e.cls = .gatewayProtocolError := by
  unfold Codec.encodeMessage at h
  cases hdumps : (Json.codec loads).dumps (.dict message) with
  | error e' =>
    rw [hdumps] at h
    have hcaught : (e'.isinstance .typeError || e'.isinstance .valueError) = true := by
      rcases Json.dumps_raises _ _ hdumps with hcls | hcls
      · rw [PyExc.isinstance, hcls]
        rfl
      · rw [PyExc.isinstance, PyExc.isinstance, hcls]
        rfl
    dsimp only at h
    rw [if_pos hcaught] at h
    cases h
    rfl
  | ok encoded =>
    rw [hdumps] at h
    dsimp only at h
    split_ifs at h
    cases h
    rfl

omit [PyText] in
/-- Such an error is not taken for a disconnection of the client. -/
theorem disconnects_protocolError {e : PyExc} (h : e.cls = .gatewayProtocolError) :
    disconnects e = false := by
  rw [disconnects, PyExc.isinstance, PyExc.isinstance, PyExc.isinstance, h]
  rfl

open Json in
/-- The size of a response with an error of the gateway. -/
theorem written_error {requestId : PyVal} {e : PyExc} {size : ℕ} (he : e.cls = .gatewayProtocolError)
    (h : Written (.dict (response requestId (.error e))) size) :
    ∃ k, Written requestId k ∧ 86 + k ≤ size := by
  have hdriver : e.isinstance .spd3000Error = false := by
    rw [PyExc.isinstance, he]
    rfl
  obtain ⟨_, hentries, hsize⟩ := written_dict.1 h
  obtain ⟨_, _, hversion, hafterVersion, hsize₁⟩ := entriesWritten_cons.1 hentries
  obtain ⟨k, _, hid, hafterId, hsize₂⟩ := entriesWritten_cons.1 hafterVersion
  obtain ⟨_, _, herror, -, hsize₃⟩ := entriesWritten_cons.1 hafterId
  obtain ⟨_, herrorEntries, hsize₄⟩ := written_dict.1 herror
  obtain ⟨code, _, hcode, hafterCode, hsize₅⟩ := entriesWritten_cons.1 herrorEntries
  obtain ⟨_, _, hmessage, hafterMessage, hsize₆⟩ := entriesWritten_cons.1 hafterCode
  obtain ⟨_, _, hdata, -, hsize₇⟩ := entriesWritten_cons.1 hafterMessage
  rw [serializeException, if_neg (by rw [hdriver]; exact Bool.false_ne_true)] at hdata
  obtain ⟨_, hdataEntries, hsize₈⟩ := written_dict.1 hdata
  obtain ⟨_, _, hkind, -, hsize₉⟩ := entriesWritten_cons.1 hdataEntries
  rw [written_str] at hversion hmessage hkind
  have hnumber : Written (.int (-32000)) 6 := ⟨_, rfl, rfl⟩
  have hcode : code = 6 := by
    obtain ⟨b, hb, hlength⟩ := hcode
    obtain ⟨b', hb', hlength'⟩ := hnumber
    rw [hb, Except.ok.injEq] at hb'
    rw [← hlength, hb', hlength']
  have h₁ : (dumpsStr (lit "jsonrpc")).length + (dumpsStr (lit "2.0")).length = 14 := by decide
  have h₂ : (dumpsStr (lit "id")).length + (dumpsStr (lit "error")).length = 11 := by decide
  have h₃ : (dumpsStr (lit "code")).length + (dumpsStr (lit "message")).length = 15 := by decide
  have h₄ : (dumpsStr (lit "data")).length + (dumpsStr (lit "kind")).length = 12 := by decide
  have h₅ : (dumpsStr (lit "gateway")).length = 9 := by decide
  have := length_dumpsStr (PyText.str e)
  exact ⟨k, hid, by omega⟩

open Json in
/-- A heartbeat is shorter than a response with an error. -/
theorem fits_beat_of_error {requestId : PyVal} {e : PyExc} (he : e.cls = .gatewayProtocolError)
    (h : Fits (response requestId (.error e))) {state : PyStr} (hstate : state ∈ HEARTBEAT_STATES) :
    Fits (heartbeatMessage requestId state) := by
  obtain ⟨data, hdata, hsize⟩ := h
  obtain ⟨k, hid, hle⟩ := written_error he ⟨data, hdata, rfl⟩
  obtain ⟨beat, hbeat, hlength⟩ := written_heartbeat hid state
  have hshort : ∀ s ∈ HEARTBEAT_STATES, (dumpsStr s).length ≤ 11 := by decide
  have := hshort state hstate
  exact ⟨beat, hbeat, by omega⟩

/-! ## What a line asks for -/

section
variable (g : GatewayServer) (J : Codec)

/-- The id that the response to a line carries: `null` if no request has been decoded. -/
def idOn (line : Bytes) : PyVal :=
  match J.receiveMessage malformedLine line with
  | .error _ => .none
  | .ok request => request.getD "id"

/-- The batch that a request hands to the owner, with the settings of the session. -/
def submittedFor (session : Option Session) (request : Option (PyStr × PyDict)) :
    Option (CommandBatch × ExecutionSettings) :=
  session.bind fun s => request.bind fun r =>
    if r.1 = lit "execute" then (requestedBatch r.2).toOption.map (·, s.settings) else none

def submittedOn (session : Option Session) (line : Bytes) : Option (CommandBatch × ExecutionSettings) :=
  submittedFor session (requestOf J line)

/-- The outcome of a request, for the outcome of its batch. -/
def GatewayServer.outcomeOf (session : Option Session) (request : Option (PyStr × PyDict))
    (physical : CommandBatch → ExecutionSettings → Except PyExc BatchResult) : Except PyExc PyVal :=
  match session, request with
  | _, none => .error (.msg .gatewayProtocolError "Request method or params were malformed")
  | none, some (method, params) =>
    if method = lit "handshake" then
      (g.handshake params).map fun _ => .dict [("commit", .str g.commit)]
    else .error (.msg .gatewayProtocolError "handshake must be the first request")
  | some session, some (method, params) =>
    if method = lit "execute" then
      (requestedBatch params).bind fun batch => executeResult (physical batch session.settings)
    else if method = lit "ping" then .ok (.dict [("ok", .bool true)])
    else if method = lit "close" then .ok (.dict [("closed", .bool true)])
    else .error (.msg .gatewayProtocolError
      (lit "Unknown gateway method: " ++ PyText.repr (.str method)))

/-- The outcome that the response to a line reports. -/
def GatewayServer.outcomeOn (session : Option Session) (line : Bytes)
    (physical : CommandBatch → ExecutionSettings → Except PyExc BatchResult) : Except PyExc PyVal :=
  match J.receiveMessage malformedLine line with
  | .error e => .error e
  | .ok _ => g.outcomeOf session (requestOf J line) physical

end

/-- A turn that reads a terminated line within the limit, while the socket of the client works and
    the owner reports the states of `_PhysicalOwner.execute`. -/
structure Working (T : Turn) (line : Bytes) : Prop where
  reads : T.line = .ok line
  terminated : line.getLast? = some LF
  size : line.dropLast.length ≤ MAX_MESSAGE_BYTES
  send : ∀ n, T.send n = none
  owner : ∀ batch settings, ∀ state ∈ (T.owner batch settings).1, state ∈ HEARTBEAT_STATES

/-- The states that the owner reports for the batch of a line. -/
def Turn.statesOn (T : Turn) (J : Codec) (session : Option Session) (line : Bytes) : List PyStr :=
  (submittedOn J session line).elim [] fun b => (T.owner b.1 b.2).1

/-- The outcomes of the owner. -/
def Turn.physical (T : Turn) (batch : CommandBatch) (settings : ExecutionSettings) :
    Except PyExc BatchResult := (T.owner batch settings).2

/-- The handler hands the batch of the line to the owner, sends the heartbeats and then one
    response with the id and the outcome of the request, and ends exactly if the session is closed. -/
structure Answered (g : GatewayServer) (loads : Bytes → Except PyExc PyVal) (T : Turn)
    (session : Option Session) (line : Bytes) (done : List HandlerEvent × Next) : Prop where
  events : ∃ beats data,
    List.Forall₂ (fun state beat => (Json.codec loads).encodeMessage
      (heartbeatMessage (idOn (Json.codec loads) line) state) = .ok beat)
      (T.statesOn (Json.codec loads) session line) beats ∧
    (Json.codec loads).encodeMessage (response (idOn (Json.codec loads) line)
      (g.outcomeOn (Json.codec loads) session line T.physical)) = .ok data ∧
    done.1 = .received line :: ((submittedOn (Json.codec loads) session line).map fun b =>
      HandlerEvent.submitted b.1 b.2).toList ++ beats.map .sent ++ [.sent data]
  goesOn : ∀ e, done.2 ≠ .crash e
  closes : done.2 = .stop ↔ session.isSome ∧ Closes (Json.codec loads) line

/-- The response to the line and the heartbeats of its request fit into messages. -/
structure Fitting (g : GatewayServer) (loads : Bytes → Except PyExc PyVal) (T : Turn)
    (session : Option Session) (line : Bytes) : Prop where
  response : Fits (response (idOn (Json.codec loads) line)
    (g.outcomeOn (Json.codec loads) session line T.physical))
  beats : ∀ state ∈ T.statesOn (Json.codec loads) session line,
    Fits (heartbeatMessage (idOn (Json.codec loads) line) state)

/-! ## The heartbeats of a turn -/

variable {T : Turn} {requestId : PyVal}

/-- While the client is connected, either every heartbeat is sent, or one that does not fit raises
    a protocol error. -/
theorem sendHeartbeats_spec (loads : Bytes → Except PyExc PyVal) (requestId : PyVal)
    (hT : ∀ n, T.send n = none) (states : List PyStr) :
    ∀ w : Writes, w.connected = true → (∀ s ∈ states, s ∈ HEARTBEAT_STATES) →
    (∃ beats count, List.Forall₂ (fun state beat =>
        (Json.codec loads).encodeMessage (heartbeatMessage requestId state) = .ok beat)
        states beats ∧
      sendHeartbeats (Json.codec loads) T requestId states w =
        (none, ⟨w.events ++ beats.map .sent, count, true⟩)) ∨
    ((∃ s ∈ states, ¬ Fits (heartbeatMessage requestId s)) ∧
      ∃ e w', sendHeartbeats (Json.codec loads) T requestId states w = (some e, w') ∧
        e.cls = .gatewayProtocolError ∧ w'.connected = true) := by
  induction states with
  | nil =>
    rintro ⟨events, count, connected⟩ hw -
    obtain rfl : connected = true := hw
    exact .inl ⟨[], count, .nil, by simp [sendHeartbeats]⟩
  | cons s states ih =>
    rintro ⟨events, count, connected⟩ hw hstates
    obtain rfl : connected = true := hw
    rw [List.forall_mem_cons] at hstates
    obtain ⟨hs, hrest⟩ := hstates
    have hdata : (heartbeatNotification requestId s).bind (Json.codec loads).encodeMessage =
        (Json.codec loads).encodeMessage (heartbeatMessage requestId s) := by
      rw [heartbeatNotification_eq hs]
      rfl
    cases hencode : (Json.codec loads).encodeMessage (heartbeatMessage requestId s) with
    | error e =>
      have hcls := encodeMessage_raises hencode
      refine .inr ⟨⟨s, List.mem_cons_self, fun hfits => ?_⟩, e, ⟨events, count, true⟩, ?_, hcls, rfl⟩
      · obtain ⟨data, h⟩ := (encodeMessage_fits loads).2 hfits
        rw [hencode] at h
        cases h
      · have hone : sendHeartbeat (Json.codec loads) T requestId s ⟨events, count, true⟩ =
            (some e, ⟨events, count, true⟩) := by
          simp [sendHeartbeat, hdata, hencode, disconnects_protocolError hcls]
        rw [sendHeartbeats, hone]
    | ok beat =>
      have hone : sendHeartbeat (Json.codec loads) T requestId s ⟨events, count, true⟩ =
          (none, ⟨events ++ [.sent beat], count + 1, true⟩) := by
        simp [sendHeartbeat, hdata, hencode, hT]
      rcases ih ⟨events ++ [.sent beat], count + 1, true⟩ rfl hrest with
        ⟨beats, count', hbeats, hsent⟩ | ⟨⟨t, ht, hlong⟩, e, w', hraised, hcls, hw'⟩
      · refine .inl ⟨beat :: beats, count', .cons hencode hbeats, ?_⟩
        rw [sendHeartbeats, hone]
        simp [hsent]
      · refine .inr ⟨⟨t, List.mem_cons_of_mem _ ht, hlong⟩, e, w', ?_, hcls, hw'⟩
        rw [sendHeartbeats, hone]
        exact hraised

/-- What the `try` statement leaves behind: the outcome of the request, after its heartbeats, or
    the error of a heartbeat that does not fit. -/
inductive Replied (states : List PyStr) (requestId : PyVal) (outcome : Except PyExc PyVal)
    (loads : Bytes → Except PyExc PyVal) (r : Reply) : Prop
  | done {beats : List Bytes} {count : ℕ} : List.Forall₂ (fun state beat =>
        (Json.codec loads).encodeMessage (heartbeatMessage requestId state) = .ok beat)
        states beats →
      r.result = outcome → r.writes = ⟨beats.map .sent, count, true⟩ →
      Replied states requestId outcome loads r
  | unsent {e : PyExc} : (∃ s ∈ states, ¬ Fits (heartbeatMessage requestId s)) →
      r.result = .error e → e.cls = .gatewayProtocolError → r.writes.connected = true →
      Replied states requestId outcome loads r

theorem replied_simple {session : Option Session} {result : Except PyExc PyVal} :
    Replied [] requestId result loads (.simple session result) :=
  .done .nil rfl rfl

theorem executeRequest_replied (loads : Bytes → Except PyExc PyVal) (requestId : PyVal)
    (hT : ∀ n, T.send n = none)
    (howner : ∀ batch settings, ∀ state ∈ (T.owner batch settings).1, state ∈ HEARTBEAT_STATES)
    (params : PyDict) (session : Session) :
    Replied ((submittedFor (some session) (some (lit "execute", params))).elim []
        fun b => (T.owner b.1 b.2).1) requestId
      ((requestedBatch params).bind fun batch => executeResult (T.physical batch session.settings))
      loads (executeRequest (Json.codec loads) T requestId params session) ∧
    (executeRequest (Json.codec loads) T requestId params session).submitted =
      submittedFor (some session) (some (lit "execute", params)) ∧
    (executeRequest (Json.codec loads) T requestId params session).closeAfter = false := by
  have hbatch : submittedFor (some session) (some (lit "execute", params)) =
      (requestedBatch params).toOption.map (·, session.settings) := by
    simp [submittedFor]
  rw [hbatch]
  cases hparams : requestedBatch params with
  | error e =>
    have hrefused : executeRequest (Json.codec loads) T requestId params session =
        .simple (some session) (.error e) := by
      rw [executeRequest, hparams]
    rw [hrefused]
    exact ⟨replied_simple, rfl, rfl⟩
  | ok batch =>
    rcases sendHeartbeats_spec loads requestId hT
      (T.owner batch session.settings).1 noWrites rfl (howner batch session.settings) with
      ⟨beats, count, hbeats, hsent⟩ | ⟨hlong, e, w', hraised, hcls, hw'⟩
    · have hreply : executeRequest (Json.codec loads) T requestId params session =
          ⟨some session, executeResult (T.physical batch session.settings), false,
            some (batch, session.settings), ⟨beats.map .sent, count, true⟩⟩ := by
        rw [executeRequest, hparams]
        simp only [hsent, Turn.physical]
        cases (T.owner batch session.settings).2 <;> simp [executeResult, noWrites]
      rw [hreply]
      exact ⟨.done hbeats rfl rfl, rfl, rfl⟩
    · have hreply : executeRequest (Json.codec loads) T requestId params session =
          ⟨some session, .error (e.setattr "gateway_remote_traceback" (remoteTraceback e)), false,
            some (batch, session.settings), w'⟩ := by
        rw [executeRequest, hparams]
        simp only [hraised]
      rw [hreply]
      exact ⟨.unsent hlong rfl hcls hw', rfl, rfl⟩

/-- What the `try` statement leaves behind, for any request. -/
theorem answer_replied (g : GatewayServer) (hT : ∀ n, T.send n = none)
    (howner : ∀ batch settings, ∀ state ∈ (T.owner batch settings).1, state ∈ HEARTBEAT_STATES)
    (session : Option Session) (method params : PyVal) :
    Replied ((submittedFor session (methodAndParams method params)).elim [] fun b => (T.owner b.1 b.2).1)
      requestId (g.outcomeOf session (methodAndParams method params) T.physical) loads
      (g.answer (Json.codec loads) T session requestId method params) ∧
    (g.answer (Json.codec loads) T session requestId method params).submitted =
      submittedFor session (methodAndParams method params) ∧
    ((g.answer (Json.codec loads) T session requestId method params).closeAfter = true ↔
      session.isSome ∧ ∃ p, methodAndParams method params = some (lit "close", p)) := by
  unfold GatewayServer.answer
  split
  · rename_i method params
    have hrequest : methodAndParams (.str method) (.dict params) = some (method, params) := rfl
    rw [hrequest]
    cases session with
    | none =>
      have hclose : ¬ ((none : Option Session).isSome ∧
          ∃ p, some (method, params) = some (lit "close", p)) := by simp
      have hbatch : submittedFor none (some (method, params)) = none := rfl
      rw [hbatch]
      by_cases hm : method = lit "handshake"
      · simp only [ne_eq, hm, not_true, if_false]
        cases hh : g.handshake params with
        | error e =>
          have houtcome : g.outcomeOf none (some (lit "handshake", params)) T.physical =
              .error e := by simp [GatewayServer.outcomeOf, hh, Except.map]
          rw [houtcome]
          exact ⟨replied_simple, rfl, iff_of_false Bool.false_ne_true (hm ▸ hclose)⟩
        | ok s =>
          have houtcome : g.outcomeOf none (some (lit "handshake", params)) T.physical =
              .ok (.dict [("commit", .str g.commit)]) := by
            simp [GatewayServer.outcomeOf, hh, Except.map]
          rw [houtcome]
          exact ⟨replied_simple, rfl, iff_of_false Bool.false_ne_true (hm ▸ hclose)⟩
      · have houtcome : g.outcomeOf none (some (method, params)) T.physical =
            .error (.msg .gatewayProtocolError "handshake must be the first request") :=
          if_neg hm
        simp only [ne_eq, hm, not_false_eq_true, if_true, houtcome]
        exact ⟨replied_simple, rfl, iff_of_false Bool.false_ne_true hclose⟩
    | some s =>
      by_cases hexecute : method = lit "execute"
      · obtain ⟨hreplied, hsubmitted, hopen⟩ :=
          executeRequest_replied loads requestId hT howner params s
        have houtcome : g.outcomeOf (some s) (some (lit "execute", params)) T.physical =
            (requestedBatch params).bind fun batch =>
              executeResult (T.physical batch s.settings) := by
          simp [GatewayServer.outcomeOf]
        simp only [hexecute, if_true, houtcome, hopen]
        exact ⟨hreplied, hsubmitted, by simp⟩
      · have hbatch : submittedFor (some s) (some (method, params)) = none := if_neg hexecute
        rw [hbatch]
        have houtcome : ∀ result, (if method = lit "ping" then .ok (.dict [("ok", .bool true)])
            else if method = lit "close" then .ok (.dict [("closed", .bool true)])
            else .error (.msg .gatewayProtocolError
              (lit "Unknown gateway method: " ++ PyText.repr (.str method)))) = result →
            g.outcomeOf (some s) (some (method, params)) T.physical = result := by
          rintro result rfl
          exact if_neg hexecute
        simp only [hexecute, if_false]
        split_ifs with hping hclose
        · rw [houtcome _ (if_pos hping)]
          exact ⟨replied_simple, rfl, iff_of_false Bool.false_ne_true (by simp [hping])⟩
        · rw [houtcome _ ((if_neg hping).trans (if_pos hclose))]
          exact ⟨.done .nil rfl rfl, rfl, iff_of_true rfl ⟨rfl, params, by rw [hclose]⟩⟩
        · rw [houtcome _ ((if_neg hping).trans (if_neg hclose))]
          exact ⟨replied_simple, rfl, iff_of_false Bool.false_ne_true (by simp [hclose])⟩
  · rename_i h
    have hnone : methodAndParams method params = none := by
      unfold methodAndParams
      split
      · exact absurd rfl (h _ _ rfl)
      · rfl
    have hbatch : submittedFor session none = none := by
      cases session <;> rfl
    have houtcome : g.outcomeOf session none T.physical =
        .error (.msg .gatewayProtocolError "Request method or params were malformed") := by
      cases session <;> rfl
    rw [hnone, hbatch, houtcome]
    exact ⟨replied_simple, rfl, iff_of_false Bool.false_ne_true (by simp)⟩

/-! ## The response -/

/-- If everything fits, the heartbeats and the response are sent. -/
theorem respond_answers (hT : ∀ n, T.send n = none) {states : List PyStr}
    {outcome : Except PyExc PyVal} {r : Reply} (hr : Replied states requestId outcome loads r)
    (hresponse : Fits (response requestId outcome))
    (hbeats : ∀ s ∈ states, Fits (heartbeatMessage requestId s)) (method : PyVal) :
    ∃ beats data, List.Forall₂ (fun state beat =>
        (Json.codec loads).encodeMessage (heartbeatMessage requestId state) = .ok beat)
        states beats ∧
      (Json.codec loads).encodeMessage (response requestId outcome) = .ok data ∧
      respond (Json.codec loads) T requestId method r =
        ((r.submitted.map fun b => HandlerEvent.submitted b.1 b.2).toList ++
            beats.map .sent ++ [.sent data],
          if r.closeAfter then .stop else .goOn r.session) := by
  cases hr with
  | @done beats count hsent hresult hwrites =>
    obtain ⟨data, hdata⟩ := (encodeMessage_fits loads).2 hresponse
    refine ⟨beats, data, hsent, hdata, ?_⟩
    unfold respond
    simp only [hwrites, hresult, hdata, hT, Bool.not_true, Bool.and_false, Bool.false_eq_true,
      if_false]
  | unsent hlong _ _ _ =>
    obtain ⟨s, hs, hlong⟩ := hlong
    exact absurd (hbeats s hs) hlong

/-- Otherwise an error leaves the handler. -/
theorem respond_crashes {states : List PyStr} (hstates : ∀ s ∈ states, s ∈ HEARTBEAT_STATES)
    {outcome : Except PyExc PyVal} {r : Reply} (hr : Replied states requestId outcome loads r)
    (hlong : ¬ (Fits (response requestId outcome) ∧
      ∀ s ∈ states, Fits (heartbeatMessage requestId s))) (method : PyVal) :
    ∃ e, (respond (Json.codec loads) T requestId method r).2 = .crash e := by
  have hcrash : r.writes.connected = true → ¬ Fits (response requestId r.result) →
      ∃ e, (respond (Json.codec loads) T requestId method r).2 = .crash e := by
    intro hconnected hnot
    cases hencode : (Json.codec loads).encodeMessage (response requestId r.result) with
    | ok data => exact absurd ((encodeMessage_fits _).1 ⟨data, hencode⟩) hnot
    | error e =>
      refine ⟨e, ?_⟩
      unfold respond
      simp [hconnected, hencode, disconnects_protocolError (encodeMessage_raises hencode)]
  cases hr with
  | @done beats count hsent hresult hwrites =>
    have hbeats := (List.forall₂_and_left _ _).1
      (hsent.imp fun s beat h => ⟨(encodeMessage_fits _).1 ⟨beat, h⟩, h⟩)
    exact hcrash (by rw [hwrites]) fun hfits => hlong ⟨hresult ▸ hfits, hbeats.1⟩
  | unsent hnot hresult hcls hconnected =>
    -- the response with the error is longer than the heartbeat that does not fit
    obtain ⟨s, hs, hnot⟩ := hnot
    refine hcrash hconnected fun hfits => hnot ?_
    rw [hresult] at hfits
    exact fits_beat_of_error hcls hfits (hstates s hs)

/-- What a turn hands to `respond`. -/
theorem turn_replied (g : GatewayServer) (loads : Bytes → Except PyExc PyVal) {line : Bytes}
    (hw : Working T line) (session : Option Session) : ∃ r method,
    g.turn (Json.codec loads) T session =
      (.received line :: (respond (Json.codec loads) T (idOn (Json.codec loads) line) method r).1,
        (respond (Json.codec loads) T (idOn (Json.codec loads) line) method r).2) ∧
    Replied (T.statesOn (Json.codec loads) session line) (idOn (Json.codec loads) line)
      (g.outcomeOn (Json.codec loads) session line T.physical) loads r ∧
    r.submitted = submittedOn (Json.codec loads) session line ∧
    (r.closeAfter = true ↔ session.isSome ∧ Closes (Json.codec loads) line) := by
  have hne : line ≠ [] := by
    intro h
    have := hw.terminated
    rw [h] at this
    cases this
  have hturn := turn_line g (Json.codec loads) hw.reads hne session
  unfold GatewayServer.serveInterpreted at hturn
  unfold Turn.statesOn idOn GatewayServer.outcomeOn submittedOn Closes
  cases hreceive : (Json.codec loads).receiveMessage malformedLine line with
  | error e =>
    have hnone : requestOf (Json.codec loads) line = none := by
      rw [malformedLine] at hreceive
      rw [requestOf, hreceive]
    have hbatch : submittedFor session none = none := by
      cases session <;> rfl
    rw [hreceive] at hturn
    refine ⟨_, _, hturn, ?_⟩
    rw [hnone, hbatch]
    exact ⟨replied_simple, rfl, iff_of_false Bool.false_ne_true (by simp)⟩
  | ok request =>
    have hrequest : requestOf (Json.codec loads) line = methodAndParams (request.getD "method")
        ((request.get "params").getD (.dict [])) := by
      rw [malformedLine] at hreceive
      rw [requestOf, hreceive]
    rw [hreceive] at hturn
    refine ⟨_, _, hturn, ?_⟩
    rw [hrequest]
    exact answer_replied g hw.send hw.owner session _ _

/-- A turn answers its line exactly if the response and the heartbeats fit. -/
theorem turn_answered (g : GatewayServer) {line : Bytes} (hw : Working T line)
    (session : Option Session) :
    Answered g loads T session line (g.turn (Json.codec loads) T session) ↔
      Fitting g loads T session line := by
  obtain ⟨r, method, hturn, hr, hsubmitted, hclose⟩ := turn_replied g loads hw session
  rw [hturn]
  constructor
  · intro h
    by_contra hlong
    have hstates : ∀ s ∈ T.statesOn (Json.codec loads) session line, s ∈ HEARTBEAT_STATES := by
      unfold Turn.statesOn
      cases submittedOn (Json.codec loads) session line with
      | none => exact fun s hs => absurd hs List.not_mem_nil
      | some b => exact hw.owner b.1 b.2
    obtain ⟨e, he⟩ := respond_crashes (T := T) hstates hr (fun hfit => hlong ⟨hfit.1, hfit.2⟩) method
    exact h.goesOn e he
  · intro h
    obtain ⟨beats, data, hbeats, hdata, hrespond⟩ :=
      respond_answers hw.send hr h.response h.beats method
    rw [hrespond]
    refine ⟨⟨beats, data, hbeats, hdata, by rw [hsubmitted]; rfl⟩, fun e => ?_, ?_⟩
    · dsimp only
      split_ifs <;> simp
    · rw [← hclose]
      dsimp only
      split_ifs with hc <;> simp [hc]

/-! ## Connections -/

section
variable (g : GatewayServer) (loads : Bytes → Except PyExc PyVal)

/-- What the handler has done after some turns, each with the line that it reads, and how the last
    one has ended. -/
def GatewayServer.converse (c : List (Turn × Bytes)) : GatewayServer.Connected :=
  g.handle (Json.codec loads) (c.map Prod.fst)

/-- At each line that the handler comes to, `P` holds of the turn, the session and the line. -/
def GatewayServer.EachLine (c : List (Turn × Bytes)) (P : Turn → Option Session → Bytes → Prop) : Prop :=
  ∀ before T line after session, c = before ++ (T, line) :: after →
    (g.converse loads before).2 = .goOn session → P T session line

/-- Each line that the handler comes to is answered before it goes on. -/
def GatewayServer.AnswersEach (c : List (Turn × Bytes)) : Prop :=
  ∀ before T line after session, c = before ++ (T, line) :: after →
    (g.converse loads before).2 = .goOn session → ∃ done, Answered g loads T session line done ∧
      g.converse loads (before ++ [(T, line)]) = ((g.converse loads before).1 ++ done.1, done.2)

theorem converse_concat {before : List (Turn × Bytes)} {session : Option Session}
    (h : (g.converse loads before).2 = .goOn session) (T : Turn) (line : Bytes) :
    g.converse loads (before ++ [(T, line)]) =
      ((g.converse loads before).1 ++ (g.turn (Json.codec loads) T session).1,
        (g.turn (Json.codec loads) T session).2) := by
  have hsnoc : g.converse loads (before ++ [(T, line)]) =
      g.goOn (Json.codec loads) (g.converse loads before) T := by
    rw [GatewayServer.converse, List.map_append, GatewayServer.handle, List.foldl_append]
    rfl
  rw [hsnoc]
  unfold GatewayServer.goOn
  rw [h]

/-- **One response to each request.**  On a connection that works, every line is answered exactly
    if all responses and heartbeats fit into messages. -/
theorem requests_answered (c : List (Turn × Bytes)) (h : ∀ t ∈ c, Working t.1 t.2) :
    g.AnswersEach loads c ↔ g.EachLine loads c (Fitting g loads) := by
  have hworks : ∀ before T line after, c = before ++ (T, line) :: after → Working T line := by
    rintro before T line after rfl
    exact h (T, line) (List.mem_append_right _ List.mem_cons_self)
  constructor
  · intro hall before T line after session hc hnext
    obtain ⟨done, hanswered, hdone⟩ := hall before T line after session hc hnext
    rw [converse_concat g loads hnext] at hdone
    have hevents := List.append_cancel_left (congrArg Prod.fst hdone)
    have hnext' := congrArg Prod.snd hdone
    refine (turn_answered g (hworks before T line after hc) session).1 ?_
    rwa [show g.turn (Json.codec loads) T session = done from Prod.ext hevents hnext']
  · intro hfits before T line after session hc hnext
    exact ⟨_, (turn_answered g (hworks before T line after hc) session).2
      (hfits before T line after session hc hnext), converse_concat g loads hnext T line⟩

end

end

/-! ## A connection with a large answer -/

section

/-- How a client introduces itself to `openGateway`. -/
def introduction : PyDict :=
  [("commit", .str "0123abc"), ("token", .none),
    ("settings", .dict [("min_command_interval", .int 1), ("timeout", .int 5)])]

def greeting : PyDict := [("jsonrpc", .str "2.0"), ("id", .int 1), ("method", .str "handshake"),
  ("params", .dict introduction)]

/-- The line of a message that the JSON writer accepts. -/
def lineOf [PyText] (message : PyDict) : Bytes :=
  ((Json.dumps (.dict message)).toOption.getD []) ++ [LF]

def readVoltage : CommandBatch := ⟨[.query ⟨"MEAS:VOLT? CH2", by decide⟩], List.cons_ne_nil _ _⟩

/-- A turn in which a query is answered with the given text, after one heartbeat. -/
def voltageTurn (line : Bytes) (voltage : PyStr) : Turn :=
  ⟨.ok line, fun _ _ => ([lit "executing"], .ok ⟨[some voltage]⟩), fun _ => none⟩

/-- A client that introduces itself and queries a voltage. -/
def voltageClient (voltage : PyStr) : List (Turn × Bytes) :=
  [greeting, executeMessage (.int 2) readVoltage].map fun m =>
    (voltageTurn (@lineOf PyText.blank m) voltage, @lineOf PyText.blank m)

/-- The next turn has a session. -/
def Next.isOpen : Next → Bool
  | .goOn session => session.isSome
  | .stop | .crash _ => false

def readsVoltage : Bytes → Except PyExc PyVal :=
  @readBack PyText.blank [greeting, executeMessage (.int 2) readVoltage]

theorem voltageClient_works (voltage : PyStr) :
    ∀ t ∈ voltageClient voltage, @Working t.1 t.2 := by
  have hline : ∀ m ∈ [greeting, executeMessage (.int 2) readVoltage],
      (@lineOf PyText.blank m).getLast? = some LF ∧
        (@lineOf PyText.blank m).dropLast.length ≤ MAX_MESSAGE_BYTES := by decide +kernel
  intro t ht
  obtain ⟨m, hm, rfl⟩ := List.mem_map.1 ht
  obtain ⟨hlast, hsize⟩ := hline m hm
  refine ⟨rfl, hlast, hsize, fun _ => rfl, fun _ _ state hstate => ?_⟩
  obtain rfl : state = lit "executing" := List.mem_singleton.1 hstate
  decide

set_option maxRecDepth 4000 in
/-- The line of the query, and what it asks for. -/
theorem readVoltage_line (s : Session) (voltage : PyStr) :
    @idOn PyText.blank (@Json.codec PyText.blank readsVoltage)
      (@lineOf PyText.blank (executeMessage (.int 2) readVoltage)) = .int 2 ∧
    @submittedOn PyText.blank (@Json.codec PyText.blank readsVoltage) (some s)
      (@lineOf PyText.blank (executeMessage (.int 2) readVoltage)) =
        some (readVoltage, s.settings) ∧
    @GatewayServer.outcomeOn PyText.blank openGateway (@Json.codec PyText.blank readsVoltage) (some s)
      (@lineOf PyText.blank (executeMessage (.int 2) readVoltage))
      (fun _ _ => .ok ⟨[some voltage]⟩) = .ok (.dict [("values", .list [.str voltage])]) :=
  ⟨rfl, rfl, rfl⟩

set_option maxRecDepth 4000 in
/-- The line of the introduction, which is accepted. -/
theorem greeting_line
    (physical : CommandBatch → ExecutionSettings → Except PyExc BatchResult) :
    @idOn PyText.blank (@Json.codec PyText.blank readsVoltage) (@lineOf PyText.blank greeting) =
      .int 1 ∧
    @submittedOn PyText.blank (@Json.codec PyText.blank readsVoltage) none
      (@lineOf PyText.blank greeting) = none ∧
    @GatewayServer.outcomeOn PyText.blank openGateway (@Json.codec PyText.blank readsVoltage) none
      (@lineOf PyText.blank greeting) physical = .ok (.dict [("commit", .str "0123abc")]) := by
  let _ : PyText := PyText.blank
  refine ⟨rfl, rfl, ?_⟩
  have hreceive : (Json.codec readsVoltage).receiveMessage malformedLine (lineOf greeting) =
      .ok greeting := rfl
  have hrequest : requestOf (Json.codec readsVoltage) (lineOf greeting) =
      some (lit "handshake", introduction) := rfl
  have haccepted : (openGateway.handshake introduction).toOption.isSome = true := by decide +kernel
  rw [GatewayServer.outcomeOn, hreceive, hrequest]
  cases hs : openGateway.handshake introduction with
  | error e =>
    rw [hs] at haccepted
    cases haccepted
  | ok s =>
    simp only [GatewayServer.outcomeOf, if_true, hs]
    rfl

/-- The two places in a connection of that client. -/
theorem voltageClient_places {voltage : PyStr} {before after : List (Turn × Bytes)} {T : Turn}
    {line : Bytes} (h : voltageClient voltage = before ++ (T, line) :: after) :
    before = [] ∧ line = @lineOf PyText.blank greeting ∧ T = voltageTurn line voltage ∨
    before = (voltageClient voltage).take 1 ∧
      line = @lineOf PyText.blank (executeMessage (.int 2) readVoltage) ∧
      T = voltageTurn line voltage := by
  rcases before with _ | ⟨t, _ | ⟨t', before⟩⟩
  · obtain ⟨ht, -⟩ := List.cons.inj h
    obtain ⟨rfl, rfl⟩ := Prod.mk.inj ht
    exact .inl ⟨rfl, rfl, rfl⟩
  · obtain ⟨rfl, hrest⟩ := List.cons.inj h
    obtain ⟨ht, -⟩ := List.cons.inj hrest
    obtain ⟨rfl, rfl⟩ := Prod.mk.inj ht
    exact .inr ⟨rfl, rfl, rfl⟩
  · obtain ⟨-, hrest⟩ := List.cons.inj h
    obtain ⟨-, hrest⟩ := List.cons.inj hrest
    exact absurd hrest.symm (List.append_ne_nil_of_right_ne_nil _ (List.cons_ne_nil _ _))

/-- The introduction, one heartbeat and a short answer. -/
theorem requests_answered_voltage : @GatewayServer.AnswersEach PyText.blank openGateway readsVoltage
    (voltageClient "0.125") := by
  let _ : PyText := PyText.blank
  refine (requests_answered openGateway readsVoltage _ (voltageClient_works _)).2 ?_
  intro before T line after session hplace hnext
  rcases voltageClient_places hplace with ⟨rfl, rfl, rfl⟩ | ⟨rfl, rfl, rfl⟩
  · obtain rfl : session = none := by cases hnext; rfl
    obtain ⟨hid, hbatch, houtcome⟩ := greeting_line fun _ _ => .ok ⟨[some "0.125"]⟩
    refine ⟨?_, ?_⟩
    · change Fits (response (idOn (Json.codec readsVoltage) (lineOf greeting))
        (openGateway.outcomeOn (Json.codec readsVoltage) none (lineOf greeting)
          fun _ _ => .ok ⟨[some "0.125"]⟩))
      rw [hid, houtcome]
      exact ⟨_, rfl, by decide +kernel⟩
    · rw [Turn.statesOn, hbatch]
      exact fun _ h => absurd h List.not_mem_nil
  · have hopen : Next.isOpen (openGateway.converse readsVoltage
        ((voltageClient "0.125").take 1)).2 = true := by decide +kernel
    rw [hnext] at hopen
    obtain ⟨s, rfl⟩ := Option.isSome_iff_exists.1 hopen
    obtain ⟨hid, hbatch, houtcome⟩ := readVoltage_line s "0.125"
    refine ⟨?_, ?_⟩
    · change Fits (response (idOn (Json.codec readsVoltage)
        (lineOf (executeMessage (.int 2) readVoltage)))
        (openGateway.outcomeOn (Json.codec readsVoltage) (some s)
          (lineOf (executeMessage (.int 2) readVoltage)) fun _ _ => .ok ⟨[some "0.125"]⟩))
      rw [hid, houtcome]
      exact ⟨_, rfl, by decide +kernel⟩
    · rw [Turn.statesOn, hbatch, hid]
      intro state hstate
      obtain rfl : state = lit "executing" := List.mem_singleton.1 hstate
      exact ⟨_, rfl, by decide +kernel⟩

/-- An answer as long as a message may be. -/
def longVoltage : PyStr := (List.replicate MAX_MESSAGE_BYTES (lit "0")).flatten

theorem length_longVoltage : longVoltage.length = MAX_MESSAGE_BYTES := by
  have hzero : (lit "0").length = 1 := rfl
  rw [longVoltage, List.length_flatten, List.map_replicate, List.sum_replicate_nat, hzero, mul_one]

open Json in
/-- It does not fit into a response. -/
theorem longVoltage_unfit [PyText] (requestId : PyVal) :
    ¬ Fits (response requestId (.ok (.dict [("values", .list [.str longVoltage])]))) := by
  rintro ⟨data, hdata, hsize⟩
  obtain ⟨_, hentries, hsize₁⟩ := written_dict.1 ⟨data, hdata, rfl⟩
  obtain ⟨_, _, -, hafterVersion, hsize₂⟩ := entriesWritten_cons.1 hentries
  obtain ⟨_, _, -, hafterId, hsize₃⟩ := entriesWritten_cons.1 hafterVersion
  obtain ⟨_, _, hresult, -, hsize₄⟩ := entriesWritten_cons.1 hafterId
  obtain ⟨_, hresultEntries, hsize₅⟩ := written_dict.1 hresult
  obtain ⟨_, _, hvalues, -, hsize₆⟩ := entriesWritten_cons.1 hresultEntries
  obtain ⟨_, hitems, hsize₇⟩ := written_list.1 hvalues
  obtain ⟨_, _, hvalue, -, hsize₈⟩ := itemsWritten_cons.1 hitems
  rw [written_str] at hvalue
  have hlong := length_dumpsStr longVoltage
  rw [length_longVoltage] at hlong
  omega

/-- The query has been executed, but its client is not answered. -/
theorem executed_unanswered :
    (∃ settings, .submitted readVoltage settings ∈
      (@GatewayServer.converse PyText.blank openGateway readsVoltage
        (voltageClient longVoltage)).1) ∧
    ¬ @GatewayServer.AnswersEach PyText.blank openGateway readsVoltage
      (voltageClient longVoltage) := by
  let _ : PyText := PyText.blank
  have hopen : Next.isOpen (openGateway.converse readsVoltage
      ((voltageClient longVoltage).take 1)).2 = true := by decide +kernel
  cases hnext : (openGateway.converse readsVoltage ((voltageClient longVoltage).take 1)).2 with
  | stop | crash e =>
    rw [hnext] at hopen
    cases hopen
  | goOn session =>
    rw [hnext] at hopen
    obtain ⟨s, rfl⟩ := Option.isSome_iff_exists.1 hopen
    obtain ⟨hid, hbatch, houtcome⟩ := readVoltage_line s longVoltage
    set line := lineOf (executeMessage (.int 2) readVoltage) with hline
    set T := voltageTurn line longVoltage with hT
    have hplace : voltageClient longVoltage =
        (voltageClient longVoltage).take 1 ++ (T, line) :: [] := rfl
    have hworks : Working T line := by
      refine voltageClient_works longVoltage (T, line) ?_
      rw [hplace]
      exact List.mem_append_right _ List.mem_cons_self
    constructor
    · obtain ⟨r, method, hturn, -, hsubmitted, -⟩ :=
        turn_replied openGateway readsVoltage hworks (some s)
      obtain ⟨tail, -, hevents⟩ := respond_events (Json.codec readsVoltage) T
        (idOn (Json.codec readsVoltage) line) method r
      refine ⟨s.settings, ?_⟩
      rw [hplace, converse_concat openGateway readsVoltage hnext, hturn]
      refine List.mem_append_right _ (List.mem_cons_of_mem _ ?_)
      rw [hevents, hsubmitted, hbatch]
      exact List.mem_cons_self
    · intro hall
      obtain ⟨done, hanswered, hdone⟩ := hall _ T line [] (some s) hplace hnext
      obtain ⟨beats, data, -, hdata, -⟩ := hanswered.events
      have hfits := (encodeMessage_fits _).1 ⟨data, hdata⟩
      have hresult : openGateway.outcomeOn (Json.codec readsVoltage) (some s) line T.physical =
          .ok (.dict [("values", .list [.str longVoltage])]) := houtcome
      rw [hresult] at hfits
      exact longVoltage_unfit _ hfits

end

end Spd3000
