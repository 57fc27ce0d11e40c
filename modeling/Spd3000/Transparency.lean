/-
  A batch that a client sends through the gateway ends as it does on the
  physical executor itself.

  A message is followed on its way: `Carried` messages are written on one line
  and read back by the other side (`Carried.encode`, `Carried.receive`).  The
  handler rebuilds the batch and sends its heartbeats and the response
  (`serveRequest_sent`); the client skips the heartbeats (`receive_beats`) and
  rebuilds the outcome (`resultOf_response`).
-/
import Spd3000.Client

namespace Spd3000

variable [PyText]

/-! ## Messages on the wire -/

/-- The other side reads the message that has been written. -/
def RoundTrips (loads : Bytes → Except PyExc PyVal) (message : PyDict) : Prop :=
  ∀ data, Json.dumps (.dict message) = .ok data → loads data = .ok (.dict message)

def Fits (message : PyDict) : Prop :=
  ∃ data, Json.dumps (.dict message) = .ok data ∧ data.length ≤ MAX_MESSAGE_BYTES

/-- A JSON-RPC message with its text. -/
structure Carried (loads : Bytes → Except PyExc PyVal) (message : PyDict) (data : Bytes) : Prop where
  dumps : Json.dumps (.dict message) = .ok data
  loads : loads data = .ok (.dict message)
  size : data.length ≤ MAX_MESSAGE_BYTES
  version : message.getD "jsonrpc" = .str "2.0"

section
variable {loads : Bytes → Except PyExc PyVal} {message : PyDict} {data : Bytes}

theorem Fits.carried (h : Fits message) (hloads : RoundTrips loads message)
    (hversion : message.getD "jsonrpc" = .str "2.0") : ∃ data, Carried loads message data := by
  obtain ⟨data, hdumps, hsize⟩ := h
  exact ⟨data, hdumps, hloads data hdumps, hsize, hversion⟩

namespace Carried

theorem encode (h : Carried loads message data) :
    (Json.codec loads).encodeMessage message = .ok (data ++ [LF]) :=
  Codec.encodeMessage_eq_ok.2 ⟨data, h.dumps, h.size, rfl⟩

theorem receive (h : Carried loads message data) (tooLong : PyStr) :
    (Json.codec loads).receiveMessage tooLong (data ++ [LF]) = .ok message := by
  have hloads : (Json.codec loads).loads data = .ok (.dict message) := h.loads
  exact Codec.receiveMessage_line hloads h.size (pyEq_str_right.2 h.version) tooLong

theorem lf_not_mem (hf : Json.OneLine) (h : Carried loads message data) : LF ∉ data :=
  Json.lf_not_mem_dumps hf _ _ h.dumps

end Carried

/-- Carried messages arrive one after the other. -/
theorem readlines_carried (hf : Json.OneLine) {bodies : List Bytes}
    (h : ∀ b ∈ bodies, ∃ m, Carried loads m b) :
    Lines.readlines LF (MAX_MESSAGE_BYTES + 2) [] (Lines.frames LF bodies) =
      bodies.map (· ++ [LF]) := by
  refine Lines.readlines_frames fun b hb => ?_
  obtain ⟨m, hm⟩ := h b hb
  have hsize := hm.size
  exact ⟨hm.lf_not_mem hf, by omega⟩

end

/-! ## The request -/

/-- A command as `serialize_command` writes it. -/
def commandPayload (c : Command) : PyVal :=
  .dict [("kind", .str (if c.isQuery then lit "query" else lit "write")), ("text", .str c.text)]

def executeMessage (requestId : PyVal) (batch : CommandBatch) : PyDict :=
  requestMessage requestId "execute" [("commands", .list (batch.commands.map commandPayload))]

omit [PyText] in
theorem mapM_eq_ok {α β : Type} {f : α → Except PyExc β} {k : α → β} {l : List α}
    (h : ∀ a ∈ l, f a = .ok (k a)) : l.mapM f = .ok (l.map k) := by
  induction l with
  | nil => rfl
  | cons a l ih =>
    rw [List.forall_mem_cons] at h
    rw [List.mapM_cons, h.1, ih h.2]
    rfl

omit [PyText] in
theorem serializeCommand_short {c : Command} (h : c.text.length ≤ MAX_COMMAND_BYTES) :
    serializeCommand c = .ok (commandPayload c) :=
  if_neg (by rw [length_encodeAscii]; exact not_lt.2 h)

omit [PyText] in
/-- An object with the kind and the text of a command is accepted. -/
theorem deserializeCommand_dict {d : PyDict} {c : Command}
    (hkind : d.getD "kind" = .str (if c.isQuery then lit "query" else lit "write"))
    (htext : d.getD "text" = .str c.text) (hsize : c.text.length ≤ MAX_COMMAND_BYTES) :
    deserializeCommand (.dict d) = .ok c := by
  simp only [deserializeCommand, htext, hkind, utf8Length_ascii c.valid.2.2]
  rw [if_neg (not_lt.2 hsize)]
  cases c with
  | write t => simp [Command.isQuery, Command.text, validatedCommand_valid t.valid, Except.map]
  | query t => simp [Command.isQuery, Command.text, validatedCommand_valid t.valid, Except.map]

omit [PyText] in
theorem requestedBatch_payloads {batch : CommandBatch}
    (hcount : batch.commands.length ≤ MAX_BATCH_COMMANDS)
    (hsize : ∀ c ∈ batch.commands, c.text.length ≤ MAX_COMMAND_BYTES) :
    requestedBatch [("commands", .list (batch.commands.map commandPayload))] = .ok batch := by
  obtain ⟨commands, hnonempty⟩ := batch
  have hdeserialize : (commands.map commandPayload).mapM deserializeCommand = .ok commands := by
    rw [List.mapM_map]
    have hall := mapM_eq_ok (f := deserializeCommand ∘ commandPayload) (k := id)
      fun c hc => deserializeCommand_dict rfl rfl (hsize c hc)
    rwa [List.map_id] at hall
  cases commands with
  | nil => exact absurd rfl hnonempty
  | cons c cs =>
    have hparams : PyDict.getD [("commands", .list ((c :: cs).map commandPayload))] "commands" =
        .list (commandPayload c :: cs.map commandPayload) := rfl
    rw [List.map_cons] at hdeserialize
    rw [requestedBatch, hparams]
    simp only [hdeserialize]
    rw [if_neg (by simpa using hcount), CommandBatch.make, dif_neg hnonempty]

/-! ## Heartbeats -/

def heartbeatMessage (requestId : PyVal) (state : PyStr) : PyDict :=
  [("jsonrpc", .str "2.0"), ("method", .str "heartbeat"),
    ("params", .dict [("request_id", requestId), ("state", .str state)])]

theorem heartbeatNotification_eq {state : PyStr} (h : state ∈ HEARTBEAT_STATES) (requestId : PyVal) :
    heartbeatNotification requestId state = .ok (heartbeatMessage requestId state) := if_pos h

omit [PyText] in
theorem parseHeartbeatNotification_beat {state : PyStr} (h : state ∈ HEARTBEAT_STATES) (n : ℤ) :
    parseHeartbeatNotification (heartbeatMessage (.int n) state) (.int n) = .ok (some state) := by
  have hmethod : (heartbeatMessage (.int n) state).getD "method" = .str "heartbeat" := rfl
  have hid : (heartbeatMessage (.int n) state).get "id" = none := rfl
  have hparams : (heartbeatMessage (.int n) state).getD "params" =
      .dict [("request_id", .int n), ("state", .str state)] := rfl
  have hrequest : PyDict.getD [("request_id", .int n), ("state", .str state)] "request_id" =
      .int n := rfl
  have hstate : PyDict.getD [("request_id", .int n), ("state", .str state)] "state" =
      .str state := rfl
  simp [parseHeartbeatNotification, hmethod, hid, hparams, hrequest, hstate, h]

section
open Json

theorem written_heartbeat {requestId : PyVal} {size : ℕ} (h : Written requestId size)
    (state : PyStr) :
    Written (.dict (heartbeatMessage requestId state)) (72 + size + (dumpsStr state).length) := by
  have hparams : Written (.dict [(lit "request_id", requestId), (lit "state", .str state)])
      (24 + size + (dumpsStr state).length) := by
    refine written_dict.2 ⟨_, entriesWritten_cons.2 ⟨_, _, h, entriesWritten_cons.2
      ⟨_, _, written_str.2 rfl, entriesWritten_nil, rfl⟩, rfl⟩, ?_⟩
    have hrequest : (dumpsStr (lit "request_id")).length = 12 := by decide
    have hstate : (dumpsStr (lit "state")).length = 7 := by decide
    omega
  refine written_dict.2 ⟨_, entriesWritten_cons.2 ⟨_, _, written_str.2 rfl, entriesWritten_cons.2
    ⟨_, _, written_str.2 rfl, entriesWritten_cons.2 ⟨_, _, hparams, entriesWritten_nil, rfl⟩, rfl⟩,
    rfl⟩, ?_⟩
  have hversion : (dumpsStr (lit "jsonrpc")).length + (dumpsStr (lit "2.0")).length = 14 := by decide
  have hmethod : (dumpsStr (lit "method")).length + (dumpsStr (lit "heartbeat")).length = 19 := by
    decide
  have hparams : (dumpsStr (lit "params")).length = 8 := by decide
  omega

theorem written_request {n : ℤ} {batch : CommandBatch} {size : ℕ}
    (h : Written (.dict (executeMessage (.int n) batch)) size) :
    ∃ digits, Written (.int n) digits ∧ 83 + digits ≤ size := by
  obtain ⟨commands, hnonempty⟩ := batch
  obtain ⟨c, cs, rfl⟩ := List.exists_cons_of_ne_nil hnonempty
  obtain ⟨_, hentries, hsize⟩ := written_dict.1 h
  obtain ⟨_, _, hversion, hafterVersion, hsize₁⟩ := entriesWritten_cons.1 hentries
  obtain ⟨digits, _, hid, hafterId, hsize₂⟩ := entriesWritten_cons.1 hafterVersion
  obtain ⟨_, _, hmethod, hafterMethod, hsize₃⟩ := entriesWritten_cons.1 hafterId
  obtain ⟨_, _, hparams, -, hsize₄⟩ := entriesWritten_cons.1 hafterMethod
  obtain ⟨_, hparamEntries, hsize₅⟩ := written_dict.1 hparams
  obtain ⟨_, _, hcommands, -, hsize₆⟩ := entriesWritten_cons.1 hparamEntries
  obtain ⟨_, hitems, hsize₇⟩ := written_list.1 hcommands
  obtain ⟨_, _, hcommand, -, hsize₈⟩ := itemsWritten_cons.1 hitems
  obtain ⟨_, hcommandEntries, hsize₉⟩ := written_dict.1 hcommand
  obtain ⟨_, _, -, hafterKind, hsize₁₀⟩ := entriesWritten_cons.1 hcommandEntries
  obtain ⟨_, _, -, -, hsize₁₁⟩ := entriesWritten_cons.1 hafterKind
  rw [written_str] at hversion hmethod
  have h₁ : (dumpsStr (lit "jsonrpc")).length + (dumpsStr (lit "2.0")).length = 14 := by decide
  have h₂ : (dumpsStr (lit "id")).length + (dumpsStr (lit "params")).length = 12 := by decide
  have h₃ : (dumpsStr (lit "method")).length + (dumpsStr (lit "execute")).length = 17 := by decide
  have h₄ : (dumpsStr (lit "commands")).length = 10 := by decide
  have h₅ : (dumpsStr (lit "kind")).length + (dumpsStr (lit "text")).length = 12 := by decide
  exact ⟨digits, hid, by omega⟩

/-- A heartbeat is shorter than the request it is about. -/
theorem fits_heartbeat {n : ℤ} {batch : CommandBatch} (h : Fits (executeMessage (.int n) batch))
    {state : PyStr} (hstate : state ∈ HEARTBEAT_STATES) :
    Fits (heartbeatMessage (.int n) state) := by
  obtain ⟨request, hrequest, hsize⟩ := h
  obtain ⟨digits, hdigits, hle⟩ := written_request ⟨request, hrequest, rfl⟩
  obtain ⟨data, hdata, hlength⟩ := written_heartbeat hdigits state
  have hshort : ∀ s ∈ HEARTBEAT_STATES, (dumpsStr s).length ≤ 11 := by decide
  have := hshort state hstate
  exact ⟨data, hdata, by omega⟩

end

section
variable {loads : Bytes → Except PyExc PyVal} {beat : PyStr → Bytes} {requestId : PyVal}

/-- While the client is connected, every heartbeat is sent. -/
theorem sendHeartbeats_carried {T : Turn} (hT : ∀ n, T.send n = none) (states : List PyStr) :
    ∀ w : Writes, w.connected = true → (∀ s ∈ states, s ∈ HEARTBEAT_STATES ∧
      Carried loads (heartbeatMessage requestId s) (beat s)) →
    ∃ count, sendHeartbeats (Json.codec loads) T requestId states w =
      (none, ⟨w.events ++ states.map fun s => .sent (beat s ++ [LF]), count, true⟩) := by
  induction states with
  | nil =>
    rintro ⟨events, count, connected⟩ hw -
    obtain rfl : connected = true := hw
    exact ⟨count, by simp [sendHeartbeats]⟩
  | cons s states ih =>
    rintro ⟨events, count, connected⟩ hw hstates
    obtain rfl : connected = true := hw
    rw [List.forall_mem_cons] at hstates
    obtain ⟨⟨hs, hcarried⟩, hrest⟩ := hstates
    obtain ⟨count', hsent⟩ := ih ⟨events ++ [.sent (beat s ++ [LF])], count + 1, true⟩ rfl hrest
    refine ⟨count', ?_⟩
    have hone : sendHeartbeat (Json.codec loads) T requestId s ⟨events, count, true⟩ =
        (none, ⟨events ++ [.sent (beat s ++ [LF])], count + 1, true⟩) := by
      have hdata : (heartbeatNotification requestId s).bind (Json.codec loads).encodeMessage =
          .ok (beat s ++ [LF]) := by
        rw [heartbeatNotification_eq hs]
        exact hcarried.encode
      simp [sendHeartbeat, hdata, hT]
    rw [sendHeartbeats, hone]
    simp only [hsent]
    simp

theorem receive_carried {message : PyDict} {data : Bytes} (h : Carried loads message data)
    {beat : Option PyStr} (hparse : parseHeartbeatNotification message requestId = .ok beat)
    (lines : List (Except PyExc Bytes)) :
    receive (Json.codec loads) requestId (.ok (data ++ [LF]) :: lines) =
      if beat.isSome then receive (Json.codec loads) requestId lines
      else (some (.ok message), lines) := by
  have hreceive := h.receive "Gateway response exceeded limits or lacked LF"
  obtain ⟨b, bs, hline⟩ := List.exists_cons_of_ne_nil (List.concat_ne_nil LF data)
  rw [hline] at hreceive ⊢
  rw [receive]
  simp only [hreceive, hparse]
  cases beat <;> rfl

/-- The client passes over the heartbeats of its request. -/
theorem receive_beats {n : ℤ} {response : PyDict} {data : Bytes} {states : List PyStr}
    (hstates : ∀ s ∈ states, s ∈ HEARTBEAT_STATES ∧
      Carried loads (heartbeatMessage (.int n) s) (beat s))
    (hresponse : Carried loads response data)
    (hfinal : parseHeartbeatNotification response (.int n) = .ok none) :
    receive (Json.codec loads) (.int n)
      (states.map (fun s => .ok (beat s ++ [LF])) ++ [.ok (data ++ [LF])]) =
        (some (.ok response), []) := by
  induction states with
  | nil => exact receive_carried hresponse hfinal []
  | cons s states ih =>
    rw [List.forall_mem_cons] at hstates
    obtain ⟨⟨hs, hcarried⟩, hrest⟩ := hstates
    rw [List.map_cons, List.cons_append,
      receive_carried hcarried (parseHeartbeatNotification_beat hs n)]
    exact ih hrest

end

/-! ## The handler -/

/-- The result of an execute request, for the outcome that the owner hands back. -/
def executeResult (outcome : Except PyExc BatchResult) : Except PyExc PyVal :=
  match outcome with
  | .ok result => .ok (.dict [("values", .list (result.values.map fun v => v.elim .none .str))])
  | .error e => .error (e.setattr "gateway_remote_traceback" (remoteTraceback e))

/-- The response to an execute request, for the outcome of the physical executor. -/
def finalResponse (requestId : PyVal) (outcome : Except PyExc BatchResult) : PyDict :=
  response requestId (executeResult (handedOutcome outcome))

section
variable {loads : Bytes → Except PyExc PyVal} {beat : PyStr → Bytes} {requestId : PyVal}
  {batch : CommandBatch} {states : List PyStr} {physical : CommandBatch → Except PyExc BatchResult}

theorem executeRequest_carried {T : Turn} (hT : ∀ n, T.send n = none)
    (howner : T.owner = ownerOf states physical) {params : PyDict}
    (hparams : requestedBatch params = .ok batch)
    (hstates : ∀ s ∈ states, s ∈ HEARTBEAT_STATES ∧
      Carried loads (heartbeatMessage requestId s) (beat s)) (session : Session) :
    ∃ count, executeRequest (Json.codec loads) T requestId params session =
      ⟨some session, executeResult (handedOutcome (physical batch)), false,
        some (batch, session.settings),
        ⟨states.map fun s => .sent (beat s ++ [LF]), count, true⟩⟩ := by
  obtain ⟨count, hsent⟩ := sendHeartbeats_carried hT states noWrites rfl hstates
  refine ⟨count, ?_⟩
  have hpair : T.owner batch session.settings = (states, handedOutcome (physical batch)) := by
    rw [howner]
    rfl
  rw [executeRequest, hparams]
  simp only [hpair, hsent]
  cases handedOutcome (physical batch) with
  | ok result => simp [executeResult, noWrites]
  | error e => simp [executeResult, noWrites]

/-- What the handler does on the line of an execute request. -/
theorem turn_execute (g : GatewayServer) {session : Session} {data answer : Bytes}
    (hcount : batch.commands.length ≤ MAX_BATCH_COMMANDS)
    (hsize : ∀ c ∈ batch.commands, c.text.length ≤ MAX_COMMAND_BYTES)
    (hrequest : Carried loads (executeMessage requestId batch) data)
    (hstates : ∀ s ∈ states, s ∈ HEARTBEAT_STATES ∧
      Carried loads (heartbeatMessage requestId s) (beat s))
    (hresponse : Carried loads (finalResponse requestId (physical batch)) answer) :
    (g.turn (Json.codec loads) ⟨.ok (data ++ [LF]), ownerOf states physical, fun _ => none⟩
      (some session)).1 =
        .received (data ++ [LF]) :: .submitted batch session.settings ::
          (states.map (fun s => .sent (beat s ++ [LF])) ++ [.sent (answer ++ [LF])]) := by
  set T : Turn := ⟨.ok (data ++ [LF]), ownerOf states physical, fun _ => none⟩ with hT
  obtain ⟨count, hreply⟩ := executeRequest_carried (T := T) (fun _ => rfl) rfl
    (requestedBatch_payloads hcount hsize) hstates session
  have hreceive := hrequest.receive "Request exceeded limits or lacked LF"
  have hid : (executeMessage requestId batch).getD "id" = requestId := rfl
  have hmethod : (executeMessage requestId batch).getD "method" = .str "execute" := rfl
  have hparams : ((executeMessage requestId batch).get "params").getD (.dict []) =
      .dict [("commands", .list (batch.commands.map commandPayload))] := rfl
  have hanswer : g.answer (Json.codec loads) T (some session) requestId (.str "execute")
      (.dict [("commands", .list (batch.commands.map commandPayload))]) =
      executeRequest (Json.codec loads) T requestId
        [("commands", .list (batch.commands.map commandPayload))] session := by
    simp only [GatewayServer.answer, if_true]
  have hencode := hresponse.encode
  rw [finalResponse] at hencode
  have hlineT : T.line = .ok (data ++ [LF]) := rfl
  obtain ⟨b, bs, hline⟩ := List.exists_cons_of_ne_nil (List.concat_ne_nil LF data)
  rw [hline] at hreceive hlineT ⊢
  rw [GatewayServer.turn, hlineT]
  simp only [hreceive, hid, hmethod, hparams, hanswer, hreply, respond, hencode]
  simp [hT]

end

/-! ## The exception -/

/-- The same class, arguments and batch position. -/
structure SameException (e e' : PyExc) : Prop where
  cls : e.cls = e'.cls
  args : e.args = e'.args
  annotations : ∀ name ∈ ANNOTATIONS, e.attrs.get name = e'.attrs.get name

/-- A batch position: none, or a position, a kind and a text. -/
inductive Annotated (e : PyExc) : Prop
  | none : (∀ name ∈ ANNOTATIONS, e.attrs.get name = none) → Annotated e
  | position (index : ℤ) (kind command : PyStr) : (kind = lit "write" ∨ kind = lit "query") →
      e.attrs.get "batch_command_index" = some (.int index) →
      e.attrs.get "batch_command_kind" = some (.str kind) →
      e.attrs.get "batch_command" = some (.str command) → Annotated e

/-- The JSON scalars. -/
def IsScalar : PyVal → Prop
  | .none | .bool _ | .int _ | .float _ | .str _ => True
  | .list _ | .dict _ | .obj _ _ => False

/-- An exception of a canonical type, as its class builds it, with the arguments and the batch
    position that a message can carry. -/
structure Reportable (e : PyExc) : Prop where
  canonical : e.cls ∈ ExcClass.canonicalExceptionTypes
  notVerification : e.cls ≠ .spd3000VerificationError
  built : PyExc.initArgs e.cls e.args = e.args
  scalars : ∀ a ∈ e.args, IsScalar a
  annotated : Annotated e

theorem jsonSafe_scalar {v : PyVal} (h : IsScalar v) : jsonSafe v = v := by
  cases v with
  | list _ | dict _ | obj _ _ => exact h.elim
  | _ => rfl

omit [PyText] in
theorem canonical_spd3000Error : ∀ cls ∈ ExcClass.canonicalExceptionTypes,
    cls.isSubclass .spd3000Error = true := by decide

omit [PyText] in
theorem southboundClass_name : ∀ cls ∈ ExcClass.canonicalExceptionTypes,
    southboundClass (.str cls.name) = some cls := by decide

omit [PyText] in
theorem sameException_setattr (e : PyExc) {name : PyStr} (h : name ∉ ANNOTATIONS) (v : PyVal) :
    SameException (e.setattr name v) e := by
  refine ⟨rfl, rfl, fun n hn => ?_⟩
  rw [PyExc.get_setattr, if_neg]
  rintro rfl
  exact h hn

omit [PyText] in
theorem SameException.trans {e e' e'' : PyExc} (h : SameException e e') (h' : SameException e' e'') :
    SameException e e'' :=
  ⟨h.cls.trans h'.cls, h.args.trans h'.args,
    fun n hn => (h.annotations n hn).trans (h'.annotations n hn)⟩

omit [PyText] in
theorem addRemoteTraceback_same (remoteTraceback : PyVal) (e : PyExc) :
    SameException (addRemoteTraceback remoteTraceback e) e := by
  unfold addRemoteTraceback
  split
  · exact (sameException_setattr _ (by decide) _).trans (sameException_setattr _ (by decide) _)
  · exact ⟨rfl, rfl, fun _ _ => rfl⟩

omit [PyText] in
/-- What a message says about an exception stays the same. -/
theorem Reportable.congr {e e' : PyExc} (h : Reportable e) (hs : SameException e' e) :
    Reportable e' := by
  obtain ⟨hcls, hargs, hannotations⟩ := hs
  refine ⟨hcls ▸ h.canonical, hcls ▸ h.notVerification, ?_, hargs ▸ h.scalars, ?_⟩
  · rw [hcls, hargs]
    exact h.built
  · cases h.annotated with
    | none hnone => exact .none fun n hn => (hannotations n hn).trans (hnone n hn)
    | position index kind command hkind h1 h2 h3 =>
      exact .position index kind command hkind ((hannotations _ (by decide)).trans h1)
        ((hannotations _ (by decide)).trans h2) ((hannotations _ (by decide)).trans h3)

/-- The position fields of a serialized exception. -/
def positionFields (e : PyExc) : PyDict :=
  (ANNOTATIONS.map fun name => (name, e.getattr name)).filter fun kv => isIntOrStr kv.2

omit [PyText] in
theorem positionFields_none {e : PyExc} (h : ∀ name ∈ ANNOTATIONS, e.attrs.get name = none) :
    positionFields e = [] := by
  rw [positionFields, List.filter_eq_nil_iff]
  intro kv hkv
  obtain ⟨name, hname, rfl⟩ := List.mem_map.1 hkv
  simp [PyExc.getattr, PyDict.getD, h name hname, isIntOrStr]

omit [PyText] in
theorem positionFields_position {e : PyExc} {index : ℤ} {kind command : PyStr}
    (h1 : e.attrs.get "batch_command_index" = some (.int index))
    (h2 : e.attrs.get "batch_command_kind" = some (.str kind))
    (h3 : e.attrs.get "batch_command" = some (.str command)) :
    positionFields e = [(lit "batch_command_index", .int index),
      (lit "batch_command_kind", .str kind), (lit "batch_command", .str command)] := by
  simp [positionFields, ANNOTATIONS, PyExc.getattr, PyDict.getD, h1, h2, h3, isIntOrStr]

/-- The message that says what a reportable exception is. -/
theorem serializeException_reportable {e : PyExc} (h : Reportable e) (remoteTraceback : PyVal) :
    serializeException e remoteTraceback =
      [(lit "kind", .str "southbound"), (lit "exception_type", .str e.cls.name),
        (lit "args", .list e.args), (lit "remote_traceback", remoteTraceback)] ++
          positionFields e := by
  have hargs : e.args.map jsonSafe = e.args := by
    conv_rhs => rw [← List.map_id e.args]
    exact List.map_congr_left fun a ha => jsonSafe_scalar (h.scalars a ha)
  have hspd : e.isinstance .spd3000Error = true := canonical_spd3000Error _ h.canonical
  rw [serializeException, if_pos hspd, hargs]
  rfl

theorem rebuildException_southbound {e : PyExc} (h : Reportable e) {data : PyDict}
    (hkind : data.getD "kind" = .str "southbound")
    (htype : data.getD "exception_type" = .str e.cls.name)
    (hargs : data.get "args" = some (.list e.args)) :
    rebuildException data = restoreAnnotations data ⟨e.cls, e.args, []⟩ := by
  have hcall : southboundCall e.cls e.args = .ok ⟨e.cls, e.args, []⟩ := by
    unfold southboundCall
    rw [if_neg h.notVerification, PyExc.new, h.built]
  rw [rebuildException, hkind, if_pos (by simp), htype, southboundClass_name _ h.canonical, hargs]
  simp only [Option.getD_some, hcall]

omit [PyText] in
/-- The client gives the position back to the exception that it rebuilds. -/
theorem restoreAnnotations_same {e : PyExc} (h : Annotated e) {head : PyDict}
    (hhead : ∀ name ∈ ANNOTATIONS, head.get name = none) :
    ∃ e', restoreAnnotations (head ++ positionFields e) ⟨e.cls, e.args, []⟩ = .ok e' ∧
      SameException e' e := by
  have hget : ∀ name ∈ ANNOTATIONS,
      PyDict.getD (head ++ positionFields e) name = (positionFields e).getD name := by
    intro name hname
    have hnone : List.lookup name head = none := hhead name hname
    rw [PyDict.getD, PyDict.get, List.lookup_append, hnone, Option.none_or]
    rfl
  have hindex := hget "batch_command_index" (by decide)
  have hkind := hget "batch_command_kind" (by decide)
  have hcommand := hget "batch_command" (by decide)
  cases h with
  | none hnone =>
    rw [positionFields_none hnone] at hindex hkind hcommand ⊢
    refine ⟨⟨e.cls, e.args, []⟩, ?_, rfl, rfl, fun n hn => (hnone n hn).symm⟩
    rw [restoreAnnotations, hindex, hkind, hcommand]
    rfl
  | position index kind command hwq h1 h2 h3 =>
    rw [positionFields_position h1 h2 h3] at hindex hkind hcommand ⊢
    have hset : pyEq (.str kind) (.str "write") || pyEq (.str kind) (.str "query") := by
      rcases hwq with rfl | rfl <;> simp
    refine ⟨((PyExc.setattr ⟨e.cls, e.args, []⟩ "batch_command_index" (.int index)).setattr
      "batch_command_kind" (.str kind)).setattr "batch_command" (.str command), ?_, rfl, rfl, ?_⟩
    · have hi : PyDict.getD [(lit "batch_command_index", .int index),
          (lit "batch_command_kind", .str kind), (lit "batch_command", .str command)]
          "batch_command_index" = .int index := rfl
      have hk : PyDict.getD [(lit "batch_command_index", .int index),
          (lit "batch_command_kind", .str kind), (lit "batch_command", .str command)]
          "batch_command_kind" = .str kind := rfl
      have hc : PyDict.getD [(lit "batch_command_index", .int index),
          (lit "batch_command_kind", .str kind), (lit "batch_command", .str command)]
          "batch_command" = .str command := rfl
      rw [restoreAnnotations, hindex, hkind, hcommand, hi, hk, hc]
      simp only [hset, if_true]
      rfl
    · intro name hname
      simp only [ANNOTATIONS, List.mem_cons, List.not_mem_nil, or_false] at hname
      rcases hname with rfl | rfl | rfl
      · exact h1.symm
      · exact h2.symm
      · exact h3.symm

/-- The client rebuilds the exception that the gateway has serialized. -/
theorem reconstruct_serialize {e : PyExc} (h : Reportable e) (remoteTraceback : PyVal) :
    ∃ e', reconstructException (.dict (serializeException e remoteTraceback)) = .ok e' ∧
      SameException e' e := by
  have hhead : ∀ name ∈ ANNOTATIONS, PyDict.get [(lit "kind", .str "southbound"),
      (lit "exception_type", .str e.cls.name), (lit "args", .list e.args),
      (lit "remote_traceback", remoteTraceback)] name = none := by
    intro name hname
    simp only [ANNOTATIONS, List.mem_cons, List.not_mem_nil, or_false] at hname
    rcases hname with rfl | rfl | rfl <;> rfl
  obtain ⟨e', hrestore, hsame⟩ := restoreAnnotations_same h.annotated hhead
  refine ⟨addRemoteTraceback remoteTraceback e', ?_,
    (addRemoteTraceback_same remoteTraceback e').trans hsame⟩
  rw [serializeException_reportable h, reconstructException,
    rebuildException_southbound h rfl rfl rfl, hrestore]
  rfl

/-! ## The client -/

/-- What a client may learn of an outcome: all of a result, and of an exception its class, its
    arguments and its batch position. -/
inductive SameOutcome : Except PyExc BatchResult → Except PyExc BatchResult → Prop
  | returned (result : BatchResult) : SameOutcome (.ok result) (.ok result)
  | raised {e e' : PyExc} : SameException e e' → SameOutcome (.error e) (.error e')

/-- An outcome of the physical executor that a message can carry. -/
inductive Deliverable (batch : CommandBatch) : Except PyExc BatchResult → Prop
  | returned {result : BatchResult} : result.values.length = batch.commands.length →
      Deliverable batch (.ok result)
  | raised {e : PyExc} : Reportable e → Deliverable batch (.error e)

theorem parseHeartbeatNotification_final (n : ℤ) (outcome : Except PyExc BatchResult) :
    parseHeartbeatNotification (finalResponse (.int n) outcome) (.int n) = .ok none := by
  have hmethod : (finalResponse (.int n) outcome).getD "method" = .none := by
    rw [finalResponse]
    cases executeResult (handedOutcome outcome) <;> rfl
  have hnot : pyEq .none (.str "heartbeat") = false := by simp [pyEq, PyVal.number]
  rw [parseHeartbeatNotification, hmethod, hnot]
  rfl

omit [PyText] in
/-- The client reads the values that the gateway has written. -/
theorem batchResult_values {batch : CommandBatch} {result : BatchResult}
    (h : result.values.length = batch.commands.length) :
    GatewayExecutor.batchResult batch
      (.dict [("values", .list (result.values.map fun v => v.elim .none .str))]) = .ok result := by
  have htexts : (result.values.map fun v => v.elim PyVal.none .str).mapM
      GatewayExecutor.textOrNone = some result.values := by
    induction result.values with
    | nil => rfl
    | cons v values ih =>
      rw [List.map_cons, List.mapM_cons, ih]
      cases v <;> rfl
  have hvalues : PyDict.getD [("values", .list (result.values.map fun v => v.elim .none .str))]
      "values" = .list (result.values.map fun v => v.elim .none .str) := rfl
  simp only [GatewayExecutor.batchResult, hvalues, htexts]
  rw [List.length_map, if_pos h]

theorem resultOf_returned (result : BatchResult) (n : ℤ) :
    resultOf (.int n) (finalResponse (.int n) (.ok result)) =
      .ok (.dict [("values", .list (result.values.map fun v => v.elim .none .str))]) := by
  have hid : (finalResponse (.int n) (.ok result)).getD "id" = .int n := rfl
  have herror : (finalResponse (.int n) (.ok result)).get "error" = none := rfl
  have hresult : (finalResponse (.int n) (.ok result)).get "result" =
      some (.dict [("values", .list (result.values.map fun v => v.elim .none .str))]) := rfl
  rw [resultOf, hid, herror, hresult]
  simp

theorem resultOf_raised {e : PyExc} (h : Reportable e) (n : ℤ) :
    ∃ e', resultOf (.int n) (finalResponse (.int n) (.error e)) = .error e' ∧
      SameException e' e := by
  set handed : PyExc := (e.setattr "gateway_remote_traceback" (.str (PyText.traceback e)))
  set sent : PyExc := handed.setattr "gateway_remote_traceback" (remoteTraceback handed)
  have hsent : SameException sent e :=
    (sameException_setattr _ (by decide) _).trans (sameException_setattr _ (by decide) _)
  obtain ⟨e', hrebuilt, hsame⟩ := reconstruct_serialize (h.congr hsent) (remoteTraceback sent)
  refine ⟨e', ?_, hsame.trans hsent⟩
  have hid : (finalResponse (.int n) (.error e)).getD "id" = .int n := rfl
  have herror : (finalResponse (.int n) (.error e)).get "error" = some (.dict [("code", .int (-32000)),
      ("message", .str (PyText.str sent)),
      ("data", .dict (serializeException sent (remoteTraceback sent)))]) := rfl
  have hdata : PyDict.getD [("code", .int (-32000)), ("message", .str (PyText.str sent)),
      ("data", .dict (serializeException sent (remoteTraceback sent)))] "data" =
      .dict (serializeException sent (remoteTraceback sent)) := rfl
  rw [resultOf, hid, herror]
  simp only [hdata, hrebuilt]
  simp

/-! ## The round -/

/-- A client with an open session and nothing left unread sends a batch: the conditions on the
    batch, the heartbeats, the outcome and the messages. -/
structure Exchange (loads : Bytes → Except PyExc PyVal) (x : GatewayExecutor) (batch : CommandBatch)
    (states : List PyStr) (outcome : Except PyExc BatchResult) : Prop where
  opened : x.closed = false
  unread : x.unread = []
  count : batch.commands.length ≤ MAX_BATCH_COMMANDS
  beats : ∀ s ∈ states, s ∈ HEARTBEAT_STATES
  deliverable : Deliverable batch outcome
  request : Fits (executeMessage (.int x.nextId) batch)
  response : Fits (finalResponse (.int x.nextId) outcome)
  roundTrips : ∀ m ∈ executeMessage (.int x.nextId) batch :: finalResponse (.int x.nextId) outcome ::
    states.map (heartbeatMessage (.int x.nextId)), RoundTrips loads m
  oneLine : Json.OneLine

section
variable {loads : Bytes → Except PyExc PyVal} {x : GatewayExecutor} {batch : CommandBatch}
  {states : List PyStr} {outcome : Except PyExc BatchResult}

/-- The messages of an exchange are carried. -/
theorem Exchange.carried (h : Exchange loads x batch states outcome) :
    (∃ data, Carried loads (executeMessage (.int x.nextId) batch) data) ∧
    (∃ answer, Carried loads (finalResponse (.int x.nextId) outcome) answer) ∧
    ∃ beat : PyStr → Bytes, ∀ s ∈ states, s ∈ HEARTBEAT_STATES ∧
      Carried loads (heartbeatMessage (.int x.nextId) s) (beat s) := by
  have hround := h.roundTrips
  rw [List.forall_mem_cons, List.forall_mem_cons] at hround
  obtain ⟨hrequest, hresponse, hbeats⟩ := hround
  refine ⟨h.request.carried hrequest rfl, h.response.carried hresponse ?_, ?_⟩
  · rw [finalResponse]
    cases executeResult (handedOutcome outcome) <;> rfl
  · have hbeat : ∀ s, ∃ data, s ∈ states →
        Carried loads (heartbeatMessage (.int x.nextId) s) data := by
      intro s
      by_cases hs : s ∈ states
      · obtain ⟨data, hdata⟩ := (fits_heartbeat h.request (h.beats s hs)).carried
          (hbeats _ (List.mem_map_of_mem hs)) rfl
        exact ⟨data, fun _ => hdata⟩
      · exact ⟨[], fun hmem => absurd hmem hs⟩
    choose beat hbeat using hbeat
    exact ⟨beat, fun s hs => ⟨h.beats s hs, hbeat s hs⟩⟩

/-- The batch arrives at the owner, and what comes back over the connection is read up to the
    response. -/
theorem Exchange.served {physical : CommandBatch → Except PyExc BatchResult}
    (h : Exchange loads x batch states (physical batch))
    (hsize : ∀ c ∈ batch.commands, c.text.length ≤ MAX_COMMAND_BYTES) (g : GatewayServer)
    (session : Session) :
    ∃ data, (Json.codec loads).encodeMessage (executeMessage (.int x.nextId) batch) = .ok data ∧
      submittedBatches (g.serveRequest (Json.codec loads) session (ownerOf states physical) data) =
        [(batch, session.settings)] ∧
      receive (Json.codec loads) (.int x.nextId)
        ((g.stream (Json.codec loads) session (ownerOf states physical)).arriving data) =
          (some (.ok (finalResponse (.int x.nextId) (physical batch))), []) := by
  obtain ⟨⟨data, hdata⟩, ⟨answer, hanswer⟩, beat, hbeat⟩ := h.carried
  refine ⟨data ++ [LF], hdata.encode, ?_⟩
  have hline : Lines.readlines LF (MAX_MESSAGE_BYTES + 2) [] (data ++ [LF]) = [data ++ [LF]] := by
    have hone : ∀ b ∈ [data], ∃ m, Carried loads m b := by
      rw [List.forall_mem_singleton]
      exact ⟨_, hdata⟩
    simpa [Lines.frames] using readlines_carried h.oneLine hone
  have hserved : g.serveRequest (Json.codec loads) session (ownerOf states physical) (data ++ [LF]) =
      .received (data ++ [LF]) :: .submitted batch session.settings ::
        (states.map (fun s => .sent (beat s ++ [LF])) ++ [.sent (answer ++ [LF])]) := by
    rw [GatewayServer.serveRequest, hline]
    exact turn_execute g h.count hsize hdata hbeat hanswer
  have hsent : sentData (g.serveRequest (Json.codec loads) session (ownerOf states physical)
      (data ++ [LF])) = Lines.frames LF (states.map beat ++ [answer]) := by
    rw [hserved]
    simp [sentData, Lines.frames, List.flatMap_map]
  refine ⟨?_, ?_⟩
  · rw [hserved]
    simp [submittedBatches]
  · have hall : ∀ b ∈ states.map beat ++ [answer], ∃ m, Carried loads m b := by
      intro b hb
      rcases List.mem_append.1 hb with hb | hb
      · obtain ⟨s, hs, rfl⟩ := List.mem_map.1 hb
        exact ⟨_, (hbeat s hs).2⟩
      · obtain rfl := List.mem_singleton.1 hb
        exact ⟨_, hanswer⟩
    have hreceive := receive_beats hbeat hanswer
      (parseHeartbeatNotification_final x.nextId (physical batch))
    rw [GatewayServer.stream]
    dsimp only
    rw [hsent, readlines_carried h.oneLine hall]
    simpa [Function.comp_def] using hreceive

/-- The owner gets the batch as it is, once, under the settings of the session; and the call ends
    as the one of the physical executor does, with the client ready for the next one. -/
def Transparent (g : GatewayServer) (session : Session) (loads : Bytes → Except PyExc PyVal)
    (x : GatewayExecutor) (batch : CommandBatch) (states : List PyStr)
    (physical : CommandBatch → Except PyExc BatchResult) : Prop :=
  ∃ data r, (Json.codec loads).encodeMessage (executeMessage (.int x.nextId) batch) = .ok data ∧
    submittedBatches (g.serveRequest (Json.codec loads) session (ownerOf states physical) data) =
      [(batch, session.settings)] ∧
    x.execute (Json.codec loads) (g.stream (Json.codec loads) session (ownerOf states physical))
      batch = (some r, ⟨x.nextId + 1, false, []⟩) ∧
    SameOutcome r (physical batch)

/-- **Gateway transparency.** -/
theorem gateway_transparent (g : GatewayServer) (session : Session)
    {physical : CommandBatch → Except PyExc BatchResult}
    (h : Exchange loads x batch states (physical batch))
    (hsize : ∀ c ∈ batch.commands, c.text.length ≤ MAX_COMMAND_BYTES) :
    Transparent g session loads x batch states physical := by
  obtain ⟨data, hencode, hsubmitted, hreceive⟩ := h.served hsize g session
  have hcommands : batch.commands.mapM serializeCommand = .ok (batch.commands.map commandPayload) :=
    mapM_eq_ok fun c hc => serializeCommand_short (hsize c hc)
  have hrequest : x.request (Json.codec loads)
      (g.stream (Json.codec loads) session (ownerOf states physical)) "execute"
      [("commands", .list (batch.commands.map commandPayload))] =
      (some (resultOf (.int x.nextId) (finalResponse (.int x.nextId) (physical batch))),
        ⟨x.nextId + 1, false, []⟩) := by
    have hwrite : (g.stream (Json.codec loads) session (ownerOf states physical)).write data =
        .ok data.length := rfl
    rw [executeMessage] at hencode
    rw [GatewayExecutor.request, if_neg (by simp [h.opened])]
    simp only [hencode, hwrite, List.take_length, h.unread, List.nil_append, hreceive, h.opened]
    rfl
  rw [Transparent, GatewayExecutor.execute, hcommands]
  simp only [hrequest]
  cases hout : physical batch with
  | ok result =>
    have hdeliverable := h.deliverable
    rw [hout] at hdeliverable
    cases hdeliverable with
    | returned hlength =>
      refine ⟨data, .ok result, hencode, hsubmitted, ?_, .returned result⟩
      rw [resultOf_returned]
      simp only [Option.map_some, batchResult_values hlength]
  | error e =>
    have hdeliverable := h.deliverable
    rw [hout] at hdeliverable
    cases hdeliverable with
    | raised he =>
      obtain ⟨e', hresult, hsame⟩ := resultOf_raised he x.nextId
      refine ⟨data, .error e', hencode, hsubmitted, ?_, .raised hsame⟩
      rw [hresult]
      rfl

end

/-! ## Two batches -/

/-- Reads back the texts of some messages. -/
def readBack (messages : List PyDict) (data : Bytes) : Except PyExc PyVal :=
  match messages.find? fun m => (Json.dumps (.dict m)).toOption == some data with
  | some m => .ok (.dict m)
  | none => .error (.msg .jsonDecodeError "Expecting value: line 1 column 1 (char 0)")

theorem readBack_roundTrips {messages : List PyDict} (h : messages.Pairwise fun m m' =>
    (Json.dumps (.dict m)).toOption ≠ (Json.dumps (.dict m')).toOption) :
    ∀ m ∈ messages, RoundTrips (readBack messages) m := by
  intro m hm data hdata
  have hfind : messages.find? (fun m => (Json.dumps (.dict m)).toOption == some data) = some m := by
    have hsome : (Json.dumps (.dict m)).toOption = some data := by rw [hdata]; rfl
    induction messages with
    | nil => cases hm
    | cons m' messages ih =>
      rw [List.pairwise_cons] at h
      rcases List.mem_cons.1 hm with rfl | hm
      · rw [List.find?_cons_of_pos]
        simp [hsome]
      · have hne := h.1 m hm
        rw [hsome] at hne
        rw [List.find?_cons_of_neg (by simpa using hne)]
        exact ih h.2 hm
  rw [readBack, hfind]

/-- A gateway without a token. -/
def openGateway : GatewayServer := ⟨none, "0123abc", by simp, by decide⟩

def measureCurrent : CommandBatch := ⟨[.query ⟨"MEAS:CURR? CH2", by decide⟩], List.cons_ne_nil _ _⟩

omit [PyText] in
/-- The query goes through the gateway, with two heartbeats on the way. -/
theorem gateway_transparent_current : @Transparent PyText.blank openGateway ⟨.default⟩
    (@readBack PyText.blank [executeMessage (.int 2) measureCurrent,
      @finalResponse PyText.blank (.int 2) (.ok ⟨[some (lit "0.125")]⟩),
      heartbeatMessage (.int 2) "queued", heartbeatMessage (.int 2) "executing"])
    ⟨2, false, []⟩ measureCurrent [lit "queued", lit "executing"]
    fun _ => .ok ⟨[some (lit "0.125")]⟩ := by
  let _ : PyText := PyText.blank
  refine gateway_transparent _ _ ⟨rfl, rfl, by decide, by decide, .returned rfl,
    ⟨_, rfl, by decide +kernel⟩, ⟨_, rfl, by decide +kernel⟩, readBack_roundTrips (by decide +kernel),
    fun _ => List.not_mem_nil⟩ ?_
  decide

omit [PyText] in
theorem validCommand_replicate (n : ℕ) : ValidCommand (List.replicate (n + 1) 65) := by
  have hspace : isSpace 65 = false := by decide
  have hstrip : strip (List.replicate (n + 1) 65) = List.replicate (n + 1) 65 := by
    have hdrop : (List.replicate (n + 1) 65).dropWhile isSpace = List.replicate (n + 1) 65 := by
      rw [List.replicate_succ, List.dropWhile_cons_of_neg (by simp [hspace])]
    rw [strip, hdrop, List.reverse_replicate, hdrop, List.reverse_replicate]
  refine ⟨?_, by simp [hasLineTerminator], by simp [isAscii]⟩
  rw [hstrip]
  exact List.cons_ne_nil _ _

/-- A write of 4097 bytes. -/
def longWrite : CommandBatch :=
  ⟨[.write ⟨List.replicate 4097 65, validCommand_replicate 4096⟩], List.cons_ne_nil _ _⟩

omit [PyText] in
/-- The gateway refuses a command of 4097 bytes, which the physical executor would take. -/
theorem long_command_refused :
    ¬ ∀ [PyText] (g : GatewayServer) (session : Session) (loads : Bytes → Except PyExc PyVal)
      (x : GatewayExecutor) (batch : CommandBatch) (states : List PyStr)
      (physical : CommandBatch → Except PyExc BatchResult),
      Exchange loads x batch states (physical batch) →
      Transparent g session loads x batch states physical := by
  intro hall
  let _ : PyText := PyText.blank
  have hexchange : Exchange (readBack [executeMessage (.int 2) longWrite,
      finalResponse (.int 2) (.ok ⟨[none]⟩)]) ⟨2, false, []⟩ longWrite [] (.ok ⟨[none]⟩) :=
    ⟨rfl, rfl, by decide, by decide, .returned rfl, ⟨_, rfl, by decide +kernel⟩,
      ⟨_, rfl, by decide⟩, readBack_roundTrips (by decide), fun _ => List.not_mem_nil⟩
  obtain ⟨data, r, -, -, hexecute, hsame⟩ := hall openGateway ⟨.default⟩ _ _ longWrite []
    (fun _ => .ok ⟨[none]⟩) hexchange
  have hrefused : longWrite.commands.mapM serializeCommand =
      .error (.msg .gatewayProtocolError "SCPI command exceeds 4096 bytes") := by
    have hlong : serializeCommand (.write ⟨List.replicate 4097 65, validCommand_replicate 4096⟩) =
        .error (.msg .gatewayProtocolError "SCPI command exceeds 4096 bytes") :=
      if_pos (by rw [length_encodeAscii, Command.text, List.length_replicate]; decide)
    rw [longWrite, List.mapM_cons, hlong]
    rfl
  rw [GatewayExecutor.execute, hrefused] at hexecute
  have hr := congrArg Prod.fst hexecute
  cases hr
  cases hsame

end Spd3000
