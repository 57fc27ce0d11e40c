/-
  The messages between a gateway and its clients (`gateway/protocol.py`): framing,
  heartbeats, commands and exceptions as JSON objects.

  `json.dumps` and `json.loads` are a `Codec`.  What the interpreter renders
  (`repr`, `str`, tracebacks) is a `PyText`.
-/
import Spd3000.Execution

namespace Spd3000

variable [PyText]

/-! ## Messages -/

def MAX_MESSAGE_BYTES : ℕ := 1024 * 1024

def MAX_BATCH_COMMANDS : ℕ := 256

def MAX_COMMAND_BYTES : ℕ := 4096

/-- JSON texts: `json.dumps(message, ...).encode("utf-8")` and
    `json.loads(data.decode("utf-8"))`. -/
structure Codec where
  dumps : PyVal → Except PyExc Bytes
  loads : Bytes → Except PyExc PyVal

namespace Codec
variable (J : Codec)

def encodeMessage (message : PyDict) : Except PyExc Bytes :=
  match J.dumps (.dict message) with
  | .error e =>
    if e.isinstance .typeError || e.isinstance .valueError then
      .error (.msg .gatewayProtocolError
        (lit "Message is not JSON serializable: " ++ PyText.str e))
    else .error e
  | .ok encoded =>
    if MAX_MESSAGE_BYTES < encoded.length then
      .error (.msg .gatewayProtocolError "Gateway message exceeds 1 MiB")
    else .ok (encoded ++ [LF])

def decodeMessage (data : Bytes) : Except PyExc PyDict :=
  if MAX_MESSAGE_BYTES < data.length then
    .error (.msg .gatewayProtocolError "Gateway message exceeds 1 MiB")
  else match J.loads data with
    | .error e =>
      if e.isinstance .unicodeDecodeError || e.isinstance .jsonDecodeError then
        .error (.msg .gatewayProtocolError (lit "Malformed JSON-RPC message: " ++ PyText.str e))
      else .error e
    | .ok (.dict message) =>
      if pyEq (PyDict.getD message "jsonrpc") (.str "2.0") then .ok message
      else .error (.msg .gatewayProtocolError "Expected a JSON-RPC 2.0 object")
    | .ok _ => .error (.msg .gatewayProtocolError "Expected a JSON-RPC 2.0 object")

/-- The message of a line read with `readline(MAX_MESSAGE_BYTES + 2)`. -/
def receiveMessage (tooLong : PyStr) (line : Bytes) : Except PyExc PyDict :=
  if MAX_MESSAGE_BYTES + 1 < line.length ∨ line.getLast? ≠ some LF then
    .error (.msg .gatewayProtocolError tooLong)
  else J.decodeMessage line.dropLast

section
variable {J} {message : PyDict} {data : Bytes}

/-- A message is encoded as one line within the limit. -/
theorem encodeMessage_eq_ok : J.encodeMessage message = .ok data ↔ ∃ encoded,
    J.dumps (.dict message) = .ok encoded ∧ encoded.length ≤ MAX_MESSAGE_BYTES ∧
      data = encoded ++ [LF] := by
  unfold encodeMessage
  constructor
  · intro h
    cases hdumps : J.dumps (.dict message) with
    | error e =>
      rw [hdumps] at h
      dsimp only at h
      split_ifs at h
    | ok encoded =>
      rw [hdumps] at h
      dsimp only at h
      split_ifs at h with hlong
      cases h
      exact ⟨encoded, rfl, not_lt.1 hlong, rfl⟩
  · rintro ⟨encoded, hdumps, hsize, rfl⟩
    rw [hdumps]
    exact if_neg (not_lt.2 hsize)

/-- The line of a message is read as the message. -/
theorem receiveMessage_line (hloads : J.loads data = .ok (.dict message))
    (hsize : data.length ≤ MAX_MESSAGE_BYTES)
    (hversion : pyEq (message.getD "jsonrpc") (.str "2.0")) (tooLong : PyStr) :
    J.receiveMessage tooLong (data ++ [LF]) = .ok message := by
  have hline : ¬ (MAX_MESSAGE_BYTES + 1 < (data ++ [LF]).length ∨
      (data ++ [LF]).getLast? ≠ some LF) := by
    rw [List.getLast?_concat, List.length_append, List.length_singleton]
    simp only [ne_eq, not_true, or_false]
    omega
  rw [receiveMessage, if_neg hline, List.dropLast_concat, decodeMessage, if_neg (not_lt.2 hsize),
    hloads]
  exact if_pos hversion

end

end Codec

/-! ## Heartbeats -/

/-- The members of `HEARTBEAT_STATES`. -/
def HEARTBEAT_STATES : List PyStr := [lit "queued", lit "executing"]

def heartbeatNotification (requestId : PyVal) (state : PyStr) : Except PyExc PyDict :=
  if state ∈ HEARTBEAT_STATES then
    .ok [("jsonrpc", .str "2.0"), ("method", .str "heartbeat"),
      ("params", .dict [("request_id", requestId), ("state", .str state)])]
  else .error (.msg .gatewayProtocolError
    (lit "Unknown gateway heartbeat state: " ++ PyText.repr (.str state)))

/-- The state of a heartbeat, or `none` for a final response. -/
def parseHeartbeatNotification (message : PyDict) (expectedRequestId : PyVal) :
    Except PyExc (Option PyStr) :=
  if !pyEq (message.getD "method") (.str "heartbeat") then .ok none
  else if (message.get "id").isSome then
    .error (.msg .gatewayProtocolError "Gateway heartbeat must be a JSON-RPC notification")
  else match message.getD "params" with
    | .dict params =>
      if !pyEq (PyDict.getD params "request_id") expectedRequestId then
        .error (.msg .gatewayProtocolError
          "Gateway heartbeat request ID did not match the request")
      else match PyDict.getD params "state" with
        | .str state =>
          if state ∈ HEARTBEAT_STATES then .ok (some state)
          else .error (.msg .gatewayProtocolError "Gateway heartbeat state was invalid")
        | _ => .error (.msg .gatewayProtocolError "Gateway heartbeat state was invalid")
    | _ => .error (.msg .gatewayProtocolError "Gateway heartbeat params must be an object")

/-! ## Commands -/

def serializeCommand (command : Command) : Except PyExc PyVal :=
  if MAX_COMMAND_BYTES < (encodeAscii command.text).length then
    .error (.msg .gatewayProtocolError "SCPI command exceeds 4096 bytes")
  else .ok (.dict [("kind", .str (if command.isQuery then lit "query" else lit "write")),
    ("text", .str command.text)])

def isSurrogate (c : CodePoint) : Bool := 0xD800 ≤ c.val && c.val ≤ 0xDFFF

/-- The error of `text.encode("utf-8")` for a text with a lone surrogate. -/
def surrogateError (text : PyStr) : PyExc :=
  let start := text.findIdx isSurrogate
  .new .unicodeEncodeError [.str "utf-8", .str text, .int start,
    .int (start + ((text.drop start).takeWhile isSurrogate).length),
    .str "surrogates not allowed"]

def deserializeCommand (payload : PyVal) : Except PyExc Command :=
  match payload with
  | .dict payload => match PyDict.getD payload "text" with
    | .str text => match utf8Length text with
      | none => .error (surrogateError text)
      | some n =>
        if MAX_COMMAND_BYTES < n then
          .error (.msg .gatewayProtocolError "SCPI command exceeds 4096 bytes")
        else if pyEq (PyDict.getD payload "kind") (.str "write") then
          (validatedCommand text).map .write
        else if pyEq (PyDict.getD payload "kind") (.str "query") then
          (validatedCommand text).map .query
        else .error (.msg .gatewayProtocolError "Command kind must be 'write' or 'query'")
    | _ => .error (.msg .gatewayProtocolError "Command text must be a string")
  | _ => .error (.msg .gatewayProtocolError "Command must be an object")

/-! ## Exceptions -/

def jsonSafe : PyVal → PyVal
  | .none => .none
  | .str s => .str s
  | .int i => .int i
  | .float f => .float f
  | .bool b => .bool b
  | value => .str (PyText.repr value)

/-- The names of the attributes that carry a batch position. -/
def ANNOTATIONS : List PyStr :=
  [lit "batch_command_index", lit "batch_command_kind", lit "batch_command"]

/-- The test `isinstance(value, (int, str)) and not isinstance(value, bool)`. -/
def isIntOrStr : PyVal → Bool
  | .int _ | .str _ => true
  | _ => false

def serializeException (e : PyExc) (remoteTraceback : PyVal) : PyDict :=
  if e.isinstance .spd3000Error then
    [(lit "kind", PyVal.str "southbound"), (lit "exception_type", .str e.cls.name),
        (lit "args", .list (e.args.map jsonSafe)), (lit "remote_traceback", remoteTraceback)] ++
      (ANNOTATIONS.map fun name => (name, e.getattr name)).filter fun kv => isIntOrStr kv.2
  else
    [("kind", .str "gateway"),
      ("exception_type",
        .str (if e.isinstance .gatewayError then e.cls.name else lit "GatewayInternalError")),
      ("message", .str (PyText.str e)), ("remote_traceback", remoteTraceback)]

/-- The text `str(value)`. -/
def pyStr : PyVal → PyStr
  | .str s => s
  | value => PyText.repr value

/-- The entry of `CANONICAL_EXCEPTION_TYPES` for a name. -/
def southboundClass (exceptionType : PyVal) : Option ExcClass :=
  match exceptionType with
  | .str name => ExcClass.canonicalExceptionTypes.find? fun cls => cls.name == name
  | _ => none

/-- The call `southbound_cls(*args)`. -/
def southboundCall (cls : ExcClass) (args : List PyVal) : Except PyExc PyExc :=
  if cls = .spd3000VerificationError then match args with
    | [message] => .ok ⟨cls, [message], [("command", .none), ("query", .none),
        ("expected", .none), ("actual", .none)]⟩
    | [] => .error (.msg .typeError
        "SPD3000VerificationError.__init__() missing 1 required positional argument: 'message'")
    | _ => .error (.msg .typeError (lit
        s!"SPD3000VerificationError.__init__() takes 2 positional arguments but {args.length + 1} were given"))
  else .ok (.new cls args)

/-- The classes a gateway error can be rebuilt with. -/
def gatewayClass (exceptionType : PyStr) : ExcClass :=
  ([.gatewayAuthenticationError, .gatewayVersionMismatchError, .gatewayProtocolError,
    .gatewayInternalError].find? fun cls => cls.name == exceptionType).getD .gatewayInternalError

/-- The annotations of a rebuilt southbound exception. -/
def restoreAnnotations (data : PyDict) (e : PyExc) : Except PyExc PyExc :=
  let e := match data.getD "batch_command_index" with
    | .int i => e.setattr "batch_command_index" (.int i)
    | _ => e
  let e : Except PyExc PyExc := match data.getD "batch_command_kind" with
    | .list _ => .error (.msg .typeError "unhashable type: 'list'")
    | .dict _ => .error (.msg .typeError "unhashable type: 'dict'")
    | kind =>
      if pyEq kind (.str "write") || pyEq kind (.str "query") then
        .ok (e.setattr "batch_command_kind" kind)
      else .ok e
  e.map fun e => match data.getD "batch_command" with
    | .str text => e.setattr "batch_command" (.str text)
    | _ => e

/-- The traceback note of a rebuilt exception. -/
def addRemoteTraceback (remoteTraceback : PyVal) (e : PyExc) : PyExc :=
  match remoteTraceback with
  | .str (c :: cs) =>
    (e.setattr "remote_traceback" (.str (c :: cs))).setattr "__notes__"
      (.list [.str (lit "Remote traceback:\n" ++ c :: cs)])
  | _ => e

def rebuildException (data : PyDict) : Except PyExc PyExc :=
  if pyEq (data.getD "kind") (.str "southbound") then
    match southboundClass (data.getD "exception_type"), (data.get "args").getD (.list []) with
    | some cls, .list args =>
      match southboundCall cls args with
      | .error e => .error e
      | .ok e => restoreAnnotations data e
    | _, _ => .ok (.msg .gatewayProtocolError "Unknown southbound exception type")
  else
    .ok (.msg (gatewayClass (pyStr (data.getD "exception_type")))
      (pyStr ((data.get "message").getD (.str "Gateway request failed"))))

/-- The exception that a client raises for the `data` of an error response; an
    error here is one raised while it is rebuilt. -/
def reconstructException (data : PyVal) : Except PyExc PyExc :=
  match data with
  | .dict data => (rebuildException data).map
      (addRemoteTraceback (PyDict.getD data "remote_traceback"))
  | _ => .ok (.msg .gatewayProtocolError "Gateway error lacked structured data")

end Spd3000
