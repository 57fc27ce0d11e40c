/-
  The gateway server (`gateway/server.py`) as one connection sees it: the
  handshake and the loop of `_handle`.

  What the handler gets from outside during one turn of its loop is a `Turn`:
  the line it reads, what the physical owner does with a batch, and which of its
  writes to the client fail.  Any behaviour of the other connections and of the
  instrument is some list of turns.  What the handler does is a list of events.
-/
import Spd3000.Protocol
import Mathlib.Logic.Function.Basic

namespace Spd3000

variable [PyText]

/-- The settings a client has handed over in an accepted handshake. -/
structure Session where
  settings : ExecutionSettings

/-- A gateway that has started: its token, if authentication is enabled, and its commit. -/
structure GatewayServer where
  token : Option PyStr
  commit : PyStr
  token_nonempty : token ≠ some []
  commit_known : commit ≠ lit "unknown"

/-- The token and the commit as `GatewayServer.__init__` takes them over. -/
def GatewayServer.make (token : Option PyStr) (commit : PyStr) : Except PyExc GatewayServer :=
  if h : commit = lit "unknown" then
    .error (.msg .gatewayVersionMismatchError "Gateway Git commit is unavailable")
  else .ok ⟨token.filter (· ≠ []), commit, by simp, h⟩

/-! ## The handshake -/

/-- The call `hmac.compare_digest(a, b)` on two strings. -/
def compareDigest (a b : PyStr) : Except PyExc Bool :=
  if isAscii a && isAscii b then .ok (a == b)
  else .error (.msg .typeError "comparing strings with non-ASCII characters is not supported")

/-- The settings of a handshake, as they are handed to `ExecutionSettings`. -/
def handshakeSettings (settings : PyDict) : Except PyExc ExecutionSettings :=
  match settings.get "min_command_interval" with
  | none => .error (.new .keyError [.str "min_command_interval"])
  | some minCommandInterval => match settings.get "timeout" with
    | none => .error (.new .keyError [.str "timeout"])
    | some timeout => ExecutionSettings.make minCommandInterval timeout

namespace GatewayServer
variable (g : GatewayServer)

def checkToken (supplied : PyVal) : Except PyExc Unit :=
  match g.token with
  | none => .ok ()
  | some token => match supplied with
    | .str supplied => match compareDigest supplied token with
      | .error e => .error e
      | .ok true => .ok ()
      | .ok false => .error (.msg .gatewayAuthenticationError "Invalid gateway token")
    | _ => .error (.msg .gatewayAuthenticationError "Invalid gateway token")

def handshake (params : PyDict) : Except PyExc Session :=
  let commit := params.getD "commit"
  if pyEq commit (.str "unknown") || !pyEq commit (.str g.commit) then
    .error (.msg .gatewayVersionMismatchError (lit "Client commit " ++ PyText.repr commit ++
      lit " does not match gateway commit " ++ PyText.repr (.str g.commit)))
  else match g.checkToken (params.getD "token") with
    | .error e => .error e
    | .ok () => match params.getD "settings" with
      | .dict settings => match handshakeSettings settings with
        | .ok executionSettings => .ok ⟨executionSettings⟩
        | .error e =>
          if e.isinstance .keyError || e.isinstance .typeError || e.isinstance .valueError then
            .error (.msg .gatewayProtocolError
              (lit "Invalid execution settings: " ++ PyText.str e))
          else .error e
      | _ => .error (.msg .gatewayProtocolError "Handshake settings must be an object")

end GatewayServer

/-! ## Requests -/

/-- The batch that the params of an execute request ask for. -/
def requestedBatch (params : PyDict) : Except PyExc CommandBatch :=
  match params.getD "commands" with
  | .list (c :: cs) =>
    if MAX_BATCH_COMMANDS < (c :: cs).length then
      .error (.msg .gatewayProtocolError "Batch exceeds 256 commands")
    else match (c :: cs).mapM deserializeCommand with
      | .error e => .error e
      | .ok commands => CommandBatch.make commands
  | _ => .error (.msg .gatewayProtocolError "execute.commands must be a non-empty list")

/-- What happens around the handler during one turn of its loop. -/
structure Turn where
  /-- The line that `readline` returns, or what it raises. -/
  line : Except PyExc Bytes
  /-- The states that the owner reports while a batch is pending, and its outcome. -/
  owner : CommandBatch → ExecutionSettings → List PyStr × Except PyExc BatchResult
  /-- What the `n`-th write to the client raises. -/
  send : ℕ → Option PyExc

inductive HandlerEvent where
  | received (line : Bytes)
  | submitted (batch : CommandBatch) (settings : ExecutionSettings)
  | sent (data : Bytes)

/-- The exceptions after which the client counts as disconnected. -/
def disconnects (e : PyExc) : Bool :=
  e.isinstance .connectionError || e.isinstance .osError || e.isinstance .valueError

/-- The writes of one turn so far: the data sent, their number, and whether the client
    is still connected. -/
structure Writes where
  events : List HandlerEvent
  count : ℕ
  connected : Bool

section
variable (J : Codec) (T : Turn)

/-- The callback `send_heartbeat`, and what it raises. -/
def sendHeartbeat (id : PyVal) (state : PyStr) (w : Writes) : Option PyExc × Writes :=
  if !w.connected then (none, w)
  else match (heartbeatNotification id state).bind J.encodeMessage with
    | .error e => if disconnects e then (none, { w with connected := false }) else (some e, w)
    | .ok data => match T.send w.count with
      | some e =>
        if disconnects e then (none, { w with count := w.count + 1, connected := false })
        else (some e, { w with count := w.count + 1 })
      | none => (none, ⟨w.events ++ [.sent data], w.count + 1, true⟩)

/-- The heartbeats of a pending batch, up to the first one that raises. -/
def sendHeartbeats (id : PyVal) : List PyStr → Writes → Option PyExc × Writes
  | [], w => (none, w)
  | state :: states, w => match sendHeartbeat J T id state w with
    | (some e, w) => (some e, w)
    | (none, w) => sendHeartbeats id states w

/-- The value `getattr(exc, "gateway_remote_traceback", traceback.format_exc())`. -/
def remoteTraceback (e : PyExc) : PyVal :=
  (e.attrs.get "gateway_remote_traceback").getD (.str (PyText.traceback e))

/-- What the `try` statement of one turn leaves behind. -/
structure Reply where
  session : Option Session
  result : Except PyExc PyVal
  closeAfter : Bool
  submitted : Option (CommandBatch × ExecutionSettings)
  writes : Writes

def noWrites : Writes := ⟨[], 0, true⟩

def Reply.simple (session : Option Session) (result : Except PyExc PyVal) : Reply :=
  ⟨session, result, false, none, noWrites⟩

/-- The method `_execute`, with the heartbeats sent while the batch is pending. -/
def executeRequest (id : PyVal) (params : PyDict) (session : Session) : Reply :=
  match requestedBatch params with
  | .error e => .simple (some session) (.error e)
  | .ok batch =>
    let (states, outcome) := T.owner batch session.settings
    let (raised, writes) := sendHeartbeats J T id states noWrites
    let result := match raised, outcome with
      | some e, _ | none, .error e =>
        .error (e.setattr "gateway_remote_traceback" (remoteTraceback e))
      | none, .ok result =>
        .ok (.dict [("values", .list (result.values.map fun v => v.elim .none .str))])
    ⟨some session, result, false, some (batch, session.settings), writes⟩

/-- The body of the `try` statement after `decode_message`. -/
def GatewayServer.answer (g : GatewayServer) (session : Option Session) (id method params : PyVal) :
    Reply :=
  match method, params with
  | .str method, .dict params => match session with
    | none =>
      if method ≠ lit "handshake" then
        .simple none (.error (.msg .gatewayProtocolError "handshake must be the first request"))
      else match g.handshake params with
        | .error e => .simple none (.error e)
        | .ok session => .simple (some session) (.ok (.dict [("commit", .str g.commit)]))
    | some session =>
      if method = lit "execute" then executeRequest J T id params session
      else if method = lit "ping" then .simple (some session) (.ok (.dict [("ok", .bool true)]))
      else if method = lit "close" then
        { Reply.simple (some session) (.ok (.dict [("closed", .bool true)])) with
          closeAfter := true }
      else .simple (some session) (.error (.msg .gatewayProtocolError
        (lit "Unknown gateway method: " ++ PyText.repr (.str method))))
  | _, _ => .simple session
      (.error (.msg .gatewayProtocolError "Request method or params were malformed"))

/-- The response to a request. -/
def response (id : PyVal) (result : Except PyExc PyVal) : PyDict :=
  match result with
  | .ok result => [("jsonrpc", .str "2.0"), ("id", id), ("result", result)]
  | .error e => [("jsonrpc", .str "2.0"), ("id", id), ("error", .dict [("code", .int (-32000)),
      ("message", .str (PyText.str e)), ("data", .dict (serializeException e (remoteTraceback e)))])]

/-- How a turn of the loop ends: with the next turn, by `return`, or by an exception that
    leaves the handler. -/
inductive Next where
  | goOn (session : Option Session)
  | stop
  | crash (e : PyExc)

/-- The end of a turn, after the `try` statement. -/
def respond (id method : PyVal) (reply : Reply) : List HandlerEvent × Next :=
  let events := (reply.submitted.map fun s => HandlerEvent.submitted s.1 s.2).toList ++
    reply.writes.events
  if pyEq method (.str "execute") && !reply.writes.connected then (events, .stop)
  else match J.encodeMessage (response id reply.result) with
    | .error e => (events, if disconnects e then .stop else .crash e)
    | .ok data => match T.send reply.writes.count with
      | some e => (events, if disconnects e then .stop else .crash e)
      | none => (events ++ [.sent data], if reply.closeAfter then .stop else .goOn reply.session)

/-- One turn of the loop of `_handle`. -/
def GatewayServer.turn (g : GatewayServer) (session : Option Session) :
    List HandlerEvent × Next :=
  match T.line with
  | .error e => ([], if disconnects e then .stop else .crash e)
  | .ok [] => ([], .stop)
  | .ok (b :: bs) =>
    let (events, next) := match J.receiveMessage "Request exceeded limits or lacked LF" (b :: bs) with
      | .error e => respond J T .none .none (.simple session (.error e))
      | .ok request =>
        let id := request.getD "id"
        let method := request.getD "method"
        let params := (request.get "params").getD (.dict [])
        respond J T id method (g.answer J T session id method params)
    (.received (b :: bs) :: events, next)

end

/-! ## The loop -/

namespace GatewayServer
variable (g : GatewayServer) (J : Codec)

/-- A connection: what its handler has done, and how its last turn ended. -/
abbrev Connected := List HandlerEvent × Next

/-- A connection just accepted. -/
def connected : Connected := ([], .goOn none)

/-- A further turn of a handler, if its loop is still running. -/
def goOn (c : Connected) (T : Turn) : Connected :=
  match c.2 with
  | .goOn session =>
    let (events, next) := g.turn J T session
    (c.1 ++ events, next)
  | .stop | .crash _ => c

/-- The method `_handle` on a connection. -/
def handle (turns : List Turn) : Connected := turns.foldl (g.goOn J) connected

/-- The handlers of all connections, taking turns in any order. -/
def serve {ι : Type} [DecidableEq ι] (schedule : List (ι × Turn)) : ι → Connected :=
  schedule.foldl (fun c t => Function.update c t.1 (g.goOn J (c t.1) t.2)) fun _ => connected

end GatewayServer

end Spd3000
