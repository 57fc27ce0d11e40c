/-
  The gateway client (`gateway/client.py`).

  What the other side of its connection does is a `Stream`: how many bytes of a
  message the socket takes, and which lines arrive once they have been handed
  over.  `GatewayServer.stream` is the stream to a handler whose session is open;
  there each message is taken whole.
-/
import Spd3000.Interleaving
import Spd3000.Json
import Spd3000.Lib.Lines

namespace Spd3000

/-- The raw stream of a socket, as the client uses it. -/
structure Stream where
  /-- The number of bytes that `write` takes, or what it raises. -/
  write : Bytes → Except PyExc ℕ
  /-- What further calls of `readline` return or raise once these bytes have been handed over. -/
  arriving : Bytes → List (Except PyExc Bytes)

/-- A client after its handshake, and what has arrived for it and is not yet read. -/
structure GatewayExecutor where
  nextId : ℕ
  closed : Bool
  unread : List (Except PyExc Bytes)

variable [PyText]

/-! ## Requests -/

/-- The message that `_request` sends. -/
def requestMessage (requestId : PyVal) (method : PyStr) (params : PyDict) : PyDict :=
  [("jsonrpc", .str "2.0"), ("id", requestId), ("method", .str method), ("params", .dict params)]

/-- The loop over the lines that arrive, up to the response or an exception, and the lines after
    it; `none` if it waits for a further line. -/
def receive (J : Codec) (requestId : PyVal) :
    List (Except PyExc Bytes) → Option (Except PyExc PyDict) × List (Except PyExc Bytes)
  | [] => (none, [])
  | .error e :: lines => (some (.error e), lines)
  | .ok [] :: lines =>
    (some (.error (.msg .gatewayConnectionError "Gateway closed the connection")), lines)
  | .ok (b :: bs) :: lines =>
    match J.receiveMessage "Gateway response exceeded limits or lacked LF" (b :: bs) with
    | .error e => (some (.error e), lines)
    | .ok response => match parseHeartbeatNotification response requestId with
      | .error e => (some (.error e), lines)
      | .ok none => (some (.ok response), lines)
      | .ok (some _) => receive J requestId lines

/-- The clause `except (OSError, ValueError)` of `_request`. -/
def requestFailed (e : PyExc) : PyExc :=
  if e.isinstance .osError || e.isinstance .valueError then
    .msg .gatewayConnectionError (lit "Gateway request failed: " ++ PyText.str e)
  else e

/-- The end of `_request`, for the response received. -/
def resultOf (requestId : PyVal) (response : PyDict) : Except PyExc PyVal :=
  if !pyEq (response.getD "id") requestId then
    .error (.msg .gatewayProtocolError "Gateway response ID did not match the request")
  else match response.get "error" with
    | some error =>
      let data := match error with
        | .dict error => PyDict.getD error "data"
        | _ => .none
      match reconstructException data with
      | .error e => .error e
      | .ok e => .error e
    | none => match response.get "result" with
      | some result => .ok result
      | none => .error (.msg .gatewayProtocolError "Gateway response had no result or error")

namespace GatewayExecutor
variable (J : Codec) (S : Stream)

/-- The method `_request`; `none` while it waits. -/
def request (method : PyStr) (params : PyDict) (x : GatewayExecutor) :
    Option (Except PyExc PyVal) × GatewayExecutor :=
  if x.closed then
    (some (.error (.msg .gatewayConnectionError "Gateway executor is closed")), x)
  else
    let requestId : PyVal := .int x.nextId
    let x := { x with nextId := x.nextId + 1 }
    match J.encodeMessage (requestMessage requestId method params) with
    | .error e => (some (.error (requestFailed e)), x)
    | .ok data => match S.write data with
      | .error e => (some (.error (requestFailed e)), x)
      | .ok n =>
        let (response, unread) := receive J requestId (x.unread ++ S.arriving (data.take n))
        (response.map fun
          | .error e => .error (requestFailed e)
          | .ok response => resultOf requestId response, { x with unread := unread })

/-- A value of an execute result. -/
def textOrNone : PyVal → Option (Option PyStr)
  | .none => some none
  | .str text => some (some text)
  | _ => none

/-- The checks of `execute` on the result of its request. -/
def batchResult (batch : CommandBatch) (result : PyVal) : Except PyExc BatchResult :=
  match result with
  | .dict result => match PyDict.getD result "values" with
    | .list values => match values.mapM textOrNone with
      | some texts =>
        if values.length = batch.commands.length then .ok ⟨texts⟩
        else .error (.msg .gatewayProtocolError "Gateway execute results did not match the batch")
      | none =>
        .error (.msg .gatewayProtocolError "Gateway execute results did not match the batch")
    | _ => .error (.msg .gatewayProtocolError "Gateway execute result was malformed")
  | _ => .error (.msg .gatewayProtocolError "Gateway execute result was malformed")

def execute (batch : CommandBatch) (x : GatewayExecutor) :
    Option (Except PyExc BatchResult) × GatewayExecutor :=
  match batch.commands.mapM serializeCommand with
  | .error e => (some (.error e), x)
  | .ok commands =>
    let (result, x) := x.request J S "execute" [("commands", .list commands)]
    (result.map fun
      | .error e => .error e
      | .ok result => batchResult batch result, x)

end GatewayExecutor

/-! ## A connection to a handler -/

/-- The data that a handler has sent. -/
def sentData (events : List HandlerEvent) : Bytes :=
  events.flatMap fun | .sent data => data | _ => []

/-- The batches that a handler has handed to the owner, with the settings. -/
def submittedBatches (events : List HandlerEvent) : List (CommandBatch × ExecutionSettings) :=
  events.filterMap fun | .submitted batch settings => some (batch, settings) | _ => none

/-- An owner that reports some states while a batch is pending, and an executor that returns or
    raises the given outcome. -/
def ownerOf (states : List PyStr) (physical : CommandBatch → Except PyExc BatchResult) :
    CommandBatch → ExecutionSettings → List PyStr × Except PyExc BatchResult :=
  fun batch _ => (states, handedOutcome (physical batch))

namespace GatewayServer
variable (g : GatewayServer) (J : Codec) (session : Session)
  (owner : CommandBatch → ExecutionSettings → List PyStr × Except PyExc BatchResult)

/-- The turn of a handler with the given session that the bytes of a request lead to. -/
def serveRequest (data : Bytes) : List HandlerEvent :=
  (g.turn J ⟨.ok ((Lines.readlines LF (MAX_MESSAGE_BYTES + 2) [] data).headD []), owner,
    fun _ => none⟩ (some session)).1

/-- A connection that does not fail and takes each message whole. -/
def stream : Stream where
  write data := .ok data.length
  arriving data := (Lines.readlines LF (MAX_MESSAGE_BYTES + 2) []
    (sentData (g.serveRequest J session owner data))).map .ok

end GatewayServer

end Spd3000
