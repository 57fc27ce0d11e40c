/-
  Which requests a handler reads from the stream of a client (the read loop of
  `GatewayServer._handle`).

  Each turn reads one piece of at most `MAX_MESSAGE_BYTES + 2` bytes.  The pieces
  are the lines of the stream unless a line exceeds that bound: then its
  remainder, which the sender chooses, is taken for a line of its own.
-/
import Spd3000.Access
import Spd3000.Json
import Spd3000.Lib.Lines

namespace Spd3000

section
variable [PyText]

/-! ## Turns on a stream -/

/-- The message of `_handle` about a line that is too long or not terminated. -/
def malformedLine : PyStr := "Request exceeded limits or lacked LF"

/-- The results of the calls `readline(MAX_MESSAGE_BYTES + 2)` on the stream of a client, up to
    the empty one at its end. -/
def handledPieces (stream : Bytes) : List Bytes :=
  Lines.pieces LF (MAX_MESSAGE_BYTES + 2) [] stream

omit [PyText] in
/-- The lines of texts within the limit are read one by one. -/
theorem handledPieces_frames {bodies : List Bytes}
    (h : ∀ b ∈ bodies, LF ∉ b ∧ b.length ≤ MAX_MESSAGE_BYTES) :
    handledPieces (bodies.flatMap (· ++ [LF])) = bodies.map (· ++ [LF]) := by
  have hlines : Lines.lines LF (bodies.flatMap (· ++ [LF])) = bodies.map (· ++ [LF]) :=
    Lines.lines_frames fun b hb => (h b hb).1
  rw [handledPieces, Lines.pieces_eq_lines (Nat.succ_pos _), hlines]
  rw [hlines, List.forall_mem_map]
  intro b hb
  have hsize := (h b hb).2
  rw [List.length_append, List.length_singleton]
  omega

section
variable (g : GatewayServer) (J : Codec)

/-- What a turn does with the request, or the error, that a line is interpreted as. -/
def GatewayServer.serveInterpreted (T : Turn) (session : Option Session)
    (request : Except PyExc PyDict) : List HandlerEvent × Next :=
  match request with
  | .error e => respond J T .none .none (.simple session (.error e))
  | .ok request =>
    let id := request.getD "id"
    let method := request.getD "method"
    let params := (request.get "params").getD (.dict [])
    respond J T id method (g.answer J T session id method params)

/-- A turn depends on the line through its interpretation only. -/
theorem turn_line {T : Turn} {line : Bytes} (hline : T.line = .ok line) (hne : line ≠ [])
    (session : Option Session) : g.turn J T session =
      (.received line :: (g.serveInterpreted J T session (J.receiveMessage malformedLine line)).1,
        (g.serveInterpreted J T session (J.receiveMessage malformedLine line)).2) := by
  obtain ⟨b, bs, rfl⟩ := List.exists_cons_of_ne_nil hne
  unfold GatewayServer.turn GatewayServer.serveInterpreted
  rw [hline]
  cases hreceive : J.receiveMessage malformedLine (b :: bs) with
  | error e =>
    rw [malformedLine] at hreceive
    simp only [hreceive]
  | ok request =>
    rw [malformedLine] at hreceive
    simp only [hreceive]

/-- What surrounds a turn, apart from the line. -/
structure Surroundings where
  owner : CommandBatch → ExecutionSettings → List PyStr × Except PyExc BatchResult
  send : ℕ → Option PyExc

def Surroundings.turn (line : Bytes) (around : Surroundings) : Turn :=
  ⟨.ok line, around.owner, around.send⟩

end

end

/-! ## A line with a request after the bound -/

/-- The line of a request to close the session. -/
def closeLine : Bytes :=
  Json.plain "\x7b\"jsonrpc\":\"2.0\",\"id\":7,\"method\":\"close\"\x7d" ++ [LF]

def closeMessage : PyDict :=
  [("jsonrpc", .str "2.0"), ("id", .int 7), ("method", .str "close")]

/-- A reader of that request. -/
def readsClose : Codec :=
  @Json.codec PyText.blank fun data =>
    if data = closeLine.dropLast then .ok (.dict closeMessage)
    else .error (.msg .jsonDecodeError "Expecting value")

end Spd3000
