/-
  What `GatewayExecutor._request` hands to its connection.

  The raw stream of a socket takes some of the bytes of a message and returns
  their number, which `_request` does not look at.  A message that is not taken
  whole ends without its line feed: the gateway waits for the rest of the line,
  and the client for a response (`short_write_unanswered`).
-/
import Spd3000.Transparency

namespace Spd3000

section
variable [PyText] (J : Codec) (S : Stream)

/-- The raw stream takes at least one byte of what it is given, and no more. -/
def Stream.Accepts : Prop :=
  ∀ data n, data ≠ [] → S.write data = .ok n → 1 ≤ n ∧ n ≤ data.length

/-- The message of the next request. -/
def GatewayExecutor.nextMessage (method : PyStr) (params : PyDict) (x : GatewayExecutor) : PyDict :=
  requestMessage (.int x.nextId) method params

/-- The bytes that a request has handed to the connection when it starts waiting for a response;
    `none` if it raises before. -/
def GatewayExecutor.handedOver (method : PyStr) (params : PyDict) (x : GatewayExecutor) :
    Option Bytes :=
  if x.closed then none
  else match J.encodeMessage (x.nextMessage method params) with
    | .error _ => none
    | .ok data => match S.write data with
      | .error _ => none
      | .ok n => some (data.take n)

/-- What a request returns or raises, for what its loop has received. -/
def finished (requestId : PyVal) : Except PyExc PyDict → Except PyExc PyVal
  | .error e => .error (requestFailed e)
  | .ok response => resultOf requestId response

variable {J S} {method : PyStr} {params : PyDict} {x : GatewayExecutor} {sent data : Bytes}

/-- The lines that a request waits for are those that arrive for the bytes handed over. -/
theorem request_handedOver (h : x.handedOver J S method params = some sent) :
    x.request J S method params =
      ((receive J (.int x.nextId) (x.unread ++ S.arriving sent)).1.map (finished (.int x.nextId)),
        { x with nextId := x.nextId + 1
                 unread := (receive J (.int x.nextId) (x.unread ++ S.arriving sent)).2 }) := by
  unfold GatewayExecutor.handedOver GatewayExecutor.nextMessage at h
  unfold GatewayExecutor.request
  split_ifs at h ⊢
  cases hencode : J.encodeMessage (requestMessage (.int x.nextId) method params) with
  | error e =>
    rw [hencode] at h
    cases h
  | ok data =>
    rw [hencode] at h
    dsimp only at h ⊢
    cases hwrite : S.write data with
    | error e =>
      rw [hwrite] at h
      cases h
    | ok n =>
      rw [hwrite] at h
      cases h
      simp only [hencode, hwrite]
      rfl

/-- When the request starts waiting, it has handed over its whole line. -/
def SendsWhole (J : Codec) (S : Stream) (method : PyStr) (params : PyDict) (x : GatewayExecutor) :
    Prop :=
  ∀ sent, x.handedOver J S method params = some sent →
    J.encodeMessage (x.nextMessage method params) = .ok sent

/-- **The client sends whole requests** exactly if the stream takes the whole line at once. -/
theorem sends_whole (hS : S.Accepts) : SendsWhole J S method params x ↔
    (x.closed = false → ∀ data n, J.encodeMessage (x.nextMessage method params) = .ok data →
      S.write data = .ok n → n = data.length) := by
  constructor
  · intro h hopen data n hdata hwrite
    have hsent : x.handedOver J S method params = some (data.take n) := by
      unfold GatewayExecutor.handedOver
      rw [hopen, if_neg Bool.false_ne_true, hdata]
      dsimp only
      rw [hwrite]
    have hwhole := h _ hsent
    rw [hdata, Except.ok.injEq] at hwhole
    have hlength := congrArg List.length hwhole
    rw [List.length_take] at hlength
    have hne : data ≠ [] := by
      obtain ⟨encoded, -, -, rfl⟩ := Codec.encodeMessage_eq_ok.1 hdata
      exact List.concat_ne_nil LF encoded
    have := (hS data n hne hwrite).2
    omega
  · intro h sent hsent
    unfold GatewayExecutor.handedOver at hsent
    split_ifs at hsent with hclosed
    cases hdata : J.encodeMessage (x.nextMessage method params) with
    | error e =>
      rw [hdata] at hsent
      cases hsent
    | ok data =>
      rw [hdata] at hsent
      dsimp only at hsent
      cases hwrite : S.write data with
      | error e =>
        rw [hwrite] at hsent
        cases hsent
      | ok n =>
        rw [hwrite, Option.some.injEq] at hsent
        have hn := h (by simpa using hclosed) data n hdata hwrite
        rw [← hsent, hn, List.take_length]

/-- A part of a request is no line. -/
theorem short_write_no_line (hf : Json.OneLine) {loads : Bytes → Except PyExc PyVal} {n : ℕ}
    (h : (Json.codec loads).encodeMessage (x.nextMessage method params) = .ok data)
    (hn : n < data.length) : LF ∉ data.take n := by
  obtain ⟨encoded, hdumps, -, rfl⟩ := Codec.encodeMessage_eq_ok.1 h
  rw [List.length_append, List.length_singleton] at hn
  rw [List.take_append_of_le_length (by omega)]
  exact fun hm => Json.lf_not_mem_dumps hf _ _ hdumps (List.mem_of_mem_take hm)

/-- The connection to a handler with an open session, of which each write takes some bytes. -/
def GatewayServer.slowStream (g : GatewayServer) (J : Codec) (session : Session)
    (owner : CommandBatch → ExecutionSettings → List PyStr × Except PyExc BatchResult)
    (takes : Bytes → ℕ) : Stream :=
  { g.stream J session owner with write := fun data => .ok (takes data) }

/-- A request that is not taken whole is never answered. -/
theorem short_write_unanswered (hf : Json.OneLine) (g : GatewayServer) (session : Session)
    (owner : CommandBatch → ExecutionSettings → List PyStr × Except PyExc BatchResult)
    (takes : Bytes → ℕ) {loads : Bytes → Except PyExc PyVal} (hopen : x.closed = false)
    (hunread : x.unread = [])
    (h : (Json.codec loads).encodeMessage (x.nextMessage method params) = .ok data)
    (hshort : takes data < data.length) :
    (x.request (Json.codec loads) (g.slowStream (Json.codec loads) session owner takes)
      method params).1 = none := by
  have hsent : x.handedOver (Json.codec loads)
      (g.slowStream (Json.codec loads) session owner takes) method params =
        some (data.take (takes data)) := by
    unfold GatewayExecutor.handedOver
    rw [hopen, if_neg Bool.false_ne_true, h]
    rfl
  have hsize : data.length ≤ MAX_MESSAGE_BYTES + 1 := by
    obtain ⟨encoded, -, hle, rfl⟩ := Codec.encodeMessage_eq_ok.1 h
    rw [List.length_append, List.length_singleton]
    omega
  have hline : Lines.readlines LF (MAX_MESSAGE_BYTES + 2) [] (data.take (takes data)) = [] := by
    refine Lines.readlines_unfinished (short_write_no_line hf h hshort) [] ?_
    rw [List.length_nil, List.length_take]
    omega
  have harriving : (g.slowStream (Json.codec loads) session owner takes).arriving
      (data.take (takes data)) = [] := by
    show (Lines.readlines LF (MAX_MESSAGE_BYTES + 2) [] (sentData
      (g.serveRequest (Json.codec loads) session owner (data.take (takes data))))).map .ok =
        ([] : List (Except PyExc Bytes))
    rw [GatewayServer.serveRequest, hline]
    rfl
  rw [request_handedOver hsent, harriving, hunread]
  rfl

end

/-! ## A write that takes one byte -/

/-- The first ping of a session. -/
def pinging : GatewayExecutor := ⟨2, false, []⟩

def pingLine : Bytes :=
  Json.plain "\x7b\"jsonrpc\":\"2.0\",\"id\":2,\"method\":\"ping\",\"params\":\x7b\x7d\x7d" ++ [LF]

/-- The codec of a client that reads no response. -/
def pingCodec : Codec :=
  @Json.codec PyText.blank fun _ => .error (.msg .jsonDecodeError "Expecting value")

/-- The connection to a handler, of which each write takes one byte. -/
def oneByteStream : Stream :=
  @GatewayServer.slowStream PyText.blank openGateway pingCodec ⟨.default⟩
    (fun _ _ => ([], .ok ⟨[]⟩)) fun _ => 1

theorem oneByteStream_accepts : oneByteStream.Accepts := by
  intro data n hne hwrite
  cases hwrite
  exact ⟨le_rfl, List.length_pos_iff.2 hne⟩

theorem ping_encoded :
    @Codec.encodeMessage PyText.blank pingCodec (pinging.nextMessage "ping" []) = .ok pingLine := by
  let _ : PyText := PyText.blank
  have hdumps : pingCodec.dumps (.dict (pinging.nextMessage "ping" [])) = .ok pingLine.dropLast := rfl
  have hsize : ¬ MAX_MESSAGE_BYTES < pingLine.dropLast.length := by decide
  rw [Codec.encodeMessage, hdumps]
  exact if_neg hsize

/-- The rest of the request is dropped, and its response never comes. -/
theorem ping_cut_off : ¬ @SendsWhole PyText.blank pingCodec oneByteStream "ping" [] pinging ∧
    (@GatewayExecutor.request PyText.blank pingCodec oneByteStream "ping" [] pinging).1 = none := by
  let _ : PyText := PyText.blank
  have hshort : 1 < pingLine.length := by decide
  have hunanswered := short_write_unanswered (fun _ => List.not_mem_nil) openGateway ⟨.default⟩
    (fun _ _ => ([], .ok ⟨[]⟩)) (fun _ => 1) rfl rfl ping_encoded hshort
  refine ⟨fun h => ?_, hunanswered⟩
  have hwhole := h _ (by rfl : pinging.handedOver pingCodec oneByteStream "ping" [] = some (pingLine.take 1))
  rw [ping_encoded, Except.ok.injEq] at hwhole
  exact absurd (congrArg List.length hwhole) (by decide)

theorem sends_whole_ping : @SendsWhole PyText.blank pingCodec oneByteStream "ping" [] pinging ↔
    (pinging.closed = false → ∀ data n,
      @Codec.encodeMessage PyText.blank pingCodec (pinging.nextMessage "ping" []) = .ok data →
      oneByteStream.write data = .ok n → n = data.length) :=
  @sends_whole PyText.blank pingCodec oneByteStream "ping" [] pinging oneByteStream_accepts

end Spd3000
