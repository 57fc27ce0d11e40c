/-
  Round trips of the gateway protocol (`gateway/protocol.py`): streams of messages,
  and commands.

  A message is written on one line and the next one after it.  Both peers read
  with `readline(MAX_MESSAGE_BYTES + 2)`, which holds a line of the greatest
  length that they accept, so a stream of messages is read back message by message
  (`stream_read`).  What `deserialize_command` accepts is a command that
  `serialize_command` writes with the same kind and text (`payload_serialized`).
-/
import Spd3000.Framing
import Spd3000.Transparency

namespace Spd3000

section
variable [PyText]

/-! ## Messages -/

/-- What the codec does with a message that it can write: it reads it back, and it writes it
    without a line feed. -/
structure Codec.Faithful (J : Codec) (message : PyDict) : Prop where
  loads : ∀ data, J.dumps (.dict message) = .ok data → J.loads data = .ok (.dict message)
  oneLine : ∀ data, J.dumps (.dict message) = .ok data → LF ∉ data

section
variable {J : Codec} {message : PyDict} {data : Bytes}

/-- A message is encoded exactly if its text is within the limit. -/
theorem encodeMessage_isOk_iff (hdumps : J.dumps (.dict message) = .ok data) :
    J.encodeMessage message = .ok (data ++ [LF]) ∧ data.length ≤ MAX_MESSAGE_BYTES ∨
      (∃ e, J.encodeMessage message = .error e ∧ e.cls = .gatewayProtocolError) ∧
        MAX_MESSAGE_BYTES < data.length := by
  rw [Codec.encodeMessage, hdumps]
  dsimp only
  by_cases hlong : MAX_MESSAGE_BYTES < data.length
  · rw [if_pos hlong]
    exact .inr ⟨⟨_, rfl, rfl⟩, hlong⟩
  · rw [if_neg hlong]
    exact .inl ⟨rfl, not_lt.1 hlong⟩

end

/-! ## Streams -/

section
variable {J : Codec} {messages : List PyDict}

/-- A message that the protocol allows: its text is within the limit. -/
def Codec.Sendable (J : Codec) (message : PyDict) : Prop :=
  ∃ data, J.dumps (.dict message) = .ok data ∧ data.length ≤ MAX_MESSAGE_BYTES

/-- The texts of messages, and the lines they are written on. -/
theorem messages_written (hJ : ∀ m ∈ messages, J.Faithful m)
    (hsend : ∀ m ∈ messages, J.Sendable m) : ∃ bodies : List Bytes,
      messages.mapM J.encodeMessage = .ok (bodies.map (· ++ [LF])) ∧
      List.Forall₂ (fun m b => J.loads b = .ok (.dict m)) messages bodies ∧
      ∀ b ∈ bodies, LF ∉ b ∧ b.length ≤ MAX_MESSAGE_BYTES := by
  induction messages with
  | nil => exact ⟨[], rfl, .nil, List.forall_mem_nil _⟩
  | cons m messages ih =>
    rw [List.forall_mem_cons] at hJ hsend
    obtain ⟨bodies, hencode, hloads, hbodies⟩ := ih hJ.2 hsend.2
    obtain ⟨data, hdumps, hsize⟩ := hsend.1
    have hdata : J.encodeMessage m = .ok (data ++ [LF]) :=
      Codec.encodeMessage_eq_ok.2 ⟨data, hdumps, hsize, rfl⟩
    refine ⟨data :: bodies, ?_, .cons (hJ.1.loads data hdumps) hloads,
      List.forall_mem_cons.2 ⟨⟨hJ.1.oneLine data hdumps, hsize⟩, hbodies⟩⟩
    rw [List.mapM_cons, hdata, hencode]
    rfl

/-- **A stream of messages is read back.** -/
theorem stream_read (hJ : ∀ m ∈ messages, J.Faithful m)
    (hversion : ∀ m ∈ messages, pyEq (m.getD "jsonrpc") (.str "2.0"))
    (hsend : ∀ m ∈ messages, J.Sendable m) : ∃ lines, messages.mapM J.encodeMessage = .ok lines ∧
      handledPieces lines.flatten = lines ∧
      ∀ tooLong, lines.map (J.receiveMessage tooLong) = messages.map .ok := by
  obtain ⟨bodies, hencode, hloads, hbodies⟩ := messages_written hJ hsend
  refine ⟨_, hencode, ?_, fun tooLong => ?_⟩
  · rw [← List.flatMap_def]
    exact handledPieces_frames fun b hb => hbodies b hb
  · clear hencode
    induction hloads with
    | nil => rfl
    | @cons m b messages bodies hm _ ih =>
      rw [List.forall_mem_cons] at hJ hsend hversion hbodies
      rw [List.map_cons, List.map_cons, List.map_cons,
        Codec.receiveMessage_line hm hbodies.1.2 hversion.1, ih hJ.2 hversion.2 hsend.2 hbodies.2]

end

end

/-! ## Commands -/

/-- The payload is an object with the kind and the text of the command, which is within the
    limit. -/
def CommandPayload (payload : PyVal) (c : Command) : Prop :=
  ∃ d : PyDict, payload = .dict d ∧
    d.getD "kind" = .str (if c.isQuery then lit "query" else lit "write") ∧
    d.getD "text" = .str c.text ∧ c.text.length ≤ MAX_COMMAND_BYTES

/-- A text with a lone surrogate has no UTF-8 encoding. -/
def LoneSurrogate (payload : PyVal) : Prop :=
  ∃ (d : PyDict) (text : PyStr), payload = .dict d ∧ d.getD "text" = .str text ∧
    ∃ c ∈ text, isSurrogate c

/-- The outcomes of `deserialize_command`. -/
inductive Deserialized (payload : PyVal) : Except PyExc Command → Prop
  | accepted {c : Command} : CommandPayload payload c → Deserialized payload (.ok c)
  | unencodable {e : PyExc} : LoneSurrogate payload → e.cls = .unicodeEncodeError →
      Deserialized payload (.error e)
  | refused {e : PyExc} : ¬ LoneSurrogate payload →
      e.cls = .gatewayProtocolError ∨ e.cls = .spd3000ValidationError →
      Deserialized payload (.error e)

theorem utf8Length_eq_none {text : PyStr} :
    utf8Length text = none ↔ ∃ c ∈ text, isSurrogate c := by
  induction text with
  | nil => simp [utf8Length]
  | cons c text ih =>
    have hcons : utf8Length (c :: text) = (utf8Length text).bind fun n =>
        if 0xD800 ≤ c.val ∧ c.val ≤ 0xDFFF then none
        else some (n + if c.val < 0x80 then 1 else if c.val < 0x800 then 2
          else if c.val < 0x10000 then 3 else 4) := rfl
    rw [hcons, List.exists_mem_cons_iff, ← ih, isSurrogate, Bool.and_eq_true, decide_eq_true_eq,
      decide_eq_true_eq]
    cases utf8Length text with
    | none => simp
    | some n => simp

/-- A validated text, as a command of a kind. -/
theorem validated_deserialized {d : PyDict} {text : PyStr} {n : ℕ} (make : CommandText → Command)
    (hsurrogate : ¬ LoneSurrogate (.dict d)) (htext : d.getD "text" = .str text)
    (hn : utf8Length text = some n) (hsize : n ≤ MAX_COMMAND_BYTES)
    (hmake : ∀ t, (make t).text = t.text)
    (hkind : ∀ t, d.getD "kind" = .str (if (make t).isQuery then lit "query" else lit "write")) :
    Deserialized (.dict d) ((validatedCommand text).map make) := by
  by_cases hvalid : ValidCommand text
  · rw [validatedCommand_valid hvalid]
    rw [utf8Length_ascii hvalid.2.2, Option.some.injEq] at hn
    exact .accepted ⟨d, rfl, hkind _, by rw [hmake]; exact htext, by rw [hmake]; exact hn ▸ hsize⟩
  · obtain ⟨e, he, hcls⟩ := validatedCommand_invalid hvalid
    rw [he]
    exact .refused hsurrogate (.inr hcls)

theorem deserializeCommand_spec (payload : PyVal) :
    Deserialized payload (deserializeCommand payload) := by
  unfold deserializeCommand
  split
  · rename_i d
    split
    · rename_i text htext
      split
      · rename_i hnone
        exact .unencodable ⟨d, text, rfl, htext, utf8Length_eq_none.1 hnone⟩ rfl
      · rename_i n hn
        have hsurrogate : ¬ LoneSurrogate (.dict d) := by
          rintro ⟨_, text', ⟨⟩, htext', hlone⟩
          cases htext.symm.trans htext'
          rw [utf8Length_eq_none.2 hlone] at hn
          cases hn
        split_ifs with hlong hwrite hquery
        · exact .refused hsurrogate (.inl rfl)
        · exact validated_deserialized .write hsurrogate htext hn (not_lt.1 hlong) (fun _ => rfl)
            fun _ => pyEq_str_right.1 hwrite
        · exact validated_deserialized .query hsurrogate htext hn (not_lt.1 hlong) (fun _ => rfl)
            fun _ => pyEq_str_right.1 hquery
        · exact .refused hsurrogate (.inl rfl)
    · rename_i hother
      refine .refused ?_ (.inl rfl)
      rintro ⟨_, text, ⟨⟩, htext, -⟩
      exact hother text htext
  · rename_i hother
    refine .refused ?_ (.inl rfl)
    rintro ⟨d, -, rfl, -⟩
    exact hother d rfl

theorem deserializeCommand_ok {payload : PyVal} {c : Command}
    (h : deserializeCommand payload = .ok c) : CommandPayload payload c := by
  have hspec := deserializeCommand_spec payload
  rw [h] at hspec
  cases hspec with
  | accepted hpayload => exact hpayload

/-- The payload of a command is accepted. -/
theorem CommandPayload.deserialized {payload : PyVal} {c : Command} (h : CommandPayload payload c) :
    deserializeCommand payload = .ok c := by
  obtain ⟨d, rfl, hkind, htext, hsize⟩ := h
  exact deserializeCommand_dict hkind htext hsize

/-- The kind and the text of a command are written as they were accepted. -/
theorem payload_serialized {payload : PyVal} {c : Command} (h : CommandPayload payload c) :
    ∃ d d' : PyDict, payload = .dict d ∧ serializeCommand c = .ok (.dict d') ∧
      d'.getD "kind" = d.getD "kind" ∧ d'.getD "text" = d.getD "text" := by
  obtain ⟨d, rfl, hkind, htext, hsize⟩ := h
  exact ⟨d, _, rfl, serializeCommand_short hsize, hkind.symm, htext.symm⟩

/-! ## The protocol -/

/-- The round trips of the protocol: messages within the limit, one after the other, and commands;
    beyond the limit, a message is refused. -/
structure RoundTripping [PyText] (J : Codec) (messages : List PyDict) : Prop where
  stream : (∀ m ∈ messages, J.Sendable m) → ∃ lines, messages.mapM J.encodeMessage = .ok lines ∧
    handledPieces lines.flatten = lines ∧
    ∀ tooLong, lines.map (J.receiveMessage tooLong) = messages.map .ok
  refused : ∀ message data, J.dumps (.dict message) = .ok data →
    ((∃ e, J.encodeMessage message = .error e ∧ e.cls = .gatewayProtocolError) ↔
      MAX_MESSAGE_BYTES < data.length)
  command : ∀ c : Command, c.text.length ≤ MAX_COMMAND_BYTES →
    ∃ payload, serializeCommand c = .ok payload ∧ deserializeCommand payload = .ok c
  payload : ∀ payload c, deserializeCommand payload = .ok c → ∃ d d' : PyDict,
    payload = .dict d ∧ serializeCommand c = .ok (.dict d') ∧
      d'.getD "kind" = d.getD "kind" ∧ d'.getD "text" = d.getD "text"

/-- **Messages and commands round-trip.** -/
theorem protocol_roundTrips [PyText] (J : Codec) (messages : List PyDict)
    (hJ : ∀ m ∈ messages, J.Faithful m)
    (hversion : ∀ m ∈ messages, pyEq (m.getD "jsonrpc") (.str "2.0")) :
    RoundTripping J messages where
  stream hsend := stream_read hJ hversion hsend
  refused message data hdumps := by
    rcases encodeMessage_isOk_iff hdumps with ⟨hok, hsize⟩ | ⟨herror, hlong⟩
    · refine iff_of_false ?_ (not_lt.2 hsize)
      rintro ⟨e, he, -⟩
      cases hok.symm.trans he
    · exact iff_of_true herror hlong
  command c hsize := ⟨_, serializeCommand_short hsize, deserializeCommand_dict rfl rfl hsize⟩
  payload payload c hc := payload_serialized (deserializeCommand_ok hc)

/-- A request, and two heartbeats that it leads to. -/
def measuring : List PyDict :=
  [executeMessage (.int 2) measureCurrent, heartbeatMessage (.int 2) "queued",
    heartbeatMessage (.int 2) "executing"]

theorem measuring_roundTrips : @RoundTripping PyText.blank
    (@Json.codec PyText.blank (@readBack PyText.blank measuring)) measuring := by
  let _ : PyText := PyText.blank
  have hread := @readBack_roundTrips _ measuring (by decide +kernel)
  refine protocol_roundTrips _ measuring (fun m hm => ⟨hread m hm, fun data hdata => ?_⟩) ?_
  · exact Json.lf_not_mem_dumps (fun _ => List.not_mem_nil) _ data hdata
  · decide

end Spd3000
