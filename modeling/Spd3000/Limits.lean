/-
  The size limits on the way of a batch from the client to the owner
  (`serialize_command`, `encode_message`, `GatewayServer._handle`,
  `decode_message`, `GatewayServer._execute`, `deserialize_command`).

  `requestSize` is the size of the message that carries a batch, with the escapes of
  JSON.  Commands and batches within their own limits pass every check exactly if the
  message is within its limit (`limits_passed`); 256 commands of 4096 bytes have
  1 MiB of text, and do not.
-/
import Spd3000.Numbers
import Spd3000.Streams
import Spd3000.Access

namespace Spd3000

open Json

/-! ## Sizes -/

/-- The size of a command as the client writes it. -/
def commandSize (c : Command) : ℕ := 26 + (c.text.flatMap escape).length

/-- The size of the message that carries a batch. -/
def requestSize (requestId : ℕ) (batch : CommandBatch) : ℕ :=
  66 + (decimal requestId).length + (batch.commands.map fun c => commandSize c + 1).sum

theorem length_dumpsStr_eq (s : PyStr) : (dumpsStr s).length = (s.flatMap escape).length + 2 := by
  have hquote : (plain "\"").length = 1 := rfl
  rw [dumpsStr, List.length_append, List.length_append, hquote]
  omega

section
variable [PyText]

theorem entriesWritten_nil_iff {n : ℕ} : EntriesWritten [] n ↔ n = 0 := by
  rw [EntriesWritten, dumpsEntries]
  simp [eq_comm]

theorem itemsWritten_nil_iff {n : ℕ} : ItemsWritten [] n ↔ n = 0 := by
  rw [ItemsWritten, dumpsItems]
  simp [eq_comm]

theorem written_nat {n k : ℕ} :
    Written (.int n) k ↔ (decimal n).length ≤ 4300 ∧ k = (decimal n).length := by
  have hnonneg : ¬ (n : ℤ) < 0 := by omega
  rw [Written, dumps, dumpsInt, Int.natAbs_natCast, if_neg hnonneg, List.nil_append]
  by_cases hlong : 4300 < (decimal n).length
  · rw [if_pos hlong]
    exact iff_of_false (by simp) fun h => absurd h.1 (not_le.2 hlong)
  · rw [if_neg hlong]
    simp [not_lt.1 hlong, eq_comm]

theorem written_commandPayload {c : Command} {n : ℕ} :
    Written (commandPayload c) n ↔ n = commandSize c := by
  have hkind : (dumpsStr (if c.isQuery then lit "query" else lit "write")).length = 7 := by
    cases c.isQuery <;> decide
  have hkinds : (dumpsStr (lit "kind")).length = 6 := by decide
  have htext : (dumpsStr (lit "text")).length = 6 := by decide
  simp only [commandPayload, written_dict, entriesWritten_cons, entriesWritten_nil_iff, written_str,
    exists_and_left, exists_eq_left, hkind, hkinds, htext, length_dumpsStr_eq c.text, commandSize]
  omega

theorem itemsWritten_payloads {cs : List Command} {n : ℕ} :
    ItemsWritten (cs.map commandPayload) n ↔ n = (cs.map fun c => commandSize c + 1).sum := by
  induction cs generalizing n with
  | nil => exact itemsWritten_nil_iff
  | cons c cs ih =>
    rw [List.map_cons, itemsWritten_cons, List.map_cons, List.sum_cons]
    simp only [written_commandPayload, ih, exists_and_left, exists_eq_left]

/-- The size of a request. -/
theorem written_executeMessage {requestId size : ℕ} {batch : CommandBatch} :
    Written (.dict (executeMessage (.int requestId) batch)) size ↔
      (decimal requestId).length ≤ 4300 ∧ size = requestSize requestId batch := by
  obtain ⟨commands, hnonempty⟩ := batch
  obtain ⟨c, cs, rfl⟩ := List.exists_cons_of_ne_nil hnonempty
  have hversion : (dumpsStr (lit "jsonrpc")).length = 9 ∧ (dumpsStr (lit "2.0")).length = 5 := by
    decide
  have hid : (dumpsStr (lit "id")).length = 4 ∧ (dumpsStr (lit "params")).length = 8 := by decide
  have hmethod : (dumpsStr (lit "method")).length = 8 ∧ (dumpsStr (lit "execute")).length = 9 := by
    decide
  have hcommands : (dumpsStr (lit "commands")).length = 10 := by decide
  have hitems := fun n => @itemsWritten_payloads _ (c :: cs) n
  rw [List.map_cons] at hitems
  simp only [executeMessage, requestMessage, List.map_cons, written_dict, entriesWritten_cons,
    entriesWritten_nil_iff, written_str, written_list, hitems, written_nat, and_assoc,
    exists_and_left, exists_eq_left, hversion, hid, hmethod, hcommands, requestSize]
  refine and_congr_right fun _ => ?_
  omega

/-! ## The way of a batch -/

/-- The batch gets through every check on its way: the commands are serialized, the message is
    encoded, the handler receives it as one line and decodes it, and the commands are deserialized
    to the same batch. -/
def PassesLimits (loads : Bytes → Except PyExc PyVal) (requestId : ℕ) (batch : CommandBatch) :
    Prop :=
  ∃ payloads data, batch.commands.mapM serializeCommand = .ok payloads ∧
    (Json.codec loads).encodeMessage (requestMessage (.int requestId) "execute"
      [("commands", .list payloads)]) = .ok data ∧
    handledPieces data = [data] ∧ Requests (Json.codec loads) data batch

section
variable {loads : Bytes → Except PyExc PyVal} {requestId : ℕ} {batch : CommandBatch}

/-- The commands of the batch are within their own limits. -/
structure WithinCommandLimits (batch : CommandBatch) : Prop where
  count : batch.commands.length ≤ MAX_BATCH_COMMANDS
  sizes : ∀ c ∈ batch.commands, c.text.length ≤ MAX_COMMAND_BYTES

omit [PyText] in
theorem WithinCommandLimits.serialized (h : WithinCommandLimits batch) :
    batch.commands.mapM serializeCommand = .ok (batch.commands.map commandPayload) :=
  mapM_eq_ok fun c hc => serializeCommand_short (h.sizes c hc)

theorem handledPieces_carried {message : PyDict} {data : Bytes} (hf : OneLine)
    (h : Carried loads message data) : handledPieces (data ++ [LF]) = [data ++ [LF]] := by
  have hpieces := handledPieces_frames (List.forall_mem_singleton.2 ⟨h.lf_not_mem hf, h.size⟩)
  rwa [List.flatMap_singleton, List.map_singleton] at hpieces

/-- A request that fits arrives. -/
theorem passesLimits_of_fits (h : WithinCommandLimits batch) (hf : OneLine)
    (hloads : RoundTrips loads (executeMessage (.int requestId) batch))
    (hfits : Fits (executeMessage (.int requestId) batch)) : PassesLimits loads requestId batch := by
  obtain ⟨data, hcarried⟩ := hfits.carried hloads rfl
  refine ⟨_, data ++ [LF], h.serialized, hcarried.encode, handledPieces_carried hf hcarried, _, ?_,
    requestedBatch_payloads h.count h.sizes⟩
  rw [requestOf, hcarried.receive]
  rfl

/-- A request that is encoded fits. -/
theorem PassesLimits.fits (h : WithinCommandLimits batch)
    (hpasses : PassesLimits loads requestId batch) :
    Fits (executeMessage (.int requestId) batch) := by
  obtain ⟨payloads, line, hpayloads, hencode, -⟩ := hpasses
  cases hpayloads.symm.trans h.serialized
  obtain ⟨data, hdumps, hsize, -⟩ := Codec.encodeMessage_eq_ok.1 hencode
  exact ⟨data, hdumps, hsize⟩

/-- Commands and batches within their own limits get through exactly if the message that carries
    them, escapes included, is within the third limit. -/
theorem limits_passed (h : WithinCommandLimits batch) (hf : OneLine)
    (hloads : RoundTrips loads (executeMessage (.int requestId) batch)) :
    PassesLimits loads requestId batch ↔
      (decimal requestId).length ≤ 4300 ∧ requestSize requestId batch ≤ MAX_MESSAGE_BYTES := by
  constructor
  · intro hpasses
    obtain ⟨data, hdumps, hsize⟩ := hpasses.fits h
    obtain ⟨hdigits, hlength⟩ := written_executeMessage.1 ⟨data, hdumps, rfl⟩
    exact ⟨hdigits, hlength ▸ hsize⟩
  · rintro ⟨hdigits, hsize⟩
    obtain ⟨data, hdumps, hlength⟩ := written_executeMessage.2 ⟨hdigits, rfl⟩
    exact passesLimits_of_fits h hf hloads ⟨data, hdumps, hlength ▸ hsize⟩

end

end

/-! ## Two batches -/

theorem limits_passed_current : @PassesLimits PyText.blank
    (@readBack PyText.blank [executeMessage (.int 2) measureCurrent]) 2 measureCurrent ↔
      (decimal 2).length ≤ 4300 ∧ requestSize 2 measureCurrent ≤ MAX_MESSAGE_BYTES := by
  let _ : PyText := PyText.blank
  exact limits_passed ⟨by decide, by decide⟩ (fun _ => List.not_mem_nil)
    (readBack_roundTrips (List.pairwise_singleton _ _) _ (List.mem_singleton_self _))

theorem validCommand_longest : ValidCommand (List.replicate 4096 (chr 65)) :=
  validCommand_replicate 4095

/-- As many commands as a batch takes, each as long as a command may be. -/
def fullBatch : CommandBatch :=
  ⟨List.replicate 256 (.write ⟨List.replicate 4096 (chr 65), validCommand_longest⟩),
    List.cons_ne_nil _ _⟩

theorem fullBatch_within : WithinCommandLimits fullBatch where
  count := by
    rw [fullBatch, List.length_replicate]
    decide
  sizes c hc := by
    rw [List.eq_of_mem_replicate hc, Command.text, List.length_replicate]
    decide

theorem requestSize_fullBatch : requestSize 1 fullBatch = 1055555 := by
  have hdecimal : (decimal 1).length = 1 := rfl
  have hescape : ((List.replicate 4096 (chr 65)).flatMap escape).length = 4096 := by
    rw [List.length_flatMap, List.map_replicate, List.sum_replicate]
    rfl
  rw [requestSize, fullBatch, List.map_replicate, List.sum_replicate, commandSize, Command.text,
    hescape, hdecimal]
  rfl

/-- The full batch is refused: its texts alone have the size of a message. -/
theorem fullBatch_refused : ¬ ∀ [PyText] (loads : Bytes → Except PyExc PyVal) (requestId : ℕ)
    (batch : CommandBatch), WithinCommandLimits batch → OneLine →
    RoundTrips loads (executeMessage (.int requestId) batch) →
    PassesLimits loads requestId batch := by
  intro hall
  let _ : PyText := PyText.blank
  have hpasses := hall (readBack [executeMessage (.int (1 : ℕ)) fullBatch]) 1 fullBatch
    fullBatch_within (fun _ => List.not_mem_nil)
    (readBack_roundTrips (List.pairwise_singleton _ _) _ (List.mem_singleton_self _))
  obtain ⟨data, hdumps, hsize⟩ := hpasses.fits fullBatch_within
  have hlength := (written_executeMessage.1 ⟨data, hdumps, rfl⟩).2
  rw [requestSize_fullBatch] at hlength
  exact absurd hsize (by rw [hlength]; decide)

end Spd3000
