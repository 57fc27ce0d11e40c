/-
  Which transmission a response belongs to: `DirectExecutor` over a
  `SocketTransport`, alone or under the worker of a gateway, talking to an
  instrument that answers every query line once and in order.

  The instrument sits at the end of a `Link`: the bytes of an unfinished command
  line, the number of query lines received, and the answer bytes that have not
  reached the host.  The schedule of the link cuts the answers into chunks and
  lets any `recv` or `sendall` fail.

  The link is a queue of answers.  `Queued m` says that the bytes not yet read,
  in the receive buffer or in flight, are the answers `m`, `m + 1`, ... to the
  queries received so far.  Every operation keeps this (`queued_call`), and a
  batch that returns has read the answers from `m` on (`queued_execute`): it
  got its own answers exactly if nothing was left over when it started.
-/
import Spd3000.Owner
import Spd3000.Transport

namespace Spd3000

variable {τ : Type}

/-! ## The instrument and the connection to it -/

/-- An instrument that answers the lines in `respondsTo`, the `n`-th of them with
    the line `answer n`. -/
structure Instrument where
  respondsTo : Bytes → Bool
  answer : ℕ → Bytes
  answer_line : ∀ n, LF ∉ answer n

/-- What happens to a `sendall`: all bytes arrive, or it raises after `k` bytes. -/
inductive SendChoice where
  | deliver
  | cut (k : ℕ) (e : PyExc)

/-- What happens to a `recv`: at most `k + 1` bytes that have arrived are returned,
    or it raises, or the peer has closed. -/
inductive RecvChoice where
  | chunk (k : ℕ)
  | raise (e : PyExc)
  | eof

/-- The clock and sleeper of the host. -/
structure Timer (τ : Type) where
  clock : τ → ℚ × τ
  sleeper : ℚ → τ → τ
  idle : τ → τ

/-- A connection to the instrument, with the schedule of its sends and receives. -/
structure Link (τ : Type) where
  unfinished : Bytes
  received : ℕ
  inFlight : Bytes
  sends : List SendChoice
  recvs : List RecvChoice
  timer : τ

namespace Instrument
variable (I : Instrument)

/-- The answers `n`, ..., `n + k - 1` as the instrument sends them. -/
def answers (n k : ℕ) : Bytes := Lines.frames LF ((List.range' n k).map I.answer)

/-- The instrument receives bytes and answers the query lines they complete. -/
def receive (data : Bytes) (l : Link τ) : Link τ :=
  let p := Lines.split LF (l.unfinished ++ data)
  let n := p.1.countP I.respondsTo
  { l with
    unfinished := p.2
    received := l.received + n
    inFlight := l.inFlight ++ I.answers l.received n }

def sendall (data : Bytes) (l : Link τ) : Except PyExc Unit × Link τ :=
  match l.sends with
  | [] => (.ok (), I.receive data l)
  | .deliver :: sends => (.ok (), I.receive data { l with sends := sends })
  | .cut k e :: sends => (.error e, I.receive (data.take k) { l with sends := sends })

end Instrument

/-- The error `socket.timeout`. -/
def timedOut : PyExc := .msg .timeoutError "timed out"

def Link.recv (n : ℕ) (l : Link τ) : Except PyExc Bytes × Link τ :=
  match l.recvs with
  | [] => (.error timedOut, l)
  | .raise e :: recvs => (.error e, { l with recvs := recvs })
  | .eof :: recvs => (.ok [], { l with recvs := recvs })
  | .chunk k :: recvs =>
    if l.inFlight = [] then (.error timedOut, { l with recvs := recvs })
    else (.ok (l.inFlight.take (min (k + 1) n)),
      { l with inFlight := l.inFlight.drop (min (k + 1) n), recvs := recvs })

/-- The host whose only socket is connected to the instrument. -/
def linkHost (I : Instrument) (T : Timer τ) : Host (Link τ) where
  sendall := I.sendall
  recv := Link.recv
  clock l := ((T.clock l.timer).1, { l with timer := (T.clock l.timer).2 })
  sleeper r l := { l with timer := T.sleeper r l.timer }
  idle l := { l with timer := T.idle l.timer }

abbrev Connection (τ : Type) := SocketTransport (Link τ)

/-- The answer bytes that no `read` has returned: buffered, then in flight. -/
def SocketTransport.unread (t : Connection τ) : Bytes := t.buffer ++ t.host.inFlight

/-- The unread bytes are the answers to the query lines from `m` on. -/
structure Queued (I : Instrument) (m : ℕ) (t : Connection τ) : Prop where
  le : m ≤ t.host.received
  unread : t.unread = I.answers m (t.host.received - m)

/-! ## The operations of the transport -/

section
variable (I : Instrument)

theorem answers_append (m n k : ℕ) (h : m ≤ n) :
    I.answers m (n - m) ++ I.answers n k = I.answers m (n + k - m) := by
  rw [Instrument.answers, Instrument.answers, ← Lines.frames_append, ← List.map_append,
    Instrument.answers]
  congr 2
  rw [show n + k - m = n - m + k by omega, ← List.range'_append_1, show m + (n - m) = n by omega]

theorem answers_succ (m k : ℕ) :
    I.answers m (k + 1) = I.answer m ++ LF :: I.answers (m + 1) k := by
  simp [Instrument.answers, List.range'_succ, Lines.frames_cons]

/-- Nothing that concerns commands and answers has changed. -/
structure Unchanged (t t' : Connection τ) : Prop where
  unread : t'.unread = t.unread
  received : t'.host.received = t.host.received
  unfinished : t'.host.unfinished = t.host.unfinished

theorem Unchanged.trans {t t' t'' : Connection τ} (h : Unchanged t t') (h' : Unchanged t' t'') :
    Unchanged t t'' :=
  ⟨h'.unread.trans h.unread, h'.received.trans h.received, h'.unfinished.trans h.unfinished⟩

variable {I}

theorem Queued.unchanged {m : ℕ} {t t' : Connection τ} (h : Queued I m t) (hu : Unchanged t t') :
    Queued I m t' := by
  refine ⟨hu.received ▸ h.le, ?_⟩
  rw [hu.unread, h.unread, hu.received]

/-- Bytes that reach the instrument only add answers at the end. -/
theorem Queued.receive {m : ℕ} {t : Connection τ} (h : Queued I m t) (data : Bytes)
    (sends : List SendChoice) :
    Queued I m { t with host := I.receive data { t.host with sends := sends } } := by
  refine ⟨h.le.trans (Nat.le_add_right ..), ?_⟩
  have hu : t.buffer ++ t.host.inFlight = I.answers m (t.host.received - m) := h.unread
  simp only [SocketTransport.unread, Instrument.receive]
  rw [← List.append_assoc, hu, answers_append I _ _ _ h.le]

theorem Queued.sendall {m : ℕ} {t : Connection τ} (h : Queued I m t) (data : Bytes) :
    Queued I m { t with host := (I.sendall data t.host).2 } := by
  unfold Instrument.sendall
  split
  · exact h.receive data t.host.sends
  · exact h.receive data _
  · exact h.receive _ _

/-- A complete line that reaches an instrument with no unfinished line. -/
theorem receive_line {l : Link τ} (hl : l.unfinished = []) {body : Bytes} (hb : LF ∉ body) :
    (I.receive (body ++ [LF]) l).unfinished = [] ∧
      (I.receive (body ++ [LF]) l).received =
        l.received + if I.respondsTo body then 1 else 0 := by
  simp only [Instrument.receive, hl, List.nil_append, Lines.split_line hb, List.countP_singleton,
    and_self]

/-- A chunk moves from the link to the buffer. -/
theorem recv_chunk {n : ℕ} {l l' : Link τ} {chunk : Bytes} (h : Link.recv n l = (.ok chunk, l')) :
    chunk ++ l'.inFlight = l.inFlight ∧ l'.received = l.received ∧
      l'.unfinished = l.unfinished := by
  unfold Link.recv at h
  split at h
  · cases h
  · cases h
  · cases h; exact ⟨rfl, rfl, rfl⟩
  · split_ifs at h
    · cases h
    · cases h; exact ⟨List.take_append_drop .., rfl, rfl⟩

theorem recv_error {n : ℕ} {l l' : Link τ} {e : PyExc} (h : Link.recv n l = (.error e, l')) :
    l'.inFlight = l.inFlight ∧ l'.received = l.received ∧ l'.unfinished = l.unfinished := by
  unfold Link.recv at h
  split at h
  · cases h; exact ⟨rfl, rfl, rfl⟩
  · cases h; exact ⟨rfl, rfl, rfl⟩
  · cases h
  · split_ifs at h
    · cases h; exact ⟨rfl, rfl, rfl⟩
    · cases h

end

section
variable [PyText] {I : Instrument} {T : Timer τ}

theorem Queued.write {m : ℕ} {t t' : Connection τ} (h : Queued I m t) {data : Bytes}
    {r : Except PyExc Unit} (hw : t.write (linkHost I T) data = (r, t')) : Queued I m t' := by
  have hs := h.sendall data
  unfold SocketTransport.write at hw
  split_ifs at hw
  · cases hw; exact h
  · simp only [linkHost] at hw
    split at hw <;> rename_i hr <;> rw [hr] at hs <;> cases hw <;> exact hs

/-- A `write` of a command line that returns has handed the whole line over. -/
theorem write_line {t t' : Connection τ} (ht : t.host.unfinished = []) {body : Bytes}
    (hb : LF ∉ body) (h : t.write (linkHost I T) (body ++ [LF]) = (.ok (), t')) :
    t'.host.unfinished = [] ∧
      t'.host.received = t.host.received + if I.respondsTo body then 1 else 0 := by
  unfold SocketTransport.write at h
  split_ifs at h
  · cases h
  · simp only [linkHost] at h
    split at h
    · rename_i l hr
      cases h
      unfold Instrument.sendall at hr
      split at hr
      · cases hr; exact receive_line ht hb
      · cases hr; exact receive_line ht hb
      · cases hr
    · cases h

/-- What one `read` does: it takes a complete line off the unread bytes, or fails and
    leaves them as they are. -/
inductive ReadSpec (t : Connection τ) : Except PyExc Bytes → Connection τ → Prop
  | line {t'} (body : Bytes) : LF ∉ body → t.unread = body ++ LF :: t'.unread →
      t'.host.received = t.host.received → t'.host.unfinished = t.host.unfinished →
      ReadSpec t (.ok (body ++ [LF])) t'
  | failed {t'} (e : PyExc) : Unchanged t t' → ReadSpec t (.error e) t'

omit [PyText] in
theorem ReadSpec.of_unchanged {t t₁ t' : Connection τ} {r : Except PyExc Bytes}
    (h : ReadSpec t₁ r t') (hu : Unchanged t t₁) : ReadSpec t r t' := by
  cases h with
  | line body hb hun hrec hunf =>
    exact .line body hb (hu.unread ▸ hun) (hrec.trans hu.received) (hunf.trans hu.unfinished)
  | failed e hf => exact .failed e (hu.trans hf)

theorem readLoop_spec (t : Connection τ) :
    ReadSpec t (t.readLoop (linkHost I T)).1 (t.readLoop (linkHost I T)).2 := by
  fun_induction SocketTransport.readLoop (linkHost I T) t with
  | case1 t line rest hcut =>
    obtain ⟨body, hb, rfl, hbuf⟩ := Lines.cut_eq_some hcut
    exact .line body hb (by simp [SocketTransport.unread, hbuf]) rfl rfl
  | case2 t => exact .failed _ ⟨rfl, rfl, rfl⟩
  | case3 t _ _ e l hr =>
    obtain ⟨h1, h2, h3⟩ := recv_error hr
    exact .failed _ ⟨by simp [SocketTransport.unread, h1], h2, h3⟩
  | case4 t _ _ l hr =>
    obtain ⟨h1, h2, h3⟩ := recv_chunk hr
    exact .failed _ ⟨by simp [SocketTransport.unread, ← h1], h2, h3⟩
  | case5 t _ _ b bs l hr ih =>
    -- the chunk has only moved into the buffer
    obtain ⟨h1, h2, h3⟩ := recv_chunk hr
    exact ih.of_unchanged ⟨by simp [SocketTransport.unread, ← h1], h2, h3⟩

theorem read_spec {t t' : Connection τ} {r : Except PyExc Bytes}
    (h : t.read (linkHost I T) = (r, t')) : ReadSpec t r t' := by
  unfold SocketTransport.read at h
  split_ifs at h
  · cases h; exact .failed _ ⟨rfl, rfl, rfl⟩
  · have hs := readLoop_spec (I := I) (T := T) t
    rw [h] at hs; exact hs

omit [PyText] in
/-- A `read` of a queue of answers returns the first one. -/
theorem ReadSpec.queued {m : ℕ} {t t' : Connection τ} {data : Bytes} (hq : Queued I m t)
    (h : ReadSpec t (.ok data) t') :
    data = I.answer m ++ [LF] ∧ Queued I (m + 1) t' ∧ t'.host.received = t.host.received ∧
      t'.host.unfinished = t.host.unfinished := by
  cases h with
  | line body hb hun hrec hunf =>
    obtain ⟨k, hk⟩ : ∃ k, t.host.received - m = k + 1 := by
      refine Nat.exists_eq_succ_of_ne_zero fun h0 => ?_
      rw [hq.unread, h0] at hun
      simp [Instrument.answers] at hun
    rw [hq.unread, hk, answers_succ] at hun
    obtain ⟨rfl, hrest⟩ := Lines.line_unique (I.answer_line m) hb hun
    have hle := hq.le
    exact ⟨rfl, ⟨by omega, by rw [← hrest, show t'.host.received - (m + 1) = k by omega]⟩,
      hrec, hunf⟩

/-! ## One command -/

/-- The text that `decode` makes of the answer `n`, if it is ASCII. -/
def Instrument.reply (I : Instrument) (n : ℕ) : Option PyStr :=
  (decodeAscii (I.answer n ++ [LF])).map rstripNewlines

omit [PyText] in
theorem decode_reply {n : ℕ} {v : Option PyStr}
    (h : (DirectExecutor.decode (I.answer n ++ [LF])).map some = .ok v) : v = I.reply n := by
  unfold DirectExecutor.decode at h
  unfold Instrument.reply
  split at h <;> rename_i hd
  · cases h; rw [hd]; rfl
  · cases h

omit [PyText] in
/-- The lines a command is sent as hold no LF before their end. -/
theorem encode_line (c : Command) : LF ∉ encodeAscii c.text := by
  intro h
  obtain ⟨x, hx, he⟩ := List.mem_map.1 h
  obtain ⟨-, hlines, hascii⟩ := c.valid
  have hlt : x.val < 128 := by
    simpa using List.all_eq_true.1 hascii x hx
  have hn : x.val = 10 := by
    have := congrArg UInt8.toNat he
    rw [UInt8.toNat_ofNat', Nat.mod_eq_of_lt (by omega)] at this
    exact this
  have hlf : x.val ≠ 10 ∧ x.val ≠ 13 := by
    simpa [hasLineTerminator] using List.any_eq_false.1 hlines x hx
  exact hlf.1 hn

/-- The instrument answers a command exactly if it is a query. -/
def Agrees (I : Instrument) (c : Command) : Prop :=
  I.respondsTo (encodeAscii c.text) = c.isQuery

/-- The world of an executor whose transport is connected to the instrument. -/
abbrev linkWorld (I : Instrument) (T : Timer τ) : World (Connection τ) :=
  SocketTransport.world (linkHost I T)

abbrev LinkExecutor (τ : Type) := DirectExecutor (Connection τ)

theorem clock_unchanged (t : Connection τ) : Unchanged t ((linkWorld I T).clock t).2 :=
  ⟨rfl, rfl, rfl⟩

/-- The read of a query, after the clock reading and the pause that follow its write. -/
theorem query_read {t t' : Connection τ} {pause : ℚ} {r : Except PyExc Bytes}
    (h : (linkWorld I T).read ((linkWorld I T).sleeper pause ((linkWorld I T).clock t).2) =
      (r, t')) : ReadSpec t r t' :=
  (read_spec h).of_unchanged ⟨rfl, rfl, rfl⟩

theorem waitBeforeWrite_unchanged (x : LinkExecutor τ) :
    Unchanged x.world (x.waitBeforeWrite (linkWorld I T)).world := by
  unfold DirectExecutor.waitBeforeWrite
  split
  · exact ⟨rfl, rfl, rfl⟩
  · dsimp only
    split_ifs <;> exact ⟨rfl, rfl, rfl⟩

/-- After any command the unread bytes are still a queue of answers. -/
theorem attempt_queued {m : ℕ} {x : LinkExecutor τ} (h : Queued I m x.world) (c : Command) :
    ∃ m', Queued I m' (x.attempt (linkWorld I T) c).2.world := by
  have h1 := h.unchanged (waitBeforeWrite_unchanged (I := I) (T := T) x)
  have ha := DirectExecutor.attempt_spec (linkWorld I T) c x
  generalize (x.attempt (linkWorld I T) c).2 = x' at ha ⊢
  generalize (x.attempt (linkWorld I T) c).1 = r at ha
  cases ha with
  | writeFailed hw => exact ⟨m, h1.write hw⟩
  | written hw => exact ⟨m, (h1.write hw).unchanged (clock_unchanged _)⟩
  | readFailed hw _ hr =>
    cases query_read hr with
    | failed _ hu => exact ⟨m, (h1.write hw).unchanged hu⟩
  | answered hw _ hr => exact ⟨m + 1, ((query_read hr).queued (h1.write hw)).2.1⟩

/-- A command that returns on a connection without an unfinished line was received as
    one line, and the response of a query is the first unread answer. -/
theorem attempt_ok {m : ℕ} {x x' : LinkExecutor τ} {c : Command} {v : Option PyStr}
    (hq : Queued I m x.world) (hu : x.world.host.unfinished = []) (hc : Agrees I c)
    (h : x.attempt (linkWorld I T) c = (.ok v, x')) :
    Queued I (if c.isQuery then m + 1 else m) x'.world ∧ x'.world.host.unfinished = [] ∧
      x'.world.host.received = x.world.host.received + (if c.isQuery then 1 else 0) ∧
      v = if c.isQuery then I.reply m else none := by
  have hwait := waitBeforeWrite_unchanged (I := I) (T := T) x
  have h1 := hq.unchanged hwait
  have ha := DirectExecutor.attempt_spec (linkWorld I T) c x
  rw [h] at ha
  generalize hr : Except.ok v = r at ha
  cases ha with
  | writeFailed => cases hr
  | readFailed => cases hr
  | written hw hf =>
    obtain ⟨e1, e2⟩ := write_line (hwait.unfinished.trans hu) (encode_line c) hw
    cases hr
    rw [hc, hwait.received] at e2
    have h2 := (h1.write hw).unchanged (clock_unchanged (I := I) (T := T) _)
    simp only [hf, Bool.false_eq_true, if_false] at e2 ⊢
    exact ⟨h2, e1, e2, trivial⟩
  | answered hw ht hrd =>
    obtain ⟨e1, e2⟩ := write_line (hwait.unfinished.trans hu) (encode_line c) hw
    rw [hc, hwait.received] at e2
    obtain ⟨rfl, h3, h4, h5⟩ := (query_read hrd).queued (h1.write hw)
    simp only [ht, if_true] at e2 ⊢
    exact ⟨h3, h5.trans e1, h4.trans e2, decode_reply hr.symm⟩

/-! ## Batches -/

/-- The values of a batch whose first query is the `n`-th query line received. -/
def Instrument.expectedValues (I : Instrument) : ℕ → List Command → List (Option PyStr)
  | _, [] => []
  | n, c :: cs =>
    if c.isQuery then I.reply n :: I.expectedValues (n + 1) cs
    else none :: I.expectedValues n cs

theorem runFrom_queued {m : ℕ} (cs : List Command) :
    ∀ (index : ℕ) {x : LinkExecutor τ}, Queued I m x.world →
      ∃ m', Queued I m' (x.runFrom (linkWorld I T) index cs).2.world := by
  induction cs generalizing m with
  | nil => exact fun _ _ h => ⟨m, h⟩
  | cons c cs ih =>
    intro index x h
    obtain ⟨m', h'⟩ := attempt_queued (T := T) h c
    rw [← DirectExecutor.runCommand_snd (linkWorld I T) index] at h'
    unfold DirectExecutor.runFrom
    split <;> rename_i x' hr <;> rw [hr] at h'
    · exact ⟨m', h'⟩
    · exact ih (index + 1) h'

/-- A batch that returns on a connection without an unfinished line got the unread
    answers from the first one on. -/
theorem runFrom_ok {m : ℕ} (cs : List Command) :
    ∀ (index : ℕ) {x x' : LinkExecutor τ} {vs : List (Option PyStr)}, Queued I m x.world →
      x.world.host.unfinished = [] → (∀ c ∈ cs, Agrees I c) →
      x.runFrom (linkWorld I T) index cs = (.ok vs, x') →
      vs = I.expectedValues m cs ∧ x'.world.host.unfinished = [] ∧
        Queued I (m + cs.countP (·.isQuery)) x'.world ∧
        x'.world.host.received = x.world.host.received + cs.countP (·.isQuery) := by
  induction cs generalizing m with
  | nil =>
    intro _ x x' vs hq hu _ h
    cases h
    exact ⟨rfl, hu, hq, rfl⟩
  | cons c cs ih =>
    intro index x x' vs hq hu hc h
    unfold DirectExecutor.runFrom at h
    split at h
    · cases h
    · rename_i v x₁ hr
      obtain ⟨q1, u1, r1, rfl⟩ := attempt_ok hq hu (hc c (by simp))
        ((DirectExecutor.runCommand_ok _).1 hr)
      obtain ⟨r, x₂, hrest⟩ : ∃ r x₂, x₁.runFrom (linkWorld I T) (index + 1) cs = (r, x₂) :=
        ⟨_, _, rfl⟩
      simp only [hrest] at h
      cases r with
      | error => cases h
      | ok ws =>
        cases h
        obtain ⟨rfl, u2, q2, r2⟩ := ih (index + 1) q1 u1 (fun c' hc' => hc c' (by simp [hc'])) hrest
        rw [Instrument.expectedValues, List.countP_cons]
        cases hcq : c.isQuery with
        | true =>
          simp only [hcq, if_true] at q2 r1 ⊢
          refine ⟨trivial, u2, ?_, by omega⟩
          rwa [show m + (cs.countP (·.isQuery) + 1) = m + 1 + cs.countP (·.isQuery) by omega]
        | false =>
          simp only [hcq, Bool.false_eq_true, if_false] at q2 r1 ⊢
          exact ⟨trivial, u2, q2, by omega⟩

/-- A call into the executor: directly, or by the worker of a gateway for the work of
    one of its clients. -/
inductive Call where
  | execute (batch : CommandBatch)
  | work (w : Work)

def Call.batch : Call → CommandBatch
  | execute b => b
  | work w => w.batch

abbrev LinkOwner (τ : Type) := PhysicalOwner (Connection τ)

def Call.run (I : Instrument) (T : Timer τ) (o : LinkOwner τ) :
    Call → Except PyExc BatchResult × LinkOwner τ
  | execute b =>
    let (r, x) := o.executor.execute (linkWorld I T) b
    (r, { o with executor := x })
  | work w => o.runWork (linkWorld I T) w

/-- The owner after a sequence of calls, whatever their outcomes. -/
def runCalls (I : Instrument) (T : Timer τ) (o : LinkOwner τ) (calls : List Call) :
    LinkOwner τ :=
  calls.foldl (fun o c => (c.run I T o).2) o

theorem execute_queued {m : ℕ} {x : LinkExecutor τ} (h : Queued I m x.world)
    (b : CommandBatch) : ∃ m', Queued I m' (x.execute (linkWorld I T) b).2.world := by
  unfold DirectExecutor.execute
  split_ifs
  · exact ⟨m, h⟩
  · exact runFrom_queued _ 0 h

theorem prepare_unchanged (o : LinkOwner τ) (st : ExecutionSettings) :
    Unchanged o.executor.world (o.prepare (linkWorld I T) st).executor.world := by
  unfold PhysicalOwner.prepare PhysicalOwner.waitForInterval
  dsimp only
  split
  · dsimp only
    split_ifs <;> exact ⟨rfl, rfl, rfl⟩
  · exact ⟨rfl, rfl, rfl⟩

/-- Every call keeps the queue of answers, whether it returns or raises. -/
theorem call_queued {m : ℕ} {o : LinkOwner τ} (h : Queued I m o.executor.world) (c : Call) :
    ∃ m', Queued I m' (c.run I T o).2.executor.world := by
  cases c with
  | execute b => exact execute_queued h b
  | work w =>
    obtain ⟨m', h'⟩ := execute_queued (T := T) (h.unchanged (prepare_unchanged (T := T) o w.settings))
      w.batch
    exact ⟨m', h'.unchanged (clock_unchanged _)⟩

theorem runCalls_queued {o : LinkOwner τ} (calls : List Call) {m : ℕ}
    (h : Queued I m o.executor.world) :
    ∃ m', Queued I m' (runCalls I T o calls).executor.world := by
  induction calls generalizing o m with
  | nil => exact ⟨m, h⟩
  | cons c calls ih =>
    obtain ⟨m', h'⟩ := call_queued (T := T) h c
    exact ih h'

/-- A batch that returns got the unread answers from the first one on. -/
theorem execute_ok {m : ℕ} {x x' : LinkExecutor τ} {b : CommandBatch} {result : BatchResult}
    (hq : Queued I m x.world) (hu : x.world.host.unfinished = [])
    (hc : ∀ cmd ∈ b.commands, Agrees I cmd)
    (h : x.execute (linkWorld I T) b = (.ok result, x')) :
    result.values = I.expectedValues m b.commands ∧ x'.world.host.unfinished = [] ∧
      Queued I (m + b.commands.countP (·.isQuery)) x'.world ∧
      x'.world.host.received = x.world.host.received + b.commands.countP (·.isQuery) := by
  unfold DirectExecutor.execute at h
  split_ifs at h
  · cases h
  · obtain ⟨r, y, hr⟩ : ∃ r y, x.runFrom (linkWorld I T) 0 b.commands = (r, y) := ⟨_, _, rfl⟩
    rw [hr] at h
    cases r with
    | error => cases h
    | ok vs => cases h; exact runFrom_ok _ 0 hq hu hc hr

/-- A call that returns got the unread answers from the first one on. -/
theorem call_ok {m : ℕ} {o : LinkOwner τ} {c : Call} {result : BatchResult}
    (hq : Queued I m o.executor.world) (hu : o.executor.world.host.unfinished = [])
    (hc : ∀ cmd ∈ c.batch.commands, Agrees I cmd) (h : (c.run I T o).1 = .ok result) :
    let t := (c.run I T o).2.executor.world
    result.values = I.expectedValues m c.batch.commands ∧ t.host.unfinished = [] ∧
      Queued I (m + c.batch.commands.countP (·.isQuery)) t ∧
      t.host.received = o.executor.world.host.received + c.batch.commands.countP (·.isQuery) := by
  cases c with
  | execute b => exact execute_ok hq hu hc (Prod.ext h rfl)
  | work w =>
    have hp := prepare_unchanged (I := I) (T := T) o w.settings
    obtain ⟨h1, h2, h3, h4⟩ := execute_ok (hq.unchanged hp) (hp.unfinished.trans hu) hc
      (Prod.ext h rfl)
    exact ⟨h1, h2, h3.unchanged (clock_unchanged _), h4.trans (by rw [hp.received])⟩

/-! ## Attribution -/

omit [PyText] in
/-- With distinct answers the values of a batch tell which answers it got. -/
theorem expectedValues_injective (hd : Function.Injective I.reply) {cs : List Command}
    (hq : ∃ c ∈ cs, c.isQuery) {m n : ℕ} (h : I.expectedValues m cs = I.expectedValues n cs) :
    m = n := by
  induction cs generalizing m n with
  | nil => simp at hq
  | cons c cs ih =>
    simp only [Instrument.expectedValues] at h
    cases hc : c.isQuery with
    | true =>
      simp only [hc, if_true, List.cons.injEq] at h
      exact hd h.1
    | false =>
      simp only [hc, Bool.false_eq_true, if_false, List.cons.injEq, true_and] at h
      refine ih ?_ h
      obtain ⟨c', hc', hcq⟩ := hq
      rcases List.mem_cons.1 hc' with rfl | hc'
      · rw [hc] at hcq; cases hcq
      · exact ⟨c', hc', hcq⟩

/-- A connection just opened: nothing sent, nothing received. -/
structure Fresh (t : Connection τ) : Prop where
  buffer : t.buffer = []
  unfinished : t.host.unfinished = []
  received : t.host.received = 0
  inFlight : t.host.inFlight = []

omit [PyText] in
theorem Fresh.queued {t : Connection τ} (h : Fresh t) : Queued I 0 t := by
  refine ⟨Nat.zero_le _, ?_⟩
  rw [SocketTransport.unread, h.buffer, h.inFlight, h.received]; rfl

/-- Nothing is left over from earlier calls: no answer is unread, in the buffer or on its
    way, and the instrument holds no unfinished command line. -/
structure InStep (t : Connection τ) : Prop where
  unread : t.unread = []
  unfinished : t.host.unfinished = []

omit [PyText] in
theorem Queued.unread_eq_nil {m : ℕ} {t : Connection τ} (h : Queued I m t) :
    t.unread = [] ↔ m = t.host.received := by
  have hle := h.le
  rw [h.unread, Instrument.answers, Lines.frames_eq_nil, List.map_eq_nil_iff,
    List.range'_eq_nil_iff]
  omega

/-- The values of a call are the answers to its own transmissions. -/
def Attributed (I : Instrument) (t : Connection τ) (c : Call) (result : BatchResult) : Prop :=
  result.values = I.expectedValues t.host.received c.batch.commands

/-- **Response attribution.**  After any calls, with any outcomes, a call that returns got
    the answers to its own transmissions if nothing was left over when it started; and if
    an answer was left over, distinct answers show that it did not. -/
theorem responses_attributed (o : LinkOwner τ) (ho : Fresh o.executor.world)
    (calls : List Call) (c : Call) (hc : ∀ cmd ∈ c.batch.commands, Agrees I cmd)
    (result : BatchResult) (h : (c.run I T (runCalls I T o calls)).1 = .ok result) :
    let t := (runCalls I T o calls).executor.world
    (InStep t → Attributed I t c result) ∧
      (t.host.unfinished = [] → Function.Injective I.reply →
        (∃ cmd ∈ c.batch.commands, cmd.isQuery) → Attributed I t c result → InStep t) := by
  intro t
  obtain ⟨m, hq⟩ := runCalls_queued (I := I) (T := T) calls ho.queued
  have hval := fun hu => (call_ok hq hu hc h).1
  constructor
  · intro hs
    rw [Attributed, hval hs.unfinished, hq.unread_eq_nil.1 hs.unread]
  · intro hu hd hquery ha
    rw [Attributed, hval hu] at ha
    exact ⟨hq.unread_eq_nil.2 (expectedValues_injective hd hquery ha), hu⟩

end

/-! ## A late answer -/

/-- An instrument that answers a line ending in `?` with one more zero each time. -/
def zeroCounter : Instrument where
  respondsTo l := l.getLast? == some 63
  answer n := List.replicate (n + 1) 48
  answer_line n h := absurd (List.eq_of_mem_replicate h) (by decide)

def stoppedTimer : Timer Unit := ⟨fun u => (0, u), fun _ u => u, id⟩

def askVoltage : Call := .execute ⟨[.query ⟨"CH1:VOLT?", by decide⟩], by simp⟩

def askCurrent : Call := .execute ⟨[.query ⟨"CH1:CURR?", by decide⟩], by simp⟩

/-- A setpoint, then the readings of the voltage and of the current. -/
def setAndRead : Call :=
  .execute ⟨[.write ⟨"CH1:VOLT 5", by decide⟩, .query ⟨"CH1:VOLT?", by decide⟩,
    .query ⟨"CH1:CURR?", by decide⟩], by simp⟩

/-- The owner of a fresh connection with the given schedule of sends and receives. -/
def freshOwner (sends : List SendChoice) (recvs : List RecvChoice) : LinkOwner Unit where
  executor := ⟨.default, none, false,
    ⟨[], 1048576, false, ⟨[], 0, [], sends, recvs, ()⟩⟩⟩
  previousInterval := none
  lastCompletedAt := none

theorem freshOwner_fresh (sends : List SendChoice) (recvs : List RecvChoice) :
    Fresh (freshOwner sends recvs).executor.world :=
  ⟨rfl, rfl, rfl, rfl⟩

theorem askCurrent_agrees : ∀ cmd ∈ askCurrent.batch.commands, Agrees zeroCounter cmd := by
  simp only [askCurrent, Call.batch, List.mem_singleton, forall_eq]
  rfl

theorem setAndRead_agrees : ∀ cmd ∈ setAndRead.batch.commands, Agrees zeroCounter cmd := by
  simp only [setAndRead, Call.batch, List.forall_mem_cons]
  exact ⟨rfl, rfl, rfl, fun _ h => absurd h List.not_mem_nil⟩

/-- The first `sendall` fails before a byte has arrived, and every answer comes in two
    chunks. -/
def brokenOwner : LinkOwner Unit :=
  freshOwner [.cut 0 (.msg .osError "broken pipe")] [.chunk 0, .chunk 4095, .chunk 0, .chunk 4095]

/-- The executor of `brokenOwner` when the query lines `0`, ..., `n - 1` have been answered. -/
def mended (n : ℕ) (recvs : List RecvChoice) : LinkExecutor Unit :=
  ⟨.default, some 0, false, ⟨[], 1048576, false, ⟨[], n, [], [], recvs, ()⟩⟩⟩

section
variable [PyText]

/-- With a clock that stands still, no wait changes the connection. -/
theorem waitBeforeWrite_stopped (I : Instrument) (x : LinkExecutor Unit) :
    x.waitBeforeWrite (linkWorld I stoppedTimer) = x :=
  DirectExecutor.waitBeforeWrite_still _ (fun _ => rfl) (fun _ _ => rfl) x

/-- The first call fails and leaves nothing behind. -/
theorem askVoltage_broken :
    (askVoltage.run zeroCounter stoppedTimer brokenOwner).1.isOk = false ∧
      runCalls zeroCounter stoppedTimer brokenOwner [askVoltage] =
        freshOwner [] [.chunk 0, .chunk 4095, .chunk 0, .chunk 4095] :=
  ⟨by with_unfolding_all rfl, by with_unfolding_all rfl⟩

theorem voltage_written :
    (freshOwner [] [.chunk 0, .chunk 4095, .chunk 0, .chunk 4095]).executor.attempt
        (linkWorld zeroCounter stoppedTimer) (.write ⟨"CH1:VOLT 5", by decide⟩) =
      (.ok none, mended 0 [.chunk 0, .chunk 4095, .chunk 0, .chunk 4095]) := by
  with_unfolding_all rfl

theorem voltage_answered :
    (mended 0 [.chunk 0, .chunk 4095, .chunk 0, .chunk 4095]).attempt
        (linkWorld zeroCounter stoppedTimer) (.query ⟨"CH1:VOLT?", by decide⟩) =
      (.ok (zeroCounter.reply 0), mended 1 [.chunk 0, .chunk 4095]) := by
  simp only [DirectExecutor.attempt, waitBeforeWrite_stopped]
  with_unfolding_all rfl

theorem current_answered :
    (mended 1 [.chunk 0, .chunk 4095]).attempt
        (linkWorld zeroCounter stoppedTimer) (.query ⟨"CH1:CURR?", by decide⟩) =
      (.ok (zeroCounter.reply 1), mended 2 []) := by
  simp only [DirectExecutor.attempt, waitBeforeWrite_stopped]
  with_unfolding_all rfl

theorem setAndRead_broken :
    (setAndRead.run zeroCounter stoppedTimer
      (freshOwner [] [.chunk 0, .chunk 4095, .chunk 0, .chunk 4095])).1 =
      .ok ⟨[none, zeroCounter.reply 0, zeroCounter.reply 1]⟩ := by
  simp only [Call.run, setAndRead, DirectExecutor.execute, DirectExecutor.runFrom,
    (DirectExecutor.runCommand_ok _).2 voltage_written,
    (DirectExecutor.runCommand_ok _).2 voltage_answered,
    (DirectExecutor.runCommand_ok _).2 current_answered]
  rfl

end

/-- A batch after a call that has failed: its answers are the first ones of the instrument. -/
theorem responses_attributed_broken :
    (@Call.run _ PyText.blank zeroCounter stoppedTimer brokenOwner askVoltage).1.isOk = false ∧
      Attributed zeroCounter
        (@runCalls _ PyText.blank zeroCounter stoppedTimer brokenOwner [askVoltage]).executor.world
        setAndRead ⟨[none, zeroCounter.reply 0, zeroCounter.reply 1]⟩ := by
  let _ : PyText := PyText.blank
  obtain ⟨hfailed, hcalls⟩ := askVoltage_broken
  refine ⟨hfailed, ?_⟩
  refine (responses_attributed brokenOwner (freshOwner_fresh _ _) [askVoltage] setAndRead
    setAndRead_agrees _ ?_).1 ?_
  · rw [hcalls]
    exact setAndRead_broken
  · rw [hcalls]
    exact ⟨rfl, rfl⟩

/-- The read of the first query times out before a byte of its answer has arrived. -/
def lateOwner : LinkOwner Unit := freshOwner [] [.raise timedOut, .chunk 4095]

/-- After the first query: its answer is on the way. -/
def lateOwner' : LinkOwner Unit :=
  { lateOwner with executor := { lateOwner.executor with
      lastWriteAt := some 0
      world := ⟨[], 1048576, false, ⟨[], 1, [48, LF], [], [.chunk 4095], ()⟩⟩ } }

section
variable [PyText]

theorem runCalls_late : runCalls zeroCounter stoppedTimer lateOwner [askVoltage] = lateOwner' := by
  with_unfolding_all rfl

/-- The second query gets the answer to the first one. -/
theorem askCurrent_late :
    (askCurrent.run zeroCounter stoppedTimer lateOwner').1 = .ok ⟨[zeroCounter.reply 0]⟩ := by
  simp only [Call.run, askCurrent, DirectExecutor.execute, DirectExecutor.runFrom,
    DirectExecutor.runCommand, DirectExecutor.attempt, waitBeforeWrite_stopped]
  with_unfolding_all rfl

end

/-- The reading of the current is the late answer to the reading of the voltage. -/
theorem late_answer_misattributed :
    ¬ ∀ [PyText] (I : Instrument) (T : Timer Unit) (o : LinkOwner Unit) (calls : List Call)
      (c : Call) (result : BatchResult), Fresh o.executor.world →
      (∀ cmd ∈ c.batch.commands, Agrees I cmd) → (c.run I T (runCalls I T o calls)).1 = .ok result →
      Attributed I (runCalls I T o calls).executor.world c result := by
  intro h
  let _ : PyText := PyText.blank
  have hr := askCurrent_late
  rw [← runCalls_late] at hr
  have ha := h zeroCounter stoppedTimer lateOwner [askVoltage] askCurrent _ (freshOwner_fresh _ _)
    askCurrent_agrees hr
  rw [runCalls_late] at ha
  have hv : [zeroCounter.reply 0] = [zeroCounter.reply 1] := ha
  exact absurd hv (by decide)

end Spd3000
