/-
  Lines of a byte stream, as successive calls of `SocketTransport.read` return
  them (`transport/socket.py`).

  The socket delivers the stream of the instrument in chunks of its own choice
  and may raise at any `recv` (`Host.Delivers`).  `Host.recorded` writes down what
  each `recv` was asked for and gave.  One `read` takes the first line of the
  unread bytes, refuses a line that goes on beyond the limit, or fails with a
  `recv` and leaves them as they are (`ReadOutcome`); so whatever the chunks, the
  reads return the readable lines of the stream (`lines_reassembled`).
-/
import Spd3000.Attribution

namespace Spd3000

variable {ν : Type}

/-! ## The socket -/

/-- A call of `recv`: the size asked for, and what it returned or raised. -/
structure RecvCall where
  size : ℕ
  result : Except PyExc Bytes

/-- The call returned some bytes. -/
def RecvCall.delivered (c : RecvCall) : Bool :=
  match c.result with
  | .ok (_ :: _) => true
  | _ => false

/-- The number of bytes received. -/
def RecvCall.received (c : RecvCall) : ℕ :=
  match c.result with
  | .ok data => data.length
  | .error _ => 0

/-- Starting from a number of buffered bytes, every call asks for at least one byte and for no more
    than the limit leaves room for, so that the buffer never exceeds it. -/
def WithinLimit (limit : ℕ) : ℕ → List RecvCall → Prop
  | buffered, [] => buffered ≤ limit
  | buffered, c :: calls => buffered ≤ limit ∧ 0 < c.size ∧ buffered + c.size ≤ limit ∧
    WithinLimit limit (buffered + c.received) calls

/-- What a `recv` of a stream may give: a non-empty chunk of at most the size asked for, an error
    of the socket, such as a timeout, or the end of a stream that has been read. -/
inductive Received (size : ℕ) (unsent : Bytes) : Except PyExc Bytes → Bytes → Prop
  | chunk {b : UInt8} {bs later : Bytes} : (b :: bs).length ≤ size → unsent = b :: bs ++ later →
      Received size unsent (.ok (b :: bs)) later
  | raised {e : PyExc} : e.isinstance .osError → Received size unsent (.error e) unsent
  | closed : unsent = [] → Received size unsent (.ok []) unsent

namespace Host
variable (H : Host ν)

/-- The socket delivers a stream, of which `unsent` has not been received. -/
def Delivers (unsent : ν → Bytes) : Prop :=
  ∀ size h, 0 < size → Received size (unsent h) (H.recv size h).1 (unsent (H.recv size h).2)

/-- The host, with the calls of `recv` written down. -/
def recorded : Host (ν × List RecvCall) where
  sendall data s := ((H.sendall data s.1).1, (H.sendall data s.1).2, s.2)
  recv size s := ((H.recv size s.1).1, (H.recv size s.1).2, s.2 ++ [⟨size, (H.recv size s.1).1⟩])
  clock s := ((H.clock s.1).1, (H.clock s.1).2, s.2)
  sleeper r s := (H.sleeper r s.1, s.2)
  idle s := (H.idle s.1, s.2)

end Host

abbrev RecordedTransport (ν : Type) := SocketTransport (ν × List RecvCall)

/-- The bytes of the stream that no `read` has returned: buffered, then unsent. -/
def unreadBytes (unsent : ν → Bytes) (t : RecordedTransport ν) : Bytes :=
  t.buffer ++ unsent t.host.1

/-! ## One read -/

/-- What one `read` with the given calls of `recv` does to the unread bytes. -/
inductive ReadOutcome (limit : ℕ) (unread later : Bytes) (calls : List RecvCall) :
    Except PyExc Bytes → Prop
  | line {body : Bytes} : (∀ c ∈ calls, c.delivered) → LF ∉ body → body.length < limit →
      unread = body ++ LF :: later → ReadOutcome limit unread later calls (.ok (body ++ [LF]))
  | overlong : (∀ c ∈ calls, c.delivered) → limit ≤ unread.length → LF ∉ unread.take limit →
      later = unread → ReadOutcome limit unread later calls
        (.error (.msg .spd3000ProtocolError "Instrument response exceeded the configured limit"))
  | failed {e : PyExc} : (∃ c ∈ calls, c.delivered = false) →
      e.cls = .spd3000TimeoutError ∨ e.cls = .spd3000ConnectionError → later = unread →
      ReadOutcome limit unread later calls (.error e)

theorem ReadOutcome.cons {limit : ℕ} {unread later : Bytes} {calls : List RecvCall}
    {r : Except PyExc Bytes} {c : RecvCall} (h : ReadOutcome limit unread later calls r)
    (hc : c.delivered) : ReadOutcome limit unread later (c :: calls) r := by
  cases h with
  | line hcalls hbody hlength hunread =>
    exact .line (List.forall_mem_cons.2 ⟨hc, hcalls⟩) hbody hlength hunread
  | overlong hcalls hlength hnone hunread =>
    exact .overlong (List.forall_mem_cons.2 ⟨hc, hcalls⟩) hlength hnone hunread
  | failed hcalls he hunread =>
    obtain ⟨c', hc', hfailed⟩ := hcalls
    exact .failed ⟨c', List.mem_cons_of_mem _ hc', hfailed⟩ he hunread

/-- The read has raised `SPD3000ProtocolError`. -/
def Refused (r : Except PyExc Bytes) : Prop := ∃ e, r = .error e ∧ e.cls = .spd3000ProtocolError

/-- A read refuses exactly the lines that go on beyond the limit. -/
theorem ReadOutcome.refused_iff {limit : ℕ} {unread later : Bytes} {calls : List RecvCall}
    {r : Except PyExc Bytes} (h : ReadOutcome limit unread later calls r) :
    Refused r ↔ (∀ c ∈ calls, c.delivered) ∧ LF ∉ unread.take limit := by
  cases h with
  | @line body _ hbody hlength hunread =>
    refine iff_of_false ?_ ?_
    · rintro ⟨_, ⟨⟩, _⟩
    · rintro ⟨-, hnone⟩
      have hinitial : body ++ [LF] <+: unread.take limit := by
        rw [hunread, List.prefix_take_iff, List.length_append, List.length_singleton]
        exact ⟨⟨later, List.append_assoc ..⟩, hlength⟩
      exact hnone (hinitial.subset (by simp))
  | overlong hcalls _ hnone _ => exact iff_of_true ⟨_, rfl, rfl⟩ ⟨hcalls, hnone⟩
  | failed hcalls he _ =>
    refine iff_of_false ?_ ?_
    · rintro ⟨_, ⟨⟩, hcls⟩
      rw [hcls] at he
      rcases he with he | he <;> cases he
    · rintro ⟨hall, -⟩
      obtain ⟨c, hc, hfailed⟩ := hcalls
      exact Bool.false_ne_true (hfailed.symm.trans (hall c hc))

/-- What holds of one `read`. -/
structure ReadStep (unsent : ν → Bytes) (t : RecordedTransport ν) (r : Except PyExc Bytes)
    (t' : RecordedTransport ν) (calls : List RecvCall) : Prop where
  recorded : t'.host.2 = t.host.2 ++ calls
  /-- The number of `recv` calls. -/
  bounded : calls.length + t.buffer.length ≤ t.maxResponseBytes + 1
  room : WithinLimit t.maxResponseBytes t.buffer.length calls
  outcome : ReadOutcome t.maxResponseBytes (unreadBytes unsent t) (unreadBytes unsent t') calls r
  buffer_le : t'.buffer.length ≤ t.maxResponseBytes
  limit : t'.maxResponseBytes = t.maxResponseBytes
  isOpen : t'.closed = t.closed

section
variable [PyText] {H : Host ν} {unsent : ν → Bytes}

theorem readError_cls (received : ℕ) {e : PyExc} (h : e.isinstance .osError) :
    (SocketTransport.readError received e).cls = .spd3000TimeoutError ∨
      (SocketTransport.readError received e).cls = .spd3000ConnectionError := by
  unfold SocketTransport.readError
  rw [if_pos h]
  by_cases htimeout : e.isinstance .timeoutError
  · rw [if_pos htimeout]
    exact .inl rfl
  · rw [if_neg htimeout]
    exact .inr rfl

omit [PyText] in
/-- A chunk has only moved into the buffer. -/
theorem ReadStep.cons {t t₁ t' : RecordedTransport ν} {r : Except PyExc Bytes}
    {calls : List RecvCall} {c : RecvCall} (h : ReadStep unsent t₁ r t' calls)
    (hc : c.delivered) (hsize : 0 < c.size) (hhost : t₁.host.2 = t.host.2 ++ [c])
    (hroom : t.buffer.length + c.size ≤ t.maxResponseBytes) (hreceived : 0 < c.received)
    (hbuffer : t₁.buffer.length = t.buffer.length + c.received)
    (hunread : unreadBytes unsent t₁ = unreadBytes unsent t)
    (hlimit : t₁.maxResponseBytes = t.maxResponseBytes) (hopen : t₁.closed = t.closed) :
    ReadStep unsent t r t' (c :: calls) where
  recorded := by rw [h.recorded, hhost, List.append_assoc, List.singleton_append]
  bounded := by
    have := h.bounded
    rw [List.length_cons]
    omega
  room := by
    have hrest := h.room
    rw [hbuffer, hlimit] at hrest
    exact ⟨by omega, hsize, hroom, hrest⟩
  outcome := by
    have houtcome := h.outcome
    rw [hunread, hlimit] at houtcome
    exact houtcome.cons hc
  buffer_le := hlimit ▸ h.buffer_le
  limit := h.limit.trans hlimit
  isOpen := h.isOpen.trans hopen

omit [PyText] in
/-- A call of `recv` is written down, and gives what the socket may give. -/
theorem recorded_recv (hH : H.Delivers unsent) {size : ℕ} (hsize : 0 < size)
    {s s' : ν × List RecvCall} {r : Except PyExc Bytes} (h : H.recorded.recv size s = (r, s')) :
    s'.2 = s.2 ++ [⟨size, r⟩] ∧ Received size (unsent s.1) r (unsent s'.1) := by
  cases h
  exact ⟨rfl, hH size s.1 hsize⟩

/-- **One read.**  The loop of `read` takes a line, refuses one or fails, and loses nothing. -/
theorem readLoop_step (hH : H.Delivers unsent) (t : RecordedTransport ν)
    (hbuffer : t.buffer.length ≤ t.maxResponseBytes) :
    ∃ calls, ReadStep unsent t (t.readLoop H.recorded).1 (t.readLoop H.recorded).2 calls := by
  fun_induction SocketTransport.readLoop H.recorded t with
  | case1 t line rest hcut =>
    obtain ⟨body, hbody, rfl, hbuf⟩ := Lines.cut_eq_some hcut
    have hlength := congrArg List.length hbuf
    rw [List.length_append, List.length_append, List.length_singleton] at hlength
    refine ⟨[], ⟨(List.append_nil _).symm, by rw [List.length_nil]; omega, hbuffer,
      .line (by simp) hbody (by omega) ?_, ?_, rfl, rfl⟩⟩
    · simp only [unreadBytes, hbuf, List.append_assoc, List.cons_append,
        List.nil_append]
    · dsimp only
      omega
  | case2 t hcut hfull =>
    have hnone := Lines.cut_eq_none.1 hcut
    have htake : (unreadBytes unsent t).take t.maxResponseBytes = t.buffer := by
      rw [unreadBytes, le_antisymm hfull hbuffer, List.take_left]
    refine ⟨[], ⟨(List.append_nil _).symm, by rw [List.length_nil]; omega, hbuffer,
      .overlong (by simp) ?_ (by rw [htake]; exact hnone) rfl, hbuffer, rfl, rfl⟩⟩
    rw [unreadBytes, List.length_append]
    omega
  | case3 t hcut hfull e host hr =>
    have hsize : 0 < min 4096 (t.maxResponseBytes - t.buffer.length) := by omega
    obtain ⟨hcalls, hreceived⟩ := recorded_recv hH hsize hr
    generalize hlater : unsent host.1 = later at hreceived
    cases hreceived with
    | raised he =>
      refine ⟨_, ⟨hcalls, ?_, ?_, .failed ⟨_, List.mem_singleton_self _, rfl⟩ (readError_cls _ he) ?_,
        hbuffer, rfl, rfl⟩⟩
      · rw [List.length_singleton]
        omega
      · exact ⟨hbuffer, hsize, by dsimp only; omega, hbuffer⟩
      · rw [unreadBytes, unreadBytes, hlater]
  | case4 t hcut hfull host hr =>
    have hsize : 0 < min 4096 (t.maxResponseBytes - t.buffer.length) := by omega
    obtain ⟨hcalls, hreceived⟩ := recorded_recv hH hsize hr
    generalize hlater : unsent host.1 = later at hreceived
    cases hreceived with
    | closed hclosed =>
      refine ⟨_, ⟨hcalls, ?_, ?_, .failed ⟨_, List.mem_singleton_self _, rfl⟩ (.inr rfl) ?_,
        hbuffer, rfl, rfl⟩⟩
      · rw [List.length_singleton]
        omega
      · exact ⟨hbuffer, hsize, by dsimp only; omega, hbuffer⟩
      · rw [unreadBytes, unreadBytes, hlater]
  | case5 t hcut hfull b bs host hr ih =>
    have hsize : 0 < min 4096 (t.maxResponseBytes - t.buffer.length) := by omega
    obtain ⟨hcalls, hreceived⟩ := recorded_recv hH hsize hr
    generalize hlater : unsent host.1 = later at hreceived
    cases hreceived with
    | chunk hlength hunsent =>
      have hgrown : (t.buffer ++ b :: bs).length = t.buffer.length + (b :: bs).length :=
        List.length_append
      obtain ⟨calls, hstep⟩ := ih (by dsimp only; omega)
      refine ⟨_, hstep.cons rfl hsize hcalls (by dsimp only; omega) (Nat.succ_pos _) hgrown ?_ rfl
        rfl⟩
      rw [unreadBytes, unreadBytes, hlater, hunsent, List.append_assoc]

theorem read_step (hH : H.Delivers unsent) {t : RecordedTransport ν} (hopen : t.closed = false)
    (hbuffer : t.buffer.length ≤ t.maxResponseBytes) :
    ∃ calls, ReadStep unsent t (t.read H.recorded).1 (t.read H.recorded).2 calls := by
  rw [SocketTransport.read, if_neg (by simp [hopen])]
  exact readLoop_step hH t hbuffer

end

/-! ## Successive reads -/

section
variable [PyText] (H : Host ν)

/-- Successive calls of `read`. -/
def SocketTransport.reads : ℕ → SocketTransport ν → List (Except PyExc Bytes) × SocketTransport ν
  | 0, t => ([], t)
  | n + 1, t =>
    let (r, t) := t.read H
    let (rs, t) := reads n t
    (r :: rs, t)

omit [PyText] in
/-- The lines that reads have returned. -/
def returned (rs : List (Except PyExc Bytes)) : List Bytes :=
  rs.filterMap fun | .ok line => some line | .error _ => none

omit [PyText] in
/-- The read has returned a line or refused one. -/
def answered : Except PyExc Bytes → Bool
  | .ok _ => true
  | .error e => e.cls == .spd3000ProtocolError

/-- What holds after some reads of a stream: its readable lines have been returned, one by each
    read that did not fail, and no byte is lost; and the next read goes on so. -/
structure Reassembled (unsent : ν → Bytes) (limit : ℕ) (stream : Bytes)
    (rs : List (Except PyExc Bytes)) (t : RecordedTransport ν) : Prop where
  lines : returned rs = (Lines.readable LF limit stream).take (rs.countP answered)
  conserved : (returned rs).flatten ++ unreadBytes unsent t = stream
  limit_eq : t.maxResponseBytes = limit
  next : ∃ calls, ReadStep unsent t (t.read H.recorded).1 (t.read H.recorded).2 calls ∧
    (Refused (t.read H.recorded).1 ↔
      (∀ c ∈ calls, c.delivered) ∧ LF ∉ (unreadBytes unsent t).take limit)

variable {H} {unsent : ν → Bytes}

theorem reads_reassembled (hH : H.Delivers unsent) (n : ℕ) : ∀ t : RecordedTransport ν,
    t.closed = false → t.buffer.length ≤ t.maxResponseBytes →
    Reassembled H unsent t.maxResponseBytes (unreadBytes unsent t) (t.reads H.recorded n).1
      (t.reads H.recorded n).2 := by
  induction n with
  | zero =>
    intro t hopen hbuffer
    obtain ⟨calls, hstep⟩ := read_step hH hopen hbuffer
    exact ⟨rfl, rfl, rfl, calls, hstep, hstep.outcome.refused_iff⟩
  | succ n ih =>
    intro t hopen hbuffer
    obtain ⟨calls, hstep⟩ := read_step hH hopen hbuffer
    have hlater := ih _ (hstep.isOpen.trans hopen) (hstep.limit ▸ hstep.buffer_le)
    have hreads : t.reads H.recorded (n + 1) =
        ((t.read H.recorded).1 :: ((t.read H.recorded).2.reads H.recorded n).1,
          ((t.read H.recorded).2.reads H.recorded n).2) := rfl
    rw [hreads]
    generalize (t.read H.recorded).2 = t₁ at hstep hlater
    generalize (t.read H.recorded).1 = r at hstep
    generalize t₁.reads H.recorded n = p at hlater
    rw [hstep.limit] at hlater
    obtain ⟨hlines, hconserved, hlimit, hnext⟩ := hlater
    cases hstep.outcome with
    | @line body _ hbody hlength hunread =>
      refine ⟨?_, ?_, hlimit, hnext⟩
      · rw [hunread, Lines.readable_line hbody hlength, List.countP_cons_of_pos rfl, List.take_succ_cons,
          ← hlines]
        rfl
      · rw [hunread, ← hconserved]
        simp [returned]
    | overlong _ _ hnone hunread =>
      -- no read gets past the line, so nothing is returned from here on
      refine ⟨?_, hconserved.trans hunread, hlimit, hnext⟩
      rw [hunread, Lines.readable_overlong hnone, List.take_nil] at hlines
      rw [Lines.readable_overlong hnone, List.take_nil]
      exact hlines
    | @failed e _ he hunread =>
      have hanswered : answered (.error e) = false := by
        rcases he with he | he <;> rw [answered, he] <;> rfl
      refine ⟨?_, hconserved.trans hunread, hlimit, hnext⟩
      rw [List.countP_cons_of_neg (by simp [hanswered]), ← hunread]
      exact hlines

/-- A transport whose connection has just been made. -/
def SocketTransport.connected (maxResponseBytes : ℕ) (host : ν) : SocketTransport ν :=
  ⟨[], maxResponseBytes, false, host⟩

/-- **Line reassembly.**  However the stream of the instrument is cut into chunks and whenever a
    `recv` raises, the reads return its lines. -/
theorem lines_reassembled (hH : H.Delivers unsent) (limit : ℕ) (h : ν) (n : ℕ) :
    Reassembled H unsent limit (unsent h)
      ((SocketTransport.connected limit (h, [])).reads H.recorded n).1
      ((SocketTransport.connected limit (h, [])).reads H.recorded n).2 :=
  reads_reassembled hH n (.connected limit (h, [])) rfl (Nat.zero_le limit)

end

/-! ## A socket that times out before every byte -/

/-- The state is the rest of the stream, and whether the next `recv` delivers. -/
def hesitantHost : Host (Bytes × Bool) where
  sendall _ s := (.ok (), s)
  recv _ s := match s with
    | (bs, false) => (.error timedOut, (bs, true))
    | ([], true) => (.error timedOut, ([], true))
    | (b :: bs, true) => (.ok [b], (bs, false))
  clock s := (0, s)
  sleeper _ s := s
  idle s := s

theorem hesitantHost_delivers : hesitantHost.Delivers Prod.fst := by
  rintro size ⟨bs, ready⟩ hsize
  have htimeout : timedOut.isinstance .osError = true := rfl
  cases ready with
  | false => exact .raised htimeout
  | true => cases bs with
    | nil => exact .raised htimeout
    | cons b bs => exact .chunk hsize rfl

/-- Two lines of an instrument, the second one as long as the limit allows. -/
def twoLines : Bytes := encodeAscii "5.0\n3.20\n"

theorem twoLines_reassembled : @Reassembled _ PyText.blank hesitantHost Prod.fst 5 twoLines
    (@SocketTransport.reads _ PyText.blank hesitantHost.recorded 24
      (.connected 5 ((twoLines, true), []))).1
    (@SocketTransport.reads _ PyText.blank hesitantHost.recorded 24
      (.connected 5 ((twoLines, true), []))).2 :=
  @lines_reassembled _ PyText.blank _ _ hesitantHost_delivers 5 (twoLines, true) 24

end Spd3000
