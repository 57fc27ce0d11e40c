/-
  The transports over libraries (`transport/vxi11.py` and `transport/visa.py`), and
  the errors of all transports.

  Whatever the socket or a library raises, a transport raises a `Plain` error: one
  of three classes of the driver with a text.  The executor adds the position of
  the command, so its errors can be carried over a gateway (`Deliverable`).
-/
import Spd3000.Transport
import Spd3000.Configuration
import Spd3000.Transparency

namespace Spd3000

variable {ν σ : Type}

/-! ## Libraries -/

/-- What `read_raw` returns. -/
inductive RawData where
  | bytes (data : Bytes)
  | text (s : PyStr)

/-- An instrument of python-vxi11 or a resource of PyVISA, with the clock and sleeper of the host. -/
structure Library (ν : Type) where
  writeRaw : Bytes → ν → Except PyExc Unit × ν
  readRaw : ν → Except PyExc RawData × ν
  clock : ν → ℚ × ν
  sleeper : ℚ → ν → ν
  idle : ν → ν

structure LibraryTransport (ν : Type) where
  closed : Bool
  host : ν

/-- The test `needle in text`. -/
def occursIn (needle text : PyStr) : Bool := text.tails.any (needle.isPrefixOf ·)

section
variable [PyText]

/-- The method `_raise_io`, in the clause `except Exception`. -/
def raiseIo (operation : PyStr) (e : PyExc) : PyExc :=
  if e.isinstance .exception then
    if occursIn "timeout" (lower e.cls.name) || occursIn "timeout" (lower (PyText.str e)) then
      .msg .spd3000TimeoutError (operation ++ lit " timed out: " ++ PyText.str e)
    else .msg .spd3000ConnectionError (operation ++ lit " failed: " ++ PyText.str e)
  else e

namespace LibraryTransport
variable (name : PyStr) (bytesOf : RawData → Except PyExc Bytes) (L : Library ν)

def closedError : PyExc := .msg .spd3000ConnectionError (name ++ lit " transport is closed")

def write (data : Bytes) (t : LibraryTransport ν) : Except PyExc Unit × LibraryTransport ν :=
  if t.closed then (.error (closedError name), t)
  else
    let (r, host) := L.writeRaw data t.host
    (r.mapError (raiseIo (name ++ lit " write")), { t with host := host })

/-- The method `read`; `bytesOf` is what it makes of the data. -/
def read (t : LibraryTransport ν) : Except PyExc Bytes × LibraryTransport ν :=
  if t.closed then (.error (closedError name), t)
  else
    let (r, host) := L.readRaw t.host
    ((r.bind bytesOf).mapError (raiseIo (name ++ lit " read")), { t with host := host })

/-- The transport as a direct executor uses it. -/
def world : World (LibraryTransport ν) where
  clock t := ((L.clock t.host).1, { t with host := (L.clock t.host).2 })
  sleeper r t := { t with host := L.sleeper r t.host }
  idle t := { t with host := L.idle t.host }
  write := write name L
  read := read name bytesOf L

end LibraryTransport

/-- The error of `text.encode("ascii")` for a text that is not ASCII. -/
def asciiError (text : PyStr) : PyExc :=
  let start := text.findIdx (128 ≤ ·.val)
  .new .unicodeEncodeError [.str "ascii", .str text, .int start,
    .int (start + ((text.drop start).takeWhile (128 ≤ ·.val)).length),
    .str "ordinal not in range(128)"]

/-- The expression `data if isinstance(data, bytes) else str(data).encode("ascii")`. -/
def vxi11Bytes : RawData → Except PyExc Bytes
  | .bytes data => .ok data
  | .text s => if isAscii s then .ok (encodeAscii s) else .error (asciiError s)

/-- The call `bytes(data)`. -/
def visaBytes : RawData → Except PyExc Bytes
  | .bytes data => .ok data
  | .text _ => .error (.msg .typeError "string argument without an encoding")

def VXI11Transport.world (L : Library ν) : World (LibraryTransport ν) :=
  LibraryTransport.world "VXI-11" vxi11Bytes L

def VisaTransport.world (L : Library ν) : World (LibraryTransport ν) :=
  LibraryTransport.world "VISA" visaBytes L

/-! ## Errors of transports -/

/-- An error of one of three classes with a text and nothing else. -/
structure Plain (e : PyExc) : Prop where
  cls : e.cls ∈ [ExcClass.spd3000TimeoutError, .spd3000ConnectionError, .spd3000ProtocolError]
  args : ∃ text, e.args = [.str text]
  attrs : e.attrs = []

omit [PyText] in
theorem Plain.msg {cls : ExcClass} (text : PyStr)
    (h : cls ∈ [ExcClass.spd3000TimeoutError, .spd3000ConnectionError, .spd3000ProtocolError]) :
    Plain (.msg cls text) := by
  refine ⟨h, ⟨text, ?_⟩, rfl⟩
  simp only [List.mem_cons, List.not_mem_nil, or_false] at h
  rcases h with rfl | rfl | rfl <;> rfl

/-- The transport raises plain errors only. -/
structure World.RaisesPlain (W : World σ) : Prop where
  write : ∀ b s e s', W.write b s = (.error e, s') → Plain e
  read : ∀ s e s', W.read s = (.error e, s') → Plain e

/-- The socket raises errors of the operating system only. -/
structure Host.RaisesOs (H : Host ν) : Prop where
  sendall : ∀ b s e s', H.sendall b s = (.error e, s') → e.isinstance .osError
  recv : ∀ n s e s', H.recv n s = (.error e, s') → e.isinstance .osError

/-- The library raises an `Exception` only. -/
structure Library.RaisesExceptions (L : Library ν) : Prop where
  writeRaw : ∀ b s e s', L.writeRaw b s = (.error e, s') → e.isinstance .exception
  readRaw : ∀ s e s', L.readRaw s = (.error e, s') → e.isinstance .exception

omit [PyText] in
/-- The clauses `except TimeoutError` and `except OSError`. -/
theorem plain_of_os (timedOut failed : PyStr) {e : PyExc} (h : e.isinstance .osError) :
    Plain (if e.isinstance .timeoutError then .msg .spd3000TimeoutError timedOut
      else if e.isinstance .osError then .msg .spd3000ConnectionError failed else e) := by
  rw [if_pos h]
  split_ifs
  · exact .msg _ (by decide)
  · exact .msg _ (by decide)

theorem SocketTransport.readLoop_plain {H : Host ν} (hH : H.RaisesOs) (t : SocketTransport ν)
    {e : PyExc} (h : (readLoop H t).1 = .error e) : Plain e := by
  induction t using readLoop.induct H with
  | case1 t result rest hcut =>
    rw [readLoop, hcut] at h
    cases h
  | case2 t hcut hfull =>
    rw [readLoop, hcut] at h
    dsimp only at h
    rw [dif_pos hfull] at h
    cases h
    exact .msg _ (by decide)
  | case3 t hcut hroom e' host hrecv =>
    rw [readLoop, hcut] at h
    dsimp only at h
    rw [dif_neg hroom, hrecv] at h
    cases h
    exact plain_of_os _ _ (hH.recv _ _ _ _ hrecv)
  | case4 t hcut hroom host hrecv =>
    rw [readLoop, hcut] at h
    dsimp only at h
    rw [dif_neg hroom, hrecv] at h
    cases h
    exact .msg _ (by decide)
  | case5 t hcut hroom b bs host hrecv ih =>
    rw [readLoop, hcut] at h
    dsimp only at h
    rw [dif_neg hroom, hrecv] at h
    exact ih h

theorem SocketTransport.raisesPlain {H : Host ν} (hH : H.RaisesOs) :
    (SocketTransport.world H).RaisesPlain where
  write b t e t' h := by
    replace h : SocketTransport.write H b t = (.error e, t') := h
    unfold SocketTransport.write at h
    split_ifs at h
    · cases h
      exact .msg _ (by decide)
    · split at h
      · cases h
      · rename_i hsend
        cases h
        exact plain_of_os _ _ (hH.sendall _ _ _ _ hsend)
  read t e t' h := by
    replace h : SocketTransport.read H t = (.error e, t') := h
    unfold SocketTransport.read at h
    split_ifs at h
    · cases h
      exact .msg _ (by decide)
    · exact readLoop_plain hH t (congrArg Prod.fst h)

theorem raiseIo_plain (operation : PyStr) {e : PyExc} (h : e.isinstance .exception) :
    Plain (raiseIo operation e) := by
  rw [raiseIo, if_pos h]
  split_ifs
  · exact .msg _ (by decide)
  · exact .msg _ (by decide)

theorem mapError_plain {α : Type} (operation : PyStr) {r : Except PyExc α}
    (h : ∀ e, r = .error e → e.isinstance .exception) {e : PyExc}
    (he : r.mapError (raiseIo operation) = .error e) : Plain e := by
  cases r with
  | ok a => cases he
  | error e' =>
    cases he
    exact raiseIo_plain operation (h e' rfl)

theorem LibraryTransport.raisesPlain (name : PyStr) {bytesOf : RawData → Except PyExc Bytes}
    (hbytes : ∀ data e, bytesOf data = .error e → e.isinstance .exception) {L : Library ν}
    (hL : L.RaisesExceptions) : (LibraryTransport.world name bytesOf L).RaisesPlain where
  write b t e t' h := by
    replace h : LibraryTransport.write name L b t = (.error e, t') := h
    unfold LibraryTransport.write at h
    split_ifs at h
    · cases h
      exact .msg _ (by decide)
    · refine mapError_plain _ (fun e' he' => ?_) (congrArg Prod.fst h)
      exact hL.writeRaw _ _ _ _ (Prod.ext he' rfl)
  read t e t' h := by
    replace h : LibraryTransport.read name bytesOf L t = (.error e, t') := h
    unfold LibraryTransport.read at h
    split_ifs at h
    · cases h
      exact .msg _ (by decide)
    · refine mapError_plain _ (fun e' he' => ?_) (congrArg Prod.fst h)
      cases hr : (L.readRaw t.host).1 with
      | error e'' =>
        rw [hr] at he'
        cases he'
        exact hL.readRaw _ _ _ (Prod.ext hr rfl)
      | ok data =>
        rw [hr] at he'
        exact hbytes data e' he'

theorem VXI11Transport.raisesPlain {L : Library ν} (hL : L.RaisesExceptions) :
    (VXI11Transport.world L).RaisesPlain := by
  refine LibraryTransport.raisesPlain _ (fun data e h => ?_) hL
  cases data with
  | bytes data => cases h
  | text s =>
    rw [vxi11Bytes] at h
    split_ifs at h
    cases h
    rfl

theorem VisaTransport.raisesPlain {L : Library ν} (hL : L.RaisesExceptions) :
    (VisaTransport.world L).RaisesPlain := by
  refine LibraryTransport.raisesPlain _ (fun data e h => ?_) hL
  cases data with
  | bytes data => cases h
  | text s =>
    cases h
    rfl

/-- One of the three transports, on a host and a library that raise what is documented. -/
inductive World.OnTransport : ∀ {σ : Type}, World σ → Prop
  | socket {ν : Type} {H : Host ν} : H.RaisesOs → OnTransport (SocketTransport.world H)
  | vxi11 {ν : Type} {L : Library ν} : L.RaisesExceptions → OnTransport (VXI11Transport.world L)
  | visa {ν : Type} {L : Library ν} : L.RaisesExceptions → OnTransport (VisaTransport.world L)

theorem World.OnTransport.raisesPlain {W : World σ} (h : W.OnTransport) : W.RaisesPlain := by
  cases h with
  | socket hH => exact SocketTransport.raisesPlain hH
  | vxi11 hL => exact VXI11Transport.raisesPlain hL
  | visa hL => exact VisaTransport.raisesPlain hL

/-! ## Errors of executors -/

omit [PyText] in
theorem Plain.reportable {e e' : PyExc} (h : Plain e) (hcls : e'.cls = e.cls) (hargs : e'.args = e.args)
    (hannotated : Annotated e') : Reportable e' := by
  obtain ⟨text, htext⟩ := h.args
  have hmem := h.cls
  simp only [List.mem_cons, List.not_mem_nil, or_false] at hmem
  refine ⟨?_, ?_, ?_, ?_, hannotated⟩
  · rw [hcls]
    rcases hmem with h | h | h <;> rw [h] <;> decide
  · rw [hcls]
    rcases hmem with h | h | h <;> rw [h] <;> decide
  · rw [hcls, hargs, htext]
    rcases hmem with h | h | h <;> rw [h] <;> rfl
  · rw [hargs, htext]
    intro a ha
    rw [List.mem_singleton.1 ha]
    trivial

omit [PyText] in
/-- The position of a command can be carried. -/
theorem annotateExecutionError_annotated (e : PyExc) (index : ℕ) (c : Command) :
    Annotated (annotateExecutionError e index c) := by
  refine .position index (if c.isQuery then lit "query" else lit "write") c.text ?_ ?_ ?_ ?_
  · split_ifs
    · exact .inr rfl
    · exact .inl rfl
  · simp [annotateExecutionError, PyExc.get_setattr]
  · simp [annotateExecutionError, PyExc.get_setattr]
  · simp [annotateExecutionError, PyExc.get_setattr]

section
variable {W : World σ}

omit [PyText] in
theorem attempt_plain (hW : W.RaisesPlain) {c : Command} {x : DirectExecutor σ} {e : PyExc}
    (h : (x.attempt W c).1 = .error e) : Plain e := by
  have hspec := DirectExecutor.attempt_spec W c x
  generalize x.attempt W c = a at h hspec
  obtain ⟨r, x'⟩ := a
  cases hspec with
  | writeFailed hw =>
    cases h
    exact hW.write _ _ _ _ hw
  | written _ _ => cases h
  | readFailed _ _ hr =>
    cases h
    exact hW.read _ _ _ hr
  | @answered s data s' _ _ _ =>
    rw [DirectExecutor.decode] at h
    cases hdecoded : decodeAscii data with
    | none =>
      rw [hdecoded] at h
      cases h
      exact .msg _ (by decide)
    | some text =>
      rw [hdecoded] at h
      cases h

omit [PyText] in
theorem Plain.spd3000Error {e : PyExc} (h : Plain e) : e.isinstance .spd3000Error := by
  have hmem := h.cls
  simp only [List.mem_cons, List.not_mem_nil, or_false] at hmem
  rw [PyExc.isinstance]
  rcases hmem with h | h | h <;> rw [h] <;> rfl

/-- The loop over the commands, by induction over those that are left. -/
theorem runFrom_reportable (hW : W.RaisesPlain) (cs : List Command) (index : ℕ)
    (x : DirectExecutor σ) {e : PyExc} (h : (x.runFrom W index cs).1 = .error e) :
    Reportable e := by
  induction cs generalizing index x with
  | nil => cases h
  | cons c cs ih =>
    have hattempt (e' : PyExc) := attempt_plain hW (c := c) (x := x) (e := e')
    unfold DirectExecutor.runFrom DirectExecutor.runCommand at h
    generalize x.attempt W c = a at h hattempt
    obtain ⟨r, y⟩ := a
    cases r with
    | error e' =>
      have hplain := hattempt e' rfl
      cases h
      rw [DirectExecutor.translate, if_pos hplain.spd3000Error]
      exact hplain.reportable rfl rfl (annotateExecutionError_annotated e' index c)
    | ok v =>
      have hrest : ((y.runFrom W (index + 1) cs).1.map (v :: ·)) = .error e := h
      cases hr : (y.runFrom W (index + 1) cs).1 with
      | error e' =>
        rw [hr] at hrest
        cases hrest
        exact ih (index + 1) y hr
      | ok vs =>
        rw [hr] at hrest
        cases hrest

/-- Whatever becomes of a batch, a message can carry it. -/
theorem execute_deliverable (hW : W.RaisesPlain) (batch : CommandBatch) (x : DirectExecutor σ) :
    Deliverable batch (x.execute W batch).1 := by
  cases hr : (x.execute W batch).1 with
  | ok result => exact .returned (DirectExecutor.execute_length W (Prod.ext hr rfl))
  | error e =>
    refine .raised ?_
    unfold DirectExecutor.execute at hr
    split_ifs at hr
    · cases hr
      exact (Plain.msg _ (by decide)).reportable rfl rfl (.none fun _ _ => rfl)
    · have hrun : ((x.runFrom W 0 batch.commands).1.map BatchResult.mk) = .error e := hr
      cases hrf : (x.runFrom W 0 batch.commands).1 with
      | error e' =>
        rw [hrf] at hrun
        cases hrun
        exact runFrom_reportable hW _ _ _ hrf
      | ok vs =>
        rw [hrf] at hrun
        cases hrun

end

end

end Spd3000
