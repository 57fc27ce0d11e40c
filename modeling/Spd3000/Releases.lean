/-
  What the functions of `Lifecycle` leave open.

  The handles that are open after some calls are read off the log.  A `Phase` is a
  part of a log from some open handles to others; a function that opens something
  ends with it open, or with everything closed, or having abandoned something
  (`Opening`).  A program with a device `Stands` at one of three points, and every
  use of the device keeps this.
-/
import Spd3000.Lifecycle

namespace Spd3000

open Script

/-! ## What stays open -/

/-- A call of the world, and what it returned or raised. -/
abbrev Called := Event Step Step.Result PyExc

/-- The failures after which something stays open: those of the calls that configure what a
    constructor has opened, those that keep a server from starting or stopping, a worker that has
    not ended in time, and exceptions that are no `Exception` while the driver identifies the
    instrument or says goodbye to a gateway. -/
def abandons : Called → Bool
  | ⟨.settimeout _, .error _⟩ | ⟨.makefile, .error _⟩ | ⟨.setInstrumentTimeout _, .error _⟩
  | ⟨.openResource _, .error _⟩ | ⟨.setResourceTimeout _, .error _⟩
  | ⟨.setTerminations, .error _⟩ | ⟨.bind _ _, .error _⟩ | ⟨.closeListener, .error _⟩
  | ⟨.joinWorker, .error _⟩ | ⟨.joinWorker, .ok false⟩ => true
  | ⟨.requestClose, .error e⟩ | ⟨.identify _, .error e⟩ => !e.isinstance .exception
  | _ => false

/-- Where closing its manager raises, a VISA transport counts as open, and its resource is still
    used. -/
def stuckManager : Called → List Handle
  | ⟨.closeManager, .error _⟩ => [.resource]
  | _ => []

/-- No uses are excused. -/
abbrev noExcuse : Called → List Handle := fun _ => []

/-- Nothing stays open unless it has been abandoned, and no call is made on what is not open, unless
    it is excused. -/
structure Released (excuse : Called → List Handle) (es : List Called) : Prop where
  closed : handles.after [] es = [] ↔ es.any abandons = false
  respects : handles.respects excuse [] [] es

/-! ## Phases -/

/-- The calls of a phase, with what is open before and after it, and whether anything is abandoned. -/
structure Phase (lost : Bool) (before after : List Handle) (es : List Called) : Prop where
  after : handles.after before es = after
  loses : es.any abandons = lost
  respects : handles.respects noExcuse before [] es

section
variable {lost lost' : Bool} {before held held' : List Handle} {es es' : List Called} {α β : Type}

theorem Phase.nil (held : List Handle) : Phase false held held [] := ⟨rfl, rfl, rfl⟩

theorem Phase.append (h : Phase lost before held es) (h' : Phase lost' held held' es') :
    Phase (lost || lost') before held' (es ++ es') where
  after := by rw [Ledger.after_append, h.after, h'.after]
  loses := by rw [List.any_append, h.loses, h'.loses]
  respects := by
    refine Ledger.respects_append h.respects ?_
    rw [h.after]
    exact Ledger.respects_mono h'.respects (fun _ => List.Subset.refl _) (List.nil_subset _)

/-- What is strictly respected is so with any excuse. -/
theorem Phase.excused (h : Phase lost before held es) (excuse : Called → List Handle) :
    handles.respects excuse before [] es :=
  Ledger.respects_mono h.respects (fun _ => List.nil_subset _) (List.Subset.refl _)

/-- How a function ends that opens things: with a result, for which `held` is open, or with an
    exception, where everything has been closed or something has been abandoned. -/
inductive Opening (before : List Handle) (P : α → Prop) (held : α → List Handle)
    (es : List Called) : Except PyExc α → Prop
  | ok (a : α) : P a → Phase false before (held a) es → Opening before P held es (.ok a)
  | failed (e : PyExc) : Phase false before [] es → Opening before P held es (.error e)
  | lost (e : PyExc) {left : List Handle} : left ≠ [] → Phase true before left es →
      Opening before P held es (.error e)

variable {P : α → Prop} {P' : β → Prop} {holds : α → List Handle} {holds' : β → List Handle}

theorem Opening.reraise {e e' : PyExc} (h : Opening before P holds es (.error e)) :
    Opening before P holds es (.error e') := by
  cases h with
  | failed _ h => exact .failed e' h
  | lost _ hleft h => exact .lost e' hleft h

theorem Opening.after {r : Except PyExc α} (h : Phase false before held es)
    (h' : Opening held P holds es' r) : Opening before P holds (es ++ es') r := by
  cases h' with
  | ok a ha h' => exact .ok a ha (h.append h')
  | failed e h' => exact .failed e (h.append h')
  | lost e hleft h' => exact .lost e hleft (h.append h')

/-- One function after the other. -/
theorem Opening.bind {s : Calls α} {f : α → Calls β} (hs : s.Ends (Opening before P holds))
    (hf : ∀ a, P a → (f a).Ends (Opening (holds a) P' holds')) :
    (s >>= f).Ends (Opening before P' holds') := by
  refine ends_bind.2 (hs.mono fun es r hr => ?_)
  cases hr with
  | ok a ha h => exact (hf a ha).mono fun es' r' h' => .after h h'
  | failed e h => exact .failed e h
  | lost e hleft h => exact .lost e hleft h

end

/-! ## Transports -/

def TransportKind.holds : TransportKind → List Handle
  | socket => [.socket] | vxi11 => [.instrument] | visa => [.manager, .resource]

theorem SocketTransport.init_ends [PyText] (host : PyStr) (port : ℕ) (timeout : ℚ) :
    (SocketTransport.init host port timeout).Ends
      (Opening [] (· = ⟨.socket, false⟩) (·.kind.holds)) := by
  refine Ends.catchWith ?_ (fun e => ?_) fun _ _ _ => .reraise
  · rintro (e | ⟨⟨⟩⟩)
    · exact .failed e ⟨rfl, rfl, rfl⟩
    · rintro (e | ⟨⟨⟩⟩)
      · exact .lost e (List.cons_ne_nil _ _) ⟨rfl, rfl, rfl⟩
      · exact .ok _ rfl ⟨rfl, rfl, rfl⟩
  · split_ifs <;> exact ⟨_, rfl⟩

/-- A package is imported, or nothing else happens. -/
theorem importing_ends {α : Type} (package : PyStr) {step : Calls Unit} {next : Unit → Calls α}
    {Q : List Called → Except PyExc α → Prop} (h : step.Ends fun es r => match r with
      | .ok () => (next ()).Ends fun es' r' => Q (es ++ es') r'
      | .error _ => ∀ e, Q es (.error e)) : (importing package step >>= next).Ends Q := by
  have himport : (importing package step).Ends fun es r => match r with
      | .ok () => (next ()).Ends fun es' r' => Q (es ++ es') r'
      | .error _ => ∀ e, Q es (.error e) := by
    refine Ends.catchWith h (fun e => ?_) fun _ _ _ => id
    split_ifs <;> exact ⟨_, rfl⟩
  refine ends_bind.2 (himport.mono fun es r hr => ?_)
  cases r with
  | ok _ => exact hr
  | error e => exact hr e

theorem couldNotOpen_raises [PyText] (what : PyStr) (e : PyExc) :
    ∃ e', couldNotOpen what e = raise e' := by
  unfold couldNotOpen
  split_ifs <;> exact ⟨_, rfl⟩

theorem VXI11Transport.init_ends [PyText] (host : PyStr) (timeout : ℚ) :
    (VXI11Transport.init host timeout).Ends
      (Opening [] (· = ⟨.vxi11, false⟩) (·.kind.holds)) := by
  refine Ends.catchWith (importing_ends _ ?_) (couldNotOpen_raises _) fun _ _ _ => .reraise
  rintro (e | ⟨⟨⟩⟩)
  · exact fun e => .failed e ⟨rfl, rfl, rfl⟩
  · rintro (e | ⟨⟨⟩⟩)
    · exact .failed e ⟨rfl, rfl, rfl⟩
    · rintro (e | ⟨⟨⟩⟩)
      · exact .lost e (List.cons_ne_nil _ _) ⟨rfl, rfl, rfl⟩
      · exact .ok _ rfl ⟨rfl, rfl, rfl⟩

theorem VisaTransport.init_ends [PyText] (resource : PyStr) (backend : Option PyStr)
    (timeout : ℚ) : (VisaTransport.init resource backend timeout).Ends
      (Opening [] (· = ⟨.visa, false⟩) (·.kind.holds)) := by
  refine Ends.catchWith (importing_ends _ ?_) (couldNotOpen_raises _) fun _ _ _ => .reraise
  rintro (e | ⟨⟨⟩⟩)
  · exact fun e => .failed e ⟨rfl, rfl, rfl⟩
  · rintro (e | ⟨⟨⟩⟩)
    · exact .failed e ⟨rfl, rfl, rfl⟩
    · rintro (e | ⟨⟨⟩⟩)
      · exact .lost e (List.cons_ne_nil _ _) ⟨rfl, rfl, rfl⟩
      · rintro (e | ⟨⟨⟩⟩)
        · exact .lost e (List.cons_ne_nil _ _) ⟨rfl, rfl, rfl⟩
        · rintro (e | ⟨⟨⟩⟩)
          · exact .lost e (List.cons_ne_nil _ _) ⟨rfl, rfl, rfl⟩
          · exact .ok _ rfl ⟨rfl, rfl, rfl⟩

/-! ## Executors -/

def Opened.holds : Opened → List Handle
  | direct t _ => t.kind.holds
  | gateway _ => [.socket, .stream]

/-- An executor that has not been closed. -/
inductive Opened.IsFresh : Opened → Prop
  | direct (kind : TransportKind) : IsFresh (.direct ⟨kind, false⟩ false)
  | gateway : IsFresh (.gateway false)

/-- How the method `close` ends that has an executor with the handles `held`. -/
inductive ClosedUp (x : Opened) (es : List Called) :
    Except PyExc (Except PyExc Unit × Opened) → Prop
  /-- Everything has been closed; the executor will refuse batches, or use the resource of a manager
      that is stuck. -/
  | closed (r : Except PyExc Unit) {x' : Opened} : Phase false x.holds [] es →
      ((∀ c, ∃ e, x'.ensureOpen c = .error e) ∨
        x'.line = .resource ∧ .resource ∈ es.flatMap stuckManager) → ClosedUp x es (.ok (r, x'))
  /-- An exception other than `Exception` has interrupted the request `close`. -/
  | kept (e : PyExc) : x = .gateway false → Phase true x.holds x.holds es →
      ClosedUp x es (.ok (.error e, x))

theorem GatewayExecutor.closeStreams_ends : closeStreams.Ends (ClosedUp (.gateway false)) := by
  rintro (e | ⟨⟨⟩⟩) (e' | ⟨⟨⟩⟩) <;> exact .closed _ ⟨rfl, rfl, rfl⟩ (.inl fun c => ⟨_, rfl⟩)

theorem requestClose_phase (o : Except PyExc Unit) {lost : Bool} (h : (suppress o).isOk = !lost) :
    Phase lost [.socket, .stream] [.socket, .stream] [⟨.requestClose, o⟩] := by
  refine ⟨?_, ?_, rfl⟩
  · cases o <;> rfl
  · rw [← Bool.not_not (b := lost), ← h]
    cases o with
    | ok _ => rfl
    | error e =>
      show (!e.isinstance .exception || false) =
        !(if e.isinstance .exception then _ else _ : Except PyExc Unit).isOk
      split_ifs with he <;> simp only [he] <;> rfl

theorem GatewayExecutor.close_ends :
    (GatewayExecutor.close true).Ends (ClosedUp (.gateway false)) := by
  refine ends_bind.2 (ends_attempt.2 fun o => ?_)
  rw [ends_done]
  dsimp only
  cases hs : suppress o with
  | error e => exact .kept e rfl (requestClose_phase o (by rw [hs]; rfl))
  | ok _ =>
    have hasked : Phase false _ _ [⟨.requestClose, o⟩] := requestClose_phase o (by rw [hs]; rfl)
    refine GatewayExecutor.closeStreams_ends.mono fun es r hr => ?_
    cases hr with
    | closed r hes hend =>
      refine .closed r (hasked.append hes) (hend.imp_right fun ⟨hline, hstuck⟩ => ⟨hline, ?_⟩)
      rw [List.flatMap_append]
      exact List.mem_append_right _ hstuck
    | kept e _ hes => exact .kept e rfl (hasked.append hes)

theorem Opened.close_ends {x : Opened} (h : x.IsFresh) : x.close.Ends (ClosedUp x) := by
  cases h with
  | direct kind =>
    cases kind with
    | socket | vxi11 =>
      rintro (e | ⟨⟨⟩⟩) <;> exact .closed _ ⟨rfl, rfl, rfl⟩ (.inl fun c => ⟨_, rfl⟩)
    | visa =>
      rintro (e | ⟨⟨⟩⟩) (e' | ⟨⟨⟩⟩)
      · exact .closed _ ⟨rfl, rfl, rfl⟩ (.inr ⟨rfl, List.mem_singleton_self _⟩)
      · exact .closed _ ⟨rfl, rfl, rfl⟩ (.inl fun c => ⟨_, rfl⟩)
      · exact .closed _ ⟨rfl, rfl, rfl⟩ (.inr ⟨rfl, List.mem_singleton_self _⟩)
      · exact .closed _ ⟨rfl, rfl, rfl⟩ (.inl fun c => ⟨_, rfl⟩)
  | gateway => exact GatewayExecutor.close_ends

theorem andRaise_ends {α : Type} {closing : Calls (Except PyExc Unit × Opened)} {x : Opened}
    (h : closing.Ends (ClosedUp x)) (e : PyExc) {P : α → Prop} {holds : α → List Handle} :
    (andRaise closing e).Ends (Opening x.holds P holds) := by
  refine ends_bind.2 (h.mono fun es r hr => ?_)
  cases hr with
  | closed o hphase _ =>
    rw [← List.append_nil es] at hphase
    cases o with
    | ok _ => exact .failed e hphase
    | error e' => exact .failed e' hphase
  | kept e' hx hphase =>
    rw [← List.append_nil es] at hphase
    refine .lost e' ?_ hphase
    rw [hx]
    exact List.cons_ne_nil _ _

theorem GatewayExecutor.dial_ends [PyText] (host : PyStr) (port : ℕ) (timeout : ℚ) :
    (dial host port timeout).Ends (Opening [] (fun _ => True) fun _ => [.socket, .stream]) := by
  refine Ends.catchWith ?_ (fun e => ?_) fun _ _ _ => .reraise
  · rintro (e | ⟨⟨⟩⟩)
    · exact .failed e ⟨rfl, rfl, rfl⟩
    · rintro (e | ⟨⟨⟩⟩)
      · exact .lost e (List.cons_ne_nil _ _) ⟨rfl, rfl, rfl⟩
      · rintro (e | ⟨⟨⟩⟩)
        · exact .lost e (List.cons_ne_nil _ _) ⟨rfl, rfl, rfl⟩
        · exact .ok _ trivial ⟨rfl, rfl, rfl⟩
  · split_ifs <;> exact ⟨_, rfl⟩

theorem GatewayExecutor.init_ends [PyText] (host : PyStr) (port : ℕ) (token : Option PyStr)
    (settings : ExecutionSettings) (commit : PyStr) :
    (GatewayExecutor.init host port token settings commit).Ends
      (Opening [] (· = .gateway false) Opened.holds) := by
  refine Opening.bind (dial_ends host port settings.timeout) fun _ _ => ?_
  split_ifs
  · exact andRaise_ends closeStreams_ends _
  · rintro (e | ⟨⟨⟩⟩)
    · have hasked : Phase false [.socket, .stream] [.socket, .stream]
        [⟨.handshake (handshakeParams commit token settings), .error e⟩] := ⟨rfl, rfl, rfl⟩
      exact (andRaise_ends closeStreams_ends e).mono fun es r h => .after hasked h
    · exact .ok _ rfl ⟨rfl, rfl, rfl⟩

/-! ## Devices -/

/-- A driver whose connection is open. -/
structure Device.IsOpen (d : Device) : Prop where
  closed : d.closed = false
  fresh : d.executor.IsFresh

theorem Opened.line_mem : ∀ x : Opened, x.line ∈ x.holds
  | direct ⟨.socket, _⟩ _ => List.mem_singleton.2 rfl
  | direct ⟨.vxi11, _⟩ _ => List.mem_singleton.2 rfl
  | direct ⟨.visa, _⟩ _ => List.mem_cons_of_mem _ (List.mem_singleton.2 rfl)
  | gateway _ => List.mem_cons_of_mem _ (List.mem_singleton.2 rfl)

theorem Phase.identify {held : List Handle} {handle : Handle} (h : handle ∈ held)
    (o : Except PyExc BatchResult) :
    Phase (abandons ⟨.identify handle, o⟩) held held [⟨.identify handle, o⟩] := by
  refine ⟨?_, Bool.or_false _, ?_⟩
  · cases o <;> simp [Ledger.after, Ledger.entry, handles]
  · simpa [Ledger.respects, handles] using h

theorem Phase.execute {held : List Handle} {handle : Handle} (h : handle ∈ held) (batch : CommandBatch)
    (o : Except PyExc BatchResult) : Phase false held held [⟨.execute handle batch, o⟩] := by
  refine ⟨?_, rfl, ?_⟩
  · cases o <;> simp [Ledger.after, Ledger.entry, handles]
  · simpa [Ledger.respects, handles] using h

/-- How a driver object ends that is built or checked from an executor that is open. -/
abbrev Device.Opens (before : List Handle) : List Called → Except PyExc Device → Prop :=
  Opening before Device.IsOpen (·.executor.holds)

theorem identified_raises [PyText] (result : BatchResult) {e : PyExc}
    (h : identified result = .error e) : e.isinstance .exception := by
  unfold identified at h
  cases hv : valueAt result.values 0 with
  | error e' =>
    rw [hv] at h
    cases h
    unfold valueAt at hv
    split at hv <;> cases hv
    rfl
  | ok v =>
    rw [hv] at h
    cases v with
    | none =>
      cases h
      rfl
    | some response => exact (parseIdentification_raises response e h).exception

theorem Device.init_ends [PyText] {x : Opened} (hx : x.IsFresh) (connection : ConnectionType)
    (identifier : PyStr) : (Device.init x connection identifier).Ends (Device.Opens x.holds) := by
  rw [Device.init, ends_catchWith]
  intro o
  have hphase := Phase.identify x.line_mem o
  have hfailed (e : PyExc) (he : e.isinstance .exception)
      (hkept : abandons ⟨.identify x.line, o⟩ = false) :
      (if e.isinstance .exception then andRaise x.close e else raise e : Calls Device).Ends
        fun es r => Device.Opens x.holds ([⟨.identify x.line, o⟩] ++ es) r := by
    rw [if_pos he]
    rw [hkept] at hphase
    exact (andRaise_ends (x.close_ends hx) e).mono fun es r h => .after hphase h
  cases o with
  | error e =>
    show (if e.isinstance .exception then andRaise x.close e else raise e : Calls Device).Ends _
    by_cases he : e.isinstance .exception
    · exact hfailed e he (by show (!_) = _; rw [he]; rfl)
    · have hlost : abandons ⟨.identify x.line, .error e⟩ = true := by
        show (!_) = _
        rw [Bool.eq_false_of_not_eq_true he]
        rfl
      rw [hlost] at hphase
      rw [if_neg he]
      exact .lost e (List.ne_nil_of_mem x.line_mem) hphase
  | ok result =>
    dsimp only [Script.bind]
    cases hid : identified result with
    | ok identity => exact .ok _ ⟨rfl, hx⟩ hphase
    | error e => exact hfailed e (identified_raises result hid) rfl

/-- The method `close` of a driver ends as the one of its executor. -/
theorem Device.close_eq {d : Device} (h : d.closed = false) :
    d.close = (do
      let (r, x) ← d.executor.close
      return (r, { d with executor := x, closed := true })) := by
  rw [Device.close, if_neg (by rw [h]; exact Bool.false_ne_true)]

theorem Device.requireLan_ends {d : Device} (hd : d.IsOpen) (feature : PyStr) :
    (d.requireLan feature).Ends (Device.Opens d.executor.holds) := by
  unfold Device.requireLan
  cases identityModel d.identity with
  | none => exact .ok d hd (.nil _)
  | some m =>
    dsimp only
    split_ifs
    · exact .ok d hd (.nil _)
    · refine andRaise_ends ?_ _
      rw [d.close_eq hd.closed, ends_bind, ends_bind]
      refine (d.executor.close_ends hd.fresh).mono fun es r h => ?_
      cases h with
      | closed o hphase hend =>
        rw [← List.append_nil es, ← List.append_nil (es ++ [])] at hphase hend
        exact .closed o hphase hend
      | kept e hx hphase =>
        rw [← List.append_nil es, ← List.append_nil (es ++ [])] at hphase
        exact .kept e hx hphase

theorem connect_ends [PyText] (commit : PyStr) (a : ConnectArguments) :
    (connect commit a).Ends (Device.Opens []) := by
  unfold connect
  cases a.check with
  | error e => exact .failed e (.nil [])
  | ok checked =>
    obtain ⟨target, settings⟩ := checked
    cases target with
    | socket host =>
      refine Opening.bind (SocketTransport.init_ends host _ settings.timeout) ?_
      rintro _ rfl
      refine Opening.bind (Device.init_ends (.direct _) _ _) fun d hd => ?_
      exact d.requireLan_ends hd _
    | vxi11 host =>
      refine Opening.bind (VXI11Transport.init_ends host settings.timeout) ?_
      rintro _ rfl
      refine Opening.bind (Device.init_ends (.direct _) _ _) fun d hd => ?_
      exact d.requireLan_ends hd _
    | visa resource backend =>
      refine Opening.bind (VisaTransport.init_ends resource backend settings.timeout) ?_
      rintro _ rfl
      exact Device.init_ends (.direct _) _ _
    | gateway host port token =>
      refine Opening.bind (GatewayExecutor.init_ends host port token settings commit) ?_
      rintro _ rfl
      exact Device.init_ends .gateway _ _

/-! ## Programs -/

/-- Everything has been closed, and the manager is stuck. -/
structure Stuck (es : List Called) : Prop where
  after : handles.after [] es = []
  loses : es.any abandons = false
  respects : handles.respects stuckManager [] [] es
  stuck : .resource ∈ es.flatMap stuckManager

/-- Where a program stands: its connection is open, or has been closed and refuses batches, or is a
    VISA connection whose manager is stuck, or the closing of a gateway connection was
    interrupted. -/
inductive Stands (d : Device) (es : List Called) : Prop
  | opened : d.IsOpen → Phase false [] d.executor.holds es → Stands d es
  | closed : d.closed = true → Phase false [] [] es →
      (∀ c, ∃ e, d.executor.ensureOpen c = .error e) → Stands d es
  | stuck : d.closed = true → d.executor.line = .resource → Stuck es → Stands d es
  | kept : d.closed = true → d.executor = .gateway false →
      Phase true [] d.executor.holds es → Stands d es

theorem Device.close_stands {d : Device} {es : List Called} (h : Stands d es) :
    d.close.Ends fun es' r =>
      ∃ o d', r = .ok (o, d') ∧ d'.closed = true ∧ Stands d' (es ++ es') := by
  have hnothing (hclosed : d.closed = true) : d.close.Ends fun es' r =>
      ∃ o d', r = .ok (o, d') ∧ d'.closed = true ∧ Stands d' (es ++ es') := by
    rw [Device.close, if_pos hclosed]
    exact ⟨_, d, rfl, hclosed, by rwa [List.append_nil]⟩
  cases h with
  | opened hopen hphase =>
    rw [d.close_eq hopen.closed, ends_bind]
    refine (d.executor.close_ends hopen.fresh).mono fun es' r hr => ?_
    cases hr with
    | closed o hphase' hend =>
      have hclosed : Phase false [] [] (es ++ es') := hphase.append hphase'
      refine ⟨o, _, rfl, rfl, ?_⟩
      rw [List.append_nil]
      rcases hend with hrefuses | ⟨hline, hstuck⟩
      · exact .closed rfl hclosed hrefuses
      · refine .stuck rfl hline ⟨hclosed.after, hclosed.loses, hclosed.excused _, ?_⟩
        rw [List.flatMap_append]
        exact List.mem_append_right _ hstuck
    | kept e hx hphase' =>
      refine ⟨_, _, rfl, rfl, .kept rfl hx ?_⟩
      rw [List.append_nil]
      exact hphase.append hphase'
  | closed hclosed _ _ => exact hnothing hclosed
  | stuck hclosed _ _ => exact hnothing hclosed
  | kept hclosed _ _ => exact hnothing hclosed

/-- With a manager that is stuck, a batch goes over the resource. -/
theorem Stuck.execute {es : List Called} (h : Stuck es) (batch : CommandBatch)
    (o : Except PyExc BatchResult) : Stuck (es ++ [⟨.execute .resource batch, o⟩]) where
  after := by
    rw [Ledger.after_append, h.after]
    cases o <;> rfl
  loses := by rw [List.any_append, h.loses]; rfl
  respects := by
    refine Ledger.respects_append h.respects (Ledger.respects_cons.2 ⟨fun x hx => ?_, rfl⟩)
    rw [List.mem_singleton.1 hx]
    exact List.mem_append_right _ h.stuck
  stuck := by
    rw [List.flatMap_append]
    exact List.mem_append_left _ h.stuck

theorem Device.execute_stands {d : Device} {es : List Called} (h : Stands d es)
    (batch : CommandBatch) :
    (d.executor.execute batch).Ends fun es' _ => Stands d (es ++ es') := by
  unfold Opened.execute
  cases hopen : d.executor.ensureOpen (batch.commands.head batch.nonempty) with
  | error e =>
    show Stands d (es ++ [])
    rwa [List.append_nil]
  | ok _ =>
    intro o
    cases h with
    | opened hd hphase => exact .opened hd (hphase.append (.execute d.executor.line_mem batch o))
    | closed hclosed hphase hrefuses =>
      obtain ⟨e, he⟩ := hrefuses (batch.commands.head batch.nonempty)
      rw [hopen] at he
      cases he
    | stuck hclosed hline hstuck =>
      rw [hline]
      exact .stuck hclosed hline (hstuck.execute batch o)
    | kept hclosed hx hphase =>
      exact .kept hclosed hx (hphase.append (.execute d.executor.line_mem batch o))

theorem Device.run_stands {α : Type} (body : Body α) {d : Device} {es : List Called}
    (h : Stands d es) :
    (d.run body).Ends fun es' r => ∃ o d', r = .ok (o, d') ∧ Stands d' (es ++ es') := by
  induction body generalizing d es with
  | done r => exact ⟨r, d, rfl, by rwa [List.append_nil]⟩
  | call use next ih =>
    cases use with
    | execute batch =>
      refine ends_bind.2 (ends_attempt.2 ((d.execute_stands h batch).mono fun es' r h' => ?_))
      refine (ih r h').mono fun es'' r' => ?_
      simp only [List.append_assoc, imp_self]
    | close =>
      refine ends_bind.2 ((d.close_stands h).mono ?_)
      rintro es' _ ⟨o, d', rfl, -, h'⟩
      refine (ih o h').mono fun es'' r' => ?_
      simp only [List.append_assoc, imp_self]

theorem Stands.released {d : Device} {es : List Called} (h : Stands d es)
    (hclosed : d.closed = true) : Released stuckManager es := by
  cases h with
  | opened hd _ =>
    rw [hd.closed] at hclosed
    cases hclosed
  | closed _ hphase _ => exact ⟨iff_of_true hphase.after hphase.loses, hphase.excused _⟩
  | stuck _ _ hstuck => exact ⟨iff_of_true hstuck.after hstuck.loses, hstuck.respects⟩
  | kept _ hx hphase =>
    refine ⟨iff_of_false ?_ ?_, hphase.excused _⟩
    · rw [hphase.after, hx]
      exact List.cons_ne_nil _ _
    · rw [hphase.loses]
      exact Bool.noConfusion

/-- A program that connects with `with SPD3000.connect(...)`, whatever it does with the device and
    whatever the calls of the world end in; only the resource of a stuck manager is used although
    it is not open. -/
theorem connections_released [PyText] (commit : PyStr) (a : ConnectArguments) {α : Type}
    (body : Body α) : (withDevice commit a body).Ends fun es _ => Released stuckManager es := by
  refine ends_bind.2 ((connect_ends commit a).mono fun es r hr => ?_)
  cases hr with
  | failed e hphase => exact ⟨iff_of_true hphase.after hphase.loses, hphase.excused _⟩
  | lost e hleft hphase =>
    refine ⟨iff_of_false (by rwa [hphase.after]) ?_, hphase.excused _⟩
    rw [hphase.loses]
    exact Bool.noConfusion
  | ok d hd hphase =>
    refine ends_bind.2 ((d.run_stands body (.opened hd hphase)).mono ?_)
    rintro es' _ ⟨r, d', rfl, hstands⟩
    refine ends_bind.2 ((d'.close_stands hstands).mono ?_)
    rintro es'' _ ⟨o, d'', rfl, hclosed, hstands'⟩
    have hreleased := hstands'.released hclosed
    rw [List.append_assoc] at hreleased
    cases o with
    | ok _ => simpa using hreleased
    | error e => simpa using hreleased

/-! ## Serving -/

/-- How the body of `gateway serve` ends, and what it has started. -/
inductive Starting (es : List Called) : Except PyExc (Except PyExc Unit × Started) → Prop
  | failed (e : PyExc) : Phase false [] [] es → Starting es (.ok (.error e, .nothing))
  | lost (e : PyExc) {left : List Handle} : left ≠ [] → Phase true [] left es →
      Starting es (.ok (.error e, .nothing))
  | opened (e : PyExc) {kind : TransportKind} : Phase false [] kind.holds es →
      Starting es (.ok (.error e, .executor (.direct ⟨kind, false⟩ false)))
  | unbound (e : PyExc) {kind : TransportKind} : Phase true [] (kind.holds ++ [.worker]) es →
      Starting es (.ok (.error e, .executor (.direct ⟨kind, false⟩ false)))
  | served (r : Except PyExc Unit) {kind : TransportKind} :
      Phase false [] (kind.holds ++ [.worker, .listener]) es →
      Starting es (.ok (r, .server (.direct ⟨kind, false⟩ false)))

/-- How the server is started over the handles of a kind. -/
def ServerStarting (kind : TransportKind) (es : List Called) : Except PyExc Unit → Prop
  | .ok () => Phase false kind.holds (kind.holds ++ [.worker, .listener]) es
  | .error _ => Phase false kind.holds kind.holds es ∨
      Phase true kind.holds (kind.holds ++ [.worker]) es

theorem GatewayServer.init_ends (commit : PyStr) (token : Option PyStr) (host : PyStr) (port : ℕ)
    (kind : TransportKind) :
    (GatewayServer.init commit token host port).Ends (ServerStarting kind) := by
  unfold GatewayServer.init
  cases GatewayServer.make token commit with
  | error e => exact .inl (.nil _)
  | ok _ =>
    rintro (e | ⟨⟨⟩⟩)
    · cases kind <;> exact .inl ⟨rfl, rfl, rfl⟩
    · rintro (e | ⟨⟨⟩⟩)
      · cases kind <;> exact .inr ⟨rfl, rfl, rfl⟩
      · cases kind <;> exact ⟨rfl, rfl, rfl⟩

theorem ServerStarting.after {kind : TransportKind} {es es' : List Called} {r : Except PyExc Unit}
    (h : Phase false kind.holds kind.holds es) (h' : ServerStarting kind es' r) :
    ServerStarting kind (es ++ es') r := by
  cases r with
  | ok _ => exact h.append h'
  | error e => exact h'.imp h.append h.append

/-- Nothing is open after the calls, unless something has been abandoned. -/
def Accounts (es : List Called) : Prop :=
  ∃ lost left, Phase lost [] left es ∧ (left = [] ↔ lost = false)

theorem Accounts.released {es : List Called} (h : Accounts es) : Released noExcuse es := by
  obtain ⟨lost, left, hphase, hleft⟩ := h
  exact ⟨by rw [hphase.after, hphase.loses]; exact hleft, hphase.respects⟩

theorem Accounts.after {es es' : List Called} (h : Phase false [] [] es) (h' : Accounts es') :
    Accounts (es ++ es') := by
  obtain ⟨lost, left, hphase, hleft⟩ := h'
  exact ⟨lost, left, h.append hphase, hleft⟩

theorem direct_close_ends (kind : TransportKind) {rest : List Handle}
    (hrest : rest = [] ∨ rest = [.worker]) :
    (Opened.direct ⟨kind, false⟩ false).close.Ends fun es r =>
      ∃ o x, r = .ok (o, x) ∧ Phase false (kind.holds ++ rest) rest es := by
  rcases hrest with rfl | rfl <;> cases kind with
  | socket | vxi11 => rintro (e | ⟨⟨⟩⟩) <;> exact ⟨_, _, rfl, rfl, rfl, rfl⟩
  | visa => rintro (e | ⟨⟨⟩⟩) (e' | ⟨⟨⟩⟩) <;> exact ⟨_, _, rfl, rfl, rfl, rfl⟩

theorem Started.close_ends {es : List Called} {r : Except PyExc Unit} {started : Started}
    (h : Starting es (.ok (r, started))) :
    started.close.Ends fun es' _ => Accounts (es ++ es') := by
  cases h with
  | failed e hphase =>
    exact ⟨false, [], by simpa using hphase, iff_of_true rfl rfl⟩
  | lost e hleft hphase =>
    exact ⟨true, _, by simpa using hphase, iff_of_false hleft Bool.noConfusion⟩
  | @opened e kind hphase =>
    refine ends_bind.2 ((direct_close_ends kind (.inl rfl)).mono ?_)
    rintro es' _ ⟨o, x, rfl, h'⟩
    rw [List.append_nil] at h'
    exact ⟨false, [], by simpa using hphase.append h', iff_of_true rfl rfl⟩
  | @unbound e kind hphase =>
    refine ends_bind.2 ((direct_close_ends kind (.inr rfl)).mono ?_)
    rintro es' _ ⟨o, x, rfl, h'⟩
    refine ⟨true, [.worker], by simpa using hphase.append h', ?_⟩
    exact iff_of_false (by decide) Bool.noConfusion
  | @served r kind hphase =>
    rintro (e | ⟨⟨⟩⟩)
    · have hfailed : Phase true (kind.holds ++ [.worker, .listener]) (kind.holds ++ [.worker])
          [⟨.closeListener, .error e⟩] := by cases kind <;> exact ⟨rfl, rfl, rfl⟩
      exact ⟨true, _, hphase.append hfailed, iff_of_false (by simp) Bool.noConfusion⟩
    · have hlistener : Phase false (kind.holds ++ [.worker, .listener]) (kind.holds ++ [.worker])
          [⟨.closeListener, .ok ()⟩] := by cases kind <;> exact ⟨rfl, rfl, rfl⟩
      rintro (e | ended)
      · have hfailed : Phase true (kind.holds ++ [.worker]) (kind.holds ++ [.worker])
            [⟨.joinWorker, .error e⟩] := by cases kind <;> exact ⟨rfl, rfl, rfl⟩
        refine ⟨true, _, by simpa using (hphase.append hlistener).append hfailed, ?_⟩
        exact iff_of_false (by simp) Bool.noConfusion
      · -- the executor is closed, whether the worker has ended in time or not
        show (do
          let (r, _) ← (Opened.direct ⟨kind, false⟩ false).close
          Script.done r : Calls Unit).Ends _
        cases ended with
        | true =>
          have hworker : Phase false (kind.holds ++ [.worker]) (kind.holds ++ [])
              [⟨.joinWorker, .ok true⟩] := by cases kind <;> exact ⟨rfl, rfl, rfl⟩
          refine ends_bind.2 ((direct_close_ends kind (.inl rfl)).mono ?_)
          rintro es' _ ⟨o, x, rfl, h'⟩
          refine ⟨false, [], ?_, iff_of_true rfl rfl⟩
          simpa using ((hphase.append hlistener).append hworker).append h'
        | false =>
          have hworker : Phase true (kind.holds ++ [.worker]) (kind.holds ++ [.worker])
              [⟨.joinWorker, .ok false⟩] := by cases kind <;> exact ⟨rfl, rfl, rfl⟩
          refine ends_bind.2 ((direct_close_ends kind (.inr rfl)).mono ?_)
          rintro es' _ ⟨o, x, rfl, h'⟩
          refine ⟨true, [.worker], ?_, iff_of_false (List.cons_ne_nil _ _) Bool.noConfusion⟩
          simpa using ((hphase.append hlistener).append hworker).append h'

end Spd3000
