/-
  The driver on an obedient power supply is a store of settings.

  A supply obeys a call if the command of the call sets the requested setting and
  leaves the others alone.  `Store` is what such a supply is for: a setter updates
  it and a getter looks it up.  `refines_store` says that the driver adds nothing
  to this, although what it sends and receives are texts, floats and status bits:
  every getter returns what was last requested.
-/
import Spd3000.Supplies

namespace Spd3000

/-! ## Stores -/

abbrev Store := (s : Setting) → s.Value

namespace Store

/-- What a call returns and how it leaves the store. -/
def call (t : Store) (c : SemanticCall) : PyVal × Store :=
  match c.requested, c.asks with
  | some ⟨s, v⟩, _ => (.none, Function.update t s v)
  | none, some s => (s.toVal (t s), t)
  | none, none => (.none, t)

/-- What calls return. -/
def run : List SemanticCall → Store → List PyVal
  | [], _ => []
  | c :: cs, t => (t.call c).1 :: run cs (t.call c).2

theorem call_requested {t : Store} {c : SemanticCall} {s : Setting} {v : s.Value}
    (h : c.requested = some ⟨s, v⟩) : t.call c = (.none, Function.update t s v) := by
  rw [call, h]

end Store

/-- A call that asks for a setting writes none. -/
theorem SemanticCall.requested_asks {call : SemanticCall} {s : Setting} (h : call.asks = some s) :
    call.requested = none := by
  cases call with
  | timerSet channel group voltage current duration =>
    cases voltage with
    | none => simp [requested, PyArg.shown, PyArg.asReal]
    | _ => cases h
  | setOutput c state | setDhcp state | setNetworkDhcp state => cases h
  | _ => first | rfl | cases h

theorem Store.call_asks {t : Store} {c : SemanticCall} {s : Setting} (h : c.asks = some s) :
    t.call c = (s.toVal (t s), t) := by
  rw [call, SemanticCall.requested_asks h, h]

/-! ## Obedience -/

/-- Queries leave the panel as it is. -/
def Supply.Quiet {m : Model} {σ : Type} (P : Supply m σ) : Prop :=
  ∀ text x, P.panel (P.query text x).2 = P.panel x

/-- The supply does what a setter requests, or the call is a getter. -/
inductive Supply.Obeys {m : Model} {σ : Type} (P : Supply m σ) (call : SemanticCall) :
    Operation → Prop
  | write {command : PyStr} {verification : Option Verification} {reason : Option PyStr}
    {s : Setting} {v : s.Value} (hrequested : call.requested = some ⟨s, v⟩)
    (hwrite : ∀ x, P.panel (P.write command x) = Function.update (P.panel x) s v) :
    Obeys P call (.write none command verification reason)
  | read {commands : List PyStr} {nonempty : commands ≠ []}
    {parser : Parser (List PyStr) .exception} {s : Setting} (hasks : call.asks = some s) :
    Obeys P call (.read commands nonempty parser)

/-- The instrument can be asked for the setting that a call writes. -/
def SemanticCall.Checkable (m : Model) (call : SemanticCall) : Prop :=
  ∀ s v, call.requested = some ⟨s, v⟩ → s.Readable m

section
variable [PyText] {m : Model} {σ : Type} {P : Supply m σ}

/-- A call of the driver does what it does to the store. -/
theorem Supply.Obeys.outcome {call : SemanticCall} {op : Operation} (h : P.Obeys call op)
    (hquiet : P.Quiet) (hc : Operation.Concerns m call op) (hbrief : call.Brief) {verify : Bool}
    (hcheck : verify = true → call.Checkable m) (x : σ) (i : ℕ) :
    (op.pending verify i).outcome (P.responses (op.pending verify i).texts x) =
        .ok (Store.call (P.panel x) call).1 ∧
      P.panel (P.after (op.pending verify i).texts x) = (Store.call (P.panel x) call).2 := by
  have hspec := Supply.outcome_spec (P := P) hc hbrief x i
  cases h with
  | @write command verification reason s v hrequested hwrite =>
    rw [Store.call_requested hrequested]
    cases verify with
    | false => exact ⟨rfl, hwrite x⟩
    | true =>
      generalize PendingOperation.outcome _ _ = o at hspec ⊢
      generalize P.after _ x = x' at hspec ⊢
      cases hspec with
      | confirmed _ _ _ => exact ⟨rfl, (hquiet _ _).trans (hwrite x)⟩
      | refuted hrequested' _ hpanel _ =>
        rw [hrequested] at hrequested'
        cases hrequested'
        rw [hwrite, Function.update_self] at hpanel
        exact absurd rfl hpanel
      | unverifiable hunreadable _ =>
        exact absurd (hcheck rfl s v hrequested) (hunreadable s v hrequested)
  | @read commands nonempty parser s hasks =>
    rw [Store.call_asks hasks]
    have hpending : (Operation.read commands nonempty parser).pending verify i =
        (Operation.read commands nonempty parser).pending true i := rfl
    rw [hpending]
    generalize PendingOperation.outcome _ _ = o at hspec ⊢
    generalize P.after _ x = x' at hspec ⊢
    cases hspec with
    | shown hasks' =>
      rw [hasks] at hasks'
      cases hasks'
      exact ⟨rfl, hquiet _ _⟩
    | answered hasks' =>
      rw [hasks] at hasks'
      cases hasks'

theorem outcomes_store {cs : List (SemanticCall × Operation)}
    (hcs : ∀ c ∈ cs, c.1.method m = .ok c.2) (hbrief : ∀ c ∈ cs, c.1.Brief) (hquiet : P.Quiet)
    (hobeys : ∀ c ∈ cs, P.Obeys c.1 c.2) {verify : Bool}
    (hcheck : verify = true → ∀ c ∈ cs, c.1.Checkable m) (x : σ) (i : ℕ) :
    P.outcomes (pendingFrom verify i (cs.map Prod.snd)) x =
      (Store.run (cs.map Prod.fst) (P.panel x)).map .ok := by
  induction cs generalizing x i with
  | nil => rfl
  | cons c cs ih =>
    rw [List.forall_mem_cons] at hcs hbrief hobeys
    have hcheck' (h : verify = true) := List.forall_mem_cons.1 (hcheck h)
    obtain ⟨houtcome, hpanel⟩ := hobeys.1.outcome hquiet (method_concerns m c.1 c.2 hcs.1) hbrief.1
      (fun h => (hcheck' h).1) x i
    rw [List.map_cons, List.map_cons, pendingFrom, Supply.outcomes, houtcome,
      ih hcs.2 hbrief.2 hobeys.2 (fun h => (hcheck' h).2), hpanel]
    rfl

omit [PyText] in
theorem mapM_ok {α : Type} (vs : List α) :
    (vs.map Except.ok : List (Except PyExc α)).mapM id = .ok vs := by
  induction vs with
  | nil => rfl
  | cons v vs ih =>
    rw [List.map_cons, List.mapM_cons, ih]
    rfl

omit [PyText] in
theorem firstError_ok {α : Type} (vs : List α) :
    firstError (vs.map Except.ok : List (Except PyExc α)) = .ok () := by
  induction vs with
  | nil => rfl
  | cons v vs ih => exact ih

/-- **The driver refines a store.**  On a supply that obeys the calls, the driver returns what the
    store returns, one by one or in a batch scope, and verified as well, if the instrument can be
    asked for the settings that are written. -/
theorem refines_store (hquiet : P.Quiet) {d : SPD3000 σ} (ha : d.batchActive = false)
    {cs : List (SemanticCall × Operation)} (hcs : ∀ c ∈ cs, c.1.method m = .ok c.2)
    (hbrief : ∀ c ∈ cs, c.1.Brief) (hobeys : ∀ c ∈ cs, P.Obeys c.1 c.2)
    (hcheck : d.shouldVerifyWrites = true → ∀ c ∈ cs, c.1.Checkable m) :
    (callAll P.executor (cs.map Prod.snd) d).1 =
        .ok ((Store.run (cs.map Prod.fst) (P.panel d.executor)).map .value) ∧
      (d.batchScope P.executor (scopeBody P.executor (cs.map Prod.snd) none)).1 =
        .ok (collectedFrom d.nextDeferred (cs.map Prod.snd)) ∧
      ∀ i v, (Returned.deferred i, v) ∈ (collectedFrom d.nextDeferred (cs.map Prod.snd)).zip
          (Store.run (cs.map Prod.fst) (P.panel d.executor)) →
        ((d.batchScope P.executor
          (scopeBody P.executor (cs.map Prod.snd) none)).2.deferreds i).getValue = .ok v := by
  have hv : ∀ p ∈ d.collects (cs.map Prod.snd), p.Valid := method_valid hcs _ _
  have hstore := outcomes_store hcs hbrief hquiet hobeys hcheck d.executor d.nextDeferred
  have halone := Supply.callAll_supplied (P := P) (method_override hcs) ha hv
  obtain ⟨hscope, hreads⟩ := Supply.batchScope_supplied (P := P) ha hv
  rw [SPD3000.collects, hstore] at halone hscope hreads
  rw [mapM_ok] at halone
  rw [firstError_ok] at hscope
  refine ⟨halone, hscope, fun i v hmem => hreads i (.ok v) ?_⟩
  rw [List.zip_map_right]
  exact List.mem_map_of_mem hmem

end

/-! ## Switching CH1 on -/

/-- CH1 is switched on, and both channels are read. -/
def storeCalls [PyText] : List (SemanticCall × Operation) := [
  (.output (.str "ch1") (.str "on"), writeOf "OUTP CH1,ON" (verifiedByStatus .spd3303X (.bool true)
    fun status => .bool (status.channel .ch1).output)),
  outputRead .ch1, outputRead .ch2]

theorem switch_obeys [PyText] : ∀ c ∈ storeCalls, switchSupply.Obeys c.1 c.2 := by
  simp only [storeCalls, List.forall_mem_cons]
  refine ⟨.write (s := .output .ch1) (v := true) rfl fun on => ?_, .read rfl,
    .read rfl, List.forall_mem_nil _⟩
  funext s
  by_cases hs : s = .output .ch1
  · subst hs
    rw [Function.update_self]
    rfl
  · rw [Function.update_of_ne hs]
    cases s with
    | output c =>
      cases c with
      | ch1 => exact absurd rfl hs
      | _ => rfl
    | _ => rfl

theorem switch_store : (@callAll _ PyText.blank switchSupply.executor
      ((@storeCalls PyText.blank).map Prod.snd) (.make false true)).1 =
    .ok [.value .none, .value (.bool true), .value (.bool false)] := by
  let _ : PyText := PyText.blank
  have hquiet : switchSupply.Quiet := fun _ _ => rfl
  have hcs : ∀ c ∈ storeCalls, c.1.method .spd3303X = .ok c.2 := by
    simp only [storeCalls, List.forall_mem_cons]
    exact ⟨rfl, rfl, rfl, List.forall_mem_nil _⟩
  have hbrief : ∀ c ∈ storeCalls, c.1.Brief := by
    simp only [storeCalls, List.forall_mem_cons]
    refine ⟨?_, ?_, ?_, List.forall_mem_nil _⟩ <;> rintro s v ⟨⟩
    trivial
  have hcheck : ∀ c ∈ storeCalls, c.1.Checkable .spd3303X := by
    simp only [storeCalls, List.forall_mem_cons]
    refine ⟨?_, ?_, ?_, List.forall_mem_nil _⟩ <;> rintro s v ⟨⟩
    exact Channel.noConfusion
  exact (refines_store hquiet (d := .make false true) rfl hcs hbrief switch_obeys fun _ => hcheck).1

end Spd3000
