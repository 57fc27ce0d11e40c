/-
  Every interleaving of handlers, disconnects and worker steps executes the
  submitted batches one after the other, each exactly once.

  `Inv` ties the state of the gateway to its history: what the worker has served
  (`Served`), which works are in the queue, and what each handler waits for.
  Every step keeps it (`Inv.step`), so every history is `Serial`.
-/
import Spd3000.Interleaving
import Spd3000.Spacing

namespace Spd3000

variable {σ ι : Type} [DecidableEq ι]

/-! ## Handlers -/

/-- What the state of a handler says about the history of its connection. -/
def HandlerState (es : List (GatewayEvent ι)) (c : ι) : Handler → Prop
  | .new => acceptedBy c es = [] ∧ submittedBy c es = handedBackTo c es
  | .idle session => acceptedBy c es = [session.settings] ∧ submittedBy c es = handedBackTo c es
  | .waiting session n _ | .beating session n _ | .sending session n _ _ =>
    acceptedBy c es = [session.settings] ∧ submittedBy c es = handedBackTo c es ++ [n]
  | .ended => submittedBy c es = handedBackTo c es

/-- The events do not concern the sessions and works of a connection. -/
structure Foreign (c : ι) (es : List (GatewayEvent ι)) : Prop where
  accepted : acceptedBy c es = []
  submitted : submittedBy c es = []
  handedBack : handedBackTo c es = []

theorem HandlerState.append {es es' : List (GatewayEvent ι)} {c : ι} {h : Handler}
    (hs : HandlerState es c h) (hf : Foreign c es') : HandlerState (es ++ es') c h := by
  have ha : acceptedBy c (es ++ es') = acceptedBy c es := by simp [hf.accepted]
  have hsub : submittedBy c (es ++ es') = submittedBy c es := by simp [hf.submitted]
  have hb : handedBackTo c (es ++ es') = handedBackTo c es := by simp [hf.handedBack]
  cases h with
  | new => exact ⟨ha.trans hs.1, by rw [hsub, hb]; exact hs.2⟩
  | idle session => exact ⟨ha.trans hs.1, by rw [hsub, hb]; exact hs.2⟩
  | waiting session n connected => exact ⟨ha.trans hs.1, by rw [hsub, hb]; exact hs.2⟩
  | beating session n connected => exact ⟨ha.trans hs.1, by rw [hsub, hb]; exact hs.2⟩
  | sending session n connected _ => exact ⟨ha.trans hs.1, by rw [hsub, hb]; exact hs.2⟩
  | ended => show submittedBy c (es ++ es') = _; rw [hsub, hb]; exact hs

theorem foreign_executed {c : ι} {es : List (GatewayEvent ι)} (h : ∀ e ∈ es, ∃ x, e = .executed x) :
    Foreign c es := by
  induction es with
  | nil => exact ⟨rfl, rfl, rfl⟩
  | cons e es ih =>
    obtain ⟨x, rfl⟩ := h e List.mem_cons_self
    obtain ⟨ha, hs, hb⟩ := ih fun e he => h e (List.mem_cons_of_mem _ he)
    exact ⟨ha, hs, hb⟩

theorem foreign_accepted {c c' : ι} (h : c' ≠ c) (settings : ExecutionSettings) :
    Foreign c [.accepted c' settings] := ⟨by simp [acceptedBy, h], rfl, rfl⟩

theorem foreign_submitted {c : ι} {s : Submission ι} (h : s.connection ≠ c) :
    Foreign c [.submitted s] := ⟨rfl, by simp [submittedBy, h], rfl⟩

theorem foreign_handedBack {c c' : ι} (h : c' ≠ c) (n : ℕ) (o : Except PyExc BatchResult) :
    Foreign c [.handedBack c' n o] := ⟨rfl, rfl, by simp [handedBackTo, h]⟩

/-! ## The invariant -/

section
variable [PyText]

/-- The state of the gateway after a history in which `finished` works have been served. -/
structure Inv (g : Gateway σ ι) (es : List (GatewayEvent ι)) (finished : ℕ) : Prop where
  served : g.Served (executions es) finished
  works : (submissions es).map (fun s => (s.id, s.work)) =
    (List.range g.nextWork).map fun n => (n, (g.works n).work)
  handlers : ∀ c, HandlerState es c (g.handlers c)
  sessions : ∀ s ∈ submissions es, acceptedBy s.connection es = [s.work.settings]
  handed : ∀ c n o, .handedBack c n o ∈ es →
    n < finished ∧ o = (g.works n).outcome ∧ n ∈ submittedBy c es

namespace Inv
variable {g g' : Gateway σ ι} {es : List (GatewayEvent ι)} {finished : ℕ}

/-- Events without works and executions, and new states of the handlers. -/
theorem quiet (h : Inv g es finished) {es' : List (GatewayEvent ι)} (hs : ι → Handler)
    (hx : executions es' = []) (hsub : submissions es' = [])
    (hsession : ∀ s ∈ submissions es, acceptedBy s.connection es' = [])
    (hhandlers : ∀ c, HandlerState (es ++ es') c (hs c))
    (hhanded : ∀ c n o, .handedBack c n o ∈ es' →
      n < finished ∧ o = (g.works n).outcome ∧ n ∈ submittedBy c es) :
    Inv { g with handlers := hs } (es ++ es') finished := by
  refine ⟨?_, ?_, hhandlers, fun s hmem => ?_, fun c n o ho => ?_⟩
  · rw [executions_append, hx, List.append_nil]
    exact h.served.congr rfl rfl rfl rfl rfl rfl
  · rw [submissions_append, hsub, List.append_nil]
    exact h.works
  · rw [submissions_append, hsub, List.append_nil] at hmem
    rw [acceptedBy_append, h.sessions s hmem, hsession s hmem, List.append_nil]
  · rw [submittedBy_append, List.mem_append]
    rcases List.mem_append.1 ho with ho | ho
    · obtain ⟨hn, hout, hmem⟩ := h.handed c n o ho
      exact ⟨hn, hout, .inl hmem⟩
    · obtain ⟨hn, hout, hmem⟩ := hhanded c n o ho
      exact ⟨hn, hout, .inl hmem⟩

theorem accept (h : Inv g es finished) {c : ι} (hc : g.handlers c = .new)
    (settings : ExecutionSettings) :
    Inv (g.setHandler c (.idle ⟨settings⟩)) (es ++ [.accepted c settings]) finished := by
  have hnew : HandlerState es c .new := hc ▸ h.handlers c
  refine h.quiet _ rfl rfl (fun s hs => ?_) (fun c' => ?_) fun c' n o ho => ?_
  · refine (foreign_accepted (fun hcc => ?_) settings).accepted
    have hsession := h.sessions s hs
    rw [← hcc, hnew.1] at hsession
    cases hsession
  · by_cases hcc : c' = c
    · subst hcc
      rw [Function.update_self]
      refine ⟨?_, ?_⟩
      · rw [acceptedBy_append, hnew.1, acceptedBy]
        simp
      · rw [submittedBy_append, handedBackTo_append, hnew.2]
        rfl
    · rw [Function.update_of_ne hcc]
      exact (h.handlers c').append (foreign_accepted (Ne.symm hcc) settings)
  · cases List.mem_singleton.1 ho

/-- A handler goes on, without a new session or work. -/
theorem handler (h : Inv g es finished) {c : ι} (hd : Handler) (hc : HandlerState es c hd) :
    Inv (g.setHandler c hd) (es ++ []) finished := by
  refine h.quiet _ rfl rfl (fun _ _ => rfl) (fun c' => ?_) fun c' n o ho => absurd ho List.not_mem_nil
  rw [List.append_nil]
  by_cases hcc : c' = c
  · subst hcc
    rw [Function.update_self]
    exact hc
  · rw [Function.update_of_ne hcc]
    exact h.handlers c'

theorem looked (h : Inv g es finished) (c : ι) (state : PyStr) :
    Inv g (es ++ [.looked c state]) finished := by
  refine h.quiet g.handlers rfl rfl (fun _ _ => rfl)
    (fun c' => (h.handlers c').append ⟨rfl, rfl, rfl⟩) fun c' n o ho => ?_
  cases List.mem_singleton.1 ho

theorem heartbeat (h : Inv g es finished) (c : ι) (state : PyStr) :
    Inv g (es ++ [.heartbeat c state]) finished := by
  refine h.quiet g.handlers rfl rfl (fun _ _ => rfl)
    (fun c' => (h.handlers c').append ⟨rfl, rfl, rfl⟩) fun c' n o ho => ?_
  cases List.mem_singleton.1 ho

theorem handBack (h : Inv g es finished) {c : ι} {session : Session} {n : ℕ} {connected : Bool}
    (hc : g.handlers c = .waiting session n connected) (hdone : (g.works n).done = true) :
    Inv (g.setHandler c (if connected then .idle session else .ended))
      (es ++ [.handedBack c n (g.works n).outcome]) finished := by
  have hwaiting : HandlerState es c (.waiting session n connected) := hc ▸ h.handlers c
  have hlt : n < finished := by
    by_contra hn
    have hnot := (h.served.waiting n (not_lt.1 hn)).1
    rw [hnot] at hdone
    cases hdone
  refine h.quiet _ rfl rfl (fun _ _ => rfl) (fun c' => ?_) fun c' m o ho => ?_
  · by_cases hcc : c' = c
    · subst hcc
      rw [Function.update_self]
      have hback : submittedBy c' (es ++ [.handedBack c' n (g.works n).outcome]) =
          handedBackTo c' (es ++ [.handedBack c' n (g.works n).outcome]) := by
        rw [submittedBy_append, handedBackTo_append, hwaiting.2]
        simp [submittedBy, handedBackTo]
      have haccepted : acceptedBy c' (es ++ [.handedBack c' n (g.works n).outcome]) =
          [session.settings] := by
        rw [acceptedBy_append, hwaiting.1]
        rfl
      cases connected with
      | true => exact ⟨haccepted, hback⟩
      | false => exact hback
    · rw [Function.update_of_ne hcc]
      exact (h.handlers c').append (foreign_handedBack (Ne.symm hcc) n _)
  · cases List.mem_singleton.1 ho
    refine ⟨hlt, rfl, ?_⟩
    rw [hwaiting.2]
    simp

theorem elapse (h : Inv g es finished) (f : σ → σ) :
    Inv { g with owner := { g.owner with
      executor := { g.owner.executor with world := f g.owner.executor.world } } } (es ++ [])
      finished := by
  rw [List.append_nil]
  exact ⟨h.served.congr rfl rfl rfl rfl rfl rfl, h.works, h.handlers, h.sessions, h.handed⟩

/-- A step of the worker. -/
theorem work {W : World σ} (hW : W.Raises) {es' : List (GatewayEvent ι)} (h : Inv g es finished)
    (hstep : g.workerStep W = some (g', es')) : ∃ finished', Inv g' (es ++ es') finished' := by
  obtain ⟨finished', hle, hserved, hframe⟩ := Gateway.workerStep_served hW h.served hstep
  have hforeign := fun c => foreign_executed (c := c) hframe.events
  have hsub : submissions es' = [] := by
    rw [submissions, List.filterMap_eq_nil_iff]
    intro e he
    obtain ⟨x, rfl⟩ := hframe.events e he
    rfl
  refine ⟨finished', ?_, ?_, fun c => ?_, fun s hs => ?_, fun c n o ho => ?_⟩
  · rw [executions_append]
    exact hserved
  · rw [submissions_append, hsub, List.append_nil, h.works, hframe.nextWork]
    simp only [hframe.work]
  · rw [hframe.handlers]
    exact (h.handlers c).append (hforeign c)
  · rw [submissions_append, hsub, List.append_nil] at hs
    rw [acceptedBy_append, h.sessions s hs, (hforeign _).accepted, List.append_nil]
  · rcases List.mem_append.1 ho with ho | ho
    · obtain ⟨hn, hout, hmem⟩ := h.handed c n o ho
      exact ⟨hn.trans_le hle, by rw [hout, hframe.works n hn], by simp [hmem]⟩
    · obtain ⟨x, hx⟩ := hframe.events _ ho
      cases hx

theorem submit (h : Inv g es finished) {c : ι} {session : Session} (hc : g.handlers c = .idle session)
    (batch : CommandBatch) :
    Inv (g.submit c session batch).1 (es ++ (g.submit c session batch).2) finished := by
  have hidle : HandlerState es c (.idle session) := hc ▸ h.handlers c
  have hold : ∀ n, n < g.nextWork → (g.submit c session batch).1.works n = g.works n :=
    fun n hn => Function.update_of_ne hn.ne ..
  have hnew : (g.submit c session batch).1.works g.nextWork = .new ⟨batch, session.settings⟩ :=
    Function.update_self ..
  have hsub : submissions (g.submit c session batch).2 =
      [⟨c, g.nextWork, ⟨batch, session.settings⟩⟩] := rfl
  have haccepted : ∀ c', acceptedBy c' (g.submit c session batch).2 = [] := fun _ => rfl
  refine ⟨?_, ?_, fun c' => ?_, fun s hs => ?_, fun c' n o ho => ?_⟩
  · rw [executions_append]
    simpa [Gateway.submit, executions] using h.served.submit c session batch
  · show _ = (List.range (g.nextWork + 1)).map _
    rw [submissions_append, hsub, List.map_append, h.works, List.range_succ, List.map_append,
      List.map_singleton, List.map_singleton, hnew]
    congr 1
    refine List.map_congr_left fun n hn => ?_
    rw [hold n (List.mem_range.1 hn)]
  · by_cases hcc : c' = c
    · subst hcc
      have hself : (g.submit c' session batch).1.handlers c' = .waiting session g.nextWork true :=
        Function.update_self ..
      rw [hself]
      refine ⟨?_, ?_⟩
      · rw [acceptedBy_append, haccepted, List.append_nil, hidle.1]
      · rw [submittedBy_append, handedBackTo_append, hidle.2]
        simp [Gateway.submit, submittedBy, handedBackTo]
    · have hother : (g.submit c session batch).1.handlers c' = g.handlers c' :=
        Function.update_of_ne hcc ..
      rw [hother]
      exact (h.handlers c').append (foreign_submitted (Ne.symm hcc))
  · rw [acceptedBy_append, haccepted, List.append_nil]
    rw [submissions_append, hsub, List.mem_append] at hs
    rcases hs with hs | hs
    · exact h.sessions s hs
    · obtain rfl := List.mem_singleton.1 hs
      exact hidle.1
  · rcases List.mem_append.1 ho with ho | ho
    · obtain ⟨hn, hout, hmem⟩ := h.handed c' n o ho
      refine ⟨hn, ?_, by simp [hmem]⟩
      rw [hold n (hn.trans_le h.served.le.1)]
      exact hout
    · cases List.mem_singleton.1 ho

/-- Every step of the gateway keeps the invariant. -/
theorem step {W : World σ} (hW : W.Raises) {l : Label σ ι} {es' : List (GatewayEvent ι)}
    (h : Inv g es finished) (hstep : g.step W l = some (g', es')) :
    ∃ finished', Inv g' (es ++ es') finished' := by
  cases l with
  | accept c settings =>
    cases hc : g.handlers c with
    | new =>
      simp only [Gateway.step, hc] at hstep
      cases hstep
      exact ⟨finished, h.accept hc settings⟩
    | _ => simp [Gateway.step, hc] at hstep
  | submit c batch =>
    cases hc : g.handlers c with
    | idle session =>
      simp only [Gateway.step, hc] at hstep
      cases hstep
      exact ⟨finished, h.submit hc batch⟩
    | _ => simp [Gateway.step, hc] at hstep
  | timeout c =>
    have hstate := h.handlers c
    cases hc : g.handlers c with
    | waiting session n connected =>
      simp only [Gateway.step, hc] at hstep
      split_ifs at hstep
      cases hstep
      rw [hc] at hstate
      exact ⟨finished, h.handler _ hstate⟩
    | _ => simp [Gateway.step, hc] at hstep
  | look c =>
    have hstate := h.handlers c
    cases hc : g.handlers c with
    | beating session n connected =>
      simp only [Gateway.step, hc] at hstep
      cases hstep
      rw [hc] at hstate
      have hsending := h.handler (.sending session n connected (g.works n).state) hstate
      rw [List.append_nil] at hsending
      exact ⟨finished, hsending.looked c _⟩
    | _ => simp [Gateway.step, hc] at hstep
  | heartbeat c =>
    have hstate := h.handlers c
    cases hc : g.handlers c with
    | sending session n connected state =>
      simp only [Gateway.step, hc] at hstep
      cases hstep
      rw [hc] at hstate
      have hwaiting := h.handler (.waiting session n connected) hstate
      rw [List.append_nil] at hwaiting
      exact ⟨finished, hwaiting.heartbeat c _⟩
    | _ => simp [Gateway.step, hc] at hstep
  | disconnect c =>
    have hstate := h.handlers c
    simp only [Gateway.step] at hstep
    cases hc : g.handlers c with
    | waiting session n connected =>
      rw [hc] at hstep hstate
      cases hstep
      exact ⟨finished, h.handler (.waiting session n false) hstate⟩
    | beating session n connected =>
      rw [hc] at hstep hstate
      cases hstep
      exact ⟨finished, h.handler (.beating session n false) hstate⟩
    | sending session n connected state =>
      rw [hc] at hstep hstate
      cases hstep
      exact ⟨finished, h.handler (.sending session n false state) hstate⟩
    | new =>
      rw [hc] at hstep hstate
      cases hstep
      exact ⟨finished, h.handler _ hstate.2⟩
    | idle session =>
      rw [hc] at hstep hstate
      cases hstep
      exact ⟨finished, h.handler _ hstate.2⟩
    | ended =>
      rw [hc] at hstep hstate
      cases hstep
      exact ⟨finished, h.handler _ hstate⟩
  | handBack c =>
    cases hc : g.handlers c with
    | waiting session n connected =>
      simp only [Gateway.step, hc] at hstep
      by_cases hdone : (g.works n).done
      · rw [if_pos hdone] at hstep
        cases hstep
        exact ⟨finished, h.handBack hc hdone⟩
      · rw [if_neg hdone] at hstep
        cases hstep
    | _ => simp [Gateway.step, hc] at hstep
  | work => exact h.work hW hstep
  | elapse f =>
    cases hstep
    exact ⟨finished, h.elapse f⟩

theorem start {x : DirectExecutor σ} (hx : x.closed = false) :
    Inv (Gateway.start x : Gateway σ ι) [] 0 where
  served := {
    phase := ⟨le_rfl, rfl, rfl⟩
    done _ hn := absurd hn (Nat.not_lt_zero _)
    waiting _ _ := ⟨rfl, rfl⟩
    ordered := .nil
    bounded _ hx := absurd hx List.not_mem_nil
    settings _ hx := absurd hx List.not_mem_nil
    opened := hx }
  works := rfl
  handlers _ := ⟨rfl, rfl⟩
  sessions _ hs := absurd hs List.not_mem_nil
  handed _ _ _ ho := absurd ho List.not_mem_nil

end Inv

/-- Along a run from the start. -/
theorem inv_run {W : World σ} (hW : W.Raises) {x : DirectExecutor σ} (hx : x.closed = false)
    {ls : List (Label σ ι)} {g : Gateway σ ι} {es : List (GatewayEvent ι)}
    (h : (Gateway.system W).run ls (.start x) = some (g, es)) : ∃ finished, Inv g es finished :=
  Runs.System.invariant (P := fun g es => ∃ finished, Inv g es finished)
    (fun _ _ _ _ _ ⟨_, hinv⟩ hstep => hinv.step hW hstep) ⟨0, Inv.start hx⟩ h

/-! ## The history -/

end

/-- Of a batch the first commands have been executed, and none of them has raised. -/
def Begun (commands : List Command) (xs : List Execution) : Prop :=
  xs.map (·.command) <+: commands ∧ ∃ values : List (Option PyStr), xs.map (·.result) = values.map .ok

/-- The works of a connection are those of its submissions. -/
theorem submittedBy_eq (c : ι) (es : List (GatewayEvent ι)) :
    submittedBy c es = ((submissions es).filter (·.connection = c)).map (·.id) := by
  induction es with
  | nil => rfl
  | cons e es ih =>
    cases e with
    | submitted s =>
      show List.filterMap _ _ = List.map _ (List.filter _ (s :: submissions es))
      by_cases hs : s.connection = c
      · rw [List.filter_cons_of_pos (by simpa using hs), List.map_cons, ← ih]
        simp [submittedBy, hs]
      · rw [List.filter_cons_of_neg (by simpa using hs), ← ih]
        simp [submittedBy, hs]
    | _ => exact ih

theorem mem_submittedBy {c : ι} {n : ℕ} {es : List (GatewayEvent ι)} :
    n ∈ submittedBy c es ↔ ∃ s ∈ submissions es, s.connection = c ∧ s.id = n := by
  simp [submittedBy_eq, and_assoc]

section
variable [PyText]

/-- What holds of every history. -/
structure Serial (es : List (GatewayEvent ι)) : Prop where
  /-- Works are numbered in the order of the queue. -/
  numbered : (submissions es).map (·.id) = List.range (submissions es).length
  /-- The commands at the executor are the blocks of the works, in the order of the queue. -/
  blocks : executions es = (submissions es).flatMap fun s => executionsOf s.id (executions es)
  /-- A block is its batch, cut only after a failing command, or the last one so far. -/
  batches : ∀ s ∈ submissions es,
    (∃ outcome, Completed s.work.batch.commands (executionsOf s.id (executions es)) outcome) ∨
    (Begun s.work.batch.commands (executionsOf s.id (executions es)) ∧
      ∀ x ∈ executions es, x.work ≤ s.id)
  settings : ∀ s ∈ submissions es, acceptedBy s.connection es = [s.work.settings] ∧
    ∀ x ∈ executionsOf s.id (executions es), x.settings = s.work.settings
  /-- The commands of a connection are the blocks of its works, in the order of its calls. -/
  connections : ∀ c, (executions es).filter (·.work ∈ submittedBy c es) =
    (submittedBy c es).flatMap fun n => executionsOf n (executions es)
  /-- A handler gets back the outcome of its own batch. -/
  outcomes : ∀ c n o, .handedBack c n o ∈ es →
    ∃ s ∈ submissions es, s.connection = c ∧ s.id = n ∧ ∃ outcome,
      Completed s.work.batch.commands (executionsOf n (executions es)) outcome ∧
      o = handedOutcome outcome
  /-- Its calls return in their order, each at most once. -/
  calls : ∀ c, handedBackTo c es <+: submittedBy c es

omit [DecidableEq ι] in
/-- How far the worker has come with a work. -/
theorem Gateway.Served.block {g : Gateway σ ι} {xs : List Execution} {finished : ℕ}
    (h : g.Served xs finished) (n : ℕ) :
    (∃ outcome, Completed (g.works n).work.batch.commands (executionsOf n xs) outcome) ∨
    (Begun (g.works n).work.batch.commands (executionsOf n xs) ∧ ∀ x ∈ xs, x.work ≤ n) := by
  have hnone : executionsOf n xs = [] →
      Begun (g.works n).work.batch.commands (executionsOf n xs) := by
    intro hnil
    rw [hnil]
    exact ⟨List.nil_prefix, [], rfl⟩
  rcases lt_trichotomy n finished with hn | rfl | hn
  · obtain ⟨-, outcome, hcompleted, -⟩ := h.done n hn
    exact .inl ⟨outcome, hcompleted⟩
  · have hphase := h.phase
    cases hw : g.worker with
    | getting => rw [hw] at hphase; exact .inr ⟨hnone hphase.2.1, h.bounded⟩
    | taken m =>
      rw [hw] at hphase
      obtain ⟨⟨rfl, -⟩, hnil⟩ := hphase
      exact .inr ⟨hnone hnil, h.bounded⟩
    | waited m =>
      rw [hw] at hphase
      obtain ⟨⟨rfl, -⟩, hnil⟩ := hphase
      exact .inr ⟨hnone hnil, h.bounded⟩
    | executing m _ rest values =>
      rw [hw] at hphase
      obtain ⟨⟨rfl, -⟩, -, hcommands, hresults⟩ := hphase
      exact .inr ⟨⟨⟨rest, hcommands⟩, values, hresults⟩, h.bounded⟩
    | completing m outcome =>
      rw [hw] at hphase
      obtain ⟨⟨rfl, -⟩, hcompleted, -⟩ := hphase
      exact .inl ⟨outcome, hcompleted⟩
    | dead => rw [hw] at hphase; exact hphase.elim
  · exact .inr ⟨hnone (h.current hn), fun x hx => (h.bounded x hx).trans hn.le⟩

namespace Inv
variable {g : Gateway σ ι} {es : List (GatewayEvent ι)} {finished : ℕ}

theorem ids (h : Inv g es finished) : (submissions es).map (·.id) = List.range g.nextWork := by
  have hworks := congrArg (List.map Prod.fst) h.works
  simpa [List.map_map, Function.comp_def] using hworks

/-- A submission is a work of the gateway. -/
theorem submission (h : Inv g es finished) {s : Submission ι} (hs : s ∈ submissions es) :
    s.id < g.nextWork ∧ (g.works s.id).work = s.work := by
  have hmem := List.mem_map_of_mem (f := fun s => (s.id, s.work)) hs
  rw [h.works, List.mem_map] at hmem
  obtain ⟨n, hn, heq⟩ := hmem
  rw [Prod.mk.injEq] at heq
  obtain ⟨rfl, hwork⟩ := heq
  exact ⟨List.mem_range.1 hn, hwork⟩

theorem blocks (h : Inv g es finished) :
    executions es = (submissions es).flatMap fun s => executionsOf s.id (executions es) := by
  have hblocks := Runs.filter_mem_eq_flatMap h.served.ordered
    (List.pairwise_lt_range (n := g.nextWork))
  have hall : (executions es).filter (·.work ∈ List.range g.nextWork) = executions es := by
    rw [List.filter_eq_self]
    intro x hx
    simpa using h.served.le.2 x hx
  rw [hall, ← h.ids, List.flatMap_map] at hblocks
  exact hblocks

theorem connections (h : Inv g es finished) (c : ι) :
    (executions es).filter (·.work ∈ submittedBy c es) =
      (submittedBy c es).flatMap fun n => executionsOf n (executions es) := by
  have hsub : (submittedBy c es).Sublist (List.range g.nextWork) := by
    rw [submittedBy_eq, ← h.ids]
    exact List.filter_sublist.map _
  exact Runs.filter_mem_eq_flatMap h.served.ordered (List.pairwise_lt_range.sublist hsub)

theorem serial (h : Inv g es finished) : Serial es where
  numbered := by
    rw [h.ids, ← List.length_map (f := (·.id)), h.ids, List.length_range]
  blocks := h.blocks
  batches s hs := by
    rw [← (h.submission hs).2]
    exact h.served.block s.id
  settings s hs := by
    refine ⟨h.sessions s hs, fun x hx => ?_⟩
    obtain ⟨hmem, hwork⟩ := List.mem_filter.1 hx
    rw [h.served.settings x hmem, of_decide_eq_true hwork, (h.submission hs).2]
  connections := h.connections
  outcomes c n o ho := by
    obtain ⟨hn, hout, hmem⟩ := h.handed c n o ho
    obtain ⟨s, hs, hc, rfl⟩ := mem_submittedBy.1 hmem
    obtain ⟨-, outcome, hcompleted, houtcome⟩ := h.served.done _ hn
    rw [(h.submission hs).2] at hcompleted
    exact ⟨s, hs, hc, rfl, outcome, hcompleted, hout.trans houtcome⟩
  calls c := by
    have hstate := h.handlers c
    cases hh : g.handlers c with
    | new => rw [hh] at hstate; exact hstate.2 ▸ List.prefix_rfl
    | idle session => rw [hh] at hstate; exact hstate.2 ▸ List.prefix_rfl
    | waiting session n connected => rw [hh] at hstate; exact hstate.2 ▸ List.prefix_append ..
    | beating session n connected => rw [hh] at hstate; exact hstate.2 ▸ List.prefix_append ..
    | sending session n connected _ => rw [hh] at hstate; exact hstate.2 ▸ List.prefix_append ..
    | ended =>
      rw [hh] at hstate
      have heq : submittedBy c es = handedBackTo c es := hstate
      exact heq ▸ List.prefix_rfl

end Inv

/-! ## Progress -/

/-- The number of steps that the worker needs at most for its current work. -/
def Gateway.current (g : Gateway σ ι) : ℕ :=
  match g.worker with
  | .getting | .dead => 0
  | .taken n => (g.works n).work.batch.commands.length + 4
  | .waited n => (g.works n).work.batch.commands.length + 3
  | .executing _ _ rest _ => rest.length + 2
  | .completing _ _ => 1

/-- The number of steps that the worker needs at most for its works. -/
def Gateway.remaining (g : Gateway σ ι) : ℕ :=
  (g.queue.map fun n => (g.works n).work.batch.commands.length + 5).sum + g.current

variable {W : World σ} {g g' : Gateway σ ι} {xs : List Execution} {finished : ℕ}

omit [DecidableEq ι] in
/-- With every step of the worker, less remains. -/
theorem workerStep_remaining (hW : W.Raises) (h : g.Served xs finished)
    {es : List (GatewayEvent ι)} (hstep : g.workerStep W = some (g', es)) :
    g'.remaining < g.remaining := by
  obtain ⟨_, -, -, hframe⟩ := Gateway.workerStep_served hW h hstep
  have hwork := hframe.work
  simp only [Gateway.remaining, Gateway.current, hwork]
  cases hw : g.worker with
  | getting =>
    rw [Gateway.workerStep, hw] at hstep
    cases hq : g.queue with
    | nil => simp only [hq] at hstep; cases hstep
    | cons n queue =>
      simp only [hq] at hstep
      cases hstep
      simp [Gateway.modifyWork]
      omega
  | taken n =>
    rw [Gateway.workerStep, hw] at hstep
    cases hstep
    simp
  | waited n =>
    rw [Gateway.workerStep, hw] at hstep
    simp only [h.opened, Bool.false_eq_true, if_false] at hstep
    cases hstep
    simp
  | executing n index rest values =>
    cases rest with
    | nil =>
      rw [Gateway.workerStep, hw] at hstep
      cases hstep
      simp
    | cons c rest =>
      rw [Gateway.workerStep, hw] at hstep
      obtain ⟨r, x, hrun⟩ : ∃ r x, g.owner.executor.runCommand W index c = (r, x) := ⟨_, _, rfl⟩
      simp only [hrun] at hstep
      cases r <;> cases hstep <;> simp
  | completing n outcome =>
    rw [Gateway.workerStep, hw] at hstep
    have hphase := h.phase
    rw [hw] at hphase
    simp only [after_eq_getting hphase.2.2] at hstep
    cases hstep
    simp [Gateway.modifyWork]
  | dead =>
    rw [Gateway.workerStep, hw] at hstep
    cases hstep

omit [DecidableEq ι] in
/-- Unless the worker has nothing left to do, it makes a step. -/
theorem workerStep_enabled (W : World σ) (h : g.Served xs finished) :
    (g.worker = .getting ∧ g.queue = []) ∨ ∃ g' es', g.workerStep W = some (g', es') := by
  have hphase := h.phase
  cases hw : g.worker with
  | getting =>
    cases hq : g.queue with
    | nil => exact .inl ⟨rfl, rfl⟩
    | cons n queue =>
      right
      rw [Gateway.workerStep, hw]
      simp only [hq]
      exact ⟨_, _, rfl⟩
  | executing n index rest values =>
    right
    rw [Gateway.workerStep, hw]
    cases rest with
    | nil => exact ⟨_, _, rfl⟩
    | cons c rest => exact ⟨_, _, rfl⟩
  | dead => rw [hw] at hphase; exact hphase.elim
  | _ =>
    right
    rw [Gateway.workerStep, hw]
    exact ⟨_, _, rfl⟩

omit [DecidableEq ι] in
/-- When the worker has nothing left to do, it has finished every work. -/
theorem served_all (h : g.Served xs finished) (hw : g.worker = .getting) (hq : g.queue = []) :
    g.nextWork = finished := by
  have hphase := h.phase
  rw [hw] at hphase
  obtain ⟨hle, -, hqueue⟩ := hphase
  rw [hq, eq_comm, List.range'_eq_nil_iff] at hqueue
  omega

/-- The worker alone finishes every work in the queue. -/
theorem Inv.drain (hW : W.Raises) {es : List (GatewayEvent ι)} (h : Inv g es finished) :
    ∃ n g' es', (Gateway.system W).run (List.replicate n .work) g = some (g', es') ∧
      ∃ finished', Inv g' (es ++ es') finished' ∧ g'.nextWork = finished' := by
  obtain ⟨n, g', es', hrun, ⟨finished', hinv⟩, hw, hq⟩ :=
    Runs.System.reaches (M := Gateway.system W) Gateway.remaining
      (fun g => g.worker = .getting ∧ g.queue = []) (P := fun g es => ∃ finished, Inv g es finished)
      .work
      (fun _ _ _ _ ⟨_, hinv⟩ hstep => hinv.work hW hstep)
      (fun g _ ⟨_, hinv⟩ => by
        rcases workerStep_enabled W hinv.served with hidle | ⟨g', es', hstep⟩
        · exact .inl hidle
        · exact .inr ⟨g', es', hstep, workerStep_remaining hW hinv.served hstep⟩)
      ⟨finished, h⟩
  exact ⟨n, g', es', hrun, finished', hinv, served_all hinv.served hw hq⟩

/-! ## One work -/

/-- The same gateway with other states of the worker and the executor. -/
def Gateway.moved (g : Gateway σ ι) (worker : Worker) (x : DirectExecutor σ) : Gateway σ ι :=
  { g with worker := worker, owner := { g.owner with executor := x } }

/-- The worker alone gets from one state of the gateway to another. -/
def Works (W : World σ) (g t : Gateway σ ι) : Prop :=
  ∃ k es, (Gateway.system W).run (List.replicate k .work) g = some (t, es)

theorem Works.refl (W : World σ) (g : Gateway σ ι) : Works W g g := ⟨0, [], rfl⟩

theorem Works.head {t : Gateway σ ι} (g' : Gateway σ ι) (es : List (GatewayEvent ι))
    (hstep : g.workerStep W = some (g', es)) (h : Works W g' t) : Works W g t := by
  obtain ⟨k, es', hrun⟩ := h
  exact ⟨k + 1, es ++ es', Runs.System.run_cons (a := Label.work) hstep hrun⟩

theorem Works.trans {t : Gateway σ ι} (h : Works W g g') (h' : Works W g' t) : Works W g t := by
  obtain ⟨k, es, hrun⟩ := h
  obtain ⟨k', es', hrun'⟩ := h'
  exact ⟨k + k', es ++ es', List.replicate_add .. ▸ Runs.System.run_append hrun hrun'⟩

/-- The loop of `execute`, when no other thread comes in between. -/
theorem executing_works (W : World σ) (g : Gateway σ ι) (n : ℕ) (rest : List Command) :
    ∀ index values (x : DirectExecutor σ), Works W (g.moved (.executing n index rest values) x)
      (g.moved (.completing n ((x.runFrom W index rest).1.map (⟨values ++ ·⟩)))
        (x.runFrom W index rest).2) := by
  induction rest with
  | nil =>
    intro index values x
    refine .head (g.moved (.completing n (.ok ⟨values⟩)) x) [] rfl ?_
    simp only [DirectExecutor.runFrom, Except.map, List.append_nil]
    exact .refl W _
  | cons c rest ih =>
    intro index values x
    rw [DirectExecutor.runFrom]
    obtain ⟨r, x', hrun⟩ : ∃ r x', x.runCommand W index c = (r, x') := ⟨_, _, rfl⟩
    cases r with
    | error e =>
      refine .head (g.moved (.completing n (.error e)) x')
        [.executed ⟨n, c, x.settings, .error e⟩] ?_ ?_
      · simp only [Gateway.workerStep, Gateway.moved, hrun]
      · rw [hrun]
        exact .refl W _
    | ok v =>
      refine .head (g.moved (.executing n (index + 1) rest (values ++ [v])) x')
        [.executed ⟨n, c, x.settings, .ok v⟩] ?_ ?_
      · simp only [Gateway.workerStep, Gateway.moved, hrun]
      · have hrest := ih (index + 1) (values ++ [v]) x'
        rw [hrun]
        obtain ⟨r', x'', hr⟩ : ∃ r' x'', x'.runFrom W (index + 1) rest = (r', x'') := ⟨_, _, rfl⟩
        simp only [hr] at hrest ⊢
        cases r' with
        | error e => exact hrest
        | ok vs => simpa [Except.map] using hrest

/-- The call of the executor. -/
theorem waited_works (W : World σ) (g : Gateway σ ι) (n : ℕ) (x : DirectExecutor σ) :
    let y : DirectExecutor σ := { x with settings := (g.works n).work.settings }
    Works W (g.moved (.waited n) x)
      (g.moved (.completing n (y.execute W (g.works n).work.batch).1)
        (y.execute W (g.works n).work.batch).2) := by
  intro y
  unfold DirectExecutor.execute
  by_cases hclosed : y.closed
  · refine .head (g.moved (.completing n
      (.error (.msg .spd3000ConnectionError "Executor is closed"))) y) [] ?_ ?_
    · have hx : x.closed = true := hclosed
      simp [Gateway.workerStep, Gateway.moved, hx, y]
    · simp only [hclosed, if_true]
      exact .refl W _
  · refine .head (g.moved (.executing n 0 (g.works n).work.batch.commands []) y) [] ?_ ?_
    · have hx : x.closed = false := Bool.eq_false_iff.2 hclosed
      simp [Gateway.workerStep, Gateway.moved, hx, y]
    · rw [if_neg hclosed]
      exact executing_works W g n _ 0 [] y

/-- Without other threads in between, the steps of the worker for a work are `runWork`. -/
theorem work_works (W : World σ) {n : ℕ} {queue : List ℕ} (hw : g.worker = .getting)
    (hq : g.queue = n :: queue)
    (hexception : ∀ e, (g.owner.runWork W (g.works n).work).1 = .error e → e.isinstance .exception) :
    ∃ g', Works W g g' ∧ g'.worker = .getting ∧ g'.queue = queue ∧ g'.handlers = g.handlers ∧
      g'.owner = (g.owner.runWork W (g.works n).work).2 ∧
      g'.works n = (g.works n).begin.complete (g.owner.runWork W (g.works n).work).1 := by
  let o : PhysicalOwner σ := { g.owner with executor :=
    { g.owner.executor with world := W.idle g.owner.executor.world } }
  let g₁ : Gateway σ ι := { g with
    queue := queue
    owner := o.waitForInterval W (g.works n).work.settings
    works := Function.update g.works n (g.works n).begin }
  have hself : g₁.works n = (g.works n).begin := Function.update_self ..
  have hwaited : Works W g (g₁.moved (.waited n) g₁.owner.executor) := by
    refine .head { g₁ with worker := .taken n, owner := o } [] ?_ ?_
    · rw [Gateway.workerStep, hw]
      simp only [hq]
      rfl
    · refine .head _ [] ?_ (.refl W _)
      show some (_, _) = some (_, _)
      rw [hself]
      rfl
  have hexecuted := waited_works W g₁ n g₁.owner.executor
  rw [hself] at hexecuted
  refine ⟨_, (hwaited.trans hexecuted).trans (.head _ _ rfl (.refl W _)), ?_, rfl, rfl, ?_, ?_⟩
  · exact after_eq_getting hexception
  · show PhysicalOwner.finish W (g₁.works n).work.settings _ = _
    rw [hself]
    rfl
  · show Function.update g₁.works n _ n = _
    rw [Function.update_self]
    show SubmittedWork.complete _ (g₁.works n) = _
    rw [hself]
    rfl

/-- **Non-interleaving and exactly-once execution.** -/
theorem history_serial (hW : W.Raises) {x : DirectExecutor σ} (hx : x.closed = false)
    {ls : List (Label σ ι)} {es : List (GatewayEvent ι)}
    (h : (Gateway.system W).run ls (.start x) = some (g, es)) :
    Serial es ∧ ∃ n g' es', (Gateway.system W).run (List.replicate n .work) g = some (g', es') ∧
      ∀ s ∈ submissions es, ∃ outcome,
        Completed s.work.batch.commands (executionsOf s.id (executions (es ++ es'))) outcome ∧
        (g'.works s.id).done = true ∧ (g'.works s.id).outcome = handedOutcome outcome := by
  obtain ⟨finished, hinv⟩ := inv_run hW hx h
  obtain ⟨n, g', es', hrun, finished', hinv', hall⟩ := hinv.drain hW
  refine ⟨hinv.serial, n, g', es', hrun, fun s hs => ?_⟩
  obtain ⟨hlt, hwork⟩ := hinv'.submission (s := s) (by simp [hs])
  obtain ⟨hdone, outcome, hcompleted, houtcome⟩ := hinv'.served.done s.id (hall ▸ hlt)
  rw [hwork] at hcompleted
  exact ⟨outcome, hcompleted, hdone, houtcome⟩

end

/-! ## Two clients -/

def askMeasured : CommandBatch := ⟨[.query ⟨"MEAS:VOLT? CH1", by decide⟩], List.cons_ne_nil _ _⟩

/-- Two clients submit; the second one vanishes before the worker has reached its batch. -/
def twoClients : List (Label ℚ Bool) :=
  [.accept true .default, .accept false .default, .submit true askMeasured, .work,
    .submit false askMeasured, .timeout true, .look true, .heartbeat true, .disconnect false] ++
    List.replicate 11 .work ++ [.handBack true, .handBack false]

theorem tickingWorld_raises : tickingWorld.Raises where
  write _ _ _ _ h := by cases h
  read _ _ _ h := by cases h

theorem history_serial_two_clients : ∃ g es,
    (@Gateway.system _ _ PyText.blank tickingWorld _).run twoClients
      (.start ⟨.default, none, false, 0⟩) = some (g, es) ∧
      @Serial _ _ PyText.blank es ∧ (submissions es).length = 2 := by
  let _ : PyText := PyText.blank
  have hlength : ((Gateway.system tickingWorld).run twoClients
      (.start ⟨.default, none, false, 0⟩)).map (fun p => (submissions p.2).length) = some 2 := rfl
  obtain ⟨⟨g, es⟩, hrun, hlength⟩ := Option.map_eq_some_iff.1 hlength
  exact ⟨g, es, hrun, (history_serial tickingWorld_raises rfl hrun).1, hlength⟩

end Spd3000
