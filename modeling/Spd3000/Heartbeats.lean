/-
  What the heartbeats of a gateway tell (`_PhysicalOwner.execute` and `_run` of
  `gateway/server.py`).

  `Seen` is the protocol that a connection sees, as a judgment on histories:
  after a submission come heartbeats with the state `queued`, then heartbeats
  with the state `executing`, then the batch is handed back.  A handler reads
  the state before it sends it, and the worker may go on in between; what the
  state says about the worker holds when it is read.  `Beating` ties the states
  of the works to the queue; every step keeps it, so every history follows the
  protocol.
-/
import Spd3000.ExactlyOnce

namespace Spd3000

variable {σ ι : Type} [DecidableEq ι]

/-! ## The protocol -/

/-- Where a connection is: before its handshake, between two batches, with a batch that is
    pending, and told to be executing or not, or about to be told so. -/
inductive Dialogue where
  | new
  | idle
  | pending (work : ℕ) (executing : Bool)
  | telling (work : ℕ) (executing : Bool)

/-- The state of a work that is executing, or still queued. -/
def stateOf (executing : Bool) : PyStr := if executing then "executing" else "queued"

/-- The connection that an event belongs to; executions belong to the worker. -/
def GatewayEvent.connection : GatewayEvent ι → Option ι
  | .accepted c _ | .looked c _ | .heartbeat c _ | .handedBack c _ _ => some c
  | .submitted s => some s.connection
  | .executed _ => none

section
variable [PyText]

/-- Every batch that has entered the queue before work `n` has been completed. -/
def AllBefore (n : ℕ) (es : List (GatewayEvent ι)) : Prop :=
  ∀ s ∈ submissions es, s.id < n → ∃ outcome,
    Completed s.work.batch.commands (executionsOf s.id (executions es)) outcome

/-- The histories that a connection may see, and where they leave it. -/
inductive Seen (c : ι) : List (GatewayEvent ι) → Dialogue → Prop
  | start : Seen c [] .new
  | foreign {es d e} : Seen c es d → e.connection ≠ some c → Seen c (es ++ [e]) d
  | accepted {es} (settings : ExecutionSettings) : Seen c es .new →
      Seen c (es ++ [.accepted c settings]) .idle
  | submitted {es} (n : ℕ) (work : Work) : Seen c es .idle →
      Seen c (es ++ [.submitted ⟨c, n, work⟩]) (.pending n false)
  /-- No command of the batch has reached the executor. -/
  | queued {es n} : Seen c es (.pending n false) → executionsOf n (executions es) = [] →
      Seen c (es ++ [.looked c (stateOf false)]) (.telling n false)
  /-- The worker has finished with all batches before this one. -/
  | executing {es n b} : Seen c es (.pending n b) → AllBefore n es →
      Seen c (es ++ [.looked c (stateOf true)]) (.telling n true)
  /-- The state that has been read is sent. -/
  | told {es n b} : Seen c es (.telling n b) →
      Seen c (es ++ [.heartbeat c (stateOf b)]) (.pending n b)
  | handedBack {es n b} (outcome : Except PyExc BatchResult) : Seen c es (.pending n b) →
      Seen c (es ++ [.handedBack c n outcome]) .idle

omit [DecidableEq ι] [PyText] in
theorem Seen.executions {c : ι} {es es' : List (GatewayEvent ι)} {d : Dialogue}
    (h : Seen c es d) (hes' : ∀ e ∈ es', ∃ x, e = .executed x) : Seen c (es ++ es') d := by
  induction es' generalizing es with
  | nil => rwa [List.append_nil]
  | cons e es' ih =>
    obtain ⟨x, rfl⟩ := hes' e List.mem_cons_self
    rw [List.append_cons]
    refine ih (h.foreign ?_) fun e he => hes' e (List.mem_cons_of_mem _ he)
    exact nofun

omit [DecidableEq ι] [PyText] in
theorem Seen.other {c c' : ι} {es : List (GatewayEvent ι)} {d : Dialogue} {e : GatewayEvent ι}
    (h : Seen c' es d) (he : e.connection = some c) (hc : c' ≠ c) : Seen c' (es ++ [e]) d :=
  h.foreign fun he' => hc (Option.some.inj (he'.symm.trans he))

/-! ## States of works -/

/-- What the state of a handler says about the history of its connection and its work. -/
def Gateway.Speaks (g : Gateway σ ι) (es : List (GatewayEvent ι)) (c : ι) : Handler → Prop
  | .new => Seen c es .new
  | .idle _ => Seen c es .idle
  | .waiting _ n _ | .beating _ n _ => n < g.nextWork ∧ ∃ b, Seen c es (.pending n b) ∧
      (b = true → (g.works n).state = lit "executing")
  | .sending _ n _ state => n < g.nextWork ∧ ∃ b, Seen c es (.telling n b) ∧
      state = stateOf b ∧ (b = true → (g.works n).state = lit "executing")
  | .ended => ∃ d, Seen c es d

/-- The works that have left the queue are executing or have been executed, the others are
    queued. -/
structure Beating (g : Gateway σ ι) (es : List (GatewayEvent ι)) (finished : ℕ) : Prop where
  inv : Inv g es finished
  executing : ∀ n, n + g.queue.length < g.nextWork → (g.works n).state = lit "executing"
  queued : ∀ n < g.nextWork, g.nextWork ≤ n + g.queue.length → (g.works n).state = lit "queued"
  speaks : ∀ c, g.Speaks es c (g.handlers c)

omit [DecidableEq ι] in
/-- The queue holds the works that the worker has not taken. -/
theorem Gateway.Served.queue {g : Gateway σ ι} {xs : List Execution} {finished : ℕ}
    (h : g.Served xs finished) : finished + g.queue.length ≤ g.nextWork ∧
      g.nextWork ≤ finished + 1 + g.queue.length ∧
      ∀ x ∈ xs, x.work + g.queue.length < g.nextWork := by
  have hphase := h.phase
  have hbusy : ∀ n, g.Busy n finished → finished + g.queue.length < g.nextWork ∧
      g.nextWork ≤ finished + 1 + g.queue.length := by
    rintro n ⟨rfl, hn, hqueue⟩
    rw [hqueue, List.length_range']
    omega
  have hdone : finished + g.queue.length < g.nextWork ∧ g.nextWork ≤ finished + 1 + g.queue.length →
      finished + g.queue.length ≤ g.nextWork ∧ g.nextWork ≤ finished + 1 + g.queue.length ∧
        ∀ x ∈ xs, x.work + g.queue.length < g.nextWork := fun hq =>
    ⟨hq.1.le, hq.2, fun x hx => (Nat.add_le_add_right (h.bounded x hx) _).trans_lt hq.1⟩
  cases hw : g.worker with
  | getting =>
    rw [hw] at hphase
    obtain ⟨hle, hnil, hqueue⟩ := hphase
    rw [hqueue, List.length_range']
    refine ⟨by omega, by omega, fun x hx => ?_⟩
    have hne : x.work ≠ finished := by
      intro he
      have hmem : x ∈ executionsOf finished xs := List.mem_filter.2 ⟨hx, by simp [he]⟩
      rw [hnil] at hmem
      cases hmem
    have hbound := h.bounded x hx
    omega
  | taken n => rw [hw] at hphase; exact hdone (hbusy n hphase.1)
  | waited n => rw [hw] at hphase; exact hdone (hbusy n hphase.1)
  | executing n _ _ _ => rw [hw] at hphase; exact hdone (hbusy n hphase.1)
  | completing n _ => rw [hw] at hphase; exact hdone (hbusy n hphase.1)
  | dead => rw [hw] at hphase; exact hphase.elim

variable {g g' : Gateway σ ι} {es es' : List (GatewayEvent ι)} {finished : ℕ}

omit [DecidableEq ι] [PyText] in
/-- Events of others do not change what a handler waits for. -/
theorem Gateway.Speaks.append {c : ι} {h : Handler} (hs : g.Speaks es c h)
    (hes' : ∀ d, Seen c es d → Seen c (es ++ es') d) (hnext : g.nextWork ≤ g'.nextWork)
    (hstate : ∀ n < g.nextWork, (g.works n).state = lit "executing" →
      (g'.works n).state = lit "executing") : g'.Speaks (es ++ es') c h := by
  cases h with
  | new => exact hes' _ hs
  | idle session => exact hes' _ hs
  | waiting session n connected | beating session n connected =>
    obtain ⟨hn, b, hb, hexecuting⟩ := hs
    exact ⟨hn.trans_le hnext, b, hes' _ hb, fun h => hstate n hn (hexecuting h)⟩
  | sending session n connected state =>
    obtain ⟨hn, b, hb, htold, hexecuting⟩ := hs
    exact ⟨hn.trans_le hnext, b, hes' _ hb, htold, fun h => hstate n hn (hexecuting h)⟩
  | ended =>
    obtain ⟨d, hd⟩ := hs
    exact ⟨d, hes' d hd⟩

omit [DecidableEq ι] in
theorem SubmittedWork.complete_state (w : SubmittedWork) (outcome : Except PyExc BatchResult) :
    (w.complete outcome).state = w.state := by
  unfold SubmittedWork.complete
  cases outcome with
  | ok _ => rfl
  | error e =>
    dsimp only
    split_ifs <;> rfl

omit [DecidableEq ι] in
/-- A step of the worker takes the next work from the queue, or leaves the states alone. -/
theorem Gateway.workerStep_states {W : World σ} (hstep : g.workerStep W = some (g', es')) :
    (g'.queue = g.queue ∧ ∀ n, (g'.works n).state = (g.works n).state) ∨
    ∃ n, g.worker = .getting ∧ g.queue = n :: g'.queue ∧
      g'.works = Function.update g.works n (g.works n).begin := by
  rw [Gateway.workerStep] at hstep
  cases hw : g.worker with
  | getting =>
    rw [hw] at hstep
    dsimp only at hstep
    cases hq : g.queue with
    | nil => rw [hq] at hstep; cases hstep
    | cons n queue =>
      rw [hq] at hstep
      cases hstep
      exact .inr ⟨n, rfl, rfl, rfl⟩
  | taken n | waited n =>
    rw [hw] at hstep
    cases hstep
    exact .inl ⟨rfl, fun _ => rfl⟩
  | executing n index rest values =>
    rw [hw] at hstep
    cases rest with
    | nil | cons c rest =>
      cases hstep
      exact .inl ⟨rfl, fun _ => rfl⟩
  | completing n outcome =>
    rw [hw] at hstep
    cases hstep
    refine .inl ⟨rfl, fun m => ?_⟩
    show (Function.update g.works n ((g.works n).complete outcome) m).state = _
    by_cases hm : m = n
    · subst hm
      rw [Function.update_self, SubmittedWork.complete_state]
    · rw [Function.update_of_ne hm]
  | dead => rw [hw] at hstep; cases hstep

namespace Beating

theorem work {W : World σ} (hW : W.Raises) (h : Beating g es finished)
    (hstep : g.workerStep W = some (g', es')) :
    ∃ finished', Beating g' (es ++ es') finished' := by
  obtain ⟨finished₁, -, -, hframe⟩ := Gateway.workerStep_served hW h.inv.served hstep
  obtain ⟨finished', hinv⟩ := h.inv.work hW hstep
  have hspeaks : (∀ n < g.nextWork, (g.works n).state = lit "executing" →
      (g'.works n).state = lit "executing") → ∀ c, g'.Speaks (es ++ es') c (g'.handlers c) := by
    intro hstate c
    rw [hframe.handlers]
    exact (h.speaks c).append (fun _ hd => hd.executions hframe.events) hframe.nextWork.ge hstate
  refine ⟨finished', ?_⟩
  rcases Gateway.workerStep_states hstep with ⟨hqueue, hstates⟩ | ⟨n, hgetting, hqueue, hworks⟩
  · refine ⟨hinv, fun m hm => ?_, fun m hm hq => ?_, hspeaks fun m _ hm => (hstates m).trans hm⟩
    · rw [hqueue, hframe.nextWork] at hm
      exact (hstates m).trans (h.executing m hm)
    · rw [hframe.nextWork] at hm hq
      rw [hqueue] at hq
      exact (hstates m).trans (h.queued m hm hq)
  · -- the worker takes the first work of the queue, which is the work `finished`
    have hphase := h.inv.served.phase
    rw [hgetting] at hphase
    obtain ⟨-, -, hrange⟩ := hphase
    have hlength := congrArg List.length (hqueue.symm.trans hrange)
    rw [List.length_cons, List.length_range'] at hlength
    obtain rfl : n = finished := by
      rw [hqueue] at hrange
      obtain ⟨k, hk⟩ : ∃ k, g.nextWork - finished = k + 1 := ⟨_, hlength.symm⟩
      rw [hk, List.range'_succ, List.cons.injEq] at hrange
      exact hrange.1
    have hlong : g.queue.length = g'.queue.length + 1 := by rw [hqueue, List.length_cons]
    have hself : (g'.works n).state = lit "executing" := by
      rw [hworks, Function.update_self]
      rfl
    have hother : ∀ m, m ≠ n → (g'.works m).state = (g.works m).state := by
      intro m hm
      rw [hworks, Function.update_of_ne hm]
    refine ⟨hinv, fun m hm => ?_, fun m hm hq => ?_, hspeaks fun m _ hm => ?_⟩
    · rw [hframe.nextWork] at hm
      by_cases hmn : m = n
      · rw [hmn]
        exact hself
      · exact (hother m hmn).trans (h.executing m (by omega))
    · rw [hframe.nextWork] at hm hq
      exact (hother m (by omega)).trans (h.queued m hm (by omega))
    · by_cases hmn : m = n
      · rw [hmn]
        exact hself
      · exact (hother m hmn).trans hm

/-- A step of a handler that leaves the works and the queue alone. -/
theorem handler (h : Beating g es finished) {c : ι} {hd : Handler} (hinv : Inv
      (g.setHandler c hd) (es ++ es') finished) (hself : g.Speaks (es ++ es') c hd)
    (hforeign : ∀ c' ≠ c, ∀ d, Seen c' es d → Seen c' (es ++ es') d) :
    Beating (g.setHandler c hd) (es ++ es') finished := by
  refine ⟨hinv, h.executing, h.queued, fun c' => ?_⟩
  by_cases hcc : c' = c
  · subst hcc
    show g.Speaks (es ++ es') c' (Function.update g.handlers c' hd c')
    rw [Function.update_self]
    exact hself
  · show g.Speaks (es ++ es') c' (Function.update g.handlers c hd c')
    rw [Function.update_of_ne hcc]
    exact (h.speaks c').append (hforeign c' hcc) le_rfl fun _ _ => id

/-- A step of a handler that is no event. -/
theorem silent (h : Beating g es finished) {c : ι} (hd : Handler)
    (hstate : HandlerState es c hd) (hself : g.Speaks es c hd) :
    Beating (g.setHandler c hd) (es ++ []) finished := by
  refine h.handler (h.inv.handler hd hstate) ?_ fun c' _ d hd => ?_
  · rwa [List.append_nil]
  · rwa [List.append_nil]

theorem accept (h : Beating g es finished) {c : ι} (hc : g.handlers c = .new)
    (settings : ExecutionSettings) :
    Beating (g.setHandler c (.idle ⟨settings⟩)) (es ++ [.accepted c settings]) finished := by
  have hnew : g.Speaks es c .new := hc ▸ h.speaks c
  exact h.handler (h.inv.accept hc settings) (.accepted settings hnew)
    fun _ hcc _ hd => hd.other rfl hcc

theorem submit (h : Beating g es finished) {c : ι} {session : Session}
    (hc : g.handlers c = .idle session) (batch : CommandBatch) :
    Beating (g.submit c session batch).1 (es ++ (g.submit c session batch).2) finished := by
  have hidle : g.Speaks es c (.idle session) := hc ▸ h.speaks c
  have hold : ∀ n ≠ g.nextWork, (g.submit c session batch).1.works n = g.works n :=
    fun n hn => Function.update_of_ne hn ..
  have hnew : (g.submit c session batch).1.works g.nextWork = .new ⟨batch, session.settings⟩ :=
    Function.update_self ..
  have hlength : (g.submit c session batch).1.queue.length = g.queue.length + 1 :=
    List.length_append
  have hnext : (g.submit c session batch).1.nextWork = g.nextWork + 1 := rfl
  have hqueue := h.inv.served.queue
  refine ⟨h.inv.submit hc batch, fun n hn => ?_, fun n hn hq => ?_, fun c' => ?_⟩
  · rw [hlength, hnext] at hn
    rw [hold n (by omega)]
    exact h.executing n (by omega)
  · rw [hlength, hnext] at hq
    by_cases hlast : n = g.nextWork
    · rw [hlast, hnew]
      rfl
    · rw [hold n hlast]
      exact h.queued n (by omega) (by omega)
  · by_cases hcc : c' = c
    · subst hcc
      have hself : (g.submit c' session batch).1.handlers c' = .waiting session g.nextWork true :=
        Function.update_self ..
      rw [hself]
      exact ⟨Nat.lt_succ_self _, false, .submitted _ _ hidle, nofun⟩
    · have hother : (g.submit c session batch).1.handlers c' = g.handlers c' :=
        Function.update_of_ne hcc ..
      rw [hother]
      refine (h.speaks c').append (fun d hd => hd.other rfl hcc) (Nat.le_succ _) fun n hn hs => ?_
      rw [hold n hn.ne]
      exact hs

/-- What the worker has done when a handler looks at the state of its work. -/
theorem states (h : Beating g es finished) {n : ℕ} (hn : n < g.nextWork) :
    (g.works n).state = lit "queued" ∧ executionsOf n (executions es) = [] ∨
      (g.works n).state = lit "executing" ∧ AllBefore n es := by
  obtain ⟨hfinished, hnext, htaken⟩ := h.inv.served.queue
  by_cases hq : n + g.queue.length < g.nextWork
  · refine .inr ⟨h.executing n hq, fun s hs hlt => ?_⟩
    obtain ⟨-, outcome, hcompleted, -⟩ := h.inv.served.done s.id (by omega)
    rw [(h.inv.submission hs).2] at hcompleted
    exact ⟨outcome, hcompleted⟩
  · refine .inl ⟨h.queued n hn (not_lt.1 hq), List.filter_eq_nil_iff.2 fun x hx hxn => hq ?_⟩
    rw [← of_decide_eq_true hxn]
    exact htaken x hx

theorem look (h : Beating g es finished) {c : ι} {session : Session} {n : ℕ}
    {connected : Bool} (hc : g.handlers c = .beating session n connected) :
    Beating (g.setHandler c (.sending session n connected (g.works n).state))
      (es ++ [.looked c (g.works n).state]) finished := by
  have hstate : HandlerState es c (.beating session n connected) := hc ▸ h.inv.handlers c
  obtain ⟨hn, b, hb, hexecuting⟩ : g.Speaks es c (.beating session n connected) := hc ▸ h.speaks c
  have hinv := h.inv.handler (.sending session n connected (g.works n).state) hstate
  rw [List.append_nil] at hinv
  refine h.handler (hinv.looked c _) ⟨hn, ?_⟩ fun _ hcc _ hd => hd.other rfl hcc
  rcases h.states hn with ⟨hs, hnone⟩ | ⟨hs, hbefore⟩
  · rw [hs]
    cases b with
    | false => exact ⟨false, .queued hb hnone, rfl, nofun⟩
    | true => exact absurd (hs.symm.trans (hexecuting rfl)) (by decide)
  · rw [hs]
    exact ⟨true, .executing hb hbefore, rfl, fun _ => rfl⟩

theorem heartbeat (h : Beating g es finished) {c : ι} {session : Session} {n : ℕ}
    {connected : Bool} {state : PyStr} (hc : g.handlers c = .sending session n connected state) :
    Beating (g.setHandler c (.waiting session n connected)) (es ++ [.heartbeat c state])
      finished := by
  have hstate : HandlerState es c (.sending session n connected state) := hc ▸ h.inv.handlers c
  obtain ⟨hn, b, hb, rfl, hexecuting⟩ : g.Speaks es c (.sending session n connected state) :=
    hc ▸ h.speaks c
  have hinv := h.inv.handler (.waiting session n connected) hstate
  rw [List.append_nil] at hinv
  exact h.handler (hinv.heartbeat c _) ⟨hn, b, hb.told, hexecuting⟩
    fun _ hcc _ hd => hd.other rfl hcc

theorem handBack (h : Beating g es finished) {c : ι} {session : Session} {n : ℕ} {connected : Bool}
    (hc : g.handlers c = .waiting session n connected) (hdone : (g.works n).done = true) :
    Beating (g.setHandler c (if connected then .idle session else .ended))
      (es ++ [.handedBack c n (g.works n).outcome]) finished := by
  obtain ⟨-, b, hb, -⟩ : g.Speaks es c (.waiting session n connected) := hc ▸ h.speaks c
  have hback := hb.handedBack (g.works n).outcome
  refine h.handler (h.inv.handBack hc hdone) ?_ fun _ hcc _ hd => hd.other rfl hcc
  cases connected with
  | true => exact hback
  | false => exact ⟨_, hback⟩

/-- Every step of the gateway keeps the invariant. -/
theorem step {W : World σ} (hW : W.Raises) {l : Label σ ι} (h : Beating g es finished)
    (hstep : g.step W l = some (g', es')) : ∃ finished', Beating g' (es ++ es') finished' := by
  cases l with
  | accept c settings =>
    cases hc : g.handlers c with
    | new =>
      simp only [Gateway.step, hc] at hstep
      cases hstep
      exact ⟨finished, h.accept hc settings⟩
    | _ => simp [Gateway.step, hc] at hstep
  | submit c batch =>
    cases hc : g.handlers c with
    | idle session =>
      simp only [Gateway.step, hc] at hstep
      cases hstep
      exact ⟨finished, h.submit hc batch⟩
    | _ => simp [Gateway.step, hc] at hstep
  | timeout c =>
    have hstate := h.inv.handlers c
    have hspeaks := h.speaks c
    cases hc : g.handlers c with
    | waiting session n connected =>
      simp only [Gateway.step, hc] at hstep
      split_ifs at hstep
      cases hstep
      rw [hc] at hstate hspeaks
      exact ⟨finished, h.silent _ hstate hspeaks⟩
    | _ => simp [Gateway.step, hc] at hstep
  | look c =>
    cases hc : g.handlers c with
    | beating session n connected =>
      simp only [Gateway.step, hc] at hstep
      cases hstep
      exact ⟨finished, h.look hc⟩
    | _ => simp [Gateway.step, hc] at hstep
  | heartbeat c =>
    cases hc : g.handlers c with
    | sending session n connected state =>
      simp only [Gateway.step, hc] at hstep
      cases hstep
      exact ⟨finished, h.heartbeat hc⟩
    | _ => simp [Gateway.step, hc] at hstep
  | disconnect c =>
    have hstate := h.inv.handlers c
    have hspeaks := h.speaks c
    simp only [Gateway.step] at hstep
    cases hc : g.handlers c with
    | waiting session n connected =>
      rw [hc] at hstep hstate hspeaks
      cases hstep
      exact ⟨finished, h.silent (.waiting session n false) hstate hspeaks⟩
    | beating session n connected =>
      rw [hc] at hstep hstate hspeaks
      cases hstep
      exact ⟨finished, h.silent (.beating session n false) hstate hspeaks⟩
    | sending session n connected state =>
      rw [hc] at hstep hstate hspeaks
      cases hstep
      exact ⟨finished, h.silent (.sending session n false state) hstate hspeaks⟩
    | new =>
      rw [hc] at hstep hstate hspeaks
      cases hstep
      exact ⟨finished, h.silent _ hstate.2 ⟨_, hspeaks⟩⟩
    | idle session =>
      rw [hc] at hstep hstate hspeaks
      cases hstep
      exact ⟨finished, h.silent _ hstate.2 ⟨_, hspeaks⟩⟩
    | ended =>
      rw [hc] at hstep hstate hspeaks
      cases hstep
      exact ⟨finished, h.silent _ hstate hspeaks⟩
  | handBack c =>
    cases hc : g.handlers c with
    | waiting session n connected =>
      simp only [Gateway.step, hc] at hstep
      by_cases hdone : (g.works n).done
      · rw [if_pos hdone] at hstep
        cases hstep
        exact ⟨finished, h.handBack hc hdone⟩
      · rw [if_neg hdone] at hstep
        cases hstep
    | _ => simp [Gateway.step, hc] at hstep
  | work => exact h.work hW hstep
  | elapse f =>
    cases hstep
    refine ⟨finished, h.inv.elapse f, h.executing, h.queued, fun c => ?_⟩
    exact (h.speaks c).append (fun d hd => by rwa [List.append_nil]) le_rfl fun _ _ => id

theorem start {x : DirectExecutor σ} (hx : x.closed = false) :
    Beating (Gateway.start x : Gateway σ ι) [] 0 where
  inv := .start hx
  executing _ hn := absurd hn (Nat.not_lt_zero _)
  queued _ hn := absurd hn (Nat.not_lt_zero _)
  speaks _ := .start

end Beating

/-- Every heartbeat of a gateway tells what was true when its handler read it, and every
    connection sees submission, heartbeats with the state `queued`, heartbeats with the state
    `executing`, and the outcome, in this order. -/
theorem heartbeats_true {W : World σ} (hW : W.Raises) {x : DirectExecutor σ} (hx : x.closed = false)
    {ls : List (Label σ ι)} (h : (Gateway.system W).run ls (.start x) = some (g, es)) (c : ι) :
    ∃ d, Seen c es d := by
  obtain ⟨finished, hbeating⟩ := Runs.System.invariant (M := Gateway.system W)
    (P := fun g es => ∃ finished, Beating g es finished)
    (fun _ _ _ _ _ ⟨_, hb⟩ hstep => hb.step hW hstep) ⟨0, .start hx⟩ h
  have hspeaks := hbeating.speaks c
  cases hc : g.handlers c with
  | new => rw [hc] at hspeaks; exact ⟨_, hspeaks⟩
  | idle session => rw [hc] at hspeaks; exact ⟨_, hspeaks⟩
  | waiting session n connected =>
    rw [hc] at hspeaks
    obtain ⟨-, _, hb, -⟩ := hspeaks
    exact ⟨_, hb⟩
  | beating session n connected =>
    rw [hc] at hspeaks
    obtain ⟨-, _, hb, -⟩ := hspeaks
    exact ⟨_, hb⟩
  | sending session n connected state =>
    rw [hc] at hspeaks
    obtain ⟨-, _, hb, -⟩ := hspeaks
    exact ⟨_, hb⟩
  | ended => rw [hc] at hspeaks; exact hspeaks

end

/-- The worker executes the batch of the first client after its handler has read the state
    `queued` and before it sends it. -/
def lateHeartbeat : List (Label ℚ Bool) :=
  [.accept true .default, .accept false .default, .submit true askMeasured,
    .submit false askMeasured, .timeout true, .look true] ++ List.replicate 4 .work ++
    [.heartbeat true] ++ List.replicate 3 .work ++ [.timeout false, .look false, .heartbeat false] ++
    List.replicate 5 .work ++ [.handBack true, .handBack false]

theorem heartbeats_true_late : ∃ g es,
    (@Gateway.system _ _ PyText.blank tickingWorld _).run lateHeartbeat
      (.start ⟨.default, none, false, 0⟩) = some (g, es) ∧
      (∀ c, ∃ d, Seen c es d) ∧
      es.filterMap (fun
        | .executed x => some (Sum.inl x.work)
        | .heartbeat c state => some (.inr (c, state))
        | _ => none) =
        [.inl 0, .inr (true, lit "queued"), .inr (false, lit "executing"), .inl 1] := by
  let _ : PyText := PyText.blank
  have hbeats : ((Gateway.system tickingWorld).run lateHeartbeat
      (.start ⟨.default, none, false, 0⟩)).map (fun p => p.2.filterMap (fun
        | .executed x => some (Sum.inl x.work)
        | .heartbeat c state => some (.inr (c, state))
        | _ => none)) =
      some [.inl 0, .inr (true, lit "queued"), .inr (false, lit "executing"), .inl 1] := rfl
  obtain ⟨⟨g, es⟩, hrun, hbeats⟩ := Option.map_eq_some_iff.1 hbeats
  exact ⟨g, es, hrun, heartbeats_true tickingWorld_raises rfl hrun, hbeats⟩

end Spd3000
