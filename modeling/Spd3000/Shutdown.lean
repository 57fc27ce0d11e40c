/-
  Shutting down the owner of a gateway (`_PhysicalOwner.close`) while handler
  threads go on calling `execute`.

  `close` puts a marker into the queue, at which the worker ends.  `ClosingGateway`
  splits the queue there: the works before the marker are those of the gateway,
  the works after it are `late`.  Each work is settled, queued, in hand, or late
  (`Accounted`); a late one is never taken (`lost_work`).
-/
import Spd3000.ExactlyOnce
import Mathlib.Data.List.TakeWhile

namespace Spd3000

variable {σ ι : Type}

/-! ## Steps -/

/-- A gateway whose owner may have been closed. -/
structure ClosingGateway (σ ι : Type) where
  gateway : Gateway σ ι
  /-- The marker has been put into the queue. -/
  closing : Bool
  /-- The works in the queue after the marker. -/
  late : List ℕ
  /-- The worker has taken the marker and returned. -/
  returned : Bool

inductive ClosingLabel (σ ι : Type) where
  | gateway (l : Label σ ι)
  /-- `self._queue.put(None)` -/
  | putMarker
  /-- `self._executor.close()`, after the join or its timeout -/
  | closeExecutor
  /-- The worker takes the marker. -/
  | takeMarker

inductive ClosingEvent (ι : Type) where
  | gateway (e : GatewayEvent ι)
  | marked

namespace ClosingGateway

/-- The worker thread has ended: at the marker, or with an exception that is no `Exception`. -/
def WorkerEnded (s : ClosingGateway σ ι) : Prop := s.returned = true ∨ s.gateway.worker = .dead

def lift (s : ClosingGateway σ ι) (r : Option (Gateway σ ι × List (GatewayEvent ι))) :
    Option (ClosingGateway σ ι × List (ClosingEvent ι)) :=
  r.map fun p => ({ s with gateway := p.1 }, p.2.map .gateway)

section
variable [DecidableEq ι]

/-- A work that enters the queue. -/
def submit (c : ι) (session : Session) (batch : CommandBatch) (s : ClosingGateway σ ι) :
    ClosingGateway σ ι × List (ClosingEvent ι) :=
  let (g, es) := s.gateway.submit c session batch
  if s.closing then
    ({ s with gateway := { g with queue := s.gateway.queue }
              late := s.late ++ [s.gateway.nextWork] }, es.map .gateway)
  else ({ s with gateway := g }, es.map .gateway)

variable [PyText] (W : World σ)

def step (l : ClosingLabel σ ι) (s : ClosingGateway σ ι) :
    Option (ClosingGateway σ ι × List (ClosingEvent ι)) :=
  match l with
  | .gateway (.submit c batch) => match s.gateway.handlers c with
    | .idle session => some (s.submit c session batch)
    | _ => none
  | .gateway .work => if s.returned then none else s.lift (s.gateway.workerStep W)
  | .gateway l => s.lift (s.gateway.step W l)
  | .putMarker => if s.closing then none else some ({ s with closing := true }, [.marked])
  | .closeExecutor => match s.closing, s.gateway.worker with
    -- a batch holds the lock of the executor
    | false, _ | _, .executing .. => none
    | true, _ =>
      let x := { s.gateway.owner.executor with closed := true }
      some ({ s with gateway := { s.gateway with
        owner := { s.gateway.owner with executor := x } } }, [])
  | .takeMarker =>
    match s.closing && !s.returned, s.gateway.worker, s.gateway.queue with
    | true, .getting, [] => some ({ s with returned := true }, [])
    | _, _, _ => none

/-- The gateway up to and after its shutdown, as a labelled system. -/
def system : Runs.System (ClosingGateway σ ι) (ClosingLabel σ ι) (ClosingEvent ι) := ⟨step W⟩

end

def start (x : DirectExecutor σ) : ClosingGateway σ ι := ⟨.start x, false, [], false⟩

end ClosingGateway

/-! ## Settled works -/

/-- The done event of a work is set, with a result or an error. -/
def SubmittedWork.Settled (w : SubmittedWork) : Prop :=
  w.done = true ∧ (w.result.isSome ∨ w.error.isSome)

/-- All works that have been put into the queue are settled. -/
def Gateway.AllSettled (g : Gateway σ ι) : Prop := ∀ n < g.nextWork, (g.works n).Settled

def ClosingEvent.isMarked : ClosingEvent ι → Bool
  | marked => true
  | gateway _ => false

/-- The works put into the queue, in order. -/
def submittedIds (es : List (ClosingEvent ι)) : List ℕ :=
  es.filterMap fun | .gateway (.submitted s) => some s.id | _ => none

/-- The works put into the queue after the marker. -/
def lateSubmissions (es : List (ClosingEvent ι)) : List ℕ :=
  submittedIds (es.dropWhile fun e => !e.isMarked)

theorem lateSubmissions_append (es es' : List (ClosingEvent ι)) :
    lateSubmissions (es ++ es') = if es.any (·.isMarked) then lateSubmissions es ++ submittedIds es'
      else lateSubmissions es' := by
  induction es with
  | nil => rfl
  | cons e es ih =>
    cases he : e.isMarked with
    | true =>
      simp only [lateSubmissions, List.cons_append, List.dropWhile_cons, he, Bool.not_true,
        Bool.false_eq_true, if_false, List.any_cons, Bool.true_or, if_true]
      rw [← List.cons_append, submittedIds, List.filterMap_append]
      rfl
    | false =>
      simp only [lateSubmissions, List.cons_append, List.dropWhile_cons, he, Bool.not_false, if_true,
        List.any_cons, Bool.false_or]
      exact ih

theorem lateSubmissions_unmarked {es : List (ClosingEvent ι)} (h : es.any (·.isMarked) = false) :
    lateSubmissions es = [] := by
  have hdrop : (es.dropWhile fun e => !e.isMarked) = [] := by
    rw [List.dropWhile_eq_nil_iff]
    intro e he
    rw [List.any_eq_false] at h
    simpa using h e he
  rw [lateSubmissions, hdrop]
  rfl

/-- The work that the worker has in hand. -/
def Worker.work : Worker → Option ℕ
  | getting | dead => none
  | taken n | waited n | executing n _ _ _ | completing n _ => some n

/-- The worker will not die. -/
def Worker.Sound : Worker → Prop
  | completing _ (.error e) => e.isinstance .exception
  | dead => False
  | _ => True

/-- Each work is settled, in the queue, in the hand of the worker, or late, and late works are
    left alone. -/
structure Accounted (s : ClosingGateway σ ι) : Prop where
  place : ∀ n < s.gateway.nextWork, (s.gateway.works n).Settled ∨ n ∈ s.gateway.queue ∨
    s.gateway.worker.work = some n ∨ n ∈ s.late
  sound : s.gateway.worker.Sound
  queued : ∀ n ∈ s.gateway.queue, n < s.gateway.nextWork ∧ n ∉ s.late
  inHand : ∀ n, s.gateway.worker.work = some n → n < s.gateway.nextWork ∧ n ∉ s.late
  late : ∀ n ∈ s.late, n < s.gateway.nextWork ∧ (s.gateway.works n).done = false
  returned : s.returned = true → s.gateway.worker = .getting ∧ s.gateway.queue = []
  ended : s.late ≠ [] → s.closing = true

namespace Accounted
variable {s : ClosingGateway σ ι} {g : Gateway σ ι}

/-- The works stay where they are. -/
theorem stay (h : Accounted s) (hnext : g.nextWork = s.gateway.nextWork)
    (hworks : g.works = s.gateway.works) (hqueue : g.queue = s.gateway.queue)
    (hwork : g.worker.work = s.gateway.worker.work) (hsound : g.worker.Sound)
    (hreturned : s.returned = true → g.worker = .getting) : Accounted { s with gateway := g } where
  place n hn := by
    rw [hworks, hqueue, hwork]
    exact h.place n (hnext ▸ hn)
  sound := hsound
  queued n hn := by
    rw [hnext]
    exact h.queued n (hqueue ▸ hn)
  inHand n hn := by
    rw [hnext]
    exact h.inHand n (hwork ▸ hn)
  late n hn := by
    rw [hnext, hworks]
    exact h.late n hn
  returned hr := ⟨hreturned hr, hqueue.trans (h.returned hr).2⟩
  ended := h.ended

/-- The work in the hand of the worker changes, or the worker puts it down. -/
theorem update (h : Accounted s) {n : ℕ} {f : SubmittedWork → SubmittedWork}
    (hn : n < s.gateway.nextWork ∧ n ∉ s.late) (hrunning : s.returned = false)
    (hnext : g.nextWork = s.gateway.nextWork)
    (hworks : g.works = Function.update s.gateway.works n (f (s.gateway.works n)))
    (hqueue : ∀ m ∈ g.queue, m ∈ s.gateway.queue)
    (hwork : ∀ m, g.worker.work = some m → m = n) (hsound : g.worker.Sound)
    (hplace : ∀ m, (m ∈ s.gateway.queue ∨ s.gateway.worker.work = some m) →
      (g.works m).Settled ∨ m ∈ g.queue ∨ g.worker.work = some m)
    (hsettled : (s.gateway.works n).Settled → (g.works n).Settled) :
    Accounted { s with gateway := g } where
  place m hm := by
    have hsame : m ≠ n → g.works m = s.gateway.works m := by
      intro hmn
      rw [hworks, Function.update_of_ne hmn]
    rcases h.place m (hnext ▸ hm) with hdone | hqueued | hhand | hlate
    · by_cases hmn : m = n
      · subst hmn
        exact .inl (hsettled hdone)
      · exact .inl ((hsame hmn).symm ▸ hdone)
    · rcases hplace m (.inl hqueued) with h1 | h2 | h3
      · exact .inl h1
      · exact .inr (.inl h2)
      · exact .inr (.inr (.inl h3))
    · rcases hplace m (.inr hhand) with h1 | h2 | h3
      · exact .inl h1
      · exact .inr (.inl h2)
      · exact .inr (.inr (.inl h3))
    · exact .inr (.inr (.inr hlate))
  sound := hsound
  queued m hm := by
    rw [hnext]
    exact h.queued m (hqueue m hm)
  inHand m hm := by
    obtain rfl := hwork m hm
    rw [hnext]
    exact hn
  late m hm := by
    have hmn : m ≠ n := fun hmn => hn.2 (hmn ▸ hm)
    rw [hnext, hworks, Function.update_of_ne hmn]
    exact h.late m hm
  returned hr := by
    rw [hrunning] at hr
    cases hr
  ended := h.ended

/-! ## The worker -/

variable [PyText] {W : World σ} {es : List (GatewayEvent ι)}

omit [PyText] in
theorem begin_settled {w : SubmittedWork} : w.begin.Settled ↔ w.Settled := Iff.rfl

/-- The worker settles the work that it completes. -/
theorem complete_settled {w : SubmittedWork} {outcome : Except PyExc BatchResult}
    (h : ∀ e, outcome = .error e → e.isinstance .exception) : (w.complete outcome).Settled := by
  cases outcome with
  | ok result => exact ⟨rfl, .inl rfl⟩
  | error e =>
    unfold SubmittedWork.complete
    dsimp only
    rw [if_pos (h e rfl)]
    exact ⟨rfl, .inr rfl⟩

theorem getting (h : Accounted s) (hw : s.gateway.worker = .getting)
    (hrunning : s.returned = false) (hstep : s.gateway.workerStep W = some (g, es)) :
    Accounted { s with gateway := g } ∧ submittedIds (es.map .gateway) = [] := by
  rw [Gateway.workerStep, hw] at hstep
  dsimp only at hstep
  cases hq : s.gateway.queue with
  | nil => rw [hq] at hstep; cases hstep
  | cons n queue =>
    rw [hq] at hstep
    cases hstep
    refine ⟨h.update (n := n) (f := SubmittedWork.begin) (h.queued n (by simp [hq])) hrunning rfl rfl
      (fun m hm => ?_) (fun m hm => (Option.some.inj hm).symm) trivial (fun m hm => ?_) ?_, rfl⟩
    · rw [hq]
      exact List.mem_cons_of_mem _ hm
    · rcases hm with hqueued | hhand
      · rw [hq] at hqueued
        rcases List.mem_cons.1 hqueued with rfl | hqueued
        · exact .inr (.inr rfl)
        · exact .inr (.inl hqueued)
      · rw [hw] at hhand
        cases hhand
    · intro hsettled
      show (Function.update s.gateway.works n (s.gateway.works n).begin n).Settled
      rw [Function.update_self]
      exact begin_settled.2 hsettled

theorem completing {n : ℕ} {outcome : Except PyExc BatchResult} (h : Accounted s)
    (hw : s.gateway.worker = .completing n outcome) (hrunning : s.returned = false)
    (hstep : s.gateway.workerStep W = some (g, es)) :
    Accounted { s with gateway := g } ∧ submittedIds (es.map .gateway) = [] := by
  have hsound : ∀ e, outcome = .error e → e.isinstance .exception := by
    rintro e rfl
    have := h.sound
    rwa [hw] at this
  rw [Gateway.workerStep, hw] at hstep
  dsimp only at hstep
  rw [after_eq_getting hsound] at hstep
  cases hstep
  have hself : (Function.update s.gateway.works n ((s.gateway.works n).complete outcome) n).Settled := by
    rw [Function.update_self]
    exact complete_settled hsound
  refine ⟨h.update (n := n) (f := (·.complete outcome)) (h.inHand n (by rw [hw]; rfl)) hrunning rfl
    rfl (fun m hm => hm) (fun m hm => by cases hm) trivial (fun m hm => ?_) (fun _ => hself), rfl⟩
  rcases hm with hqueued | hhand
  · exact .inr (.inl hqueued)
  · rw [hw] at hhand
    cases hhand
    exact .inl hself

theorem work (hW : W.Raises) (h : Accounted s) (hrunning : s.returned = false)
    (hstep : s.gateway.workerStep W = some (g, es)) :
    Accounted { s with gateway := g } ∧ submittedIds (es.map .gateway) = [] := by
  have hreturned : ∀ worker : Worker, s.returned = true → worker = .getting := by
    intro _ hr
    rw [hrunning] at hr
    cases hr
  cases hw : s.gateway.worker with
  | getting => exact h.getting hw hrunning hstep
  | taken n =>
    rw [Gateway.workerStep, hw] at hstep
    cases hstep
    exact ⟨h.stay rfl rfl rfl (by rw [hw]; rfl) trivial (hreturned _), rfl⟩
  | waited n =>
    rw [Gateway.workerStep, hw] at hstep
    cases hstep
    refine ⟨h.stay rfl rfl rfl ?_ ?_ (hreturned _), rfl⟩
    · dsimp only
      rw [hw]
      split_ifs <;> rfl
    · dsimp only
      split_ifs
      · exact rfl
      · trivial
  | executing n index rest values =>
    cases rest with
    | nil =>
      rw [Gateway.workerStep, hw] at hstep
      cases hstep
      exact ⟨h.stay rfl rfl rfl (by rw [hw]; rfl) trivial (hreturned _), rfl⟩
    | cons c rest =>
      rw [Gateway.workerStep, hw] at hstep
      obtain ⟨r, x, hrun⟩ : ∃ r x, s.gateway.owner.executor.runCommand W index c = (r, x) :=
        ⟨_, _, rfl⟩
      simp only [hrun, Option.some.injEq, Prod.mk.injEq] at hstep
      obtain ⟨rfl, rfl⟩ := hstep
      cases r with
      | error e =>
        exact ⟨h.stay rfl rfl rfl (by rw [hw]; rfl) (runCommand_raises hW hrun)
          (hreturned _), rfl⟩
      | ok v => exact ⟨h.stay rfl rfl rfl (by rw [hw]; rfl) trivial (hreturned _), rfl⟩
  | completing n outcome => exact h.completing hw hrunning hstep
  | dead =>
    have hsound := h.sound
    rw [hw] at hsound
    exact hsound.elim

omit [PyText] in
/-- A new work before the marker, or after it. -/
theorem submit [DecidableEq ι] (h : Accounted s) (hreturned : s.returned = true → s.closing = true)
    (c : ι) (session : Session) (batch : CommandBatch) :
    Accounted (s.submit c session batch).1 := by
  have hworks : ∀ n, n < s.gateway.nextWork →
      (s.gateway.submit c session batch).1.works n = s.gateway.works n :=
    fun n hn => Function.update_of_ne hn.ne ..
  have hnew : (s.gateway.submit c session batch).1.works s.gateway.nextWork =
      .new ⟨batch, session.settings⟩ := Function.update_self ..
  have hnext : ∀ n, n < s.gateway.nextWork → n < s.gateway.nextWork + 1 := fun n hn => by omega
  have hold : ∀ n, n < s.gateway.nextWork → n ≠ s.gateway.nextWork := fun n hn => hn.ne
  unfold ClosingGateway.submit
  dsimp only
  split_ifs with hclosing
  · refine ⟨fun n hn => ?_, h.sound, fun n hn => ?_, fun n hn => ?_, fun n hn => ?_, h.returned,
      fun _ => hclosing⟩
    · rcases Nat.lt_succ_iff_lt_or_eq.1 hn with hlt | rfl
      · rcases h.place n hlt with hdone | hqueued | hhand | hlate
        · exact .inl ((hworks n hlt).symm ▸ hdone)
        · exact .inr (.inl hqueued)
        · exact .inr (.inr (.inl hhand))
        · exact .inr (.inr (.inr (List.mem_append_left _ hlate)))
      · exact .inr (.inr (.inr (List.mem_append_right _ (List.mem_singleton_self _))))
    · obtain ⟨hlt, hlate⟩ := h.queued n hn
      exact ⟨hnext n hlt, by simp [hlate, hold n hlt]⟩
    · obtain ⟨hlt, hlate⟩ := h.inHand n hn
      exact ⟨hnext n hlt, by simp [hlate, hold n hlt]⟩
    · rcases List.mem_append.1 hn with hlate | hn
      · obtain ⟨hlt, hdone⟩ := h.late n hlate
        exact ⟨hnext n hlt, (congrArg SubmittedWork.done (hworks n hlt)).trans hdone⟩
      · obtain rfl := List.mem_singleton.1 hn
        exact ⟨Nat.lt_succ_self _, congrArg SubmittedWork.done hnew⟩
  · have hlate : s.late = [] := by
      by_contra hne
      exact hclosing (h.ended hne)
    have hrunning : s.returned ≠ true := fun hr => hclosing (hreturned hr)
    have hnone : ∀ n, n ∉ s.late := fun n hn => by
      rw [hlate] at hn
      cases hn
    refine ⟨fun n hn => ?_, h.sound, fun n hn => ?_, fun n hn => ?_, fun n hn => absurd hn (hnone n),
      fun hr => absurd hr hrunning, h.ended⟩
    · rcases Nat.lt_succ_iff_lt_or_eq.1 hn with hlt | rfl
      · rcases h.place n hlt with hdone | hqueued | hhand | hlate
        · exact .inl ((hworks n hlt).symm ▸ hdone)
        · exact .inr (.inl (List.mem_append_left _ hqueued))
        · exact .inr (.inr (.inl hhand))
        · exact .inr (.inr (.inr hlate))
      · exact .inr (.inl (List.mem_append_right _ (List.mem_singleton_self _)))
    · rcases List.mem_append.1 hn with hn | hn
      · exact ⟨hnext n (h.queued n hn).1, hnone n⟩
      · obtain rfl := List.mem_singleton.1 hn
        exact ⟨Nat.lt_succ_self _, hnone _⟩
    · exact ⟨hnext n (h.inHand n hn).1, hnone n⟩

end Accounted

/-! ## Runs -/

section
variable [PyText] [DecidableEq ι] {W : World σ}

/-- A step of a handler, or of the world, leaves the works alone. -/
theorem handlerStep_frame {l : Label σ ι} {g g' : Gateway σ ι} {es : List (GatewayEvent ι)}
    (hsubmit : ∀ c batch, l ≠ .submit c batch) (hwork : l ≠ .work)
    (h : g.step W l = some (g', es)) :
    g'.nextWork = g.nextWork ∧ g'.works = g.works ∧ g'.queue = g.queue ∧ g'.worker = g.worker ∧
      submittedIds (es.map .gateway) = [] := by
  cases l with
  | accept c settings =>
    rw [Gateway.step] at h
    split at h <;> cases h
    exact ⟨rfl, rfl, rfl, rfl, rfl⟩
  | submit c batch => exact absurd rfl (hsubmit c batch)
  | timeout c =>
    rw [Gateway.step] at h
    split at h
    · split_ifs at h
      cases h
      exact ⟨rfl, rfl, rfl, rfl, rfl⟩
    · cases h
  | look c =>
    rw [Gateway.step] at h
    split at h <;> cases h
    exact ⟨rfl, rfl, rfl, rfl, rfl⟩
  | heartbeat c =>
    rw [Gateway.step] at h
    split at h <;> cases h
    exact ⟨rfl, rfl, rfl, rfl, rfl⟩
  | disconnect c =>
    rw [Gateway.step] at h
    split at h <;> cases h <;> exact ⟨rfl, rfl, rfl, rfl, rfl⟩
  | handBack c =>
    rw [Gateway.step] at h
    split at h
    · split_ifs at h <;> cases h <;> exact ⟨rfl, rfl, rfl, rfl, rfl⟩
    · cases h
  | work => exact absurd rfl hwork
  | elapse f =>
    cases h
    exact ⟨rfl, rfl, rfl, rfl, rfl⟩

/-- The works are accounted for, and the history knows the late ones. -/
structure Closing (s : ClosingGateway σ ι) (es : List (ClosingEvent ι)) : Prop where
  accounted : Accounted s
  late : s.late = lateSubmissions es
  closing : s.closing = es.any (·.isMarked)
  returned : s.returned = true → s.closing = true

omit [PyText] [DecidableEq ι] in
theorem Closing.quiet {s s' : ClosingGateway σ ι} {es : List (ClosingEvent ι)}
    (es' : List (GatewayEvent ι)) (h : Closing s es) (haccounted : Accounted s')
    (hquiet : submittedIds (es'.map .gateway) = []) (hlate : s'.late = s.late)
    (hclosing : s'.closing = s.closing) (hreturned : s'.returned = true → s.closing = true) :
    Closing s' (es ++ es'.map .gateway) := by
  have hunmarked : (es'.map ClosingEvent.gateway).any (·.isMarked) = false := by
    simp [List.any_map, ClosingEvent.isMarked]
  refine ⟨haccounted, ?_, ?_, fun hr => hclosing.trans (hreturned hr)⟩
  · rw [hlate, h.late, lateSubmissions_append]
    split_ifs with hmarked
    · rw [hquiet, List.append_nil]
    · rw [Bool.not_eq_true] at hmarked
      rw [lateSubmissions_unmarked hmarked, lateSubmissions_unmarked hunmarked]
  · rw [hclosing, h.closing, List.any_append, hunmarked, Bool.or_false]

omit [PyText] in
/-- The step of a handler that puts a work into the queue. -/
theorem Closing.submit {s : ClosingGateway σ ι} {es : List (ClosingEvent ι)} (h : Closing s es)
    (c : ι) (session : Session) (batch : CommandBatch) :
    Closing (s.submit c session batch).1 (es ++ (s.submit c session batch).2) := by
  have haccounted := h.accounted.submit h.returned c session batch
  have hlate := h.late
  have hclosing := h.closing
  unfold ClosingGateway.submit at haccounted ⊢
  dsimp only at haccounted ⊢
  split_ifs at haccounted ⊢ with hmarked
  · rw [hmarked] at hclosing
    refine ⟨haccounted, ?_, ?_, fun _ => hmarked⟩
    · rw [lateSubmissions_append, ← hclosing, if_pos rfl, hlate]
      rfl
    · rw [List.any_append, ← hclosing]
      exact hmarked
  · rw [Bool.not_eq_true] at hmarked
    rw [hmarked] at hclosing
    refine ⟨haccounted, ?_, ?_, fun hr => h.returned hr⟩
    · rw [lateSubmissions_append, ← hclosing, if_neg Bool.false_ne_true]
      exact hlate.trans (lateSubmissions_unmarked hclosing.symm)
    · rw [List.any_append, ← hclosing]
      exact hmarked

/-- Every step keeps account of the works. -/
theorem Closing.step (hW : W.Raises) {s t : ClosingGateway σ ι} {es es' : List (ClosingEvent ι)}
    {l : ClosingLabel σ ι} (h : Closing s es) (hstep : s.step W l = some (t, es')) :
    Closing t (es ++ es') := by
  cases l with
  | gateway l =>
    by_cases hsubmit : ∃ c batch, l = .submit c batch
    · obtain ⟨c, batch, rfl⟩ := hsubmit
      rw [ClosingGateway.step] at hstep
      split at hstep
      · obtain ⟨rfl, rfl⟩ := Prod.mk.inj (Option.some.inj hstep)
        exact h.submit c _ batch
      · cases hstep
    · by_cases hwork : l = .work
      · subst hwork
        rw [ClosingGateway.step] at hstep
        split_ifs at hstep with hreturned
        rw [Bool.not_eq_true] at hreturned
        obtain ⟨⟨g, es⟩, hg, heq⟩ := Option.map_eq_some_iff.1 hstep
        cases heq
        obtain ⟨haccounted, hquiet⟩ := h.accounted.work hW hreturned hg
        exact h.quiet _ haccounted hquiet rfl rfl h.returned
      · have hlift : s.step W (.gateway l) = s.lift (s.gateway.step W l) := by
          cases l with
          | submit c batch => exact absurd ⟨c, batch, rfl⟩ hsubmit
          | work => exact absurd rfl hwork
          | _ => rfl
        rw [hlift] at hstep
        obtain ⟨⟨g, es⟩, hg, heq⟩ := Option.map_eq_some_iff.1 hstep
        cases heq
        obtain ⟨hnext, hworks, hqueue, hworker, hquiet⟩ :=
          handlerStep_frame (fun c batch hl => hsubmit ⟨c, batch, hl⟩) hwork hg
        refine h.quiet _ (h.accounted.stay hnext hworks hqueue (by rw [hworker]) ?_ ?_) hquiet rfl rfl
          h.returned
        · rw [hworker]
          exact h.accounted.sound
        · intro hr
          exact hworker.trans (h.accounted.returned hr).1
  | putMarker =>
    rw [ClosingGateway.step] at hstep
    split_ifs at hstep with hclosing
    cases hstep
    rw [Bool.not_eq_true] at hclosing
    have hunmarked := h.closing.symm.trans hclosing
    refine ⟨⟨h.accounted.place, h.accounted.sound, h.accounted.queued, h.accounted.inHand,
      h.accounted.late, h.accounted.returned, fun _ => rfl⟩, ?_, ?_, fun _ => rfl⟩
    · show s.late = _
      rw [h.late, lateSubmissions_append, hunmarked, if_neg Bool.false_ne_true,
        lateSubmissions_unmarked hunmarked]
      rfl
    · rw [List.any_append]
      simp [ClosingEvent.isMarked]
  | closeExecutor =>
    rw [ClosingGateway.step] at hstep
    split at hstep
    · cases hstep
    · cases hstep
    · cases hstep
      exact h.quiet [] (h.accounted.stay rfl rfl rfl rfl h.accounted.sound
        fun hr => (h.accounted.returned hr).1) rfl rfl rfl h.returned
  | takeMarker =>
    rw [ClosingGateway.step] at hstep
    split at hstep
    · rename_i hmarked hworker hqueue
      cases hstep
      rw [Bool.and_eq_true] at hmarked
      exact h.quiet [] ⟨h.accounted.place, h.accounted.sound, h.accounted.queued,
        h.accounted.inHand, h.accounted.late, fun _ => ⟨hworker, hqueue⟩, h.accounted.ended⟩
        rfl rfl rfl fun _ => hmarked.1
    · cases hstep

/-- **Shutdown loses the late works, and no other.**  Once the worker has ended, the works are
    settled exactly if none has been put into the queue after the marker. -/
theorem shutdown_settles (hW : W.Raises) (x : DirectExecutor σ) {labels : List (ClosingLabel σ ι)}
    {s : ClosingGateway σ ι} {es : List (ClosingEvent ι)}
    (h : (ClosingGateway.system W).run labels (.start x) = some (s, es)) (hended : s.WorkerEnded) :
    s.gateway.AllSettled ↔ lateSubmissions es = [] := by
  have hstart : Closing (.start x : ClosingGateway σ ι) [] :=
    ⟨⟨fun n hn => absurd hn (Nat.not_lt_zero n), trivial, fun _ hn => absurd hn List.not_mem_nil,
      fun _ hn => (Option.some_ne_none _ hn.symm).elim, fun _ hn => absurd hn List.not_mem_nil,
      fun hr => (Bool.false_ne_true hr).elim, fun hne => absurd rfl hne⟩, rfl, rfl,
      fun hr => (Bool.false_ne_true hr).elim⟩
  have hrun : Closing s ([] ++ es) := Runs.System.invariant (M := ClosingGateway.system W)
    (P := Closing) (fun _ _ _ _ _ hs hstep => hs.step hW hstep) hstart h
  rw [List.nil_append] at hrun
  obtain ⟨haccounted, hlate, -, -⟩ := hrun
  rw [← hlate]
  constructor
  · intro hsettled
    rw [List.eq_nil_iff_forall_not_mem]
    intro n hn
    obtain ⟨hlt, hdone⟩ := haccounted.late n hn
    exact absurd ((hsettled n hlt).1.symm.trans hdone) Bool.true_eq_false.mp
  · intro hnone n hn
    rcases hended with hreturned | hdead
    · obtain ⟨hworker, hqueue⟩ := haccounted.returned hreturned
      rcases haccounted.place n hn with hdone | hqueued | hhand | hlate
      · exact hdone
      · rw [hqueue] at hqueued
        cases hqueued
      · rw [hworker] at hhand
        cases hhand
      · rw [hnone] at hlate
        cases hlate
    · have hsound := haccounted.sound
      rw [hdead] at hsound
      exact hsound.elim

end

/-! ## Runs with and without a late work -/

/-- A query of the state of a gateway that is about to stop. -/
def lastQuery : CommandBatch := ⟨[.query ⟨"OUTP:TRACK?", by decide⟩], List.cons_ne_nil _ _⟩

/-- An open connection calls `execute` after the worker has taken the marker. -/
def lateCall : List (ClosingLabel ℚ Unit) :=
  [.gateway (.accept () .default), .putMarker, .takeMarker, .gateway (.submit () lastQuery)]

/-- It calls `execute` before the marker is put into the queue. -/
def orderlyCall : List (ClosingLabel ℚ Unit) :=
  [.gateway (.accept () .default), .gateway (.submit () lastQuery), .putMarker] ++
    List.replicate 6 (.gateway .work) ++ [.takeMarker, .closeExecutor]

/-- The late work is never settled: the handler waits, and the worker is gone. -/
theorem late_call_lost : ∃ s es,
    (@ClosingGateway.system _ _ _ PyText.blank tickingWorld).run lateCall
      (.start ⟨.default, none, false, 0⟩) = some (s, es) ∧
    s.WorkerEnded ∧ ¬ s.gateway.AllSettled := by
  refine ⟨_, _, rfl, .inl rfl, fun h => ?_⟩
  have hdone : false = true := (h 0 Nat.zero_lt_one).1
  cases hdone

theorem orderly_call_settled : ∃ s es,
    (@ClosingGateway.system _ _ _ PyText.blank tickingWorld).run orderlyCall
      (.start ⟨.default, none, false, 0⟩) = some (s, es) ∧
    (s.gateway.AllSettled ↔ lateSubmissions es = []) := by
  let _ : PyText := PyText.blank
  have hreturned : ((ClosingGateway.system tickingWorld).run orderlyCall
      (.start ⟨.default, none, false, 0⟩)).map (fun p => p.1.returned) = some true := rfl
  obtain ⟨⟨s, es⟩, hrun, hreturned⟩ := Option.map_eq_some_iff.1 hreturned
  exact ⟨s, es, hrun, shutdown_settles tickingWorld_raises _ hrun (.inl hreturned)⟩

end Spd3000
