/-
  Command spacing under the worker of a gateway: `_PhysicalOwner` over a
  `DirectExecutor`, for any sequence of works with any intervals and outcomes.

  Time is a rational number that only the laws of `Timed` constrain: a clock
  reading lies between the start and the end of its call, a sleep takes at least
  as long as asked, and everything else takes some time.  `logged` is the same
  world with a log of the transport calls; the executor over it does what it does
  over the plain one (`runWork_map`).

  Two waits interact.  The owner counts from the end of the last executor call,
  the executor from its last successful write.  The bounds hold since either wait
  ends late enough (`now_waitUntil`) and since a reference instant is read after
  the event it stands for.
-/
import Spd3000.Owner

namespace Spd3000

variable {σ σ' : Type}

/-! ## Maps between worlds -/

/-- A map that carries every operation of a world to one of another world. -/
structure World.Hom (W : World σ) (W' : World σ') (f : σ → σ') : Prop where
  clock : ∀ s, W'.clock (f s) = Prod.map id f (W.clock s)
  sleeper : ∀ d s, W'.sleeper d (f s) = f (W.sleeper d s)
  idle : ∀ s, W'.idle (f s) = f (W.idle s)
  write : ∀ b s, W'.write b (f s) = Prod.map id f (W.write b s)
  read : ∀ s, W'.read (f s) = Prod.map id f (W.read s)

def DirectExecutor.map (f : σ → σ') (x : DirectExecutor σ) : DirectExecutor σ' :=
  { settings := x.settings, lastWriteAt := x.lastWriteAt, closed := x.closed, world := f x.world }

def PhysicalOwner.map (f : σ → σ') (o : PhysicalOwner σ) : PhysicalOwner σ' :=
  { executor := o.executor.map f, previousInterval := o.previousInterval,
    lastCompletedAt := o.lastCompletedAt }

section
variable {W : World σ} {W' : World σ'} {f : σ → σ'} (h : W.Hom W' f)
include h

theorem waitBeforeWrite_map (x : DirectExecutor σ) :
    (x.map f).waitBeforeWrite W' = (x.waitBeforeWrite W).map f := by
  unfold DirectExecutor.waitBeforeWrite
  cases hl : x.lastWriteAt with
  | none => simp [DirectExecutor.map, hl]
  | some t =>
    simp only [DirectExecutor.map, hl, h.clock, Prod.map, id, h.sleeper]
    split_ifs <;> rfl

theorem attempt_map (c : Command) (x : DirectExecutor σ) :
    (x.map f).attempt W' c = Prod.map id (DirectExecutor.map f) (x.attempt W c) := by
  unfold DirectExecutor.attempt
  rw [waitBeforeWrite_map h]
  generalize x.waitBeforeWrite W = y
  simp only [DirectExecutor.map, h.write]
  rcases hw : W.write (DirectExecutor.line c) y.world with ⟨_ | _, s⟩
  · rfl
  · simp only [Prod.map, id, h.clock, h.sleeper, h.read]
    split_ifs with hq
    · rcases hr : W.read (W.sleeper y.settings.minCommandInterval (W.clock s).2) with ⟨_ | _, s'⟩ <;>
        simp only [hr] <;> rfl
    · rfl

variable [PyText]

theorem runFrom_map (cs : List Command) : ∀ (index : ℕ) (x : DirectExecutor σ),
    (x.map f).runFrom W' index cs = Prod.map id (DirectExecutor.map f) (x.runFrom W index cs) := by
  induction cs with
  | nil => exact fun _ _ => rfl
  | cons c cs ih =>
    intro index x
    unfold DirectExecutor.runFrom DirectExecutor.runCommand
    rw [attempt_map h]
    rcases x.attempt W c with ⟨_ | v, y⟩
    · rfl
    · simp only [Prod.map, id, Except.mapError, ih]

theorem execute_map (b : CommandBatch) (x : DirectExecutor σ) :
    (x.map f).execute W' b = Prod.map id (DirectExecutor.map f) (x.execute W b) := by
  unfold DirectExecutor.execute
  rw [runFrom_map h]
  by_cases hc : x.closed
  · rw [if_pos hc, if_pos (show (x.map f).closed from hc)]; rfl
  · rw [if_neg hc, if_neg (show ¬ (x.map f).closed from hc)]; rfl

omit [PyText] in
theorem prepare_map (st : ExecutionSettings) (o : PhysicalOwner σ) :
    (o.map f).prepare W' st = (o.prepare W st).map f := by
  unfold PhysicalOwner.prepare PhysicalOwner.waitForInterval
  simp only [PhysicalOwner.map, DirectExecutor.map, h.idle]
  split
  · simp only [h.clock, h.sleeper, Prod.map, id]
    split_ifs <;> rfl
  · rfl

theorem runWork_map (w : Work) (o : PhysicalOwner σ) :
    (o.map f).runWork W' w = Prod.map id (PhysicalOwner.map f) (o.runWork W w) := by
  unfold PhysicalOwner.runWork
  rw [prepare_map h]
  generalize o.prepare W w.settings = p
  have hx := execute_map h w.batch p.executor
  simp only [PhysicalOwner.map]
  rw [hx]
  simp only [PhysicalOwner.finish, Prod.map, id, DirectExecutor.map, h.clock]
  rfl

end

/-! ## Time -/

/-- A world in which time passes: `now` is the true time, which a clock reads between the
    start and the end of the reading and a sleeper lets pass for at least the time given. -/
structure Timed (W : World σ) where
  now : σ → ℚ
  clock_start : ∀ s, now s ≤ (W.clock s).1
  clock_stop : ∀ s, (W.clock s).1 ≤ now (W.clock s).2
  sleeper : ∀ d s, 0 ≤ d → now s + d ≤ now (W.sleeper d s)
  idle : ∀ s, now s ≤ now (W.idle s)
  write : ∀ b s, now s ≤ now (W.write b s).2
  read : ∀ s, now s ≤ now (W.read s).2

/-- A world whose state is the time: it passes in sleeps and transport calls only. -/
def tickingWorld : World ℚ where
  clock s := (s, s)
  sleeper d s := s + d
  idle s := s
  write _ s := (.ok (), s + 1 / 1000)
  read s := (.ok [48, LF], s + 1 / 100)

def ticking : Timed tickingWorld where
  now := id
  clock_start _ := le_rfl
  clock_stop _ := le_rfl
  sleeper _ _ _ := le_rfl
  idle _ := le_rfl
  write _ _ := le_add_of_nonneg_right (by norm_num)
  read _ := le_add_of_nonneg_right (by norm_num)

/-- A transport call with the times at which it started and ended. -/
inductive Event where
  | write (start stop : ℚ)
  | read (start stop : ℚ)

def Event.start : Event → ℚ
  | write s _ | read s _ => s

abbrev Log (σ : Type) := σ × List Event

namespace Timed
variable {W : World σ} (T : Timed W)

theorem clock_le (s : σ) : T.now s ≤ T.now (W.clock s).2 :=
  (T.clock_start s).trans (T.clock_stop s)

/-- The world with a log of its transport calls. -/
def logged : World (Log σ) where
  clock s := ((W.clock s.1).1, (W.clock s.1).2, s.2)
  sleeper d s := (W.sleeper d s.1, s.2)
  idle s := (W.idle s.1, s.2)
  write b s :=
    let (r, s') := W.write b s.1
    (r, s', s.2 ++ [.write (T.now s.1) (T.now s')])
  read s :=
    let (r, s') := W.read s.1
    (r, s', s.2 ++ [.read (T.now s.1) (T.now s')])

/-- Keeping a log changes nothing else. -/
theorem logged_hom : T.logged.Hom W Prod.fst := ⟨fun _ => rfl, fun _ _ => rfl, fun _ => rfl,
  fun _ _ => rfl, fun _ => rfl⟩

theorem logged_write {b : Bytes} {s s' : Log σ} {r : Except PyExc Unit}
    (h : T.logged.write b s = (r, s')) :
    s'.2 = s.2 ++ [.write (T.now s.1) (T.now s'.1)] ∧ T.now s.1 ≤ T.now s'.1 := by
  cases h; exact ⟨rfl, T.write b s.1⟩

theorem logged_read {s s' : Log σ} {r : Except PyExc Bytes} (h : T.logged.read s = (r, s')) :
    s'.2 = s.2 ++ [.read (T.now s.1) (T.now s'.1)] ∧ T.now s.1 ≤ T.now s'.1 := by
  cases h; exact ⟨rfl, T.read s.1⟩

/-- A wait of the form used by the owner and the executor: read the clock, and sleep for
    what is missing of `d` since the instant `t`. -/
theorem now_waitUntil (d t : ℚ) (s : σ) :
    t + d ≤ T.now (if 0 < d - ((W.clock s).1 - t) then
      W.sleeper (d - ((W.clock s).1 - t)) (W.clock s).2 else (W.clock s).2) := by
  have hc := T.clock_stop s
  split_ifs with h
  · have hs := T.sleeper (d - ((W.clock s).1 - t)) (W.clock s).2 h.le
    linarith
  · linarith

theorem le_waitUntil (d t : ℚ) (s : σ) :
    T.now s ≤ T.now (if 0 < d - ((W.clock s).1 - t) then
      W.sleeper (d - ((W.clock s).1 - t)) (W.clock s).2 else (W.clock s).2) := by
  have hc := T.clock_le s
  split_ifs with h
  · have hs := T.sleeper (d - ((W.clock s).1 - t)) (W.clock s).2 h.le
    linarith
  · exact hc

end Timed

/-! ## Spacing inside a batch -/

/-- The transport calls of a batch, `d` apart: a write starts at least `d` after the
    preceding write returned, a read at least `d` after the write of its query returned.
    The argument is the instant at which the last write returned, if there was one. -/
def Spaced (d : ℚ) : Option ℚ → List Event → Prop
  | _, [] => True
  | last, .write start stop :: evs => (∀ t ∈ last, t + d ≤ start) ∧ Spaced d (some stop) evs
  | last, .read start _ :: evs => (∃ t ∈ last, t + d ≤ start) ∧ Spaced d last evs

/-- The instant at which the last write returned, after some more calls. -/
def lastWrite : Option ℚ → List Event → Option ℚ
  | last, [] => last
  | _, .write _ stop :: evs => lastWrite (some stop) evs
  | last, .read _ _ :: evs => lastWrite last evs

theorem spaced_append {d : ℚ} {last : Option ℚ} {evs evs' : List Event} :
    Spaced d last (evs ++ evs') ↔ Spaced d last evs ∧ Spaced d (lastWrite last evs) evs' := by
  induction evs generalizing last with
  | nil => simp [Spaced, lastWrite]
  | cons e evs ih => cases e <;> simp [Spaced, lastWrite, ih, and_assoc]

/-- The executor knows when the last write of the batch returned, or a later instant. -/
def Knows (last : Option ℚ) (x : DirectExecutor σ) : Prop :=
  ∀ t ∈ last, ∃ t', x.lastWriteAt = some t' ∧ t ≤ t'

section
variable {W : World σ} (T : Timed W)

/-- The calls added to the log while the executor went from one state to another. -/
structure Added (last : Option ℚ) (evs : List Event) (x x' : DirectExecutor (Log σ)) : Prop where
  log : x'.world.2 = x.world.2 ++ evs
  now : T.now x.world.1 ≤ T.now x'.world.1
  start : ∀ e ∈ evs.head?, T.now x.world.1 ≤ e.start
  settings : x'.settings = x.settings
  spaced : Spaced x.settings.minCommandInterval last evs

theorem waitBeforeWrite_added {last : Option ℚ} {x : DirectExecutor (Log σ)} (hk : Knows last x) :
    Added T last [] x (x.waitBeforeWrite T.logged) ∧
      ∀ t ∈ last, t + x.settings.minCommandInterval ≤
        T.now (x.waitBeforeWrite T.logged).world.1 := by
  unfold DirectExecutor.waitBeforeWrite
  cases hl : x.lastWriteAt with
  | none =>
    refine ⟨⟨(List.append_nil _).symm, le_rfl, by simp, rfl, trivial⟩, fun t ht => ?_⟩
    obtain ⟨t', ht', -⟩ := hk t ht
    rw [hl] at ht'; cases ht'
  | some t' =>
    have hw := T.now_waitUntil x.settings.minCommandInterval t' x.world.1
    have hle := T.le_waitUntil x.settings.minCommandInterval t' x.world.1
    have hlast : ∀ t ∈ last, t ≤ t' := by
      intro t ht
      obtain ⟨_, ht', h⟩ := hk t ht
      rw [hl] at ht'; cases ht'; exact h
    by_cases hp : 0 < x.settings.minCommandInterval - ((W.clock x.world.1).1 - t')
    · simp only [hp, if_true] at hw hle
      simp only [Timed.logged, hp, if_true]
      exact ⟨⟨(List.append_nil _).symm, hle, by simp, rfl, trivial⟩,
        fun t ht => by have := hlast t ht; linarith⟩
    · simp only [hp, if_false] at hw hle
      simp only [Timed.logged, hp, if_false]
      exact ⟨⟨(List.append_nil _).symm, hle, by simp, rfl, trivial⟩,
        fun t ht => by have := hlast t ht; linarith⟩

/-- A query: its read starts after the pause that follows its write. -/
theorem query_added {c : Command} {last : Option ℚ} {x y : DirectExecutor (Log σ)}
    {s s' : Log σ} {r : Except PyExc Bytes} (hy : Added T last [] x y)
    (hwait : ∀ t ∈ last, t + x.settings.minCommandInterval ≤ T.now y.world.1)
    (hw : T.logged.write (DirectExecutor.line c) y.world = (.ok (), s))
    (hr : T.logged.read (T.logged.sleeper y.settings.minCommandInterval (T.logged.clock s).2) =
      (r, s')) :
    let x' := { y with lastWriteAt := some (T.logged.clock s).1, world := s' }
    ∃ evs, Added T last evs x x' ∧ Knows (lastWrite last evs) x' := by
  intro x'
  obtain ⟨hl, hle⟩ := T.logged_write hw
  obtain ⟨hl', hle'⟩ := T.logged_read hr
  have hc := T.clock_le s.1
  have hs := T.sleeper y.settings.minCommandInterval (W.clock s.1).2 y.settings.interval_nonneg
  have hi := y.settings.interval_nonneg
  have hn := hy.now
  simp only [Timed.logged] at hle'
  refine ⟨[.write (T.now y.world.1) (T.now s.1),
      .read (T.now (W.sleeper y.settings.minCommandInterval (W.clock s.1).2)) (T.now s'.1)],
    ⟨hl'.trans ?_, ?_, by simpa [Event.start], hy.settings, hwait, ⟨_, rfl, ?_⟩, trivial⟩,
    fun t ht => ⟨_, rfl, by cases ht; exact T.clock_start s.1⟩⟩
  · have hlog : y.world.2 = x.world.2 := by rw [hy.log, List.append_nil]
    show s.2 ++ _ = _
    rw [hl, hlog, List.append_assoc]; rfl
  · show _ ≤ T.now s'.1
    linarith
  · show _ ≤ T.now (W.sleeper y.settings.minCommandInterval (W.clock s.1).2)
    rw [← hy.settings]
    linarith

/-- What one command adds to the log, after which the executor knows its write. -/
theorem attempt_added (c : Command) {last : Option ℚ} {x : DirectExecutor (Log σ)}
    (hk : Knows last x) :
    ∃ evs, Added T last evs x (x.attempt T.logged c).2 ∧
      ((x.attempt T.logged c).1.isOk → Knows (lastWrite last evs) (x.attempt T.logged c).2) := by
  obtain ⟨hy, hwait⟩ := waitBeforeWrite_added T hk
  have ha := DirectExecutor.attempt_spec T.logged c x
  generalize (x.attempt T.logged c).2 = x' at ha ⊢
  generalize (x.attempt T.logged c).1 = r at ha ⊢
  generalize x.waitBeforeWrite T.logged = y at ha hy hwait
  have hlog : y.world.2 = x.world.2 := by rw [hy.log, List.append_nil]
  cases ha with
  | @writeFailed e s hw =>
    obtain ⟨hl, hle⟩ := T.logged_write hw
    exact ⟨[.write (T.now y.world.1) (T.now s.1)], ⟨hl.trans (by rw [hlog]), hy.now.trans hle,
      by simpa [Event.start] using hy.now, hy.settings, hwait, trivial⟩, fun h => by cases h⟩
  | @written s hw hq =>
    obtain ⟨hl, hle⟩ := T.logged_write hw
    exact ⟨[.write (T.now y.world.1) (T.now s.1)], ⟨hl.trans (by rw [hlog]),
      hy.now.trans (hle.trans (T.clock_le _)), by simpa [Event.start] using hy.now, hy.settings,
      hwait, trivial⟩, fun _ t ht => ⟨_, rfl, by cases ht; exact T.clock_start s.1⟩⟩
  | readFailed hw hq hr =>
    obtain ⟨evs, ha, -⟩ := query_added T hy hwait hw hr
    exact ⟨evs, ha, fun h => by cases h⟩
  | answered hw hq hr =>
    obtain ⟨evs, ha, hk'⟩ := query_added T hy hwait hw hr
    exact ⟨evs, ha, fun _ => hk'⟩

theorem Added.append {last : Option ℚ} {evs evs' : List Event} {x y z : DirectExecutor (Log σ)}
    (h : Added T last evs x y) (h' : Added T (lastWrite last evs) evs' y z) :
    Added T last (evs ++ evs') x z where
  log := by rw [h'.log, h.log, List.append_assoc]
  now := h.now.trans h'.now
  start e he := by
    cases evs with
    | nil => exact h.now.trans (h'.start e he)
    | cons e' evs => exact h.start e he
  settings := h'.settings.trans h.settings
  spaced := spaced_append.2 ⟨h.spaced, h.settings ▸ h'.spaced⟩

variable [PyText]

/-- The commands of a batch, by induction: what one command adds leaves the executor
    knowing its write, from which the wait of the next one is counted. -/
theorem runFrom_added (cs : List Command) :
    ∀ (index : ℕ) {last : Option ℚ} {x : DirectExecutor (Log σ)}, Knows last x →
      ∃ evs, Added T last evs x (x.runFrom T.logged index cs).2 := by
  induction cs with
  | nil => exact fun _ _ x _ => ⟨[], (List.append_nil _).symm, le_rfl, by simp, rfl, trivial⟩
  | cons c cs ih =>
    intro index last x hk
    obtain ⟨evs, ha, hok⟩ := attempt_added T c hk
    unfold DirectExecutor.runFrom
    split <;> rename_i hr
    · have hx := congrArg Prod.snd hr
      rw [DirectExecutor.runCommand_snd] at hx
      exact ⟨evs, hx ▸ ha⟩
    · rw [DirectExecutor.runCommand_ok] at hr
      rw [hr] at ha hok
      obtain ⟨evs', ha'⟩ := ih (index + 1) (hok rfl)
      exact ⟨evs ++ evs', ha.append T ha'⟩

theorem execute_added (b : CommandBatch) (x : DirectExecutor (Log σ)) :
    ∃ evs, Added T none evs x (x.execute T.logged b).2 := by
  unfold DirectExecutor.execute
  split_ifs
  · exact ⟨[], (List.append_nil _).symm, le_rfl, by simp, rfl, trivial⟩
  · exact runFrom_added T b.commands 0 (fun _ h => by cases h)

end

/-! ## Spacing between works -/

/-- What can be observed of one work: its settings, its transport calls, and when the call
    of the executor returned or raised. -/
structure WorkRecord where
  settings : ExecutionSettings
  events : List Event
  ended : ℚ

/-- The first write of a work starts late enough after the work before it. -/
def WorkRecord.Apart (r r' : WorkRecord) : Prop :=
  ∀ e ∈ r'.events.head?,
    r.ended + max r.settings.minCommandInterval r'.settings.minCommandInterval ≤ e.start

/-- The owner of a gateway just started. -/
def PhysicalOwner.new (x : DirectExecutor σ) : PhysicalOwner σ := ⟨x, none, none⟩

/-- The owner remembers the previous work. -/
def Remembers (r : WorkRecord) (o : PhysicalOwner σ) : Prop :=
  o.previousInterval = some r.settings.minCommandInterval ∧
    ∃ t, o.lastCompletedAt = some t ∧ r.ended ≤ t

section
variable [PyText] {W : World σ} (T : Timed W)

/-- The record of a work, run with an empty log. -/
def PhysicalOwner.record (w : Work) (o : PhysicalOwner σ) : WorkRecord :=
  let x := ((((o.map fun s => (s, [])).prepare T.logged w.settings).executor).execute
    T.logged w.batch).2
  ⟨w.settings, x.world.2, T.now x.world.1⟩

/-- The records of the works that the owner runs one after another. -/
def records : PhysicalOwner σ → List Work → List WorkRecord
  | _, [] => []
  | o, w :: ws => o.record T w :: records (o.runWork W w).2 ws

omit [PyText] in
theorem prepare_log (st : ExecutionSettings) (o : PhysicalOwner (Log σ)) :
    let x := (o.prepare T.logged st).executor
    x.settings = st ∧ x.world.2 = o.executor.world.2 ∧
      ∀ p t, o.previousInterval = some p → o.lastCompletedAt = some t →
        t + max p st.minCommandInterval ≤ T.now x.world.1 := by
  unfold PhysicalOwner.prepare PhysicalOwner.waitForInterval
  dsimp only
  split
  · rename_i p t hp ht
    have hw := T.now_waitUntil (max p st.minCommandInterval) t (W.idle o.executor.world.1)
    by_cases hrem : 0 < max p st.minCommandInterval - ((W.clock (W.idle o.executor.world.1)).1 - t)
    · simp only [hrem, if_true] at hw
      simp only [Timed.logged, hrem, if_true, hp, ht]
      exact ⟨trivial, trivial, fun _ _ hp' ht' => by cases hp'; cases ht'; exact hw⟩
    · simp only [hrem, if_false] at hw
      simp only [Timed.logged, hrem, if_false, hp, ht]
      exact ⟨trivial, trivial, fun _ _ hp' ht' => by cases hp'; cases ht'; exact hw⟩
  · rename_i hnone
    exact ⟨rfl, rfl, fun p t hp ht => absurd ht (hnone p t hp)⟩

/-- The executor with which a work starts, on an empty log. -/
def PhysicalOwner.prepared (w : Work) (o : PhysicalOwner σ) : DirectExecutor (Log σ) :=
  ((o.map fun s => (s, [])).prepare T.logged w.settings).executor

theorem record_added (w : Work) (o : PhysicalOwner σ) :
    Added T none (o.record T w).events (o.prepared T w) ((o.prepared T w).execute T.logged w.batch).2 := by
  obtain ⟨evs, ha⟩ := execute_added T w.batch (o.prepared T w)
  have hlog : (o.prepared T w).world.2 = [] := (prepare_log T w.settings _).2.1
  have hev : (o.record T w).events = evs := by
    show ((o.prepared T w).execute T.logged w.batch).2.world.2 = evs
    rw [ha.log, hlog, List.nil_append]
  exact hev ▸ ha

theorem record_spaced (w : Work) (o : PhysicalOwner σ) :
    Spaced w.settings.minCommandInterval none (o.record T w).events := by
  have hset : (o.prepared T w).settings = w.settings := (prepare_log T w.settings _).1
  exact hset ▸ (record_added T w o).spaced

theorem record_apart (w : Work) {o : PhysicalOwner σ} {r : WorkRecord} (hr : Remembers r o) :
    r.Apart (o.record T w) := by
  obtain ⟨hp, t, ht, hle⟩ := hr
  have hwait := (prepare_log T w.settings (o.map fun s => (s, []))).2.2 _ _ hp ht
  intro e he
  have hstart := (record_added T w o).start e he
  exact (add_le_add_left hle _).trans (hwait.trans hstart)

theorem record_remembered (w : Work) (o : PhysicalOwner σ) :
    Remembers (o.record T w) (o.runWork W w).2 := by
  have h := runWork_map T.logged_hom w (o.map fun s => (s, []))
  have ho : (o.map fun s => (s, ([] : List Event))).map Prod.fst = o := rfl
  rw [ho] at h
  rw [h]
  exact ⟨rfl, _, rfl, T.clock_start _⟩

/-- The records of a run, after a work that the owner remembers. -/
theorem records_chain (ws : List Work) {o : PhysicalOwner σ} {r : WorkRecord}
    (hr : Remembers r o) : (r :: records T o ws).IsChain WorkRecord.Apart := by
  induction ws generalizing o r with
  | nil => exact .singleton _
  | cons w ws ih =>
    exact List.isChain_cons_cons.2 ⟨record_apart T w hr, ih (record_remembered T w o)⟩

theorem records_spaced (ws : List Work) (o : PhysicalOwner σ) :
    ∀ r ∈ records T o ws, Spaced r.settings.minCommandInterval none r.events := by
  induction ws generalizing o with
  | nil => simp [records]
  | cons w ws ih =>
    intro r hr
    rcases List.mem_cons.1 hr with rfl | hr
    · exact record_spaced T w o
    · exact ih _ r hr

/-- **Command spacing.**  Whatever the works of a gateway are and however they end, the
    calls of each are spaced by its own interval, and its first write starts the larger of
    the two intervals after the executor call of the work before it. -/
theorem commands_spaced (x : DirectExecutor σ) (ws : List Work) :
    (records T (.new x) ws).IsChain WorkRecord.Apart ∧
      ∀ r ∈ records T (.new x) ws, Spaced r.settings.minCommandInterval none r.events := by
  refine ⟨?_, records_spaced T ws _⟩
  cases ws with
  | nil => exact .nil
  | cons w ws => exact records_chain T ws (record_remembered T w _)

end

end Spd3000
