/-
  Command spacing of a direct executor over many calls of `execute`, any of which
  may fail (`DirectExecutor.execute`, `_wait_before_write`).

  The log holds the attempts to write, whether they raise or not.  The executor
  remembers a write that succeeded (`Remembering`); of one that raised it knows
  nothing, so only a caller that rests before the next call keeps the distance
  (`Rested`).
-/
import Spd3000.Spacing

namespace Spd3000

variable {σ : Type}

/-! ## Attempts to write -/

/-- A call of `transport.write`: when it started and ended, and whether it raised. -/
structure WriteAttempt where
  start : ℚ
  stop : ℚ
  raised : Bool
  deriving DecidableEq

/-- Each attempt starts at least `d` after the end of the one before it. -/
def Apart (d : ℚ) (log : List WriteAttempt) : Prop := log.IsChain fun a b => a.stop + d ≤ b.start

namespace Timed
variable {W : World σ} (T : Timed W)

/-- The world with a log of the attempts to write. -/
def attempting : World (σ × List WriteAttempt) where
  clock s := ((W.clock s.1).1, (W.clock s.1).2, s.2)
  sleeper d s := (W.sleeper d s.1, s.2)
  idle s := (W.idle s.1, s.2)
  write b s :=
    let (r, s') := W.write b s.1
    (r, s', s.2 ++ [⟨T.now s.1, T.now s', !r.isOk⟩])
  read s := ((W.read s.1).1, (W.read s.1).2, s.2)

/-- Keeping this log changes nothing else. -/
theorem attempting_hom : T.attempting.Hom W Prod.fst := ⟨fun _ => rfl, fun _ _ => rfl,
  fun _ => rfl, fun _ _ => rfl, fun _ => rfl⟩

theorem attempting_write {b : Bytes} {s s' : σ × List WriteAttempt} {r : Except PyExc Unit}
    (h : T.attempting.write b s = (r, s')) :
    s'.2 = s.2 ++ [⟨T.now s.1, T.now s'.1, !r.isOk⟩] := by
  cases h
  rfl

theorem attempting_read {s s' : σ × List WriteAttempt} {r : Except PyExc Bytes}
    (h : T.attempting.read s = (r, s')) : s'.2 = s.2 := by
  cases h
  rfl

end Timed

section
variable {W : World σ} (T : Timed W)

/-- The attempts so far keep the distance, and the executor knows when the last one ended,
    unless it raised. -/
structure Remembering (x : DirectExecutor (σ × List WriteAttempt)) : Prop where
  apart : Apart x.settings.minCommandInterval x.world.2
  known : ∀ a ∈ x.world.2.getLast?, a.raised = false → ∃ t, x.lastWriteAt = some t ∧ a.stop ≤ t

/-- After an attempt that raised, the command interval has passed. -/
def Rested (x : DirectExecutor (σ × List WriteAttempt)) : Prop :=
  ∀ a ∈ x.world.2.getLast?, a.raised →
    a.stop + x.settings.minCommandInterval ≤ T.now x.world.1

/-! ## One command -/

/-- After the wait, the distance to the last attempt is kept. -/
theorem waitBeforeWrite_apart {x : DirectExecutor (σ × List WriteAttempt)} (hx : Remembering x)
    (hr : Rested T x) :
    (x.waitBeforeWrite T.attempting).world.2 = x.world.2 ∧
      ∀ a ∈ x.world.2.getLast?, a.stop + x.settings.minCommandInterval ≤
        T.now (x.waitBeforeWrite T.attempting).world.1 := by
  unfold DirectExecutor.waitBeforeWrite
  cases hl : x.lastWriteAt with
  | none =>
    refine ⟨rfl, fun a ha => ?_⟩
    cases hraised : a.raised with
    | true => exact hr a ha hraised
    | false =>
      obtain ⟨t, ht, -⟩ := hx.known a ha hraised
      rw [hl] at ht
      cases ht
  | some t =>
    have hwait := T.now_waitUntil x.settings.minCommandInterval t x.world.1
    have hle := T.le_waitUntil x.settings.minCommandInterval t x.world.1
    have hstop : ∀ a ∈ x.world.2.getLast?, a.raised = false → a.stop ≤ t := by
      intro a ha hraised
      obtain ⟨t', ht', hat⟩ := hx.known a ha hraised
      rw [hl] at ht'
      cases ht'
      exact hat
    have hkept : ∀ now : ℚ, t + x.settings.minCommandInterval ≤ now → T.now x.world.1 ≤ now →
        ∀ a ∈ x.world.2.getLast?, a.stop + x.settings.minCommandInterval ≤ now := by
      intro now hlast hnow a ha
      cases hraised : a.raised with
      | true => exact (hr a ha hraised).trans hnow
      | false =>
        have := hstop a ha hraised
        linarith
    by_cases hp : 0 < x.settings.minCommandInterval - ((W.clock x.world.1).1 - t)
    · simp only [hp, if_true] at hwait hle
      simp only [Timed.attempting, hp, if_true]
      exact ⟨trivial, hkept _ hwait hle⟩
    · simp only [hp, if_false] at hwait hle
      simp only [Timed.attempting, hp, if_false]
      exact ⟨trivial, hkept _ hwait hle⟩

/-- A further attempt that keeps its distance. -/
theorem apart_concat {d : ℚ} {log : List WriteAttempt} {a : WriteAttempt} (h : Apart d log)
    (hlast : ∀ b ∈ log.getLast?, b.stop + d ≤ a.start) : Apart d (log ++ [a]) := by
  rw [Apart, List.isChain_append]
  refine ⟨h, .singleton a, fun b hb c hc => ?_⟩
  rw [List.head?_cons, Option.mem_some_iff] at hc
  subst hc
  exact hlast b hb

/-- The state after one further attempt, whatever has happened since. -/
theorem Remembering.attempted {x z : DirectExecutor (σ × List WriteAttempt)} {a : WriteAttempt}
    (hx : Remembering x)
    (hlast : ∀ b ∈ x.world.2.getLast?, b.stop + x.settings.minCommandInterval ≤ a.start)
    (hsettings : z.settings = x.settings) (hlog : z.world.2 = x.world.2 ++ [a])
    (hknown : a.raised = false → ∃ t, z.lastWriteAt = some t ∧ a.stop ≤ t) : Remembering z := by
  refine ⟨?_, fun b hb hraised => ?_⟩
  · rw [hlog, hsettings]
    exact apart_concat hx.apart hlast
  · rw [hlog, List.getLast?_concat, Option.mem_some_iff] at hb
    subst hb
    exact hknown hraised

/-- No rest is needed after a write that succeeded. -/
theorem rested_of_written {z : DirectExecutor (σ × List WriteAttempt)} {log : List WriteAttempt}
    {a : WriteAttempt} (hlog : z.world.2 = log ++ [a]) (ha : a.raised = false) : Rested T z := by
  intro b hb hraised
  rw [hlog, List.getLast?_concat, Option.mem_some_iff] at hb
  subst hb
  exact absurd (hraised.symm.trans ha) Bool.true_eq_false.mp

/-- One command keeps the distance; if it did not raise, the next one will. -/
theorem attempt_apart (c : Command) {x : DirectExecutor (σ × List WriteAttempt)}
    (hx : Remembering x) (hr : Rested T x) :
    Remembering (x.attempt T.attempting c).2 ∧
      ((x.attempt T.attempting c).1.isOk → Rested T (x.attempt T.attempting c).2) := by
  obtain ⟨hlog, hkept⟩ := waitBeforeWrite_apart T hx hr
  have hsettings := DirectExecutor.waitBeforeWrite_settings T.attempting x
  have ha := DirectExecutor.attempt_spec T.attempting c x
  generalize x.attempt T.attempting c = p at ha ⊢
  obtain ⟨r, x'⟩ := p
  generalize x.waitBeforeWrite T.attempting = y at ha hlog hkept hsettings
  have hwritten : ∀ {r' : Except PyExc Unit} {s : σ × List WriteAttempt},
      T.attempting.write (DirectExecutor.line c) y.world = (r', s) →
      s.2 = x.world.2 ++ [⟨T.now y.world.1, T.now s.1, !r'.isOk⟩] := by
    intro r' s hw
    rw [T.attempting_write hw, hlog]
  cases ha with
  | writeFailed hw =>
    have hs := hwritten hw
    exact ⟨hx.attempted hkept hsettings hs (fun h => by cases h), fun h => by cases h⟩
  | @written s hw hq =>
    have hs := hwritten hw
    exact ⟨hx.attempted hkept hsettings hs (fun _ => ⟨_, rfl, T.clock_start s.1⟩),
      fun _ => rested_of_written T hs rfl⟩
  | @readFailed s e s' hw hq hread =>
    have hs := hwritten hw
    have hs' : s'.2 = _ := (T.attempting_read hread).trans hs
    exact ⟨hx.attempted hkept hsettings hs' (fun _ => ⟨_, rfl, T.clock_start s.1⟩),
      fun h => by cases h⟩
  | @answered s data s' hw hq hread =>
    have hs := hwritten hw
    have hs' : s'.2 = _ := (T.attempting_read hread).trans hs
    exact ⟨hx.attempted hkept hsettings hs' (fun _ => ⟨_, rfl, T.clock_start s.1⟩),
      fun _ => rested_of_written T hs' rfl⟩

/-! ## Calls of `execute` -/

/-- A call of `execute`, and the time that passes before it. -/
structure ExecuteCall where
  pause : σ → σ
  forward : ∀ s, T.now s ≤ T.now (pause s)
  batch : CommandBatch

/-- The executor when it is called. -/
def ExecuteCall.reach (c : ExecuteCall T) (x : DirectExecutor (σ × List WriteAttempt)) :
    DirectExecutor (σ × List WriteAttempt) :=
  { x with world := (c.pause x.world.1, x.world.2) }

variable [PyText]

/-- The executor after a sequence of calls, whatever they return or raise. -/
def executeCalls : List (ExecuteCall T) → DirectExecutor (σ × List WriteAttempt) →
    DirectExecutor (σ × List WriteAttempt)
  | [], x => x
  | c :: cs, x => executeCalls cs ((c.reach T x).execute T.attempting c.batch).2

/-- The same calls of an executor that keeps no log. -/
def plainCalls : List (ExecuteCall T) → DirectExecutor σ → DirectExecutor σ
  | [], x => x
  | c :: cs, x => plainCalls cs ({ x with world := c.pause x.world }.execute W c.batch).2

theorem executeCalls_map (calls : List (ExecuteCall T))
    (x : DirectExecutor (σ × List WriteAttempt)) :
    (executeCalls T calls x).map Prod.fst = plainCalls T calls (x.map Prod.fst) := by
  induction calls generalizing x with
  | nil => rfl
  | cons c cs ih =>
    have hcall := execute_map T.attempting_hom c.batch (c.reach T x)
    have hreach : (c.reach T x).map Prod.fst =
        { x.map Prod.fst with world := c.pause (x.map Prod.fst).world } := rfl
    rw [executeCalls, plainCalls, ih, ← hreach, hcall]
    rfl

/-- In a sequence of calls, each call after a write that raised comes after a rest. -/
def AllRested : List (ExecuteCall T) → DirectExecutor (σ × List WriteAttempt) → Prop
  | [], _ => True
  | c :: cs, x => Rested T (c.reach T x) ∧
      AllRested cs ((c.reach T x).execute T.attempting c.batch).2

/-- The attempts to write of a sequence of calls. -/
def attempts (calls : List (ExecuteCall T)) (x : DirectExecutor σ) : List WriteAttempt :=
  (executeCalls T calls (x.map fun s => (s, []))).world.2

theorem runFrom_apart (cs : List Command) :
    ∀ (index : ℕ) {x : DirectExecutor (σ × List WriteAttempt)}, Remembering x → Rested T x →
      Remembering (x.runFrom T.attempting index cs).2 ∧
        (x.runFrom T.attempting index cs).2.settings = x.settings := by
  induction cs with
  | nil => exact fun _ _ hx _ => ⟨hx, rfl⟩
  | cons c cs ih =>
    intro index x hx hr
    obtain ⟨hx', hr'⟩ := attempt_apart T c hx hr
    have hsettings := (DirectExecutor.attempt_frame T.attempting c x).1
    unfold DirectExecutor.runFrom DirectExecutor.runCommand
    generalize x.attempt T.attempting c = a at hx' hr' hsettings
    obtain ⟨r, y⟩ := a
    cases r with
    | error e => exact ⟨hx', hsettings⟩
    | ok v =>
      obtain ⟨hz, hz'⟩ := ih (index + 1) hx' (hr' rfl)
      exact ⟨hz, hz'.trans hsettings⟩

theorem execute_apart (b : CommandBatch) {x : DirectExecutor (σ × List WriteAttempt)}
    (hx : Remembering x) (hr : Rested T x) : Remembering (x.execute T.attempting b).2 ∧
      (x.execute T.attempting b).2.settings = x.settings := by
  unfold DirectExecutor.execute
  split_ifs
  · exact ⟨hx, rfl⟩
  · exact runFrom_apart T b.commands 0 hx hr

theorem executeCalls_apart (calls : List (ExecuteCall T)) {x : DirectExecutor (σ × List WriteAttempt)}
    (hx : Remembering x) (hr : AllRested T calls x) :
    Apart x.settings.minCommandInterval (executeCalls T calls x).world.2 := by
  induction calls generalizing x with
  | nil => exact hx.apart
  | cons c cs ih =>
    obtain ⟨hrested, hrest⟩ := hr
    have hreach : Remembering (c.reach T x) := ⟨hx.apart, hx.known⟩
    obtain ⟨hnext, hsettings⟩ := execute_apart T c.batch hreach hrested
    have happly := ih hnext hrest
    rw [hsettings] at happly
    exact happly

/-- **Direct command spacing.**  The attempts are logged while the executor does what it does
    without a log.  Over any sequence of calls, failed ones included, they keep the command
    interval if the caller rests after every write that raised. -/
theorem attempts_apart (calls : List (ExecuteCall T)) (x : DirectExecutor σ)
    (h : AllRested T calls (x.map fun s => (s, []))) :
    (executeCalls T calls (x.map fun s => (s, []))).map Prod.fst = plainCalls T calls x ∧
      Apart x.settings.minCommandInterval (attempts T calls x) :=
  ⟨executeCalls_map T calls _,
    executeCalls_apart T calls (x := x.map fun s => (s, [])) ⟨.nil, fun _ ha => by cases ha⟩ h⟩

end

/-! ## A write that raises -/

/-- A world in which time passes and every write fails after a millisecond. -/
def unpluggedWorld : World ℚ :=
  { tickingWorld with write := fun _ s => (.error (.msg .osError "unplugged"), s + 1 / 1000) }

theorem le_add_millisecond (q : ℚ) : q ≤ q + 1 / 1000 := le_add_of_nonneg_right (by norm_num)

def unplugged : Timed unpluggedWorld where
  now := ticking.now
  clock_start := ticking.clock_start
  clock_stop := ticking.clock_stop
  sleeper := ticking.sleeper
  idle := ticking.idle
  write _ q := le_add_millisecond q
  read := ticking.read

/-- A query after a pause. -/
def retryAfter (pause : ℚ) (h : 0 ≤ pause) : ExecuteCall unplugged where
  pause s := s + pause
  forward _ := le_add_of_nonneg_right h
  batch := ⟨[.query ⟨"*LOCK?", by decide⟩], List.cons_ne_nil _ _⟩

/-- An executor with the default settings. -/
def freshExecutor : DirectExecutor ℚ := ⟨.default, none, false, 0⟩

/-- What such an executor logs when its caller retries once, after a pause. -/
theorem attempts_retry (pause : ℚ) (h : 0 ≤ pause) :
    @attempts _ _ unplugged PyText.blank [retryAfter 0 le_rfl, retryAfter pause h] freshExecutor =
      [⟨0, 1 / 1000, true⟩, ⟨1 / 1000 + pause, 1 / 1000 + pause + 1 / 1000, true⟩] := by
  show [WriteAttempt.mk (0 + 0) (0 + 0 + 1 / 1000) true,
    ⟨0 + 0 + 1 / 1000 + pause, 0 + 0 + 1 / 1000 + pause + 1 / 1000, true⟩] = _
  simp only [add_zero, zero_add]

/-- A caller that retries at once writes again within the command interval. -/
theorem retry_not_apart : ¬ Apart freshExecutor.settings.minCommandInterval
    (@attempts _ _ unplugged PyText.blank [retryAfter 0 le_rfl, retryAfter 0 le_rfl]
      freshExecutor) := by
  rw [attempts_retry, Apart, List.isChain_pair]
  show ¬ (1 / 1000 + 1 / 10 ≤ 1 / 1000 + (0 : ℚ))
  norm_num

theorem attempts_apart_rested : Apart freshExecutor.settings.minCommandInterval
    (@attempts _ _ unplugged PyText.blank [retryAfter 0 le_rfl, retryAfter (1 / 5) (by norm_num)]
      freshExecutor) := by
  let _ : PyText := PyText.blank
  refine (attempts_apart unplugged [retryAfter 0 le_rfl, retryAfter (1 / 5) (by norm_num)]
    freshExecutor ⟨fun a ha => (List.not_mem_nil (List.mem_of_getLast? ha)).elim,
      fun a ha _ => ?_, trivial⟩).2
  cases ha
  show (0 : ℚ) + 0 + 1 / 1000 + 1 / 10 ≤ 0 + 0 + 1 / 1000 + 1 / 5
  norm_num

end Spd3000
