/-
  The driver on a direct executor, and the driver on a gateway whose owner drives
  such an executor.

  The owner waits between batches and gives the executor the settings of a
  session, so the two executors differ in their timing.  `Untimed` says that what
  the instrument does depends on a view of the world that time does not touch;
  then the owner's executor does what the direct one does, its errors can be
  carried (`execute_deliverable`), and so whole programs end alike.
-/
import Spd3000.Remote
import Spd3000.Transports
import Spd3000.Owner

namespace Spd3000

variable {σ τ : Type}

/-! ## Time -/

/-- What a transport does depends on a view of the world that time does not touch. -/
structure World.Untimed (W : World σ) (view : σ → τ) : Prop where
  clock : ∀ s, view (W.clock s).2 = view s
  sleeper : ∀ d s, view (W.sleeper d s) = view s
  idle : ∀ s, view (W.idle s) = view s
  write : ∀ b s s', view s = view s' →
    (W.write b s).1 = (W.write b s').1 ∧ view (W.write b s).2 = view (W.write b s').2
  read : ∀ s s', view s = view s' →
    (W.read s).1 = (W.read s').1 ∧ view (W.read s).2 = view (W.read s').2

/-- Two executors on the same instrument, both open or both closed. -/
structure SameInstrument (view : σ → τ) (x y : DirectExecutor σ) : Prop where
  view : view x.world = view y.world
  closed : x.closed = y.closed

section
variable {W : World σ} {view : σ → τ} {x y : DirectExecutor σ}

theorem waitBeforeWrite_view (hW : W.Untimed view) (x : DirectExecutor σ) :
    view (x.waitBeforeWrite W).world = view x.world := by
  unfold DirectExecutor.waitBeforeWrite
  cases x.lastWriteAt with
  | none => rfl
  | some t =>
    dsimp only
    split_ifs
    · rw [hW.sleeper, hW.clock]
    · rw [hW.clock]

theorem attempt_untimed (hW : W.Untimed view) (h : view x.world = view y.world) (c : Command) :
    (x.attempt W c).1 = (y.attempt W c).1 ∧
      view (x.attempt W c).2.world = view (y.attempt W c).2.world := by
  have hwait : view (x.waitBeforeWrite W).world = view (y.waitBeforeWrite W).world := by
    rw [waitBeforeWrite_view hW, waitBeforeWrite_view hW, h]
  obtain ⟨hresult, hview⟩ := hW.write (DirectExecutor.line c) _ _ hwait
  unfold DirectExecutor.attempt
  dsimp only
  generalize W.write (DirectExecutor.line c) (x.waitBeforeWrite W).world = o at hresult hview ⊢
  generalize W.write (DirectExecutor.line c) (y.waitBeforeWrite W).world = o' at hresult hview ⊢
  obtain ⟨r, s⟩ := o
  obtain ⟨r', s'⟩ := o'
  obtain rfl : r = r' := hresult
  cases r with
  | error e => exact ⟨rfl, hview⟩
  | ok _ =>
    dsimp only
    split_ifs
    · have hslept (d d' : ℚ) :
          view (W.sleeper d (W.clock s).2) = view (W.sleeper d' (W.clock s').2) := by
        rw [hW.sleeper, hW.sleeper, hW.clock, hW.clock]
        exact hview
      obtain ⟨hresult, hview⟩ := hW.read _ _
        (hslept (x.waitBeforeWrite W).settings.minCommandInterval
          (y.waitBeforeWrite W).settings.minCommandInterval)
      generalize W.read (W.sleeper (x.waitBeforeWrite W).settings.minCommandInterval _) = o at *
      generalize W.read (W.sleeper (y.waitBeforeWrite W).settings.minCommandInterval _) = o' at *
      obtain ⟨r, s⟩ := o
      obtain ⟨r', s'⟩ := o'
      obtain rfl : r = r' := hresult
      cases r <;> exact ⟨rfl, hview⟩
    · refine ⟨rfl, ?_⟩
      rw [hW.clock, hW.clock]
      exact hview

variable [PyText]

theorem runFrom_untimed (hW : W.Untimed view) (cs : List Command) (index : ℕ)
    {x y : DirectExecutor σ} (h : view x.world = view y.world) :
    (x.runFrom W index cs).1 = (y.runFrom W index cs).1 ∧
      view (x.runFrom W index cs).2.world = view (y.runFrom W index cs).2.world := by
  induction cs generalizing index x y with
  | nil => exact ⟨rfl, h⟩
  | cons c cs ih =>
    obtain ⟨hresult, hview⟩ := attempt_untimed hW h c
    unfold DirectExecutor.runFrom DirectExecutor.runCommand
    generalize x.attempt W c = o at hresult hview ⊢
    generalize y.attempt W c = o' at hresult hview ⊢
    obtain ⟨r, x'⟩ := o
    obtain ⟨r', y'⟩ := o'
    obtain rfl : r = r' := hresult
    cases r with
    | error e => exact ⟨rfl, hview⟩
    | ok v =>
      obtain ⟨hresult, hview⟩ := ih (index + 1) hview
      exact ⟨congrArg (·.map (v :: ·)) hresult, hview⟩

theorem runFrom_closed (cs : List Command) (index : ℕ) (x : DirectExecutor σ) :
    (x.runFrom W index cs).2.closed = x.closed := by
  induction cs generalizing index x with
  | nil => rfl
  | cons c cs ih =>
    have hclosed := (DirectExecutor.attempt_frame W c x).2
    unfold DirectExecutor.runFrom DirectExecutor.runCommand
    generalize x.attempt W c = o at hclosed ⊢
    obtain ⟨r, x'⟩ := o
    cases r with
    | error e => exact hclosed
    | ok v => exact (ih (index + 1) x').trans hclosed

/-- The executors stay on the same instrument, with the same outcomes. -/
theorem execute_untimed (hW : W.Untimed view) (h : SameInstrument view x y) (b : CommandBatch) :
    (x.execute W b).1 = (y.execute W b).1 ∧
      SameInstrument view (x.execute W b).2 (y.execute W b).2 := by
  obtain ⟨hresult, hview⟩ := runFrom_untimed hW b.commands 0 h.view
  unfold DirectExecutor.execute
  rw [h.closed]
  split_ifs with hclosed
  · exact ⟨rfl, h⟩
  · refine ⟨congrArg (·.map BatchResult.mk) hresult, hview, ?_⟩
    exact (runFrom_closed b.commands 0 x).trans (h.closed.trans (runFrom_closed b.commands 0 y).symm)

/-! ## The owner -/

/-- What executes the batches of a session behind a gateway. -/
def PhysicalOwner.sessionExecutor (W : World σ) (session : Session) : Executor (PhysicalOwner σ) where
  execute b o := o.runWork W ⟨b, session.settings⟩
  aligned b o r o' h := by
    have hresult := congrArg Prod.fst h
    exact DirectExecutor.execute_length W (Prod.ext hresult rfl)

omit [PyText] in
theorem SameInstrument.trans {z : DirectExecutor σ} (h : SameInstrument view x y)
    (h' : SameInstrument view y z) : SameInstrument view x z :=
  ⟨h.view.trans h'.view, h.closed.trans h'.closed⟩

omit [PyText] in
theorem prepare_sameInstrument (hW : W.Untimed view) (settings : ExecutionSettings)
    (o : PhysicalOwner σ) :
    SameInstrument view o.executor (o.prepare W settings).executor := by
  refine ⟨?_, ?_⟩
  · unfold PhysicalOwner.prepare PhysicalOwner.waitForInterval
    dsimp only
    split
    · dsimp only
      split_ifs
      · rw [hW.sleeper, hW.clock, hW.idle]
      · rw [hW.clock, hW.idle]
    · exact (hW.idle _).symm
  · unfold PhysicalOwner.prepare PhysicalOwner.waitForInterval
    dsimp only
    split <;> rfl

/-- The owner does with a work what the executor does with its batch. -/
theorem runWork_untimed (hW : W.Untimed view) {o : PhysicalOwner σ}
    (h : SameInstrument view x o.executor) (w : Work) :
    (x.execute W w.batch).1 = (o.runWork W w).1 ∧
      SameInstrument view (x.execute W w.batch).2 (o.runWork W w).2.executor := by
  obtain ⟨hresult, hsame⟩ :=
    execute_untimed hW (h.trans (prepare_sameInstrument hW w.settings o)) w.batch
  exact ⟨hresult, hsame.trans ⟨(hW.clock _).symm, rfl⟩⟩

/-! ## Programs -/

/-- A batch that fits the messages of a gateway as request `n`, with its outcome. -/
structure FitsGateway (loads : Bytes → Except PyExc PyVal) (beats : ℕ → List PyStr) (n : ℕ)
    (o : Outcome) : Prop where
  count : o.1.commands.length ≤ MAX_BATCH_COMMANDS
  size : ∀ c ∈ o.1.commands, c.text.length ≤ MAX_COMMAND_BYTES
  heartbeats : ∀ s ∈ beats n, s ∈ HEARTBEAT_STATES
  request : Fits (executeMessage (.int n) o.1)
  response : Fits (finalResponse (.int n) o.2)
  roundTrips : ∀ m ∈ executeMessage (.int n) o.1 :: finalResponse (.int n) o.2 ::
    (beats n).map (heartbeatMessage (.int n)), RoundTrips loads m

/-- The batches of a log fit as requests from `n` on. -/
def AllFit (loads : Bytes → Except PyExc PyVal) (beats : ℕ → List PyStr) (n : ℕ)
    (log : List Outcome) : Prop :=
  ∀ i o, log[i]? = some o → FitsGateway loads beats (n + i) o

variable {loads : Bytes → Except PyExc PyVal} {beats : ℕ → List PyStr} {n : ℕ}

theorem FitsGateway.passes (hline : Json.OneLine) {b : CommandBatch}
    {outcome : Except PyExc BatchResult} (h : FitsGateway loads beats n (b, outcome))
    (hdeliverable : Deliverable b outcome) : Passes loads beats n b outcome where
  exchange := ⟨rfl, rfl, h.count, h.heartbeats, hdeliverable, h.request, h.response, h.roundTrips, hline⟩
  size := h.size

/-- The client has sent one request for each batch of the log, and the owner's executor is on the
    same instrument as the direct one. -/
structure OverGateway (view : σ → τ) (n : ℕ) (x : DirectExecutor σ × List Outcome)
    (x' : Remote (PhysicalOwner σ)) : Prop where
  client : x'.client = ⟨n + x.2.length, false, []⟩
  instrument : SameInstrument view x.1 x'.physical.executor

theorem gateway_simulates (hW : W.Untimed view) (hplain : W.RaisesPlain) (hline : Json.OneLine)
    (g : GatewayServer) (session : Session) :
    Simulates (DirectExecutor.executor W).observed
      (Remote.executor g (Json.codec loads) session beats
        (PhysicalOwner.sessionExecutor W session))
      (OverGateway view n) (fun x => AllFit loads beats n x.2) where
  before b x h i o hi := h i o (by
    show (x.2 ++ _)[i]? = some o
    rw [List.getElem?_append_left (List.getElem?_eq_some_iff.1 hi).1]
    exact hi)
  step b x x' hx h := by
    obtain ⟨client, o⟩ := x'
    obtain ⟨rfl, hinstrument⟩ := hx
    obtain ⟨hresult, hsame⟩ := runWork_untimed hW hinstrument ⟨b, session.settings⟩
    have hfits : FitsGateway loads beats (n + x.2.length) (b, (x.1.execute W b).1) :=
      h x.2.length _ List.getElem?_concat_length
    have hpasses := hfits.passes hline (execute_deliverable hplain b x.1)
    rw [hresult] at hpasses
    obtain ⟨r, hr, hexecute⟩ :=
      remote_execute (E := PhysicalOwner.sessionExecutor W session) g session hpasses
    rw [hexecute]
    refine ⟨?_, ⟨?_, hsame⟩⟩
    · show SameResult (x.1.execute W b).1 r
      rw [hresult]
      exact hr
    · show _ = GatewayExecutor.mk (n + (x.2 ++ [_]).length) false []
      rw [List.length_append, Nat.add_assoc]
      rfl

/-- **The driver over a gateway and its transport.**  On an instrument that does not depend on time,
    a program whose messages fit does on a driver over the gateway what it does on a driver over the
    transport itself, whatever the transport raises. -/
theorem driver_end_to_end (hW : W.Untimed view) (htransport : W.OnTransport) (hline : Json.OneLine)
    (hstr : StrOfArgs) (g : GatewayServer) (session : Session) {p : Program} (hp : p.Alike p)
    (d : SPD3000 (DirectExecutor σ)) (o : PhysicalOwner σ)
    (ho : SameInstrument view d.executor o.executor)
    (hlog : AllFit loads beats n (p.run (DirectExecutor.executor W).observed
      (d.moved (d.executor, []) d.deferreds)).2.executor.2) :
    SameResult
      (p.run (DirectExecutor.executor W).observed (d.moved (d.executor, []) d.deferreds)).1
      (p.run (Remote.executor g (Json.codec loads) session beats
        (PhysicalOwner.sessionExecutor W session)) (d.moved ⟨⟨n, false, []⟩, o⟩ d.deferreds)).1 ∧
    SameDriver (OverGateway view n)
      (p.run (DirectExecutor.executor W).observed (d.moved (d.executor, []) d.deferreds)).2
      (p.run (Remote.executor g (Json.codec loads) session beats
        (PhysicalOwner.sessionExecutor W session)) (d.moved ⟨⟨n, false, []⟩, o⟩ d.deferreds)).2 :=
  run_same (gateway_simulates hW htransport.raisesPlain hline g session) hstr hp
    ⟨⟨⟨n, false, []⟩, o⟩, d.deferreds, ⟨rfl, ho⟩, fun _ => .refl _, rfl⟩ hlog

end

/-! ## A program -/

/-- An instrument that answers every query with `1`, on a host where every call takes a second. -/
def promptLibrary : Library ℚ where
  writeRaw _ t := (.ok (), t + 1)
  readRaw t := (.ok (.bytes (encodeAscii "1" ++ [LF])), t + 1)
  clock t := (t, t)
  sleeper d t := t + d
  idle t := t + 1

theorem promptLibrary_raises : promptLibrary.RaisesExceptions := ⟨nofun, nofun⟩

theorem promptLibrary_untimed :
    (@VXI11Transport.world ℚ PyText.blank promptLibrary).Untimed LibraryTransport.closed where
  clock _ := rfl
  sleeper _ _ := rfl
  idle _ := rfl
  write b t t' h := by
    obtain ⟨closed, host⟩ := t
    obtain ⟨closed', host'⟩ := t'
    obtain rfl : closed = closed' := h
    cases closed <;> exact ⟨rfl, rfl⟩
  read t t' h := by
    obtain ⟨closed, host⟩ := t
    obtain ⟨closed', host'⟩ := t'
    obtain rfl : closed = closed' := h
    cases closed <;> exact ⟨rfl, rfl⟩

def promptExecutor : DirectExecutor (LibraryTransport ℚ) := ⟨.default, none, false, false, 0⟩

theorem prompt_log : (@Program.run _ PyText.blank (@DirectExecutor.executor PyText.blank _
      (@VXI11Transport.world ℚ PyText.blank promptLibrary)).observed batchThenSave
      (.make (promptExecutor, []) false)).2.executor.2 =
    [(onAndMeasure, .ok ⟨[none, some (lit "1")]⟩), (saveFirst, .ok ⟨[none]⟩)] := by
  with_unfolding_all rfl

theorem prompt_fits : @AllFit PyText.blank (@readBack PyText.blank savingMessages) savingBeats 2
    [(onAndMeasure, .ok ⟨[none, some (lit "1")]⟩), (saveFirst, .ok ⟨[none]⟩)] := by
  let _ : PyText := PyText.blank
  have hread := @readBack_roundTrips _ savingMessages (by decide +kernel)
  intro i o hi
  match i with
  | 0 =>
    cases hi
    exact ⟨by decide, by decide, by decide, ⟨_, rfl, by decide +kernel⟩,
      ⟨_, rfl, by decide +kernel⟩, fun m hm => hread m (List.mem_of_mem_take (i := 3) hm)⟩
  | 1 =>
    cases hi
    exact ⟨by decide, by decide, by decide, ⟨_, rfl, by decide +kernel⟩,
      ⟨_, rfl, by decide +kernel⟩, fun m hm => hread m (List.mem_of_mem_drop (i := 3) hm)⟩

theorem prompt_end_to_end :
    SameResult
      (@Program.run _ PyText.blank (@DirectExecutor.executor PyText.blank _
        (@VXI11Transport.world ℚ PyText.blank promptLibrary)).observed batchThenSave
        (.make (promptExecutor, []) false)).1
      (@Program.run _ PyText.blank (@Remote.executor _ PyText.blank openGateway
        (@Json.codec PyText.blank (@readBack PyText.blank savingMessages)) ⟨.default⟩ savingBeats
        (@PhysicalOwner.sessionExecutor _ PyText.blank
          (@VXI11Transport.world ℚ PyText.blank promptLibrary) ⟨.default⟩)) batchThenSave
        (.make ⟨⟨2, false, []⟩, ⟨promptExecutor, none, none⟩⟩ false)).1 ∧
    SameDriver (OverGateway LibraryTransport.closed 2)
      (@Program.run _ PyText.blank (@DirectExecutor.executor PyText.blank _
        (@VXI11Transport.world ℚ PyText.blank promptLibrary)).observed batchThenSave
        (.make (promptExecutor, []) false)).2
      (@Program.run _ PyText.blank (@Remote.executor _ PyText.blank openGateway
        (@Json.codec PyText.blank (@readBack PyText.blank savingMessages)) ⟨.default⟩ savingBeats
        (@PhysicalOwner.sessionExecutor _ PyText.blank
          (@VXI11Transport.world ℚ PyText.blank promptLibrary) ⟨.default⟩)) batchThenSave
        (.make ⟨⟨2, false, []⟩, ⟨promptExecutor, none, none⟩⟩ false)).2 := by
  let _ : PyText := PyText.blank
  refine driver_end_to_end promptLibrary_untimed (.vxi11 promptLibrary_raises)
    (fun _ => List.not_mem_nil) (fun _ _ _ _ _ => rfl) openGateway ⟨.default⟩ batchThenSave_alike
    (.make promptExecutor false) ⟨promptExecutor, none, none⟩ ⟨rfl, rfl⟩ ?_
  have hlog := prompt_log
  exact hlog ▸ prompt_fits

end Spd3000
