/-
  Programs that make calls to the world outside.

  A script has ended, or makes a call and goes on with what the call returns or
  raises.  `Runs` says which calls a script makes, with which results, and how it
  ends, whatever the world does; `Ends` is a postcondition of all its runs, with a
  rule for each way to put scripts together.  A ledger keeps account of what the
  calls of a run open and close.
-/
import Mathlib.Data.List.Basic

/-- A program with calls `κ`, where call `k` returns a `ρ k`, exceptions `ε` and results `α`. -/
inductive Script (κ : Type) (ρ : κ → Type) (ε α : Type) where
  | done (r : Except ε α)
  | call (k : κ) (next : Except ε (ρ k) → Script κ ρ ε α)

namespace Script

variable {κ : Type} {ρ : κ → Type} {ε α β : Type}

/-! ## Programs -/

protected def bind : Script κ ρ ε α → (α → Script κ ρ ε β) → Script κ ρ ε β
  | done (.ok a), f => f a
  | done (.error e), _ => done (.error e)
  | call k next, f => call k fun o => (next o).bind f

instance : Monad (Script κ ρ ε) where
  pure a := done (.ok a)
  bind := Script.bind

def raise (e : ε) : Script κ ρ ε α := done (.error e)

def perform (k : κ) : Script κ ρ ε (ρ k) := call k done

/-- The script with its result, or its exception, as a value. -/
def attempt : Script κ ρ ε α → Script κ ρ ε (Except ε α)
  | done r => done (.ok r)
  | call k next => call k fun o => (next o).attempt

/-- The statement `try: s`, with a handler for any exception. -/
def catchWith (s : Script κ ρ ε α) (handler : ε → Script κ ρ ε α) : Script κ ρ ε α :=
  s.attempt >>= fun
    | .ok a => pure a
    | .error e => handler e

/-- The statement `try: s finally: f`; an exception of `f` replaces one of `s`. -/
def finallyDo (s : Script κ ρ ε α) (f : Script κ ρ ε Unit) : Script κ ρ ε α :=
  s.attempt >>= fun r => f >>= fun _ => done r

/-! ## Runs -/

/-- A call with its result. -/
structure Event (κ : Type) (ρ : κ → Type) (ε : Type) where
  call : κ
  result : Except ε (ρ call)

/-- The events of a run, and how it ends. -/
inductive Runs : Script κ ρ ε α → List (Event κ ρ ε) → Except ε α → Prop
  | done (r : Except ε α) : Runs (done r) [] r
  | call {k next es r} (o : Except ε (ρ k)) : Runs (next o) es r →
      Runs (call k next) (⟨k, o⟩ :: es) r

/-! ## Postconditions -/

/-- Every run ends with `Q`. -/
def Ends : Script κ ρ ε α → (List (Event κ ρ ε) → Except ε α → Prop) → Prop
  | done r, Q => Q [] r
  | call k next, Q => ∀ o, (next o).Ends fun es r => Q (⟨k, o⟩ :: es) r

section
variable {s : Script κ ρ ε α} {Q Q' : List (Event κ ρ ε) → Except ε α → Prop}

theorem ends_iff : s.Ends Q ↔ ∀ es r, s.Runs es r → Q es r := by
  induction s generalizing Q with
  | done r =>
    constructor
    · intro h es r' hr
      cases hr
      exact h
    · exact fun h => h [] r (.done r)
  | call k next ih =>
    constructor
    · intro h es r hr
      cases hr with
      | call o hrun => exact (ih o).1 (h o) _ _ hrun
    · exact fun h o => (ih o).2 fun es r hrun => h _ _ (.call o hrun)

theorem Ends.mono (h : s.Ends Q) (hQ : ∀ es r, Q es r → Q' es r) : s.Ends Q' :=
  ends_iff.2 fun es r hr => hQ es r (ends_iff.1 h es r hr)

@[simp] theorem ends_done {r : Except ε α} : (done r : Script κ ρ ε α).Ends Q ↔ Q [] r := .rfl

@[simp] theorem ends_pure {a : α} : (pure a : Script κ ρ ε α).Ends Q ↔ Q [] (.ok a) := .rfl

@[simp] theorem ends_raise {e : ε} : (raise e : Script κ ρ ε α).Ends Q ↔ Q [] (.error e) := .rfl

/-- A sequence: the second script continues the log of the first one, unless this has raised. -/
theorem ends_bind {f : α → Script κ ρ ε β} {Q : List (Event κ ρ ε) → Except ε β → Prop} :
    (s >>= f).Ends Q ↔ s.Ends fun es r => match r with
      | .ok a => (f a).Ends fun es' r' => Q (es ++ es') r'
      | .error e => Q es (.error e) := by
  show (s.bind f).Ends Q ↔ _
  induction s generalizing Q with
  | done r => cases r <;> rfl
  | call k next ih => exact forall_congr' fun o => ih o

theorem ends_attempt {Q : List (Event κ ρ ε) → Except ε (Except ε α) → Prop} :
    s.attempt.Ends Q ↔ s.Ends fun es r => Q es (.ok r) := by
  induction s generalizing Q with
  | done r => rfl
  | call k next ih => exact forall_congr' fun o => ih o

theorem ends_catchWith {handler : ε → Script κ ρ ε α} :
    (s.catchWith handler).Ends Q ↔ s.Ends fun es r => match r with
      | .ok a => Q es (.ok a)
      | .error e => (handler e).Ends fun es' r' => Q (es ++ es') r' := by
  rw [catchWith, ends_bind, ends_attempt]
  refine iff_of_eq (congrArg s.Ends (funext fun es => funext fun r => ?_))
  cases r with
  | ok a => exact congrArg (Q · (.ok a)) (List.append_nil es)
  | error e => rfl

/-- A handler that only raises, where the postcondition does not ask what. -/
theorem Ends.catchWith {handler : ε → Script κ ρ ε α} (h : s.Ends Q)
    (hhandler : ∀ e, ∃ e', handler e = raise e')
    (hQ : ∀ es e e', Q es (.error e) → Q es (.error e')) : (s.catchWith handler).Ends Q := by
  rw [ends_catchWith]
  refine h.mono fun es r hr => ?_
  cases r with
  | ok a => exact hr
  | error e =>
    obtain ⟨e', he'⟩ := hhandler e
    show (handler e).Ends _
    rw [he', ends_raise, List.append_nil]
    exact hQ es e e' hr

end

/-! ## What is open -/

/-- What a call opens when it returns, what is no longer open after an event, and what a call needs
    open. -/
structure Ledger (κ : Type) (ρ : κ → Type) (ε η : Type) where
  opens : κ → List η
  closes : Event κ ρ ε → List η
  uses : κ → List η

variable {η : Type} [DecidableEq η]

/-- What is open after an event. -/
def Ledger.entry (L : Ledger κ ρ ε η) (held : List η) (e : Event κ ρ ε) : List η :=
  let kept := held.filter (· ∉ L.closes e)
  match e.result with
  | .ok _ => kept ++ L.opens e.call
  | .error _ => kept

/-- What is open after some events. -/
def Ledger.after (L : Ledger κ ρ ε η) (held : List η) (es : List (Event κ ρ ε)) : List η :=
  es.foldl L.entry held

theorem Ledger.after_append (L : Ledger κ ρ ε η) (held : List η) (es es' : List (Event κ ρ ε)) :
    L.after held (es ++ es') = L.after (L.after held es) es' := List.foldl_append ..

/-- Every call finds open what it needs, but for the uses that an earlier event excuses. -/
def Ledger.respects (L : Ledger κ ρ ε η) (excuse : Event κ ρ ε → List η) (held excused : List η) :
    List (Event κ ρ ε) → Bool
  | [] => true
  | e :: es => (L.uses e.call).all (· ∈ held ++ excused) &&
      L.respects excuse (L.entry held e) (excused ++ excuse e) es

section
variable {L : Ledger κ ρ ε η} {excuse excuse' : Event κ ρ ε → List η}
  {held excused excused' : List η} {es es' : List (Event κ ρ ε)}

theorem Ledger.respects_cons {e : Event κ ρ ε} : L.respects excuse held excused (e :: es) ↔
    (∀ h ∈ L.uses e.call, h ∈ held ++ excused) ∧
      L.respects excuse (L.entry held e) (excused ++ excuse e) es := by
  rw [Ledger.respects, Bool.and_eq_true, List.all_eq_true]
  simp only [decide_eq_true_eq]

theorem Ledger.respects_append (h : L.respects excuse held excused es)
    (h' : L.respects excuse (L.after held es) (excused ++ es.flatMap excuse) es') :
    L.respects excuse held excused (es ++ es') := by
  induction es generalizing held excused with
  | nil => rwa [List.flatMap_nil, List.append_nil] at h'
  | cons e es ih =>
    obtain ⟨huses, hes⟩ := respects_cons.1 h
    rw [List.flatMap_cons, ← List.append_assoc] at h'
    exact respects_cons.2 ⟨huses, ih hes h'⟩

/-- With more excuses. -/
theorem Ledger.respects_mono (h : L.respects excuse held excused es)
    (hexcuse : ∀ e, excuse e ⊆ excuse' e) (hexcused : excused ⊆ excused') :
    L.respects excuse' held excused' es := by
  induction es generalizing held excused excused' with
  | nil => rfl
  | cons e es ih =>
    obtain ⟨huses, hes⟩ := respects_cons.1 h
    refine respects_cons.2 ⟨fun x hx => ?_, ih hes fun x hx => ?_⟩
    · exact List.mem_append.2 ((List.mem_append.1 (huses x hx)).imp_right (hexcused ·))
    · exact List.mem_append.2 ((List.mem_append.1 hx).imp (hexcused ·) (hexcuse e ·))

end

end Script
