/-
  Labelled systems that emit events.

  A system has a partial step function on states; a run takes a list of labels
  and collects the events of its steps.  `System.invariant` is the induction rule
  for properties of the state and the history together.  The last section is
  about histories whose entries come in blocks.
-/
import Mathlib.Data.List.Basic
import Mathlib.Data.List.Range

namespace Runs

/-- A system with states `σ`, labels `α` and events `β`. -/
structure System (σ α β : Type) where
  step : α → σ → Option (σ × List β)

namespace System

variable {σ α β : Type} (M : System σ α β)

/-- The run over the given labels, if all its steps are enabled. -/
def run : List α → σ → Option (σ × List β)
  | [], s => some (s, [])
  | a :: as, s => match M.step a s with
    | none => none
    | some (t, es) => (run as t).map fun u => (u.1, es ++ u.2)

variable {M}

theorem run_cons {a : α} {as : List α} {s t u : σ} {es es' : List β}
    (h : M.step a s = some (t, es)) (h' : M.run as t = some (u, es')) :
    M.run (a :: as) s = some (u, es ++ es') := by
  rw [run, h]
  simp only [h', Option.map_some]

theorem run_append {as bs : List α} {s t u : σ} {es es' : List β}
    (h : M.run as s = some (t, es)) (h' : M.run bs t = some (u, es')) :
    M.run (as ++ bs) s = some (u, es ++ es') := by
  induction as generalizing s es with
  | nil =>
    cases h
    exact h'
  | cons a as ih =>
    rw [run] at h
    cases hstep : M.step a s with
    | none => rw [hstep] at h; cases h
    | some next =>
      obtain ⟨s', es₁⟩ := next
      rw [hstep] at h
      obtain ⟨⟨t', es₂⟩, hrun, heq⟩ := Option.map_eq_some_iff.1 h
      cases heq
      rw [List.append_assoc]
      exact run_cons hstep (ih hrun)

/-- A property of state and history that every step with one of the labels keeps holds along
    the run. -/
theorem invariant_of {P : σ → List β → Prop} {as : List α}
    (hstep : ∀ a ∈ as, ∀ s es t es', P s es → M.step a s = some (t, es') → P t (es ++ es'))
    {s t : σ} {es es' : List β} (hs : P s es) (h : M.run as s = some (t, es')) :
    P t (es ++ es') := by
  induction as generalizing s es es' with
  | nil =>
    cases h
    rwa [List.append_nil]
  | cons a as ih =>
    rw [run] at h
    cases hnext : M.step a s with
    | none => rw [hnext] at h; cases h
    | some next =>
      obtain ⟨s', es₁⟩ := next
      rw [hnext] at h
      obtain ⟨⟨t', es₂⟩, hrun, heq⟩ := Option.map_eq_some_iff.1 h
      cases heq
      rw [← List.append_assoc]
      exact ih (fun b hb => hstep b (List.mem_cons_of_mem _ hb))
        (hstep a List.mem_cons_self s es s' es₁ hs hnext) hrun

/-- A property of state and history that every step keeps holds along every run. -/
theorem invariant {P : σ → List β → Prop}
    (hstep : ∀ s es a t es', P s es → M.step a s = some (t, es') → P t (es ++ es'))
    {as : List α} {s t : σ} {es es' : List β} (hs : P s es) (h : M.run as s = some (t, es')) :
    P t (es ++ es') :=
  invariant_of (fun a _ s es t es' => hstep s es a t es') hs h

/-- If some label is always enabled until a goal is reached, and decreases a measure, then the
    goal is reached. -/
theorem reaches (measure : σ → ℕ) (goal : σ → Prop) {P : σ → List β → Prop} (a : α)
    (hstep : ∀ s es t es', P s es → M.step a s = some (t, es') → P t (es ++ es'))
    (hprogress : ∀ s es, P s es → goal s ∨
      ∃ t es', M.step a s = some (t, es') ∧ measure t < measure s)
    {s : σ} {es : List β} (hs : P s es) :
    ∃ n t es', M.run (List.replicate n a) s = some (t, es') ∧ P t (es ++ es') ∧ goal t := by
  induction hm : measure s using Nat.strong_induction_on generalizing s es with
  | _ m ih =>
    rcases hprogress s es hs with hgoal | ⟨t, es₁, ht, hlt⟩
    · exact ⟨0, s, [], rfl, by rwa [List.append_nil], hgoal⟩
    · obtain ⟨n, u, es₂, hrun, hu, hgoal⟩ := ih _ (hm ▸ hlt) (hstep s es t es₁ hs ht) rfl
      exact ⟨n + 1, u, es₁ ++ es₂, run_cons ht hrun, by rwa [← List.append_assoc], hgoal⟩

end System

/-! ## Histories in blocks -/

variable {β : Type} {key : β → ℕ}

/-- In an ordered history, the entries of the least of some keys come first. -/
theorem filter_mem_cons {l : List β} (h : l.Pairwise fun a b => key a ≤ key b) {k : ℕ}
    {ks : List ℕ} (hk : ∀ k' ∈ ks, k < k') :
    l.filter (key · ∈ k :: ks) = l.filter (key · = k) ++ l.filter (key · ∈ ks) := by
  have hmem : k ∉ ks := fun hmem => (hk k hmem).false
  induction l with
  | nil => rfl
  | cons a l ih =>
    rw [List.pairwise_cons] at h
    by_cases ha : key a = k
    · have hnot : key a ∉ ks := ha ▸ hmem
      rw [List.filter_cons_of_pos (by simp [ha]), List.filter_cons_of_pos (by simpa using ha),
        List.filter_cons_of_neg (by simpa using hnot), ih h.2, List.cons_append]
    · by_cases hks : key a ∈ ks
      · have hnil : l.filter (key · = k) = [] := by
          rw [List.filter_eq_nil_iff]
          intro b hb
          have hlt := (hk _ hks).trans_le (h.1 b hb)
          simpa using hlt.ne'
        have hrest := ih h.2
        rw [hnil, List.nil_append] at hrest
        rw [List.filter_cons_of_pos (by simp [hks]), List.filter_cons_of_neg (by simpa using ha),
          List.filter_cons_of_pos (by simpa using hks), hnil, List.nil_append, hrest]
      · rw [List.filter_cons_of_neg (by simp [ha, hks]), List.filter_cons_of_neg (by simpa using ha),
          List.filter_cons_of_neg (by simpa using hks), ih h.2]

/-- The entries of an ordered history with keys from an increasing list are the concatenation
    of its blocks. -/
theorem filter_mem_eq_flatMap {l : List β} (h : l.Pairwise fun a b => key a ≤ key b) {ks : List ℕ}
    (hks : ks.Pairwise (· < ·)) :
    l.filter (key · ∈ ks) = ks.flatMap fun k => l.filter (key · = k) := by
  induction ks with
  | nil => simp
  | cons k ks ih =>
    rw [List.pairwise_cons] at hks
    rw [filter_mem_cons h hks.1, List.flatMap_cons, ih hks.2]

end Runs
