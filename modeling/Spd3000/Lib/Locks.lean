/-
  Reentrant locks.

  A lock is free, or held by one thread that has acquired it once and some
  further times; no other state can be built.  `acquire` is undefined where the
  caller would wait, `release` where the caller does not hold the lock.
-/
import Mathlib.Data.List.Basic

/-- A reentrant lock of the threads `τ`. -/
inductive RLock (τ : Type) where
  | free
  | held (owner : τ) (again : ℕ)

namespace RLock

variable {τ : Type} [DecidableEq τ]

/-- How often a thread holds the lock. -/
def depth (t : τ) : RLock τ → ℕ
  | free => 0
  | held u n => if u = t then n + 1 else 0

def acquire (t : τ) : RLock τ → Option (RLock τ)
  | free => some (held t 0)
  | held u n => if u = t then some (held t (n + 1)) else none

def release (t : τ) : RLock τ → Option (RLock τ)
  | free => none
  | held u 0 => if u = t then some free else none
  | held u (n + 1) => if u = t then some (held t n) else none

/-- The lock can be acquired by a thread: no other thread holds it. -/
def Available (t : τ) (l : RLock τ) : Prop := ∀ u, u ≠ t → l.depth u = 0

variable {t u : τ} {l l' : RLock τ}

theorem available_free : (free : RLock τ).Available t := fun _ _ => rfl

/-- At most one thread holds a lock. -/
theorem depth_unique (ht : 0 < l.depth t) (hu : 0 < l.depth u) : t = u := by
  cases l with
  | free => exact absurd ht (Nat.lt_irrefl 0)
  | held v n =>
    have hv : ∀ w, 0 < (held v n).depth w → v = w := by
      intro w hw
      by_contra hne
      simp [depth, hne] at hw
    exact (hv t ht).symm.trans (hv u hu)

theorem available_of_depth (ht : 0 < l.depth t) : l.Available t := by
  intro u hu
  by_contra h
  exact hu (depth_unique (Nat.pos_of_ne_zero h) ht)

theorem eq_free (h : ∀ t, l.depth t = 0) : l = free := by
  cases l with
  | free => rfl
  | held v n =>
    have hv := h v
    simp [depth] at hv

/-- What an acquisition does. -/
theorem acquire_spec (h : l.acquire t = some l') :
    l.Available t ∧ l'.depth t = l.depth t + 1 ∧ ∀ u, u ≠ t → l'.depth u = 0 := by
  cases l with
  | free =>
    cases h
    exact ⟨fun _ _ => rfl, by simp [depth], fun u hu => by simp [depth, hu.symm]⟩
  | held v n =>
    rw [acquire] at h
    split_ifs at h with hv
    cases h
    subst hv
    exact ⟨fun u hu => by simp [depth, hu.symm], by simp [depth],
      fun u hu => by simp [depth, hu.symm]⟩

theorem exists_acquire (h : l.Available t) : ∃ l', l.acquire t = some l' := by
  cases l with
  | free => exact ⟨_, rfl⟩
  | held v n =>
    have hv : v = t := by
      by_contra hne
      have h0 := h v hne
      simp [depth] at h0
    exact ⟨_, if_pos hv⟩

/-- What a release does. -/
theorem release_spec (h : l.release t = some l') :
    l.depth t = l'.depth t + 1 ∧ ∀ u, u ≠ t → l'.depth u = 0 := by
  rcases l with _ | ⟨v, _ | n⟩
  · cases h
  · rw [release] at h
    split_ifs at h with hv
    cases h
    subst hv
    exact ⟨by simp [depth], fun _ _ => rfl⟩
  · rw [release] at h
    split_ifs at h with hv
    cases h
    subst hv
    exact ⟨by simp [depth], fun u hu => by simp [depth, hu.symm]⟩

theorem exists_release (h : 0 < l.depth t) : ∃ l', l.release t = some l' := by
  rcases l with _ | ⟨v, n⟩
  · exact absurd h (Nat.lt_irrefl 0)
  · have hv : v = t := by
      by_contra hne
      simp [depth, hne] at h
    cases n with
    | zero => exact ⟨_, if_pos hv⟩
    | succ n => exact ⟨_, if_pos hv⟩

/-- A release undoes an acquisition. -/
theorem release_acquire (h : l.acquire t = some l') : l'.release t = some l := by
  cases l with
  | free =>
    cases h
    exact if_pos rfl
  | held v n =>
    rw [acquire] at h
    split_ifs at h with hv
    cases h
    subst hv
    exact if_pos rfl

end RLock
