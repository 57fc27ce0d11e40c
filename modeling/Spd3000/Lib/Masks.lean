/-
  Masks of a fixed width: ones followed by zeros, and their complements.

  A mask is a number below `2 ^ w`.  `netmask w n` has `n` ones in its highest places.
  The complement of a contiguous mask is a number `2 ^ k - 1`; it is contiguous
  itself only if it is all zeros or all ones (`Inverted.not_contiguous`), so the two
  kinds can be told apart everywhere else (`contiguous_complement_iff`).
-/
import Mathlib.Algebra.Order.Ring.Nat
import Mathlib.Algebra.Group.Nat.Even
import Mathlib.Tactic.Positivity

namespace Masks

/-- The mask of `n` ones followed by `w - n` zeros. -/
def netmask (w n : ℕ) : ℕ := 2 ^ w - 2 ^ (w - n)

/-- Ones followed by zeros. -/
def Contiguous (w v : ℕ) : Prop := ∃ n ≤ w, v = netmask w n

/-- Zeros followed by ones, with at least one of each. -/
def Inverted (w v : ℕ) : Prop := ∃ k, 0 < k ∧ k < w ∧ v = 2 ^ k - 1

/-- The mask with all places changed. -/
def complement (w v : ℕ) : ℕ := 2 ^ w - 1 - v

section
variable {w v n : ℕ}

theorem netmask_lt : netmask w n < 2 ^ w := Nat.sub_lt (by positivity) (by positivity)

theorem complement_complement (h : v < 2 ^ w) : complement w (complement w v) = v := by
  unfold complement
  omega

theorem complement_netmask : complement w (netmask w n) = 2 ^ (w - n) - 1 := by
  have hle : 2 ^ (w - n) ≤ 2 ^ w := Nat.pow_le_pow_right (by decide) (Nat.sub_le ..)
  have hpos : 0 < 2 ^ (w - n) := by positivity
  unfold complement netmask
  omega

/-- The least `w - n` places are zeros, and those above them ones. -/
theorem netmask_eq_mul (h : n ≤ w) : netmask w n = 2 ^ (w - n) * (2 ^ n - 1) := by
  rw [netmask, Nat.mul_sub, ← pow_add, Nat.sub_add_cancel h, mul_one]

/-- The complement of a mask is contiguous if the mask is zeros followed by ones. -/
theorem contiguous_complement (h : v < 2 ^ w) :
    Contiguous w (complement w v) ↔ ∃ k ≤ w, v = 2 ^ k - 1 := by
  constructor
  · rintro ⟨n, hn, hv⟩
    refine ⟨w - n, Nat.sub_le .., ?_⟩
    rw [← complement_complement h, hv, complement_netmask]
  · rintro ⟨k, hk, rfl⟩
    refine ⟨w - k, Nat.sub_le .., ?_⟩
    have hle : 2 ^ k ≤ 2 ^ w := Nat.pow_le_pow_right (by decide) hk
    have hpos : 0 < 2 ^ k := by positivity
    rw [netmask, complement, Nat.sub_sub_self hk]
    omega

theorem contiguous_zero : Contiguous w 0 :=
  ⟨0, Nat.zero_le w, by rw [netmask, Nat.sub_zero, Nat.sub_self]⟩

theorem contiguous_full : Contiguous w (2 ^ w - 1) :=
  ⟨w, le_rfl, by rw [netmask, Nat.sub_self, pow_zero]⟩

/-- An inverted mask is odd and not full. -/
theorem Inverted.not_contiguous (h : Inverted w v) : ¬ Contiguous w v := by
  obtain ⟨k, hk, hkw, rfl⟩ := h
  rintro ⟨n, hn, heq⟩
  have hlt : 2 ^ k < 2 ^ w := Nat.pow_lt_pow_right (by decide) hkw
  have hodd : 2 ∣ 2 ^ k := dvd_pow_self 2 hk.ne'
  have hfull : 2 ∣ 2 ^ w := dvd_pow_self 2 (by omega)
  have hle : 2 ^ (w - n) ≤ 2 ^ w := Nat.pow_le_pow_right (by decide) (Nat.sub_le ..)
  have hpow : 0 < 2 ^ k := by positivity
  rcases Nat.eq_zero_or_pos (w - n) with hzero | hpos
  · rw [netmask, hzero, pow_zero] at heq
    omega
  · have heven : 2 ∣ 2 ^ (w - n) := dvd_pow_self 2 hpos.ne'
    rw [netmask] at heq
    omega

/-- A mask that is not contiguous has a contiguous complement exactly if it is inverted. -/
theorem contiguous_complement_iff (hlt : v < 2 ^ w) (h : ¬ Contiguous w v) :
    Contiguous w (complement w v) ↔ Inverted w v := by
  rw [contiguous_complement hlt]
  constructor
  · rintro ⟨k, hk, rfl⟩
    refine ⟨k, Nat.pos_of_ne_zero ?_, lt_of_le_of_ne hk ?_, rfl⟩
    · rintro rfl
      exact h contiguous_zero
    · rintro rfl
      exact h contiguous_full
  · rintro ⟨k, -, hk, rfl⟩
    exact ⟨k, hk.le, rfl⟩

end

end Masks
