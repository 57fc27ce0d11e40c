/-
  Floats of decimals: how close the nearest double is, and when two
  numbers have the same float.

  A text shows a number as a decimal literal (`Literal`), and `float()` rounds it to
  the nearest double (`Literal.float`).  Numbers with few decimal places are told
  apart by their floats (`floatOfRat_inj`).
-/
import Spd3000.Setpoints
import Mathlib.Data.Int.Log

namespace Spd3000

open Decimals

/-! ## The nearest double -/

/-- The greatest power of two in a positive quotient. -/
def topExponent (n d : ℕ) : ℤ :=
  let k : ℤ := (n.log2 : ℤ) - d.log2
  if n * 2 ^ (-k).toNat < d * 2 ^ k.toNat then k - 1 else k

theorem topExponent_eq {n d : ℕ} (hn : 0 < n) (hd : 0 < d) :
    topExponent n d = Int.log 2 ((n : ℚ) / d) := by
  have hn0 : (0 : ℚ) < n := Nat.cast_pos.2 hn
  have hd0 : (0 : ℚ) < d := Nat.cast_pos.2 hd
  have hx : (0 : ℚ) < n / d := by positivity
  have hpow (a b : ℕ) : (2 : ℚ) ^ ((a : ℤ) - b) = 2 ^ a / 2 ^ b := by
    rw [zpow_sub₀ two_ne_zero, zpow_natCast, zpow_natCast]
  have hnlow : (2 : ℚ) ^ n.log2 ≤ n := by exact_mod_cast Nat.log2_self_le hn.ne'
  have hnup : (n : ℚ) < 2 ^ (n.log2 + 1) := by exact_mod_cast Nat.lt_log2_self
  have hdlow : (2 : ℚ) ^ d.log2 ≤ d := by exact_mod_cast Nat.log2_self_le hd.ne'
  have hdup : (d : ℚ) < 2 ^ (d.log2 + 1) := by exact_mod_cast Nat.lt_log2_self
  -- the quotient is at most one power of two off the quotient of the two powers
  have hlow : (2 : ℚ) ^ ((n.log2 : ℤ) - (d.log2 + 1 : ℕ)) ≤ n / d := by
    rw [hpow]
    exact div_le_div₀ hn0.le hnlow hd0 hdup.le
  have hup : (n : ℚ) / d < 2 ^ (((n.log2 + 1 : ℕ) : ℤ) - d.log2) := by
    rw [hpow]
    exact div_lt_div₀ hnup hdlow (by positivity) (by positivity)
  have hk (k : ℤ) : n * 2 ^ (-k).toNat < d * 2 ^ k.toNat ↔ (n : ℚ) / d < (2 : ℕ) ^ k := by
    have hden : 0 < d * 2 ^ k.toNat := by positivity
    rw [← div_lt_one₀ (show (0 : ℚ) < (2 : ℕ) ^ k by positivity), ← scaled_quotient two_pos,
      div_lt_one (Nat.cast_pos.2 hden), Nat.cast_lt]
  have hle := (Int.zpow_le_iff_le_log one_lt_two hx).1 hlow
  have hlt := (Int.lt_zpow_iff_log_lt one_lt_two hx).1 hup
  unfold topExponent
  dsimp only
  split_ifs with h
  · have := (Int.lt_zpow_iff_log_lt one_lt_two hx).1 ((hk _).1 h)
    omega
  · have := (Int.zpow_le_iff_le_log one_lt_two hx).1 (not_lt.1 (mt (hk _).2 h))
    omega

/-- The exponent of the last place of a double. -/
def lastExponent (n d : ℕ) : ℤ := max (topExponent n d - 52) (-1074)

/-- The number nearest to a quotient among the multiples of its last place. -/
def roundedDouble (n d : ℕ) : ℚ :=
  quotHalfEven (n * 2 ^ (-lastExponent n d).toNat) (d * 2 ^ (lastExponent n d).toNat) *
    2 ^ lastExponent n d

theorem nearestDouble_eq {n : ℕ} (hn : 0 < n) (d : ℕ) :
    nearestDouble n d = if roundedDouble n d < 2 ^ 1024 then some (roundedDouble n d) else none := by
  have hscaled (m : ℕ) (e : ℤ) :
      ((m * 2 ^ e.toNat : ℕ) : ℚ) / (2 ^ (-e).toNat : ℕ) = m * 2 ^ e := by
    have h := scaled_quotient (n := m) (d := 1) two_pos (-e)
    rw [neg_neg, one_mul, Nat.cast_one, div_one, zpow_neg, div_inv_eq_mul] at h
    exact h
  rw [roundedDouble, ← hscaled, nearestDouble, if_neg hn.ne']
  rfl

theorem roundedDouble_close {n d : ℕ} (hn : 0 < n) (hd : 0 < d) :
    |roundedDouble n d - n / d| ≤ n / d * 2 ^ (-53 : ℤ) + 2 ^ (-1075 : ℤ) := by
  have hx : (0 : ℚ) < n / d := by positivity
  have hpow : (0 : ℚ) < 2 ^ lastExponent n d := by positivity
  have hden : 0 < d * 2 ^ (lastExponent n d).toNat := by positivity
  have hclose := quotHalfEven_close (n := n * 2 ^ (-lastExponent n d).toNat) hden
  rw [scaled_quotient two_pos, Nat.cast_ofNat] at hclose
  calc |roundedDouble n d - n / d|
    _ = |(quotHalfEven (n * 2 ^ (-lastExponent n d).toNat) (d * 2 ^ (lastExponent n d).toNat) : ℚ) -
          n / d / 2 ^ lastExponent n d| * 2 ^ lastExponent n d := by
        rw [← abs_of_pos hpow, ← abs_mul, sub_mul, abs_of_pos hpow, div_mul_cancel₀ _ hpow.ne']
        rfl
    _ ≤ 1 / 2 * 2 ^ lastExponent n d := mul_le_mul_of_nonneg_right hclose hpow.le
    _ ≤ n / d * 2 ^ (-53 : ℤ) + 2 ^ (-1075 : ℤ) := by
        have htop : (2 : ℚ) ^ topExponent n d ≤ n / d := by
          rw [topExponent_eq hn hd]
          exact_mod_cast Int.zpow_log_le_self one_lt_two hx
        have hhalf (k : ℤ) : (1 / 2 : ℚ) * 2 ^ k = 2 ^ (k - 1) := by
          rw [zpow_sub_one₀ two_ne_zero, mul_comm, one_div]
        have htiny : (0 : ℚ) < 2 ^ (-1075 : ℤ) := by positivity
        have hfine : (0 : ℚ) < 2 ^ (-53 : ℤ) := by positivity
        rw [hhalf, lastExponent]
        rcases max_choice (topExponent n d - 52) (-1074) with h | h
        · rw [h, sub_sub, sub_eq_add_neg, zpow_add₀ two_ne_zero]
          exact le_add_of_le_of_nonneg (mul_le_mul_of_nonneg_right htop hfine.le) htiny.le
        · rw [h]
          exact le_add_of_nonneg_left (by positivity)

theorem nearestDouble_close {n d : ℕ} (hd : 0 < d) {q : ℚ} (h : nearestDouble n d = some q) :
    |q - n / d| ≤ n / d * 2 ^ (-53 : ℤ) + 2 ^ (-1075 : ℤ) := by
  rcases Nat.eq_zero_or_pos n with rfl | hn
  · cases h
    rw [Nat.cast_zero, zero_div, sub_zero, abs_zero, zero_mul, zero_add]
    positivity
  · rw [nearestDouble_eq hn, Option.ite_none_right_eq_some] at h
    rw [← Option.some.inj h.2]
    exact roundedDouble_close hn hd

/-- A number in the range of all setpoints and durations has a nearest double. -/
theorem nearestDouble_isSome {n d : ℕ} (hd : 0 < d) (h : (n : ℚ) / d ≤ 10000) :
    ∃ q, nearestDouble n d = some q := by
  rcases Nat.eq_zero_or_pos n with rfl | hn
  · exact ⟨0, rfl⟩
  · have hclose := (abs_le.1 (roundedDouble_close hn hd)).2
    have hfine : (n : ℚ) / d * 2 ^ (-53 : ℤ) ≤ 10000 * 1 :=
      mul_le_mul h (by norm_num) (by positivity) (by norm_num)
    have htiny : (2 : ℚ) ^ (-1075 : ℤ) ≤ 1 := zpow_le_one_of_nonpos₀ one_le_two (by norm_num)
    have hbig : (20001 : ℚ) < 2 ^ 1024 :=
      lt_of_lt_of_le (by norm_num : (20001 : ℚ) < 2 ^ 15) (pow_le_pow_right₀ one_le_two (by norm_num))
    have hlt : roundedDouble n d < 2 ^ 1024 := by
      generalize (2 : ℚ) ^ (-53 : ℤ) = fine, (2 : ℚ) ^ (-1075 : ℤ) = tiny,
        (2 : ℚ) ^ 1024 = big at hclose hfine htiny hbig ⊢
      linarith
    exact ⟨roundedDouble n d, by rw [nearestDouble_eq hn, if_pos hlt]⟩

theorem nearestDouble_congr {n d n' d' : ℕ} (hd : 0 < d) (hd' : 0 < d')
    (h : (n : ℚ) / d = n' / d') : nearestDouble n d = nearestDouble n' d' := by
  have hcross : n * d' = n' * d := by
    rw [div_eq_div_iff (Nat.cast_ne_zero.2 hd.ne') (Nat.cast_ne_zero.2 hd'.ne')] at h
    exact_mod_cast h
  rcases Nat.eq_zero_or_pos n with rfl | hn
  · rw [Nat.zero_mul, zero_eq_mul, or_iff_left hd.ne'] at hcross
    rw [hcross]
    rfl
  · have hn' : 0 < n' := by
      refine Nat.pos_of_ne_zero ?_
      rintro rfl
      rw [Nat.zero_mul, Nat.mul_eq_zero] at hcross
      omega
    have hlast : lastExponent n d = lastExponent n' d' := by
      rw [lastExponent, lastExponent, topExponent_eq hn hd, topExponent_eq hn' hd', h]
    have hrounded : roundedDouble n d = roundedDouble n' d' := by
      rw [roundedDouble, roundedDouble, hlast]
      congr 2
      refine quotHalfEven_congr (by positivity) (by positivity) ?_
      calc _ = n * d' * (2 ^ (-lastExponent n' d').toNat * 2 ^ (lastExponent n' d').toNat) := by ring
        _ = n' * d * (2 ^ (-lastExponent n' d').toNat * 2 ^ (lastExponent n' d').toNat) := by rw [hcross]
        _ = _ := by ring
    rw [nearestDouble_eq hn, nearestDouble_eq hn', hrounded]

/-! ## Floats of numbers -/

/-- The float of a number, `float(x)`. -/
def floatOfRat (x : ℚ) : PyFloat := floatOf (x < 0) x.num.natAbs x.den

theorem num_div_den_abs (x : ℚ) : (x.num.natAbs : ℚ) / x.den = |x| := by
  calc (x.num.natAbs : ℚ) / x.den
    _ = |(x.num : ℚ) / x.den| := by
        rw [Nat.cast_natAbs, Int.cast_abs, abs_div, abs_of_nonneg (Nat.cast_nonneg (α := ℚ) x.den)]
    _ = |x| := by rw [Rat.num_div_den]

/-- The float of a decimal depends on its number only. -/
theorem floatOfDec_eq (neg : Bool) (d : Dec) :
    floatOfDec neg d = floatOfRat (PyDecimal.signed neg d) := by
  have hden : 0 < 10 ^ (-d.exp).toNat := Nat.pow_pos (Nat.succ_pos 9)
  have hvalue := d.value_nonneg
  have habs : |PyDecimal.signed neg d| = d.value := by
    cases neg with
    | false => exact abs_of_nonneg hvalue
    | true => exact (abs_neg d.value).trans (abs_of_nonneg hvalue)
  rw [floatOfDec, floatOfRat]
  generalize hx : PyDecimal.signed neg d = x at habs
  have hnearest : nearestDouble (d.coeff * 10 ^ d.exp.toNat) (10 ^ (-d.exp).toNat) =
      nearestDouble x.num.natAbs x.den :=
    nearestDouble_congr hden x.den_pos (by rw [Dec.value_quotient, num_div_den_abs, habs])
  rw [floatOf, floatOf, hnearest]
  by_cases hneg : neg = decide (x < 0)
  · rw [hneg]
  · -- only zero has two signs
    have hzero : x = 0 := by
      cases neg with
      | false =>
        rw [PyDecimal.signed, if_neg Bool.false_ne_true] at hx
        rw [eq_comm, decide_eq_false_iff_not, not_not] at hneg
        linarith
      | true =>
        rw [PyDecimal.signed, if_pos rfl] at hx
        rw [eq_comm, decide_eq_true_eq] at hneg
        linarith
    have hnone : nearestDouble (0 : ℚ).num.natAbs (0 : ℚ).den = some 0 := if_pos rfl
    rw [hzero, hnone]
    simp only [neg_zero, ite_self]

theorem floatOfRat_close {x : ℚ} (h : |x| ≤ 10000) :
    ∃ q, floatOfRat x = .finite q ∧ |q - x| ≤ |x| * 2 ^ (-53 : ℤ) + 2 ^ (-1075 : ℤ) := by
  rw [← num_div_den_abs] at h
  obtain ⟨q, hq⟩ := nearestDouble_isSome x.den_pos h
  have hclose := nearestDouble_close x.den_pos hq
  rw [num_div_den_abs] at hclose
  rw [floatOfRat, floatOf, hq]
  refine ⟨_, rfl, ?_⟩
  by_cases hneg : x < 0
  · rw [abs_of_neg hneg] at hclose ⊢
    rw [if_pos (decide_eq_true hneg), ← abs_neg, neg_sub, sub_neg_eq_add, add_comm,
      ← sub_neg_eq_add]
    exact hclose
  · rw [abs_of_nonneg (not_lt.1 hneg)] at hclose ⊢
    rw [if_neg fun h => hneg (of_decide_eq_true h)]
    exact hclose

/-- Numbers with at most ten decimal places, in the range of all settings. -/
def Short (x : ℚ) : Prop := |x| ≤ 10000 ∧ ∃ k : ℤ, x * 10 ^ 10 = k

/-- Short numbers are told apart by their floats. -/
theorem floatOfRat_inj {x x' : ℚ} (hx : Short x) (hx' : Short x') :
    floatOfRat x = floatOfRat x' ↔ x = x' := by
  refine ⟨fun heq => ?_, congrArg _⟩
  obtain ⟨hbound, k, hk⟩ := hx
  obtain ⟨hbound', k', hk'⟩ := hx'
  obtain ⟨q, hq, hclose⟩ := floatOfRat_close hbound
  obtain ⟨q', hq', hclose'⟩ := floatOfRat_close hbound'
  rw [hq, hq', PyFloat.finite.injEq] at heq
  subst heq
  have hfine : (2 : ℚ) ^ (-53 : ℤ) ≤ 1 / 10 ^ 15 := by norm_num
  have htiny : (2 : ℚ) ^ (-1075 : ℤ) ≤ 1 / 10 ^ 12 := by
    calc (2 : ℚ) ^ (-1075 : ℤ) ≤ 2 ^ (-40 : ℤ) := zpow_le_zpow_right₀ one_le_two (by norm_num)
      _ ≤ 1 / 10 ^ 12 := by norm_num
  have htriangle : |x - x'| ≤ |q - x| + |q - x'| := by
    rw [abs_sub_comm q x]
    exact abs_sub_le x q x'
  have hscaled := mul_le_mul_of_nonneg_left hfine (abs_nonneg x)
  have hscaled' := mul_le_mul_of_nonneg_left hfine (abs_nonneg x')
  have hlt : |x - x'| * 10 ^ 10 < 1 := by
    generalize (2 : ℚ) ^ (-53 : ℤ) = fine, (2 : ℚ) ^ (-1075 : ℤ) = tiny at *
    linarith
  -- so the two integers are the same
  have hdiff : |x - x'| * 10 ^ 10 = |((k - k' : ℤ) : ℚ)| := by
    rw [Int.cast_sub, ← hk, ← hk', ← sub_mul, abs_mul, abs_of_pos (by norm_num : (0 : ℚ) < 10 ^ 10)]
  rw [hdiff, ← Int.cast_abs, ← Int.cast_one, Int.cast_lt, Int.abs_lt_one_iff] at hlt
  rw [hlt, Int.cast_zero, abs_zero, mul_eq_zero, abs_eq_zero, sub_eq_zero] at hdiff
  exact hdiff.resolve_right (by norm_num)

/-! ## Decimal literals -/

/-- The text is a decimal literal, possibly with a sign, of a number. -/
def Literal (s : PyStr) (x : ℚ) : Prop :=
  ∃ d, decimalLiteral (takeSign s).2 = some d ∧ x = PyDecimal.signed (takeSign s).1 d

/-- A decimal literal starts with a digit, an underscore or a point. -/
theorem decimalLiteral_head {s : PyStr} {d : Dec} (h : decimalLiteral s = some d) :
    ∃ c t, s = c :: t ∧ (isNumeral c ∨ c.val = 46) := by
  cases s with
  | nil => cases h
  | cons c t =>
    refine ⟨c, t, rfl, ?_⟩
    by_contra hc
    obtain ⟨hnumeral, hpoint⟩ := not_or.1 hc
    have hsplit : splitLiteral (c :: t) = ([], [], c :: t) := by
      unfold splitLiteral
      dsimp only
      rw [List.dropWhile_cons_of_neg hnumeral, List.takeWhile_cons_of_neg hnumeral]
      exact if_neg hpoint
    rw [decimalLiteral, hsplit] at h
    dsimp only [numeral] at h
    rw [if_pos rfl] at h
    cases he : exponentOf (c :: t) with
    | none =>
      rw [he] at h
      cases h
    | some e =>
      rw [he] at h
      dsimp only at h
      rw [if_pos ⟨rfl, rfl⟩] at h
      cases h

/-- The words that `float()` reads do not look like decimal literals. -/
theorem decimalLiteral_word {s : PyStr} {d : Dec} (h : decimalLiteral s = some d) :
    s.map asciiLower ≠ lit "inf" ∧ s.map asciiLower ≠ lit "infinity" ∧
      s.map asciiLower ≠ lit "nan" := by
  obtain ⟨c, t, rfl, hc⟩ := decimalLiteral_head h
  have hletters (l : Char) (hl : l = 'i' ∨ l = 'n') (hlower : asciiLower c = CodePoint.ofChar l) :
      False := by
    have hval : c.val = 73 ∨ c.val = 105 ∨ c.val = 78 ∨ c.val = 110 := by
      have hlower := congrArg Fin.val hlower
      have hi : (CodePoint.ofChar 'i').val = 105 := rfl
      have hn : (CodePoint.ofChar 'n').val = 110 := rfl
      unfold asciiLower at hlower
      split_ifs at hlower with hupper
      · rw [val_chr (by omega)] at hlower
        rcases hl with rfl | rfl <;> omega
      · rcases hl with rfl | rfl <;> omega
    rcases hval with hval | hval | hval | hval
    · obtain rfl : c = ⟨73, by decide⟩ := Fin.ext hval
      exact absurd hc (by decide)
    · obtain rfl : c = ⟨105, by decide⟩ := Fin.ext hval
      exact absurd hc (by decide)
    · obtain rfl : c = ⟨78, by decide⟩ := Fin.ext hval
      exact absurd hc (by decide)
    · obtain rfl : c = ⟨110, by decide⟩ := Fin.ext hval
      exact absurd hc (by decide)
  rw [List.map_cons]
  refine ⟨fun hword => ?_, fun hword => ?_, fun hword => ?_⟩
  · exact hletters _ (.inl rfl) (List.cons.inj hword).1
  · exact hletters _ (.inl rfl) (List.cons.inj hword).1
  · exact hletters _ (.inr rfl) (List.cons.inj hword).1

/-- `float()` reads a decimal literal as the float of its number. -/
theorem Literal.float {s : PyStr} {x : ℚ} (h : Literal s x) :
    floatOfText s = some (floatOfRat x) := by
  obtain ⟨d, hd, rfl⟩ := h
  obtain ⟨hinf, hinfinity, hnan⟩ := decimalLiteral_word hd
  unfold floatOfText
  dsimp only
  rw [if_neg (not_or.2 ⟨hinf, hinfinity⟩), if_neg hnan, hd, Option.map_some, floatOfDec_eq]

/-- The digits of a text. -/
theorem digitChar_of_range {s : PyStr} (h : ∀ c ∈ s, 48 ≤ c.val ∧ c.val ≤ 57) :
    ∃ ds : List ℕ, (∀ d ∈ ds, d < 10) ∧ s = ds.map digitChar := by
  refine ⟨s.map fun c => c.val - 48, fun d hd => ?_, ?_⟩
  · obtain ⟨c, hc, rfl⟩ := List.mem_map.1 hd
    have := h c hc
    omega
  · rw [List.map_map]
    conv_lhs => rw [← List.map_id s]
    refine List.map_congr_left fun c hc => Fin.ext ?_
    have := h c hc
    rw [Function.comp_apply, val_digitChar (by omega), id]
    omega

/-- A plain decimal has digits, and possibly a fraction. -/
theorem plainValue_places {s : PyStr} {x : ℚ} (h : plainValue s = some x) :
    ∃ ip fp : List ℕ, ip ≠ [] ∧ (∀ d ∈ ip ++ fp, d < 10) ∧ s = placesText ip fp ∧
      x = ofPlaces (ip ++ fp) / 10 ^ fp.length := by
  obtain ⟨ip, hip, htake⟩ := digitChar_of_range
    (s := s.takeWhile fun c : CodePoint => 48 ≤ c.val ∧ c.val ≤ 57)
    fun c hc => by
      have hdigit := List.mem_takeWhile_imp hc
      exact of_decide_eq_true hdigit
  have happend := List.takeWhile_append_dropWhile (p := fun c : CodePoint =>
    48 ≤ c.val ∧ c.val ≤ 57) (l := s)
  unfold plainValue at h
  dsimp only at h
  rw [htake] at h happend
  generalize s.dropWhile (fun c : CodePoint => 48 ≤ c.val ∧ c.val ≤ 57) = rest at h happend
  cases rest with
  | nil =>
    dsimp only at h
    split_ifs at h with hnil
    cases h
    have hne : ip ≠ [] := by
      rintro rfl
      exact hnil rfl
    refine ⟨ip, [], hne, by rwa [List.append_nil], ?_, ?_⟩
    · rw [← happend, placesText, if_pos rfl]
    · rw [asciiNumber_map hip, List.append_nil, List.length_nil, pow_zero, div_one]
  | cons point tail =>
    dsimp only at h
    split_ifs at h with hfraction
    obtain ⟨hne, hpoint, hdigits, -⟩ := hfraction
    rw [isAsciiDigits, Bool.and_eq_true, decide_eq_true_eq, List.all_eq_true] at hdigits
    obtain ⟨fp, hfp, rfl⟩ := digitChar_of_range (s := tail) fun c hc => by
      simpa using hdigits.2 c hc
    have hall : ∀ d ∈ ip ++ fp, d < 10 := fun d hd => (List.mem_append.1 hd).elim (hip d) (hfp d)
    cases h
    refine ⟨ip, fp, fun hnil => hne (by rw [hnil]; rfl), hall, ?_, ?_⟩
    · have hlit : lit "." = [point] := by
        obtain rfl : point = CodePoint.ofChar '.' := Fin.ext hpoint
        rfl
      rw [← happend, placesText, if_neg fun hnil => hdigits.1 (by rw [hnil]; rfl), hlit]
      rfl
    · rw [← List.map_append, asciiNumber_map hall, List.length_map]

theorem Literal.plain {s : PyStr} {x : ℚ} (h : plainValue s = some x) : Literal s x := by
  obtain ⟨ip, fp, hne, hall, rfl, rfl⟩ := plainValue_places h
  have hip := fun d hd => hall d (List.mem_append_left fp hd)
  have hliteral := decimalLiteral_placesText hne hip fun d hd => hall d (List.mem_append_right ip hd)
  obtain ⟨i, ip, rfl⟩ := List.exists_cons_of_ne_nil hne
  have hi := val_digitChar (hip i List.mem_cons_self)
  have hsign : takeSign (placesText (i :: ip) fp) = (false, placesText (i :: ip) fp) := by
    have hi10 := hip i List.mem_cons_self
    rw [placesText, List.map_cons, List.cons_append, takeSign, if_neg (by omega), if_neg (by omega)]
  rw [Literal, hsign]
  refine ⟨_, hliteral, ?_⟩
  rw [PyDecimal.signed, if_neg Bool.false_ne_true, Dec.value, zero_sub, zpow_neg, zpow_natCast,
    div_eq_mul_inv]

end Spd3000
