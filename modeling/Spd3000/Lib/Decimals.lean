/-
  Decimal numbers: a coefficient times a power of ten.

  A context bounds the digits of a coefficient and the exponents.  Rounding to a
  context is half to even; `round_value_iff` and `round_eq_zero_iff` say when it
  is exact and when it gives zero.  `places` are the digits on both sides of the
  decimal point.
-/
import Mathlib.Algebra.Order.Field.Power
import Mathlib.Algebra.Order.Floor.Semifield
import Mathlib.Algebra.Order.Ring.Rat
import Mathlib.Data.Nat.Digits.Lemmas
import Mathlib.Data.Rat.Floor
import Mathlib.Tactic.Linarith
import Mathlib.Tactic.Positivity
import Mathlib.Tactic.Ring

namespace Decimals

/-! ## Digits -/

/-- The number of decimal digits; zero has none. -/
def size (n : ℕ) : ℕ := (Nat.digits 10 n).length

theorem size_le_iff {n k : ℕ} : size n ≤ k ↔ n < 10 ^ k := Nat.digits_length_le_iff (by norm_num) n

theorem lt_size_iff {n k : ℕ} : k < size n ↔ 10 ^ k ≤ n := Nat.lt_digits_length_iff (by norm_num) n

theorem lt_pow_size (n : ℕ) : n < 10 ^ size n := size_le_iff.1 le_rfl

theorem size_pos {n : ℕ} (h : 0 < n) : 0 < size n := lt_size_iff.2 h

theorem pow_size_le {n : ℕ} (h : 0 < n) : 10 ^ (size n - 1) ≤ n :=
  lt_size_iff.1 (Nat.sub_lt (size_pos h) Nat.one_pos)

/-- The number with the given digits, the highest one first. -/
def ofPlaces (ds : List ℕ) : ℕ := Nat.ofDigits 10 ds.reverse

theorem ofPlaces_append (ds ds' : List ℕ) :
    ofPlaces (ds ++ ds') = ofPlaces ds * 10 ^ ds'.length + ofPlaces ds' := by
  rw [ofPlaces, List.reverse_append, Nat.ofDigits_append, List.length_reverse, Nat.add_comm,
    Nat.mul_comm]
  rfl

theorem ofPlaces_zeros (k : ℕ) : ofPlaces (List.replicate k 0) = 0 := by
  rw [ofPlaces, List.reverse_replicate, Nat.ofDigits_replicate_zero]

/-- The digits of a number, the highest one first. -/
def digits (n : ℕ) : List ℕ := if n = 0 then [0] else (Nat.digits 10 n).reverse

theorem ofPlaces_digits (n : ℕ) : ofPlaces (digits n) = n := by
  unfold digits
  split_ifs with h
  · rw [h]
    rfl
  · rw [ofPlaces, List.reverse_reverse, Nat.ofDigits_digits]

theorem digits_ne_nil (n : ℕ) : digits n ≠ [] := by
  unfold digits
  split_ifs with h
  · exact List.cons_ne_nil _ _
  · exact List.reverse_ne_nil_iff.2 (Nat.digits_ne_nil_iff_ne_zero.2 h)

theorem digits_lt {n d : ℕ} (h : d ∈ digits n) : d < 10 := by
  unfold digits at h
  split_ifs at h
  · rw [List.mem_singleton.1 h]
    exact Nat.succ_pos 9
  · exact Nat.digits_lt_base (by norm_num) (List.mem_reverse.1 h)

/-- The last digit. -/
theorem getLast_digits {n : ℕ} (h : digits n ≠ []) : (digits n).getLast h = n % 10 := by
  have hlast : (digits n).getLast? = some (n % 10) := by
    unfold digits
    split_ifs with hn
    · rw [hn]
      rfl
    · rw [List.getLast?_reverse, Nat.digits_def' (by norm_num) (Nat.pos_of_ne_zero hn)]
      rfl
  rw [List.getLast?_eq_getLast_of_ne_nil h] at hlast
  exact Option.some.inj hlast

/-! ## Rounding a quotient -/

/-- The quotient rounded to the nearest number, and to the even one of two. -/
def quotHalfEven (n m : ℕ) : ℕ :=
  if m < 2 * (n % m) ∨ 2 * (n % m) = m ∧ n / m % 2 = 1 then n / m + 1 else n / m

section
variable {n m k : ℕ}

theorem quotHalfEven_eq_zero (hm : 0 < m) : quotHalfEven n m = 0 ↔ 2 * n ≤ m := by
  have hup : quotHalfEven n m = n / m + 1 ∨ quotHalfEven n m = n / m := by
    unfold quotHalfEven
    exact ite_eq_or_eq _ _ _
  by_cases hlt : n < m
  · rw [quotHalfEven, Nat.mod_eq_of_lt hlt, Nat.div_eq_of_lt hlt]
    by_cases hhalf : m < 2 * n
    · rw [if_pos (.inl hhalf)]
      omega
    · rw [if_neg (by omega)]
      omega
  · have hq : 0 < n / m := Nat.div_pos (not_lt.1 hlt) hm
    omega

theorem quotHalfEven_mul_le (hm : 0 < m) : quotHalfEven n m * m ≤ 2 * n := by
  unfold quotHalfEven
  have hmod := Nat.mod_lt n hm
  have hdiv := Nat.div_add_mod n m
  rw [Nat.mul_comm] at hdiv
  split_ifs with hup
  · rw [Nat.add_mul, Nat.one_mul]
    rcases hup with hlt | ⟨heq, hodd⟩
    · rcases Nat.eq_zero_or_pos (n / m) with hzero | hpos
      · rw [hzero] at hdiv ⊢
        omega
      · have hle : m ≤ n / m * m := Nat.le_mul_of_pos_left m hpos
        omega
    · have hpos : 0 < n / m := Nat.pos_of_ne_zero fun hzero => by
        rw [hzero] at hodd
        cases hodd
      have hle : m ≤ n / m * m := Nat.le_mul_of_pos_left m hpos
      omega
  · omega

/-- A rounded quotient is exact if and only if nothing remains. -/
theorem quotHalfEven_mul (hm : 0 < m) : quotHalfEven n m * m = n ↔ m ∣ n := by
  unfold quotHalfEven
  have hmod := Nat.mod_lt n hm
  have hdiv := Nat.div_add_mod n m
  rw [Nat.dvd_iff_mod_eq_zero]
  split_ifs with hup
  · rw [Nat.add_mul, Nat.one_mul, Nat.mul_comm]
    omega
  · rw [Nat.mul_comm]
    omega

theorem quotHalfEven_le (hm : 0 < m) (h : n ≤ k * m) : quotHalfEven n m ≤ k := by
  unfold quotHalfEven
  have hle : n / m ≤ k := Nat.div_le_of_le_mul (by rwa [Nat.mul_comm])
  split_ifs with hup
  · -- nothing remains if the quotient is already the bound
    refine Nat.succ_le_of_lt (lt_of_le_of_ne hle fun heq => ?_)
    have hdiv := Nat.div_add_mod n m
    rw [heq, Nat.mul_comm] at hdiv
    omega
  · exact hle

/-- A common factor does not change a rounded quotient. -/
theorem quotHalfEven_scale {c : ℕ} (hc : 0 < c) :
    quotHalfEven (c * n) (c * m) = quotHalfEven n m := by
  have hless (a b : ℕ) : c * b < 2 * (c * a) ↔ b < 2 * a := by
    rw [Nat.mul_left_comm, Nat.mul_lt_mul_left hc]
  have hequal (a b : ℕ) : 2 * (c * a) = c * b ↔ 2 * a = b := by
    rw [Nat.mul_left_comm, Nat.mul_right_inj hc.ne']
  unfold quotHalfEven
  simp only [Nat.mul_div_mul_left _ _ hc, Nat.mul_mod_mul_left, hless, hequal]

/-- A rounded quotient depends on the quotient only. -/
theorem quotHalfEven_congr {n' m' : ℕ} (hm : 0 < m) (hm' : 0 < m') (h : n * m' = n' * m) :
    quotHalfEven n m = quotHalfEven n' m' := by
  rw [← quotHalfEven_scale hm', ← quotHalfEven_scale (n := n') hm, Nat.mul_comm m' n, h,
    Nat.mul_comm n' m, Nat.mul_comm m' m]

theorem quotHalfEven_close (hm : 0 < m) :
    |(quotHalfEven n m : ℚ) - n / m| ≤ 1 / 2 := by
  have hpos : (0 : ℚ) < m := Nat.cast_pos.2 hm
  have hdiv : (n : ℚ) = m * (n / m : ℕ) + (n % m : ℕ) := by
    exact_mod_cast (Nat.div_add_mod n m).symm
  have hquot : (n : ℚ) / m = (n / m : ℕ) + (n % m : ℕ) / m := by
    nth_rewrite 1 [hdiv]
    rw [add_div, mul_div_cancel_left₀ _ hpos.ne']
  have hlt : ((n % m : ℕ) : ℚ) / m < 1 := by
    rw [div_lt_one hpos]
    exact_mod_cast Nat.mod_lt n hm
  have hnonneg : (0 : ℚ) ≤ (n % m : ℕ) / m := by positivity
  rw [hquot, abs_le]
  unfold quotHalfEven
  split_ifs with hup
  · have hhalf : 1 / 2 ≤ ((n % m : ℕ) : ℚ) / m := by
      rw [div_le_div_iff₀ two_pos hpos, one_mul, mul_comm]
      exact_mod_cast (show m ≤ 2 * (n % m) by omega)
    push_cast
    constructor <;> linarith
  · have hhalf : ((n % m : ℕ) : ℚ) / m ≤ 1 / 2 := by
      rw [div_le_div_iff₀ hpos two_pos, one_mul, mul_comm]
      exact_mod_cast (show 2 * (n % m) ≤ m by omega)
    constructor <;> linarith

/-- The quotient of two numbers that a power of the base has been divided out of. -/
theorem scaled_quotient {b n d : ℕ} (hb : 0 < b) (e : ℤ) :
    ((n * b ^ (-e).toNat : ℕ) : ℚ) / (d * b ^ e.toNat : ℕ) = n / d / (b : ℚ) ^ e := by
  have hb : (b : ℚ) ≠ 0 := Nat.cast_ne_zero.2 hb.ne'
  rcases le_total 0 e with he | he
  · obtain ⟨k, rfl⟩ := Int.eq_ofNat_of_zero_le he
    have hzero : (-(k : ℤ)).toNat = 0 := by omega
    rw [hzero, Int.toNat_natCast, zpow_natCast, pow_zero, mul_one, Nat.cast_mul, Nat.cast_pow,
      div_div]
  · obtain ⟨k, rfl⟩ := Int.exists_eq_neg_ofNat he
    have hzero : (-(k : ℤ)).toNat = 0 := by omega
    rw [hzero, neg_neg, Int.toNat_natCast, zpow_neg, zpow_natCast, pow_zero, mul_one, Nat.cast_mul,
      Nat.cast_pow, div_inv_eq_mul, mul_div_right_comm]

end

/-! ## Decimal numbers -/

/-- The number `coeff * 10 ^ exp`. -/
structure Dec where
  coeff : ℕ
  exp : ℤ
  deriving DecidableEq

namespace Dec

def value (d : Dec) : ℚ := d.coeff * 10 ^ d.exp

variable {d : Dec}

theorem value_nonneg (d : Dec) : 0 ≤ d.value := by
  unfold value
  positivity

theorem value_pos (h : 0 < d.coeff) : 0 < d.value := by
  unfold value
  positivity

theorem value_eq_zero : d.value = 0 ↔ d.coeff = 0 := by
  refine ⟨fun h => ?_, fun h => ?_⟩
  · by_contra hne
    exact (value_pos (Nat.pos_of_ne_zero hne)).ne' h
  · rw [value, h, Nat.cast_zero, zero_mul]

/-- The numerator and denominator of a decimal. -/
theorem value_quotient (d : Dec) :
    ((d.coeff * 10 ^ d.exp.toNat : ℕ) : ℚ) / (10 ^ (-d.exp).toNat : ℕ) = d.value := by
  have h := scaled_quotient (n := d.coeff) (d := 1) (b := 10) (Nat.succ_pos 9) (-d.exp)
  rw [neg_neg, one_mul, Nat.cast_one, div_one, zpow_neg, div_inv_eq_mul] at h
  exact h

/-- The same number with a lower exponent. -/
theorem value_lower {n : ℕ} {e e' : ℤ} (h : e' ≤ e) :
    value ⟨n, e⟩ = value ⟨n * 10 ^ (e - e').toNat, e'⟩ := by
  have hsub : e = ((e - e').toNat : ℤ) + e' := by omega
  have hten : (10 : ℚ) ≠ 0 := by norm_num
  unfold value
  dsimp only
  nth_rewrite 1 [hsub]
  rw [zpow_add₀ hten, zpow_natCast, Nat.cast_mul, Nat.cast_pow, Nat.cast_ofNat, mul_assoc]

theorem value_inj {n n' : ℕ} {e : ℤ} (h : value ⟨n, e⟩ = value ⟨n', e⟩) : n = n' := by
  have hten : (10 : ℚ) ^ e ≠ 0 := (by positivity : (0 : ℚ) < 10 ^ e).ne'
  exact Nat.cast_injective (mul_right_cancel₀ hten h)

theorem value_le_value {n n' : ℕ} {e : ℤ} : value ⟨n, e⟩ ≤ value ⟨n', e⟩ ↔ n ≤ n' := by
  have hten : (0 : ℚ) < 10 ^ e := by positivity
  rw [value, value, mul_le_mul_iff_left₀ hten, Nat.cast_le]

theorem pow_le_value (h : 0 < d.coeff) : (10 : ℚ) ^ (d.exp + size d.coeff - 1) ≤ d.value := by
  have hsize := size_pos h
  calc (10 : ℚ) ^ (d.exp + size d.coeff - 1)
    _ = value ⟨1 * 10 ^ (d.exp + size d.coeff - 1 - d.exp).toNat, d.exp⟩ := by
        rw [← value_lower (by omega), value, Nat.cast_one, one_mul]
    _ ≤ d.value := by
        rw [value_le_value, one_mul]
        exact (Nat.pow_le_pow_right (by norm_num) (by omega)).trans (pow_size_le h)

/-! ### Remainders -/

/-- The coefficients with a common exponent. -/
def aligned (a b : Dec) : ℕ × ℕ :=
  (a.coeff * 10 ^ (a.exp - min a.exp b.exp).toNat, b.coeff * 10 ^ (b.exp - min a.exp b.exp).toNat)

theorem value_aligned (a b : Dec) : a.value = value ⟨(aligned a b).1, min a.exp b.exp⟩ ∧
    b.value = value ⟨(aligned a b).2, min a.exp b.exp⟩ :=
  ⟨value_lower (min_le_left _ _), value_lower (min_le_right _ _)⟩

/-- The integer part of the quotient. -/
def quo (a b : Dec) : ℕ := (aligned a b).1 / (aligned a b).2

def rem (a b : Dec) : Dec := ⟨(aligned a b).1 % (aligned a b).2, min a.exp b.exp⟩

theorem quo_eq_floor (a b : Dec) : quo a b = ⌊a.value / b.value⌋₊ := by
  obtain ⟨ha, hb⟩ := value_aligned a b
  have hten : (10 : ℚ) ^ min a.exp b.exp ≠ 0 := (by positivity : (0 : ℚ) < 10 ^ min a.exp b.exp).ne'
  rw [ha, hb, value, value, mul_div_mul_right _ _ hten, Nat.floor_div_eq_div]
  rfl

theorem value_rem (a b : Dec) : (rem a b).value = a.value - b.value * ⌊a.value / b.value⌋₊ := by
  obtain ⟨ha, hb⟩ := value_aligned a b
  have hdiv : ((aligned a b).1 : ℚ) =
      (aligned a b).2 * quo a b + ((aligned a b).1 % (aligned a b).2 : ℕ) := by
    exact_mod_cast (Nat.div_add_mod (aligned a b).1 (aligned a b).2).symm
  rw [← quo_eq_floor, ha, hb, rem, value, value, value]
  dsimp only
  rw [hdiv]
  ring

end Dec

/-! ## Contexts -/

/-- The numbers with at most `prec` digits and exponents from `etiny` on; `emax` bounds the
    exponent of the first digit. -/
structure Context where
  prec : ℕ
  etiny : ℤ
  emax : ℤ
  prec_pos : 0 < prec

namespace Context
variable (c : Context)

/-- The least exponent that the result of a rounding may have. -/
def lowest (d : Dec) : ℤ := max (d.exp + size d.coeff - c.prec) c.etiny

/-- A coefficient that has been rounded up to one more digit. -/
def carry (d : Dec) : Dec :=
  if d.coeff = 10 ^ c.prec then ⟨10 ^ (c.prec - 1), d.exp + 1⟩ else d

/-- The coefficient of `d`, rounded to the exponent `e`. -/
def quantized (d : Dec) (e : ℤ) : Dec := ⟨quotHalfEven d.coeff (10 ^ (e - d.exp).toNat), e⟩

def round (d : Dec) : Dec :=
  if d.exp < c.lowest d then c.carry (quantized d (c.lowest d)) else d

/-- The value is one of the context. -/
def Fits (x : ℚ) : Prop := ∃ m : Dec, m.coeff < 10 ^ c.prec ∧ c.etiny ≤ m.exp ∧ m.value = x

variable {c} {d : Dec}

theorem value_carry (d : Dec) : (c.carry d).value = d.value := by
  unfold carry
  split_ifs with h
  · have hten : (10 : ℚ) ≠ 0 := by norm_num
    have hprec : c.prec - 1 + 1 = c.prec := Nat.sub_add_cancel c.prec_pos
    have hpow : (10 : ℚ) ^ c.prec = 10 ^ (c.prec - 1) * 10 := by rw [← pow_succ, hprec]
    rw [Dec.value, Dec.value, h, zpow_add₀ hten, zpow_one]
    push_cast
    rw [hpow]
    ring
  · rfl

/-- What is rounded to the least exponent is not longer than the precision. -/
theorem quantized_le (h : d.exp < c.lowest d) : (quantized d (c.lowest d)).coeff ≤ 10 ^ c.prec := by
  refine quotHalfEven_le (by positivity) ?_
  rw [← pow_add]
  refine (lt_pow_size d.coeff).le.trans (Nat.pow_le_pow_right (by norm_num) ?_)
  have hle : d.exp + size d.coeff - c.prec ≤ c.lowest d := le_max_left _ _
  omega

theorem round_fits (d : Dec) : c.Fits (c.round d).value := by
  unfold round
  split_ifs with h
  · rw [value_carry]
    rcases (quantized_le h).lt_or_eq with hlt | heq
    · exact ⟨_, hlt, le_max_right _ _, rfl⟩
    · refine ⟨c.carry (quantized d (c.lowest d)), ?_, ?_, value_carry _⟩
      · rw [carry, if_pos heq]
        exact Nat.pow_lt_pow_right (by norm_num) (Nat.sub_lt c.prec_pos Nat.one_pos)
      · rw [carry, if_pos heq]
        exact (le_max_right _ _).trans (Int.le_add_one le_rfl)
  · rw [not_lt, lowest, max_le_iff] at h
    exact ⟨d, size_le_iff.1 (by omega), h.2, rfl⟩

theorem round_le (d : Dec) : (c.round d).value ≤ 2 * d.value := by
  unfold round
  split_ifs with h
  · have htwo : 2 * d.value = Dec.value ⟨2 * d.coeff, d.exp⟩ := by
      rw [Dec.value, Dec.value, Nat.cast_mul, Nat.cast_ofNat, mul_assoc]
    rw [value_carry, quantized, @Dec.value_lower _ (c.lowest d) d.exp h.le, htwo,
      Dec.value_le_value]
    exact quotHalfEven_mul_le (by positivity)
  · have hnonneg := d.value_nonneg
    linarith

/-- **Exact roundings.**  Rounding keeps a value if and only if it is one of the context. -/
theorem round_value_iff : (c.round d).value = d.value ↔ c.Fits d.value := by
  refine ⟨fun h => h ▸ round_fits d, ?_⟩
  rintro ⟨m, hm, he, hvalue⟩
  unfold round
  split_ifs with hlow
  swap
  · rfl
  rw [value_carry, quantized, @Dec.value_lower _ (c.lowest d) d.exp hlow.le]
  -- the digits that are cut off are zeros
  have hdvd : 10 ^ (c.lowest d - d.exp).toNat ∣ d.coeff := by
    rcases le_or_gt d.exp m.exp with hle | hlt
    · have hcoeff : d.coeff = m.coeff * 10 ^ (m.exp - d.exp).toNat :=
        Dec.value_inj (hvalue.symm.trans (Dec.value_lower hle))
      have hsize : size d.coeff ≤ c.prec + (m.exp - d.exp).toNat := by
        rw [size_le_iff, hcoeff, pow_add]
        exact Nat.mul_lt_mul_of_pos_right hm (by positivity)
      rw [hcoeff]
      refine Dvd.dvd.mul_left (Nat.pow_dvd_pow 10 ?_) _
      have hmax : c.lowest d ≤ m.exp := max_le (by omega) he
      omega
    · exfalso
      have hcoeff : m.coeff = d.coeff * 10 ^ (d.exp - m.exp).toNat :=
        Dec.value_inj (hvalue.trans (Dec.value_lower hlt.le))
      have hsize : size d.coeff ≤ c.prec := by
        rw [size_le_iff]
        refine lt_of_le_of_lt ?_ hm
        rw [hcoeff]
        exact Nat.le_mul_of_pos_right _ (by positivity)
      have hmax : c.lowest d ≤ d.exp := max_le (by omega) (by omega)
      omega
  exact congrArg (fun n => Dec.value ⟨n, d.exp⟩) ((quotHalfEven_mul (by positivity)).2 hdvd)

/-- **Roundings to zero.**  Only what is at most half of the least positive number rounds to
    zero. -/
theorem round_eq_zero_iff :
    (c.round d).value = 0 ↔ 2 * d.value ≤ (10 : ℚ) ^ c.etiny := by
  rcases Nat.eq_zero_or_pos d.coeff with hzero | hpos
  · have hvalue : d.value = 0 := Dec.value_eq_zero.2 hzero
    have hfits : c.Fits d.value := ⟨⟨0, c.etiny⟩, by positivity, le_rfl, by
      rw [hvalue, Dec.value_eq_zero]⟩
    rw [round_value_iff.2 hfits, hvalue, mul_zero]
    exact iff_of_true rfl (by positivity)
  have hsize := size_pos hpos
  have hprec := c.prec_pos
  -- the half of the least number is below a first digit above it
  have hlarge : c.etiny ≤ d.exp + size d.coeff - 1 → ¬ 2 * d.value ≤ (10 : ℚ) ^ c.etiny := by
    intro hle
    rw [not_le]
    have hfirst : (10 : ℚ) ^ c.etiny ≤ d.value :=
      (zpow_le_zpow_right₀ (by norm_num) hle).trans (Dec.pow_le_value hpos)
    have hvalue := Dec.value_pos hpos
    linarith
  unfold round
  split_ifs with hlow
  · rw [value_carry, Dec.value_eq_zero, quantized, quotHalfEven_eq_zero (by positivity)]
    rcases le_or_gt (d.exp + size d.coeff - c.prec) c.etiny with htiny | hnormal
    · have heq : c.lowest d = c.etiny := max_eq_right htiny
      rw [heq] at hlow ⊢
      have hten : (10 : ℚ) ^ c.etiny = Dec.value ⟨10 ^ (c.etiny - d.exp).toNat, d.exp⟩ := by
        have hlower := @Dec.value_lower 1 c.etiny d.exp hlow.le
        rw [one_mul, Dec.value, Nat.cast_one, one_mul] at hlower
        exact hlower
      have htwo : 2 * d.value = Dec.value ⟨2 * d.coeff, d.exp⟩ := by
        rw [Dec.value, Dec.value, Nat.cast_mul, Nat.cast_ofNat, mul_assoc]
      rw [hten, htwo, Dec.value_le_value]
    · have heq : c.lowest d = d.exp + size d.coeff - c.prec := max_eq_left hnormal.le
      refine iff_of_false ?_ (hlarge (by omega))
      rw [not_le, heq]
      have hpow : 10 ^ (d.exp + size d.coeff - c.prec - d.exp).toNat ≤ d.coeff :=
        (Nat.pow_le_pow_right (by norm_num) (by omega)).trans (pow_size_le hpos)
      omega
  · rw [not_lt, lowest, max_le_iff] at hlow
    exact iff_of_false (Dec.value_pos hpos).ne' (hlarge (by omega))

end Context

/-! ## Trailing zeros -/

/-- Takes off at most so many trailing zeros; the exponent stays at most `top`. -/
def trim (top : ℤ) : ℕ → Dec → Dec
  | 0, d => d
  | k + 1, d =>
    if d.coeff % 10 = 0 ∧ d.exp < top then trim top k ⟨d.coeff / 10, d.exp + 1⟩ else d

theorem value_trim (top : ℤ) (k : ℕ) : ∀ d : Dec, (trim top k d).value = d.value := by
  induction k with
  | zero => exact fun d => rfl
  | succ k ih =>
    intro d
    rw [trim]
    split_ifs with h
    · have hexp : (d.exp + 1 - d.exp).toNat = 1 := by omega
      have hcoeff : d.coeff / 10 * 10 = d.coeff := Nat.div_mul_cancel (Nat.dvd_of_mod_eq_zero h.1)
      rw [ih, @Dec.value_lower _ (d.exp + 1) d.exp (by omega), hexp, pow_one, hcoeff]
    · rfl

theorem trim_last {top : ℤ} {k : ℕ} : ∀ {d : Dec}, 0 < d.coeff → size d.coeff ≤ k →
    (trim top k d).coeff % 10 ≠ 0 ∨ top ≤ (trim top k d).exp := by
  induction k with
  | zero =>
    intro d hpos hsize
    exact absurd hsize (size_pos hpos).not_ge
  | succ k ih =>
    intro d hpos hsize
    rw [trim]
    split_ifs with h
    · refine ih (Nat.div_pos (Nat.le_of_dvd hpos (Nat.dvd_of_mod_eq_zero h.1)) (by norm_num)) ?_
      rw [size_le_iff] at hsize ⊢
      dsimp only
      rw [Nat.div_lt_iff_lt_mul (by norm_num), ← pow_succ]
      exact hsize
    · omega

/-- A number without trailing zeros, as far as its exponent goes. -/
def Context.reduce (c : Context) (d : Dec) : Dec :=
  if d.coeff = 0 then ⟨0, 0⟩ else trim c.emax (size d.coeff) d

theorem value_reduce (c : Context) (d : Dec) : (c.reduce d).value = d.value := by
  unfold Context.reduce
  split_ifs with h
  · rw [Dec.value_eq_zero.2 h, Dec.value_eq_zero]
  · exact value_trim _ _ d

/-- A fraction does not end in zero. -/
theorem reduce_last {c : Context} {d : Dec} (hmax : 0 ≤ c.emax) :
    (c.reduce d).coeff % 10 ≠ 0 ∨ 0 ≤ (c.reduce d).exp := by
  unfold Context.reduce
  split_ifs with h
  · exact .inr le_rfl
  · exact (trim_last (Nat.pos_of_ne_zero h) le_rfl).imp_right hmax.trans

/-! ## Positional notation -/

/-- The digits before and after the decimal point. -/
def places (d : Dec) : List ℕ × List ℕ :=
  if 0 ≤ d.exp then (digits d.coeff ++ List.replicate d.exp.toNat 0, [])
  else
    let k := (-d.exp).toNat
    let ds := List.replicate (k + 1 - (digits d.coeff).length) 0 ++ digits d.coeff
    (ds.take (ds.length - k), ds.drop (ds.length - k))

/-- What the digits of a number with a fraction are. -/
theorem places_fraction {d : Dec} (h : d.exp < 0) : ∃ ds : List ℕ, ofPlaces ds = d.coeff ∧
    (-d.exp).toNat < ds.length ∧ (∀ x ∈ ds, x < 10) ∧ ds.getLast? = some (d.coeff % 10) ∧
    places d =
      (ds.take (ds.length - (-d.exp).toNat), ds.drop (ds.length - (-d.exp).toNat)) := by
  refine ⟨List.replicate ((-d.exp).toNat + 1 - (digits d.coeff).length) 0 ++ digits d.coeff,
    ?_, ?_, ?_, ?_, ?_⟩
  · rw [ofPlaces_append, ofPlaces_zeros, ofPlaces_digits, Nat.zero_mul, Nat.zero_add]
  · rw [List.length_append, List.length_replicate]
    omega
  · intro x hx
    rcases List.mem_append.1 hx with hx | hx
    · rw [List.eq_of_mem_replicate hx]
      exact Nat.succ_pos 9
    · exact digits_lt hx
  · rw [List.getLast?_append_of_ne_nil _ (digits_ne_nil _),
      List.getLast?_eq_getLast_of_ne_nil (digits_ne_nil _), getLast_digits]
  · rw [places, if_neg (not_le.2 h)]

theorem places_ne_nil (d : Dec) : (places d).1 ≠ [] := by
  rcases le_or_gt 0 d.exp with h | h
  · rw [places, if_pos h]
    exact List.append_ne_nil_of_left_ne_nil (digits_ne_nil _) _
  · obtain ⟨ds, -, hlength, -, -, heq⟩ := places_fraction h
    rw [heq, Ne, ← List.length_eq_zero_iff, List.length_take]
    omega

theorem places_lt {d : Dec} {x : ℕ} (h : x ∈ (places d).1 ++ (places d).2) : x < 10 := by
  rcases le_or_gt 0 d.exp with hexp | hexp
  · rw [places, if_pos hexp, List.append_nil] at h
    rcases List.mem_append.1 h with hx | hx
    · exact digits_lt hx
    · rw [List.eq_of_mem_replicate hx]
      exact Nat.succ_pos 9
  · obtain ⟨ds, -, -, hlt, -, heq⟩ := places_fraction hexp
    rw [heq, List.take_append_drop] at h
    exact hlt x h

/-- The fraction ends in the last digit of the coefficient. -/
theorem places_last {d : Dec} {x : ℕ} (h : (places d).2.getLast? = some x) :
    d.exp < 0 ∧ x = d.coeff % 10 := by
  rcases le_or_gt 0 d.exp with hexp | hexp
  · rw [places, if_pos hexp] at h
    cases h
  · obtain ⟨ds, -, hlength, -, hlast, heq⟩ := places_fraction hexp
    have hdrop : ¬ ds.length ≤ ds.length - (-d.exp).toNat := by omega
    rw [heq, List.getLast?_drop, if_neg hdrop, hlast] at h
    exact ⟨hexp, (Option.some.inj h).symm⟩

theorem places_value (d : Dec) :
    (ofPlaces ((places d).1 ++ (places d).2) : ℚ) / 10 ^ (places d).2.length = d.value := by
  rcases le_or_gt 0 d.exp with hexp | hexp
  · have hlower := @Dec.value_lower d.coeff d.exp 0 hexp
    rw [places, if_pos hexp, List.append_nil, List.length_nil, pow_zero, div_one, ofPlaces_append,
      ofPlaces_zeros, ofPlaces_digits, List.length_replicate, Nat.add_zero]
    rw [sub_zero] at hlower
    rw [show d.value = Dec.value ⟨d.coeff, d.exp⟩ from rfl, hlower, Dec.value, zpow_zero, mul_one]
  · obtain ⟨ds, hvalue, hlength, -, -, heq⟩ := places_fraction hexp
    have hcount : (ds.drop (ds.length - (-d.exp).toNat)).length = (-d.exp).toNat := by
      rw [List.length_drop]
      omega
    have hexp' : d.exp = -((-d.exp).toNat : ℤ) := by omega
    rw [heq, List.take_append_drop, hcount, hvalue, Dec.value]
    nth_rewrite 2 [hexp']
    rw [zpow_neg, zpow_natCast, div_eq_mul_inv]

end Decimals
