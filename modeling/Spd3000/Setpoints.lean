/-
  Numbers in command texts (`_format_number` and its callers).

  A number is written as a plain decimal (`plainValue` reads it back).  The
  `Decimal` context rounds twice on the way: `%` to find out whether the number
  is a multiple of the resolution, and `normalize()` before it is written.  A
  rounding is exact up to 28 digits, so a duration with more digits is rounded, and
  a voltage or current that is off the grid by almost nothing is taken for one on it.
-/
import Spd3000.Methods
import Mathlib.Data.List.TakeWhile
import Mathlib.Tactic.FieldSimp

namespace Spd3000

open Decimals

/-! ## Plain decimals -/

/-- The value of a plain decimal: digits, and possibly a fraction that does not end in zero. -/
def plainValue (s : PyStr) : Option ℚ :=
  let ip := s.takeWhile fun c => 48 ≤ c.val ∧ c.val ≤ 57
  match s.dropWhile fun c => 48 ≤ c.val ∧ c.val ≤ 57 with
  | [] => if ip = [] then none else some (asciiNumber ip)
  | point :: fp =>
    if ip ≠ [] ∧ point.val = 46 ∧ isAsciiDigits fp ∧ fp.getLast?.map Fin.val ≠ some 48 then
      some (asciiNumber (ip ++ fp) / 10 ^ fp.length)
    else none

/-- A plain decimal has digits and a point. -/
theorem plainValue_chars {s : PyStr} (h : (plainValue s).isSome) :
    ∀ c ∈ s, 48 ≤ c.val ∧ c.val ≤ 57 ∨ c.val = 46 := by
  intro c hc
  rw [← List.takeWhile_append_dropWhile (p := fun c : CodePoint => 48 ≤ c.val ∧ c.val ≤ 57) (l := s),
    List.mem_append] at hc
  unfold plainValue at h
  dsimp only at h
  rcases hc with hc | hc
  · have hdigit := List.mem_takeWhile_imp hc
    exact .inl (of_decide_eq_true hdigit)
  · generalize s.dropWhile (fun c : CodePoint => 48 ≤ c.val ∧ c.val ≤ 57) = rest at h hc
    cases rest with
    | nil => cases hc
    | cons point fp =>
      dsimp only at h
      split_ifs at h with hfraction
      · obtain ⟨-, hpoint, hdigits, -⟩ := hfraction
        rw [isAsciiDigits, Bool.and_eq_true, List.all_eq_true] at hdigits
        rcases List.mem_cons.1 hc with rfl | hc
        · exact .inr hpoint
        · exact .inl (by simpa using hdigits.2 _ hc)
      · cases h

theorem plainValue_comma {s : PyStr} (h : (plainValue s).isSome) :
    ∀ c ∈ s, c ≠ CodePoint.ofChar ',' := by
  rintro c hc rfl
  have hcomma : (CodePoint.ofChar ',').val = 44 := rfl
  have hchar := plainValue_chars h _ hc
  rw [hcomma] at hchar
  exact absurd hchar (by decide)

/-- Plain decimals can be told apart in a list. -/
theorem join_inj {ts ts' : List PyStr} (h : ∀ t ∈ ts, (plainValue t).isSome)
    (h' : ∀ t ∈ ts', (plainValue t).isSome) (hne : ts ≠ []) (hne' : ts' ≠ [])
    (heq : join (lit ",") ts = join (lit ",") ts') : ts = ts' := by
  have hlit : lit "," = [CodePoint.ofChar ','] := rfl
  rw [hlit] at heq
  calc ts
    _ = split 44 (join [CodePoint.ofChar ','] ts) :=
        (split_join hne fun t ht => plainValue_comma (h t ht)).symm
    _ = split 44 (join [CodePoint.ofChar ','] ts') := by rw [heq]
    _ = ts' := split_join hne' fun t ht => plainValue_comma (h' t ht)

theorem digitChar_range {ds : List ℕ} (h : ∀ d ∈ ds, d < 10) :
    ∀ c ∈ ds.map digitChar, 48 ≤ c.val ∧ c.val ≤ 57 := by
  intro c hc
  obtain ⟨d, hd, rfl⟩ := List.mem_map.1 hc
  have hval := val_digitChar (h d hd)
  have hlt := h d hd
  omega

theorem asciiNumber_map {ds : List ℕ} (h : ∀ d ∈ ds, d < 10) :
    asciiNumber (ds.map digitChar) = ofPlaces ds := by
  have hmap : (ds.map digitChar).map (fun c => c.val - 48) = ds := by
    rw [List.map_map]
    conv_rhs => rw [← List.map_id ds]
    refine List.map_congr_left fun d hd => ?_
    rw [Function.comp_apply, val_digitChar (h d hd), Nat.add_sub_cancel_left, id]
  rw [asciiNumber, hmap]

/-- The characters of digits and a fraction. -/
def placesText (ip fp : List ℕ) : PyStr :=
  ip.map digitChar ++ if fp = [] then [] else lit "." ++ fp.map digitChar

theorem plainText_eq (d : Dec) : PyDecimal.plainText d = placesText (places d).1 (places d).2 := rfl

/-- Scanning the digits of a text. -/
theorem span_placesText {p : CodePoint → Bool} {ip : List ℕ} (fp : List ℕ)
    (hip : ∀ c ∈ ip.map digitChar, p c) (hpoint : ∀ c : CodePoint, c.val = 46 → p c = false) :
    (placesText ip fp).takeWhile p = ip.map digitChar ∧
      (placesText ip fp).dropWhile p = if fp = [] then [] else lit "." ++ fp.map digitChar := by
  have hlit : lit "." = [CodePoint.ofChar '.'] := rfl
  have hdot : p (CodePoint.ofChar '.') = false := hpoint _ rfl
  rw [placesText, List.takeWhile_append_of_pos hip, List.dropWhile_append_of_pos hip, hlit]
  split_ifs with hfp
  · exact ⟨List.append_nil _, rfl⟩
  · rw [List.singleton_append, List.takeWhile_cons_of_neg (by simp [hdot]), List.append_nil,
      List.dropWhile_cons_of_neg (by simp [hdot])]
    exact ⟨rfl, rfl⟩

/-- A decimal without trailing zeros is written as a plain decimal with its value. -/
theorem plainValue_plainText {d : Dec} (h : d.coeff % 10 ≠ 0 ∨ 0 ≤ d.exp) :
    plainValue (PyDecimal.plainText d) = some d.value := by
  have hvalue := places_value d
  have hlt : ∀ x ∈ (places d).1 ++ (places d).2, x < 10 := fun x => places_lt
  have hne := places_ne_nil d
  have hlast := @places_last d
  rw [plainText_eq]
  generalize (places d).1 = ip at hvalue hlt hne
  generalize (places d).2 = fp at hvalue hlt hlast
  have hip := digitChar_range fun x hx => hlt x (List.mem_append_left _ hx)
  obtain ⟨htake, hdrop⟩ := span_placesText (p := fun c => 48 ≤ c.val ∧ c.val ≤ 57) fp
    (fun c hc => decide_eq_true (hip c hc)) fun c hc => decide_eq_false (by omega)
  have hnil : ip.map digitChar ≠ [] := fun hmap => hne (List.map_eq_nil_iff.1 hmap)
  unfold plainValue
  dsimp only
  rw [htake, hdrop]
  by_cases hfp : fp = []
  · subst hfp
    rw [if_pos rfl]
    dsimp only
    rw [if_neg hnil, asciiNumber_map fun x hx => hlt x (List.mem_append_left _ hx)]
    rw [List.append_nil, List.length_nil, pow_zero, div_one] at hvalue
    rw [hvalue]
  · have hlit : lit "." = [CodePoint.ofChar '.'] := rfl
    have hfraction := digitChar_range fun x hx => hlt x (List.mem_append_right _ hx)
    have hdigits : isAsciiDigits (fp.map digitChar) = true := by
      rw [isAsciiDigits, Bool.and_eq_true, List.all_eq_true]
      refine ⟨decide_eq_true fun hmap => hfp (List.map_eq_nil_iff.1 hmap), fun c hc => ?_⟩
      have hrange := hfraction c hc
      simpa using hrange
    have hzero : (fp.map digitChar).getLast?.map Fin.val ≠ some 48 := by
      rw [List.getLast?_map, Option.map_map]
      intro hsome
      obtain ⟨x, hx, hval⟩ := Option.map_eq_some_iff.1 hsome
      have hx10 : x < 10 := hlt x (List.mem_append_right _ (List.mem_of_getLast? hx))
      rw [Function.comp_apply, val_digitChar hx10] at hval
      obtain ⟨hexp, heq⟩ := hlast hx
      omega
    rw [if_neg hfp, hlit, List.singleton_append]
    dsimp only
    rw [if_pos ⟨hnil, rfl, hdigits, hzero⟩, ← List.map_append, asciiNumber_map hlt,
      List.length_map, hvalue]

/-! ### Reading a plain decimal as a float -/

theorem isNumeral_point : ∀ c : CodePoint, c.val = 46 → isNumeral c = false := by
  intro c hc
  have hnone : digitValue c = none := by
    rw [digitValue, if_neg (by omega), Option.map_eq_none_iff, List.find?_eq_none]
    intro z hz
    have hall : ∀ z ∈ digitZeros, 46 < z := by decide
    have hlt := hall z hz
    simp only [Bool.and_eq_true, decide_eq_true_eq]
    omega
  rw [isNumeral, hnone]
  simp [hc]

theorem numeral_map {ds : List ℕ} (h : ∀ d ∈ ds, d < 10) :
    numeral (ds.map digitChar) = some ds := by
  unfold numeral
  split_ifs with hnil
  · rw [List.map_eq_nil_iff.1 hnil]
  · exact underscored_map (fun hds => hnil (List.map_eq_nil_iff.2 hds)) h

theorem isNumeral_map {ds : List ℕ} (h : ∀ d ∈ ds, d < 10) :
    ∀ c ∈ ds.map digitChar, isNumeral c := by
  intro c hc
  obtain ⟨d, hd, rfl⟩ := List.mem_map.1 hc
  rw [isNumeral, digitValue_digitChar (h d hd)]
  rfl

theorem decimalLiteral_placesText {ip fp : List ℕ} (hne : ip ≠ []) (hip : ∀ d ∈ ip, d < 10)
    (hfp : ∀ d ∈ fp, d < 10) :
    decimalLiteral (placesText ip fp) = some ⟨ofPlaces (ip ++ fp), 0 - fp.length⟩ := by
  obtain ⟨htake, hdrop⟩ := span_placesText fp (isNumeral_map hip) isNumeral_point
  have hsplit : splitLiteral (placesText ip fp) = (ip.map digitChar, fp.map digitChar, []) := by
    unfold splitLiteral
    dsimp only
    rw [htake, hdrop]
    by_cases hnil : fp = []
    · rw [if_pos hnil, hnil]
      rfl
    · have hlit : lit "." = [CodePoint.ofChar '.'] := rfl
      have hpoint : (CodePoint.ofChar '.').val = 46 := rfl
      rw [if_neg hnil, hlit, List.singleton_append]
      dsimp only
      rw [if_pos hpoint, List.takeWhile_eq_self_iff.2 (isNumeral_map hfp),
        List.dropWhile_eq_nil_iff.2 (isNumeral_map hfp)]
  rw [decimalLiteral, hsplit]
  dsimp only
  rw [numeral_map hip, numeral_map hfp, exponentOf]
  dsimp only
  rw [if_neg fun h => hne h.1]

/-- `float()` reads a plain decimal. -/
theorem floatOfText_plainText (d : Dec) : ∃ f, floatOfText (PyDecimal.plainText d) = some f := by
  have hlt : ∀ x ∈ (places d).1 ++ (places d).2, x < 10 := fun x => places_lt
  have hne := places_ne_nil d
  rw [plainText_eq]
  generalize (places d).1 = ip at hlt hne
  generalize (places d).2 = fp at hlt
  have hip : ∀ x ∈ ip, x < 10 := fun x hx => hlt x (List.mem_append_left _ hx)
  have hfp : ∀ x ∈ fp, x < 10 := fun x hx => hlt x (List.mem_append_right _ hx)
  have hliteral := decimalLiteral_placesText hne hip hfp
  obtain ⟨x, ip, rfl⟩ := List.exists_cons_of_ne_nil hne
  have hx := val_digitChar (hip x List.mem_cons_self)
  have hx10 := hip x List.mem_cons_self
  have hcons : ∃ s, placesText (x :: ip) fp = digitChar x :: s := ⟨_, rfl⟩
  obtain ⟨s, hs⟩ := hcons
  have hsign : takeSign (placesText (x :: ip) fp) = (false, placesText (x :: ip) fp) := by
    rw [hs, takeSign, if_neg (by omega), if_neg (by omega)]
  unfold floatOfText
  rw [hsign]
  dsimp only
  split_ifs with hinf hnan
  · exact ⟨_, rfl⟩
  · exact ⟨_, rfl⟩
  · rw [hliteral]
    exact ⟨_, rfl⟩

/-! ## Rounding -/

/-- Numbers in the ranges of the driver are rounded without an overflow. -/
theorem fix_value {d : Dec} (h : d.value ≤ 10000) :
    ∃ r, PyDecimal.fix d = .ok r ∧ r.value = (defaultContext.round d).value := by
  have hle : (defaultContext.round d).value ≤ 20000 := by
    have hround := Context.round_le (c := defaultContext) d
    linarith
  unfold PyDecimal.fix
  generalize defaultContext.round d = r at hle
  dsimp only
  split_ifs with hzero hover
  · refine ⟨_, rfl, ?_⟩
    rw [Dec.value_eq_zero.2 hzero, Dec.value_eq_zero]
  · exfalso
    have hemax : (5 : ℤ) < defaultContext.emax := by decide
    have hpow : (10 : ℚ) ^ (5 : ℤ) ≤ r.value :=
      (zpow_le_zpow_right₀ (by norm_num) (by omega)).trans
        (Dec.pow_le_value (Nat.pos_of_ne_zero hzero))
    norm_num at hpow
    linarith
  · exact ⟨r, rfl, rfl⟩

theorem normalize_value {d : Dec} (h : d.value ≤ 10000) :
    ∃ n, PyDecimal.normalize d = .ok n ∧ n.value = (defaultContext.round d).value ∧
      (n.coeff % 10 ≠ 0 ∨ 0 ≤ n.exp) := by
  obtain ⟨r, hfix, hr⟩ := fix_value h
  have hemax : 0 ≤ defaultContext.emax := by decide
  refine ⟨defaultContext.reduce r, ?_, ?_, reduce_last hemax⟩
  · rw [PyDecimal.normalize, hfix]
    rfl
  · rw [value_reduce, hr]

theorem round_zero {d : Dec} (h : d.value = 0) : (defaultContext.round d).value = 0 := by
  rw [Context.round_eq_zero_iff, h, mul_zero]
  positivity

theorem normalize_zero {d : Dec} (h : d.value = 0) : PyDecimal.normalize d = .ok ⟨0, 0⟩ := by
  obtain ⟨r, hfix, hr⟩ := @fix_value d (by rw [h]; norm_num)
  rw [round_zero h, Dec.value_eq_zero] at hr
  rw [PyDecimal.normalize, hfix, Except.map, Context.reduce, if_pos hr]

/-- What is left of a number above a multiple of the step. -/
def excess (x s : ℚ) : ℚ := x - s * ⌊x / s⌋₊

theorem excess_nonneg {x s : ℚ} (hx : 0 ≤ x) (hs : 0 < s) : 0 ≤ excess x s := by
  have hfloor := Nat.floor_le (div_nonneg hx hs.le)
  rw [le_div_iff₀ hs] at hfloor
  rw [excess, mul_comm]
  linarith

theorem excess_eq_zero {x s : ℚ} (hs : 0 < s) : excess x s = 0 ↔ ∃ k : ℕ, x = k * s := by
  constructor
  · intro h
    refine ⟨⌊x / s⌋₊, ?_⟩
    rw [excess] at h
    linarith
  · rintro ⟨k, rfl⟩
    rw [excess, mul_div_cancel_right₀ _ hs.ne', Nat.floor_natCast]
    ring

/-- A number passes the check of the resolution if it is at most half of the least positive
    number above a multiple. -/
theorem requireAligned_some {d r : Dec} (hd : d.value ≤ 10000) (hr : 1 / 1000 ≤ r.value)
    (name : PyStr) : requireAligned name d (some r) =
      if 2 * excess d.value r.value ≤ 10 ^ etiny then .ok ()
      else .error (invalid (name ++ lit " must align to the " ++ PyDecimal.str r ++
        lit " resolution")) := by
  have hpos : 0 < r.value := by linarith
  have hquo : Dec.quo d r < 10 ^ 28 := by
    rw [Dec.quo_eq_floor, Nat.floor_lt (div_nonneg d.value_nonneg hpos.le), div_lt_iff₀ hpos]
    push_cast
    linarith
  have hrem : (Dec.rem d r).value = excess d.value r.value := Dec.value_rem d r
  have hle : (Dec.rem d r).value ≤ 10000 := by
    have hmul : 0 ≤ r.value * ⌊d.value / r.value⌋₊ := by positivity
    rw [hrem, excess]
    linarith
  obtain ⟨x, hfix, hx⟩ := fix_value hle
  have hprec : ¬ 10 ^ defaultContext.prec ≤ Dec.quo d r := not_le.2 hquo
  have hcoeff : x.coeff = 0 ↔ 2 * excess d.value r.value ≤ 10 ^ etiny := by
    rw [← Dec.value_eq_zero, hx, Context.round_eq_zero_iff, hrem]
    rfl
  rw [requireAligned, PyDecimal.remainder, if_neg hprec, hfix]
  dsimp only [Bind.bind, Except.bind]
  by_cases hzero : x.coeff = 0
  · rw [if_neg (not_not.2 hzero), if_pos (hcoeff.1 hzero)]
  · rw [if_pos hzero, if_neg (mt hcoeff.2 hzero)]

/-- The text of a number in the range is the plain decimal of the rounded number. -/
theorem renderNumber_eq {name : PyStr} {neg : Bool} {d : Dec} {resolution : Option Dec}
    (hd : d.value ≤ 10000) (hneg : neg → d.value = 0)
    (ha : requireAligned name d resolution = .ok ()) :
    ∃ n, renderNumber name neg d resolution = .ok (PyDecimal.plainText n) ∧
      n.value = (defaultContext.round d).value ∧ (n.coeff % 10 ≠ 0 ∨ 0 ≤ n.exp) := by
  cases neg with
  | false =>
    obtain ⟨n, hnorm, hvalue, hlast⟩ := normalize_value hd
    refine ⟨n, ?_, hvalue, hlast⟩
    have hminus : plainValue "-0" = none := by decide
    have hne : PyDecimal.plainText n ≠ lit "-0" := by
      intro heq
      have hplain := plainValue_plainText hlast
      rw [heq] at hplain
      exact absurd (hplain.symm.trans hminus) (Option.some_ne_none _)
    have hformat : PyDecimal.format false n = PyDecimal.plainText n := rfl
    rw [renderNumber, ha, hnorm]
    dsimp only [Bind.bind, Except.bind, Pure.pure, Except.pure]
    rw [hformat, if_neg hne]
  | true =>
    have hzero := hneg rfl
    refine ⟨⟨0, 0⟩, ?_, ?_, .inr le_rfl⟩
    · rw [renderNumber, ha, normalize_zero hzero]
      rfl
    · rw [round_zero hzero, Dec.value_eq_zero]

/-! ## Numbers -/

namespace PyReal

/-- The decimal value of `str(value)`, if it is finite. -/
def shownValue (v : PyReal) : Option ℚ :=
  match v.decimalOfStr with
  | .ok (.finite neg d) => some (PyDecimal.signed neg d)
  | _ => none

/-- An integer whose text is longer than the limit. -/
def Overlong : PyReal → Prop
  | int i => 10 ^ maxStrDigits ≤ i.natAbs
  | _ => False

theorem maxStrDigits_lt {n : ℕ} : maxStrDigits < (digits n).length ↔ 10 ^ maxStrDigits ≤ n := by
  by_cases hzero : n = 0
  · have hpow : 0 < 10 ^ maxStrDigits := Nat.pow_pos (Nat.succ_pos 9)
    have hlength : ¬ maxStrDigits < (digits 0).length := by decide
    rw [hzero]
    exact iff_of_false hlength hpow.not_ge
  · rw [digits, if_neg hzero, List.length_reverse]
    exact lt_size_iff

theorem decimalOfStr_error {v : PyReal} {e : PyExc} (h : v.decimalOfStr = .error e) :
    v.Overlong ∧ e.cls = .valueError := by
  cases v with
  | int i =>
    rw [decimalOfStr] at h
    split_ifs at h with hlong
    cases h
    exact ⟨maxStrDigits_lt.1 hlong, rfl⟩
  | float f => cases f <;> cases h
  | negativeZero => cases h
  | decimal d => cases h

theorem Overlong.decimalOfStr {v : PyReal} (h : v.Overlong) : ∃ e, v.decimalOfStr = .error e := by
  cases v with
  | int i =>
    rw [PyReal.decimalOfStr, if_pos (maxStrDigits_lt.2 h)]
    exact ⟨_, rfl⟩
  | float f => exact h.elim
  | negativeZero => exact h.elim
  | decimal d => exact h.elim

end PyReal

/-- The documented values of a number: from zero to `limit`, and multiples of `step`. -/
structure Grid where
  limit : ℚ
  step : Option ℚ

namespace Grid
variable (g : Grid) (v : PyReal)

/-- The text is a plain decimal with exactly the value, which is one of the grid. -/
def Exact (text : PyStr) : Prop :=
  ∃ x, v.shownValue = some x ∧ plainValue text = some x ∧ 0 ≤ x ∧ x ≤ g.limit ∧
    ∀ s ∈ g.step, ∃ k : ℕ, x = k * s

/-- The value is not finite, out of the range, or off the grid by more than half of the least
    positive number of the context. -/
def Refuses : Prop :=
  ¬ v.Overlong ∧ ∀ x ∈ v.shownValue, 0 ≤ x → x ≤ g.limit →
    ∃ s ∈ g.step, 10 ^ etiny < 2 * excess x s

/-- Without a resolution: the value is not one of the context.  With a resolution: it is off the
    grid, but by no more than half of the least positive number of the context. -/
def Loses : Prop :=
  ∃ x ∈ v.shownValue,
    match g.step with
    | none => ¬ defaultContext.Fits x
    | some s => 0 < excess x s ∧ 2 * excess x s ≤ 10 ^ etiny

variable {g v}

theorem exact_iff {x : ℚ} (h : v.shownValue = some x) {text : PyStr} :
    g.Exact v text ↔ plainValue text = some x ∧ 0 ≤ x ∧ x ≤ g.limit ∧
      ∀ s ∈ g.step, ∃ k : ℕ, x = k * s := by
  simp only [Exact, h, Option.some.injEq, exists_eq_left']

theorem refuses_iff {x : ℚ} (h : v.shownValue = some x) (hlong : ¬ v.Overlong) :
    g.Refuses v ↔ (0 ≤ x → x ≤ g.limit → ∃ s ∈ g.step, 10 ^ etiny < 2 * excess x s) := by
  simp only [Refuses, h, hlong, not_false_eq_true, true_and, Option.mem_def, Option.some.injEq,
    forall_eq']

/-- What the rendering of a number gives. -/
inductive Rendered (g : Grid) (v : PyReal) : Except PyExc PyStr → Prop
  | overlong {e : PyExc} (hlong : v.Overlong) (hcls : e.cls = .valueError) :
    Rendered g v (.error e)
  | refused {text : PyStr} (hrefuses : g.Refuses v) : Rendered g v (.error (invalid text))
  | accepted {text : PyStr} {f : PyFloat} (hlong : ¬ v.Overlong) (hrefuses : ¬ g.Refuses v)
    (hplain : (plainValue text).isSome) (hfloat : floatOfText text = some f)
    (hexact : g.Exact v text ↔ ¬ g.Loses v) : Rendered g v (.ok text)

end Grid

/-- A `Decimal` whose sign is that of a number in a range that starts at zero. -/
theorem signed_nonneg {neg : Bool} {d : Dec} (h : 0 ≤ PyDecimal.signed neg d) :
    PyDecimal.signed neg d = d.value ∧ (neg → d.value = 0) := by
  have hd := d.value_nonneg
  cases neg with
  | false => exact ⟨rfl, nofun⟩
  | true =>
    have hneg : PyDecimal.signed true d = -d.value := rfl
    rw [hneg] at h ⊢
    have hzero : d.value = 0 := by linarith
    exact ⟨by rw [hzero, neg_zero], fun _ => hzero⟩

/-! ### The function `_format_number` -/

section
variable {name : PyStr} {neg : Bool} {d maximum r : Dec} {v : PyReal}

theorem resolution_le (hr : r.coeff = 1) (hexp : -3 ≤ r.exp) : 1 / 1000 ≤ r.value := by
  have hpow : (10 : ℚ) ^ (-3 : ℤ) ≤ 10 ^ r.exp := zpow_le_zpow_right₀ (by norm_num) hexp
  rw [Dec.value, hr, Nat.cast_one, one_mul]
  norm_num at hpow ⊢
  exact hpow

/-- Numbers on the grid of a resolution are of the context. -/
theorem fits_multiple {x : ℚ} {k : ℕ} (hx : x = k * r.value) (hle : x ≤ 10000) (hr : r.coeff = 1)
    (hexp : -3 ≤ r.exp) : defaultContext.Fits x := by
  have hk : (k : ℚ) ≤ 10000000 := by
    have hmul : (k : ℚ) * (1 / 1000) ≤ k * r.value :=
      mul_le_mul_of_nonneg_left (resolution_le hr hexp) (by positivity)
    linarith
  have hlt : k < 10 ^ 28 := lt_of_le_of_lt (by exact_mod_cast hk) (by norm_num : 10000000 < 10 ^ 28)
  have hetiny : defaultContext.etiny ≤ -3 := by decide
  exact ⟨⟨k, r.exp⟩, hlt, hetiny.trans hexp, by rw [hx, Dec.value, Dec.value, hr,
    Nat.cast_one, one_mul]⟩

theorem rendered_free (hshown : v.shownValue = some (PyDecimal.signed neg d))
    (hlong : ¬ v.Overlong) (hmax : maximum.value ≤ 10000)
    (hrange : 0 ≤ PyDecimal.signed neg d ∧ PyDecimal.signed neg d ≤ maximum.value) :
    Grid.Rendered ⟨maximum.value, none⟩ v (renderNumber name neg d none) := by
  obtain ⟨hvalue, hneg⟩ := signed_nonneg hrange.1
  rw [hvalue] at hshown hrange
  obtain ⟨n, hrender, hn, hlast⟩ := renderNumber_eq (hrange.2.trans hmax) hneg
    (rfl : requireAligned name d none = .ok ())
  obtain ⟨f, hf⟩ := floatOfText_plainText n
  rw [hrender]
  refine .accepted hlong ?_ (by rw [plainValue_plainText hlast]; rfl) hf ?_
  · rw [Grid.refuses_iff hshown hlong]
    intro h
    obtain ⟨s, hs, -⟩ := h hrange.1 hrange.2
    cases hs
  · rw [Grid.exact_iff hshown, plainValue_plainText hlast, hn]
    constructor
    · rintro ⟨hround, -⟩ ⟨x, hx, hfits⟩
      cases hshown.symm.trans hx
      exact hfits (Context.round_value_iff.1 (Option.some.inj hround))
    · intro hloses
      have hfits : defaultContext.Fits d.value := by
        by_contra hfits
        exact hloses ⟨_, hshown, hfits⟩
      exact ⟨congrArg some (Context.round_value_iff.2 hfits), hrange.1, hrange.2, nofun⟩

theorem rendered_aligned (hshown : v.shownValue = some (PyDecimal.signed neg d))
    (hlong : ¬ v.Overlong) (hmax : maximum.value ≤ 10000) (hr : r.coeff = 1) (hexp : -3 ≤ r.exp)
    (hrange : 0 ≤ PyDecimal.signed neg d ∧ PyDecimal.signed neg d ≤ maximum.value) :
    Grid.Rendered ⟨maximum.value, some r.value⟩ v (renderNumber name neg d (some r)) := by
  obtain ⟨hvalue, hneg⟩ := signed_nonneg hrange.1
  rw [hvalue] at hshown hrange
  have hd : d.value ≤ 10000 := hrange.2.trans hmax
  have hstep := resolution_le hr hexp
  have hpos : 0 < r.value := by linarith
  have haligned := requireAligned_some hd hstep name
  by_cases hle : 2 * excess d.value r.value ≤ 10 ^ etiny
  · rw [if_pos hle] at haligned
    obtain ⟨n, hrender, hn, hlast⟩ := renderNumber_eq hd hneg haligned
    obtain ⟨f, hf⟩ := floatOfText_plainText n
    rw [hrender]
    refine .accepted hlong ?_ (by rw [plainValue_plainText hlast]; rfl) hf ?_
    · rw [Grid.refuses_iff hshown hlong]
      intro h
      obtain ⟨s, hs, hlt⟩ := h hrange.1 hrange.2
      cases hs
      exact hlt.not_ge hle
    · rw [Grid.exact_iff hshown, plainValue_plainText hlast, hn]
      constructor
      · rintro ⟨-, -, -, hmultiple⟩ ⟨x, hx, hlt, -⟩
        cases hshown.symm.trans hx
        exact hlt.ne' ((excess_eq_zero hpos).2 (hmultiple _ rfl))
      · intro hloses
        have hzero : excess d.value r.value = 0 := by
          by_contra hne
          exact hloses ⟨_, hshown, lt_of_le_of_ne (excess_nonneg hrange.1 hpos) (Ne.symm hne), hle⟩
        obtain ⟨k, hk⟩ := (excess_eq_zero hpos).1 hzero
        refine ⟨congrArg some (Context.round_value_iff.2 (fits_multiple hk hd hr hexp)), hrange.1,
          hrange.2, fun s hs => ?_⟩
        cases hs
        exact ⟨k, hk⟩
  · rw [if_neg hle] at haligned
    rw [renderNumber, haligned]
    refine .refused ((Grid.refuses_iff hshown hlong).2 fun _ _ => ⟨_, rfl, not_le.1 hle⟩)

/-- The function `_format_number` with a resolution that is a power of ten. -/
theorem formatNumber_rendered (name : PyStr) (maximum : Dec) (resolution : Option Dec) {a : PyArg}
    (ha : a.asReal = some v) (hmax : maximum.value ≤ 10000)
    (hres : ∀ r ∈ resolution, r.coeff = 1 ∧ -3 ≤ r.exp) :
    Grid.Rendered ⟨maximum.value, resolution.map Dec.value⟩ v
      (formatNumber name a ⟨0, 0⟩ maximum resolution) := by
  unfold formatNumber
  rw [ha]
  dsimp only
  cases hstr : v.decimalOfStr with
  | error e =>
    obtain ⟨hlong, hcls⟩ := PyReal.decimalOfStr_error hstr
    have hinvalid : e.isinstance PyDecimal.invalidOperation = false := by
      obtain ⟨cls, args, attrs⟩ := e
      cases hcls
      rfl
    dsimp only
    rw [hinvalid, if_neg Bool.false_ne_true]
    exact .overlong hlong hcls
  | ok x =>
    have hlong : ¬ v.Overlong := by
      intro h
      obtain ⟨e, he⟩ := h.decimalOfStr
      rw [hstr] at he
      cases he
    have hinfinite : v.shownValue = none →
        Grid.Refuses ⟨maximum.value, resolution.map Dec.value⟩ v := by
      intro hnone
      refine ⟨hlong, fun x hx => ?_⟩
      rw [hnone] at hx
      cases hx
    cases x with
    | inf neg => exact .refused (hinfinite (by rw [PyReal.shownValue, hstr]))
    | nan => exact .refused (hinfinite (by rw [PyReal.shownValue, hstr]))
    | finite neg d =>
      have hshown : v.shownValue = some (PyDecimal.signed neg d) := by
        rw [PyReal.shownValue, hstr]
      have hzero : Dec.value ⟨0, 0⟩ = 0 := Dec.value_eq_zero.2 rfl
      dsimp only
      rw [hzero]
      by_cases hrange : 0 ≤ PyDecimal.signed neg d ∧ PyDecimal.signed neg d ≤ maximum.value
      · rw [if_pos hrange]
        cases resolution with
        | none => exact rendered_free hshown hlong hmax hrange
        | some r =>
          obtain ⟨hr, hexp⟩ := hres r rfl
          exact rendered_aligned hshown hlong hmax hr hexp hrange
      · rw [if_neg hrange]
        exact .refused ((Grid.refuses_iff hshown hlong).2 fun h0 hle => absurd ⟨h0, hle⟩ hrange)

end

/-! ## Writes of numbers -/

/-- A number of a write. -/
inductive Number where
  | setpoint (quantity : Quantity)
  | duration

/-- The documented resolution of setpoints. -/
def Model.step : Model → ℚ
  | spd3303X => 1 / 1000
  | spd3303XE | spd3303C => 1 / 100

namespace Number

def render (m : Model) : Number → PyArg → Except PyExc PyStr
  | setpoint quantity => Spd3000.setpoint m quantity
  | duration => Spd3000.duration

/-- The documented values. -/
def grid (m : Model) : Number → Grid
  | setpoint .voltage => ⟨32, some m.step⟩
  | setpoint .current => ⟨16 / 5, some m.step⟩
  | duration => ⟨10000, none⟩

end Number

/-- An argument that is an `int` other than a `bool`, a `float` or a `Decimal`. -/
structure NumberArg where
  arg : PyArg
  value : PyReal
  real : arg.asReal = some value

theorem resolutionOf_milli : resolutionOf (floatOfDec false ⟨1, -3⟩) = ⟨1, -3⟩ := by decide +kernel

theorem resolutionOf_centi : resolutionOf (floatOfDec false ⟨1, -2⟩) = ⟨1, -2⟩ := by decide +kernel

theorem capabilities_resolution (m : Model) : ∃ r : Dec, r.coeff = 1 ∧ -3 ≤ r.exp ∧
    r.value = m.step ∧ resolutionOf m.capabilities.voltageResolution = r ∧
      resolutionOf m.capabilities.currentResolution = r := by
  have hmilli : Dec.value ⟨1, -3⟩ = 1 / 1000 := by norm_num [Dec.value]
  have hcenti : Dec.value ⟨1, -2⟩ = 1 / 100 := by norm_num [Dec.value]
  cases m with
  | spd3303X => exact ⟨⟨1, -3⟩, rfl, le_rfl, hmilli, resolutionOf_milli, resolutionOf_milli⟩
  | spd3303XE => exact ⟨⟨1, -2⟩, rfl, by decide, hcenti, resolutionOf_centi, resolutionOf_centi⟩
  | spd3303C => exact ⟨⟨1, -2⟩, rfl, by decide, hcenti, resolutionOf_centi, resolutionOf_centi⟩

theorem render_rendered (m : Model) (n : Number) (a : NumberArg) :
    (n.grid m).Rendered a.value (n.render m a.arg) := by
  obtain ⟨r, hr, hexp, hvalue, hvoltage, hcurrent⟩ := capabilities_resolution m
  have hres : ∀ r' ∈ some r, r'.coeff = 1 ∧ -3 ≤ r'.exp := by
    rintro _ ⟨⟩
    exact ⟨hr, hexp⟩
  cases n with
  | setpoint quantity =>
    cases quantity with
    | voltage =>
      have hmax : Dec.value ⟨32, 0⟩ = 32 := by norm_num [Dec.value]
      have hformat := formatNumber_rendered "voltage" ⟨32, 0⟩ (some r) a.real
        (by rw [hmax]; norm_num) hres
      rw [Option.map_some, hvalue, hmax] at hformat
      rw [Number.render, Spd3000.setpoint, hvoltage]
      exact hformat
    | current =>
      have hmax : Dec.value ⟨32, -1⟩ = 16 / 5 := by norm_num [Dec.value]
      have hformat := formatNumber_rendered "current" ⟨32, -1⟩ (some r) a.real
        (by rw [hmax]; norm_num) hres
      rw [Option.map_some, hvalue, hmax] at hformat
      rw [Number.render, Spd3000.setpoint, hcurrent]
      exact hformat
  | duration =>
    have hmax : Dec.value ⟨10000, 0⟩ = 10000 := by norm_num [Dec.value]
    have hformat := formatNumber_rendered "duration_s" ⟨10000, 0⟩ none a.real hmax.le
      fun r hr => absurd hr (Option.not_mem_none r)
    rw [Option.map_none, hmax] at hformat
    exact hformat

/-! ### Several numbers -/

section
variable (m : Model) (ns : List (Number × NumberArg))

/-- A number is refused, and none before it has a text that is too long. -/
def RefusedFirst : Prop :=
  ∃ before n after, ns = before ++ n :: after ∧ (n.1.grid m).Refuses n.2.value ∧
    ∀ n' ∈ before, ¬ n'.2.value.Overlong

/-- Each number is written exactly. -/
def AllExact (texts : List PyStr) : Prop :=
  List.Forall₂ (fun n text => (n.1.grid m).Exact n.2.value text) ns texts

theorem AllExact.plain {m : Model} {ns : List (Number × NumberArg)} {texts : List PyStr}
    (h : AllExact m ns texts) : ∀ text ∈ texts, (plainValue text).isSome := by
  induction h with
  | nil => exact List.forall_mem_nil _
  | cons hexact _ ih =>
    obtain ⟨x, -, hx, -⟩ := hexact
    exact List.forall_mem_cons.2 ⟨by rw [hx]; rfl, ih⟩

/-- What the rendering of several numbers gives. -/
inductive RenderedAll : Except PyExc (List PyStr) → Prop
  | refused {e : PyExc} (hcls : e.isinstance .spd3000ValidationError) (hfirst : RefusedFirst m ns) :
    RenderedAll (.error e)
  | overlong {e : PyExc} (hcls : ¬ e.isinstance .spd3000ValidationError)
    (hfirst : ¬ RefusedFirst m ns) (hlong : ∃ n ∈ ns, n.2.value.Overlong) : RenderedAll (.error e)
  | accepted {texts : List PyStr} (hplain : ∀ text ∈ texts, (plainValue text).isSome)
    (hfloat : ∀ text ∈ texts, ∃ f, floatOfText text = some f) (hlength : texts.length = ns.length)
    (hfirst : ¬ RefusedFirst m ns) (hlong : ∀ n ∈ ns, ¬ n.2.value.Overlong)
    (hexact : AllExact m ns texts ↔ ∀ n ∈ ns, ¬ (n.1.grid m).Loses n.2.value) :
    RenderedAll (.ok texts)

variable {m ns} {n : Number × NumberArg}

theorem refusedFirst_cons : RefusedFirst m (n :: ns) ↔
    (n.1.grid m).Refuses n.2.value ∨ ¬ n.2.value.Overlong ∧ RefusedFirst m ns := by
  constructor
  · rintro ⟨before, n', after, heq, hrefuses, hbefore⟩
    cases before with
    | nil =>
      cases heq
      exact .inl hrefuses
    | cons n'' before =>
      cases heq
      exact .inr ⟨hbefore _ List.mem_cons_self, before, n', after, rfl, hrefuses, fun x hx =>
        hbefore x (List.mem_cons_of_mem _ hx)⟩
  · rintro (hrefuses | ⟨hlong, before, n', after, rfl, hrefuses, hbefore⟩)
    · exact ⟨[], n, ns, rfl, hrefuses, List.forall_mem_nil _⟩
    · exact ⟨n :: before, n', after, rfl, hrefuses, List.forall_mem_cons.2 ⟨hlong, hbefore⟩⟩

/-- Numbers are rendered one after the other, up to the first one that is not accepted. -/
theorem mapM_rendered (ns : List (Number × NumberArg)) :
    RenderedAll m ns (ns.mapM fun n => n.1.render m n.2.arg) := by
  induction ns with
  | nil =>
    refine .accepted (List.forall_mem_nil _) (List.forall_mem_nil _) rfl ?_ (List.forall_mem_nil _) ?_
    · rintro ⟨before, n, after, heq, -⟩
      exact absurd heq.symm (List.append_ne_nil_of_right_ne_nil _ (List.cons_ne_nil _ _))
    · exact iff_of_true .nil (List.forall_mem_nil _)
  | cons n ns ih =>
    have hrender := render_rendered m n.1 n.2
    rw [List.mapM_cons]
    generalize n.1.render m n.2.arg = r at hrender
    generalize (ns.mapM fun n => n.1.render m n.2.arg) = rs at ih
    cases hrender with
    | overlong hlong hcls =>
      refine .overlong ?_ ?_ ⟨n, List.mem_cons_self, hlong⟩
      · intro h
        rw [PyExc.isinstance, hcls] at h
        exact absurd h (by decide)
      · rw [refusedFirst_cons]
        rintro (hrefuses | ⟨hshort, -⟩)
        · exact hrefuses.1 hlong
        · exact hshort hlong
    | refused hrefuses => exact .refused rfl (refusedFirst_cons.2 (.inl hrefuses))
    | accepted hlong hrefuses hplain hfloat hexact =>
      have hfirst : RefusedFirst m (n :: ns) ↔ RefusedFirst m ns := by
        rw [refusedFirst_cons, or_iff_right hrefuses, and_iff_right hlong]
      cases ih with
      | refused hcls h => exact .refused hcls (hfirst.2 h)
      | overlong hcls h hlater =>
        obtain ⟨n', hn', hlater⟩ := hlater
        exact .overlong hcls (mt hfirst.1 h) ⟨n', List.mem_cons_of_mem _ hn', hlater⟩
      | accepted hplains hfloats hlength h hshort hexacts =>
        refine .accepted (List.forall_mem_cons.2 ⟨hplain, hplains⟩)
          (List.forall_mem_cons.2 ⟨⟨_, hfloat⟩, hfloats⟩) (congrArg Nat.succ hlength) (mt hfirst.1 h)
          (List.forall_mem_cons.2 ⟨hlong, hshort⟩) ?_
        rw [AllExact, List.forall₂_cons, List.forall_mem_cons, hexact]
        exact and_congr_right fun _ => hexacts

end

/-! ### The writes -/

/-- A write of numbers that the model has. -/
inductive NumericWrite (m : Model) where
  | setVoltage (c : ProgrammableChannel) (value : NumberArg)
  | setCurrent (c : ProgrammableChannel) (value : NumberArg)
  | timerSet (supported : m.capabilities.timer) (channel group : PyArg)
      (voltage current duration : NumberArg)

namespace NumericWrite
variable {m : Model}

def call : NumericWrite m → SemanticCall
  | setVoltage c value => .setVoltage c value.arg
  | setCurrent c value => .setCurrent c value.arg
  | timerSet _ channel group voltage current duration =>
    .timerSet channel group voltage.arg current.arg duration.arg

def numbers : NumericWrite m → List (Number × NumberArg)
  | setVoltage _ value => [(.setpoint .voltage, value)]
  | setCurrent _ value => [(.setpoint .current, value)]
  | timerSet _ _ _ voltage current duration =>
    [(.setpoint .voltage, voltage), (.setpoint .current, current), (.duration, duration)]

/-- The command up to its numbers; a timer step names a channel and a group there. -/
def head : NumericWrite m → Except PyExc PyStr
  | setVoltage c _ => .ok (c.channel.value ++ lit ":VOLT ")
  | setCurrent c _ => .ok (c.channel.value ++ lit ":CURR ")
  | timerSet _ channel group _ _ _ => do
    let selected ← requireChannel channel true
    let selectedGroup ← requireTimerGroup group
    return lit "TIMER:SET " ++ selected.value ++ lit "," ++ digitsText selectedGroup.toNat ++ lit ","

/-- The texts of the numbers. -/
def texts (w : NumericWrite m) : Except PyExc (List PyStr) :=
  w.numbers.mapM fun n => n.1.render m n.2.arg

theorem numbers_ne_nil (w : NumericWrite m) {texts : List PyStr}
    (h : texts.length = w.numbers.length) : texts ≠ [] := by
  rintro rfl
  cases w <;> cases h

theorem isNone_arg (a : NumberArg) : Timer.isNone a.arg = false := by
  obtain ⟨arg, value, hreal⟩ := a
  cases arg with
  | none => cases hreal
  | _ => rfl

section
variable [PyText] {w : NumericWrite m} {e : PyExc} {head : PyStr} {texts : List PyStr}

theorem floatOfStr_ok {text : PyStr} (h : ∃ f, floatOfText text = some f) :
    ∃ f, floatOfStr text = .ok f := by
  obtain ⟨f, hf⟩ := h
  exact ⟨f, by rw [floatOfStr, hf]⟩

/-- The setter of a setpoint. -/
theorem set_texts (quantity : Quantity) (mnemonic : PyStr) (c : ProgrammableChannel)
    (value : NumberArg) :
    (∀ e, ([(.setpoint quantity, value)].mapM fun n : Number × NumberArg => n.1.render m n.2.arg) =
      .error e → c.set quantity mnemonic m value.arg = .error e) ∧
    ∀ texts, ([(.setpoint quantity, value)].mapM fun n : Number × NumberArg =>
      n.1.render m n.2.arg) = .ok texts → (∀ text ∈ texts, ∃ f, floatOfText text = some f) →
      ∃ verification, c.set quantity mnemonic m value.arg = .ok (writeOf
        (c.channel.value ++ lit ":" ++ mnemonic ++ lit " " ++ join (lit ",") texts)
          verification) := by
  rw [List.mapM_cons, List.mapM_nil, ProgrammableChannel.set, Number.render]
  cases hrender : setpoint m quantity value.arg with
  | error e =>
    refine ⟨?_, nofun⟩
    rintro _ ⟨⟩
    rfl
  | ok text =>
    refine ⟨nofun, ?_⟩
    rintro _ ⟨⟩ hfloat
    obtain ⟨f, hf⟩ := floatOfStr_ok (hfloat text List.mem_cons_self)
    dsimp only [Bind.bind, Except.bind]
    rw [hf, join_singleton]
    exact ⟨_, rfl⟩

/-- The numbers of a timer step are rendered after its channel and group. -/
theorem timerSet_eq (supported : m.capabilities.timer) (channel group : PyArg)
    (voltage current duration : NumberArg) :
    (timerSet supported channel group voltage current duration).call.method m =
      (do
        let selected ← requireChannel channel true
        let selectedGroup ← requireTimerGroup group
        Timer.setStep m selected selectedGroup voltage.arg current.arg duration.arg) := by
  have hrequire : require m m.capabilities.timer "TIMEr:SET" = .ok () := by
    rw [require, if_pos supported]
  rw [call, SemanticCall.method, Timer.set, hrequire]
  simp [isNone_arg]
  rfl

/-- The write of a timer step. -/
theorem setStep_texts (selected : Channel) (group : ℤ) (voltage current duration : NumberArg) :
    let ns := [(.setpoint .voltage, voltage), (.setpoint .current, current), (.duration, duration)]
    let texts := ns.mapM fun n : Number × NumberArg => n.1.render m n.2.arg
    let r := Timer.setStep m selected group voltage.arg current.arg duration.arg
    (∀ e, texts = .error e → r = .error e) ∧
    ∀ ts, texts = .ok ts → (∀ text ∈ ts, ∃ f, floatOfText text = some f) →
      ∃ verification, r = .ok (writeOf (lit "TIMER:SET " ++ selected.value ++ lit "," ++
        digitsText group.toNat ++ lit "," ++ join (lit ",") ts) verification) := by
  dsimp only
  rw [List.mapM_cons, List.mapM_cons, List.mapM_cons, List.mapM_nil, Timer.setStep]
  dsimp only [Number.render]
  cases hvoltage : setpoint m .voltage voltage.arg with
  | error e =>
    refine ⟨?_, nofun⟩
    rintro _ ⟨⟩
    rfl
  | ok voltageText => cases hcurrent : setpoint m .current current.arg with
    | error e =>
      refine ⟨?_, nofun⟩
      rintro _ ⟨⟩
      rfl
    | ok currentText => cases hduration : Spd3000.duration duration.arg with
      | error e =>
        refine ⟨?_, nofun⟩
        rintro _ ⟨⟩
        rfl
      | ok durationText =>
        refine ⟨nofun, ?_⟩
        rintro _ ⟨⟩ hfloat
        simp only [List.mem_cons, List.not_mem_nil, or_false, forall_eq_or_imp, forall_eq] at hfloat
        obtain ⟨v, hv⟩ := floatOfStr_ok hfloat.1
        obtain ⟨c, hc⟩ := floatOfStr_ok hfloat.2.1
        obtain ⟨d, hd⟩ := floatOfStr_ok hfloat.2.2
        dsimp only [Bind.bind, Except.bind]
        rw [hv, hc, hd]
        rw [join_cons_cons, join_cons_cons, join_singleton]
        simp only [List.append_assoc]
        exact ⟨_, rfl⟩

/-- A write that is not sent to a channel or group. -/
theorem method_head (h : w.head = .error e) : w.call.method m = .error e := by
  cases w with
  | setVoltage c value => cases h
  | setCurrent c value => cases h
  | timerSet supported channel group voltage current duration =>
    rw [timerSet_eq]
    rw [NumericWrite.head] at h
    cases hselected : requireChannel channel true with
    | error e' =>
      rw [hselected] at h
      cases h
      rfl
    | ok selected =>
      rw [hselected] at h
      cases hgroup : requireTimerGroup group with
      | error e' =>
        rw [hgroup] at h
        cases h
        rfl
      | ok selectedGroup =>
        rw [hgroup] at h
        cases h

theorem method_texts (h : w.head = .ok head) :
    (∀ e, w.texts = .error e → w.call.method m = .error e) ∧
    ∀ texts, w.texts = .ok texts → (∀ text ∈ texts, ∃ f, floatOfText text = some f) →
      ∃ verification, w.call.method m = .ok (writeOf (head ++ join (lit ",") texts) verification) := by
  cases w with
  | setVoltage c value =>
    have hhead : head = c.channel.value ++ lit ":" ++ lit "VOLT" ++ lit " " := by
      cases h
      simp only [List.append_assoc]
      rfl
    rw [hhead]
    exact set_texts .voltage "VOLT" c value
  | setCurrent c value =>
    have hhead : head = c.channel.value ++ lit ":" ++ lit "CURR" ++ lit " " := by
      cases h
      simp only [List.append_assoc]
      rfl
    rw [hhead]
    exact set_texts .current "CURR" c value
  | timerSet supported channel group voltage current duration =>
    rw [timerSet_eq]
    rw [NumericWrite.head] at h
    cases hselected : requireChannel channel true with
    | error e =>
      rw [hselected] at h
      cases h
    | ok selected =>
      rw [hselected] at h
      cases hgroup : requireTimerGroup group with
      | error e =>
        rw [hgroup] at h
        cases h
      | ok selectedGroup =>
        rw [hgroup] at h
        cases h
        exact setStep_texts selected selectedGroup voltage current duration

/-! ### Exact writes -/

/-- The call raises `SPD3000ValidationError`, or the numbers in its command are exact. -/
def Renders (w : NumericWrite m) : Prop :=
  (∃ e, w.call.method m = .error e ∧ e.isinstance .spd3000ValidationError) ∨
    ∃ head texts verification, w.head = .ok head ∧ AllExact m w.numbers texts ∧
      w.call.method m = .ok (writeOf (head ++ join (lit ",") texts) verification)

omit [PyText] in
theorem head_raises {w : NumericWrite m} (h : w.head = .error e) :
    e.isinstance .spd3000ValidationError := by
  have hraises : Raises (fun e => e.cls = .spd3000ValidationError) w.head := by
    cases w with
    | setVoltage c value => exact .ok _
    | setCurrent c value => exact .ok _
    | timerSet supported channel group voltage current duration =>
      refine (requireChannel_invalid _ _).bind fun selected => Raises.bind ?_ fun group => .ok _
      unfold requireTimerGroup requireOneToFive
      split
      · split_ifs
        · exact .ok _
        · exact .error rfl
      · exact .error rfl
  rw [PyExc.isinstance, hraises e h]
  rfl

end

/-- The channel or the group of the write is refused, or one of its numbers before any that is too
    long; or no number is too long and the context has the exact value of each. -/
def Faithful (w : NumericWrite m) : Prop :=
  (∃ e, w.head = .error e) ∨ RefusedFirst m w.numbers ∨
    ∀ n ∈ w.numbers, ¬ n.2.value.Overlong ∧ ¬ (n.1.grid m).Loses n.2.value

section
variable [PyText]

/-- **Exact or refused.**  This is exactly when a write sends its numbers as they are, or is refused
    as invalid. -/
theorem renders_iff (m : Model) (w : NumericWrite m) : w.Renders ↔ w.Faithful := by
  cases hhead : w.head with
  | error e =>
    have hmethod := method_head hhead
    exact iff_of_true (.inl ⟨e, hmethod, head_raises hhead⟩) (.inl ⟨e, hhead⟩)
  | ok head =>
    have hfaithful : w.Faithful ↔ RefusedFirst m w.numbers ∨
        ∀ n ∈ w.numbers, ¬ n.2.value.Overlong ∧ ¬ (n.1.grid m).Loses n.2.value := by
      rw [Faithful, hhead]
      exact or_iff_right (by rintro ⟨e, ⟨⟩⟩)
    obtain ⟨herror, hok⟩ := method_texts hhead
    have hrendered := mapM_rendered (m := m) w.numbers
    rw [hfaithful]
    change RenderedAll m w.numbers w.texts at hrendered
    cases htexts : w.texts with
    | error e =>
      rw [htexts] at hrendered
      have hmethod := herror e htexts
      cases hrendered with
      | refused hcls hfirst => exact iff_of_true (.inl ⟨e, hmethod, hcls⟩) (.inl hfirst)
      | overlong hcls hfirst hlong =>
        refine iff_of_false ?_ ?_
        · rintro (⟨e', he', hcls'⟩ | ⟨head', texts, verification, -, -, hmethod'⟩)
          · rw [hmethod] at he'
            cases he'
            exact hcls hcls'
          · rw [hmethod] at hmethod'
            cases hmethod'
        · obtain ⟨n, hn, hlong⟩ := hlong
          rintro (h | h)
          · exact hfirst h
          · exact (h n hn).1 hlong
    | ok texts =>
      rw [htexts] at hrendered
      cases hrendered with
      | accepted hplain hfloat hlength hfirst hlong hexact =>
        obtain ⟨verification, hmethod⟩ := hok texts htexts hfloat
        rw [or_iff_right hfirst]
        constructor
        · rintro (⟨e, he, -⟩ | ⟨head', texts', verification', hhead', hexact', hmethod'⟩)
          · rw [hmethod] at he
            cases he
          · rw [hhead] at hhead'
            cases hhead'
            rw [hmethod] at hmethod'
            have hcommand : head ++ join (lit ",") texts = head ++ join (lit ",") texts' :=
              Operation.noConfusion (Except.ok.inj hmethod') fun _ hcommand _ _ => hcommand
            have htexts' : texts = texts' := join_inj hplain hexact'.plain
              (numbers_ne_nil w hlength) (numbers_ne_nil w hexact'.length_eq.symm)
              (List.append_cancel_left hcommand)
            exact fun n hn => ⟨hlong n hn, hexact.1 (htexts' ▸ hexact') n hn⟩
        · intro h
          exact .inr ⟨head, texts, verification, hhead, hexact.2 fun n hn => (h n hn).2, hmethod⟩

end

/-! ### A duration with more digits -/

/-- The number `Decimal("0.12345678901234567890123456789")`. -/
def manyDigits : PyReal := .decimal (.finite false ⟨12345678901234567890123456789, -29⟩)

/-- A timer step of 5 V, 1 A and a duration with 29 digits. -/
def longDuration : NumericWrite .spd3303X :=
  timerSet rfl (.channel .ch1) (.real (.int 1)) ⟨.real (.int 5), .int 5, rfl⟩
    ⟨.real (.int 1), .int 1, rfl⟩ ⟨.real manyDigits, manyDigits, rfl⟩

theorem ok_of_toOption {α : Type} {r : Except PyExc α} {a : α} (h : r.toOption = some a) :
    r = .ok a := by
  cases r with
  | error e => cases h
  | ok b => exact congrArg Except.ok (Option.some.inj h)

theorem longDuration_texts :
    longDuration.texts = .ok [lit "5", lit "1", lit "0.1234567890123456789012345679"] :=
  ok_of_toOption (by decide +kernel)

theorem longDuration_head : longDuration.head = .ok (lit "TIMER:SET CH1,1,") :=
  ok_of_toOption (by decide +kernel)

/-- Rounded to 28 digits it is another number. -/
theorem manyDigits_loses : (Number.duration.grid .spd3303X).Loses manyDigits := by
  have hround : defaultContext.round ⟨12345678901234567890123456789, -29⟩ =
      ⟨1234567890123456789012345679, -28⟩ := by decide +kernel
  refine ⟨_, rfl, ?_⟩
  change ¬ defaultContext.Fits (Dec.value ⟨12345678901234567890123456789, -29⟩)
  rw [← Context.round_value_iff, hround]
  norm_num [Dec.value]

/-- The duration is sent with its last two digits rounded to one. -/
theorem longDuration_rounded :
    ¬ @Renders _ PyText.blank longDuration ∧
      ∃ verification, @SemanticCall.method PyText.blank .spd3303X longDuration.call =
        .ok (writeOf (lit "TIMER:SET CH1,1,5,1,0.1234567890123456789012345679") verification) := by
  let _ : PyText := PyText.blank
  have hrendered : RenderedAll .spd3303X longDuration.numbers longDuration.texts :=
    mapM_rendered longDuration.numbers
  rw [longDuration_texts] at hrendered
  cases hrendered with
  | accepted hplain hfloat hlength hfirst hlong hexact =>
    constructor
    · rw [renders_iff]
      rintro (⟨e, he⟩ | h | h)
      · rw [longDuration_head] at he
        cases he
      · exact hfirst h
      · have hmem : (.duration, ⟨.real manyDigits, manyDigits, rfl⟩) ∈ longDuration.numbers :=
          List.mem_cons_of_mem _ (List.mem_cons_of_mem _ List.mem_cons_self)
        exact (h _ hmem).2 manyDigits_loses
    · exact (method_texts longDuration_head).2 _ longDuration_texts hfloat

end NumericWrite

end Spd3000
