/-
  Python values as the driver and the gateway handle them: strings, numbers,
  bytes, dictionaries and the built-in conversions the code calls.

  A string is a list of code points, lone surrogates included; a float is a
  rational number or one of the non-finite values.  `floatOfInt` is `float(n)`,
  with the `OverflowError` of an over-large integer as `none`, and `pyEq` is
  `==`, which compares numbers by value and dictionaries regardless of order.
-/
import Mathlib.Data.Rat.Defs
import Mathlib.Algebra.Order.Ring.Rat
import Mathlib.Tactic.Linarith
import Mathlib.Tactic.NormNum
import Mathlib.Tactic.Positivity

namespace Spd3000

/-! ## Strings and bytes -/

abbrev CodePoint := Fin 1114112

/-- A Python `str`. -/
abbrev PyStr := List CodePoint

/-- A Python `bytes`. -/
abbrev Bytes := List UInt8

def CodePoint.ofChar (c : Char) : CodePoint :=
  ⟨c.val.toNat % 1114112, Nat.mod_lt _ (by decide)⟩

/-- A string literal of the source. -/
def lit (s : String) : PyStr := s.toList.map CodePoint.ofChar

instance : Coe String PyStr := ⟨lit⟩

theorem CodePoint.ofChar_injective : Function.Injective CodePoint.ofChar := by
  intro c d h
  have hc : c.val.toNat < 1114112 := c.valid.elim (by omega) (by omega)
  have hd : d.val.toNat < 1114112 := d.valid.elim (by omega) (by omega)
  simp only [CodePoint.ofChar, Fin.mk.injEq, Nat.mod_eq_of_lt hc, Nat.mod_eq_of_lt hd] at h
  exact Char.ext (UInt32.toNat_inj.1 h)

@[simp] theorem lit_inj {s t : String} : lit s = lit t ↔ s = t := by
  rw [lit, lit, CodePoint.ofChar_injective.list_map.eq_iff, String.toList_inj]

/-- The line feed `b"\n"`. -/
def LF : UInt8 := 10

/-- The code points for which `str.isspace` holds. -/
def isSpace (c : CodePoint) : Bool :=
  (9 ≤ c.val && c.val ≤ 13) || (28 ≤ c.val && c.val ≤ 32) || c.val == 0x85 || c.val == 0xA0 ||
    c.val == 0x1680 || (0x2000 ≤ c.val && c.val ≤ 0x200A) || c.val == 0x2028 || c.val == 0x2029 ||
    c.val == 0x202F || c.val == 0x205F || c.val == 0x3000

/-- The string `text.strip()`. -/
def strip (s : PyStr) : PyStr :=
  ((s.dropWhile isSpace).reverse.dropWhile isSpace).reverse

/-- The test `text.isascii()`. -/
def isAscii (s : PyStr) : Bool := s.all fun c => c.val < 128

/-- The bytes `text.encode("ascii")` of an ASCII string. -/
def encodeAscii (s : PyStr) : Bytes := s.map fun c => UInt8.ofNat c.val

/-- The string of a byte string that `bytes.decode("ascii")` accepts. -/
def decodeAscii (b : Bytes) : Option PyStr :=
  if b.all (· < 128) then some (b.map fun x => ⟨x.toNat, by have := x.toNat_lt; omega⟩) else none

/-- The string `text.rstrip("\r\n")`. -/
def rstripNewlines (s : PyStr) : PyStr :=
  (s.reverse.dropWhile fun c => c.val == 13 || c.val == 10).reverse

/-- The number of bytes of `text.encode("utf-8")`; `none` where a lone
    surrogate makes it raise `UnicodeEncodeError`. -/
def utf8Length (s : PyStr) : Option ℕ :=
  s.foldr (fun c n => n.bind fun n =>
    if 0xD800 ≤ c.val ∧ c.val ≤ 0xDFFF then none
    else some (n + if c.val < 0x80 then 1 else if c.val < 0x800 then 2
      else if c.val < 0x10000 then 3 else 4)) (some 0)

theorem length_encodeAscii (s : PyStr) : (encodeAscii s).length = s.length := by
  simp [encodeAscii]

theorem utf8Length_ascii {s : PyStr} (h : isAscii s) : utf8Length s = some s.length := by
  induction s with
  | nil => rfl
  | cons c s ih =>
    simp only [isAscii, List.all_cons, Bool.and_eq_true, decide_eq_true_eq] at h ih
    have hs := ih h.2
    simp only [utf8Length, List.foldr_cons] at hs ⊢
    rw [hs]
    simp only [Option.bind_some, List.length_cons]
    rw [if_neg (by omega), if_pos (by omega)]

/-! ## Numbers -/

/-- A Python `float`. -/
inductive PyFloat where
  | finite (q : ℚ)
  | inf (neg : Bool)
  | nan
  deriving DecidableEq

/-- The magnitude `n` rounded half to even to the 53 bits of a double. -/
def roundToDouble (n : ℕ) : ℕ :=
  if n < 2 ^ 53 then n else
    let e := n.log2 - 52
    let q := n / 2 ^ e
    let r := n % 2 ^ e
    let half := 2 ^ (e - 1)
    (if half < r ∨ (r = half ∧ q % 2 = 1) then q + 1 else q) * 2 ^ e

/-- The value `float(n)` of an integer; `none` where the rounded value leaves the
    range of a double and `OverflowError` is raised. -/
def floatOfInt (i : ℤ) : Option ℚ :=
  let m := roundToDouble i.natAbs
  if m < 2 ^ 1024 then some (if i < 0 then -(m : ℚ) else (m : ℚ)) else none

theorem roundToDouble_pos {n : ℕ} (h : 0 < n) : 0 < roundToDouble n := by
  unfold roundToDouble
  split_ifs
  · exact h
  · have hle : 2 ^ (n.log2 - 52) ≤ n :=
      (Nat.pow_le_pow_right (by decide) (Nat.sub_le ..)).trans (Nat.log2_self_le h.ne')
    have hq : 0 < n / 2 ^ (n.log2 - 52) := Nat.div_pos hle (by positivity)
    refine Nat.mul_pos ?_ (by positivity)
    split_ifs <;> omega

/-- Conversion to a float keeps the sign of an integer. -/
theorem floatOfInt_sign {i : ℤ} {q : ℚ} (h : floatOfInt i = some q) :
    (0 ≤ q ↔ 0 ≤ i) ∧ (0 < q ↔ 0 < i) := by
  simp only [floatOfInt, Option.ite_none_right_eq_some, Option.some.injEq] at h
  obtain ⟨-, rfl⟩ := h
  rcases lt_trichotomy i 0 with hi | rfl | hi
  · have hm : (0 : ℚ) < roundToDouble i.natAbs :=
      Nat.cast_pos.2 (roundToDouble_pos (by omega))
    rw [if_pos hi]
    exact ⟨iff_of_false (by linarith) (by omega), iff_of_false (by linarith) (by omega)⟩
  · simp [roundToDouble]
  · have hm : (0 : ℚ) < roundToDouble i.natAbs :=
      Nat.cast_pos.2 (roundToDouble_pos (by omega))
    rw [if_neg hi.not_gt]
    exact ⟨iff_of_true hm.le hi.le, iff_of_true hm hi⟩

attribute [irreducible] floatOfInt

/-! ## Values -/

/-- The values that commands, parsers, exceptions and JSON documents carry.
    `obj` is an instance of a dataclass. -/
inductive PyVal where
  | none
  | bool (b : Bool)
  | int (i : ℤ)
  | float (f : PyFloat)
  | str (s : PyStr)
  | list (xs : List PyVal)
  | dict (kvs : List (PyStr × PyVal))
  | obj (cls : PyStr) (fields : List (PyStr × PyVal))

/-- A dictionary with string keys, as `json.loads` builds it. -/
abbrev PyDict := List (PyStr × PyVal)

/-- The lookup `d.get(key)`, with `none` for a missing key. -/
def PyDict.get (d : PyDict) (key : PyStr) : Option PyVal := List.lookup key d

/-- The lookup `d.get(key)`, with Python's `None` for a missing key. -/
def PyDict.getD (d : PyDict) (key : PyStr) : PyVal := (d.get key).getD .none

/-- The numeric value of a `bool`, an `int` or a finite `float`. -/
def PyVal.number : PyVal → Option ℚ
  | .bool b => some (if b then 1 else 0)
  | .int i => some i
  | .float (.finite q) => some q
  | _ => Option.none

mutual
/-- The comparison `a == b`. -/
def pyEq : PyVal → PyVal → Bool
  | .none, .none => true
  | .float (.inf s), .float (.inf t) => s == t
  | .str s, .str t => s == t
  | .list xs, .list ys => pyEqList xs ys
  | .dict xs, .dict ys => xs.length == ys.length && pyEqEntries xs ys
  | .obj c xs, .obj c' ys => c == c' && pyEqEntries xs ys
  | a, b => match a.number, b.number with
    | some p, some q => p == q
    | _, _ => false

def pyEqList : List PyVal → List PyVal → Bool
  | [], [] => true
  | x :: xs, y :: ys => pyEq x y && pyEqList xs ys
  | _, _ => false

/-- Every entry of the first dictionary is in the second one. -/
def pyEqEntries : PyDict → PyDict → Bool
  | [], _ => true
  | (k, v) :: xs, ys => (match PyDict.get ys k with
    | some w => pyEq v w
    | Option.none => false) && pyEqEntries xs ys
end

/-- An integer equals a number with its value. -/
theorem pyEq_int_left (i : ℤ) (v : PyVal) : pyEq (.int i) v = match v.number with
    | some q => (i : ℚ) == q
    | none => false := by
  cases v with
  | float f => cases f <;> rfl
  | _ => rfl

theorem pyEq_int_iff {i : ℤ} {v : PyVal} : pyEq (.int i) v = true ↔ some (i : ℚ) = v.number := by
  rw [pyEq_int_left]
  cases v.number with
  | none => exact iff_of_false Bool.false_ne_true (by rintro ⟨⟩)
  | some q => rw [beq_iff_eq, Option.some.injEq]

@[simp] theorem pyEq_int (i j : ℤ) : pyEq (.int i) (.int j) = (i == j) := by
  rw [Bool.eq_iff_iff, pyEq_int_iff, PyVal.number, Option.some.injEq, beq_iff_eq, Int.cast_inj]

@[simp] theorem pyEq_none_left (v : PyVal) : pyEq .none v = true ↔ v = .none := by
  cases v with
  | none => exact iff_of_true rfl rfl
  | _ => exact iff_of_false Bool.false_ne_true (by rintro ⟨⟩)

/-- At most one integer equals a value. -/
theorem pyEq_int_unique {i j : ℤ} {v : PyVal} (hi : pyEq (.int i) v) (hj : pyEq (.int j) v) :
    i = j := by
  rw [pyEq_int_iff] at hi hj
  rw [← hj, Option.some.injEq] at hi
  exact_mod_cast hi

@[simp] theorem pyEq_int_none (i : ℤ) : pyEq (.int i) .none = false := rfl

@[simp] theorem pyEq_str_right {v : PyVal} {s : PyStr} : pyEq v (.str s) = true ↔ v = .str s := by
  cases v with
  | str t =>
    show (t == s) = true ↔ _
    rw [beq_iff_eq, PyVal.str.injEq]
  | float f => cases f <;> exact iff_of_false Bool.false_ne_true (by rintro ⟨⟩)
  | _ => exact iff_of_false Bool.false_ne_true (by rintro ⟨⟩)

@[simp] theorem pyEq_str (s t : PyStr) : pyEq (.str s) (.str t) = (s == t) := rfl

end Spd3000
