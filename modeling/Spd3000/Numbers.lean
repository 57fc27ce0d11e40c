/-
  Numbers and their texts: `float()` and `int()` of a text, the shortest text of a
  float, and the `Decimal` arithmetic that the driver uses.

  A decimal has a sign and a magnitude; `defaultContext` is the context of
  `decimal` that `%` and `normalize()` round to.  `decimalOfStr` is
  `Decimal(str(value))`: the text of an integer or a decimal gives its value back,
  that of a float is the shortest one that `float()` reads as the same number.
-/
import Spd3000.Exceptions
import Spd3000.Lib.Decimals

namespace Spd3000

open Decimals

/-! ## Digits -/

/-- The zeros of the runs of decimal digits in Unicode, beside those of ASCII. -/
def digitZeros : List ℕ :=
  [0x660, 0x6F0, 0x7C0, 0x966, 0x9E6, 0xA66, 0xAE6, 0xB66, 0xBE6, 0xC66, 0xCE6, 0xD66, 0xDE6,
    0xE50, 0xED0, 0xF20, 0x1040, 0x1090, 0x17E0, 0x1810, 0x1946, 0x19D0, 0x1A80, 0x1A90, 0x1B50,
    0x1BB0, 0x1C40, 0x1C50, 0xA620, 0xA8D0, 0xA900, 0xA9D0, 0xA9F0, 0xAA50, 0xABF0, 0xFF10, 0x104A0,
    0x10D30, 0x11066, 0x110F0, 0x11136, 0x111D0, 0x112F0, 0x11450, 0x114D0, 0x11650, 0x116C0,
    0x11730, 0x118E0, 0x11950, 0x11C50, 0x11D50, 0x11DA0, 0x11F50, 0x16A60, 0x16AC0, 0x16B50,
    0x1D7CE, 0x1D7D8, 0x1D7E2, 0x1D7EC, 0x1D7F6, 0x1E140, 0x1E2F0, 0x1E4F0, 0x1E950, 0x1FBF0]

/-- The value of a decimal digit. -/
def digitValue (c : CodePoint) : Option ℕ :=
  if 48 ≤ c.val ∧ c.val ≤ 57 then some (c.val - 48)
  else (digitZeros.find? fun z => z ≤ c.val && c.val < z + 10).map (c.val - ·)

theorem chr_lt (n : ℕ) : n % 1114112 < 1114112 := Nat.mod_lt n (by decide)

/-- The character with a code. -/
def chr (n : ℕ) : CodePoint := ⟨n % 1114112, chr_lt n⟩

theorem val_chr {n : ℕ} (h : n < 1114112) : (chr n).val = n := Nat.mod_eq_of_lt h

/-- The ASCII digit. -/
def digitChar (d : ℕ) : CodePoint := chr (48 + d)

/-- The text of a number in decimal digits. -/
def digitsText (n : ℕ) : PyStr := (digits n).map digitChar

theorem val_digitChar {d : ℕ} (h : d < 10) : (digitChar d).val = 48 + d := val_chr (by omega)

theorem digitValue_digitChar {d : ℕ} (h : d < 10) : digitValue (digitChar d) = some d := by
  rw [digitValue, val_digitChar h, if_pos (by omega), Nat.add_sub_cancel_left]

/-- Digits with single underscores between them. -/
def underscored (digit : CodePoint → Option ℕ) : PyStr → Option (List ℕ)
  | [] => none
  | [c] => (digit c).map ([·])
  | c :: u :: s => (digit c).bind fun d =>
    if u.val = 95 then (underscored digit s).map (d :: ·)
    else (underscored digit (u :: s)).map (d :: ·)

theorem underscored_map {ds : List ℕ} (hne : ds ≠ []) (hlt : ∀ d ∈ ds, d < 10) :
    underscored digitValue (ds.map digitChar) = some ds := by
  induction ds with
  | nil => exact absurd rfl hne
  | cons d ds ih =>
    have hd := digitValue_digitChar (hlt d List.mem_cons_self)
    cases ds with
    | nil => rw [List.map_singleton, underscored, hd, Option.map_some]
    | cons d' ds =>
      have hd' : d' < 10 := hlt d' (List.mem_cons_of_mem _ List.mem_cons_self)
      have hval : (digitChar d').val ≠ 95 := by
        rw [val_digitChar hd']
        omega
      rw [List.map_cons, List.map_cons, underscored, hd, Option.bind_some, if_neg hval,
        ← List.map_cons, ih (List.cons_ne_nil _ _) fun x hx => hlt x (List.mem_cons_of_mem _ hx),
        Option.map_some]

/-- A sign, and the text after it. -/
def takeSign : PyStr → Bool × PyStr
  | [] => (false, [])
  | c :: s => if c.val = 45 then (true, s) else if c.val = 43 then (false, s) else (false, c :: s)

/-! ## Texts of integers -/

/-- The limit for conversions between integers and decimal texts. -/
def maxStrDigits : ℕ := 4300

def digitIn (base : ℕ) (c : CodePoint) : Option ℕ :=
  match digitValue c with
  | some d => if d < base then some d else none
  | none =>
    if base = 16 ∧ 97 ≤ c.val ∧ c.val ≤ 102 then some (c.val - 87)
    else if base = 16 ∧ 65 ≤ c.val ∧ c.val ≤ 70 then some (c.val - 55)
    else none

/-- The text with ASCII digits for the decimal digits of all scripts. -/
def asciiDigits (s : PyStr) : PyStr := s.map fun c => (digitValue c).elim c digitChar

/-- An integer literal without a sign, in the base that its first characters tell. -/
def unsignedLiteral (s : PyStr) : Option ℕ :=
  let based := fun base (s : PyStr) =>
    let s := match s with
      | u :: t => if u.val = 95 then t else u :: t
      | [] => []
    (underscored (digitIn base) s).map fun ds => Nat.ofDigits base ds.reverse
  let decimal := fun s => (underscored (digitIn 10) s).bind fun ds =>
    if maxStrDigits < ds.length then none else some ds
  match s with
  | z :: x :: t =>
    if z.val ≠ 48 then (decimal s).map ofPlaces
    else if x.val = 120 ∨ x.val = 88 then based 16 t
    else if x.val = 111 ∨ x.val = 79 then based 8 t
    else if x.val = 98 ∨ x.val = 66 then based 2 t
    else (decimal s).bind fun ds => if ofPlaces ds = 0 then some 0 else none
  | _ => (decimal s).map ofPlaces

/-- The value `int(text, 0)` of a stripped text; `none` where it raises `ValueError`. -/
def intLiteral (s : PyStr) : Option ℤ :=
  let (neg, s) := takeSign (asciiDigits s)
  (unsignedLiteral s).map fun n => if neg then -(n : ℤ) else n

/-! ## Floats -/

/-- The double nearest to `n / d`, to the even one of two; `none` above the largest one. -/
def nearestDouble (n d : ℕ) : Option ℚ :=
  if n = 0 then some 0 else
    let k : ℤ := (n.log2 : ℤ) - d.log2
    let top := if n * 2 ^ (-k).toNat < d * 2 ^ k.toNat then k - 1 else k
    let e := max (top - 52) (-1074)
    let m := quotHalfEven (n * 2 ^ (-e).toNat) (d * 2 ^ e.toNat)
    let q : ℚ := ((m * 2 ^ e.toNat : ℕ) : ℚ) / ((2 ^ (-e).toNat : ℕ) : ℚ)
    if q < 2 ^ 1024 then some q else none

/-- The float of a number with the given sign. -/
def floatOf (neg : Bool) (n d : ℕ) : PyFloat :=
  match nearestDouble n d with
  | some q => .finite (if neg then -q else q)
  | none => .inf neg

/-- The float of a literal of the source. -/
def floatOfDec (neg : Bool) (d : Dec) : PyFloat :=
  floatOf neg (d.coeff * 10 ^ d.exp.toNat) (10 ^ (-d.exp).toNat)

def isNumeral (c : CodePoint) : Bool := (digitValue c).isSome || c.val == 95

def numeral (s : PyStr) : Option (List ℕ) := if s = [] then some [] else underscored digitValue s

/-- The exponent at the end of a literal. -/
def exponentOf : PyStr → Option ℤ
  | [] => some 0
  | c :: s =>
    if c.val = 101 ∨ c.val = 69 then
      let (neg, s) := takeSign s
      (underscored digitValue s).map fun ds => if neg then -(ofPlaces ds : ℤ) else ofPlaces ds
    else none

/-- The digits before and after the decimal point, and the text behind them. -/
def splitLiteral (s : PyStr) : PyStr × PyStr × PyStr :=
  let rest := s.dropWhile isNumeral
  match rest with
  | c :: t => if c.val = 46 then (s.takeWhile isNumeral, t.takeWhile isNumeral, t.dropWhile isNumeral)
    else (s.takeWhile isNumeral, [], rest)
  | [] => (s.takeWhile isNumeral, [], [])

/-- A decimal literal without a sign. -/
def decimalLiteral (s : PyStr) : Option Dec :=
  let (ip, fp, rest) := splitLiteral s
  match numeral ip, numeral fp, exponentOf rest with
  | some ip, some fp, some e =>
    if ip = [] ∧ fp = [] then none else some ⟨ofPlaces (ip ++ fp), e - fp.length⟩
  | _, _, _ => none

def asciiLower (c : CodePoint) : CodePoint :=
  if 65 ≤ c.val ∧ c.val ≤ 90 then chr (c.val + 32) else c

/-- The value `float(text)` of a stripped text; `none` where it raises `ValueError`. -/
def floatOfText (s : PyStr) : Option PyFloat :=
  let (neg, s) := takeSign s
  let word := s.map asciiLower
  if word = lit "inf" ∨ word = lit "infinity" then some (.inf neg)
  else if word = lit "nan" then some .nan
  else (decimalLiteral s).map (floatOfDec neg)

/-! ### The shortest text -/

/-- The decimals with `k` digits next to `n / d`, the nearest one first; the first of them has the
    value `10 ^ p` at most. -/
def neighbours (n d : ℕ) (p : ℤ) (k : ℕ) : List Dec :=
  let num := n * 10 ^ (k - p).toNat
  let den := d * 10 ^ (p - k).toNat
  let near := quotHalfEven num den
  let other := if near = num / den then num / den + 1 else num / den
  [⟨near, p - k⟩, ⟨other, p - k⟩]

/-- The position of the decimal point before the first digit of `n / d`. -/
def pointPosition (n d : ℕ) : ℤ :=
  let k : ℤ := (size n : ℤ) - size d
  if d * 10 ^ k.toNat ≤ n * 10 ^ (-k).toNat then k + 1 else k

/-- The decimal with the fewest digits, at most seventeen, that is read as the float `n / d`. -/
def shortest (n d : ℕ) : Dec :=
  let p := pointPosition n d
  let reads := fun m : Dec => decide (floatOfDec false m = .finite ((n : ℚ) / d))
  let found := (List.range' 1 17).findSome? fun k => (neighbours n d p k).find? reads
  let m := found.getD ⟨quotHalfEven (n * 10 ^ (17 - p).toNat) (d * 10 ^ (p - 17).toNat), p - 17⟩
  trim (m.exp + 17) 17 m

/-- The decimal number that `str()` of a non-negative float shows: with an exponent, or with at
    least one digit after the decimal point. -/
def shown (q : ℚ) : Dec :=
  if q = 0 then ⟨0, -1⟩ else
    let m := shortest q.num.natAbs q.den
    let point := m.exp + size m.coeff
    if -4 < point ∧ point ≤ 16 ∧ 0 ≤ m.exp then ⟨m.coeff * 10 ^ (m.exp + 1).toNat, -1⟩ else m

/-! ## Decimals -/

/-- A `Decimal`. -/
inductive PyDecimal where
  | finite (neg : Bool) (d : Dec)
  | inf (neg : Bool)
  | nan

/-- The least exponent of a coefficient, `Etiny`. -/
def etiny : ℤ := -999999 - 28 + 1

theorem prec_pos : 0 < 28 := by norm_num

/-- The context that `decimal.getcontext()` returns by default. -/
def defaultContext : Context := ⟨28, etiny, 999999, prec_pos⟩

namespace PyDecimal

/-- The value of a finite decimal. -/
def signed (neg : Bool) (d : Dec) : ℚ := if neg then -d.value else d.value

/-- A class of the exceptions of `decimal`. -/
def errorClass (name : PyStr) : ExcClass :=
  .subclass name (.subclass "DecimalException" .arithmeticError)

def invalidOperation : ExcClass := errorClass "InvalidOperation"

/-- Rounding to the context; an overflow is trapped. -/
def fix (d : Dec) : Except PyExc Dec :=
  let r := defaultContext.round d
  if r.coeff = 0 then .ok ⟨0, min r.exp defaultContext.emax⟩
  else if defaultContext.emax < r.exp + size r.coeff - 1 then
    .error (.new (errorClass "Overflow") [])
  else .ok r

/-- The magnitude of `a % b`, with `b` positive. -/
def remainder (a b : Dec) : Except PyExc Dec :=
  if 10 ^ defaultContext.prec ≤ Dec.quo a b then .error (.new invalidOperation [])
  else fix (Dec.rem a b)

/-- The magnitude of `a.normalize()`. -/
def normalize (a : Dec) : Except PyExc Dec := (fix a).map defaultContext.reduce

/-- The number in positional notation, `format(a, "f")`. -/
def plainText (d : Dec) : PyStr :=
  let (ip, fp) := places d
  ip.map digitChar ++ if fp = [] then [] else lit "." ++ fp.map digitChar

def format (neg : Bool) (d : Dec) : PyStr := (if neg then lit "-" else []) ++ plainText d

/-- The text `str(a)` of a non-negative decimal. -/
def str (d : Dec) : PyStr :=
  let ds := digitsText d.coeff
  let point : ℤ := d.exp + ds.length
  if d.exp ≤ 0 ∧ -6 < point then plainText d
  else ds.take 1 ++ (if ds.length = 1 then [] else lit "." ++ ds.drop 1) ++
    (if point - 1 < 0 then lit "E-" else lit "E+") ++ digitsText (point - 1).natAbs

end PyDecimal

/-- A number that the driver takes: an `int` other than a `bool`, a `float` or a `Decimal`.  The
    float `-0.0` is told from `0.0` by its text. -/
inductive PyReal where
  | int (i : ℤ)
  | float (f : PyFloat)
  | negativeZero
  | decimal (d : PyDecimal)

/-- The decimal `Decimal(str(value))`. -/
def PyReal.decimalOfStr : PyReal → Except PyExc PyDecimal
  | int i =>
    if maxStrDigits < (digits i.natAbs).length then .error (.msg .valueError
      (lit ("Exceeds the limit (4300 digits) for integer string conversion" ++
        "; use sys.set_int_max_str_digits() to increase the limit")))
    else .ok (.finite (i < 0) ⟨i.natAbs, 0⟩)
  | float (.finite q) => .ok (.finite (q < 0) (shown |q|))
  | float (.inf neg) => .ok (.inf neg)
  | float .nan => .ok .nan
  | negativeZero => .ok (.finite true ⟨0, -1⟩)
  | decimal d => .ok d

end Spd3000
