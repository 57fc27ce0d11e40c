/-
  The text of `json.dumps(value, ensure_ascii=True, separators=(",", ":"))`.

  A string is escaped to printable ASCII, so a text never holds a line feed
  (`lf_not_mem_dumps`).  A float is written as its `repr`, which is left to `PyText`.
-/
import Spd3000.Protocol
import Mathlib.Data.Nat.Digits.Defs

namespace Spd3000

namespace Json

/-! ## Texts -/

/-- A text written as it stands. -/
def plain (s : String) : Bytes := encodeAscii (lit s)

def hexDigit (n : ℕ) : UInt8 := UInt8.ofNat (if n < 10 then 48 + n else 87 + n)

/-- The escape `\uXXXX` of a 16-bit unit. -/
def escapeUnit (n : ℕ) : Bytes :=
  plain "\\u" ++ [n / 4096, n / 256 % 16, n / 16 % 16, n % 16].map hexDigit

def escape (c : CodePoint) : Bytes :=
  if c.val = 34 then plain "\\\""
  else if c.val = 92 then plain "\\\\"
  else if c.val = 10 then plain "\\n"
  else if c.val = 13 then plain "\\r"
  else if c.val = 9 then plain "\\t"
  else if c.val = 12 then plain "\\f"
  else if c.val = 8 then plain "\\b"
  else if 32 ≤ c.val ∧ c.val ≤ 126 then [UInt8.ofNat c.val]
  else if c.val < 0x10000 then escapeUnit c.val
  else
    let n := c.val - 0x10000
    escapeUnit (0xD800 + n / 1024) ++ escapeUnit (0xDC00 + n % 1024)

def dumpsStr (s : PyStr) : Bytes := plain "\"" ++ s.flatMap escape ++ plain "\""

def decimal (n : ℕ) : Bytes :=
  if n = 0 then plain "0" else (Nat.digits 10 n).reverse.map fun d => UInt8.ofNat (48 + d)

/-- The text `int.__repr__(i)`, within the limit of the interpreter. -/
def dumpsInt (i : ℤ) : Except PyExc Bytes :=
  if 4300 < (decimal i.natAbs).length then
    .error (.msg .valueError (lit ("Exceeds the limit (4300 digits) for integer string conversion" ++
      "; use sys.set_int_max_str_digits() to increase the limit")))
  else .ok ((if i < 0 then plain "-" else []) ++ decimal i.natAbs)

section
variable [PyText]

def dumpsFloat : PyFloat → Bytes
  | .finite q => encodeAscii (PyText.repr (.float (.finite q)))
  | .inf neg => plain (if neg then "-Infinity" else "Infinity")
  | .nan => plain "NaN"

def commas (parts : List Bytes) : Bytes := (plain ",").intercalate parts

mutual
def dumps : PyVal → Except PyExc Bytes
  | .none => .ok (plain "null")
  | .bool b => .ok (plain (if b then "true" else "false"))
  | .int i => dumpsInt i
  | .float f => .ok (dumpsFloat f)
  | .str s => .ok (dumpsStr s)
  | .list xs => (dumpsItems xs).map fun items => plain "[" ++ commas items ++ plain "]"
  | .dict kvs => (dumpsEntries kvs).map fun entries => plain "\x7b" ++ commas entries ++ plain "\x7d"
  | .obj cls _ => .error (.msg .typeError
      (lit "Object of type " ++ cls ++ lit " is not JSON serializable"))

def dumpsItems : List PyVal → Except PyExc (List Bytes)
  | [] => .ok []
  | x :: xs => match dumps x with
    | .error e => .error e
    | .ok b => (dumpsItems xs).map (b :: ·)

def dumpsEntries : PyDict → Except PyExc (List Bytes)
  | [] => .ok []
  | (k, v) :: kvs => match dumps v with
    | .error e => .error e
    | .ok b => (dumpsEntries kvs).map ((dumpsStr k ++ plain ":" ++ b) :: ·)
end

/-- The codec with this encoder. -/
def codec (loads : Bytes → Except PyExc PyVal) : Codec := ⟨dumps, loads⟩

end

/-! ## Inversion -/

theorem map_eq_ok {α β : Type} {f : α → β} {r : Except PyExc α} {b : β} :
    r.map f = .ok b ↔ ∃ a, r = .ok a ∧ f a = b := by
  cases r <;> simp [Except.map]

section
variable [PyText]

theorem dumps_list_eq_ok {xs : List PyVal} {b : Bytes} : dumps (.list xs) = .ok b ↔
    ∃ items, dumpsItems xs = .ok items ∧ plain "[" ++ commas items ++ plain "]" = b := by
  rw [dumps]
  exact map_eq_ok

theorem dumps_dict_eq_ok {kvs : PyDict} {b : Bytes} : dumps (.dict kvs) = .ok b ↔
    ∃ entries, dumpsEntries kvs = .ok entries ∧ plain "\x7b" ++ commas entries ++ plain "\x7d" = b := by
  rw [dumps]
  exact map_eq_ok

theorem dumpsItems_cons_eq_ok {x : PyVal} {xs : List PyVal} {items : List Bytes} :
    dumpsItems (x :: xs) = .ok items ↔
      ∃ b bs, dumps x = .ok b ∧ dumpsItems xs = .ok bs ∧ b :: bs = items := by
  rw [dumpsItems]
  cases dumps x with
  | error e => simp
  | ok b => simp [map_eq_ok]

theorem dumpsEntries_cons_eq_ok {k : PyStr} {v : PyVal} {kvs : PyDict} {entries : List Bytes} :
    dumpsEntries ((k, v) :: kvs) = .ok entries ↔
      ∃ b bs, dumps v = .ok b ∧ dumpsEntries kvs = .ok bs ∧
        (dumpsStr k ++ plain ":" ++ b) :: bs = entries := by
  rw [dumpsEntries]
  cases dumps v with
  | error e => simp
  | ok b => simp [map_eq_ok]

end

theorem length_commas (b : Bytes) (bs : List Bytes) :
    (commas (b :: bs)).length = b.length + (bs.map (·.length + 1)).sum := by
  unfold commas
  induction bs generalizing b with
  | nil => simp
  | cons b' bs ih =>
    rw [List.intercalate_cons_cons, List.length_append, List.length_append, ih, List.map_cons,
      List.sum_cons]
    have hcomma : (plain ",").length = 1 := rfl
    omega

/-! ## Sizes -/

section
variable [PyText]

/-- The value is written in `n` bytes. -/
def Written (v : PyVal) (n : ℕ) : Prop := ∃ b, dumps v = .ok b ∧ b.length = n

/-- The entries are written in `n` bytes, each followed by one more byte. -/
def EntriesWritten (kvs : PyDict) (n : ℕ) : Prop :=
  ∃ bs, dumpsEntries kvs = .ok bs ∧ (bs.map (·.length + 1)).sum = n

def ItemsWritten (xs : List PyVal) (n : ℕ) : Prop :=
  ∃ bs, dumpsItems xs = .ok bs ∧ (bs.map (·.length + 1)).sum = n

theorem written_str {s : PyStr} {n : ℕ} : Written (.str s) n ↔ n = (dumpsStr s).length := by
  rw [Written, dumps]
  simp [eq_comm]

theorem entriesWritten_nil : EntriesWritten [] 0 := ⟨[], by rw [dumpsEntries], rfl⟩

theorem entriesWritten_cons {k : PyStr} {v : PyVal} {kvs : PyDict} {n : ℕ} :
    EntriesWritten ((k, v) :: kvs) n ↔ ∃ a m, Written v a ∧ EntriesWritten kvs m ∧
      n = (dumpsStr k).length + a + 2 + m := by
  have hcolon : (plain ":").length = 1 := rfl
  constructor
  · rintro ⟨entries, h, rfl⟩
    obtain ⟨b, bs, hb, hbs, rfl⟩ := dumpsEntries_cons_eq_ok.1 h
    refine ⟨b.length, _, ⟨b, hb, rfl⟩, ⟨bs, hbs, rfl⟩, ?_⟩
    rw [List.map_cons, List.sum_cons, List.length_append, List.length_append, hcolon]
    omega
  · rintro ⟨a, m, ⟨b, hb, rfl⟩, ⟨bs, hbs, rfl⟩, rfl⟩
    refine ⟨_, dumpsEntries_cons_eq_ok.2 ⟨b, bs, hb, hbs, rfl⟩, ?_⟩
    rw [List.map_cons, List.sum_cons, List.length_append, List.length_append, hcolon]
    omega

theorem itemsWritten_cons {x : PyVal} {xs : List PyVal} {n : ℕ} :
    ItemsWritten (x :: xs) n ↔ ∃ a m, Written x a ∧ ItemsWritten xs m ∧ n = a + 1 + m := by
  constructor
  · rintro ⟨items, h, rfl⟩
    obtain ⟨b, bs, hb, hbs, rfl⟩ := dumpsItems_cons_eq_ok.1 h
    exact ⟨b.length, _, ⟨b, hb, rfl⟩, ⟨bs, hbs, rfl⟩, rfl⟩
  · rintro ⟨a, m, ⟨b, hb, rfl⟩, ⟨bs, hbs, rfl⟩, rfl⟩
    exact ⟨_, dumpsItems_cons_eq_ok.2 ⟨b, bs, hb, hbs, rfl⟩, rfl⟩

/-- The size of a non-empty dictionary: the last entry is followed by the brace. -/
theorem written_dict {k : PyStr} {v : PyVal} {kvs : PyDict} {n : ℕ} :
    Written (.dict ((k, v) :: kvs)) n ↔ ∃ m, EntriesWritten ((k, v) :: kvs) m ∧ n = m + 1 := by
  have hbraces : (plain "\x7b").length = 1 ∧ (plain "\x7d").length = 1 := ⟨rfl, rfl⟩
  constructor
  · rintro ⟨b, h, rfl⟩
    obtain ⟨entries, hentries, rfl⟩ := dumps_dict_eq_ok.1 h
    obtain ⟨d, bs, -, -, rfl⟩ := dumpsEntries_cons_eq_ok.1 hentries
    refine ⟨_, ⟨_, hentries, rfl⟩, ?_⟩
    rw [List.length_append, List.length_append, length_commas, List.map_cons, List.sum_cons,
      hbraces.1, hbraces.2]
    omega
  · rintro ⟨m, ⟨entries, hentries, rfl⟩, rfl⟩
    refine ⟨_, dumps_dict_eq_ok.2 ⟨entries, hentries, rfl⟩, ?_⟩
    obtain ⟨d, bs, -, -, rfl⟩ := dumpsEntries_cons_eq_ok.1 hentries
    rw [List.length_append, List.length_append, length_commas, List.map_cons, List.sum_cons,
      hbraces.1, hbraces.2]
    omega

theorem written_list {x : PyVal} {xs : List PyVal} {n : ℕ} :
    Written (.list (x :: xs)) n ↔ ∃ m, ItemsWritten (x :: xs) m ∧ n = m + 1 := by
  have hbrackets : (plain "[").length = 1 ∧ (plain "]").length = 1 := ⟨rfl, rfl⟩
  constructor
  · rintro ⟨b, h, rfl⟩
    obtain ⟨items, hitems, rfl⟩ := dumps_list_eq_ok.1 h
    obtain ⟨d, bs, -, -, rfl⟩ := dumpsItems_cons_eq_ok.1 hitems
    refine ⟨_, ⟨_, hitems, rfl⟩, ?_⟩
    rw [List.length_append, List.length_append, length_commas, List.map_cons, List.sum_cons,
      hbrackets.1, hbrackets.2]
    omega
  · rintro ⟨m, ⟨items, hitems, rfl⟩, rfl⟩
    refine ⟨_, dumps_list_eq_ok.2 ⟨items, hitems, rfl⟩, ?_⟩
    obtain ⟨d, bs, -, -, rfl⟩ := dumpsItems_cons_eq_ok.1 hitems
    rw [List.length_append, List.length_append, length_commas, List.map_cons, List.sum_cons,
      hbrackets.1, hbrackets.2]
    omega

end

theorem length_dumpsStr (s : PyStr) : s.length + 2 ≤ (dumpsStr s).length := by
  have hescape : ∀ c : CodePoint, 1 ≤ (escape c).length := by
    intro c
    unfold escape
    split_ifs <;> first | decide | simp [escapeUnit, plain, lit, encodeAscii]
  have hquote : (plain "\"").length = 1 := rfl
  have hflat : s.length ≤ (s.flatMap escape).length := by
    induction s with
    | nil => exact Nat.zero_le _
    | cons c s ih =>
      have := hescape c
      rw [List.flatMap_cons, List.length_append, List.length_cons]
      omega
  rw [dumpsStr, List.length_append, List.length_append, hquote]
  omega

/-! ## Errors -/

section
variable [PyText]

mutual
/-- `json.dumps` raises `TypeError` or `ValueError`. -/
theorem dumps_raises : ∀ v e, dumps v = .error e → e.cls = .typeError ∨ e.cls = .valueError
  | .none, e, h => by cases h
  | .bool _, e, h => by cases h
  | .int i, e, h => by
    rw [dumps, dumpsInt] at h
    split_ifs at h
    cases h
    exact .inr rfl
  | .float _, e, h => by cases h
  | .str _, e, h => by cases h
  | .list xs, e, h => by
    rw [dumps] at h
    cases hitems : dumpsItems xs with
    | error e' =>
      rw [hitems] at h
      cases h
      exact dumpsItems_raises xs e hitems
    | ok items =>
      rw [hitems] at h
      cases h
  | .dict kvs, e, h => by
    rw [dumps] at h
    cases hentries : dumpsEntries kvs with
    | error e' =>
      rw [hentries] at h
      cases h
      exact dumpsEntries_raises kvs e hentries
    | ok entries =>
      rw [hentries] at h
      cases h
  | .obj _ _, e, h => by
    rw [dumps] at h
    cases h
    exact .inl rfl

theorem dumpsItems_raises :
    ∀ xs e, dumpsItems xs = .error e → e.cls = .typeError ∨ e.cls = .valueError
  | [], e, h => by cases h
  | x :: xs, e, h => by
    rw [dumpsItems] at h
    cases hx : dumps x with
    | error e' =>
      rw [hx] at h
      cases h
      exact dumps_raises x e hx
    | ok b =>
      rw [hx] at h
      cases hxs : dumpsItems xs with
      | error e' =>
        rw [hxs] at h
        cases h
        exact dumpsItems_raises xs e hxs
      | ok bs =>
        rw [hxs] at h
        cases h

theorem dumpsEntries_raises :
    ∀ kvs e, dumpsEntries kvs = .error e → e.cls = .typeError ∨ e.cls = .valueError
  | [], e, h => by cases h
  | (k, v) :: kvs, e, h => by
    rw [dumpsEntries] at h
    cases hv : dumps v with
    | error e' =>
      rw [hv] at h
      cases h
      exact dumps_raises v e hv
    | ok b =>
      rw [hv] at h
      cases hkvs : dumpsEntries kvs with
      | error e' =>
        rw [hkvs] at h
        cases h
        exact dumpsEntries_raises kvs e hkvs
      | ok bs =>
        rw [hkvs] at h
        cases h
end

end

/-! ## No line feeds -/

theorem ofNat_ne_lf {n : ℕ} (h : n % 256 ≠ 10) : UInt8.ofNat n ≠ LF := by
  intro heq
  have hval : n % 256 = 10 := by
    rw [← UInt8.toNat_ofNat', heq]
    rfl
  exact h hval

theorem hexDigit_ne_lf {n : ℕ} (h : n < 16) : hexDigit n ≠ LF := by
  revert n
  decide

theorem lf_not_mem_escapeUnit {n : ℕ} (h : n < 0x10000) : LF ∉ escapeUnit n := by
  unfold escapeUnit
  rw [List.mem_append, not_or]
  refine ⟨by decide, fun hmem => ?_⟩
  obtain ⟨d, hd, heq⟩ := List.mem_map.1 hmem
  refine hexDigit_ne_lf ?_ heq
  simp only [List.mem_cons, List.not_mem_nil, or_false] at hd
  omega

theorem lf_not_mem_escape (c : CodePoint) : LF ∉ escape c := by
  have hc := c.isLt
  unfold escape
  split_ifs with _ _ _ _ _ _ _ hprintable hunit
  · decide
  · decide
  · decide
  · decide
  · decide
  · decide
  · decide
  · rw [List.mem_singleton]
    exact (ofNat_ne_lf (by omega)).symm
  · exact lf_not_mem_escapeUnit hunit
  · rw [List.mem_append, not_or]
    exact ⟨lf_not_mem_escapeUnit (by omega), lf_not_mem_escapeUnit (by omega)⟩

theorem lf_not_mem_dumpsStr (s : PyStr) : LF ∉ dumpsStr s := by
  unfold dumpsStr
  simp only [List.mem_append, List.mem_flatMap, not_or, not_exists, not_and]
  exact ⟨⟨by decide, fun c _ => lf_not_mem_escape c⟩, by decide⟩

theorem lf_not_mem_decimal (n : ℕ) : LF ∉ decimal n := by
  unfold decimal
  split_ifs
  · decide
  · intro h
    obtain ⟨d, hd, heq⟩ := List.mem_map.1 h
    have hlt := Nat.digits_lt_base (by decide : 1 < 10) (List.mem_reverse.1 hd)
    exact ofNat_ne_lf (by omega) heq

theorem lf_not_mem_dumpsInt {i : ℤ} {b : Bytes} (h : dumpsInt i = .ok b) : LF ∉ b := by
  unfold dumpsInt at h
  split_ifs at h with _ hneg
  · cases h
    rw [List.mem_append, not_or]
    exact ⟨by decide, lf_not_mem_decimal _⟩
  · cases h
    exact lf_not_mem_decimal _

theorem lf_not_mem_commas {parts : List Bytes} (h : ∀ b ∈ parts, LF ∉ b) : LF ∉ commas parts := by
  unfold commas
  induction parts with
  | nil => simp
  | cons b parts ih =>
    rw [List.forall_mem_cons] at h
    cases parts with
    | nil => simpa using h.1
    | cons b' parts =>
      rw [List.intercalate_cons_cons, List.mem_append, List.mem_append, not_or, not_or]
      exact ⟨⟨h.1, by decide⟩, ih h.2⟩

theorem lf_not_mem_enclosed {l r : String} {parts : List Bytes} (hl : LF ∉ plain l)
    (hr : LF ∉ plain r) (h : ∀ b ∈ parts, LF ∉ b) : LF ∉ plain l ++ commas parts ++ plain r := by
  rw [List.mem_append, List.mem_append, not_or, not_or]
  exact ⟨⟨hl, lf_not_mem_commas h⟩, hr⟩

section
variable [PyText]

/-- The `repr` of a float is on one line. -/
def OneLine : Prop := ∀ q, LF ∉ encodeAscii (PyText.repr (.float (.finite q)))

theorem lf_not_mem_dumpsFloat (hf : OneLine) (f : PyFloat) : LF ∉ dumpsFloat f := by
  cases f with
  | finite q => exact hf q
  | inf neg =>
    show LF ∉ plain (if neg then "-Infinity" else "Infinity")
    revert neg
    decide
  | nan =>
    show LF ∉ plain "NaN"
    decide

mutual
theorem lf_not_mem_dumps (hf : OneLine) : ∀ v b, dumps v = .ok b → LF ∉ b
  | .none, b, h => by
    cases h
    decide
  | .bool v, b, h => by
    cases h
    revert v
    decide
  | .int i, b, h => lf_not_mem_dumpsInt h
  | .float f, b, h => by
    cases h
    exact lf_not_mem_dumpsFloat hf f
  | .str s, b, h => by
    cases h
    exact lf_not_mem_dumpsStr s
  | .list xs, b, h => by
    obtain ⟨items, hitems, rfl⟩ := dumps_list_eq_ok.1 h
    exact lf_not_mem_enclosed (by decide) (by decide) (lf_not_mem_dumpsItems hf xs items hitems)
  | .dict kvs, b, h => by
    obtain ⟨entries, hentries, rfl⟩ := dumps_dict_eq_ok.1 h
    exact lf_not_mem_enclosed (by decide) (by decide)
      (lf_not_mem_dumpsEntries hf kvs entries hentries)
  | .obj cls _, b, h => by cases h

theorem lf_not_mem_dumpsItems (hf : OneLine) : ∀ xs bs, dumpsItems xs = .ok bs → ∀ b ∈ bs, LF ∉ b
  | [], bs, h => by
    cases h
    simp
  | x :: xs, bs, h => by
    obtain ⟨b, bs', hb, hbs, rfl⟩ := dumpsItems_cons_eq_ok.1 h
    rw [List.forall_mem_cons]
    exact ⟨lf_not_mem_dumps hf x b hb, lf_not_mem_dumpsItems hf xs bs' hbs⟩

theorem lf_not_mem_dumpsEntries (hf : OneLine) :
    ∀ kvs bs, dumpsEntries kvs = .ok bs → ∀ b ∈ bs, LF ∉ b
  | [], bs, h => by
    cases h
    simp
  | (k, v) :: kvs, bs, h => by
    obtain ⟨b, bs', hb, hbs, rfl⟩ := dumpsEntries_cons_eq_ok.1 h
    rw [List.forall_mem_cons, List.mem_append, List.mem_append, not_or, not_or]
    exact ⟨⟨⟨lf_not_mem_dumpsStr k, by decide⟩, lf_not_mem_dumps hf v b hb⟩,
      lf_not_mem_dumpsEntries hf kvs bs' hbs⟩
end

end

end Json

end Spd3000
