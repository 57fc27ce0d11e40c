/-
  Texts and IPv4 addresses.

  The first part has the string methods that the parsers call.  The second one is
  `ipaddress` as far as the driver uses it: `ipv4Address` and `networkMask` give
  the 32 bits of `IPv4Address(text)` and of the netmask of
  `IPv4Network("0.0.0.0/" + text)`, and `addressText` writes 32 bits as a dotted
  quad.
-/
import Spd3000.Numbers

namespace Spd3000

open Decimals

/-! ## Texts -/

/-- The upper case of a character, where it is ASCII; other characters are left as they are, since
    texts in upper case are compared with ASCII texts only. -/
def upperChar (c : CodePoint) : PyStr :=
  if 97 ≤ c.val ∧ c.val ≤ 122 then [chr (c.val - 32)]
  else if c.val = 0xDF then "SS"
  else if c.val = 0x131 then "I"
  else if c.val = 0x17F then "S"
  else if c.val = 0xFB00 then "FF"
  else if c.val = 0xFB01 then "FI"
  else if c.val = 0xFB02 then "FL"
  else if c.val = 0xFB03 then "FFI"
  else if c.val = 0xFB04 then "FFL"
  else if c.val = 0xFB05 ∨ c.val = 0xFB06 then "ST"
  else [c]

/-- The string `text.upper()`. -/
def upper (s : PyStr) : PyStr := s.flatMap upperChar

/-- The list `text.split(sep)` for a separator of one character. -/
def split (sep : ℕ) (s : PyStr) : List PyStr := s.splitOnP fun c => c.val = sep

/-- The string `sep.join(texts)`. -/
def join (sep : PyStr) (texts : List PyStr) : PyStr := sep.intercalate texts

theorem join_singleton (sep t : PyStr) : join sep [t] = t := by simp [join, List.intercalate]

theorem join_cons_cons (sep t t' : PyStr) (ts : List PyStr) :
    join sep (t :: t' :: ts) = t ++ (sep ++ join sep (t' :: ts)) := by
  simp [join, List.intercalate]

/-- Splitting takes a joined text apart if no part contains the separator. -/
theorem split_join {sep : CodePoint} {ts : List PyStr} (hne : ts ≠ [])
    (h : ∀ t ∈ ts, ∀ c ∈ t, c ≠ sep) : split sep.val (join [sep] ts) = ts := by
  have hpart : ∀ t ∈ ts, ∀ c ∈ t, decide (c.val = sep.val) = false := fun t ht c hc =>
    decide_eq_false (Fin.val_ne_of_ne (h t ht c hc))
  induction ts with
  | nil => exact absurd rfl hne
  | cons t ts ih =>
    have ht := hpart t List.mem_cons_self
    cases ts with
    | nil => rw [join_singleton, split, List.splitOnP_eq_singleton ht]
    | cons t' ts =>
      have hlater := ih (List.cons_ne_nil _ _) (fun x hx => h x (List.mem_cons_of_mem _ hx))
        fun x hx => hpart x (List.mem_cons_of_mem _ hx)
      rw [split] at hlater
      rw [join_cons_cons, List.singleton_append, split,
        List.splitOnP_append_cons_of_forall_mem ht _ (decide_eq_true rfl), hlater]

theorem dropWhile_of_head {s : PyStr} (h : ∀ c ∈ s.head?, isSpace c = false) :
    s.dropWhile isSpace = s := by
  cases s with
  | nil => rfl
  | cons c s => exact List.dropWhile_cons_of_neg (by rw [h c rfl]; decide)

/-- Stripping keeps a text without white space at its ends. -/
theorem strip_of_ends {s : PyStr} (hhead : ∀ c ∈ s.head?, isSpace c = false)
    (hlast : ∀ c ∈ s.getLast?, isSpace c = false) : strip s = s := by
  have hreverse : ∀ c ∈ s.reverse.head?, isSpace c = false := by
    rw [List.head?_reverse]
    exact hlast
  rw [strip, dropWhile_of_head hhead, dropWhile_of_head hreverse, List.reverse_reverse]

theorem strip_visible {s : PyStr} (h : ∀ c ∈ s, isSpace c = false) : strip s = s :=
  strip_of_ends (fun c hc => h c (List.mem_of_mem_head? hc)) fun c hc =>
    h c (List.mem_of_getLast? hc)

theorem dropWhile_head (s : PyStr) : ∀ c ∈ (s.dropWhile isSpace).head?, isSpace c = false := by
  intro c hc
  have hnot := List.head?_dropWhile_not isSpace s
  rw [Option.mem_def.1 hc] at hnot
  exact hnot

/-- A stripped text has no white space at its ends. -/
theorem strip_ends (s : PyStr) : (∀ c ∈ (strip s).head?, isSpace c = false) ∧
    ∀ c ∈ (strip s).getLast?, isSpace c = false := by
  constructor
  · intro c hc
    have hinitial : strip s <+: s.dropWhile isSpace := by
      rw [strip, ← List.reverse_suffix, List.reverse_reverse]
      exact List.dropWhile_suffix _
    obtain ⟨rest, hrest⟩ := hinitial
    refine dropWhile_head s c ?_
    rw [← hrest, Option.mem_def, List.head?_append, Option.mem_def.1 hc, Option.some_or]
  · rw [strip, List.getLast?_reverse]
    exact dropWhile_head _

theorem strip_strip (s : PyStr) : strip (strip s) = strip s :=
  strip_of_ends (strip_ends s).1 (strip_ends s).2

/-- The test `text.isascii() and text.isdigit()`. -/
def isAsciiDigits (s : PyStr) : Bool := s ≠ [] && s.all fun c => 48 ≤ c.val && c.val ≤ 57

/-- The value of ASCII digits. -/
def asciiNumber (s : PyStr) : ℕ := ofPlaces (s.map fun c => c.val - 48)

theorem digitsText_digit {n : ℕ} {c : CodePoint} (h : c ∈ digitsText n) :
    48 ≤ c.val ∧ c.val ≤ 57 := by
  obtain ⟨d, hd, rfl⟩ := List.mem_map.1 h
  have hlt := digits_lt hd
  rw [val_digitChar hlt]
  omega

theorem digitsText_ne_nil (n : ℕ) : digitsText n ≠ [] := by
  rw [digitsText, ne_eq, List.map_eq_nil_iff]
  exact digits_ne_nil n

/-- The text of a number consists of ASCII digits and is read as the number. -/
theorem isAsciiDigits_digitsText (n : ℕ) : isAsciiDigits (digitsText n) = true := by
  rw [isAsciiDigits, Bool.and_eq_true, decide_eq_true_eq, List.all_eq_true]
  refine ⟨digitsText_ne_nil n, fun c hc => ?_⟩
  rw [Bool.and_eq_true, decide_eq_true_eq, decide_eq_true_eq]
  exact digitsText_digit hc

/-- A number up to `10 ^ k` has at most `k` digits. -/
theorem length_digitsText_le {n k : ℕ} (hk : 0 < k) (h : n < 10 ^ k) : (digitsText n).length ≤ k := by
  rw [digitsText, List.length_map, digits]
  split_ifs
  · exact hk
  · rw [List.length_reverse]
    exact size_le_iff.2 h

theorem asciiNumber_digitsText (n : ℕ) : asciiNumber (digitsText n) = n := by
  have hdigits : (digitsText n).map (fun c => c.val - 48) = digits n := by
    rw [digitsText, List.map_map]
    refine (List.map_congr_left fun d hd => ?_).trans (List.map_id _)
    rw [Function.comp_apply, val_digitChar (digits_lt hd)]
    exact Nat.add_sub_cancel_left 48 d
  rw [asciiNumber, hdigits, ofPlaces_digits]

/-! ## Addresses -/

/-- The method `_parse_octet`. -/
def parseOctet (s : PyStr) : Option ℕ :=
  if isAsciiDigits s = false then none
  else if 3 < s.length then none
  else if s ≠ lit "0" ∧ s.head?.any (·.val = 48) then none
  else if 255 < asciiNumber s then none
  else some (asciiNumber s)

/-- The method `_ip_int_from_string`. -/
def ipIntFromString (s : PyStr) : Option ℕ :=
  match (split 46 s).map parseOctet with
  | [some a, some b, some c, some d] => some (((a * 256 + b) * 256 + c) * 256 + d)
  | _ => none

/-- The call `IPv4Address(text)`; `none` where it raises `AddressValueError`. -/
def ipv4Address (s : PyStr) : Option ℕ :=
  if s.any fun c => c.val = 47 then none else ipIntFromString s

/-- The text `str(address)`. -/
def addressText (ip : ℕ) : PyStr :=
  join (lit ".") ([ip / 256 / 256 / 256 % 256, ip / 256 / 256 % 256, ip / 256 % 256, ip % 256].map
    digitsText)

/-! ## Netmasks -/

/-- The function `_count_righthand_zero_bits`. -/
def countRighthandZeroBits : ℕ → ℕ → ℕ
  | 0, _ => 0
  | bits + 1, number => if number % 2 = 0 then countRighthandZeroBits bits (number / 2) + 1 else 0

/-- The method `_prefix_from_ip_int`. -/
def prefixFromIpInt (ip : ℕ) : Option ℕ :=
  let zeros := countRighthandZeroBits 32 ip
  if ip / 2 ^ zeros = 2 ^ (32 - zeros) - 1 then some (32 - zeros) else none

/-- The method `_prefix_from_ip_string`: a netmask, or else the inverse of one. -/
def prefixFromIpString (s : PyStr) : Option ℕ :=
  (ipIntFromString s).bind fun ip => (prefixFromIpInt ip).or (prefixFromIpInt (2 ^ 32 - 1 - ip))

/-- The method `_prefix_from_prefix_string`. -/
def prefixFromPrefixString (s : PyStr) : Option ℕ :=
  if isAsciiDigits s = false then none
  else if maxStrDigits < s.length then none
  else if 32 < asciiNumber s then none
  else some (asciiNumber s)

/-- The method `_ip_int_from_prefix`. -/
def ipIntFromPrefix (length : ℕ) : ℕ := 2 ^ 32 - 1 - (2 ^ 32 - 1) / 2 ^ length

/-- The netmask of `IPv4Network(f"0.0.0.0/\x7btext\x7d")`; `none` where it raises
    `AddressValueError` or `NetmaskValueError`. -/
def networkMask (s : PyStr) : Option ℕ :=
  if s.any fun c => c.val = 47 then none
  else ((prefixFromPrefixString s).or (prefixFromIpString s)).map ipIntFromPrefix

/-! ## Ranges -/

theorem parseOctet_le {s : PyStr} {n : ℕ} (h : parseOctet s = some n) : n ≤ 255 := by
  unfold parseOctet at h
  split_ifs at h with h1 h2 h3 h4
  cases h
  exact not_lt.1 h4

theorem ipIntFromString_lt {s : PyStr} {ip : ℕ} (h : ipIntFromString s = some ip) :
    ip < 2 ^ 32 := by
  unfold ipIntFromString at h
  split at h
  · rename_i a b c d heq
    cases h
    have hoctet : ∀ n, some n ∈ (split 46 s).map parseOctet → n ≤ 255 := by
      intro n hn
      obtain ⟨o, -, ho⟩ := List.mem_map.1 hn
      exact parseOctet_le ho
    rw [heq] at hoctet
    have ha := hoctet a (by simp)
    have hb := hoctet b (by simp)
    have hc := hoctet c (by simp)
    have hd := hoctet d (by simp)
    omega
  · cases h

theorem ipv4Address_lt {s : PyStr} {ip : ℕ} (h : ipv4Address s = some ip) : ip < 2 ^ 32 := by
  unfold ipv4Address at h
  split_ifs at h
  exact ipIntFromString_lt h

theorem prefixFromIpInt_le {ip n : ℕ} (h : prefixFromIpInt ip = some n) : n ≤ 32 := by
  unfold prefixFromIpInt at h
  dsimp only at h
  split_ifs at h
  cases h
  exact Nat.sub_le _ _

/-- A netmask comes from a prefix length. -/
theorem networkMask_prefix {s : PyStr} {mask : ℕ} (h : networkMask s = some mask) :
    ∃ n ≤ 32, mask = ipIntFromPrefix n := by
  unfold networkMask at h
  split_ifs at h
  obtain ⟨n, hn, rfl⟩ := Option.map_eq_some_iff.1 h
  refine ⟨n, ?_, rfl⟩
  rcases Option.or_eq_some_iff.1 hn with hn | ⟨-, hn⟩
  · unfold prefixFromPrefixString at hn
    split_ifs at hn with h1 h2 h3
    cases hn
    exact not_lt.1 h3
  · obtain ⟨ip, -, hip⟩ := Option.bind_eq_some_iff.1 hn
    rcases Option.or_eq_some_iff.1 hip with hip | ⟨-, hip⟩
    · exact prefixFromIpInt_le hip
    · exact prefixFromIpInt_le hip

end Spd3000
