/-
  Subnet masks on the way to the instrument and back (`SPD3000.maskaddr`).

  A dotted quad is a number of 32 bits (`Quad`).  `networkMask` reads a quad as a
  netmask if its value is contiguous, but also if its value is zeros followed by
  ones, and takes the complement then (`networkMask_inverted`).  The setter and the
  readback both use it, so an inverted mask is changed on the way out, and an
  inverted response is taken for the mask that was sent; nothing else goes wrong
  (`mask_kept`).
-/
import Spd3000.Validation
import Spd3000.Batch
import Spd3000.Lib.Masks

namespace Spd3000

open Decimals Masks

/-! ## Prefix lengths -/

theorem countRighthandZeroBits_spec (bits number : ℕ) :
    countRighthandZeroBits bits number ≤ bits ∧
      2 ^ countRighthandZeroBits bits number ∣ number ∧
      (countRighthandZeroBits bits number < bits →
        number / 2 ^ countRighthandZeroBits bits number % 2 = 1) := by
  induction bits generalizing number with
  | zero => exact ⟨le_rfl, by rw [countRighthandZeroBits, pow_zero]; exact one_dvd _,
      fun h => absurd h (lt_irrefl _)⟩
  | succ bits ih =>
    rw [countRighthandZeroBits]
    split_ifs with heven
    · obtain ⟨hle, hdvd, hodd⟩ := ih (number / 2)
      refine ⟨Nat.succ_le_succ hle, ?_, fun h => ?_⟩
      · rw [pow_succ']
        obtain ⟨k, hk⟩ := hdvd
        exact ⟨k, by rw [mul_assoc, ← hk]; omega⟩
      · rw [pow_succ', ← Nat.div_div_eq_div_mul]
        exact hodd (Nat.lt_of_succ_lt_succ h)
    · exact ⟨Nat.zero_le _, by rw [pow_zero]; exact one_dvd _,
        fun _ => by rw [pow_zero, Nat.div_one]; omega⟩

/-- The number of zeros after the last one. -/
theorem countRighthandZeroBits_eq {bits z number : ℕ} (hz : z ≤ bits) (hdvd : 2 ^ z ∣ number)
    (hodd : z < bits → number / 2 ^ z % 2 = 1) : countRighthandZeroBits bits number = z := by
  obtain ⟨hle, hdvd', hodd'⟩ := countRighthandZeroBits_spec bits number
  have hnot : ∀ i j, i < j → 2 ^ j ∣ number → number / 2 ^ i % 2 = 0 := by
    rintro i j hij ⟨k, rfl⟩
    obtain ⟨d, rfl⟩ := Nat.exists_eq_add_of_lt hij
    rw [show 2 ^ (i + d + 1) * k = 2 ^ i * (2 * (2 ^ d * k)) by ring,
      Nat.mul_div_cancel_left _ (by positivity)]
    exact Nat.mul_mod_right 2 _
  rcases lt_trichotomy (countRighthandZeroBits bits number) z with hlt | heq | hlt
  · have h0 := hnot _ _ hlt hdvd
    have h1 := hodd' (hlt.trans_le hz)
    omega
  · exact heq
  · have h0 := hnot _ _ hlt hdvd'
    have h1 := hodd (hlt.trans_le hle)
    omega

/-- A prefix length is found exactly if the address is contiguous. -/
theorem prefixFromIpInt_iff {ip n : ℕ} :
    prefixFromIpInt ip = some n ↔ n ≤ 32 ∧ ip = netmask 32 n := by
  unfold prefixFromIpInt
  dsimp only
  constructor
  · intro h
    split_ifs at h with hones
    cases h
    obtain ⟨hle, hdvd, -⟩ := countRighthandZeroBits_spec 32 ip
    refine ⟨Nat.sub_le _ _, ?_⟩
    rw [netmask_eq_mul (Nat.sub_le _ _), Nat.sub_sub_self hle, ← hones, Nat.mul_div_cancel' hdvd]
  · rintro ⟨hn, rfl⟩
    have hmul := netmask_eq_mul hn
    have hdiv : netmask 32 n / 2 ^ (32 - n) = 2 ^ n - 1 := by
      rw [hmul, Nat.mul_div_cancel_left _ (by positivity)]
    have hzeros : countRighthandZeroBits 32 (netmask 32 n) = 32 - n := by
      refine countRighthandZeroBits_eq (Nat.sub_le _ _) ⟨_, hmul⟩ fun hlt => ?_
      obtain ⟨k, rfl⟩ := Nat.exists_eq_succ_of_ne_zero (show n ≠ 0 by omega)
      have hpos : 0 < 2 ^ k := by positivity
      rw [hdiv, pow_succ]
      omega
    rw [hzeros, hdiv, Nat.sub_sub_self hn, if_pos rfl]

theorem prefixFromIpInt_isSome {ip : ℕ} : (prefixFromIpInt ip).isSome ↔ Contiguous 32 ip := by
  rw [Option.isSome_iff_exists]
  exact exists_congr fun n => prefixFromIpInt_iff

theorem ipIntFromPrefix_eq_netmask : ∀ n ≤ 32, ipIntFromPrefix n = netmask 32 n := by decide

theorem prefixFromIpInt_contiguous {ip : ℕ} (h : Contiguous 32 ip) :
    (prefixFromIpInt ip).map ipIntFromPrefix = some ip := by
  obtain ⟨n, hn, rfl⟩ := h
  rw [prefixFromIpInt_iff.2 ⟨hn, rfl⟩, Option.map_some, ipIntFromPrefix_eq_netmask n hn]

theorem prefixFromIpInt_eq_none {ip : ℕ} (h : ¬ Contiguous 32 ip) : prefixFromIpInt ip = none :=
  Option.not_isSome_iff_eq_none.1 fun hsome => h (prefixFromIpInt_isSome.1 hsome)

/-! ## Dotted quads -/

/-- A canonical dotted quad: four octets. -/
structure Quad where
  a : Fin 256
  b : Fin 256
  c : Fin 256
  d : Fin 256

namespace Quad

def octets (q : Quad) : List ℕ := [q.a, q.b, q.c, q.d]

/-- The text, with the octets in decimal digits. -/
def text (q : Quad) : PyStr := join (lit ".") (q.octets.map digitsText)

def value (q : Quad) : ℕ := ((q.a * 256 + q.b) * 256 + q.c) * 256 + q.d

variable (q : Quad)

theorem value_lt : q.value < 2 ^ 32 := by
  obtain ⟨a, b, c, d⟩ := q
  simp only [value]
  omega

theorem addressText_value : addressText q.value = q.text := by
  obtain ⟨a, b, c, d⟩ := q
  have hd : ((((a * 256 + b) * 256 + c) * 256 + d : ℕ) % 256) = d := by omega
  have hc : ((((a * 256 + b) * 256 + c) * 256 + d : ℕ) / 256 % 256) = c := by omega
  have hb : ((((a * 256 + b) * 256 + c) * 256 + d : ℕ) / 256 / 256 % 256) = b := by omega
  have ha : ((((a * 256 + b) * 256 + c) * 256 + d : ℕ) / 256 / 256 / 256 % 256) = a := by omega
  rw [addressText, value, ha, hb, hc, hd]
  rfl

theorem exists_value {v : ℕ} (h : v < 2 ^ 32) : ∃ q : Quad, q.value = v := by
  refine ⟨⟨⟨v / 256 / 256 / 256, by omega⟩, ⟨v / 256 / 256 % 256, by omega⟩,
    ⟨v / 256 % 256, by omega⟩, ⟨v % 256, by omega⟩⟩, ?_⟩
  simp only [value]
  omega

end Quad

theorem parseOctet_digitsText : ∀ n : Fin 256, parseOctet (digitsText n) = some n.val := by
  decide +kernel

namespace Quad
variable (q : Quad)

/-- A quad consists of digits and points. -/
theorem mem_text {c : CodePoint} (h : c ∈ q.text) : c.val = 46 ∨ (48 ≤ c.val ∧ c.val ≤ 57) := by
  have hpoint : ∀ x ∈ lit ".", x.val = 46 := by
    intro x hx
    rw [List.mem_singleton.1 hx]
    rfl
  simp only [text, octets, List.map_cons, List.map_nil, join_cons_cons, join_singleton,
    List.mem_append] at h
  rcases h with h | h | h | h | h | h | h
  · exact .inr (digitsText_digit h)
  · exact .inl (hpoint c h)
  · exact .inr (digitsText_digit h)
  · exact .inl (hpoint c h)
  · exact .inr (digitsText_digit h)
  · exact .inl (hpoint c h)
  · exact .inr (digitsText_digit h)

theorem strip_text : strip q.text = q.text := by
  refine strip_visible fun c hc => ?_
  have hchar := q.mem_text hc
  simp only [isSpace, Bool.or_eq_false_iff, Bool.and_eq_false_iff, decide_eq_false_iff_not,
    beq_eq_false_iff_ne]
  omega

theorem ipIntFromString_text : ipIntFromString q.text = some q.value := by
  have hsplit : split 46 q.text = q.octets.map digitsText := by
    refine @split_join (chr 46) _ (List.cons_ne_nil _ _) fun t ht c hc heq => ?_
    obtain ⟨n, -, rfl⟩ := List.mem_map.1 ht
    have hdigit := digitsText_digit hc
    rw [heq, val_chr (by decide)] at hdigit
    omega
  rw [ipIntFromString, hsplit, octets]
  simp only [List.map_cons, List.map_nil, parseOctet_digitsText]
  rfl

theorem ipv4Address_text : ipv4Address q.text = some q.value := by
  have hslash : ¬ (q.text.any fun c => c.val = 47) := by
    rw [List.any_eq_true]
    rintro ⟨c, hc, hval⟩
    have hdigit := q.mem_text hc
    rw [decide_eq_true_eq] at hval
    omega
  rw [ipv4Address, if_neg hslash, ipIntFromString_text]

end Quad

/-! ## Masks that are addresses -/

/-- A text without points is no address. -/
theorem isAsciiDigits_address {s : PyStr} {ip : ℕ} (h : ipIntFromString s = some ip) :
    isAsciiDigits s = false := by
  rw [Bool.eq_false_iff, isAsciiDigits, ne_eq, Bool.and_eq_true, List.all_eq_true]
  rintro ⟨-, hdigits⟩
  have hsplit : split 46 s = [s] := List.splitOnP_eq_singleton fun c hc => by
    have hdigit := hdigits c hc
    rw [Bool.and_eq_true, decide_eq_true_eq] at hdigit
    exact decide_eq_false (by omega)
  rw [ipIntFromString, hsplit, List.map_singleton] at h
  cases hoctet : parseOctet s with
  | none => rw [hoctet] at h; cases h
  | some n => rw [hoctet] at h; cases h

section
variable {s : PyStr} {ip : ℕ} (h : ipv4Address s = some ip)
include h

theorem networkMask_address : networkMask s =
    ((prefixFromIpInt ip).or (prefixFromIpInt (complement 32 ip))).map ipIntFromPrefix := by
  unfold ipv4Address at h
  split_ifs at h with hslash
  rw [networkMask, if_neg hslash, prefixFromPrefixString, if_pos (isAsciiDigits_address h),
    Option.none_or, prefixFromIpString, h, Option.bind_some]
  rfl

/-- A contiguous mask is read as it stands. -/
theorem networkMask_contiguous (hc : Contiguous 32 ip) : networkMask s = some ip := by
  rw [networkMask_address h, Option.or_of_isSome (prefixFromIpInt_isSome.2 hc),
    prefixFromIpInt_contiguous hc]

/-- An inverted mask is read as its complement. -/
theorem networkMask_inverted (hi : Inverted 32 ip) :
    networkMask s = some (complement 32 ip) := by
  have hcomplement := (contiguous_complement_iff (ipv4Address_lt h) hi.not_contiguous).2 hi
  rw [networkMask_address h, prefixFromIpInt_eq_none hi.not_contiguous, Option.none_or,
    prefixFromIpInt_contiguous hcomplement]

theorem networkMask_malformed (hcontiguous : ¬ Contiguous 32 ip) (hinverted : ¬ Inverted 32 ip) :
    networkMask s = none := by
  have hcomplement := mt (contiguous_complement_iff (ipv4Address_lt h) hcontiguous).1 hinverted
  rw [networkMask_address h, prefixFromIpInt_eq_none hcontiguous, Option.none_or,
    prefixFromIpInt_eq_none hcomplement]
  rfl

end

theorem networkMask_lt {s : PyStr} {v : ℕ} (h : networkMask s = some v) : v < 2 ^ 32 := by
  obtain ⟨n, hn, rfl⟩ := networkMask_prefix h
  rw [ipIntFromPrefix_eq_netmask n hn]
  exact netmask_lt

theorem addressText_inj {v v' : ℕ} (h : v < 2 ^ 32) (h' : v' < 2 ^ 32) :
    addressText v = addressText v' ↔ v = v' := by
  obtain ⟨q, rfl⟩ := Quad.exists_value h
  obtain ⟨q', rfl⟩ := Quad.exists_value h'
  refine ⟨fun heq => ?_, fun heq => by rw [heq]⟩
  rw [Quad.addressText_value, Quad.addressText_value] at heq
  have hread := q.ipIntFromString_text
  rw [heq, q'.ipIntFromString_text] at hread
  exact (Option.some.inj hread).symm

/-! ## The setter -/

section
variable [PyText] {m : Model}

/-- The write that the setter asks for. -/
def maskWrite (mask : ℕ) : Operation :=
  writeOf (lit "MASKADDR" ++ lit " " ++ addressText mask)
    (verifiedBy (lit "MASKADDR" ++ lit "?") (.str (addressText mask))
      (fun response => (parseSubnetMask response).map .str)
      fun response => (parseSubnetMask_raises response).map.imp fun _ => ProtocolError.readback)

theorem setMaskaddr_accepted {t : PyStr} {mask : ℕ} (hm : m.capabilities.network = true)
    (h : networkMask t = some mask) :
    (SemanticCall.setMaskaddr (.str t)).method m = .ok (maskWrite mask) := by
  have hcheck : requireSubnetMask (.str t) = .ok (addressText mask) := by
    rw [requireSubnetMask, requireAddress, PyArg.asStr]
    simp only [h]
  rw [SemanticCall.method, SPD3000.setMaskaddr, SPD3000.setAddress, require, if_pos hm, hcheck]
  rfl

theorem setMaskaddr_refused {t : PyStr} (hm : m.capabilities.network = true)
    (h : networkMask t = none) : ¬ (SemanticCall.setMaskaddr (.str t)).Accepted m := by
  have hcheck : ∃ e, requireSubnetMask (.str t) = .error e := by
    rw [requireSubnetMask, requireAddress, PyArg.asStr]
    simp only [h]
    exact ⟨_, rfl⟩
  obtain ⟨e, he⟩ := hcheck
  rintro ⟨o, ho⟩
  rw [SemanticCall.method, SPD3000.setMaskaddr, SPD3000.setAddress, require, if_pos hm, he] at ho
  cases ho

/-- What the readback accepts. -/
theorem checkReadback_mask {w : PendingWrite} {v : Verification} {readback : Readback} {mask : ℕ}
    (hmask : mask < 2 ^ 32) (hexpected : v.expected = .str (addressText mask))
    (hparse : readback.parser.parse = fun response => (parseSubnetMask response).map .str)
    (r : Quad) :
    checkReadback w v readback (some r.text) = none ↔ networkMask r.text = some mask := by
  have hresponse : readback.parser.parse r.text = (parseSubnetMask r.text).map .str :=
    congrFun hparse r.text
  rw [parseSubnetMask, parseAddress, r.strip_text] at hresponse
  rw [checkReadback]
  cases h : networkMask r.text with
  | none =>
    rw [h] at hresponse
    simp only [hresponse, Except.map]
    exact iff_of_false (by simp) (by simp)
  | some v' =>
    rw [h] at hresponse
    simp only [hresponse, Except.map, hexpected, pyEq_str, beq_iff_eq,
      addressText_inj (networkMask_lt h) hmask, ite_eq_left_iff, reduceCtorEq, imp_false, not_not,
      Option.some.injEq]

/-! ## The call -/

/-- The call `psu.network.maskaddr = text` on an instrument that answers `response`. -/
def assignMask (m : Model) (text response : PyStr) (d : SPD3000 Script) :
    Except PyExc Returned × SPD3000 Script :=
  (SemanticCall.setMaskaddr (.str text)).call (scripted fun _ => response) m d

theorem outcome_verified {w : PendingWrite} {v : Verification} {readback : Readback}
    (hv : w.verification = some v) (hreadback : v.readback = some readback)
    (own : List (Option PyStr)) : ((PendingOperation.write w).outcome own).isOk ↔
      checkReadback w v readback (own[1]?.getD none) = none := by
  rw [PendingOperation.outcome]
  simp only [hv, hreadback]
  cases checkReadback w v readback (own[1]?.getD none) with
  | none => exact iff_of_true rfl rfl
  | some e => exact iff_of_false Bool.false_ne_true (Option.some_ne_none e)

omit [PyText] in
theorem isOk_map {ε' α β : Type} (f : α → β) (r : Except ε' α) : (r.map f).isOk = r.isOk := by
  cases r <;> rfl

/-- The mask is sent, and the write is verified exactly if the response is read as the mask. -/
theorem assignMask_spec {text : PyStr} {mask : Quad} (hm : m.capabilities.network = true)
    (h : networkMask text = some mask.value) (r : Quad) {d : SPD3000 Script}
    (ha : d.batchActive = false) :
    (∃ rest, (assignMask m text r.text d).2.executor.sent =
      d.executor.sent ++ (false, lit "MASKADDR " ++ mask.text) :: rest) ∧
    (d.shouldVerifyWrites → ((assignMask m text r.text d).1.isOk ↔
      networkMask r.text = some mask.value)) := by
  have hmethod := setMaskaddr_accepted hm h
  have hdocumented := method_documented m (.setMaskaddr (.str text)) _ hmethod
  have hvalid := (hdocumented.pending d.shouldVerifyWrites d.nextDeferred).valid (form_sendable _)
  obtain ⟨d', hcall, hexecutor, -⟩ := call_alone (fun _ => r.text) (maskWrite mask.value) d ha rfl
    hvalid
  have hassign : assignMask m text r.text d = (maskWrite mask.value).call
      (scripted fun _ => r.text) d := by
    rw [assignMask, SemanticCall.call, hmethod]
  have hcommand : lit "MASKADDR" ++ lit " " ++ addressText mask.value =
      lit "MASKADDR " ++ mask.text := by
    rw [mask.addressText_value]
    rfl
  rw [hassign, hcall]
  refine ⟨?_, fun hverify => ?_⟩
  · rw [hexecutor, ← hcommand]
    exact ⟨_, rfl⟩
  · rw [isOk_map, hverify]
    refine (outcome_verified rfl rfl _).trans ?_
    exact checkReadback_mask mask.value_lt rfl rfl r

/-! ## Masks that are kept -/

/-- The setter accepts exactly the contiguous masks, sends them as they stand, and a verified write
    succeeds exactly if the response has the value that was sent. -/
structure MaskKept (m : Model) (s r : Quad) : Prop where
  accepted : (SemanticCall.setMaskaddr (.str s.text)).Accepted m ↔ Contiguous 32 s.value
  sent : (SemanticCall.setMaskaddr (.str s.text)).Accepted m → ∀ d : SPD3000 Script,
    d.batchActive = false → ∃ mask : Quad, mask.value = s.value ∧
      (∃ rest, (assignMask m s.text r.text d).2.executor.sent =
        d.executor.sent ++ (false, lit "MASKADDR " ++ mask.text) :: rest) ∧
      (d.shouldVerifyWrites →
        ((assignMask m s.text r.text d).1.isOk ↔ r.value = mask.value))

omit [PyText] in
/-- The responses that are read as a mask. -/
theorem networkMask_eq_iff {r mask : Quad} (hmask : Contiguous 32 mask.value) :
    networkMask r.text = some mask.value ↔ r.value = mask.value ∨
      Inverted 32 r.value ∧ complement 32 r.value = mask.value := by
  by_cases hcontiguous : Contiguous 32 r.value
  · rw [networkMask_contiguous r.ipv4Address_text hcontiguous, Option.some.injEq]
    exact (or_iff_left fun h => h.1.not_contiguous hcontiguous).symm
  have hne : r.value ≠ mask.value := by
    intro heq
    rw [heq] at hcontiguous
    exact hcontiguous hmask
  by_cases hinverted : Inverted 32 r.value
  · rw [networkMask_inverted r.ipv4Address_text hinverted, Option.some.injEq]
    exact ⟨fun h => .inr ⟨hinverted, h⟩, fun h => (h.resolve_left hne).2⟩
  · rw [networkMask_malformed r.ipv4Address_text hcontiguous hinverted]
    exact iff_of_false (Option.some_ne_none _).symm fun h => h.elim hne fun h => hinverted h.1

omit [PyText] in
theorem Quad.contiguous_of_inverted {r s : Quad} (h : Inverted 32 r.value)
    (heq : complement 32 r.value = s.value) : Contiguous 32 s.value :=
  heq ▸ (contiguous_complement_iff r.value_lt h.not_contiguous).2 h

/-- A contiguous mask is kept unless the response is its inverted form. -/
theorem maskKept_contiguous (hm : m.capabilities.network = true) {s : Quad} (r : Quad)
    (h : Contiguous 32 s.value) :
    MaskKept m s r ↔ ¬ (Inverted 32 r.value ∧ complement 32 r.value = s.value) := by
  have hread := networkMask_contiguous s.ipv4Address_text h
  have haccepted : (SemanticCall.setMaskaddr (.str s.text)).Accepted m :=
    ⟨_, setMaskaddr_accepted hm hread⟩
  constructor
  · rintro hkept ⟨hinverted, hcomplement⟩
    obtain ⟨mask, hvalue, -, hverified⟩ := hkept.sent haccepted (.make ⟨[], 0⟩ true) rfl
    have hspec := (assignMask_spec hm hread r (d := .make ⟨[], 0⟩ true) rfl).2 rfl
    have hequal : r.value = mask.value :=
      (hverified rfl).1 (hspec.2 ((networkMask_eq_iff h).2 (.inr ⟨hinverted, hcomplement⟩)))
    exact hinverted.not_contiguous (by rwa [hequal, hvalue])
  · refine fun hresponse => ⟨iff_of_true haccepted h, fun _ d ha => ⟨s, rfl, ?_⟩⟩
    obtain ⟨hsent, hverified⟩ := assignMask_spec hm hread r ha
    refine ⟨hsent, fun hverify => ?_⟩
    rw [hverified hverify, networkMask_eq_iff h]
    exact or_iff_left hresponse

/-- **Netmasks.**  A mask keeps its value, and its verification is sound, exactly if the mask is not
    inverted and the response is not the inverted form of it. -/
theorem mask_kept (hm : m.capabilities.network = true) (s r : Quad) :
    MaskKept m s r ↔ ¬ Inverted 32 s.value ∧
      ¬ (Inverted 32 r.value ∧ complement 32 r.value = s.value) := by
  by_cases hcontiguous : Contiguous 32 s.value
  · rw [maskKept_contiguous hm r hcontiguous]
    exact (and_iff_right fun h => h.not_contiguous hcontiguous).symm
  by_cases hinverted : Inverted 32 s.value
  · have hread := networkMask_inverted s.ipv4Address_text hinverted
    refine iff_of_false (fun hkept => ?_) fun h => h.1 hinverted
    exact hcontiguous (hkept.accepted.1 ⟨_, setMaskaddr_accepted hm hread⟩)
  · have hrefused := setMaskaddr_refused hm
      (networkMask_malformed s.ipv4Address_text hcontiguous hinverted)
    refine iff_of_true ⟨iff_of_false hrefused hcontiguous, fun h => absurd h hrefused⟩
      ⟨hinverted, fun h => hcontiguous (Quad.contiguous_of_inverted h.1 h.2)⟩

end

/-- The mask 255.255.255.0, and the response of an instrument that has taken it. -/
def classC : Quad := ⟨255, 255, 255, 0⟩

theorem classC_value : classC.value = netmask 32 24 := by decide

theorem classC_kept : @MaskKept PyText.blank .spd3303X classC classC := by
  have hcontiguous : Contiguous 32 classC.value := ⟨24, by decide, classC_value⟩
  exact (@mask_kept PyText.blank .spd3303X rfl classC classC).2
    ⟨fun h => h.not_contiguous hcontiguous, fun h => h.1.not_contiguous hcontiguous⟩

/-- The inverted form 0.0.0.255 of this mask. -/
def classCHosts : Quad := ⟨0, 0, 0, 255⟩

/-- The inverted mask is accepted. -/
theorem classCHosts_not_kept : ¬ @MaskKept PyText.blank .spd3303X classCHosts classCHosts := by
  let _ : PyText := PyText.blank
  have hinverted : Inverted 32 classCHosts.value := ⟨8, by decide, by decide, by decide⟩
  intro hkept
  exact hinverted.not_contiguous (hkept.accepted.1
    ⟨_, setMaskaddr_accepted rfl
      (networkMask_inverted classCHosts.ipv4Address_text hinverted)⟩)

end Spd3000
