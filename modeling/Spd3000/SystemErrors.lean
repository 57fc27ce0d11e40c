/-
  Entries of the error queue (`parse_system_error` of `models.py`).

  `errorMatches` lists the matches of the regular expression in the order in which
  backtracking finds them, and the first one counts.  For an entry in one of the
  two documented forms every stage goes on with its first choice, except for the
  gap in front of a space as separator (`afterCode_space`) and the message, which
  grows until what is behind it can end the text (`shortest_message`).
-/
import Spd3000.Models

namespace Spd3000

open Decimals

/-! ## Forms of an entry -/

/-- The text `str(code)`. -/
def codeText (code : ℤ) : PyStr := (if code < 0 then lit "-" else []) ++ digitsText code.natAbs

/-- The entry `SystemError(code, message)`. -/
def systemError (code : ℤ) (message : PyStr) : PyVal :=
  .obj "SystemError" [("code", .int code), ("message", .str message)]

/-- The code, a comma, and the message in quotes. -/
def quotedEntry (code : ℤ) (message : PyStr) : PyStr :=
  codeText code ++ chr 44 :: chr 34 :: (message ++ [chr 34])

/-- The code, a space and the message. -/
def plainEntry (code : ℤ) (message : PyStr) : PyStr := codeText code ++ chr 32 :: message

/-! ## Choices in order -/

section
variable {α β : Type} {l : List α} {a : α} {f : α → List β} {b : β} {p : α → Bool}

theorem head?_flatMap (hl : l.head? = some a) (hf : (f a).head? = some b) :
    (l.flatMap f).head? = some b := by
  cases l with
  | nil => cases hl
  | cons a' l =>
    cases hl
    rw [List.flatMap_cons, List.head?_append, hf, Option.some_or]

theorem head?_filter (hl : l.head? = some a) (ha : p a = true) :
    (l.filter p).head? = some a := by
  cases l with
  | nil => cases hl
  | cons a' l =>
    cases hl
    rw [List.filter_cons_of_pos ha, List.head?_cons]

end

section
variable {p : CodePoint → Bool} {s t : PyStr} {c : CodePoint}

theorem takes_cons (p : CodePoint → Bool) (c : CodePoint) (s : PyStr) : takes p (c :: s) =
    if p c then (takes p s).map (fun m => (c :: m.1, m.2)) ++ [([], c :: s)] else [([], c :: s)] :=
  rfl

theorem takesOne_cons (p : CodePoint → Bool) (c : CodePoint) (s : PyStr) :
    takesOne p (c :: s) = if p c then [([c], s), ([], c :: s)] else [([], c :: s)] := rfl

/-- Nothing can be taken off a text that starts otherwise. -/
theorem takes_none (h : ∀ c ∈ s.head?, p c = false) : takes p s = [([], s)] := by
  cases s with
  | nil => rfl
  | cons c s => rw [takes_cons, if_neg (by rw [h c rfl]; decide)]

/-- The first choice takes off all characters that it can. -/
theorem takes_greedy (hs : ∀ c ∈ s, p c = true) (ht : ∀ c ∈ t.head?, p c = false) :
    (takes p (s ++ t)).head? = some (s, t) := by
  induction s with
  | nil =>
    rw [List.nil_append, takes_none ht]
    rfl
  | cons c s ih =>
    obtain ⟨hc, hs⟩ := List.forall_mem_cons.1 hs
    rw [List.cons_append, takes_cons, if_pos hc, List.head?_append, List.head?_map, ih hs]
    rfl

/-- The last choice takes nothing off. -/
theorem takes_lazy (s : PyStr) : (takes p s).reverse.head? = some ([], s) := by
  cases s with
  | nil => rfl
  | cons c s =>
    rw [takes_cons]
    split_ifs
    · rw [List.reverse_append]
      rfl
    · rfl

theorem mem_takes {m : PyStr × PyStr} (h : m ∈ takes p s) :
    m.1 ++ m.2 = s ∧ ∀ c ∈ m.1, p c = true := by
  induction s generalizing m with
  | nil =>
    cases List.mem_singleton.1 h
    exact ⟨rfl, List.forall_mem_nil _⟩
  | cons c s ih =>
    rw [takes_cons] at h
    split_ifs at h with hc
    · rcases List.mem_append.1 h with h | h
      · obtain ⟨m', hm', rfl⟩ := List.mem_map.1 h
        obtain ⟨happend, hall⟩ := ih hm'
        exact ⟨congrArg (c :: ·) happend, List.forall_mem_cons.2 ⟨hc, hall⟩⟩
      · cases List.mem_singleton.1 h
        exact ⟨rfl, List.forall_mem_nil _⟩
    · cases List.mem_singleton.1 h
      exact ⟨rfl, List.forall_mem_nil _⟩

theorem takesOne_first (hc : p c = true) : (takesOne p (c :: s)).head? = some ([c], s) := by
  rw [takesOne_cons, if_pos hc]
  rfl

theorem takesOne_none (h : ∀ c ∈ s.head?, p c = false) : takesOne p s = [([], s)] := by
  cases s with
  | nil => rfl
  | cons c s => rw [takesOne_cons, if_neg (by rw [h c rfl]; decide)]

end

/-! ## The end of the text -/

/-- The matches of the last part of the expression: an optional quote, blanks and the end. -/
def endings {β : Type} (text : PyStr) (b : β) : List β :=
  (takesOne (fun c => c.val == 34) text).flatMap fun closing =>
  ((takes isSpace closing.2).filter fun rest => rest.2 = [] ∨ rest.2.map Fin.val = [10]).map
    fun _ => b

section
variable {β : Type} {text message tail : PyStr} {c : CodePoint}

/-- Blanks do not reach the end of a text that ends otherwise. -/
theorem blanks_visible (hlast : text.getLast? = some c) (hc : isSpace c = false) :
    (takes isSpace text).filter (fun rest => rest.2 = [] ∨ rest.2.map Fin.val = [10]) = [] := by
  rw [List.filter_eq_nil_iff]
  intro m hm hend
  obtain ⟨rfl, hblank⟩ := mem_takes hm
  rcases of_decide_eq_true hend with hend | hend
  · rw [hend, List.append_nil] at hlast
    rw [hblank c (List.mem_of_getLast? hlast)] at hc
    cases hc
  · obtain ⟨x, hx, hval⟩ := List.map_eq_singleton_iff.1 hend
    rw [hx, List.getLast?_append, List.getLast?_singleton, Option.some_or, Option.some.injEq] at hlast
    rw [← hlast, isSpace, hval] at hc
    cases hc

/-- A text does not end there if its last character is neither a blank nor the quote. -/
theorem endings_visible (hlast : text.getLast? = some c) (hc : isSpace c = false)
    (hquote : c.val = 34 → 2 ≤ text.length) (b : β) : endings text b = [] := by
  cases text with
  | nil => cases hlast
  | cons x text =>
    have hwhole : ((takes isSpace (x :: text)).filter fun rest =>
        rest.2 = [] ∨ rest.2.map Fin.val = [10]).map (fun _ => b) = [] := by
      rw [blanks_visible hlast hc, List.map_nil]
    rw [endings, takesOne_cons]
    split_ifs with hx
    · have hrest : text.getLast? = some c := by
        cases text with
        | nil =>
          rw [List.getLast?_singleton, Option.some.injEq] at hlast
          rw [← hlast] at hquote
          have hlength := hquote (eq_of_beq hx)
          rw [List.length_singleton] at hlength
          omega
        | cons y text => rwa [List.getLast?_cons_cons] at hlast
      rw [List.flatMap_cons, List.flatMap_singleton, hwhole, blanks_visible hrest hc]
      rfl
    · rw [List.flatMap_singleton, hwhole]

/-- The message is the shortest text behind which the end is found. -/
theorem shortest_message {p : CodePoint → Bool} {f : PyStr → β} (hp : ∀ c ∈ message, p c = true)
    (hshort : ∀ r, r ≠ [] → r <:+ message → ∀ b : β, endings (r ++ tail) b = [])
    (hend : ∀ b : β, (endings tail b).head? = some b) :
    ((takes p (message ++ tail)).reverse.flatMap fun m => endings m.2 (f m.1)).head? =
      some (f message) := by
  induction message generalizing f with
  | nil => exact head?_flatMap (takes_lazy tail) (hend _)
  | cons c message ih =>
    obtain ⟨hc, hp⟩ := List.forall_mem_cons.1 hp
    have hlater : ∀ r, r ≠ [] → r <:+ message → ∀ b : β, endings (r ++ tail) b = [] := fun r hr h =>
      hshort r hr (h.trans (List.suffix_cons c message))
    have hfirst := hshort (c :: message) (List.cons_ne_nil c message) List.suffix_rfl (f [])
    rw [List.cons_append] at hfirst
    rw [List.cons_append, takes_cons, if_pos hc, List.reverse_append, List.reverse_singleton,
      List.singleton_append, List.flatMap_cons, hfirst, List.nil_append, ← List.map_reverse,
      List.flatMap_map]
    exact @ih (fun m => f (c :: m)) hp hlater

end

/-! ## Behind the code -/

/-- The matches of the expression behind the code; `f` makes a match of a message. -/
def afterCode {β : Type} (text : PyStr) (f : PyStr → β) : List β :=
  (takes isSpace text).flatMap fun gap =>
  ((takesOne (fun c => c.val == 44 || c.val == 32) gap.2).filter (·.1 ≠ [])).flatMap fun separator =>
  (takes isSpace separator.2).flatMap fun blank =>
  (takesOne (fun c => c.val == 34) blank.2).flatMap fun opening =>
  (takes (fun c => c.val != 10) opening.2).reverse.flatMap fun message =>
  endings message.2 (f message.1)

section
variable {β : Type} {message : PyStr} (f : PyStr → β)

theorem afterCode_quoted (hlf : ∀ c ∈ message, c.val ≠ 10) :
    (afterCode (chr 44 :: chr 34 :: (message ++ [chr 34])) f).head? = some (f message) := by
  have hgap : takes isSpace (chr 44 :: chr 34 :: (message ++ [chr 34])) =
      [([], chr 44 :: chr 34 :: (message ++ [chr 34]))] := takes_none (by rintro c ⟨⟩; rfl)
  have hblank : takes isSpace (chr 34 :: (message ++ [chr 34])) =
      [([], chr 34 :: (message ++ [chr 34]))] := takes_none (by rintro c ⟨⟩; rfl)
  rw [afterCode, hgap, List.flatMap_singleton]
  refine head?_flatMap (head?_filter (takesOne_first rfl) (decide_eq_true (List.cons_ne_nil _ _))) ?_
  rw [hblank, List.flatMap_singleton]
  refine head?_flatMap (takesOne_first rfl) ?_
  refine shortest_message (fun c hc => bne_iff_ne.2 (hlf c hc)) (fun r hr _ b => ?_) fun b => rfl
  -- The closing quote is not reached before the whole message is taken.
  refine endings_visible List.getLast?_concat rfl (fun _ => ?_) b
  rw [List.length_append, List.length_singleton]
  exact Nat.succ_le_succ (List.length_pos_of_ne_nil hr)

theorem afterCode_plain (hlf : ∀ c ∈ message, c.val ≠ 10)
    (hhead : ∀ c ∈ message.head?, isSpace c = false ∧ c.val ≠ 44 ∧ c.val ≠ 34)
    (hlast : ∀ c ∈ message.getLast?, isSpace c = false ∧ c.val ≠ 34) :
    (afterCode (chr 32 :: message) f).head? = some (f message) := by
  have hspace : ∀ c ∈ message.head?, isSpace c = false := fun c hc => (hhead c hc).1
  have hgap : takes isSpace (chr 32 :: message) =
      [([chr 32], message), ([], chr 32 :: message)] := by
    have hblank : isSpace (chr 32) = true := rfl
    rw [takes_cons, if_pos hblank, takes_none hspace]
    rfl
  have hseparator : takesOne (fun c => c.val == 44 || c.val == 32) message = [([], message)] := by
    refine takesOne_none fun c hc => ?_
    obtain ⟨hblank, hcomma, -⟩ := hhead c hc
    rw [Bool.or_eq_false_iff, beq_eq_false_iff_ne, beq_eq_false_iff_ne]
    refine ⟨hcomma, fun hval => ?_⟩
    rw [isSpace, hval] at hblank
    cases hblank
  -- With the space as a gap there is no separator.
  rw [afterCode, hgap, List.flatMap_cons, hseparator, List.flatMap_singleton]
  refine head?_flatMap (head?_filter (takesOne_first rfl) (decide_eq_true (List.cons_ne_nil _ _))) ?_
  rw [takes_none hspace, List.flatMap_singleton,
    takesOne_none fun c hc => beq_eq_false_iff_ne.2 (hhead c hc).2.2, List.flatMap_singleton]
  have hshort : ∀ r, r ≠ [] → r <:+ message → ∀ b : β, endings (r ++ []) b = [] := by
    intro r hr hsuffix b
    obtain ⟨before, rfl⟩ := hsuffix
    have hc := List.getLast?_eq_some_getLast hr
    rw [List.getLast?_append, hc, Option.some_or] at hlast
    obtain ⟨hblank, hquote⟩ := hlast _ rfl
    rw [List.append_nil]
    exact endings_visible hc hblank (fun hval => absurd hval hquote) b
  have hmessage := @shortest_message β message [] _ f (fun c hc => bne_iff_ne.2 (hlf c hc)) hshort
    fun b => rfl
  rwa [List.append_nil] at hmessage

end

/-! ## The code -/

theorem isSpace_digit {c : CodePoint} (h : 48 ≤ c.val ∧ c.val ≤ 57) : isSpace c = false := by
  simp only [isSpace, Bool.or_eq_false_iff, Bool.and_eq_false_iff, decide_eq_false_iff_not,
    beq_eq_false_iff_ne]
  omega

section
variable {code : ℤ} {rest message : PyStr}

/-- The sign is taken off the text of a code. -/
theorem codeText_sign (code : ℤ) (rest : PyStr) : ∃ sign,
    codeText code = sign ++ digitsText code.natAbs ∧
    (∀ c ∈ (codeText code ++ rest).head?, isSpace c = false) ∧
    (takesOne (fun c => c.val == 43 || c.val == 45) (codeText code ++ rest)).head? =
      some (sign, digitsText code.natAbs ++ rest) := by
  refine ⟨_, rfl, ?_⟩
  rw [codeText]
  split_ifs
  · exact ⟨by rintro c ⟨⟩; rfl, takesOne_first rfl⟩
  · obtain ⟨d, ds, hds⟩ := List.exists_cons_of_ne_nil (digitsText_ne_nil code.natAbs)
    have hd : 48 ≤ d.val ∧ d.val ≤ 57 := digitsText_digit (hds ▸ List.mem_cons_self)
    rw [hds]
    refine ⟨?_, ?_⟩
    · rintro c ⟨⟩
      exact isSpace_digit hd
    · rw [takesOne_none]
      · rfl
      · rintro c ⟨⟩
        rw [Bool.or_eq_false_iff, beq_eq_false_iff_ne, beq_eq_false_iff_ne]
        omega

theorem errorMatches_head (hrest : ∀ c ∈ rest.head?, digitValue c = none)
    (hmatch : (afterCode rest (codeText code, ·)).head? = some (codeText code, message)) :
    (errorMatches (codeText code ++ rest)).head? = some (codeText code, message) := by
  obtain ⟨sign, hcode, hblank, hsign⟩ := codeText_sign code rest
  have hdigits : ∀ c ∈ digitsText code.natAbs, (digitValue c).isSome = true := by
    intro c hc
    rw [digitValue, if_pos (digitsText_digit hc)]
    rfl
  have hgreedy := @takes_greedy (fun c => (digitValue c).isSome) _ _ hdigits fun c hc => by
    rw [hrest c hc]
    rfl
  have hsome : decide (digitsText code.natAbs ≠ []) = true :=
    decide_eq_true (digitsText_ne_nil code.natAbs)
  unfold errorMatches
  dsimp only
  rw [takes_none hblank, List.flatMap_singleton]
  refine head?_flatMap hsign (head?_flatMap (head?_filter hgreedy hsome) ?_)
  rw [hcode] at hmatch
  rw [hcode]
  exact hmatch

end

/-! ## Parsing -/

/-- The text of a code is read back. -/
theorem intOfDigits_codeText {code : ℤ} (hsize : (digitsText code.natAbs).length ≤ maxStrDigits) :
    intOfDigits (codeText code) = .ok code := by
  have hsign : takeSign (codeText code) = (decide (code < 0), digitsText code.natAbs) := by
    rw [codeText]
    by_cases hneg : code < 0
    · rw [if_pos hneg, decide_eq_true hneg]
      rfl
    · obtain ⟨d, ds, hds⟩ := List.exists_cons_of_ne_nil (digitsText_ne_nil code.natAbs)
      have hd : 48 ≤ d.val ∧ d.val ≤ 57 := digitsText_digit (hds ▸ List.mem_cons_self)
      rw [if_neg hneg, decide_eq_false hneg, List.nil_append, hds, takeSign, if_neg (by omega),
        if_neg (by omega)]
  have hdigits : (digitsText code.natAbs).map (fun c => (digitValue c).getD 0) =
      digits code.natAbs := by
    rw [digitsText, List.map_map]
    refine (List.map_congr_left fun d hd => ?_).trans (List.map_id _)
    rw [Function.comp_apply, digitValue_digitChar (digits_lt hd)]
    rfl
  have hshort : ¬ maxStrDigits < (digits code.natAbs).length := by
    rw [← hdigits, List.length_map]
    exact Nat.not_lt.2 hsize
  rw [intOfDigits, hsign]
  dsimp only
  rw [hdigits, if_neg hshort, ofPlaces_digits]
  by_cases hneg : code < 0
  · rw [decide_eq_true hneg, if_pos rfl, Int.ofNat_natAbs_of_nonpos hneg.le, neg_neg]
  · rw [decide_eq_false hneg, if_neg (by decide), Int.natAbs_of_nonneg (not_lt.1 hneg)]

section
variable [PyText]

theorem parseSystemError_head {code : ℤ} {response message : PyStr}
    (hmatch : (errorMatches response).head? = some (codeText code, message))
    (hsize : (digitsText code.natAbs).length ≤ maxStrDigits) :
    parseSystemError response = .ok (systemError code message) := by
  unfold parseSystemError
  cases hmatches : errorMatches response with
  | nil =>
    rw [hmatches] at hmatch
    cases hmatch
  | cons m ms =>
    rw [hmatches] at hmatch
    cases hmatch
    dsimp only
    rw [intOfDigits_codeText hsize]
    rfl

/-- **System errors.**  A code and a message are read back from a quoted entry, and from a plain one
    if the message does not start or end with a character that the expression takes for its own. -/
theorem systemErrors_survive (code : ℤ) (message : PyStr)
    (hsize : (digitsText code.natAbs).length ≤ maxStrDigits) (hlf : ∀ c ∈ message, c.val ≠ 10) :
    parseSystemError (quotedEntry code message) = .ok (systemError code message) ∧
    ((∀ c ∈ message.head?, isSpace c = false ∧ c.val ≠ 44 ∧ c.val ≠ 34) →
      (∀ c ∈ message.getLast?, isSpace c = false ∧ c.val ≠ 34) →
      parseSystemError (plainEntry code message) = .ok (systemError code message)) := by
  constructor
  · refine parseSystemError_head (errorMatches_head ?_ (afterCode_quoted _ hlf)) hsize
    rintro c ⟨⟩
    decide
  · intro hhead hlast
    refine parseSystemError_head (errorMatches_head ?_ (afterCode_plain _ hlf hhead hlast)) hsize
    rintro c ⟨⟩
    decide

end

/-- The entry of a wrong command in both forms. -/
theorem commandError_survives :
    @parseSystemError PyText.blank (lit "-100,\"Command error\"") =
      .ok (systemError (-100) "Command error") ∧
    @parseSystemError PyText.blank (lit "-100 Command error") =
      .ok (systemError (-100) "Command error") := by
  have hvisible : (lit "Command error").all (fun c => c.val != 10) = true := by decide
  have hlf : ∀ c ∈ lit "Command error", c.val ≠ 10 := fun c hc =>
    bne_iff_ne.1 (List.all_eq_true.1 hvisible c hc)
  have hforms := @systemErrors_survive PyText.blank (-100) "Command error" (by decide) hlf
  refine ⟨hforms.1, hforms.2 ?_ ?_⟩
  · rintro c ⟨⟩
    decide
  · rintro c ⟨⟩
    decide

end Spd3000
