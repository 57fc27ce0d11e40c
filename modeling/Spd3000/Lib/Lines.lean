/-
  Delimited lines in a list: cutting the first line off a buffer and splitting a
  stream into its complete lines.

  `cut` is a reader's search for a delimiter in its buffer, `split` the view of
  a peer that only acts on complete lines, `frames` the stream that sends each
  line followed by the delimiter, and `readlines` a reader that takes one line
  after the other, but at most a limit at once.  `lines` are the lines of a list
  that has ended, and `pieces` what such a reader takes of it: the lines
  themselves, if none exceeds the limit, and otherwise more pieces than there are
  lines.  A reader that refuses a line beyond its limit, and never gets past it,
  returns the `readable` lines.
-/
import Mathlib.Data.List.Basic

namespace Lines

variable {α : Type}

/-! ## Streams of lines -/

/-- The stream of the given lines, each followed by the delimiter. -/
def frames (d : α) (bodies : List (List α)) : List α := bodies.flatMap (· ++ [d])

@[simp] theorem frames_nil (d : α) : frames d [] = [] := rfl

theorem frames_cons (d : α) (b : List α) (bs : List (List α)) :
    frames d (b :: bs) = b ++ d :: frames d bs := by simp [frames]

theorem frames_append (d : α) (bs cs : List (List α)) :
    frames d (bs ++ cs) = frames d bs ++ frames d cs := by simp [frames]

theorem frames_eq_nil {d : α} {bs : List (List α)} : frames d bs = [] ↔ bs = [] := by
  cases bs <;> simp [frames]

/-- Two ways to begin a list with a complete line agree on that line. -/
theorem line_unique {d : α} {b b' r r' : List α} (hb : d ∉ b) (hb' : d ∉ b')
    (h : b ++ d :: r = b' ++ d :: r') : b = b' ∧ r = r' := by
  induction b generalizing b' with
  | nil =>
    cases b' with
    | nil => simpa using h
    | cons y b' =>
      simp only [List.nil_append, List.cons_append, List.cons.injEq] at h
      exact absurd (h.1 ▸ List.mem_cons_self) hb'
  | cons x b ih =>
    cases b' with
    | nil =>
      simp only [List.nil_append, List.cons_append, List.cons.injEq] at h
      exact absurd (h.1 ▸ List.mem_cons_self) hb
    | cons y b' =>
      simp only [List.cons_append, List.cons.injEq] at h
      obtain ⟨rfl, rfl⟩ := ih (fun hm => hb (by simp [hm])) (fun hm => hb' (by simp [hm])) h.2
      exact ⟨by rw [h.1], rfl⟩

/-! ## Readers -/

variable [DecidableEq α] (d : α)

/-- The first line of a list, with its delimiter, and what follows it. -/
def cut : List α → Option (List α × List α)
  | [] => none
  | x :: xs => if x = d then some ([x], xs) else (cut xs).map fun p => (x :: p.1, p.2)

/-- The complete lines of a list, without delimiters, and the unfinished last one. -/
def split : List α → List (List α) × List α
  | [] => ([], [])
  | x :: xs => if x = d then ([] :: (split xs).1, (split xs).2) else
    match (split xs).1 with
    | [] => ([], x :: (split xs).2)
    | l :: ls => ((x :: l) :: ls, (split xs).2)

/-- The results of successive calls `readline(limit)` on a stream that stays open, after some
    elements of the current line have been read. -/
def readlines (limit : ℕ) : List α → List α → List (List α)
  | _, [] => []
  | line, x :: xs =>
    if x = d ∨ line.length + 1 = limit then (line ++ [x]) :: readlines limit [] xs
    else readlines limit (line ++ [x]) xs

/-- A beginning without delimiter is part of the first line. -/
def glue (line : List α) : List (List α) → List (List α)
  | [] => if line = [] then [] else [line]
  | l :: ls => (line ++ l) :: ls

/-- The lines of a list, with their delimiters; the last one may lack it. -/
def lines : List α → List (List α)
  | [] => []
  | x :: xs => if x = d then [x] :: lines xs else glue [x] (lines xs)

/-- The results of successive calls `readline(limit)` on a stream that ends, up to the empty
    one, after some elements of the current line have been read. -/
def pieces (limit : ℕ) : List α → List α → List (List α)
  | line, [] => glue line []
  | line, x :: xs =>
    if x = d ∨ line.length + 1 = limit then (line ++ [x]) :: pieces limit [] xs
    else pieces limit (line ++ [x]) xs

/-- The complete lines of a list, with their delimiters, before the first one that exceeds the
    limit. -/
def readable (limit : ℕ) (xs : List α) : List (List α) :=
  ((split d xs).1.map (· ++ [d])).takeWhile (·.length ≤ limit)

variable {d}

/-- A line that was cut off ends in the only delimiter it holds. -/
theorem cut_eq_some {xs line rest : List α} (h : cut d xs = some (line, rest)) :
    ∃ body, d ∉ body ∧ line = body ++ [d] ∧ xs = line ++ rest := by
  induction xs generalizing line rest with
  | nil => simp [cut] at h
  | cons x xs ih =>
    by_cases hx : x = d
    · simp only [cut, hx, if_true, Option.some.injEq, Prod.mk.injEq] at h
      obtain ⟨rfl, rfl⟩ := h
      exact ⟨[], by simp, rfl, by simp [hx]⟩
    · simp only [cut, hx, if_false, Option.map_eq_some_iff, Prod.mk.injEq] at h
      obtain ⟨⟨l, r⟩, hlr, rfl, rfl⟩ := h
      obtain ⟨body, hb, rfl, rfl⟩ := ih hlr
      exact ⟨x :: body, by simp [hb, Ne.symm hx], rfl, by simp⟩

/-- The first line is split off. -/
theorem split_cons {body : List α} (h : d ∉ body) (rest : List α) :
    split d (body ++ d :: rest) = (body :: (split d rest).1, (split d rest).2) := by
  induction body with
  | nil => simp [split]
  | cons x body ih =>
    have hx : x ≠ d := fun hx => h (by simp [hx])
    have hb := ih fun hm => h (by simp [hm])
    simp [split, hx, hb]

theorem split_line {body : List α} (h : d ∉ body) : split d (body ++ [d]) = ([body], []) :=
  split_cons h []

/-- A line within the limit is read as a whole. -/
theorem readlines_line {limit : ℕ} {body : List α} (hd : d ∉ body) :
    ∀ (line rest : List α), line.length + body.length < limit →
      readlines d limit line (body ++ d :: rest) =
        (line ++ body ++ [d]) :: readlines d limit [] rest := by
  induction body with
  | nil =>
    intro line rest _
    rw [List.nil_append, readlines, if_pos (.inl rfl), List.append_nil]
  | cons x body ih =>
    intro line rest hlimit
    rw [List.mem_cons, not_or] at hd
    rw [List.length_cons] at hlimit
    have hgoOn : ¬ (x = d ∨ line.length + 1 = limit) := by
      rintro (rfl | hfull)
      · exact hd.1 rfl
      · omega
    rw [List.cons_append, readlines, if_neg hgoOn, ih hd.2]
    · simp
    · rw [List.length_append, List.length_singleton]
      omega

/-- A line that is not finished is not read. -/
theorem readlines_unfinished {limit : ℕ} {body : List α} (hd : d ∉ body) :
    ∀ line : List α, line.length + body.length < limit → readlines d limit line body = [] := by
  induction body with
  | nil => exact fun _ _ => rfl
  | cons x body ih =>
    intro line hlimit
    rw [List.mem_cons, not_or] at hd
    rw [List.length_cons] at hlimit
    have hgoOn : ¬ (x = d ∨ line.length + 1 = limit) := by
      rintro (rfl | hfull)
      · exact hd.1 rfl
      · omega
    rw [readlines, if_neg hgoOn]
    refine ih hd.2 _ ?_
    rw [List.length_append, List.length_singleton]
    omega

/-- Lines within the limit are read one after the other. -/
theorem readlines_frames {limit : ℕ} {bodies : List (List α)}
    (h : ∀ b ∈ bodies, d ∉ b ∧ b.length < limit) :
    readlines d limit [] (frames d bodies) = bodies.map (· ++ [d]) := by
  induction bodies with
  | nil => rfl
  | cons b bodies ih =>
    rw [List.forall_mem_cons] at h
    obtain ⟨⟨hd, hlimit⟩, hrest⟩ := h
    rw [frames_cons, readlines_line hd, ih hrest, List.nil_append, List.map_cons]
    rwa [List.length_nil, Nat.zero_add]

/-! ## Bounded reads of a stream that ends -/

omit [DecidableEq α] in
@[simp] theorem glue_nil (ls : List (List α)) : glue [] ls = ls := by
  cases ls <;> simp [glue]

omit [DecidableEq α] in
theorem glue_concat_nil (line : List α) (x : α) : glue (line ++ [x]) [] = [line ++ [x]] :=
  if_neg (List.concat_ne_nil x line)

omit [DecidableEq α] in
theorem glue_glue (line : List α) (x : α) (ls : List (List α)) :
    glue line (glue [x] ls) = glue (line ++ [x]) ls := by
  cases ls <;> simp [glue]

theorem ne_nil_of_mem_lines {xs l : List α} (h : l ∈ lines d xs) : l ≠ [] := by
  induction xs generalizing l with
  | nil => cases h
  | cons x xs ih =>
    rw [lines] at h
    split_ifs at h with hx
    · rcases List.mem_cons.1 h with rfl | h
      · exact List.cons_ne_nil x []
      · exact ih h
    · cases hls : lines d xs with
      | nil =>
        rw [hls, ← List.nil_append [x], glue_concat_nil, List.mem_singleton] at h
        subst h
        exact List.cons_ne_nil x []
      | cons l' ls =>
        rw [hls, glue] at h
        rcases List.mem_cons.1 h with rfl | h
        · exact List.cons_ne_nil x l'
        · exact ih (by rw [hls]; exact List.mem_cons_of_mem _ h)

/-- The reader takes the lines, or one of them exceeds the limit and it takes more pieces. -/
theorem pieces_spec {limit : ℕ} (xs : List α) : ∀ line : List α, line.length < limit →
    ((∀ l ∈ glue line (lines d xs), l.length ≤ limit) ∧
      pieces d limit line xs = glue line (lines d xs)) ∨
    ((∃ l ∈ glue line (lines d xs), limit < l.length) ∧
      (glue line (lines d xs)).length < (pieces d limit line xs).length) := by
  induction xs with
  | nil =>
    intro line hline
    refine .inl ⟨fun l hl => ?_, rfl⟩
    rw [lines, glue] at hl
    split_ifs at hl
    · cases hl
    · rw [List.mem_singleton] at hl
      exact hl ▸ Nat.le_of_lt hline
  | cons x xs ih =>
    intro line hline
    have hlast : (line ++ [x]).length ≤ limit := by
      rw [List.length_append, List.length_singleton]
      exact hline
    by_cases hx : x = d
    · rw [pieces, if_pos (.inl hx), lines, if_pos hx, glue]
      have hnext := ih [] (by rw [List.length_nil]; omega)
      rw [glue_nil] at hnext
      rcases hnext with ⟨hall, heq⟩ | ⟨⟨l, hl, hlong⟩, hmore⟩
      · exact .inl ⟨List.forall_mem_cons.2 ⟨hlast, hall⟩, by rw [heq]⟩
      · exact .inr ⟨⟨l, List.mem_cons_of_mem _ hl, hlong⟩, Nat.succ_lt_succ hmore⟩
    · rw [lines, if_neg hx, glue_glue]
      by_cases hfull : line.length + 1 = limit
      · rw [pieces, if_pos (.inr hfull)]
        have hnext := ih [] (by rw [List.length_nil]; omega)
        rw [glue_nil] at hnext
        cases hls : lines d xs with
        | nil =>
          rw [hls] at hnext
          have hnone : pieces d limit [] xs = [] := by
            rcases hnext with ⟨-, heq⟩ | ⟨⟨l, hl, -⟩, -⟩
            · exact heq
            · cases hl
          refine .inl ⟨fun l hl => ?_, by rw [hnone, glue_concat_nil]⟩
          rw [glue_concat_nil, List.mem_singleton] at hl
          exact hl ▸ hlast
        | cons l ls =>
          rw [hls] at hnext
          have hmem : l ∈ lines d xs := by rw [hls]; simp
          have hne : l ≠ [] := ne_nil_of_mem_lines hmem
          have hcount : (l :: ls).length ≤ (pieces d limit [] xs).length := by
            rcases hnext with ⟨-, heq⟩ | ⟨-, hmore⟩
            · exact Nat.le_of_eq (congrArg List.length heq).symm
            · exact Nat.le_of_lt hmore
          refine .inr ⟨⟨line ++ [x] ++ l, List.mem_cons_self, ?_⟩, Nat.lt_succ_of_le hcount⟩
          have := List.length_pos_iff.2 hne
          rw [List.length_append, List.length_append, List.length_singleton]
          omega
      · have hgoOn : ¬ (x = d ∨ line.length + 1 = limit) := not_or.2 ⟨hx, hfull⟩
        rw [pieces, if_neg hgoOn]
        refine ih (line ++ [x]) ?_
        rw [List.length_append, List.length_singleton]
        omega

/-- Lines within the limit are taken as they are. -/
theorem pieces_eq_lines {limit : ℕ} {xs : List α} (hlimit : 0 < limit)
    (h : ∀ l ∈ lines d xs, l.length ≤ limit) : pieces d limit [] xs = lines d xs := by
  have hspec := pieces_spec (d := d) xs [] hlimit
  rw [glue_nil] at hspec
  rcases hspec with ⟨-, heq⟩ | ⟨⟨l, hl, hlong⟩, -⟩
  · exact heq
  · exact absurd (h l hl) (Nat.not_le_of_lt hlong)

/-- What stands before the first delimiter is on the first line. -/
theorem lines_append {p : List α} (hd : d ∉ p) (rest : List α) :
    lines d (p ++ rest) = glue p (lines d rest) := by
  induction p with
  | nil => rw [List.nil_append, glue_nil]
  | cons x p ih =>
    rw [List.mem_cons, not_or] at hd
    rw [List.cons_append, lines, if_neg (Ne.symm hd.1), ih hd.2]
    cases lines d rest with
    | nil =>
      cases p with
      | nil => rfl
      | cons y p => rfl
    | cons l ls => rfl

/-- The lines of a stream of lines. -/
theorem lines_frames {bodies : List (List α)} (h : ∀ b ∈ bodies, d ∉ b) :
    lines d (frames d bodies) = bodies.map (· ++ [d]) := by
  induction bodies with
  | nil => rfl
  | cons b bodies ih =>
    rw [List.forall_mem_cons] at h
    rw [frames_cons, lines_append h.1, lines, if_pos rfl, glue, ih h.2, List.map_cons]

/-! ## Reads up to a line beyond the limit -/

theorem cut_eq_none {xs : List α} : cut d xs = none ↔ d ∉ xs := by
  induction xs with
  | nil => simp [cut]
  | cons x xs ih =>
    by_cases h : x = d
    · simp [cut, h]
    · simp [cut, h, ih, Ne.symm h]

theorem split_unfinished {xs : List α} (h : d ∉ xs) : (split d xs).1 = [] := by
  induction xs with
  | nil => rfl
  | cons x xs ih =>
    rw [List.mem_cons, not_or] at h
    simp [split, Ne.symm h.1, ih h.2]

/-- A line within the limit is readable, and then the lines after it. -/
theorem readable_line {limit : ℕ} {body : List α} (hd : d ∉ body) (hlimit : body.length < limit)
    (rest : List α) :
    readable d limit (body ++ d :: rest) = (body ++ [d]) :: readable d limit rest := by
  have hlength : decide ((body ++ [d]).length ≤ limit) = true := by
    rw [decide_eq_true_eq, List.length_append, List.length_singleton]
    exact hlimit
  rw [readable, split_cons hd, List.map_cons, List.takeWhile_cons, hlength]
  rfl

/-- Nothing is readable where the first line goes on beyond the limit. -/
theorem readable_overlong {limit : ℕ} {xs : List α} (h : d ∉ xs.take limit) :
    readable d limit xs = [] := by
  by_cases hd : d ∈ xs
  · obtain ⟨body, rest, rfl, hbody⟩ := List.eq_append_cons_of_mem hd
    have hlong : decide ((body ++ [d]).length ≤ limit) = false := by
      rw [decide_eq_false_iff_not]
      intro hshort
      have hinitial : body ++ [d] <+: (body ++ d :: rest).take limit :=
        List.prefix_take_iff.2 ⟨⟨rest, List.append_assoc ..⟩, hshort⟩
      exact h (hinitial.subset (by simp))
    rw [readable, split_cons hbody, List.map_cons, List.takeWhile_cons, hlong]
    rfl
  · rw [readable, split_unfinished hd]
    rfl

end Lines
