/-
  Hash tables that keep the order of insertion.

  An entry has a key; a key may be refused (it has no hash), and an entry whose key
  is taken for that of an entry in the table is merged into it.  `fill` computes the
  entries one by one, and inserts each before it computes the next.  A table has as
  many entries as were inserted only if none was merged (`fill_eq_ok_iff`).
-/
import Mathlib.Data.List.Basic

/-- How a table treats its entries `β`, with keys `κ`. -/
structure HashTable (κ β ε : Type) where
  key : β → κ
  /-- The exception for a key without a hash. -/
  refused : κ → Option ε
  same : κ → κ → Bool
  /-- The entry of the table, and the new one. -/
  merge : β → β → β

namespace HashTable

variable {κ β ε γ : Type} (T : HashTable κ β ε)

def insert (t : List β) (b : β) : Except ε (List β) :=
  match T.refused (T.key b) with
  | some e => .error e
  | none =>
    if t.any fun c => T.same (T.key c) (T.key b) then
      .ok (t.map fun c => if T.same (T.key c) (T.key b) then T.merge c b else c)
    else .ok (t ++ [b])

/-- The entries that `f` computes are inserted. -/
def fill (f : γ → Except ε β) : List β → List γ → Except ε (List β)
  | t, [] => .ok t
  | t, x :: xs => match f x with
    | .error e => .error e
    | .ok b => match T.insert t b with
      | .error e => .error e
      | .ok t => fill f t xs

/-- The key of an entry differs from the keys of a table. -/
def Fresh (t : List β) (b : β) : Prop := ∀ c ∈ t, T.same (T.key c) (T.key b) = false

/-- The entries can be in one table. -/
structure Distinct (bs : List β) : Prop where
  hashable : ∀ b ∈ bs, T.refused (T.key b) = none
  apart : bs.Pairwise fun b c => T.same (T.key b) (T.key c) = false

variable {T} {t r bs : List β} {b : β} {f : γ → Except ε β} {x : γ} {xs : List γ}

theorem insert_fresh (hhash : T.refused (T.key b) = none) (hfresh : T.Fresh t b) :
    T.insert t b = .ok (t ++ [b]) := by
  have hnone : ¬ (t.any fun c => T.same (T.key c) (T.key b)) = true := by
    simpa [Fresh] using hfresh
  rw [insert, hhash]
  dsimp only
  rw [if_neg hnone]

/-- An entry is added behind the others, or it is merged and the table keeps its length. -/
theorem insert_cases (h : T.insert t b = .ok r) :
    (T.refused (T.key b) = none ∧ T.Fresh t b ∧ r = t ++ [b]) ∨ r.length = t.length := by
  unfold insert at h
  cases hhash : T.refused (T.key b) with
  | some e =>
    rw [hhash] at h
    cases h
  | none =>
    rw [hhash] at h
    dsimp only at h
    split_ifs at h with hany
    · cases h
      exact .inr (List.length_map _)
    · cases h
      exact .inl ⟨rfl, by simpa [Fresh] using hany, rfl⟩

theorem fill_cons (h : T.fill f t (x :: xs) = .ok r) :
    ∃ b t', f x = .ok b ∧ T.insert t b = .ok t' ∧ T.fill f t' xs = .ok r := by
  unfold fill at h
  cases hx : f x with
  | error e =>
    rw [hx] at h
    cases h
  | ok b =>
    cases ht : T.insert t b with
    | error e =>
      simp only [hx, ht] at h
      cases h
    | ok t' =>
      simp only [hx, ht] at h
      exact ⟨b, t', rfl, ht, h⟩

theorem length_fill_le (h : T.fill f t xs = .ok r) : r.length ≤ t.length + xs.length := by
  induction xs generalizing t with
  | nil =>
    cases h
    exact Nat.le_refl _
  | cons x xs ih =>
    obtain ⟨b, t', -, hinsert, hfill⟩ := fill_cons h
    have hle := ih hfill
    rw [List.length_cons]
    rcases insert_cases hinsert with ⟨-, -, rfl⟩ | hlength
    · rw [List.length_append, List.length_singleton] at hle
      omega
    · omega

/-- The entries that were computed one by one, when none was merged. -/
theorem fill_apart (h : T.fill f t xs = .ok r) (hlength : r.length = t.length + xs.length) :
    ∃ bs, r = t ++ bs ∧ List.Forall₂ (fun x b => f x = .ok b) xs bs ∧ T.Distinct bs ∧
      ∀ b ∈ bs, T.Fresh t b := by
  induction xs generalizing t with
  | nil =>
    cases h
    exact ⟨[], (List.append_nil _).symm, .nil, ⟨List.forall_mem_nil _, .nil⟩, List.forall_mem_nil _⟩
  | cons x xs ih =>
    obtain ⟨b, t', hx, hinsert, hfill⟩ := fill_cons h
    have hle := length_fill_le hfill
    rw [List.length_cons] at hlength
    rcases insert_cases hinsert with ⟨hhash, hfresh, rfl⟩ | hmerged
    · have hrest : r.length = (t ++ [b]).length + xs.length := by
        rw [List.length_append, List.length_singleton]
        omega
      obtain ⟨bs, rfl, hbs, hdistinct, hapart⟩ := ih hfill hrest
      refine ⟨b :: bs, List.append_assoc .., .cons hx hbs, ⟨?_, ?_⟩, ?_⟩
      · exact List.forall_mem_cons.2 ⟨hhash, hdistinct.hashable⟩
      · exact .cons (fun c hc => hapart c hc b (by simp)) hdistinct.apart
      · refine List.forall_mem_cons.2 ⟨hfresh, fun c hc a ha => hapart c hc a ?_⟩
        exact List.mem_append_left _ ha
    · omega

theorem fill_append (h : List.Forall₂ (fun x b => f x = .ok b) xs bs) (hdistinct : T.Distinct bs)
    (hfresh : ∀ b ∈ bs, T.Fresh t b) : T.fill f t xs = .ok (t ++ bs) := by
  induction h generalizing t with
  | nil => rw [fill, List.append_nil]
  | @cons x b xs bs hx _ ih =>
    obtain ⟨hhash, hrest⟩ := List.forall_mem_cons.1 hdistinct.hashable
    obtain ⟨hb, hapart⟩ := List.pairwise_cons.1 hdistinct.apart
    obtain ⟨hfreshb, hfreshs⟩ := List.forall_mem_cons.1 hfresh
    have hfresh' : ∀ c ∈ bs, T.Fresh (t ++ [b]) c := by
      intro c hc a ha
      rcases List.mem_append.1 ha with ha | ha
      · exact hfreshs c hc a ha
      · rw [List.mem_singleton.1 ha]
        exact hb c hc
    rw [fill, hx]
    dsimp only
    rw [insert_fresh hhash hfreshb]
    dsimp only
    rw [ih ⟨hrest, hapart⟩ hfresh', List.append_assoc, List.singleton_append]

/-- The new table has all entries exactly if they are computed and can be in one table. -/
theorem fill_eq_ok_iff (hlength : bs.length = xs.length) :
    T.fill f [] xs = .ok bs ↔
      List.Forall₂ (fun x b => f x = .ok b) xs bs ∧ T.Distinct bs := by
  constructor
  · intro h
    have hall : bs.length = ([] : List β).length + xs.length := by
      rw [hlength, List.length_nil, Nat.zero_add]
    obtain ⟨bs', hbs, hcomputed, hdistinct, -⟩ := fill_apart h hall
    rw [List.nil_append] at hbs
    rw [hbs]
    exact ⟨hcomputed, hdistinct⟩
  · rintro ⟨hall, hdistinct⟩
    exact fill_append hall hdistinct fun _ _ => List.forall_mem_nil _

end HashTable
