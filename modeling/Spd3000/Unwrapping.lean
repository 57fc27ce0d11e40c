/-
  The return values of batch functions (`_unwrap_batch_return` and
  `_BatchController.__call__` of `driver.py`).

  A value is built of leaves and deferred results in containers.  Deferred results
  hash by identity and their results by value, and some results have no hash, so
  the members of a set and the keys of a dictionary can be merged or refused when
  they are unwrapped (`unwrapping_faithful`).
-/
import Spd3000.Threads
import Spd3000.Lib.HashTable

namespace Spd3000

/-! ## Values -/

/-- The containers of items; a named tuple has its class. -/
inductive ContainerKind where
  | tuple
  | namedTuple (cls : PyStr)
  | list
  | set
  | frozenset

/-- The values that a batch function returns, with leaves of a type `α`. -/
inductive BatchValue (α : Type) where
  | leaf (x : α)
  | deferred (i : ℕ)
  | items (kind : ContainerKind) (xs : List (BatchValue α))
  | dict (entries : List (BatchValue α × BatchValue α))

/-- Leaves, among them the results of reads. -/
class Leaf (α : Type) where
  ofResult : PyVal → α
  /-- The type that `hash(x)` reports as unhashable. -/
  unhashable : α → Option PyStr
  /-- Two leaves with a hash are one key: `x is y or x == y`. -/
  same : α → α → Bool

namespace ContainerKind

/-- The items are members of a hash table. -/
def IsSet : ContainerKind → Prop
  | set | frozenset => True
  | _ => False

def isTuple : ContainerKind → Bool
  | tuple | namedTuple _ => true
  | _ => false

end ContainerKind

namespace BatchValue

variable {α : Type} [Leaf α]

mutual
/-- The type that `hash(value)` reports as unhashable. -/
def unhashable : BatchValue α → Option PyStr
  | leaf x => Leaf.unhashable x
  | deferred _ => none
  | items .tuple xs => unhashableItem xs
  | items (.namedTuple _) xs => unhashableItem xs
  | items .list _ => some "list"
  | items .set _ => some "set"
  | items .frozenset _ => none
  | dict _ => some "dict"

def unhashableItem : List (BatchValue α) → Option PyStr
  | [] => none
  | x :: xs => match unhashable x with
    | some name => some name
    | none => unhashableItem xs
end

mutual
/-- Two values with a hash are one key.  Tuples are compared item by item, frozen sets as sets,
    deferred results by identity. -/
def same : BatchValue α → BatchValue α → Bool
  | leaf x, leaf y => Leaf.same x y
  | deferred i, deferred j => i == j
  | items .frozenset xs, items .frozenset ys => xs.length == ys.length && isSubset xs ys
  | items kind xs, items kind' ys => kind.isTuple && kind'.isTuple && sameItems xs ys
  | _, _ => false

def sameItems : List (BatchValue α) → List (BatchValue α) → Bool
  | [], [] => true
  | x :: xs, y :: ys => same x y && sameItems xs ys
  | _, _ => false

def isSubset : List (BatchValue α) → List (BatchValue α) → Bool
  | [], _ => true
  | x :: xs, ys => ys.any (fun y => same x y) && isSubset xs ys
end

/-- The exception of `hash(key)`. -/
def hashError (key : BatchValue α) : Option PyExc :=
  key.unhashable.map fun name => .msg .typeError (lit "unhashable type: '" ++ name ++ lit "'")

/-- The members of a set. -/
def members : HashTable (BatchValue α) (BatchValue α) PyExc where
  key x := x
  refused := hashError
  same := same
  merge x _ := x

/-- The entries of a dictionary; an entry keeps its key when it gets a new value. -/
def entries : HashTable (BatchValue α) (BatchValue α × BatchValue α) PyExc where
  key e := e.1
  refused := hashError
  same := same
  merge e e' := (e.1, e'.2)

section
variable [PyText]

mutual
/-- The function `_unwrap_batch_return`. -/
def unwrapBatchReturn (h : Deferreds) : BatchValue α → Except PyExc (BatchValue α)
  | leaf x => .ok (leaf x)
  | deferred i => (h i).getValue.map fun v => leaf (Leaf.ofResult v)
  | items .tuple xs => (unwrapItems h xs).map (items .tuple)
  | items (.namedTuple cls) xs => (unwrapItems h xs).map (items (.namedTuple cls))
  | items .list xs => (unwrapItems h xs).map (items .list)
  | items .set xs => (unwrapMembers h [] xs).map (items .set)
  | items .frozenset xs => (unwrapMembers h [] xs).map (items .frozenset)
  | dict es => (unwrapEntries h [] es).map dict

def unwrapItems (h : Deferreds) : List (BatchValue α) → Except PyExc (List (BatchValue α))
  | [] => .ok []
  | x :: xs => do
    let y ← unwrapBatchReturn h x
    let ys ← unwrapItems h xs
    return y :: ys

/-- The comprehension of a set, from the members so far. -/
def unwrapMembers (h : Deferreds) (done : List (BatchValue α)) :
    List (BatchValue α) → Except PyExc (List (BatchValue α))
  | [] => .ok done
  | x :: xs => do
    let y ← unwrapBatchReturn h x
    let done ← members.insert done y
    unwrapMembers h done xs

/-- The comprehension of a dictionary, from the entries so far. -/
def unwrapEntries (h : Deferreds) (done : List (BatchValue α × BatchValue α)) :
    List (BatchValue α × BatchValue α) → Except PyExc (List (BatchValue α × BatchValue α))
  | [] => .ok done
  | (key, item) :: es => do
    let key ← unwrapBatchReturn h key
    let item ← unwrapBatchReturn h item
    let done ← entries.insert done (key, item)
    unwrapEntries h done es
end

end

/-! ## Faithful results -/

/-- A deferred result occurs in a value. -/
inductive Contains (i : ℕ) : BatchValue α → Prop
  | deferred : Contains i (deferred i)
  | item {kind : ContainerKind} {xs : List (BatchValue α)} {x : BatchValue α} :
      x ∈ xs → Contains i x → Contains i (items kind xs)
  | key {es : List (BatchValue α × BatchValue α)} {x : BatchValue α} :
      x ∈ es.map Prod.fst → Contains i x → Contains i (dict es)
  | value {es : List (BatchValue α × BatchValue α)} {x : BatchValue α} :
      x ∈ es.map Prod.snd → Contains i x → Contains i (dict es)

/-- Python can build the value: members of sets and keys of dictionaries have hashes and differ. -/
inductive Built : BatchValue α → Prop
  | leaf (x : α) : Built (leaf x)
  | deferred (i : ℕ) : Built (deferred i)
  | items {kind : ContainerKind} {xs : List (BatchValue α)} : (∀ x ∈ xs, Built x) →
      (kind.IsSet → members.Distinct xs) → Built (items kind xs)
  | dict {es : List (BatchValue α × BatchValue α)} : (∀ x ∈ es.map Prod.fst, Built x) →
      (∀ x ∈ es.map Prod.snd, Built x) → entries.Distinct es → Built (dict es)

section
variable [PyText] (h : Deferreds)

/-- All deferred results of a value are resolved. -/
def Resolved (v : BatchValue α) : Prop := ∀ i, Contains i v → ∃ x, (h i).getValue = .ok x

/-- The second value has the containers of the first one, with as many items and entries, the result
    in place of each deferred result, and the same leaves. -/
inductive Unwrapped : BatchValue α → BatchValue α → Prop
  | leaf (x : α) : Unwrapped (leaf x) (leaf x)
  | deferred {i : ℕ} {x : PyVal} : (h i).getValue = .ok x →
      Unwrapped (deferred i) (leaf (Leaf.ofResult x))
  | items {kind : ContainerKind} {xs ys : List (BatchValue α)} : List.Forall₂ Unwrapped xs ys →
      Unwrapped (items kind xs) (items kind ys)
  | dict {es es' : List (BatchValue α × BatchValue α)} :
      List.Forall₂ Unwrapped (es.map Prod.fst) (es'.map Prod.fst) →
      List.Forall₂ Unwrapped (es.map Prod.snd) (es'.map Prod.snd) → Unwrapped (dict es) (dict es')

/-- The value is unwrapped faithfully, and no deferred result remains. -/
def Faithful (v : BatchValue α) : Prop :=
  ∃ r, unwrapBatchReturn h v = .ok r ∧ Unwrapped h v r ∧ ∀ i, ¬ Contains i r

mutual
/-- The value with the results in place of the deferred results that are resolved. -/
def withResults : BatchValue α → BatchValue α
  | leaf x => leaf x
  | deferred i => match (h i).getValue with
    | .ok x => leaf (Leaf.ofResult x)
    | .error _ => deferred i
  | items kind xs => items kind (withResultsItems xs)
  | dict es => dict (withResultsEntries es)

def withResultsItems : List (BatchValue α) → List (BatchValue α)
  | [] => []
  | x :: xs => withResults x :: withResultsItems xs

def withResultsEntries : List (BatchValue α × BatchValue α) → List (BatchValue α × BatchValue α)
  | [] => []
  | (key, item) :: es => (withResults key, withResults item) :: withResultsEntries es
end

end

/-! ## Induction over values -/

omit [Leaf α] in
@[elab_as_elim]
theorem induct {motive : BatchValue α → Prop} (leaf : ∀ x, motive (leaf x))
    (deferred : ∀ i, motive (deferred i))
    (items : ∀ kind xs, (∀ x ∈ xs, motive x) → motive (items kind xs))
    (dict : ∀ es, (∀ x ∈ es.map Prod.fst, motive x) → (∀ x ∈ es.map Prod.snd, motive x) →
      motive (dict es)) (v : BatchValue α) : motive v :=
  @BatchValue.rec α motive (fun xs => ∀ x ∈ xs, motive x)
    (fun es => (∀ x ∈ es.map Prod.fst, motive x) ∧ ∀ x ∈ es.map Prod.snd, motive x)
    (fun e => motive e.1 ∧ motive e.2) leaf deferred items (fun es h => dict es h.1 h.2)
    (List.forall_mem_nil _) (fun _ _ hx hxs => List.forall_mem_cons.2 ⟨hx, hxs⟩)
    ⟨List.forall_mem_nil _, List.forall_mem_nil _⟩
    (fun _ _ he hes => ⟨List.forall_mem_cons.2 ⟨he.1, hes.1⟩, List.forall_mem_cons.2 ⟨he.2, hes.2⟩⟩)
    (fun _ _ hkey hitem => ⟨hkey, hitem⟩) v

section
variable [PyText] {h : Deferreds}

theorem withResultsItems_eq (xs : List (BatchValue α)) :
    withResultsItems h xs = xs.map (withResults h) := by
  induction xs with
  | nil => rfl
  | cons x xs ih => rw [withResultsItems, ih, List.map_cons]

theorem withResultsEntries_keys (es : List (BatchValue α × BatchValue α)) :
    (withResultsEntries h es).map Prod.fst = (es.map Prod.fst).map (withResults h) := by
  induction es with
  | nil => rfl
  | cons e es ih => rw [withResultsEntries, List.map_cons, ih, List.map_cons, List.map_cons]

theorem withResultsEntries_values (es : List (BatchValue α × BatchValue α)) :
    (withResultsEntries h es).map Prod.snd = (es.map Prod.snd).map (withResults h) := by
  induction es with
  | nil => rfl
  | cons e es ih => rw [withResultsEntries, List.map_cons, ih, List.map_cons, List.map_cons]

end

/-! ## Item by item -/

section
variable [PyText] {h : Deferreds} {xs ys : List (BatchValue α)}

theorem unwrapItems_eq_ok :
    unwrapItems h xs = .ok ys ↔ List.Forall₂ (fun x y => unwrapBatchReturn h x = .ok y) xs ys := by
  induction xs generalizing ys with
  | nil =>
    rw [unwrapItems, List.forall₂_nil_left_iff, Except.ok.injEq]
    exact eq_comm
  | cons x xs ih =>
    rw [unwrapItems, List.forall₂_cons_left_iff]
    constructor
    · intro hok
      obtain ⟨y, hx, hrest⟩ := bind_eq_ok.1 hok
      obtain ⟨ys', hxs, hys⟩ := bind_eq_ok.1 hrest
      cases hys
      exact ⟨y, ys', hx, ih.1 hxs, rfl⟩
    · rintro ⟨y, ys', hx, hxs, rfl⟩
      rw [hx, ok_bind, ih.2 hxs]
      rfl

theorem unwrapMembers_eq (done : List (BatchValue α)) (xs : List (BatchValue α)) :
    unwrapMembers h done xs = members.fill (unwrapBatchReturn h) done xs := by
  induction xs generalizing done with
  | nil => rfl
  | cons x xs ih =>
    rw [unwrapMembers, HashTable.fill]
    cases unwrapBatchReturn h x with
    | error e => rfl
    | ok y =>
      rw [ok_bind]
      dsimp only
      cases members.insert done y with
      | error e => rfl
      | ok done => exact ih done

/-- An entry of a dictionary. -/
def unwrapEntry (h : Deferreds) (e : BatchValue α × BatchValue α) :
    Except PyExc (BatchValue α × BatchValue α) := do
  let key ← unwrapBatchReturn h e.1
  let item ← unwrapBatchReturn h e.2
  return (key, item)

theorem unwrapEntries_eq (done es : List (BatchValue α × BatchValue α)) :
    unwrapEntries h done es = entries.fill (unwrapEntry h) done es := by
  induction es generalizing done with
  | nil => rfl
  | cons e es ih =>
    rw [unwrapEntries, HashTable.fill, unwrapEntry]
    cases unwrapBatchReturn h e.1 with
    | error e => rfl
    | ok key =>
      rw [ok_bind, ok_bind]
      cases unwrapBatchReturn h e.2 with
      | error e => rfl
      | ok item =>
        rw [ok_bind, ok_bind]
        dsimp only [pure, Except.pure]
        cases entries.insert done (key, item) with
        | error e => rfl
        | ok done => exact ih done

theorem unwrapEntry_eq_ok {e e' : BatchValue α × BatchValue α} : unwrapEntry h e = .ok e' ↔
    unwrapBatchReturn h e.1 = .ok e'.1 ∧ unwrapBatchReturn h e.2 = .ok e'.2 := by
  constructor
  · intro hok
    obtain ⟨key, hkey, hrest⟩ := bind_eq_ok.1 hok
    obtain ⟨item, hitem, he⟩ := bind_eq_ok.1 hrest
    cases he
    exact ⟨hkey, hitem⟩
  · rintro ⟨hkey, hitem⟩
    rw [unwrapEntry, hkey, ok_bind, hitem]
    rfl

end

/-! ## Values with their results -/

section
variable {R : BatchValue α → BatchValue α → Prop} {xs ys : List (BatchValue α)}

omit [Leaf α] in
theorem forall₂_eq_map {f : BatchValue α → BatchValue α} (h : List.Forall₂ R xs ys)
    (hR : ∀ x ∈ xs, ∀ y, R x y → y = f x) : ys = xs.map f := by
  induction h with
  | nil => rfl
  | cons hxy _ ih =>
    obtain ⟨hx, hxs⟩ := List.forall_mem_cons.1 hR
    rw [hx _ hxy, ih hxs, List.map_cons]

omit [Leaf α] in
theorem forall₂_congr {P : BatchValue α → BatchValue α → Prop} {Q : BatchValue α → Prop}
    (h : List.Forall₂ R xs ys) (hR : ∀ x ∈ xs, ∀ y, R x y → (P x y ↔ Q y)) :
    List.Forall₂ P xs ys ↔ ∀ y ∈ ys, Q y := by
  induction h with
  | nil => exact iff_of_true .nil (List.forall_mem_nil _)
  | cons hxy _ ih =>
    obtain ⟨hx, hxs⟩ := List.forall_mem_cons.1 hR
    rw [List.forall₂_cons, List.forall_mem_cons, hx _ hxy, ih hxs]

omit [Leaf α] in
theorem forall₂_entries {es es' : List (BatchValue α × BatchValue α)} :
    List.Forall₂ (fun e e' => R e.1 e'.1 ∧ R e.2 e'.2) es es' ↔
      List.Forall₂ R (es.map Prod.fst) (es'.map Prod.fst) ∧
        List.Forall₂ R (es.map Prod.snd) (es'.map Prod.snd) := by
  rw [List.forall₂_map_left_iff, List.forall₂_map_right_iff, List.forall₂_map_left_iff,
    List.forall₂_map_right_iff]
  constructor
  · intro h
    exact ⟨h.imp fun _ _ he => he.1, h.imp fun _ _ he => he.2⟩
  · rintro ⟨hkeys, hvalues⟩
    induction hkeys with
    | nil => exact .nil
    | cons hkey _ ih =>
      obtain ⟨hvalue, hvalues⟩ := List.forall₂_cons.1 hvalues
      exact .cons ⟨hkey, hvalue⟩ (ih hvalues)

end

section
variable [PyText] {h : Deferreds}

/-- A value is unwrapped to one value only. -/
theorem Unwrapped.unique {v r : BatchValue α} (hr : Unwrapped h v r) : r = withResults h v := by
  induction v using induct generalizing r with
  | leaf x =>
    cases hr
    rfl
  | deferred i =>
    cases hr with
    | deferred hx => rw [withResults, hx]
  | items kind xs ih =>
    cases hr with
    | items hxs => rw [withResults, withResultsItems_eq, forall₂_eq_map hxs fun x hx _ => ih x hx]
  | dict es ihKeys ihValues =>
    cases hr with
    | @dict _ es' hkeys hvalues =>
      have hfst := forall₂_eq_map hkeys fun x hx _ => ihKeys x hx
      have hsnd := forall₂_eq_map hvalues fun x hx _ => ihValues x hx
      rw [← withResultsEntries_keys] at hfst
      rw [← withResultsEntries_values] at hsnd
      have heq := (List.zip_of_prod hfst hsnd).trans (List.zip_of_prod rfl rfl).symm
      rw [withResults, heq]

/-- The value with its results unwraps the value. -/
theorem Resolved.unwrapped {v : BatchValue α} (hv : Resolved h v) :
    Unwrapped h v (withResults h v) := by
  induction v using induct with
  | leaf x => exact .leaf x
  | deferred i =>
    obtain ⟨x, hx⟩ := hv i .deferred
    rw [withResults, hx]
    exact .deferred hx
  | items kind xs ih =>
    rw [withResults, withResultsItems_eq]
    refine .items (List.forall₂_map_right_iff.2 (List.forall₂_same.2 fun x hx => ih x hx ?_))
    exact fun i hi => hv i (.item hx hi)
  | dict es ihKeys ihValues =>
    rw [withResults]
    refine .dict ?_ ?_
    · rw [withResultsEntries_keys]
      refine List.forall₂_map_right_iff.2 (List.forall₂_same.2 fun x hx => ihKeys x hx ?_)
      exact fun i hi => hv i (.key hx hi)
    · rw [withResultsEntries_values]
      refine List.forall₂_map_right_iff.2 (List.forall₂_same.2 fun x hx => ihValues x hx ?_)
      exact fun i hi => hv i (.value hx hi)

theorem Unwrapped.not_contains {v r : BatchValue α} (hr : Unwrapped h v r) (i : ℕ) :
    ¬ Contains i r := by
  have hitems : ∀ {xs ys : List (BatchValue α)}, List.Forall₂ (Unwrapped h) xs ys →
      (∀ x ∈ xs, ∀ {r : BatchValue α}, Unwrapped h x r → ¬ Contains i r) →
      ∀ y ∈ ys, ¬ Contains i y := by
    intro xs ys hxs ih
    refine (forall₂_congr hxs fun x hx y hy => ?_).1 hxs
    exact iff_of_true hy (ih x hx hy)
  induction v using induct generalizing r with
  | leaf x =>
    cases hr
    rintro ⟨⟩
  | deferred j =>
    cases hr
    rintro ⟨⟩
  | items kind xs ih =>
    cases hr with
    | items hxs =>
      intro hcontains
      cases hcontains with
      | item hy hi => exact hitems hxs ih _ hy hi
  | dict es ihKeys ihValues =>
    cases hr with
    | dict hkeys hvalues =>
      intro hcontains
      cases hcontains with
      | key hy hi => exact hitems hkeys ihKeys _ hy hi
      | value hy hi => exact hitems hvalues ihValues _ hy hi

omit [PyText] in
theorem built_items {kind : ContainerKind} {xs : List (BatchValue α)} :
    Built (items kind xs) ↔ (∀ x ∈ xs, Built x) ∧ (kind.IsSet → members.Distinct xs) := by
  constructor
  · intro hbuilt
    cases hbuilt with
    | items hxs hset => exact ⟨hxs, hset⟩
  · exact fun hbuilt => .items hbuilt.1 hbuilt.2

omit [PyText] in
theorem built_dict {es : List (BatchValue α × BatchValue α)} :
    Built (dict es) ↔ ((∀ x ∈ es.map Prod.fst, Built x) ∧ ∀ x ∈ es.map Prod.snd, Built x) ∧
      entries.Distinct es := by
  constructor
  · intro hbuilt
    cases hbuilt with
    | dict hkeys hvalues hdistinct => exact ⟨⟨hkeys, hvalues⟩, hdistinct⟩
  · exact fun hbuilt => .dict hbuilt.1.1 hbuilt.1.2 hbuilt.2

omit [Leaf α] [PyText] in
theorem map_eq_ok {β : Type} {f : β → BatchValue α} (hf : Function.Injective f)
    {r : Except PyExc β} {y : β} : r.map f = .ok (f y) ↔ r = .ok y := by
  cases r with
  | error e =>
    constructor
    · rintro ⟨⟩
    · rintro ⟨⟩
  | ok x => simp only [Except.map, Except.ok.injEq, hf.eq_iff]

omit [Leaf α] [PyText] in
theorem items_injective (kind : ContainerKind) :
    Function.Injective (items kind : List (BatchValue α) → BatchValue α) := by
  rintro xs ys ⟨⟩
  rfl

omit [Leaf α] [PyText] in
theorem dict_injective :
    Function.Injective (dict : List (BatchValue α × BatchValue α) → BatchValue α) := by
  rintro es es' ⟨⟩
  rfl

/-- A list or tuple, if each of its items is unwrapped if it can be built. -/
theorem unwrapSequence {kind : ContainerKind} {xs ys : List (BatchValue α)}
    (hxs : List.Forall₂ (Unwrapped h) xs ys) (hkind : ¬ kind.IsSet)
    (ih : ∀ x ∈ xs, ∀ y, Unwrapped h x y → (unwrapBatchReturn h x = .ok y ↔ Built y)) :
    (unwrapItems h xs).map (items kind) = .ok (items kind ys) ↔ Built (items kind ys) := by
  rw [map_eq_ok (items_injective kind), unwrapItems_eq_ok, forall₂_congr hxs ih, built_items]
  exact ⟨fun hys => ⟨hys, fun hset => absurd hset hkind⟩, fun hbuilt => hbuilt.1⟩

/-- A set, if each of its members is unwrapped if it can be built. -/
theorem unwrapSet {kind : ContainerKind} {xs ys : List (BatchValue α)}
    (hxs : List.Forall₂ (Unwrapped h) xs ys) (hkind : kind.IsSet)
    (ih : ∀ x ∈ xs, ∀ y, Unwrapped h x y → (unwrapBatchReturn h x = .ok y ↔ Built y)) :
    (unwrapMembers h [] xs).map (items kind) = .ok (items kind ys) ↔ Built (items kind ys) := by
  rw [map_eq_ok (items_injective kind), unwrapMembers_eq,
    HashTable.fill_eq_ok_iff hxs.length_eq.symm, forall₂_congr hxs ih, built_items]
  exact and_congr_right fun _ => ⟨fun hdistinct _ => hdistinct, fun hset => hset hkind⟩

/-- A value is unwrapped if, with its results, it can be built. -/
theorem Unwrapped.eq_ok_iff {v r : BatchValue α} (hr : Unwrapped h v r) :
    unwrapBatchReturn h v = .ok r ↔ Built r := by
  induction v using induct generalizing r with
  | leaf x =>
    cases hr
    exact iff_of_true rfl (.leaf x)
  | deferred i =>
    cases hr with
    | deferred hx =>
      rw [unwrapBatchReturn, hx]
      exact iff_of_true rfl (.leaf _)
  | items kind xs ih =>
    cases hr with
    | items hxs =>
      have hitems := fun x hx y (hy : Unwrapped h x y) => ih x hx hy
      cases kind with
      | tuple => exact unwrapSequence hxs not_false hitems
      | namedTuple cls => exact unwrapSequence hxs not_false hitems
      | list => exact unwrapSequence hxs not_false hitems
      | set => exact unwrapSet hxs trivial hitems
      | frozenset => exact unwrapSet hxs trivial hitems
  | dict es ihKeys ihValues =>
    cases hr with
    | @dict _ es' hkeys hvalues =>
      have hlength : es'.length = es.length := by simpa using hkeys.length_eq.symm
      have hentry : List.Forall₂ (fun e e' => unwrapEntry h e = .ok e') es es' ↔
          (∀ x ∈ es'.map Prod.fst, Built x) ∧ ∀ x ∈ es'.map Prod.snd, Built x := by
        simp only [unwrapEntry_eq_ok]
        rw [forall₂_entries (R := fun x y => unwrapBatchReturn h x = .ok y)]
        exact and_congr (forall₂_congr hkeys fun x hx y => ihKeys x hx)
          (forall₂_congr hvalues fun x hx y => ihValues x hx)
      rw [unwrapBatchReturn, map_eq_ok dict_injective, unwrapEntries_eq,
        HashTable.fill_eq_ok_iff hlength, hentry, built_dict]

/-- **Batch functions.**  What a batch function returns is unwrapped faithfully exactly if the value
    with the results in place of the deferred results can be built: in its sets and among the keys of
    its dictionaries everything has a hash, and no two are equal. -/
theorem unwrapping_faithful (v : BatchValue α) (hv : Resolved h v) :
    Faithful h v ↔ Built (withResults h v) := by
  constructor
  · rintro ⟨r, hok, hr, -⟩
    rw [← hr.unique]
    exact hr.eq_ok_iff.1 hok
  · intro hbuilt
    have hr := hv.unwrapped
    exact ⟨_, hr.eq_ok_iff.2 hbuilt, hr, hr.not_contains⟩

end

/-! ## Decorated functions -/

section
variable [PyText] {ε : Type} (E : Executor ε)

/-- The function `wrapped` of `_BatchController.__call__`. -/
def wrapped (function : SPD3000 ε → Except PyExc (BatchValue α) × SPD3000 ε) (d : SPD3000 ε) :
    Except PyExc (BatchValue α) × SPD3000 ε :=
  match d.batchScope E function with
  | (.error e, d) => (.error e, d)
  | (.ok returned, d) => (unwrapBatchReturn d.deferreds returned, d)

variable {E} {d d' : SPD3000 ε}

theorem extend_resolves {list : ℕ} {ids : List ℕ} (hok : d.extend list ids = (.ok (), d')) :
    ∀ i ∈ ids, ∃ x, (d'.deferreds i).getValue = .ok x := by
  have hkept : ∀ {ids} {d d' : SPD3000 ε}, d.extend list ids = (.ok (), d') →
      d'.deferreds = d.deferreds ∧ ∀ i ∈ ids, ∃ x, (d.deferreds i).getValue = .ok x := by
    intro ids
    induction ids with
    | nil =>
      rintro d d' ⟨⟩
      exact ⟨rfl, List.forall_mem_nil _⟩
    | cons i ids ih =>
      intro d d' hok
      rw [SPD3000.extend] at hok
      cases hx : (d.deferreds i).getValue with
      | error e =>
        rw [hx] at hok
        cases hok
      | ok x =>
        rw [hx] at hok
        obtain ⟨hsame, hids⟩ := ih hok
        exact ⟨hsame, List.forall_mem_cons.2 ⟨⟨x, hx⟩, hids⟩⟩
  obtain ⟨hsame, hids⟩ := hkept hok
  rw [hsame]
  exact hids

/-- A scope that ends normally has resolved the deferred results it collected. -/
theorem endBatch_resolves {list : ℕ} (hlist : d.batchResponses = some list)
    (hok : d.endBatch E true = (.ok (), d')) :
    ∀ i ∈ d.batchResponseDeferreds, ∃ x, (d'.deferreds i).getValue = .ok x := by
  rw [SPD3000.endBatch_eq, SPD3000.finishBatch, if_neg (by decide), hlist] at hok
  generalize (if d.pendingOperations.isEmpty then (Except.ok (), d.takeBatch)
    else d.takeBatch.executeOperations E d.pendingOperations) = sent at hok
  obtain ⟨r, inside⟩ := sent
  cases r with
  | error e => cases hok
  | ok u =>
    dsimp only at hok
    generalize hextend : inside.extend list d.batchResponseDeferreds = extended at hok
    obtain ⟨r, last⟩ := extended
    cases hok
    exact fun i hi => extend_resolves hextend i hi

/-- A decorated function unwraps what the function returns, after the scope has ended.  If it
    contains only deferred results that the scope collected, they are resolved. -/
theorem wrapped_returns {function : SPD3000 ε → Except PyExc (BatchValue α) × SPD3000 ε}
    {v : BatchValue α} (hscope : d.batchScope E function = (.ok v, d')) :
    wrapped E function d = (unwrapBatchReturn d'.deferreds v, d') ∧
      ∃ entered inside, function entered = (.ok v, inside) ∧
        (inside.batchResponses.isSome → (∀ i, Contains i v → i ∈ inside.batchResponseDeferreds) →
          Resolved d'.deferreds v) := by
  refine ⟨by rw [wrapped, hscope], ?_⟩
  rw [SPD3000.batchScope] at hscope
  generalize d.newList = created at hscope
  obtain ⟨list, begun⟩ := created
  dsimp only at hscope
  generalize begun.beginBatch list = opened at hscope
  obtain ⟨r, entered⟩ := opened
  cases r with
  | error e => cases hscope
  | ok u =>
    dsimp only at hscope
    generalize hfunction : function entered = returned at hscope
    obtain ⟨r, inside⟩ := returned
    dsimp only at hscope
    generalize hend : inside.endBatch E r.isOk = ended at hscope
    obtain ⟨r', last⟩ := ended
    cases r' with
    | error e => cases hscope
    | ok u =>
      cases hscope
      refine ⟨entered, inside, hfunction, fun hlist hown i hi => ?_⟩
      obtain ⟨list, hlist⟩ := Option.isSome_iff_exists.1 hlist
      exact endBatch_resolves hlist hend i (hown i hi)

end

/-! ## Results of the driver's reads -/

mutual
/-- The type that `hash(v)` reports as unhashable; a frozen dataclass hashes its fields. -/
def resultUnhashable : PyVal → Option PyStr
  | .list _ => some "list"
  | .dict _ => some "dict"
  | .obj _ fields => fieldUnhashable fields
  | _ => none

def fieldUnhashable : PyDict → Option PyStr
  | [] => none
  | (_, v) :: fields => match resultUnhashable v with
    | some name => some name
    | none => fieldUnhashable fields
end

instance : Leaf PyVal where
  ofResult v := v
  unhashable := resultUnhashable
  same := pyEq

/-- A deferred result with its value. -/
def resolvedTo (command : PyStr) (v : PyVal) : Deferred := (Deferred.pending command).resolve v

/-- A voltage, a current, the state of an output and a raw response. -/
def mixedResults : Deferreds
  | 0 => resolvedTo "CH1:VOLT?" (.float (.finite 5))
  | 1 => resolvedTo "MEAS:CURR? CH1" (.float (.finite (1 / 8)))
  | 2 => resolvedTo "SYST:STAT?" (.bool true)
  | _ => resolvedTo "SYST:STAT?" (.str "0x10")

/-- The value `{"voltage": voltage, "nested": [current, (output, raw)]}`. -/
def mixedValue : BatchValue PyVal :=
  dict [(leaf (.str "voltage"), deferred 0),
    (leaf (.str "nested"), items .list [deferred 1, items .tuple [deferred 2, deferred 3]])]

theorem mixed_unwrapped : @Faithful PyVal _ PyText.blank mixedResults mixedValue := by
  let _ : PyText := PyText.blank
  have hresolved : Resolved mixedResults mixedValue := by
    intro i _
    match i with
    | 0 => exact ⟨_, rfl⟩
    | 1 => exact ⟨_, rfl⟩
    | 2 => exact ⟨_, rfl⟩
    | _ + 3 => exact ⟨_, rfl⟩
  refine (unwrapping_faithful mixedValue hresolved).2 ?_
  have hnil : ∀ x ∈ ([] : List (BatchValue PyVal)), Built x := List.forall_mem_nil _
  have hpair : ∀ x y : PyVal, ∀ z ∈ [leaf x, leaf y], Built z := fun x y =>
    List.forall_mem_cons.2 ⟨.leaf x, List.forall_mem_cons.2 ⟨.leaf y, hnil⟩⟩
  refine .dict (hpair _ _) ?_ ⟨?_, ?_⟩
  · refine List.forall_mem_cons.2 ⟨.leaf _, List.forall_mem_cons.2 ⟨?_, hnil⟩⟩
    refine .items (List.forall_mem_cons.2 ⟨.leaf _, List.forall_mem_cons.2 ⟨?_, hnil⟩⟩) ?_
    · exact .items (hpair _ _) (by rintro ⟨⟩)
    · rintro ⟨⟩
  · exact List.forall_mem_cons.2 ⟨rfl, List.forall_mem_cons.2 ⟨rfl, List.forall_mem_nil _⟩⟩
  · exact List.pairwise_pair.2 rfl

/-- Two channels are set to the same voltage. -/
def equalVoltages : Deferreds
  | 0 => resolvedTo "CH1:VOLT?" (.float (.finite 5))
  | _ => resolvedTo "CH2:VOLT?" (.float (.finite 5))

/-- The value `{psu.ch1.voltage, psu.ch2.voltage}`. -/
def voltageSet : BatchValue PyVal := items .set [deferred 0, deferred 1]

/-- A set of two reads has one member when their results are equal. -/
theorem equalVoltages_merged : Built voltageSet ∧
    @Resolved PyVal PyText.blank equalVoltages voltageSet ∧
    ¬ @Faithful PyVal _ PyText.blank equalVoltages voltageSet := by
  let _ : PyText := PyText.blank
  have hmembers : members.Distinct ([deferred 0, deferred 1] : List (BatchValue PyVal)) :=
    ⟨List.forall_mem_cons.2 ⟨rfl, List.forall_mem_cons.2 ⟨rfl, List.forall_mem_nil _⟩⟩,
      List.pairwise_pair.2 rfl⟩
  refine ⟨.items ?_ fun _ => hmembers, ?_, ?_⟩
  · exact List.forall_mem_cons.2 ⟨.deferred 0, List.forall_mem_cons.2 ⟨.deferred 1,
      List.forall_mem_nil _⟩⟩
  · intro i _
    match i with
    | 0 => exact ⟨_, rfl⟩
    | _ + 1 => exact ⟨_, rfl⟩
  · rintro ⟨r, hok, hr, -⟩
    have hmerged : unwrapBatchReturn equalVoltages voltageSet =
        .ok (items .set [leaf (.float (.finite 5))]) := rfl
    cases hmerged.symm.trans hok
    cases hr.unique

/-- The result of reading the step of a timer. -/
def timerStep : PyVal := .dict [("voltage_v", .float (.finite 5)), ("current_a", .float (.finite 1)),
  ("duration_s", .float (.finite 10))]

/-- A set that the step of a timer would be in is refused. -/
example : @unwrapBatchReturn PyVal _ PyText.blank (fun _ => resolvedTo "TIMER:SET? CH1,1" timerStep)
    (items .set [deferred 0]) = .error (.msg .typeError "unhashable type: 'dict'") := rfl

end BatchValue

end Spd3000
