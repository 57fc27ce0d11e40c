/-
  Which batches the gateway takes from an execute request (`GatewayServer._execute`
  and `deserialize_command`).

  The elements of `commands` are checked in order, up to the first one that is
  refused.  A request is submitted whole or not at all, and a refused one fails
  with an error of the protocol or of the validation (`admission_typed`), unless
  the first element refused has a text with a lone surrogate: JSON can express it,
  but `text.encode("utf-8")` raises `UnicodeEncodeError`.
-/
import Spd3000.Numbers
import Spd3000.Server
import Spd3000.Streams

namespace Spd3000

/-! ## Lists of payloads -/

/-- A loop that may raise: either it goes through the list, or it stops at the first element at
    which the body raises. -/
theorem mapM_cases {α β : Type} (f : α → Except PyExc β) (l : List α) :
    (∃ bs, l.mapM f = .ok bs ∧ List.Forall₂ (fun a b => f a = .ok b) l bs) ∨
      ∃ before a after e, l = before ++ a :: after ∧ f a = .error e ∧
        (∀ x ∈ before, ∃ b, f x = .ok b) ∧ l.mapM f = .error e := by
  induction l with
  | nil => exact .inl ⟨[], rfl, .nil⟩
  | cons a l ih =>
    rw [List.mapM_cons]
    cases ha : f a with
    | error e => exact .inr ⟨[], a, l, e, rfl, ha, List.forall_mem_nil _, rfl⟩
    | ok b =>
      rcases ih with ⟨bs, hbs, hall⟩ | ⟨before, a', after, e, rfl, ha', hbefore, hraised⟩
      · refine .inl ⟨b :: bs, ?_, .cons ha hall⟩
        rw [hbs]
        rfl
      · refine .inr ⟨a :: before, a', after, e, rfl, ha',
          List.forall_mem_cons.2 ⟨⟨b, ha⟩, hbefore⟩, ?_⟩
        rw [hraised]
        rfl

/-- The params ask for the batch: a list of at most `MAX_BATCH_COMMANDS` objects, each the payload of
    a command. -/
def Asks (params : PyDict) (batch : CommandBatch) : Prop :=
  ∃ payloads, params.getD "commands" = .list payloads ∧ payloads.length ≤ MAX_BATCH_COMMANDS ∧
    List.Forall₂ CommandPayload payloads batch.commands

/-- The first payload that is refused has a text with a lone surrogate. -/
def ReachesSurrogate (params : PyDict) : Prop :=
  ∃ before payload after, params.getD "commands" = .list (before ++ payload :: after) ∧
    (before ++ payload :: after).length ≤ MAX_BATCH_COMMANDS ∧
    (∀ p ∈ before, ∃ c, CommandPayload p c) ∧ LoneSurrogate payload

/-- A request is refused with an error of the protocol or of the validation. -/
def RefusedTyped (e : PyExc) : Prop :=
  e.cls = .gatewayProtocolError ∨ e.cls = .spd3000ValidationError

/-- The outcomes of reading the batch of a request. -/
inductive Requested (params : PyDict) : Except PyExc CommandBatch → Prop
  | batch {batch : CommandBatch} : Asks params batch → ¬ ReachesSurrogate params →
      Requested params (.ok batch)
  | unencodable {e : PyExc} : ReachesSurrogate params → e.cls = .unicodeEncodeError →
      Requested params (.error e)
  | refused {e : PyExc} : ¬ ReachesSurrogate params → RefusedTyped e → Requested params (.error e)

/-- The payload of a command is ASCII. -/
theorem CommandPayload.encodable {payload : PyVal} {c : Command} (h : CommandPayload payload c) :
    ¬ LoneSurrogate payload := by
  obtain ⟨d, rfl, -, htext, -⟩ := h
  rintro ⟨_, text, ⟨⟩, htext', x, hx, hlone⟩
  cases htext.symm.trans htext'
  have hascii : x.val < 128 := by
    simpa using List.all_eq_true.1 c.valid.2.2 x hx
  rw [isSurrogate, Bool.and_eq_true, decide_eq_true_eq] at hlone
  omega

theorem exists_of_forall₂ {α β : Type} {R : α → β → Prop} {l : List α} {l' : List β}
    (h : List.Forall₂ R l l') {a : α} (ha : a ∈ l) : ∃ b, R a b := by
  induction h with
  | nil => cases ha
  | cons hab _ ih =>
    rcases List.mem_cons.1 ha with rfl | ha
    · exact ⟨_, hab⟩
    · exact ih ha

/-- The first element without a property is determined. -/
theorem first_unique {α : Type} {P : α → Prop} {before before' after after' : List α} {a a' : α}
    (h : before ++ a :: after = before' ++ a' :: after') (hbefore : ∀ x ∈ before, P x)
    (hbefore' : ∀ x ∈ before', P x) (ha : ¬ P a) (ha' : ¬ P a') : a = a' := by
  induction before generalizing before' with
  | nil =>
    cases before' with
    | nil => exact (List.cons.inj h).1
    | cons x before' =>
      cases (List.cons.inj h).1
      exact absurd (hbefore' a List.mem_cons_self) ha
  | cons x before ih =>
    rw [List.forall_mem_cons] at hbefore
    cases before' with
    | nil =>
      cases (List.cons.inj h).1
      exact absurd hbefore.1 ha'
    | cons x' before' =>
      rw [List.forall_mem_cons] at hbefore'
      exact ih (List.cons.inj h).2 hbefore.2 hbefore'.2

/-- Whether the request reaches a lone surrogate depends on the first payload that is refused. -/
theorem reachesSurrogate_iff {params : PyDict} {before after : List PyVal} {payload : PyVal}
    (hcommands : params.getD "commands" = .list (before ++ payload :: after))
    (hcount : (before ++ payload :: after).length ≤ MAX_BATCH_COMMANDS)
    (hbefore : ∀ p ∈ before, ∃ c, CommandPayload p c) (hpayload : ¬ ∃ c, CommandPayload payload c) :
    ReachesSurrogate params ↔ LoneSurrogate payload := by
  constructor
  · rintro ⟨before', payload', after', hcommands', -, hbefore', hlone⟩
    have hlists := PyVal.list.inj (hcommands.symm.trans hcommands')
    have hpayload' : ¬ ∃ c, CommandPayload payload' c := fun ⟨c, hc⟩ => hc.encodable hlone
    exact first_unique hlists hbefore hbefore' hpayload hpayload' ▸ hlone
  · exact fun hlone => ⟨before, payload, after, hcommands, hcount, hbefore, hlone⟩

/-- A request without a list of payloads does not reach one. -/
theorem not_reachesSurrogate {params : PyDict}
    (h : ∀ payloads, params.getD "commands" = .list payloads →
      payloads ≠ [] → MAX_BATCH_COMMANDS < payloads.length) : ¬ ReachesSurrogate params := by
  rintro ⟨before, payload, after, hcommands, hcount, -, -⟩
  exact absurd hcount (not_le.2 (h _ hcommands (by simp)))

theorem requestedBatch_spec (params : PyDict) : Requested params (requestedBatch params) := by
  unfold requestedBatch
  split
  · rename_i c cs hcommands
    by_cases hlong : MAX_BATCH_COMMANDS < (c :: cs).length
    · rw [if_pos hlong]
      refine .refused (not_reachesSurrogate fun payloads hpayloads _ => ?_) (.inl rfl)
      cases hcommands.symm.trans hpayloads
      exact hlong
    rw [if_neg hlong]
    have hcount := not_lt.1 hlong
    rcases mapM_cases deserializeCommand (c :: cs) with
      ⟨commands, hok, hall⟩ | ⟨before, payload, after, e, hlist, hraised, hbefore, herror⟩
    · have hpayloads : List.Forall₂ CommandPayload (c :: cs) commands :=
        hall.imp fun _ _ => deserializeCommand_ok
      have hne : commands ≠ [] := by
        rintro rfl
        cases hpayloads
      rw [hok]
      dsimp only
      rw [CommandBatch.make, dif_neg hne]
      refine .batch ⟨_, hcommands, hcount, hpayloads⟩ ?_
      rintro ⟨before, payload, after, hcommands', -, -, hlone⟩
      have hmem : payload ∈ c :: cs := by
        rw [PyVal.list.inj (hcommands.symm.trans hcommands')]
        exact List.mem_append_right _ List.mem_cons_self
      obtain ⟨command, hpayload⟩ := exists_of_forall₂ hpayloads hmem
      exact hpayload.encodable hlone
    · have hpayload : ¬ ∃ c, CommandPayload payload c := by
        rintro ⟨c, hc⟩
        cases hraised.symm.trans hc.deserialized
      have haccepted : ∀ p ∈ before, ∃ c, CommandPayload p c := fun p hp =>
        (hbefore p hp).imp fun _ => deserializeCommand_ok
      rw [hlist] at hcommands hcount
      have hreaches := reachesSurrogate_iff hcommands hcount haccepted hpayload
      have hspec := deserializeCommand_spec payload
      rw [herror]
      rw [hraised] at hspec
      cases hspec with
      | unencodable hlone he => exact .unencodable (hreaches.2 hlone) he
      | refused hlone he => exact .refused (fun h => hlone (hreaches.1 h)) he
  · rename_i hother
    refine .refused (not_reachesSurrogate fun payloads hpayloads hne => ?_) (.inl rfl)
    obtain ⟨p, ps, rfl⟩ := List.exists_cons_of_ne_nil hne
    exact absurd hpayloads (hother p ps)

/-! ## Requests -/

section
variable [PyText] (J : Codec) (T : Turn) (id : PyVal) (params : PyDict) (session : Session)

/-- A request is submitted to the owner whole, as it was asked for; or nothing is submitted, and the
    request fails with an error of the protocol or of the validation. -/
def AdmittedWhole (r : Reply) : Prop :=
  (∃ batch, Asks params batch ∧ r.submitted = some (batch, session.settings)) ∨
    r.submitted = none ∧ ∃ e, r.result = .error e ∧ RefusedTyped e

/-- **Typed admission.** -/
theorem admission_typed : AdmittedWhole params session (executeRequest J T id params session) ↔
    ¬ ReachesSurrogate params := by
  have hspec := requestedBatch_spec params
  unfold executeRequest
  generalize requestedBatch params = r at hspec
  cases hspec with
  | @batch batch hasks hreaches => exact iff_of_true (.inl ⟨batch, hasks, rfl⟩) hreaches
  | @unencodable e hreaches he =>
    refine iff_of_false ?_ (not_not_intro hreaches)
    rintro (⟨batch, -, hsubmitted⟩ | ⟨-, _, ⟨⟩, htyped⟩)
    · cases hsubmitted
    · rcases htyped with htyped | htyped <;> rw [he] at htyped <;> cases htyped
  | @refused e hreaches he => exact iff_of_true (.inr ⟨rfl, e, rfl, he⟩) hreaches

end

/-- The params of a request for the query `"\ud800"`. -/
def surrogateRequest : PyDict :=
  [("commands", .list [.dict [("kind", .str "query"), ("text", .str [chr 0xD800])]])]

/-- A turn in which nothing happens around the handler. -/
def quietTurn : Turn := ⟨.ok [], fun _ _ => ([], .ok ⟨[]⟩), fun _ => none⟩

/-- The request fails with a `UnicodeEncodeError`. -/
theorem surrogateRequest_untyped : ¬ AdmittedWhole surrogateRequest ⟨.default⟩
    (@executeRequest PyText.blank readsClose quietTurn (.int 2) surrogateRequest ⟨.default⟩) := by
  let _ : PyText := PyText.blank
  have hraised : requestedBatch surrogateRequest = .error (surrogateError [chr 0xD800]) := rfl
  unfold executeRequest
  rw [hraised]
  rintro (⟨batch, -, hsubmitted⟩ | ⟨-, _, ⟨⟩, htyped⟩)
  · cases hsubmitted
  · rcases htyped with htyped | htyped <;> cases htyped

end Spd3000
