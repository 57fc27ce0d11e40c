/-
  Rebuilding an exception from the data of an error response
  (`reconstruct_exception`).

  The classes are those of the two allow lists, and the annotations of a rebuilt
  exception have the types of a batch position (`restoreAnnotations_typed`).  Two
  checks are missing: the constructor of `SPD3000VerificationError` takes exactly
  one argument, and `batch_command_kind in {"write", "query"}` hashes a value that
  may be a list or an object.  Both raise `TypeError`; nothing else does
  (`rebuilds_typed`).
-/
import Spd3000.Transparency

namespace Spd3000

/-! ## What a rebuilt exception is -/

/-- The four gateway classes that an error can be rebuilt with. -/
def gatewayTypes : List ExcClass :=
  [.gatewayAuthenticationError, .gatewayVersionMismatchError, .gatewayProtocolError,
    .gatewayInternalError]

/-- The values that an annotation may have. -/
inductive AnnotationValue : PyStr → PyVal → Prop
  | index (i : ℤ) : AnnotationValue "batch_command_index" (.int i)
  | kind {kind : PyStr} : kind = lit "write" ∨ kind = lit "query" →
      AnnotationValue "batch_command_kind" (.str kind)
  | command (text : PyStr) : AnnotationValue "batch_command" (.str text)

def AnnotationsTyped (e : PyExc) : Prop :=
  ∀ name ∈ ANNOTATIONS, ∀ v, e.attrs.get name = some v → AnnotationValue name v

/-- The exception has a listed type, and its annotations have theirs. -/
structure Rebuilt (e : PyExc) : Prop where
  listed : e.cls ∈ ExcClass.canonicalExceptionTypes ∨ e.cls ∈ gatewayTypes
  annotations : AnnotationsTyped e

/-- An exception is rebuilt, and nothing is raised. -/
def RebuildsTyped (r : Except PyExc PyExc) : Prop := ∃ e, r = .ok e ∧ Rebuilt e

/-- A JSON value that has no hash. -/
inductive Unhashable : PyVal → Prop
  | list (xs : List PyVal) : Unhashable (.list xs)
  | dict (kvs : PyDict) : Unhashable (.dict kvs)

/-- The data names a southbound exception, with what one of the two unchecked operations rejects:
    a verification error without exactly one argument, or a kind that has no hash. -/
def Unchecked (data : PyVal) : Prop :=
  ∃ (d : PyDict) (cls : ExcClass) (args : List PyVal), data = .dict d ∧
    d.getD "kind" = .str "southbound" ∧ cls ∈ ExcClass.canonicalExceptionTypes ∧
    d.getD "exception_type" = .str cls.name ∧ (d.get "args").getD (.list []) = .list args ∧
    (cls = .spd3000VerificationError ∧ args.length ≠ 1 ∨ Unhashable (d.getD "batch_command_kind"))

/-! ## Annotations -/

section
variable {e : PyExc} {name : PyStr} {v : PyVal}

theorem annotationsTyped_none (h : ∀ name ∈ ANNOTATIONS, e.attrs.get name = none) :
    AnnotationsTyped e := by
  intro name hname v hv
  rw [h name hname] at hv
  cases hv

theorem AnnotationsTyped.setattr (h : AnnotationsTyped e)
    (hv : name ∈ ANNOTATIONS → AnnotationValue name v) : AnnotationsTyped (e.setattr name v) := by
  intro n hn w hw
  rw [PyExc.get_setattr] at hw
  split_ifs at hw with heq
  · cases hw
    subst heq
    exact hv hn
  · exact h n hn w hw

theorem AnnotationsTyped.congr {e' : PyExc} (h : AnnotationsTyped e) (hs : SameException e' e) :
    AnnotationsTyped e' := by
  intro n hn w hw
  rw [hs.annotations n hn] at hw
  exact h n hn w hw

/-- The three steps of `restoreAnnotations`, one for each field of the data. -/
def restoreIndex (data : PyDict) (e : PyExc) : PyExc :=
  match data.getD "batch_command_index" with
  | .int i => e.setattr "batch_command_index" (.int i)
  | _ => e

def restoreKind (data : PyDict) (e : PyExc) : Except PyExc PyExc :=
  match data.getD "batch_command_kind" with
  | .list _ => .error (.msg .typeError "unhashable type: 'list'")
  | .dict _ => .error (.msg .typeError "unhashable type: 'dict'")
  | kind =>
    if pyEq kind (.str "write") || pyEq kind (.str "query") then
      .ok (e.setattr "batch_command_kind" kind)
    else .ok e

def restoreCommand (data : PyDict) (e : PyExc) : PyExc :=
  match data.getD "batch_command" with
  | .str text => e.setattr "batch_command" (.str text)
  | _ => e

theorem restoreAnnotations_eq (data : PyDict) (e : PyExc) : restoreAnnotations data e =
    (restoreKind data (restoreIndex data e)).map (restoreCommand data) := rfl

theorem restoreIndex_typed (data : PyDict) (h : AnnotationsTyped e) :
    (restoreIndex data e).cls = e.cls ∧ AnnotationsTyped (restoreIndex data e) := by
  unfold restoreIndex
  split
  · exact ⟨rfl, h.setattr fun _ => .index _⟩
  · exact ⟨rfl, h⟩

theorem restoreCommand_typed (data : PyDict) (h : AnnotationsTyped e) :
    (restoreCommand data e).cls = e.cls ∧ AnnotationsTyped (restoreCommand data e) := by
  unfold restoreCommand
  split
  · exact ⟨rfl, h.setattr fun _ => .command _⟩
  · exact ⟨rfl, h⟩

theorem restoreKind_unhashable {data : PyDict} (h : Unhashable (data.getD "batch_command_kind"))
    (e : PyExc) : ∃ x, restoreKind data e = .error x := by
  unfold restoreKind
  generalize data.getD "batch_command_kind" = kind at h
  cases h with
  | list xs => exact ⟨_, rfl⟩
  | dict kvs => exact ⟨_, rfl⟩

theorem restoreKind_typed {data : PyDict} (hkind : ¬ Unhashable (data.getD "batch_command_kind"))
    (h : AnnotationsTyped e) :
    ∃ e', restoreKind data e = .ok e' ∧ e'.cls = e.cls ∧ AnnotationsTyped e' := by
  unfold restoreKind
  split
  · rename_i xs heq
    exact absurd (heq ▸ .list xs) hkind
  · rename_i kvs heq
    exact absurd (heq ▸ .dict kvs) hkind
  · split_ifs with hset
    · rw [Bool.or_eq_true, pyEq_str_right, pyEq_str_right] at hset
      refine ⟨_, rfl, rfl, h.setattr fun _ => ?_⟩
      rcases hset with hset | hset <;> rw [hset]
      · exact .kind (.inl rfl)
      · exact .kind (.inr rfl)
    · exact ⟨e, rfl, rfl, h⟩

theorem restoreAnnotations_unhashable {data : PyDict}
    (h : Unhashable (data.getD "batch_command_kind")) (e : PyExc) :
    ∃ x, restoreAnnotations data e = .error x := by
  obtain ⟨x, hx⟩ := restoreKind_unhashable h (restoreIndex data e)
  rw [restoreAnnotations_eq, hx]
  exact ⟨x, rfl⟩

/-- Only typed annotations are restored. -/
theorem restoreAnnotations_typed {data : PyDict}
    (hkind : ¬ Unhashable (data.getD "batch_command_kind")) (h : AnnotationsTyped e) :
    ∃ e', restoreAnnotations data e = .ok e' ∧ e'.cls = e.cls ∧ AnnotationsTyped e' := by
  obtain ⟨hcls₁, h₁⟩ := restoreIndex_typed data h
  obtain ⟨e₂, he₂, hcls₂, h₂⟩ := restoreKind_typed hkind h₁
  obtain ⟨hcls₃, h₃⟩ := restoreCommand_typed data h₂
  rw [restoreAnnotations_eq, he₂]
  exact ⟨_, rfl, hcls₃.trans (hcls₂.trans hcls₁), h₃⟩

end

/-! ## Classes -/

theorem southboundClass_eq_some {v : PyVal} {cls : ExcClass} :
    southboundClass v = some cls ↔ cls ∈ ExcClass.canonicalExceptionTypes ∧ v = .str cls.name := by
  constructor
  · intro h
    unfold southboundClass at h
    split at h
    · rename_i name
      have hname := List.find?_some h
      rw [beq_iff_eq] at hname
      exact ⟨List.mem_of_find?_eq_some h, hname ▸ rfl⟩
    · cases h
  · rintro ⟨hcls, rfl⟩
    exact southboundClass_name cls hcls

theorem gatewayClass_mem (exceptionType : PyStr) : gatewayClass exceptionType ∈ gatewayTypes := by
  unfold gatewayClass
  cases hfind : gatewayTypes.find? fun cls => cls.name == exceptionType with
  | none =>
    rw [gatewayTypes] at hfind
    rw [hfind]
    decide
  | some cls =>
    have hmem := List.mem_of_find?_eq_some hfind
    rw [gatewayTypes] at hfind
    rw [hfind]
    exact hmem

/-- The constructor of a verification error takes one argument, and the others any. -/
theorem southboundCall_cases (cls : ExcClass) (args : List PyVal) :
    (cls = .spd3000VerificationError ∧ args.length ≠ 1) ∧ (∃ x, southboundCall cls args = .error x) ∨
      ¬ (cls = .spd3000VerificationError ∧ args.length ≠ 1) ∧
        ∃ e, southboundCall cls args = .ok e ∧ e.cls = cls ∧ AnnotationsTyped e := by
  unfold southboundCall
  split_ifs with hcls
  · match args with
    | [] => exact .inl ⟨⟨hcls, by simp⟩, _, rfl⟩
    | [message] =>
      refine .inr ⟨fun h => h.2 rfl, _, rfl, rfl, annotationsTyped_none fun name hname => ?_⟩
      simp only [ANNOTATIONS, List.mem_cons, List.not_mem_nil, or_false] at hname
      rcases hname with rfl | rfl | rfl <;> rfl
    | _ :: _ :: _ => exact .inl ⟨⟨hcls, by simp⟩, _, rfl⟩
  · exact .inr ⟨fun h => hcls h.1, _, rfl, rfl, annotationsTyped_none fun _ _ => rfl⟩

/-! ## The data -/

theorem msg_rebuilt {cls : ExcClass} (text : PyStr) (h : cls ∈ gatewayTypes) :
    Rebuilt (.msg cls text) :=
  ⟨.inr h, annotationsTyped_none fun _ _ => rfl⟩

theorem protocolError_rebuilt (text : PyStr) : Rebuilt (.msg .gatewayProtocolError text) :=
  msg_rebuilt text (by decide)

section
variable [PyText]

/-- A southbound exception of an allow-listed class is rebuilt unless an unchecked operation
    rejects its data. -/
theorem rebuildException_cases {data : PyDict} {cls : ExcClass} {args : List PyVal}
    (hkind : data.getD "kind" = .str "southbound")
    (htype : southboundClass (data.getD "exception_type") = some cls)
    (hargs : (data.get "args").getD (.list []) = .list args) :
    RebuildsTyped (rebuildException data) ↔
      ¬ (cls = .spd3000VerificationError ∧ args.length ≠ 1 ∨
        Unhashable (data.getD "batch_command_kind")) := by
  have hcanonical := (southboundClass_eq_some.1 htype).1
  rw [rebuildException, if_pos (pyEq_str_right.2 hkind), htype, hargs]
  dsimp only
  rcases southboundCall_cases cls args with ⟨hbad, x, hx⟩ | ⟨hgood, e, he, hcls, htyped⟩
  · rw [hx]
    exact iff_of_false (by rintro ⟨_, ⟨⟩, -⟩) (not_not_intro (.inl hbad))
  rw [he]
  dsimp only
  by_cases hunhashable : Unhashable (data.getD "batch_command_kind")
  · obtain ⟨x, hx⟩ := restoreAnnotations_unhashable hunhashable e
    rw [hx]
    exact iff_of_false (by rintro ⟨_, ⟨⟩, -⟩) (not_not_intro (.inr hunhashable))
  · obtain ⟨e', he', hcls', htyped'⟩ := restoreAnnotations_typed hunhashable htyped
    refine iff_of_true ⟨e', he', .inl ?_, htyped'⟩ (not_or.2 ⟨hgood, hunhashable⟩)
    rw [hcls', hcls]
    exact hcanonical

/-- Data that names no allow-listed class, or has no list of arguments, becomes a protocol error. -/
theorem rebuildException_unknown {data : PyDict} (hkind : data.getD "kind" = .str "southbound")
    (h : ∀ cls args, southboundClass (data.getD "exception_type") = some cls →
      (data.get "args").getD (.list []) ≠ .list args) :
    RebuildsTyped (rebuildException data) := by
  rw [rebuildException, if_pos (pyEq_str_right.2 hkind)]
  split
  · rename_i cls args htype hargs
    exact absurd hargs (h cls args htype)
  · exact ⟨_, rfl, protocolError_rebuilt _⟩

theorem rebuildException_typed (data : PyDict) :
    RebuildsTyped (rebuildException data) ↔ ¬ Unchecked (.dict data) := by
  by_cases hkind : data.getD "kind" = .str "southbound"
  · by_cases hnamed : ∃ cls args, southboundClass (data.getD "exception_type") = some cls ∧
        (data.get "args").getD (.list []) = .list args
    · obtain ⟨cls, args, htype, hargs⟩ := hnamed
      obtain ⟨hcanonical, hname⟩ := southboundClass_eq_some.1 htype
      rw [rebuildException_cases hkind htype hargs]
      refine not_congr ⟨fun h => ⟨data, cls, args, rfl, hkind, hcanonical, hname, hargs, h⟩, ?_⟩
      rintro ⟨_, cls', args', ⟨⟩, -, hcanonical', hname', hargs', h⟩
      cases htype.symm.trans (southboundClass_eq_some.2 ⟨hcanonical', hname'⟩)
      cases hargs.symm.trans hargs'
      exact h
    · have hchecked : ¬ Unchecked (.dict data) := by
        rintro ⟨_, cls, args, ⟨⟩, -, hcanonical, hname, hargs, -⟩
        exact hnamed ⟨cls, args, southboundClass_eq_some.2 ⟨hcanonical, hname⟩, hargs⟩
      exact iff_of_true (rebuildException_unknown hkind fun cls args htype hargs =>
        hnamed ⟨cls, args, htype, hargs⟩) hchecked
  · have hchecked : ¬ Unchecked (.dict data) := by
      rintro ⟨_, cls, args, ⟨⟩, hsouthbound, -⟩
      exact hkind hsouthbound
    refine iff_of_true ?_ hchecked
    rw [rebuildException, if_neg fun h => hkind (pyEq_str_right.1 h)]
    exact ⟨_, rfl, msg_rebuilt _ (gatewayClass_mem _)⟩

omit [PyText] in
theorem Rebuilt.addRemoteTraceback {e : PyExc} (h : Rebuilt e) (remoteTraceback : PyVal) :
    Rebuilt (addRemoteTraceback remoteTraceback e) := by
  have hsame := addRemoteTraceback_same remoteTraceback e
  exact ⟨hsame.cls ▸ h.listed, h.annotations.congr hsame⟩

omit [PyText] in
/-- The traceback note changes neither the type nor the annotations. -/
theorem rebuildsTyped_map {r : Except PyExc PyExc} (remoteTraceback : PyVal) :
    RebuildsTyped (r.map (addRemoteTraceback remoteTraceback)) ↔ RebuildsTyped r := by
  have hsame := addRemoteTraceback_same remoteTraceback
  cases r with
  | error x => exact Iff.rfl
  | ok e =>
    constructor
    · rintro ⟨_, ⟨⟩, hlisted, hannotations⟩
      refine ⟨e, rfl, (hsame e).cls ▸ hlisted, hannotations.congr ?_⟩
      exact ⟨(hsame e).cls.symm, (hsame e).args.symm,
        fun name hname => ((hsame e).annotations name hname).symm⟩
    · rintro ⟨_, ⟨⟩, h⟩
      exact ⟨_, rfl, h.addRemoteTraceback remoteTraceback⟩

/-- **Rebuilding an exception.**  For any data, an exception of a listed type with typed annotations
    is rebuilt exactly if the data passes the two operations that nothing checks. -/
theorem rebuilds_typed (data : PyVal) :
    RebuildsTyped (reconstructException data) ↔ ¬ Unchecked data := by
  cases data with
  | dict data => exact (rebuildsTyped_map _).trans (rebuildException_typed data)
  | _ =>
    refine iff_of_true ⟨_, rfl, protocolError_rebuilt _⟩ ?_
    rintro ⟨_, _, _, ⟨⟩, -⟩

end

/-- A verification error without a message. -/
def silentVerification : PyVal :=
  .dict [("kind", .str "southbound"), ("exception_type", .str "SPD3000VerificationError"),
    ("args", .list [])]

/-- Its constructor raises a `TypeError`. -/
theorem silentVerification_raises :
    ¬ RebuildsTyped (@reconstructException PyText.blank silentVerification) := by
  have hraised : @reconstructException PyText.blank silentVerification = .error (.msg .typeError
      "SPD3000VerificationError.__init__() missing 1 required positional argument: 'message'") := rfl
  rw [hraised]
  rintro ⟨e, ⟨⟩, -⟩

end Spd3000
