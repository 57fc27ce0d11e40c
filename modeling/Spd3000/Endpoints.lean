/-
  Gateway endpoints (`SPD3000._gateway_endpoint` and `_connect_gateway`).

  `splitEndpoint` is the first half of the parser: it takes an identifier apart into
  a host and the text of a port.  Which identifiers it accepts, and how, is
  `EndpointForm`, one constructor for each of the forms of the messages.  An
  endpoint that has been accepted is written back as `connectionIdentifier`.

  Two things go wrong (`endpoint_faithful`): the text of a port may have more digits
  than `int` converts, and a host that starts with a bracket and has no colon is
  written back without brackets of its own.
-/
import Spd3000.Arguments
import Mathlib.Data.List.TakeWhile

namespace Spd3000

/-! ## The parser -/

def DEFAULT_GATEWAY_PORT : ℕ := 8765

/-- The host and the text of the port of an identifier. -/
def splitEndpoint (identifier : PyStr) : Except PyExc (PyStr × Option PyStr) :=
  match identifier with
  | [] => .ok ([], none)
  | c :: cs =>
    if c.val = 91 then match cs.dropWhile (·.val ≠ 93) with
      | [] => .error (invalid "gateway IPv6 identifier is missing closing ']'")
      | [_] => .ok (cs.takeWhile (·.val ≠ 93), none)
      | _ :: s :: suffix =>
        if s.val = 58 then .ok (cs.takeWhile (·.val ≠ 93), some suffix)
        else .error (invalid "gateway identifier must be HOST, HOST:PORT, [IPv6], or [IPv6]:PORT")
    else if identifier.countP (·.val = 58) = 1 then
      .ok (identifier.takeWhile (·.val ≠ 58), some (identifier.dropWhile (·.val ≠ 58)).tail)
    else if identifier.any (·.val = 58) then
      .error (invalid "gateway IPv6 identifiers must use '[IPv6]' or '[IPv6]:PORT'")
    else .ok (identifier, none)

/-- The test that a host passes. -/
def isHost (host : PyStr) : Bool := host ≠ [] && host = strip host && !host.any isSpace

/-- The call `int(text)` for ASCII digits. -/
def intOfAsciiDigits (text : PyStr) : Except PyExc ℕ :=
  if maxStrDigits < text.length then
    .error (.msg .valueError (lit ("Exceeds the limit (4300 digits) for integer string conversion" ++
      "; use sys.set_int_max_str_digits() to increase the limit")))
  else .ok (asciiNumber text)

def invalidPort : PyExc := invalid "gateway port must be an integer from 1 through 65535"

/-- The port of a text. -/
def endpointPort (rawPort : PyStr) : Except PyExc ℕ := do
  if isAsciiDigits rawPort = false then .error invalidPort
  let port ← intOfAsciiDigits rawPort
  if 1 ≤ port ∧ port ≤ 65535 then return port else .error invalidPort

/-- The method `_gateway_endpoint`. -/
def gatewayEndpoint (identifier : PyStr) : Except PyExc (PyStr × ℕ) := do
  let (host, rawPort) ← splitEndpoint identifier
  if isHost host = false then .error (invalid "gateway identifier must contain a valid host")
  match rawPort with
  | none => return (host, DEFAULT_GATEWAY_PORT)
  | some rawPort =>
    let port ← endpointPort rawPort
    return (host, port)

/-- The identifier that `_connect_gateway` stores. -/
def connectionIdentifier (host : PyStr) (port : ℕ) : PyStr :=
  if host.any (·.val = 58) then lit "[" ++ host ++ lit "]:" ++ digitsText port
  else host ++ lit ":" ++ digitsText port

/-! ## Forms of identifiers -/

/-- The forms HOST, HOST:PORT, [IPv6] and [IPv6]:PORT, with the host and the text of the port. -/
inductive EndpointForm : PyStr → PyStr → Option PyStr → Prop
  | bare {host : PyStr} : (∀ c ∈ host, c.val ≠ 58) → (∀ c ∈ host.head?, c.val ≠ 91) →
      EndpointForm host host none
  | port {host rawPort : PyStr} : (∀ c ∈ host, c.val ≠ 58) → (∀ c ∈ host.head?, c.val ≠ 91) →
      (∀ c ∈ rawPort, c.val ≠ 58) → EndpointForm (host ++ lit ":" ++ rawPort) host (some rawPort)
  | bracketed {host : PyStr} : (∀ c ∈ host, c.val ≠ 93) →
      EndpointForm (lit "[" ++ host ++ lit "]") host none
  | bracketedPort {host rawPort : PyStr} : (∀ c ∈ host, c.val ≠ 93) →
      EndpointForm (lit "[" ++ host ++ lit "]:" ++ rawPort) host (some rawPort)

/-! ## The first half -/

/-- `SPD3000ValidationError` is raised. -/
def IsInvalid {α : Type} (r : Except PyExc α) : Prop :=
  ∃ e, r = .error e ∧ e.cls = .spd3000ValidationError

theorem IsInvalid.error {α : Type} (text : PyStr) :
    IsInvalid (.error (invalid text) : Except PyExc α) := ⟨_, rfl, rfl⟩

section
variable {p : CodePoint → Bool} {before after s : PyStr} {c : CodePoint}

theorem cut_first (h : ∀ x ∈ before, p x = true) (hc : p c = false) :
    (before ++ c :: after).takeWhile p = before ∧
      (before ++ c :: after).dropWhile p = c :: after := by
  rw [List.takeWhile_append_of_pos h, List.dropWhile_append_of_pos h,
    List.takeWhile_cons_of_neg (by rw [hc]; decide), List.dropWhile_cons_of_neg (by rw [hc]; decide),
    List.append_nil]
  exact ⟨rfl, rfl⟩

/-- A text is cut at the first character without a property. -/
theorem exists_first (p : CodePoint → Bool) (s : PyStr) : (∀ x ∈ s, p x = true) ∨
    ∃ before c after, s = before ++ c :: after ∧ (∀ x ∈ before, p x = true) ∧ p c = false := by
  induction s with
  | nil => exact .inl (List.forall_mem_nil _)
  | cons c s ih =>
    cases hc : p c with
    | false => exact .inr ⟨[], c, s, rfl, List.forall_mem_nil _, hc⟩
    | true =>
      rcases ih with hall | ⟨before, c', after, rfl, hbefore, hc'⟩
      · exact .inl (List.forall_mem_cons.2 ⟨hc, hall⟩)
      · exact .inr ⟨c :: before, c', after, rfl, List.forall_mem_cons.2 ⟨hc, hbefore⟩, hc'⟩

end

theorem splitEndpoint_unbracketed {identifier : PyStr} (h : ∀ c ∈ identifier.head?, c.val ≠ 91) :
    splitEndpoint identifier =
      if identifier.countP (·.val = 58) = 1 then
        .ok (identifier.takeWhile (·.val ≠ 58), some (identifier.dropWhile (·.val ≠ 58)).tail)
      else if identifier.any (·.val = 58) then
        .error (invalid "gateway IPv6 identifiers must use '[IPv6]' or '[IPv6]:PORT'")
      else .ok (identifier, none) := by
  cases identifier with
  | nil => rfl
  | cons c cs => rw [splitEndpoint, if_neg (h c rfl)]

theorem splitEndpoint_bracketed {host after : PyStr} (h : ∀ c ∈ host, c.val ≠ 93) :
    splitEndpoint (chr 91 :: (host ++ chr 93 :: after)) = match after with
      | [] => .ok (host, none)
      | s :: suffix =>
        if s.val = 58 then .ok (host, some suffix)
        else .error (invalid
          "gateway identifier must be HOST, HOST:PORT, [IPv6], or [IPv6]:PORT") := by
  have hbracket : decide ((chr 93).val ≠ 93) = false := by decide
  have hbefore : ∀ x ∈ host, decide (x.val ≠ 93) = true := fun x hx => decide_eq_true (h x hx)
  have hcut := @cut_first _ _ after _ hbefore hbracket
  have hopen : (chr 91).val = 91 := rfl
  rw [splitEndpoint, if_pos hopen, hcut.1, hcut.2]
  cases after <;> rfl

theorem splitEndpoint_colon {host rawPort : PyStr} (hhost : ∀ c ∈ host, c.val ≠ 58)
    (hhead : ∀ c ∈ host.head?, c.val ≠ 91) (hport : ∀ c ∈ rawPort, c.val ≠ 58) :
    splitEndpoint (host ++ chr 58 :: rawPort) = .ok (host, some rawPort) := by
  have hcolon : decide ((chr 58).val ≠ 58) = false := by decide
  have hbefore : ∀ x ∈ host, decide (x.val ≠ 58) = true := fun x hx =>
    decide_eq_true (hhost x hx)
  have hcut := @cut_first _ _ rawPort _ hbefore hcolon
  have hcount : (host ++ chr 58 :: rawPort).countP (fun c => c.val = 58) = 1 := by
    rw [List.countP_append, List.countP_cons_of_pos (by decide),
      List.countP_eq_zero.2 fun c hc => by simpa using hhost c hc,
      List.countP_eq_zero.2 fun c hc => by simpa using hport c hc]
  have hfirst : ∀ c ∈ (host ++ chr 58 :: rawPort).head?, c.val ≠ 91 := by
    cases host with
    | nil =>
      rintro _ ⟨⟩
      decide
    | cons c cs => exact hhead
  rw [splitEndpoint_unbracketed hfirst, if_pos hcount, hcut.1, hcut.2, List.tail_cons]

theorem EndpointForm.split {identifier host : PyStr} {rawPort : Option PyStr}
    (h : EndpointForm identifier host rawPort) :
    splitEndpoint identifier = .ok (host, rawPort) := by
  have hclose : lit "]:" = [chr 93, chr 58] := rfl
  cases h with
  | bare hcolon hhead =>
    have hcount : identifier.countP (fun c => c.val = 58) = 0 :=
      List.countP_eq_zero.2 fun c hc => by simpa using hcolon c hc
    rw [splitEndpoint_unbracketed hhead, if_neg (by rw [hcount]; decide), if_neg]
    simpa using hcolon
  | @port _ rawPort hcolon hhead hport =>
    rw [List.append_assoc]
    exact splitEndpoint_colon hcolon hhead hport
  | bracketed hbracket =>
    rw [List.append_assoc]
    exact splitEndpoint_bracketed hbracket
  | @bracketedPort _ rawPort hbracket =>
    rw [hclose, List.append_assoc, List.append_assoc]
    exact splitEndpoint_bracketed hbracket

/-- An identifier has one of the forms or is refused. -/
theorem exists_unbracketed {identifier : PyStr} (hhead : ∀ c ∈ identifier.head?, c.val ≠ 91) :
    (∃ host rawPort, EndpointForm identifier host rawPort) ∨
      IsInvalid (splitEndpoint identifier) := by
  have hcolons : lit ":" = [chr 58] := rfl
  rcases exists_first (fun c => c.val ≠ 58) identifier with
    hnone | ⟨host, colon, rawPort, rfl, hhost, hcolon⟩
  · exact .inl ⟨identifier, none, .bare (fun c hc => of_decide_eq_true (hnone c hc)) hhead⟩
  have hcolon' : colon = chr 58 := Fin.ext (not_not.1 (of_decide_eq_false hcolon))
  subst hcolon'
  have hhost' : ∀ c ∈ host, c.val ≠ 58 := fun c hc => of_decide_eq_true (hhost c hc)
  by_cases hport : ∀ c ∈ rawPort, c.val ≠ 58
  · have hhead' : ∀ c ∈ host.head?, c.val ≠ 91 := by
      cases host with
      | nil => rintro _ ⟨⟩
      | cons c cs => exact hhead
    have hform := EndpointForm.port hhost' hhead' hport
    rw [hcolons, List.append_assoc] at hform
    exact .inl ⟨host, some rawPort, hform⟩
  · -- a second colon
    push Not at hport
    have hpos : 0 < rawPort.countP (fun c => c.val = 58) :=
      List.countP_pos_iff.2 (by simpa using hport)
    have hcount : (host ++ chr 58 :: rawPort).countP (fun c => c.val = 58) ≠ 1 := by
      rw [List.countP_append, List.countP_cons_of_pos (by decide)]
      omega
    have hany : (host ++ chr 58 :: rawPort).any (fun c => c.val = 58) := by
      rw [List.any_append, List.any_cons]
      simp [val_chr]
    rw [splitEndpoint_unbracketed hhead, if_neg hcount, if_pos hany]
    exact .inr (.error _)

theorem exists_bracketed (cs : PyStr) :
    (∃ host rawPort, EndpointForm (chr 91 :: cs) host rawPort) ∨
      IsInvalid (splitEndpoint (chr 91 :: cs)) := by
  have hopen : lit "[" = [chr 91] := rfl
  have hclose : lit "]" = [chr 93] := rfl
  have hcolon : lit "]:" = [chr 93, chr 58] := rfl
  rcases exists_first (fun c => c.val ≠ 93) cs with
    hnone | ⟨host, bracket, after, rfl, hhost, hbracket⟩
  · have hval : (chr 91).val = 91 := rfl
    rw [splitEndpoint, if_pos hval, List.dropWhile_eq_nil_iff.2 hnone]
    exact .inr (.error _)
  have hbracket' : bracket = chr 93 := Fin.ext (not_not.1 (of_decide_eq_false hbracket))
  subst hbracket'
  have hhost' : ∀ c ∈ host, c.val ≠ 93 := fun c hc => of_decide_eq_true (hhost c hc)
  cases after with
  | nil =>
    have hform := EndpointForm.bracketed hhost'
    rw [hopen, hclose, List.append_assoc] at hform
    exact .inl ⟨host, none, hform⟩
  | cons s suffix =>
    by_cases hs : s.val = 58
    · have hs' : s = chr 58 := Fin.ext hs
      have hform := @EndpointForm.bracketedPort _ suffix hhost'
      rw [hopen, hcolon, List.append_assoc, List.append_assoc] at hform
      rw [hs']
      exact .inl ⟨host, some suffix, hform⟩
    · rw [splitEndpoint_bracketed hhost']
      dsimp only
      rw [if_neg hs]
      exact .inr (.error _)

theorem splitEndpoint_cases (identifier : PyStr) :
    (∃ host rawPort, EndpointForm identifier host rawPort) ∨
      IsInvalid (splitEndpoint identifier) := by
  by_cases hhead : ∀ c ∈ identifier.head?, c.val ≠ 91
  · exact exists_unbracketed hhead
  · cases identifier with
    | nil => exact absurd (by rintro _ ⟨⟩) hhead
    | cons c cs =>
      have hc : c = chr 91 := by
        by_contra hne
        refine hhead ?_
        rintro _ ⟨⟩ hval
        exact hne (Fin.ext hval)
      rw [hc]
      exact exists_bracketed cs

/-! ## The second half -/

theorem isHost_iff {host : PyStr} :
    isHost host = true ↔ host ≠ [] ∧ ∀ c ∈ host, isSpace c = false := by
  rw [isHost, Bool.and_eq_true, Bool.and_eq_true, decide_eq_true_eq, decide_eq_true_eq,
    Bool.not_eq_true', List.any_eq_false, and_assoc]
  simp only [Bool.not_eq_true]
  exact and_congr_right fun _ => and_iff_right_of_imp fun h => (strip_visible h).symm

/-- The text of a port that is accepted. -/
structure AcceptedPort (rawPort : PyStr) : Prop where
  digits : isAsciiDigits rawPort = true
  size : rawPort.length ≤ maxStrDigits
  range : 1 ≤ asciiNumber rawPort ∧ asciiNumber rawPort ≤ 65535

/-- Digits that `int` refuses to convert. -/
def OverlongDigits (rawPort : PyStr) : Prop :=
  isAsciiDigits rawPort = true ∧ maxStrDigits < rawPort.length

/-- The outcomes for the text of a port. -/
inductive PortOutcome (rawPort : PyStr) : Except PyExc ℕ → Prop
  | accepted : AcceptedPort rawPort → PortOutcome rawPort (.ok (asciiNumber rawPort))
  | overlong {e : PyExc} : OverlongDigits rawPort → e.cls = .valueError → PortOutcome rawPort (.error e)
  | refused {e : PyExc} : ¬ AcceptedPort rawPort → ¬ OverlongDigits rawPort →
      e.cls = .spd3000ValidationError → PortOutcome rawPort (.error e)

theorem endpointPort_spec (rawPort : PyStr) : PortOutcome rawPort (endpointPort rawPort) := by
  unfold endpointPort
  cases hdigits : isAsciiDigits rawPort with
  | false =>
    refine .refused (fun h => ?_) (fun h => ?_) rfl
    · rw [h.digits] at hdigits
      cases hdigits
    · rw [h.1] at hdigits
      cases hdigits
  | true =>
    by_cases hlong : maxStrDigits < rawPort.length
    · rw [intOfAsciiDigits, if_pos hlong]
      exact .overlong ⟨hdigits, hlong⟩ rfl
    have hnot : ¬ OverlongDigits rawPort := fun h => hlong h.2
    rw [intOfAsciiDigits, if_neg hlong]
    by_cases hrange : 1 ≤ asciiNumber rawPort ∧ asciiNumber rawPort ≤ 65535
    · have haccepted : AcceptedPort rawPort := ⟨hdigits, not_lt.1 hlong, hrange⟩
      simp only [Bool.true_eq_false, if_false, bind, Except.bind, if_pos hrange]
      exact .accepted haccepted
    · simp only [Bool.true_eq_false, if_false, bind, Except.bind, if_neg hrange]
      exact .refused (fun h => hrange h.range) hnot rfl

/-! ## Endpoints -/

/-- An identifier of one of the forms with a valid host and port. -/
structure AcceptedEndpoint (identifier host : PyStr) (rawPort : Option PyStr) : Prop where
  form : EndpointForm identifier host rawPort
  host : isHost host = true
  port : ∀ text ∈ rawPort, AcceptedPort text

/-- The identifier has a port of more digits than `int` converts, behind a valid host. -/
def OverlongPort (identifier : PyStr) : Prop :=
  ∃ host rawPort, EndpointForm identifier host (some rawPort) ∧ isHost host = true ∧
    OverlongDigits rawPort

/-- The identifier is accepted, with a host that starts with a bracket and has no colon. -/
def OpenBracket (identifier : PyStr) : Prop :=
  ∃ host rawPort, AcceptedEndpoint identifier host rawPort ∧ host.head? = some (chr 91) ∧
    ∀ c ∈ host, c.val ≠ 58

/-- The number of a port. -/
def portOf (rawPort : Option PyStr) : ℕ := rawPort.elim DEFAULT_GATEWAY_PORT asciiNumber

section
variable {identifier host : PyStr} {rawPort : Option PyStr}

theorem EndpointForm.unique {host' : PyStr} {rawPort' : Option PyStr}
    (h : EndpointForm identifier host rawPort) (h' : EndpointForm identifier host' rawPort') :
    host = host' ∧ rawPort = rawPort' := by
  have heq := h.split.symm.trans h'.split
  cases heq
  exact ⟨rfl, rfl⟩

/-- The outcomes of `_gateway_endpoint`. -/
inductive EndpointOutcome (identifier : PyStr) : Except PyExc (PyStr × ℕ) → Prop
  | accepted {host : PyStr} {rawPort : Option PyStr} : AcceptedEndpoint identifier host rawPort →
      EndpointOutcome identifier (.ok (host, portOf rawPort))
  | overlong {e : PyExc} : OverlongPort identifier → e.cls = .valueError →
      EndpointOutcome identifier (.error e)
  | refused {e : PyExc} : ¬ OverlongPort identifier →
      (∀ host rawPort, ¬ AcceptedEndpoint identifier host rawPort) → e.cls = .spd3000ValidationError →
      EndpointOutcome identifier (.error e)

theorem gatewayEndpoint_spec (identifier : PyStr) :
    EndpointOutcome identifier (gatewayEndpoint identifier) := by
  unfold gatewayEndpoint
  rcases splitEndpoint_cases identifier with ⟨host, rawPort, hform⟩ | ⟨e, hsplit, he⟩
  · rw [hform.split]
    simp only [bind, Except.bind]
    cases hhost : isHost host with
    | false =>
      simp only [if_true]
      refine .refused ?_ (fun host' rawPort' h => ?_) rfl
      · rintro ⟨host', rawPort', hform', hhost', -⟩
        rw [← (hform.unique hform').1, hhost] at hhost'
        cases hhost'
      · have hhost' := h.host
        rw [← (hform.unique h.form).1, hhost] at hhost'
        cases hhost'
    | true =>
      simp only [Bool.true_eq_false, if_false]
      have hunique : ∀ host' rawPort', EndpointForm identifier host' rawPort' →
          host' = host ∧ rawPort' = rawPort := fun _ _ h => h.unique hform
      cases rawPort with
      | none => exact .accepted ⟨hform, hhost, by rintro _ ⟨⟩⟩
      | some rawPort =>
        have hspec := endpointPort_spec rawPort
        dsimp only
        generalize endpointPort rawPort = r at hspec
        cases hspec with
        | accepted hport =>
          refine @EndpointOutcome.accepted _ _ (some rawPort) ⟨hform, hhost, ?_⟩
          rintro _ ⟨⟩
          exact hport
        | overlong hlong he => exact .overlong ⟨host, rawPort, hform, hhost, hlong⟩ he
        | refused hport hlong he =>
          refine .refused ?_ (fun host' rawPort' h => ?_) he
          · rintro ⟨host', rawPort', hform', -, hlong'⟩
            cases (hunique _ _ hform').2
            exact hlong hlong'
          · have haccepted := h.port
            rw [(hunique _ _ h.form).2] at haccepted
            exact hport (haccepted rawPort rfl)
  · have hnone : ∀ host rawPort, ¬ EndpointForm identifier host rawPort := by
      intro host rawPort hform
      cases hsplit.symm.trans hform.split
    rw [hsplit]
    refine .refused ?_ (fun host rawPort h => hnone _ _ h.form) he
    rintro ⟨host, rawPort, hform, -⟩
    exact hnone _ _ hform

/-! ## Normal forms -/

theorem digitsText_avoids {n k : ℕ} (h : k < 48 ∨ 57 < k) : ∀ c ∈ digitsText n, c.val ≠ k := by
  intro c hc
  have hdigit := digitsText_digit hc
  omega

theorem acceptedPort_digitsText {n : ℕ} (h : 1 ≤ n ∧ n ≤ 65535) : AcceptedPort (digitsText n) where
  digits := isAsciiDigits_digitsText n
  size := (length_digitsText_le (k := 5) (by decide) (by omega)).trans (by decide)
  range := by rwa [asciiNumber_digitsText]

/-- The port of an accepted endpoint. -/
theorem AcceptedEndpoint.range (h : AcceptedEndpoint identifier host rawPort) :
    1 ≤ portOf rawPort ∧ portOf rawPort ≤ 65535 := by
  cases rawPort with
  | none => decide
  | some rawPort => exact (h.port rawPort rfl).range

/-- A host of an accepted endpoint, in the form with a port. -/
theorem normal_form {n : ℕ} (hbracket : (∃ c ∈ host, c.val = 58) → ∀ c ∈ host, c.val ≠ 93)
    (hhead : (∀ c ∈ host, c.val ≠ 58) → ∀ c ∈ host.head?, c.val ≠ 91) :
    EndpointForm (connectionIdentifier host n) host (some (digitsText n)) := by
  unfold connectionIdentifier
  by_cases hcolon : ∃ c ∈ host, c.val = 58
  · rw [if_pos (by simpa using hcolon)]
    exact .bracketedPort (hbracket hcolon)
  · have hcolon' : ∀ c ∈ host, c.val ≠ 58 := fun c hc heq => hcolon ⟨c, hc, heq⟩
    rw [if_neg (by simpa using hcolon')]
    exact .port hcolon' (hhead hcolon') (digitsText_avoids (.inr (by decide)))

/-- The host of an identifier has no colon, or it has no closing bracket. -/
theorem EndpointForm.bracket (h : EndpointForm identifier host rawPort)
    (hcolon : ∃ c ∈ host, c.val = 58) : ∀ c ∈ host, c.val ≠ 93 := by
  obtain ⟨c, hc, hval⟩ := hcolon
  cases h with
  | bare hnone _ => exact absurd hval (hnone c hc)
  | port hnone _ _ => exact absurd hval (hnone c hc)
  | bracketed hbracket => exact hbracket
  | bracketedPort hbracket => exact hbracket

/-- A host that starts with a bracket was written in brackets. -/
theorem EndpointForm.openBracket (h : EndpointForm identifier host rawPort)
    (hhead : host.head? = some (chr 91)) : ∀ c ∈ host, c.val ≠ 93 := by
  have hval : (chr 91).val = 91 := rfl
  cases h with
  | bare _ hnone => exact absurd hval (hnone _ hhead)
  | port _ hnone _ => exact absurd hval (hnone _ hhead)
  | bracketed hbracket => exact hbracket
  | bracketedPort hbracket => exact hbracket

theorem AcceptedEndpoint.not_overlong (h : AcceptedEndpoint identifier host rawPort) :
    ¬ OverlongPort identifier := by
  rintro ⟨host', rawPort', hform, -, hlong⟩
  obtain ⟨-, rfl⟩ := h.form.unique hform
  exact absurd (h.port rawPort' rfl).size (not_le.2 hlong.2)

theorem AcceptedEndpoint.eq (h : AcceptedEndpoint identifier host rawPort) :
    gatewayEndpoint identifier = .ok (host, portOf rawPort) := by
  have hspec := gatewayEndpoint_spec identifier
  generalize gatewayEndpoint identifier = r at hspec
  cases hspec with
  | accepted h' =>
    obtain ⟨rfl, rfl⟩ := h.form.unique h'.form
    rfl
  | overlong hlong _ => exact absurd hlong h.not_overlong
  | refused _ hnone _ => exact absurd h (hnone _ _)

/-- An accepted endpoint is accepted again in its normal form. -/
theorem AcceptedEndpoint.normal (h : AcceptedEndpoint identifier host rawPort)
    (hopen : ¬ OpenBracket identifier) :
    gatewayEndpoint (connectionIdentifier host (portOf rawPort)) = .ok (host, portOf rawPort) := by
  have hform : EndpointForm (connectionIdentifier host (portOf rawPort)) host
      (some (digitsText (portOf rawPort))) := by
    refine normal_form h.form.bracket fun hcolon c hc hval => ?_
    have hc' : c = chr 91 := Fin.ext hval
    exact hopen ⟨host, rawPort, h, hc' ▸ hc, hcolon⟩
  have haccepted : AcceptedEndpoint (connectionIdentifier host (portOf rawPort)) host
      (some (digitsText (portOf rawPort))) := by
    refine ⟨hform, h.host, ?_⟩
    rintro _ ⟨⟩
    exact acceptedPort_digitsText h.range
  rw [haccepted.eq]
  exact congrArg (fun n => Except.ok (host, n)) (asciiNumber_digitsText _)

/-- Without brackets of its own, a host that starts with one is refused. -/
theorem AcceptedEndpoint.lost (h : AcceptedEndpoint identifier host rawPort)
    (hhead : host.head? = some (chr 91)) (hcolon : ∀ c ∈ host, c.val ≠ 58) (n : ℕ) :
    IsInvalid (gatewayEndpoint (connectionIdentifier host n)) := by
  have hbracket := h.form.openBracket hhead
  obtain ⟨cs, rfl⟩ : ∃ cs, host = chr 91 :: cs := by
    cases host with
    | nil => cases hhead
    | cons c cs =>
      cases hhead
      exact ⟨cs, rfl⟩
  have hnone : ∀ c ∈ cs ++ lit ":" ++ digitsText n, decide (c.val ≠ 93) = true := by
    intro c hc
    rw [decide_eq_true_eq]
    rcases List.mem_append.1 hc with hc | hc
    · rcases List.mem_append.1 hc with hc | hc
      · exact hbracket c (List.mem_cons_of_mem _ hc)
      · rw [List.mem_singleton.1 hc]
        decide
    · exact digitsText_avoids (.inr (by decide)) c hc
  have hval : (chr 91).val = 91 := rfl
  have hsplit : splitEndpoint (chr 91 :: (cs ++ lit ":" ++ digitsText n)) =
      .error (invalid "gateway IPv6 identifier is missing closing ']'") := by
    rw [splitEndpoint, if_pos hval, List.dropWhile_eq_nil_iff.2 hnone]
  rw [connectionIdentifier, if_neg (by simpa using hcolon), List.cons_append, List.cons_append,
    gatewayEndpoint, hsplit]
  exact .error _

/-- What the parser promises: a valid endpoint or a validation error, and normal forms that are read
    as the endpoint that they are written for. -/
structure EndpointFaithful (identifier : PyStr) : Prop where
  outcome : IsInvalid (gatewayEndpoint identifier) ∨ ∃ host port,
    gatewayEndpoint identifier = .ok (host, port) ∧ host ≠ [] ∧ (∀ c ∈ host, isSpace c = false) ∧
      1 ≤ port ∧ port ≤ 65535
  normal : ∀ host port, gatewayEndpoint identifier = .ok (host, port) →
    gatewayEndpoint (connectionIdentifier host port) = .ok (host, port)

end

/-- **Gateway endpoints.**  Identifiers are parsed exactly, and their normal forms are stable, unless
    the port has too many digits or the host starts with a bracket and has no colon. -/
theorem endpoint_faithful (identifier : PyStr) :
    EndpointFaithful identifier ↔ ¬ OverlongPort identifier ∧ ¬ OpenBracket identifier := by
  have hspec := gatewayEndpoint_spec identifier
  constructor
  · rintro ⟨houtcome, hnormal⟩
    refine ⟨fun hlong => ?_, ?_⟩
    · generalize gatewayEndpoint identifier = r at hspec houtcome
      cases hspec with
      | accepted h => exact h.not_overlong hlong
      | refused hnot _ _ => exact hnot hlong
      | overlong _ he =>
        rcases houtcome with ⟨e, ⟨⟩, hinvalid⟩ | ⟨host, port, ⟨⟩, -⟩
        rw [he] at hinvalid
        cases hinvalid
    · rintro ⟨host, rawPort, h, hhead, hcolon⟩
      obtain ⟨e, he, -⟩ := h.lost hhead hcolon (portOf rawPort)
      cases he.symm.trans (hnormal _ _ h.eq)
  · rintro ⟨hlong, hopen⟩
    cases hr : gatewayEndpoint identifier with
    | error e =>
      rw [hr] at hspec
      refine ⟨.inl ⟨e, hr, ?_⟩, fun host port hok => by cases hr.symm.trans hok⟩
      cases hspec with
      | overlong h _ => exact absurd h hlong
      | refused _ _ he => exact he
    | ok endpoint =>
      rw [hr] at hspec
      cases hspec with
      | @accepted host rawPort h =>
        have hhost := isHost_iff.1 h.host
        refine ⟨.inr ⟨host, portOf rawPort, hr, hhost.1, hhost.2, h.range⟩, fun host' port' hok => ?_⟩
        cases hr.symm.trans hok
        exact h.normal hopen

/-- The identifier `[[x]`. -/
def bracketHost : PyStr := lit "[[x]"

/-- It is accepted, with the host `[x`; the normal form `[x:8765` is refused. -/
theorem bracketHost_lost : ¬ EndpointFaithful bracketHost := by
  intro h
  have haccepted : gatewayEndpoint bracketHost = .ok (lit "[x", 8765) := rfl
  have hrefused : gatewayEndpoint (connectionIdentifier (lit "[x") 8765) =
      .error (invalid "gateway IPv6 identifier is missing closing ']'") := rfl
  cases hrefused.symm.trans (h.normal _ _ haccepted)

end Spd3000
