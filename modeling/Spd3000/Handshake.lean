/-
  Which handshakes are accepted, and how the others are refused.

  `Acceptable` is the rule for a configured token and a commit.  The code follows
  it except where a library function with a partial domain is in the way: the
  comparison of tokens (`Uncomparable`) and the conversion of an over-large
  integer (`Overflowing`).  Every step of the handshake has one lemma that says
  when it passes and with which class it refuses.
-/
import Spd3000.Server

namespace Spd3000

variable [PyText]

/-! ## The rule -/

/-- A JSON number that is not NaN or infinite, with its exact value. -/
def finiteValue : PyVal → Option ℚ
  | .int i => some i
  | .float (.finite q) => some q
  | _ => none

/-- The settings hold a finite non-negative interval and a finite positive timeout. -/
def ValidSettings (settings : PyDict) : Prop :=
  (∃ q ∈ (settings.get "min_command_interval").bind finiteValue, 0 ≤ q) ∧
    ∃ q ∈ (settings.get "timeout").bind finiteValue, 0 < q

/-- An empty token and `None` disable authentication. -/
def Authenticates (token : Option PyStr) (params : PyDict) : Prop :=
  ∀ t ∈ token, t ≠ [] → params.getD "token" = .str t

/-- The handshakes that are to be accepted. -/
structure Acceptable (token : Option PyStr) (commit : PyStr) (params : PyDict) : Prop where
  commit : params.getD "commit" = .str commit
  token : Authenticates token params
  settings : ∃ settings, params.getD "settings" = .dict settings ∧ ValidSettings settings

/-- The classes with which a handshake is to be refused. -/
def refusals : List ExcClass :=
  [.gatewayVersionMismatchError, .gatewayAuthenticationError, .gatewayProtocolError]

/-- The handshake is accepted exactly if it is to be, and else refused properly. -/
def HandshakeCorrect (token : Option PyStr) (g : GatewayServer) (params : PyDict) : Prop :=
  ((∃ session, g.handshake params = .ok session) ↔ Acceptable token g.commit params) ∧
    ∀ e, g.handshake params = .error e → e.cls ∈ refusals

/-- The tokens are compared although one of them is not ASCII. -/
def Uncomparable (token : Option PyStr) (params : PyDict) : Prop :=
  ∃ t ∈ token, t ≠ [] ∧ ∃ s, params.getD "token" = .str s ∧ (isAscii s && isAscii t) = false

/-- An integer beyond the range of a float. -/
def Overflows (v : PyVal) : Prop := ∃ i, v = .int i ∧ floatOfInt i = none

/-- The settings are converted to floats although a number is out of range. -/
def OverflowingSettings (settings : PyDict) : Prop :=
  ∃ i t, PyDict.get settings "min_command_interval" = some i ∧ PyDict.get settings "timeout" = some t ∧
    (Overflows i ∨ ((finiteValue i).isSome ∧ Overflows t))

def Overflowing (params : PyDict) : Prop :=
  ∃ settings, params.getD "settings" = .dict settings ∧ OverflowingSettings settings

/-! ## The steps of the handshake -/

omit [PyText] in
theorem finiteNumber_cases (name : PyStr) (v : PyVal) :
    (∃ q p, finiteNumber name v = .ok q ∧ finiteValue v = some p ∧ (0 ≤ q ↔ 0 ≤ p) ∧
      (0 < q ↔ 0 < p) ∧ ¬ Overflows v) ∨
    (Overflows v ∧ ∃ e, finiteNumber name v = .error e ∧ e.cls = .overflowError) ∨
    (finiteValue v = none ∧ ¬ Overflows v ∧
      ∃ e, finiteNumber name v = .error e ∧ e.cls = .spd3000ValidationError) := by
  have hno : (∀ i, v ≠ .int i) → ¬ Overflows v := fun h ⟨i, hi, _⟩ => h i hi
  cases v with
  | int i =>
    dsimp only [finiteNumber]
    cases hf : floatOfInt i with
    | none => exact .inr (.inl ⟨⟨i, rfl, hf⟩, _, rfl, rfl⟩)
    | some q =>
      obtain ⟨h1, h2⟩ := floatOfInt_sign hf
      refine .inl ⟨q, i, rfl, rfl, by exact_mod_cast h1, by exact_mod_cast h2, ?_⟩
      rintro ⟨j, hj, hn⟩
      cases hj
      rw [hf] at hn; cases hn
  | float f =>
    cases f with
    | finite q => exact .inl ⟨q, q, rfl, rfl, Iff.rfl, Iff.rfl, hno (by simp)⟩
    | inf | nan => exact .inr (.inr ⟨rfl, hno (by simp), _, rfl, rfl⟩)
  | none | bool | str | list | dict | obj => exact .inr (.inr ⟨rfl, hno (by simp), _, rfl, rfl⟩)

/-- How the settings of a handshake are taken. -/
inductive SettingsTaken (settings : PyDict) : Except PyExc ExecutionSettings → Prop
  | valid (s : ExecutionSettings) : ValidSettings settings → ¬ OverflowingSettings settings →
      SettingsTaken settings (.ok s)
  | overflow {e : PyExc} : OverflowingSettings settings → e.cls = .overflowError →
      SettingsTaken settings (.error e)
  | invalid {e : PyExc} : ¬ ValidSettings settings → ¬ OverflowingSettings settings →
      e.cls = .keyError ∨ e.cls = .spd3000ValidationError → SettingsTaken settings (.error e)

omit [PyText] in
theorem handshakeSettings_spec (settings : PyDict) :
    SettingsTaken settings (handshakeSettings settings) := by
  unfold handshakeSettings
  cases hi : settings.get "min_command_interval" with
  | none =>
    refine .invalid (fun h => ?_) (fun ⟨_, _, h, _⟩ => by rw [hi] at h; cases h) (.inl rfl)
    obtain ⟨⟨q, hq, -⟩, -⟩ := h
    rw [hi] at hq; cases hq
  | some i =>
    cases ht : settings.get "timeout" with
    | none =>
      refine .invalid (fun h => ?_) (fun ⟨_, _, _, h, _⟩ => by rw [ht] at h; cases h) (.inl rfl)
      obtain ⟨-, q, hq, -⟩ := h
      rw [ht] at hq; cases hq
    | some t =>
      have hvalid : ValidSettings settings ↔
          (∃ q ∈ finiteValue i, 0 ≤ q) ∧ ∃ q ∈ finiteValue t, 0 < q := by
        simp [ValidSettings, hi, ht]
      have hover : OverflowingSettings settings ↔
          Overflows i ∨ ((finiteValue i).isSome ∧ Overflows t) := by
        simp [OverflowingSettings, hi, ht]
      unfold ExecutionSettings.make
      dsimp only
      rcases finiteNumber_cases "min_command_interval" i with
        ⟨q, p, hq, hp, h0, -, hno⟩ | ⟨ho, e, he, hc⟩ | ⟨hp, hno, e, he, hc⟩
      · simp only [hq]
        rcases finiteNumber_cases "timeout" t with
          ⟨r, u, hr, hu, -, h0', hno'⟩ | ⟨ho, e, he, hc⟩ | ⟨hu, hno', e, he, hc⟩
        · have hnover : ¬ OverflowingSettings settings := by
            rw [hover]; rintro (h | ⟨-, h⟩); exacts [hno h, hno' h]
          simp only [hr]
          split_ifs with h1 h2
          · refine .invalid ?_ hnover (.inr rfl)
            rw [hvalid, hp]; rintro ⟨⟨_, h, hle⟩, -⟩; cases h; exact not_le.2 h1 (h0.2 hle)
          · refine .invalid ?_ hnover (.inr rfl)
            rw [hvalid, hu]; rintro ⟨-, ⟨_, h, hlt⟩⟩; cases h; exact not_lt.2 h2 (h0'.2 hlt)
          · exact .valid _ (hvalid.2 ⟨⟨p, hp, h0.1 (not_lt.1 h1)⟩, u, hu, h0'.1 (not_le.1 h2)⟩) hnover
        · simp only [he]
          exact .overflow (hover.2 (.inr ⟨by rw [hp]; rfl, ho⟩)) hc
        · simp only [he]
          refine .invalid ?_ ?_ (.inr hc)
          · rw [hvalid, hu]; rintro ⟨-, ⟨_, h, -⟩⟩; cases h
          · rw [hover]; rintro (h | ⟨-, h⟩); exacts [hno h, hno' h]
      · simp only [he]
        exact .overflow (hover.2 (.inl ho)) hc
      · simp only [he]
        refine .invalid ?_ ?_ (.inr hc)
        · rw [hvalid, hp]; rintro ⟨⟨_, h, -⟩, -⟩; cases h
        · rw [hover, hp]; rintro (h | ⟨h, -⟩); exacts [hno h, by cases h]

/-- How the token of a handshake is checked. -/
inductive TokenChecked (token : Option PyStr) (params : PyDict) : Except PyExc Unit → Prop
  | ok : Authenticates token params → ¬ Uncomparable token params →
      TokenChecked token params (.ok ())
  | uncomparable {e : PyExc} : Uncomparable token params → e.cls = .typeError →
      TokenChecked token params (.error e)
  | refused {e : PyExc} : ¬ Authenticates token params → ¬ Uncomparable token params →
      e.cls = .gatewayAuthenticationError → TokenChecked token params (.error e)

omit [PyText] in
theorem checkToken_spec {token : Option PyStr} {g : GatewayServer}
    (hg : g.token = token.filter (· ≠ [])) (params : PyDict) :
    TokenChecked token params (g.checkToken (params.getD "token")) := by
  have hnone : ∀ t ∈ token, t ≠ [] → g.token = some t := by
    intro t ht hne
    rw [hg, ht]; simp [Option.filter, hne]
  unfold GatewayServer.checkToken
  cases ht : g.token with
  | none =>
    refine .ok (fun t h hne => ?_) (fun ⟨t, h, hne, _⟩ => ?_)
    · rw [hnone t h hne] at ht; cases ht
    · rw [hnone t h hne] at ht; cases ht
  | some t =>
    obtain ⟨htok, hne⟩ : token = some t ∧ t ≠ [] := by
      rw [hg, Option.filter_eq_some_iff] at ht
      simpa using ht
    have hauth : Authenticates token params ↔ params.getD "token" = .str t := by
      simp [Authenticates, htok, hne]
    have hcmp : Uncomparable token params ↔
        ∃ s, params.getD "token" = .str s ∧ (isAscii s && isAscii t) = false := by
      simp [Uncomparable, htok, hne]
    cases hs : params.getD "token" with
    | str s =>
      dsimp only [compareDigest]
      split_ifs with hascii
      · have hncmp : ¬ Uncomparable token params := by
          rw [hcmp]; rintro ⟨_, h, hna⟩
          rw [hs] at h; cases h
          rw [hascii] at hna; cases hna
        cases heq : s == t with
        | true =>
          rw [beq_iff_eq] at heq
          exact .ok (hauth.2 (by rw [hs, heq])) hncmp
        | false =>
          refine .refused (fun h => ?_) hncmp rfl
          rw [hauth, hs] at h; cases h
          simp at heq
      · exact .uncomparable (hcmp.2 ⟨s, hs, by simpa using hascii⟩) rfl
    | none | bool | int | float | list | dict | obj =>
      refine .refused ?_ ?_ rfl
      · rw [hauth, hs]; intro h; cases h
      · rw [hcmp, hs]; rintro ⟨_, h, _⟩; cases h

omit [PyText] in
theorem make_eq_ok {token : Option PyStr} {commit : PyStr} {g : GatewayServer}
    (h : GatewayServer.make token commit = .ok g) :
    g.token = token.filter (· ≠ []) ∧ g.commit = commit := by
  unfold GatewayServer.make at h
  split_ifs at h
  cases h
  exact ⟨rfl, rfl⟩

/-- A refusal with one of the gateway's classes is correct if the handshake is not to be
    accepted. -/
theorem correct_of_refused {token : Option PyStr} {g : GatewayServer} {params : PyDict} {e : PyExc}
    (he : g.handshake params = .error e) (hcls : e.cls ∈ refusals)
    (hna : ¬ Acceptable token g.commit params) : HandshakeCorrect token g params := by
  refine ⟨iff_of_false (by rw [he]; rintro ⟨_, h⟩; cases h) hna, fun e' he' => ?_⟩
  rw [he] at he'; cases he'; exact hcls

theorem not_correct_of_error {token : Option PyStr} {g : GatewayServer} {params : PyDict}
    {e : PyExc} (he : g.handshake params = .error e) (hcls : e.cls ∉ refusals) :
    ¬ HandshakeCorrect token g params := fun h => hcls (h.2 e he)

/-- The three steps of the handshake, each with the refusals it can raise. -/
inductive Handshaken (token : Option PyStr) (g : GatewayServer) (params : PyDict) :
    Except PyExc Session → Prop
  | mismatch {e} : params.getD "commit" ≠ .str g.commit → e.cls = .gatewayVersionMismatchError →
      Handshaken token g params (.error e)
  | token {e} : params.getD "commit" = .str g.commit →
      TokenChecked token params (.error e) → Handshaken token g params (.error e)
  | malformed {e} : params.getD "commit" = .str g.commit → TokenChecked token params (.ok ()) →
      (∀ settings, params.getD "settings" ≠ .dict settings) → e.cls = .gatewayProtocolError →
      Handshaken token g params (.error e)
  | settings {settings r} : params.getD "commit" = .str g.commit →
      TokenChecked token params (.ok ()) → params.getD "settings" = .dict settings →
      SettingsTaken settings r → Handshaken token g params (match r with
        | .ok s => .ok ⟨s⟩
        | .error e =>
          if e.isinstance .keyError || e.isinstance .typeError || e.isinstance .valueError then
            .error (.msg .gatewayProtocolError
              (lit "Invalid execution settings: " ++ PyText.str e))
          else .error e)

theorem handshake_spec {token : Option PyStr} {g : GatewayServer}
    (hg : g.token = token.filter (· ≠ [])) (params : PyDict) :
    Handshaken token g params (g.handshake params) := by
  have ht := checkToken_spec hg params
  unfold GatewayServer.handshake
  dsimp only
  split_ifs with hc
  · refine .mismatch (fun h => ?_) rfl
    rw [h] at hc
    simp [g.commit_known] at hc
  · simp only [Bool.or_eq_true, pyEq_str_right, Bool.not_eq_true', not_or, Bool.not_eq_false] at hc
    cases hr : g.checkToken (params.getD "token") with
    | error e => exact .token hc.2 (hr ▸ ht)
    | ok u =>
      rw [hr] at ht
      cases hs : params.getD "settings" with
      | dict settings => exact .settings hc.2 ht hs (handshakeSettings_spec settings)
      | _ => exact .malformed hc.2 ht (by simp [hs]) rfl

/-- **Handshake acceptance.**  A handshake is accepted exactly if it is to be, and else
    refused with one of the gateway's classes, unless a token that is not ASCII is compared
    or a number out of range is converted. -/
theorem handshake_correct_iff {token : Option PyStr} {commit : PyStr} {g : GatewayServer}
    (hg : GatewayServer.make token commit = .ok g) (params : PyDict) :
    HandshakeCorrect token g params ↔
      ¬ (params.getD "commit" = .str commit ∧
        (Uncomparable token params ∨ (Authenticates token params ∧ Overflowing params))) := by
  obtain ⟨htok, rfl⟩ := make_eq_ok hg
  have hs := handshake_spec htok params
  generalize hr : g.handshake params = r at hs
  cases hs with
  | mismatch hc hcls =>
    exact iff_of_true (correct_of_refused hr (by simp [refusals, hcls]) fun h => hc h.commit)
      fun h => hc h.1
  | token hc ht =>
    cases ht with
    | uncomparable hu hcls =>
      exact iff_of_false (not_correct_of_error hr (by simp [refusals, hcls]))
        (not_not_intro ⟨hc, .inl hu⟩)
    | refused ha hu hcls =>
      exact iff_of_true (correct_of_refused hr (by simp [refusals, hcls]) fun h => ha h.token)
        (by rintro ⟨-, h | h⟩; exacts [hu h, ha h.1])
  | malformed hc ht hs hcls =>
    cases ht with
    | ok ha hu =>
      refine iff_of_true (correct_of_refused hr (by simp [refusals, hcls]) fun h => ?_) ?_
      · obtain ⟨settings, h, -⟩ := h.settings; exact hs settings h
      · rintro ⟨-, h | ⟨-, settings, h, -⟩⟩; exacts [hu h, hs settings h]
  | @settings settings r hc ht hs hset =>
    cases ht with
    | ok ha hu =>
      have hover : Overflowing params ↔ OverflowingSettings settings := by
        simp [Overflowing, hs]
      have hacc : Acceptable token g.commit params ↔ ValidSettings settings := by
        refine ⟨fun h => ?_, fun h => ⟨hc, ha, settings, hs, h⟩⟩
        obtain ⟨settings', h', hv⟩ := h.settings
        rw [hs] at h'; cases h'; exact hv
      cases hset with
      | valid s hv ho =>
        refine iff_of_true ⟨iff_of_true ⟨_, hr⟩ (hacc.2 hv), fun e he => ?_⟩ ?_
        · rw [hr] at he; cases he
        · rintro ⟨-, h | h⟩; exacts [hu h, ho (hover.1 h.2)]
      | @overflow e ho hcls =>
        have hcaught : ¬ (e.isinstance .keyError || e.isinstance .typeError ||
            e.isinstance .valueError) = true := by
          simp only [PyExc.isinstance, hcls]; decide
        simp only [if_neg hcaught] at hr
        exact iff_of_false (not_correct_of_error hr (by simp [refusals, hcls]))
          (not_not_intro ⟨hc, .inr ⟨ha, hover.2 ho⟩⟩)
      | @invalid e hv ho hcls =>
        have hcaught : (e.isinstance .keyError || e.isinstance .typeError ||
            e.isinstance .valueError) = true := by
          rcases hcls with h | h <;> simp only [PyExc.isinstance, h] <;> decide
        simp only [if_pos hcaught] at hr
        exact iff_of_true (correct_of_refused hr (by simp [refusals]) fun h => hv (hacc.1 h))
          (by rintro ⟨-, h | h⟩; exacts [hu h, ho (hover.1 h.2)])

/-- A gateway with a token. -/
def gatewayWith (token : PyStr) (h : token ≠ []) : GatewayServer where
  token := some token
  commit := "0123456789abcdef0123456789abcdef01234567"
  token_nonempty := by simpa using h
  commit_known := by decide

/-- The handshake of a client with the same commit, the given token and default settings. -/
def clientParams (token : PyStr) : PyDict :=
  [("commit", .str "0123456789abcdef0123456789abcdef01234567"), ("token", .str token),
    ("settings", .dict [("min_command_interval", .float (.finite (1 / 10))),
      ("timeout", .float (.finite 5))])]

omit [PyText] in
theorem handshake_correct_secret : @HandshakeCorrect PyText.blank (some "secret")
    (gatewayWith "secret" (by decide)) (clientParams "secret") := by
  let _ : PyText := PyText.blank
  have hg : GatewayServer.make (some "secret") (gatewayWith "secret" (by decide)).commit =
      .ok (gatewayWith "secret" (by decide)) := rfl
  refine (handshake_correct_iff hg _).2 ?_
  rintro ⟨-, ⟨t, ht, -, s, hs, hna⟩ | ⟨-, settings, hs, i, t, hi, ht, h⟩⟩
  · cases ht; cases hs; revert hna; decide
  · cases hs; cases hi; cases ht
    rcases h with ⟨_, h, -⟩ | ⟨-, _, h, -⟩ <;> cases h

omit [PyText] in
/-- A client with the right token is locked out by a `TypeError`. -/
theorem accented_token_locked_out :
    ¬ ∀ [PyText] (token : Option PyStr) (commit : PyStr) (g : GatewayServer) (params : PyDict),
      GatewayServer.make token commit = .ok g → HandshakeCorrect token g params := by
  intro h
  let _ : PyText := PyText.blank
  exact not_correct_of_error
    (e := .msg .typeError "comparing strings with non-ASCII characters is not supported")
    rfl (by decide) (h (some "é") (gatewayWith "é" (by decide)).commit (gatewayWith "é" (by decide))
      (clientParams "é") rfl)

end Spd3000
