/-
  The documented forms of commands.

  A form is a list of fields: fixed texts, channels, states, memory slots,
  addresses and numbers.  `SemanticCall.form` gives the forms of the commands of
  each operation.  `method_form` says that an operation whose arguments are
  accepted has commands of these forms, and `HasForm.valid` that the driver can
  send them.
-/
import Spd3000.Setpoints

namespace Spd3000

open Decimals

/-! ## Fields -/

def isPrintable (s : PyStr) : Bool := s.all fun c => 32 ≤ c.val && c.val < 127

theorem isPrintable_iff {s : PyStr} : isPrintable s ↔ ∀ c ∈ s, 32 ≤ c.val ∧ c.val < 127 := by
  simp [isPrintable]

theorem isPrintable_digitsText (n : ℕ) : isPrintable (digitsText n) := by
  rw [isPrintable_iff]
  intro c hc
  have hrange := digitChar_range (fun d => digits_lt) c hc
  omega

theorem isPrintable_join {sep : PyStr} {ts : List PyStr} (hsep : isPrintable sep)
    (h : ∀ t ∈ ts, isPrintable t) : isPrintable (join sep ts) := by
  induction ts with
  | nil => rfl
  | cons t ts ih =>
    rw [List.forall_mem_cons] at h
    cases ts with
    | nil =>
      rw [join_singleton]
      exact h.1
    | cons t' ts =>
      have hlater := ih h.2
      have ht := h.1
      unfold isPrintable at hsep ht hlater ⊢
      rw [join_cons_cons, List.all_append, List.all_append, ht, hsep, hlater]
      rfl

theorem isPrintable_addressText (ip : ℕ) : isPrintable (addressText ip) := by
  refine isPrintable_join rfl fun t ht => ?_
  obtain ⟨n, -, rfl⟩ := List.mem_map.1 ht
  exact isPrintable_digitsText n

/-- A part of a command. -/
inductive Field where
  | text (s : PyStr)
  /-- CH1 or CH2, or CH3 where the operation does not need a programmable channel. -/
  | channel (programmable : Bool)
  | state
  /-- A memory slot or a timer group. -/
  | oneToFive
  | trackingMode
  | address
  | netmask
  | number

namespace Field

/-- The texts that a field may have. -/
def Admits : Field → PyStr → Prop
  | text s, t => t = s
  | channel programmable, t => ∃ c : Channel, (programmable → c ≠ .ch3) ∧ t = c.value
  | state, t => ∃ s : SwitchState, t = s.value
  | oneToFive, t => ∃ n : ℕ, (1 ≤ n ∧ n ≤ 5) ∧ t = digitsText n
  | trackingMode, t => ∃ n : ℕ, n ≤ 2 ∧ t = digitsText n
  | address, t => ∃ ip : ℕ, ip < 2 ^ 32 ∧ t = addressText ip
  | netmask, t => ∃ n : ℕ, n ≤ 32 ∧ t = addressText (ipIntFromPrefix n)
  | number, t => (plainValue t).isSome

theorem admits_state (s : SwitchState) : state.Admits s.value := ⟨s, rfl⟩

/-- The fixed text of a field is printable. -/
def printable : Field → Bool
  | text s => isPrintable s
  | _ => true

theorem Admits.printable {f : Field} {t : PyStr} (h : f.Admits t) (hf : f.printable) :
    isPrintable t := by
  cases f with
  | text s =>
    cases h
    exact hf
  | channel programmable =>
    obtain ⟨c, -, rfl⟩ := h
    cases c <;> rfl
  | state =>
    obtain ⟨s, rfl⟩ := h
    cases s <;> rfl
  | oneToFive =>
    obtain ⟨n, -, rfl⟩ := h
    exact isPrintable_digitsText n
  | trackingMode =>
    obtain ⟨n, -, rfl⟩ := h
    exact isPrintable_digitsText n
  | address =>
    obtain ⟨ip, -, rfl⟩ := h
    exact isPrintable_addressText ip
  | netmask =>
    obtain ⟨n, -, rfl⟩ := h
    exact isPrintable_addressText _
  | number =>
    rw [isPrintable_iff]
    intro c hc
    have hchar := plainValue_chars h c hc
    omega

end Field

/-! ## Commands -/

/-- The text is made of texts of the fields. -/
def Matches (fields : List Field) (text : PyStr) : Prop :=
  ∃ parts, List.Forall₂ Field.Admits fields parts ∧ text = parts.flatten

/-- The fixed texts are printable, and the first one begins with a visible character. -/
def sendable : List Field → Bool
  | .text (c :: s) :: fields => 33 ≤ c.val && (.text (c :: s) :: fields).all Field.printable
  | _ => false

theorem strip_ne_nil {s : PyStr} {c : CodePoint} (h : c ∈ s) (hc : isSpace c = false) :
    strip s ≠ [] := by
  have hdrop : ∀ {s : PyStr}, c ∈ s → c ∈ s.dropWhile isSpace := by
    intro s hs
    rw [← List.takeWhile_append_dropWhile (p := isSpace) (l := s), List.mem_append] at hs
    rcases hs with hs | hs
    · have hspace := List.mem_takeWhile_imp hs
      rw [hc] at hspace
      cases hspace
    · exact hs
  have hmem : c ∈ strip s :=
    List.mem_reverse.2 (hdrop (List.mem_reverse.2 (hdrop h)))
  exact List.ne_nil_of_mem hmem

/-- A printable text with a visible character is a valid command. -/
theorem valid_printable {s : PyStr} {c : CodePoint} (hc : c ∈ s) (hvisible : 33 ≤ c.val)
    (h : isPrintable s) : ValidCommand s := by
  rw [isPrintable_iff] at h
  refine ⟨strip_ne_nil hc ?_, ?_, ?_⟩
  · have hlt := (h c hc).2
    unfold isSpace
    simp only [Bool.or_eq_false_iff, Bool.and_eq_false_iff, decide_eq_false_iff_not,
      beq_eq_false_iff_ne]
    omega
  · rw [hasLineTerminator, List.any_eq_false]
    intro x hx
    have hrange := h x hx
    simp only [Bool.or_eq_true, beq_iff_eq]
    omega
  · rw [isAscii, List.all_eq_true]
    intro x hx
    have hrange := h x hx
    exact decide_eq_true (by omega)

theorem Matches.printable {fields : List Field} {s : PyStr} (h : Matches fields s)
    (hf : ∀ f ∈ fields, f.printable) : isPrintable s := by
  obtain ⟨parts, hparts, rfl⟩ := h
  unfold isPrintable
  rw [List.all_flatten, List.all_eq_true]
  induction hparts with
  | nil => exact List.forall_mem_nil _
  | cons hadmits _ ih =>
    rw [List.forall_mem_cons] at hf ⊢
    exact ⟨hadmits.printable hf.1, ih hf.2⟩

theorem Matches.valid {fields : List Field} {s : PyStr} (h : Matches fields s)
    (hf : sendable fields) : ValidCommand s := by
  unfold sendable at hf
  split at hf
  · rename_i c first fields
    rw [Bool.and_eq_true, decide_eq_true_eq, List.all_eq_true] at hf
    refine valid_printable (c := c) ?_ hf.1 (h.printable hf.2)
    obtain ⟨parts, hparts, rfl⟩ := h
    cases hparts with
    | cons hadmits _ =>
      cases hadmits
      exact List.mem_cons_self
  · cases hf

/-! ## Checks -/

/-- Every result has a property. -/
def Gives {α : Type} (P : α → Prop) (r : Except PyExc α) : Prop := ∀ a, r = .ok a → P a

section
variable {α β : Type} {P : α → Prop} {Q : β → Prop} {r : Except PyExc α}

theorem Gives.ok {a : α} (h : P a) : Gives P (.ok a) := by
  rintro _ ⟨⟩
  exact h

theorem Gives.error (e : PyExc) : Gives P (.error e : Except PyExc α) := nofun

theorem Gives.bind {f : α → Except PyExc β} (h : Gives P r) (hf : ∀ a, P a → Gives Q (f a)) :
    Gives Q (r >>= f) := by
  cases r with
  | error e => exact .error e
  | ok a => exact hf a (h a rfl)

/-- A check without a result that matters. -/
theorem Gives.trivial (r : Except PyExc α) : Gives (fun _ => True) r := fun _ _ => ⟨⟩

end

theorem requireChannel_gives (value : PyArg) (programmable : Bool) :
    Gives (fun c => (Field.channel programmable).Admits c.value)
      (requireChannel value programmable) := by
  refine (Gives.trivial _).bind fun c _ => ?_
  split_ifs with h
  · exact .error _
  · exact .ok ⟨c, fun hp hc => h ⟨hp, hc⟩, rfl⟩

theorem requireOneToFive_gives (message : PyStr) (value : PyArg) :
    Gives (fun i => Field.oneToFive.Admits (digitsText i.toNat))
      (requireOneToFive message value) := by
  unfold requireOneToFive
  split
  · split_ifs with h
    · exact .ok ⟨_, by omega, rfl⟩
    · exact .error _
  · exact .error _

theorem requireTrackingMode_gives (mode : PyArg) :
    Gives (fun m => Field.trackingMode.Admits (digitsText m.value)) (requireTrackingMode mode) := by
  intro m _
  refine ⟨_, ?_, rfl⟩
  cases m <;> decide

section
variable [PyText]

theorem requireAddress_gives {read : PyStr → Option ℕ} {P : PyStr → Prop}
    (h : ∀ s ip, read s = some ip → P (addressText ip)) (notString malformed : PyStr)
    (value : PyArg) : Gives P (requireAddress read notString malformed value) := by
  unfold requireAddress
  split
  · exact .error _
  · split
    · rename_i ip hip
      exact .ok (h _ ip hip)
    · exact .error _

theorem requireIpv4Address_gives (value : PyArg) :
    Gives Field.address.Admits (requireIpv4Address value) :=
  requireAddress_gives (fun _ _ h => ⟨_, ipv4Address_lt h, rfl⟩) _ _ value

theorem requireSubnetMask_gives (value : PyArg) :
    Gives Field.netmask.Admits (requireSubnetMask value) := by
  refine requireAddress_gives (fun s ip h => ?_) _ _ value
  obtain ⟨n, hn, rfl⟩ := networkMask_prefix h
  exact ⟨n, hn, rfl⟩

end

/-- The text of a number, whatever the argument is. -/
theorem render_gives (m : Model) (n : Number) (a : PyArg) :
    Gives Field.number.Admits (n.render m a) := by
  cases hreal : a.asReal with
  | none =>
    have hnone : ∀ name minimum maximum resolution, Gives Field.number.Admits
        (formatNumber name a minimum maximum resolution) := by
      intro name minimum maximum resolution
      unfold formatNumber
      rw [hreal]
      exact .error _
    cases n with
    | setpoint quantity => cases quantity <;> exact hnone _ _ _ _
    | duration => exact hnone _ _ _ _
  | some v =>
    intro text htext
    have hrendered := render_rendered m n ⟨a, v, hreal⟩
    rw [htext] at hrendered
    cases hrendered with
    | accepted _ _ hplain _ _ => exact hplain

/-! ## Operations -/

/-- The forms of the commands of an operation: of a write and of the query that verifies it, if
    there is one, or of the queries of a read. -/
inductive Form where
  | write (command : List Field) (readback : Option (List Field))
  | read (queries : List (List Field))

/-- The command `OUTP` or `TIMER`, with a channel and a state. -/
def stateFields (command : PyStr) (channel : Field) : List Field :=
  [.text command, channel, .text ",", .state]

def timerSetFields : List Field := [.text "TIMER:SET? ", .channel true, .text ",", .oneToFive]

/-- The documented form of each operation. -/
def SemanticCall.form : SemanticCall → Form
  | getVoltage c => .read [[.text c.channel.value, .text ":VOLT?"]]
  | setVoltage c _ => .write [.text c.channel.value, .text ":VOLT ", .number]
    (some [.text c.channel.value, .text ":VOLT?"])
  | getCurrent c => .read [[.text c.channel.value, .text ":CURR?"]]
  | setCurrent c _ => .write [.text c.channel.value, .text ":CURR ", .number]
    (some [.text c.channel.value, .text ":CURR?"])
  | getOutput _ => .read [[.text "SYST:STAT?"]]
  | setOutput c _ => .write (stateFields "OUTP " (.text c.value)) (some [.text "SYST:STAT?"])
  | measureVoltage _ => .read [[.text "MEAS:VOLT? ", .channel true]]
  | measureCurrent _ => .read [[.text "MEAS:CURR? ", .channel true]]
  | measurePower _ => .read [[.text "MEAS:POWE? ", .channel true]]
  | output _ _ => .write (stateFields "OUTP " (.channel false)) (some [.text "SYST:STAT?"])
  | outputTrack _ => .write [.text "OUTP:TRACK ", .trackingMode] (some [.text "SYST:STAT?"])
  | outputWave _ _ => .write (stateFields "OUTP:WAVE " (.channel true)) (some [.text "SYST:STAT?"])
  | timer _ _ => .write (stateFields "TIMER " (.channel true)) (some [.text "SYST:STAT?"])
  | timerSet _ _ voltage current duration =>
    if [voltage, current, duration].all Timer.isNone then .read [timerSetFields]
    else .write [.text "TIMER:SET ", .channel true, .text ",", .oneToFive, .text ",", .number,
      .text ",", .number, .text ",", .number] (some timerSetFields)
  | systemError => .read [[.text "SYST:ERR?"]]
  | systemVersion => .read [[.text "SYST:VERS?"]]
  | systemStatus => .read [[.text "SYST:STAT?"]]
  | idn => .read [[.text "*IDN?"]]
  | getInstrument => .read [[.text "INST?"]]
  | setInstrument _ => .write [.text "INST ", .channel true] (some [.text "INST?"])
  | getIpaddr | getHost => .read [[.text "IPADDR?"]]
  | setIpaddr _ | setHost _ => .write [.text "IPADDR ", .address] (some [.text "IPADDR?"])
  | getMaskaddr | getSubnetMask => .read [[.text "MASKADDR?"]]
  | setMaskaddr _ | setSubnetMask _ =>
    .write [.text "MASKADDR ", .netmask] (some [.text "MASKADDR?"])
  | getGateaddr | getGateway => .read [[.text "GATEADDR?"]]
  | setGateaddr _ | setGateway _ => .write [.text "GATEADDR ", .address] (some [.text "GATEADDR?"])
  | getDhcp | getNetworkDhcp => .read [[.text "DHCP?"]]
  | setDhcp _ | setNetworkDhcp _ => .write [.text "DHCP ", .state] (some [.text "DHCP?"])
  | networkSettings =>
    .read [[.text "IPADDR?"], [.text "MASKADDR?"], [.text "GATEADDR?"], [.text "DHCP?"]]
  | sav _ | saveSetup _ => .write [.text "*SAV ", .oneToFive] none
  | rcl _ | recallSetup _ => .write [.text "*RCL ", .oneToFive] none
  | locked => .read [[.text "*LOCK?"]]
  | lock => .write [.text "*LOCK"] (some [.text "*LOCK?"])
  | unlock => .write [.text "*UNLOCK"] (some [.text "*LOCK?"])

/-- An operation has commands of the form, and its parsers raise only what responses make them
    raise. -/
inductive Operation.Documented : Form → Operation → Prop
  | write {fields : List Field} {readback : Option (List Field)} {command : PyStr}
    {verification : Option Verification} {reason : Option PyStr} (hcommand : Matches fields command)
    (hreadback : ∀ v ∈ verification, ∀ b ∈ v.readback, ∃ query ∈ readback, Matches query b.query) :
    Documented (.write fields readback) (.write none command verification reason)
  | read {queries : List (List Field)} {commands : List PyStr} {hne : commands ≠ []}
    {parser : Parser (List PyStr) .exception} (hcommands : List.Forall₂ Matches queries commands)
    (hparser : ∀ responses, Raises ResponseError (parser.parse responses)) :
    Documented (.read queries) (.read commands hne parser)

section
variable {fields query : List Field} {readback : Option (List Field)} {command q : PyStr}

theorem documented_write {expected : PyVal} {parse : PyStr → Except PyExc PyVal}
    {h : ∀ response, Raises ReadbackError (parse response)} (hcommand : Matches fields command)
    (hquery : Matches query q) : Operation.Documented (.write fields (some query))
      (writeOf command (verifiedBy q expected parse h)) := by
  refine .write hcommand ?_
  rintro _ ⟨⟩ _ ⟨⟩
  exact ⟨query, rfl, hquery⟩

/-- A write that is not verified. -/
theorem documented_unverified {reason : Option PyStr} (hcommand : Matches fields command) :
    Operation.Documented (.write fields readback) (.write none command none reason) :=
  .write hcommand fun v hv => absurd hv (Option.not_mem_none v)

theorem documented_query {parse : PyStr → Except PyExc PyVal}
    {h : ∀ response, Raises ResponseError (parse response)} (hcommand : Matches fields command) :
    Operation.Documented (.read [fields]) (queryOf command parse h) :=
  .read (.cons hcommand .nil) (firstOf_raises h)

theorem matches_text (s : PyStr) : Matches [.text s] s :=
  ⟨[s], .cons rfl .nil, (List.append_nil s).symm⟩

/-- One more field at the end. -/
theorem Matches.snoc {f : Field} {t : PyStr} (h : Matches fields command) (ht : f.Admits t) :
    Matches (fields ++ [f]) (command ++ t) := by
  obtain ⟨parts, hparts, rfl⟩ := h
  refine ⟨parts ++ [t], List.rel_append hparts (.cons ht .nil), ?_⟩
  rw [List.flatten_append, List.flatten_singleton]

/-- A fixed text at the end. -/
theorem Matches.text (h : Matches fields command) (s : PyStr) :
    Matches (fields ++ [.text s]) (command ++ s) :=
  h.snoc rfl

end

/-! ## Methods -/

section
variable [PyText] (m : Model)

/-- The getter and the setter of a setpoint. -/
theorem channel_gives (quantity : Quantity) (mnemonic : PyStr) (c : ProgrammableChannel)
    (value : PyArg) :
    Gives (Operation.Documented
      (.read [[.text c.channel.value, .text (lit ":" ++ mnemonic ++ lit "?")]])) (c.get mnemonic) ∧
    Gives (Operation.Documented
      (.write [.text c.channel.value, .text (lit ":" ++ mnemonic ++ lit " "), .number]
        (some [.text c.channel.value, .text (lit ":" ++ mnemonic ++ lit "?")])))
      (c.set quantity mnemonic m value) := by
  have hmatches : ∀ t, Matches [.text c.channel.value, .text (lit ":" ++ mnemonic ++ t)]
      (c.channel.value ++ lit ":" ++ mnemonic ++ t) := by
    intro t
    have heq : c.channel.value ++ lit ":" ++ mnemonic ++ t =
        c.channel.value ++ (lit ":" ++ mnemonic ++ t) := by simp only [List.append_assoc]
    rw [heq]
    exact (matches_text _).text _
  refine ⟨.ok (documented_query (hmatches _)), ?_⟩
  exact (render_gives m (.setpoint quantity) value).bind fun text htext =>
    (Gives.trivial _).bind fun expected _ =>
      .ok (documented_write ((hmatches _).snoc htext) (hmatches _))

theorem measure_gives (mnemonic : PyStr) (channel : PyArg) :
    Gives (Operation.Documented (.read [[.text (mnemonic ++ lit " "), .channel true]]))
      (Measure.query mnemonic channel) := by
  refine (requireChannel_gives channel true).bind fun c hc => .ok (documented_query ?_)
  exact (matches_text _).snoc hc

omit [PyText] in
theorem matches_state (command : PyStr) {f : Field} {c : Channel} (hc : f.Admits c.value)
    (s : SwitchState) :
    Matches (stateFields command f) (command ++ c.value ++ lit "," ++ s.value) :=
  (((matches_text command).snoc hc).text ",").snoc (Field.admits_state s)

theorem output_gives {f : Field} (channel state : PyArg)
    (hf : Gives (fun c => f.Admits c.value) (requireChannel channel false)) :
    Gives (Operation.Documented (.write (stateFields "OUTP " f) (some [.text "SYST:STAT?"])))
      (Output.call m channel state) := by
  refine hf.bind fun c hc => (Gives.trivial _).bind fun s _ => ?_
  have hcommand := matches_state "OUTP " hc s
  dsimp only
  split_ifs
  · refine .ok (.write hcommand ?_)
    rintro _ ⟨⟩ _ ⟨⟩
  · exact .ok (documented_write hcommand (matches_text _))

theorem wave_gives (channel state : PyArg) :
    Gives (Operation.Documented
      (.write (stateFields "OUTP:WAVE " (.channel true)) (some [.text "SYST:STAT?"])))
      (Output.wave m channel state) := by
  refine (Gives.trivial _).bind fun _ _ => (requireChannel_gives channel true).bind fun c hc =>
    (Gives.trivial _).bind fun s _ => .ok (documented_write ?_ (matches_text _))
  exact matches_state _ hc s

theorem timer_gives (channel state : PyArg) :
    Gives (Operation.Documented
      (.write (stateFields "TIMER " (.channel true)) (some [.text "SYST:STAT?"])))
      (Timer.call m channel state) := by
  refine (Gives.trivial _).bind fun _ _ => (requireChannel_gives channel true).bind fun c hc =>
    (Gives.trivial _).bind fun s _ => .ok (documented_write ?_ (matches_text _))
  exact matches_state _ hc s

theorem timerSet_gives (channel group voltage current duration : PyArg) :
    Gives (Operation.Documented
      (SemanticCall.timerSet channel group voltage current duration).form)
      (Timer.set m channel group voltage current duration) := by
  refine (Gives.trivial _).bind fun _ _ => (requireChannel_gives channel true).bind fun c hc =>
    (requireOneToFive_gives _ group).bind fun g hg => ?_
  have hquery : Matches timerSetFields (Timer.stepQuery c g) :=
    (((matches_text _).snoc hc).text ",").snoc hg
  unfold SemanticCall.form
  dsimp only
  split_ifs
  · exact .ok (documented_query hquery)
  · exact .error _
  · refine (render_gives m (.setpoint .voltage) voltage).bind fun v hv =>
      (render_gives m (.setpoint .current) current).bind fun i hi =>
      (render_gives m .duration duration).bind fun d hd => (Gives.trivial _).bind fun _ _ =>
      (Gives.trivial _).bind fun _ _ => (Gives.trivial _).bind fun _ _ =>
      .ok (documented_write ?_ hquery)
    have hhead : Matches [.text "TIMER:SET ", .channel true, .text ",", .oneToFive]
        (lit "TIMER:SET " ++ c.value ++ lit "," ++ digitsText g.toNat) :=
      (((matches_text _).snoc hc).text ",").snoc hg
    exact (((((hhead.text ",").snoc hv).text ",").snoc hi).text ",").snoc hd

section
variable {parse : PyStr → Except PyExc PyStr}
  (hparse : ∀ response, Raises ProtocolError (parse response))

omit [PyText] in
theorem getAddress_gives (name command : PyStr) :
    Gives (Operation.Documented (.read [[.text command]]))
      (SPD3000.getAddress parse hparse name command m) :=
  (Gives.trivial _).bind fun _ _ => .ok (documented_query (matches_text _))

omit [PyText] in
theorem setAddress_gives {f : Field} (name mnemonic : PyStr) {check : PyArg → Except PyExc PyStr}
    (hcheck : ∀ value, Gives f.Admits (check value)) (value : PyArg) :
    Gives (Operation.Documented
      (.write [.text (mnemonic ++ lit " "), f] (some [.text (mnemonic ++ lit "?")])))
      (SPD3000.setAddress parse hparse name mnemonic check m value) := by
  refine (Gives.trivial _).bind fun _ _ => (hcheck value).bind fun expected hexpected =>
    .ok (documented_write ?_ (matches_text _))
  exact (matches_text _).snoc hexpected

end

theorem getDhcp_gives :
    Gives (Operation.Documented (.read [[.text "DHCP?"]])) (SPD3000.getDhcp m) :=
  (Gives.trivial _).bind fun _ _ => .ok (documented_query (matches_text _))

theorem setDhcp_gives (value : PyArg) :
    Gives (Operation.Documented (.write [.text "DHCP ", .state] (some [.text "DHCP?"])))
      (SPD3000.setDhcp m value) := by
  refine (Gives.trivial _).bind fun _ _ => (Gives.trivial _).bind fun enabled _ =>
    .ok (documented_write ?_ (matches_text _))
  cases enabled with
  | false => exact (matches_text _).snoc (Field.admits_state .off)
  | true => exact (matches_text _).snoc (Field.admits_state .on)

omit [PyText] in
/-- A write of a memory slot. -/
theorem slot_gives (command : PyStr) (reason : Option PyStr) (value : PyArg) :
    Gives (Operation.Documented (.write [.text command, .oneToFive] none))
      (do
        let i ← slot value
        return .write none (command ++ digitsText i.toNat) none reason) :=
  (requireOneToFive_gives _ value).bind fun _ hi =>
    .ok (documented_unverified ((matches_text _).snoc hi))

theorem setLocked_gives (command : PyStr) (expected : Bool) :
    Gives (Operation.Documented (.write [.text command] (some [.text "*LOCK?"])))
      (SPD3000.setLocked command expected m) := by
  unfold SPD3000.setLocked
  split_ifs
  · exact .ok (documented_write (matches_text _) (matches_text _))
  · exact .ok (documented_unverified (matches_text _))

/-- **Documented commands.**  A method whose arguments are accepted calls the driver with commands
    of the documented forms. -/
theorem method_documented (op : SemanticCall) :
    Gives (Operation.Documented op.form) (op.method m) := by
  cases op with
  | getVoltage c => exact (channel_gives m .voltage "VOLT" c .none).1
  | setVoltage c value => exact (channel_gives m .voltage "VOLT" c value).2
  | getCurrent c => exact (channel_gives m .current "CURR" c .none).1
  | setCurrent c value => exact (channel_gives m .current "CURR" c value).2
  | getOutput c =>
    simp only [SemanticCall.method, Output.read]
    split_ifs
    · exact .error _
    · exact .ok (documented_query (matches_text _))
  | setOutput c state =>
    exact (Gives.trivial _).bind fun _ _ => output_gives m _ _ (.ok rfl)
  | measureVoltage channel => exact measure_gives _ channel
  | measureCurrent channel => exact measure_gives _ channel
  | measurePower channel => exact (Gives.trivial _).bind fun _ _ => measure_gives _ channel
  | output channel state => exact output_gives m _ _ (requireChannel_gives channel false)
  | outputTrack mode =>
    exact (requireTrackingMode_gives mode).bind fun _ hmode =>
      .ok (documented_write ((matches_text _).snoc hmode) (matches_text _))
  | outputWave channel state => exact wave_gives m channel state
  | timer channel state => exact timer_gives m channel state
  | timerSet channel group voltage current duration => exact timerSet_gives m _ _ _ _ _
  | systemError => exact .ok (documented_query (matches_text _))
  | systemVersion => exact .ok (documented_query (matches_text _))
  | systemStatus => exact .ok (documented_query (matches_text _))
  | idn => exact .ok (documented_query (matches_text _))
  | getInstrument => exact .ok (documented_query (matches_text _))
  | setInstrument value =>
    exact (requireChannel_gives value true).bind fun _ hc =>
      .ok (documented_write ((matches_text _).snoc hc) (matches_text _))
  | getIpaddr | getHost => exact getAddress_gives m (parseIpv4Address_raises _) _ _
  | setIpaddr value | setHost value =>
    exact setAddress_gives m (parseIpv4Address_raises _) _ "IPADDR" requireIpv4Address_gives value
  | getMaskaddr | getSubnetMask => exact getAddress_gives m parseSubnetMask_raises _ _
  | setMaskaddr value | setSubnetMask value =>
    exact setAddress_gives m parseSubnetMask_raises _ "MASKADDR" requireSubnetMask_gives value
  | getGateaddr | getGateway => exact getAddress_gives m (parseIpv4Address_raises _) _ _
  | setGateaddr value | setGateway value =>
    exact setAddress_gives m (parseIpv4Address_raises _) _ "GATEADDR" requireIpv4Address_gives value
  | getDhcp | getNetworkDhcp => exact getDhcp_gives m
  | setDhcp value | setNetworkDhcp value => exact setDhcp_gives m value
  | networkSettings =>
    exact (Gives.trivial _).bind fun _ _ => .ok (.read (.cons (matches_text _)
      (.cons (matches_text _) (.cons (matches_text _) (.cons (matches_text _) .nil))))
      SPD3000.networkSettings_raises)
  | sav value | saveSetup value => exact slot_gives _ _ value
  | rcl value | recallSetup value => exact slot_gives _ _ value
  | locked =>
    exact (Gives.trivial _).bind fun _ _ => .ok (documented_query (matches_text _))
  | lock => exact setLocked_gives m _ _
  | unlock => exact setLocked_gives m _ _

end

/-- The commands of a form. -/
def Form.commands : Form → List (List Field)
  | write command readback => command :: readback.toList
  | read queries => queries

/-- The driver can send commands of the documented forms. -/
theorem form_sendable (op : SemanticCall) : op.form.commands.all sendable := by
  cases op with
  | getVoltage c | setVoltage c value | getCurrent c | setCurrent c value =>
    obtain ⟨c, hc⟩ := c
    cases c <;> rfl
  | setOutput c state => cases c <;> rfl
  | timerSet channel group voltage current duration =>
    rw [SemanticCall.form]
    split_ifs <;> rfl
  | _ => rfl

/-! ## Pending operations -/

/-- The commands of a pending operation are of the form. -/
inductive PendingOperation.HasForm : Form → PendingOperation → Prop
  | write {fields : List Field} {readback : Option (List Field)} {w : PendingWrite}
    (hcommand : Matches fields w.command)
    (hreadback : ∀ b ∈ w.readback, ∃ query ∈ readback, Matches query b.query) :
    HasForm (.write fields readback) (.write w)
  | read {queries : List (List Field)} {r : PendingRead}
    (hcommands : List.Forall₂ Matches queries r.commands) : HasForm (.read queries) (.read r)

section
variable {form : Form}

theorem Operation.Documented.pending {o : Operation} (h : o.Documented form) (verify : Bool)
    (i : ℕ) : (o.pending verify i).HasForm form := by
  cases h with
  | read hcommands hparser => exact .read hcommands
  | @write fields readback command verification reason hcommand hreadback =>
    refine .write hcommand fun b hb => ?_
    -- without a verification of its own, a write has no readback
    obtain ⟨v, hv, hvb⟩ := Option.bind_eq_some_iff.1 hb
    cases verify with
    | false => cases hv
    | true =>
      cases verification with
      | none =>
        cases hv
        cases hvb
      | some v' =>
        cases hv
        exact hreadback _ rfl b hvb

theorem PendingOperation.HasForm.valid {p : PendingOperation} (h : p.HasForm form)
    (hform : form.commands.all sendable) : p.Valid := by
  rw [List.all_eq_true] at hform
  intro c hc
  cases h with
  | @write fields readback w hcommand hreadback =>
    rcases List.mem_cons.1 hc with rfl | hc
    · exact hcommand.valid (hform _ List.mem_cons_self)
    · obtain ⟨b, hb, rfl⟩ := List.mem_map.1 hc
      obtain ⟨query, hquery, hmatches⟩ := hreadback b (Option.mem_toList.1 hb)
      exact hmatches.valid (hform _ (List.mem_cons_of_mem _ (Option.mem_toList.2 hquery)))
  | @read queries r hcommands =>
    obtain ⟨text, htext, rfl⟩ := List.mem_map.1 hc
    dsimp only [Form.commands] at hform ⊢
    generalize r.commands = commands at hcommands htext
    induction hcommands with
    | nil => cases htext
    | cons hmatches _ ih =>
      rw [List.forall_mem_cons] at hform
      rcases List.mem_cons.1 htext with rfl | htext
      · exact hmatches.valid hform.1
      · exact ih hform.2 htext

end

end Spd3000
