/-
  What responses show: the settings of the instrument, the query that asks for
  each, and the documented forms of its answer.

  A `Setting` is one thing on the front panel, with a type of values of its own.
  `Shows` says that a response shows a value, and `toVal` is the value as the driver
  sees it.  `method_concerns` connects the methods to the settings: a getter returns
  the value that the response shows, and a setter compares it with the value that
  was requested.
-/
import Spd3000.Doubles
import Spd3000.Forms
import Spd3000.Netmasks

namespace Spd3000

open Decimals

/-! ## Settings -/

inductive Setting where
  | voltage (c : Channel)
  | current (c : Channel)
  | output (c : Channel)
  | tracking
  | waveform (c : Channel)
  | timer (c : Channel)
  | timerStep (c : Channel) (group : ℤ)
  | instrument
  | ipaddr
  | maskaddr
  | gateaddr
  | dhcp
  | locked
  deriving DecidableEq

namespace Setting

/-- The values of a setting; those of a step are voltage, current and duration. -/
@[reducible] def Value : Setting → Type
  | voltage _ | current _ => ℚ
  | output _ | waveform _ | timer _ | dhcp | locked => Bool
  | tracking => OperatingMode
  | timerStep _ _ => ℚ × ℚ × ℚ
  | instrument => Channel
  | ipaddr | maskaddr | gateaddr => ℕ

/-- The query that asks for the setting. -/
def query : Setting → PyStr
  | voltage c => c.value ++ lit ":" ++ lit "VOLT" ++ lit "?"
  | current c => c.value ++ lit ":" ++ lit "CURR" ++ lit "?"
  | output _ | tracking | waveform _ | timer _ => "SYST:STAT?"
  | timerStep c group => Timer.stepQuery c group
  | instrument => "INST?"
  | ipaddr => lit "IPADDR" ++ lit "?"
  | maskaddr => lit "MASKADDR" ++ lit "?"
  | gateaddr => lit "GATEADDR" ++ lit "?"
  | dhcp => "DHCP?"
  | locked => "*LOCK?"

/-- The instrument can be asked for the setting. -/
def Readable (m : Model) : Setting → Prop
  | voltage c | current c | output c => c ≠ .ch3
  | tracking | instrument => True
  | waveform c => c ≠ .ch3 ∧ m.capabilities.waveform
  | timer c => c ≠ .ch3 ∧ m.capabilities.timer
  | timerStep c _ => c ≠ .ch3 ∧ m.capabilities.timer
  | ipaddr | maskaddr | gateaddr | dhcp => m.capabilities.network
  | locked => m.capabilities.lockQuery

/-- The numbers of the value have few decimal places, and a mask is ones followed by zeros. -/
def Brief : (s : Setting) → s.Value → Prop
  | voltage _, x | current _, x => Short x
  | timerStep _ _, (v, i, t) => Short v ∧ Short i ∧ Short t
  | maskaddr, mask => Masks.Contiguous 32 mask
  | _, _ => True

/-- The value as the driver sees it. -/
def toVal : (s : Setting) → s.Value → PyVal
  | voltage _, x | current _, x => .float (floatOfRat x)
  | output _, b | waveform _, b | timer _, b | dhcp, b | locked, b => .bool b
  | tracking, mode => .str mode.value
  | timerStep _ _, (v, i, t) => Spd3000.timerStep (floatOfRat v) (floatOfRat i) (floatOfRat t)
  | instrument, c => .str c.value
  | ipaddr, ip | maskaddr, ip | gateaddr, ip => .str (addressText ip)

end Setting

/-- The number that an argument shows, if it is finite. -/
def PyArg.shown (a : PyArg) : Option ℚ := a.asReal.bind PyReal.shownValue

/-! ## Responses -/

def switchWords : Bool → List PyStr
  | true => ["1", "ON", "TRUE"]
  | false => ["0", "OFF", "FALSE"]

/-- A word for a switch, in small or capital letters. -/
def Means (b : Bool) (text : PyStr) : Prop := upper (strip text) ∈ switchWords b

/-- The bit of CH1 or CH2 in a status word. -/
def Channel.bit (c : Channel) (first second : ℕ) (raw : ℤ) : Bool :=
  Spd3000.bit raw (if c = .ch1 then first else second)

/-- The response to the query of a setting shows the value. -/
def Setting.Shows : (s : Setting) → s.Value → PyStr → Prop
  | voltage _, x, r | current _, x, r => Literal (strip r) x
  | output c, b, r => ∃ raw, intLiteral (strip r) = some raw ∧ c.bit 4 5 raw = b
  | timer c, b, r => ∃ raw, intLiteral (strip r) = some raw ∧ c.bit 6 7 raw = b
  | waveform c, b, r => ∃ raw, intLiteral (strip r) = some raw ∧ c.bit 8 9 raw = b
  | tracking, mode, r => ∃ raw, intLiteral (strip r) = some raw ∧ operatingModeOf raw = mode
  | timerStep _ _, (v, i, t), r => ∃ v' i' t', (split 44 r).map strip = [v', i', t'] ∧
      Literal v' v ∧ Literal i' i ∧ Literal t' t
  | instrument, c, r => c ≠ .ch3 ∧ upper (strip r) = c.value
  | ipaddr, ip, r | maskaddr, ip, r | gateaddr, ip, r => ipv4Address (strip r) = some ip
  | dhcp, b, r => Means b r ∨ ∃ word, strip r = lit "DHCP:" ++ word ∧ Means b word
  | locked, b, r => Means b r ∨ upper (strip r) = if b then lit "LOCK" else lit "UNLOCK"

/-- A parser reads the responses to the query of a setting. -/
def Setting.ReadBy (s : Setting) (parse : PyStr → Except PyExc PyVal) : Prop :=
  ∀ value response, s.Brief value → s.Shows value response →
    parse response = .ok (s.toVal value)

section
variable [PyText]

/-! ### Numbers -/

theorem parseFloat_literal (command : PyStr) {response : PyStr} {x : ℚ} (hx : Short x)
    (h : Literal (strip response) x) : parseFloat command response = .ok (floatOfRat x) := by
  obtain ⟨q, hq, -⟩ := floatOfRat_close hx.1
  rw [parseFloat, h.float, hq]

theorem voltage_readBy (c : Channel) (command : PyStr) :
    (Setting.voltage c).ReadBy (floatResponse command) := by
  intro x response hx hliteral
  rw [floatResponse, parseFloat_literal command hx hliteral]
  rfl

theorem current_readBy (c : Channel) (command : PyStr) :
    (Setting.current c).ReadBy (floatResponse command) := voltage_readBy c command

theorem timerStep_readBy (c : Channel) (group : ℤ) :
    (Setting.timerStep c group).ReadBy parseTimerStep := by
  rintro ⟨v, i, t⟩ response ⟨hv, hi, ht⟩ ⟨v', i', t', hparts, hv', hi', ht'⟩
  have hstrip : ∀ part ∈ (split 44 response).map strip, strip part = part := by
    intro part hpart
    obtain ⟨p, -, rfl⟩ := List.mem_map.1 hpart
    exact strip_strip p
  rw [hparts] at hstrip
  simp only [List.mem_cons, List.not_mem_nil, or_false, forall_eq_or_imp, forall_eq] at hstrip
  obtain ⟨hsv, hsi, hst⟩ := hstrip
  rw [parseTimerStep, hparts]
  dsimp only
  rw [parseFloat_literal _ hv (by rwa [hsv]), parseFloat_literal _ hi (by rwa [hsi]),
    parseFloat_literal _ ht (by rwa [hst])]
  rfl

/-! ### The status -/

theorem output_readBy (m : Model) (c : Channel) :
    (Setting.output c).ReadBy (statusResponse m fun status => .bool (status.channel c).output) := by
  rintro b response - ⟨raw, hraw, rfl⟩
  rw [statusResponse, parseStatus, hraw]
  cases c <;> rfl

theorem waveform_readBy {m : Model} (hm : m.capabilities.waveform) (c : Channel) :
    (Setting.waveform c).ReadBy
      (statusResponse m fun status => optionalBool (status.channel c).waveform) := by
  rintro b response - ⟨raw, hraw, rfl⟩
  rw [statusResponse, parseStatus, hraw]
  cases m with
  | spd3303C => cases hm
  | _ => cases c <;> rfl

theorem timer_readBy {m : Model} (hm : m.capabilities.timer) (c : Channel) :
    (Setting.timer c).ReadBy
      (statusResponse m fun status => optionalBool (status.channel c).timer) := by
  rintro b response - ⟨raw, hraw, rfl⟩
  rw [statusResponse, parseStatus, hraw]
  cases m with
  | spd3303C => cases hm
  | _ => cases c <;> rfl

theorem tracking_readBy (m : Model) :
    Setting.tracking.ReadBy (statusResponse m fun status => .str status.operatingMode.value) := by
  rintro mode response - ⟨raw, hraw, rfl⟩
  rw [statusResponse, parseStatus, hraw]
  rfl

/-! ### Channels and addresses -/

omit [PyText] in
theorem Channel.ofValue_value (c : Channel) : Channel.ofValue c.value = some c := by
  cases c <;> decide

omit [PyText] in
/-- The parser of the readback of `instrument`. -/
theorem requireChannel_readBy : Setting.instrument.ReadBy
    fun response => (requireChannel (.str response) true).map fun c => .str c.value := by
  rintro c response - ⟨hc, hvalue⟩
  have hselect : selectChannel (.str response) = .ok c := by
    unfold selectChannel
    dsimp only [PyArg.asStr]
    rw [hvalue, Channel.ofValue_value]
  dsimp only
  rw [requireChannel, hselect]
  dsimp only [Bind.bind, Except.bind]
  rw [if_neg fun h => hc h.2]
  rfl

theorem instrument_readBy : Setting.instrument.ReadBy instrumentResponse := by
  rintro c response - ⟨-, hvalue⟩
  rw [instrumentResponse, parseInstrument]
  rw [hvalue, Channel.ofValue_value]
  rfl

theorem address_readBy (command : PyStr) :
    Setting.ipaddr.ReadBy fun response => (parseIpv4Address command response).map .str := by
  rintro ip response - (hip : ipv4Address (strip response) = some ip)
  dsimp only
  rw [parseIpv4Address, parseAddress, hip]
  rfl

theorem maskaddr_readBy :
    Setting.maskaddr.ReadBy fun response => (parseSubnetMask response).map .str := by
  rintro mask response hmask (hip : ipv4Address (strip response) = some mask)
  dsimp only
  rw [parseSubnetMask, parseAddress, networkMask_contiguous hip hmask]
  rfl

/-! ### Switches -/

theorem Means.parseBool {b : Bool} {text : PyStr} (h : Means b text) (command : PyStr) :
    parseBool command text = .ok b := by
  rw [Spd3000.parseBool]
  cases b with
  | true => exact if_pos (List.contains_iff_mem.2 h)
  | false =>
    have hfalse : ∀ word ∈ switchWords false,
        [lit "1", lit "ON", lit "TRUE"].contains word = false := by decide
    rw [if_neg (by rw [hfalse _ h]; exact Bool.false_ne_true)]
    exact if_pos (List.contains_iff_mem.2 h)

theorem dhcp_readBy : Setting.dhcp.ReadBy dhcpResponse := by
  rintro b response - (h | ⟨word, hword, h⟩)
  · have hword : ∀ b, ∀ word ∈ switchWords b, (lit "DHCP:").isPrefixOf word = false := by decide
    have hstrip : Means b (strip response) := by rwa [Means, strip_strip]
    rw [dhcpResponse, parseDhcp]
    rw [if_neg (by rw [hword _ _ h]; exact Bool.false_ne_true), hstrip.parseBool]
    rfl
  · have hupper : (lit "DHCP:").isPrefixOf (upper (lit "DHCP:" ++ word)) = true := by
      have hcapital : upper (lit "DHCP:") = lit "DHCP:" := by decide
      rw [List.isPrefixOf_iff_prefix, upper, List.flatMap_append, ← upper, hcapital]
      exact List.prefix_append _ _
    rw [dhcpResponse, parseDhcp]
    rw [hword, if_pos hupper]
    exact congrArg (Except.map PyVal.bool) (h.parseBool "DHCP?")

theorem locked_readBy : Setting.locked.ReadBy lockResponse := by
  rintro b response - (h | h)
  · have hword : ∀ b, ∀ word ∈ switchWords b, word ≠ lit "LOCK" ∧ word ≠ lit "UNLOCK" := by decide
    obtain ⟨hlock, hunlock⟩ := hword _ _ h
    rw [lockResponse, parseLockState, if_neg hlock, if_neg hunlock, h.parseBool]
    rfl
  · rw [lockResponse, parseLockState, h]
    cases b <;> rfl

/-! ## Requests -/

omit [PyText] in
/-- Short numbers are not lost on the way to the command. -/
theorem Short.kept {x : ℚ} (hx : Short x) (hnonneg : 0 ≤ x) {m : Model} (n : Number) {v : PyReal}
    (hv : v.shownValue = some x) : ¬ (n.grid m).Loses v := by
  obtain ⟨hbound, k, hk⟩ := hx
  rw [abs_of_nonneg hnonneg] at hbound
  have hten : (0 : ℚ) < 10 ^ 10 := by norm_num
  rintro ⟨x', hx', hloses⟩
  cases hv.symm.trans hx'
  cases n with
  | duration =>
    have hk0 : (0 : ℚ) ≤ k := by
      rw [← hk]
      positivity
    have hnat : ((k.toNat : ℕ) : ℚ) = k := by
      exact_mod_cast Int.toNat_of_nonneg (Int.cast_nonneg_iff.1 hk0)
    have hetiny : defaultContext.etiny ≤ -10 := by decide
    refine hloses ⟨⟨k.toNat, -10⟩, ?_, hetiny, ?_⟩
    · have hle : ((k.toNat : ℕ) : ℚ) < (10 ^ 28 : ℕ) := by
        rw [hnat, ← hk]
        norm_num
        linarith
      exact Nat.cast_lt.1 hle
    · rw [Dec.value, hnat, ← hk, mul_assoc]
      norm_num
  | setpoint quantity =>
    obtain ⟨j, hj, hpos⟩ : ∃ j : ℤ, m.step * 10 ^ 10 = j ∧ 0 < m.step := by
      cases m with
      | spd3303X => exact ⟨10000000, by norm_num [Model.step], by norm_num [Model.step]⟩
      | _ => exact ⟨100000000, by norm_num [Model.step], by norm_num [Model.step]⟩
    obtain ⟨hexcess, htiny⟩ : 0 < excess x m.step ∧ 2 * excess x m.step ≤ 10 ^ etiny := by
      cases quantity <;> exact hloses
    -- what is off the grid is a multiple of the last place
    have hplaces : excess x m.step * 10 ^ 10 = ((k - j * ⌊x / m.step⌋₊ : ℤ) : ℚ) := by
      rw [excess, sub_mul, mul_right_comm, hk, hj]
      push_cast
      rfl
    have hone : (1 : ℚ) ≤ excess x m.step * 10 ^ 10 := by
      have hlt : (0 : ℚ) < excess x m.step * 10 ^ 10 := mul_pos hexcess hten
      rw [hplaces] at hlt ⊢
      exact_mod_cast Int.cast_pos.1 hlt
    have hetiny : (10 : ℚ) ^ etiny ≤ 10 ^ (-11 : ℤ) :=
      zpow_le_zpow_right₀ (by norm_num) (by decide)
    norm_num at hetiny
    linarith

omit [PyText] in
/-- A number is rendered if the argument is one. -/
theorem render_real (m : Model) (n : Number) (a : PyArg) :
    Gives (fun _ => ∃ v, a.asReal = some v) (n.render m a) := by
  have hformat : ∀ name minimum maximum resolution,
      Gives (fun _ => ∃ v, a.asReal = some v) (formatNumber name a minimum maximum resolution) := by
    intro name minimum maximum resolution
    cases h : a.asReal with
    | none =>
      unfold formatNumber
      rw [h]
      exact .error _
    | some v => exact fun _ _ => ⟨v, rfl⟩
  cases n with
  | setpoint quantity => cases quantity <;> exact hformat _ _ _ _
  | duration => exact hformat _ _ _ _

omit [PyText] in
/-- The text of a short number shows the number. -/
theorem render_literal (m : Model) (n : Number) (a : PyArg) :
    Gives (fun text => ∃ x, a.shown = some x ∧ (Short x → Literal text x)) (n.render m a) := by
  intro text htext
  obtain ⟨v, hreal⟩ := render_real m n a text htext
  have hrendered := render_rendered m n ⟨a, v, hreal⟩
  rw [htext] at hrendered
  cases hrendered with
  | accepted hlong hrefuses hplain hfloat hexact =>
    cases hshown : v.shownValue with
    | none => exact absurd ⟨hlong, fun x hx => absurd (hshown.symm.trans hx) nofun⟩ hrefuses
    | some x =>
      refine ⟨x, by rw [PyArg.shown, hreal]; exact hshown, fun hx => ?_⟩
      rw [Grid.refuses_iff hshown hlong, not_forall] at hrefuses
      obtain ⟨hnonneg, -⟩ := hrefuses
      obtain ⟨x', hx', hplain, -⟩ := hexact.2 (hx.kept hnonneg n hshown)
      cases hshown.symm.trans hx'
      exact .plain hplain

/-! ## Calls -/

/-- The mode that the status shows for a tracking mode. -/
def TrackingMode.operating : TrackingMode → OperatingMode
  | independent => .independent
  | series => .series
  | parallel => .parallel

/-- The mask that a text asks for, as an address or as a prefix length. -/
def maskOf (text : PyStr) : Option ℕ := (ipv4Address text).or (networkMask text)

namespace SemanticCall

/-- The setting that a call writes, with the requested value. -/
def requested : SemanticCall → Option (Σ s : Setting, s.Value)
  | setVoltage c value => value.shown.map fun x => ⟨.voltage c.channel, x⟩
  | setCurrent c value => value.shown.map fun x => ⟨.current c.channel, x⟩
  | setOutput c (.bool b) => some ⟨.output c, b⟩
  | output channel state => do
    let c ← (requireChannel channel false).toOption
    let s ← (requireOutputState state).toOption
    return ⟨.output c, decide (s = .on)⟩
  | outputTrack mode =>
    (requireTrackingMode mode).toOption.map fun mode => ⟨.tracking, mode.operating⟩
  | outputWave channel state => do
    let c ← (requireChannel channel true).toOption
    let s ← (requireWaveformState state).toOption
    return ⟨.waveform c, decide (s = .on)⟩
  | timer channel state => do
    let c ← (requireChannel channel true).toOption
    let s ← (requireTimerState state).toOption
    return ⟨.timer c, decide (s = .on)⟩
  | timerSet channel group voltage current duration => do
    let c ← (requireChannel channel true).toOption
    let group ← (requireTimerGroup group).toOption
    let v ← voltage.shown
    let i ← current.shown
    let t ← duration.shown
    return ⟨.timerStep c group, (v, i, t)⟩
  | setInstrument value => (requireChannel value true).toOption.map fun c => ⟨.instrument, c⟩
  | setIpaddr value | setHost value =>
    (value.asStr.bind ipv4Address).map fun ip => ⟨.ipaddr, ip⟩
  | setMaskaddr value | setSubnetMask value =>
    (value.asStr.bind maskOf).map fun mask => ⟨.maskaddr, mask⟩
  | setGateaddr value | setGateway value =>
    (value.asStr.bind ipv4Address).map fun ip => ⟨.gateaddr, ip⟩
  | setDhcp (.bool b) | setNetworkDhcp (.bool b) => some ⟨.dhcp, b⟩
  | lock => some ⟨.locked, true⟩
  | unlock => some ⟨.locked, false⟩
  | _ => none

/-- The setting that a call asks for. -/
def asks : SemanticCall → Option Setting
  | getVoltage c => some (.voltage c.channel)
  | getCurrent c => some (.current c.channel)
  | getOutput c => some (.output c)
  | timerSet channel group .none .none .none => do
    let c ← (requireChannel channel true).toOption
    let group ← (requireTimerGroup group).toOption
    return .timerStep c group
  | getInstrument => some .instrument
  | getIpaddr | getHost => some .ipaddr
  | getMaskaddr | getSubnetMask => some .maskaddr
  | getGateaddr | getGateway => some .gateaddr
  | getDhcp | getNetworkDhcp => some .dhcp
  | locked => some .locked
  | _ => none

end SemanticCall

/-- What the operation of a call does about the setting that the call writes or asks for. -/
inductive Operation.Concerns (m : Model) (call : SemanticCall) : Operation → Prop
  /-- The write is verified by what a response shows of the setting. -/
  | verified {command : PyStr} {verification : Verification} {readback : Readback} {s : Setting}
    {value : s.Value} (hrequested : call.requested = some ⟨s, value⟩) (hs : s.Readable m)
    (hreadback : verification.readback = some readback) (hquery : readback.query = s.query)
    (hparse : s.ReadBy readback.parser.parse)
    (hexpected : s.Brief value → verification.expected = s.toVal value) :
    Concerns m call (.write none command (some verification) none)
  /-- The write has no readback, since the instrument cannot be asked for the setting. -/
  | unverified {command : PyStr} {verification : Option Verification} {reason : Option PyStr}
    (hreadback : ∀ v ∈ verification, v.readback = none)
    (hrequested : ∀ s value, call.requested = some ⟨s, value⟩ → ¬ s.Readable m) :
    Concerns m call (.write none command verification reason)
  | read {commands : List PyStr} {nonempty : commands ≠ []}
    {parser : Parser (List PyStr) .exception}
    (hasks : ∀ s, call.asks = some s → s.Readable m ∧ commands = [s.query] ∧
      s.ReadBy fun response => parser.parse [response]) :
    Concerns m call (.read commands nonempty parser)

omit [PyText] in
/-- A result is what the check gives. -/
theorem Gives.self {α : Type} (r : Except PyExc α) : Gives (fun a => r = .ok a) r := fun _ h => h

namespace Operation.Concerns
variable {m : Model} {call : SemanticCall}

omit [PyText] in
/-- A write that a query verifies. -/
theorem verifiedBy {s : Setting} {v : s.Value} {command query : PyStr} {expected : PyVal}
    {parse : PyStr → Except PyExc PyVal} {h : ∀ response, Raises ReadbackError (parse response)}
    (hrequested : call.requested = some ⟨s, v⟩) (hs : s.Readable m) (hquery : query = s.query)
    (hparse : s.ReadBy parse) (hexpected : s.Brief v → expected = s.toVal v) :
    Concerns m call (writeOf command (Spd3000.verifiedBy query expected parse h)) :=
  .verified hrequested hs rfl hquery hparse hexpected

/-- A write that the status verifies. -/
theorem verifiedByStatus {s : Setting} {v : s.Value} {command : PyStr} {expected : PyVal}
    {select : SystemStatus → PyVal} (hrequested : call.requested = some ⟨s, v⟩)
    (hs : s.Readable m) (hquery : lit "SYST:STAT?" = s.query)
    (hparse : s.ReadBy (statusResponse m select)) (hexpected : expected = s.toVal v) :
    Concerns m call (writeOf command (Spd3000.verifiedByStatus m expected select)) :=
  .verified hrequested hs rfl hquery hparse fun _ => hexpected

omit [PyText] in
theorem query {command : PyStr} {parse : PyStr → Except PyExc PyVal}
    {h : ∀ response, Raises ResponseError (parse response)}
    (hasks : ∀ s, call.asks = some s → s.Readable m ∧ command = s.query ∧ s.ReadBy parse) :
    Concerns m call (queryOf command parse h) := by
  refine .read fun s hs => ?_
  obtain ⟨hreadable, rfl, hparse⟩ := hasks s hs
  exact ⟨hreadable, rfl, hparse⟩

omit [PyText] in
/-- A query that asks for a setting. -/
theorem asking {s : Setting} {command : PyStr} {parse : PyStr → Except PyExc PyVal}
    {h : ∀ response, Raises ResponseError (parse response)} (hasks : call.asks = some s)
    (hs : s.Readable m) (hquery : command = s.query) (hparse : s.ReadBy parse) :
    Concerns m call (queryOf command parse h) := by
  refine .query fun s' hs' => ?_
  rw [hasks] at hs'
  cases hs'
  exact ⟨hs, hquery, hparse⟩

omit [PyText] in
/-- A read of something else. -/
theorem other {commands : List PyStr} {nonempty : commands ≠ []}
    {parser : Parser (List PyStr) .exception} (hasks : call.asks = none) :
    Concerns m call (.read commands nonempty parser) := by
  refine .read fun s hs => ?_
  rw [hasks] at hs
  cases hs

end Operation.Concerns

section
variable {m : Model} {call : SemanticCall}

theorem floatOfStr_gives (text : PyStr) :
    Gives (fun f => floatOfText text = some f) (floatOfStr text) := by
  unfold floatOfStr
  split
  · rename_i f hf
    exact .ok hf
  · exact .error _

/-- The setter of a setpoint. -/
theorem set_concerns {quantity : Quantity} {mnemonic : PyStr} {c : ProgrammableChannel}
    {value : PyArg} {s : Setting} (of : ℚ → s.Value)
    (hrequested : ∀ x, value.shown = some x → call.requested = some ⟨s, of x⟩)
    (hs : s.Readable m) (hquery : c.channel.value ++ lit ":" ++ mnemonic ++ lit "?" = s.query)
    (hparse : ∀ command, s.ReadBy (floatResponse command))
    (hbrief : ∀ x, s.Brief (of x) → Short x ∧ s.toVal (of x) = .float (floatOfRat x)) :
    Gives (Operation.Concerns m call) (c.set quantity mnemonic m value) := by
  refine (render_literal m (.setpoint quantity) value).bind fun text ⟨x, hx, hliteral⟩ =>
    (floatOfStr_gives text).bind fun f hf =>
      .ok (.verifiedBy (hrequested x hx) hs hquery (hparse _) fun h => ?_)
  obtain ⟨hshort, hval⟩ := hbrief x h
  rw [hval, Option.some.inj (hf.symm.trans (hliteral hshort).float)]

theorem output_concerns {channel state : PyArg} (hrequested : ∀ c s,
    requireChannel channel false = .ok c → requireOutputState state = .ok s →
      call.requested = some ⟨.output c, decide (s = .on)⟩) :
    Gives (Operation.Concerns m call) (Output.call m channel state) := by
  refine (Gives.self _).bind fun c hc => (Gives.self _).bind fun s hs => ?_
  dsimp only
  split_ifs with hch3
  · refine .ok (.unverified ?_ fun s' value hs' => ?_)
    · rintro _ ⟨⟩
      rfl
    · rw [hrequested c s hc hs] at hs'
      cases hs'
      exact fun hreadable => hreadable hch3
  · exact .ok (.verifiedByStatus (hrequested c s hc hs) hch3 rfl (output_readBy m c) rfl)

omit [PyText] in
theorem programmable_gives (value : PyArg) :
    Gives (fun c => requireChannel value true = .ok c ∧ c ≠ .ch3) (requireChannel value true) := by
  intro c hc
  refine ⟨hc, ?_⟩
  rintro rfl
  rw [requireChannel] at hc
  cases hselect : selectChannel value with
  | error e =>
    rw [hselect] at hc
    cases hc
  | ok c =>
    rw [hselect] at hc
    dsimp only [Bind.bind, Except.bind] at hc
    split_ifs at hc with hch3
    cases hc
    exact hch3 ⟨rfl, rfl⟩

omit [PyText] in
theorem require_gives (capability : Bool) (command : PyStr) :
    Gives (fun _ => capability = true) (require m capability command) := by
  unfold require
  split_ifs with h
  · exact .ok h
  · exact .error _

theorem wave_concerns (channel state : PyArg) :
    Gives (Operation.Concerns m (.outputWave channel state)) (Output.wave m channel state) := by
  refine (require_gives _ _).bind fun _ hm => (programmable_gives channel).bind fun c ⟨hc, hne⟩ =>
    (Gives.self _).bind fun s hs =>
      .ok (.verifiedByStatus (s := .waveform c) (v := decide (s = .on)) ?_ ⟨hne, hm⟩ rfl
        (waveform_readBy hm c) rfl)
  rw [SemanticCall.requested, hc, hs]
  rfl

theorem timer_concerns (channel state : PyArg) :
    Gives (Operation.Concerns m (.timer channel state)) (Timer.call m channel state) := by
  refine (require_gives _ _).bind fun _ hm => (programmable_gives channel).bind fun c ⟨hc, hne⟩ =>
    (Gives.self _).bind fun s hs =>
      .ok (.verifiedByStatus (s := .timer c) (v := decide (s = .on)) ?_ ⟨hne, hm⟩ rfl
        (timer_readBy hm c) rfl)
  rw [SemanticCall.requested, hc, hs]
  rfl

theorem track_concerns (mode : PyArg) :
    Gives (Operation.Concerns m (.outputTrack mode)) (Output.track m mode) := by
  refine (Gives.self _).bind fun selected hselected =>
    .ok (.verifiedByStatus (s := .tracking) (v := selected.operating) ?_ ⟨⟩ rfl
      (tracking_readBy m) ?_)
  · rw [SemanticCall.requested, hselected]
    rfl
  · cases selected <;> rfl

omit [PyText] in
theorem isNone_iff {value : PyArg} : Timer.isNone value = true ↔ value = .none := by
  cases value with
  | none => exact iff_of_true rfl rfl
  | _ => exact iff_of_false Bool.false_ne_true nofun

theorem timerSet_concerns (channel group voltage current duration : PyArg) :
    Gives (Operation.Concerns m (.timerSet channel group voltage current duration))
      (Timer.set m channel group voltage current duration) := by
  refine (require_gives _ _).bind fun _ hm => (programmable_gives channel).bind fun c hchannel =>
    (Gives.self _).bind fun g hg => ?_
  obtain ⟨hc, hne⟩ := hchannel
  dsimp only
  split_ifs with hall hany
  · simp only [List.all_cons, List.all_nil, Bool.and_true, Bool.and_eq_true, isNone_iff] at hall
    obtain ⟨rfl, rfl, rfl⟩ := hall
    refine .ok (.asking (s := .timerStep c g) ?_ ⟨hne, hm⟩ rfl (timerStep_readBy c g))
    rw [SemanticCall.asks, hc, hg]
    rfl
  · exact .error _
  · refine (render_literal m (.setpoint .voltage) voltage).bind fun v' hvoltage =>
      (render_literal m (.setpoint .current) current).bind fun i' hcurrent =>
      (render_literal m .duration duration).bind fun t' hduration =>
      (floatOfStr_gives v').bind fun fv hfv => (floatOfStr_gives i').bind fun fi hfi =>
      (floatOfStr_gives t').bind fun ft hft => ?_
    obtain ⟨v, hv, hv'⟩ := hvoltage
    obtain ⟨i, hi, hi'⟩ := hcurrent
    obtain ⟨t, ht, ht'⟩ := hduration
    refine .ok (.verifiedBy (s := .timerStep c g) (v := (v, i, t)) ?_ ⟨hne, hm⟩ rfl
      (timerStep_readBy c g) ?_)
    · rw [SemanticCall.requested, hc, hg, hv, hi, ht]
      rfl
    · rintro ⟨hsv, hsi, hst⟩
      rw [Setting.toVal, Option.some.inj (hfv.symm.trans (hv' hsv).float),
        Option.some.inj (hfi.symm.trans (hi' hsi).float),
        Option.some.inj (hft.symm.trans (ht' hst).float)]

theorem requireAddress_read (read : PyStr → Option ℕ) (notString malformed : PyStr)
    (value : PyArg) : Gives (fun text => ∃ ip, value.asStr.bind read = some ip ∧
      text = addressText ip) (requireAddress read notString malformed value) := by
  unfold requireAddress
  split
  · exact .error _
  · rename_i s hs
    split
    · rename_i ip hip
      exact .ok ⟨ip, by rw [hs]; exact hip, rfl⟩
    · exact .error _

/-- The setter of an address. -/
theorem setAddress_concerns {parse : PyStr → Except PyExc PyStr}
    (hparse : ∀ response, Raises ProtocolError (parse response)) {name mnemonic : PyStr}
    {read : PyStr → Option ℕ} {notString malformed : PyStr} {value : PyArg} {s : Setting}
    (of : ℕ → s.Value) (hrequested : ∀ ip, value.asStr.bind read = some ip →
      ∃ ip', call.requested = some ⟨s, of ip'⟩ ∧ (s.Brief (of ip') → ip' = ip))
    (hs : m.capabilities.network = true → s.Readable m) (hquery : mnemonic ++ lit "?" = s.query)
    (hread : s.ReadBy fun response => (parse response).map .str)
    (hval : ∀ ip, s.toVal (of ip) = .str (addressText ip)) :
    Gives (Operation.Concerns m call) (SPD3000.setAddress parse hparse name mnemonic
      (requireAddress read notString malformed) m value) := by
  refine (require_gives _ _).bind fun _ hm => (requireAddress_read _ _ _ value).bind
    fun text ⟨ip, hip, htext⟩ => ?_
  obtain ⟨ip', hrequested', hsame⟩ := hrequested ip hip
  refine .ok (.verifiedBy hrequested' (hs hm) hquery hread fun hbrief => ?_)
  rw [htext, hval, hsame hbrief]

omit [PyText] in
/-- A mask that is ones followed by zeros is sent as it was asked for. -/
theorem maskOf_kept {value : PyArg} {mask : ℕ} (h : value.asStr.bind networkMask = some mask) :
    ∃ ip, value.asStr.bind maskOf = some ip ∧ (Masks.Contiguous 32 ip → ip = mask) := by
  obtain ⟨text, htext, hmask⟩ := Option.bind_eq_some_iff.1 h
  rw [htext, Option.bind_some, maskOf]
  cases hip : ipv4Address text with
  | none => exact ⟨mask, hmask, fun _ => rfl⟩
  | some ip =>
    refine ⟨ip, rfl, fun hc => ?_⟩
    exact Option.some.inj ((networkMask_contiguous hip hc).symm.trans hmask)

omit [PyText] in
/-- The getter of an address. -/
theorem getAddress_concerns {parse : PyStr → Except PyExc PyStr}
    (hparse : ∀ response, Raises ProtocolError (parse response)) {name command : PyStr}
    {s : Setting} (hasks : call.asks = some s) (hs : m.capabilities.network = true → s.Readable m)
    (hquery : command = s.query) (hread : s.ReadBy fun response => (parse response).map .str) :
    Gives (Operation.Concerns m call) (SPD3000.getAddress parse hparse name command m) :=
  (require_gives _ _).bind fun _ hm => .ok (.asking hasks (hs hm) hquery hread)

theorem setDhcp_concerns {value : PyArg}
    (hrequested : ∀ b, value = .bool b → call.requested = some ⟨.dhcp, b⟩) :
    Gives (Operation.Concerns m call) (SPD3000.setDhcp m value) := by
  refine (require_gives _ _).bind fun _ hm => (Gives.self _).bind fun b hb => ?_
  have hvalue : value = .bool b := by
    cases value with
    | bool b' =>
      cases hb
      rfl
    | _ => cases hb
  exact .ok (.verifiedBy (hrequested b hvalue) hm rfl dhcp_readBy fun _ => rfl)

omit [PyText] in
/-- A write that has no readback and is of no setting. -/
theorem slot_concerns (command : PyStr) (reason : Option PyStr) (value : PyArg)
    (hrequested : call.requested = none) :
    Gives (Operation.Concerns m call) (do
      let i ← slot value
      return .write none (command ++ digitsText i.toNat) none reason) := by
  refine (Gives.self _).bind fun i _ => .ok (.unverified nofun fun s v hs => ?_)
  rw [hrequested] at hs
  cases hs

theorem setLocked_concerns (command : PyStr) {expected : Bool}
    (hrequested : call.requested = some ⟨.locked, expected⟩) :
    Gives (Operation.Concerns m call) (SPD3000.setLocked command expected m) := by
  unfold SPD3000.setLocked
  split_ifs with hm
  · exact .ok (.verifiedBy hrequested hm rfl locked_readBy fun _ => rfl)
  · refine .ok (.unverified (fun v hv => ?_) fun s value hs => ?_)
    · cases hv
    · rw [hrequested] at hs
      cases hs
      exact hm

end

/-- **Methods and settings.**  A method whose arguments are accepted verifies the setting that it
    writes, with the requested value, and asks for the setting that it reads. -/
theorem method_concerns (m : Model) (call : SemanticCall) :
    Gives (Operation.Concerns m call) (call.method m) := by
  cases call with
  | getVoltage c => exact .ok (.asking rfl c.programmable rfl (voltage_readBy _ _))
  | getCurrent c => exact .ok (.asking rfl c.programmable rfl (current_readBy _ _))
  | setVoltage c value =>
    exact set_concerns (s := .voltage c.channel) id
      (fun x hx => by rw [SemanticCall.requested, hx]; rfl) c.programmable rfl (voltage_readBy _)
      fun x hx => ⟨hx, rfl⟩
  | setCurrent c value =>
    exact set_concerns (s := .current c.channel) id
      (fun x hx => by rw [SemanticCall.requested, hx]; rfl) c.programmable rfl (current_readBy _)
      fun x hx => ⟨hx, rfl⟩
  | getOutput c =>
    simp only [SemanticCall.method, Output.read]
    split_ifs with hc
    · exact .error _
    · exact .ok (.asking rfl hc rfl (output_readBy m c))
  | setOutput c state =>
    refine (Gives.self _).bind fun b hb => output_concerns fun c' s hc' hs => ?_
    cases state with
    | bool b' =>
      cases hb
      cases hc'
      cases b <;> cases hs <;> rfl
    | _ => cases hb
  | measureVoltage channel | measureCurrent channel =>
    exact (Gives.trivial _).bind fun _ _ => .ok (.other rfl)
  | measurePower channel =>
    exact (Gives.trivial _).bind fun _ _ => (Gives.trivial _).bind fun _ _ => .ok (.other rfl)
  | output channel state =>
    exact output_concerns fun c s hc hs => by rw [SemanticCall.requested, hc, hs]; rfl
  | outputTrack mode => exact track_concerns mode
  | outputWave channel state => exact wave_concerns channel state
  | timer channel state => exact timer_concerns channel state
  | timerSet channel group voltage current duration => exact timerSet_concerns _ _ _ _ _
  | systemError | systemVersion | systemStatus | idn => exact .ok (.other rfl)
  | getInstrument => exact .ok (.asking rfl ⟨⟩ rfl instrument_readBy)
  | setInstrument value =>
    exact (Gives.self _).bind fun c hc => .ok (.verifiedBy (s := .instrument) (v := c)
      (by rw [SemanticCall.requested, hc]; rfl) ⟨⟩ rfl requireChannel_readBy fun _ => rfl)
  | getIpaddr | getHost =>
    exact getAddress_concerns (s := .ipaddr) (parseIpv4Address_raises _) rfl id rfl
      (address_readBy _)
  | setIpaddr value | setHost value =>
    exact setAddress_concerns (s := .ipaddr) (parseIpv4Address_raises _) id
      (fun ip hip => ⟨ip, by rw [SemanticCall.requested, hip]; rfl, fun _ => rfl⟩) id rfl
      (address_readBy _) fun _ => rfl
  | getMaskaddr | getSubnetMask =>
    exact getAddress_concerns (s := .maskaddr) parseSubnetMask_raises rfl id rfl maskaddr_readBy
  | setMaskaddr value | setSubnetMask value =>
    refine setAddress_concerns (s := .maskaddr) parseSubnetMask_raises id (fun mask hmask => ?_) id
      rfl maskaddr_readBy fun _ => rfl
    obtain ⟨ip, hip, hsame⟩ := maskOf_kept hmask
    exact ⟨ip, by rw [SemanticCall.requested, hip]; rfl, hsame⟩
  | getGateaddr | getGateway =>
    exact getAddress_concerns (s := .gateaddr) (parseIpv4Address_raises _) rfl id rfl
      (address_readBy _)
  | setGateaddr value | setGateway value =>
    exact setAddress_concerns (s := .gateaddr) (parseIpv4Address_raises _) id
      (fun ip hip => ⟨ip, by rw [SemanticCall.requested, hip]; rfl, fun _ => rfl⟩) id rfl
      (address_readBy _) fun _ => rfl
  | getDhcp | getNetworkDhcp =>
    exact (require_gives _ _).bind fun _ hm => .ok (.asking rfl hm rfl dhcp_readBy)
  | setDhcp value | setNetworkDhcp value => exact setDhcp_concerns (by rintro b rfl; rfl)
  | networkSettings => exact (Gives.trivial _).bind fun _ _ => .ok (.other rfl)
  | sav slot | rcl slot | saveSetup slot | recallSetup slot => exact slot_concerns _ _ slot rfl
  | locked => exact (require_gives _ _).bind fun _ hm => .ok (.asking rfl hm rfl locked_readBy)
  | lock => exact setLocked_concerns _ rfl
  | unlock => exact setLocked_concerns _ rfl

end

end Spd3000
