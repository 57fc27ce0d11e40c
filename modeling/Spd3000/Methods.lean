/-
  The semantic operations of the driver: the properties and methods of
  `ProgrammableChannel`, `FixedChannel`, `Measure`, `Output`, `Timer`, `System`,
  `Network` and `SPD3000`.

  A method checks its arguments and ends with one call of `_write`, `_query` or
  `_queries`.  Its definition here gives that call, as an `Operation`, or the
  exception that it raises before.  A parser raises only what a response can make
  it raise (`ResponseError`).
-/
import Spd3000.Arguments
import Spd3000.Operations

namespace Spd3000

open Decimals

section
variable {α β : Type}

/-! ## Parsers -/

/-- The classes that the parser of a read raises. -/
def ResponseError (e : PyExc) : Prop :=
  e.cls = .spd3000ProtocolError ∨ e.cls = .unknownModelError ∨ e.cls = .valueError ∨
    e.cls = .indexError

/-- The classes that the parser of a readback raises. -/
def ReadbackError (e : PyExc) : Prop :=
  e.cls = .spd3000ProtocolError ∨ e.cls = .spd3000ValidationError

/-- Every exception has a property. -/
def Raises (P : PyExc → Prop) (r : Except PyExc α) : Prop := ∀ e, r = .error e → P e

section
variable {P Q : PyExc → Prop} {r : Except PyExc α} {f : α → Except PyExc β}

theorem Raises.ok (a : α) : Raises P (.ok a) := nofun

theorem Raises.error {e : PyExc} (h : P e) : Raises P (.error e : Except PyExc α) := by
  rintro _ ⟨⟩
  exact h

theorem Raises.imp (h : Raises P r) (hpq : ∀ e, P e → Q e) : Raises Q r := fun e he =>
  hpq e (h e he)

theorem Raises.bind (h : Raises P r) (hf : ∀ a, Raises P (f a)) : Raises P (r >>= f) := by
  cases r with
  | error e => exact .error (h e rfl)
  | ok a => exact hf a

theorem Raises.map {g : α → β} (h : Raises P r) : Raises P (r.map g) := by
  cases r with
  | error e => exact .error (h e rfl)
  | ok a => exact .ok _

end

theorem ResponseError.exception {e : PyExc} (h : ResponseError e) : e.isinstance .exception := by
  obtain ⟨cls, args, attrs⟩ := e
  rcases h with rfl | rfl | rfl | rfl <;> rfl

theorem ReadbackError.spd3000Error {e : PyExc} (h : ReadbackError e) :
    e.isinstance .spd3000Error := by
  obtain ⟨cls, args, attrs⟩ := e
  rcases h with rfl | rfl <;> rfl

section
variable [PyText]

/-- An exception is an `SPD3000ProtocolError`. -/
def ProtocolError (e : PyExc) : Prop := e.cls = .spd3000ProtocolError

omit [PyText] in
theorem ProtocolError.response {e : PyExc} (h : ProtocolError e) : ResponseError e := .inl h

omit [PyText] in
theorem ProtocolError.readback {e : PyExc} (h : ProtocolError e) : ReadbackError e := .inl h

theorem malformed_raises (command text : PyStr) :
    Raises ProtocolError (.error (malformed command text) : Except PyExc α) := .error rfl

theorem parseFloat_raises (command response : PyStr) :
    Raises ProtocolError (parseFloat command response) := by
  unfold parseFloat
  split
  · exact malformed_raises _ _
  · exact .ok _
  · exact .error rfl

theorem parseBool_raises (command response : PyStr) :
    Raises ProtocolError (parseBool command response) := by
  unfold parseBool
  dsimp only
  split_ifs
  · exact .ok _
  · exact .ok _
  · exact malformed_raises _ _

theorem parseLockState_raises (response : PyStr) :
    Raises ProtocolError (parseLockState response) := by
  unfold parseLockState
  dsimp only
  split_ifs
  · exact .ok _
  · exact .ok _
  · exact parseBool_raises _ _

theorem parseDhcp_raises (response : PyStr) : Raises ProtocolError (parseDhcp response) := by
  unfold parseDhcp
  dsimp only
  split_ifs <;> exact parseBool_raises _ _

theorem parseInstrument_raises (response : PyStr) :
    Raises ProtocolError (parseInstrument response) := by
  unfold parseInstrument
  dsimp only
  split
  · exact .ok _
  · exact malformed_raises _ _

theorem parseAddress_raises (read : PyStr → Option ℕ) (command response : PyStr) :
    Raises ProtocolError (parseAddress read command response) := by
  unfold parseAddress
  split
  · exact .ok _
  · exact malformed_raises _ _

theorem parseIpv4Address_raises (command response : PyStr) :
    Raises ProtocolError (parseIpv4Address command response) := parseAddress_raises _ _ _

theorem parseSubnetMask_raises (response : PyStr) :
    Raises ProtocolError (parseSubnetMask response) := parseAddress_raises _ _ _

theorem parseTimerStep_raises (response : PyStr) :
    Raises ProtocolError (parseTimerStep response) := by
  unfold parseTimerStep
  split
  · exact (parseFloat_raises _ _).bind fun _ => (parseFloat_raises _ _).bind fun _ =>
      (parseFloat_raises _ _).bind fun _ => .ok _
  · exact malformed_raises _ _

theorem parseStatus_raises (response : PyStr) (model : Model) :
    Raises ProtocolError (parseStatus response model) := by
  unfold parseStatus
  split
  · exact malformed_raises _ _
  · exact .ok _

theorem parseIdentification_raises (response : PyStr) :
    Raises ResponseError (parseIdentification response) := by
  unfold parseIdentification
  split
  · dsimp only
    split
    · exact .error (.inr (.inl rfl))
    · exact .ok _
  · exact .error (.inl rfl)

theorem parseSystemError_raises (response : PyStr) :
    Raises ResponseError (parseSystemError response) := by
  unfold parseSystemError
  split
  · exact .error (.inl rfl)
  · refine Raises.map ?_
    unfold intOfDigits
    dsimp only
    split_ifs
    · exact .error (.inr (.inr (.inl rfl)))
    · exact .ok _
    · exact .ok _

omit [PyText] in
theorem requireChannel_invalid (value : PyArg) (programmable : Bool) :
    Raises (fun e => e.cls = .spd3000ValidationError) (requireChannel value programmable) := by
  have hselect : Raises (fun e => e.cls = .spd3000ValidationError) (selectChannel value) := by
    unfold selectChannel
    split
    · exact .ok _
    · split
      · split
        · exact .ok _
        · exact .error rfl
      · exact .error rfl
  refine hselect.bind fun channel => ?_
  split_ifs
  · exact .error rfl
  · exact .ok _

omit [PyText] in
theorem requireChannel_raises (value : PyArg) (programmable : Bool) :
    Raises ReadbackError (requireChannel value programmable) :=
  (requireChannel_invalid value programmable).imp fun _ => .inr

/-! ## Calls of the driver -/

/-- The call `_write(command, verification=...)`. -/
def writeOf (command : PyStr) (verification : Verification) : Operation :=
  .write none command (some verification) none

/-- A verification by a query. -/
def verifiedBy (query : PyStr) (expected : PyVal) (parse : PyStr → Except PyExc PyVal)
    (h : ∀ response, Raises ReadbackError (parse response)) : Verification :=
  ⟨some ⟨query, ⟨parse, fun response e he => (h response e he).spd3000Error⟩⟩, expected, none⟩

/-- The parser `lambda responses: parser(responses[0])`. -/
def firstOf (parse : PyStr → Except PyExc PyVal) (responses : List PyStr) : Except PyExc PyVal :=
  match responses with
  | response :: _ => parse response
  | [] => .error (.msg .indexError "tuple index out of range")

omit [PyText] in
theorem firstOf_raises {parse : PyStr → Except PyExc PyVal}
    (h : ∀ response, Raises ResponseError (parse response)) (responses : List PyStr) :
    Raises ResponseError (firstOf parse responses) := by
  cases responses with
  | nil => exact .error (.inr (.inr (.inr rfl)))
  | cons response _ => exact h response

/-- The call `_queries(commands, parser)`. -/
def queriesOf (commands : List PyStr) (hne : commands ≠ [])
    (parse : List PyStr → Except PyExc PyVal)
    (h : ∀ responses, Raises ResponseError (parse responses)) : Operation :=
  .read commands hne ⟨parse, fun responses e he => (h responses e he).exception⟩

/-- The call `_query(command, parser)`. -/
def queryOf (command : PyStr) (parse : PyStr → Except PyExc PyVal)
    (h : ∀ response, Raises ResponseError (parse response)) : Operation :=
  queriesOf [command] (List.cons_ne_nil _ _) (firstOf parse) (firstOf_raises h)

/-- The method `_require`. -/
def require (m : Model) (capability : Bool) (command : PyStr) : Except PyExc Unit :=
  if capability then .ok ()
  else .error (.msg .unsupportedFeatureError (command ++ lit " is not supported by " ++ m.value))

/-- The float `float(rendered)`. -/
def floatOfStr (rendered : PyStr) : Except PyExc PyFloat :=
  match floatOfText rendered with
  | some f => .ok f
  | none => .error (.msg .valueError
      (lit "could not convert string to float: " ++ PyText.repr (.str rendered)))

/-! ### Parsed values -/

def floatResponse (command response : PyStr) : Except PyExc PyVal :=
  (parseFloat command response).map .float

theorem floatResponse_raises (command response : PyStr) :
    Raises ProtocolError (floatResponse command response) := (parseFloat_raises _ _).map

/-- A value of the status. -/
def statusResponse (m : Model) (select : SystemStatus → PyVal) (response : PyStr) :
    Except PyExc PyVal :=
  (parseStatus response m).map select

theorem statusResponse_raises (m : Model) (select : SystemStatus → PyVal) (response : PyStr) :
    Raises ProtocolError (statusResponse m select response) := (parseStatus_raises _ _).map

/-- A verification by the status. -/
def verifiedByStatus (m : Model) (expected : PyVal) (select : SystemStatus → PyVal) : Verification :=
  verifiedBy "SYST:STAT?" expected (statusResponse m select)
    fun response => (statusResponse_raises m select response).imp fun _ => ProtocolError.readback

/-! ## Channels -/

/-- A channel object of CH1 or CH2. -/
structure ProgrammableChannel where
  channel : Channel
  programmable : channel ≠ .ch3

namespace ProgrammableChannel

/-- The getter of a setpoint. -/
def get (mnemonic : PyStr) (c : ProgrammableChannel) : Except PyExc Operation :=
  .ok (queryOf (c.channel.value ++ lit ":" ++ mnemonic ++ lit "?")
    (floatResponse (mnemonic ++ lit "?"))
    fun response => (floatResponse_raises _ response).imp fun _ => ProtocolError.response)

/-- The setter of a setpoint. -/
def set (quantity : Quantity) (mnemonic : PyStr) (m : Model) (c : ProgrammableChannel)
    (value : PyArg) : Except PyExc Operation := do
  let rendered ← setpoint m quantity value
  let query := c.channel.value ++ lit ":" ++ mnemonic ++ lit "?"
  let expected ← floatOfStr rendered
  return writeOf (c.channel.value ++ lit ":" ++ mnemonic ++ lit " " ++ rendered)
    (verifiedBy query (.float expected) (floatResponse query)
      fun response => (floatResponse_raises _ response).imp fun _ => ProtocolError.readback)

def getVoltage : ProgrammableChannel → Except PyExc Operation := get "VOLT"

def setVoltage : Model → ProgrammableChannel → PyArg → Except PyExc Operation := set .voltage "VOLT"

def getCurrent : ProgrammableChannel → Except PyExc Operation := get "CURR"

def setCurrent : Model → ProgrammableChannel → PyArg → Except PyExc Operation := set .current "CURR"

end ProgrammableChannel

/-! ## Measurements -/

namespace Measure

def query (mnemonic : PyStr) (channel : PyArg) : Except PyExc Operation := do
  let selected ← requireChannel channel true
  return queryOf (mnemonic ++ lit " " ++ selected.value) (floatResponse mnemonic)
    fun response => (floatResponse_raises _ response).imp fun _ => ProtocolError.response

def voltage : PyArg → Except PyExc Operation := query "MEAS:VOLT?"

def current : PyArg → Except PyExc Operation := query "MEAS:CURR?"

def power (m : Model) (channel : PyArg) : Except PyExc Operation := do
  require m m.capabilities.measurePower "MEASure:POWer"
  query "MEAS:POWE?" channel

end Measure

/-! ## Outputs -/

namespace Output

def ch3Reason : PyStr := "Siglent documents no query or SYST:STAT? bit for CH3 output state"

/-- The method `__call__`. -/
def call (m : Model) (channel state : PyArg) : Except PyExc Operation := do
  let selected ← requireChannel channel false
  let selectedState ← requireOutputState state
  let command := lit "OUTP " ++ selected.value ++ lit "," ++ selectedState.value
  let expected := PyVal.bool (selectedState = .on)
  if selected = .ch3 then
    return writeOf command ⟨none, expected, some ch3Reason⟩
  else
    return writeOf command
      (verifiedByStatus m expected fun status => .bool (status.channel selected).output)

/-- The method `_read`. -/
def read (m : Model) (channel : Channel) : Except PyExc Operation :=
  if channel = .ch3 then .error (.msg .unsupportedFeatureError ch3Reason)
  else .ok (queryOf "SYST:STAT?"
    (statusResponse m fun status => .bool (status.channel channel).output)
    fun response => (statusResponse_raises m _ response).imp fun _ => ProtocolError.response)

def track (m : Model) (mode : PyArg) : Except PyExc Operation := do
  let selected ← requireTrackingMode mode
  let expected := match selected with
    | .independent => lit "independent"
    | .series => lit "series"
    | .parallel => lit "parallel"
  return writeOf (lit "OUTP:TRACK " ++ digitsText selected.value)
    (verifiedByStatus m (.str expected) fun status => .str status.operatingMode.value)

def wave (m : Model) (channel state : PyArg) : Except PyExc Operation := do
  require m m.capabilities.waveform "OUTPut:WAVE"
  let selected ← requireChannel channel true
  let selectedState ← requireWaveformState state
  return writeOf (lit "OUTP:WAVE " ++ selected.value ++ lit "," ++ selectedState.value)
    (verifiedByStatus m (.bool (selectedState = .on))
      fun status => optionalBool (status.channel selected).waveform)

/-- The setter of `output` of a channel object. -/
def set (m : Model) (channel : Channel) (state : PyArg) : Except PyExc Operation := do
  let enabled ← requireBool "output" state
  call m (.channel channel) (.outputState (if enabled then .on else .off))

end Output

/-! ## Timer -/

namespace Timer

/-- The method `__call__`. -/
def call (m : Model) (channel state : PyArg) : Except PyExc Operation := do
  require m m.capabilities.timer "TIMEr"
  let selected ← requireChannel channel true
  let selectedState ← requireTimerState state
  return writeOf (lit "TIMER " ++ selected.value ++ lit "," ++ selectedState.value)
    (verifiedByStatus m (.bool (selectedState = .on))
      fun status => optionalBool (status.channel selected).timer)

/-- The group of a channel, as it is queried. -/
def stepQuery (selected : Channel) (group : ℤ) : PyStr :=
  lit "TIMER:SET? " ++ selected.value ++ lit "," ++ digitsText group.toNat

/-- The write of a step. -/
def setStep (m : Model) (selected : Channel) (group : ℤ) (voltage current duration : PyArg) :
    Except PyExc Operation := do
  let voltage ← setpoint m .voltage voltage
  let current ← setpoint m .current current
  let duration ← Spd3000.duration duration
  let command := lit "TIMER:SET " ++ selected.value ++ lit "," ++ digitsText group.toNat ++
    lit "," ++ voltage ++ lit "," ++ current ++ lit "," ++ duration
  let expectedVoltage ← floatOfStr voltage
  let expectedCurrent ← floatOfStr current
  let expectedDuration ← floatOfStr duration
  return writeOf command (verifiedBy (stepQuery selected group)
    (timerStep expectedVoltage expectedCurrent expectedDuration) parseTimerStep
    fun response => (parseTimerStep_raises response).imp fun _ => ProtocolError.readback)

/-- The test `value is None`. -/
def isNone : PyArg → Bool
  | .none => true
  | _ => false

def set (m : Model) (channel group voltage current duration : PyArg) :
    Except PyExc Operation := do
  require m m.capabilities.timer "TIMEr:SET"
  let selected ← requireChannel channel true
  let selectedGroup ← requireTimerGroup group
  let values := [voltage, current, duration]
  if values.all isNone then
    return queryOf (stepQuery selected selectedGroup) parseTimerStep
      fun response => (parseTimerStep_raises response).imp fun _ => ProtocolError.response
  else if values.any isNone then
    .error (invalid "voltage_v, current_a, and duration_s must be supplied together")
  else setStep m selected selectedGroup voltage current duration

end Timer

/-! ## System -/

namespace System

def error : Except PyExc Operation :=
  .ok (queryOf "SYST:ERR?" parseSystemError parseSystemError_raises)

def version : Except PyExc Operation :=
  .ok (queryOf "SYST:VERS?" (fun response => .ok (.str (strip response))) fun _ => .ok _)

def status (m : Model) : Except PyExc Operation :=
  .ok (queryOf "SYST:STAT?" (statusResponse m SystemStatus.toVal)
    fun response => (statusResponse_raises m _ response).imp fun _ => ProtocolError.response)

end System

/-! ## The driver itself -/

def dhcpResponse (response : PyStr) : Except PyExc PyVal := (parseDhcp response).map .bool

theorem dhcpResponse_raises (response : PyStr) : Raises ProtocolError (dhcpResponse response) :=
  (parseDhcp_raises _).map

def lockResponse (response : PyStr) : Except PyExc PyVal := (parseLockState response).map .bool

theorem lockResponse_raises (response : PyStr) : Raises ProtocolError (lockResponse response) :=
  (parseLockState_raises _).map

def instrumentResponse (response : PyStr) : Except PyExc PyVal :=
  (parseInstrument response).map fun c => .str c.value

theorem instrumentResponse_raises (response : PyStr) :
    Raises ProtocolError (instrumentResponse response) := (parseInstrument_raises _).map

namespace SPD3000

def idn : Except PyExc Operation :=
  .ok (queryOf "*IDN?" parseIdentification parseIdentification_raises)

def getInstrument : Except PyExc Operation :=
  .ok (queryOf "INST?" instrumentResponse
    fun response => (instrumentResponse_raises response).imp fun _ => ProtocolError.response)

def setInstrument (value : PyArg) : Except PyExc Operation := do
  let channel ← requireChannel value true
  return writeOf (lit "INST " ++ channel.value)
    (verifiedBy "INST?" (.str channel.value)
      (fun response => (requireChannel (.str response) true).map fun c => .str c.value)
      fun _ => (requireChannel_raises _ _).map)

/-! ### Network -/

section
variable (parse : PyStr → Except PyExc PyStr)
  (hparse : ∀ response, Raises ProtocolError (parse response))

/-- The getter of an address. -/
def getAddress (name command : PyStr) (m : Model) : Except PyExc Operation := do
  require m m.capabilities.network name
  return queryOf command (fun response => (parse response).map .str)
    fun response => (hparse response).map.imp fun _ => ProtocolError.response

/-- The setter of an address. -/
def setAddress (name mnemonic : PyStr) (check : PyArg → Except PyExc PyStr) (m : Model)
    (value : PyArg) : Except PyExc Operation := do
  require m m.capabilities.network name
  let expected ← check value
  return writeOf (mnemonic ++ lit " " ++ expected)
    (verifiedBy (mnemonic ++ lit "?") (.str expected) (fun response => (parse response).map .str)
      fun response => (hparse response).map.imp fun _ => ProtocolError.readback)

end

def getIpaddr : Model → Except PyExc Operation :=
  getAddress (parseIpv4Address "IPADDR?") (parseIpv4Address_raises _) "IPaddr?" "IPADDR?"

def setIpaddr : Model → PyArg → Except PyExc Operation :=
  setAddress (parseIpv4Address "IPADDR?") (parseIpv4Address_raises _) "IPaddr" "IPADDR"
    requireIpv4Address

def getMaskaddr : Model → Except PyExc Operation :=
  getAddress parseSubnetMask parseSubnetMask_raises "MASKaddr?" "MASKADDR?"

def setMaskaddr : Model → PyArg → Except PyExc Operation :=
  setAddress parseSubnetMask parseSubnetMask_raises "MASKaddr" "MASKADDR" requireSubnetMask

def getGateaddr : Model → Except PyExc Operation :=
  getAddress (parseIpv4Address "GATEADDR?") (parseIpv4Address_raises _) "GATEaddr?" "GATEADDR?"

def setGateaddr : Model → PyArg → Except PyExc Operation :=
  setAddress (parseIpv4Address "GATEADDR?") (parseIpv4Address_raises _) "GATEaddr" "GATEADDR"
    requireIpv4Address

def getDhcp (m : Model) : Except PyExc Operation := do
  require m m.capabilities.network "DHCP?"
  return queryOf "DHCP?" dhcpResponse
    fun response => (dhcpResponse_raises response).imp fun _ => ProtocolError.response

def setDhcp (m : Model) (value : PyArg) : Except PyExc Operation := do
  require m m.capabilities.network "DHCP"
  let enabled ← requireBool "dhcp" value
  return writeOf (lit "DHCP " ++ if enabled then lit "ON" else lit "OFF")
    (verifiedBy "DHCP?" (.bool enabled) dhcpResponse
      fun response => (dhcpResponse_raises response).imp fun _ => ProtocolError.readback)

/-- The parser of the property `network.settings`. -/
def networkSettings (responses : List PyStr) : Except PyExc PyVal :=
  match responses with
  | [host, mask, gateway, dhcp] => do
    let host ← parseIpv4Address "IPADDR?" host
    let mask ← parseSubnetMask mask
    let gateway ← parseIpv4Address "GATEADDR?" gateway
    let dhcp ← parseDhcp dhcp
    return .obj "NetworkSettings" [("host", .str host), ("subnet_mask", .str mask),
      ("gateway", .str gateway), ("dhcp", .bool dhcp)]
  | _ => .error (.msg .indexError "tuple index out of range")

theorem networkSettings_raises (responses : List PyStr) :
    Raises ResponseError (networkSettings responses) := by
  unfold networkSettings
  split
  · refine Raises.imp (P := ProtocolError) ?_ fun _ => ProtocolError.response
    exact (parseIpv4Address_raises _ _).bind fun _ => (parseSubnetMask_raises _).bind fun _ =>
      (parseIpv4Address_raises _ _).bind fun _ => (parseDhcp_raises _).bind fun _ => .ok _
  · exact .error (.inr (.inr (.inr rfl)))

/-- The property `network.settings`. -/
def settings (m : Model) : Except PyExc Operation := do
  require m m.capabilities.network "network settings"
  return queriesOf [lit "IPADDR?", lit "MASKADDR?", lit "GATEADDR?", lit "DHCP?"]
    (List.cons_ne_nil _ _) networkSettings networkSettings_raises

/-! ### Setups and the front panel -/

def sav (value : PyArg) : Except PyExc Operation := do
  let slot ← slot value
  return .write none (lit "*SAV " ++ digitsText slot.toNat) none
    (some "Siglent documents no query that confirms a saved setup slot")

def rcl (value : PyArg) : Except PyExc Operation := do
  let slot ← slot value
  return .write none (lit "*RCL " ++ digitsText slot.toNat) none
    (some "Siglent documents no single query that confirms the complete recalled setup")

def locked (m : Model) : Except PyExc Operation := do
  require m m.capabilities.lockQuery "*LOCK?"
  return queryOf "*LOCK?" lockResponse
    fun response => (lockResponse_raises response).imp fun _ => ProtocolError.response

/-- The method `lock` or `unlock`, whose effect `*LOCK?` shows on some models. -/
def setLocked (command : PyStr) (expected : Bool) (m : Model) : Except PyExc Operation :=
  if m.capabilities.lockQuery then
    .ok (writeOf command (verifiedBy "*LOCK?" (.bool expected) lockResponse
      fun response => (lockResponse_raises response).imp fun _ => ProtocolError.readback))
  else .ok (.write none command none (some (m.value ++ lit " does not document *LOCK?")))

def lock : Model → Except PyExc Operation := setLocked "*LOCK" true

def unlock : Model → Except PyExc Operation := setLocked "*UNLOCK" false

end SPD3000

/-! ## All of them -/

end

/-- A call of a semantic operation, with its arguments. -/
inductive SemanticCall where
  | getVoltage (c : ProgrammableChannel)
  | setVoltage (c : ProgrammableChannel) (value : PyArg)
  | getCurrent (c : ProgrammableChannel)
  | setCurrent (c : ProgrammableChannel) (value : PyArg)
  -- `output` of `ch1`, `ch2` and `ch3`
  | getOutput (c : Channel)
  | setOutput (c : Channel) (state : PyArg)
  | measureVoltage (channel : PyArg)
  | measureCurrent (channel : PyArg)
  | measurePower (channel : PyArg)
  | output (channel state : PyArg)
  | outputTrack (mode : PyArg)
  | outputWave (channel state : PyArg)
  | timer (channel state : PyArg)
  | timerSet (channel group voltage current duration : PyArg)
  | systemError
  | systemVersion
  | systemStatus
  | idn
  | getInstrument
  | setInstrument (value : PyArg)
  | getIpaddr
  | setIpaddr (value : PyArg)
  | getMaskaddr
  | setMaskaddr (value : PyArg)
  | getGateaddr
  | setGateaddr (value : PyArg)
  | getDhcp
  | setDhcp (value : PyArg)
  | networkSettings
  | sav (slot : PyArg)
  | rcl (slot : PyArg)
  | locked
  | lock
  | unlock
  -- aliases, which delegate to the operations above
  | getHost
  | setHost (value : PyArg)
  | getSubnetMask
  | setSubnetMask (value : PyArg)
  | getGateway
  | setGateway (value : PyArg)
  | getNetworkDhcp
  | setNetworkDhcp (value : PyArg)
  | saveSetup (slot : PyArg)
  | recallSetup (slot : PyArg)

section
variable [PyText]

/-- What the method does up to its call of `_write` or `_queries`. -/
def SemanticCall.method (m : Model) : SemanticCall → Except PyExc Operation
  | getVoltage c => c.getVoltage
  | setVoltage c value => c.setVoltage m value
  | getCurrent c => c.getCurrent
  | setCurrent c value => c.setCurrent m value
  | getOutput c => Output.read m c
  | setOutput c state => Output.set m c state
  | measureVoltage channel => Measure.voltage channel
  | measureCurrent channel => Measure.current channel
  | measurePower channel => Measure.power m channel
  | output channel state => Output.call m channel state
  | outputTrack mode => Output.track m mode
  | outputWave channel state => Output.wave m channel state
  | timer channel state => Timer.call m channel state
  | timerSet channel group voltage current duration =>
    Timer.set m channel group voltage current duration
  | systemError => System.error
  | systemVersion => System.version
  | systemStatus => System.status m
  | idn => SPD3000.idn
  | getInstrument => SPD3000.getInstrument
  | setInstrument value => SPD3000.setInstrument value
  | getIpaddr => SPD3000.getIpaddr m
  | setIpaddr value => SPD3000.setIpaddr m value
  | getMaskaddr => SPD3000.getMaskaddr m
  | setMaskaddr value => SPD3000.setMaskaddr m value
  | getGateaddr => SPD3000.getGateaddr m
  | setGateaddr value => SPD3000.setGateaddr m value
  | getDhcp => SPD3000.getDhcp m
  | setDhcp value => SPD3000.setDhcp m value
  | networkSettings => SPD3000.settings m
  | sav value => SPD3000.sav value
  | rcl value => SPD3000.rcl value
  | locked => SPD3000.locked m
  | lock => SPD3000.lock m
  | unlock => SPD3000.unlock m
  | getHost => SPD3000.getIpaddr m
  | setHost value => SPD3000.setIpaddr m value
  | getSubnetMask => SPD3000.getMaskaddr m
  | setSubnetMask value => SPD3000.setMaskaddr m value
  | getGateway => SPD3000.getGateaddr m
  | setGateway value => SPD3000.setGateaddr m value
  | getNetworkDhcp => SPD3000.getDhcp m
  | setNetworkDhcp value => SPD3000.setDhcp m value
  | saveSetup value => SPD3000.sav value
  | recallSetup value => SPD3000.rcl value

end

end

end Spd3000
