/-
  Arguments and responses of driver methods: the functions `_require_*`,
  `_format_number` and `_parse_*` of `driver.py`.

  `PyArg` is any value that a caller may pass.  The functions that check an
  argument raise `SPD3000ValidationError`; those that parse a response raise
  `SPD3000ProtocolError`.
-/
import Spd3000.Models
import Spd3000.Pending

namespace Spd3000

open Decimals

/-! ## Arguments -/

/-- An argument.  A `str` may be a member of any enumeration of texts, and an `int` one of any
    enumeration of numbers; those that the driver asks for are listed. -/
inductive PyArg where
  | none
  | bool (b : Bool)
  | real (v : PyReal)
  | str (s : PyStr)
  | channel (c : Channel)
  | outputState (s : SwitchState)
  | waveformState (s : SwitchState)
  | timerState (s : SwitchState)
  | trackingMode (m : TrackingMode)
  | other

namespace PyArg

/-- The text of an instance of `str`. -/
def asStr : PyArg → Option PyStr
  | str s => some s
  | channel c => some c.value
  | outputState s | waveformState s | timerState s => some s.value
  | _ => Option.none

/-- The number of an instance of `int` other than a `bool`. -/
def asInt : PyArg → Option ℤ
  | real (.int i) => some i
  | trackingMode m => some m.value
  | _ => Option.none

/-- The number of an instance of `int`, `float` or `Decimal` other than a `bool`. -/
def asReal : PyArg → Option PyReal
  | real v => some v
  | trackingMode m => some (.int m.value)
  | _ => Option.none

end PyArg

/-- A `SPD3000ValidationError`. -/
def invalid (text : PyStr) : PyExc := .msg .spd3000ValidationError text

/-- The channel that a member of `Channel` or a text names. -/
def selectChannel (value : PyArg) : Except PyExc Channel :=
  match value with
  | .channel c => .ok c
  | value => match value.asStr with
    | some s => match Channel.ofValue (upper (strip s)) with
      | some c => .ok c
      | none => .error (invalid "channel must be CH1, CH2, or CH3")
    | none => .error (invalid "channel must be a Channel enum value or string")

/-- The function `_require_channel`. -/
def requireChannel (value : PyArg) (programmable : Bool) : Except PyExc Channel := do
  let channel ← selectChannel value
  if programmable ∧ channel = .ch3 then
    .error (invalid "CH3 has no programmable voltage or current")
  else .ok channel

/-- An integer from 1 through 5, as `_require_timer_group` and `_slot` check it. -/
def requireOneToFive (message : PyStr) (value : PyArg) : Except PyExc ℤ :=
  match value.asInt with
  | some i => if 1 ≤ i ∧ i ≤ 5 then .ok i else .error (invalid message)
  | none => .error (invalid message)

/-- The function `_require_timer_group`. -/
def requireTimerGroup : PyArg → Except PyExc ℤ :=
  requireOneToFive "timer group must be an integer from 1 through 5"

/-- The method `_slot`. -/
def slot : PyArg → Except PyExc ℤ :=
  requireOneToFive "memory slot must be an integer from 1 through 5"

/-- The function `_require_bool`. -/
def requireBool (name : PyStr) : PyArg → Except PyExc Bool
  | .bool b => .ok b
  | _ => .error (invalid (name ++ lit " must be bool"))

/-- A member of a class of states, or a text that names one; `own` gives the members. -/
def requireState (own : PyArg → Option SwitchState) (message : PyStr) (value : PyArg) :
    Except PyExc SwitchState :=
  match own value with
  | some s => .ok s
  | none => match value.asStr.bind fun s => SwitchState.ofValue (upper (strip s)) with
    | some s => .ok s
    | none => .error (invalid message)

/-- The function `_require_output_state`. -/
def requireOutputState : PyArg → Except PyExc SwitchState :=
  requireState (fun | .outputState s => some s | _ => none)
    "state must be OutputState.ON, OutputState.OFF, 'ON', or 'OFF'"

/-- The function `_require_waveform_state`. -/
def requireWaveformState : PyArg → Except PyExc SwitchState :=
  requireState (fun | .waveformState s => some s | _ => none)
    "state must be WaveformState.ON, WaveformState.OFF, 'ON', or 'OFF'"

/-- The function `_require_timer_state`. -/
def requireTimerState : PyArg → Except PyExc SwitchState :=
  requireState (fun | .timerState s => some s | _ => none)
    "state must be TimerState.ON, TimerState.OFF, 'ON', or 'OFF'"

/-- The check of `Output.track`. -/
def requireTrackingMode (mode : PyArg) : Except PyExc TrackingMode :=
  match mode.asInt.bind TrackingMode.ofValue with
  | some m => .ok m
  | none => .error (invalid "mode must be a TrackingMode or integer 0, 1, or 2")

section
variable [PyText]

/-- An address in a text that `read` understands. -/
def requireAddress (read : PyStr → Option ℕ) (notString malformed : PyStr) (value : PyArg) :
    Except PyExc PyStr :=
  match value.asStr with
  | none => .error (invalid notString)
  | some s => match read s with
    | some ip => .ok (addressText ip)
    | none => .error (invalid (malformed ++ PyText.repr (.str s)))

/-- The function `_require_ipv4_address`. -/
def requireIpv4Address : PyArg → Except PyExc PyStr :=
  requireAddress ipv4Address "IPv4 address must be a string" "Invalid IPv4 address: "

/-- The function `_require_subnet_mask`. -/
def requireSubnetMask : PyArg → Except PyExc PyStr :=
  requireAddress networkMask "subnet mask must be a string" "Invalid IPv4 subnet mask: "

end

/-! ## Numbers -/

/-- The check of the resolution in `_format_number`. -/
def requireAligned (name : PyStr) (d : Dec) : Option Dec → Except PyExc Unit
  | none => .ok ()
  | some resolution => do
    let remainder ← PyDecimal.remainder d resolution
    if remainder.coeff ≠ 0 then .error (invalid
      (name ++ lit " must align to the " ++ PyDecimal.str resolution ++ lit " resolution"))
    else .ok ()

/-- The end of `_format_number`, for a number in the range. -/
def renderNumber (name : PyStr) (neg : Bool) (d : Dec) (resolution : Option Dec) :
    Except PyExc PyStr := do
  requireAligned name d resolution
  let normalized ← PyDecimal.normalize d
  let rendered := PyDecimal.format neg normalized
  return if rendered = lit "-0" then lit "0" else rendered

/-- The function `_format_number`. -/
def formatNumber (name : PyStr) (value : PyArg) (minimum maximum : Dec) (resolution : Option Dec) :
    Except PyExc PyStr :=
  match value.asReal with
  | none => .error (invalid (name ++ lit " must be a real number"))
  | some v => match v.decimalOfStr with
    | .error e =>
      .error (if e.isinstance PyDecimal.invalidOperation then
        invalid (name ++ lit " must be a real number") else e)
    | .ok (.inf _) | .ok .nan => .error (invalid (name ++ lit " must be finite"))
    | .ok (.finite neg d) =>
      if minimum.value ≤ PyDecimal.signed neg d ∧ PyDecimal.signed neg d ≤ maximum.value then
        renderNumber name neg d resolution
      else .error (invalid (name ++ lit " must be between " ++ PyDecimal.str minimum ++ lit " and " ++
        PyDecimal.str maximum))

/-- What can be set. -/
inductive Quantity where
  | voltage | current
  deriving DecidableEq

/-- The decimal `Decimal(str(resolution))` of a capability. -/
def resolutionOf : PyFloat → Dec
  | .finite q => shown |q|
  | _ => ⟨0, 0⟩

/-- The method `_setpoint`. -/
def setpoint (model : Model) (quantity : Quantity) (value : PyArg) : Except PyExc PyStr :=
  match quantity with
  | .voltage => formatNumber "voltage" value ⟨0, 0⟩ ⟨32, 0⟩
      (some (resolutionOf model.capabilities.voltageResolution))
  | .current => formatNumber "current" value ⟨0, 0⟩ ⟨32, -1⟩
      (some (resolutionOf model.capabilities.currentResolution))

/-- The duration of a timer step. -/
def duration (value : PyArg) : Except PyExc PyStr :=
  formatNumber "duration_s" value ⟨0, 0⟩ ⟨10000, 0⟩ none

/-! ## Responses -/

section
variable [PyText]

/-- The function `_parse_float`. -/
def parseFloat (command response : PyStr) : Except PyExc PyFloat :=
  match floatOfText (strip response) with
  | none => .error (malformed command response)
  | some (.finite q) => .ok (.finite q)
  | some _ => .error (.msg .spd3000ProtocolError
      (lit "Non-finite " ++ command ++ lit " response: " ++ PyText.repr (.str response)))

/-- The function `_parse_bool`. -/
def parseBool (command response : PyStr) : Except PyExc Bool :=
  let normalized := upper (strip response)
  if [lit "1", lit "ON", lit "TRUE"].contains normalized then .ok true
  else if [lit "0", lit "OFF", lit "FALSE"].contains normalized then .ok false
  else .error (malformed command response)

/-- The function `_parse_lock_state`. -/
def parseLockState (response : PyStr) : Except PyExc Bool :=
  let normalized := upper (strip response)
  if normalized = lit "LOCK" then .ok true
  else if normalized = lit "UNLOCK" then .ok false
  else parseBool "*LOCK?" response

/-- The function `_parse_dhcp`. -/
def parseDhcp (response : PyStr) : Except PyExc Bool :=
  let normalized := strip response
  if (lit "DHCP:").isPrefixOf (upper normalized) then
    parseBool "DHCP?" (normalized.dropWhile fun c => c.val ≠ 58).tail
  else parseBool "DHCP?" normalized

/-- The function `_parse_instrument`. -/
def parseInstrument (response : PyStr) : Except PyExc Channel :=
  let normalized := upper (strip response)
  match Channel.ofValue normalized with
  | some c => .ok c
  | none => .error (malformed "INST?" normalized)

/-- An address in a response, in the text that `read` understands. -/
def parseAddress (read : PyStr → Option ℕ) (command response : PyStr) : Except PyExc PyStr :=
  match read (strip response) with
  | some ip => .ok (addressText ip)
  | none => .error (malformed command (strip response))

/-- The function `_parse_ipv4_address`. -/
def parseIpv4Address : PyStr → PyStr → Except PyExc PyStr := parseAddress ipv4Address

/-- The function `_parse_subnet_mask`. -/
def parseSubnetMask : PyStr → Except PyExc PyStr := parseAddress networkMask "MASKADDR?"

/-- The dictionary of a timer step. -/
def timerStep (voltage current duration : PyFloat) : PyVal :=
  .dict [("voltage_v", .float voltage), ("current_a", .float current),
    ("duration_s", .float duration)]

/-- The function `_parse_timer_step`. -/
def parseTimerStep (response : PyStr) : Except PyExc PyVal :=
  match (split 44 response).map strip with
  | [voltage, current, duration] => do
    let voltage ← parseFloat "TIMER:SET? voltage" voltage
    let current ← parseFloat "TIMER:SET? current" current
    let duration ← parseFloat "TIMER:SET? time" duration
    return timerStep voltage current duration
  | _ => .error (malformed "TIMER:SET?" response)

end

end Spd3000
