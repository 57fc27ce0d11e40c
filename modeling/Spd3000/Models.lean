/-
  Models, capabilities and responses (`models.py`).

  A member of an enumeration is a constructor; `value` is the text or number that
  commands carry.  The regular expression of system errors is a list of all its
  matches, in the order in which `re` tries them.
-/
import Spd3000.Addresses

namespace Spd3000

open Decimals

/-! ## Enumerations -/

inductive Model where
  | spd3303X | spd3303XE | spd3303C
  deriving DecidableEq

def Model.value : Model → PyStr
  | spd3303X => "SPD3303X" | spd3303XE => "SPD3303X-E" | spd3303C => "SPD3303C"

/-- A physical output channel. -/
inductive Channel where
  | ch1 | ch2 | ch3
  deriving DecidableEq

def Channel.value : Channel → PyStr
  | ch1 => "CH1" | ch2 => "CH2" | ch3 => "CH3"

/-- The call `Channel(value)`; `none` where it raises `ValueError`. -/
def Channel.ofValue (s : PyStr) : Option Channel := [ch1, ch2, ch3].find? (·.value = s)

/-- A member of `OutputState`, `WaveformState` or `TimerState`. -/
inductive SwitchState where
  | off | on
  deriving DecidableEq

def SwitchState.value : SwitchState → PyStr
  | off => "OFF" | on => "ON"

/-- The call of one of the three classes; `none` where it raises `ValueError`. -/
def SwitchState.ofValue (s : PyStr) : Option SwitchState := [off, on].find? (·.value = s)

inductive TrackingMode where
  | independent | series | parallel
  deriving DecidableEq

def TrackingMode.value : TrackingMode → ℕ
  | independent => 0 | series => 1 | parallel => 2

/-- The call `TrackingMode(value)`; `none` where it raises `ValueError`. -/
def TrackingMode.ofValue (i : ℤ) : Option TrackingMode :=
  [independent, series, parallel].find? ((·.value : TrackingMode → ℤ) · = i)

inductive OperatingMode where
  | unknown | independent | parallel | series

def OperatingMode.value : OperatingMode → PyStr
  | unknown => "unknown" | independent => "independent" | parallel => "parallel"
  | series => "series"

inductive RegulationMode where
  | cv | cc

def RegulationMode.value : RegulationMode → PyStr
  | cv => "CV" | cc => "CC"

/-! ## Capabilities -/

/-- The features and resolutions that the driver asks for. -/
structure Capabilities where
  voltageResolution : PyFloat
  currentResolution : PyFloat
  measurePower : Bool
  waveform : Bool
  timer : Bool
  network : Bool
  lockQuery : Bool

/-- The entry of `CAPABILITIES`. -/
def Model.capabilities : Model → Capabilities
  | spd3303X => ⟨floatOfDec false ⟨1, -3⟩, floatOfDec false ⟨1, -3⟩, true, true, true, true, true⟩
  | spd3303XE => ⟨floatOfDec false ⟨1, -2⟩, floatOfDec false ⟨1, -2⟩, true, true, true, true, true⟩
  | spd3303C =>
    ⟨floatOfDec false ⟨1, -2⟩, floatOfDec false ⟨1, -2⟩, false, false, false, false, false⟩

/-! ## Status -/

structure ChannelStatus where
  regulation : RegulationMode
  output : Bool
  timer : Option Bool
  waveform : Option Bool

structure SystemStatus where
  raw : ℤ
  operatingMode : OperatingMode
  ch1 : ChannelStatus
  ch2 : ChannelStatus

def optionalBool : Option Bool → PyVal
  | none => .none
  | some b => .bool b

def ChannelStatus.toVal (s : ChannelStatus) : PyVal :=
  .obj "ChannelStatus" [("regulation", .str s.regulation.value), ("output", .bool s.output),
    ("timer", optionalBool s.timer), ("waveform", optionalBool s.waveform)]

def SystemStatus.toVal (s : SystemStatus) : PyVal :=
  .obj "SystemStatus" [("raw", .int s.raw), ("operating_mode", .str s.operatingMode.value),
    ("ch1", s.ch1.toVal), ("ch2", s.ch2.toVal)]

/-- The status of the channel; the one of CH2 where `channel is not Channel.CH1`. -/
def SystemStatus.channel (s : SystemStatus) (channel : Channel) : ChannelStatus :=
  if channel = .ch1 then s.ch1 else s.ch2

/-- The test `raw & (1 << k)`. -/
def bit (raw : ℤ) (k : ℕ) : Bool := raw / 2 ^ k % 2 = 1

/-- The mode of the bits 2 and 3. -/
def operatingModeOf (raw : ℤ) : OperatingMode :=
  match bit raw 3, bit raw 2 with
  | false, false => .unknown
  | false, true => .independent
  | true, false => .parallel
  | true, true => .series

section
variable [PyText]

/-- An `SPD3000ProtocolError` about a response. -/
def malformed (command : PyStr) (text : PyStr) : PyExc :=
  .msg .spd3000ProtocolError
    (lit "Malformed " ++ command ++ lit " response: " ++ PyText.repr (.str text))

def parseStatus (response : PyStr) (model : Model) : Except PyExc SystemStatus :=
  match intLiteral (strip response) with
  | none => .error (malformed "SYST:STAT?" response)
  | some raw =>
    let extended := fun k => if model ≠ .spd3303C then some (bit raw k) else none
    .ok {
      raw := raw
      operatingMode := operatingModeOf raw
      ch1 := ⟨if bit raw 0 then .cc else .cv, bit raw 4, extended 6, extended 8⟩
      ch2 := ⟨if bit raw 1 then .cc else .cv, bit raw 5, extended 7, extended 9⟩ }

/-! ## Identification -/

/-- The model that the second field of `*IDN?` names. -/
def modelOfToken (token : PyStr) : Option Model :=
  if token = lit "SPD3303X" then some .spd3303X
  else if token = lit "SPD3303X-E" then some .spd3303XE
  else if token = lit "SPD3303XE" then some .spd3303XE
  else if token = lit "SPD3303C" then some .spd3303C
  else none

def parseIdentification (response : PyStr) : Except PyExc PyVal :=
  match (split 44 (strip response)).map strip with
  | manufacturer :: name :: serial :: version :: rest =>
    let token := (upper name).map fun c => if c.val = 95 then chr 45 else c
    match modelOfToken token with
    | none => .error (.msg .unknownModelError
        (lit "Unsupported model in *IDN? response: " ++ PyText.repr (.str name)))
    | some model => .ok (.obj "Identification" [("manufacturer", .str manufacturer),
        ("model", .str model.value), ("serial_number", .str serial),
        ("firmware_version", .str (join (lit ",") (version :: rest))),
        ("raw", .str (strip response))])
  | _ => .error (malformed "*IDN?" response)

end

/-! ## System errors -/

/-- The ways in which a greedy `p*` takes characters off a text, the longest one first. -/
def takes (p : CodePoint → Bool) : PyStr → List (PyStr × PyStr)
  | [] => [([], [])]
  | c :: s =>
    if p c then (takes p s).map (fun m => (c :: m.1, m.2)) ++ [([], c :: s)] else [([], c :: s)]

/-- The ways in which an optional character is taken off a text. -/
def takesOne (p : CodePoint → Bool) : PyStr → List (PyStr × PyStr)
  | [] => [([], [])]
  | c :: s => if p c then [([c], s), ([], c :: s)] else [([], c :: s)]

/-- The matches of `_ERROR_RE`: the two groups of each. -/
def errorMatches (response : PyStr) : List (PyStr × PyStr) :=
  let quote := takesOne fun c => c.val == 34
  (takes isSpace response).flatMap fun start =>
  (takesOne (fun c => c.val == 43 || c.val == 45) start.2).flatMap fun sign =>
  ((takes (fun c => (digitValue c).isSome) sign.2).filter (·.1 ≠ [])).flatMap fun code =>
  (takes isSpace code.2).flatMap fun gap =>
  ((takesOne (fun c => c.val == 44 || c.val == 32) gap.2).filter (·.1 ≠ [])).flatMap fun separator =>
  (takes isSpace separator.2).flatMap fun blank =>
  (quote blank.2).flatMap fun opening =>
  (takes (fun c => c.val != 10) opening.2).reverse.flatMap fun message =>
  (quote message.2).flatMap fun closing =>
  ((takes isSpace closing.2).filter fun rest => rest.2 = [] ∨ rest.2.map Fin.val = [10]).map
    fun _ => (sign.1 ++ code.1, message.1)

section
variable [PyText]

/-- The call `int(text)` of a sign and digits. -/
def intOfDigits (s : PyStr) : Except PyExc ℤ :=
  let (neg, s) := takeSign s
  let ds := s.map fun c => (digitValue c).getD 0
  if maxStrDigits < ds.length then .error (.msg .valueError
    "Exceeds the limit (4300 digits) for integer string conversion")
  else .ok (if neg then -(ofPlaces ds : ℤ) else ofPlaces ds)

def parseSystemError (response : PyStr) : Except PyExc PyVal :=
  match errorMatches response with
  | [] => .error (malformed "SYST:ERR?" response)
  | (code, message) :: _ => (intOfDigits code).map fun code =>
    .obj "SystemError" [("code", .int code), ("message", .str message)]

end

end Spd3000
