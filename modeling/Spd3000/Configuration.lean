/-
  The configuration files of the gateway (`gateway/config.py`).

  `decodeUtf8` is the decoder that the TOML library applies to the bytes; the
  library itself is a parameter `toml`, from texts to documents.  A step of a
  loader either reads its part of the document, or reports a
  `GatewayConfigurationError`, or lets another exception through (`Loads`).  Only
  two steps let one through: decoding, and the conversion of an integer that no
  float can hold (`configuration_reported`).
-/
import Spd3000.Endpoints
import Spd3000.Handshake

namespace Spd3000

/-! ## Texts -/

/-- The bytes that continue a sequence. -/
def isContinuation (b : UInt8) : Bool := 0x80 ≤ b.toNat && b.toNat ≤ 0xBF

/-- The code point of a first byte with `k` payload bits masked out, and continuation bytes. -/
def codePoint (first : ℕ) (rest : Bytes) : CodePoint :=
  chr (rest.foldl (fun n b => n * 64 + (b.toNat - 0x80)) first)

/-- The string `data.decode()`; `none` where it raises `UnicodeDecodeError`.  The second byte is
    restricted where the sequence would be overlong, a surrogate or out of range. -/
def decodeUtf8 : Bytes → Option PyStr
  | [] => some []
  | [a] => if a.toNat < 0x80 then some [chr a.toNat] else none
  | a :: b :: s =>
    if a.toNat < 0x80 then (decodeUtf8 (b :: s)).map (chr a.toNat :: ·)
    else if 0xC2 ≤ a.toNat ∧ a.toNat ≤ 0xDF ∧ isContinuation b then
      (decodeUtf8 s).map (codePoint (a.toNat - 0xC0) [b] :: ·)
    else match s with
      | [] => none
      | c :: s =>
        if 0xE0 ≤ a.toNat ∧ a.toNat ≤ 0xEF ∧ isContinuation b ∧ isContinuation c ∧
            (a.toNat = 0xE0 → 0xA0 ≤ b.toNat) ∧ (a.toNat = 0xED → b.toNat ≤ 0x9F) then
          (decodeUtf8 s).map (codePoint (a.toNat - 0xE0) [b, c] :: ·)
        else match s with
          | [] => none
          | d :: s =>
            if 0xF0 ≤ a.toNat ∧ a.toNat ≤ 0xF4 ∧ isContinuation b ∧ isContinuation c ∧
                isContinuation d ∧ (a.toNat = 0xF0 → 0x90 ≤ b.toNat) ∧
                (a.toNat = 0xF4 → b.toNat ≤ 0x8F) then
              (decodeUtf8 s).map (codePoint (a.toNat - 0xF0) [b, c, d] :: ·)
            else none

/-- The lower case of a character, where it is ASCII; other characters are left as they are, since
    texts in lower case are compared with ASCII texts only. -/
def lowerChar (c : CodePoint) : PyStr :=
  if 65 ≤ c.val ∧ c.val ≤ 90 then [chr (c.val + 32)]
  else if c.val = 0x130 then [chr 0x69, chr 0x307]
  else if c.val = 0x212A then "k"
  else [c]

/-- The string `text.lower()`. -/
def lower (s : PyStr) : PyStr := s.flatMap lowerChar

/-- The quotient `value / n` of floats. -/
def PyFloat.dividedBy (n : ℕ) : PyFloat → PyFloat
  | .finite q => floatOf (q < 0) q.num.natAbs (q.den * n)
  | f => f

/-! ## Settings -/

inductive ConnectionType where
  | socket | vxi11 | visa | gateway
  deriving DecidableEq

def ConnectionType.value : ConnectionType → PyStr
  | socket => "socket" | vxi11 => "vxi11" | visa => "visa" | gateway => "gateway"

/-- The call `ConnectionType(value)`; `none` where it raises `ValueError`. -/
def ConnectionType.ofValue (s : PyStr) : Option ConnectionType :=
  [socket, vxi11, visa, gateway].find? (·.value = s)

structure InstrumentSettings where
  connection : ConnectionType
  identifier : PyStr
  visaBackend : Option PyStr
  execution : ExecutionSettings

structure GatewaySettings where
  source : PyStr
  bind : PyStr
  port : ℕ
  instrument : InstrumentSettings

/-! ## Parts of a document -/

namespace Configuration

def configurationError (text : PyStr) : PyExc := .msg .gatewayConfigurationError text

/-- The function `_table`. -/
def table (document : PyDict) (name : PyStr) (required : Bool) : Except PyExc PyDict :=
  match document.getD name with
  | .dict t => .ok t
  | .none =>
    if required then .error (configurationError (lit "[" ++ name ++ lit "] is required"))
    else .ok []
  | _ => .error (configurationError (lit "[" ++ name ++ lit "] is must be a TOML table"))

/-- The function `_reject_unknown_keys`. -/
def rejectUnknownKeys (t : PyDict) (allowed : List PyStr) (location : PyStr) : Except PyExc Unit :=
  match ((t.map (·.1)).filter fun key => !allowed.contains key).insertionSort (· ≤ ·) with
  | [] => .ok ()
  | key :: _ => .error (configurationError (lit "Unknown key in " ++ location ++ lit ": " ++ key))

/-- The function `_string`. -/
def string (t : PyDict) (name : PyStr) (default : Option PyStr) : Except PyExc PyStr :=
  match (t.get name).getD (default.elim .none .str) with
  | .str s =>
    if strip s = [] then .error (configurationError (name ++ lit " must be a non-empty string"))
    else .ok (strip s)
  | _ => .error (configurationError (name ++ lit " must be a non-empty string"))

/-- The function `_optional_string`. -/
def optionalString (t : PyDict) (name : PyStr) : Except PyExc (Option PyStr) :=
  match t.getD name with
  | .none => .ok none
  | _ => (string t name none).map some

/-- The function `_port`. -/
def port (t : PyDict) (name : PyStr) (default : ℕ) : Except PyExc ℕ :=
  match (t.get name).getD (.int default) with
  | .int i =>
    if 1 ≤ i ∧ i ≤ 65535 then .ok i.toNat
    else .error (configurationError (name ++ lit " must be an integer from 1 through 65535"))
  | _ => .error (configurationError (name ++ lit " must be an integer from 1 through 65535"))

/-- The function `_number`. -/
def number (t : PyDict) (name : PyStr) (default : PyFloat) : Except PyExc PyFloat :=
  match (t.get name).getD (.float default) with
  | .int i => match floatOfInt i with
    | some q => .ok (.finite q)
    | none => .error (.msg .overflowError "int too large to convert to float")
  | .float f => .ok f
  | _ => .error (configurationError (name ++ lit " must be a real number"))

/-! ## Reading a file -/

/-- The class `TOMLDecodeError` of the library. -/
def tomlDecodeError : ExcClass := .subclass "TOMLDecodeError" .valueError

def fileNotFoundError : ExcClass := .subclass "FileNotFoundError" .osError

/-- The name `cls.__module__.split(".", 1)[0]`. -/
def rootModule (cls : ExcClass) : PyStr :=
  if cls = tomlDecodeError then "tomllib"
  else if cls.isSubclass .spd3000Error || cls.isSubclass .gatewayError then "siglent_spd3000"
  else if cls = .jsonDecodeError then "json"
  else match cls with
    | .subclass _ _ => "__main__"
    | _ => "builtins"

section
variable [PyText] (toml : PyStr → Except PyExc PyVal)

/-- The call `toml.load(stream)` on the bytes of a file. -/
def loadToml (content : Bytes) : Except PyExc PyVal :=
  match decodeUtf8 content with
  | none => .error (.msg .unicodeDecodeError "'utf-8' codec can't decode bytes")
  | some text => toml text

/-- The statement that opens and reads a file, without the clause for a missing file: `unreadable` is
    the message for a file that cannot be read. -/
def readDocument (source unreadable : PyStr) (opened : Except PyExc Bytes) : Except PyExc PyVal :=
  match opened.bind (loadToml toml) with
  | .ok document => .ok document
  | .error e =>
    if e.isinstance .osError then
      .error (configurationError (unreadable ++ source ++ lit ": " ++ PyText.str e))
    else if e.isinstance .exception then
      if rootModule e.cls = lit "tomllib" ∨ rootModule e.cls = lit "tomli" then
        .error (configurationError (lit "Invalid TOML in " ++ source ++ lit ": " ++ PyText.str e))
      else .error e
    else .error e

/-- The test of the clause `except FileNotFoundError`. -/
def isMissing (opened : Except PyExc Bytes) : Bool :=
  match opened with
  | .ok _ => false
  | .error e => e.isinstance fileNotFoundError

/-! ## Gateway settings -/

omit [PyText] in
def instrumentConnection (instrument : PyDict) : Except PyExc ConnectionType := do
  let name ← string instrument "connection" none
  match ConnectionType.ofValue (lower name) with
  | none => .error (configurationError "instrument.connection must be 'socket', 'vxi11', or 'visa'")
  | some .gateway => .error (configurationError (lit
      ("instrument.connection cannot be 'gateway'; " ++ "the server must own a physical connection")))
  | some connection => return connection

omit [PyText] in
def instrumentBackend (instrument : PyDict) (connection : ConnectionType) :
    Except PyExc (Option PyStr) :=
  if connection = .visa then optionalString instrument "visa_backend"
  else match instrument.getD "visa_backend" with
    | .none => .ok none
    | _ => .error (configurationError
        "instrument.visa_backend can only be used with connection='visa'")

def instrumentExecution (instrument : PyDict) : Except PyExc ExecutionSettings := do
  let timeout ← number instrument "timeout_s" (.finite 5)
  let intervalMs ← number instrument "min_command_interval_ms" (.finite 100)
  match ExecutionSettings.make (.float (intervalMs.dividedBy 1000)) (.float timeout) with
  | .ok execution => return execution
  | .error e =>
    if e.isinstance .spd3000ValidationError then .error (configurationError
      (lit "Invalid [instrument] execution setting: " ++ PyText.str e))
    else .error e

omit [PyText] in
def rootKeys : List PyStr := [lit "gateway", lit "instrument"]

omit [PyText] in
def gatewayKeys : List PyStr := [lit "bind", lit "port"]

omit [PyText] in
def instrumentKeys : List PyStr :=
  [lit "connection", lit "identifier", lit "visa_backend", lit "timeout_s",
    lit "min_command_interval_ms"]

/-- The settings of a document. -/
def settingsOf (source : PyStr) (document : PyDict) : Except PyExc GatewaySettings := do
  rejectUnknownKeys document rootKeys "document root"
  let gateway ← table document "gateway" false
  let instrument ← table document "instrument" true
  rejectUnknownKeys gateway gatewayKeys "[gateway]"
  rejectUnknownKeys instrument instrumentKeys "[instrument]"
  let bind ← string gateway "bind" (some "localhost")
  let gatewayPort ← port gateway "port" DEFAULT_GATEWAY_PORT
  let connection ← instrumentConnection instrument
  let identifier ← string instrument "identifier" none
  let visaBackend ← instrumentBackend instrument connection
  let execution ← instrumentExecution instrument
  return ⟨source, bind, gatewayPort, ⟨connection, identifier, visaBackend, execution⟩⟩

/-- The function `load_gateway_settings`. -/
def loadGatewaySettings (source : PyStr) (opened : Except PyExc Bytes) :
    Except PyExc GatewaySettings :=
  if isMissing opened then .error (configurationError (lit "Gateway settings file not found: " ++
    source ++ lit (". " ++ "Copy gateway-settings.toml.template to gateway-settings.toml and edit it.")))
  else match readDocument toml source "Could not read gateway settings " opened with
    | .error e => .error e
    | .ok (.dict document) => settingsOf source document
    | .ok _ => .error (configurationError "Gateway settings must contain TOML tables")

/-! ## The token -/

omit [PyText] in
/-- The token of a document. -/
def tokenOf (document : PyDict) : Except PyExc (Option PyStr) := do
  rejectUnknownKeys document [lit "token"] "authentication document root"
  match document.getD "token" with
  | .none => return none
  | .str s => if strip s = [] then return none else (string document "token" none).map some
  | _ => (string document "token" none).map some

/-- The function `load_gateway_auth`. -/
def loadGatewayAuth (source : PyStr) (required : Bool) (opened : Except PyExc Bytes) :
    Except PyExc (Option PyStr) :=
  if isMissing opened then
    if required then .error (configurationError (lit "Gateway authentication file not found: " ++
      source ++ lit (". " ++ "Copy gateway-auth.toml.template to gateway-auth.toml and set token.")))
    else .ok none
  else match readDocument toml source "Could not read gateway authentication file " opened with
    | .error e => .error e
    | .ok (.dict document) => tokenOf document
    | .ok _ => .error (configurationError "Gateway authentication must be a TOML document")

end

/-! ## Outcomes of a step -/

/-- The outcomes of loading: a value with a property, a report, or another exception that is let
    through under a condition. -/
inductive Loads {α : Type} (P : α → Prop) (through : Prop) : Except PyExc α → Prop
  | loaded {a : α} : P a → Loads P through (.ok a)
  | reported {e : PyExc} : e.cls = .gatewayConfigurationError → Loads P through (.error e)
  | passed {e : PyExc} : through → e.cls ≠ .gatewayConfigurationError → Loads P through (.error e)

/-- A value with a property is loaded, or a problem is reported. -/
def Reports {α : Type} (P : α → Prop) (r : Except PyExc α) : Prop :=
  (∃ e, r = .error e ∧ e.cls = .gatewayConfigurationError) ∨ ∃ a, r = .ok a ∧ P a

section
variable {α β : Type} {P : α → Prop} {Q : β → Prop} {through : Prop} {r : Except PyExc α}

theorem Loads.bind_through {f : α → Except PyExc β} {through' : Prop} (h : Loads P through' r)
    (hthrough : through' → through) (hf : ∀ a, P a → Loads Q through (f a)) :
    Loads Q through (r >>= f) := by
  cases h with
  | loaded ha => exact hf _ ha
  | reported he => exact .reported he
  | passed h he => exact .passed (hthrough h) he

/-- A step that lets nothing through, and what follows it. -/
theorem Loads.bind {f : α → Except PyExc β} (h : Loads P False r)
    (hf : ∀ a, P a → Loads Q through (f a)) : Loads Q through (r >>= f) :=
  h.bind_through False.elim hf

/-- Problems are reported unless one is let through. -/
theorem Loads.reports_iff (h : Loads P through r)
    (hpassed : through → ∃ e, r = .error e ∧ e.cls ≠ .gatewayConfigurationError) :
    Reports P r ↔ ¬ through := by
  constructor
  · intro hreports hthrough
    obtain ⟨e, rfl, he⟩ := hpassed hthrough
    rcases hreports with ⟨_, ⟨⟩, he'⟩ | ⟨_, ⟨⟩, -⟩
    exact he he'
  · intro hthrough
    cases h with
    | loaded ha => exact .inr ⟨_, rfl, ha⟩
    | reported he => exact .inl ⟨_, rfl, he⟩
    | passed h _ => exact absurd h hthrough

theorem Loads.imp {P' : α → Prop} (h : Loads P through r) (hP : ∀ a, P a → P' a) :
    Loads P' through r := by
  cases h with
  | loaded ha => exact .loaded (hP _ ha)
  | reported he => exact .reported he
  | passed h he => exact .passed h he

theorem Loads.map {f : α → β} (h : Loads P through r) (hf : ∀ a, P a → Q (f a)) :
    Loads Q through (r.map f) := by
  cases h with
  | loaded ha => exact .loaded (hf _ ha)
  | reported he => exact .reported he
  | passed h he => exact .passed h he

end

/-! ## The parts of a document -/

def KnownKeys (allowed : List PyStr) (t : PyDict) : Prop := ∀ kv ∈ t, allowed.contains kv.1

/-- The table of a name, empty if it is optional and missing. -/
def TableAt (document : PyDict) (name : PyStr) (required : Bool) (t : PyDict) : Prop :=
  document.getD name = .dict t ∨ document.getD name = .none ∧ required = false ∧ t = []

/-- The string of a name or its default, stripped and not blank. -/
def StringAt (t : PyDict) (name : PyStr) (default : Option PyStr) (value : PyStr) : Prop :=
  ∃ s, (t.get name).getD (default.elim .none .str) = .str s ∧ strip s ≠ [] ∧ value = strip s

def PortAt (t : PyDict) (name : PyStr) (default value : ℕ) : Prop :=
  (t.get name).getD (.int default) = .int value ∧ 1 ≤ value ∧ value ≤ 65535

section
variable {t document : PyDict} {name : PyStr}

theorem rejectUnknownKeys_loads (allowed : List PyStr) (t : PyDict) (location : PyStr) :
    Loads (fun _ => KnownKeys allowed t) False (rejectUnknownKeys t allowed location) := by
  unfold rejectUnknownKeys
  split
  · rename_i hsort
    refine .loaded fun kv hkv => ?_
    have hnil : ((t.map (·.1)).filter fun key => !allowed.contains key) = [] := by
      rw [← List.perm_nil, ← hsort]
      exact (List.perm_insertionSort _ _).symm
    have hkey := List.filter_eq_nil_iff.1 hnil kv.1 (List.mem_map_of_mem hkv)
    simpa using hkey
  · exact .reported rfl

theorem rejectUnknownKeys_ok {allowed : List PyStr} (h : KnownKeys allowed t) (location : PyStr) :
    rejectUnknownKeys t allowed location = .ok () := by
  have hnil : ((t.map (·.1)).filter fun key => !allowed.contains key) = [] := by
    rw [List.filter_eq_nil_iff]
    intro key hkey
    obtain ⟨kv, hkv, rfl⟩ := List.mem_map.1 hkey
    rw [h kv hkv]
    decide
  rw [rejectUnknownKeys, hnil]
  rfl

theorem table_loads (document : PyDict) (name : PyStr) (required : Bool) :
    Loads (TableAt document name required) False (table document name required) := by
  unfold table
  split
  · rename_i t h
    exact .loaded (.inl h)
  · rename_i h
    cases required with
    | true => exact .reported rfl
    | false => exact .loaded (.inr ⟨h, rfl, rfl⟩)
  · exact .reported rfl

theorem table_ok {required : Bool} (h : TableAt document name required t) :
    table document name required = .ok t := by
  unfold table
  rcases h with h | ⟨h, rfl, rfl⟩
  · rw [h]
  · rw [h]
    rfl

theorem string_loads (t : PyDict) (name : PyStr) (default : Option PyStr) :
    Loads (StringAt t name default) False (string t name default) := by
  unfold string
  split
  · rename_i s h
    split_ifs with hblank
    · exact .reported rfl
    · exact .loaded ⟨s, h, hblank, rfl⟩
  · exact .reported rfl

theorem string_ok {default : Option PyStr} {value : PyStr} (h : StringAt t name default value) :
    string t name default = .ok value := by
  obtain ⟨s, hs, hblank, rfl⟩ := h
  rw [string, hs]
  exact if_neg hblank

theorem port_loads (t : PyDict) (name : PyStr) (default : ℕ) :
    Loads (PortAt t name default) False (port t name default) := by
  unfold port
  split
  · rename_i i h
    split_ifs with hrange
    · refine .loaded ⟨?_, by omega, by omega⟩
      rw [h, Int.toNat_of_nonneg (by omega)]
    · exact .reported rfl
  · exact .reported rfl

theorem port_ok {default value : ℕ} (h : PortAt t name default value) :
    port t name default = .ok value := by
  obtain ⟨hvalue, hrange⟩ := h
  rw [port, hvalue]
  dsimp only
  rw [if_pos (by omega)]
  rfl

end

/-! ## The instrument -/

/-- The connection that the instrument names. -/
def ConnectionAt (instrument : PyDict) (connection : ConnectionType) : Prop :=
  ∃ name, StringAt instrument "connection" none name ∧ lower name = connection.value ∧
    connection ≠ .gateway

/-- The backend, which only a VISA connection may have. -/
def BackendAt (instrument : PyDict) (connection : ConnectionType) (backend : Option PyStr) : Prop :=
  instrument.getD "visa_backend" = .none ∧ backend = none ∨ connection = .visa ∧
    ∃ value, StringAt instrument "visa_backend" none value ∧ backend = some value

section
variable {instrument : PyDict}

theorem ofValue_eq_some {s : PyStr} {c : ConnectionType} :
    ConnectionType.ofValue s = some c ↔ s = c.value := by
  constructor
  · intro h
    have hvalue := List.find?_some h
    exact (of_decide_eq_true hvalue).symm
  · rintro rfl
    cases c <;> rfl

theorem instrumentConnection_loads (instrument : PyDict) :
    Loads (ConnectionAt instrument) False (instrumentConnection instrument) := by
  refine (string_loads instrument "connection" none).bind fun name hname => ?_
  split
  · exact .reported rfl
  · exact .reported rfl
  · rename_i connection hgateway h
    exact .loaded ⟨name, hname, ofValue_eq_some.1 h, hgateway⟩

theorem instrumentConnection_ok {connection : ConnectionType} (h : ConnectionAt instrument connection) :
    instrumentConnection instrument = .ok connection := by
  obtain ⟨name, hname, hlower, hgateway⟩ := h
  rw [instrumentConnection, string_ok hname, ok_bind, ofValue_eq_some.2 hlower]
  cases connection with
  | gateway => exact absurd rfl hgateway
  | _ => rfl

theorem stringAt_getD {t : PyDict} {name value : PyStr} (h : StringAt t name none value) :
    ∃ s, t.getD name = .str s := by
  obtain ⟨s, hs, -⟩ := h
  exact ⟨s, hs⟩

theorem instrumentBackend_loads (instrument : PyDict) (connection : ConnectionType) :
    Loads (BackendAt instrument connection) False (instrumentBackend instrument connection) := by
  unfold instrumentBackend optionalString
  split_ifs with hvisa
  · split
    · rename_i h
      exact .loaded (.inl ⟨h, rfl⟩)
    · exact (string_loads instrument "visa_backend" none).map fun value hvalue =>
        .inr ⟨hvisa, value, hvalue, rfl⟩
  · split
    · rename_i h
      exact .loaded (.inl ⟨h, rfl⟩)
    · exact .reported rfl

theorem instrumentBackend_ok {connection : ConnectionType} {backend : Option PyStr}
    (h : BackendAt instrument connection backend) :
    instrumentBackend instrument connection = .ok backend := by
  unfold instrumentBackend optionalString
  rcases h with ⟨hnone, rfl⟩ | ⟨hvisa, value, hvalue, rfl⟩
  · rw [hnone]
    split_ifs <;> rfl
  · obtain ⟨s, hs⟩ := stringAt_getD hvalue
    rw [if_pos hvisa, hs, string_ok hvalue]
    rfl

end

/-- The number of a name is an integer that no float can hold. -/
def OverflowsAt (t : PyDict) (name : PyStr) : Prop := Overflows (t.getD name)

/-- The number of a name is missing, a float, or an integer that a float can hold. -/
def ConvertsAt (t : PyDict) (name : PyStr) : Prop :=
  t.get name = none ∨ (∃ f, t.get name = some (.float f)) ∨
    ∃ i, t.get name = some (.int i) ∧ (floatOfInt i).isSome

section
variable {t : PyDict} {name : PyStr}

theorem overflowsAt_iff :
    OverflowsAt t name ↔ ∃ i, t.get name = some (.int i) ∧ floatOfInt i = none := by
  refine exists_congr fun i => and_congr_left fun _ => ?_
  rw [PyDict.getD]
  cases t.get name with
  | none => exact iff_of_false PyVal.noConfusion (by simp)
  | some v => rw [Option.getD_some, Option.some.injEq]

theorem number_loads (t : PyDict) (name : PyStr) (default : PyFloat) :
    Loads (fun _ => ConvertsAt t name) (OverflowsAt t name) (number t name default) := by
  rw [overflowsAt_iff]
  unfold number
  cases hget : t.get name with
  | none => exact .loaded (.inl hget)
  | some v =>
    rw [Option.getD_some]
    cases v with
    | int i =>
      dsimp only
      cases hfloat : floatOfInt i with
      | none => exact .passed ⟨i, rfl, hfloat⟩ (by decide)
      | some q => exact .loaded (.inr (.inr ⟨i, hget, by rw [hfloat]; rfl⟩))
    | float f => exact .loaded (.inr (.inl ⟨f, hget⟩))
    | _ => exact .reported rfl

theorem number_overflow (h : OverflowsAt t name) (default : PyFloat) :
    ∃ e, number t name default = .error e ∧ e.cls = .overflowError := by
  obtain ⟨i, hget, hoverflow⟩ := overflowsAt_iff.1 h
  refine ⟨.msg .overflowError "int too large to convert to float", ?_, rfl⟩
  rw [number, hget, Option.getD_some]
  dsimp only
  rw [hoverflow]

theorem number_ok (h : ConvertsAt t name) (default : PyFloat) :
    ∃ value, number t name default = .ok value := by
  unfold number
  rcases h with h | ⟨f, h⟩ | ⟨i, h, hfloat⟩
  · rw [h]
    exact ⟨default, rfl⟩
  · rw [h]
    exact ⟨f, rfl⟩
  · obtain ⟨q, hq⟩ := Option.isSome_iff_exists.1 hfloat
    rw [h, Option.getD_some]
    dsimp only
    rw [hq]
    exact ⟨_, rfl⟩

end

/-- The conversion of the timeout or, behind it, of the interval overflows. -/
def ExecutionOverflows (instrument : PyDict) : Prop :=
  OverflowsAt instrument "timeout_s" ∨
    ConvertsAt instrument "timeout_s" ∧ OverflowsAt instrument "min_command_interval_ms"

/-- The settings of floats are valid or raise `SPD3000ValidationError`. -/
theorem make_floats (interval timeout : PyFloat) :
    (∃ execution, ExecutionSettings.make (.float interval) (.float timeout) = .ok execution) ∨
      ∃ e, ExecutionSettings.make (.float interval) (.float timeout) = .error e ∧
        e.cls = .spd3000ValidationError := by
  unfold ExecutionSettings.make
  cases interval with
  | finite q =>
    cases timeout with
    | finite q' =>
      dsimp only [finiteNumber]
      split_ifs
      · exact .inr ⟨_, rfl, rfl⟩
      · exact .inr ⟨_, rfl, rfl⟩
      · exact .inl ⟨_, rfl⟩
    | _ => exact .inr ⟨_, rfl, rfl⟩
  | _ => exact .inr ⟨_, rfl, rfl⟩

section
variable [PyText]

theorem instrumentExecution_loads (instrument : PyDict) :
    Loads (fun _ => True) (ExecutionOverflows instrument) (instrumentExecution instrument) := by
  refine (number_loads instrument "timeout_s" _).bind_through .inl fun timeout htimeout => ?_
  refine (number_loads instrument "min_command_interval_ms" _).bind_through
    (fun h => .inr ⟨htimeout, h⟩) fun intervalMs _ => ?_
  rcases make_floats (intervalMs.dividedBy 1000) timeout with ⟨execution, hok⟩ | ⟨e, herror, he⟩
  · rw [hok]
    exact .loaded trivial
  · have hinvalid : e.isinstance .spd3000ValidationError = true := by
      rw [PyExc.isinstance, he]
      rfl
    rw [herror]
    dsimp only
    rw [if_pos hinvalid]
    exact .reported rfl

theorem instrumentExecution_overflow {instrument : PyDict} (h : ExecutionOverflows instrument) :
    ∃ e, instrumentExecution instrument = .error e ∧ e.cls = .overflowError := by
  unfold instrumentExecution
  rcases h with h | ⟨htimeout, hinterval⟩
  · obtain ⟨e, he, hcls⟩ := number_overflow h (.finite 5)
    rw [he]
    exact ⟨e, rfl, hcls⟩
  · obtain ⟨timeout, hok⟩ := number_ok htimeout (.finite 5)
    obtain ⟨e, he, hcls⟩ := number_overflow hinterval (.finite 100)
    rw [hok, ok_bind, he]
    exact ⟨e, rfl, hcls⟩

end

/-! ## The settings -/

/-- The document passes every check before the numbers of the instrument. -/
structure Checked (document gateway instrument : PyDict) (settings : GatewaySettings) : Prop where
  known : KnownKeys rootKeys document
  gatewayTable : TableAt document "gateway" false gateway
  instrumentTable : TableAt document "instrument" true instrument
  gatewayKnown : KnownKeys gatewayKeys gateway
  instrumentKnown : KnownKeys instrumentKeys instrument
  bind : StringAt gateway "bind" (some "localhost") settings.bind
  port : PortAt gateway "port" DEFAULT_GATEWAY_PORT settings.port
  connection : ConnectionAt instrument settings.instrument.connection
  identifier : StringAt instrument "identifier" none settings.instrument.identifier
  backend : BackendAt instrument settings.instrument.connection settings.instrument.visaBackend

/-- The conversion of the numbers is reached, and overflows. -/
def DocumentOverflows (document : PyDict) : Prop :=
  ∃ gateway instrument settings, Checked document gateway instrument settings ∧
    ExecutionOverflows instrument

section
variable [PyText]

theorem settingsOf_loads (source : PyStr) (document : PyDict) :
    Loads (fun settings => ∃ gateway instrument, Checked document gateway instrument settings)
      (DocumentOverflows document) (settingsOf source document) := by
  refine (rejectUnknownKeys_loads rootKeys document _).bind fun _ hknown => ?_
  refine (table_loads document "gateway" false).bind fun gateway hgateway => ?_
  refine (table_loads document "instrument" true).bind fun instrument hinstrument => ?_
  refine (rejectUnknownKeys_loads gatewayKeys gateway _).bind fun _ hgatewayKnown => ?_
  refine (rejectUnknownKeys_loads instrumentKeys instrument _).bind fun _ hinstrumentKnown => ?_
  refine (string_loads gateway "bind" _).bind fun bind hbind => ?_
  refine (port_loads gateway "port" _).bind fun gatewayPort hport => ?_
  refine (instrumentConnection_loads instrument).bind fun connection hconnection => ?_
  refine (string_loads instrument "identifier" none).bind fun identifier hidentifier => ?_
  refine (instrumentBackend_loads instrument connection).bind fun backend hbackend => ?_
  have hchecked : ∀ execution, Checked document gateway instrument
      ⟨source, bind, gatewayPort, ⟨connection, identifier, backend, execution⟩⟩ := fun _ =>
    ⟨hknown, hgateway, hinstrument, hgatewayKnown, hinstrumentKnown, hbind, hport, hconnection,
      hidentifier, hbackend⟩
  refine (instrumentExecution_loads instrument).bind_through
    (fun h => ⟨gateway, instrument, _, hchecked .default, h⟩) fun execution _ => ?_
  exact .loaded ⟨gateway, instrument, hchecked execution⟩

theorem settingsOf_overflow (source : PyStr) {document : PyDict} (h : DocumentOverflows document) :
    ∃ e, settingsOf source document = .error e ∧ e.cls = .overflowError := by
  obtain ⟨gateway, instrument, settings, h, hoverflow⟩ := h
  obtain ⟨e, he, hcls⟩ := instrumentExecution_overflow hoverflow
  refine ⟨e, ?_, hcls⟩
  rw [settingsOf, rejectUnknownKeys_ok h.known, ok_bind, table_ok h.gatewayTable, ok_bind,
    table_ok h.instrumentTable, ok_bind, rejectUnknownKeys_ok h.gatewayKnown, ok_bind,
    rejectUnknownKeys_ok h.instrumentKnown, ok_bind, string_ok h.bind, ok_bind, port_ok h.port,
    ok_bind, instrumentConnection_ok h.connection, ok_bind, string_ok h.identifier, ok_bind,
    instrumentBackend_ok h.backend, ok_bind, he]
  rfl

end

/-! ## Valid settings -/

/-- What the settings of a gateway are to be; the interval and the timeout are rational numbers. -/
structure ValidGatewaySettings (s : GatewaySettings) : Prop where
  bind : s.bind ≠ [] ∧ strip s.bind = s.bind
  port : 1 ≤ s.port ∧ s.port ≤ 65535
  connection : s.instrument.connection = .socket ∨ s.instrument.connection = .vxi11 ∨
    s.instrument.connection = .visa
  identifier : s.instrument.identifier ≠ [] ∧ strip s.instrument.identifier = s.instrument.identifier
  backend : s.instrument.connection ≠ .visa → s.instrument.visaBackend = none
  interval : 0 ≤ s.instrument.execution.minCommandInterval
  timeout : 0 < s.instrument.execution.timeout

/-- All keys of the document are documented ones. -/
structure DocumentedKeys (document : PyDict) : Prop where
  root : KnownKeys rootKeys document
  gateway : ∀ t, document.getD "gateway" = .dict t → KnownKeys gatewayKeys t
  instrument : ∀ t, document.getD "instrument" = .dict t → KnownKeys instrumentKeys t

theorem StringAt.stripped {t : PyDict} {name value : PyStr} {default : Option PyStr}
    (h : StringAt t name default value) : value ≠ [] ∧ strip value = value := by
  obtain ⟨s, -, hblank, rfl⟩ := h
  exact ⟨hblank, strip_strip s⟩

theorem TableAt.known {document t : PyDict} {name : PyStr} {required : Bool} {allowed : List PyStr}
    (h : TableAt document name required t) (hknown : KnownKeys allowed t) :
    ∀ t', document.getD name = .dict t' → KnownKeys allowed t' := by
  intro t' ht'
  rcases h with h | ⟨h, -, -⟩
  · cases h.symm.trans ht'
    exact hknown
  · cases h.symm.trans ht'

section
variable {document gateway instrument : PyDict} {settings : GatewaySettings}

theorem Checked.valid (h : Checked document gateway instrument settings) :
    ValidGatewaySettings settings where
  bind := h.bind.stripped
  port := h.port.2
  connection := by
    obtain ⟨-, -, -, hgateway⟩ := h.connection
    cases hconnection : settings.instrument.connection with
    | socket => exact .inl rfl
    | vxi11 => exact .inr (.inl rfl)
    | visa => exact .inr (.inr rfl)
    | gateway => exact absurd hconnection hgateway
  identifier := h.identifier.stripped
  backend hvisa := by
    rcases h.backend with ⟨-, hnone⟩ | ⟨hconnection, -⟩
    · exact hnone
    · exact absurd hconnection hvisa
  interval := settings.instrument.execution.interval_nonneg
  timeout := settings.instrument.execution.timeout_pos

theorem Checked.documented (h : Checked document gateway instrument settings) :
    DocumentedKeys document :=
  ⟨h.known, h.gatewayTable.known h.gatewayKnown, h.instrumentTable.known h.instrumentKnown⟩

end

/-! ## Loading -/

/-- The bytes are the text of a document. -/
def Parses (toml : PyStr → Except PyExc PyVal) (content : Bytes) (document : PyDict) : Prop :=
  ∃ text, decodeUtf8 content = some text ∧ toml text = .ok (.dict document)

/-- The settings are valid, and all keys of the document are documented ones. -/
def SettingsFrom (toml : PyStr → Except PyExc PyVal) (content : Bytes) (settings : GatewaySettings) :
    Prop :=
  ValidGatewaySettings settings ∧
    ∃ document, Parses toml content document ∧ DocumentedKeys document

/-- The token is missing or blank. -/
def NoToken (document : PyDict) : Prop :=
  document.getD "token" = .none ∨ ∃ s, document.getD "token" = .str s ∧ strip s = []

/-- The token of a document: none, or its text without the white space around it. -/
inductive TokenAt (document : PyDict) : Option PyStr → Prop
  | missing : NoToken document → TokenAt document none
  | token {s : PyStr} : document.getD "token" = .str s → strip s ≠ [] →
      TokenAt document (some (strip s))

def TokenFrom (toml : PyStr → Except PyExc PyVal) (content : Bytes) (token : Option PyStr) : Prop :=
  ∃ document, Parses toml content document ∧ TokenAt document token

section
variable [PyText] {toml : PyStr → Except PyExc PyVal}

omit [PyText] in
theorem bind_loadToml (content : Bytes) :
    (Except.ok content : Except PyExc Bytes).bind (loadToml toml) = loadToml toml content := rfl

/-- Reading a file: only what cannot be decoded is let through. -/
theorem readDocument_loads (htoml : ∀ text e, toml text = .error e → e.cls = tomlDecodeError)
    (source unreadable : PyStr) (content : Bytes) :
    Loads (fun document => ∃ text, decodeUtf8 content = some text ∧ toml text = .ok document)
      (decodeUtf8 content = none) (readDocument toml source unreadable (.ok content)) := by
  rw [readDocument, bind_loadToml, loadToml]
  cases hdecode : decodeUtf8 content with
  | none => exact .passed rfl (by decide)
  | some text =>
    dsimp only
    cases hparse : toml text with
    | ok document => exact .loaded ⟨text, rfl, hparse⟩
    | error e =>
      have hcls := htoml text e hparse
      have hos : e.isinstance .osError = false := by
        rw [PyExc.isinstance, hcls]
        rfl
      have hexception : e.isinstance .exception = true := by
        rw [PyExc.isinstance, hcls]
        rfl
      have hmodule : rootModule e.cls = lit "tomllib" := by
        rw [hcls]
        rfl
      dsimp only
      rw [hos, hexception, if_neg Bool.false_ne_true, if_pos rfl, if_pos (.inl hmodule)]
      exact .reported rfl

variable (toml) in
theorem readDocument_undecodable {content : Bytes} (h : decodeUtf8 content = none)
    (source unreadable : PyStr) :
    ∃ e, readDocument toml source unreadable (.ok content) = .error e ∧
      e.cls = .unicodeDecodeError := by
  rw [readDocument, bind_loadToml, loadToml, h]
  exact ⟨_, rfl, rfl⟩

theorem settings_load (htoml : ∀ text e, toml text = .error e → e.cls = tomlDecodeError)
    (source : PyStr) (content : Bytes) :
    Loads (fun settings => ∃ document gateway instrument, Parses toml content document ∧
        Checked document gateway instrument settings)
      (decodeUtf8 content = none ∨
        ∃ document, Parses toml content document ∧ DocumentOverflows document)
      (loadGatewaySettings toml source (.ok content)) := by
  have hread := readDocument_loads htoml source "Could not read gateway settings " content
  have hmissing : ¬ isMissing (.ok content) = true := Bool.false_ne_true
  rw [loadGatewaySettings, if_neg hmissing]
  generalize readDocument toml source _ (.ok content) = r at hread
  cases hread with
  | reported he => exact .reported he
  | passed h he => exact .passed (.inl h) he
  | @loaded document h =>
    obtain ⟨text, hdecode, hparse⟩ := h
    cases document with
    | dict document =>
      have hparses : Parses toml content document := ⟨text, hdecode, hparse⟩
      have hloads := settingsOf_loads source document
      dsimp only
      generalize settingsOf source document = r at hloads
      cases hloads with
      | loaded h =>
        obtain ⟨gateway, instrument, hchecked⟩ := h
        exact .loaded ⟨document, gateway, instrument, hparses, hchecked⟩
      | reported he => exact .reported he
      | passed h he => exact .passed (.inr ⟨document, hparses, h⟩) he
    | _ => exact .reported rfl

variable (toml) in
/-- A document that overflows is not reported. -/
theorem settings_passed (source : PyStr) {content : Bytes} (h : decodeUtf8 content = none ∨
    ∃ document, Parses toml content document ∧ DocumentOverflows document) :
    ∃ e, loadGatewaySettings toml source (.ok content) = .error e ∧
      e.cls ≠ .gatewayConfigurationError := by
  have hmissing : ¬ isMissing (.ok content) = true := Bool.false_ne_true
  rw [loadGatewaySettings, if_neg hmissing]
  rcases h with h | ⟨document, ⟨text, hdecode, hparse⟩, hoverflow⟩
  · obtain ⟨e, he, hcls⟩ := readDocument_undecodable toml h source
      "Could not read gateway settings "
    rw [he]
    exact ⟨e, rfl, by rw [hcls]; decide⟩
  · obtain ⟨e, he, hcls⟩ := settingsOf_overflow source hoverflow
    have hread : readDocument toml source "Could not read gateway settings " (.ok content) =
        .ok (.dict document) := by
      rw [readDocument, bind_loadToml, loadToml, hdecode]
      dsimp only
      rw [hparse]
    rw [hread]
    exact ⟨e, he, by rw [hcls]; decide⟩

omit [PyText] in
theorem tokenOf_loads (document : PyDict) :
    Loads (TokenAt document) False (tokenOf document) := by
  refine (rejectUnknownKeys_loads _ document _).bind fun _ _ => ?_
  have hstring : Loads (TokenAt document) False ((string document "token" none).map some) := by
    refine (string_loads document "token" none).map ?_
    rintro value ⟨s, hs, hstrip, rfl⟩
    exact .token hs hstrip
  split
  · rename_i h
    exact .loaded (.missing (.inl h))
  · rename_i s h
    split_ifs with hblank
    · exact .loaded (.missing (.inr ⟨s, h, hblank⟩))
    · exact hstring
  · exact hstring

theorem token_load (htoml : ∀ text e, toml text = .error e → e.cls = tomlDecodeError)
    (source : PyStr) (required : Bool) (content : Bytes) :
    Loads (TokenFrom toml content) (decodeUtf8 content = none)
      (loadGatewayAuth toml source required (.ok content)) := by
  have hread := readDocument_loads htoml source "Could not read gateway authentication file " content
  have hmissing : ¬ isMissing (.ok content) = true := Bool.false_ne_true
  rw [loadGatewayAuth, if_neg hmissing]
  generalize readDocument toml source _ (.ok content) = r at hread
  cases hread with
  | reported he => exact .reported he
  | passed h he => exact .passed h he
  | @loaded document h =>
    obtain ⟨text, hdecode, hparse⟩ := h
    cases document with
    | dict document =>
      have hloads := tokenOf_loads document
      dsimp only
      generalize tokenOf document = r at hloads
      cases hloads with
      | loaded h => exact .loaded ⟨document, ⟨text, hdecode, hparse⟩, h⟩
      | reported he => exact .reported he
      | passed h _ => exact h.elim
    | _ => exact .reported rfl

variable (toml) in
theorem token_passed (source : PyStr) (required : Bool) {content : Bytes}
    (h : decodeUtf8 content = none) :
    ∃ e, loadGatewayAuth toml source required (.ok content) = .error e ∧
      e.cls ≠ .gatewayConfigurationError := by
  have hmissing : ¬ isMissing (.ok content) = true := Bool.false_ne_true
  obtain ⟨e, he, hcls⟩ := readDocument_undecodable toml h source
    "Could not read gateway authentication file "
  rw [loadGatewayAuth, if_neg hmissing, he]
  exact ⟨e, rfl, by rw [hcls]; decide⟩

/-- **Gateway configuration.**  Loading the settings reports every problem but bytes that are not
    UTF-8 and an integer that no float can hold; loading the token reports every problem but the
    former. -/
theorem configuration_reported (htoml : ∀ text e, toml text = .error e → e.cls = tomlDecodeError)
    (source : PyStr) (required : Bool) (content : Bytes) :
    (Reports (SettingsFrom toml content) (loadGatewaySettings toml source (.ok content)) ↔
      ¬ (decodeUtf8 content = none ∨
        ∃ document, Parses toml content document ∧ DocumentOverflows document)) ∧
    (Reports (TokenFrom toml content) (loadGatewayAuth toml source required (.ok content)) ↔
      ¬ decodeUtf8 content = none) := by
  refine ⟨Loads.reports_iff (Loads.imp (settings_load htoml source content) ?_)
    (settings_passed toml source),
    (token_load htoml source required content).reports_iff (token_passed toml source required)⟩
  rintro settings ⟨document, gateway, instrument, hparses, hchecked⟩
  exact ⟨hchecked.valid, document, hparses, hchecked.documented⟩

end

/-! ## Two files -/

/-- The text of a settings file. -/
def socketText : PyStr :=
  lit "[instrument]\nconnection = \"socket\"\nidentifier = \"power-supply.local\"\n"

def socketInstrument : PyDict :=
  [("connection", .str "socket"), ("identifier", .str "power-supply.local")]

/-- The library on this text. -/
def socketToml (text : PyStr) : Except PyExc PyVal :=
  if text = socketText then .ok (.dict [("instrument", .dict socketInstrument)])
  else .error (.msg tomlDecodeError "Invalid statement (at line 1, column 1)")

theorem socketToml_raises (text : PyStr) (e : PyExc) (h : socketToml text = .error e) :
    e.cls = tomlDecodeError := by
  unfold socketToml at h
  split_ifs at h
  cases h
  rfl

theorem socket_decoded : decodeUtf8 (encodeAscii socketText) = some socketText := by
  decide +kernel

theorem socket_fits {document : PyDict} (h : Parses socketToml (encodeAscii socketText) document) :
    ¬ DocumentOverflows document := by
  obtain ⟨text, hdecode, hparse⟩ := h
  cases socket_decoded.symm.trans hdecode
  rw [socketToml, if_pos rfl] at hparse
  cases hparse
  rintro ⟨gateway, instrument, settings, hchecked, hoverflow⟩
  have hinstrument : instrument = socketInstrument := by
    rcases hchecked.instrumentTable with htable | ⟨-, ⟨⟩, -⟩
    cases htable
    rfl
  subst hinstrument
  rcases hoverflow with ⟨i, ⟨⟩, -⟩ | ⟨-, i, ⟨⟩, -⟩

/-- The file is loaded, or a problem in it is reported. -/
theorem socket_reported :
    Reports (SettingsFrom socketToml (encodeAscii socketText))
      (@loadGatewaySettings PyText.blank socketToml "gateway-settings.toml"
        (.ok (encodeAscii socketText))) := by
  refine (@configuration_reported PyText.blank socketToml socketToml_raises "gateway-settings.toml"
    false (encodeAscii socketText)).1.2 ?_
  rintro (hnone | ⟨document, hparses, hoverflow⟩)
  · cases socket_decoded.symm.trans hnone
  · exact socket_fits hparses hoverflow

/-- A file with the byte 255 is not UTF-8, and its `UnicodeDecodeError` is let through. -/
theorem latin1_escapes : ¬ Reports (SettingsFrom socketToml [255])
    (@loadGatewaySettings PyText.blank socketToml "gateway-settings.toml" (.ok [255])) := by
  let _ : PyText := PyText.blank
  have hcontent : decodeUtf8 [255] = none := rfl
  obtain ⟨e, he, hcls⟩ := settings_passed socketToml "gateway-settings.toml" (.inl hcontent)
  rintro (⟨e', he', hcls'⟩ | ⟨settings, hok, -⟩)
  · cases he.symm.trans he'
    exact hcls hcls'
  · cases he.symm.trans hok

end Configuration

end Spd3000
