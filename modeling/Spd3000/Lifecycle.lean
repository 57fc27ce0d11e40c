/-
  Opening and closing connections: the transports, `SPD3000.connect` and `close`
  in `driver.py`, `GatewayExecutor` in `gateway/client.py`, `open_executor` in
  `gateway/config.py`, and `gateway serve` in `cli.py`.

  A `Step` is a call of the world outside: the socket, VXI-11 and VISA libraries,
  the other side of an open connection, threads and signals.  Everything else is
  code, so a script of steps is what these functions do, whatever the calls return
  or raise.
-/
import Spd3000.Lib.Scripts
import Spd3000.Configuration
import Spd3000.Methods

namespace Spd3000

/-! ## Calls -/

/-- Something that has to be closed; the worker is a thread that has to be ended. -/
inductive Handle where
  | socket | stream | instrument | manager | resource | worker | listener
  deriving DecidableEq

inductive Step where
  | createConnection (host : PyStr) (port : ℕ) (timeout : ℚ)
  | settimeout (timeout : ℚ)
  | makefile
  | closeStream
  | closeSocket
  | importVxi11
  | openInstrument (host : PyStr)
  /-- The assignment `self._instrument.timeout = int(timeout * 1000)`. -/
  | setInstrumentTimeout (timeout : ℚ)
  | closeInstrument
  | importPyvisa
  | openManager (backend : Option PyStr)
  | openResource (resource : PyStr)
  /-- The assignment `self._resource.timeout = int(timeout * 1000)`. -/
  | setResourceTimeout (timeout : ℚ)
  | setTerminations
  | closeResource
  | closeManager
  /-- The first request of a gateway client, with its parameters. -/
  | handshake (params : PyDict)
  /-- The request `close` of a gateway client. -/
  | requestClose
  /-- The batch of the constructor of `SPD3000`, over a handle. -/
  | identify (handle : Handle)
  /-- A further batch. -/
  | execute (handle : Handle) (batch : CommandBatch)
  /-- The call of `signal.signal` for `SIGTERM`, or for `SIGBREAK`. -/
  | handleSignal (sigbreak : Bool)
  | restoreSignal (sigbreak : Bool)
  | startWorker
  /-- The constructor of `_ThreadingServer`. -/
  | bind (host : PyStr) (port : ℕ)
  /-- The line `Serving SPD3000 gateway on ...`. -/
  | announce
  | serveForever
  | closeListener
  /-- The marker for the worker, and the wait for its end, which lasts no longer than five
      seconds. -/
  | joinWorker

/-- What a call returns; for the wait, whether the worker has ended in time. -/
@[reducible] def Step.Result : Step → Type
  | identify _ | execute _ _ => BatchResult
  | joinWorker => Bool
  | _ => Unit

/-- A function of the driver that makes such calls. -/
abbrev Calls := Script Step Step.Result PyExc

def ask (step : Step) : Calls step.Result := Script.perform step

/-- Handles count as closed once their `close` has been called, whether it returns or raises. -/
def handles : Script.Ledger Step Step.Result PyExc Handle where
  opens
    | .createConnection _ _ _ => [.socket]
    | .makefile => [.stream]
    | .openInstrument _ => [.instrument]
    | .openManager _ => [.manager]
    | .openResource _ => [.resource]
    | .startWorker => [.worker]
    | .bind _ _ => [.listener]
    | _ => []
  closes
    | ⟨.closeSocket, _⟩ => [.socket]
    | ⟨.closeStream, _⟩ => [.stream]
    | ⟨.closeInstrument, _⟩ => [.instrument]
    | ⟨.closeManager, _⟩ => [.manager]
    | ⟨.closeResource, _⟩ => [.resource]
    | ⟨.joinWorker, .ok true⟩ => [.worker]
    | ⟨.closeListener, _⟩ => [.listener]
    | _ => []
  uses
    | .settimeout _ | .makefile | .closeSocket => [.socket]
    | .closeStream | .handshake _ | .requestClose => [.stream]
    | .setInstrumentTimeout _ | .closeInstrument => [.instrument]
    | .openResource _ | .closeManager => [.manager]
    | .setResourceTimeout _ | .setTerminations | .closeResource => [.resource]
    | .identify handle | .execute handle _ => [handle]
    | .serveForever | .closeListener => [.listener]
    | .joinWorker => [.worker]
    | _ => []

open Script

/-! ## Transports -/

inductive TransportKind where
  | socket | vxi11 | visa
  deriving DecidableEq

/-- A transport as far as closing goes. -/
structure Transport where
  kind : TransportKind
  closed : Bool

/-- The constructor of `SocketTransport`. -/
def SocketTransport.init [PyText] (host : PyStr) (port : ℕ) (timeout : ℚ) : Calls Transport :=
  let address := host ++ lit ":" ++ digitsText port
  catchWith (do
    ask (.createConnection host port timeout)
    ask (.settimeout timeout)
    return ⟨.socket, false⟩) fun e =>
  if e.isinstance .timeoutError then
    raise (.msg .spd3000TimeoutError (lit "Timed out connecting to " ++ address))
  else if e.isinstance .osError then
    raise (.msg .spd3000ConnectionError
      (lit "Could not connect to " ++ address ++ lit ": " ++ PyText.str e))
  else raise e

/-- The class `ImportError`. -/
def importError : ExcClass := .subclass "ImportError" .exception

/-- The statement `import`, with the error for a missing package. -/
def importing (package : PyStr) (step : Calls Unit) : Calls Unit :=
  catchWith step fun e =>
    if e.isinstance importError then raise (.msg .spd3000ConnectionError
      (package ++ lit (" is required but unavailable; " ++
        "reinstall py-siglent-spd3000 to restore its runtime dependencies")))
    else raise e

/-- The clauses `except SPD3000ConnectionError: raise` and `except Exception`. -/
def couldNotOpen [PyText] (what : PyStr) (e : PyExc) : Calls Transport :=
  if e.isinstance .spd3000ConnectionError then raise e
  else if e.isinstance .exception then raise (.msg .spd3000ConnectionError
    (lit "Could not open " ++ what ++ lit ": " ++ PyText.str e))
  else raise e

/-- The constructor of `VXI11Transport`, which opens the instrument itself. -/
def VXI11Transport.init [PyText] (host : PyStr) (timeout : ℚ) : Calls Transport :=
  catchWith (do
    importing "python-vxi11" (ask .importVxi11)
    ask (.openInstrument host)
    ask (.setInstrumentTimeout timeout)
    return ⟨.vxi11, false⟩)
  (couldNotOpen (lit "VXI-11 instrument " ++ PyText.repr (.str host)))

/-- The constructor of `VisaTransport`, which owns its resource manager. -/
def VisaTransport.init [PyText] (resource : PyStr) (backend : Option PyStr) (timeout : ℚ) :
    Calls Transport :=
  catchWith (do
    importing "PyVISA" (ask .importPyvisa)
    ask (.openManager (backend.filter (· ≠ [])))
    ask (.openResource resource)
    ask (.setResourceTimeout timeout)
    ask .setTerminations
    return ⟨.visa, false⟩)
  (couldNotOpen (lit "VISA resource " ++ PyText.repr (.str resource)))

/-- The method `close`: what it raises, and the transport after it. -/
def Transport.close (t : Transport) : Calls (Except PyExc Unit × Transport) :=
  if t.closed then return (.ok (), t)
  else match t.kind with
    | .socket => do
      let r ← attempt (ask .closeSocket)
      return (r, { t with closed := true })
    | .vxi11 => do
      let r ← attempt (ask .closeInstrument)
      return (r, { t with closed := true })
    | .visa => do
      let r ← attempt (ask .closeResource)
      match ← attempt (ask .closeManager) with
      | .ok () => return (r, { t with closed := true })
      | .error e => return (.error e, t)

/-- The method `_ensure_open`. -/
def Transport.ensureOpen (t : Transport) : Except PyExc Unit :=
  if t.closed then .error (.msg .spd3000ConnectionError (match t.kind with
    | .socket => "Socket transport is closed"
    | .vxi11 => "VXI-11 transport is closed"
    | .visa => "VISA transport is closed"))
  else .ok ()

/-! ## Executors -/

/-- An executor as far as opening and closing go. -/
inductive Opened where
  | direct (transport : Transport) (closed : Bool)
  | gateway (closed : Bool)

/-- The handle over which batches go. -/
def Opened.line : Opened → Handle
  | direct ⟨.socket, _⟩ _ => .socket
  | direct ⟨.vxi11, _⟩ _ => .instrument
  | direct ⟨.visa, _⟩ _ => .resource
  | gateway _ => .stream

/-- The statement `with suppress(Exception)`. -/
def suppress {α : Type} : Except PyExc α → Except PyExc Unit
  | .ok _ => .ok ()
  | .error e => if e.isinstance .exception then .ok () else .error e

/-- The statement `try: self._stream.close() finally: self._socket.close()`. -/
def GatewayExecutor.closeStreams : Calls (Except PyExc Unit × Opened) := do
  let r ← attempt (finallyDo (ask .closeStream) (ask .closeSocket))
  return (r, .gateway true)

/-- The method `close` of a `GatewayExecutor` that is open. -/
def GatewayExecutor.close (sendRequest : Bool) : Calls (Except PyExc Unit × Opened) := do
  if sendRequest then
    match suppress (← attempt (ask .requestClose)) with
    | .error e => return (.error e, .gateway false)
    | .ok () => closeStreams
  else closeStreams

/-- The method `close` of an executor: what it raises, and the executor after it. -/
def Opened.close (x : Opened) : Calls (Except PyExc Unit × Opened) :=
  match x with
  | .direct _ true | .gateway true => return (.ok (), x)
  | .direct t false => do
    let (r, t) ← t.close
    return (r, .direct t (r matches .ok _))
  | .gateway false => GatewayExecutor.close true

/-- A statement that closes, before an exception that goes on. -/
def andRaise {α : Type} (closing : Calls (Except PyExc Unit × Opened)) (e : PyExc) : Calls α := do
  match (← closing).1 with
  | .ok () => raise e
  | .error e => raise e

/-- The checks of `execute` that the executor is open. -/
def Opened.ensureOpen (x : Opened) (first : Command) : Except PyExc Unit :=
  match x with
  | .direct _ true => .error (.msg .spd3000ConnectionError "Executor is closed")
  | .direct t false => match t.ensureOpen with
    | .ok () => .ok ()
    | .error e => .error (annotateExecutionError e 0 first)
  | .gateway true => .error (.msg .gatewayConnectionError "Gateway executor is closed")
  | .gateway false => .ok ()

/-- The method `execute`. -/
def Opened.execute (batch : CommandBatch) (x : Opened) : Calls BatchResult :=
  match x.ensureOpen (batch.commands.head batch.nonempty) with
  | .error e => raise e
  | .ok () => ask (.execute x.line batch)

/-- The first statement of the constructor of `GatewayExecutor`. -/
def GatewayExecutor.dial [PyText] (host : PyStr) (port : ℕ) (timeout : ℚ) : Calls Unit :=
  catchWith (do
    ask (.createConnection host port timeout)
    ask (.settimeout timeout)
    ask .makefile) fun e =>
  if e.isinstance .osError then raise (.msg .gatewayConnectionError
    (lit "Could not connect to gateway " ++ host ++ lit ":" ++ digitsText port ++ lit ": " ++
      PyText.str e))
  else raise e

/-- The value of `UNKNOWN_COMMIT`. -/
def unknownCommit : PyStr := "unknown"

/-- The parameters of the handshake. -/
def handshakeParams (commit : PyStr) (token : Option PyStr) (settings : ExecutionSettings) :
    PyDict :=
  [("commit", .str commit), ("token", token.elim .none .str), ("settings", .dict [
    ("min_command_interval", .float (.finite settings.minCommandInterval)),
    ("timeout", .float (.finite settings.timeout))])]

/-- The constructor of `GatewayExecutor`; `commit` is the one of the process. -/
def GatewayExecutor.init [PyText] (host : PyStr) (port : ℕ) (token : Option PyStr)
    (settings : ExecutionSettings) (commit : PyStr) : Calls Opened := do
  dial host port settings.timeout
  if commit = unknownCommit then
    andRaise (close false) (.msg .gatewayProtocolError "Client Git commit is unavailable")
  else catchWith (do
    ask (.handshake (handshakeParams commit token settings))
    return .gateway false) (andRaise (close false))

/-! ## Devices -/

/-- The attribute `model` of an identification. -/
def identityModel : PyVal → Option Model
  | .obj _ fields => match PyDict.getD fields "model" with
    | .str s => [Model.spd3303X, .spd3303XE, .spd3303C].find? (·.value = s)
    | _ => none
  | _ => none

/-- The value `parse_identification(response)` of the only response of a result. -/
def identified [PyText] (result : BatchResult) : Except PyExc PyVal := do
  match ← valueAt result.values 0 with
  | none => .error (.msg .spd3000ProtocolError
      (lit "Query " ++ PyText.repr (.str "*IDN?") ++ lit " returned no response"))
  | some response => parseIdentification response

/-- A driver object as far as its connection goes. -/
structure Device where
  executor : Opened
  identity : PyVal
  connectionType : ConnectionType
  connectionIdentifier : PyStr
  closed : Bool

/-- The constructor of `SPD3000` with the metadata of its connection: it closes the executor where
    the identification fails. -/
def Device.init [PyText] (x : Opened) (connection : ConnectionType) (identifier : PyStr) :
    Calls Device :=
  catchWith (do
    let result ← ask (.identify x.line)
    match identified result with
    | .ok identity => return ⟨x, identity, connection, identifier, false⟩
    | .error e => raise e) fun e =>
  if e.isinstance .exception then andRaise x.close e else raise e

/-- The method `close` of `SPD3000`. -/
def Device.close (d : Device) : Calls (Except PyExc Unit × Device) :=
  if d.closed then return (.ok (), d)
  else do
    let (r, x) ← d.executor.close
    return (r, { d with executor := x, closed := true })

/-- The models with `capabilities.socket` and `capabilities.vxi11`. -/
def Model.lan : Model → Bool
  | spd3303X | spd3303XE => true
  | spd3303C => false

/-- The check of `_connect_socket` and `_connect_vxi11` for the feature of that name. -/
def Device.requireLan (feature : PyStr) (d : Device) : Calls Device :=
  match identityModel d.identity with
  | some m =>
    if m.lan then return d
    else
      andRaise (do
        let (r, d) ← d.close
        return (r, d.executor))
        (.msg .unsupportedFeatureError (m.value ++ lit " does not support " ++ feature))
  | none => return d

/-! ## Connecting -/

/-- The argument `connection`. -/
inductive ConnectionArg where
  | member (c : ConnectionType)
  | value (v : PyVal)

/-- The arguments of `connect`. -/
structure ConnectArguments where
  connection : ConnectionArg
  identifier : PyVal
  timeout : PyVal
  minCommandIntervalMs : PyVal
  verifyWritesGlobally : PyVal
  token : Option PyStr
  visaBackend : Option PyStr

/-- A destination, with the options of its kind. -/
inductive Target where
  | socket (host : PyStr)
  | vxi11 (host : PyStr)
  | visa (resource : PyStr) (backend : Option PyStr)
  | gateway (host : PyStr) (port : ℕ) (token : Option PyStr)

namespace ConnectArguments

def selected (a : ConnectArguments) : Except PyExc ConnectionType :=
  match a.connection with
  | .member c => .ok c
  | .value (.str s) => match ConnectionType.ofValue (lower (strip s)) with
    | some c => .ok c
    | none => .error (invalid "connection must be one of: socket, vxi11, visa, gateway")
  | .value _ => .error (invalid "connection must be a ConnectionType or string")

/-- The local variable `target`. -/
def destination (a : ConnectArguments) : Except PyExc PyStr :=
  match a.identifier with
  | .str s =>
    if strip s = [] then .error (invalid "identifier must be a non-empty string")
    else .ok (strip s)
  | _ => .error (invalid "identifier must be a non-empty string")

def checkVerify (a : ConnectArguments) : Except PyExc Unit :=
  match a.verifyWritesGlobally with
  | .bool _ => .ok ()
  | _ => .error (invalid "verify_writes_globally must be a bool")

def settings (a : ConnectArguments) : Except PyExc ExecutionSettings :=
  match a.minCommandIntervalMs with
  | .int i => match floatOfInt i with
    | some q => ExecutionSettings.make (.float ((PyFloat.finite q).dividedBy 1000)) a.timeout
    | none => .error (.msg .overflowError "int too large to convert to float")
  | .float f => ExecutionSettings.make (.float (f.dividedBy 1000)) a.timeout
  | _ => .error (invalid "min_command_interval_ms must be a real number")

/-- The method `_reject_connection_options`. -/
def rejectOptions [PyText] (connection : ConnectionType) (token visaBackend : Option PyStr) :
    Except PyExc Unit :=
  match token.isSome, visaBackend.isSome with
  | false, false => .ok ()
  | true, false => refused "token"
  | false, true => refused "visa_backend"
  | true, true => refused "token, visa_backend"
where
  refused (names : PyStr) : Except PyExc Unit := .error (invalid
    (names ++ lit " cannot be used with connection=" ++ PyText.repr (.str connection.value)))

/-- All checks of `connect`. -/
def check [PyText] (a : ConnectArguments) : Except PyExc (Target × ExecutionSettings) := do
  let connection ← a.selected
  let destination ← a.destination
  a.checkVerify
  let settings ← a.settings
  match connection with
  | .socket =>
    rejectOptions connection a.token a.visaBackend
    return (.socket destination, settings)
  | .vxi11 =>
    rejectOptions connection a.token a.visaBackend
    return (.vxi11 destination, settings)
  | .visa =>
    rejectOptions connection a.token none
    return (.visa destination a.visaBackend, settings)
  | .gateway =>
    rejectOptions connection none a.visaBackend
    let (host, port) ← gatewayEndpoint destination
    return (.gateway host port a.token, settings)

end ConnectArguments

/-- The value of `DEFAULT_SCPI_PORT`. -/
def DEFAULT_SCPI_PORT : ℕ := 5025

/-- The functions `_connect_*`. -/
def connectTo [PyText] (commit : PyStr) (settings : ExecutionSettings) : Target → Calls Device
  | .socket host => do
    let t ← SocketTransport.init host DEFAULT_SCPI_PORT settings.timeout
    let d ← Device.init (.direct t false) .socket (host ++ lit ":" ++ digitsText DEFAULT_SCPI_PORT)
    d.requireLan "raw TCP sockets"
  | .vxi11 host => do
    let t ← VXI11Transport.init host settings.timeout
    let d ← Device.init (.direct t false) .vxi11 host
    d.requireLan "VXI-11"
  | .visa resource backend => do
    let t ← VisaTransport.init resource backend settings.timeout
    Device.init (.direct t false) .visa resource
  | .gateway host port token => do
    let x ← GatewayExecutor.init host port token settings commit
    Device.init x .gateway (connectionIdentifier host port)

/-- The method `SPD3000.connect`. -/
def connect [PyText] (commit : PyStr) (a : ConnectArguments) : Calls Device :=
  match a.check with
  | .error e => raise e
  | .ok (target, settings) => connectTo commit settings target

/-! ## Programs -/

/-- What a program does with its device. -/
inductive Use where
  | execute (batch : CommandBatch)
  | close

@[reducible] def Use.Result : Use → Type
  | execute _ => BatchResult
  | close => Unit

/-- A program that runs inside a `with` statement. -/
abbrev Body := Script Use Use.Result PyExc

/-- The program, and the device after it. -/
def Device.run {α : Type} : Body α → Device → Calls (Except PyExc α × Device)
  | .done r, d => return (r, d)
  | .call (.execute batch) next, d => do
    let r ← attempt (d.executor.execute batch)
    run (next r) d
  | .call .close next, d => do
    let (r, d) ← d.close
    run (next r) d

/-- The statement `with SPD3000.connect(...) as psu`. -/
def withDevice [PyText] {α : Type} (commit : PyStr) (a : ConnectArguments) (body : Body α) :
    Calls α := do
  let d ← connect commit a
  let (r, d) ← d.run body
  match (← d.close).1 with
  | .ok () => Script.done r
  | .error e => raise e

/-! ## Serving -/

/-- The method `open_executor`. -/
def InstrumentSettings.openExecutor [PyText] (s : InstrumentSettings) : Calls Opened := do
  let t ← match s.connection with
    | .socket => SocketTransport.init s.identifier DEFAULT_SCPI_PORT s.execution.timeout
    | .vxi11 => VXI11Transport.init s.identifier s.execution.timeout
    | _ => VisaTransport.init s.identifier s.visaBackend s.execution.timeout
  return .direct t false

theorem identification_valid : ValidCommand "*IDN?" := by decide

def identificationBatch : CommandBatch :=
  ⟨[.query ⟨"*IDN?", identification_valid⟩], List.cons_ne_nil _ _⟩

/-- The function `_identify_gateway_instrument`. -/
def identifyGatewayInstrument [PyText] (x : Opened) : Calls PyVal := do
  let result ← x.execute identificationBatch
  match valueAt result.values 0 with
  | .error e => raise e
  | .ok none =>
    raise (.msg .spd3000ProtocolError "The startup *IDN? query returned no response")
  | .ok (some response) => Script.done (parseIdentification response)

/-- The constructor of `GatewayServer`. -/
def GatewayServer.init (commit : PyStr) (token : Option PyStr) (host : PyStr) (port : ℕ) :
    Calls Unit :=
  match GatewayServer.make token commit with
  | .error e => raise e
  | .ok _ => do
    ask .startWorker
    ask (.bind host port)

/-- What the local variables `executor` and `server` of `gateway serve` hold. -/
inductive Started where
  | nothing
  | executor (x : Opened)
  | server (x : Opened)

/-- The body of the `try` statement: how it ends, and what has been started. -/
def starting [PyText] (commit : PyStr) (settings : Except PyExc GatewaySettings)
    (token : GatewaySettings → Except PyExc (Option PyStr)) :
    Calls (Except PyExc Unit × Started) :=
  match settings with
  | .error e => return (.error e, .nothing)
  | .ok s => match token s with
    | .error e => return (.error e, .nothing)
    | .ok token => do
      match ← attempt s.instrument.openExecutor with
      | .error e => return (.error e, .nothing)
      | .ok x =>
        match ← attempt (do
          let _ ← identifyGatewayInstrument x
          GatewayServer.init commit token s.bind s.port) with
        | .error e => return (.error e, .executor x)
        | .ok () =>
          let r ← attempt (do
            ask .announce
            ask .serveForever)
          return (r, .server x)

/-- The class `KeyboardInterrupt`. -/
def keyboardInterrupt : ExcClass := .subclass "KeyboardInterrupt" .baseException

/-- The clause `except KeyboardInterrupt`. -/
def interrupted : Except PyExc Unit → Except PyExc Unit
  | .ok () => .ok ()
  | .error e => if e.isinstance keyboardInterrupt then .ok () else .error e

/-- The call of `server.close` or `executor.close` in the `finally` clause. -/
def Started.close : Started → Calls Unit
  | nothing => return ()
  | executor x => do
    let (r, _) ← x.close
    Script.done r
  | server x => do
    ask .closeListener
    let _ ← ask .joinWorker
    let (r, _) ← x.close
    Script.done r

/-- The command `gateway serve`, for what the loaders of its files return or raise, on a platform
    with or without `SIGBREAK`. -/
def serve [PyText] (commit : PyStr) (settings : Except PyExc GatewaySettings)
    (token : GatewaySettings → Except PyExc (Option PyStr)) (sigbreak : Bool) : Calls Unit := do
  ask (.handleSignal false)
  if sigbreak then ask (.handleSignal true)
  let (r, started) ← starting commit settings token
  finallyDo (Script.done (interrupted r)) (do
    started.close
    ask (.restoreSignal false)
    if sigbreak then ask (.restoreSignal true))

end Spd3000
