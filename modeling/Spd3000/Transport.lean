/-
  The raw TCP transport (`transport/socket.py`): a buffered byte stream with
  LF-delimited reads.  Sockets and time belong to the host; `Host` is the
  interface the transport and the executor use of them.
-/
import Spd3000.Execution
import Spd3000.Lib.Lines

namespace Spd3000

variable {ν : Type}

/-- The socket, clock and sleeper of the host the driver runs on. -/
structure Host (ν : Type) where
  sendall : Bytes → ν → Except PyExc Unit × ν
  recv : ℕ → ν → Except PyExc Bytes × ν
  clock : ν → ℚ × ν
  sleeper : ℚ → ν → ν
  idle : ν → ν

structure SocketTransport (ν : Type) where
  buffer : Bytes
  maxResponseBytes : ℕ
  closed : Bool
  host : ν

namespace SocketTransport
variable [PyText] (H : Host ν)

def write (data : Bytes) (t : SocketTransport ν) : Except PyExc Unit × SocketTransport ν :=
  if t.closed then (.error (.msg .spd3000ConnectionError "Socket transport is closed"), t)
  else match H.sendall data t.host with
    | (.ok (), h) => (.ok (), { t with host := h })
    | (.error e, h) =>
      let e := if e.isinstance .timeoutError then
          .msg .spd3000TimeoutError "Timed out writing to the instrument"
        else if e.isinstance .osError then
          .msg .spd3000ConnectionError (lit "Socket write failed: " ++ PyText.str e)
        else e
      (.error e, { t with host := h })

/-- The error that `read` raises for an error of `recv`. -/
def readError (received : ℕ) (e : PyExc) : PyExc :=
  if e.isinstance .timeoutError then
    let detail := if received = 0 then lit " without receiving any bytes" else
      lit s!" after receiving {received} byte(s) without LF termination"
    .msg .spd3000TimeoutError (lit "Timed out reading from the instrument" ++ detail)
  else if e.isinstance .osError then
    .msg .spd3000ConnectionError (lit "Socket read failed: " ++ PyText.str e)
  else e

/-- The loop of `read`. -/
def readLoop (t : SocketTransport ν) : Except PyExc Bytes × SocketTransport ν :=
  match Lines.cut LF t.buffer with
  | some (result, rest) => (.ok result, { t with buffer := rest })
  | none =>
    if _h : t.maxResponseBytes ≤ t.buffer.length then
      (.error (.msg .spd3000ProtocolError "Instrument response exceeded the configured limit"), t)
    else match H.recv (min 4096 (t.maxResponseBytes - t.buffer.length)) t.host with
      | (.error e, host) => (.error (readError t.buffer.length e), { t with host := host })
      | (.ok [], host) =>
        (.error (.msg .spd3000ConnectionError "Instrument closed the socket before LF termination"),
          { t with host := host })
      | (.ok (b :: bs), host) => readLoop { t with buffer := t.buffer ++ b :: bs, host := host }
termination_by t.maxResponseBytes - t.buffer.length
decreasing_by simp only [List.length_append, List.length_cons]; omega

def read (t : SocketTransport ν) : Except PyExc Bytes × SocketTransport ν :=
  if t.closed then (.error (.msg .spd3000ConnectionError "Socket transport is closed"), t)
  else readLoop H t

/-- The transport, with the clock of its host, as a direct executor uses it. -/
def world : World (SocketTransport ν) where
  clock t := ((H.clock t.host).1, { t with host := (H.clock t.host).2 })
  sleeper r t := { t with host := H.sleeper r t.host }
  idle t := { t with host := H.idle t.host }
  write := write H
  read := read H

end SocketTransport

end Spd3000
