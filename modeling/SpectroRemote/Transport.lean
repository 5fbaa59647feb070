import SpectroRemote.Server.Service
import SpectroRemote.Text.Duration
import SpectroRemote.Text.Utf8

/-!
# Requests on the wire

A request travels as bytes: as one datagram, or as all that a connection brings. The server reads
the bytes as text, damaged or not, and serves the text without the blanks around it as one line. Its
reply goes back as the bytes of the reply line.

A server that listens for datagrams keeps only so many bytes of each as its buffer holds, and no
datagram can be longer than `maxDatagram`. From a connection the server reads as often as there is
something to be read.
-/

namespace SpectroRemote

/-- The number of bytes that fit a datagram. -/
def maxDatagram : Nat := 65507

def requestLine (bytes : List UInt8) : String := String.ofList (Text.trim (Text.decode bytes))

def encodeLine (line : String) : List UInt8 := Text.encode line.toList

/-- Adds to the data what is left of the bytes of a connection, as much at a time as fits the
buffer, until there is nothing to be read. -/
def drain (bufferSize : Nat) (data bytes : List UInt8) : List UInt8 :=
  let piece := bytes.take bufferSize
  if piece = [] then data else drain bufferSize (data ++ piece) (bytes.drop bufferSize)
termination_by bytes.length
decreasing_by
  rename_i h
  simp only [piece, List.take_eq_nil_iff, not_or] at h
  have hpositive := List.length_pos_iff.mpr h.2
  rw [List.length_drop]
  omega

/-- Reads the bytes that a connection has brought: waits for the first of them, and drains the
rest. -/
def readConnection (bufferSize : Nat) (bytes : List UInt8) : List UInt8 :=
  let data := bytes.take bufferSize
  if data = [] then data else drain bufferSize data (bytes.drop bufferSize)

/-- The bytes of a request that a server with a buffer of the given size takes. -/
def TransportMode.received (mode : TransportMode) (bufferSize : Nat) (bytes : List UInt8) :
    List UInt8 :=
  match mode with
  | udp => bytes.take bufferSize
  | tcp => readConnection bufferSize bytes

/-- Whether bytes can be sent in one piece. -/
def TransportMode.carries (mode : TransportMode) (bytes : List UInt8) : Bool :=
  match mode with
  | udp => bytes.length ≤ maxDatagram
  | tcp => true

def Server.serveBytes {σ : Type} [Instrument σ] (st : Station) (s : Server σ)
    (bytes : List UInt8) : List UInt8 × Server σ :=
  let transport := st.settings.transport
  let (reply, s) :=
    s.serveLine st (requestLine (transport.mode.received transport.bufferSize.toNat bytes))
  (encodeLine reply, s)

/-! ### Clients -/

inductive Link
  | reachable
  | unreachable
deriving Repr, DecidableEq

/-- Why a client gets no reply, or a server no requests. -/
inductive TransportFailure
  | unreachable
  | tooLong
  /-- No reply came within a time in nanoseconds. -/
  | noReply (address : String) (wait : Nat)
  | addressInUse
  /-- The address has no colon. -/
  | malformedAddress
  /-- What follows the last colon of the address is no port. -/
  | malformedPort
deriving Repr, DecidableEq

def TransportFailure.message : TransportFailure → String
  | unreachable => "Network is unreachable (os error 101)"
  | tooLong => "Message too long (os error 90)"
  | noReply address wait => "no reply from " ++ address ++ " within " ++ Text.durationText wait
  | addressInUse => "Address already in use (os error 98)"
  | malformedAddress => "invalid socket address"
  | malformedPort => "invalid port value"

def TransportFailure.failure (f : TransportFailure) : Failure := .transport f.message

/-- A client: where it sends its requests, over which link, and how many nanoseconds it waits. -/
structure Client where
  address : String
  link : Link := .reachable
  wait : Nat

def Client.unanswered (c : Client) : TransportFailure :=
  match c.link with
  | .unreachable => .unreachable
  | .reachable => .noReply c.address c.wait

/-- Sends the bytes of a request and receives those of the reply. The server sees the request only
if it can be reached. -/
def Client.exchange {σ : Type} [Instrument σ] (c : Client) (st : Station) (s : Server σ)
    (bytes : List UInt8) : Except TransportFailure (List UInt8) × Server σ :=
  let mode := st.settings.transport.mode
  if c.link = .unreachable then (.error c.unanswered, s)
  else if !mode.carries bytes then (.error .tooLong, s)
  else
    let (reply, s) := s.serveBytes st bytes
    if mode.carries reply then (.ok reply, s) else (.error c.unanswered, s)

def Client.send {σ : Type} [Instrument σ] (c : Client) (st : Station) (s : Server σ)
    (line : String) : Except TransportFailure String × Server σ :=
  let (reply, s) := c.exchange st s (encodeLine line)
  (reply.map fun bytes => String.ofList (Text.decode bytes), s)

/-- Checks the form of an address: a host, a colon and a port. -/
def checkAddress (address : String) : Except TransportFailure Unit :=
  let (port, host) := Text.cut ':' address.toList.reverse
  if host.isNone then .error .malformedAddress
  else if (Decimal.readNatural? UInt16.size port.reverse).isNone then .error .malformedPort
  else .ok ()

/-- Begins to listen on an address, unless another server does. -/
def listen (taken : List String) (address : String) : Except TransportFailure Unit :=
  if taken.contains address then .error .addressInUse else .ok ()

end SpectroRemote
