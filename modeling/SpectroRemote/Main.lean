import Std.Async
import SpectroRemote.CommandLine.Invocation
import SpectroRemote.Instrument.Simulated
import SpectroRemote.Logging
import SpectroRemote.Settings.Location
import SpectroRemote.Transport

/-!
# The program

Runs the commands: looks up files and variables, opens sockets, keeps the clock of the server in
step with real time, and prints. What requests do is decided elsewhere.
-/

open Std.Async

namespace SpectroRemote.Main

/-! ### Failures of sockets -/

def capitalized (text : String) : String :=
  match text.toList with
  | c :: s => String.ofList (c.toUpper :: s)
  | [] => text

/-- The description of a failed operation of the operating system. Error numbers of sockets are
negative. -/
def failureText (e : IO.Error) : String :=
  let numbered (code : UInt32) (details : String) : String :=
    if code = 0 then details
    else
      let number := if code < 0x80000000 then code else 0 - code
      capitalized details ++ " (os error " ++ toString number.toNat ++ ")"
  match e with
  | .alreadyExists _ code details | .invalidArgument _ code details
  | .permissionDenied _ code details | .resourceExhausted _ code details
  | .inappropriateType _ code details | .noSuchThing _ code details
  | .interrupted _ code details | .noFileOrDirectory _ code details
  | .otherError code details | .resourceBusy code details | .resourceVanished code details
  | .unsupportedOperation code details | .hardwareFault code details
  | .unsatisfiedConstraints code details | .illegalOperation code details
  | .protocolError code details | .timeExpired code details => numbered code details
  | .unexpectedEof => "unexpected end of file"
  | .userError text => text

/-! ### Addresses -/

def socketAddress (host : Std.Net.IPAddr) (port : UInt16) : Std.Net.SocketAddress :=
  match host with
  | .v4 a => .v4 ⟨a, port⟩
  | .v6 a => .v6 ⟨a, port⟩

/-- A host that is written as a number. -/
def numericHost? (host : String) : Option Std.Net.IPAddr :=
  match Std.Net.IPv4Addr.ofString host with
  | some a => some (.v4 a)
  | none =>
    let inside := host.toList.filter fun c => c != '[' && c != ']'
    (Std.Net.IPv6Addr.ofString (String.ofList inside)).map .v6

/-- Finds out the socket address that a text stands for. -/
def resolve (address : String) : Async (Except TransportFailure Std.Net.SocketAddress) := do
  match checkAddress address with
  | .error f => return .error f
  | .ok () =>
    let (port, host) := Text.cut ':' address.toList.reverse
    let host := String.ofList (host.getD []).reverse
    let port := UInt16.ofNat ((Decimal.readNatural? UInt16.size port.reverse).getD 0)
    match numericHost? host with
    | some a => return .ok (socketAddress a port)
    | none =>
      match (← DNS.getAddrInfo host (toString port.toNat))[0]? with
      | some a => return .ok (socketAddress a port)
      | none => return .error .malformedAddress

/-! ### Files and variables -/

def findFile (path : String) : IO (Option SettingsFile) := do
  let folder := Location.parts (← IO.currentDir).toString
  for place in Location.candidates folder path do
    try
      let text ← IO.FS.readFile ("/" ++ "/".intercalate place)
      return some ⟨Location.shown folder place, text⟩
    catch _ => pure ()
  return none

/-! ### Sending -/

/-- Sends a request line over a socket and receives the reply line. -/
def exchange (mode : TransportMode) (address : Std.Net.SocketAddress) (line : String) :
    Async String := do
  let request := ByteArray.mk (encodeLine line).toArray
  match mode with
  | .udp => do
    let socket ← UDP.Socket.mk
    socket.connect address
    socket.send request
    let (reply, _) ← socket.recv maxDatagram.toUInt64
    return String.ofList (Text.decode reply.toList)
  | .tcp => do
    let socket ← TCP.Socket.Client.mk
    socket.connect address
    socket.send request
    let mut reply := ByteArray.empty
    repeat
      match ← socket.recv? 65536 with
      | some chunk => reply := reply ++ chunk
      | none => break
    return String.ofList (Text.decode reply.toList)

def send (o : CommandLine.SendOptions) : Async (Except TransportFailure String) := do
  match ← resolve o.address with
  | .error f => return .error f
  | .ok address =>
    let client : Client := { address := o.address, wait := o.timeout.toNat * 1000000000 }
    Async.race (Except.ok <$> exchange o.mode address o.line) do
      sleep (Std.Time.Millisecond.Offset.ofNat (o.timeout.toNat * 1000))
      return .error client.unanswered

/-! ### Serving -/

abbrev SimulatedServer := Server SimulatedInstrument

/-- Prints what happened and is serious enough, and forgets it. -/
def report (logging : Option Logging) (s : SimulatedServer) : IO SimulatedServer := do
  let limit := (logging.map (·.level.number)).getD LogLevel.info.number
  for event in s.journal do
    if event.level.number ≤ limit then IO.println event.line
  return { s with journal := #[] }

/-- A running server: its state, and the time in milliseconds at which its clock showed zero. -/
structure Running where
  station : Station
  logging : Option Logging
  started : Nat
  state : SimulatedServer

/-- Lets the clock of the server catch up with real time. -/
def Running.catchUp (r : Running) : IO Running := do
  let now := (← IO.monoMsNow) - r.started
  let s := (r.state.elapse r.station (now - r.state.clock)).settle r.station
  return { r with state := ← report r.logging s }

/-- Serves the bytes of a request. The reply goes out when the pauses in it are over. -/
def Running.serve (r : Running) (request : ByteArray) : Async (ByteArray × Running) := do
  let r ← r.catchUp
  let (reply, s) := r.state.serveBytes r.station request.toList
  let now := (← IO.monoMsNow) - r.started
  sleep (Std.Time.Millisecond.Offset.ofNat (s.clock - now))
  return (ByteArray.mk reply.toArray, { r with state := ← report r.logging s })

/-- What a server waits for. -/
inductive Wake (α : Type)
  | request (a : α)
  | tick
  | stop

/-- Waits for a request, for the next second, or for the signal to stop. -/
def wait {α : Type} (requests : Selector α) (stop : Selector Unit) : Async (Wake α) := do
  Selectable.one #[
    .case requests fun a => return .request a,
    .case stop fun _ => return .stop,
    .case (← Selector.sleep 1000) fun _ => return .tick]

partial def serveDatagrams (socket : UDP.Socket) (stop : Selector Unit) (r : Running) :
    Async Running := do
  let size := min r.station.settings.transport.bufferSize 65536
  match ← wait (socket.recvSelector size) stop with
  | .stop => return r
  | .tick => serveDatagrams socket stop (← r.catchUp)
  | .request (request, sender) => do
    let (reply, r) ← r.serve request
    try socket.send reply sender catch _ => pure ()
    serveDatagrams socket stop r

/-- Receives what a connection has brought so far. -/
partial def receive (client : TCP.Socket.Client) (bytes : ByteArray) : Async ByteArray := do
  let more ← Selectable.tryOne #[.case (client.recvSelector 65536) fun chunk => return chunk]
  match more with
  | some (some chunk) => receive client (bytes ++ chunk)
  | _ => return bytes

partial def serveConnections (socket : TCP.Socket.Server) (stop : Selector Unit) (r : Running) :
    Async Running := do
  match ← wait socket.acceptSelector stop with
  | .stop => return r
  | .tick => serveConnections socket stop (← r.catchUp)
  | .request client => do
    let r ← try
        let bytes := (← client.recv? 65536).getD ByteArray.empty
        let request ← if bytes.isEmpty then pure bytes else receive client bytes
        let (reply, next) ← r.serve request
        client.send reply
        client.shutdown
        pure next
      catch _ => pure r
    serveConnections socket stop r

def serve (s : Settings) (scanPeriod : UInt64) : Async (Except TransportFailure Unit) := do
  match ← resolve s.transport.socketAddress with
  | .error f => return .error f
  | .ok address =>
    let station : Station := { settings := s, tunes := .sample }
    let state : SimulatedServer := { instrument := .multicollector }
    let state := (state.makeReady station).startScan.startAcquisition scanPeriod.toNat
    let running : Running :=
      { station, logging := s.logging.toOption, started := ← IO.monoMsNow, state }
    let interrupt ← Signal.Waiter.mk .sigint false
    let last ← match s.transport.mode with
      | .udp => do
        let socket ← UDP.Socket.mk
        socket.bind address
        serveDatagrams socket interrupt.selector running
      | .tcp => do
        let socket ← TCP.Socket.Server.mk
        socket.bind address
        socket.listen 1024
        serveConnections socket interrupt.selector running
    discard (report last.logging (last.state.stopScan station))
    return .ok ()

/-! ### The command line -/

def usage : String :=
  "Remote-control server for a multicollector mass spectrometer\n\n"
    ++ "  serve [--config FILE] [--mock] [--udp | --tcp] [--port PORT] [--scan-period-ms MS]\n"
    ++ "  send ADDRESS COMMAND [--tcp] [--timeout SECONDS]\n"
    ++ "  help\n"

def fail (r : CommandLine.Report) : IO UInt32 := do
  IO.eprint r.text
  return r.code

def run {α : Type} (activity : Async (Except TransportFailure α)) : IO (Except Failure α) := do
  try
    return (← activity.block).mapError (·.failure)
  catch e => return .error (.transport (failureText e))

def perform : CommandLine.Invocation → IO UInt32
  | .send o => do
    match ← run (send o) with
    | .ok reply =>
      IO.println reply
      return 0
    | .error e => fail (.ofFailure e)
  | .serve o => do
    let environment ← Std.Internal.UV.System.osEnviron
    match o.settings (← findFile o.configPath) environment.toList with
    | .error r => fail r
    | .ok s =>
      match ← run (serve s o.scanPeriod) with
      | .ok () => return 0
      | .error e => fail (.within "transport listener failed" e)

end SpectroRemote.Main

def main (args : List String) : IO UInt32 := do
  match SpectroRemote.CommandLine.Invocation.parse? args with
  | none =>
    IO.eprint SpectroRemote.Main.usage
    return 2
  | some .help =>
    IO.print SpectroRemote.Main.usage
    return 0
  | some (.run invocation) => SpectroRemote.Main.perform invocation
