import SpectroRemote.CommandLine.Grammar
import SpectroRemote.CommandLine.Report
import SpectroRemote.Settings.Loading

/-!
# The commands of the program

`serve` runs a server, `send` sends one request to a server that runs, and `help` explains both.
-/

namespace SpectroRemote.CommandLine

/-! ### Values of options -/

def readPort? (text : String) : Option UInt16 :=
  (Decimal.readInteger? 64 text.toList).bind fun n =>
    if 0 ≤ n ∧ n < UInt16.size then some (UInt16.ofNat n.toNat) else none

/-- Reads a number of seconds or milliseconds. -/
def readAmount? (text : String) : Option UInt64 :=
  (Decimal.readNatural? UInt64.size text.toList).map UInt64.ofNat

/-! ### Serving -/

/-- How to serve. What is given here counts more than the settings. -/
structure ServeOptions where
  configPath : String := "config/rcs.toml"
  simulated : Bool := false
  mode : Option TransportMode := none
  port : Option UInt16 := none
  /-- The time between simulated spectra in milliseconds. -/
  scanPeriod : UInt64 := 1000
deriving Repr, DecidableEq

def ServeOptions.grammar : Grammar ServeOptions where
  initial := {}
  options := [
    ("config", .value fun v s => if v.isEmpty then none else some { s with configPath := v }),
    ("mock", .flag fun s => { s with simulated := true }),
    ("udp", .flag fun s => { s with mode := some .udp }),
    ("tcp", .flag fun s => { s with mode := some .tcp }),
    ("port", .value fun v s => (readPort? v).map fun n => { s with port := some n }),
    ("scan-period-ms", .value fun v s => (readAmount? v).map fun n => { s with scanPeriod := n })]
  exclusive := [("udp", "tcp")]

/-- The settings with the options over them. -/
def ServeOptions.override (o : ServeOptions) (s : Settings) : Settings :=
  let t := s.transport
  { s with transport := { t with mode := o.mode.getD t.mode, port := o.port.getD t.port } }

/-- The settings to serve with. There is only the simulated instrument to drive. -/
def ServeOptions.settings (o : ServeOptions) (file : Option SettingsFile)
    (environment : List (String × String)) : Except Report Settings :=
  match Settings.load file environment with
  | .error e =>
    .error { Report.within ("loading " ++ o.configPath) e.failure with code := e.exitCode }
  | .ok s =>
    if o.simulated then .ok (o.override s)
    else .error { headline := "No instrument driver is built into this binary; start with --mock" }

/-! ### Sending -/

structure SendOptions where
  address : String := ""
  line : String := ""
  mode : TransportMode := .udp
  /-- How many seconds to wait for the reply. -/
  timeout : UInt64 := 5
deriving Repr, DecidableEq

def SendOptions.grammar : Grammar SendOptions where
  initial := {}
  options := [
    ("tcp", .flag fun s => { s with mode := .tcp }),
    ("timeout", .value fun v s => (readAmount? v).map fun n => { s with timeout := n })]
  operands := [fun v s => { s with address := v }, fun v s => { s with line := v }]

/-! ### Commands -/

inductive Invocation
  | serve (options : ServeOptions)
  | send (options : SendOptions)
deriving Repr, DecidableEq

def Asked.map {α β : Type} (f : α → β) : Asked α → Asked β
  | help => help
  | run a => run (f a)

def commands : List String := ["serve", "send", "help"]

def Invocation.parse? (args : List String) : Option (Asked Invocation) :=
  match args with
  | "serve" :: rest => (ServeOptions.grammar.parse? rest).map (·.map .serve)
  | "send" :: rest => (SendOptions.grammar.parse? rest).map (·.map .send)
  | ["help"] => some .help
  | ["help", command] => if commands.contains command then some .help else none
  | arg :: _ =>
    match Argument.ofString arg with
    | .long "help" none | .short 'h' => some .help
    | _ => none
  | [] => none

end SpectroRemote.CommandLine
