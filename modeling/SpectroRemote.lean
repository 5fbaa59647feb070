import SpectroRemote.Activity
import SpectroRemote.CommandLine.Grammar
import SpectroRemote.CommandLine.Invocation
import SpectroRemote.CommandLine.Report
import SpectroRemote.Cup
import SpectroRemote.Decimal.Digits
import SpectroRemote.Decimal.Positional
import SpectroRemote.Decimal.Rank
import SpectroRemote.Decimal.Reader
import SpectroRemote.Decimal.Shortest
import SpectroRemote.Decimal.Whole
import SpectroRemote.Failure
import SpectroRemote.Instrument
import SpectroRemote.Instrument.Scripted
import SpectroRemote.Instrument.Simulated
import SpectroRemote.LogLevel
import SpectroRemote.Logging
import SpectroRemote.Magnet
import SpectroRemote.Main
import SpectroRemote.Proofs.Activation
import SpectroRemote.Proofs.BlankHistory
import SpectroRemote.Proofs.Blanking
import SpectroRemote.Proofs.Deeds
import SpectroRemote.Proofs.Delivery
import SpectroRemote.Proofs.Double.Magnitude
import SpectroRemote.Proofs.Double.Representation
import SpectroRemote.Proofs.Effects
import SpectroRemote.Proofs.Footprint
import SpectroRemote.Proofs.Lines
import SpectroRemote.Proofs.Lowercase
import SpectroRemote.Proofs.Passage
import SpectroRemote.Proofs.Requests
import SpectroRemote.Proofs.Simulated
import SpectroRemote.Proofs.Stopping
import SpectroRemote.Proofs.Subscriptions
import SpectroRemote.Proofs.Turns
import SpectroRemote.Proofs.Underway
import SpectroRemote.Proofs.Underway.Cups
import SpectroRemote.Request
import SpectroRemote.Server
import SpectroRemote.Server.Blanking
import SpectroRemote.Server.Cups
import SpectroRemote.Server.Magnet
import SpectroRemote.Server.Scan
import SpectroRemote.Server.Service
import SpectroRemote.Server.Time
import SpectroRemote.Server.Tunes
import SpectroRemote.Settings
import SpectroRemote.Settings.Codec
import SpectroRemote.Settings.Environment
import SpectroRemote.Settings.Environment.Quoted
import SpectroRemote.Settings.Loading
import SpectroRemote.Settings.Location
import SpectroRemote.Settings.Mismatch
import SpectroRemote.Settings.Rendering
import SpectroRemote.Settings.Schema
import SpectroRemote.Settings.Setting
import SpectroRemote.Settings.Validation
import SpectroRemote.Snapshot
import SpectroRemote.Spectrum
import SpectroRemote.Table
import SpectroRemote.Text.Blank
import SpectroRemote.Text.Duration
import SpectroRemote.Text.Escape
import SpectroRemote.Text.Fields
import SpectroRemote.Text.Lowercase
import SpectroRemote.Text.Quoted
import SpectroRemote.Text.Reader
import SpectroRemote.Text.Unshown
import SpectroRemote.Text.Utf8
import SpectroRemote.Toml.Bare
import SpectroRemote.Toml.Moment
import SpectroRemote.Toml.Printer
import SpectroRemote.Toml.Quoted
import SpectroRemote.Toml.Reader
import SpectroRemote.Toml.StandIn
import SpectroRemote.Toml.Statement
import SpectroRemote.Toml.Value
import SpectroRemote.Transport
import SpectroRemote.Verb
import SpectroRemote.Proofs.Readouts
import SpectroRemote.Proofs.Blanked
import SpectroRemote.Proofs.FiniteChanges
import SpectroRemote.Proofs.Decimal.Rounding
import SpectroRemote.Proofs.Decimal.Spelling
import SpectroRemote.Proofs.Toml.Words
import SpectroRemote.Proofs.Toml.Printed
import SpectroRemote.Proofs.Toml.Sections
import SpectroRemote.Proofs.Settings.Overlays
import SpectroRemote.Proofs.Settings.Schema
import SpectroRemote.Proofs.Toml.StandIns
import SpectroRemote.Proofs.Settings.Rendered
import SpectroRemote.Proofs.Grammar
import SpectroRemote.Proofs.Rejection
import SpectroRemote.Proofs.ActiveCup
import SpectroRemote.Proofs.Snapshot.Layout
import SpectroRemote.Proofs.Snapshot.Decoding
import SpectroRemote.Proofs.Capture
import SpectroRemote.Proofs.Independence
import SpectroRemote.Proofs.Decimal.ReadBack
import SpectroRemote.Proofs.SavedValues
import SpectroRemote.Proofs.SingleLine
import SpectroRemote.Proofs.IonCounters
import SpectroRemote.Proofs.MagnetMoves
import SpectroRemote.Proofs.ByteOrder
import SpectroRemote.Proofs.Offers
import SpectroRemote.Proofs.EvenSteps
import SpectroRemote.Proofs.NamedValues
import SpectroRemote.Proofs.Utf8
import SpectroRemote.Proofs.RequestBytes
import SpectroRemote.Proofs.Settings.Paths
import SpectroRemote.Proofs.Settings.Variables
import SpectroRemote.Proofs.Settings.Keys
import SpectroRemote.Proofs.Settings.Precedence
import SpectroRemote.Proofs.Logging
import SpectroRemote.Proofs.Snapshot.Acquired
