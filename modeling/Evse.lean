import Evse.Charging.State
import Evse.Pilot.State
import Evse.Wire.Bytes
import Evse.Wire.Message
import Evse.Wire.Codec
import Evse.Text.Hex
import Evse.Text.Utf8
import Evse.Text.Case
import Evse.Time.Instant
import Evse.Status
import Evse.Log.Level
import Evse.Charging.Machine
import Evse.Metrics
import Evse.Time.Duration
import Evse.Pilot.Monitor
import Evse.Hardware.Lines
import Evse.Hardware.Stub
import Evse.Hardware.Host
import Evse.Control.Basic
import Evse.Text.Quote
import Evse.Control.Operator
import Evse.Control.Peer
import Evse.Control.Lifecycle
import Evse.Control.Input
import Evse.View
import Evse.Wire.View
import Evse.Hardware.Board
import Evse.Number.Double
import Evse.Number.Shortest
import Evse.Text.Numeral
import Evse.Number.Numeral
import Evse.Text.Printable
import Evse.Text.Fold
import Evse.Config.Setting
import Evse.Config.Basic
import Evse.Config.Env
import Evse.Config.Usage
import Evse.Config.Validation
import Evse.Document.Node
import Evse.Document.Yaml.Token
import Evse.Document.Yaml.Scalar
import Evse.Document.Yaml.Lexer
import Evse.Document.Yaml.Tree
import Evse.Document.Yaml.Resolve
import Evse.Document.Yaml.Record
import Evse.Document.Json
import Evse.Document.Toml
import Evse.Document.Edn
import Evse.Document.DotEnv
import Evse.Config.File
import Evse.Text.Template
import Evse.Log.Line
import Evse.Log.Logger
import Evse.Log.Argument
import Evse.Net.Address
import Evse.Net.Udp
import Evse.Net.Network
import Evse.Simulator.Peer
import Evse.Simulator.Session
import Evse.Service.Flags
import Evse.Service.Program
import Evse.Messaging.Store
import Evse.Main
import Evse.Proofs.Control.Exec
import Evse.Proofs.Control.Primitives
import Evse.Proofs.Control.Walk
import Evse.Proofs.Control.Resting
import Evse.Proofs.Control.Footprint
import Evse.Proofs.Control.Operations
import Evse.Proofs.Control.PeerSteps
import Evse.Proofs.Control.RelayGuard
import Evse.Proofs.Control.RestStates
import Evse.Proofs.Pilot.Changes
import Evse.Proofs.Control.ErrorLatch
import Evse.Proofs.Control.PeerArming
import Evse.Proofs.Wire.RoundTrip
import Evse.Proofs.Wire.Decode
import Evse.Proofs.Control.RelayClosing
import Evse.Proofs.Control.ShutdownLatch
import Evse.Proofs.Charging.Runs
import Evse.Proofs.Control.Plain
import Evse.Proofs.Control.Display
import Evse.Proofs.Control.DisplayRuns
import Evse.Proofs.Charging.Composite
import Evse.Proofs.Control.Books
import Evse.Proofs.Control.BookActions
import Evse.Proofs.Control.FaultLatch
import Evse.Proofs.Control.Watchdog
import Evse.Proofs.Control.Publication
import Evse.Proofs.Control.Refusals
import Evse.Proofs.Control.Starting
import Evse.Proofs.Control.Retransmission
import Evse.Proofs.Control.Envelope
import Evse.Proofs.Wire.Canonical
import Evse.Proofs.Control.Routing
import Evse.Proofs.Control.Transport
import Evse.Proofs.Control.StatusMessage
import Evse.Proofs.Control.ShutdownSequence
import Evse.Proofs.Pilot.Lifecycle
import Evse.Proofs.Simulator.Gating
import Evse.Proofs.Control.PilotBand
import Evse.Proofs.Metrics.Readings
import Evse.Proofs.Control.Gauges
import Evse.Proofs.Config.PinPass
import Evse.Proofs.Config.Validation
