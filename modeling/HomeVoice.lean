import HomeVoice.Text.LetterCase
import HomeVoice.Json.Printer
import HomeVoice.Json.Parser
import HomeVoice.Json.Decode
import HomeVoice.Time.Reader
import HomeVoice.Uuid
import HomeVoice.Entity.Basic
import HomeVoice.Measure.Temperature
import HomeVoice.Measure.Color
import HomeVoice.Measure.SpeedTable
import HomeVoice.Exposure
import HomeVoice.Protocol.Directive
import HomeVoice.Protocol.Category
import HomeVoice.Protocol.Response
import HomeVoice.Protocol.Endpoint
import HomeVoice.Protocol.ServiceCall
import HomeVoice.Protocol.Audit
import HomeVoice.Bridge.Discovery
import HomeVoice.Bridge.Report
import HomeVoice.Bridge.Control.Table
import HomeVoice.Bridge.Handle
import HomeVoice.Hub.Basic
import HomeVoice.Hub.Demo
import HomeVoice.Hub.InPlace
import HomeVoice.Hub.Ports
import HomeVoice.Hub.Table
import HomeVoice.EventBus
import HomeVoice.Toml.Reader
import HomeVoice.Server.Config
import HomeVoice.Server.Http
import HomeVoice.Proofs.Exchange
import HomeVoice.Proofs.Handling.Plan
import HomeVoice.Proofs.Control.Decided
import HomeVoice.Proofs.Discovery.Endpoint
import HomeVoice.Proofs.Handling.Authorisation
import HomeVoice.Proofs.Protocol.Envelope
import HomeVoice.Proofs.Hub.InPlace
import HomeVoice.Proofs.Hub.Writes
import HomeVoice.Proofs.Hub.Acceptance
import HomeVoice.Proofs.Hub.Frame
import HomeVoice.Proofs.Handling.Effects
import HomeVoice.Proofs.Control.Refused
import HomeVoice.Proofs.Discovery.Agreement
import HomeVoice.Proofs.Handling.Noninterference
import HomeVoice.Proofs.Measure.Percent
import HomeVoice.Proofs.Control.Checked
import HomeVoice.Proofs.Measure.SpeedTable
import HomeVoice.Proofs.Control.InRange
import HomeVoice.Proofs.Control.Effect
import HomeVoice.Proofs.Handling.Dispatch
import HomeVoice.Proofs.Hub.Sound
import HomeVoice.Proofs.Handling.Session
import HomeVoice.Proofs.Control.ReadBack
import HomeVoice.Proofs.Handling.ReadYourWrites
import HomeVoice.Proofs.Handling.Audit
import HomeVoice.Proofs.Hub.Devices
import HomeVoice.Proofs.Handling.Reply
import HomeVoice.Proofs.Discovery.Stability
import HomeVoice.Proofs.Control.Stability
import HomeVoice.Proofs.Handling.Retry
import HomeVoice.Proofs.Interleaving.Flight
import HomeVoice.Proofs.Interleaving.Stage
import HomeVoice.Proofs.Interleaving.Serial
import HomeVoice.Proofs.Handling.Undated
import HomeVoice.Proofs.Interleaving.Linearisable
import HomeVoice.Proofs.Handling.Answered
import HomeVoice.Proofs.Handling.Confidentiality
import HomeVoice.Proofs.Json.Object
import HomeVoice.Proofs.Json.Record
import HomeVoice.Proofs.Protocol.Carried
import HomeVoice.Proofs.Handling.Envelope
import HomeVoice.Proofs.Discovery.Addressing
import HomeVoice.Proofs.Discovery.Capabilities
import HomeVoice.Proofs.Handling.Context
import HomeVoice.Proofs.Control.Speed
import HomeVoice.Proofs.Control.Dial
import HomeVoice.Proofs.Handling.Dial
import HomeVoice.Proofs.Control.Setpoints
import HomeVoice.Proofs.Handling.Setpoints
import HomeVoice.Proofs.Text.LetterCase
import HomeVoice.Proofs.Control.Sources
import HomeVoice.Proofs.Handling.Sources
import HomeVoice.Proofs.Handling.Decision
import HomeVoice.Proofs.Control.Modes
import HomeVoice.Proofs.Handling.Modes
import HomeVoice.Proofs.Control.ColorTemperature
import HomeVoice.Proofs.Handling.ColorTemperature
import HomeVoice.Proofs.Handling.Fitting
import HomeVoice.Proofs.Exposure.Tightening
import HomeVoice.Proofs.Discovery.Laws
import HomeVoice.Proofs.Handling.Presentation
import HomeVoice.Proofs.Hub.Table
import HomeVoice.Proofs.Hub.Refinement
import HomeVoice.Proofs.Json.Ignored
import HomeVoice.Proofs.Protocol.Acceptance
import HomeVoice.Entity.IndexedId
import HomeVoice.Proofs.Entity.Grammar
import HomeVoice.Proofs.Handling.Percentages
import HomeVoice.Proofs.Handling.Temperatures
import HomeVoice.Proofs.Text.Number
import HomeVoice.Proofs.Entity.Attributes
import HomeVoice.Proofs.Binary64.Nearest
import HomeVoice.Proofs.Json.WellFormed
import HomeVoice.Proofs.Entity.Conversion
import HomeVoice.Proofs.Server.Environment
import HomeVoice.Proofs.Handling.Deactivation
