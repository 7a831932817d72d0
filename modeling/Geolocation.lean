import Geolocation.Decimal.Layout
import Geolocation.Document.Decode
import Geolocation.IpAddress
import Geolocation.Json.Printer
import Geolocation.Json.Reader
import Geolocation.Location
import Geolocation.Network.Basic
import Geolocation.Text.Lowercase
import Geolocation.Toml.Reader
import Geolocation.Cell
import Geolocation.Distinct
import Geolocation.Query.Basic
import Geolocation.Settings
import Geolocation.Store.AddressRecord
import Geolocation.Store.Basic
import Geolocation.Provider.Basic
import Geolocation.Service.Answer
import Geolocation.Provider.Address
import Geolocation.Provider.Evidence
import Geolocation.Provider.Service
import Geolocation.Search.Basic
import Geolocation.Search.Locator
import Geolocation.MaxMind.Shape
import Geolocation.Telemetry
import Geolocation.MaxMind.Database
import Geolocation.CommandLine.Arguments
import Geolocation.CommandLine.Run
import Geolocation.Main
import Geolocation.Proofs.FloatOrder
import Geolocation.Proofs.Search.Winner
import Geolocation.Proofs.Search.Disclosure
import Geolocation.Proofs.Search.Outage
import Geolocation.Proofs.Network.Labelling
import Geolocation.Proofs.Network.SingleLinkage
import Geolocation.Proofs.FloatExact
import Geolocation.Proofs.Search.Origin
import Geolocation.Proofs.Search.Floor
import Geolocation.Proofs.Search.OnEarth
import Geolocation.Proofs.Search.Counters
import Geolocation.Proofs.Search.Noninterference
import Geolocation.Proofs.Search.Provenance
import Geolocation.Proofs.Search.Truncation
import Geolocation.Proofs.Search.ExternalAnswer
import Geolocation.Proofs.Search.MalformedPolicy
import Geolocation.Proofs.Search.Searched
import Geolocation.Proofs.Query.WifiSpelling
import Geolocation.Proofs.Text.IpAddress
import Geolocation.Proofs.Query.FirstOccurrence
import Geolocation.Proofs.Query.Normal
import Geolocation.Proofs.Query.ServiceBody
import Geolocation.Proofs.Store.LastRecord
import Geolocation.Proofs.Network.LargestComponent
import Geolocation.Proofs.Provider.WifiEstimate
import Geolocation.Proofs.Query.CellText
import Geolocation.Proofs.Provider.CellEstimate
import Geolocation.Proofs.Provider.Faults
import Geolocation.Proofs.Json.FloatText
import Geolocation.Proofs.Json.Documents
import Geolocation.Proofs.CommandLine.World
import Geolocation.Proofs.CommandLine.ExitCode
import Geolocation.Proofs.Network.Radius
import Geolocation.Proofs.Search.Reduction
import Geolocation.Proofs.FloatValue
import Geolocation.Proofs.Network.Centre
import Geolocation.Proofs.Provider.AreaEstimate
import Geolocation.Proofs.CommandLine.CellGrammar
import Geolocation.Proofs.CommandLine.CellRoundTrip
import Geolocation.Proofs.CommandLine.PolicyFlags
import Geolocation.Proofs.Telemetry
import Geolocation.Proofs.Network.LabellingRun
