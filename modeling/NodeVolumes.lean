import NodeVolumes.Call.Answer
import NodeVolumes.Call.Request
import NodeVolumes.Call.World
import NodeVolumes.Cloud.Basic
import NodeVolumes.Cloud.Memory
import NodeVolumes.Cloud.Request
import NodeVolumes.Command.Basic
import NodeVolumes.Decimal.Numeral
import NodeVolumes.Decimal.Shortest
import NodeVolumes.Disk.Discovery
import NodeVolumes.Disk.Link
import NodeVolumes.Disk.Topology
import NodeVolumes.Document.Json5
import NodeVolumes.Document.Text
import NodeVolumes.Document.Toml
import NodeVolumes.Document.TomlScalar
import NodeVolumes.Document.Yaml
import NodeVolumes.Document.YamlScalar
import NodeVolumes.File.Change
import NodeVolumes.File.Lookup
import NodeVolumes.File.Tree
import NodeVolumes.Flow
import NodeVolumes.Host.Request
import NodeVolumes.Host.Station
import NodeVolumes.Http.HostName
import NodeVolumes.Http.Message
import NodeVolumes.Http.Network
import NodeVolumes.Http.Percent
import NodeVolumes.Http.Punycode
import NodeVolumes.Http.Url
import NodeVolumes.Http.UrlReader
import NodeVolumes.Json.Basic
import NodeVolumes.Json.Cursor
import NodeVolumes.Json.Decoder
import NodeVolumes.Json.Reader
import NodeVolumes.Json.Skip
import NodeVolumes.Kubelet.Arguments
import NodeVolumes.Kubelet.Dispatch
import NodeVolumes.Kubelet.Operation
import NodeVolumes.Kubelet.Options
import NodeVolumes.Kubelet.Response
import NodeVolumes.Kubelet.Session
import NodeVolumes.Log.Filter
import NodeVolumes.Log.Target
import NodeVolumes.Main
import NodeVolumes.Mount.Operations
import NodeVolumes.Mount.Table
import NodeVolumes.Net.Address
import NodeVolumes.Net.HostTable
import NodeVolumes.Net.Numeral
import NodeVolumes.Path
import NodeVolumes.Placement.Attach
import NodeVolumes.Placement.Correlation
import NodeVolumes.Placement.Request
import NodeVolumes.Proofs.Cloud.Naming
import NodeVolumes.Proofs.Flow.Run
import NodeVolumes.Proofs.Mount.Formatting
import NodeVolumes.Proofs.Mount.Run
import NodeVolumes.Proofs.Placement.Attachment
import NodeVolumes.Proofs.Placement.Correlation
import NodeVolumes.Proofs.Placement.Detachment
import NodeVolumes.Proofs.Placement.RoundTrip
import NodeVolumes.Proofs.Placement.Run
import NodeVolumes.Proofs.Placement.UniqueNames
import NodeVolumes.Rest.Certificates
import NodeVolumes.Rest.Client
import NodeVolumes.Rest.Login
import NodeVolumes.Rest.Payload
import NodeVolumes.Rest.Request
import NodeVolumes.Settings.Cloud
import NodeVolumes.Settings.Files
import NodeVolumes.Settings.Layers
import NodeVolumes.Settings.Node
import NodeVolumes.Settings.Variable
import NodeVolumes.SortedMap
import NodeVolumes.Text.Blank
import NodeVolumes.Text.CaseTable
import NodeVolumes.Text.Escaped
import NodeVolumes.Text.Lowercase
import NodeVolumes.Text.Search
import NodeVolumes.Text.ShellWord
import NodeVolumes.Text.Utf8
import NodeVolumes.Text.Visible
import NodeVolumes.Proofs.File.Names
import NodeVolumes.Proofs.File.Edits
import NodeVolumes.Proofs.Host.Station
import NodeVolumes.Proofs.Placement.Remains
import NodeVolumes.Proofs.Mount.Release
import NodeVolumes.Proofs.Mount.Unmounting
import NodeVolumes.Proofs.Mount.Teardown
import NodeVolumes.Proofs.Host.Looking
import NodeVolumes.Proofs.Disk.Discovery
import NodeVolumes.Proofs.Placement.Attachedness
import NodeVolumes.Proofs.Rest.Listing
import NodeVolumes.Proofs.Rest.Chain
import NodeVolumes.Proofs.Flow.Fuel
import NodeVolumes.Proofs.Call.Fuel
import NodeVolumes.Proofs.Call.Lookup
import NodeVolumes.Proofs.Call.Line
import NodeVolumes.Proofs.Json.Reading
import NodeVolumes.Proofs.Kubelet.Response
import NodeVolumes.Proofs.Kubelet.Session
import NodeVolumes.Proofs.Kubelet.Dispatch
import NodeVolumes.Proofs.SortedMap
import NodeVolumes.Proofs.Cloud.Metadata
import NodeVolumes.Proofs.Placement.Metadata
import NodeVolumes.Proofs.Flow.Interleaving
import NodeVolumes.Proofs.Cloud.Share
import NodeVolumes.Proofs.Placement.Overlap
import NodeVolumes.Proofs.Except
import NodeVolumes.Proofs.Json.Members
import NodeVolumes.Proofs.Json.Squeezed
import NodeVolumes.Proofs.Json.Numbers
import NodeVolumes.Proofs.Json.Spacing
import NodeVolumes.Proofs.Kubelet.Options
import NodeVolumes.Proofs.Kubelet.Grammar
import NodeVolumes.Proofs.Host.Elevation
import NodeVolumes.Proofs.Mount.Helper
import NodeVolumes.Proofs.Text.Order
import NodeVolumes.Proofs.File.Listing
import NodeVolumes.Proofs.Disk.Parent
import NodeVolumes.Proofs.Mount.FoundDisks
import NodeVolumes.Proofs.Net.Address
import NodeVolumes.Proofs.Placement.Interchange
import NodeVolumes.Proofs.Text.Utf8
import NodeVolumes.Proofs.Disk.Link
import NodeVolumes.Proofs.Placement.Ports
import NodeVolumes.Proofs.Placement.Prediction
import NodeVolumes.Proofs.Mount.Plan
import NodeVolumes.Proofs.Text.Pieces
import NodeVolumes.Proofs.Mount.Binding
import NodeVolumes.Proofs.Mount.Entries
import NodeVolumes.Proofs.Disk.Coherence
import NodeVolumes.Proofs.Disk.Rescan
import NodeVolumes.Proofs.Disk.Rediscovery
import NodeVolumes.Proofs.Rest.Pages
import NodeVolumes.Proofs.Rest.Waiting
import NodeVolumes.Proofs.Disk.Passes
import NodeVolumes.Proofs.Http.Url
import NodeVolumes.Proofs.Rest.Login
import NodeVolumes.Proofs.Rest.Selection
import NodeVolumes.Proofs.Http.Percent
import NodeVolumes.Proofs.Http.Segments
import NodeVolumes.Proofs.Rest.Addresses
import NodeVolumes.Proofs.Rest.Filter
import NodeVolumes.Proofs.Rest.Answers
import NodeVolumes.Proofs.Text.ShellWord
import NodeVolumes.Proofs.Command.Rendering
import NodeVolumes.Proofs.Call.Password
import NodeVolumes.Proofs.Rest.Certificates
