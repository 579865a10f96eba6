import RegisterMap.Bytes.HexText
import RegisterMap.Bytes.Utf8
import RegisterMap.Calendar
import RegisterMap.Cbor.Item
import RegisterMap.Cli.Program
import RegisterMap.Codec
import RegisterMap.Config
import RegisterMap.Definition.Elaboration
import RegisterMap.Files.Workspace
import RegisterMap.Generated.Execution
import RegisterMap.Generated.Render
import RegisterMap.Generated.Sample
import RegisterMap.Log
import RegisterMap.Main
import RegisterMap.Packet
import RegisterMap.Proofs.Bytes.BigEndian
import RegisterMap.Proofs.Bytes.HexReading
import RegisterMap.Proofs.Bytes.HexText
import RegisterMap.Proofs.Cli.Payload
import RegisterMap.Proofs.Cli.Snapshots
import RegisterMap.Proofs.Definition.Comments
import RegisterMap.Proofs.Definition.Completeness
import RegisterMap.Proofs.Definition.Cutting
import RegisterMap.Proofs.Definition.Documentation
import RegisterMap.Proofs.Definition.FaultPlaces
import RegisterMap.Proofs.Definition.Layout
import RegisterMap.Proofs.Definition.Loading
import RegisterMap.Proofs.Definition.Parsing
import RegisterMap.Proofs.Definition.Place
import RegisterMap.Proofs.Device.Nesting
import RegisterMap.Proofs.Device.Reachability
import RegisterMap.Proofs.FloatFormat.Shortest
import RegisterMap.Proofs.FloatFormat.Text
import RegisterMap.Proofs.Generated.Constants
import RegisterMap.Proofs.Generated.Identifiers
import RegisterMap.Proofs.Generated.Sample
import RegisterMap.Proofs.Group.Assignment
import RegisterMap.Proofs.Group.FieldPath
import RegisterMap.Proofs.Group.Frame
import RegisterMap.Proofs.Group.Run
import RegisterMap.Proofs.Group.Slots
import RegisterMap.Proofs.Group.WireFormat
import RegisterMap.Proofs.Numeral.Constant
import RegisterMap.Proofs.Packet
import RegisterMap.Proofs.Snapshot.LastWrite
import RegisterMap.Proofs.Value.Constant
import RegisterMap.Proofs.Value.Integer
import RegisterMap.Proofs.Value.Rounding
import RegisterMap.Proofs.Value.Slice
import RegisterMap.Proofs.Value.Text
import RegisterMap.Proofs.Value.Transfer
import RegisterMap.Snapshot.Image
import RegisterMap.Snapshot.Store
import RegisterMap.Yaml.Writer
