import GelClient.Codec.Object
import GelClient.Connection.Connector
import GelClient.Proofs.Codec.Array
import GelClient.Proofs.Codec.Choice
import GelClient.Proofs.Codec.Items
import GelClient.Proofs.Codec.Kinds
import GelClient.Proofs.Codec.Limits
import GelClient.Proofs.Codec.Object
import GelClient.Proofs.Codec.Placement
import GelClient.Proofs.Connection.Dialling
import GelClient.Proofs.Connection.Dsn
import GelClient.Proofs.Connection.Flushing
import GelClient.Proofs.Connection.Opening
import GelClient.Proofs.Connection.Rows
import GelClient.Proofs.Connection.Session
import GelClient.Proofs.Number.Spelling
import GelClient.Proofs.Packet.Checked
import GelClient.Proofs.Packet.Mirror
import GelClient.Proofs.Protocol.ClientHandshake
import GelClient.Proofs.Protocol.LayoutFault
import GelClient.Proofs.Protocol.Missing
import GelClient.Proofs.Protocol.Truncation
import GelClient.Proofs.Schema.Building
import GelClient.Proofs.Schema.Isolation
import GelClient.Proofs.Schema.Layout
import GelClient.Proofs.Schema.Retention
import GelClient.Proofs.Scram.Exchange
import GelClient.Proofs.Scram.Name
import GelClient.Proofs.Time.Conversion
import GelClient.Proofs.Transaction.Reuse
import GelClient.Schema.Registry
import GelClient.Time.Calendar
import GelClient.Transaction.Basic
import GelClient.Value.Json
