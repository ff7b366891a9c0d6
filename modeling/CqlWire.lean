import CqlWire.CommandLine
import CqlWire.ServerError
import CqlWire.Main
import CqlWire.Proofs.Bytes
import CqlWire.Proofs.Codec.Canonical
import CqlWire.Proofs.Codec.Encoding
import CqlWire.Proofs.Codec.RoundTrip
import CqlWire.Proofs.Codec.Varint
import CqlWire.Proofs.Config.Consistency
import CqlWire.Proofs.Config.Profile
import CqlWire.Proofs.Field.Concat
import CqlWire.Proofs.Field.Failure
import CqlWire.Proofs.Field.Size
import CqlWire.Proofs.Field.Steps
import CqlWire.Proofs.Field.Unambiguous
import CqlWire.Proofs.Frame.Children
import CqlWire.Proofs.Frame.Failure
import CqlWire.Proofs.Frame.Layout
import CqlWire.Proofs.Frame.Length
import CqlWire.Proofs.Frame.Limits
import CqlWire.Proofs.Frame.Size
import CqlWire.Proofs.Frame.Steps
import CqlWire.Proofs.Frame.Timestamp
import CqlWire.Proofs.Frame.Unambiguous
import CqlWire.Proofs.LastGiven
import CqlWire.Proofs.Outcome
import CqlWire.Proofs.Protocol.Version
import CqlWire.Proofs.Reason
import CqlWire.Proofs.Request.Children
import CqlWire.Proofs.Request.Estimate
import CqlWire.Proofs.Request.Flags
import CqlWire.Proofs.Request.OfStatement
import CqlWire.Proofs.Request.Refusal
import CqlWire.Proofs.Request.Restrictions
import CqlWire.Proofs.Request.Unambiguous
import CqlWire.Proofs.ServerError.Classification
import CqlWire.Proofs.Session.Client
import CqlWire.Proofs.Session.Pages
import CqlWire.Proofs.Session.Prepare
import CqlWire.Proofs.Session.Receive
import CqlWire.Proofs.Session.Refresh
import CqlWire.Proofs.Session.RoundTrip
import CqlWire.Proofs.Session.Run
import CqlWire.Proofs.Session.Shapes
import CqlWire.Proofs.Session.Timestamps
import CqlWire.Proofs.Statement.Bind
import CqlWire.Proofs.Statement.ByName
import CqlWire.Proofs.Statement.Slots
import CqlWire.Proofs.Text.Blank
import CqlWire.Proofs.Text.Numeral
import CqlWire.Proofs.Token.Order
import CqlWire.Proofs.Token.Padding
import CqlWire.Proofs.Token.WrittenForm
import CqlWire.Proofs.Schema.Resolution
import CqlWire.Proofs.Config.Inheritance
import CqlWire.Proofs.Timestamp
import CqlWire.Proofs.Session.Inherited
import CqlWire.Proofs.Field.Counted
import CqlWire.Proofs.Statement.Named
import CqlWire.Proofs.Session.NamedValues
import CqlWire.Proofs.Text.Order
import CqlWire.Proofs.Frame.Payload
