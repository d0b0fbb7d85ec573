import TypedJson.Calendar.Date
import TypedJson.Charset.Basic
import TypedJson.Charset.Decode
import TypedJson.Charset.UpperHalf
import TypedJson.Codec
import TypedJson.Config
import TypedJson.Descriptor.Basic
import TypedJson.Descriptor.Bind
import TypedJson.Descriptor.Document
import TypedJson.Descriptor.Parser
import TypedJson.Descriptor.Printer
import TypedJson.Directory
import TypedJson.Engine.Basic
import TypedJson.Engine.Error
import TypedJson.Engine.Extension
import TypedJson.Engine.Key
import TypedJson.Engine.Read
import TypedJson.Engine.Registry
import TypedJson.Engine.SchemaDocument
import TypedJson.Engine.Write
import TypedJson.Http
import TypedJson.Json.Basic
import TypedJson.Json.Cursor
import TypedJson.Json.Failure
import TypedJson.Json.Printer
import TypedJson.Json.Reader
import TypedJson.Json.Skip
import TypedJson.Json.Token
import TypedJson.MediaType
import TypedJson.Members
import TypedJson.Number.Binary64
import TypedJson.Number.Notation
import TypedJson.Number.Rounding
import TypedJson.Number.Shortest
import TypedJson.Number.WideInt
import TypedJson.Proofs.Codec
import TypedJson.Proofs.Descriptor.Dispatch
import TypedJson.Proofs.Descriptor.Grammar
import TypedJson.Proofs.Descriptor.Parts
import TypedJson.Proofs.Descriptor.Token
import TypedJson.Proofs.Directory
import TypedJson.Proofs.Engine.Conform
import TypedJson.Proofs.Engine.Distinct
import TypedJson.Proofs.Engine.Equality
import TypedJson.Proofs.Engine.Form
import TypedJson.Proofs.Engine.Keys
import TypedJson.Proofs.Engine.Natural
import TypedJson.Proofs.Engine.Normal
import TypedJson.Proofs.Engine.Parts
import TypedJson.Proofs.Engine.Registry
import TypedJson.Proofs.Json.Control
import TypedJson.Proofs.Json.Cursor
import TypedJson.Proofs.Json.Document
import TypedJson.Proofs.Json.Number
import TypedJson.Proofs.Json.Text
import TypedJson.Proofs.Number.Binary64
import TypedJson.Proofs.Number.Decimal
import TypedJson.Proofs.Outcome
import TypedJson.Proofs.Text.Digits
import TypedJson.Proofs.Text.NameChar
import TypedJson.Proofs.Text.Utf8
import TypedJson.Proofs.Tree.Basic
import TypedJson.Proofs.Tree.Same
import TypedJson.Text.Blank
import TypedJson.Text.CodeRange
import TypedJson.Text.Digits
import TypedJson.Text.NameChar
import TypedJson.Text.Quoted
import TypedJson.Text.Utf16
import TypedJson.Text.Utf8
import TypedJson.Text.Visible
import TypedJson.Typed.Record
import TypedJson.Typed.Scalar
import TypedJson.Typed.Writer
import TypedJson.Uuid
import TypedJson.Value.Basic
import TypedJson.Value.Equality
import TypedJson.Zones.Route
import TypedJson.Zones.Server
import TypedJson.Zones.Store
import TypedJson.Zones.Zone
import TypedJson.Proofs.Descriptor.RoundTrip
import TypedJson.Proofs.Engine.Steps
import TypedJson.Proofs.Engine.Substitution
import TypedJson.Proofs.Engine.Scope
import TypedJson.Proofs.Descriptor.Instantiate
import TypedJson.Proofs.Engine.Typing
import TypedJson.Proofs.Engine.Untyped
import TypedJson.Proofs.Engine.Gap
import TypedJson.Proofs.Engine.Locality
import TypedJson.Proofs.Zones.History
import TypedJson.Proofs.Charset
import TypedJson.Proofs.Encoding
import TypedJson.Proofs.Engine.Strict
import TypedJson.Proofs.Text.Utf16
import TypedJson.Proofs.Typed.Record
import TypedJson.Proofs.Zones.Client
import TypedJson.Proofs.Tree.Equivalence
import TypedJson.Proofs.Engine.Nesting
import TypedJson.Proofs.Engine.Blame
import TypedJson.Proofs.Engine.Declared
import TypedJson.Proofs.Response
import TypedJson.Proofs.Decoding
import TypedJson.Proofs.Engine.Builder
import TypedJson.Proofs.Engine.SchemaDocument
import TypedJson.Proofs.Engine.IntegerKeys
import TypedJson.Proofs.Engine.Spelling
import TypedJson.Proofs.Echo
import TypedJson.Proofs.Zones.Address
import TypedJson.Proofs.Descriptor.References
import TypedJson.Proofs.Descriptor.Stepwise
import TypedJson.Proofs.Descriptor.Position
