import CollectionTypes.Number.Shortest
import CollectionTypes.Table
import CollectionTypes.Text.Blank
import CollectionTypes.Text.Digit
import CollectionTypes.Text.Printable
import CollectionTypes.Text.Upper
import CollectionTypes.Value.Name
import CollectionTypes.Value.Shown
import CollectionTypes.Value.Reader
import CollectionTypes.Value.Writer
import CollectionTypes.Naming.TypeName
import CollectionTypes.Settings.Basic
import CollectionTypes.Source.Files
import CollectionTypes.Journal.Basic
import CollectionTypes.Schema.Flags
import CollectionTypes.Schema.Relation
import CollectionTypes.Schema.Linking
import CollectionTypes.Document.Basic
import CollectionTypes.Document.Imports
import CollectionTypes.Document.MemberType
import CollectionTypes.Value.NameOrder
import CollectionTypes.Document.OfViews
import CollectionTypes.Generation
import CollectionTypes.Session
import CollectionTypes.Journal.Logger
import CollectionTypes.Journal.Collector
import CollectionTypes.Settings.Storage
import CollectionTypes.Source.Load
import CollectionTypes.Console.Markup
import CollectionTypes.Console.Sheet
import CollectionTypes.CommandLine.Arguments
import CollectionTypes.CommandLine.Run
import CollectionTypes.Main
import CollectionTypes.Proofs.Document.Content
import CollectionTypes.Proofs.Generation.Distinct
import CollectionTypes.Proofs.Generation.Shapes
import CollectionTypes.Proofs.Generation.Sides
import CollectionTypes.Proofs.Generation.Header
import CollectionTypes.Proofs.Generation.Order
import CollectionTypes.Proofs.Generation.Locality
import CollectionTypes.Proofs.Text.Reader
import CollectionTypes.Proofs.Generation.Wording
import CollectionTypes.Proofs.Document.Decoded
import CollectionTypes.Proofs.Generation.WaysIn
import CollectionTypes.Proofs.Schema.WellTyped
import CollectionTypes.Proofs.Generation.Succeeds
import CollectionTypes.Proofs.Schema.Resolved
import CollectionTypes.Proofs.Schema.Indexed
import CollectionTypes.Proofs.CommandLine.Delivered
import CollectionTypes.Proofs.CommandLine.Ending
import CollectionTypes.Proofs.Document.PropertyName
import CollectionTypes.Proofs.Generation.Identifiers
import CollectionTypes.Proofs.Schema.Ownership
import CollectionTypes.Proofs.Document.Survivors
import CollectionTypes.Proofs.Document.Form
import CollectionTypes.Proofs.Settings.Reloaded
import CollectionTypes.Proofs.Generation.Clashes
import CollectionTypes.Proofs.Document.Registered
import CollectionTypes.Proofs.Source.Alike
import CollectionTypes.Proofs.Document.Names
import CollectionTypes.Proofs.Generation.Rollup
