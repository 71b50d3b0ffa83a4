import Navigation.Token
import Navigation.Identifier
import Navigation.Literal
import Navigation.NameSet
import Navigation.Destination
import Navigation.SetupError
import Navigation.ErrorTree
import Navigation.Grouping
import Navigation.Check
import Navigation.Graph
import Navigation.Event
import Navigation.Assembly
import Navigation.Template.Marker
import Navigation.Template.Basic
import Navigation.Template.Reader
import Navigation.Text.Blank
import Navigation.Text.Cut
import Navigation.Fragment
import Navigation.ImportList
import Navigation.Capabilities
import Navigation.TemplateSet
import Navigation.Layout
import Navigation.Declaration
import Navigation.Artifact
import Navigation.Generation
import Navigation.Text.Hex
import Navigation.Toml.Value
import Navigation.Toml.Text
import Navigation.Toml.Scalar
import Navigation.Toml.Table
import Navigation.Toml.Reader
import Navigation.Path
import Navigation.IoError
import Navigation.Config.Basic
import Navigation.Config.Document
import Navigation.FileTree
import Navigation.OutputDirectory
import Navigation.Json.Value
import Navigation.Json.Reader
import Navigation.Manifest
import Navigation.Project
import Navigation.Proofs.Token.Laws
import Navigation.Proofs.Template.Marker
import Navigation.Proofs.Outcome
import Navigation.Proofs.Template.Pass
import Navigation.Proofs.Assembly.Groups
import Navigation.Proofs.ErrorTree.View
import Navigation.Proofs.Assembly.Charge
import Navigation.Proofs.Assembly.Graphs
import Navigation.Proofs.Identifier
import Navigation.Proofs.Assembly.Violations
import Navigation.Proofs.Assembly.Tree
import Navigation.Proofs.Template.Free
import Navigation.Proofs.Declaration
import Navigation.Proofs.Generation.Tokens
import Navigation.Proofs.Template.Written
import Navigation.Proofs.Template.Slots
import Navigation.Proofs.Generation.Required
import Navigation.Proofs.Generation.History
import Navigation.Proofs.Layout.Nesting
import Navigation.Proofs.Declaration.Nesting
import Navigation.Proofs.Declaration.Readable
import Navigation.Proofs.Assembly.Sources
import Navigation.Proofs.Generation.Interleaving
import Navigation.Proofs.NameSet
import Navigation.Proofs.ErrorTree.Located
import Navigation.Proofs.ErrorTree.Errors
import Navigation.Proofs.Assembly.Order
import Navigation.Proofs.Path
import Navigation.Proofs.Config
import Navigation.Proofs.FileTree
import Navigation.Proofs.OutputDirectory
import Navigation.Proofs.Project.Run
import Navigation.Proofs.Project.Stages
import Navigation.Proofs.Project.Delivery
import Navigation.Proofs.Project.Watch
import Navigation.Proofs.Template.Verdict
import Navigation.Proofs.Template.Report
import Navigation.Proofs.Template.Joined
import Navigation.Proofs.Template.LeftOut
import Navigation.Proofs.Generation.Variants
import Navigation.Proofs.Token.Occurrences
import Navigation.Proofs.Token.Spans
import Navigation.Proofs.Assembly.Partition
import Navigation.Proofs.Identifier.Rewriting
import Navigation.Proofs.Identifier.Runs
import Navigation.Proofs.Assembly.Collisions
import Navigation.Proofs.Identifier.Range
import Navigation.Proofs.Assembly.Letterless
import Navigation.Proofs.Declaration.Literals
import Navigation.Proofs.ErrorTree.Paths
import Navigation.Proofs.ErrorTree.Merge
import Navigation.Proofs.ErrorTree.Printed
import Navigation.Proofs.Assembly.Passes
import Navigation.Proofs.ImportList
import Navigation.Proofs.Capabilities.Overwriting
import Navigation.Proofs.Path.Components
import Navigation.Proofs.Project.Confined
import Navigation.Proofs.Config.Resolved
import Navigation.Proofs.Template.Indented
import Navigation.Proofs.Capabilities.Nested
import Navigation.Proofs.Record
import Navigation.Proofs.Config.Overlaid
import Navigation.Proofs.Manifest.Fields
import Navigation.Proofs.Manifest.Restated
