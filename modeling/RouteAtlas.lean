import RouteAtlas.Glob
import RouteAtlas.LogLevel
import RouteAtlas.Main
import RouteAtlas.Memo
import RouteAtlas.Proofs.Text.Lines
import RouteAtlas.Proofs.Controller.Pass
import RouteAtlas.Proofs.Text.Search
import RouteAtlas.Proofs.Text.Words
import RouteAtlas.Proofs.Endpoint.Agreement
import RouteAtlas.Proofs.Source.Attribute
import RouteAtlas.Proofs.Controller.Marks
import RouteAtlas.Proofs.Json.Nesting
import RouteAtlas.Proofs.Pairs
import RouteAtlas.Proofs.Memo
import RouteAtlas.Proofs.Path.Spelling
import RouteAtlas.Proofs.Project.Coherence
import RouteAtlas.Proofs.Project.Readings
import RouteAtlas.Proofs.Layout.Basic
import RouteAtlas.Proofs.Source.Code
import RouteAtlas.Proofs.Layout.AttributeLine
import RouteAtlas.Proofs.Layout.Hits
import RouteAtlas.Proofs.Layout.Scan
import RouteAtlas.Proofs.Layout.Lines
import RouteAtlas.Proofs.Layout.Extraction
import RouteAtlas.Proofs.Controller.Overlap
import RouteAtlas.Proofs.Source.EndComment
import RouteAtlas.Proofs.Source.CommentedWords
import RouteAtlas.Proofs.Source.CommentedHeader
import RouteAtlas.Proofs.Source.CommentedAttribute
import RouteAtlas.Proofs.Source.CommentedLine
import RouteAtlas.Proofs.Controller.Comments
import RouteAtlas.Proofs.Endpoint.Comments
import RouteAtlas.Proofs.Text.Utf8
import RouteAtlas.Proofs.Unicode.Lowering
import RouteAtlas.Proofs.Json.Strings
import RouteAtlas.Proofs.Json.Written
import RouteAtlas.Proofs.Json.RoundTrip
import RouteAtlas.Proofs.Except
import RouteAtlas.Proofs.Workspace.Tree
import RouteAtlas.Proofs.Workspace.Disk
import RouteAtlas.Proofs.Store.StateFile
import RouteAtlas.Proofs.Store.Aliases
import RouteAtlas.Proofs.Store.AliasCalls
import RouteAtlas.Proofs.CommandLine.Jobs
import RouteAtlas.Proofs.CommandLine.AliasEdits
import RouteAtlas.Proofs.Project.Remembered
import RouteAtlas.Proofs.Endpoint.RequestUrl
import RouteAtlas.Proofs.Endpoint.Windows
import RouteAtlas.Proofs.Text.Order
import RouteAtlas.Proofs.Workspace.Listing
import RouteAtlas.Proofs.Workspace.Reordering
import RouteAtlas.Proofs.Workspace.Enumerated
import RouteAtlas.Proofs.Workspace.Isolation
import RouteAtlas.Proofs.Source.Braces
import RouteAtlas.Proofs.Controller.Span
import RouteAtlas.Proofs.Store.UnsavedChanges
import RouteAtlas.Proofs.Store.Variables
import RouteAtlas.Proofs.Store.VariableCalls
import RouteAtlas.Proofs.Sections.Basic
import RouteAtlas.Proofs.Sections.Passes
import RouteAtlas.Proofs.Sections.Attributes
import RouteAtlas.Proofs.Sections.Hits
import RouteAtlas.Proofs.Text.BlankRuns
import RouteAtlas.Proofs.Text.CollapsedReaders
import RouteAtlas.Proofs.Signature.Grammar
import RouteAtlas.Proofs.Signature.Splitting
import RouteAtlas.Proofs.Signature.Capture
import RouteAtlas.Proofs.Signature.LineBreaks
import RouteAtlas.Proofs.Signature.CapturedLines
import RouteAtlas.Proofs.Parameter.Reading
import RouteAtlas.Proofs.Parameter.Collapsed
import RouteAtlas.Proofs.Parameter.Written
import RouteAtlas.Proofs.Parameter.WrittenModifiers
import RouteAtlas.Proofs.Parameter.AttributeSections
import RouteAtlas.Proofs.Endpoint.Wrapping
import RouteAtlas.Proofs.Signature.Parts
import RouteAtlas.Proofs.Source.AttributeReach
import RouteAtlas.Proofs.Text.Replacing
import RouteAtlas.Proofs.Route.Tokens
import RouteAtlas.Proofs.Route.Composition
import RouteAtlas.Proofs.Route.PathParameters
import RouteAtlas.Proofs.Parameter.Binding
import RouteAtlas.Proofs.Unicode.Boundaries
import RouteAtlas.Proofs.Store.Placeholders
import RouteAtlas.Proofs.Store.Substitution
import RouteAtlas.Proofs.Catalog.Tree
import RouteAtlas.Proofs.Catalog.ShownValues
import RouteAtlas.Proofs.Catalog.Building
import RouteAtlas.Proofs.Glob.Matching
import RouteAtlas.Proofs.Workspace.Walk
import RouteAtlas.Proofs.Workspace.Limit
import RouteAtlas.Proofs.Workspace.Projects
import RouteAtlas.Proofs.Glob.Components
import RouteAtlas.Proofs.Url.Web
import RouteAtlas.Proofs.Url.Plain
import RouteAtlas.Proofs.Project.ListedUrls
import RouteAtlas.Proofs.Project.UrlLists
import RouteAtlas.Proofs.Url.Rereading
import RouteAtlas.Proofs.Project.HiddenHosts
import RouteAtlas.Proofs.Project.OpenHosts
import RouteAtlas.Proofs.Unicode.Trimming
import RouteAtlas.Proofs.Catalog.Searching
import RouteAtlas.Proofs.Catalog.Sorting
import RouteAtlas.Proofs.Project.Ascent
import RouteAtlas.Proofs.Route.EmptySegments
import RouteAtlas.Proofs.Method.Grammar
import RouteAtlas.Proofs.Method.TypeArguments
import RouteAtlas.Proofs.Method.Signatures
import RouteAtlas.Proofs.Method.Headers
