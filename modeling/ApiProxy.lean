import ApiProxy.Unicode.Letter
import ApiProxy.Unicode.CaseMap
import ApiProxy.Unicode.Visible
import ApiProxy.Words
import ApiProxy.Script.Identifier
import ApiProxy.Script.ApiFile
import ApiProxy.Route
import ApiProxy.FilePath
import ApiProxy.Script.Files
import ApiProxy.Types.Closure
import ApiProxy.Types.Lookup
import ApiProxy.Main
import ApiProxy.Settings.Resolved
import ApiProxy.Unicode.Utf8
import ApiProxy.Url.Address
import ApiProxy.SchemaSource
import ApiProxy.FileTree
import ApiProxy.Schema.Decoding
import ApiProxy.Schema.Encoding
import ApiProxy.Proofs.Text.ByteOrder
import ApiProxy.Proofs.TypeGraph.Closure
import ApiProxy.Proofs.Outcome
import ApiProxy.Proofs.TypeGraph.Chain
import ApiProxy.Proofs.Names.Fresh
import ApiProxy.Proofs.Names.TypeNames
import ApiProxy.Proofs.Script.TypeExpr
import ApiProxy.Proofs.Script.Declarations
import ApiProxy.Proofs.Script.Functions
import ApiProxy.Proofs.Script.CodeReading
import ApiProxy.Proofs.Script.FunctionReading
import ApiProxy.Proofs.Script.ApiReading
import ApiProxy.Proofs.Script.ImportedNames
import ApiProxy.Proofs.Names.Words
import ApiProxy.Proofs.Generation.Steps
import ApiProxy.Proofs.Generation.Success
import ApiProxy.Proofs.Events
import ApiProxy.Proofs.Run.Recording
import ApiProxy.Proofs.Run.History
import ApiProxy.Proofs.Binding.Positions
import ApiProxy.Proofs.Names.Parameters
import ApiProxy.Proofs.Script.Wiring
import ApiProxy.Proofs.Generation.Files
import ApiProxy.Proofs.Text.Lines
import ApiProxy.Proofs.Text.Utf8
import ApiProxy.Proofs.Text.Pieces
import ApiProxy.Proofs.Url.Coding
import ApiProxy.Proofs.Request.Form
import ApiProxy.Proofs.Request.Address
import ApiProxy.Proofs.Request.Arrival
import ApiProxy.Proofs.Script.Banner
import ApiProxy.Proofs.Script.HelperName
import ApiProxy.Proofs.Script.TopLevelNames
import ApiProxy.Proofs.Names.Identifiers
import ApiProxy.Proofs.Route.Alternation
import ApiProxy.Proofs.Script.TemplateLiteral
import ApiProxy.Proofs.Script.UrlLiteral
import ApiProxy.Proofs.OutputPaths
import ApiProxy.Proofs.TypeGraph.Agreement
import ApiProxy.Proofs.Script.Agreement
import ApiProxy.Proofs.Generation.Rendering
import ApiProxy.Proofs.Generation.Story
import ApiProxy.Proofs.Json.Scalars
import ApiProxy.Proofs.Script.ModelLine
import ApiProxy.Proofs.Script.ModelReading
import ApiProxy.Proofs.Json.Printed
import ApiProxy.Proofs.Json.Records
import ApiProxy.Proofs.Schema.Canonical
import ApiProxy.Proofs.Schema.RoundTrip
import ApiProxy.Proofs.Disk.Places
import ApiProxy.Proofs.Disk.Directories
import ApiProxy.Proofs.Disk.Replacement
import ApiProxy.Proofs.Run.Regeneration
import ApiProxy.Proofs.Route.Segmentation
import ApiProxy.Proofs.Staging.Spelling
import ApiProxy.Proofs.Staging.History
import ApiProxy.Proofs.Settings.Layers
import ApiProxy.Proofs.Json.Tokens
import ApiProxy.Proofs.Json.Spelling
import ApiProxy.Proofs.Json.Reading
import ApiProxy.Proofs.Json.Variation
import ApiProxy.Proofs.Json.Slots
import ApiProxy.Proofs.Schema.Layout
import ApiProxy.Proofs.Schema.Variation
import ApiProxy.Script.GatheredTypes
import ApiProxy.Proofs.Script.GatheredTypes
import ApiProxy.Proofs.Binding.Roles
import ApiProxy.Proofs.TypeGraph.Walk
import ApiProxy.Proofs.Script.ChainText
import ApiProxy.Proofs.Disk.Course
import ApiProxy.Proofs.Disk.TemporaryPath
import ApiProxy.Proofs.Disk.Faults
import ApiProxy.Proofs.Disk.AllOrNothing
import ApiProxy.Proofs.Selection
import ApiProxy.Proofs.Unicode.CodeSet
import ApiProxy.Proofs.Unicode.LowerCase
import ApiProxy.Proofs.Unicode.Normal
import ApiProxy.Proofs.Names.KebabTwice
import ApiProxy.Proofs.Script.ArrayTypes
import ApiProxy.Proofs.Url.Punycode
import ApiProxy.Proofs.Url.Domain
import ApiProxy.Proofs.Url.Address
import ApiProxy.Proofs.Url.Host
import ApiProxy.Proofs.Url.Segments
import ApiProxy.Proofs.Url.Authority
import ApiProxy.Proofs.Url.Reading
import ApiProxy.Proofs.Endpoint
import ApiProxy.Proofs.Names.OwnIdentifier
import ApiProxy.Proofs.Route.Spelling
import ApiProxy.Proofs.Script.BindingNames
import ApiProxy.Proofs.Names.Spellings
import ApiProxy.Proofs.Names.InTurn
import ApiProxy.Proofs.Names.WordCuts
import ApiProxy.Proofs.TypeGraph.References
import ApiProxy.Proofs.Names.Sanitized
