import ResourceInference.CommandLine.Command
import ResourceInference.CommandLine.FileTable
import ResourceInference.CommandLine.Run
import ResourceInference.CommandLine.Summary
import ResourceInference.Config
import ResourceInference.Config.Template
import ResourceInference.Data.Decode
import ResourceInference.Data.Entries
import ResourceInference.Data.Node
import ResourceInference.Data.Number
import ResourceInference.Data.Value
import ResourceInference.Decimal.Shortest
import ResourceInference.Exclusion
import ResourceInference.Inference.EnumSearch
import ResourceInference.Inference.Error
import ResourceInference.Inference.Extraction
import ResourceInference.Inference.Function
import ResourceInference.Inference.Journal
import ResourceInference.Inference.Options
import ResourceInference.Inference.PropertyType
import ResourceInference.Inference.Resource
import ResourceInference.Inference.Session
import ResourceInference.Json.Lexer
import ResourceInference.Json.Printer
import ResourceInference.Json.Reader
import ResourceInference.Naming.Identifier
import ResourceInference.Naming.Kebab
import ResourceInference.Naming.Operation
import ResourceInference.OpenApi.Decode
import ResourceInference.OpenApi.Document
import ResourceInference.OpenApi.Encode
import ResourceInference.OpenApi.Format
import ResourceInference.OpenApi.Lookup
import ResourceInference.OpenApi.Method
import ResourceInference.OpenApi.PathTemplate
import ResourceInference.OpenApi.Reader
import ResourceInference.OpenApi.Schema
import ResourceInference.Pattern.CharClass
import ResourceInference.Pattern.PropertyName
import ResourceInference.Pattern.Regex
import ResourceInference.Pattern.RegexReader
import ResourceInference.Pattern.Wildcard
import ResourceInference.Provider.Metadata
import ResourceInference.Provider.ObjectType
import ResourceInference.Provider.Package
import ResourceInference.Provider.TypeSpec
import ResourceInference.SortedMap
import ResourceInference.Text.Case
import ResourceInference.Text.CaseTable
import ResourceInference.Text.Category
import ResourceInference.Text.Class
import ResourceInference.Text.CodeRun
import ResourceInference.Text.Property
import ResourceInference.Text.Split
import ResourceInference.Text.Visible
import ResourceInference.Yaml.Cursor
import ResourceInference.Yaml.Plain
import ResourceInference.Yaml.Printer
import ResourceInference.Yaml.Reader
import ResourceInference.Yaml.Scalar
import ResourceInference.Yaml.Token
import ResourceInference.Main
import ResourceInference.Proofs.Ends
import ResourceInference.Proofs.SessionSteps
import ResourceInference.Proofs.TaskView
import ResourceInference.Proofs.ExcludedOperations
import ResourceInference.Proofs.Invariant
import ResourceInference.Proofs.SchemaSteps
import ResourceInference.Proofs.Runs
import ResourceInference.Proofs.History
import ResourceInference.Proofs.DanglingReferences
import ResourceInference.Proofs.EnumNames
import ResourceInference.Proofs.ReferenceCycles
import ResourceInference.Proofs.Termination
import ResourceInference.Proofs.Inheritance
import ResourceInference.Proofs.Courses
import ResourceInference.Proofs.Coverage
import ResourceInference.Proofs.Bodies
import ResourceInference.Proofs.KeptTypes
import ResourceInference.Proofs.NormalForms
import ResourceInference.Proofs.Operations
import ResourceInference.Proofs.CrudTable
import ResourceInference.Proofs.WireNames
import ResourceInference.Proofs.SharedTokens
import ResourceInference.Proofs.SuppliedNames
import ResourceInference.Proofs.ToleratedEnums
import ResourceInference.Proofs.Outcomes
import ResourceInference.Proofs.Shapes
import ResourceInference.Proofs.ResourceShapes
import ResourceInference.Proofs.PathRuns
import ResourceInference.Proofs.Origins
import ResourceInference.Proofs.SettledRuns
import ResourceInference.Proofs.PathVariables
import ResourceInference.Proofs.SharedMakers
import ResourceInference.Proofs.PathOrder
import ResourceInference.Proofs.PropertyOrder
import ResourceInference.Proofs.NameTables
import ResourceInference.Proofs.DocumentDecoding
import ResourceInference.Proofs.TypeTokens
import ResourceInference.Proofs.ComposedBodies
import ResourceInference.Proofs.EnumReuse
import ResourceInference.Proofs.ListRenames
import ResourceInference.Proofs.NormalPaths
import ResourceInference.Proofs.Declarations
import ResourceInference.Proofs.Flattenings
import ResourceInference.Proofs.Discriminators
import ResourceInference.Proofs.VariableClashes
import ResourceInference.Proofs.TemplateSkeletons
import ResourceInference.Proofs.RepeatedNaming
import ResourceInference.Proofs.OperationTitles
import ResourceInference.Proofs.ReferenceChains
import ResourceInference.Proofs.EnumSearches
import ResourceInference.Proofs.RegexMatching
import ResourceInference.Proofs.WildcardPatterns
import ResourceInference.Proofs.Recordings
import ResourceInference.Proofs.SpecEncodings
import ResourceInference.Proofs.MemberNames
import ResourceInference.Proofs.MarkedTypes
import ResourceInference.Proofs.WordSlices
import ResourceInference.Proofs.TextMembers
