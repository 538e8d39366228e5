import ClientPlan.OrderedMap
import ClientPlan.Json.Printer
import ClientPlan.Name.Slug
import ClientPlan.Name.Tag
import ClientPlan.Name.OperationId
import ClientPlan.PathTemplate.Basic
import ClientPlan.Client.Model
import ClientPlan.Artifact
import ClientPlan.OpenApi.TypeName
import ClientPlan.OpenApi.Document
import ClientPlan.Outline.Operations
import ClientPlan.Outline.Models
import ClientPlan.Options.Reading
import ClientPlan.Files.Tree
import ClientPlan.Main
import ClientPlan.Yaml.Reader
import ClientPlan.Proofs.Plan.Conservation
import ClientPlan.Proofs.Plan.Coverage
import ClientPlan.Proofs.Plan.UniqueIds
import ClientPlan.Proofs.Plan.Summaries
import ClientPlan.Proofs.Plan.Paths
import ClientPlan.Proofs.Code.Stem
import ClientPlan.Proofs.Plan.Imports
import ClientPlan.Proofs.PathTemplate
import ClientPlan.Proofs.Code.ApiFile
import ClientPlan.Proofs.Plan.ApiFiles
import ClientPlan.Proofs.Plan.Callers
import ClientPlan.Proofs.Plan.Scope
import ClientPlan.Proofs.Plan.Strict
import ClientPlan.Proofs.Plan.MemberNames
import ClientPlan.Proofs.Code.Identifier
import ClientPlan.Proofs.Code.TemplateLiteral
import ClientPlan.Proofs.Segments
import ClientPlan.Proofs.Interpolation
import ClientPlan.Proofs.Plan.LocalNames
import ClientPlan.Proofs.Plan.Isolation
import ClientPlan.Proofs.Outline.Imports
import ClientPlan.Proofs.Plan.ModelFiles
import ClientPlan.Proofs.Plan.Writing
import ClientPlan.Proofs.Name.Slug
import ClientPlan.Proofs.Files.Inside
import ClientPlan.Proofs.Plan.Folders
import ClientPlan.Proofs.PathTemplate.Grammar
import ClientPlan.Proofs.PathTemplate.Factors
import ClientPlan.Proofs.PathTemplate.Dialects
import ClientPlan.Proofs.Plan.Mapped
import ClientPlan.Proofs.Plan.OptionScope
import ClientPlan.Proofs.Outline.Without
import ClientPlan.Proofs.Plan.HeaderParams
import ClientPlan.Proofs.Outline.Parameters
import ClientPlan.Proofs.Reannotation
import ClientPlan.Proofs.Outline.Merging
import ClientPlan.Proofs.PathTemplate.Unescape
import ClientPlan.Proofs.PathTemplate.EncodedForm
import ClientPlan.Proofs.OpenApi.Resolution
import ClientPlan.Proofs.OpenApi.Unions
import ClientPlan.Proofs.OpenApi.References
import ClientPlan.Proofs.Outline.Inlining
import ClientPlan.Proofs.OpenApi.TypeForm
import ClientPlan.Proofs.OpenApi.Walk
import ClientPlan.Proofs.Outline.ModelImports
import ClientPlan.Proofs.Plan.ApiImports
import ClientPlan.Proofs.Plan.MethodNames
import ClientPlan.Proofs.Text.LowerCase
import ClientPlan.Proofs.Name.Hyphens
import ClientPlan.Proofs.Name.Tag
import ClientPlan.Proofs.Name.SynthesizedId
import ClientPlan.Proofs.Code.StringLiteral
import ClientPlan.Proofs.Code.Token
import ClientPlan.Proofs.Code.DeclarationReading
import ClientPlan.Proofs.Code.DeclarationText
import ClientPlan.Proofs.Code.TypeText
import ClientPlan.Proofs.Plan.ModelTexts
import ClientPlan.Proofs.OpenApi.Wrapper
import ClientPlan.Proofs.Overwriting
import ClientPlan.Proofs.Options
import ClientPlan.Proofs.TagUsage.Reordering
import ClientPlan.Proofs.Plan.WrittenFiles
import ClientPlan.Proofs.Plan.Search
import ClientPlan.Proofs.Json.Nesting
import ClientPlan.Proofs.PathTemplate.OnePass
import ClientPlan.Proofs.OpenApi.Edit
import ClientPlan.Proofs.Source.JsonReading
import ClientPlan.Proofs.OpenApi.Overlooked
import ClientPlan.Proofs.OpenApi.Extensions
import ClientPlan.Proofs.OpenApi.MapOrder
