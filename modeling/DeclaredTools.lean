import DeclaredTools.Main
import DeclaredTools.Http.Client
import DeclaredTools.LogLevel
import DeclaredTools.Proofs.Merging.ToolRefs
import DeclaredTools.Proofs.Merging.DeclarationSet
import DeclaredTools.Proofs.Merging.Precedence
import DeclaredTools.Proofs.Loading.Outcome
import DeclaredTools.Proofs.Loading.Fold
import DeclaredTools.Proofs.Schema.Agreement
import DeclaredTools.Proofs.Schema.Returned
import DeclaredTools.Proofs.Validation.Required
import DeclaredTools.Proofs.Validation.Composition
import DeclaredTools.Proofs.Registry.Answers
import DeclaredTools.Proofs.Registry.DeclaredArguments
import DeclaredTools.Proofs.Registry.Snapshot
import DeclaredTools.Proofs.Text.Pieces
import DeclaredTools.Proofs.Merging.WrittenForm
import DeclaredTools.Proofs.Shape.Fallbacks
import DeclaredTools.Proofs.Validation.DeclaredKeys
import DeclaredTools.Proofs.Validation.FixedPoints
import DeclaredTools.Proofs.Schema.EnumKinds
import DeclaredTools.Proofs.Merging.Chain
import DeclaredTools.Proofs.Prompt.Segments
import DeclaredTools.Proofs.Prompt.Substitution
import DeclaredTools.Proofs.Prompt.Passes
import DeclaredTools.Proofs.Prompt.Outline
import DeclaredTools.Proofs.Registry.Resolution
import DeclaredTools.Proofs.Registry.IndependentSources
import DeclaredTools.Proofs.Related
import DeclaredTools.Proofs.Registry.Containment
import DeclaredTools.Proofs.Merging.Malformed
import DeclaredTools.Proofs.Merging.BlankTools
import DeclaredTools.Proofs.Loading.Problems
import DeclaredTools.Proofs.Text.Escapes
import DeclaredTools.Proofs.Text.Utf8
import DeclaredTools.Proofs.Json.Reading
import DeclaredTools.Proofs.CommandLine.Options
import DeclaredTools.Proofs.CommandLine.Check
import DeclaredTools.Proofs.CommandLine.Arguments
import DeclaredTools.Proofs.Http.Target
import DeclaredTools.Proofs.Http.Routes
import DeclaredTools.Proofs.Http.Travelling
import DeclaredTools.Proofs.Http.Addresses
import DeclaredTools.Proofs.Files
import DeclaredTools.Proofs.Loading.SearchPath
import DeclaredTools.Proofs.Shape.Definitions
import DeclaredTools.Proofs.Schema.WireForm
import DeclaredTools.Proofs.Schema.Faithful
