import GoMocks.Main
import GoMocks.Proofs.Generation.Declarations
import GoMocks.Proofs.Generation.Isolation
import GoMocks.Proofs.Generation.Regeneration
import GoMocks.Proofs.ImportTable.Runs
import GoMocks.Proofs.Loading.History
import GoMocks.Proofs.MethodSet.Instances
import GoMocks.Proofs.MethodSet.Listing
import GoMocks.Proofs.MockFile.Collisions
import GoMocks.Proofs.MockFile.Imports
import GoMocks.Proofs.MockFile.Parameters
import GoMocks.Proofs.MockFile.Qualifiers
import GoMocks.Proofs.MockFile.Rendering
import GoMocks.Proofs.MockFile.Signatures
import GoMocks.Proofs.Resolver.Exported
import GoMocks.Proofs.Resolver.Runs
import GoMocks.Proofs.Resolver.Unambiguous
import GoMocks.Proofs.GoSource.ExpressionRules
import GoMocks.Proofs.GoSource.RoundTrip
import GoMocks.Proofs.Loading.Ownership
import GoMocks.Proofs.Resolver.ZeroValues
import GoMocks.Proofs.Definition.Chain
import GoMocks.Proofs.Publish.AllOrNothing
import GoMocks.Proofs.Pattern.Order
import GoMocks.Proofs.Scope.Imports
import GoMocks.Proofs.GoSource.Layout
import GoMocks.Proofs.GoSource.Lines
import GoMocks.Proofs.GoSource.TypeBlock
import GoMocks.Proofs.GoType.Rows
import GoMocks.Proofs.ModuleFile.Packages
import GoMocks.Proofs.MockFile.Header
import GoMocks.Proofs.MockFile.TypeBlocks
import GoMocks.Proofs.MockFile.TypeSets
import GoMocks.Proofs.ModuleFile.Reading
import GoMocks.Proofs.Generation.OutputPaths
import GoMocks.Proofs.GoType.Composition
import GoMocks.Proofs.ModuleFile.LongestMatch
import GoMocks.Proofs.GoSource.FunctionRules
import GoMocks.Proofs.MockFile.Functions
