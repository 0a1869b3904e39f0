import SearchFilter.Compile
import SearchFilter.Config
import SearchFilter.Fields.Form
import SearchFilter.Json.Reader
import SearchFilter.Json.Writer
import SearchFilter.Matching
import SearchFilter.Proofs.AnchorSpellings
import SearchFilter.Proofs.AnchoredLiterals
import SearchFilter.Proofs.Asking
import SearchFilter.Proofs.BodyReading
import SearchFilter.Proofs.Building
import SearchFilter.Proofs.CaseFlags
import SearchFilter.Proofs.ChangedConditions
import SearchFilter.Proofs.Checks
import SearchFilter.Proofs.Collecting
import SearchFilter.Proofs.CompiledTrees
import SearchFilter.Proofs.Contributions
import SearchFilter.Proofs.DeclaredTypes
import SearchFilter.Proofs.Demands
import SearchFilter.Proofs.Easing
import SearchFilter.Proofs.EngineFeatures
import SearchFilter.Proofs.ExchangeForm
import SearchFilter.Proofs.FieldCondition
import SearchFilter.Proofs.Gates
import SearchFilter.Proofs.Leaves
import SearchFilter.Proofs.LikeExpressions
import SearchFilter.Proofs.Listing
import SearchFilter.Proofs.Meaning
import SearchFilter.Proofs.Mirroring
import SearchFilter.Proofs.Negation
import SearchFilter.Proofs.NestingLimit
import SearchFilter.Proofs.NullsInBodies
import SearchFilter.Proofs.OperandMeaning
import SearchFilter.Proofs.OperatorMeaning
import SearchFilter.Proofs.OperatorOrder
import SearchFilter.Proofs.Outcomes
import SearchFilter.Proofs.Outline
import SearchFilter.Proofs.PairedBounds
import SearchFilter.Proofs.PlaceTests
import SearchFilter.Proofs.Regex.Anchoring
import SearchFilter.Proofs.Regex.Brackets
import SearchFilter.Proofs.Regex.Continuation
import SearchFilter.Proofs.Regex.Embedding
import SearchFilter.Proofs.Regex.Framing
import SearchFilter.Proofs.Regex.Items
import SearchFilter.Proofs.Regex.Language
import SearchFilter.Proofs.Regex.Runs
import SearchFilter.Proofs.Regex.Tokens
import SearchFilter.Proofs.Rendering
import SearchFilter.Proofs.ResolvedLeaves
import SearchFilter.Proofs.Rewriting
import SearchFilter.Proofs.Selection
import SearchFilter.Proofs.SiblingOrder
import SearchFilter.Proofs.SpecificationMeaning
import SearchFilter.Proofs.Spelling
import SearchFilter.Proofs.Steps
import SearchFilter.Proofs.StrayNames
import SearchFilter.Proofs.TopLevel
import SearchFilter.Proofs.ValueOrder
import SearchFilter.Proofs.WellFormedTests
import SearchFilter.Spec.Ingest
import SearchFilter.Proofs.LikePatterns
import SearchFilter.Proofs.NearestNumbers
import SearchFilter.Proofs.NumericComparison
import SearchFilter.Proofs.AnchoredPatterns
import SearchFilter.Proofs.LiteralOrder
import SearchFilter.Proofs.Interchange
import SearchFilter.Proofs.DocumentPlaces
import SearchFilter.Proofs.RangeSpellings
import SearchFilter.Proofs.PlaceForms
import SearchFilter.Proofs.PlaceSpellings
import SearchFilter.Proofs.ShapeLeaves
import SearchFilter.Proofs.ShapeReturn
import SearchFilter.Proofs.Flattening
import SearchFilter.Proofs.DocumentGrammar
import SearchFilter.Proofs.ShapeEntries
import SearchFilter.Proofs.CircleBodies
import SearchFilter.Proofs.BoundPlacement
import SearchFilter.Proofs.TreeHeight
import SearchFilter.Proofs.PaddedTexts
import SearchFilter.Proofs.VersionTexts
import SearchFilter.Proofs.Rounding
import SearchFilter.Proofs.ShortestDecimals
import SearchFilter.Proofs.DistanceTexts
import SearchFilter.Proofs.KeyOccurrences
