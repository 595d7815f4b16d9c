import SpecFinder.Main
import SpecFinder.Number.FixedPlaces
import SpecFinder.Proofs.Query.Reading
import SpecFinder.Proofs.Query.Operands
import SpecFinder.Proofs.Query.Grammar
import SpecFinder.Proofs.Text.CaseTable
import SpecFinder.Proofs.Text.LetterCase
import SpecFinder.Proofs.Match.Presence
import SpecFinder.Proofs.Query.BareWords
import SpecFinder.Proofs.Search.BareWords
import SpecFinder.Proofs.Search.ResultSet
import SpecFinder.Proofs.Query.EmptyOperand
import SpecFinder.Proofs.Query.Printing
import SpecFinder.Proofs.Search.Scores
import SpecFinder.Proofs.Search.Ranking
import SpecFinder.Proofs.Query.EvaluationTurns
import SpecFinder.Proofs.Query.Extents
import SpecFinder.Proofs.Query.UnclosedGroups
import SpecFinder.Proofs.Query.Parts
import SpecFinder.Proofs.Match.Highlighting
import SpecFinder.Proofs.Match.Places
import SpecFinder.Proofs.Query.NestingLimit
import SpecFinder.Proofs.Search.FuzzyWords
import SpecFinder.Proofs.Search.LiteralOccurrence
import SpecFinder.Proofs.Search.FieldOptions
import SpecFinder.Proofs.Settings.Storing
import SpecFinder.Proofs.Query.ReadingTurns
import SpecFinder.Proofs.Library.Loading
import SpecFinder.Proofs.CommandLine.Creation
import SpecFinder.Proofs.Query.Rendering
import SpecFinder.Proofs.Query.OpenQuote
import SpecFinder.Proofs.Match.Coverage
import SpecFinder.Proofs.Match.Snippets
import SpecFinder.Proofs.Match.Separation
import SpecFinder.Proofs.Search.Limits
import SpecFinder.Proofs.Match.ShownScores
import SpecFinder.Proofs.Match.SpecScores
import SpecFinder.Proofs.Match.MatchScores
import SpecFinder.Proofs.Search.DateFilters
import SpecFinder.Proofs.Search.NearWords
import SpecFinder.Proofs.Library.FrontMatter
import SpecFinder.Proofs.Match.Rendering
