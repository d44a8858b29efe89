import StyleCheck.Token.Walk
import StyleCheck.Text.Cursor
import StyleCheck.Text.Alphanumeric
import StyleCheck.Text.DecimalDigit
import StyleCheck.Text.Lowercase
import StyleCheck.Value.Lexer
import StyleCheck.Affix
import StyleCheck.Style.Definitions
import StyleCheck.Style.Source
import StyleCheck.Document.Store
import StyleCheck.Settings.ConfigValue
import StyleCheck.Settings.Package
import StyleCheck.Settings.Json
import StyleCheck.Settings.Toml
import StyleCheck.Settings.Resolver
import StyleCheck.Main
import StyleCheck.Proofs.Text.Places
import StyleCheck.Proofs.Text.Reads
import StyleCheck.Proofs.Text.Parentheses
import StyleCheck.Proofs.Text.Sparse
import StyleCheck.Proofs.Token.Tree
import StyleCheck.Proofs.Token.Stream
import StyleCheck.Proofs.Value.Lexeme
import StyleCheck.Proofs.Value.Tokens
import StyleCheck.Proofs.Value.Locality
import StyleCheck.Proofs.StateKey.Body
import StyleCheck.Proofs.StateKey.Tokens
import StyleCheck.Proofs.OrderedMap
import StyleCheck.Proofs.Files.Path
import StyleCheck.Proofs.Settings.Chain
import StyleCheck.Proofs.Settings.Reading
import StyleCheck.Proofs.Settings.Resolver
import StyleCheck.Proofs.Document.History
import StyleCheck.Proofs.Document.Publishing
import StyleCheck.Proofs.Files.Place
import StyleCheck.Proofs.Settings.Determinacy
import StyleCheck.Proofs.Settings.Session
import StyleCheck.Proofs.Settings.Mending
import StyleCheck.Proofs.Settings.Broken
import StyleCheck.Proofs.Alike
import StyleCheck.Proofs.Style.Reordering
import StyleCheck.Proofs.Text.Order
import StyleCheck.Proofs.Check.Names
import StyleCheck.Proofs.Diagnostic.Report
import StyleCheck.Proofs.Check.Plain
import StyleCheck.Proofs.Document.Reordering
import StyleCheck.Proofs.Text.Span
import StyleCheck.Proofs.Style.Paths
import StyleCheck.Proofs.Style.Sites
import StyleCheck.Proofs.Check.Finds
import StyleCheck.Proofs.Check.Walk
import StyleCheck.Proofs.Check.Verdict
import StyleCheck.Proofs.Document.Total
import StyleCheck.Proofs.Document.Unknown
import StyleCheck.Proofs.Settings.Merging
import StyleCheck.Proofs.Check.Keys
import StyleCheck.Proofs.Document.OwnStates
import StyleCheck.Proofs.Style.Source
import StyleCheck.Proofs.Check.Brackets
import StyleCheck.Proofs.Check.Offending
import StyleCheck.Proofs.Document.Offending
import StyleCheck.Proofs.StateKey.Nesting
import StyleCheck.Proofs.Value.Lexicon
import StyleCheck.Proofs.Check.Lookup
import StyleCheck.Proofs.Check.TwoRuns
import StyleCheck.Proofs.Check.Knowledge
import StyleCheck.Proofs.Document.Errors
import StyleCheck.Proofs.StateKey.Aliases
import StyleCheck.Proofs.StateKey.Locality
import StyleCheck.Proofs.Value.Words
import StyleCheck.Proofs.Check.Recipes
import StyleCheck.Proofs.Check.Composition
import StyleCheck.Proofs.EditDistance
import StyleCheck.Proofs.Suggestion
import StyleCheck.Proofs.Check.Suggestions
import StyleCheck.Proofs.Check.Partners
import StyleCheck.Proofs.Value.Calls
import StyleCheck.Proofs.Value.Colors
import StyleCheck.Proofs.Value.Numbers
import StyleCheck.Proofs.Check.Units
import StyleCheck.Proofs.Check.Opacity
import StyleCheck.Proofs.Value.Shapes
import StyleCheck.Proofs.StateKey.Keywords
import StyleCheck.Proofs.Check.States
import StyleCheck.Proofs.Text.Pieces
import StyleCheck.Proofs.Files.Spelling
import StyleCheck.Proofs.Settings.Depth
import StyleCheck.Proofs.Settings.Climbing
import StyleCheck.Proofs.Style.Rendering
import StyleCheck.Proofs.Settings.Documents
import StyleCheck.Proofs.Affix
import StyleCheck.Proofs.Text.Cursor
import StyleCheck.Proofs.Text.Shortest
import StyleCheck.Proofs.Value.Delimiters
