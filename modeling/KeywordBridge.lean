import KeywordBridge.Editor.Registration
import KeywordBridge.Files.Discovery
import KeywordBridge.Main
import KeywordBridge.Proofs.Session.Freshness
import KeywordBridge.Proofs.Token.Quotes
import KeywordBridge.Proofs.Token.Steps
import KeywordBridge.Proofs.Translation.RoundTrip
import KeywordBridge.Session.Script
import KeywordBridge.Text.Shortened
import KeywordBridge.Web.Service
import KeywordBridge.Proofs.Token.QuoteAgreement
import KeywordBridge.Proofs.Token.Recognition
import KeywordBridge.Proofs.Token.Columns
import KeywordBridge.Proofs.Diagnostic.BrokenStrings
import KeywordBridge.Proofs.Diagnostic.ReversedPrograms
import KeywordBridge.Proofs.Token.KeywordTokens
import KeywordBridge.Proofs.Translation.TokenAgreement
import KeywordBridge.Proofs.Translation.RunImages
import KeywordBridge.Proofs.Token.Lossless
import KeywordBridge.Proofs.Diagnostic.Composition
import KeywordBridge.Proofs.Translation.LexicalStructure
import KeywordBridge.Proofs.Session.Debounce
import KeywordBridge.Proofs.Suggestion.Context
import KeywordBridge.Proofs.Diagnostic.Advice
import KeywordBridge.Proofs.Session.Closing
import KeywordBridge.Proofs.Diagnostic.Placement
import KeywordBridge.Proofs.Program.DefinitionLines
import KeywordBridge.Proofs.Text.LineEnds
import KeywordBridge.Proofs.Translation.Dominance
import KeywordBridge.Proofs.Program.LineEnds
import KeywordBridge.Proofs.Translation.Detection
import KeywordBridge.Proofs.Translation.LineByLine
import KeywordBridge.Proofs.Session.Coalescing
import KeywordBridge.Proofs.Diagnostic.ColonInsertion
import KeywordBridge.Proofs.Diagnostic.MissingIndentation
import KeywordBridge.Proofs.Token.CodeCharacters
import KeywordBridge.Proofs.Diagnostic.CodeReports
import KeywordBridge.Proofs.Token.AlikeReading
import KeywordBridge.Proofs.Token.CodeRuns
import KeywordBridge.Proofs.Token.AlikeTokens
import KeywordBridge.Proofs.Diagnostic.AlikePrograms
import KeywordBridge.Proofs.Diagnostic.Comments
import KeywordBridge.Proofs.Diagnostic.StringContents
import KeywordBridge.Proofs.Suggestion.Narrowing
import KeywordBridge.Proofs.Token.IndentedLines
import KeywordBridge.Proofs.Diagnostic.IndentedPrograms
import KeywordBridge.Proofs.Keyword.Construction
import KeywordBridge.Proofs.Keyword.LongestReading
import KeywordBridge.Proofs.Translation.LongestMatch
import KeywordBridge.Proofs.Translation.IdentifierRuns
import KeywordBridge.Proofs.Program.DeeperLines
import KeywordBridge.Proofs.Files.Tree
import KeywordBridge.Proofs.Files.Discovery
import KeywordBridge.Proofs.Text.Lowercase
import KeywordBridge.Proofs.Files.Path
import KeywordBridge.Proofs.Files.Loading
import KeywordBridge.Proofs.Web.Answers
import KeywordBridge.Proofs.Text.Shortened
