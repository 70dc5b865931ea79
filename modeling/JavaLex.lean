import JavaLex.Batch.Basic
import JavaLex.CommandLine.Run
import JavaLex.Diagnostics.Session
import JavaLex.Files.SourceFile
import JavaLex.Lexicon.TextBlock
import JavaLex.Listing.Basic
import JavaLex.Main
import JavaLex.Proofs.Scanner.Composition
import JavaLex.Proofs.Scanner.Layout
import JavaLex.Scan.Scanner
import JavaLex.Settings.SettingsFile
import JavaLex.Source.LineIndex
import JavaLex.Tally
import JavaLex.Token
import JavaLex.Proofs.Diagnostics.Recording
import JavaLex.Proofs.Diagnostics.Quoting
import JavaLex.Proofs.Scanner.Failure
import JavaLex.Proofs.Source.Place
import JavaLex.Proofs.Diagnostics.Telling
import JavaLex.Proofs.Listing.Outcome
import JavaLex.Proofs.Source.Excerpt
import JavaLex.Proofs.Listing.Pointing
import JavaLex.Proofs.Listing.History
import JavaLex.Proofs.Files.Naming
import JavaLex.Proofs.Files.Walking
import JavaLex.Proofs.Batch.Discovery
import JavaLex.Proofs.Batch.Schedule
import JavaLex.Proofs.Batch.Sharing
import JavaLex.Proofs.Listing.Untimed
import JavaLex.Proofs.Batch.Parallel
import JavaLex.Proofs.Batch.Stopping
import JavaLex.Proofs.Diagnostics.Holding
import JavaLex.Proofs.Diagnostics.Interleaving
import JavaLex.Proofs.Scanner.Progress
import JavaLex.Proofs.Listing.Agreement
import JavaLex.Proofs.Lexicon.LineEnd
import JavaLex.Proofs.Lexeme.LineEnd
import JavaLex.Proofs.Scanner.LineEnd
import JavaLex.Proofs.Files.Reordering
import JavaLex.Proofs.Batch.Finding
import JavaLex.Proofs.Batch.Links
import JavaLex.Proofs.Lexeme.Opening
import JavaLex.Proofs.Scanner.Classification
import JavaLex.Proofs.Scanner.Literal
import JavaLex.Proofs.Lexicon.Indentation
import JavaLex.Proofs.Scanner.Number
import JavaLex.Proofs.Scanner.Symbol
import JavaLex.Proofs.Lexicon.Stripping
import JavaLex.Lexicon.Keyword
import JavaLex.Proofs.Lexicon.Keyword
import JavaLex.Proofs.Lexicon.Relayout
import JavaLex.Proofs.Scanner.Word
import JavaLex.Proofs.Source.Search
import JavaLex.Proofs.Source.Lookup
import JavaLex.Proofs.Scanner.Comment
import JavaLex.Proofs.Listing.Tallying
import JavaLex.Proofs.Source.Underline
import JavaLex.Proofs.Source.Lines
import JavaLex.Proofs.Diagnostics.Truncating
import JavaLex.Proofs.Files.Admission
import JavaLex.Proofs.Listing.Dumping
import JavaLex.Proofs.Listing.Marking
import JavaLex.Proofs.Scanner.LineComment
import JavaLex.Proofs.Scanner.Touching
import JavaLex.Proofs.Diagnostics.Sliding
import JavaLex.Proofs.Diagnostics.Installing
import JavaLex.Proofs.Diagnostics.Summing
import JavaLex.Proofs.Text.Boundary
import JavaLex.Proofs.Diagnostics.Bounding
import JavaLex.Proofs.CommandLine.Arguments
