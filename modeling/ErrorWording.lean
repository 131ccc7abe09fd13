import ErrorWording.Main
import ErrorWording.Store.Arrange
import ErrorWording.Character.CharSet
import ErrorWording.Character.Age
import ErrorWording.Character.Break
import ErrorWording.Character.Folding
import ErrorWording.Character.Script
import ErrorWording.Character.Lookup
import ErrorWording.Pattern.Flaw
import ErrorWording.Pattern.Written
import ErrorWording.Pattern.Bracket
import ErrorWording.Pattern.Grammar
import ErrorWording.Pattern.Basic
import ErrorWording.Pattern.Meaning
import ErrorWording.Pattern.Search
import ErrorWording.Proofs.Units
import ErrorWording.Proofs.Encoding
import ErrorWording.Proofs.Occurrence
import ErrorWording.Proofs.Pieces
import ErrorWording.Proofs.Event
import ErrorWording.Proofs.Chunking
import ErrorWording.Proofs.Position
import ErrorWording.Proofs.Room
import ErrorWording.Proofs.Run
import ErrorWording.Proofs.Sum
import ErrorWording.Proofs.Cutoff
import ErrorWording.Proofs.Curtail
import ErrorWording.Proofs.Place
import ErrorWording.Proofs.Offering
import ErrorWording.Proofs.Adding
import ErrorWording.Proofs.Ledger
import ErrorWording.Proofs.Raised
import ErrorWording.Proofs.Relint
import ErrorWording.Proofs.Readback
import ErrorWording.Proofs.ArgumentList
import ErrorWording.Proofs.Intake
import ErrorWording.Proofs.CommandGrammar
import ErrorWording.Proofs.EmptyVariable
import ErrorWording.Proofs.ExitStatus
import ErrorWording.Proofs.LineFeed
import ErrorWording.Proofs.OutputLines
import ErrorWording.Proofs.FirstCall
import ErrorWording.Proofs.WholeLines
import ErrorWording.Proofs.NamedSummary
import ErrorWording.Proofs.LogLevel
import ErrorWording.Proofs.ProgramRun
import ErrorWording.Proofs.LineEndings
import ErrorWording.Proofs.Strays
import ErrorWording.Proofs.Verdict
import ErrorWording.Proofs.CheckedPath
import ErrorWording.Proofs.CountDelivery
import ErrorWording.Proofs.Strictness
import ErrorWording.Proofs.QuotedPieces
import ErrorWording.Proofs.Indentation
import ErrorWording.Proofs.Records
import ErrorWording.Proofs.Counting
import ErrorWording.Proofs.Continuation
