import ChatCalculator.Main
import ChatCalculator.Proofs.Text.Blanks
import ChatCalculator.Proofs.Expression.Tree
import ChatCalculator.Proofs.Expression.Execution
import ChatCalculator.Proofs.Expression.Phrase
import ChatCalculator.Proofs.Expression.Sentence
import ChatCalculator.Proofs.Expression.Supply
import ChatCalculator.Proofs.Expression.Context
import ChatCalculator.Proofs.Expression.Neighbours
import ChatCalculator.Proofs.Expression.Recognition
import ChatCalculator.Proofs.Expression.Multiplication
import ChatCalculator.Proofs.Number.Characters
import ChatCalculator.Proofs.Number.Rounding
import ChatCalculator.Proofs.Number.Shortest
import ChatCalculator.Proofs.Number.Bits
import ChatCalculator.Proofs.Number.Opposite
import ChatCalculator.Proofs.Number.Numerals
import ChatCalculator.Proofs.Number.Display
import ChatCalculator.Proofs.Number.StoredForm
import ChatCalculator.Proofs.Number.StoredValue
import ChatCalculator.Proofs.Session.Submission
import ChatCalculator.Proofs.Session.History
import ChatCalculator.Proofs.Session.Shown
import ChatCalculator.Proofs.Session.Replay
import ChatCalculator.Proofs.Document.Strings
import ChatCalculator.Proofs.Document.RoundTrip
import ChatCalculator.Proofs.Files.Directory
import ChatCalculator.Proofs.Files.Making
import ChatCalculator.Proofs.Archive.Record
import ChatCalculator.Proofs.Archive.Storage
import ChatCalculator.Proofs.Archive.Loading
import ChatCalculator.Proofs.Archive.Failure
import ChatCalculator.Proofs.Notebook.Entering
import ChatCalculator.Proofs.FullScreen.Turns
import ChatCalculator.Proofs.Prompt.Keys
import ChatCalculator.Proofs.Notebook.Keeping
import ChatCalculator.Proofs.FullScreen.Words
import ChatCalculator.Proofs.FullScreen.Bounds
import ChatCalculator.Proofs.Editing.Gap
import ChatCalculator.Proofs.Editing.Agreement
import ChatCalculator.Proofs.Expression.Formula
import ChatCalculator.Proofs.Expression.Nested
import ChatCalculator.Proofs.Expression.Continuation
import ChatCalculator.Proofs.Number.Error
import ChatCalculator.Proofs.Number.StoredError
import ChatCalculator.Proofs.Number.StoredExact
import ChatCalculator.Proofs.Archive.Results
import ChatCalculator.Proofs.Expression.Steps
import ChatCalculator.Proofs.Expression.Leaves
import ChatCalculator.Proofs.Expression.Negation
import ChatCalculator.Proofs.Expression.Joining
import ChatCalculator.Proofs.Session.Details
import ChatCalculator.Proofs.Expression.Group
import ChatCalculator.Proofs.Expression.Balance
import ChatCalculator.Proofs.Expression.Layout
import ChatCalculator.Proofs.Expression.NormalForm
import ChatCalculator.Proofs.Expression.Frame
import ChatCalculator.Proofs.Expression.Evenness
import ChatCalculator.Proofs.Number.Grid
import ChatCalculator.Proofs.Number.Answer
import ChatCalculator.Proofs.FullScreen.Field
import ChatCalculator.Proofs.Text.Filling
import ChatCalculator.Proofs.FullScreen.WordStarts
import ChatCalculator.Proofs.Prompt.Recalling
import ChatCalculator.Proofs.FullScreen.Highlighting
import ChatCalculator.Proofs.FullScreen.Exchange
import ChatCalculator.Proofs.FullScreen.Modality
import ChatCalculator.Proofs.Expression.Reduction
