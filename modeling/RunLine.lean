import RunLine.Main
import RunLine.Proofs.Text.Cutting
import RunLine.Proofs.Text.Substitution
import RunLine.Proofs.Text.Utf8
import RunLine.Proofs.Json.Strings
import RunLine.Proofs.Json.Encodings
import RunLine.Proofs.Json.Collections
import RunLine.Proofs.Quote.Segments
import RunLine.Proofs.Quote.Entries
import RunLine.Proofs.Quote.Written
import RunLine.Proofs.Quote.RoundTrip
import RunLine.Proofs.Quote.Hiding
import RunLine.Proofs.Quote.Parting
import RunLine.Proofs.Quote.Report
import RunLine.Proofs.Quote.Lines
import RunLine.Proofs.Quote.Matching
import RunLine.Proofs.Pipeline.Edits
import RunLine.Proofs.Pipeline.Positions
import RunLine.Proofs.Pipeline.Frame
import RunLine.Proofs.Pipeline.Reference
import RunLine.Proofs.Pipeline.Independence
import RunLine.Proofs.Pipeline.Heads
import RunLine.Proofs.Pipeline.Commands
import RunLine.Proofs.Pipeline.NullDevice
import RunLine.Proofs.Pipeline.Stability
import RunLine.Proofs.Pipeline.Diagnostics
import RunLine.Proofs.Path.Pieces
import RunLine.Proofs.Path.Ancestors
import RunLine.Proofs.Path.Endings
import RunLine.Proofs.Log.Parts
import RunLine.Proofs.Command.Steps
import RunLine.Proofs.Command.Arrangement
import RunLine.Proofs.Command.Words
import RunLine.Proofs.Settings.Layers
import RunLine.Proofs.Settings.Nearest
import RunLine.Proofs.Search.Candidates
import RunLine.Proofs.Search.Header
import RunLine.Proofs.Files.Growth
import RunLine.Proofs.Files.Additions
import RunLine.Proofs.Files.Places
import RunLine.Proofs.Program.ClassReport
import RunLine.Proofs.Program.Sessions
import RunLine.Proofs.Program.Initialisation
import RunLine.Proofs.Transcript.Lines
import RunLine.Proofs.Transcript.Scripts
import RunLine.Proofs.Transcript.Feeding
