import BenchBoard.Main
import BenchBoard.File.Script
import BenchBoard.Proofs.Catalogue.Coherence
import BenchBoard.Proofs.Report.Agreement
import BenchBoard.Proofs.Catalogue.Transparency
import BenchBoard.Proofs.Csv.RoundTrip
import BenchBoard.Proofs.Results.Tables
import BenchBoard.Results.Codec
import BenchBoard.Samples.Descriptions
import BenchBoard.Samples.Files
import BenchBoard.Proofs.Series.Aggregation
import BenchBoard.Proofs.Catalogue.Automaton
import BenchBoard.Proofs.Csv.Writable
import BenchBoard.Proofs.Series.Provenance
import BenchBoard.Proofs.Report.Inspection
import BenchBoard.Proofs.Results.CutOff
import BenchBoard.Proofs.Decimal.Digits
import BenchBoard.Proofs.Loader.FileSize
import BenchBoard.Proofs.Catalogue.Alignment
import BenchBoard.Proofs.Samples.Rows
import BenchBoard.Proofs.Samples.ReadBack
import BenchBoard.Proofs.Json.Layout
import BenchBoard.Proofs.Json.Decoding
import BenchBoard.Proofs.Json.Stored
import BenchBoard.Proofs.Results.FirstLines
import BenchBoard.Proofs.Results.Layout
import BenchBoard.Proofs.Comparison.Speedups
import BenchBoard.Proofs.Report.FullResults
import BenchBoard.Proofs.Catalogue.Validation
import BenchBoard.Proofs.Catalogue.Resuming
import BenchBoard.Proofs.Report.Blocks
import BenchBoard.Proofs.Catalogue.BaselineColumn
import BenchBoard.Proofs.Csv.Quoting
import BenchBoard.Proofs.Report.ComparisonSheet
import BenchBoard.Proofs.Sheet.AlignedText
