import Collate.Text.Utf8
import Collate.Number.Reading
import Collate.Terminal.Wrap
import Collate.Terminal.Paint
import Collate.Diff.Alignment
import Collate.Diff.Merge
import Collate.Diff.Projection
import Collate.Names.Generated
import Collate.Display.Render
import Collate.Options.Comparison
import Collate.Compare
import Collate.Report
import Collate.Main
import Collate.Storage.Code
import Collate.Journal.Log
import Collate.Proofs.Alignment.CommonSubsequence
import Collate.Proofs.Alignment.Script
import Collate.Proofs.Alignment.Gaps
import Collate.Proofs.Diff.Path
import Collate.Proofs.Merge.Preservation
import Collate.Proofs.Merge.Settled
import Collate.Proofs.Merge.Repeat
import Collate.Proofs.Merge.Alignment
import Collate.Proofs.Merge.Leftovers
import Collate.Proofs.Merge.Position
import Collate.Proofs.Number.Rounding
import Collate.Proofs.Similarity.Blocks
import Collate.Proofs.Similarity.LongestBlock
import Collate.Proofs.Similarity.EditDistance
import Collate.Proofs.Similarity.Edits
import Collate.Proofs.Similarity.Threshold
import Collate.Proofs.Similarity.Shares
import Collate.Proofs.Comparison.Faithful
import Collate.Proofs.Comparison.Recompiled
import Collate.Proofs.Comparison.Colours
import Collate.Proofs.Names.Stretches
import Collate.Proofs.Names.FixedPoint
import Collate.Proofs.Command.Report
import Collate.Proofs.Command.Output
import Collate.Proofs.Terminal.Fitting
import Collate.Proofs.Display.Columns
import Collate.Proofs.Display.Colours
import Collate.Proofs.Text.Utf8
import Collate.Proofs.Comparison.Files
import Collate.Proofs.Alignment.Minimal
import Collate.Proofs.Comparison.Kinds
import Collate.Proofs.Terminal.Cuts
import Collate.Proofs.Merge.Projection
import Collate.Proofs.Display.Sinks
import Collate.Proofs.Comparison.Acceptance
