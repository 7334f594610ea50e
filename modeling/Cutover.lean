import Cutover.Proofs.Rollout.CallOrder
import Cutover.Proofs.Rollout.Cancellation
import Cutover.Proofs.Rollout.Gates
import Cutover.Proofs.Rollout.Success
import Cutover.Proofs.Rollout.History
import Cutover.Proofs.Rollout.Sequence
import Cutover.Proofs.Graph.Stable
import Cutover.Proofs.Graph.Validation
import Cutover.Proofs.Text.Match
import Cutover.Proofs.Text.Separator
import Cutover.Main
import Cutover.Graph.Tables
import Cutover.Proofs.Text.Occurrence
import Cutover.Proofs.Text.Count
import Cutover.Proofs.Script.Tables
import Cutover.Proofs.Script.Joining
import Cutover.Proofs.Script.Statements
import Cutover.Proofs.Rollout.Store
import Cutover.Proofs.Script.LetterCase
import Cutover.Proofs.Rollout.Agreement
import Cutover.Proofs.Rollout.Marking
import Cutover.Proofs.Rollout.Independence
import Cutover.Proofs.Rollout.Corruption
import Cutover.Proofs.Corpus.Report
import Cutover.Proofs.Script.Joins
import Cutover.Proofs.Script.Complexity
import Cutover.Proofs.Script.FirstWindow
import Cutover.Proofs.Script.Lineage
import Cutover.Proofs.Graph.Rejection
import Cutover.Proofs.Rollout.Progress
import Cutover.Proofs.Script.Facets
import Cutover.Proofs.Script.Layer
import Cutover.Proofs.Rollout.Naming
import Cutover.Proofs.Corpus.Counting
import Cutover.Proofs.Text.ByteOrder
import Cutover.Proofs.Files.Listing
import Cutover.Proofs.Corpus.Scan
import Cutover.Proofs.Graph.Descent
