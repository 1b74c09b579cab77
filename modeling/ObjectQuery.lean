import ObjectQuery.Main
import ObjectQuery.Host.FileTree
import ObjectQuery.Bitmap.Bmp
import ObjectQuery.Proofs.Slots
import ObjectQuery.Proofs.Tracking.Lifecycle
import ObjectQuery.Proofs.HistoryLog
import ObjectQuery.Proofs.Stage.Projector
import ObjectQuery.Proofs.Stage.Chain
import ObjectQuery.Proofs.Plan.Compile
import ObjectQuery.Proofs.Plan.Compilable
import ObjectQuery.Proofs.Run.Ground
import ObjectQuery.Proofs.Run.Pipeline
import ObjectQuery.Proofs.Stage.Recall
import ObjectQuery.Proofs.Property.Meaning
import ObjectQuery.Proofs.Run.Deliveries
import ObjectQuery.Proofs.Stage.Reading
import ObjectQuery.Proofs.Run.Written
import ObjectQuery.Proofs.Run.ReadAlike
import ObjectQuery.Proofs.Stage.SideBySide
import ObjectQuery.Proofs.Run.Selection
import ObjectQuery.Proofs.Stage.Reporter
import ObjectQuery.Proofs.Run.Reported
import ObjectQuery.Proofs.Stage.Track
import ObjectQuery.Proofs.Run.Calls
import ObjectQuery.Proofs.Stage.Availability
import ObjectQuery.Proofs.Run.Lives
import ObjectQuery.Proofs.Run.Modes
import ObjectQuery.Proofs.Stage.Stored
import ObjectQuery.Proofs.Plan.Merge
import ObjectQuery.Proofs.Run.Merged
import ObjectQuery.Proofs.Run.Stored
import ObjectQuery.Proofs.Run.Steady
import ObjectQuery.Proofs.Run.Failures
import ObjectQuery.Proofs.Report.ReadBack
import ObjectQuery.Proofs.Tracking.Bands
import ObjectQuery.Proofs.Tracking.LeastCost
import ObjectQuery.Proofs.Plan.LeastOrder
import ObjectQuery.Proofs.HistoryRings
import ObjectQuery.Proofs.Stage.OwnWindow
import ObjectQuery.Proofs.Plan.Referenced
import ObjectQuery.Proofs.Predicate.Knowledge
import ObjectQuery.Proofs.Predicate.Sight
import ObjectQuery.Proofs.Predicate.Comparisons
import ObjectQuery.Proofs.Value.Equality
import ObjectQuery.Proofs.Run.Untouched
import ObjectQuery.Proofs.Tracking.Duplicates
import ObjectQuery.Proofs.Tracking.Discarded
import ObjectQuery.Proofs.Tracking.Survivors
import ObjectQuery.Proofs.Tracking.Overlapping
import ObjectQuery.Proofs.Tracking.Approach
import ObjectQuery.Proofs.Property.Continuing
import ObjectQuery.Proofs.Property.Periods
import ObjectQuery.Proofs.Detector.FrameKeys
import ObjectQuery.Proofs.Detector.Replay
import ObjectQuery.Proofs.Launch.Reread
import ObjectQuery.Proofs.Statistics.Batch
import ObjectQuery.Proofs.Bitmap.Cut
import ObjectQuery.Proofs.Run.Counts
import ObjectQuery.Proofs.Declared
import ObjectQuery.Proofs.Box.Costs
import ObjectQuery.Proofs.Property.Carried
