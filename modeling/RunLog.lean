import RunLog.Cursors.Sessions
import RunLog.Main
import RunLog.Sequence.Drain
import RunLog.Sink.Limited
import RunLog.Source.Drain
import RunLog.Source.Either
import RunLog.Source.Observed
import RunLog.Source.Scripted
import RunLog.Source.Stored
import RunLog.Stream.Collect
import RunLog.Proofs.Log
import RunLog.Proofs.Paging
import RunLog.Proofs.Lookahead
import RunLog.Proofs.Skipping
import RunLog.Proofs.Budget
import RunLog.Proofs.Cursors
import RunLog.Proofs.Position
import RunLog.Proofs.Reading
import RunLog.Proofs.Rendering
import RunLog.Proofs.Resuming
import RunLog.Proofs.Room
import RunLog.Proofs.Retrying
import RunLog.Proofs.Viewers
import RunLog.Proofs.Calls
import RunLog.Proofs.Items
import RunLog.Proofs.Volume
import RunLog.Proofs.Windows
import RunLog.Proofs.Runs
import RunLog.Proofs.Ties
import RunLog.Proofs.Following
import RunLog.Proofs.Growing
import RunLog.Proofs.Interrupted
import RunLog.Proofs.Landing
import RunLog.Proofs.TiedResuming
import RunLog.Proofs.Truncated
import RunLog.Proofs.Portions
import RunLog.Proofs.Snapshots
import RunLog.Proofs.Generations
import RunLog.Proofs.SessionCaches
import RunLog.Proofs.JsonText
import RunLog.Proofs.Persistence
import RunLog.Proofs.SessionFiles
import RunLog.Proofs.Marking
import RunLog.Proofs.Endings
import RunLog.Proofs.Progress
import RunLog.Proofs.Forms
import RunLog.Proofs.Endpoints
import RunLog.Proofs.Requests
import RunLog.Proofs.Sinks
import RunLog.Proofs.Copying
import RunLog.Proofs.LifeCycle
import RunLog.Proofs.Decoding
import RunLog.Proofs.Filtering
import RunLog.Proofs.Shapes
import RunLog.Proofs.Answers
import RunLog.Proofs.Merging
import RunLog.Proofs.Quoting
import RunLog.Proofs.Unfinished
import RunLog.Proofs.Damage
import RunLog.Proofs.Surfacing
import RunLog.Proofs.Outages
import RunLog.Proofs.Credentials
import RunLog.Proofs.Timestamps
import RunLog.Proofs.Costs
