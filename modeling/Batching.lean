import Batching.Types
import Batching.InFlight
import Batching.StopCriteria
import Batching.Processor
import Batching.Slots
import Batching.TokenStep
import Batching.Completion
import Batching.Runs
import Batching.Budget
import Batching.Accumulation
import Batching.Channels
import Batching.Stream
import Batching.Backend
import Batching.Loop
import Batching.Calls
import Batching.Sync
import Batching.Drain
import Batching.Growth
import Batching.Reasons
import Batching.Cancel
import Batching.Caller
import Batching.Receiver
import Batching.Errors
import Batching.Report
import Batching.Answered
import Batching.Pacing
import Batching.Liveness
import Batching.Counter
