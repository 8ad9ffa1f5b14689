import Hummingbird.Transition
import Hummingbird.Client.Ring
import Hummingbird.Client.Http
import Hummingbird.Client.Quorum
import Hummingbird.Client.QuorumDispatch
import Hummingbird.Client.QuorumSafety
import Hummingbird.Client.FirstResponse
import Hummingbird.Client.Shuffle
import Hummingbird.Client.ListingUpdate
import Hummingbird.Client.Query
import Hummingbird.Client.WorkerRun
import Hummingbird.Client.StartBarrier
import Hummingbird.Client.QuorumRefinement
import Hummingbird.Client.Quiescence
import Hummingbird.Client.Progress
import Hummingbird.Client.ContainerInfoCache
import Hummingbird.Client.ContainerHead
import Hummingbird.Client.StoragePolicy
import Hummingbird.Middleware.S3Auth
