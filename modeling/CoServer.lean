import CoServer.Lib.Run
import CoServer.Lib.Simulation
import CoServer.Lib.Reader
import CoServer.Lib.CString
import CoServer.Lib.SmoothRoundRobin
import CoServer.Base.Common
import CoServer.Base.ConfigLayout
import CoServer.Base.ConfigParser
import CoServer.Base.Buffer
import CoServer.Base.BufferQueue
import CoServer.Base.BufferGrowth
import CoServer.Base.ConfigTokens
import CoServer.Base.Config
import CoServer.Base.ConfigNumbers
import CoServer.Base.ConfigSettings
import CoServer.Base.Socket
import CoServer.Base.Spinlock
import CoServer.Protocol.Tcp
import CoServer.Protocol.TcpFraming
import CoServer.Protocol.Http
import CoServer.Protocol.HttpServer
import CoServer.Protocol.HttpStartline
import CoServer.Protocol.HttpClient
import CoServer.Protocol.HttpReader
import CoServer.Protocol.HttpDecode
import CoServer.Protocol.HttpReceiver
import CoServer.Protocol.HttpRun
import CoServer.Protocol.HttpChunked
import CoServer.Protocol.ChunkSizes
import CoServer.Protocol.HttpLength
import CoServer.Protocol.HttpMessage
import CoServer.Protocol.HttpFraming
import CoServer.Protocol.HttpSegmentation
import CoServer.Protocol.HttpEncode
import CoServer.Protocol.HttpRoundTrip
import CoServer.Protocol.HttpEmission
import CoServer.Protocol.HttpHeadLimit
import CoServer.Protocol.HttpPieces
import CoServer.Upstream.Backend
import CoServer.Upstream.BackendHealth
import CoServer.Upstream.WeightedRoundRobin
import CoServer.Upstream.Selection
import CoServer.Core.Connection
import CoServer.Core.Request
import CoServer.Core.Cycle
import CoServer.Core.Epoll
import CoServer.Core.EpollMask
import CoServer.Core.ConnectionPool
import CoServer.Core.PoolInvariant
import CoServer.Core.PoolRuns
import CoServer.Core.CallbackRequest
import CoServer.Core.ServerControl
import CoServer.Core.ResumeAsync
import CoServer.Core.ResumeLock
import CoServer.Core.Single
import CoServer.Upstream.Upstream
import CoServer.Core.CallbackEvent
import CoServer.Core.Dispatcher
import CoServer.Core.ThirdSocket
import CoServer.Core.ThirdWait
import CoServer.Core.CurConnection
import CoServer.Core.BlockWaits
import CoServer.Core.Attribution
import CoServer.Core.Timer
import CoServer.Core.EventLoop
import CoServer.Upstream.CallbackUpstream
import CoServer.Upstream.Attempt
import CoServer.Upstream.UserCode
import CoServer.Upstream.UserOwned
import CoServer.Upstream.UserSocket
import CoServer.Upstream.Lives
import CoServer.Upstream.Stale
import CoServer.Upstream.Accounting
import CoServer.Upstream.Frames
import CoServer.Upstream.RequestRun
import CoServer.Upstream.RequestInvariant
import CoServer.Upstream.AddUpstream
import CoServer.Upstream.AttemptEnds
import CoServer.Lib.Keyed
import CoServer.Lib.Multimap
import CoServer.Upstream.RequestSteps
import CoServer.Upstream.SubRequests
import CoServer.Upstream.ParentRequest
import CoServer.Upstream.RunUpstreams
import CoServer.Upstream.Sleep
import CoServer.Upstream.TimedLives
import CoServer.Upstream.TimerRuns
import CoServer.Core.AcceptLimit
import CoServer.Core.WorkerThread
import CoServer.Core.WorkerSteps
import CoServer.Core.PoolCapacity
import CoServer.Core.DescriptorLeaks
import CoServer.Core.RequestCycle
import CoServer.Core.KeepAlive
import CoServer.Core.KeptRequests
import CoServer.Core.MessageReads
import CoServer.Core.ResponseStream
import CoServer.Upstream.ResponseRun
import CoServer.Upstream.Responses
import CoServer.Core.Coroutine
import CoServer.Core.SharedStack
import CoServer.Upstream.ExchangeRuns
