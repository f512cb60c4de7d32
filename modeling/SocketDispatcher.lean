import SocketDispatcher.Library.Program
import SocketDispatcher.Library.Evaluation
import SocketDispatcher.Library.Evolution
import SocketDispatcher.Library.Embedding
import SocketDispatcher.Library.Simulation
import SocketDispatcher.Library.StableReordering
import SocketDispatcher.Library.Ledger
import SocketDispatcher.Library.SegmentedStream
import SocketDispatcher.Library.Exchange
import SocketDispatcher.Bytes
import SocketDispatcher.Socket
import SocketDispatcher.SslSocket
import SocketDispatcher.SocketsList
import SocketDispatcher.SocketsList.Refinement
import SocketDispatcher.ApplicationConfig
import SocketDispatcher.ApplicationConfig.CommandLine
import SocketDispatcher.Process
import SocketDispatcher.SocketsPoller
import SocketDispatcher.SocketsPoller.Outcome
import SocketDispatcher.InitSsl
import SocketDispatcher.InitSsl.Histories
import SocketDispatcher.SocketUtils
import SocketDispatcher.ReceivedTcpSocketFactory
import SocketDispatcher.ReceivedTcpSocketFactory.ScanReads
import SocketDispatcher.ReceivedTcpSocketFactory.Receiving
import SocketDispatcher.ReceivedTcpSocketFactory.PassedDescriptor
import SocketDispatcher.ListenerSocketFactories
import SocketDispatcher.UnixSocketFactory
import SocketDispatcher.Files
import SocketDispatcher.Frame
import SocketDispatcher.Tidy
import SocketDispatcher.Inventory
import SocketDispatcher.Mydisp
import SocketDispatcher.Mydisp.Shape
import SocketDispatcher.Mydisp.Rules
import SocketDispatcher.Mydisp.Parsing
import SocketDispatcher.Mydisp.StaleBytes
import SocketDispatcher.Mydisp.Reception
import SocketDispatcher.Mydisp.DroppedClients
import SocketDispatcher.Mydisp.Greeting
import SocketDispatcher.Mydisp.Ownership
import SocketDispatcher.Mydisp.Lifecycle
import SocketDispatcher.Mydisp.Conduct
import SocketDispatcher.Mydisp.Service
import SocketDispatcher.Mylsnr
import SocketDispatcher.Mydisp.Link
import SocketDispatcher.Mydisp.Messages
import SocketDispatcher.Mydisp.Progress
import SocketDispatcher.Mydisp.Agreement
import SocketDispatcher.Mydisp.Replies
import SocketDispatcher.Mydisp.RoundTrip
import SocketDispatcher.Mydisp.Buffers
import SocketDispatcher.Mylsnr.Shape
import SocketDispatcher.Mylsnr.Rules
import SocketDispatcher.Mylsnr.DeadTargets
import SocketDispatcher.Mylsnr.Descriptors
import SocketDispatcher.Mylsnr.OneDispatcher
import SocketDispatcher.Mylsnr.Supervision
import SocketDispatcher.Mylsnr.WellFormed
import SocketDispatcher.Mylsnr.MainProcess
import SocketDispatcher.Mylsnr.Holdings
import SocketDispatcher.Mylsnr.Lifecycle
import SocketDispatcher.Evolution
import SocketDispatcher.SocketsList.Saturation
import SocketDispatcher.InitSsl.Lifetime
import SocketDispatcher.Mylsnr.Certificates
import SocketDispatcher.Mylsnr.Connections
import SocketDispatcher.Mylsnr.Conduct
import SocketDispatcher.Delivery
import SocketDispatcher.Myclnt
import SocketDispatcher.Myclnt.Confidentiality
import SocketDispatcher.Myclnt.Resources
import SocketDispatcher.Myclnt.Dialogue
import SocketDispatcher.Myclnt.Clients
