import Chat262.Foundation.PartialRun
import Chat262.Foundation.Glob
import Chat262.Server.Wildcard
import Chat262.Server.Matcher
import Chat262.Server.Database
import Chat262.Server.Steps
import Chat262.Server.Sessions
import Chat262.Server.MessageLog
import Chat262.Server.Confidentiality
import Chat262.Server.Handlers
import Chat262.Server.ResponseSize
import Chat262.Server.Scripts
import Chat262.Server.Histories
import Chat262.Server.Search
import Chat262.Server.Credentials
import Chat262.Server.Ownership
import Chat262.Server.Serializable
import Chat262.Foundation.Since
import Chat262.Server.Accounts
import Chat262.Server.Deletions
import Chat262.Foundation.Specification
import Chat262.Server.Board
import Chat262.Server.Rejections
import Chat262.Foundation.Fill
import Chat262.Wire.Requests
import Chat262.Wire.RoundTrip
import Chat262.Wire.Acceptance
import Chat262.Wire.Sockets
import Chat262.Wire.FullTransfer
import Chat262.Server.Connection
import Chat262.Client.Calls
import Chat262.Client.Transparency
import Chat262.Server.SessionEffects
import Chat262.Client.Exchanges
import Chat262.Client.Interface
import Chat262.Client.Listener
import Chat262.Foundation.TerminalLine
import Chat262.Client.ChatScreen
import Chat262.Client.Keyboard
import Chat262.Client.Registration
import Chat262.Client.Agreement
import Chat262.Client.Choices
import Chat262.Foundation.Reordering
import Chat262.Replication.Server
import Chat262.Replication.Steps
import Chat262.Replication.Leaders
import Chat262.Replication.Failover
import Chat262.Replication.Calls
import Chat262.Replication.Interleaving
import Chat262.Replication.LostWrites
import Chat262.Replication.Ordering
import Chat262.Replication.Procedures
import Chat262.Replication.Threads
import Chat262.Replication.UniqueLeader
import Chat262.Replication.Attempts
import Chat262.Replication.LoneServer
import Chat262.Replication.StableReads
import Chat262.Replication.SingleStore
import Chat262.Replication.ExactlyOnce
import Chat262.Replication.Client
import Chat262.Replication.Screens
import Chat262.Replication.Statements
import Chat262.Replication.Schedules
import Chat262.Replication.ConcurrentWrites
import Chat262.Replication.Persistence
import Chat262.Replication.Broadcast
import Chat262.Replication.Restarts
import Chat262.Replication.Takeover
import Chat262.Grpc.Server
import Chat262.Grpc.Persistence
import Chat262.Grpc.Streams
import Chat262.Prompt
import Chat262.Grpc.Client
import Chat262.Grpc.Delivery
