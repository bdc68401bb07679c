import SimpleDoip.Lib.Framing
import SimpleDoip.Lib.Transition
import SimpleDoip.Lib.Mailbox
import SimpleDoip.Lib.Relational
import SimpleDoip.Lib.Reader
import SimpleDoip.Lib.Reflection
import SimpleDoip.Lib.Counter
import SimpleDoip.Lib.Channel
import SimpleDoip.Wire
import SimpleDoip.Messages.Codes
import SimpleDoip.Messages.Header
import SimpleDoip.Messages.Bodies
import SimpleDoip.Messages.Payload
import SimpleDoip.Messages.Message
import SimpleDoip.Messages.RoundTrip
import SimpleDoip.Messages.Reencode
import SimpleDoip.Messages.Grammar
import SimpleDoip.Framer
import SimpleDoip.MessageCodec
import SimpleDoip.Messages.Encoding
import SimpleDoip.Framed
import SimpleDoip.Entity.Model
import SimpleDoip.Entity.Frames
import SimpleDoip.Entity.Reassembly
import SimpleDoip.Entity.Chunking
import SimpleDoip.Entity.Capacity
import SimpleDoip.Entity.Datagrams
import SimpleDoip.Entity.Gate
import SimpleDoip.Entity.Service
import SimpleDoip.Framer.Usize
import SimpleDoip.Entity.Isolation
import SimpleDoip.Entity.Replies
import SimpleDoip.Client.Inner
import SimpleDoip.Client.Turn
import SimpleDoip.Client.World
import SimpleDoip.Client.Requests
import SimpleDoip.Client.Cancellation
import SimpleDoip.Client.Freshness
import SimpleDoip.Client.Updates
import SimpleDoip.Client.Responses
import SimpleDoip.Client.SessionCounter
import SimpleDoip.Client.AliveCheck
import SimpleDoip.Client.Binding
import SimpleDoip.Client.SilentPeer
import SimpleDoip.Client.Activation
import SimpleDoip.Client.Deadlines
import SimpleDoip.Server.Model
import SimpleDoip.Server.Gate
import SimpleDoip.Server.Attribution
import SimpleDoip.Server.Responder
import SimpleDoip.Server.Stream
import SimpleDoip.Acceptance
import SimpleDoip.Discovery
import SimpleDoip.Session.Transport
import SimpleDoip.Session.Rejection
import SimpleDoip.Session.Network
import SimpleDoip.Session.ClientSide
import SimpleDoip.Session.LongSession
import SimpleDoip.Session.EntitySide
import SimpleDoip.Session.InFlight
import SimpleDoip.Session.Phases
import SimpleDoip.Session.Agreement
import SimpleDoip.Session.Acknowledged
import SimpleDoip.Session.SocketTask
import SimpleDoip.Session.SocketProgress
import SimpleDoip.Session.Stack
import SimpleDoip.Session.Deadlock
import SimpleDoip.Session.Progress
import SimpleDoip.Session.Serving
import SimpleDoip.Client.Facade
import SimpleDoip.Client.Calls
import SimpleDoip.Session.Interface
import SimpleDoip.Session.Completion
import SimpleDoip.Lib.Pacing
import SimpleDoip.Server.AcceptLoop
import SimpleDoip.Server.Running
import SimpleDoip.Session.Conversation
import SimpleDoip.Identification
import SimpleDoip.Session.Inactivity
