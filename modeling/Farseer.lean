import Farseer.Lib.Bits
import Farseer.Lib.Decoder
import Farseer.Schema.Parsing
import Farseer.Schema.Accepted
import Farseer.Codec.BinarySerialization
import Farseer.Codec.Refinement
import Farseer.Codec.Value
import Farseer.Codec.RoundTrip
import Farseer.Codec.Header
import Farseer.Codec.Frame
import Farseer.Codec.DeclaredSize
import Farseer.Lib.Framing
import Farseer.Reader.ProtocolReader
import Farseer.Reader.Delivery
import Farseer.Reader.Segmentation
import Farseer.Schema.Identifier
import Farseer.Linux.Kernel
import Farseer.Linux.LinuxSocket
import Farseer.Linux.OutgoingBuffer
import Farseer.Container.History
import Farseer.Linux.SocketContainer
import Farseer.Linux.DescriptorTable
import Farseer.Linux.Lifetime
import Farseer.Linux.Representation
import Farseer.Linux.EventLoop
import Farseer.Linux.Consistency
import Farseer.Linux.EventDelivery
import Farseer.Linux.Rules
import Farseer.Linux.PendingOutput
import Farseer.Linux.TaskDelivery
import Farseer.Reader.Arrivals
import Farseer.Linux.EventThread
import Farseer.Container.CallbackGrammar
import Farseer.Container.HandlerTable
import Farseer.Linux.Roster
import Farseer.Windows.WindowsSocket
import Farseer.Windows.OperationScheduler
import Farseer.Windows.Duties
import Farseer.Windows.Rules
import Farseer.Windows.Consumption
import Farseer.Windows.Roster
import Farseer.Provider.ConnectionCallbacks
import Farseer.Container.Startup
import Farseer.Linux.Startup
import Farseer.Windows.Attended
import Farseer.Windows.Startup
import Farseer.Provider.Startup
import Farseer.Provider.Orphans
import Farseer.Container.Invocation
import Farseer.Provider.Handlers
import Farseer.Lib.FlaggedCounter
import Farseer.Windows.ConcurrentScheduler
import Farseer.Windows.OutstandingOperations
import Farseer.Lib.BottomUp
import Farseer.Schema.Grammar
import Farseer.Schema.Meaning
import Farseer.Schema.Stacks
import Farseer.Schema.Language
import Farseer.Codec.StaticSize
import Farseer.Schema.HashCode
import Farseer.Schema.StaticBits
import Farseer.Reader.Turn
import Farseer.Reader.Resumable
import Farseer.Reader.Pending
import Farseer.Linux.FailedRequest
import Farseer.Provider.Registration
import Farseer.Linux.AcceptLoop
import Farseer.Codec.DecodedSize
import Farseer.Lib.Lexer
import Farseer.Schema.Tokenizer
import Farseer.Schema.Lexemes
import Farseer.Schema.Printing
import Farseer.Provider.RemoteCalls
import Farseer.Schema.WellFormed
import Farseer.Windows.Handling
import Farseer.Windows.Sending
import Farseer.Linux.Receiving
import Farseer.Linux.Isolation
import Farseer.Container.Identifiers
import Farseer.Linux.Identifiers
import Farseer.Windows.Identifiers
import Farseer.Provider.Identifiers
import Farseer.Container.Stream
import Farseer.Linux.Stream
import Farseer.Linux.Transmission
import Farseer.Linux.Conversation
import Farseer.Generator.Compilation
import Farseer.Generator.Meaning
import Farseer.Generator.Registration
import Farseer.Generator.Service
import Farseer.Windows.Stream
import Farseer.Linux.Calls
import Farseer.Provider.Buffers
import Farseer.Codec.Recoding
import Farseer.Provider.Refinement
import Farseer.Reader.Sharing
