import Farseer.Windows.SocketContainer

/-! The operations, and the consumer thread that executes them as they complete. The completion
port returns them in any order. Everything that other threads do is to schedule user operations; a
user callback that calls the library does the same. -/

namespace Farseer.Windows

variable {υ : Type}

open SocketContainer

/-- `socketIdentifierSequencer_.generate()`; other threads generate identifiers too. -/
def generateSocketIdentifier : WorldM υ SocketIdentifier := do
  let taken ← onScript
    (draw Script.identifiersTaken (fun identifiersTaken script => { script with identifiersTaken }) 0)
  let w ← get
  let socketIdentifier := (w.nextSocketIdentifier + taken) % 2 ^ 32
  set { w with nextSocketIdentifier := (socketIdentifier + 1) % 2 ^ 32 }
  return socketIdentifier

def noCallback : ConnectionCallback υ := fun _ _ => throw .danglingReference

def newSocket (socket : WindowsSocket) (listeningSocketIdentifier : SocketIdentifier)
    (connectionCallback : ConnectionCallback υ) (pendingAccept : Bool) : Socket υ where
  socket := socket
  protocolReader := ProtocolReader.new
  listeningSocketIdentifier := listeningSocketIdentifier
  connectionCallback := connectionCallback
  inboundBytes := []
  outboundBytes := []
  pendingAccept := pendingAccept
  consecutiveAcceptFailures := 0

namespace AcceptSystemOperation

def postAccept (listeningSocketIdentifier pendingAcceptSocketIdentifier : SocketIdentifier) : WorldM υ Unit := do
  let listeningSocket ← dereference listeningSocketIdentifier
  let windowsSocket ← onScript (listeningSocket.socket.postAccept maximumReceiveBufferSize)
  modify (World.updateSocket pendingAcceptSocketIdentifier fun s => { s with socket := windowsSocket })

def schedule (listeningSocketIdentifier pendingAcceptSocketIdentifier : SocketIdentifier) : WorldM υ Unit := do
  let listeningSocket ← getSocketOrThrow listeningSocketIdentifier
  let _ ← insertSocket pendingAcceptSocketIdentifier (newSocket .empty listeningSocketIdentifier noCallback true)
  Program.scopeFailure (erased pendingAcceptSocketIdentifier)
    (postAccept listeningSocket pendingAcceptSocketIdentifier)

end AcceptSystemOperation

def scheduleAcceptSystemOperation (listeningSocketIdentifier : SocketIdentifier) : WorldM υ Unit := do
  let pendingAcceptSocketIdentifier ← generateSocketIdentifier
  AcceptSystemOperation.schedule listeningSocketIdentifier pendingAcceptSocketIdentifier
  modify (World.post (.accept listeningSocketIdentifier pendingAcceptSocketIdentifier))

def postReceive (socketIdentifier : SocketIdentifier) : WorldM υ Unit := do
  let s ← dereference socketIdentifier
  onScript s.socket.postReceive

def postSend (socketIdentifier : SocketIdentifier) : WorldM υ Unit := do
  let s ← dereference socketIdentifier
  onScript s.socket.postSend

def scheduleReceiveSystemOperation (socketIdentifier : SocketIdentifier) : WorldM υ Unit := do
  let socket ← getSocketOrThrow socketIdentifier
  postReceive socket
  modify (World.post (.receive socketIdentifier))

def scheduleSendBytesSystemOperation (socketIdentifier : SocketIdentifier) (bytes : List UInt8) :
    WorldM υ Unit := do
  let socket ← getSocketOrThrow socketIdentifier
  postSend socket
  modify (World.post (.sendOutboundBytes socketIdentifier bytes))

/-! A program returns the operation that has rescheduled itself, if it has. -/

namespace ConnectUserOperation

/-- The execution that posts. -/
def execute (socketIdentifier : SocketIdentifier) (ipAddress : String) (port : ℕ)
    (connectionCallback : ConnectionCallback υ) : WorldM υ (Option (Operation υ)) := do
  let windowsSocket ← onScript WindowsSocket.create
  let socket ← insertSocket socketIdentifier
    (newSocket windowsSocket invalidSocketIdentifier connectionCallback false)
  Program.scopeFailure (erased socketIdentifier)
    (onWindowsSocket socket (WindowsSocket.postConnect ipAddress port))
  return some (.connect socketIdentifier ipAddress port connectionCallback true)

def executePending (socketIdentifier : SocketIdentifier) : WorldM υ (Option (Operation υ)) := do
  let socket ← getSocketOrThrow socketIdentifier
  let s ← dereference socket
  onScript s.socket.connect
  notify socket .clientOpen socketIdentifier
  scheduleReceiveSystemOperation socketIdentifier
  return none

end ConnectUserOperation

namespace ListenUserOperation

def createListeningSocket (ipAddress : String) (port : ℕ) : ScriptM WindowsSocket := do
  let tempSocket ← WindowsSocket.create
  fun script =>
    match WindowsSocket.listen ipAddress port (tempSocket, script) with
    | .ok () (windowsSocket, script) => .ok windowsSocket script
    | .error e (_, script) => .error e script

def opened (socketIdentifier : SocketIdentifier) : WorldM υ Unit := do
  scheduleAcceptSystemOperation socketIdentifier
  notify socketIdentifier .serverOpen socketIdentifier

def execute (socketIdentifier : SocketIdentifier) (ipAddress : String) (port : ℕ)
    (connectionCallback : ConnectionCallback υ) : WorldM υ (Option (Operation υ)) := do
  let windowsSocket ← onScript (createListeningSocket ipAddress port)
  let socket ← insertSocket socketIdentifier
    (newSocket windowsSocket invalidSocketIdentifier connectionCallback false)
  Program.scopeFailure (erased socketIdentifier) (opened socket)
  return none

end ListenUserOperation

namespace AcceptSystemOperation

def maximumConsecutiveAcceptFailures : ℕ := 16

def accepted (listeningSocket acceptedSocket : SocketIdentifier) : WorldM υ (Option (Operation υ)) := do
  modify fun w => { w with acceptRescheduled := true }
  scheduleReceiveSystemOperation acceptedSocket
  modify (World.updateSocket acceptedSocket fun s => { s with pendingAccept := false })
  notify listeningSocket .clientOpen acceptedSocket
  return none

def execute (listeningSocketIdentifier pendingAcceptSocketIdentifier : SocketIdentifier) :
    WorldM υ (Option (Operation υ)) := do
  let acceptedSocket ← getSocketOrThrow pendingAcceptSocketIdentifier
  let listeningSocket ← getSocketOrThrow listeningSocketIdentifier
  let l ← dereference listeningSocket
  onWindowsSocket acceptedSocket (WindowsSocket.accept l.socket)
  modify (World.updateSocket listeningSocket fun s => { s with consecutiveAcceptFailures := 0 })
  scheduleAcceptSystemOperation listeningSocketIdentifier
  accepted listeningSocket acceptedSocket

/-- The listening socket posts another accept, or is erased. -/
def reschedule (listeningSocketIdentifier : SocketIdentifier) : WorldM υ Unit :=
  Program.scopeFailure (erased listeningSocketIdentifier) (scheduleAcceptSystemOperation listeningSocketIdentifier)

/-- A failure that is not counted to a client. -/
def countFailure (listeningSocketIdentifier : SocketIdentifier) : WorldM υ Unit := do
  let listeningSocket ← getSocketOrThrow listeningSocketIdentifier
  modify (World.updateSocket listeningSocket fun s =>
    { s with consecutiveAcceptFailures := s.consecutiveAcceptFailures + 1 })
  let l ← dereference listeningSocket
  if maximumConsecutiveAcceptFailures ≤ l.consecutiveAcceptFailures then eraseSocket listeningSocketIdentifier
  else reschedule listeningSocketIdentifier

/-- `ERROR_NETNAME_DELETED`, `ERROR_CONNECTION_ABORTED`, `WSAECONNRESET`, `WSAECONNABORTED`,
`WSAENOTCONN` and `WSAESHUTDOWN`. -/
def isClientError (errorCode : ℕ) : Bool := [64, 1236, 10054, 10053, 10057, 10058].contains errorCode

def onFailure (listeningSocketIdentifier pendingAcceptSocketIdentifier : SocketIdentifier)
    (errorCode : Option ℕ) : WorldM υ Unit := do
  eraseSocket pendingAcceptSocketIdentifier
  let w ← get
  if w.acceptRescheduled || !w.sockets.contains listeningSocketIdentifier then pure ()
  else if errorCode.any isClientError then reschedule listeningSocketIdentifier
  else countFailure listeningSocketIdentifier

end AcceptSystemOperation

/-- The second execution of a `SendBytesUserOperation`, and the execution of a
`SendBytesSystemOperation`: the lengths are compared as `DWORD`s. -/
def bytesSent (numberOfBytesTransferred : ℕ) (bytes : List UInt8) : WorldM υ (Option (Operation υ)) :=
  if numberOfBytesTransferred = bytes.length % 2 ^ 32 then return none
  else throw (.logicError ("The number of bytes sent " ++ toString numberOfBytesTransferred ++
    " does not match the buffer size " ++ toString bytes.length))

section Executing

variable [Ballotin] (registry : ProtocolRegistry)

namespace ReceiveSystemOperation

def scheduleOutboundBytes (socketIdentifier : SocketIdentifier) : WorldM υ Unit := do
  let s ← dereference socketIdentifier
  if s.outboundBytes.isEmpty then pure ()
  else do
    modify (World.updateSocket socketIdentifier fun s => { s with outboundBytes := [] })
    scheduleSendBytesSystemOperation socketIdentifier s.outboundBytes

def received (socketIdentifier : SocketIdentifier) (bytes : List UInt8) : WorldM υ (Option (Operation υ)) := do
  let socket ← getSocketOrThrow socketIdentifier
  let s ← dereference socket
  modify (World.updateSocket socket fun s => { s with inboundBytes := s.inboundBytes ++ bytes })
  readWithItsReader registry socket s.listeningSocketIdentifier
  scheduleOutboundBytes socketIdentifier
  postReceive socket
  return some (.receive socketIdentifier)

def execute (socketIdentifier : SocketIdentifier) (bytes : List UInt8) : WorldM υ (Option (Operation υ)) := do
  if bytes.isEmpty then do
    eraseSocket socketIdentifier
    return none
  else if maximumReceiveBufferSize < bytes.length then
    throw (.logicError ("The number of bytes received " ++ toString bytes.length ++
      " exceeds the maximum buffer size " ++ toString maximumReceiveBufferSize))
  else received registry socketIdentifier bytes

end ReceiveSystemOperation

namespace SendRequestUserOperation

def execute (socketIdentifier : SocketIdentifier) (protocolSequenceNumber : ProtocolSequenceNumber)
    (bytes : List UInt8) (responseConsumer : Consumer υ) : WorldM υ (Option (Operation υ)) := do
  let socket ← getSocketOrThrow socketIdentifier
  onProtocolReader socket
    (ProtocolReader.registerInboundOneShotResponseConsumer protocolSequenceNumber responseConsumer)
  modify (World.record (.responseConsumerRegistered socketIdentifier protocolSequenceNumber responseConsumer))
  postSend socket
  return some (.sendRequest socketIdentifier protocolSequenceNumber bytes responseConsumer true)

end SendRequestUserOperation

namespace RegisterMessageConsumerUserOperation

def execute (socketIdentifier : SocketIdentifier) (protocolIdentifier : ProtocolIdentifier)
    (messageConsumer : Consumer υ) : WorldM υ (Option (Operation υ)) := do
  let socket ← getSocketOrThrow socketIdentifier
  onProtocolReader socket
    (ProtocolReader.registerInboundMessageConsumer registry protocolIdentifier messageConsumer)
  modify (World.record (.messageConsumerRegistered socketIdentifier protocolIdentifier messageConsumer))
  return none

end RegisterMessageConsumerUserOperation

namespace RegisterRequestCallbackUserOperation

def execute (socketIdentifier : SocketIdentifier) (protocolIdentifier : ProtocolIdentifier)
    (requestConsumer : RequestConsumer υ) : WorldM υ (Option (Operation υ)) := do
  let socket ← getSocketOrThrow socketIdentifier
  onProtocolReader socket
    (ProtocolReader.registerInboundRequestConsumer registry protocolIdentifier requestConsumer)
  return none

end RegisterRequestCallbackUserOperation

namespace SendBytesUserOperation

def execute (socketIdentifier : SocketIdentifier) (bytes : List UInt8) : WorldM υ (Option (Operation υ)) := do
  let socket ← getSocketOrThrow socketIdentifier
  postSend socket
  return some (.sendBytes socketIdentifier bytes true)

end SendBytesUserOperation

namespace Operation

def getSocketIdentifier : Operation υ → SocketIdentifier
  | close socketIdentifier => socketIdentifier
  | connect socketIdentifier .. => socketIdentifier
  | listen socketIdentifier .. => socketIdentifier
  | registerMessageConsumer socketIdentifier .. => socketIdentifier
  | registerRequestCallback socketIdentifier .. => socketIdentifier
  | sendBytes socketIdentifier .. => socketIdentifier
  | sendRequest socketIdentifier .. => socketIdentifier
  | accept _ pendingAcceptSocketIdentifier => pendingAcceptSocketIdentifier
  | receive socketIdentifier => socketIdentifier
  | sendOutboundBytes socketIdentifier _ => socketIdentifier

/-- The bytes that were transferred are those at the front of the buffer of a receive; of the
others only their number is known. -/
def execute (transferred : List UInt8) : Operation υ → WorldM υ (Option (Operation υ))
  | close socketIdentifier => do
    eraseSocket socketIdentifier
    return none
  | connect socketIdentifier ipAddress port connectionCallback false =>
    ConnectUserOperation.execute socketIdentifier ipAddress port connectionCallback
  | connect socketIdentifier _ _ _ true => ConnectUserOperation.executePending socketIdentifier
  | listen socketIdentifier ipAddress port connectionCallback =>
    ListenUserOperation.execute socketIdentifier ipAddress port connectionCallback
  | registerMessageConsumer socketIdentifier protocolIdentifier messageConsumer =>
    RegisterMessageConsumerUserOperation.execute registry socketIdentifier protocolIdentifier messageConsumer
  | registerRequestCallback socketIdentifier protocolIdentifier requestConsumer =>
    RegisterRequestCallbackUserOperation.execute registry socketIdentifier protocolIdentifier requestConsumer
  | sendBytes socketIdentifier bytes false => SendBytesUserOperation.execute socketIdentifier bytes
  | sendBytes _ bytes true => bytesSent transferred.length bytes
  | sendRequest socketIdentifier protocolSequenceNumber bytes responseConsumer false =>
    SendRequestUserOperation.execute socketIdentifier protocolSequenceNumber bytes responseConsumer
  | sendRequest _ _ _ _ true => return none
  | accept listeningSocketIdentifier pendingAcceptSocketIdentifier =>
    AcceptSystemOperation.execute listeningSocketIdentifier pendingAcceptSocketIdentifier
  | receive socketIdentifier => ReceiveSystemOperation.execute registry socketIdentifier transferred
  | sendOutboundBytes _ bytes => bytesSent transferred.length bytes

/-- The failure hook; by default the socket of the operation is erased. -/
def onFailure (errorCode : Option ℕ) : Operation υ → WorldM υ Unit
  | accept listeningSocketIdentifier pendingAcceptSocketIdentifier =>
    AcceptSystemOperation.onFailure listeningSocketIdentifier pendingAcceptSocketIdentifier errorCode
  | operation => eraseSocket operation.getSocketIdentifier

end Operation

end Executing

inductive Completion
  | succeeded (transferred : List UInt8)
  | failed (errorCode : ℕ)

structure OperationScheduler (υ : Type) where
  world : World υ
  draining : Bool

namespace OperationScheduler

/-- Only an `InternalSocketErrorWithCode` carries a code. -/
def errorCodeOf : Exception → Option ℕ
  | .internalSocketErrorWithCode errorCode => some errorCode
  | _ => none

/-- An exception of the failure hook is logged. -/
def handleFailedOperation (operation : Operation υ) (errorCode : Option ℕ) (w : World υ) : World υ :=
  Program.final (operation.onFailure errorCode w)

/-- An operation that has rescheduled itself is owned by the completion port again. -/
def handleSuccessfulOperation [Ballotin] (registry : ProtocolRegistry) (operation : Operation υ)
    (transferred : List UInt8) (w : World υ) : World υ :=
  match operation.execute registry transferred w with
  | .ok (some operation) w => w.post operation
  | .ok none w => w
  | .error e w => handleFailedOperation operation (errorCodeOf e) w

def consumeOperation [Ballotin] (registry : ProtocolRegistry) (operation : Operation υ)
    (completion : Completion) (w : World υ) : World υ :=
  match completion with
  | .succeeded transferred => handleSuccessfulOperation registry operation transferred w
  | .failed errorCode => handleFailedOperation operation (some errorCode) w

/-- The operation has left the completion port; it has not rescheduled anything yet. -/
def dequeued (before after : List (Operation υ)) (w : World υ) : World υ :=
  { w with outstanding := before ++ after, acceptRescheduled := false }

end OperationScheduler

/-- The operation waits for I/O. Only such an operation may complete with a failure or with bytes;
the others are packets that were put in the queue as they are. -/
def Operation.isPending : Operation υ → Bool
  | close _ | listen .. | registerMessageConsumer .. | registerRequestCallback .. => false
  | connect _ _ _ _ connectionPending => connectionPending
  | sendBytes _ _ sendBytesPending => sendBytesPending
  | sendRequest _ _ _ _ sendBytesPending => sendBytesPending
  | accept .. | receive _ | sendOutboundBytes .. => true

def Operation.Completes (operation : Operation υ) (completion : Completion) : Prop :=
  operation.isPending = false → completion = .succeeded []

namespace OperationScheduler

def scheduled (operation : Operation υ) (l : OperationScheduler υ) : OperationScheduler υ :=
  { l with world := l.world.post operation }

def withScript (script : Script) (l : OperationScheduler υ) : OperationScheduler υ :=
  { l with world := { l.world with script } }

/-- An operation with others before and after it has completed and was consumed. -/
def consumed [Ballotin] (registry : ProtocolRegistry) (before after : List (Operation υ)) (operation : Operation υ)
    (completion : Completion) (l : OperationScheduler υ) : OperationScheduler υ :=
  { l with world := consumeOperation registry operation completion (dequeued before after l.world) }

/-- One step of the consumer thread, or of the threads around it. -/
inductive Step [Ballotin] (registry : ProtocolRegistry) : OperationScheduler υ → OperationScheduler υ → Prop
  /-- any thread schedules a user operation -/
  | schedule (l : OperationScheduler υ) (operation : Operation υ) (h : l.draining = false)
      (hfresh : operation.isPending = false) : Step registry l (l.scheduled operation)
  /-- the outcomes of the calls to come are anything -/
  | outcomes (l : OperationScheduler υ) (script : Script) : Step registry l (l.withScript script)
  | consume (l : OperationScheduler υ) (before after : List (Operation υ)) (operation : Operation υ)
      (completion : Completion) (h : l.draining = false)
      (houtstanding : l.world.outstanding = before ++ operation :: after)
      (hcompletes : operation.Completes completion) :
    Step registry l (l.consumed registry before after operation completion)
  /-- the abort operation, or a failure to dequeue -/
  | startDraining (l : OperationScheduler υ) :
    Step registry l { world := SocketContainer.eraseAllSockets l.world, draining := true }
  | drain (l : OperationScheduler υ) (before after : List (Operation υ)) (operation : Operation υ)
      (h : l.draining = true) (houtstanding : l.world.outstanding = before ++ operation :: after) :
    Step registry l { l with world := { l.world with outstanding := before ++ after } }

/-- `OperationScheduler()`. -/
def new (user : υ) : OperationScheduler υ where
  world :=
    { script := {}
      sockets := ∅
      nextSocketIdentifier := invalidSocketIdentifier + 1
      outstanding := []
      acceptRescheduled := false
      user
      history := [] }
  draining := false

/-- The states of the runs whose steps are as given. -/
def Run (R : OperationScheduler υ → OperationScheduler υ → Prop) (l : OperationScheduler υ) : Prop :=
  ∃ user : υ, Relation.ReflTransGen R (new user) l

/-- What holds of a new scheduler and is preserved by every step holds in every run. -/
theorem Run.invariant {R : OperationScheduler υ → OperationScheduler υ → Prop} {P : OperationScheduler υ → Prop}
    (hinit : ∀ user, P (new user)) (hstep : ∀ l l', P l → R l l' → P l') {l : OperationScheduler υ}
    (h : l.Run R) : P l := by
  obtain ⟨user, hrun⟩ := h
  induction hrun with
  | refl => exact hinit user
  | tail _ hlast ih => exact hstep _ _ ih hlast

theorem Run.initial {R : OperationScheduler υ → OperationScheduler υ → Prop} (user : υ) : (new user).Run R :=
  ⟨user, .refl⟩

theorem Run.step {R : OperationScheduler υ → OperationScheduler υ → Prop} {l l' : OperationScheduler υ}
    (h : l.Run R) (hstep : R l l') : l'.Run R := by
  obtain ⟨user, hrun⟩ := h
  exact ⟨user, hrun.tail hstep⟩

theorem Run.later {R : OperationScheduler υ → OperationScheduler υ → Prop} {l l' : OperationScheduler υ}
    (h : l.Run R) (hrun : Relation.ReflTransGen R l l') : l'.Run R := by
  obtain ⟨user, hbefore⟩ := h
  exact ⟨user, hbefore.trans hrun⟩

abbrev Reachable [Ballotin] (registry : ProtocolRegistry) (l : OperationScheduler υ) : Prop :=
  l.Run (Step registry)

end OperationScheduler

end Farseer.Windows
