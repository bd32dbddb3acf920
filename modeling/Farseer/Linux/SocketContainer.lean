import Farseer.Container.History
import Farseer.Linux.LinuxSocket

/-! `SocketContainer`. The nodes of a `std::map` do not move, so a `Socket&` and a `Socket*` are
the key of their node, and using one after the node is gone is a `danglingReference`. User
callbacks run in the state `υ` and may throw. -/

namespace Farseer.Linux

structure Socket (υ : Type) where
  socketIdentifier : SocketIdentifier
  listeningSocketIdentifier : SocketIdentifier
  socket : LinuxSocket
  protocolReader : ProtocolReader υ
  connectionCallback : ConnectionCallback υ
  inboundBytes : List UInt8
  outboundBytes : List UInt8

def Socket.origin {υ : Type} (s : Socket υ) : SocketOrigin :=
  if s.listeningSocketIdentifier ≠ invalidSocketIdentifier then .accept s.listeningSocketIdentifier
  else if s.socket.socketType = .listening then .listen
  else .connect

/-- All that the event thread can change outside its loop. -/
structure World (υ : Type) where
  kernel : Kernel
  sockets : Std.ExtTreeMap SocketIdentifier (Socket υ)
  fileDescriptorsToSockets : Std.ExtTreeMap FileDescriptor SocketIdentifier
  /-- `socketIdentifierSequencer_` -/
  nextSocketIdentifier : SocketIdentifier
  user : υ
  history : List (ContainerEvent υ)

abbrev WorldM (υ : Type) := EStateM Exception (World υ)

variable {υ : Type}

namespace World

def updateSocket (socket : SocketIdentifier) (f : Socket υ → Socket υ) (w : World υ) : World υ :=
  { w with sockets := w.sockets.modify socket f }

def record (event : ContainerEvent υ) (w : World υ) : World υ := { w with history := w.history ++ [event] }

/-- `sockets_.erase(position)`: the destructor of the `LinuxSocket` closes its descriptor. -/
def destroySocket (socketIdentifier : SocketIdentifier) (w : World υ) : World υ :=
  match w.sockets[socketIdentifier]? with
  | some socket => { w with
      sockets := w.sockets.erase socketIdentifier
      kernel := w.kernel.closeSocketOrLog socket.socket.socket }
  | none => w

end World

namespace SocketContainer

def onKernel {α : Type} (x : KernelM α) : WorldM υ α :=
  Program.zoom World.kernel (fun kernel w => { w with kernel }) x

def onUser {α : Type} (x : EStateM Exception υ α) : WorldM υ α :=
  Program.zoom World.user (fun user w => { w with user }) x

def dereference (socket : SocketIdentifier) : WorldM υ (Socket υ) := do
  let w ← get
  match w.sockets[socket]? with
  | some s => return s
  | none => throw .danglingReference

def onLinuxSocket {α : Type} (socket : SocketIdentifier) (x : SocketM α) : WorldM υ α := fun w =>
  match w.sockets[socket]? with
  | some s =>
    match x (s.socket, w.kernel) with
    | .ok a (linuxSocket, kernel) =>
      .ok a { w.updateSocket socket (fun s => { s with socket := linuxSocket }) with kernel }
    | .error e (linuxSocket, kernel) =>
      .error e { w.updateSocket socket (fun s => { s with socket := linuxSocket }) with kernel }
  | none => .error .danglingReference w

def onProtocolReader (socket : SocketIdentifier) (x : EStateM Exception (ProtocolReader υ) Unit) :
    WorldM υ Unit := fun w =>
  match w.sockets[socket]? with
  | some s =>
    match x s.protocolReader with
    | .ok () protocolReader => .ok () (w.updateSocket socket fun s => { s with protocolReader })
    | .error e protocolReader => .error e (w.updateSocket socket fun s => { s with protocolReader })
  | none => .error .danglingReference w

def notify (s : Socket υ) (socketEvent : SocketEvent) (socketIdentifier : SocketIdentifier) : WorldM υ Unit := do
  modify (World.record (.notified s.socketIdentifier socketEvent socketIdentifier))
  onUser (s.connectionCallback socketEvent socketIdentifier)

/-- `socketIdentifierSequencer_.generate()`; other threads generate identifiers too. -/
def generateSocketIdentifier : WorldM υ SocketIdentifier := do
  let taken ← onKernel
    (draw Script.identifiersTaken (fun identifiersTaken script => { script with identifiersTaken }) 0)
  let w ← get
  let socketIdentifier := (w.nextSocketIdentifier + taken) % 2 ^ 64
  set { w with nextSocketIdentifier := (socketIdentifier + 1) % 2 ^ 64 }
  return socketIdentifier

/-- The end of `insertSocket`, after the socket is in both maps. -/
def subscribeSocket (events : UInt32) (socket : Socket υ) : WorldM υ SocketIdentifier := do
  onKernel (EventPoll.subscribe socket.socket.socket events)
  modify (World.record (.socketInserted socket.socketIdentifier socket.origin))
  return socket.socketIdentifier

/-- The part of `insertSocket` after the socket is in `sockets_`. -/
def insertDescriptor (events : UInt32) (socket : Socket υ) : WorldM υ SocketIdentifier := do
  let w ← get
  if w.fileDescriptorsToSockets.contains socket.socket.socket then
    throw (.logicError ("Couldn't insert socket with ID " ++ toString socket.socketIdentifier ++
      " because its file descriptor is used by another socket"))
  else do
    set { w with
      fileDescriptorsToSockets := w.fileDescriptorsToSockets.insert socket.socket.socket socket.socketIdentifier }
    Program.scopeFailure
      (fun w => { w with fileDescriptorsToSockets := w.fileDescriptorsToSockets.erase socket.socket.socket })
      (subscribeSocket events socket)

/-- A socket that is not inserted is destroyed with the argument that held it. -/
def insertSocket (events : UInt32) (socket : Socket υ) : WorldM υ SocketIdentifier := do
  let w ← get
  if w.sockets.contains socket.socketIdentifier then do
    set { w with kernel := w.kernel.closeSocketOrLog socket.socket.socket }
    throw (.logicError ("Couldn't insert socket with ID " ++ toString socket.socketIdentifier ++
      " because its ID is used by another socket"))
  else do
    set { w with sockets := w.sockets.insert socket.socketIdentifier socket }
    Program.scopeFailure (World.destroySocket socket.socketIdentifier) (insertDescriptor events socket)

def getSocketOrThrow (socketIdentifier : SocketIdentifier) : WorldM υ SocketIdentifier := do
  let w ← get
  if w.sockets.contains socketIdentifier then return socketIdentifier
  else throw (.internalSocketError ("Couldn't find socket with ID " ++ toString socketIdentifier))

/-- A `Socket` as `listen`, `connect` and `accept` fill it in. -/
def newSocket (socketIdentifier listeningSocketIdentifier : SocketIdentifier) (socket : LinuxSocket)
    (connectionCallback : ConnectionCallback υ) : Socket υ where
  socketIdentifier := socketIdentifier
  listeningSocketIdentifier := listeningSocketIdentifier
  socket := socket
  protocolReader := ProtocolReader.new
  connectionCallback := connectionCallback
  inboundBytes := []
  outboundBytes := []

/-- The empty function of an accepted socket; nothing is there to be called. -/
def noCallback : ConnectionCallback υ := fun _ _ => throw .danglingReference

def listen (socketIdentifier : SocketIdentifier) (ipAddress : String) (port : ℕ)
    (connectionCallback : ConnectionCallback υ) : WorldM υ Unit := do
  let linuxSocket ← onKernel (LinuxSocket.listen ipAddress port)
  let socket ← insertSocket (EPOLLIN ||| EPOLLET)
    (newSocket socketIdentifier invalidSocketIdentifier linuxSocket connectionCallback)
  let s ← dereference socket
  notify s .serverOpen s.socketIdentifier

def connect (socketIdentifier : SocketIdentifier) (ipAddress : String) (port : ℕ)
    (connectionCallback : ConnectionCallback υ) : WorldM υ Unit := do
  let linuxSocket ← onKernel (LinuxSocket.connect ipAddress port)
  let _ ← insertSocket (EPOLLOUT ||| EPOLLET)
    (newSocket socketIdentifier invalidSocketIdentifier linuxSocket connectionCallback)
  return ()

def registerMessageConsumer (registry : ProtocolRegistry) (socketIdentifier : SocketIdentifier)
    (protocolIdentifier : ProtocolIdentifier) (messageConsumer : Consumer υ) : WorldM υ Unit := do
  let socket ← getSocketOrThrow socketIdentifier
  onProtocolReader socket
    (ProtocolReader.registerInboundMessageConsumer registry protocolIdentifier messageConsumer)
  modify (World.record (.messageConsumerRegistered socketIdentifier protocolIdentifier messageConsumer))

def registerRequestCallback (registry : ProtocolRegistry) (socketIdentifier : SocketIdentifier)
    (protocolIdentifier : ProtocolIdentifier) (requestConsumer : RequestConsumer υ) : WorldM υ Unit := do
  let socket ← getSocketOrThrow socketIdentifier
  onProtocolReader socket
    (ProtocolReader.registerInboundRequestConsumer registry protocolIdentifier requestConsumer)

/-- The events a socket waits for once `sendBytes` has returned. -/
def eventsAfterSending (exhausted : Bool) : UInt32 :=
  if exhausted then EPOLLIN ||| EPOLLET else EPOLLIN ||| EPOLLOUT ||| EPOLLET

def sendBytesTo (socket : SocketIdentifier) (bytes : List UInt8) : WorldM υ Unit := do
  let exhausted ← onLinuxSocket socket (LinuxSocket.sendBytes bytes)
  let s ← dereference socket
  onKernel (EventPoll.setEvents s.socket.socket (eventsAfterSending exhausted))

def sendBytes (socketIdentifier : SocketIdentifier) (bytes : List UInt8) : WorldM υ Unit := do
  let socket ← getSocketOrThrow socketIdentifier
  sendBytesTo socket bytes

def sendRequest (socketIdentifier : SocketIdentifier) (protocolSequenceNumber : ProtocolSequenceNumber)
    (bytes : List UInt8) (responseConsumer : Consumer υ) : WorldM υ Unit := do
  let socket ← getSocketOrThrow socketIdentifier
  onProtocolReader socket
    (ProtocolReader.registerInboundOneShotResponseConsumer protocolSequenceNumber responseConsumer)
  modify (World.record (.responseConsumerRegistered socketIdentifier protocolSequenceNumber responseConsumer))
  sendBytesTo socket bytes

/-- The guard of `eraseSocket`. -/
def removeSocket (socketIdentifier : SocketIdentifier) (w : World υ) : World υ :=
  match w.sockets[socketIdentifier]? with
  | some s =>
    let socketFileDescriptor := s.socket.socket
    let w := Program.final (onKernel (EventPoll.unsubscribe socketFileDescriptor) w)
    let w := { w with fileDescriptorsToSockets := w.fileDescriptorsToSockets.erase socketFileDescriptor }
    w.destroySocket socketIdentifier
  | none => w

def notifyClosed (socketIdentifier : SocketIdentifier) (s : Socket υ) : WorldM υ Unit := do
  if s.listeningSocketIdentifier ≠ invalidSocketIdentifier then do
    let w ← get
    match w.sockets[s.listeningSocketIdentifier]? with
    | some listeningSocket => notify listeningSocket .clientClosed socketIdentifier
    | none => pure ()
  else notify s .serverClosed socketIdentifier

def eraseSocket (socketIdentifier : SocketIdentifier) : WorldM υ Unit := do
  let w ← get
  match w.sockets[socketIdentifier]? with
  | some s =>
    Program.scopeExit (removeSocket socketIdentifier) (Program.catchAll (notifyClosed socketIdentifier s))
  | none => pure ()

/-- What a turn of the loop does with an accepted socket. -/
def insertAccepted (socket : SocketIdentifier) (candidateSocket : LinuxSocket) : WorldM υ Unit := do
  let acceptedSocketIdentifier ← generateSocketIdentifier
  let s ← dereference socket
  let _ ← insertSocket (EPOLLIN ||| EPOLLET)
    (newSocket acceptedSocketIdentifier s.socketIdentifier candidateSocket noCallback)
  let s ← dereference socket
  notify s .clientOpen acceptedSocketIdentifier

/-- The loop of `handleListeningSocketEvents`. A turn that goes on takes an outcome off the script. -/
def acceptLoop (socket : SocketIdentifier) : ℕ → WorldM υ Unit
  | 0 => throw .outOfFuel
  | fuel + 1 => do
    let s ← dereference socket
    let candidateSocket ← onKernel s.socket.accept
    match candidateSocket with
    | none => pure ()
    | some candidateSocket => do
      insertAccepted socket candidateSocket
      acceptLoop socket fuel

def handleListeningSocketEvents (socket : SocketIdentifier) : WorldM υ Unit := do
  let w ← get
  acceptLoop socket (w.kernel.script.accepts.length + 1)

def handleConnectingSocketEvents (socket : SocketIdentifier) : WorldM υ Unit := do
  let s ← dereference socket
  onKernel (EventPoll.setEvents s.socket.socket (EPOLLIN ||| EPOLLET))
  modify (World.updateSocket socket fun s => { s with socket := s.socket.connected })
  notify s .clientOpen invalidSocketIdentifier

section Reading

variable [Ballotin] (registry : ProtocolRegistry)

def afterReading (reader socket : SocketIdentifier) (socketIdentifier : SocketIdentifier) (r : Reading υ)
    (w : World υ) : World υ :=
  let w := w.updateSocket reader fun s => { s with protocolReader := r.reader }
  let w := w.updateSocket socket fun s =>
    { s with inboundBytes := r.inboundBytes, outboundBytes := r.outboundBytes }
  { w with user := r.user, history := w.history ++ r.arrivals.map (.frameRead socketIdentifier) }

/-- The bytes of `socket` are read with the `ProtocolReader` of `reader`. -/
def readInboundBytes (reader socket : SocketIdentifier) : WorldM υ Unit := fun w =>
  match w.sockets[reader]?, w.sockets[socket]? with
  | some readerSocket, some s =>
    let start : Reading υ :=
      { reader := readerSocket.protocolReader, inboundBytes := s.inboundBytes, inboundBitsOffset := 0,
        outboundBytes := s.outboundBytes, user := w.user, arrivals := [] }
    match Reading.readInboundBytes registry start with
    | .ok () r => .ok () (afterReading reader socket s.socketIdentifier r w)
    | .error e r => .error e (afterReading reader socket s.socketIdentifier r w)
  | _, _ => .error .danglingReference w

/-- The bytes of an accepted socket are read by its listening socket. -/
def readWithItsReader (socket : SocketIdentifier) : WorldM υ Unit := do
  let s ← dereference socket
  if s.listeningSocketIdentifier ≠ invalidSocketIdentifier then do
    let listeningSocket ← getSocketOrThrow s.listeningSocketIdentifier
    readInboundBytes registry listeningSocket socket
  else readInboundBytes registry socket socket

def sendOutboundBytes (socket : SocketIdentifier) : WorldM υ Unit := do
  let s ← dereference socket
  if s.outboundBytes.isEmpty then pure ()
  else do
    sendBytesTo socket s.outboundBytes
    modify (World.updateSocket socket fun s => { s with outboundBytes := [] })

/-- What follows `EPOLLIN`; returns whether the socket was erased. -/
def handleReadable (socket : SocketIdentifier) : WorldM υ Bool := do
  let s ← dereference socket
  let (receivedBytes, closed) ← onKernel s.socket.receiveBytes
  modify (World.updateSocket socket fun s => { s with inboundBytes := s.inboundBytes ++ receivedBytes })
  readWithItsReader registry socket
  sendOutboundBytes socket
  if closed then do
    eraseSocket s.socketIdentifier
    return true
  else return false

def handleWritable (socket : SocketIdentifier) (socketEvents : UInt32) : WorldM υ Unit :=
  if hasEvent socketEvents EPOLLOUT then sendBytesTo socket [] else pure ()

def handleConnectedSocketEvents (socket : SocketIdentifier) (socketEvents : UInt32) : WorldM υ Unit :=
  if hasEvent socketEvents EPOLLIN then do
    let erased ← handleReadable registry socket
    if erased then pure () else handleWritable socket socketEvents
  else handleWritable socket socketEvents

def handleSocketEventsOf (socket : SocketIdentifier) (socketEvents : UInt32) : SocketType → WorldM υ Unit
  | .accepted | .connected => handleConnectedSocketEvents registry socket socketEvents
  | .listening => handleListeningSocketEvents socket
  | .connecting => handleConnectingSocketEvents socket
  | .unbound => throw (.internalSocketError "Invalid socket type")

def handleSocketEventsWork (socket : SocketIdentifier) (socketEvents : UInt32) : WorldM υ Unit := do
  let s ← dereference socket
  if hasEvent socketEvents EPOLLRDHUP then eraseSocket s.socketIdentifier
  else if hasEvent socketEvents EPOLLERR then eraseSocket s.socketIdentifier
  else handleSocketEventsOf registry socket socketEvents s.socket.socketType

/-- The handlers of all exceptions log and do the same. -/
def handleSocketEvents (socketFileDescriptor : FileDescriptor) (socketEvents : UInt32) : WorldM υ Unit := do
  let w ← get
  match w.fileDescriptorsToSockets[socketFileDescriptor]? with
  | none => onKernel (EventPoll.unsubscribe socketFileDescriptor)
  | some socket => do
    let s ← dereference socket
    Program.tryCatchAll (handleSocketEventsWork registry socket socketEvents) (eraseSocket s.socketIdentifier)

end Reading

end SocketContainer

end Farseer.Linux
