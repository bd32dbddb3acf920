import Farseer.Container.History
import Farseer.Lib.Table
import Farseer.Windows.WindowsSocket

/-! `SocketContainer` and all else that the consumer thread changes. The nodes of a `std::map` do
not move, so a `Socket&` is the key of its node, and using one after the node is gone is a
`danglingReference`. User callbacks run in the state `υ` and may throw. -/

namespace Farseer.Windows

structure Socket (υ : Type) where
  socket : WindowsSocket
  protocolReader : ProtocolReader υ
  listeningSocketIdentifier : SocketIdentifier
  connectionCallback : ConnectionCallback υ
  inboundBytes : List UInt8
  outboundBytes : List UInt8
  pendingAccept : Bool
  consecutiveAcceptFailures : ℕ

/-- The classes that implement `IOperation`. -/
inductive Operation (υ : Type)
  | close (socketIdentifier : SocketIdentifier)
  | connect (socketIdentifier : SocketIdentifier) (ipAddress : String) (port : ℕ)
      (connectionCallback : ConnectionCallback υ) (connectionPending : Bool)
  | listen (socketIdentifier : SocketIdentifier) (ipAddress : String) (port : ℕ)
      (connectionCallback : ConnectionCallback υ)
  | registerMessageConsumer (socketIdentifier : SocketIdentifier) (protocolIdentifier : ProtocolIdentifier)
      (messageConsumer : Consumer υ)
  | registerRequestCallback (socketIdentifier : SocketIdentifier) (protocolIdentifier : ProtocolIdentifier)
      (requestConsumer : RequestConsumer υ)
  /-- a `SendBytesUserOperation` -/
  | sendBytes (socketIdentifier : SocketIdentifier) (bytes : List UInt8) (sendBytesPending : Bool)
  | sendRequest (socketIdentifier : SocketIdentifier) (protocolSequenceNumber : ProtocolSequenceNumber)
      (bytes : List UInt8) (responseConsumer : Consumer υ) (sendBytesPending : Bool)
  | accept (listeningSocketIdentifier pendingAcceptSocketIdentifier : SocketIdentifier)
  | receive (socketIdentifier : SocketIdentifier)
  /-- a `SendBytesSystemOperation` -/
  | sendOutboundBytes (socketIdentifier : SocketIdentifier) (bytes : List UInt8)

/-- All that the consumer thread can change outside its loop. -/
structure World (υ : Type) where
  script : Script
  sockets : Std.ExtTreeMap SocketIdentifier (Socket υ)
  /-- `socketIdentifierSequencer_` -/
  nextSocketIdentifier : SocketIdentifier
  /-- the operations that the completion port owns -/
  outstanding : List (Operation υ)
  /-- the member `acceptRescheduled_` of the operation that is being consumed -/
  acceptRescheduled : Bool
  user : υ
  history : List (ContainerEvent υ)

abbrev WorldM (υ : Type) := EStateM Exception (World υ)

variable {υ : Type}

namespace World

def updateSocket (socket : SocketIdentifier) (f : Socket υ → Socket υ) (w : World υ) : World υ :=
  { w with sockets := w.sockets.modify socket f }

def record (event : ContainerEvent υ) (w : World υ) : World υ := { w with history := w.history ++ [event] }

/-- The completion port owns one operation more. -/
def post (operation : Operation υ) (w : World υ) : World υ :=
  { w with outstanding := w.outstanding ++ [operation] }

end World

def Socket.origin (s : Socket υ) : SocketOrigin :=
  if s.listeningSocketIdentifier ≠ invalidSocketIdentifier then .accept s.listeningSocketIdentifier
  else if s.socket.acceptFunction then .listen
  else .connect

namespace SocketContainer

def onScript {α : Type} (x : ScriptM α) : WorldM υ α :=
  Program.zoom World.script (fun script w => { w with script }) x

def onUser {α : Type} (x : EStateM Exception υ α) : WorldM υ α :=
  Program.zoom World.user (fun user w => { w with user }) x

def dereference (socket : SocketIdentifier) : WorldM υ (Socket υ) := do
  let w ← get
  match w.sockets[socket]? with
  | some s => return s
  | none => throw .danglingReference

def onWindowsSocket (socket : SocketIdentifier) (x : SocketM Unit) : WorldM υ Unit := fun w =>
  match w.sockets[socket]? with
  | some s =>
    match x (s.socket, w.script) with
    | .ok () (windowsSocket, script) =>
      .ok () { w.updateSocket socket (fun s => { s with socket := windowsSocket }) with script }
    | .error e (windowsSocket, script) =>
      .error e { w.updateSocket socket (fun s => { s with socket := windowsSocket }) with script }
  | none => .error .danglingReference w

def onProtocolReader (socket : SocketIdentifier) (x : EStateM Exception (ProtocolReader υ) Unit) :
    WorldM υ Unit := fun w =>
  match w.sockets[socket]? with
  | some s =>
    match x s.protocolReader with
    | .ok () protocolReader => .ok () (w.updateSocket socket fun s => { s with protocolReader })
    | .error e protocolReader => .error e (w.updateSocket socket fun s => { s with protocolReader })
  | none => .error .danglingReference w

def notify (socket : SocketIdentifier) (socketEvent : SocketEvent) (socketIdentifier : SocketIdentifier) :
    WorldM υ Unit := do
  let s ← dereference socket
  modify (World.record (.notified socket socketEvent socketIdentifier))
  onUser (s.connectionCallback socketEvent socketIdentifier)

/-- `emplace` leaves the socket where it is if its identifier is taken. -/
def insertSocket (socketIdentifier : SocketIdentifier) (socket : Socket υ) : WorldM υ SocketIdentifier := do
  let w ← get
  if w.sockets.contains socketIdentifier then
    throw (.internalSocketError ("Couldn't insert socket with ID " ++ toString socketIdentifier ++
      " because the ID is used by another socket"))
  else do
    set { w with sockets := w.sockets.insert socketIdentifier socket }
    modify (World.record (.socketInserted socketIdentifier socket.origin))
    return socketIdentifier

def getSocketOrThrow (socketIdentifier : SocketIdentifier) : WorldM υ SocketIdentifier := do
  let w ← get
  if w.sockets.contains socketIdentifier then return socketIdentifier
  else throw (.socketNotFoundError ("Couldn't find socket with ID " ++ toString socketIdentifier))

def notifyClosed (socketIdentifier : SocketIdentifier) (s : Socket υ) : WorldM υ Unit :=
  if s.pendingAccept then pure ()
  else if s.listeningSocketIdentifier ≠ invalidSocketIdentifier then do
    let w ← get
    if w.sockets.contains s.listeningSocketIdentifier then
      notify s.listeningSocketIdentifier .clientClosed socketIdentifier
    else pure ()
  else notify socketIdentifier .serverClosed socketIdentifier

def removeSocket (socketIdentifier : SocketIdentifier) (w : World υ) : World υ :=
  { w with sockets := w.sockets.erase socketIdentifier }

def eraseSocket (socketIdentifier : SocketIdentifier) : WorldM υ Unit := do
  let w ← get
  match w.sockets[socketIdentifier]? with
  | some s =>
    Program.scopeExit (removeSocket socketIdentifier) (Program.catchAll (notifyClosed socketIdentifier s))
  | none => pure ()

/-- The guard that operations set before what may fail. -/
def erased (socketIdentifier : SocketIdentifier) (w : World υ) : World υ :=
  Program.final (eraseSocket socketIdentifier w)

def eraseAllSockets (w : World υ) : World υ := { w with sockets := ∅ }

section Reading

variable [Ballotin] (registry : ProtocolRegistry)

def afterReading (reader socket : SocketIdentifier) (r : Reading υ) (w : World υ) : World υ :=
  let w := w.updateSocket reader fun s => { s with protocolReader := r.reader }
  let w := w.updateSocket socket fun s =>
    { s with inboundBytes := r.inboundBytes, outboundBytes := r.outboundBytes }
  { w with user := r.user, history := w.history ++ r.arrivals.map (.frameRead socket) }

/-- The bytes of `socket` are read with the `ProtocolReader` of `reader`. -/
def readInboundBytes (reader socket : SocketIdentifier) : WorldM υ Unit := fun w =>
  match w.sockets[reader]?, w.sockets[socket]? with
  | some readerSocket, some s =>
    let start : Reading υ :=
      { reader := readerSocket.protocolReader, inboundBytes := s.inboundBytes, inboundBitsOffset := 0,
        outboundBytes := s.outboundBytes, user := w.user, arrivals := [] }
    match Reading.readInboundBytes registry start with
    | .ok () r => .ok () (afterReading reader socket r w)
    | .error e r => .error e (afterReading reader socket r w)
  | _, _ => .error .danglingReference w

/-- The bytes of an accepted socket are read by its listening socket. -/
def readWithItsReader (socket : SocketIdentifier) (listeningSocketIdentifier : SocketIdentifier) :
    WorldM υ Unit := do
  if listeningSocketIdentifier ≠ invalidSocketIdentifier then do
    let listeningSocket ← getSocketOrThrow listeningSocketIdentifier
    readInboundBytes registry listeningSocket socket
  else readInboundBytes registry socket socket

end Reading

end SocketContainer

end Farseer.Windows
