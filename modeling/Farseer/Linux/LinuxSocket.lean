import Farseer.Linux.Kernel

/-! `LinuxSocket`, a descriptor with the bytes that it could not send yet. -/

namespace Farseer.Linux

inductive SocketType
  | unbound | listening | accepted | connecting | connected
deriving DecidableEq

structure LinuxSocket where
  outgoingBuffer : List UInt8
  ipAddress : String
  port : ℕ
  socket : FileDescriptor
  socketType : SocketType
deriving DecidableEq

abbrev SocketM := EStateM Exception (LinuxSocket × Kernel)

namespace LinuxSocket

def createSocket : KernelM FileDescriptor := do
  let outcome ← draw Script.sockets (fun sockets script => { script with sockets }) (.created 3)
  match outcome with
  | .created candidate => newDescriptor candidate
  | .failure error => throw (.internalSocketError ("Error creating socket: " ++ error))

def convertAddress (ipAddress : String) : KernelM Unit := do
  let outcome ← draw Script.conversions (fun conversions script => { script with conversions }) .converted
  match outcome with
  | .converted => pure ()
  | .invalid => throw (.internalSocketError ("Invalid IP address " ++ ipAddress))
  | .failure error => throw (.internalSocketError ("Error converting IP address: " ++ error))

def bindAddress : KernelM Unit := do
  let outcome ← draw Script.binds (fun binds script => { script with binds }) .success
  match outcome with
  | .success => pure ()
  | .failure error => throw (.internalSocketError ("Error binding socket: " ++ error))

def startListening : KernelM Unit := do
  let outcome ← draw Script.listens (fun listens script => { script with listens }) .success
  match outcome with
  | .success => pure ()
  | .failure error => throw (.internalSocketError ("Error listening to socket: " ++ error))

def startConnecting : KernelM Unit := do
  let outcome ← draw Script.connects (fun connects script => { script with connects }) .inProgress
  match outcome with
  | .connected | .inProgress => pure ()
  | .failure error => throw (.internalSocketError ("Error connecting to socket: " ++ error))

def listen (ipAddress : String) (port : ℕ) : KernelM LinuxSocket := do
  let socket ← createSocket
  Program.scopeFailure (Kernel.closeSocketOrLog socket) (do
    convertAddress ipAddress
    bindAddress
    startListening
    return { outgoingBuffer := [], ipAddress, port, socket, socketType := .listening })

def connect (ipAddress : String) (port : ℕ) : KernelM LinuxSocket := do
  let socket ← createSocket
  Program.scopeFailure (Kernel.closeSocketOrLog socket) (do
    convertAddress ipAddress
    startConnecting
    return { outgoingBuffer := [], ipAddress, port, socket, socketType := .connecting })

/-- The socket of an accepted descriptor, if the address of the peer can be read. -/
def acceptFrom (socket : FileDescriptor) : RemoteAddress → KernelM LinuxSocket
  | .address ipAddress port =>
    return { outgoingBuffer := [], ipAddress, port, socket, socketType := .accepted }
  | .tooLong => throw (.internalSocketError "Accept failed because the address wouldn't fit the buffer")
  | .unreadable error => throw (.internalSocketError ("Error converting IP address: " ++ error))

def acceptOutcome : AcceptOutcome → KernelM (Option LinuxSocket)
  | .wouldBlock => return none
  | .failure error => throw (.internalSocketError ("Error accepting socket: " ++ error))
  | .accepted candidate remoteAddress => do
    let acceptedSocket ← newDescriptor candidate
    let socket ← Program.scopeFailure (Kernel.closeSocketOrLog acceptedSocket)
      (acceptFrom acceptedSocket remoteAddress)
    return some socket

def accept (s : LinuxSocket) : KernelM (Option LinuxSocket) :=
  if s.socketType ≠ .listening then
    throw (.internalSocketError "Can only accept connections from a listening socket")
  else do
    let outcome ← draw Script.accepts (fun accepts script => { script with accepts }) .wouldBlock
    acceptOutcome outcome

def connected (s : LinuxSocket) : LinuxSocket := { s with socketType := .connected }

/-- A socket that `sendBytes` and `receiveBytes` work on. -/
def isEstablished (s : LinuxSocket) : Bool := s.socketType == .accepted || s.socketType == .connected

/-- What `sendBytes` makes of the outcome of `::send`. -/
def sendOutcome : SendOutcome → SocketM Bool
  | .wouldBlock => return false
  | .failure error => throw (.internalSocketError ("Error sending bytes to socket: " ++ error))
  | .sent numberOfBytesSent => do
    let (s, kernel) ← get
    set ({ s with outgoingBuffer := s.outgoingBuffer.drop numberOfBytesSent }, kernel)
    return numberOfBytesSent == s.outgoingBuffer.length

def flush : SocketM Bool := do
  let (s, _) ← get
  if s.outgoingBuffer.isEmpty then return true
  else do
    let outcome ← Program.zoom Prod.snd (fun kernel sk => (sk.1, kernel)) (send s.socket s.outgoingBuffer)
    sendOutcome outcome

def sendBytes (bytes : List UInt8) : SocketM Bool := do
  let (s, kernel) ← get
  if !s.isEstablished then
    throw (.internalSocketError "Can only send bytes to an accepted or connected socket")
  else do
    set ({ s with outgoingBuffer := s.outgoingBuffer ++ bytes }, kernel)
    flush

/-- The loop of `receiveBytes`. A turn that goes on takes an outcome off the script. -/
def receiveLoop : ℕ → List UInt8 → KernelM (List UInt8 × Bool)
  | 0, _ => throw .outOfFuel
  | fuel + 1, result => do
    let outcome ← recv
    match outcome with
    | .received [] => return (result, true)
    | .received bytes => receiveLoop fuel (result ++ bytes)
    | .wouldBlock => return (result, false)
    | .failure error => throw (.internalSocketError ("Error receiving bytes from socket: " ++ error))

def receiveBytes (s : LinuxSocket) : KernelM (List UInt8 × Bool) :=
  if !s.isEstablished then
    throw (.internalSocketError "Can only receive bytes from an accepted or connected socket")
  else do
    let kernel ← get
    receiveLoop (kernel.script.receives.length + 1) []

end LinuxSocket

end Farseer.Linux
