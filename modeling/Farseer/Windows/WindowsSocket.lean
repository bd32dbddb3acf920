import Farseer.Lib.Program
import Farseer.Common

/-! `WindowsSocket`, a handle whose operations complete later. Posting an operation succeeds, or it
fails and nothing completes; how it completes is not known when it is posted. -/

namespace Farseer.Windows

/-- The outcome of a call without a result; a failure comes with the text of its error. -/
inductive Outcome
  | success
  | failure (error : String)
deriving DecidableEq

/-- `::inet_pton`, which returns 1, 0 or a negative number. -/
inductive ConversionOutcome
  | converted
  | invalid
  | failure (error : String)
deriving DecidableEq

/-- `::getpeername` and then `::inet_ntop`. -/
inductive PeerOutcome
  | address (ipAddress : String) (port : ℕ)
  | unknown (error : String)
  | truncated (remoteAddressSize : ℕ)
  | unreadable (error : String)
deriving DecidableEq

/-- The operation was done at once or is pending, and completes later, or it failed. -/
inductive PostOutcome
  | posted
  | failure (errorCode : ℕ)
deriving DecidableEq

/-- The outcomes to come, for each call a list of its own. Every sequence of outcomes is the
front of such a list; after the lists end, calls succeed. -/
structure Script where
  sockets : List Outcome := []
  /-- `::CreateIoCompletionPort` for a socket -/
  associations : List Outcome := []
  conversions : List ConversionOutcome := []
  binds : List Outcome := []
  listens : List Outcome := []
  /-- `::WSAIoctl` for a function pointer -/
  extensions : List Outcome := []
  /-- `::setsockopt` -/
  options : List Outcome := []
  peers : List PeerOutcome := []
  accepts : List PostOutcome := []
  connects : List PostOutcome := []
  receives : List PostOutcome := []
  sends : List PostOutcome := []
  /-- how many socket identifiers other threads take before the consumer thread takes its next -/
  identifiersTaken : List ℕ := []
deriving DecidableEq

abbrev ScriptM := EStateM Exception Script

def draw {α : Type} (outcomes : Script → List α) (update : List α → Script → Script) (otherwise : α) :
    ScriptM α := fun script =>
  match outcomes script with
  | [] => .ok otherwise script
  | outcome :: rest => .ok outcome (update rest script)

/-- A call that fails with a message and the text of its error. -/
def check (message : String) (x : ScriptM Outcome) : ScriptM Unit := do
  let outcome ← x
  match outcome with
  | .success => pure ()
  | .failure error => throw (.internalSocketError (message ++ error))

/-- A post that fails with its error code. -/
def checkPost (x : ScriptM PostOutcome) : ScriptM Unit := do
  let outcome ← x
  match outcome with
  | .posted => pure ()
  | .failure errorCode => throw (.internalSocketErrorWithCode errorCode)

/-- What matters of the handle is whether there is one, and of a function pointer whether it is null. -/
structure WindowsSocket where
  hasHandle : Bool
  acceptFunction : Bool
  connectFunction : Bool
  ipAddress : String
  port : ℕ
deriving DecidableEq

abbrev SocketM := EStateM Exception (WindowsSocket × Script)

namespace WindowsSocket

def empty : WindowsSocket where
  hasHandle := false
  acceptFunction := false
  connectFunction := false
  ipAddress := ""
  port := 0

def create : ScriptM WindowsSocket := do
  check "Creating windows socket failed with error "
    (draw Script.sockets (fun sockets script => { script with sockets }) .success)
  check "CreateIoCompletionPort associate failed with error "
    (draw Script.associations (fun associations script => { script with associations }) .success)
  return { empty with hasHandle := true }

def onScript {α : Type} (x : ScriptM α) : SocketM α :=
  Program.zoom Prod.snd (fun script s => (s.1, script)) x

def convertAddress (ipAddress : String) : ScriptM Unit := do
  let outcome ← draw Script.conversions (fun conversions script => { script with conversions }) .converted
  match outcome with
  | .converted => pure ()
  | .invalid => throw (.internalSocketError ("Invalid IP address " ++ ipAddress))
  | .failure error => throw (.internalSocketError ("inet_pton failed with error " ++ error))

def bindAddress : ScriptM Unit :=
  check "Binding to socket failed with error "
    (draw Script.binds (fun binds script => { script with binds }) .success)

def startListening : ScriptM Unit :=
  check "Listening to socket failed with error "
    (draw Script.listens (fun listens script => { script with listens }) .success)

def loadExtension : ScriptM Unit :=
  check "WSAIoctl failed with error "
    (draw Script.extensions (fun extensions script => { script with extensions }) .success)

def listenWork (ipAddress : String) (port : ℕ) : SocketM Unit := do
  onScript (convertAddress ipAddress)
  onScript bindAddress
  onScript startListening
  modify fun s => ({ s.1 with ipAddress, port }, s.2)
  onScript loadExtension
  modify fun s => ({ s.1 with acceptFunction := true }, s.2)

def listen (ipAddress : String) (port : ℕ) : SocketM Unit := do
  let (s, _) ← get
  if !s.hasHandle then throw (.internalSocketError "Cannot listen on an invalid socket")
  else if s.connectFunction then throw (.internalSocketError "Cannot listen on a connection socket")
  else if s.acceptFunction then throw (.internalSocketError "Socket is already listening")
  else listenWork ipAddress port

/-- `sizeof(sockaddr_in) + 16`, for each of the two addresses. -/
def addressesSize : ℕ := 2 * (16 + 16)

def postAcceptWork : ScriptM WindowsSocket := do
  let pendingAcceptSocket ← create
  checkPost (draw Script.accepts (fun accepts script => { script with accepts }) .posted)
  return pendingAcceptSocket

def postAccept (s : WindowsSocket) (receiveBufferSize : ℕ) : ScriptM WindowsSocket :=
  if !s.hasHandle then throw (.internalSocketError "Cannot post accept on an invalid socket")
  else if s.connectFunction then throw (.internalSocketError "Cannot post accept on a connection socket")
  else if !s.acceptFunction then
    throw (.internalSocketError "Socket must first call listen before accepting connections")
  else if receiveBufferSize < addressesSize then
    throw (.internalSocketError
      "The receive buffer must have enough space to store the local and remote address of the connection")
  else postAcceptWork

def remoteAddress : ScriptM (String × ℕ) := do
  let outcome ← draw Script.peers (fun peers script => { script with peers }) (.address "" 0)
  match outcome with
  | .address ipAddress port => return (ipAddress, port)
  | .unknown error => throw (.internalSocketError ("getpeername failed with error " ++ error))
  | .truncated remoteAddressSize =>
    throw (.internalSocketError ("getpeername truncated the address because the buffer is to small (" ++
      toString 16 ++ " bytes were supplied but " ++ toString remoteAddressSize ++ " bytes are needed)"))
  | .unreadable error => throw (.internalSocketError ("inet_ntop failed with error " ++ error))

def acceptWork : SocketM Unit := do
  onScript (check "setsockopt failed with error "
    (draw Script.options (fun options script => { script with options }) .success))
  let (ipAddress, port) ← onScript remoteAddress
  modify fun s => ({ s.1 with ipAddress, port }, s.2)

def accept (listeningSocket : WindowsSocket) : SocketM Unit := do
  let (s, _) ← get
  if !s.hasHandle then throw (.internalSocketError "Cannot accept on an invalid socket")
  else if s.connectFunction then throw (.internalSocketError "Cannot accept on a connection socket")
  else if s.acceptFunction then throw (.internalSocketError "Cannot accept on a listening socket")
  else if !listeningSocket.acceptFunction then
    throw (.internalSocketError "Socket passed to accept is not a listening socket")
  else acceptWork

def postConnectWork (ipAddress : String) (port : ℕ) : SocketM Unit := do
  onScript bindAddress
  onScript loadExtension
  modify fun s => ({ s.1 with connectFunction := true }, s.2)
  onScript (convertAddress ipAddress)
  modify fun s => ({ s.1 with ipAddress, port }, s.2)
  onScript (checkPost (draw Script.connects (fun connects script => { script with connects }) .posted))

def postConnect (ipAddress : String) (port : ℕ) : SocketM Unit := do
  let (s, _) ← get
  if !s.hasHandle then throw (.internalSocketError "Cannot post connect on an invalid socket")
  else if s.connectFunction then throw (.internalSocketError "Socket is already connected")
  else if s.acceptFunction then throw (.internalSocketError "Cannot post connect on a listening socket")
  else postConnectWork ipAddress port

def connect (s : WindowsSocket) : ScriptM Unit :=
  if !s.hasHandle then throw (.internalSocketError "Cannot connect on an invalid socket")
  else if !s.connectFunction then
    throw (.internalSocketError "Socket must call postConnect before calling connect")
  else if s.acceptFunction then throw (.internalSocketError "Cannot connect on a listening socket")
  else check "setsockopt failed with error: "
    (draw Script.options (fun options script => { script with options }) .success)

def postReceive (s : WindowsSocket) : ScriptM Unit :=
  if !s.hasHandle then throw (.internalSocketError "Cannot post receive on an invalid socket")
  else if s.acceptFunction then throw (.internalSocketError "Cannot post receive on a listening socket")
  else checkPost (draw Script.receives (fun receives script => { script with receives }) .posted)

def postSend (s : WindowsSocket) : ScriptM Unit :=
  if !s.hasHandle then throw (.internalSocketError "Cannot post send on an invalid socket")
  else if s.acceptFunction then throw (.internalSocketError "Cannot post send on a listening socket")
  else checkPost (draw Script.sends (fun sends script => { script with sends }) .posted)

end WindowsSocket

end Farseer.Windows
