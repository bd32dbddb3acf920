import Farseer.Lib.Program
import Farseer.Common

/-! What the event thread needs of the kernel: the open descriptors, the interest list of the
event poll, and how its calls turn out. A closed descriptor leaves the interest list and may be
handed out again; a new one differs from every open one, and nothing more is known of it. -/

namespace Farseer.Linux

abbrev FileDescriptor := ℕ

def EPOLLIN : UInt32 := 0x001
def EPOLLOUT : UInt32 := 0x004
def EPOLLERR : UInt32 := 0x008
def EPOLLRDHUP : UInt32 := 0x2000
def EPOLLET : UInt32 := 0x80000000

def hasEvent (events flag : UInt32) : Bool := events &&& flag != 0

/-- The outcome of a call without a result; a failure comes with the text of its error. -/
inductive Outcome
  | success
  | failure (error : String)
deriving DecidableEq

/-- `::socket`, with a wish for the new descriptor. -/
inductive SocketOutcome
  | created (candidate : FileDescriptor)
  | failure (error : String)
deriving DecidableEq

/-- `::inet_pton`, which returns 1, 0 or a negative number. -/
inductive ConversionOutcome
  | converted
  | invalid
  | failure (error : String)
deriving DecidableEq

inductive ConnectOutcome
  | connected
  | inProgress
  | failure (error : String)
deriving DecidableEq

/-- What `::accept4` and `::inet_ntop` make of the address of a peer. -/
inductive RemoteAddress
  | address (ipAddress : String) (port : ℕ)
  | tooLong
  | unreadable (error : String)
deriving DecidableEq

inductive AcceptOutcome
  | accepted (candidate : FileDescriptor) (remoteAddress : RemoteAddress)
  | wouldBlock
  | failure (error : String)
deriving DecidableEq

inductive SendOutcome
  | sent (numberOfBytes : ℕ)
  | wouldBlock
  | failure (error : String)
deriving DecidableEq

/-- `::recv` fills the buffer; no bytes mean the end of the stream. -/
inductive ReceiveOutcome
  | received (bytes : List UInt8)
  | wouldBlock
  | failure (error : String)
deriving DecidableEq

/-- The outcomes to come, for each call a list of its own. Every sequence of outcomes is the
front of such a list; after the lists end, calls succeed or would block. -/
structure Script where
  sockets : List SocketOutcome := []
  conversions : List ConversionOutcome := []
  binds : List Outcome := []
  listens : List Outcome := []
  connects : List ConnectOutcome := []
  accepts : List AcceptOutcome := []
  sends : List SendOutcome := []
  receives : List ReceiveOutcome := []
  controls : List Outcome := []
  /-- how many socket identifiers other threads take before the event thread takes its next -/
  identifiersTaken : List ℕ := []
deriving DecidableEq

/-- An open socket: when it was opened, and the bytes that `::send` has taken from it. -/
structure Descriptor where
  openedAt : ℕ
  transmitted : List UInt8
deriving DecidableEq

/-- The clock counts the descriptors that were ever opened. -/
structure Kernel where
  descriptors : Std.ExtTreeMap FileDescriptor Descriptor
  interestList : Std.ExtTreeMap FileDescriptor UInt32
  clock : ℕ
  script : Script

abbrev KernelM := EStateM Exception Kernel

def draw {α : Type} (outcomes : Script → List α) (update : List α → Script → Script) (otherwise : α) :
    KernelM α := fun kernel =>
  match outcomes kernel.script with
  | [] => .ok otherwise kernel
  | outcome :: rest => .ok outcome { kernel with script := update rest kernel.script }

namespace Kernel

/-- The descriptor asked for if it is free, and else one above all that are open. -/
def freshDescriptor (kernel : Kernel) (candidate : FileDescriptor) : FileDescriptor :=
  if kernel.descriptors.contains candidate then kernel.descriptors.keys.sum + 1 else candidate

theorem freshDescriptor_free (kernel : Kernel) (candidate : FileDescriptor) :
    kernel.descriptors[kernel.freshDescriptor candidate]? = none := by
  unfold freshDescriptor
  split_ifs with h
  · refine Std.ExtTreeMap.getElem?_eq_none fun hmem => ?_
    have hle : kernel.descriptors.keys.sum + 1 ≤ kernel.descriptors.keys.sum :=
      List.single_le_sum (fun _ _ => Nat.zero_le _) _ (Std.ExtTreeMap.mem_keys.mpr hmem)
    exact absurd hle (Nat.not_succ_le_self _)
  · exact Std.ExtTreeMap.getElem?_eq_none fun hmem => h (Std.ExtTreeMap.mem_iff_contains.mp hmem)

def openDescriptor (kernel : Kernel) (fileDescriptor : FileDescriptor) : Kernel :=
  { kernel with
    descriptors := kernel.descriptors.insert fileDescriptor { openedAt := kernel.clock, transmitted := [] }
    clock := kernel.clock + 1 }

/-- `closeSocketOrLog`: an error is logged, but the descriptor is gone. -/
def closeSocketOrLog (fileDescriptor : FileDescriptor) (kernel : Kernel) : Kernel :=
  { kernel with
    descriptors := kernel.descriptors.erase fileDescriptor
    interestList := kernel.interestList.erase fileDescriptor }

def transmit (fileDescriptor : FileDescriptor) (bytes : List UInt8) (kernel : Kernel) : Kernel :=
  { kernel with
    descriptors := kernel.descriptors.modify fileDescriptor
      fun descriptor => { descriptor with transmitted := descriptor.transmitted ++ bytes } }

end Kernel

def newDescriptor (candidate : FileDescriptor) : KernelM FileDescriptor := do
  let kernel ← get
  let fileDescriptor := kernel.freshDescriptor candidate
  set (kernel.openDescriptor fileDescriptor)
  return fileDescriptor

def send (fileDescriptor : FileDescriptor) (bytes : List UInt8) : KernelM SendOutcome := do
  let outcome ← draw Script.sends (fun sends script => { script with sends }) .wouldBlock
  match outcome with
  | .sent numberOfBytes => do
    modify (Kernel.transmit fileDescriptor (bytes.take numberOfBytes))
    return .sent (min numberOfBytes bytes.length)
  | .wouldBlock => return .wouldBlock
  | .failure error => return .failure error

def recv : KernelM ReceiveOutcome := do
  let outcome ← draw Script.receives (fun receives script => { script with receives }) .wouldBlock
  match outcome with
  | .received bytes => return .received (bytes.take maximumReceiveBufferSize)
  | .wouldBlock => return .wouldBlock
  | .failure error => return .failure error

namespace EventPoll

def drawControl : KernelM Outcome :=
  draw Script.controls (fun controls script => { script with controls }) .success

/-- `EPOLL_CTL_ADD` refuses a descriptor that is closed or already in the list. -/
def subscribe (fileDescriptor : FileDescriptor) (events : UInt32) : KernelM Unit := do
  let outcome ← drawControl
  let kernel ← get
  match outcome with
  | .success =>
    if kernel.descriptors.contains fileDescriptor && !kernel.interestList.contains fileDescriptor then
      set { kernel with interestList := kernel.interestList.insert fileDescriptor events }
    else throw (.internalSocketError "Error subscribing file descriptor to event poll: ")
  | .failure error =>
    throw (.internalSocketError ("Error subscribing file descriptor to event poll: " ++ error))

/-- `EPOLL_CTL_MOD` refuses a descriptor that is not in the list. -/
def setEvents (fileDescriptor : FileDescriptor) (events : UInt32) : KernelM Unit := do
  let outcome ← drawControl
  let kernel ← get
  match outcome with
  | .success =>
    if kernel.interestList.contains fileDescriptor then
      set { kernel with interestList := kernel.interestList.insert fileDescriptor events }
    else throw (.internalSocketError "Error setting file descriptor events for event poll: ")
  | .failure error =>
    throw (.internalSocketError ("Error setting file descriptor events for event poll: " ++ error))

/-- `EPOLL_CTL_DEL`; an error is logged. -/
def unsubscribe (fileDescriptor : FileDescriptor) : KernelM Unit := do
  let outcome ← drawControl
  let kernel ← get
  match outcome with
  | .success => set { kernel with interestList := kernel.interestList.erase fileDescriptor }
  | .failure _ => pure ()

end EventPoll

end Farseer.Linux
