import Farseer.Lib.FlaggedCounter

/-! The `OperationScheduler` as its threads see it: every access to `state_`, every post and every dequeue
is a step of its own, and the threads take theirs in any order. What an operation does when it is
executed is left open, except that it may schedule system operations and is then either posted again
or discarded. -/

namespace Farseer.Windows

open FlaggedCounter

/-- Operations are objects, numbered in the order of their creation. -/
abbrev OperationNumber := ℕ

/-- An entry of the completion port. The abort packet has no operation. -/
inductive Packet
  | abort
  | operation (number : OperationNumber)
deriving DecidableEq

/-- A call of `scheduleUserOperation` that has incremented `state_`. -/
inductive UserCall
  /-- the flag was set, and the increment is to be corrected -/
  | rejected (number : OperationNumber)
  /-- the operation is to be posted -/
  | posting (number : OperationNumber)
  /-- the post has failed, and the increment is to be corrected -/
  | postFailed (number : OperationNumber)

/-- Where the destructor is in `scheduleAbortOperation`. -/
inductive Destructor
  | notCalled
  | flagSet
  | posting
  | postFailed
  | joining

/-- Where the consumer thread is in `consumeOperationsWork`. -/
inductive ConsumerThread
  /-- at the top of the loop, where `state_` is compared with the flag -/
  | checking
  | dequeuing
  /-- at the entries of a batch that are left -/
  | consuming (entries : List Packet)
  | executing (number : OperationNumber) (entries : List Packet)
  /-- in `scheduleSystemOperation`, after the increment -/
  | scheduling (number systemOperation : OperationNumber) (entries : List Packet)
  /-- `schedule` has thrown, and the increment is to be corrected -/
  | scheduleFailed (number systemOperation : OperationNumber) (entries : List Packet)
  /-- an operation is destroyed, and the decrement is to come -/
  | discarded (entries : List Packet)
  /-- in `startDraining` -/
  | startingToDrain (entries : List Packet)
  /-- `state_` was equal to the flag -/
  | drained
  /-- the port has failed while it was drained -/
  | failed

/-- What the threads share, where they are, and what was done so far. -/
structure ConcurrentScheduler where
  /-- `state_` -/
  state : BitVec 64
  /-- how many operations were created -/
  created : ℕ
  calls : List UserCall
  destructor : Destructor
  completionPort : List Packet
  /-- the operations whose I/O has not completed -/
  pending : List OperationNumber
  consumerThread : ConsumerThread
  draining : Bool
  /-- every operation that was posted, as often as it was -/
  posted : List OperationNumber
  dequeued : List OperationNumber
  freed : List OperationNumber

def abortingFlag : BitVec 64 := flagBit 63

def maximumNumberOfEntries : ℕ := 1024

/-- An operation is an object of at least 40 bytes (an `OVERLAPPED` and a pointer), and when the
address space is full no other is created. -/
def maximumNumberOfOperations : ℕ := 2 ^ 64 / 40

@[simp] def Packet.operations : Packet → List OperationNumber
  | abort => []
  | operation number => [number]

def operationsOf (entries : List Packet) : List OperationNumber := entries.flatMap Packet.operations

def abortsOf (entries : List Packet) : ℕ := entries.count .abort

@[simp] def UserCall.operation : UserCall → OperationNumber
  | rejected number | posting number | postFailed number => number

namespace ConsumerThread

@[simp] def operations : ConsumerThread → List OperationNumber
  | consuming entries | discarded entries | startingToDrain entries => operationsOf entries
  | executing number entries => number :: operationsOf entries
  | scheduling number systemOperation entries | scheduleFailed number systemOperation entries =>
    number :: systemOperation :: operationsOf entries
  | checking | dequeuing | drained | failed => []

@[simp] def entries : ConsumerThread → List Packet
  | consuming entries | discarded entries | startingToDrain entries | executing _ entries
  | scheduling _ _ entries | scheduleFailed _ _ entries => entries
  | checking | dequeuing | drained | failed => []

@[simp] def beingConsumed : ConsumerThread → ℕ
  | executing _ _ | scheduling _ _ _ | scheduleFailed _ _ _ | discarded _ => 1
  | checking | dequeuing | consuming _ | startingToDrain _ | drained | failed => 0

@[simp] def between : ConsumerThread → ℕ
  | scheduling _ _ _ | scheduleFailed _ _ _ => 1
  | _ => 0

end ConsumerThread

@[simp] def Destructor.between : Destructor → ℕ
  | posting | postFailed => 1
  | notCalled | flagSet | joining => 0

namespace ConcurrentScheduler

/-- The threads that are between their increment and their post or corrective decrement. -/
def threadsBetween (s : ConcurrentScheduler) : ℕ :=
  s.calls.length + s.destructor.between + s.consumerThread.between

/-- What is posted, in pending I/O, or dequeued in the current batch but not yet consumed. -/
def waiting (s : ConcurrentScheduler) : ℕ :=
  s.completionPort.length + s.pending.length + s.consumerThread.entries.length

def outstanding (s : ConcurrentScheduler) : ℕ :=
  s.threadsBetween + s.waiting + s.consumerThread.beingConsumed

def live (s : ConcurrentScheduler) : List OperationNumber :=
  s.calls.map UserCall.operation ++ operationsOf s.completionPort ++ s.pending ++ s.consumerThread.operations

/-- `scheduleUserOperation` increments `state_` and looks at the flag it had. -/
def entered (s : ConcurrentScheduler) : ConcurrentScheduler :=
  { s with
    state := s.state + 1
    created := s.created + 1
    calls := (if isFlagged s.state then .rejected s.created else .posting s.created) :: s.calls }

/-- One step of one of the threads, or of the kernel. -/
inductive Step : ConcurrentScheduler → ConcurrentScheduler → Prop
  /-- a thread creates a user operation and calls `scheduleUserOperation` -/
  | enter (s : ConcurrentScheduler) (hroom : s.live.length < maximumNumberOfOperations) : Step s s.entered
  | postUser (s : ConcurrentScheduler) (before after : List UserCall) (number : OperationNumber)
      (h : s.calls = before ++ .posting number :: after) :
    Step s { s with
      calls := before ++ after
      completionPort := s.completionPort ++ [.operation number]
      posted := s.posted ++ [number] }
  | postUserFailed (s : ConcurrentScheduler) (before after : List UserCall) (number : OperationNumber)
      (h : s.calls = before ++ .posting number :: after) :
    Step s { s with calls := before ++ .postFailed number :: after }
  /-- the decrement that corrects, and the exception that destroys the operation -/
  | correct (s : ConcurrentScheduler) (before after : List UserCall) (call : UserCall)
      (h : s.calls = before ++ call :: after) (hcall : ∀ number, call ≠ .posting number) :
    Step s { s with state := s.state - 1, calls := before ++ after, freed := s.freed ++ [call.operation] }
  | abort (s : ConcurrentScheduler) (h : s.destructor = .notCalled) :
    Step s { s with state := s.state ||| abortingFlag, destructor := .flagSet }
  | countAbort (s : ConcurrentScheduler) (h : s.destructor = .flagSet) :
    Step s { s with state := s.state + 1, destructor := .posting }
  | postAbort (s : ConcurrentScheduler) (h : s.destructor = .posting) :
    Step s { s with destructor := .joining, completionPort := s.completionPort ++ [.abort] }
  | postAbortFailed (s : ConcurrentScheduler) (h : s.destructor = .posting) :
    Step s { s with destructor := .postFailed }
  | correctAbort (s : ConcurrentScheduler) (h : s.destructor = .postFailed) :
    Step s { s with state := s.state - 1, destructor := .joining }
  /-- pending I/O completes, fails or is cancelled -/
  | complete (s : ConcurrentScheduler) (before after : List OperationNumber) (number : OperationNumber)
      (h : s.pending = before ++ number :: after) :
    Step s { s with
      pending := before ++ after
      completionPort := s.completionPort ++ [.operation number] }
  | returnDrained (s : ConcurrentScheduler) (h : s.consumerThread = .checking) (hdraining : s.draining = true)
      (hstate : s.state = abortingFlag) : Step s { s with consumerThread := .drained }
  | loop (s : ConcurrentScheduler) (h : s.consumerThread = .checking)
      (hcontinue : ¬ (s.draining = true ∧ s.state = abortingFlag)) :
    Step s { s with consumerThread := .dequeuing }
  | dequeue (s : ConcurrentScheduler) (entries rest : List Packet) (h : s.consumerThread = .dequeuing)
      (hentries : s.completionPort = entries ++ rest) (hsize : entries.length ≤ maximumNumberOfEntries) :
    Step s { s with
      completionPort := rest
      consumerThread := .consuming entries
      dequeued := s.dequeued ++ operationsOf entries }
  | timeout (s : ConcurrentScheduler) (h : s.consumerThread = .dequeuing) (hdraining : s.draining = true) :
    Step s { s with consumerThread := .checking }
  | drainFailed (s : ConcurrentScheduler) (h : s.consumerThread = .dequeuing) (hdraining : s.draining = true) :
    Step s { s with consumerThread := .failed }
  | dequeueFailed (s : ConcurrentScheduler) (h : s.consumerThread = .dequeuing) (hdraining : s.draining = false) :
    Step s { s with consumerThread := .startingToDrain [], draining := true }
  | batchDone (s : ConcurrentScheduler) (h : s.consumerThread = .consuming []) :
    Step s { s with consumerThread := .checking }
  /-- the operation of an entry is destroyed; the abort packet has none -/
  | drain (s : ConcurrentScheduler) (packet : Packet) (entries : List Packet)
      (h : s.consumerThread = .consuming (packet :: entries)) (hdraining : s.draining = true) :
    Step s { s with consumerThread := .discarded entries, freed := s.freed ++ packet.operations }
  | receiveAbort (s : ConcurrentScheduler) (entries : List Packet)
      (h : s.consumerThread = .consuming (.abort :: entries)) (hdraining : s.draining = false) :
    Step s { s with state := s.state - 1, consumerThread := .startingToDrain entries, draining := true }
  | startDraining (s : ConcurrentScheduler) (entries : List Packet) (h : s.consumerThread = .startingToDrain entries) :
    Step s { s with state := s.state ||| abortingFlag, consumerThread := .consuming entries }
  | consume (s : ConcurrentScheduler) (number : OperationNumber) (entries : List Packet)
      (h : s.consumerThread = .consuming (.operation number :: entries)) (hdraining : s.draining = false) :
    Step s { s with consumerThread := .executing number entries }
  /-- the operation that is executed schedules a system operation -/
  | scheduleSystem (s : ConcurrentScheduler) (number : OperationNumber) (entries : List Packet)
      (h : s.consumerThread = .executing number entries) (hroom : s.live.length < maximumNumberOfOperations) :
    Step s { s with
      state := s.state + 1
      created := s.created + 1
      consumerThread := .scheduling number s.created entries }
  | postSystem (s : ConcurrentScheduler) (number systemOperation : OperationNumber) (entries : List Packet)
      (h : s.consumerThread = .scheduling number systemOperation entries) :
    Step s { s with
      pending := s.pending ++ [systemOperation]
      consumerThread := .executing number entries
      posted := s.posted ++ [systemOperation] }
  | postSystemFailed (s : ConcurrentScheduler) (number systemOperation : OperationNumber) (entries : List Packet)
      (h : s.consumerThread = .scheduling number systemOperation entries) :
    Step s { s with consumerThread := .scheduleFailed number systemOperation entries }
  | correctSystem (s : ConcurrentScheduler) (number systemOperation : OperationNumber) (entries : List Packet)
      (h : s.consumerThread = .scheduleFailed number systemOperation entries) :
    Step s { s with
      state := s.state - 1
      consumerThread := .executing number entries
      freed := s.freed ++ [systemOperation] }
  /-- the last act of an operation is to post itself again -/
  | reschedule (s : ConcurrentScheduler) (number : OperationNumber) (entries : List Packet)
      (h : s.consumerThread = .executing number entries) :
    Step s { s with
      pending := s.pending ++ [number]
      consumerThread := .consuming entries
      posted := s.posted ++ [number] }
  | discard (s : ConcurrentScheduler) (number : OperationNumber) (entries : List Packet)
      (h : s.consumerThread = .executing number entries) :
    Step s { s with consumerThread := .discarded entries, freed := s.freed ++ [number] }
  | decrement (s : ConcurrentScheduler) (entries : List Packet) (h : s.consumerThread = .discarded entries) :
    Step s { s with state := s.state - 1, consumerThread := .consuming entries }

def new : ConcurrentScheduler where
  state := 0
  created := 0
  calls := []
  destructor := .notCalled
  completionPort := []
  pending := []
  consumerThread := .checking
  draining := false
  posted := []
  dequeued := []
  freed := []

def Reachable (s : ConcurrentScheduler) : Prop := Relation.ReflTransGen Step new s

end ConcurrentScheduler

end Farseer.Windows
