import Farseer.Lib.Table
import Farseer.Linux.SocketContainer

/-! The event thread: tasks, the queue they wait in, and the loop over the batches of events that
`epoll_wait` returns. Everything that other threads do is to put tasks in the queue; a user
callback that calls the library does the same. -/

namespace Farseer.Linux

variable {υ : Type}

inductive Task (υ : Type)
  | close (socketIdentifier : SocketIdentifier)
  | connect (socketIdentifier : SocketIdentifier) (ipAddress : String) (port : ℕ)
      (connectionCallback : ConnectionCallback υ)
  | listen (socketIdentifier : SocketIdentifier) (ipAddress : String) (port : ℕ)
      (connectionCallback : ConnectionCallback υ)
  | registerMessageConsumer (socketIdentifier : SocketIdentifier) (protocolIdentifier : ProtocolIdentifier)
      (messageConsumer : Consumer υ)
  | registerRequestCallback (socketIdentifier : SocketIdentifier) (protocolIdentifier : ProtocolIdentifier)
      (requestConsumer : RequestConsumer υ)
  | sendBytes (socketIdentifier : SocketIdentifier) (bytes : List UInt8)
  | sendRequest (socketIdentifier : SocketIdentifier) (protocolSequenceNumber : ProtocolSequenceNumber)
      (bytes : List UInt8) (responseConsumer : Consumer υ)

def Task.execute (registry : ProtocolRegistry) : Task υ → WorldM υ Unit
  | close socketIdentifier => SocketContainer.eraseSocket socketIdentifier
  | connect socketIdentifier ipAddress port connectionCallback =>
    SocketContainer.connect socketIdentifier ipAddress port connectionCallback
  | listen socketIdentifier ipAddress port connectionCallback =>
    SocketContainer.listen socketIdentifier ipAddress port connectionCallback
  | registerMessageConsumer socketIdentifier protocolIdentifier messageConsumer =>
    SocketContainer.registerMessageConsumer registry socketIdentifier protocolIdentifier messageConsumer
  | registerRequestCallback socketIdentifier protocolIdentifier requestConsumer =>
    SocketContainer.registerRequestCallback registry socketIdentifier protocolIdentifier requestConsumer
  | sendBytes socketIdentifier bytes => SocketContainer.sendBytes socketIdentifier bytes
  | sendRequest socketIdentifier protocolSequenceNumber bytes responseConsumer =>
    SocketContainer.sendRequest socketIdentifier protocolSequenceNumber bytes responseConsumer

/-- Tasks that are executed one after the other; their exceptions are logged. -/
def Task.executeAll (registry : ProtocolRegistry) : List (Task υ) → World υ → World υ
  | [], w => w
  | task :: tasks, w => Task.executeAll registry tasks (Program.final (task.execute registry w))

/-- The tasks and the counter of the event descriptor. A null task tells the thread to end. -/
structure TaskQueue (υ : Type) where
  tasks : List (Option (Task υ))
  eventCounter : ℕ

namespace TaskQueue

def writeEvent : Outcome → EStateM Exception (TaskQueue υ) Unit
  | .success => modify fun queue => { queue with eventCounter := queue.eventCounter + 1 }
  | .failure error => throw (.internalSocketError ("Error writing to event file descriptor: " ++ error))

def insert (task : Option (Task υ)) (outcome : Outcome) : EStateM Exception (TaskQueue υ) Unit := do
  modify fun queue => { queue with tasks := queue.tasks ++ [task] }
  Program.scopeFailure (fun queue => { queue with tasks := queue.tasks.dropLast }) (writeEvent outcome)

def readEvent (outcome : Outcome) : EStateM Exception (TaskQueue υ) Unit := do
  let queue ← get
  match outcome with
  | .success =>
    if queue.eventCounter = 0 then throw (.internalSocketError "Error reading event: ")
    else modify fun queue => { queue with eventCounter := 0 }
  | .failure error => throw (.internalSocketError ("Error reading event: " ++ error))

def transfer (outcome : Outcome) : EStateM Exception (TaskQueue υ) (List (Option (Task υ))) := do
  readEvent outcome
  let queue ← get
  modify fun queue => { queue with tasks := [] }
  return queue.tasks

theorem transfer_success (tasks : List (Option (Task υ))) {eventCounter : ℕ} (h : eventCounter ≠ 0) :
    transfer .success { tasks, eventCounter } = .ok tasks { tasks := [], eventCounter := 0 } := by
  have hread : readEvent .success { tasks, eventCounter } = .ok () { tasks, eventCounter := 0 } := by
    rw [readEvent, Program.bind_ok Program.get_apply]
    dsimp only
    rw [if_neg h, Program.modify_apply]
  rw [transfer, Program.bind_ok hread]
  rfl

end TaskQueue

structure EpollEvent where
  fileDescriptor : FileDescriptor
  events : UInt32
deriving DecidableEq

/-- Where the thread is: before `epoll_wait`, at the events of a batch that are left, at the tasks
that are left, or at its end. -/
inductive Control (υ : Type)
  | waiting
  | batch (events : List EpollEvent)
  | tasks (tasksBuffer : List (Option (Task υ))) (events : List EpollEvent)
  | exited

/-- The members of the provider and the position of its thread. Kept beside them are the sockets
that were registered when `epoll_wait` last returned, and the time of that. -/
structure EventLoop (υ : Type) where
  world : World υ
  eventFileDescriptor : FileDescriptor
  taskQueue : TaskQueue υ
  control : Control υ
  registered : Std.ExtTreeMap FileDescriptor SocketIdentifier
  waitedAt : ℕ

def maximumNumberOfEvents : ℕ := 1024

namespace EventLoop

/-- A batch that `epoll_wait` may return. -/
structure Reports (l : EventLoop υ) (events : List EpollEvent) : Prop where
  size : events.length ≤ min (l.world.sockets.size + 1) maximumNumberOfEvents
  distinct : (events.map EpollEvent.fileDescriptor).Nodup
  subscribed : ∀ e ∈ events, l.world.kernel.interestList.contains e.fileDescriptor = true

def withScript (l : EventLoop υ) (script : Script) : EventLoop υ :=
  { l with world := { l.world with kernel := { l.world.kernel with script } } }

def waited (l : EventLoop υ) (events : List EpollEvent) : EventLoop υ :=
  { l with
    control := .batch events
    registered := l.world.fileDescriptorsToSockets
    waitedAt := l.world.kernel.clock }

/-- An exception of `handleSocketEvents` would end the thread. -/
def handled [Ballotin] (registry : ProtocolRegistry) (l : EventLoop υ) (event : EpollEvent)
    (events : List EpollEvent) : EventLoop υ :=
  match SocketContainer.handleSocketEvents registry event.fileDescriptor event.events l.world with
  | .ok () world => { l with world, control := .batch events }
  | .error _ world => { l with world, control := .exited }

def transferred (l : EventLoop υ) (outcome : Outcome) (events : List EpollEvent) : EventLoop υ :=
  match TaskQueue.transfer outcome l.taskQueue with
  | .ok tasksBuffer taskQueue => { l with taskQueue, control := .tasks tasksBuffer events }
  | .error _ taskQueue => { l with taskQueue, control := .exited }

/-- An exception of a task is logged. -/
def executed (registry : ProtocolRegistry) (l : EventLoop υ) (task : Task υ)
    (tasksBuffer : List (Option (Task υ))) (events : List EpollEvent) : EventLoop υ :=
  { l with
    world := Program.final (task.execute registry l.world)
    control := .tasks tasksBuffer events }

/-- One step of the thread, or of the threads around it. -/
inductive Step [Ballotin] (registry : ProtocolRegistry) : EventLoop υ → EventLoop υ → Prop
  /-- any thread puts a task in the queue -/
  | insertTask (l : EventLoop υ) (task : Option (Task υ)) (outcome : Outcome) :
    Step registry l { l with taskQueue := Program.final (l.taskQueue |> TaskQueue.insert task outcome) }
  /-- the outcomes of the calls to come are anything -/
  | outcomes (l : EventLoop υ) (script : Script) : Step registry l (l.withScript script)
  | wait (l : EventLoop υ) (events : List EpollEvent) (h : l.control = .waiting) (hevents : l.Reports events) :
    Step registry l (l.waited events)
  | waitFailed (l : EventLoop υ) (h : l.control = .waiting) : Step registry l { l with control := .exited }
  | batchDone (l : EventLoop υ) (h : l.control = .batch []) : Step registry l { l with control := .waiting }
  | socketEvents (l : EventLoop υ) (event : EpollEvent) (events : List EpollEvent)
      (h : l.control = .batch (event :: events)) (hfd : event.fileDescriptor ≠ l.eventFileDescriptor) :
    Step registry l (l.handled registry event events)
  | transfer (l : EventLoop υ) (event : EpollEvent) (events : List EpollEvent) (outcome : Outcome)
      (h : l.control = .batch (event :: events)) (hfd : event.fileDescriptor = l.eventFileDescriptor) :
    Step registry l (l.transferred outcome events)
  | executeTask (l : EventLoop υ) (task : Task υ) (tasksBuffer : List (Option (Task υ)))
      (events : List EpollEvent) (h : l.control = .tasks (some task :: tasksBuffer) events) :
    Step registry l (l.executed registry task tasksBuffer events)
  /-- the null task -/
  | abort (l : EventLoop υ) (tasksBuffer : List (Option (Task υ))) (events : List EpollEvent)
      (h : l.control = .tasks (none :: tasksBuffer) events) : Step registry l { l with control := .exited }
  | tasksDone (l : EventLoop υ) (events : List EpollEvent) (h : l.control = .tasks [] events) :
    Step registry l { l with control := .batch events }

/-- `LinuxSocketProviderImplementation()`, in a process without other descriptors. -/
def new (eventPollFileDescriptor eventFileDescriptor : FileDescriptor) (user : υ) : EventLoop υ where
  world :=
    { kernel :=
        { descriptors := (Std.ExtTreeMap.insert ∅ eventPollFileDescriptor { openedAt := 0, transmitted := [] }).insert
            eventFileDescriptor { openedAt := 1, transmitted := [] }
          interestList := Std.ExtTreeMap.insert ∅ eventFileDescriptor (EPOLLIN ||| EPOLLET)
          clock := 2
          script := {} }
      sockets := ∅
      fileDescriptorsToSockets := ∅
      nextSocketIdentifier := invalidSocketIdentifier + 1
      user
      history := [] }
  eventFileDescriptor
  taskQueue := { tasks := [], eventCounter := 0 }
  control := .waiting
  registered := ∅
  waitedAt := 0

/-- A new provider: only the descriptor of the task queue is subscribed. -/
structure Initial (l : EventLoop υ) : Prop where
  sockets : l.world.sockets = ∅
  fileDescriptorsToSockets : l.world.fileDescriptorsToSockets = ∅
  interestList : l.world.kernel.interestList =
    Std.ExtTreeMap.insert ∅ l.eventFileDescriptor (EPOLLIN ||| EPOLLET)
  descriptors : l.world.kernel.descriptors.contains l.eventFileDescriptor = true
  opened : ∀ (fd : FileDescriptor) (d : Descriptor), l.world.kernel.descriptors[fd]? = some d →
    d.openedAt < l.world.kernel.clock
  nextSocketIdentifier : l.world.nextSocketIdentifier = invalidSocketIdentifier + 1
  history : l.world.history = []
  taskQueue : l.taskQueue = { tasks := [], eventCounter := 0 }
  control : l.control = .waiting
  waitedAt : l.waitedAt = 0

theorem new_initial (eventPollFileDescriptor eventFileDescriptor : FileDescriptor) (user : υ) :
    (new eventPollFileDescriptor eventFileDescriptor user).Initial := by
  refine ⟨rfl, rfl, rfl, ?_, fun fd d hd => ?_, rfl, rfl, rfl, rfl, rfl⟩
  · exact Table.contains_insert_iff.mpr (.inl rfl)
  · rcases Table.lookup_insert_some hd with ⟨-, rfl⟩ | ⟨-, hd⟩
    · exact Nat.one_lt_two
    · rcases Table.lookup_insert_some hd with ⟨-, rfl⟩ | ⟨-, hd⟩
      · exact Nat.two_pos
      · rw [Std.ExtTreeMap.getElem?_empty] at hd
        cases hd

/-- The states of the runs whose steps are as given. -/
def Run (R : EventLoop υ → EventLoop υ → Prop) (l : EventLoop υ) : Prop :=
  ∃ start : EventLoop υ, start.Initial ∧ Relation.ReflTransGen R start l

/-- What holds of a new provider and is preserved by every step holds in every run. -/
theorem Run.invariant {R : EventLoop υ → EventLoop υ → Prop} {Inv : EventLoop υ → Prop}
    (hinit : ∀ l, l.Initial → Inv l) (hstep : ∀ l l', Inv l → R l l' → Inv l') {l : EventLoop υ}
    (h : l.Run R) : Inv l := by
  obtain ⟨start, hstart, hrun⟩ := h
  induction hrun with
  | refl => exact hinit start hstart
  | tail _ hlast ih => exact hstep _ _ ih hlast

theorem Run.initial {R : EventLoop υ → EventLoop υ → Prop} {l : EventLoop υ} (h : l.Initial) : l.Run R :=
  ⟨l, h, .refl⟩

theorem Run.step {R : EventLoop υ → EventLoop υ → Prop} {l l' : EventLoop υ} (h : l.Run R) (hstep : R l l') :
    l'.Run R := by
  obtain ⟨start, hstart, hrun⟩ := h
  exact ⟨start, hstart, hrun.tail hstep⟩

theorem Run.later {R : EventLoop υ → EventLoop υ → Prop} {l l' : EventLoop υ} (h : l.Run R)
    (hrun : Relation.ReflTransGen R l l') : l'.Run R := by
  obtain ⟨start, hstart, hbefore⟩ := h
  exact ⟨start, hstart, hbefore.trans hrun⟩

abbrev Reachable [Ballotin] (registry : ProtocolRegistry) (l : EventLoop υ) : Prop := l.Run (Step registry)

/-! A batch in which the event of the task queue comes first. -/

def Executes (l : EventLoop υ) (task : Task υ) : Prop :=
  ∃ tasksBuffer events, l.control = .tasks (some task :: tasksBuffer) events

/-- The tasks were given to the provider while its thread waited, and are about to be executed; the
events of sockets in the same batch are left. -/
def given (tasks : List (Task υ)) (events : List EpollEvent) (l : EventLoop υ) : EventLoop υ :=
  { l with
    control := .tasks (tasks.map some) events
    registered := l.world.fileDescriptorsToSockets
    waitedAt := l.world.kernel.clock }

def performed (registry : ProtocolRegistry) (tasks : List (Task υ)) (events : List EpollEvent)
    (l : EventLoop υ) : EventLoop υ :=
  { l.given tasks events with
    world := Task.executeAll registry tasks l.world
    control := .batch events }

section Runs

variable [Ballotin] {registry : ProtocolRegistry} {R : EventLoop υ → EventLoop υ → Prop}
  (hR : ∀ l l', Step registry l l' → (∀ task, ¬ l.Executes task) → R l l')

include hR

theorem insertTasks_run (tasks : List (Option (Task υ))) {l : EventLoop υ} (h : l.Run R)
    (hcontrol : l.control = .waiting) {queue : TaskQueue υ} (hqueue : l.taskQueue = queue) :
    { l with taskQueue :=
        { tasks := queue.tasks ++ tasks
          eventCounter := queue.eventCounter + tasks.length } }.Run R := by
  induction tasks generalizing l queue with
  | nil =>
    rw [List.append_nil, List.length_nil, Nat.add_zero, ← hqueue]
    exact h
  | cons task tasks ih =>
    have hidle : ∀ task, ¬ l.Executes task := fun task ⟨_, _, h⟩ => by rw [hcontrol] at h; cases h
    have hrest := ih (h.step (hR _ _ (.insertTask l task .success) hidle)) hcontrol rfl
    subst hqueue
    rwa [show l.taskQueue.tasks ++ task :: tasks = (l.taskQueue.tasks ++ [task]) ++ tasks by simp,
      List.length_cons, Nat.add_comm tasks.length, ← Nat.add_assoc]

theorem given_run {l : EventLoop υ} (h : l.Run R) (hcontrol : l.control = .waiting)
    (hqueue : l.taskQueue = { tasks := [], eventCounter := 0 }) (task : Task υ) (tasks : List (Task υ))
    {events : List EpollEvent}
    (hreports : l.Reports ({ fileDescriptor := l.eventFileDescriptor, events := EPOLLIN } :: events)) :
    (l.given (task :: tasks) events).Run R := by
  have hinserted := insertTasks_run hR ((task :: tasks).map some) h hcontrol hqueue
  have hwaited := hinserted.step (hR _ _
    (.wait _ _ hcontrol ⟨hreports.size, hreports.distinct, hreports.subscribed⟩)
    fun task ⟨_, _, h⟩ => by cases hcontrol.symm.trans h)
  have htransferred := hwaited.step (hR _ _ (.transfer _ _ events .success rfl rfl)
    fun task ⟨_, _, h⟩ => by cases h)
  rw [transferred, waited, TaskQueue.transfer_success _ (by simp)] at htransferred
  have hempty : l.given (task :: tasks) events =
      { l.given (task :: tasks) events with taskQueue := { tasks := [], eventCounter := 0 } } := by
    rw [← hqueue]
    rfl
  rw [hempty]
  exact htransferred

end Runs

theorem executeTasks_reachable [Ballotin] {registry : ProtocolRegistry} (tasks : List (Task υ))
    (events : List EpollEvent) {l : EventLoop υ} (h : l.Reachable registry)
    (hcontrol : l.control = .tasks (tasks.map some) events) :
    { l with world := Task.executeAll registry tasks l.world, control := .batch events }.Reachable registry := by
  induction tasks generalizing l with
  | nil => exact h.step (.tasksDone l events hcontrol)
  | cons task tasks ih => exact ih (h.step (.executeTask l task (tasks.map some) events hcontrol)) rfl

theorem performed_reachable [Ballotin] {registry : ProtocolRegistry} {l : EventLoop υ} (h : l.Reachable registry)
    (hcontrol : l.control = .waiting) (hqueue : l.taskQueue = { tasks := [], eventCounter := 0 })
    (task : Task υ) (tasks : List (Task υ)) {events : List EpollEvent}
    (hreports : l.Reports ({ fileDescriptor := l.eventFileDescriptor, events := EPOLLIN } :: events)) :
    (l.performed registry (task :: tasks) events).Reachable registry :=
  executeTasks_reachable (task :: tasks) events
    (given_run (fun _ _ hstep _ => hstep) h hcontrol hqueue task tasks hreports) rfl

end EventLoop

end Farseer.Linux
