import Farseer.Container.Invocation
import Farseer.Linux.EventThread
import Farseer.Provider.Orphans
import Farseer.Reader.Segmentation

/-! The handlers of a socket. Handlers are kept in the reader of the socket they are registered on. The
bytes of a socket that `connect` has created are read with that reader; the bytes of an accepted socket
are read with the reader of its listening socket, and the handlers of the accepted socket are not found. -/

namespace Farseer

variable {υ : Type}

/-- The scheduler erases its sockets when it starts to drain, and then executes nothing. -/
theorem Windows.OperationScheduler.Reachable.beforeDraining [Ballotin] {registry : ProtocolRegistry}
    {l : Windows.OperationScheduler υ} (h : l.Reachable registry) :
    ∃ l₀ : Windows.OperationScheduler υ, l₀.Reachable registry ∧ l₀.draining = false ∧
      l₀.world.history = l.world.history := by
  obtain ⟨user, hrun⟩ := h
  induction hrun with
  | refl => exact ⟨_, .initial user, rfl, rfl⟩
  | @tail l l' hprev hlast ih =>
    have hl : l.Reachable registry := ⟨user, hprev⟩
    cases hlast with
    | schedule operation hrunning hfresh => exact ⟨_, hl.step (.schedule l operation hrunning hfresh), hrunning, rfl⟩
    | consume before after operation completion hrunning houtstanding hcompletes =>
      exact ⟨_, hl.step (.consume l before after operation completion hrunning houtstanding hcompletes), hrunning, rfl⟩
    | outcomes script => exact ih
    | startDraining => exact ih
    | drain before after operation hdraining houtstanding => exact ih

/-- In every run in which identifiers do not repeat, the handlers that were registered on a socket
which `connect` has created are those that are called for the frames that arrive on it. -/
theorem connectedHandlers_invoked [Ballotin] (registry : ProtocolRegistry) (id : SocketIdentifier) :
    (∀ l : Linux.EventLoop υ, l.Reachable registry → DistinctIdentifiers l.world.history →
      .socketInserted id .connect ∈ l.world.history → HandlersInvoked id l.world.history) ∧
    ∀ l : Windows.OperationScheduler υ, l.Reachable registry → DistinctIdentifiers l.world.history →
      .socketInserted id .connect ∈ l.world.history → HandlersInvoked id l.world.history := by
  constructor
  · intro l hl hdistinct hconnect
    exact (hl.follows hdistinct).2.invoked hdistinct hconnect
  · intro l hl hdistinct hconnect
    obtain ⟨l₀, hl₀, hrunning, hhistory⟩ := hl.beforeDraining
    rw [← hhistory] at hdistinct hconnect ⊢
    exact (hl₀.accounts hrunning hdistinct).steps.invoked hdistinct hconnect

/-- The bytes of a request `sample::Ping` with the number 5, and of its response. -/
def pingBytes : List UInt8 := [0, 0, 0, 3, 0, 0, 0, 0, 0, 0, 0, 5, 0, 0, 0, 7]

def pongBytes : List UInt8 := [0, 0, 0, 4, 0, 0, 0, 0, 0, 0, 0, 5, 0, 0, 0, 2, 192]

def countResponse : Consumer ℕ := fun _ calls => .ok () (calls + 1)

/-- Whether the response that was read last, of the request that was sent last, had a consumer. -/
def lastAnswered (id : SocketIdentifier) (history : List (ContainerEvent ℕ)) : Option Bool :=
  match history.reverse with
  | .frameRead receiver (.response _ 5 _ consumer) :: .responseConsumerRegistered sender 5 _ :: _ =>
    if receiver = id ∧ sender = id then some consumer.isSome else none
  | _ => none

theorem not_invoked_of_lastAnswered {id : SocketIdentifier} {history : List (ContainerEvent ℕ)}
    (h : lastAnswered id history = some false) : ¬ HandlersInvoked id history := by
  intro hinvoked
  unfold lastAnswered at h
  split at h
  case h_2 => cases h
  case h_1 receiver p response found sender consumer before heq =>
    obtain ⟨⟨hreceiver, hsender⟩, hnone⟩ : (receiver = id ∧ sender = id) ∧ found.isSome = false := by
      split_ifs at h with hsame
      exact ⟨hsame, Option.some.inj h⟩
    have hhistory : history = before.reverse ++ .responseConsumerRegistered id 5 consumer ::
        [.frameRead id (.response p 5 response found)] ++ [] := by
      rw [← List.reverse_reverse history, heq, hreceiver, hsender]
      simp
    have hread : responsesRead id 5 [.frameRead id (.response p 5 response found)] = [(response, found)] := by
      simp [responsesRead, responseRead]
    rcases hinvoked.response _ _ _ 5 consumer hhistory (by simp) with h | ⟨_, _, h, -⟩
    · rw [hread] at h
      cases h
    · rw [hread] at h
      cases h
      cases hnone

section Linux

open Linux

def readable (fileDescriptor : FileDescriptor) : EpollEvent := { fileDescriptor, events := EPOLLIN }

def performing (task : Linux.Task ℕ) (l : EventLoop ℕ) : EventLoop ℕ :=
  { l.performed pingRegistry [task] [] with control := .waiting }

def attending (event : EpollEvent) (l : EventLoop ℕ) : EventLoop ℕ :=
  { @EventLoop.handled ℕ referenceBallotin pingRegistry (l.waited [event]) event [] with control := .waiting }

/-- A Linux provider listens, accepts the client 2 and sends it a request; the client answers. -/
def acceptedLoop : EventLoop ℕ :=
  attending (readable 8) (performing (.listen 1 "127.0.0.1" 8080 fun _ _ => pure ())
    ((EventLoop.new 3 4 0).withScript
      { identifiersTaken := [1], accepts := [.accepted 9 (.address "127.0.0.1" 50000)] }))

def askingLoop : EventLoop ℕ :=
  attending (readable 9) ((performing (.sendRequest 2 5 pingBytes countResponse) acceptedLoop).withScript
    { receives := [.received pongBytes] })

/-- It connects to a server and sends it a request; the server answers. -/
def connectedLoop : EventLoop ℕ :=
  attending { fileDescriptor := 9, events := EPOLLOUT }
    (performing (.connect 1 "127.0.0.1" 8080 fun _ _ => pure ())
      ((EventLoop.new 3 4 0).withScript { sockets := [.created 9], connects := [.inProgress] }))

def answeredLoop : EventLoop ℕ :=
  attending (readable 9) ((performing (.sendRequest 1 5 pingBytes countResponse) connectedLoop).withScript
    { receives := [.received pongBytes] })

theorem performing_reachable {l : EventLoop ℕ} (task : Linux.Task ℕ)
    (h : @EventLoop.Reachable ℕ referenceBallotin pingRegistry l) (hcontrol : l.control = .waiting)
    (hqueue : l.taskQueue = { tasks := [], eventCounter := 0 })
    (hsubscribed : l.world.kernel.interestList.contains l.eventFileDescriptor = true) :
    @EventLoop.Reachable ℕ referenceBallotin pingRegistry (performing task l) := by
  let _ := referenceBallotin
  have hreports : l.Reports [readable l.eventFileDescriptor] := by
    refine ⟨by simp [maximumNumberOfEvents], by simp, fun e he => ?_⟩
    rw [List.mem_singleton.mp he]
    exact hsubscribed
  exact (EventLoop.performed_reachable h hcontrol hqueue task [] hreports).step (.batchDone _ rfl)

theorem attending_reachable {l : EventLoop ℕ} {event : EpollEvent}
    (h : @EventLoop.Reachable ℕ referenceBallotin pingRegistry l) (hcontrol : l.control = .waiting)
    (hsubscribed : l.world.kernel.interestList.contains event.fileDescriptor = true)
    (hfd : event.fileDescriptor ≠ l.eventFileDescriptor) :
    @EventLoop.Reachable ℕ referenceBallotin pingRegistry (attending event l) := by
  let _ := referenceBallotin
  refine EventLoop.Reachable.attended h hcontrol ⟨by simp [maximumNumberOfEvents], by simp, fun e he => ?_⟩ hfd
  rw [List.mem_singleton.mp he]
  exact hsubscribed

theorem askingLoop_reachable : @EventLoop.Reachable ℕ referenceBallotin pingRegistry askingLoop := by
  let _ := referenceBallotin
  have hstart := (EventLoop.Run.initial (R := EventLoop.Step pingRegistry) (EventLoop.new_initial 3 4 (0 : ℕ))).step
    (.outcomes _ { identifiersTaken := [1], accepts := [.accepted 9 (.address "127.0.0.1" 50000)] })
  have hlistening := performing_reachable (.listen 1 "127.0.0.1" 8080 fun _ _ => pure ()) hstart rfl rfl
    (by decide +kernel)
  have haccepted : EventLoop.Reachable pingRegistry acceptedLoop :=
    attending_reachable hlistening rfl (by decide +kernel) (by decide +kernel)
  have hasked := performing_reachable (.sendRequest 2 5 pingBytes countResponse) haccepted rfl rfl
    (by decide +kernel)
  exact attending_reachable (hasked.step (.outcomes _ { receives := [.received pongBytes] })) rfl
    (by decide +kernel) (by decide +kernel)

theorem answeredLoop_reachable : @EventLoop.Reachable ℕ referenceBallotin pingRegistry answeredLoop := by
  let _ := referenceBallotin
  have hstart := (EventLoop.Run.initial (R := EventLoop.Step pingRegistry) (EventLoop.new_initial 3 4 (0 : ℕ))).step
    (.outcomes _ { sockets := [.created 9], connects := [.inProgress] })
  have hconnecting := performing_reachable (.connect 1 "127.0.0.1" 8080 fun _ _ => pure ()) hstart rfl rfl
    (by decide +kernel)
  have hconnected : EventLoop.Reachable pingRegistry connectedLoop :=
    attending_reachable hconnecting rfl (by decide +kernel) (by decide +kernel)
  have hasked := performing_reachable (.sendRequest 1 5 pingBytes countResponse) hconnected rfl rfl
    (by decide +kernel)
  exact attending_reachable (hasked.step (.outcomes _ { receives := [.received pongBytes] })) rfl
    (by decide +kernel) (by decide +kernel)

end Linux

section Windows

open Windows

/-- A Windows provider listens, accepts the client 2 and sends it a request; the client answers. -/
def askingScheduler : OperationScheduler ℕ :=
  let _ := referenceBallotin
  ((((OperationScheduler.new 0).withScript { identifiersTaken := [1] }).scheduled
    (.listen 1 "127.0.0.1" 8080 fun _ _ => pure ())).consumed pingRegistry [] []
      (.listen 1 "127.0.0.1" 8080 fun _ _ => pure ()) (.succeeded [])).consumed pingRegistry [] []
        (.accept 1 2) (.succeeded []) |>.scheduled (.sendRequest 2 5 pingBytes countResponse false)
          |>.consumed pingRegistry [.accept 1 3, .receive 2] [] (.sendRequest 2 5 pingBytes countResponse false)
            (.succeeded [])
          |>.consumed pingRegistry [.accept 1 3] [.sendRequest 2 5 pingBytes countResponse true] (.receive 2)
            (.succeeded pongBytes)

/-- It connects to a server and sends it a request; the server answers. -/
def answeredScheduler : OperationScheduler ℕ :=
  let _ := referenceBallotin
  (((OperationScheduler.new 0).scheduled (.connect 1 "127.0.0.1" 8080 (fun _ _ => pure ()) false)).consumed pingRegistry
    [] [] (.connect 1 "127.0.0.1" 8080 (fun _ _ => pure ()) false) (.succeeded [])).consumed pingRegistry [] []
      (.connect 1 "127.0.0.1" 8080 (fun _ _ => pure ()) true) (.succeeded [])
        |>.scheduled (.sendRequest 1 5 pingBytes countResponse false)
        |>.consumed pingRegistry [.receive 1] [] (.sendRequest 1 5 pingBytes countResponse false) (.succeeded [])
        |>.consumed pingRegistry [] [.sendRequest 1 5 pingBytes countResponse true] (.receive 1) (.succeeded pongBytes)

theorem askingScheduler_reachable :
    @OperationScheduler.Reachable ℕ referenceBallotin pingRegistry askingScheduler := by
  let _ := referenceBallotin
  have hlistening := ((OperationScheduler.Run.initial (R := OperationScheduler.Step pingRegistry) 0).step
    (.outcomes _ { identifiersTaken := [1] })).step
      (.schedule _ (.listen 1 "127.0.0.1" 8080 fun _ _ => pure ()) rfl rfl)
  have hopened := hlistening.step (.consume _ [] [] _ (.succeeded []) rfl rfl fun _ => rfl)
  have haccepted := hopened.step (.consume _ [] [] (.accept 1 2) (.succeeded []) rfl rfl nofun)
  have hasking := haccepted.step (.schedule _ (.sendRequest 2 5 pingBytes countResponse false) rfl rfl)
  have hasked := hasking.step (.consume _ [.accept 1 3, .receive 2] [] _ (.succeeded []) rfl rfl fun _ => rfl)
  exact hasked.step (.consume _ [.accept 1 3] [.sendRequest 2 5 pingBytes countResponse true] (.receive 2)
    (.succeeded pongBytes) rfl rfl nofun)

theorem answeredScheduler_reachable :
    @OperationScheduler.Reachable ℕ referenceBallotin pingRegistry answeredScheduler := by
  let _ := referenceBallotin
  have hconnecting := ((OperationScheduler.Run.initial (R := OperationScheduler.Step pingRegistry) 0).step
    (.schedule _ (.connect 1 "127.0.0.1" 8080 (fun _ _ => pure ()) false) rfl rfl)).step
      (.consume _ [] [] _ (.succeeded []) rfl rfl fun _ => rfl)
  have hconnected := hconnecting.step (.consume _ [] [] _ (.succeeded []) rfl rfl nofun)
  have hasking := hconnected.step (.schedule _ (.sendRequest 1 5 pingBytes countResponse false) rfl rfl)
  have hasked := hasking.step (.consume _ [.receive 1] [] _ (.succeeded []) rfl rfl fun _ => rfl)
  exact hasked.step (.consume _ [] [.sendRequest 1 5 pingBytes countResponse true] (.receive 1)
    (.succeeded pongBytes) rfl rfl nofun)

end Windows

/-- A client that a server has accepted answers its request while both sockets are there, and the
consumer of the request is not called. -/
theorem acceptedHandlers_ignored :
    (¬ ∀ (registry : ProtocolRegistry) (l : Linux.EventLoop ℕ),
      @Linux.EventLoop.Reachable ℕ referenceBallotin registry l → DistinctIdentifiers l.world.history →
      ∀ (id : SocketIdentifier) (s : Linux.Socket ℕ), l.world.sockets[id]? = some s →
        s.socket.socketType = .accepted ∨ s.socket.socketType = .connected →
        (s.listeningSocketIdentifier ≠ invalidSocketIdentifier →
          l.world.sockets.contains s.listeningSocketIdentifier = true) →
        HandlersInvoked id l.world.history) ∧
    ¬ ∀ (registry : ProtocolRegistry) (l : Windows.OperationScheduler ℕ),
      @Windows.OperationScheduler.Reachable ℕ referenceBallotin registry l → DistinctIdentifiers l.world.history →
      ∀ (id : SocketIdentifier) (s : Windows.Socket ℕ), l.world.sockets[id]? = some s →
        s.pendingAccept = false → s.socket.acceptFunction = false →
        (s.listeningSocketIdentifier ≠ invalidSocketIdentifier →
          l.world.sockets.contains s.listeningSocketIdentifier = true) →
        HandlersInvoked id l.world.history := by
  constructor
  · intro hclaim
    refine not_invoked_of_lastAnswered (by decide +kernel) (hclaim pingRegistry askingLoop askingLoop_reachable
      (by decide +kernel) 2 (askingLoop.world.sockets[2]?.get (by decide +kernel)) (Option.some_get _).symm
      (by decide +kernel) fun _ => by decide +kernel)
  · intro hclaim
    refine not_invoked_of_lastAnswered (by decide +kernel) (hclaim pingRegistry askingScheduler
      askingScheduler_reachable (by decide +kernel) 2 (askingScheduler.world.sockets[2]?.get (by decide +kernel))
      (Option.some_get _).symm (by decide +kernel) (by decide +kernel) fun _ => by decide +kernel)

/-- A server answers the requests of the sockets that have connected to it. -/
theorem answeredRequests_invoked :
    (HandlersInvoked 1 answeredLoop.world.history ∧ lastAnswered 1 answeredLoop.world.history = some true) ∧
    HandlersInvoked 1 answeredScheduler.world.history ∧
      lastAnswered 1 answeredScheduler.world.history = some true := by
  let _ := referenceBallotin
  obtain ⟨hlinux, hwindows⟩ := connectedHandlers_invoked (υ := ℕ) pingRegistry 1
  have hlinuxInserted : answeredLoop.world.history.head? = some (.socketInserted 1 .connect) := rfl
  have hwindowsInserted : answeredScheduler.world.history.head? = some (.socketInserted 1 .connect) := rfl
  exact ⟨⟨hlinux answeredLoop answeredLoop_reachable (by decide +kernel) (List.mem_of_mem_head? hlinuxInserted),
      by decide +kernel⟩,
    hwindows answeredScheduler answeredScheduler_reachable (by decide +kernel) (List.mem_of_mem_head? hwindowsInserted),
    by decide +kernel⟩

end Farseer
