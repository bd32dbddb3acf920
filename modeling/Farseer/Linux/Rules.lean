import Farseer.Linux.Lifetime

/-! What the operations of the container are made of. A relation between worlds that allows a few
elementary changes allows all that the container does with its sockets; every invariant of the
container is such a relation. -/

namespace Farseer.Linux

open Kernel

theorem recv_idle (k : Kernel) : Program.Within Idle recv k := by
  refine within_draw (fun outcome k => ?_) k
  cases outcome <;> exact .pure _

theorem receiveLoop_idle (fuel : ℕ) (result : List UInt8) (k : Kernel) :
    Program.Within Idle (LinuxSocket.receiveLoop fuel result) k := by
  induction fuel generalizing result k with
  | zero => exact .throw _
  | succ fuel ih =>
    rw [LinuxSocket.receiveLoop]
    refine .bind (recv_idle k) fun outcome t _ => ?_
    split
    · exact .pure _
    · exact ih _ _
    · exact .pure _
    · exact .throw _

theorem receiveBytes_idle (s : LinuxSocket) (k : Kernel) : Program.Within Idle s.receiveBytes k := by
  unfold LinuxSocket.receiveBytes
  split_ifs
  · exact .throw _
  · exact .get_bind (receiveLoop_idle _ _ _)

namespace SocketContainer

variable {υ : Type} {w : World υ}

theorem onKernel_ok {α : Type} {x : KernelM α} {a : α} {k' : Kernel} (h : x w.kernel = .ok a k') :
    onKernel x w = .ok a { w with kernel := k' } := by
  rw [onKernel, Program.zoom, h]

theorem onKernel_error {α : Type} {x : KernelM α} {e : Exception} {k' : Kernel} (h : x w.kernel = .error e k') :
    onKernel x w = .error e { w with kernel := k' } := by
  rw [onKernel, Program.zoom, h]

theorem onProtocolReader_ok {id : SocketIdentifier} {s : Socket υ} (hs : w.sockets[id]? = some s)
    {x : EStateM Exception (ProtocolReader υ) Unit} {protocolReader : ProtocolReader υ}
    (h : x s.protocolReader = .ok () protocolReader) :
    onProtocolReader id x w = .ok () (w.updateSocket id fun s => { s with protocolReader }) := by
  rw [onProtocolReader, hs]
  dsimp only
  rw [h]

theorem onProtocolReader_error {id : SocketIdentifier} {s : Socket υ} (hs : w.sockets[id]? = some s)
    {x : EStateM Exception (ProtocolReader υ) Unit} {e : Exception} {protocolReader : ProtocolReader υ}
    (h : x s.protocolReader = .error e protocolReader) :
    onProtocolReader id x w = .error e (w.updateSocket id fun s => { s with protocolReader }) := by
  rw [onProtocolReader, hs]
  dsimp only
  rw [h]

theorem dereference_cases (id : SocketIdentifier) (w : World υ) :
    (∃ s, w.sockets[id]? = some s ∧ dereference id w = .ok s w) ∨
      (w.sockets[id]? = none ∧ dereference id w = .error .danglingReference w) := by
  rw [dereference, Program.bind_ok Program.get_apply]
  cases hs : w.sockets[id]? with
  | none => exact .inr ⟨rfl, rfl⟩
  | some s => exact .inl ⟨s, rfl, rfl⟩

theorem dereference_ok {id : SocketIdentifier} {s : Socket υ} {w' : World υ} (h : dereference id w = .ok s w') :
    w.sockets[id]? = some s ∧ w' = w := by
  rcases dereference_cases id w with ⟨s', hs, hok⟩ | ⟨-, herror⟩
  · rw [hok] at h
    cases h
    exact ⟨hs, rfl⟩
  · rw [herror] at h
    cases h

theorem dereference_some {id : SocketIdentifier} {s : Socket υ} (hs : w.sockets[id]? = some s) :
    dereference id w = .ok s w := by
  rcases dereference_cases id w with ⟨s', hs', hok⟩ | ⟨hnone, -⟩
  · rw [hs] at hs'
    cases hs'
    exact hok
  · rw [hs] at hnone
    cases hnone

theorem getSocketOrThrow_cases (id : SocketIdentifier) (w : World υ) :
    (w.sockets.contains id = true ∧ getSocketOrThrow id w = .ok id w) ∨
      ∃ e, w.sockets[id]? = none ∧ getSocketOrThrow id w = .error e w := by
  rw [getSocketOrThrow, Program.bind_ok Program.get_apply]
  split_ifs with h
  · exact .inl ⟨h, rfl⟩
  · refine .inr ⟨_, ?_, rfl⟩
    rw [Table.contains_eq] at h
    simpa using h

theorem getSocketOrThrow_some {id : SocketIdentifier} {s : Socket υ} (hs : w.sockets[id]? = some s) :
    getSocketOrThrow id w = .ok id w := by
  rcases getSocketOrThrow_cases id w with ⟨-, hok⟩ | ⟨e, hnone, -⟩
  · exact hok
  · rw [hs] at hnone
    cases hnone

theorem getSocketOrThrow_ok {id id' : SocketIdentifier} {w' : World υ}
    (h : getSocketOrThrow id w = .ok id' w') : id' = id ∧ w' = w := by
  rcases getSocketOrThrow_cases id w with ⟨-, hok⟩ | ⟨e, -, herror⟩
  · rw [hok] at h
    cases h
    exact ⟨rfl, rfl⟩
  · rw [herror] at h
    cases h

theorem generateSocketIdentifier_ok (w : World υ) (k : Kernel) : ∃ id k' next,
    generateSocketIdentifier { w with kernel := k } =
        .ok id { w with kernel := k', nextSocketIdentifier := next } ∧
      Idle k k' := by
  obtain ⟨taken, k', hdraw, hidle⟩ := draw_idle Script.identifiersTaken
    (fun identifiersTaken script => { script with identifiersTaken }) 0 k
  refine ⟨(w.nextSocketIdentifier + taken) % 2 ^ 64, k',
    ((w.nextSocketIdentifier + taken) % 2 ^ 64 + 1) % 2 ^ 64, ?_, hidle⟩
  rw [generateSocketIdentifier, Program.bind_ok (onKernel_ok (w := { w with kernel := k }) hdraw)]
  rfl

/-- What a relation must allow so that sockets can come and go. -/
structure Lifecycle (R : World υ → World υ → Prop) : Prop where
  /-- a call of the kernel left nothing behind -/
  kernel : ∀ (w : World υ) (k' : Kernel), LinuxSocket.LeftNothing w.kernel k' → R w { w with kernel := k' }
  /-- user code ran -/
  user : ∀ (w : World υ) (user : υ), R w { w with user }
  notified : ∀ (w : World υ) (s : SocketIdentifier) (event : SocketEvent) (argument : SocketIdentifier),
    R w (w.record (.notified s event argument))
  /-- identifiers were generated -/
  numbered : ∀ (w : World υ) (next : SocketIdentifier), R w { w with nextSocketIdentifier := next }
  /-- a socket on a new descriptor was inserted, or could not be -/
  inserted : ∀ (w : World υ) (k' : Kernel) (id listener : SocketIdentifier) (s : LinuxSocket)
    (callback : ConnectionCallback υ) (events : UInt32), Opened w.kernel k' s.socket → s.outgoingBuffer = [] →
    R w (Program.final (insertSocket events (newSocket id listener s callback) { w with kernel := k' }))
  removed : ∀ (w : World υ) (id : SocketIdentifier), R w (removeSocket id w)

/-- The same for relations that speak about the calls of connection callbacks: a socket comes or
goes together with the call that reports it. -/
structure Housekeeping (R : World υ → World υ → Prop) : Prop where
  kernel : ∀ (w : World υ) (k' : Kernel), LinuxSocket.LeftNothing w.kernel k' → R w { w with kernel := k' }
  erased : ∀ (w : World υ) (id : SocketIdentifier), Program.Within R (eraseSocket id) w
  accepted : ∀ (w : World υ) (socket : SocketIdentifier) (s : Socket υ) (k' : Kernel) (candidate : LinuxSocket),
    w.sockets[socket]? = some s → s.socket.socketType = .listening →
    LinuxSocket.New .accepted w.kernel k' candidate →
    R w (Program.final (insertAccepted socket candidate { w with kernel := k' }))

/-- What a relation must allow so that the events of a connected socket can be handled. -/
structure Serving [Ballotin] (registry : ProtocolRegistry) (socket : SocketIdentifier)
    (R : World υ → World υ → Prop) : Prop where
  kernel : ∀ (w : World υ) (k' : Kernel), LinuxSocket.LeftNothing w.kernel k' → R w { w with kernel := k' }
  erased : ∀ (w : World υ) (id : SocketIdentifier), Program.Within R (eraseSocket id) w
  received : ∀ (w : World υ) (bytes : List UInt8),
    R w (w.updateSocket socket fun s => { s with inboundBytes := s.inboundBytes ++ bytes })
  read : ∀ w : World υ, Program.Within R (readWithItsReader registry socket) w
  sent : ∀ (w : World υ) (bytes : List UInt8), Program.Within R (sendBytesTo socket bytes) w
  answered : ∀ w : World υ, R w (w.updateSocket socket fun s => { s with outboundBytes := [] })

/-- The same for the events of any socket. -/
structure Handling [Ballotin] (registry : ProtocolRegistry) (socket : SocketIdentifier)
    (R : World υ → World υ → Prop) : Prop extends Housekeeping R, Serving registry socket R where
  connecting : ∀ (w : World υ) (s : Socket υ), w.sockets[socket]? = some s → s.socket.socketType = .connecting →
    Program.Within R (handleConnectingSocketEvents socket) w

variable {R : World υ → World υ → Prop} [IsPreorder (World υ) R]

theorem dereference_within (id : SocketIdentifier) : Program.Within R (dereference id) w := by
  rcases dereference_cases id w with ⟨s, -, hok⟩ | ⟨-, herror⟩
  · exact .of_ok hok (refl_of R w)
  · exact .of_error herror (refl_of R w)

theorem getSocketOrThrow_within (id : SocketIdentifier) : Program.Within R (getSocketOrThrow id) w := by
  rcases getSocketOrThrow_cases id w with ⟨-, hok⟩ | ⟨e, -, herror⟩
  · exact .of_ok hok (refl_of R w)
  · exact .of_error herror (refl_of R w)

omit [IsPreorder (World υ) R] in
theorem onKernel_within {α : Type} {x : KernelM α} (hx : Program.Within Idle x w.kernel)
    (hkernel : ∀ k' : Kernel, LinuxSocket.LeftNothing w.kernel k' → R w { w with kernel := k' }) :
    Program.Within R (onKernel x) w := by
  unfold onKernel Program.Within Program.zoom
  cases hrun : x w.kernel with
  | ok a k => exact hkernel k (.inl (hx.ok hrun))
  | error e k => exact hkernel k (.inl (hx.error hrun))

namespace Lifecycle

variable (h : Lifecycle R)

include h

omit [IsPreorder (World υ) R] in
theorem onUser {α : Type} (x : EStateM Exception υ α) : Program.Within R (onUser x) w := by
  unfold SocketContainer.onUser Program.Within Program.zoom
  cases x w.user <;> exact h.user w _

theorem notify (s : Socket υ) (event : SocketEvent) (id : SocketIdentifier) :
    Program.Within R (notify s event id) w :=
  .bind (.modify (h.notified w _ _ _)) fun _ _ _ => h.onUser _

theorem createAndInsert {α : Type} {type : SocketType} {x : KernelM LinuxSocket} (hx : LinuxSocket.Creates type x)
    (events : UInt32) (id listener : SocketIdentifier) (callback : ConnectionCallback υ)
    {f : SocketIdentifier → WorldM υ α} (hf : ∀ id t, Program.Within R (f id) t) :
    Program.Within R
      (SocketContainer.onKernel x >>= fun s => insertSocket events (newSocket id listener s callback) >>= f) w := by
  unfold Program.Within
  rcases hx w.kernel with ⟨s, k', hok, hnew⟩ | ⟨e, k', herror, hnothing⟩
  · refine Program.after_ok (onKernel_ok hok) ?_
    exact Program.after (h.inserted w k' id listener s callback events hnew.opened hnew.outgoingBuffer)
      fun id t _ => hf id t
  · exact Program.after_error (onKernel_error herror) (h.kernel w k' hnothing)

theorem listen (id : SocketIdentifier) (ipAddress : String) (port : ℕ) (callback : ConnectionCallback υ) :
    Program.Within R (listen id ipAddress port callback) w := by
  refine h.createAndInsert (LinuxSocket.listen_creates ipAddress port) _ _ _ _ fun id t => ?_
  exact .bind (dereference_within id) fun s u _ => h.notify _ _ _

theorem connect (id : SocketIdentifier) (ipAddress : String) (port : ℕ) (callback : ConnectionCallback υ) :
    Program.Within R (connect id ipAddress port callback) w :=
  h.createAndInsert (LinuxSocket.connect_creates ipAddress port) _ _ _ _ fun _ _ => .pure _

theorem notifyClosed (id : SocketIdentifier) (s : Socket υ) : Program.Within R (notifyClosed id s) w := by
  unfold SocketContainer.notifyClosed
  split_ifs
  · refine .get_bind ?_
    split
    · exact h.notify _ _ _
    · exact .pure _
  · exact h.notify _ _ _

theorem eraseSocket (id : SocketIdentifier) : Program.Within R (eraseSocket id) w := by
  cases hs : w.sockets[id]? with
  | none => exact .of_ok (eraseSocket_none hs) (refl_of R w)
  | some s => exact .of_ok (eraseSocket_some hs) (trans_of R (h.notifyClosed id s) (h.removed _ _))

/-- An accepted descriptor waits for its identifier before it is inserted. -/
theorem insertAccepted {socket : SocketIdentifier} {s : Socket υ} (hs : w.sockets[socket]? = some s) {k' : Kernel}
    {candidate : LinuxSocket} (hnew : LinuxSocket.New .accepted w.kernel k' candidate) :
    R w (Program.final (insertAccepted socket candidate { w with kernel := k' })) := by
  obtain ⟨id, k'', next, hgenerate, hidle⟩ := generateSocketIdentifier_ok w k'
  have hinsert := h.inserted { w with nextSocketIdentifier := next } k'' id s.socketIdentifier candidate noCallback
    (EPOLLIN ||| EPOLLET) (hnew.opened.idle hidle) hnew.outgoingBuffer
  refine Program.after_ok hgenerate (Program.after_ok (dereference_some hs) ?_)
  refine Program.after (trans_of R (h.numbered w next) hinsert) fun id' t _ => ?_
  exact .bind (dereference_within socket) fun s' u _ => h.notify _ _ _

theorem housekeeping : Housekeeping R where
  kernel := h.kernel
  erased _ id := h.eraseSocket id
  accepted _ _ _ _ _ hs _ hnew := h.insertAccepted hs hnew

end Lifecycle

namespace Housekeeping

variable (h : Housekeeping R)

include h

theorem acceptLoop (socket : SocketIdentifier) (fuel : ℕ) : Program.Within R (acceptLoop socket fuel) w := by
  induction fuel generalizing w with
  | zero => exact .throw _
  | succ fuel ih =>
    rcases dereference_cases socket w with ⟨s, hs, hok⟩ | ⟨-, herror⟩
    · refine Program.after_ok hok ?_
      rcases LinuxSocket.accept_cases s.socket w.kernel with ⟨k', haccept, hidle⟩ |
        ⟨c, k', hlistening, haccept, hnew⟩ |
        ⟨e, k', haccept, hnothing⟩
      · exact Program.after_ok (onKernel_ok haccept) (h.kernel w k' (.inl hidle))
      · refine Program.after_ok (onKernel_ok haccept) ?_
        exact Program.after (h.accepted w socket s k' c hs hlistening hnew) fun _ _ _ => ih
      · exact Program.after_error (onKernel_error haccept) (h.kernel w k' hnothing)
    · exact Program.after_error herror (refl_of R w)

end Housekeeping

namespace Serving

variable [Ballotin] {registry : ProtocolRegistry} {socket : SocketIdentifier} (h : Serving registry socket R)

include h

theorem sendOutboundBytes : Program.Within R (sendOutboundBytes socket) w := by
  refine .bind (dereference_within socket) fun s t _ => ?_
  split_ifs
  · exact .pure _
  · exact .bind (h.sent t _) fun _ u _ => .modify (h.answered u)

omit [IsPreorder (World υ) R] in
theorem receiveBytes (s : LinuxSocket) : Program.Within R (SocketContainer.onKernel s.receiveBytes) w :=
  onKernel_within (receiveBytes_idle s w.kernel) (h.kernel w)

theorem handleReadable : Program.Within R (handleReadable registry socket) w := by
  refine .bind (dereference_within socket) fun s t _ => ?_
  refine .bind (h.receiveBytes s.socket) fun received u _ => ?_
  refine .bind (.modify (h.received u _)) fun _ v _ => ?_
  refine .bind (h.read v) fun _ x _ => ?_
  refine .bind h.sendOutboundBytes fun _ y _ => ?_
  split_ifs
  · exact .bind (h.erased y _) fun _ z _ => .pure _
  · exact .pure _

theorem handleWritable (events : UInt32) : Program.Within R (handleWritable socket events) w := by
  unfold SocketContainer.handleWritable
  split_ifs
  · exact h.sent w []
  · exact .pure _

theorem handleConnectedSocketEvents (events : UInt32) :
    Program.Within R (handleConnectedSocketEvents registry socket events) w := by
  unfold SocketContainer.handleConnectedSocketEvents
  split_ifs
  · refine .bind h.handleReadable fun erased t _ => ?_
    split_ifs
    · exact .pure _
    · exact h.handleWritable events
  · exact h.handleWritable events

end Serving

namespace Handling

variable [Ballotin] {registry : ProtocolRegistry} {socket : SocketIdentifier} (h : Handling registry socket R)

include h

theorem handleSocketEventsWork (events : UInt32) :
    Program.Within R (handleSocketEventsWork registry socket events) w := by
  refine .bind (dereference_within socket) fun s t hrun => ?_
  obtain ⟨hs, rfl⟩ := dereference_ok hrun
  split_ifs
  · exact h.erased t _
  · exact h.erased t _
  · cases htype : s.socket.socketType with
    | accepted | connected => exact h.toServing.handleConnectedSocketEvents events
    | listening => exact .get_bind (h.toHousekeeping.acceptLoop socket _)
    | connecting => exact h.connecting t s hs htype
    | unbound => exact .throw _

end Handling

end SocketContainer

end Farseer.Linux
