import Farseer.Linux.Stream

/-! The bytes that are sent, over every run of the Linux provider. What the kernel took from a socket and what waits in
its buffer are all that was ever passed to it: the bytes of the tasks and the answers to the frames that it read. -/

namespace Farseer.Linux

variable {υ : Type} {r : FileDescriptor}

/-- What the kernel took from the socket, and then what waits in its buffer. -/
def LinuxSocket.stream (k : Kernel) (s : LinuxSocket) : Option (List UInt8) :=
  k.descriptors[s.socket]?.map fun d => d.transmitted ++ s.outgoingBuffer

/-- The outgoing streams of the sockets that are there. -/
def World.streams (w : World υ) (id : SocketIdentifier) : Option (List UInt8) :=
  w.sockets[id]?.bind fun s => s.socket.stream w.kernel

theorem World.streams_some {w : World υ} {id : SocketIdentifier} {s : Socket υ} (hs : w.sockets[id]? = some s) :
    w.streams id = s.socket.stream w.kernel := by
  rw [streams, hs]
  rfl

theorem World.streams_eq_some {w : World υ} {id : SocketIdentifier} {stream : List UInt8}
    (h : w.streams id = some stream) : ∃ s, w.sockets[id]? = some s ∧ s.socket.stream w.kernel = some stream :=
  Option.bind_eq_some_iff.mp h

theorem World.descriptor_open {w : World υ} (hvalid : w.table.Valid r) {id : SocketIdentifier} {s : Socket υ}
    (hs : w.sockets[id]? = some s) : ∃ d, w.kernel.descriptors[s.socket.socket]? = some d := by
  have hfd : w.table.byDescriptor s.socket.socket = some id :=
    hvalid.descriptors.mpr ⟨s.socketIdentifier, by rw [table_sockets, hs]; rfl⟩
  obtain ⟨n, hn⟩ := hvalid.opened (hvalid.subscribed.mpr (.inr ⟨id, hfd⟩))
  obtain ⟨d, hd, -⟩ := Option.map_eq_some_iff.mp hn
  exact ⟨d, hd⟩

/-- The descriptor table stays valid, and a socket has the stream that it had, or is new and has none. -/
def Relays (r : FileDescriptor) (w w' : World υ) : Prop :=
  w.table.Valid r → w'.table.Valid r ∧ ∃ more, w'.history = w.history ++ more ∧ CarriedOver [] more w.streams w'.streams

instance : IsPreorder (World υ) (Relays r) where
  refl w hvalid := ⟨hvalid, [], (List.append_nil _).symm, fun _ _ h => .inl h⟩
  trans w w' w'' h h' hvalid := by
    obtain ⟨hvalid', more, hmore, hcarried⟩ := h hvalid
    obtain ⟨hvalid'', more', hmore', hcarried'⟩ := h' hvalid'
    exact ⟨hvalid'', more ++ more', by rw [hmore', hmore, List.append_assoc], hcarried.trans hcarried'⟩

theorem Unmoved.streams {w w' : World υ} (h : Unmoved w w') : w'.streams = w.streams := by
  funext id
  have hstream : ∀ u : World υ, u.streams id =
      (u.sockets[id]?.map Socket.station).bind fun station => station.2.stream u.kernel := fun u => by
    rw [Option.bind_map]
    rfl
  rw [hstream, hstream, h.sockets]
  unfold LinuxSocket.stream
  rw [h.kernel.descriptors]

/-- The `LinuxSocket`s stay, and the history may grow. -/
structure Silent (w w' : World υ) : Prop extends Unmoved w w' where
  grows : w.history <+: w'.history

instance : IsPreorder (World υ) Silent where
  refl w := ⟨refl_of Unmoved w, List.prefix_rfl⟩
  trans _ _ _ h h' := ⟨trans_of Unmoved h.toUnmoved h'.toUnmoved, h.grows.trans h'.grows⟩

theorem Silent.of_sockets {w w' : World υ} (hsockets : w'.sockets = w.sockets)
    (hmap : w'.fileDescriptorsToSockets = w.fileDescriptorsToSockets) (hkernel : Kernel.Idle w.kernel w'.kernel)
    (hgrows : w.history <+: w'.history) : Silent w w' := ⟨.of_sockets hsockets hmap hkernel, hgrows⟩

theorem Silent.updateSocket {f : Socket υ → Socket υ} (id : SocketIdentifier) (w : World υ)
    (hf : ∀ s, (f s).station = s.station) : Silent w (w.updateSocket id f) :=
  ⟨.updateSocket id w hf, List.prefix_rfl⟩

theorem Silent.record (event : ContainerEvent υ) (w : World υ) : Silent w (w.record event) :=
  .of_sockets rfl rfl (refl_of Kernel.Idle _) (List.prefix_append _ _)

theorem Silent.relays {w w' : World υ} (h : Silent w w') : Relays r w w' := by
  intro hvalid
  obtain ⟨more, hmore⟩ := h.grows
  exact ⟨hvalid.steps (h.evolves hvalid), more, hmore.symm, fun id stream hid => .inl (by rwa [h.streams] at hid)⟩

namespace SocketContainer

variable {w : World υ}

/-- A new socket has a new descriptor, from which nothing was taken yet. -/
theorem insertSocket_relays {k' : Kernel} {socket : Socket υ} (hopened : Kernel.Opened w.kernel k' socket.socket.socket)
    (hbuffer : socket.socket.outgoingBuffer = []) (events : UInt32) :
    Relays r w (Program.final (insertSocket events socket { w with kernel := k' })) := by
  intro hvalid
  refine ⟨hvalid.steps (insertSocket_evolves hopened events hvalid), ?_⟩
  obtain ⟨hsub, hmap⟩ := unused_lookup hvalid hopened.free
  have hopen : k'.descriptors.contains socket.socket.socket = true := by
    rw [Table.contains_eq, hopened.descriptors, Table.lookup_insert, if_pos rfl]
    rfl
  have hold : ∀ {t : World υ} {id' : SocketIdentifier} {s' : Socket υ} {stream : List UInt8},
      w.sockets[id']? = some s' → t.kernel.descriptors[s'.socket.socket]? = w.kernel.descriptors[s'.socket.socket]? →
        s'.socket.stream t.kernel = some stream → w.streams id' = some stream := fun hs' hsame hstream => by
    rwa [World.streams_some hs', LinuxSocket.stream, ← hsame]
  -- a socket that was there has another descriptor than the new one
  have hne : ∀ {id' : SocketIdentifier} {s' : Socket υ}, w.sockets[id']? = some s' →
      socket.socket.socket ≠ s'.socket.socket := by
    intro id' s' hs' heq
    have hfound := ((World.Consistent.of_valid hvalid).descriptors s'.socket.socket id').mpr ⟨s', hs', rfl⟩
    rw [← heq, hmap] at hfound
    cases hfound
  rcases insertSocket_cases (w := { w with kernel := k' }) events hopen (by rw [← hsub, hopened.interestList]) hmap
    with ⟨script, -, hok⟩ | ⟨e, w', herror, hdiscarded⟩
  · rw [hok]
    refine ⟨_, rfl, .of_event fun id' stream hid' => ?_⟩
    obtain ⟨s', hs', hstream⟩ := World.streams_eq_some hid'
    rcases Table.lookup_insert_some hs' with ⟨rfl, rfl⟩ | ⟨-, hs'⟩
    · refine .inr ⟨?_, rfl⟩
      change k'.descriptors[s'.socket.socket]?.map _ = some stream at hstream
      rw [hopened.descriptors, Table.lookup_insert, if_pos rfl, Option.map_some, Option.some_inj] at hstream
      rw [← hstream]
      exact hbuffer
    · refine .inl (hold hs' ?_ hstream)
      change k'.descriptors[s'.socket.socket]? = _
      rw [hopened.descriptors, Table.lookup_insert, if_neg (hne hs')]
  · rw [herror]
    refine ⟨[], by rw [List.append_nil]; exact hdiscarded.history, fun id' stream hid' => .inl ?_⟩
    obtain ⟨s', hs', hstream⟩ := World.streams_eq_some hid'
    rw [Program.final, show w'.sockets = w.sockets from hdiscarded.sockets] at hs'
    refine hold hs' ?_ hstream
    rw [Program.final, hdiscarded.descriptors]
    change (k'.descriptors.erase socket.socket.socket)[s'.socket.socket]? = _
    rw [hopened.descriptors, Table.erase_insert hopened.free]

theorem removeSocket_relays (id : SocketIdentifier) : Relays r w (removeSocket id w) := by
  refine fun hvalid => ⟨hvalid.steps (removeSocket_evolves id hvalid), [], ?_⟩
  cases hs : w.sockets[id]? with
  | none =>
    rw [removeSocket, hs]
    exact ⟨(List.append_nil _).symm, fun _ _ h => .inl h⟩
  | some s =>
    obtain ⟨script, hremoved⟩ := removeSocket_eq hs
    rw [hremoved]
    refine ⟨(List.append_nil _).symm, fun id' stream hid' => .inl ?_⟩
    obtain ⟨s', hs', hstream⟩ := World.streams_eq_some hid'
    obtain ⟨hne, hs'⟩ := Table.lookup_erase_some hs'
    have hfd : s.socket.socket ≠ s'.socket.socket := fun heq =>
      hne ((World.Consistent.of_valid hvalid).distinct id id' s s' hs hs' heq).symm
    rw [World.streams_some hs', ← hstream]
    change w.kernel.descriptors[s'.socket.socket]?.map _ =
      (w.kernel.descriptors.erase s.socket.socket)[s'.socket.socket]?.map _
    rw [Table.lookup_erase, if_neg hfd]

theorem relays_lifecycle : Lifecycle (Relays (υ := υ) r) where
  kernel w k' hnothing := by
    rcases hnothing with hidle | ⟨fd, hclosed⟩
    · exact Silent.relays (.of_sockets rfl rfl hidle List.prefix_rfl)
    · refine fun hvalid => ⟨hvalid.steps (closed_evolves hclosed hvalid), [], (List.append_nil _).symm,
        fun id stream hid => .inl ?_⟩
      rw [← hid]
      change (w.sockets[id]?.bind fun s => s.socket.stream w.kernel) = w.sockets[id]?.bind fun s => s.socket.stream k'
      unfold LinuxSocket.stream
      rw [hclosed.descriptors]
  user _ _ := Silent.relays (.of_sockets rfl rfl (refl_of Kernel.Idle _) List.prefix_rfl)
  notified w _ _ _ := Silent.relays (.record _ w)
  numbered _ _ := Silent.relays (.of_sockets rfl rfl (refl_of Kernel.Idle _) List.prefix_rfl)
  inserted _ _ _ _ _ _ events hopened hbuffer := insertSocket_relays hopened hbuffer events
  removed _ id := removeSocket_relays id

/-- A connecting socket that is connected keeps its stream. -/
theorem handleConnectingSocketEvents_relays (id : SocketIdentifier) :
    Program.Within (Relays r) (handleConnectingSocketEvents id) w := by
  have hsame : ∀ t u : World υ, u.history = t.history → u.streams = t.streams → Keeps t u → Relays r t u :=
    fun t u hhistory hstreams hkeeps hvalid => ⟨hvalid.steps (hkeeps.evolves hvalid), [],
      by rw [hhistory, List.append_nil], fun id stream hid => .inl (by rwa [hstreams] at hid)⟩
  refine .bind (dereference_within id) fun s t _ => .bind ?_ fun _ u _ => .bind (.modify ?_) fun _ v _ =>
    relays_lifecycle.notify _ _ _
  · have hkeeps := onKernel_keeps (w := t) (setEvents_alike s.socket.socket (EPOLLIN ||| EPOLLET) t.kernel)
    obtain ⟨script, ⟨-, hset⟩ | ⟨e, hset, -⟩⟩ := setEvents_cases s.socket.socket (EPOLLIN ||| EPOLLET) t.kernel
    · exact .of_ok (onKernel_ok hset) (hsame _ _ rfl rfl (hkeeps.ok (onKernel_ok hset)))
    · exact .of_error (onKernel_error hset) (hsame _ _ rfl rfl (hkeeps.error (onKernel_error hset)))
  · refine hsame _ _ rfl (funext fun id' => ?_) (.updateSocket id u fun _ _ => rfl)
    change ((u.sockets.modify id _)[id']?).bind _ = (u.sockets[id']?).bind _
    rw [Table.lookup_modify]
    split_ifs with heq
    · rw [heq, Option.bind_map]
      rfl
    · rfl

/-- Bytes were passed to a socket, which is still there. -/
structure Submits (r : FileDescriptor) (id : SocketIdentifier) (bytes : List UInt8) (w t : World υ) : Prop where
  valid : t.table.Valid r
  grows : w.history <+: t.history
  streams : t.streams = Function.update w.streams id ((w.streams id).map (· ++ bytes))
  established : ∃ s, t.sockets[id]? = some s ∧ s.socketIdentifier = id ∧ s.socket.isEstablished = true

namespace Submits

variable {id : SocketIdentifier} {bytes bytes' : List UInt8} {t u : World υ}

theorem nothing (hvalid : w.table.Valid r)
    (hs : ∃ s, w.sockets[id]? = some s ∧ s.socketIdentifier = id ∧ s.socket.isEstablished = true) :
    Submits r id [] w w := by
  refine ⟨hvalid, List.prefix_rfl, ?_, hs⟩
  have hnil : (w.streams id).map (· ++ []) = w.streams id := by simp
  rw [hnil, Function.update_eq_self]

theorem trans (h : Submits r id bytes w t) (h' : Submits r id bytes' t u) : Submits r id (bytes ++ bytes') w u := by
  refine ⟨h'.valid, h.grows.trans h'.grows, ?_, h'.established⟩
  rw [h'.streams, h.streams, Function.update_self, Function.update_idem, Option.map_map]
  simp [Function.comp_def]

theorem silent (h : Submits r id bytes w t) (hsilent : Silent t u) : Submits r id bytes w u := by
  refine ⟨h.valid.steps (hsilent.evolves h.valid), h.grows.trans hsilent.grows, by rw [hsilent.streams, h.streams], ?_⟩
  obtain ⟨s, hs, hid, hestablished⟩ := h.established
  have hstation := hsilent.sockets id
  rw [hs] at hstation
  obtain ⟨s', hs', heq⟩ := Option.map_eq_some_iff.mp hstation
  rw [Socket.station, Socket.station, Prod.mk.injEq] at heq
  exact ⟨s', hs', heq.1.trans hid, by rw [heq.2, hestablished]⟩

end Submits

variable {id : SocketIdentifier}

/-- A call on an established socket: the kernel takes some bytes from the front, and the rest stays in the buffer. -/
theorem sendBytesTo_called {s : Socket υ} (hs : w.sockets[id]? = some s)
    (hestablished : s.socket.isEstablished = true) (bytes : List UInt8) : ∃ (m : ℕ) (k' : Kernel),
      k'.descriptors =
        (w.kernel.transmit s.socket.socket ((s.socket.outgoingBuffer ++ bytes).take m)).descriptors ∧
      Program.final (sendBytesTo id bytes w) =
        called id { s.socket with outgoingBuffer := (s.socket.outgoingBuffer ++ bytes).drop m } k' w := by
  obtain ⟨m, k', htook, -, hsent | ⟨rfl, -, e, -, herror⟩⟩ :=
    LinuxSocket.sendBytes_established hestablished bytes w.kernel
  · set l : LinuxSocket := { s.socket with outgoingBuffer := (s.socket.outgoingBuffer ++ bytes).drop m }
    have hcalled : onLinuxSocket id (LinuxSocket.sendBytes bytes) w =
        .ok l.outgoingBuffer.isEmpty (called id l k' w) := by
      rw [onLinuxSocket, hs]
      dsimp only
      rw [hsent]
      rfl
    -- however the events are set, no more bytes are taken
    have hset : ∃ k'' : Kernel, k''.descriptors = k'.descriptors ∧
        Program.final (onKernel (υ := υ) (EventPoll.setEvents l.socket (eventsAfterSending l.outgoingBuffer.isEmpty))
          (called id l k' w)) = called id l k'' w := by
      obtain ⟨script, ⟨-, hevents⟩ | ⟨e, hevents, -⟩⟩ :=
        setEvents_cases l.socket (eventsAfterSending l.outgoingBuffer.isEmpty) k'
      · refine ⟨_, ?_, congrArg Program.final (onKernel_ok (w := called id l k' w) hevents)⟩
        rfl
      · refine ⟨_, ?_, congrArg Program.final (onKernel_error (w := called id l k' w) hevents)⟩
        rfl
    obtain ⟨k'', hdescriptors, hfinal⟩ := hset
    refine ⟨m, k'', hdescriptors.trans htook.descriptors, ?_⟩
    rw [sendBytesTo, Program.bind_ok hcalled, Program.bind_ok (dereference_some (called_self hs l k'))]
    exact hfinal
  · have hcalled : onLinuxSocket id (LinuxSocket.sendBytes bytes) w =
        .error (.internalSocketError ("Error sending bytes to socket: " ++ e))
          (called id { s.socket with outgoingBuffer := s.socket.outgoingBuffer ++ bytes } k' w) := by
      rw [onLinuxSocket, hs]
      dsimp only
      rw [herror]
      rfl
    exact ⟨0, k', htook.descriptors, congrArg Program.final (Program.bind_error hcalled)⟩

/-- However a call ends on an established socket, its bytes are behind the stream. -/
theorem sendBytesTo_submits (hvalid : w.table.Valid r) {s : Socket υ} (hs : w.sockets[id]? = some s)
    (hid : s.socketIdentifier = id) (hestablished : s.socket.isEstablished = true) (bytes : List UInt8) :
    Submits r id bytes w (Program.final (sendBytesTo id bytes w)) := by
  have hvalid' := sendBytesTo_valid id bytes hvalid
  obtain ⟨m, k', hdescriptors, hfinal⟩ := sendBytesTo_called hs hestablished bytes
  rw [hfinal] at hvalid' ⊢
  set l : LinuxSocket := { s.socket with outgoingBuffer := (s.socket.outgoingBuffer ++ bytes).drop m } with hl
  have hself := called_self hs l k'
  refine ⟨hvalid', List.prefix_rfl, funext fun id' => ?_, _, hself, hid, hestablished⟩
  by_cases hne : id' = id
  · obtain ⟨d, hd⟩ := World.descriptor_open hvalid hs
    subst hne
    rw [Function.update_self, World.streams_some hself, World.streams_some hs]
    change k'.descriptors[s.socket.socket]?.map (fun d => d.transmitted ++ l.outgoingBuffer) = _
    rw [hdescriptors, Kernel.transmit, Table.lookup_modify, if_pos rfl, LinuxSocket.stream, hd, hl]
    simp only [Option.map_some, List.append_assoc, List.take_append_drop]
  · rw [Function.update_of_ne hne, World.streams, World.streams, called_other hne]
    cases hs' : w.sockets[id']? with
    | none => rfl
    | some s' =>
      have hfd : s.socket.socket ≠ s'.socket.socket := fun heq =>
        hne ((World.Consistent.of_valid hvalid).distinct id id' s s' hs hs' heq).symm
      change k'.descriptors[s'.socket.socket]?.map _ = w.kernel.descriptors[s'.socket.socket]?.map _
      rw [hdescriptors, Kernel.transmit, Table.lookup_modify, if_neg hfd]

theorem onKernel_silent {α : Type} {x : KernelM α} (h : Program.Within Kernel.Idle x w.kernel) :
    Program.Within Silent (onKernel x) w := by
  unfold onKernel Program.Within Program.zoom
  cases hx : x w.kernel with
  | ok a k => exact .of_sockets rfl rfl (h.ok hx) List.prefix_rfl
  | error e k => exact .of_sockets rfl rfl (h.error hx) List.prefix_rfl

theorem onProtocolReader_silent (id : SocketIdentifier) (x : EStateM Exception (ProtocolReader υ) Unit) :
    Program.Within Silent (onProtocolReader id x) w := by
  rw [Program.Within, onProtocolReader]
  cases w.sockets[id]? with
  | none => exact refl_of Silent w
  | some s =>
    dsimp only
    cases x s.protocolReader <;> exact .updateSocket id w fun _ => rfl

theorem receiveInbound_silent (id : SocketIdentifier) : Program.Within Silent (receiveInbound id) w := by
  refine .bind (dereference_within id) fun s t _ => .bind (onKernel_silent (receiveBytes_idle s.socket t.kernel))
    fun received u _ => .bind (.modify (.updateSocket id u fun _ => rfl)) fun _ v _ => ?_
  refine .bind (.bind (dereference_within id) fun s x _ => ?_) fun reader x _ => .pure _
  split_ifs
  · exact getSocketOrThrow_within _
  · exact .pure _

section Turn

variable [Ballotin] {registry : ProtocolRegistry}

theorem readInboundBytes_silent (reader id : SocketIdentifier) :
    Program.Within Silent (readInboundBytes registry reader id) w := by
  have hunmoved := readInboundBytes_unmoved (w := w) registry reader id
  refine ⟨hunmoved, ?_⟩
  rw [readInboundBytes]
  split
  · dsimp only
    split
    · exact List.prefix_append _ _
    · exact List.prefix_append _ _
  · exact List.prefix_rfl

variable (registry) in
/-- The answers to the frames that are read while the events are handled. -/
def bytesAnswered (id : SocketIdentifier) (s : Socket υ) (events : UInt32) (w : World υ) : List UInt8 :=
  if Receives s events then
    match (receiveInbound id >>= fun received => readInboundBytes registry received.1 id) w with
    | .ok _ t => (t.sockets[id]?.map Socket.outboundBytes).getD []
    | .error .. => []
  else []

omit [Ballotin] in
theorem sendBytesTo_within (hw : ∃ s, w.sockets[id]? = some s ∧ s.socketIdentifier = id ∧ s.socket.isEstablished = true)
    (hvalid : w.table.Valid r) (bytes : List UInt8) :
    Program.Within (Submits r id bytes) (sendBytesTo id bytes) w := by
  obtain ⟨s, hs, hid, hestablished⟩ := hw
  exact sendBytesTo_submits hvalid hs hid hestablished bytes

omit [Ballotin] in
theorem sendOutboundBytes_submits (hvalid : w.table.Valid r) {s : Socket υ} (hs : w.sockets[id]? = some s)
    (hid : s.socketIdentifier = id) (hestablished : s.socket.isEstablished = true) :
    Program.Within (Submits r id s.outboundBytes) (sendOutboundBytes id) w := by
  have hstart : Submits r id [] w w := .nothing hvalid ⟨s, hs, hid, hestablished⟩
  rw [Program.Within, sendOutboundBytes, Program.bind_ok (dereference_some hs)]
  split_ifs with hempty
  · rw [List.isEmpty_iff.mp hempty]
    exact hstart
  · have hsent := sendBytesTo_submits hvalid hs hid hestablished s.outboundBytes
    cases hrun : sendBytesTo id s.outboundBytes w with
    | error e t =>
      rw [Program.bind_error hrun]
      rw [hrun] at hsent
      exact hsent
    | ok _ t =>
      rw [Program.bind_ok hrun]
      rw [hrun] at hsent
      exact hsent.silent (.updateSocket id t fun _ => rfl)

omit [Ballotin] in
theorem handleWritable_submits (hvalid : w.table.Valid r)
    (hs : ∃ s, w.sockets[id]? = some s ∧ s.socketIdentifier = id ∧ s.socket.isEstablished = true) (events : UInt32) :
    Program.Within (Submits r id []) (handleWritable id events) w := by
  unfold handleWritable
  split_ifs
  · exact sendBytesTo_within hs hvalid []
  · exact Submits.nothing hvalid hs

theorem untilRemoval_submits (hvalid : w.table.Valid r) {s : Socket υ} (hs : w.sockets[id]? = some s)
    (hid : s.socketIdentifier = id) (hestablished : s.socket.isEstablished = true) (events : UInt32) :
    Program.Within (Submits r id (bytesAnswered registry id s events w)) (untilRemoval registry id events) w := by
  have hstart : Submits r id [] w w := .nothing hvalid ⟨s, hs, hid, hestablished⟩
  have hwritable : ∀ {t : World υ} {bytes : List UInt8}, Submits r id bytes w t →
      Submits r id bytes w (Program.final ((handleWritable id events >>= fun _ => pure false) t)) := fun {t bytes} ht => by
    have hsent := ht.trans (handleWritable_submits ht.valid ht.established events)
    rw [List.append_nil] at hsent
    cases hrun : handleWritable id events t with
    | ok _ u =>
      rw [Program.bind_ok hrun]
      rwa [hrun] at hsent
    | error e u =>
      rw [Program.bind_error hrun]
      rwa [hrun] at hsent
  by_cases hreceives : Receives s events
  · have ⟨_, hclosed, haborted, hin⟩ := hreceives
    rw [Program.Within, untilRemoval, hclosed, haborted, hin, bytesAnswered, if_pos hreceives]
    simp only [Bool.false_eq_true, if_false, if_true]
    have hreceived := receiveInbound_silent (w := w) id
    cases hreceive : receiveInbound id w with
    | error e t =>
      rw [Program.bind_error hreceive, Program.bind_error hreceive]
      exact hstart.silent (hreceived.error hreceive)
    | ok result t =>
      rw [Program.bind_ok hreceive, Program.bind_ok hreceive]
      have ht := hstart.silent (hreceived.ok hreceive)
      have hread : Program.Within Silent (readInboundBytes registry result.1 id) t := readInboundBytes_silent result.1 id
      cases hrun : readInboundBytes registry result.1 id t with
      | error e u =>
        rw [Program.bind_error hrun]
        exact ht.silent (hread.error hrun)
      | ok _ u =>
        rw [Program.bind_ok hrun]
        have hu := ht.silent (hread.ok hrun)
        obtain ⟨s', hs', hid', hestablished'⟩ := hu.established
        have hsent := sendOutboundBytes_submits hu.valid hs' hid' hestablished'
        change Submits r id ((u.sockets[id]?.map Socket.outboundBytes).getD []) w _
        rw [hs', Option.map_some, Option.getD_some]
        cases hsend : sendOutboundBytes id u with
        | error e v =>
          rw [Program.bind_error hsend]
          exact hu.trans (hsent.error hsend)
        | ok _ v =>
          rw [Program.bind_ok hsend]
          have hv := hu.trans (hsent.ok hsend)
          rw [List.nil_append] at hv
          split_ifs
          · exact hv
          · exact hwritable hv
  · rw [Program.Within, bytesAnswered, if_neg hreceives, untilRemoval]
    split_ifs with hclosed haborted hin
    · exact hstart
    · exact hstart
    · exact absurd ⟨hestablished, by simpa using hclosed, by simpa using haborted, hin⟩ hreceives
    · exact hwritable hstart

end Turn

end SocketContainer

open SocketContainer

/-- The streams of the sockets are what was submitted. -/
structure Outward (submitted : ByteMeter) (w : World υ) : Prop where
  streams : ∀ id stream, w.streams id = some stream → stream = submitted id
  unknown : ∀ id, id ∉ insertedIdentifiers w.history → submitted id = []
  known : ∀ id, w.streams id ≠ none → id ∈ insertedIdentifiers w.history

namespace Outward

variable {submitted : ByteMeter} {w w' : World υ}

theorem relays (h : Outward submitted w) (hrelays : Relays r w w') (hvalid : w.table.Valid r)
    (hdistinct : DistinctIdentifiers w'.history) : Outward submitted w' := by
  obtain ⟨-, more, hmore, hcarried⟩ := hrelays hvalid
  have hgrows : w.history <+: w'.history := ⟨more, hmore.symm⟩
  rw [hmore] at hdistinct
  refine ⟨fun id stream hid => ?_, fun id hid => h.unknown id fun hold => hid (insertedIdentifiers_mono hgrows hold), ?_⟩
  · rcases hcarried id stream hid with hold | ⟨rfl, hnew⟩
    · exact h.streams id stream hold
    · exact (h.unknown id (hdistinct.new hnew)).symm
  · rw [hmore]
    exact hcarried.known h.known

theorem submits {id : SocketIdentifier} {bytes : List UInt8} (h : Outward submitted w)
    (hsubmits : Submits r id bytes w w') : Outward (submitted.add id bytes) w' := by
  obtain ⟨s', hs', -⟩ := hsubmits.established
  have hself : w'.streams id = (w.streams id).map (· ++ bytes) := by rw [hsubmits.streams, Function.update_self]
  have hother : ∀ id', id' ≠ id → w'.streams id' = w.streams id' := fun id' hne => by
    rw [hsubmits.streams, Function.update_of_ne hne]
  have hknown : w.streams id ≠ none := fun hnone => by
    obtain ⟨d, hd⟩ := World.descriptor_open hsubmits.valid hs'
    rw [World.streams_some hs', LinuxSocket.stream, hd, hnone] at hself
    cases hself
  have hmono : ∀ id', id' ∈ insertedIdentifiers w.history → id' ∈ insertedIdentifiers w'.history := fun _ =>
    insertedIdentifiers_mono hsubmits.grows
  refine ⟨fun id' stream hid' => ?_, fun id' hid' => ?_, fun id' hid' => ?_⟩
  · by_cases heq : id' = id
    · subst heq
      rw [hself] at hid'
      obtain ⟨old, hold, rfl⟩ := Option.map_eq_some_iff.mp hid'
      rw [submitted.add_self, h.streams _ old hold]
    · rw [hother id' heq] at hid'
      rw [submitted.add_of_ne heq]
      exact h.streams id' stream hid'
  · have hne : id' ≠ id := by
      rintro rfl
      exact hid' (hmono _ (h.known _ hknown))
    rw [submitted.add_of_ne hne]
    exact h.unknown id' fun hold => hid' (hmono id' hold)
  · by_cases heq : id' = id
    · exact heq ▸ hmono _ (h.known _ hknown)
    · rw [hother id' heq] at hid'
      exact hmono id' (h.known id' hid')

end Outward

/-- What was passed to each socket, and the tasks that were executed. -/
structure Submissions (υ : Type) where
  submitted : ByteMeter
  tasks : List (Task υ)

/-- The bytes of a task are passed to an established socket; those of a request only when its response consumer was
registered. -/
def Task.submit (w : World υ) (submitted : ByteMeter) : Task υ → ByteMeter
  | .sendBytes id bytes =>
    if w.sockets[id]?.any fun s => s.socket.isEstablished then submitted.add id bytes else submitted
  | .sendRequest id n bytes _ =>
    if w.sockets[id]?.any fun s =>
        s.socket.isEstablished && !s.protocolReader.inboundOneShotResponseConsumers.contains n then
      submitted.add id bytes
    else submitted
  | _ => submitted

def submissionGauge [Ballotin] (registry : ProtocolRegistry) : Gauge (Submissions υ) υ where
  handled fd events w submissions := { submissions with
    submitted := w.addFor fd (fun id s => SocketContainer.bytesAnswered registry id s events w) submissions.submitted }
  executed task w submissions :=
    { submitted := task.submit w submissions.submitted, tasks := submissions.tasks ++ [task] }

namespace ProtocolReader

variable (reader : ProtocolReader υ) {n : ProtocolSequenceNumber} (consumer : Consumer υ)

theorem registerInboundOneShotResponseConsumer_free
    (h : reader.inboundOneShotResponseConsumers.contains n = false) :
    ProtocolReader.registerInboundOneShotResponseConsumer n consumer reader = .ok () { reader with
      inboundOneShotResponseConsumers := reader.inboundOneShotResponseConsumers.insert n consumer } := by
  rw [ProtocolReader.registerInboundOneShotResponseConsumer, Program.bind_ok Program.get_apply, h]
  rfl

theorem registerInboundOneShotResponseConsumer_used
    (h : reader.inboundOneShotResponseConsumers.contains n = true) :
    ProtocolReader.registerInboundOneShotResponseConsumer n consumer reader =
      .error (.protocolConsumerAlreadyRegisteredError
        ("Another response consumer is already registered with sequence number " ++ toString n)) reader := by
  rw [ProtocolReader.registerInboundOneShotResponseConsumer, Program.bind_ok Program.get_apply, h]
  rfl

end ProtocolReader

namespace SocketContainer

variable {w : World υ} {submitted : ByteMeter}

theorem handleSocketEvents_outward [Ballotin] (registry : ProtocolRegistry) (hvalid : w.table.Valid r)
    (h : Outward submitted w) {fd : FileDescriptor} (hreserved : fd ≠ r) (events : UInt32)
    (hdistinct : DistinctIdentifiers (Program.final (handleSocketEvents registry fd events w)).history) :
    Outward (w.addFor fd (fun id s => bytesAnswered registry id s events w) submitted)
      (Program.final (handleSocketEvents registry fd events w)) := by
  cases hfd : w.fileDescriptorsToSockets[fd]? with
  | none =>
    rw [World.addFor_none hfd]
    have hunmoved := unsubscribe_unmoved hvalid hreserved hfd
    have hwork : Program.Within (Relays r) (handleSocketEvents registry fd events) w := by
      refine .get_bind ?_
      rw [hfd]
      exact Silent.relays ⟨hunmoved, by rw [(onKernel_quiet _ : Program.Within Quiet _ w).history]⟩
    exact h.relays hwork hvalid hdistinct
  | some id =>
    obtain ⟨s, hs, rfl⟩ := ((World.Consistent.of_valid hvalid).descriptors fd id).mp hfd
    obtain ⟨hid, -⟩ := World.Registered.of_valid hvalid hs
    rw [World.addFor_some hfd hs]
    cases hestablished : s.socket.isEstablished with
    | true =>
      have hwork : Program.Within (Submits r id (bytesAnswered registry id s events w)) (untilRemoval registry id events) w :=
        untilRemoval_submits hvalid hs hid hestablished events
      rw [handleSocketEvents_untilRemoval registry hvalid hs hestablished events, thenErase] at hdistinct ⊢
      have herase : ∀ t, Submits r id (bytesAnswered registry id s events w) w t →
          DistinctIdentifiers (Program.final (eraseSocket id t)).history →
          Outward (submitted.add id (bytesAnswered registry id s events w)) (Program.final (eraseSocket id t)) :=
        fun t ht => (h.submits ht).relays (relays_lifecycle.eraseSocket id) ht.valid
      cases hrun : untilRemoval registry id events w with
      | error e t =>
        rw [hrun] at hdistinct
        exact herase t (hwork.error hrun) hdistinct
      | ok removed t =>
        rw [hrun] at hdistinct
        cases removed with
        | false => exact h.submits (hwork.ok hrun)
        | true => exact herase t (hwork.ok hrun) hdistinct
    | false =>
      have hnothing : bytesAnswered registry id s events w = [] := if_neg fun hreceives => by
        cases hestablished.symm.trans hreceives.1
      rw [hnothing, submitted.add_nil]
      refine h.relays (r := r) ?_ hvalid hdistinct
      rw [handleSocketEvents_work registry hfd hs]
      refine Program.Within.tryCatchAll (R := Relays r) ?_ fun _ t _ => relays_lifecycle.eraseSocket _
      refine Program.after_ok (dereference_some hs) ?_
      split_ifs
      · exact relays_lifecycle.eraseSocket _
      · exact relays_lifecycle.eraseSocket _
      · cases htype : s.socket.socketType with
        | accepted | connected => simp [LinuxSocket.isEstablished, htype] at hestablished
        | listening => exact Program.after_ok Program.get_apply (relays_lifecycle.housekeeping.acceptLoop id _)
        | connecting => exact handleConnectingSocketEvents_relays id
        | unbound => exact refl_of (Relays r) w

theorem sendBytesTo_notEstablished {id : SocketIdentifier} {s : Socket υ} (hs : w.sockets[id]? = some s)
    (hestablished : s.socket.isEstablished = false) (bytes : List UInt8) :
    Program.final (sendBytesTo id bytes w) = w := by
  have hrefused : onLinuxSocket id (LinuxSocket.sendBytes bytes) w = .error
      (.internalSocketError "Can only send bytes to an accepted or connected socket") (called id s.socket w.kernel w) := by
    rw [onLinuxSocket, hs]
    dsimp only
    rw [LinuxSocket.sendBytes_refused hestablished]
    rfl
  have hsame : w.sockets.modify id (fun s' => { s' with socket := s.socket }) = w.sockets := by
    refine Std.ExtTreeMap.ext_getElem? fun id' => ?_
    rw [Table.lookup_modify]
    split_ifs with heq
    · rw [← heq, hs]
      rfl
    · rfl
  rw [sendBytesTo, Program.bind_error hrefused]
  change { w with sockets := w.sockets.modify id _ } = w
  rw [hsame]

theorem sendBytesTo_outward (hvalid : w.table.Valid r) (h : Outward submitted w) {id : SocketIdentifier} {s : Socket υ}
    (hs : w.sockets[id]? = some s) (bytes : List UInt8) :
    Outward (if s.socket.isEstablished then submitted.add id bytes else submitted)
      (Program.final (sendBytesTo id bytes w)) := by
  cases hestablished : s.socket.isEstablished with
  | true => exact h.submits (sendBytesTo_submits hvalid hs (World.Registered.of_valid hvalid hs).1 hestablished bytes)
  | false =>
    rw [sendBytesTo_notEstablished hs hestablished]
    exact h

theorem sendBytes_outward (hvalid : w.table.Valid r) (h : Outward submitted w) (id : SocketIdentifier)
    (bytes : List UInt8) :
    Outward (Task.submit w submitted (.sendBytes id bytes)) (Program.final (sendBytes id bytes w)) := by
  rw [sendBytes, Task.submit]
  cases hs : w.sockets[id]? with
  | none =>
    rcases getSocketOrThrow_cases id w with ⟨hfound, -⟩ | ⟨e, -, herror⟩
    · rw [Table.contains_eq, hs] at hfound
      cases hfound
    · rw [Program.bind_error herror]
      exact h
  | some s =>
    rw [Program.bind_ok (getSocketOrThrow_some hs)]
    exact sendBytesTo_outward hvalid h hs bytes

theorem sendRequest_outward (hvalid : w.table.Valid r) (h : Outward submitted w) (id : SocketIdentifier)
    (n : ProtocolSequenceNumber) (bytes : List UInt8) (consumer : Consumer υ)
    (hdistinct : DistinctIdentifiers (Program.final (sendRequest id n bytes consumer w)).history) :
    Outward (Task.submit w submitted (.sendRequest id n bytes consumer))
      (Program.final (sendRequest id n bytes consumer w)) := by
  rw [sendRequest] at hdistinct ⊢
  rw [Task.submit]
  cases hs : w.sockets[id]? with
  | none =>
    rcases getSocketOrThrow_cases id w with ⟨hfound, -⟩ | ⟨e, -, herror⟩
    · rw [Table.contains_eq, hs] at hfound
      cases hfound
    · rw [Program.bind_error herror]
      exact h
  | some s =>
    rw [Program.bind_ok (getSocketOrThrow_some hs)] at hdistinct ⊢
    cases hfree : s.protocolReader.inboundOneShotResponseConsumers.contains n with
    | false =>
      have hok := ProtocolReader.registerInboundOneShotResponseConsumer_free s.protocolReader consumer hfree
      rw [Program.bind_ok (onProtocolReader_ok hs hok), Program.bind_ok (Program.modify_apply _)] at hdistinct ⊢
      set registered : ProtocolReader υ := { s.protocolReader with
        inboundOneShotResponseConsumers := s.protocolReader.inboundOneShotResponseConsumers.insert n consumer }
      let t : World υ := (w.updateSocket id fun s => { s with protocolReader := registered }).record
        (.responseConsumerRegistered id n consumer)
      have hreader : Silent w (w.updateSocket id fun s => { s with protocolReader := registered }) :=
        .updateSocket id w fun _ => rfl
      have hsilent : Silent w t := trans_of Silent hreader (.record _ _)
      have hkept : (Program.final (sendBytesTo id bytes t)).inboxes = t.inboxes := sendBytesTo_inboxes id bytes
      have ht : Outward submitted t := h.relays (r := r) hsilent.relays hvalid
        (by rwa [show (Program.final (sendBytesTo id bytes t)).history = t.history from congrArg Inboxes.history hkept]
          at hdistinct)
      have hs' : t.sockets[id]? = some { s with protocolReader := registered } := by
        change (w.sockets.modify id _)[id]? = _
        rw [Table.lookup_modify, if_pos rfl, hs]
        rfl
      have hsent := sendBytesTo_outward (hsilent.relays hvalid).1 ht hs' bytes
      simp only [Option.any_some, hfree, Bool.not_false, Bool.and_true]
      exact hsent
    | true =>
      have herror := ProtocolReader.registerInboundOneShotResponseConsumer_used s.protocolReader consumer hfree
      rw [Program.bind_error (onProtocolReader_error hs herror)] at hdistinct ⊢
      have hsilent : Silent w (w.updateSocket id fun t => { t with protocolReader := s.protocolReader }) :=
        .updateSocket id w fun _ => rfl
      simp only [Option.any_some, hfree, Bool.not_true, Bool.and_false, Bool.false_eq_true, if_false]
      exact h.relays (r := r) hsilent.relays hvalid hdistinct

end SocketContainer

theorem Task.execute_outward (registry : ProtocolRegistry) {submitted : ByteMeter} {w : World υ}
    (hvalid : w.table.Valid r) (h : Outward submitted w) (task : Task υ)
    (hdistinct : DistinctIdentifiers (Program.final (task.execute registry w)).history) :
    Outward (task.submit w submitted) (Program.final (task.execute registry w)) := by
  have hsilent : ∀ {id : SocketIdentifier} {x : EStateM Exception (ProtocolReader υ) Unit},
      Program.Within Silent (getSocketOrThrow id >>= fun socket => onProtocolReader socket x) w := fun {id x} =>
    .bind (getSocketOrThrow_within id) fun socket t _ => onProtocolReader_silent socket x
  cases task with
  | close id => exact h.relays (relays_lifecycle.eraseSocket id) hvalid hdistinct
  | connect id ipAddress port callback => exact h.relays (relays_lifecycle.connect id ipAddress port callback) hvalid hdistinct
  | listen id ipAddress port callback => exact h.relays (relays_lifecycle.listen id ipAddress port callback) hvalid hdistinct
  | registerMessageConsumer id p consumer =>
    have hwithin : Program.Within Silent (SocketContainer.registerMessageConsumer registry id p consumer) w := by
      refine .bind (getSocketOrThrow_within id) fun socket t _ => .bind (onProtocolReader_silent _ _) fun _ u _ => ?_
      exact .modify (.record _ u)
    exact h.relays hwithin.relays hvalid hdistinct
  | registerRequestCallback id p consumer => exact h.relays hsilent.relays hvalid hdistinct
  | sendBytes id bytes => exact sendBytes_outward hvalid h id bytes
  | sendRequest id n bytes consumer => exact sendRequest_outward hvalid h id n bytes consumer hdistinct

namespace EventLoop

section Runs

variable [Ballotin] {registry : ProtocolRegistry} {l : EventLoop υ} {submissions : Submissions υ}

theorem Metered.outward (h : Metered registry (submissionGauge registry) ⟨fun _ => [], []⟩ l submissions)
    (hdistinct : DistinctIdentifiers l.world.history) : Outward submissions.submitted l.world := by
  refine h.invariant (I := fun w (submissions : Submissions υ) => Outward submissions.submitted w) hdistinct
    (fun l hl => ?_) (fun _ _ _ hw => ⟨hw.streams, hw.unknown, hw.known⟩)
    (fun l submissions fd events hl hfd hw hafter => ?_)
    fun l submissions task hl hw hafter => Task.execute_outward registry hl.sound.valid hw task hafter
  · have hnone : ∀ id, l.world.streams id = none := fun id => by
      rw [World.streams, hl.sockets, Std.ExtTreeMap.getElem?_empty]
      rfl
    refine ⟨fun id stream hid => ?_, fun _ _ => rfl, fun id hid => absurd (hnone id) hid⟩
    rw [hnone] at hid
    cases hid
  · exact SocketContainer.handleSocketEvents_outward registry hl.sound.valid hw hfd events hafter

/-- In every run in which identifiers do not repeat, the kernel took from a socket the front of what was submitted, and
the rest waits in the buffer: the bytes of the tasks for this socket and the answers to its frames, in the order in
which they came, and nothing else. -/
theorem submitted_transmitted (h : Metered registry (submissionGauge registry) ⟨fun _ => [], []⟩ l submissions)
    (hdistinct : DistinctIdentifiers l.world.history) {id : SocketIdentifier} {s : Socket υ}
    (hs : l.world.sockets[id]? = some s) : ∃ d, l.world.kernel.descriptors[s.socket.socket]? = some d ∧
      d.transmitted ++ s.socket.outgoingBuffer = submissions.submitted id := by
  obtain ⟨d, hd⟩ := World.descriptor_open h.reachable.sound.valid hs
  have hstream : l.world.streams id = some (d.transmitted ++ s.socket.outgoingBuffer) := by
    rw [World.streams_some hs, LinuxSocket.stream, hd, Option.map_some]
  exact ⟨d, hd, (h.outward hdistinct).streams id _ hstream⟩

end Runs

theorem sentLoop_transmitted : ∃ (submissions : Submissions Unit) (s : Socket Unit) (d : Descriptor),
    @Metered Unit (Submissions Unit) referenceBallotin emptyRegistry
      (@submissionGauge Unit referenceBallotin emptyRegistry) ⟨fun _ => [], []⟩ (sentLoop [.sent 1]) submissions ∧
    d.transmitted = [1] ∧ s.socket.outgoingBuffer = [2, 3] ∧ submissions.submitted 1 = [1, 2, 3] := by
  let _ := referenceBallotin
  have hsending := sendingLoop_run [.sent 1] (R := Step emptyRegistry) fun _ _ hstep _ => hstep
  have hsent : (sentLoop [.sent 1]).Reachable emptyRegistry := hsending.step (.executeTask _ _ [] [] rfl)
  obtain ⟨submissions, hmeter⟩ := hsent.metered (submissionGauge emptyRegistry) ⟨fun _ => [], []⟩
  obtain ⟨s, hs, hbuffer, hfd⟩ : ∃ s, (sentLoop [.sent 1]).world.sockets[1]? = some s ∧
      s.socket.outgoingBuffer = [2, 3] ∧ s.socket.socket = 8 := ⟨_, rfl, rfl, rfl⟩
  obtain ⟨d, hd, hsubmitted⟩ := submitted_transmitted hmeter (by decide) hs
  have htransmitted : d.transmitted = [1] := by
    rw [hfd] at hd
    exact (congrArg Descriptor.transmitted (Option.some_inj.mp (hd.symm.trans rfl) : d = ⟨2, [1]⟩))
  refine ⟨submissions, s, d, hmeter, htransmitted, hbuffer, ?_⟩
  rw [← hsubmitted, htransmitted, hbuffer]
  rfl

end EventLoop

end Farseer.Linux
