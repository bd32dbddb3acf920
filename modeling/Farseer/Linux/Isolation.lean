import Farseer.Linux.Receiving

/-! What the handling of the events of one connection does to the other sockets. The bytes of an accepted socket go
through the reader of its listening socket and its callbacks are those of the listening socket, but nothing else is
shared. -/

namespace Farseer.Linux

variable {υ : Type} {r : FileDescriptor}

def Socket.own (s : Socket υ) :
    SocketIdentifier × SocketIdentifier × LinuxSocket × ConnectionCallback υ × List UInt8 × List UInt8 :=
  (s.socketIdentifier, s.listeningSocketIdentifier, s.socket, s.connectionCallback, s.inboundBytes, s.outboundBytes)

/-- Only the socket was served: the table is the same, and so are the other sockets and the events that they wait
for. -/
structure Served (id : SocketIdentifier) (w w' : World υ) : Prop where
  table : w'.table = w.table
  others : ∀ id' : SocketIdentifier, id' ≠ id → w'.sockets[id']?.map Socket.own = w.sockets[id']?.map Socket.own
  masks : ∀ fd : FileDescriptor, (w.table.sockets id).map Prod.snd ≠ some fd →
    w'.kernel.interestList[fd]? = w.kernel.interestList[fd]?

def Serves (r : FileDescriptor) (id : SocketIdentifier) (w w' : World υ) : Prop := w.table.Valid r → Served id w w'

instance (r : FileDescriptor) (id : SocketIdentifier) : IsPreorder (World υ) (Serves r id) where
  refl _ _ := ⟨rfl, fun _ _ => rfl, fun _ _ => rfl⟩
  trans w w' w'' h h' := by
    intro hvalid
    have hfirst := h hvalid
    have hlast := h' (hfirst.table ▸ hvalid)
    exact ⟨hlast.table.trans hfirst.table, fun id' hne => (hlast.others id' hne).trans (hfirst.others id' hne),
      fun fd hfd => (hlast.masks fd (hfirst.table ▸ hfd)).trans (hfirst.masks fd hfd)⟩

variable {id : SocketIdentifier}

theorem Serves.of_sockets {w w' : World υ} (hsockets : w'.sockets = w.sockets)
    (hmap : w'.fileDescriptorsToSockets = w.fileDescriptorsToSockets) (hkernel : Kernel.Idle w.kernel w'.kernel) :
    Serves r id w w' := by
  refine fun _ => ⟨Keeps.of_sockets hsockets hmap hkernel.alike, fun _ _ => ?_, fun _ _ => ?_⟩
  · rw [hsockets]
  · rw [hkernel.interestList]

theorem Serves.updateSocket {f : Socket υ → Socket υ} (w : World υ) (hf : ∀ s, (f s).station = s.station) :
    Serves r id w (w.updateSocket id f) := by
  refine fun _ => ⟨Unmoved.keeps (.updateSocket id w hf), fun id' hne => ?_, fun _ _ => rfl⟩
  rw [World.updateSocket, Table.lookup_modify, if_neg hne.symm]

theorem Serves.updateReader (reader : SocketIdentifier) (protocolReader : ProtocolReader υ) (w : World υ) :
    Serves r id w (w.updateSocket reader fun s => { s with protocolReader }) := by
  refine fun _ => ⟨Unmoved.keeps (.updateSocket reader w fun _ => rfl), fun id' _ => ?_, fun _ _ => rfl⟩
  rw [World.updateSocket, Table.lookup_modify]
  split_ifs with heq
  · rw [heq, Option.map_map]
    rfl
  · rfl

namespace SocketContainer

variable {w : World υ}

theorem onKernel_serves {α : Type} {x : KernelM α} (hx : Program.Within Kernel.Idle x w.kernel) :
    Program.Within (Serves r id) (onKernel x) w := by
  unfold onKernel Program.Within Program.zoom
  cases hrun : x w.kernel with
  | ok a k => exact .of_sockets rfl rfl (hx.ok hrun)
  | error e k => exact .of_sockets rfl rfl (hx.error hrun)

theorem notify_serves (s : Socket υ) (event : SocketEvent) (argument : SocketIdentifier) :
    Program.Within (Serves r id) (notify s event argument) w := by
  have huser : ∀ (t : World υ) (x : EStateM Exception υ Unit), Program.Within (Serves r id) (onUser x) t := by
    intro t x
    unfold onUser Program.Within Program.zoom
    cases x t.user <;> exact .of_sockets rfl rfl (refl_of Kernel.Idle _)
  exact .bind (.modify (.of_sockets rfl rfl (refl_of Kernel.Idle _))) fun _ t _ => huser t _

theorem notifyClosed_serves (s : Socket υ) : Program.Within (Serves r id) (notifyClosed id s) w := by
  unfold notifyClosed
  split_ifs
  · refine .get_bind ?_
    split
    · exact notify_serves _ _ _
    · exact .pure _
  · exact notify_serves _ _ _

/-- The socket that sends is the only one whose buffer and events change. -/
theorem sendBytesTo_serves (bytes : List UInt8) : Program.Within (Serves r id) (sendBytesTo id bytes) w := by
  intro hvalid
  have hkeeps : Program.Within Keeps (sendBytesTo id bytes) w := sendBytesTo_keeps id bytes
  cases hs : w.sockets[id]? with
  | none =>
    have hdangling : onLinuxSocket id (LinuxSocket.sendBytes bytes) w = .error .danglingReference w := by
      rw [onLinuxSocket, hs]
    rw [sendBytesTo, Program.bind_error hdangling]
    exact refl_of (Serves r id) w hvalid
  | some s =>
    obtain ⟨l, k', -, -, ⟨events, hok, hlist, -⟩ | ⟨e, herror, hlist, -⟩⟩ := sendBytesTo_cases hvalid hs bytes
    · rw [hok]
      refine ⟨hkeeps.ok hok, fun id' hne => by rw [Program.final, called_other hne], fun fd hfd => ?_⟩
      have hne : s.socket.socket ≠ fd := by
        rintro rfl
        refine hfd ?_
        rw [table_sockets, hs]
        rfl
      change k'.interestList[fd]? = _
      rw [hlist, Table.lookup_insert, if_neg hne]
    · rw [herror]
      refine ⟨hkeeps.error herror, fun id' hne => by rw [Program.final, called_other hne], fun fd _ => ?_⟩
      change k'.interestList[fd]? = _
      rw [hlist]

theorem sendOutboundBytes_serves : Program.Within (Serves r id) (sendOutboundBytes id) w := by
  refine .bind (dereference_within id) fun s t _ => ?_
  split_ifs
  · exact .pure _
  · exact .bind (sendBytesTo_serves _) fun _ u _ => .modify (.updateSocket u fun _ => rfl)

theorem handleWritable_serves (events : UInt32) : Program.Within (Serves r id) (handleWritable id events) w := by
  unfold handleWritable
  split_ifs
  · exact sendBytesTo_serves []
  · exact .pure _

theorem receiveInbound_serves : Program.Within (Serves r id) (receiveInbound id) w := by
  refine .bind (dereference_within id) fun s t _ => ?_
  refine .bind (onKernel_serves (receiveBytes_idle s.socket t.kernel)) fun received u _ => ?_
  refine .bind (.modify (.updateSocket u fun _ => rfl)) fun _ v _ => ?_
  refine .bind (.bind (dereference_within id) fun s _ _ => ?_) fun reader _ _ => .pure _
  split_ifs
  · exact getSocketOrThrow_within _
  · exact .pure _

variable [Ballotin] (registry : ProtocolRegistry)

/-- The reader of another socket may be used, but its bytes are not. -/
theorem readInboundBytes_serves (reader : SocketIdentifier) :
    Program.Within (Serves r id) (readInboundBytes registry reader id) w := by
  have hafter : ∀ (socketIdentifier : SocketIdentifier) (reading : Reading υ),
      Serves r id w (afterReading reader id socketIdentifier reading w) := by
    intro socketIdentifier reading
    let read := w.updateSocket reader fun s => { s with protocolReader := reading.reader }
    have hreader : Serves r id w read := .updateReader reader _ w
    have hbuffers : Serves r id read (read.updateSocket id fun s =>
        { s with inboundBytes := reading.inboundBytes, outboundBytes := reading.outboundBytes }) :=
      .updateSocket read fun _ => rfl
    refine trans_of (Serves r id) (trans_of (Serves r id) hreader hbuffers) ?_
    exact .of_sockets rfl rfl (refl_of Kernel.Idle _)
  rw [Program.Within, readInboundBytes]
  split
  · dsimp only
    split
    · exact hafter _ _
    · exact hafter _ _
  · exact refl_of (Serves r id) w

/-- What is done for an established socket while it is there; returns whether it is to be removed then. -/
def untilRemoval (socket : SocketIdentifier) (socketEvents : UInt32) : WorldM υ Bool :=
  if hasEvent socketEvents EPOLLRDHUP then return true
  else if hasEvent socketEvents EPOLLERR then return true
  else if hasEvent socketEvents EPOLLIN then do
    let (reader, closed) ← receiveInbound socket
    readInboundBytes registry reader socket
    sendOutboundBytes socket
    if closed then return true
    else do
      handleWritable socket socketEvents
      return false
  else do
    handleWritable socket socketEvents
    return false

theorem untilRemoval_serves (events : UInt32) : Program.Within (Serves r id) (untilRemoval registry id events) w := by
  unfold untilRemoval
  split_ifs
  · exact .pure _
  · exact .pure _
  · refine .bind receiveInbound_serves fun received t _ => ?_
    refine .bind (readInboundBytes_serves registry received.1) fun _ u _ => ?_
    refine .bind sendOutboundBytes_serves fun _ v _ => ?_
    split_ifs
    · exact .pure _
    · exact .bind (handleWritable_serves events) fun _ _ _ => .pure _
  · exact .bind (handleWritable_serves events) fun _ _ _ => .pure _

/-- The work of the handler is what is done while the socket is there, and then its removal. -/
theorem handleSocketEventsWork_untilRemoval {s : Socket υ} (hs : w.sockets[id]? = some s)
    (hestablished : s.socket.isEstablished = true) (hid : s.socketIdentifier = id) (events : UInt32) :
    handleSocketEventsWork registry id events w =
      (untilRemoval registry id events >>= fun removed => if removed then eraseSocket id else pure ()) w := by
  rw [handleSocketEventsWork, Program.bind_ok (dereference_some hs), untilRemoval, hid]
  by_cases hclosed : hasEvent events EPOLLRDHUP = true
  · rw [if_pos hclosed, if_pos hclosed]
    rfl
  by_cases haborted : hasEvent events EPOLLERR = true
  · rw [if_neg hclosed, if_neg hclosed, if_pos haborted, if_pos haborted]
    rfl
  rw [if_neg hclosed, if_neg hclosed, if_neg haborted, if_neg haborted]
  have hconnected : handleSocketEventsOf (υ := υ) registry id events s.socket.socketType =
      handleConnectedSocketEvents registry id events := by
    cases htype : s.socket.socketType with
    | accepted | connected => rfl
    | unbound | listening | connecting => simp [LinuxSocket.isEstablished, htype] at hestablished
  rw [hconnected]
  by_cases hin : hasEvent events EPOLLIN = true
  · rw [if_pos hin, handleConnectedSocketEvents_eq registry hs hin, hid, bind_assoc]
    refine congrFun (bind_congr fun received => ?_) w
    simp only [bind_assoc, afterInbound]
    refine bind_congr fun _ => bind_congr fun _ => ?_
    cases received.2 with
    | true => simp
    | false => simp
  · rw [if_neg hin, handleConnectedSocketEvents, if_neg hin, bind_assoc]
    simp

end SocketContainer

structure World.Registered (id : SocketIdentifier) (fd : FileDescriptor) (w : World υ) : Prop where
  socket : ∃ s, w.sockets[id]? = some s ∧ s.socketIdentifier = id ∧ s.socket.socket = fd
  descriptor : w.fileDescriptorsToSockets[fd]? = some id
  subscribed : w.kernel.interestList.contains fd = true

/-- Nothing is left of the socket: neither map has it, and its descriptor is closed and not subscribed. -/
structure World.Removed (id : SocketIdentifier) (fd : FileDescriptor) (w : World υ) : Prop where
  socket : w.sockets[id]? = none
  descriptor : w.fileDescriptorsToSockets[fd]? = none
  references : ∀ fd' : FileDescriptor, w.fileDescriptorsToSockets[fd']? ≠ some id
  subscribed : w.kernel.interestList[fd]? = none
  closed : w.kernel.descriptors[fd]? = none

theorem World.Registered.of_valid {w : World υ} (hvalid : w.table.Valid r) {s : Socket υ} (hs : w.sockets[id]? = some s) :
    s.socketIdentifier = id ∧ w.Registered id s.socket.socket := by
  have hconsistent := World.Consistent.of_valid hvalid
  have hid := hconsistent.identifiers id s hs
  exact ⟨hid, ⟨s, hs, hid, rfl⟩, (hconsistent.descriptors _ id).mpr ⟨s, hs, rfl⟩,
    (hconsistent.subscribed _).mpr (.inr ⟨id, s, hs, rfl⟩)⟩

theorem Served.registered {w t : World υ} (h : Served id w t) (hvalid : w.table.Valid r) {fd : FileDescriptor}
    (hw : w.Registered id fd) : t.Registered id fd := by
  obtain ⟨s, hs, -, hfd⟩ := hw.socket
  obtain ⟨s', hs', hfd'⟩ := table_sockets_iff.mp
    (show ∃ key, t.table.sockets id = some (key, fd) by rw [h.table]; exact table_sockets_iff.mpr ⟨s, hs, hfd⟩)
  exact hfd' ▸ (World.Registered.of_valid (h.table ▸ hvalid) hs').2

namespace SocketContainer

variable {w : World υ} {fd : FileDescriptor}

/-- The removal of a socket leaves nothing of it, and nothing else is changed. -/
theorem removeSocket_registered (hvalid : w.table.Valid r) (h : w.Registered id fd) :
    (removeSocket id w).Removed id fd ∧ (∀ id' : SocketIdentifier, id' ≠ id →
      (removeSocket id w).sockets[id']? = w.sockets[id']?) ∧
      ∀ fd' : FileDescriptor, fd' ≠ fd → (removeSocket id w).kernel.interestList[fd']? = w.kernel.interestList[fd']? := by
  obtain ⟨s, hs, -, rfl⟩ := h.socket
  obtain ⟨script, hremoved⟩ := removeSocket_eq hs
  rw [hremoved]
  have hgone : (w.sockets.erase id)[id]? = none := by rw [Table.lookup_erase, if_pos rfl]
  refine ⟨⟨hgone, ?_, fun fd' hfd' => ?_, ?_, ?_⟩, fun id' hne => ?_, fun fd' hne => ?_⟩
  · change (w.fileDescriptorsToSockets.erase s.socket.socket)[s.socket.socket]? = none
    rw [Table.lookup_erase, if_pos rfl]
  · -- another descriptor that led to the socket would have been its own
    obtain ⟨hne, hfd'⟩ := Table.lookup_erase_some hfd'
    obtain ⟨s', hs', heq⟩ := ((World.Consistent.of_valid hvalid).descriptors fd' id).mp hfd'
    rw [hs] at hs'
    cases hs'
    exact hne heq.symm
  · change (w.kernel.interestList.erase s.socket.socket)[s.socket.socket]? = none
    rw [Table.lookup_erase, if_pos rfl]
  · change (w.kernel.descriptors.erase s.socket.socket)[s.socket.socket]? = none
    rw [Table.lookup_erase, if_pos rfl]
  · change (w.sockets.erase id)[id']? = _
    rw [Table.lookup_erase, if_neg hne.symm]
  · change (w.kernel.interestList.erase s.socket.socket)[fd']? = _
    rw [Table.lookup_erase, if_neg hne.symm]

end SocketContainer

variable {fd : FileDescriptor}

/-- What is left of a container that handled events of the socket `id` on the descriptor `fd`. -/
structure Isolated (r : FileDescriptor) (id : SocketIdentifier) (fd : FileDescriptor) (w w' : World υ) : Prop where
  others : ∀ id' : SocketIdentifier, id' ≠ id → w'.sockets[id']?.map Socket.own = w.sockets[id']?.map Socket.own
  masks : ∀ (id' : SocketIdentifier) (s : Socket υ), id' ≠ id → w.sockets[id']? = some s →
    w'.kernel.interestList[s.socket.socket]? = w.kernel.interestList[s.socket.socket]?
  consistent : w'.Consistent r
  socket : w'.Registered id fd ∨ w'.Removed id fd

/-- The other sockets of a valid table have other descriptors. -/
theorem Served.masks_others {w u : World υ} (h : Served id w u) (hvalid : w.table.Valid r) (hw : w.Registered id fd)
    {id' : SocketIdentifier} {s : Socket υ} (hne : id' ≠ id) (hs : w.sockets[id']? = some s) :
    s.socket.socket ≠ fd ∧ u.kernel.interestList[s.socket.socket]? = w.kernel.interestList[s.socket.socket]? := by
  obtain ⟨s₀, hs₀, -, rfl⟩ := hw.socket
  have hfd : s.socket.socket ≠ s₀.socket.socket := fun heq =>
    hne ((World.Consistent.of_valid hvalid).distinct id' id s s₀ hs hs₀ heq)
  refine ⟨hfd, h.masks _ fun heq => hfd ?_⟩
  rw [table_sockets, hs₀] at heq
  exact (Option.some_inj.mp heq).symm

theorem Served.isolated {w u : World υ} (h : Served id w u) (hvalid : w.table.Valid r) (hw : w.Registered id fd) :
    Isolated r id fd w u :=
  ⟨h.others, fun _ _ hne hs => (h.masks_others hvalid hw hne hs).2, .of_valid (h.table ▸ hvalid),
    .inl (h.registered hvalid hw)⟩

theorem Served.isolated_removed {w u : World υ} (h : Served id w u) (hvalid : w.table.Valid r)
    (hw : w.Registered id fd) : Isolated r id fd w (SocketContainer.removeSocket id u) := by
  have hvalid' : u.table.Valid r := h.table ▸ hvalid
  obtain ⟨hremoved, hsockets, hmasks⟩ := SocketContainer.removeSocket_registered hvalid' (h.registered hvalid hw)
  refine ⟨fun id' hne => ?_, fun id' s hne hs => ?_, ?_, .inr hremoved⟩
  · rw [hsockets id' hne]
    exact h.others id' hne
  · obtain ⟨hfd, hmask⟩ := h.masks_others hvalid hw hne hs
    rw [hmasks _ hfd]
    exact hmask
  · exact .of_valid (hvalid'.steps (SocketContainer.removeSocket_evolves id hvalid'))

namespace SocketContainer

variable {w : World υ}

/-- The socket is still there when its callback returns, and its removal is the last thing. -/
theorem eraseSocket_registered (hvalid : w.table.Valid r) (h : w.Registered id fd) :
    ∃ u, Served id w u ∧ eraseSocket id w = .ok () (removeSocket id u) := by
  obtain ⟨s, hs, -⟩ := h.socket
  exact ⟨_, notifyClosed_serves s hvalid, eraseSocket_some hs⟩

/-- Erase a socket if what was done for it says so, or threw. -/
def thenErase (socketIdentifier : SocketIdentifier) (x : WorldM υ Bool) : WorldM υ Unit := fun w =>
  match x w with
  | .ok false w => .ok () w
  | .ok true w => eraseSocket socketIdentifier w
  | .error _ w => eraseSocket socketIdentifier w

variable [Ballotin] (registry : ProtocolRegistry)

/-- The handler erases the socket after all that it does for it, if it does. -/
theorem handleSocketEvents_untilRemoval (hvalid : w.table.Valid r) {s : Socket υ} (hs : w.sockets[id]? = some s)
    (hestablished : s.socket.isEstablished = true) (events : UInt32) :
    handleSocketEvents registry s.socket.socket events w = thenErase id (untilRemoval registry id events) w := by
  obtain ⟨hid, hregistered⟩ := World.Registered.of_valid hvalid hs
  rw [handleSocketEvents_work registry hregistered.descriptor hs, hid, Program.tryCatchAll, thenErase,
    handleSocketEventsWork_untilRemoval registry hs hestablished hid events]
  have hserved : Served id w _ := untilRemoval_serves registry events hvalid
  cases hrun : untilRemoval registry id events w with
  | error e t => rw [Program.bind_error hrun]
  | ok removed t =>
    rw [Program.bind_ok hrun]
    cases removed with
    | false => rfl
    | true =>
      rw [hrun] at hserved
      have hvalid' : t.table.Valid r := hserved.table ▸ hvalid
      obtain ⟨u, -, hok⟩ := eraseSocket_registered hvalid' (hserved.registered hvalid hregistered)
      rw [if_pos rfl, hok]
      exact hok.symm

/-- Whatever the peer of an established socket sends, and whatever throws: the handler returns, all the other sockets
are as before, and the socket is registered as before or removed, which is then the last thing that is done. -/
theorem handleSocketEvents_isolated {l : EventLoop υ} (h : l.Reachable registry) {s : Socket υ}
    (hs : l.world.sockets[id]? = some s) (hestablished : s.socket.isEstablished = true) (events : UInt32) :
    handleSocketEvents registry s.socket.socket events l.world =
        thenErase id (untilRemoval registry id events) l.world ∧
      ∃ u w', u.Registered id s.socket.socket ∧ (w' = u ∨ w' = removeSocket id u) ∧
        handleSocketEvents registry s.socket.socket events l.world = .ok () w' ∧
        Isolated l.eventFileDescriptor id s.socket.socket l.world w' := by
  have hvalid := h.sound.valid
  have hregistered := (World.Registered.of_valid hvalid hs).2
  have hhandled := handleSocketEvents_untilRemoval registry hvalid hs hestablished events
  refine ⟨hhandled, ?_⟩
  rw [hhandled, thenErase]
  have hserved : Served id l.world _ := untilRemoval_serves registry events hvalid
  have herased : ∀ t, Served id l.world t → ∃ u w', u.Registered id s.socket.socket ∧
      (w' = u ∨ w' = removeSocket id u) ∧ eraseSocket id t = .ok () w' ∧
      Isolated l.eventFileDescriptor id s.socket.socket l.world w' := by
    intro t ht
    have hvalid' : t.table.Valid l.eventFileDescriptor := ht.table ▸ hvalid
    obtain ⟨u, hu, hok⟩ := eraseSocket_registered hvalid' (ht.registered hvalid hregistered)
    have hboth : Served id l.world u := trans_of (Serves l.eventFileDescriptor id) (fun _ => ht) (fun _ => hu) hvalid
    exact ⟨u, _, hboth.registered hvalid hregistered, .inr rfl, hok, hboth.isolated_removed hvalid hregistered⟩
  cases hrun : untilRemoval registry id events l.world with
  | error e t =>
    rw [hrun] at hserved
    exact herased t hserved
  | ok removed t =>
    rw [hrun] at hserved
    cases removed with
    | true => exact herased t hserved
    | false => exact ⟨t, t, hserved.registered hvalid hregistered, .inl rfl, rfl, hserved.isolated hvalid hregistered⟩

end SocketContainer

/-- A second socket is connecting, and the peer of the first one has sent four bytes and reset the connection. -/
def resetPairLoop : EventLoop Unit :=
  ((EventLoop.connectedLoop.given [.connect 2 "127.0.0.1" 8081 silent] []).executed emptyRegistry
    (.connect 2 "127.0.0.1" 8081 silent) [] []).withScript
      { receives := [.received [1, 2, 3, 4], .failure "Connection reset by peer"] }

theorem resetPairLoop_reachable : @EventLoop.Reachable Unit referenceBallotin emptyRegistry resetPairLoop := by
  let _ := referenceBallotin
  have hreports : EventLoop.connectedLoop.Reports [{ fileDescriptor := 4, events := EPOLLIN }] :=
    ⟨by decide, by decide, fun e he => by rw [List.mem_singleton.mp he]; decide⟩
  have hgiven := EventLoop.given_run (fun _ _ hstep _ => hstep) (EventLoop.connectedLoop_run fun _ _ hstep _ => hstep) rfl
    rfl (.connect 2 "127.0.0.1" 8081 silent) [] hreports
  exact (hgiven.step (.executeTask _ _ [] [] rfl)).step (.outcomes _ _)

/-- A connection that is reset while its bytes are received is removed, and the other one goes on connecting. -/
theorem resetPairLoop_isolated : ∃ u w' s, u.Registered 1 8 ∧ (w' = u ∨ w' = SocketContainer.removeSocket 1 u) ∧
    @SocketContainer.handleSocketEvents Unit referenceBallotin emptyRegistry 8 EPOLLIN resetPairLoop.world = .ok () w' ∧
    Isolated 4 1 8 resetPairLoop.world w' ∧ resetPairLoop.world.sockets[2]? = some s ∧
    s.socket.socketType = .connecting ∧ w'.sockets[2]?.map Socket.own = some s.own := by
  let _ := referenceBallotin
  obtain ⟨s, hs, hfd, hestablished⟩ : ∃ s, resetPairLoop.world.sockets[1]? = some s ∧ s.socket.socket = 8 ∧
      s.socket.isEstablished = true := ⟨_, rfl, rfl, rfl⟩
  obtain ⟨s', hs', hconnecting⟩ : ∃ s', resetPairLoop.world.sockets[2]? = some s' ∧ s'.socket.socketType = .connecting :=
    ⟨_, rfl, rfl⟩
  obtain ⟨-, u, w', hregistered, hremoved, hok, hisolated⟩ :=
    SocketContainer.handleSocketEvents_isolated emptyRegistry resetPairLoop_reachable hs hestablished EPOLLIN
  rw [hfd] at hregistered hok hisolated
  exact ⟨u, w', s', hregistered, hremoved, hok, hisolated, hs', hconnecting, by
    rw [hisolated.others 2 (by decide), hs', Option.map_some]⟩

end Farseer.Linux
