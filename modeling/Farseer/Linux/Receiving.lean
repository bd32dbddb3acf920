import Farseer.Linux.PendingOutput
import Farseer.Linux.Roster

/-! Whether the bytes that `::recv` returned are offered to the reader. The loop of `receiveBytes` keeps them to
itself until it ends, and when it ends with an error they go with it. -/

namespace Farseer.Linux

variable {υ : Type}

/-- The bytes that the loop of `receiveBytes` gets, up to the call that ends it. -/
def receivedBytes : List ReceiveOutcome → List UInt8
  | .received (byte :: bytes) :: outcomes =>
    (byte :: bytes).take maximumReceiveBufferSize ++ receivedBytes outcomes
  | _ => []

def receivingFails : List ReceiveOutcome → Bool
  | .received (_ :: _) :: outcomes => receivingFails outcomes
  | .failure _ :: _ => true
  | _ => false

namespace LinuxSocket

/-- The loop returns all the bytes that it got, or throws them away. -/
theorem receiveLoop_run (fuel : ℕ) (result : List UInt8) (k : Kernel) (hfuel : k.script.receives.length < fuel) :
    (receivingFails k.script.receives = false ∧ ∃ closed script,
        receiveLoop fuel result k = .ok (result ++ receivedBytes k.script.receives, closed) { k with script }) ∨
      receivingFails k.script.receives = true ∧ ∃ e script, receiveLoop fuel result k = .error e { k with script } := by
  induction fuel generalizing result k with
  | zero => omega
  | succ fuel ih =>
    rw [receiveLoop]
    cases hreceives : k.script.receives with
    | nil =>
      have hrecv : recv k = .ok .wouldBlock k := by
        rw [recv, Program.bind_ok (a := .wouldBlock) (t := k) (by rw [draw, hreceives])]
        rfl
      rw [Program.bind_ok hrecv]
      exact .inl ⟨rfl, false, k.script, by rw [show receivedBytes [] = [] from rfl, List.append_nil]; rfl⟩
    | cons outcome outcomes =>
      have hdraw : draw Script.receives (fun receives script => { script with receives }) .wouldBlock k =
          .ok outcome { k with script := { k.script with receives := outcomes } } := by rw [draw, hreceives]
      cases outcome with
      | wouldBlock =>
        rw [Program.bind_ok (show recv k = .ok .wouldBlock _ from Program.bind_ok hdraw)]
        refine .inl ⟨rfl, false, { k.script with receives := outcomes }, ?_⟩
        rw [show receivedBytes (.wouldBlock :: outcomes) = [] from rfl, List.append_nil]
        rfl
      | failure error =>
        rw [Program.bind_ok (show recv k = .ok (.failure error) _ from Program.bind_ok hdraw)]
        exact .inr ⟨rfl, _, _, rfl⟩
      | received bytes =>
        rw [Program.bind_ok (show recv k = .ok (.received (bytes.take maximumReceiveBufferSize)) _ from
          Program.bind_ok hdraw)]
        cases bytes with
        | nil =>
          refine .inl ⟨rfl, true, { k.script with receives := outcomes }, ?_⟩
          rw [show receivedBytes (.received [] :: outcomes) = [] from rfl, List.append_nil]
          rfl
        | cons byte bytes =>
          have hrest : outcomes.length < fuel := by
            rw [hreceives, List.length_cons] at hfuel
            omega
          have hlast := ih (result ++ (byte :: bytes).take maximumReceiveBufferSize)
            { k with script := { k.script with receives := outcomes } } hrest
          rw [List.append_assoc] at hlast
          exact hlast

theorem receiveBytes_run {s : LinuxSocket} (hs : s.isEstablished = true) (k : Kernel) :
    (receivingFails k.script.receives = false ∧ ∃ closed script,
        s.receiveBytes k = .ok (receivedBytes k.script.receives, closed) { k with script }) ∨
      receivingFails k.script.receives = true ∧ ∃ e script, s.receiveBytes k = .error e { k with script } := by
  rw [receiveBytes, hs]
  exact receiveLoop_run _ [] k (Nat.lt_succ_self _)

end LinuxSocket

namespace SocketContainer

def findReader (socket : SocketIdentifier) : WorldM υ SocketIdentifier := do
  let s ← dereference socket
  if s.listeningSocketIdentifier ≠ invalidSocketIdentifier then getSocketOrThrow s.listeningSocketIdentifier
  else return socket

/-- What `handleConnectedSocketEvents` does before the bytes are read: they are received and appended, and the reader
is found. The end of the stream is kept for later. -/
def receiveInbound (socket : SocketIdentifier) : WorldM υ (SocketIdentifier × Bool) := do
  let s ← dereference socket
  let (receivedBytes, closed) ← onKernel s.socket.receiveBytes
  modify (World.updateSocket socket fun s => { s with inboundBytes := s.inboundBytes ++ receivedBytes })
  let reader ← findReader socket
  return (reader, closed)

/-- And what it does after. -/
def afterInbound (socket socketIdentifier : SocketIdentifier) (socketEvents : UInt32) (closed : Bool) :
    WorldM υ Unit := do
  sendOutboundBytes socket
  if closed then eraseSocket socketIdentifier else handleWritable socket socketEvents

variable [Ballotin] (registry : ProtocolRegistry) {w : World υ}

theorem readWithItsReader_eq (socket : SocketIdentifier) : readWithItsReader (υ := υ) registry socket =
    findReader socket >>= fun reader => readInboundBytes registry reader socket := by
  rw [readWithItsReader, findReader, bind_assoc]
  refine bind_congr fun s => ?_
  split_ifs
  · rfl
  · rw [pure_bind]

/-- The handling of `EPOLLIN` in three parts. -/
theorem handleConnectedSocketEvents_eq {id : SocketIdentifier} {s : Socket υ} (hs : w.sockets[id]? = some s)
    {events : UInt32} (hin : hasEvent events EPOLLIN = true) :
    handleConnectedSocketEvents registry id events w =
      (receiveInbound id >>= fun received => readInboundBytes registry received.1 id >>= fun _ =>
        afterInbound id s.socketIdentifier events received.2) w := by
  rw [handleConnectedSocketEvents, if_pos hin, handleReadable, receiveInbound, bind_assoc, bind_assoc,
    Program.bind_ok (dereference_some hs), Program.bind_ok (dereference_some hs), bind_assoc, bind_assoc]
  refine congrFun (bind_congr fun received => ?_) w
  obtain ⟨bytes, closed⟩ := received
  simp only [readWithItsReader_eq, bind_assoc, pure_bind]
  refine bind_congr fun _ => bind_congr fun reader => bind_congr fun _ => ?_
  rw [afterInbound]
  refine bind_congr fun _ => ?_
  cases closed with
  | true => simp
  | false => simp

/-- The handling of the events calls `::recv`. -/
def Receives (s : Socket υ) (events : UInt32) : Prop :=
  s.socket.isEstablished = true ∧ hasEvent events EPOLLRDHUP = false ∧ hasEvent events EPOLLERR = false ∧
    hasEvent events EPOLLIN = true

instance (s : Socket υ) (events : UInt32) : Decidable (Receives s events) := inferInstanceAs (Decidable (_ ∧ _))

/-- The bytes that `::recv` returns while the events are handled. -/
def bytesReceived (s : Socket υ) (events : UInt32) (w : World υ) : List UInt8 :=
  if Receives s events then receivedBytes w.kernel.script.receives else []

/-- The bytes are appended in their order and read, by a reader that is there, before all else; and what was read is
in the history before anything that the rest of the handling records. -/
def Offered (fd : FileDescriptor) (events : UInt32) (id : SocketIdentifier) (s : Socket υ) (bytes : List UInt8)
    (w : World υ) : Prop :=
  ∃ reader closed t, receiveInbound id w = .ok (reader, closed) t ∧ t.sockets.contains reader = true ∧
    t.sockets[id]? = some { s with inboundBytes := s.inboundBytes ++ bytes } ∧
    handleSocketEvents registry fd events w = Program.tryCatchAll
      (readInboundBytes registry reader id >>= fun _ => afterInbound id s.socketIdentifier events closed)
      (eraseSocket s.socketIdentifier) t ∧
    (Program.final (readInboundBytes registry reader id t)).history <+:
      (Program.final (handleSocketEvents registry fd events w)).history

def HasReader (s : Socket υ) (w : World υ) : Prop :=
  s.listeningSocketIdentifier = invalidSocketIdentifier ∨ w.sockets.contains s.listeningSocketIdentifier = true

theorem handleSocketEventsWork_receives {id : SocketIdentifier} {s : Socket υ} (hs : w.sockets[id]? = some s)
    {events : UInt32} (h : Receives s events) : handleSocketEventsWork registry id events w =
      (receiveInbound id >>= fun received => readInboundBytes registry received.1 id >>= fun _ =>
        afterInbound id s.socketIdentifier events received.2) w := by
  obtain ⟨hestablished, hclosed, haborted, hin⟩ := h
  rw [handleSocketEventsWork, Program.bind_ok (dereference_some hs)]
  simp only [hclosed, haborted, Bool.false_eq_true, if_false]
  rw [← handleConnectedSocketEvents_eq registry hs hin]
  cases htype : s.socket.socketType with
  | accepted | connected => rfl
  | unbound | listening | connecting => simp [LinuxSocket.isEstablished, htype] at hestablished

theorem handleSocketEvents_work {fd : FileDescriptor} {id : SocketIdentifier} {s : Socket υ}
    (hfd : w.fileDescriptorsToSockets[fd]? = some id) (hs : w.sockets[id]? = some s) (events : UInt32) :
    handleSocketEvents registry fd events w =
      Program.tryCatchAll (handleSocketEventsWork registry id events) (eraseSocket s.socketIdentifier) w := by
  rw [handleSocketEvents, Program.bind_ok Program.get_apply]
  simp only [hfd]
  rw [Program.bind_ok (dereference_some hs)]

omit [Ballotin] in
/-- The reader is found where it was before. -/
theorem findReader_run {id : SocketIdentifier} {s : Socket υ} (hs : w.sockets[id]? = some s) :
    (HasReader s w ∧ ∃ reader, findReader id w = .ok reader w ∧ w.sockets.contains reader = true) ∨
      ¬ HasReader s w ∧ ∃ e, findReader id w = .error e w := by
  rw [findReader, Program.bind_ok (dereference_some hs)]
  split_ifs with hlistener
  · rcases getSocketOrThrow_cases s.listeningSocketIdentifier w with ⟨hcontains, hok⟩ | ⟨e, hnone, herror⟩
    · exact .inl ⟨.inr hcontains, _, hok, hcontains⟩
    · refine .inr ⟨?_, e, herror⟩
      rintro (hself | hcontains)
      · exact hlistener hself
      · rw [Table.contains_eq, hnone] at hcontains
        cases hcontains
  · refine .inl ⟨.inl (not_not.mp hlistener), id, rfl, ?_⟩
    rw [Table.contains_eq, hs]
    rfl

omit [Ballotin] in
theorem receiveInbound_run {id : SocketIdentifier} {s : Socket υ} (hs : w.sockets[id]? = some s)
    (hestablished : s.socket.isEstablished = true) :
    ((receivingFails w.kernel.script.receives = false ∧ HasReader s w) ∧ ∃ reader closed t,
        receiveInbound id w = .ok (reader, closed) t ∧ t.sockets.contains reader = true ∧
        t.sockets[id]? =
          some { s with inboundBytes := s.inboundBytes ++ receivedBytes w.kernel.script.receives }) ∨
      ¬ (receivingFails w.kernel.script.receives = false ∧ HasReader s w) ∧
        ∃ e t, receiveInbound id w = .error e t := by
  rw [receiveInbound, Program.bind_ok (dereference_some hs)]
  rcases LinuxSocket.receiveBytes_run hestablished w.kernel with
    ⟨hreturns, closed, script, hok⟩ | ⟨hfails, e, script, herror⟩
  · rw [Program.bind_ok (onKernel_ok hok)]
    dsimp only
    rw [Program.bind_ok (Program.modify_apply _)]
    set t : World υ := ({ w with kernel := { w.kernel with script } } : World υ).updateSocket id fun s =>
      { s with inboundBytes := s.inboundBytes ++ receivedBytes w.kernel.script.receives } with ht
    have hid : t.sockets[id]? =
        some { s with inboundBytes := s.inboundBytes ++ receivedBytes w.kernel.script.receives } := by
      change (w.sockets.modify id _)[id]? = _
      rw [Table.lookup_modify, if_pos rfl, hs]
      rfl
    have hkept : ∀ reader : SocketIdentifier, t.sockets.contains reader = w.sockets.contains reader := by
      intro reader
      change (w.sockets.modify id _).contains reader = _
      rw [Table.contains_eq, Table.contains_eq, Table.lookup_modify]
      split_ifs with heq
      · rw [heq, Option.isSome_map]
      · rfl
    have hreader : HasReader { s with inboundBytes := s.inboundBytes ++ receivedBytes w.kernel.script.receives } t ↔
        HasReader s w := by
      unfold HasReader
      rw [hkept]
    rcases findReader_run hid with ⟨hhas, reader, hfound, hcontains⟩ | ⟨hnot, e, herror⟩
    · exact .inl ⟨⟨hreturns, hreader.mp hhas⟩, reader, closed, t, by rw [Program.bind_ok hfound]; rfl, hcontains, hid⟩
    · exact .inr ⟨fun h => hnot (hreader.mpr h.2), e, t, Program.bind_error herror⟩
  · -- what was received is thrown away with the result of the loop
    refine .inr ⟨fun h => ?_, e, _, Program.bind_error (onKernel_error herror)⟩
    rw [hfails] at h
    cases h.1

theorem afterInbound_follows (registry : ProtocolRegistry) (id socketIdentifier : SocketIdentifier) (events : UInt32) (closed : Bool) :
    Program.Within Follows (afterInbound id socketIdentifier events closed) w := by
  refine .bind (follows_handling registry id).sendOutboundBytes fun _ t _ => ?_
  split_ifs
  · exact eraseSocket_follows socketIdentifier
  · exact (follows_handling registry id).handleWritable events

/-- The bytes that `::recv` returns while the events of a socket are handled are all offered to its reader, exactly if
there are none, or no error ends the receiving and the reader is there. -/
theorem received_offered_iff {fd : FileDescriptor} {id : SocketIdentifier} {s : Socket υ} (events : UInt32)
    (hfd : w.fileDescriptorsToSockets[fd]? = some id) (hs : w.sockets[id]? = some s) :
    bytesReceived s events w = [] ∨ Offered registry fd events id s (bytesReceived s events w) w ↔
      bytesReceived s events w = [] ∨ receivingFails w.kernel.script.receives = false ∧ HasReader s w := by
  by_cases hnone : bytesReceived s events w = []
  · exact iff_of_true (.inl hnone) (.inl hnone)
  have hreceives : Receives s events := by
    by_contra hnot
    exact hnone (if_neg hnot)
  rw [or_iff_right hnone, or_iff_right hnone, show bytesReceived s events w = _ from if_pos hreceives]
  rcases receiveInbound_run hs hreceives.1 with ⟨hreader, reader, closed, t, hok, hcontains, hid⟩ | ⟨hnot, e, t, herror⟩
  · refine iff_of_true ⟨reader, closed, t, hok, hcontains, hid, ?_⟩ hreader
    have hrest : handleSocketEvents registry fd events w = Program.tryCatchAll
        (readInboundBytes registry reader id >>= fun _ => afterInbound id s.socketIdentifier events closed)
        (eraseSocket s.socketIdentifier) t := by
      rw [handleSocketEvents_work registry hfd hs]
      refine Program.tryCatchAll_eq ?_
      rw [handleSocketEventsWork_receives registry hs hreceives, Program.bind_ok hok]
    refine ⟨hrest, ?_⟩
    rw [hrest]
    exact (Program.Within.tryCatchAll_after (R := Follows) (fun _ _ _ => afterInbound_follows registry id _ events closed)
      fun _ => eraseSocket_follows _).grows
  · refine iff_of_false ?_ hnot
    rintro ⟨reader, closed, t', hok, -⟩
    rw [herror] at hok
    cases hok

end SocketContainer

def resetLoop : EventLoop Unit :=
  EventLoop.connectedLoop.withScript { receives := [.received [1, 2, 3, 4], .failure "Connection reset by peer"] }

theorem resetLoop_notOffered :
    @EventLoop.Reachable Unit referenceBallotin emptyRegistry resetLoop ∧
      resetLoop.world.fileDescriptorsToSockets[8]? = some 1 ∧ ∃ s, resetLoop.world.sockets[1]? = some s ∧
        SocketContainer.bytesReceived s EPOLLIN resetLoop.world = [1, 2, 3, 4] ∧
        ¬ @SocketContainer.Offered Unit referenceBallotin emptyRegistry 8 EPOLLIN 1 s [1, 2, 3, 4] resetLoop.world := by
  let _ := referenceBallotin
  refine ⟨(EventLoop.connectedLoop_run fun _ _ hstep _ => hstep).step (.outcomes EventLoop.connectedLoop _), rfl, _, rfl,
    by decide, ?_⟩
  rintro ⟨reader, closed, t, hok, -⟩
  cases hok

/-- The same bytes, and the end of the stream after them. -/
theorem closedLoop_offered :
    let l := EventLoop.connectedLoop.withScript { receives := [.received [1, 2, 3, 4], .received []] }
    ∃ s, l.world.sockets[1]? = some s ∧ SocketContainer.bytesReceived s EPOLLIN l.world = [1, 2, 3, 4] ∧
      @SocketContainer.Offered Unit referenceBallotin emptyRegistry 8 EPOLLIN 1 s [1, 2, 3, 4] l.world := by
  let _ := referenceBallotin
  intro l
  obtain ⟨s, hs, hself, hbytes⟩ : ∃ s, l.world.sockets[1]? = some s ∧
      s.listeningSocketIdentifier = invalidSocketIdentifier ∧
      SocketContainer.bytesReceived s EPOLLIN l.world = [1, 2, 3, 4] := ⟨_, rfl, rfl, by decide⟩
  have hfd : l.world.fileDescriptorsToSockets[8]? = some 1 := rfl
  have hoffered := (SocketContainer.received_offered_iff emptyRegistry EPOLLIN hfd hs).mpr
    (.inr ⟨by decide, .inl hself⟩)
  rw [hbytes] at hoffered
  exact ⟨s, hs, hbytes, hoffered.resolve_left (by decide)⟩

end Farseer.Linux
