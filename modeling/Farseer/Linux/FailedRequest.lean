import Farseer.Linux.PendingOutput

/-! What a `sendRequest` that throws leaves behind. The consumer of the response is registered before the bytes
are passed on, and they are in the outgoing buffer before the kernel is called; neither is taken back. -/

namespace Farseer.Linux

variable {υ : Type}

/-- Nothing stands in the way of `sendBytes`: the socket is established, `::send` has nothing to do or does not
fail, and neither does the call that sets the events of its descriptor. -/
structure LinuxSocket.CanSend (s : LinuxSocket) (k : Kernel) (bytes : List UInt8) : Prop where
  established : s.isEstablished = true
  sends : s.outgoingBuffer ++ bytes = [] ∨ ∀ e, k.script.sends.head? ≠ some (.failure e)
  subscribed : k.interestList.contains s.socket = true
  controls : ∀ e, k.script.controls.head? ≠ some (.failure e)

/-- The waiting consumers of the socket are those of before, and nothing of what was to be sent waits in its
outgoing buffer. -/
def RolledBack (id : SocketIdentifier) (w w' : World υ) : Prop :=
  ∀ s : Socket υ, w.sockets[id]? = some s → ∃ s' : Socket υ, w'.sockets[id]? = some s' ∧
    s'.protocolReader.inboundOneShotResponseConsumers = s.protocolReader.inboundOneShotResponseConsumers ∧
    s'.socket.outgoingBuffer <:+ s.socket.outgoingBuffer

theorem setEvents_failure {k : Kernel} {e : String} (h : k.script.controls.head? = some (.failure e))
    (fd : FileDescriptor) (events : UInt32) : ∃ e' k', EventPoll.setEvents fd events k = .error e' k' := by
  obtain ⟨rest, hcontrols⟩ := List.head?_eq_some_iff.mp h
  have hdraw : EventPoll.drawControl k = .ok (.failure e) { k with script := { k.script with controls := rest } } := by
    rw [EventPoll.drawControl, draw, hcontrols]
  rw [EventPoll.setEvents, Program.bind_ok hdraw, Program.bind_ok Program.get_apply]
  exact ⟨_, _, rfl⟩

namespace LinuxSocket

variable {s : LinuxSocket} {k : Kernel} {bytes : List UInt8} {e : String}

theorem sendBytes_failure (hs : s.isEstablished = true) (hbuffer : s.outgoingBuffer ++ bytes ≠ [])
    (h : k.script.sends.head? = some (.failure e)) : ∃ e' t, sendBytes bytes (s, k) = .error e' t := by
  obtain ⟨rest, hsends⟩ := List.head?_eq_some_iff.mp h
  have hnot : (s.outgoingBuffer ++ bytes).isEmpty = false := by rwa [List.isEmpty_eq_false_iff]
  set k' : Kernel := { k with script := { k.script with sends := rest } }
  have hsend : send s.socket (s.outgoingBuffer ++ bytes) k = .ok (.failure e) k' := by
    rw [send, Program.bind_ok (a := .failure e) (by rw [draw, hsends])]
    rfl
  have hzoom : Program.zoom Prod.snd (fun kernel (sk : LinuxSocket × Kernel) => (sk.1, kernel))
      (send s.socket (s.outgoingBuffer ++ bytes)) ({ s with outgoingBuffer := s.outgoingBuffer ++ bytes }, k) =
      .ok (.failure e) ({ s with outgoingBuffer := s.outgoingBuffer ++ bytes }, k') := by rw [Program.zoom, hsend]
  rw [sendBytes, Program.bind_ok Program.get_apply]
  simp only [hs, Bool.not_true, Bool.false_eq_true, if_false]
  rw [Program.bind_ok (Program.set_apply _), flush, Program.bind_ok Program.get_apply]
  simp only [hnot, Bool.false_eq_true, if_false]
  rw [Program.bind_ok hzoom]
  exact ⟨_, _, rfl⟩

end LinuxSocket

namespace SocketContainer

variable {w : World υ} {id : SocketIdentifier} {s : Socket υ}

/-- Sending on a socket of the container changes the socket and the kernel, and returns exactly if it can. -/
theorem sendBytesTo_run (hs : w.sockets[id]? = some s) (bytes : List UInt8) : ∃ l k',
    (s.socket.CanSend w.kernel bytes ∧ sendBytesTo id bytes w = .ok () (called id l k' w)) ∨
      ¬ s.socket.CanSend w.kernel bytes ∧ ∃ e, sendBytesTo id bytes w = .error e (called id l k' w) := by
  have honSocket : ∀ {r}, LinuxSocket.sendBytes bytes (s.socket, w.kernel) = r →
      onLinuxSocket id (LinuxSocket.sendBytes bytes) w = match r with
        | .ok a (l, k') => .ok a (called id l k' w)
        | .error e (l, k') => .error e (called id l k' w) := by
    rintro r rfl
    rw [onLinuxSocket, hs]
    dsimp only
    cases LinuxSocket.sendBytes bytes (s.socket, w.kernel) <;> rfl
  cases hestablished : s.socket.isEstablished with
  | false =>
    have hrefused := honSocket (LinuxSocket.sendBytes_refused hestablished bytes w.kernel)
    exact ⟨s.socket, w.kernel, .inr ⟨fun h => by simp [h.established] at hestablished, _, Program.bind_error hrefused⟩⟩
  | true =>
    obtain ⟨m, k', htook, -, hsent | ⟨-, hbuffer, e, hfailure, herror⟩⟩ :=
      LinuxSocket.sendBytes_established hestablished bytes w.kernel
    · have hsends : s.socket.outgoingBuffer ++ bytes = [] ∨ ∀ e, w.kernel.script.sends.head? ≠ some (.failure e) := by
        refine or_iff_not_imp_left.mpr fun hbuffer e hfailure => ?_
        obtain ⟨e', t, herror⟩ := LinuxSocket.sendBytes_failure hestablished hbuffer hfailure
        rw [hsent] at herror
        cases herror
      set l : LinuxSocket := { s.socket with outgoingBuffer := (s.socket.outgoingBuffer ++ bytes).drop m }
      have hstep := (Program.bind_ok (f := fun exhausted => do
        let s ← dereference id
        onKernel (EventPoll.setEvents s.socket.socket (eventsAfterSending exhausted))) (honSocket hsent)).trans
        (Program.bind_ok (dereference_some (called_self hs l k')))
      obtain ⟨script, ⟨hsubscribed, hset⟩ | ⟨e, hset, hfails⟩⟩ :=
        setEvents_cases l.socket (eventsAfterSending l.outgoingBuffer.isEmpty) k'
      · refine ⟨l, _, .inl ⟨⟨hestablished, hsends, htook.interestList ▸ hsubscribed, fun e hfailure => ?_⟩,
          hstep.trans (onKernel_ok hset)⟩⟩
        rw [← htook.controls] at hfailure
        obtain ⟨e', k'', herror⟩ := setEvents_failure hfailure l.socket (eventsAfterSending l.outgoingBuffer.isEmpty)
        rw [hset] at herror
        cases herror
      · refine ⟨l, _, .inr ⟨fun h => ?_, e, hstep.trans (onKernel_error hset)⟩⟩
        obtain ⟨e', hfailure⟩ := hfails (htook.interestList.symm ▸ h.subscribed)
        exact h.controls e' (htook.controls ▸ hfailure)
    · refine ⟨_, k', .inr ⟨fun h => ?_, _, Program.bind_error (honSocket herror)⟩⟩
      rcases h.sends with hempty | hsends
      · exact hbuffer hempty
      · exact hsends e hfailure

def asked (s : Socket υ) (id : SocketIdentifier) (n : ProtocolSequenceNumber) (responseConsumer : Consumer υ)
    (w : World υ) : World υ :=
  (w.updateSocket id fun s' => { s' with protocolReader := { s.protocolReader with
    inboundOneShotResponseConsumers := s.protocolReader.inboundOneShotResponseConsumers.insert n responseConsumer } }).record
      (.responseConsumerRegistered id n responseConsumer)

/-- A request with a new number is registered and passed on; one whose number waits already changes nothing. -/
theorem sendRequest_cases (hs : w.sockets[id]? = some s) (n : ProtocolSequenceNumber) (bytes : List UInt8)
    (responseConsumer : Consumer υ) :
    (s.protocolReader.inboundOneShotResponseConsumers.contains n = false ∧
        sendRequest id n bytes responseConsumer w = sendBytesTo id bytes (asked s id n responseConsumer w)) ∨
      s.protocolReader.inboundOneShotResponseConsumers.contains n = true ∧
        ∃ e, sendRequest id n bytes responseConsumer w = .error e
          (w.updateSocket id fun s' => { s' with protocolReader := s.protocolReader }) := by
  have hstep : sendRequest id n bytes responseConsumer w = _ := Program.bind_ok (getSocketOrThrow_some hs)
  cases hfree : s.protocolReader.inboundOneShotResponseConsumers.contains n with
  | false =>
    have hregistered : ProtocolReader.registerInboundOneShotResponseConsumer n responseConsumer s.protocolReader =
        .ok () { s.protocolReader with inboundOneShotResponseConsumers :=
          s.protocolReader.inboundOneShotResponseConsumers.insert n responseConsumer } := by
      rw [ProtocolReader.registerInboundOneShotResponseConsumer, Program.bind_ok Program.get_apply]
      simp only [hfree]
      rfl
    exact .inl ⟨rfl, hstep.trans ((Program.bind_ok (onProtocolReader_ok hs hregistered)).trans
      (Program.bind_ok (Program.modify_apply _)))⟩
  | true =>
    obtain ⟨e, hrefused⟩ : ∃ e, ProtocolReader.registerInboundOneShotResponseConsumer n responseConsumer
        s.protocolReader = .error e s.protocolReader := by
      rw [ProtocolReader.registerInboundOneShotResponseConsumer, Program.bind_ok Program.get_apply]
      simp only [hfree]
      exact ⟨_, rfl⟩
    exact .inr ⟨rfl, _, hstep.trans (Program.bind_error (onProtocolReader_error hs hrefused))⟩

/-- A request that fails is rolled back if and only if it fails before its consumer is registered: its socket is not
there, its number waits already, or nothing stands in the way of its bytes. -/
theorem sendRequest_rolledBack_iff (w : World υ) (id : SocketIdentifier) (n : ProtocolSequenceNumber)
    (bytes : List UInt8) (responseConsumer : Consumer υ) :
    (∀ e w', sendRequest id n bytes responseConsumer w = .error e w' → RolledBack id w w') ↔
      ∀ s : Socket υ, w.sockets[id]? = some s → s.protocolReader.inboundOneShotResponseConsumers.contains n = false →
        s.socket.CanSend w.kernel bytes := by
  cases hs : w.sockets[id]? with
  | none =>
    refine ⟨fun _ s h => (by cases h), fun _ e w' _ s h => ?_⟩
    rw [hs] at h
    cases h
  | some s =>
    rcases sendRequest_cases hs n bytes responseConsumer with ⟨hfree, hsend⟩ | ⟨hwaits, e, herror⟩
    · have hasked : (asked s id n responseConsumer w).sockets[id]? = some { s with protocolReader :=
          { s.protocolReader with inboundOneShotResponseConsumers :=
              s.protocolReader.inboundOneShotResponseConsumers.insert n responseConsumer } } := by
        change (w.sockets.modify id _)[id]? = _
        rw [Table.lookup_modify, if_pos rfl, hs]
        rfl
      obtain ⟨l, k', ⟨hcan, hok⟩ | ⟨hcannot, e, herror⟩⟩ := sendBytesTo_run hasked bytes
      · rw [hsend, hok]
        refine iff_of_true (fun e w' h => by cases h) fun s' hs' _ => ?_
        cases hs'
        exact hcan
      · -- the consumer waits for a response, although the call threw
        rw [hsend, herror]
        refine iff_of_false (fun h => ?_) fun h => hcannot (h s rfl hfree)
        obtain ⟨s', hs', htable, -⟩ := h e _ rfl s hs
        rw [called_self hasked] at hs'
        cases hs'
        rw [← htable, Std.ExtTreeMap.contains_insert_self] at hfree
        cases hfree
    · rw [herror]
      refine iff_of_true (fun e' w' h => ?_) fun s' hs' hfree => ?_
      · cases h
        intro s' hs'
        obtain rfl := Option.some_inj.mp (hs.symm.trans hs')
        refine ⟨s, ?_, rfl, List.suffix_refl _⟩
        change (w.sockets.modify id _)[id]? = _
        rw [Table.lookup_modify, if_pos rfl, hs]
        rfl
      · cases hs'
        rw [hwaits] at hfree
        cases hfree

end SocketContainer

/-! A connected socket of a running provider, whose peer is gone when a request is sent. -/

def brokenWorld : World Unit :=
  (EventLoop.connectedLoop.withScript { sends := [.failure "Broken pipe"] }).world

/-- The call throws, and both the consumer and the bytes of the request stay. -/
theorem brokenWorld_notRolledBack :
    (∃ l, @EventLoop.Reachable Unit referenceBallotin emptyRegistry l ∧ l.world = brokenWorld) ∧
    ∃ w', SocketContainer.sendRequest 1 5 [1, 2, 3] (fun _ => pure ()) brokenWorld =
        .error (.internalSocketError "Error sending bytes to socket: Broken pipe") w' ∧
      ¬ RolledBack 1 brokenWorld w' ∧
      (w'.sockets[1]?).map (fun s => (s.socket.outgoingBuffer,
        s.protocolReader.inboundOneShotResponseConsumers.contains 5)) = some ([1, 2, 3], true) := by
  let _ := referenceBallotin
  have hreachable := (EventLoop.connectedLoop_run fun _ _ hstep _ => hstep).step
    (.outcomes EventLoop.connectedLoop { sends := [.failure "Broken pipe"] })
  have hcall : ∃ w', SocketContainer.sendRequest 1 5 [1, 2, 3] (fun _ => pure ()) brokenWorld =
        .error (.internalSocketError "Error sending bytes to socket: Broken pipe") w' ∧
      (w'.sockets[1]?).map (fun s => (s.socket.outgoingBuffer,
        s.protocolReader.inboundOneShotResponseConsumers.contains 5)) = some ([1, 2, 3], true) := ⟨_, rfl, rfl⟩
  obtain ⟨w', herror, hleft⟩ := hcall
  refine ⟨⟨_, hreachable, rfl⟩, w', herror, fun h => ?_, hleft⟩
  obtain ⟨s', hs', htable, -⟩ := h _ rfl
  rw [hs', Option.map_some, htable] at hleft
  cases congrArg Prod.snd (Option.some_inj.mp hleft)

end Farseer.Linux
