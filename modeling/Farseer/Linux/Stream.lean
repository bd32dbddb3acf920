import Farseer.Linux.Isolation
import Farseer.Linux.Meter

/-! The bytes that `::recv` returns, over every run of the Linux provider. A meter beside the state counts them for each
socket; the frames handed over and the bytes that wait in the socket are all of them. -/

namespace Farseer.Linux

variable {υ : Type}

def Socket.buffers (s : Socket υ) : List UInt8 × List UInt8 := (s.inboundBytes, s.outboundBytes)

def World.inboxes (w : World υ) : Inboxes υ where
  buffers := fun id => w.sockets[id]?.map Socket.buffers
  history := w.history

def KeepsInboxes (w w' : World υ) : Prop := w'.inboxes = w.inboxes

instance : IsPreorder (World υ) KeepsInboxes where
  refl _ := rfl
  trans _ _ _ h h' := Eq.trans h' h

theorem KeepsInboxes.of_sockets {w w' : World υ} (hsockets : w'.sockets = w.sockets) (hhistory : w'.history = w.history) :
    KeepsInboxes w w' := by
  unfold KeepsInboxes World.inboxes
  rw [hsockets, hhistory]

theorem KeepsInboxes.updateSocket {f : Socket υ → Socket υ} (id : SocketIdentifier) (w : World υ)
    (hf : ∀ s, (f s).buffers = s.buffers) : KeepsInboxes w (w.updateSocket id f) := by
  unfold KeepsInboxes World.inboxes
  congr 1
  funext id'
  rw [World.updateSocket, Table.lookup_modify]
  split_ifs with heq
  · rw [Option.map_map, heq, show Socket.buffers ∘ f = Socket.buffers from funext hf]
  · rfl

/-- No frame is handed over, and the bytes of the sockets stay. -/
def LeavesUnread (w w' : World υ) : Prop := Unread w.inboxes w'.inboxes

instance : IsPreorder (World υ) LeavesUnread where
  refl w := refl_of Unread w.inboxes
  trans _ _ _ h h' := trans_of Unread h h'

theorem KeepsInboxes.unread {w w' : World υ} (h : KeepsInboxes w w') : LeavesUnread w w' := by
  unfold LeavesUnread
  rw [show w'.inboxes = w.inboxes from h]
  exact refl_of Unread _

theorem LeavesUnread.record {event : ContainerEvent υ} (w : World υ) (hevent : ∀ id, deliveryOn id event = none) :
    LeavesUnread w (w.record event) := .of_event event hevent rfl fun _ _ h => .inl h

namespace SocketContainer

variable {w : World υ}

theorem removeSocket_unread (id : SocketIdentifier) : LeavesUnread w (removeSocket id w) := by
  cases hs : w.sockets[id]? with
  | none =>
    rw [removeSocket, hs]
    exact refl_of LeavesUnread w
  | some s =>
    obtain ⟨script, hremoved⟩ := removeSocket_eq hs
    rw [hremoved]
    refine .of_same (fun id' buffers h => ?_) rfl
    obtain ⟨s', hs', heq⟩ := Option.map_eq_some_iff.mp h
    exact Option.map_eq_some_iff.mpr ⟨s', (Table.lookup_erase_some hs').2, heq⟩

theorem insertSocket_unread {k' : Kernel} (events : UInt32) (id listener : SocketIdentifier) (s : LinuxSocket)
    (callback : ConnectionCallback υ) :
    LeavesUnread w (Program.final (insertSocket events (newSocket id listener s callback) { w with kernel := k' })) := by
  rcases insertSocket_outcome events (newSocket id listener s callback) { w with kernel := k' } with
    ⟨w', hok, -, hsockets, hhistory⟩ | ⟨e, w', herror, hsockets, hhistory⟩
  · rw [hok]
    refine .of_event _ (fun _ => rfl) hhistory fun id' buffers h => ?_
    change w'.sockets[id']?.map Socket.buffers = some buffers at h
    rw [hsockets, Table.lookup_insert] at h
    split_ifs at h with heq
    · cases h
      exact .inr ⟨rfl, congrArg some heq⟩
    · exact .inl h
  · rw [herror]
    exact KeepsInboxes.unread (.of_sockets hsockets hhistory)

theorem unread_lifecycle : Lifecycle (LeavesUnread (υ := υ)) where
  kernel _ _ _ := KeepsInboxes.unread (.of_sockets rfl rfl)
  user _ _ := KeepsInboxes.unread (.of_sockets rfl rfl)
  notified w _ _ _ := .record w fun _ => rfl
  numbered _ _ := KeepsInboxes.unread (.of_sockets rfl rfl)
  inserted _ _ id listener s callback events _ _ := insertSocket_unread events id listener s callback
  removed _ id := removeSocket_unread id

theorem onKernel_inboxes {α : Type} (x : KernelM α) : Program.Within KeepsInboxes (onKernel x) w := by
  unfold onKernel Program.Within Program.zoom
  cases x w.kernel <;> exact .of_sockets rfl rfl

theorem handleConnectingSocketEvents_unread (socket : SocketIdentifier) :
    Program.Within LeavesUnread (handleConnectingSocketEvents socket) w := by
  refine .bind (dereference_within socket) fun s t _ => .bind (KeepsInboxes.unread (onKernel_inboxes _)) fun _ u _ => ?_
  exact .bind (.modify (KeepsInboxes.unread (.updateSocket socket u fun _ => rfl))) fun _ v _ =>
    unread_lifecycle.notify _ _ _

theorem sendBytesTo_inboxes (socket : SocketIdentifier) (bytes : List UInt8) :
    Program.Within KeepsInboxes (sendBytesTo socket bytes) w := by
  refine .bind ?_ fun exhausted t _ => .bind (dereference_within socket) fun s u _ => onKernel_inboxes _
  have hcalled : ∀ (l : LinuxSocket) (k : Kernel),
      KeepsInboxes w { w.updateSocket socket (fun s => { s with socket := l }) with kernel := k } := fun l k => by
    refine trans_of KeepsInboxes (KeepsInboxes.updateSocket socket w (f := fun s => { s with socket := l }) ?_) ?_
    · exact fun _ => rfl
    · exact .of_sockets rfl rfl
  rw [Program.Within, onLinuxSocket]
  cases w.sockets[socket]? with
  | none => exact refl_of KeepsInboxes w
  | some s =>
    dsimp only
    split
    · exact hcalled _ _
    · exact hcalled _ _

theorem handleWritable_inboxes (socket : SocketIdentifier) (events : UInt32) :
    Program.Within KeepsInboxes (handleWritable socket events) w := by
  unfold handleWritable
  split_ifs
  · exact sendBytesTo_inboxes socket []
  · exact .pure _

theorem onProtocolReader_inboxes (socket : SocketIdentifier) (x : EStateM Exception (ProtocolReader υ) Unit) :
    Program.Within KeepsInboxes (onProtocolReader socket x) w := by
  rw [Program.Within, onProtocolReader]
  cases w.sockets[socket]? with
  | none => exact refl_of KeepsInboxes w
  | some s =>
    have hreader : ∀ protocolReader : ProtocolReader υ,
        KeepsInboxes w (w.updateSocket socket fun s => { s with protocolReader }) := fun _ =>
      .updateSocket socket w fun _ => rfl
    dsimp only
    split
    · exact hreader _
    · exact hreader _

end SocketContainer

open SocketContainer

theorem Task.execute_unread (registry : ProtocolRegistry) (task : Task υ) {w : World υ} :
    Program.Within LeavesUnread (task.execute registry) w := by
  have hreader : ∀ (socket : SocketIdentifier) (x : EStateM Exception (ProtocolReader υ) Unit) (t : World υ),
      Program.Within LeavesUnread (onProtocolReader socket x) t := fun socket x t => (onProtocolReader_inboxes socket x).unread
  have hsend : ∀ (socket : SocketIdentifier) (bytes : List UInt8) (t : World υ),
      Program.Within LeavesUnread (sendBytesTo socket bytes) t := fun socket bytes t => (sendBytesTo_inboxes socket bytes).unread
  cases task with
  | close id => exact unread_lifecycle.eraseSocket id
  | connect id ipAddress port callback => exact unread_lifecycle.connect id ipAddress port callback
  | listen id ipAddress port callback => exact unread_lifecycle.listen id ipAddress port callback
  | registerMessageConsumer id p consumer =>
    refine .bind (getSocketOrThrow_within id) fun socket t _ => .bind (hreader _ _ t) fun _ u _ => ?_
    exact .modify (.record u fun _ => rfl)
  | registerRequestCallback id p consumer =>
    exact .bind (getSocketOrThrow_within id) fun socket t _ => hreader _ _ t
  | sendBytes id bytes => exact .bind (getSocketOrThrow_within id) fun socket t _ => hsend _ _ t
  | sendRequest id n bytes consumer =>
    refine .bind (getSocketOrThrow_within id) fun socket t _ => .bind (hreader _ _ t) fun _ u _ => ?_
    exact .bind (.modify (.record u fun _ => rfl)) fun _ v _ => hsend _ _ v

namespace SocketContainer

section Turn

variable {id : SocketIdentifier} {w : World υ}

theorem inboxes_some {s : Socket υ} (hs : w.sockets[id]? = some s) : w.inboxes.buffers id = some s.buffers := by
  change w.sockets[id]?.map Socket.buffers = _
  rw [hs]
  rfl

theorem buffers_updateSocket (f : Socket υ → Socket υ) {s : Socket υ} (hs : w.sockets[id]? = some s) :
    (w.updateSocket id f).inboxes.buffers id = some (f s).buffers ∧
      ∀ id', id' ≠ id → (w.updateSocket id f).inboxes.buffers id' = w.inboxes.buffers id' := by
  have hlookup : ∀ id', (w.updateSocket id f).inboxes.buffers id' = ((w.sockets.modify id f)[id']?).map Socket.buffers :=
    fun _ => rfl
  refine ⟨?_, fun id' hne => ?_⟩
  · rw [hlookup, Table.lookup_modify, if_pos rfl, hs]
    rfl
  · rw [hlookup, Table.lookup_modify, if_neg hne.symm]
    rfl

variable [Ballotin] [LawfulBallotin] {registry : ProtocolRegistry} {received : ByteMeter}

omit [LawfulBallotin] in
/-- The bytes are in the socket, or the turn is over. -/
theorem receiveInbound_inward (h : Inward registry received (fun _ => True) w.inboxes) {s : Socket υ}
    (hs : w.sockets[id]? = some s) (hid : s.socketIdentifier = id) (hestablished : s.socket.isEstablished = true) :
    let received' := received.add id (receivedBytes w.kernel.script.receives)
    Program.Ends
      (fun _ t => (∃ inbound, Turn registry received' id inbound [] t.inboxes) ∧
        ∃ s, t.sockets[id]? = some s ∧ s.socketIdentifier = id)
      (fun t => Inward registry received' (fun id' => id' ≠ id) t.inboxes) (receiveInbound id) w := by
  intro received'
  have hbuffers := inboxes_some hs
  refine .bind_ok (dereference_some hs) ?_
  rcases LinuxSocket.receiveBytes_run hestablished w.kernel with ⟨-, closed, script, hok⟩ | ⟨-, e, script, herror⟩
  · refine .bind_ok (onKernel_ok hok) (.bind_ok (Program.modify_apply _) ?_)
    let k : World υ := { w with kernel := { w.kernel with script } }
    let receive : Socket υ → Socket υ := fun s =>
      { s with inboundBytes := s.inboundBytes ++ receivedBytes w.kernel.script.receives }
    have hk : k.sockets[id]? = some s := hs
    obtain ⟨hself, hothers⟩ := buffers_updateSocket receive hk
    have hturn : Turn registry received' id (s.inboundBytes ++ receivedBytes w.kernel.script.receives) []
        (k.updateSocket id receive).inboxes := h.turn hbuffers _ rfl hothers hself
    have ht : (k.updateSocket id receive).sockets[id]? = some (receive s) := by
      rw [World.updateSocket, Table.lookup_modify, if_pos rfl, hk]
      rfl
    rcases findReader_run ht with ⟨-, reader, hfound, -⟩ | ⟨-, e, herror⟩
    · exact .bind_ok hfound (.of_ok rfl ⟨⟨_, hturn⟩, _, ht, hid⟩)
    · exact .bind_error herror hturn.others
  · exact .bind_error (onKernel_error herror) (h.receive (h.known id (by simp [hbuffers])) _)

/-- Frames are read off the bytes of the socket, or the turn is over. -/
theorem readInboundBytes_inward (hregistry : registry.Reachable) (reader : SocketIdentifier) {inbound outbound : List UInt8}
    (h : Turn registry received id inbound outbound w.inboxes)
    (hid : ∃ s, w.sockets[id]? = some s ∧ s.socketIdentifier = id) :
    Program.Ends
      (fun _ t => ∃ inbound' outbound', Turn registry received id inbound' outbound' t.inboxes ∧ Waits registry inbound')
      (fun t => Inward registry received (fun id' => id' ≠ id) t.inboxes) (readInboundBytes registry reader id) w := by
  obtain ⟨s, hs, hid⟩ := hid
  have hbuffers := inboxes_some hs
  rw [h.buffers] at hbuffers
  cases hbuffers
  rw [Program.Ends, readInboundBytes, hs]
  cases hr : w.sockets[reader]? with
  | none => exact h.others
  | some readerSocket =>
    dsimp only
    set start : Reading υ :=
      { reader := readerSocket.protocolReader, inboundBytes := s.inboundBytes, inboundBitsOffset := 0,
        outboundBytes := s.outboundBytes, user := w.user, arrivals := [] }
    have hread := readInboundBytes_streamed hregistry (s := start) rfl
    have hafter : ∀ r : Reading υ,
        (afterReading reader id s.socketIdentifier r w).inboxes.history = w.inboxes.history ++ r.arrivals.map (.frameRead id) ∧
        (∀ id', id' ≠ id → (afterReading reader id s.socketIdentifier r w).inboxes.buffers id' = w.inboxes.buffers id') ∧
        (afterReading reader id s.socketIdentifier r w).inboxes.buffers id = some (r.inboundBytes, r.outboundBytes) := by
      intro r
      rw [hid]
      let t : World υ := w.updateSocket reader fun s => { s with protocolReader := r.reader }
      have hkeeps : t.inboxes = w.inboxes := KeepsInboxes.updateSocket reader w fun _ => rfl
      obtain ⟨s', hs', -⟩ : ∃ s', t.sockets[id]? = some s' ∧ s'.buffers = s.buffers := by
        refine Option.map_eq_some_iff.mp ?_
        change t.inboxes.buffers id = _
        rw [hkeeps]
        exact inboxes_some hs
      obtain ⟨hself, hothers⟩ := buffers_updateSocket
        (fun s : Socket υ => { s with inboundBytes := r.inboundBytes, outboundBytes := r.outboundBytes }) hs'
      exact ⟨rfl, fun id' hne => (hothers id' hne).trans (by rw [hkeeps]), hself⟩
    cases hrun : Reading.readInboundBytes registry start with
    | ok _ r =>
      obtain ⟨hstreamed, hwaits⟩ := hread.ok hrun
      obtain ⟨hhistory, hothers, hself⟩ := hafter r
      exact ⟨_, _, h.read hhistory hothers hself hstreamed, hwaits⟩
    | error e r =>
      obtain ⟨hhistory, hothers, -⟩ := hafter r
      exact h.cut hhistory hothers (hread.error hrun)

omit [LawfulBallotin] in
/-- The answers are passed on, and the turn ends. -/
theorem sendOutboundBytes_inward {inbound outbound : List UInt8} (h : Turn registry received id inbound outbound w.inboxes)
    (hwaits : Waits registry inbound) :
    Program.Ends (fun _ t => Inward registry received (fun _ => True) t.inboxes)
      (fun t => Inward registry received (fun id' => id' ≠ id) t.inboxes) (sendOutboundBytes id) w := by
  obtain ⟨s, hs, hbuffers⟩ := Option.map_eq_some_iff.mp (show w.sockets[id]?.map Socket.buffers = _ from h.buffers)
  cases hbuffers
  refine .bind_ok (dereference_some hs) ?_
  split_ifs with hempty
  · rw [List.isEmpty_iff.mp hempty] at h
    exact .of_ok rfl (h.settle hwaits)
  · have hsent := sendBytesTo_inboxes (w := w) id s.outboundBytes
    cases hrun : sendBytesTo id s.outboundBytes w with
    | error e t =>
      have hkeeps : t.inboxes = w.inboxes := hsent.error hrun
      exact .bind_error hrun (by rw [hkeeps]; exact h.others)
    | ok _ t =>
      have hkeeps : t.inboxes = w.inboxes := hsent.ok hrun
      rw [← hkeeps] at h
      refine .bind_ok hrun (.of_ok (Program.modify_apply _) ?_)
      obtain ⟨s', hs', hbuffers⟩ := Option.map_eq_some_iff.mp (show t.sockets[id]?.map Socket.buffers = _ from h.buffers)
      obtain ⟨hself, hothers⟩ := buffers_updateSocket (fun s : Socket υ => { s with outboundBytes := [] }) hs'
      rw [Socket.buffers, Prod.mk.injEq] at hbuffers
      have hnone : t.inboxes.history = t.inboxes.history ++ ([] : List (Arrival υ)).map (.frameRead id) :=
        (List.append_nil _).symm
      have hturn : Turn registry received id s.inboundBytes []
          (t.updateSocket id fun s => { s with outboundBytes := [] }).inboxes :=
        h.read hnone hothers (by rw [hself, Socket.buffers, hbuffers.1]) (.nil _)
      exact hturn.settle hwaits

theorem untilRemoval_inward (hregistry : registry.Reachable) (h : Inward registry received (fun _ => True) w.inboxes)
    {s : Socket υ} (hs : w.sockets[id]? = some s) (hid : s.socketIdentifier = id)
    (hestablished : s.socket.isEstablished = true) (events : UInt32) :
    let received' := received.add id (bytesReceived s events w)
    Program.Ends (fun _ t => Inward registry received' (fun _ => True) t.inboxes)
      (fun t => Inward registry received' (fun id' => id' ≠ id) t.inboxes) (untilRemoval registry id events) w := by
  intro received'
  have hunread : bytesReceived s events w = [] → received' = received := fun hnone => by
    change received.add id (bytesReceived s events w) = received
    rw [hnone, received.add_nil]
  have hwritable : ∀ t : World υ, Inward registry received' (fun _ => True) t.inboxes →
      Program.Ends (fun _ t => Inward registry received' (fun _ => True) t.inboxes)
        (fun t => Inward registry received' (fun id' => id' ≠ id) t.inboxes) (handleWritable id events) t := by
    intro t ht
    refine .of_within (handleWritable_inboxes id events) (fun _ u hu => ?_) fun u hu => ?_
    · rw [show u.inboxes = t.inboxes from hu]
      exact ht
    · rw [show u.inboxes = t.inboxes from hu]
      exact ht.mono fun _ _ => trivial
  have hnotReceived : ¬ Receives s events → Inward registry received' (fun _ => True) w.inboxes := fun hnot => by
    rw [hunread (if_neg hnot)]
    exact h
  unfold untilRemoval
  split_ifs with hclosed haborted hin
  · exact .of_ok rfl (hnotReceived fun hreceives => absurd hreceives.2.1 (by simp [hclosed]))
  · exact .of_ok rfl (hnotReceived fun hreceives => absurd hreceives.2.2.1 (by simp [haborted]))
  · have hreceived : received' = received.add id (receivedBytes w.kernel.script.receives) := by
      change received.add id (bytesReceived s events w) = _
      rw [bytesReceived, if_pos ⟨hestablished, by simpa using hclosed, by simpa using haborted, hin⟩]
    rw [hreceived] at hwritable ⊢
    refine .bind (receiveInbound_inward h hs hid hestablished) fun result t _ ⟨⟨inbound, hturn⟩, hsocket⟩ => ?_
    refine .bind (readInboundBytes_inward hregistry result.1 hturn hsocket) fun _ u _ ⟨_, _, hturn', hwaits⟩ => ?_
    refine .bind (sendOutboundBytes_inward hturn' hwaits) fun _ v _ hv => ?_
    split_ifs
    · exact .of_ok rfl hv
    · exact .bind (hwritable v hv) fun _ x _ hx => .of_ok rfl hx
  · exact .bind (hwritable w (hnotReceived fun hreceives => hin hreceives.2.2.2)) fun _ x _ hx => .of_ok rfl hx

omit [Ballotin] [LawfulBallotin] in
theorem eraseSocket_absent (id : SocketIdentifier) : (Program.final (eraseSocket id w)).inboxes.buffers id = none := by
  change (Program.final (eraseSocket id w)).sockets[id]?.map Socket.buffers = none
  cases hs : w.sockets[id]? with
  | none =>
    rw [eraseSocket_none hs, Program.final, hs]
    rfl
  | some s =>
    rw [eraseSocket_some hs, Program.final, removeSocket_absent]
    rfl

omit [LawfulBallotin] in
theorem eraseSocket_inward (h : Inward registry received (fun id' => id' ≠ id) w.inboxes)
    (hdistinct : DistinctIdentifiers (Program.final (eraseSocket id w)).history) :
    Inward registry received (fun _ => True) (Program.final (eraseSocket id w)).inboxes := by
  have hunread : LeavesUnread w (Program.final (eraseSocket id w)) := unread_lifecycle.eraseSocket id
  exact (h.unread hunread hdistinct).of_absent (eraseSocket_absent id)

omit [LawfulBallotin] in
/-- The events of a socket that is not established read nothing. -/
theorem handleSocketEventsWork_unread (registry : ProtocolRegistry) {s : Socket υ} (hs : w.sockets[id]? = some s)
    (hestablished : s.socket.isEstablished = false) (events : UInt32) :
    Program.Within LeavesUnread (handleSocketEventsWork registry id events) w := by
  refine Program.after_ok (dereference_some hs) ?_
  split_ifs
  · exact unread_lifecycle.eraseSocket _
  · exact unread_lifecycle.eraseSocket _
  · cases htype : s.socket.socketType with
    | accepted | connected => simp [LinuxSocket.isEstablished, htype] at hestablished
    | listening => exact Program.after_ok Program.get_apply (unread_lifecycle.housekeeping.acceptLoop id _)
    | connecting => exact handleConnectingSocketEvents_unread id
    | unbound => exact refl_of LeavesUnread w

end Turn

end SocketContainer

/-- The bytes that `::recv` has returned for each socket. -/
def receivedGauge : Gauge ByteMeter υ where
  handled fd events w received := w.addFor fd (fun _ s => bytesReceived s events w) received
  executed _ _ received := received

namespace SocketContainer

variable [Ballotin] [LawfulBallotin] {registry : ProtocolRegistry} {w : World υ} {r : FileDescriptor}

omit [LawfulBallotin] in
/-- The events are those of an established socket, which gets its turn and may be erased then, or nothing is read. -/
theorem handleSocketEvents_parts (registry : ProtocolRegistry) (hvalid : w.table.Valid r) (fd : FileDescriptor)
    (events : UInt32) :
    ((∀ {bytes : SocketIdentifier → Socket υ → List UInt8} {meter : ByteMeter},
        (∀ id s, s.socket.isEstablished = false → bytes id s = []) → w.addFor fd bytes meter = meter) ∧
      LeavesUnread w (Program.final (handleSocketEvents registry fd events w))) ∨
    ∃ id s, w.fileDescriptorsToSockets[fd]? = some id ∧ w.sockets[id]? = some s ∧ s.socketIdentifier = id ∧
      s.socket.isEstablished = true ∧
      handleSocketEvents registry fd events w = thenErase id (untilRemoval registry id events) w := by
  cases hfd : w.fileDescriptorsToSockets[fd]? with
  | none =>
    have hkeeps : Program.Within KeepsInboxes (handleSocketEvents registry fd events) w := by
      refine .get_bind ?_
      rw [hfd]
      exact onKernel_inboxes _
    exact .inl ⟨fun _ => World.addFor_none hfd _ _, KeepsInboxes.unread hkeeps⟩
  | some id =>
    obtain ⟨s, hs, rfl⟩ := ((World.Consistent.of_valid hvalid).descriptors fd id).mp hfd
    obtain ⟨hid, -⟩ := World.Registered.of_valid hvalid hs
    cases hestablished : s.socket.isEstablished with
    | true =>
      exact .inr ⟨id, s, rfl, hs, hid, hestablished, handleSocketEvents_untilRemoval registry hvalid hs hestablished events⟩
    | false =>
      refine .inl ⟨fun {bytes meter} hnothing => ?_, ?_⟩
      · rw [World.addFor_some hfd hs, hnothing id s hestablished, meter.add_nil]
      · rw [handleSocketEvents_work registry hfd hs]
        exact Program.Within.tryCatchAll (R := LeavesUnread) (handleSocketEventsWork_unread registry hs hestablished events)
          fun _ t _ => unread_lifecycle.eraseSocket _

theorem handleSocketEvents_inward (hregistry : registry.Reachable) (hvalid : w.table.Valid r) {received : ByteMeter}
    (h : Inward registry received (fun _ => True) w.inboxes) (fd : FileDescriptor) (events : UInt32)
    (hdistinct : DistinctIdentifiers (Program.final (handleSocketEvents registry fd events w)).history) :
    Inward registry (w.addFor fd (fun _ s => bytesReceived s events w) received) (fun _ => True)
      (Program.final (handleSocketEvents registry fd events w)).inboxes := by
  rcases handleSocketEvents_parts registry hvalid fd events with ⟨hnothing, hunread⟩ | ⟨id, s, hfd, hs, hid, hestablished, hturn⟩
  · have hnone : ∀ s : Socket υ, s.socket.isEstablished = false → bytesReceived s events w = [] := fun s hestablished =>
      if_neg fun hreceives => by cases hestablished.symm.trans hreceives.1
    rw [hnothing fun _ => hnone]
    exact h.unread hunread hdistinct
  · have hwork := untilRemoval_inward hregistry h hs hid hestablished events
    rw [World.addFor_some hfd hs]
    rw [hturn, thenErase] at hdistinct ⊢
    cases hrun : untilRemoval registry id events w with
    | error e t =>
      rw [hrun] at hdistinct
      exact eraseSocket_inward (hwork.error hrun) hdistinct
    | ok removed t =>
      rw [hrun] at hdistinct
      cases removed with
      | false => exact hwork.ok hrun
      | true => exact eraseSocket_inward ((hwork.ok hrun).mono fun _ _ => trivial) hdistinct

end SocketContainer

namespace EventLoop

section Runs

variable [Ballotin] [LawfulBallotin] {registry : ProtocolRegistry} {l : EventLoop υ} {received : ByteMeter}

omit [Ballotin] [LawfulBallotin] in
theorem Initial.inboxes (h : l.Initial) : l.world.inboxes = { buffers := fun _ => none, history := [] } := by
  unfold World.inboxes
  rw [h.sockets, h.history]
  simp

theorem Metered.inward (hregistry : registry.Reachable) (h : Metered registry receivedGauge (fun _ => []) l received)
    (hdistinct : DistinctIdentifiers l.world.history) : Inward registry received (fun _ => True) l.world.inboxes := by
  refine h.invariant (I := fun w received => Inward registry received (fun _ => True) w.inboxes) hdistinct
    (fun l hl => ?_) (fun w received script hw => hw) (fun l received fd events hl _ hw hafter => ?_)
    fun l received task _ hw hafter => hw.unread (Task.execute_unread registry task) hafter
  · rw [hl.inboxes]
    exact .initial
  · exact SocketContainer.handleSocketEvents_inward hregistry hl.sound.valid hw fd events hafter

/-- In every run in which identifiers do not repeat, what was handed over from a socket are frames of the bytes that
`::recv` returned for it, each once and in their order. As long as the socket is there they are all the whole frames,
the bytes behind them wait in the socket, and all answers have been passed on. -/
theorem received_streamed (hregistry : registry.Reachable)
    (h : Metered registry receivedGauge (fun _ => []) l received) (hdistinct : DistinctIdentifiers l.world.history)
    (id : SocketIdentifier) :
    (∃ rest, Streamed registry (received id) (deliveriesOn id l.world.history) rest) ∧
      ∀ s : Socket υ, l.world.sockets[id]? = some s →
        Streamed registry (received id) (deliveriesOn id l.world.history) s.inboundBytes ∧
          Waits registry s.inboundBytes ∧ s.outboundBytes = [] := by
  have hinward := h.inward hregistry hdistinct
  exact ⟨hinward.read id, fun s hs =>
    hinward.waiting id s.inboundBytes s.outboundBytes trivial (SocketContainer.inboxes_some hs)⟩

/-- Nothing was received on a socket that has no bytes and has handed over nothing. -/
theorem Metered.received_nothing (hregistry : registry.Reachable)
    (h : Metered registry receivedGauge (fun _ => []) l received) (hdistinct : DistinctIdentifiers l.world.history)
    {id : SocketIdentifier} {s : Socket υ} (hs : l.world.sockets[id]? = some s) (hinbound : s.inboundBytes = [])
    (hnone : deliveriesOn id l.world.history = []) : received id = [] := by
  obtain ⟨⟨frames, hread, hdelivered⟩, -⟩ := (h.inward hregistry hdistinct).waiting id s.inboundBytes s.outboundBytes
    trivial (SocketContainer.inboxes_some hs)
  obtain rfl : frames = [] := List.map_eq_nil_iff.mp (hdelivered.symm.trans hnone)
  exact hread.rest.2.symm.trans hinbound

end Runs

theorem connectedLoop_runs (registry : ProtocolRegistry) {R : EventLoop Unit → EventLoop Unit → Prop}
    (hR : ∀ l l', @Step Unit referenceBallotin registry l l' →
      (∀ task, l.Executes task → task = .connect 1 "127.0.0.1" 8080 silent) → R l l') : connectedLoop.Run R := by
  let _ := referenceBallotin
  have hreports : (EventLoop.new 3 4 ()).Reports [{ fileDescriptor := 4, events := EPOLLIN }] :=
    ⟨by decide, by decide, fun e he => by rw [List.mem_singleton.mp he]; decide⟩
  have hgiven := given_run (fun l l' hstep hidle => hR l l' hstep fun task h => absurd h (hidle task))
    (.initial (EventLoop.new_initial 3 4 ())) rfl rfl (.connect 1 "127.0.0.1" 8080 silent) [] hreports
  have hexecuted := hgiven.step (hR _ _ (.executeTask _ _ [] [] rfl) fun task ⟨_, _, h⟩ => by cases h; rfl)
  have hconnecting : connectingLoop.Run R :=
    hexecuted.step (hR _ _ (.tasksDone _ [] rfl) fun task ⟨_, _, h⟩ => by cases h)
  have hwaiting := hconnecting.step (hR _ _ (.batchDone _ rfl) fun task ⟨_, _, h⟩ => by cases h)
  have hreports : ({ connectingLoop with control := .waiting } : EventLoop Unit).Reports
      [{ fileDescriptor := 8, events := EPOLLOUT }] :=
    ⟨by decide, by decide, fun e he => by rw [List.mem_singleton.mp he]; decide⟩
  have hwaited := hwaiting.step (hR _ _ (.wait _ _ rfl hreports) fun task ⟨_, _, h⟩ => by cases h)
  have hhandled := hwaited.step (hR _ _ (.socketEvents _ _ [] rfl (by decide)) fun task ⟨_, _, h⟩ => by cases h)
  exact hhandled.step (hR _ _ (.batchDone _ rfl) fun task ⟨_, _, h⟩ => by cases h)

theorem connectedLoop_reachable (registry : ProtocolRegistry) :
    @EventLoop.Reachable Unit referenceBallotin registry connectedLoop :=
  connectedLoop_runs registry fun _ _ hstep _ => hstep

/-- The descriptor 8 is readable, and these bytes are there. -/
def readableLoop (bytes : List UInt8) : EventLoop Unit :=
  (connectedLoop.withScript { receives := [.received bytes] }).waited [{ fileDescriptor := 8, events := EPOLLIN }]

theorem readableLoop_reachable (registry : ProtocolRegistry) (bytes : List UInt8) :
    @EventLoop.Reachable Unit referenceBallotin registry (readableLoop bytes) := by
  let _ := referenceBallotin
  have hreports : connectedLoop.Reports [{ fileDescriptor := 8, events := EPOLLIN }] :=
    ⟨by decide, by decide, fun e he => by rw [List.mem_singleton.mp he]; decide⟩
  exact ((connectedLoop_reachable registry).step (.outcomes _ { receives := [.received bytes] })).step
    (.wait _ _ rfl ⟨hreports.size, hreports.distinct, hreports.subscribed⟩)

/-- The socket has read a text and has the start of another one. -/
def textLoop : EventLoop Unit :=
  @handled Unit referenceBallotin pingRegistry
    (readableLoop [0, 0, 0, 7, 0, 0, 0, 40, 0, 0, 0, 1, 97, 0, 0, 0, 7, 0]) { fileDescriptor := 8, events := EPOLLIN } []

theorem textLoop_streamed : ∃ received : ByteMeter,
    @Metered Unit ByteMeter referenceBallotin pingRegistry receivedGauge (fun _ => []) textLoop received ∧
    @Streamed referenceBallotin pingRegistry (received 1)
      [(.message, 7, 0, .of textProtocol.metadata.type ([97], ()))] [0, 0, 0, 7, 0] ∧
    @Waits referenceBallotin pingRegistry [0, 0, 0, 7, 0] := by
  let _ := referenceBallotin
  have _ := referenceBallotin_lawful
  obtain ⟨received, hreceived⟩ := (readableLoop_reachable pingRegistry
    [0, 0, 0, 7, 0, 0, 0, 40, 0, 0, 0, 1, 97, 0, 0, 0, 7, 0]).metered receivedGauge (fun _ => [])
  have htext : Metered pingRegistry receivedGauge (fun _ => []) textLoop _ :=
    hreceived.socketEvents { fileDescriptor := 8, events := EPOLLIN } [] rfl (by decide)
  obtain ⟨hstreamed, hwaits, -⟩ := (received_streamed pingRegistry_reachable htext (by decide) 1).2 _ rfl
  exact ⟨_, htext, hstreamed, hwaits⟩

end EventLoop

end Farseer.Linux
