import Farseer.Container.Stream
import Farseer.Windows.Roster
import Farseer.Windows.Startup

/-! The bytes that receives transfer, over every run of the Windows provider. A meter beside the state counts them for
each socket; the frames handed over and the bytes that wait in the socket are all of them. -/

namespace Farseer.Windows

variable {υ : Type}

def Socket.buffers (s : Socket υ) : List UInt8 × List UInt8 := (s.inboundBytes, s.outboundBytes)

def World.inboxes (w : World υ) : Inboxes υ where
  buffers := fun id => w.sockets[id]?.map Socket.buffers
  history := w.history

def KeepsInboxes (w w' : World υ) : Prop := w'.inboxes = w.inboxes

instance : IsPreorder (World υ) KeepsInboxes where
  refl _ := rfl
  trans _ _ _ h h' := Eq.trans h' h

theorem KeepsInboxes.of_sockets {w w' : World υ} (hsockets : w'.sockets = w.sockets) (hhistory : w'.history = w.history) :
    KeepsInboxes w w' := by
  unfold KeepsInboxes World.inboxes
  rw [hsockets, hhistory]

theorem KeepsInboxes.updateSocket {f : Socket υ → Socket υ} (id : SocketIdentifier) (w : World υ)
    (hf : ∀ s, (f s).buffers = s.buffers) : KeepsInboxes w (w.updateSocket id f) := by
  unfold KeepsInboxes World.inboxes
  congr 1
  funext id'
  rw [World.updateSocket, Table.lookup_modify]
  split_ifs with heq
  · rw [Option.map_map, heq, show Socket.buffers ∘ f = Socket.buffers from funext hf]
  · rfl

def LeavesUnread (w w' : World υ) : Prop := Unread w.inboxes w'.inboxes

instance : IsPreorder (World υ) LeavesUnread where
  refl w := refl_of Unread w.inboxes
  trans _ _ _ h h' := trans_of Unread h h'

theorem KeepsInboxes.unread {w w' : World υ} (h : KeepsInboxes w w') : LeavesUnread w w' := by
  unfold LeavesUnread
  rw [show w'.inboxes = w.inboxes from h]
  exact refl_of Unread _

theorem LeavesUnread.record {event : ContainerEvent υ} (w : World υ) (hevent : ∀ id, deliveryOn id event = none) :
    LeavesUnread w (w.record event) := .of_event event hevent rfl fun _ _ h => .inl h

namespace SocketContainer

variable {w : World υ}

theorem removeSocket_unread (id : SocketIdentifier) : LeavesUnread w (removeSocket id w) := by
  refine .of_same (fun id' buffers h => ?_) rfl
  obtain ⟨s, hs, heq⟩ := Option.map_eq_some_iff.mp h
  exact Option.map_eq_some_iff.mpr ⟨s, (Table.lookup_erase_some hs).2, heq⟩

theorem insertSocket_unread (id listener : SocketIdentifier) (s : WindowsSocket) (callback : ConnectionCallback υ)
    (pending : Bool) : Program.Within LeavesUnread (insertSocket id (newSocket s listener callback pending)) w := by
  rcases insertSocket_run id (newSocket s listener callback pending) w with ⟨e, herror⟩ | ⟨-, hok⟩
  · exact .of_error herror (refl_of LeavesUnread w)
  · refine .of_ok hok (.of_event _ (fun _ => rfl) rfl fun id' buffers h => ?_)
    change (w.sockets.insert id _)[id']?.map Socket.buffers = some buffers at h
    rw [Table.lookup_insert] at h
    split_ifs at h with heq
    · cases h
      exact .inr ⟨rfl, congrArg some heq⟩
    · exact .inl h

theorem onScript_inboxes {α : Type} (x : ScriptM α) : Program.Within KeepsInboxes (onScript x) w := by
  unfold onScript Program.Within Program.zoom
  cases x w.script <;> exact .of_sockets rfl rfl

theorem onWindowsSocket_inboxes (id : SocketIdentifier) (x : SocketM Unit) :
    Program.Within KeepsInboxes (onWindowsSocket id x) w := by
  have hcalled : ∀ (socket : WindowsSocket) (script : Script),
      KeepsInboxes w { w.updateSocket id (fun s => { s with socket }) with script } := fun socket script => by
    refine trans_of KeepsInboxes (KeepsInboxes.updateSocket id w (f := fun s => { s with socket }) ?_) ?_
    · exact fun _ => rfl
    · exact .of_sockets rfl rfl
  rw [Program.Within, onWindowsSocket]
  cases w.sockets[id]? with
  | none => exact refl_of KeepsInboxes w
  | some s =>
    dsimp only
    split
    · exact hcalled _ _
    · exact hcalled _ _

theorem onProtocolReader_inboxes (id : SocketIdentifier) (x : EStateM Exception (ProtocolReader υ) Unit) :
    Program.Within KeepsInboxes (onProtocolReader id x) w := by
  have hreader : ∀ protocolReader : ProtocolReader υ,
      KeepsInboxes w (w.updateSocket id fun s => { s with protocolReader }) := fun _ => .updateSocket id w fun _ => rfl
  rw [Program.Within, onProtocolReader]
  cases w.sockets[id]? with
  | none => exact refl_of KeepsInboxes w
  | some s =>
    dsimp only
    split
    · exact hreader _
    · exact hreader _

theorem notify_unread (id : SocketIdentifier) (event : SocketEvent) (argument : SocketIdentifier) :
    Program.Within LeavesUnread (notify id event argument) w := by
  refine .bind (dereference_within id) fun s t _ => .bind (.modify (.record t fun _ => rfl)) fun _ u _ => ?_
  unfold onUser Program.Within Program.zoom
  cases s.connectionCallback event argument u.user <;> exact KeepsInboxes.unread (.of_sockets rfl rfl)

theorem erased_unread (id : SocketIdentifier) : LeavesUnread w (erased id w) := by
  unfold erased
  cases hs : w.sockets[id]? with
  | none =>
    rw [eraseSocket_none hs]
    exact refl_of LeavesUnread w
  | some s =>
    rw [eraseSocket_some hs]
    have hnotified : Program.Within LeavesUnread (notifyClosed id s) w := by
      unfold notifyClosed
      split_ifs
      · exact .pure _
      · refine .get_bind ?_
        split_ifs
        · exact notify_unread _ _ _
        · exact .pure _
      · exact notify_unread _ _ _
    exact trans_of LeavesUnread hnotified (removeSocket_unread id)

theorem eraseSocket_unread (id : SocketIdentifier) : Program.Within LeavesUnread (eraseSocket id) w :=
  .of_ok (eraseSocket_ok id w) (erased_unread id)

end SocketContainer

open SocketContainer

section Operations

variable {w : World υ}

theorem post_inboxes (operation : Operation υ) : KeepsInboxes w (w.post operation) := .of_sockets rfl rfl

theorem postReceive_inboxes (id : SocketIdentifier) : Program.Within KeepsInboxes (postReceive id) w :=
  .bind (dereference_within id) fun _ _ _ => onScript_inboxes _

theorem postSend_inboxes (id : SocketIdentifier) : Program.Within KeepsInboxes (postSend id) w :=
  .bind (dereference_within id) fun _ _ _ => onScript_inboxes _

theorem scheduleReceiveSystemOperation_inboxes (id : SocketIdentifier) :
    Program.Within KeepsInboxes (scheduleReceiveSystemOperation id) w :=
  .bind (getSocketOrThrow_within id) fun _ _ _ => .bind (postReceive_inboxes _) fun _ _ _ => .modify (post_inboxes _)

theorem scheduleSendBytesSystemOperation_inboxes (id : SocketIdentifier) (bytes : List UInt8) :
    Program.Within KeepsInboxes (scheduleSendBytesSystemOperation id bytes) w :=
  .bind (getSocketOrThrow_within id) fun _ _ _ => .bind (postSend_inboxes _) fun _ _ _ => .modify (post_inboxes _)

theorem generateSocketIdentifier_inboxes : Program.Within KeepsInboxes (generateSocketIdentifier (υ := υ)) w :=
  .bind (onScript_inboxes _) fun _ _ _ => .get_bind (.bind (.of_sockets rfl rfl) fun _ _ _ => .pure _)

theorem postAccept_inboxes (listener id : SocketIdentifier) :
    Program.Within KeepsInboxes (AcceptSystemOperation.postAccept listener id) w :=
  .bind (dereference_within listener) fun _ _ _ => .bind (onScript_inboxes _) fun _ u _ =>
    .modify (.updateSocket id u fun _ => rfl)

theorem scheduleAcceptSystemOperation_unread (listener : SocketIdentifier) :
    Program.Within LeavesUnread (scheduleAcceptSystemOperation listener) w := by
  refine .bind generateSocketIdentifier_inboxes.unread fun id t _ => .bind ?_ fun _ _ _ => .modify (post_inboxes _).unread
  refine .bind (getSocketOrThrow_within listener) fun _ _ _ => .bind (insertSocket_unread id listener _ _ _) fun _ _ _ => ?_
  exact .scopeFailure (postAccept_inboxes _ _).unread fun _ => erased_unread id

namespace AcceptSystemOperation

theorem execute_unread (listener id : SocketIdentifier) : Program.Within LeavesUnread (execute listener id) w := by
  refine .bind (getSocketOrThrow_within id) fun accepted t _ => .bind (getSocketOrThrow_within listener) fun socket u _ => ?_
  refine .bind (dereference_within _) fun _ _ _ => .bind (onWindowsSocket_inboxes _ _).unread fun _ v _ => ?_
  refine .bind (.modify (KeepsInboxes.unread (.updateSocket socket v fun _ => rfl))) fun _ _ _ => ?_
  refine .bind (scheduleAcceptSystemOperation_unread listener) fun _ _ _ => ?_
  refine .bind (.modify (KeepsInboxes.unread (.of_sockets rfl rfl))) fun _ _ _ => ?_
  refine .bind (scheduleReceiveSystemOperation_inboxes _).unread fun _ x _ => ?_
  refine .bind (.modify (KeepsInboxes.unread (.updateSocket accepted x fun _ => rfl))) fun _ _ _ => ?_
  exact .bind (notify_unread _ _ _) fun _ _ _ => .pure _

theorem reschedule_unread (listener : SocketIdentifier) : Program.Within LeavesUnread (reschedule listener) w :=
  .scopeFailure (scheduleAcceptSystemOperation_unread listener) fun _ => erased_unread listener

theorem onFailure_unread (listener id : SocketIdentifier) (errorCode : Option ℕ) :
    Program.Within LeavesUnread (onFailure listener id errorCode) w := by
  refine .bind (eraseSocket_unread id) fun _ _ _ => .get_bind ?_
  split_ifs
  · exact .pure _
  · exact reschedule_unread listener
  · refine .bind (getSocketOrThrow_within listener) fun socket t _ => ?_
    refine .bind (.modify (KeepsInboxes.unread (.updateSocket socket t fun _ => rfl))) fun _ _ _ => ?_
    refine .bind (dereference_within _) fun _ _ _ => ?_
    split_ifs
    · exact eraseSocket_unread listener
    · exact reschedule_unread listener

end AcceptSystemOperation

theorem ConnectUserOperation.execute_unread (id : SocketIdentifier) (ipAddress : String) (port : ℕ)
    (callback : ConnectionCallback υ) : Program.Within LeavesUnread (execute id ipAddress port callback) w := by
  refine .bind (onScript_inboxes _).unread fun _ _ _ => .bind (insertSocket_unread id _ _ _ _) fun _ _ _ => ?_
  exact .bind (.scopeFailure (onWindowsSocket_inboxes _ _).unread fun _ => erased_unread id) fun _ _ _ => .pure _

theorem ConnectUserOperation.executePending_unread (id : SocketIdentifier) :
    Program.Within LeavesUnread (executePending id) w := by
  refine .bind (getSocketOrThrow_within id) fun _ _ _ => .bind (dereference_within _) fun _ _ _ => ?_
  refine .bind (onScript_inboxes _).unread fun _ _ _ => .bind (notify_unread _ _ _) fun _ _ _ => ?_
  exact .bind (scheduleReceiveSystemOperation_inboxes id).unread fun _ _ _ => .pure _

theorem ListenUserOperation.execute_unread (id : SocketIdentifier) (ipAddress : String) (port : ℕ)
    (callback : ConnectionCallback υ) : Program.Within LeavesUnread (execute id ipAddress port callback) w := by
  refine .bind (onScript_inboxes _).unread fun _ _ _ => .bind (insertSocket_unread id _ _ _ _) fun socket _ _ => ?_
  refine .bind (.scopeFailure ?_ fun _ => erased_unread id) fun _ _ _ => .pure _
  exact .bind (scheduleAcceptSystemOperation_unread socket) fun _ _ _ => notify_unread _ _ _

theorem bytesSent_inboxes (number : ℕ) (bytes : List UInt8) : Program.Within KeepsInboxes (bytesSent number bytes) w := by
  unfold bytesSent
  split_ifs
  · exact .pure _
  · exact .throw _

theorem Operation.execute_unread [Ballotin] (registry : ProtocolRegistry) (operation : Operation υ)
    (transferred : List UInt8) (hreceive : ∀ id, operation ≠ .receive id) :
    Program.Within LeavesUnread (operation.execute registry transferred) w := by
  cases operation with
  | close id => exact .bind (eraseSocket_unread id) fun _ _ _ => .pure _
  | connect id ipAddress port callback pending =>
    cases pending with
    | false => exact ConnectUserOperation.execute_unread id ipAddress port callback
    | true => exact ConnectUserOperation.executePending_unread id
  | listen id ipAddress port callback => exact ListenUserOperation.execute_unread id ipAddress port callback
  | registerMessageConsumer id p consumer =>
    refine .bind (getSocketOrThrow_within id) fun _ _ _ => .bind (onProtocolReader_inboxes _ _).unread fun _ u _ => ?_
    exact .bind (.modify (.record u fun _ => rfl)) fun _ _ _ => .pure _
  | registerRequestCallback id p consumer =>
    exact .bind (getSocketOrThrow_within id) fun _ _ _ =>
      .bind (onProtocolReader_inboxes _ _).unread fun _ _ _ => .pure _
  | sendBytes id bytes pending =>
    cases pending with
    | false =>
      exact .bind (getSocketOrThrow_within id) fun _ _ _ => .bind (postSend_inboxes _).unread fun _ _ _ => .pure _
    | true => exact (bytesSent_inboxes _ _).unread
  | sendRequest id n bytes consumer pending =>
    cases pending with
    | false =>
      refine .bind (getSocketOrThrow_within id) fun _ _ _ => .bind (onProtocolReader_inboxes _ _).unread fun _ u _ => ?_
      refine .bind (.modify (.record u fun _ => rfl)) fun _ _ _ => ?_
      exact .bind (postSend_inboxes _).unread fun _ _ _ => .pure _
    | true => exact .pure _
  | accept listener id => exact AcceptSystemOperation.execute_unread listener id
  | receive id => exact absurd rfl (hreceive id)
  | sendOutboundBytes id bytes => exact (bytesSent_inboxes _ _).unread

theorem handleFailedOperation_unread (operation : Operation υ) (errorCode : Option ℕ) :
    LeavesUnread w (OperationScheduler.handleFailedOperation operation errorCode w) := by
  cases operation with
  | accept listener id => exact AcceptSystemOperation.onFailure_unread listener id errorCode
  | _ => exact erased_unread _

/-- However an operation completes that is not a receive. -/
theorem consumeOperation_unread [Ballotin] (registry : ProtocolRegistry) (operation : Operation υ)
    (completion : Completion) (hreceive : ∀ id, operation ≠ .receive id) :
    LeavesUnread w (OperationScheduler.consumeOperation registry operation completion w) := by
  cases completion with
  | failed errorCode => exact handleFailedOperation_unread operation _
  | succeeded transferred =>
    have hexecuted := operation.execute_unread (w := w) registry transferred hreceive
    rw [OperationScheduler.consumeOperation, OperationScheduler.handleSuccessfulOperation]
    cases hrun : operation.execute registry transferred w with
    | error e t => exact trans_of LeavesUnread (hexecuted.error hrun) (handleFailedOperation_unread operation _)
    | ok result t =>
      cases result with
      | none => exact hexecuted.ok hrun
      | some next => exact trans_of LeavesUnread (hexecuted.ok hrun) (post_inboxes next).unread

end Operations

namespace SocketContainer

section Turn

variable {id : SocketIdentifier} {w : World υ}

theorem inboxes_some {s : Socket υ} (hs : w.sockets[id]? = some s) : w.inboxes.buffers id = some s.buffers := by
  change w.sockets[id]?.map Socket.buffers = _
  rw [hs]
  rfl

theorem buffers_updateSocket (f : Socket υ → Socket υ) {s : Socket υ} (hs : w.sockets[id]? = some s) :
    (w.updateSocket id f).inboxes.buffers id = some (f s).buffers ∧
      ∀ id', id' ≠ id → (w.updateSocket id f).inboxes.buffers id' = w.inboxes.buffers id' := by
  have hlookup : ∀ id', (w.updateSocket id f).inboxes.buffers id' = ((w.sockets.modify id f)[id']?).map Socket.buffers :=
    fun _ => rfl
  refine ⟨?_, fun id' hne => ?_⟩
  · rw [hlookup, Table.lookup_modify, if_pos rfl, hs]
    rfl
  · rw [hlookup, Table.lookup_modify, if_neg hne.symm]
    rfl

variable [Ballotin] [LawfulBallotin] {registry : ProtocolRegistry} {received : ByteMeter} {inbound outbound : List UInt8}

/-- Frames are read off the bytes of the socket, or the turn is over. -/
theorem readInboundBytes_inward (hregistry : registry.Reachable) (reader : SocketIdentifier)
    (h : Turn registry received id inbound outbound w.inboxes) :
    Program.Ends
      (fun _ t => ∃ inbound' outbound', Turn registry received id inbound' outbound' t.inboxes ∧ Waits registry inbound')
      (fun t => Inward registry received (fun id' => id' ≠ id) t.inboxes) (readInboundBytes registry reader id) w := by
  obtain ⟨s, hs, hbuffers⟩ := Option.map_eq_some_iff.mp (show w.sockets[id]?.map Socket.buffers = _ from h.buffers)
  cases hbuffers
  rw [Program.Ends, readInboundBytes, hs]
  cases hr : w.sockets[reader]? with
  | none => exact h.others
  | some readerSocket =>
    dsimp only
    set start : Reading υ :=
      { reader := readerSocket.protocolReader, inboundBytes := s.inboundBytes, inboundBitsOffset := 0,
        outboundBytes := s.outboundBytes, user := w.user, arrivals := [] }
    have hread := readInboundBytes_streamed hregistry (s := start) rfl
    have hafter : ∀ r : Reading υ,
        (afterReading reader id r w).inboxes.history = w.inboxes.history ++ r.arrivals.map (.frameRead id) ∧
        (∀ id', id' ≠ id → (afterReading reader id r w).inboxes.buffers id' = w.inboxes.buffers id') ∧
        (afterReading reader id r w).inboxes.buffers id = some (r.inboundBytes, r.outboundBytes) := by
      intro r
      let t : World υ := w.updateSocket reader fun s => { s with protocolReader := r.reader }
      have hkeeps : t.inboxes = w.inboxes := KeepsInboxes.updateSocket reader w fun _ => rfl
      obtain ⟨s', hs', -⟩ : ∃ s', t.sockets[id]? = some s' ∧ s'.buffers = s.buffers := by
        refine Option.map_eq_some_iff.mp ?_
        change t.inboxes.buffers id = _
        rw [hkeeps]
        exact inboxes_some hs
      obtain ⟨hself, hothers⟩ := buffers_updateSocket
        (fun s : Socket υ => { s with inboundBytes := r.inboundBytes, outboundBytes := r.outboundBytes }) hs'
      exact ⟨rfl, fun id' hne => (hothers id' hne).trans (by rw [hkeeps]), hself⟩
    cases hrun : Reading.readInboundBytes registry start with
    | ok _ r =>
      obtain ⟨hstreamed, hwaits⟩ := hread.ok hrun
      obtain ⟨hhistory, hothers, hself⟩ := hafter r
      exact ⟨_, _, h.read hhistory hothers hself hstreamed, hwaits⟩
    | error e r =>
      obtain ⟨hhistory, hothers, -⟩ := hafter r
      exact h.cut hhistory hothers (hread.error hrun)

theorem readWithItsReader_inward (hregistry : registry.Reachable) (listener : SocketIdentifier)
    (h : Turn registry received id inbound outbound w.inboxes) :
    Program.Ends
      (fun _ t => ∃ inbound' outbound', Turn registry received id inbound' outbound' t.inboxes ∧ Waits registry inbound')
      (fun t => Inward registry received (fun id' => id' ≠ id) t.inboxes) (readWithItsReader registry id listener) w := by
  unfold readWithItsReader
  split_ifs with hlistener
  · rcases getSocketOrThrow_cases listener w with ⟨l, -, hok⟩ | ⟨e, -, herror⟩
    · exact .bind_ok hok (readInboundBytes_inward hregistry listener h)
    · exact .bind_error herror h.others
  · exact readInboundBytes_inward hregistry id h

end Turn

end SocketContainer

namespace ReceiveSystemOperation

variable [Ballotin] {registry : ProtocolRegistry} {received : ByteMeter} {inbound outbound : List UInt8}
  {id : SocketIdentifier} {w : World υ}

/-- The answers are passed on, and the turn ends. -/
theorem scheduleOutboundBytes_inward (h : Turn registry received id inbound outbound w.inboxes)
    (hwaits : Waits registry inbound) :
    Program.Ends (fun _ t => Inward registry received (fun _ => True) t.inboxes)
      (fun t => Inward registry received (fun id' => id' ≠ id) t.inboxes) (scheduleOutboundBytes id) w := by
  obtain ⟨s, hs, hbuffers⟩ := Option.map_eq_some_iff.mp (show w.sockets[id]?.map Socket.buffers = _ from h.buffers)
  cases hbuffers
  refine .bind_ok (dereference_some hs) ?_
  split_ifs with hempty
  · rw [List.isEmpty_iff.mp hempty] at h
    exact .of_ok rfl (h.settle hwaits)
  · refine .bind_ok (Program.modify_apply _) ?_
    obtain ⟨hself, hothers⟩ := buffers_updateSocket (fun s : Socket υ => { s with outboundBytes := [] }) hs
    set t : World υ := w.updateSocket id fun s => { s with outboundBytes := [] }
    have hnone : t.inboxes.history = w.inboxes.history ++ ([] : List (Arrival υ)).map (.frameRead id) :=
      (List.append_nil _).symm
    have hturn : Turn registry received id s.inboundBytes [] t.inboxes := h.read hnone hothers hself (.nil _)
    have hsettled := hturn.settle hwaits
    refine .of_within (scheduleSendBytesSystemOperation_inboxes id s.outboundBytes) (fun _ u hu => ?_) fun u hu => ?_
    · rwa [show u.inboxes = t.inboxes from hu]
    · rw [show u.inboxes = t.inboxes from hu]
      exact hturn.others

variable [LawfulBallotin]

theorem received_inward (hregistry : registry.Reachable) (h : Inward registry received (fun _ => True) w.inboxes)
    (hid : id ∈ insertedIdentifiers w.history) (bytes : List UInt8) :
    Program.Ends (fun _ t => Inward registry (received.add id bytes) (fun _ => True) t.inboxes)
      (fun t => Inward registry (received.add id bytes) (fun id' => id' ≠ id) t.inboxes)
      (ReceiveSystemOperation.received registry id bytes) w := by
  rcases getSocketOrThrow_cases id w with ⟨s, hs, hok⟩ | ⟨e, -, herror⟩
  · let receive : Socket υ → Socket υ := fun s => { s with inboundBytes := s.inboundBytes ++ bytes }
    obtain ⟨hself, hothers⟩ := buffers_updateSocket receive hs
    have hturn : Turn registry (received.add id bytes) id (s.inboundBytes ++ bytes) [] (w.updateSocket id receive).inboxes :=
      h.turn (inboxes_some hs) bytes rfl hothers hself
    refine .bind_ok hok (.bind_ok (dereference_some hs) (.bind_ok (Program.modify_apply _) ?_))
    refine .bind (readWithItsReader_inward hregistry _ hturn) fun _ u _ ⟨_, _, hturn', hwaits⟩ => ?_
    refine .bind (scheduleOutboundBytes_inward hturn' hwaits) fun _ v _ hv => ?_
    refine .bind (.of_within (postReceive_inboxes id) (fun _ x hx => ?_) fun x hx => ?_) fun _ x _ hx => .of_ok rfl hx
    · rwa [show x.inboxes = v.inboxes from hx]
    · rw [show x.inboxes = v.inboxes from hx]
      exact hv.mono fun _ _ => trivial
  · exact .bind_error herror (h.receive hid bytes)

end ReceiveSystemOperation

/-- The bytes that a receive has transferred are counted for its socket. -/
def ByteMeter.completed (received : ByteMeter) : Operation υ → Completion → ByteMeter
  | .receive socketIdentifier, .succeeded transferred => received.add socketIdentifier transferred
  | _, _ => received

/-- A receive that waits is one of a socket that was inserted. -/
theorem Accounts.receive_known {w : World υ} (h : Accounts 0 w) {before after : List (Operation υ)}
    {id : SocketIdentifier} (houtstanding : w.outstanding = before ++ .receive id :: after) :
    id ∈ insertedIdentifiers w.history := by
  by_contra hunknown
  have hidle := h.idle id hunknown
  rw [← duties_dequeued houtstanding, Pi.zero_apply, add_zero, Pi.add_apply] at hidle
  have hduty : (Operation.receive (υ := υ) id).duties id = {.receiving} := owing_self id _
  rw [hduty] at hidle
  exact Multiset.singleton_ne_zero _ (add_eq_zero.mp hidle).2

section Consuming

variable [Ballotin] {registry : ProtocolRegistry} {received : ByteMeter} {id : SocketIdentifier} {w : World υ}

theorem erased_inward (h : Inward registry received (fun id' => id' ≠ id) w.inboxes)
    (hdistinct : DistinctIdentifiers (erased id w).history) :
    Inward registry received (fun _ => True) (erased id w).inboxes := by
  refine (h.unread (erased_unread id) hdistinct).of_absent ?_
  change (erased id w).sockets[id]?.map Socket.buffers = none
  rw [erased_absent]
  rfl

variable [LawfulBallotin]

theorem consumeReceive_inward (hregistry : registry.Reachable) (h : Inward registry received (fun _ => True) w.inboxes)
    (hid : id ∈ insertedIdentifiers w.history) (transferred : List UInt8)
    (hdistinct : DistinctIdentifiers
      (OperationScheduler.consumeOperation registry (.receive id) (.succeeded transferred) w).history) :
    Inward registry (received.add id transferred) (fun _ => True)
      (OperationScheduler.consumeOperation registry (.receive id) (.succeeded transferred) w).inboxes := by
  have hexecuted : Program.Ends
      (fun _ t => DistinctIdentifiers t.history → Inward registry (received.add id transferred) (fun _ => True) t.inboxes)
      (fun t => Inward registry (received.add id transferred) (fun id' => id' ≠ id) t.inboxes)
      (ReceiveSystemOperation.execute registry id transferred) w := by
    unfold ReceiveSystemOperation.execute
    split_ifs with hempty hlong
    · rw [List.isEmpty_iff.mp hempty, received.add_nil]
      exact .bind_ok (eraseSocket_ok id w) (.of_ok rfl (h.unread (erased_unread id)))
    · exact .of_error rfl (h.receive hid transferred)
    · exact (ReceiveSystemOperation.received_inward hregistry h hid transferred).mono (fun _ _ ht _ => ht) fun _ ht => ht
  rw [OperationScheduler.consumeOperation, OperationScheduler.handleSuccessfulOperation] at hdistinct ⊢
  cases hrun : Operation.execute registry transferred (.receive id) w with
  | error e t =>
    -- the socket of a receive that throws is erased
    rw [hrun] at hdistinct
    exact erased_inward (hexecuted.error hrun) hdistinct
  | ok result t =>
    rw [hrun] at hdistinct
    cases result with
    | none => exact hexecuted.ok hrun hdistinct
    | some next =>
      have hkeeps : (t.post next).inboxes = t.inboxes := post_inboxes next
      rw [hkeeps]
      exact hexecuted.ok hrun hdistinct

theorem consumeOperation_inward (hregistry : registry.Reachable) (h : Inward registry received (fun _ => True) w.inboxes)
    (operation : Operation υ) (hid : ∀ id, operation = .receive id → id ∈ insertedIdentifiers w.history)
    (completion : Completion)
    (hdistinct : DistinctIdentifiers (OperationScheduler.consumeOperation registry operation completion w).history) :
    Inward registry (ByteMeter.completed received operation completion) (fun _ => True)
      (OperationScheduler.consumeOperation registry operation completion w).inboxes := by
  have hother : (∀ id, operation ≠ .receive id) → LeavesUnread w (OperationScheduler.consumeOperation registry operation completion w) :=
    consumeOperation_unread registry operation completion
  cases operation with
  | receive id =>
    cases completion with
    | succeeded transferred => exact consumeReceive_inward hregistry h (hid id rfl) transferred hdistinct
    | failed errorCode => exact h.unread (handleFailedOperation_unread _ _) hdistinct
  | _ => exact h.unread (hother fun _ heq => by cases heq) hdistinct

end Consuming

namespace OperationScheduler

/-- A step in which no operation is consumed. -/
inductive Idle : OperationScheduler υ → OperationScheduler υ → Prop
  | schedule (l : OperationScheduler υ) (operation : Operation υ) (h : l.draining = false)
      (hfresh : operation.isPending = false) : Idle l (l.scheduled operation)
  | outcomes (l : OperationScheduler υ) (script : Script) : Idle l (l.withScript script)
  | startDraining (l : OperationScheduler υ) :
    Idle l { world := SocketContainer.eraseAllSockets l.world, draining := true }
  | drain (l : OperationScheduler υ) (before after : List (Operation υ)) (operation : Operation υ)
      (h : l.draining = true) (houtstanding : l.world.outstanding = before ++ operation :: after) :
    Idle l { l with world := { l.world with outstanding := before ++ after } }

section Runs

variable [Ballotin] {registry : ProtocolRegistry} {l l' : OperationScheduler υ} {transferred : ByteMeter}

theorem Idle.step (h : Idle l l') : Step registry l l' := by
  cases h with
  | schedule operation hnot hfresh => exact .schedule l operation hnot hfresh
  | outcomes script => exact .outcomes l script
  | startDraining => exact .startDraining l
  | drain before after operation hdrain houtstanding => exact .drain l before after operation hdrain houtstanding

omit [Ballotin] in
theorem Idle.unread (h : Idle l l') : LeavesUnread l.world l'.world := by
  cases h with
  | schedule | outcomes | drain => exact KeepsInboxes.unread (.of_sockets rfl rfl)
  | startDraining =>
    refine .of_same (fun id buffers h => ?_) rfl
    change (∅ : Std.ExtTreeMap SocketIdentifier (Socket υ))[id]?.map Socket.buffers = some buffers at h
    rw [Std.ExtTreeMap.getElem?_empty] at h
    cases h

/-- A run of the scheduler, and the bytes that receives have transferred in it. -/
inductive Metered (registry : ProtocolRegistry) : OperationScheduler υ → ByteMeter → Prop
  | new (user : υ) : Metered registry (new user) fun _ => []
  | idle {l l' : OperationScheduler υ} {transferred : ByteMeter} (h : Metered registry l transferred) (hidle : Idle l l') :
    Metered registry l' transferred
  | consume {l : OperationScheduler υ} {transferred : ByteMeter} (h : Metered registry l transferred)
      (before after : List (Operation υ)) (operation : Operation υ) (completion : Completion) (hnot : l.draining = false)
      (houtstanding : l.world.outstanding = before ++ operation :: after) (hcompletes : operation.Completes completion) :
    Metered registry (l.consumed registry before after operation completion)
      (ByteMeter.completed transferred operation completion)

theorem Metered.reachable (h : Metered registry l transferred) : l.Reachable registry := by
  induction h with
  | new user => exact .initial user
  | idle _ hidle ih => exact ih.step hidle.step
  | consume _ before after operation completion hnot houtstanding hcompletes ih =>
    exact ih.step (.consume _ before after operation completion hnot houtstanding hcompletes)

/-- Every run can be metered. -/
theorem Reachable.metered (h : l.Reachable registry) : ∃ transferred, Metered registry l transferred := by
  refine Run.invariant (P := fun l => ∃ transferred, Metered registry l transferred) (fun user => ⟨_, .new user⟩) ?_ h
  rintro l l' ⟨transferred, hmeter⟩ hstep
  cases hstep with
  | schedule operation hnot hfresh => exact ⟨_, hmeter.idle (.schedule l operation hnot hfresh)⟩
  | outcomes script => exact ⟨_, hmeter.idle (.outcomes l script)⟩
  | consume before after operation completion hnot houtstanding hcompletes =>
    exact ⟨_, hmeter.consume before after operation completion hnot houtstanding hcompletes⟩
  | startDraining => exact ⟨_, hmeter.idle (.startDraining l)⟩
  | drain before after operation hdrain houtstanding =>
    exact ⟨_, hmeter.idle (.drain l before after operation hdrain houtstanding)⟩

variable [LawfulBallotin]

theorem Metered.inward (hregistry : registry.Reachable) (h : Metered registry l transferred)
    (hdistinct : DistinctIdentifiers l.world.history) :
    Inward registry transferred (fun _ => True) l.world.inboxes := by
  induction h with
  | new user =>
    have hinboxes : (OperationScheduler.new user).world.inboxes = { buffers := fun _ => none, history := [] } := by
      simp [World.inboxes, OperationScheduler.new]
    rw [hinboxes]
    exact .initial
  | @idle l l' transferred hmeter hidle ih =>
    have hstep : Step registry l l' := hidle.step
    exact (ih (hdistinct.mono hstep.grows)).unread hidle.unread hdistinct
  | @consume l transferred hmeter before after operation completion hnot houtstanding hcompletes ih =>
    have hstep : Step registry l _ := .consume l before after operation completion hnot houtstanding hcompletes
    have hbefore := hdistinct.mono hstep.grows
    have haccounts := hmeter.reachable.accounts hnot hbefore
    exact consumeOperation_inward (w := dequeued before after l.world) hregistry (ih hbefore) operation
      (fun id heq => haccounts.receive_known (heq ▸ houtstanding)) completion hdistinct

/-- In every run in which identifiers do not repeat, what was handed over from a socket are frames of the bytes that
receives have transferred for it, each once and in their order. As long as the socket is there they are all the whole
frames, the bytes behind them wait in the socket, and all answers have been posted. -/
theorem transferred_streamed (hregistry : registry.Reachable) (h : Metered registry l transferred)
    (hdistinct : DistinctIdentifiers l.world.history) (id : SocketIdentifier) :
    (∃ rest, Streamed registry (transferred id) (deliveriesOn id l.world.history) rest) ∧
      ∀ s : Socket υ, l.world.sockets[id]? = some s →
        Streamed registry (transferred id) (deliveriesOn id l.world.history) s.inboundBytes ∧
          Waits registry s.inboundBytes ∧ s.outboundBytes = [] := by
  have hinward := h.inward hregistry hdistinct
  exact ⟨hinward.read id, fun s hs =>
    hinward.waiting id s.inboundBytes s.outboundBytes trivial (SocketContainer.inboxes_some hs)⟩

end Runs

/-- A socket is connected and waits for bytes. -/
def receivingScheduler : OperationScheduler Unit :=
  let _ := referenceBallotin
  let connect (pending : Bool) : Operation Unit := .connect 1 "127.0.0.1" 8080 (fun _ _ => pure ()) pending
  (((new ()).scheduled (connect false)).consumed pingRegistry [] [] (connect false) (.succeeded [])).consumed
    pingRegistry [] [] (connect true) (.succeeded [])

/-- The socket has read a text and has the start of another one. -/
def textScheduler : OperationScheduler Unit :=
  @consumed Unit referenceBallotin pingRegistry [] [] (.receive 1)
    (.succeeded [0, 0, 0, 7, 0, 0, 0, 40, 0, 0, 0, 1, 97, 0, 0, 0, 7, 0]) receivingScheduler

theorem textScheduler_metered : ∃ transferred : ByteMeter,
    @Metered Unit referenceBallotin pingRegistry textScheduler transferred ∧
    transferred 1 = [0, 0, 0, 7, 0, 0, 0, 40, 0, 0, 0, 1, 97, 0, 0, 0, 7, 0] := by
  let _ := referenceBallotin
  have hnew : Metered pingRegistry (new ()) _ := .new ()
  have hscheduled := hnew.idle (.schedule _ (.connect 1 "127.0.0.1" 8080 (fun _ _ => pure ()) false) rfl rfl)
  have hconnecting := hscheduled.consume [] [] _ (.succeeded []) rfl rfl fun _ => rfl
  have hconnected : Metered pingRegistry receivingScheduler _ := hconnecting.consume [] []
    (.connect 1 "127.0.0.1" 8080 (fun _ _ => pure ()) true) (.succeeded []) rfl rfl fun _ => rfl
  have htext : Metered pingRegistry textScheduler _ := hconnected.consume [] [] (.receive 1)
    (.succeeded [0, 0, 0, 7, 0, 0, 0, 40, 0, 0, 0, 1, 97, 0, 0, 0, 7, 0]) rfl rfl fun h => (by cases h)
  exact ⟨_, htext, rfl⟩

theorem textScheduler_streamed : ∃ transferred : ByteMeter,
    @Metered Unit referenceBallotin pingRegistry textScheduler transferred ∧
    transferred 1 = [0, 0, 0, 7, 0, 0, 0, 40, 0, 0, 0, 1, 97, 0, 0, 0, 7, 0] ∧
    @Streamed referenceBallotin pingRegistry (transferred 1)
      [(.message, 7, 0, .of textProtocol.metadata.type ([97], ()))] [0, 0, 0, 7, 0] ∧
    @Waits referenceBallotin pingRegistry [0, 0, 0, 7, 0] := by
  let _ := referenceBallotin
  have _ := referenceBallotin_lawful
  obtain ⟨transferred, htext, htransferred⟩ := textScheduler_metered
  obtain ⟨hstreamed, hwaits, -⟩ := (transferred_streamed pingRegistry_reachable htext (by decide) 1).2 _ rfl
  exact ⟨transferred, htext, htransferred, hstreamed, hwaits⟩

end OperationScheduler

end Farseer.Windows
