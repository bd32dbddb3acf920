import Farseer.Windows.Rules

/-! What the operations of the consumer thread are made of, for relations between worlds: one that allows a few
elementary changes allows all that consuming an operation does. -/

namespace Farseer.Windows

variable {υ : Type}

/-- The bytes that the operation has posted and that may be on their way. -/
def Operation.sending : Operation υ → Option (List UInt8)
  | .sendBytes _ bytes true | .sendRequest _ _ bytes _ true | .sendOutboundBytes _ bytes => some bytes
  | _ => none

/-- An operation that sends is posted while its socket is there. -/
def Operation.Postable (w : World υ) (operation : Operation υ) : Prop :=
  operation.isPending = true ∧
    (operation.sending.isSome = true → w.sockets.contains operation.getSocketIdentifier = true)

namespace SocketContainer

/-- What a relation must allow for sockets that are there already. -/
structure Chores (R : World υ → World υ → Prop) : Prop where
  /-- outcomes were taken, user code ran, and the operation may have noted what it did -/
  silent : ∀ (w : World υ) (script : Script) (user : υ) (flag : Bool),
    R w { w with script, user, acceptRescheduled := flag }
  updated : ∀ (w : World υ) (id : SocketIdentifier) (f : Socket υ → Socket υ), R w (w.updateSocket id f)
  recorded : ∀ (w : World υ) (events : List (ContainerEvent υ)), insertedIdentifiers events = [] →
    R w { w with history := w.history ++ events }
  removed : ∀ (w : World υ) (id : SocketIdentifier), R w (removeSocket id w)
  posted : ∀ (w : World υ) (operation : Operation υ), operation.Postable w → R w (w.post operation)

/-- The same and accepts, each with an identifier that is generated for it. -/
structure Housekeeping (R : World υ → World υ → Prop) : Prop extends Chores R where
  accepting : ∀ (w : World υ) (listener : SocketIdentifier), Program.Within R (scheduleAcceptSystemOperation listener) w

def withSocket (id : SocketIdentifier) (s : Socket υ) (w : World υ) : World υ :=
  { w with sockets := w.sockets.insert id s, history := w.history ++ [.socketInserted id s.origin] }

/-- What a relation must allow so that any socket can be inserted. -/
structure Lifecycle (R : World υ → World υ → Prop) : Prop extends Chores R where
  numbered : ∀ (w : World υ) (next : SocketIdentifier), R w { w with nextSocketIdentifier := next }
  inserted : ∀ (w : World υ) (id : SocketIdentifier) (s : Socket υ), w.sockets[id]? = none → R w (withSocket id s w)

variable {w : World υ}

theorem postSend_present {id : SocketIdentifier} {t : World υ} (hpost : postSend id w = .ok () t) :
    t.sockets.contains id = true := by
  obtain ⟨s, u, hs, hsend⟩ := Program.bind_eq_ok hpost
  obtain ⟨hs, rfl⟩ := dereference_ok hs
  cases hrun : s.socket.postSend u.script with
  | error e script =>
    rw [onScript_error hrun] at hsend
    cases hsend
  | ok _ script =>
    rw [onScript_ok hrun] at hsend
    cases hsend
    rw [Table.contains_eq, hs]
    rfl

theorem getSocketOrThrow_ok {id id' : SocketIdentifier} {t : World υ} (h : getSocketOrThrow id w = .ok id' t) :
    id' = id ∧ t = w := by
  rcases getSocketOrThrow_cases id w with ⟨s, -, hok⟩ | ⟨e, -, herror⟩
  · rw [hok] at h
    cases h
    exact ⟨rfl, rfl⟩
  · rw [herror] at h
    cases h

variable {R : World υ → World υ → Prop} [IsPreorder (World υ) R]

theorem dereference_within (id : SocketIdentifier) : Program.Within R (dereference id) w := by
  rcases dereference_cases id w with ⟨s, -, hok⟩ | ⟨-, herror⟩
  · exact .of_ok hok (refl_of R w)
  · exact .of_error herror (refl_of R w)

theorem getSocketOrThrow_within (id : SocketIdentifier) : Program.Within R (getSocketOrThrow id) w := by
  rcases getSocketOrThrow_cases id w with ⟨s, -, hok⟩ | ⟨e, -, herror⟩
  · exact .of_ok hok (refl_of R w)
  · exact .of_error herror (refl_of R w)

namespace Chores

variable (h : Chores R)

include h

omit [IsPreorder (World υ) R] in
theorem onScript {α : Type} (x : ScriptM α) : Program.Within R (onScript x) w := by
  unfold SocketContainer.onScript Program.Within Program.zoom
  cases x w.script <;> exact h.silent w _ w.user w.acceptRescheduled

omit [IsPreorder (World υ) R] in
theorem onUser {α : Type} (x : EStateM Exception υ α) : Program.Within R (onUser x) w := by
  unfold SocketContainer.onUser Program.Within Program.zoom
  cases x w.user <;> exact h.silent w w.script _ w.acceptRescheduled

omit [IsPreorder (World υ) R] in
theorem record {event : ContainerEvent υ} (hevent : insertedIdentifier event = none) : R w (w.record event) :=
  h.recorded w [event] (by simp [insertedIdentifiers, hevent])

theorem onWindowsSocket (id : SocketIdentifier) (x : SocketM Unit) : Program.Within R (onWindowsSocket id x) w := by
  unfold Program.Within SocketContainer.onWindowsSocket
  cases w.sockets[id]? with
  | none => exact refl_of R w
  | some s =>
    dsimp only
    cases x (s.socket, w.script) <;>
      exact trans_of R (h.updated w id _) (h.silent _ _ w.user w.acceptRescheduled)

omit [IsPreorder (World υ) R] in
theorem onProtocolReader [IsPreorder (World υ) R] (id : SocketIdentifier)
    (x : EStateM Exception (ProtocolReader υ) Unit) : Program.Within R (onProtocolReader id x) w := by
  unfold Program.Within SocketContainer.onProtocolReader
  cases w.sockets[id]? with
  | none => exact refl_of R w
  | some s =>
    dsimp only
    cases x s.protocolReader <;> exact h.updated w id _

theorem notify (id : SocketIdentifier) (event : SocketEvent) (argument : SocketIdentifier) :
    Program.Within R (notify id event argument) w :=
  .bind (dereference_within id) fun _ _ _ => .bind (.modify (h.record rfl)) fun _ _ _ => h.onUser _

theorem notifyClosed (id : SocketIdentifier) (s : Socket υ) : Program.Within R (notifyClosed id s) w := by
  unfold SocketContainer.notifyClosed
  split_ifs
  · exact .pure _
  · refine .get_bind ?_
    split_ifs
    · exact h.notify _ _ _
    · exact .pure _
  · exact h.notify _ _ _

theorem erased (id : SocketIdentifier) : R w (erased id w) := by
  unfold SocketContainer.erased
  cases hs : w.sockets[id]? with
  | none =>
    rw [eraseSocket_none hs]
    exact refl_of R w
  | some s =>
    rw [eraseSocket_some hs]
    exact trans_of R (h.notifyClosed id s) (h.removed _ _)

theorem eraseSocket (id : SocketIdentifier) : Program.Within R (eraseSocket id) w :=
  .of_ok (eraseSocket_ok id w) (h.erased id)

theorem postReceive (id : SocketIdentifier) : Program.Within R (postReceive id) w :=
  .bind (dereference_within id) fun _ _ _ => h.onScript _

theorem postSend (id : SocketIdentifier) : Program.Within R (postSend id) w :=
  .bind (dereference_within id) fun _ _ _ => h.onScript _

theorem scheduleReceiveSystemOperation (id : SocketIdentifier) :
    Program.Within R (scheduleReceiveSystemOperation id) w := by
  refine .bind (getSocketOrThrow_within id) fun _ t _ => .bind (h.postReceive _) fun _ u _ => ?_
  exact .modify (h.posted u _ ⟨rfl, nofun⟩)

theorem scheduleSendBytesSystemOperation (id : SocketIdentifier) (bytes : List UInt8) :
    Program.Within R (scheduleSendBytesSystemOperation id bytes) w := by
  refine .bind (getSocketOrThrow_within id) fun _ t hget => .bind (h.postSend _) fun _ u hpost => ?_
  obtain ⟨rfl, rfl⟩ := getSocketOrThrow_ok hget
  exact .modify (h.posted u _ ⟨rfl, fun _ => postSend_present hpost⟩)

theorem generateSocketIdentifier (hnumbered : ∀ (w : World υ) next, R w { w with nextSocketIdentifier := next }) :
    Program.Within R generateSocketIdentifier w :=
  .bind (h.onScript _) fun _ _ _ => .get_bind (.bind (hnumbered _ _) fun _ _ _ => .pure _)

theorem postAccept (listener id : SocketIdentifier) :
    Program.Within R (AcceptSystemOperation.postAccept listener id) w :=
  .bind (dereference_within listener) fun _ _ _ => .bind (h.onScript _) fun _ t _ => .modify (h.updated t id _)

end Chores

theorem insertSocket_run (id : SocketIdentifier) (s : Socket υ) (w : World υ) :
    (∃ e, insertSocket id s w = .error e w) ∨
      w.sockets[id]? = none ∧ insertSocket id s w = .ok id (withSocket id s w) := by
  rw [insertSocket, Program.bind_ok Program.get_apply]
  split_ifs with hcontains
  · exact .inl ⟨_, rfl⟩
  · rw [Table.contains_eq] at hcontains
    exact .inr ⟨by simpa using hcontains, rfl⟩

/-- The socket was inserted between two parts that `R` allows, or it was not. -/
def Opens (R : World υ → World υ → Prop) (id : SocketIdentifier) (w w' : World υ) : Prop :=
  R w w' ∨ ∃ (s : Socket υ) (t : World υ), s.listeningSocketIdentifier = invalidSocketIdentifier ∧ R w t ∧
    t.sockets[id]? = none ∧ R (withSocket id s t) w'

namespace Chores

variable (h : Chores R)

include h

omit [IsPreorder (World υ) R] in
/-- A socket is created and inserted, and then used. -/
theorem opens {α : Type} {x : ScriptM WindowsSocket} {f : SocketIdentifier → WorldM υ α} (id : SocketIdentifier)
    (callback : ConnectionCallback υ) (hf : ∀ t, Program.Within R (f id) t) :
    Opens R id w (Program.final ((SocketContainer.onScript x >>= fun s =>
      insertSocket id (newSocket s invalidSocketIdentifier callback false) >>= f) w)) := by
  have hscript := h.onScript (w := w) x
  cases hx : SocketContainer.onScript x w with
  | error e t =>
    rw [Program.bind_error hx]
    exact .inl (hscript.error hx)
  | ok s t =>
    rw [Program.bind_ok hx]
    rcases insertSocket_run id (newSocket s invalidSocketIdentifier callback false) t with
      ⟨e, herror⟩ | ⟨habsent, hok⟩
    · rw [Program.bind_error herror]
      exact .inl (hscript.ok hx)
    · rw [Program.bind_ok hok]
      exact .inr ⟨_, t, rfl, hscript.ok hx, habsent, hf _⟩

theorem connect_opens (id : SocketIdentifier) (ipAddress : String) (port : ℕ) (callback : ConnectionCallback υ) :
    Opens R id w (Program.final (ConnectUserOperation.execute id ipAddress port callback w)) :=
  h.opens id callback fun _ => .bind (.scopeFailure (h.onWindowsSocket _ _) fun _ => h.erased id) fun _ _ _ => .pure _

theorem accepted (listener id : SocketIdentifier) :
    Program.Within R (AcceptSystemOperation.accepted listener id) w := by
  refine .bind (.modify (h.silent w w.script w.user true)) fun _ t _ => ?_
  refine .bind (h.scheduleReceiveSystemOperation id) fun _ u _ => .bind (.modify (h.updated u id _)) fun _ v _ => ?_
  exact .bind (h.notify _ _ _) fun _ x _ => .pure _

section Reading

variable [Ballotin] (registry : ProtocolRegistry)

omit [Ballotin] in
theorem afterReading (reader id : SocketIdentifier) (r : Reading υ) : R w (afterReading reader id r w) := by
  have hframes : insertedIdentifiers (r.arrivals.map (ContainerEvent.frameRead id)) = [] := by
    simp [insertedIdentifiers, insertedIdentifier]
  set t := w.updateSocket reader fun s => { s with protocolReader := r.reader } with ht
  set u := t.updateSocket id fun s => { s with inboundBytes := r.inboundBytes, outboundBytes := r.outboundBytes }
  have hu : R w u := trans_of R (h.updated w reader _) (h.updated t id _)
  exact trans_of R (trans_of R hu (h.recorded u _ hframes)) (h.silent _ w.script r.user w.acceptRescheduled)

theorem readInboundBytes (reader id : SocketIdentifier) :
    Program.Within R (readInboundBytes registry reader id) w := by
  unfold Program.Within SocketContainer.readInboundBytes
  cases w.sockets[reader]? with
  | none => exact refl_of R w
  | some t =>
    cases w.sockets[id]? with
    | none => exact refl_of R w
    | some s =>
      dsimp only
      split
      · exact h.afterReading reader id _
      · exact h.afterReading reader id _

theorem readWithItsReader (id listener : SocketIdentifier) :
    Program.Within R (readWithItsReader registry id listener) w := by
  unfold SocketContainer.readWithItsReader
  split_ifs
  · exact .bind (getSocketOrThrow_within listener) fun _ t _ => h.readInboundBytes registry _ _
  · exact h.readInboundBytes registry _ _

omit [Ballotin] in
theorem scheduleOutboundBytes (id : SocketIdentifier) :
    Program.Within R (ReceiveSystemOperation.scheduleOutboundBytes id) w := by
  refine .bind (dereference_within id) fun s t _ => ?_
  split_ifs
  · exact .pure _
  · exact .bind (.modify (h.updated t _ _)) fun _ u _ => h.scheduleSendBytesSystemOperation _ _

theorem received (id : SocketIdentifier) (bytes : List UInt8) :
    Program.Within R (ReceiveSystemOperation.received registry id bytes) w := by
  refine .bind (getSocketOrThrow_within id) fun _ t _ => .bind (dereference_within _) fun s u _ => ?_
  refine .bind (.modify (h.updated u _ _)) fun _ v _ => .bind (h.readWithItsReader registry _ _) fun _ x _ => ?_
  exact .bind (h.scheduleOutboundBytes id) fun _ y _ => .bind (h.postReceive _) fun _ z _ => .pure _

theorem receive (id : SocketIdentifier) (bytes : List UInt8) :
    Program.Within R (ReceiveSystemOperation.execute registry id bytes) w := by
  unfold ReceiveSystemOperation.execute
  split_ifs
  · exact .bind (h.eraseSocket id) fun _ t _ => .pure _
  · exact .throw _
  · exact h.received registry id bytes

end Reading

section Executing

variable [Ballotin] (registry : ProtocolRegistry)

omit [Ballotin] in
theorem executePending (id : SocketIdentifier) : Program.Within R (ConnectUserOperation.executePending id) w := by
  refine .bind (getSocketOrThrow_within id) fun _ t _ => .bind (dereference_within _) fun s u _ => ?_
  refine .bind (h.onScript _) fun _ v _ => .bind (h.notify _ _ _) fun _ x _ => ?_
  exact .bind (h.scheduleReceiveSystemOperation id) fun _ y _ => .pure _

omit [Ballotin] in
theorem registerMessageConsumer (id : SocketIdentifier) (p : ProtocolIdentifier) (consumer : Consumer υ) :
    Program.Within R (RegisterMessageConsumerUserOperation.execute registry id p consumer) w := by
  refine .bind (getSocketOrThrow_within id) fun _ t _ => .bind (h.onProtocolReader _ _) fun _ u _ => ?_
  exact .bind (.modify (h.record rfl)) fun _ v _ => .pure _

omit [Ballotin] in
theorem registerRequestCallback (id : SocketIdentifier) (p : ProtocolIdentifier) (consumer : RequestConsumer υ) :
    Program.Within R (RegisterRequestCallbackUserOperation.execute registry id p consumer) w :=
  .bind (getSocketOrThrow_within id) fun _ _ _ => .bind (h.onProtocolReader _ _) fun _ _ _ => .pure _

omit [Ballotin] in
theorem sendBytes (id : SocketIdentifier) (bytes : List UInt8) :
    Program.Within R (SendBytesUserOperation.execute id bytes) w :=
  .bind (getSocketOrThrow_within id) fun _ _ _ => .bind (h.postSend _) fun _ _ _ => .pure _

omit [Ballotin] in
theorem sendRequest (id : SocketIdentifier) (n : ProtocolSequenceNumber) (bytes : List UInt8) (consumer : Consumer υ) :
    Program.Within R (SendRequestUserOperation.execute id n bytes consumer) w := by
  refine .bind (getSocketOrThrow_within id) fun _ t _ => .bind (h.onProtocolReader _ _) fun _ u _ => ?_
  exact .bind (.modify (h.record rfl)) fun _ v _ => .bind (h.postSend _) fun _ x _ => .pure _

omit [Ballotin] h in
theorem bytesSent (number : ℕ) (bytes : List UInt8) : Program.Within R (bytesSent number bytes) w := by
  unfold Windows.bytesSent
  split_ifs
  · exact .pure _
  · exact .throw _

/-- The operations that insert no socket. -/
theorem execute (operation : Operation υ) (transferred : List UInt8)
    (hconnect : ∀ id ipAddress port callback, operation ≠ .connect id ipAddress port callback false)
    (hlisten : ∀ id ipAddress port callback, operation ≠ .listen id ipAddress port callback)
    (haccept : ∀ listener id, operation ≠ .accept listener id) :
    Program.Within R (operation.execute registry transferred) w := by
  cases operation with
  | close id => exact .bind (h.eraseSocket id) fun _ t _ => .pure _
  | connect id ipAddress port callback pending =>
    cases pending with
    | false => exact absurd rfl (hconnect id ipAddress port callback)
    | true => exact h.executePending id
  | listen id ipAddress port callback => exact absurd rfl (hlisten id ipAddress port callback)
  | registerMessageConsumer id p consumer => exact h.registerMessageConsumer registry id p consumer
  | registerRequestCallback id p consumer => exact h.registerRequestCallback registry id p consumer
  | sendBytes id bytes pending =>
    cases pending with
    | false => exact h.sendBytes id bytes
    | true => exact bytesSent _ _
  | sendRequest id n bytes consumer pending =>
    cases pending with
    | false => exact h.sendRequest id n bytes consumer
    | true => exact .pure _
  | accept listener id => exact absurd rfl (haccept listener id)
  | receive id => exact h.receive registry id transferred
  | sendOutboundBytes id bytes => exact bytesSent _ _

omit [Ballotin] in
theorem handleFailedOperation (operation : Operation υ) (errorCode : Option ℕ)
    (haccept : ∀ listener id, operation ≠ .accept listener id) :
    R w (OperationScheduler.handleFailedOperation operation errorCode w) := by
  cases operation with
  | accept listener id => exact absurd rfl (haccept listener id)
  | _ => exact h.erased _

end Executing

end Chores

namespace Lifecycle

variable (h : Lifecycle R)

include h

theorem insertSocket (id : SocketIdentifier) (s : Socket υ) : Program.Within R (insertSocket id s) w := by
  rcases insertSocket_run id s w with ⟨e, herror⟩ | ⟨habsent, hok⟩
  · exact .of_error herror (refl_of R w)
  · exact .of_ok hok (h.inserted w id s habsent)

theorem housekeeping : Housekeeping R where
  toChores := h.toChores
  accepting w listener := by
    refine .bind (h.toChores.generateSocketIdentifier h.numbered) fun id t _ => .bind ?_ fun _ u _ => ?_
    · refine .bind (getSocketOrThrow_within listener) fun _ _ _ => .bind (h.insertSocket id _) fun _ _ _ => ?_
      exact .scopeFailure (h.toChores.postAccept _ _) fun _ => h.toChores.erased id
    · exact .modify (h.posted u _ ⟨rfl, nofun⟩)

end Lifecycle

namespace Housekeeping

variable (h : Housekeeping R)

include h

theorem accept (listener id : SocketIdentifier) : Program.Within R (AcceptSystemOperation.execute listener id) w := by
  refine .bind (getSocketOrThrow_within id) fun _ t _ => .bind (getSocketOrThrow_within listener) fun _ u _ => ?_
  refine .bind (dereference_within _) fun _ v _ => .bind (h.toChores.onWindowsSocket _ _) fun _ x _ => ?_
  refine .bind (.modify (h.updated x _ _)) fun _ y _ => .bind (h.accepting y listener) fun _ z _ => ?_
  exact h.toChores.accepted _ _

theorem reschedule (listener : SocketIdentifier) : Program.Within R (AcceptSystemOperation.reschedule listener) w :=
  .scopeFailure (h.accepting w listener) fun _ => h.toChores.erased listener

theorem countFailure (listener : SocketIdentifier) :
    Program.Within R (AcceptSystemOperation.countFailure listener) w := by
  refine .bind (getSocketOrThrow_within listener) fun _ t _ => .bind (.modify (h.updated t _ _)) fun _ u _ => ?_
  refine .bind (dereference_within _) fun _ v _ => ?_
  split_ifs
  · exact h.toChores.eraseSocket listener
  · exact h.reschedule listener

theorem acceptFailed (listener id : SocketIdentifier) (errorCode : Option ℕ) :
    Program.Within R (AcceptSystemOperation.onFailure listener id errorCode) w := by
  refine .bind (h.toChores.eraseSocket id) fun _ t _ => .get_bind ?_
  split_ifs
  · exact .pure _
  · exact h.reschedule listener
  · exact h.countFailure listener

/-- The operations that insert no socket under an identifier of their own. -/
theorem execute [Ballotin] (registry : ProtocolRegistry) (operation : Operation υ) (transferred : List UInt8)
    (hconnect : ∀ id ipAddress port callback, operation ≠ .connect id ipAddress port callback false)
    (hlisten : ∀ id ipAddress port callback, operation ≠ .listen id ipAddress port callback) :
    Program.Within R (operation.execute registry transferred) w := by
  cases operation with
  | accept listener id => exact h.accept listener id
  | _ => exact h.toChores.execute registry _ transferred hconnect hlisten nofun

theorem handleFailedOperation (operation : Operation υ) (errorCode : Option ℕ) :
    R w (OperationScheduler.handleFailedOperation operation errorCode w) := by
  cases operation with
  | accept listener id => exact h.acceptFailed listener id errorCode
  | _ => exact h.toChores.handleFailedOperation _ _ nofun

theorem opened (id : SocketIdentifier) : Program.Within R (ListenUserOperation.opened id) w :=
  .bind (h.accepting w id) fun _ _ _ => h.toChores.notify _ _ _

theorem listen_opens (id : SocketIdentifier) (ipAddress : String) (port : ℕ) (callback : ConnectionCallback υ) :
    Opens R id w (Program.final (ListenUserOperation.execute id ipAddress port callback w)) :=
  h.toChores.opens id callback fun _ => .bind (.scopeFailure (h.opened _) fun _ => h.toChores.erased id)
    fun _ _ _ => .pure _

end Housekeeping

end SocketContainer

open SocketContainer

namespace Operation

variable [Ballotin] (registry : ProtocolRegistry) {w : World υ}

/-- An operation that has rescheduled itself waits for I/O, and if it sends then its socket is there. -/
theorem execute_postable (operation : Operation υ) (transferred : List UInt8) :
    Program.Ends (fun result t => ∀ next ∈ result, next.Postable t) (fun _ => True)
      (operation.execute registry transferred) w := by
  have hnone : ∀ {x : WorldM υ (Option (Operation υ))} {s : World υ},
      Program.Ends (fun result _ => result = none) (fun _ => True) x s →
        Program.Ends (fun result t => ∀ next ∈ result, next.Postable t) (fun _ => True) x s :=
    fun hx => hx.mono (fun _ _ hresult _ hnext => by rw [hresult] at hnext; cases hnext) fun _ h => h
  cases operation with
  | close id => exact hnone (.last fun _ _ _ => .of_ok rfl rfl)
  | connect id ipAddress port callback pending =>
    cases pending with
    | false =>
      refine .last fun _ _ _ => .last fun _ _ _ => .last fun _ t _ => .of_ok rfl fun next hnext => ?_
      cases hnext
      exact ⟨rfl, nofun⟩
    | true =>
      refine hnone (.last fun _ _ _ => .last fun _ _ _ => .last fun _ _ _ => .last fun _ _ _ => ?_)
      exact .last fun _ _ _ => .of_ok rfl rfl
  | listen id ipAddress port callback =>
    exact hnone (.last fun _ _ _ => .last fun _ _ _ => .last fun _ _ _ => .of_ok rfl rfl)
  | registerMessageConsumer id p consumer =>
    exact hnone (.last fun _ _ _ => .last fun _ _ _ => .last fun _ _ _ => .of_ok rfl rfl)
  | registerRequestCallback id p consumer => exact hnone (.last fun _ _ _ => .last fun _ _ _ => .of_ok rfl rfl)
  | sendBytes id bytes pending =>
    cases pending with
    | false =>
      refine .last fun _ t hget => .last fun _ u hpost => .of_ok rfl fun next hnext => ?_
      obtain ⟨rfl, rfl⟩ := getSocketOrThrow_ok hget
      cases hnext
      exact ⟨rfl, fun _ => postSend_present hpost⟩
    | true =>
      refine hnone ?_
      change Program.Ends _ _ (bytesSent _ _) _
      unfold bytesSent
      split_ifs
      · exact .of_ok rfl rfl
      · exact .of_error rfl trivial
  | sendRequest id n bytes consumer pending =>
    cases pending with
    | false =>
      refine .last fun _ t hget => .last fun _ u _ => .last fun _ v _ => .last fun _ x hpost => ?_
      obtain ⟨rfl, rfl⟩ := getSocketOrThrow_ok hget
      refine .of_ok rfl fun next hnext => ?_
      cases hnext
      exact ⟨rfl, fun _ => postSend_present hpost⟩
    | true => exact hnone (.of_ok rfl rfl)
  | accept listener id =>
    refine hnone (.last fun _ _ _ => .last fun _ _ _ => .last fun _ _ _ => .last fun _ _ _ => .last fun _ _ _ => ?_)
    exact .last fun _ _ _ => .last fun _ _ _ => .last fun _ _ _ => .last fun _ _ _ => .last fun _ _ _ => .of_ok rfl rfl
  | receive id =>
    change Program.Ends _ _ (ReceiveSystemOperation.execute registry id transferred) _
    unfold ReceiveSystemOperation.execute
    split_ifs
    · exact hnone (.last fun _ _ _ => .of_ok rfl rfl)
    · exact .of_error rfl trivial
    · refine .last fun _ _ _ => .last fun _ _ _ => .last fun _ _ _ => .last fun _ _ _ => .last fun _ _ _ => ?_
      refine .last fun _ t _ => .of_ok rfl fun next hnext => ?_
      cases hnext
      exact ⟨rfl, nofun⟩
  | sendOutboundBytes id bytes =>
    refine hnone ?_
    change Program.Ends _ _ (bytesSent _ _) _
    unfold bytesSent
    split_ifs
    · exact .of_ok rfl rfl
    · exact .of_error rfl trivial

end Operation

namespace SocketContainer

variable [Ballotin] (registry : ProtocolRegistry) {w : World υ} {R : World υ → World υ → Prop} [IsPreorder (World υ) R]

/-- What follows the execution: the operation is posted again, or its failure is handled. -/
theorem Chores.consumed (h : Chores R) (operation : Operation υ) (transferred : List UInt8)
    (hfailed : ∀ (errorCode : Option ℕ) (t : World υ),
      R t (OperationScheduler.handleFailedOperation operation errorCode t)) :
    R (Program.final (operation.execute registry transferred w))
      (OperationScheduler.handleSuccessfulOperation registry operation transferred w) := by
  have hpostable : Program.Ends (fun result t => ∀ next ∈ result, next.Postable t) (fun _ => True)
      (operation.execute registry transferred) w := operation.execute_postable registry transferred
  unfold OperationScheduler.handleSuccessfulOperation
  cases hrun : operation.execute registry transferred w with
  | error e t => exact hfailed _ t
  | ok result t =>
    cases result with
    | none => exact refl_of R t
    | some next => exact h.posted t next (hpostable.ok hrun next rfl)

/-- However an operation completes that inserts no socket. -/
theorem Chores.consumeOperation (h : Chores R) (operation : Operation υ) (completion : Completion)
    (hconnect : ∀ id ipAddress port callback, operation ≠ .connect id ipAddress port callback false)
    (hlisten : ∀ id ipAddress port callback, operation ≠ .listen id ipAddress port callback)
    (haccept : ∀ listener id, operation ≠ .accept listener id) :
    R w (OperationScheduler.consumeOperation registry operation completion w) := by
  have hfailed : ∀ (errorCode : Option ℕ) (t : World υ),
      R t (OperationScheduler.handleFailedOperation operation errorCode t) :=
    fun errorCode _ => h.handleFailedOperation operation errorCode haccept
  cases completion with
  | failed errorCode => exact hfailed _ w
  | succeeded transferred =>
    exact trans_of R (h.execute registry operation transferred hconnect hlisten haccept)
      (h.consumed registry operation transferred hfailed)

theorem Housekeeping.consumed (h : Housekeeping R) (operation : Operation υ) (transferred : List UInt8) :
    R (Program.final (operation.execute registry transferred w))
      (OperationScheduler.handleSuccessfulOperation registry operation transferred w) :=
  h.toChores.consumed registry operation transferred fun errorCode _ => h.handleFailedOperation operation errorCode

omit [Ballotin] in
theorem Lifecycle.opened {id : SocketIdentifier} {w' : World υ} (h : Lifecycle R)
    (hopens : Opens R id w w') : R w w' := by
  rcases hopens with hsame | ⟨s, t, -, ht, habsent, hrest⟩
  · exact hsame
  · exact trans_of R ht (trans_of R (h.inserted t id s habsent) hrest)

theorem Lifecycle.execute (h : Lifecycle R) (operation : Operation υ) (transferred : List UInt8) :
    Program.Within R (operation.execute registry transferred) w := by
  cases operation with
  | connect id ipAddress port callback pending =>
    cases pending with
    | false => exact h.opened (h.toChores.connect_opens id ipAddress port callback)
    | true => exact h.toChores.executePending id
  | listen id ipAddress port callback => exact h.opened (h.housekeeping.listen_opens id ipAddress port callback)
  | _ => exact h.housekeeping.execute registry _ transferred nofun nofun

/-- However an operation completes. -/
theorem Lifecycle.consumeOperation (h : Lifecycle R) (operation : Operation υ) (completion : Completion) :
    R w (OperationScheduler.consumeOperation registry operation completion w) := by
  cases completion with
  | failed errorCode => exact h.housekeeping.handleFailedOperation operation _
  | succeeded transferred =>
    exact trans_of R (h.execute registry operation transferred) (h.housekeeping.consumed registry operation transferred)

end SocketContainer

end Farseer.Windows
