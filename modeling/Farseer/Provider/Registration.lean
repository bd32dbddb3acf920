import Farseer.Linux.Consistency
import Farseer.Reader.Segmentation
import Farseer.Windows.Roster

/-! Registrations that are refused: the protocol is not known, or the socket has a handler for it already. On Linux
the exception is logged and nothing has changed. On Windows the failure hook of an operation erases its socket. -/

namespace Farseer

variable {υ : Type}

/-- What the two operations, and the two tasks, register on a socket. -/
inductive Registration (υ : Type)
  | messageConsumer (protocolIdentifier : ProtocolIdentifier) (messageConsumer : Consumer υ)
  | requestCallback (protocolIdentifier : ProtocolIdentifier) (requestConsumer : RequestConsumer υ)

namespace Registration

def operation (id : SocketIdentifier) : Registration υ → Windows.Operation υ
  | messageConsumer p consumer => .registerMessageConsumer id p consumer
  | requestCallback p consumer => .registerRequestCallback id p consumer

def task (id : SocketIdentifier) : Registration υ → Linux.Task υ
  | messageConsumer p consumer => .registerMessageConsumer id p consumer
  | requestCallback p consumer => .registerRequestCallback id p consumer

/-- The protocol is known and the reader has no handler for it. -/
def accepted (registry : ProtocolRegistry) (reader : ProtocolReader υ) : Registration υ → Bool
  | messageConsumer p _ => registry.isProtocolRegistered p && !reader.inboundMessageConsumers.contains p
  | requestCallback p _ => registry.isProtocolRegistered p && !reader.inboundRequestConsumers.contains p

def register (registry : ProtocolRegistry) : Registration υ → EStateM Exception (ProtocolReader υ) Unit
  | messageConsumer p consumer => ProtocolReader.registerInboundMessageConsumer registry p consumer
  | requestCallback p consumer => ProtocolReader.registerInboundRequestConsumer registry p consumer

variable {registry : ProtocolRegistry} {reader : ProtocolReader υ} {r : Registration υ}

theorem register_accepted (h : r.accepted registry reader = true) :
    ∃ reader', r.register registry reader = .ok () reader' := by
  cases r with
  | messageConsumer p consumer =>
    obtain ⟨hknown, hfree⟩ : registry.isProtocolRegistered p = true ∧ reader.inboundMessageConsumers.contains p = false := by
      simpa [accepted] using h
    rw [register, ProtocolReader.registerInboundMessageConsumer, Program.bind_ok Program.get_apply]
    simp only [hknown, hfree]
    exact ⟨_, rfl⟩
  | requestCallback p consumer =>
    obtain ⟨hknown, hfree⟩ : registry.isProtocolRegistered p = true ∧ reader.inboundRequestConsumers.contains p = false := by
      simpa [accepted] using h
    rw [register, ProtocolReader.registerInboundRequestConsumer, Program.bind_ok Program.get_apply]
    simp only [hknown, hfree]
    exact ⟨_, rfl⟩

theorem register_refused (h : r.accepted registry reader = false) :
    ∃ e, r.register registry reader = .error e reader := by
  cases r with
  | messageConsumer p consumer =>
    rw [register, ProtocolReader.registerInboundMessageConsumer, Program.bind_ok Program.get_apply]
    cases hknown : registry.isProtocolRegistered p with
    | false => exact ⟨_, rfl⟩
    | true =>
      have hused : reader.inboundMessageConsumers.contains p = true := by simpa [accepted, hknown] using h
      simp only [hused]
      exact ⟨_, rfl⟩
  | requestCallback p consumer =>
    rw [register, ProtocolReader.registerInboundRequestConsumer, Program.bind_ok Program.get_apply]
    cases hknown : registry.isProtocolRegistered p with
    | false => exact ⟨_, rfl⟩
    | true =>
      have hused : reader.inboundRequestConsumers.contains p = true := by simpa [accepted, hknown] using h
      simp only [hused]
      exact ⟨_, rfl⟩

end Registration

namespace Linux

/-- The sockets are those of before with all that they have, and no callback was called. -/
structure Unaffected (w w' : World υ) : Prop where
  sockets : ∀ id : SocketIdentifier, w'.sockets[id]? = w.sockets[id]?
  descriptors : w'.fileDescriptorsToSockets = w.fileDescriptorsToSockets
  kernel : w'.kernel = w.kernel
  history : w'.history = w.history
  user : w'.user = w.user

theorem unaffected_same {w : World υ} {id : SocketIdentifier} {s : Socket υ} (hs : w.sockets[id]? = some s) :
    Unaffected w (w.updateSocket id fun s' => { s' with protocolReader := s.protocolReader }) := by
  refine ⟨fun a => ?_, rfl, rfl, rfl, rfl⟩
  rw [World.updateSocket, Table.lookup_modify]
  split_ifs with ha
  · rw [← ha, hs]
    rfl
  · rfl

/-- A task that registers is refused without a trace. -/
theorem registration_unaffected [Ballotin] {registry : ProtocolRegistry} {w w' : World υ} {id : SocketIdentifier}
    {s : Socket υ} (hs : w.sockets[id]? = some s) (r : Registration υ) {e : Exception}
    (h : (r.task id).execute registry w = .error e w') : Unaffected w w' := by
  have hget := SocketContainer.getSocketOrThrow_some hs
  cases haccepted : r.accepted registry s.protocolReader with
  | true =>
    obtain ⟨reader', hregister⟩ := Registration.register_accepted haccepted
    have hregistered := SocketContainer.onProtocolReader_ok hs hregister
    have hok : ∃ t, (r.task id).execute registry w = .ok () t := by
      cases r with
      | messageConsumer p consumer => exact ⟨_, (Program.bind_ok hget).trans (Program.bind_ok hregistered)⟩
      | requestCallback p consumer => exact ⟨_, (Program.bind_ok hget).trans hregistered⟩
    obtain ⟨t, hok⟩ := hok
    rw [hok] at h
    cases h
  | false =>
    obtain ⟨e', hregister⟩ := Registration.register_refused haccepted
    have hrefused := SocketContainer.onProtocolReader_error hs hregister
    have herror : (r.task id).execute registry w =
        .error e' (w.updateSocket id fun s' => { s' with protocolReader := s.protocolReader }) := by
      cases r with
      | messageConsumer p consumer => exact (Program.bind_ok hget).trans (Program.bind_error hrefused)
      | requestCallback p consumer => exact (Program.bind_ok hget).trans hrefused
    rw [herror] at h
    cases h
    exact unaffected_same hs

end Linux

namespace Windows

structure Unaffected (w w' : World υ) : Prop where
  sockets : ∀ id : SocketIdentifier, w'.sockets[id]? = w.sockets[id]?
  outstanding : w'.outstanding = w.outstanding
  history : w'.history = w.history
  user : w'.user = w.user

variable [Ballotin] {registry : ProtocolRegistry} {w : World υ} {id : SocketIdentifier} {s : Socket υ}

variable (registry) in
theorem registration_execute (hs : w.sockets[id]? = some s) (r : Registration υ) :
    (r.accepted registry s.protocolReader = true ∧
        ∃ w', (r.operation id).execute registry [] w = .ok none w') ∨
      r.accepted registry s.protocolReader = false ∧ ∃ e w', (r.operation id).execute registry [] w = .error e w' ∧
        w'.sockets[id]? = some s := by
  have hget : SocketContainer.getSocketOrThrow id w = .ok id w := by
    rcases SocketContainer.getSocketOrThrow_cases id w with ⟨-, -, hok⟩ | ⟨e, hnone, -⟩
    · exact hok
    · rw [hs] at hnone
      cases hnone
  cases haccepted : r.accepted registry s.protocolReader with
  | true =>
    obtain ⟨reader', hregister⟩ := Registration.register_accepted haccepted
    have hregistered := onProtocolReader_ok hs hregister
    refine .inl ⟨rfl, ?_⟩
    cases r with
    | messageConsumer p consumer => exact ⟨_, (Program.bind_ok hget).trans (Program.bind_ok hregistered)⟩
    | requestCallback p consumer => exact ⟨_, (Program.bind_ok hget).trans (Program.bind_ok hregistered)⟩
  | false =>
    obtain ⟨e, hregister⟩ := Registration.register_refused haccepted
    have hrefused : SocketContainer.onProtocolReader id (r.register registry) w =
        .error e (w.updateSocket id fun s' => { s' with protocolReader := s.protocolReader }) := by
      rw [SocketContainer.onProtocolReader, hs]
      dsimp only
      rw [hregister]
    refine .inr ⟨rfl, e, w.updateSocket id fun s' => { s' with protocolReader := s.protocolReader }, ?_, ?_⟩
    · cases r with
      | messageConsumer p consumer => exact (Program.bind_ok hget).trans (Program.bind_error hrefused)
      | requestCallback p consumer => exact (Program.bind_ok hget).trans (Program.bind_error hrefused)
    · rw [World.updateSocket, Table.lookup_modify, if_pos rfl, hs]
      rfl

/-- A refused registration takes the socket with it, so it has no effect only if it is not refused. -/
theorem registration_unaffected_iff (hs : w.sockets[id]? = some s) (r : Registration υ) :
    ((∃ e w', (r.operation id).execute registry [] w = .error e w') →
        Unaffected w (OperationScheduler.consumeOperation registry (r.operation id) (.succeeded []) w)) ↔
      r.accepted registry s.protocolReader = true := by
  rcases registration_execute registry hs r with ⟨haccepted, t, hok⟩ | ⟨hrefused, e, t, herror, ht⟩
  · refine iff_of_true (fun ⟨e, w', herror⟩ => ?_) haccepted
    rw [hok] at herror
    cases herror
  · refine iff_of_false (fun h => ?_) (by simp [hrefused])
    have hkept := (h ⟨e, t, herror⟩).sockets id
    have herased : OperationScheduler.consumeOperation registry (r.operation id) (.succeeded []) w =
        SocketContainer.erased id t := by
      rw [OperationScheduler.consumeOperation, OperationScheduler.handleSuccessfulOperation, herror]
      cases r <;> rfl
    rw [herased, SocketContainer.erased, SocketContainer.eraseSocket_some ht, hs] at hkept
    have hgone : (SocketContainer.removeSocket id (Program.final (SocketContainer.notifyClosed id s t))).sockets[id]? =
        none := by
      rw [SocketContainer.removeSocket, Table.lookup_erase, if_pos rfl]
    rw [Program.final, hgone] at hkept
    cases hkept

end Windows

/-- A registration on a socket that is there, on either system. On Linux a failure has no effect. On Windows it has
none if and only if there is no failure: the protocol is known and the socket has no handler for it. -/
theorem failedRegistration_unaffected_iff [Ballotin] (registry : ProtocolRegistry) (r : Registration υ)
    (id : SocketIdentifier) :
    (∀ (w : Windows.World υ) (s : Windows.Socket υ), w.sockets[id]? = some s →
      (((∃ e w', (r.operation id).execute registry [] w = .error e w') → Windows.Unaffected w
          (Windows.OperationScheduler.consumeOperation registry (r.operation id) (.succeeded []) w)) ↔
        r.accepted registry s.protocolReader = true)) ∧
    ∀ (w w' : Linux.World υ) (s : Linux.Socket υ) (e : Exception), w.sockets[id]? = some s →
      (r.task id).execute registry w = .error e w' → Linux.Unaffected w w' :=
  ⟨fun _ _ hs => Windows.registration_unaffected_iff hs r, fun _ _ _ _ hs => Linux.registration_unaffected hs r⟩

/-! A listening socket, for which a consumer of messages is registered. -/

def consumeNothing : Registration Unit := .messageConsumer 7 fun _ => pure ()

def listeningScheduler : Windows.OperationScheduler Unit :=
  let _ := referenceBallotin
  (((Windows.OperationScheduler.new ()).withScript { identifiersTaken := [1] }).scheduled
    (.listen 1 "127.0.0.1" 8080 Linux.silent)).consumed Linux.emptyRegistry [] []
      (.listen 1 "127.0.0.1" 8080 Linux.silent) (.succeeded [])

theorem listeningScheduler_reachable :
    @Windows.OperationScheduler.Reachable Unit referenceBallotin Linux.emptyRegistry listeningScheduler := by
  let _ := referenceBallotin
  have hscheduled := ((Windows.OperationScheduler.Run.initial
    (R := Windows.OperationScheduler.Step Linux.emptyRegistry) ()).step
      (.outcomes _ { identifiersTaken := [1] })).step
        (.schedule _ (.listen 1 "127.0.0.1" 8080 Linux.silent) rfl rfl)
  exact hscheduled.step (.consume _ [] [] _ (.succeeded []) rfl rfl fun _ => rfl)

theorem listeningScheduler_registers :
    ((∃ e w', @Windows.Operation.execute Unit referenceBallotin pingRegistry [] (consumeNothing.operation 1)
        listeningScheduler.world = .error e w') →
      Windows.Unaffected listeningScheduler.world (@Windows.OperationScheduler.consumeOperation Unit referenceBallotin
        pingRegistry (consumeNothing.operation 1) (.succeeded []) listeningScheduler.world)) := by
  let _ := referenceBallotin
  obtain ⟨s, hs⟩ : ∃ s, listeningScheduler.world.sockets[1]? = some s := ⟨_, rfl⟩
  refine ((failedRegistration_unaffected_iff pingRegistry consumeNothing 1).1 _ s hs).mpr ?_
  obtain rfl := Option.some_inj.mp hs.symm
  rfl

/-- A provider that does not know the protocol loses the socket, and its callback is told. -/
theorem listeningScheduler_loses :
    @Windows.OperationScheduler.Reachable Unit referenceBallotin Linux.emptyRegistry listeningScheduler ∧
    (∃ e w', @Windows.Operation.execute Unit referenceBallotin Linux.emptyRegistry []
      (consumeNothing.operation 1) listeningScheduler.world = .error e w') ∧
    ¬ Windows.Unaffected listeningScheduler.world (@Windows.OperationScheduler.consumeOperation Unit referenceBallotin
      Linux.emptyRegistry (consumeNothing.operation 1) (.succeeded []) listeningScheduler.world) ∧
    .notified 1 .serverClosed 1 ∈ (@Windows.OperationScheduler.consumeOperation Unit referenceBallotin
      Linux.emptyRegistry (consumeNothing.operation 1) (.succeeded []) listeningScheduler.world).history := by
  let _ := referenceBallotin
  refine ⟨listeningScheduler_reachable, ⟨_, _, rfl⟩, fun h => ?_, ?_⟩
  · cases h.sockets 1
  · exact List.mem_append_right _ (List.mem_singleton.mpr rfl)

end Farseer
