import Farseer.Linux.EventLoop
import Farseer.Linux.Representation

/-! The event loop keeps the descriptor table valid, whatever the tasks, the events and the
outcomes of the calls are: every step of the loop is some steps of the table. -/

namespace Farseer.Linux

variable {υ : Type} {r : FileDescriptor}

namespace Task

variable {w : World υ}

theorem registerMessageConsumer_unmoved (registry : ProtocolRegistry) (id : SocketIdentifier)
    (protocolIdentifier : ProtocolIdentifier) (messageConsumer : Consumer υ) :
    Program.Within Unmoved
      (SocketContainer.registerMessageConsumer registry id protocolIdentifier messageConsumer) w := by
  refine .bind (SocketContainer.getSocketOrThrow_within id) fun socket t _ => ?_
  refine .bind (SocketContainer.onProtocolReader_unmoved _ _) fun _ u _ => ?_
  exact .modify (SocketContainer.record_unmoved _)

theorem registerRequestCallback_unmoved (registry : ProtocolRegistry) (id : SocketIdentifier)
    (protocolIdentifier : ProtocolIdentifier) (requestConsumer : RequestConsumer υ) :
    Program.Within Unmoved
      (SocketContainer.registerRequestCallback registry id protocolIdentifier requestConsumer) w :=
  .bind (SocketContainer.getSocketOrThrow_within id) fun _ _ _ => SocketContainer.onProtocolReader_unmoved _ _

theorem sendBytes_keeps (id : SocketIdentifier) (bytes : List UInt8) :
    Program.Within Keeps (SocketContainer.sendBytes id bytes) w :=
  .bind (SocketContainer.getSocketOrThrow_within id) fun _ _ _ => SocketContainer.sendBytesTo_keeps _ _

theorem sendRequest_keeps (id : SocketIdentifier) (n : ProtocolSequenceNumber) (bytes : List UInt8)
    (responseConsumer : Consumer υ) :
    Program.Within Keeps (SocketContainer.sendRequest id n bytes responseConsumer) w := by
  refine .bind (SocketContainer.getSocketOrThrow_within id) fun socket t _ => ?_
  refine .bind (Unmoved.keeps (SocketContainer.onProtocolReader_unmoved _ _)) fun _ u _ => ?_
  refine .bind (.modify (SocketContainer.record_unmoved _).keeps) fun _ v _ => ?_
  exact SocketContainer.sendBytesTo_keeps _ _

theorem execute_evolves (registry : ProtocolRegistry) (task : Task υ) :
    Program.Within (Evolves r) (task.execute registry) w := by
  cases task with
  | close id => exact SocketContainer.evolves_lifecycle.eraseSocket id
  | connect id ipAddress port callback => exact SocketContainer.evolves_lifecycle.connect id ipAddress port callback
  | listen id ipAddress port callback => exact SocketContainer.evolves_lifecycle.listen id ipAddress port callback
  | registerMessageConsumer id p consumer =>
    exact unmoved_evolves (registerMessageConsumer_unmoved registry id p consumer)
  | registerRequestCallback id p consumer =>
    exact unmoved_evolves (registerRequestCallback_unmoved registry id p consumer)
  | sendBytes id bytes => exact within_evolves (sendBytes_keeps id bytes)
  | sendRequest id n bytes consumer => exact within_evolves (sendRequest_keeps id n bytes consumer)

end Task

namespace EventLoop

/-- The table is valid, and the descriptors of sockets that were open when `epoll_wait` returned
are those of the sockets that had them then. -/
structure Sound (l : EventLoop υ) : Prop where
  valid : l.world.table.Valid l.eventFileDescriptor
  settled : DescriptorTable.Settled (fun fd => l.registered[fd]?) l.waitedAt l.world.table

theorem Sound.evolve {l : EventLoop υ} (h : l.Sound) {world : World υ} {taskQueue : TaskQueue υ}
    {control : Control υ} (hevolves : Evolves l.eventFileDescriptor l.world world) :
    { l with world, taskQueue, control }.Sound :=
  ⟨h.valid.steps (hevolves h.valid), h.settled.steps (hevolves h.valid)⟩

theorem Initial.sound {l : EventLoop υ} (h : l.Initial) : l.Sound := by
  have hnone : ∀ id, l.world.table.sockets id = none := by
    intro id
    rw [table_sockets, h.sockets, Std.ExtTreeMap.getElem?_empty]
    rfl
  have hmap : ∀ fd, l.world.table.byDescriptor fd = none := by
    intro fd
    change l.world.fileDescriptorsToSockets[fd]? = none
    rw [h.fileDescriptorsToSockets, Std.ExtTreeMap.getElem?_empty]
  have hsub : ∀ fd, fd ∈ l.world.table.subscribed ↔ fd = l.eventFileDescriptor := by
    intro fd
    change l.world.kernel.interestList.contains fd = true ↔ _
    rw [h.interestList, Table.contains_insert_iff, Std.ExtTreeMap.contains_empty]
    exact or_iff_left Bool.false_ne_true
  refine ⟨⟨?_, ?_, ?_, ?_, ?_, hmap _⟩, h.waitedAt.le.trans (Nat.zero_le _), fun hid => ?_⟩
  · intro id key fd hs
    rw [hnone] at hs
    cases hs
  · intro fd id
    rw [hmap, hnone]
    exact iff_of_false (fun h => by cases h) fun ⟨_, h⟩ => by cases h
  · intro fd
    rw [hsub, hmap]
    exact (or_iff_left fun ⟨_, h⟩ => by cases h).symm
  · intro fd hfd
    obtain ⟨d, hd⟩ := Option.isSome_iff_exists.mp ((Table.contains_eq (k := l.eventFileDescriptor)).symm.trans
      h.descriptors)
    exact ⟨d.openedAt, by rw [(hsub fd).mp hfd, table_openedAt, hd]; rfl⟩
  · intro fd n hn
    obtain ⟨d, hd, rfl⟩ := Option.map_eq_some_iff.mp hn
    exact h.opened fd d hd
  · rw [hmap] at hid
    cases hid

theorem Step.sound [Ballotin] {registry : ProtocolRegistry} {l l' : EventLoop υ} (h : l.Sound)
    (hstep : Step registry l l') : l'.Sound := by
  cases hstep with
  | insertTask task outcome => exact h.evolve (refl_of (Evolves _) _)
  | outcomes script => exact h.evolve (Keeps.evolves (.of_sockets rfl rfl ⟨fun _ => rfl, fun _ => rfl, rfl⟩))
  | wait events hcontrol hevents => exact ⟨h.valid, DescriptorTable.settled_now l.world.table⟩
  | waitFailed | batchDone | abort | tasksDone => exact h.evolve (refl_of (Evolves _) _)
  | socketEvents event events hcontrol hfd =>
    have hevolves := SocketContainer.handleSocketEvents_evolves registry (w := l.world) hfd event.events
    unfold handled
    cases hrun : SocketContainer.handleSocketEvents registry event.fileDescriptor event.events l.world with
    | ok _ world => exact h.evolve (hevolves.ok hrun)
    | error e world => exact h.evolve (hevolves.error hrun)
  | transfer event events outcome hcontrol hfd =>
    unfold transferred
    cases TaskQueue.transfer outcome l.taskQueue <;> exact h.evolve (refl_of (Evolves _) _)
  | executeTask task tasksBuffer events hcontrol =>
    exact h.evolve (Task.execute_evolves registry task)

/-- The descriptor table stays valid over a whole run. -/
theorem Reachable.sound [Ballotin] {registry : ProtocolRegistry} {l : EventLoop υ} (h : l.Reachable registry) :
    l.Sound :=
  Run.invariant (fun _ => Initial.sound) (fun _ _ => Step.sound) h

end EventLoop

/-- The two maps and the interest list are in step. -/
structure World.Consistent (eventFileDescriptor : FileDescriptor) (w : World υ) : Prop where
  identifiers : ∀ (id : SocketIdentifier) (s : Socket υ), w.sockets[id]? = some s → s.socketIdentifier = id
  descriptors : ∀ (fd : FileDescriptor) (id : SocketIdentifier),
    w.fileDescriptorsToSockets[fd]? = some id ↔ ∃ s, w.sockets[id]? = some s ∧ s.socket.socket = fd
  distinct : ∀ (id id' : SocketIdentifier) (s s' : Socket υ), w.sockets[id]? = some s →
    w.sockets[id']? = some s' → s.socket.socket = s'.socket.socket → id = id'
  subscribed : ∀ fd : FileDescriptor, w.kernel.interestList.contains fd = true ↔
    fd = eventFileDescriptor ∨ ∃ (id : SocketIdentifier) (s : Socket υ), w.sockets[id]? = some s ∧ s.socket.socket = fd
  separate : ∀ (id : SocketIdentifier) (s : Socket υ), w.sockets[id]? = some s →
    s.socket.socket ≠ eventFileDescriptor
  opened : ∀ fd : FileDescriptor, w.kernel.interestList.contains fd = true →
    w.kernel.descriptors.contains fd = true

theorem table_sockets_iff {w : World υ} {id : SocketIdentifier} {fd : FileDescriptor} :
    (∃ key, w.table.sockets id = some (key, fd)) ↔ ∃ s, w.sockets[id]? = some s ∧ s.socket.socket = fd := by
  rw [table_sockets]
  constructor
  · rintro ⟨key, hkey⟩
    obtain ⟨s, hs, heq⟩ := Option.map_eq_some_iff.mp hkey
    exact ⟨s, hs, congrArg Prod.snd heq⟩
  · rintro ⟨s, hs, rfl⟩
    exact ⟨s.socketIdentifier, by rw [hs]; rfl⟩

theorem World.Consistent.of_valid {w : World υ} (h : w.table.Valid r) : w.Consistent r := by
  have hdescriptors : ∀ (fd : FileDescriptor) (id : SocketIdentifier),
      w.fileDescriptorsToSockets[fd]? = some id ↔ ∃ s, w.sockets[id]? = some s ∧ s.socket.socket = fd :=
    fun fd id => h.descriptors.trans table_sockets_iff
  refine ⟨fun id s hs => ?_, hdescriptors, fun id id' s s' hs hs' heq => ?_, fun fd => ?_, fun id s hs heq => ?_,
    fun fd hfd => ?_⟩
  · exact h.identifiers (show w.table.sockets id = some (s.socketIdentifier, s.socket.socket) by rw [table_sockets, hs]; rfl)
  · have hid := (hdescriptors s.socket.socket id).mpr ⟨s, hs, rfl⟩
    have hid' := (hdescriptors s.socket.socket id').mpr ⟨s', hs', heq.symm⟩
    exact Option.some_inj.mp (hid.symm.trans hid')
  · refine h.subscribed.trans (or_congr Iff.rfl (exists_congr fun id => ?_))
    exact hdescriptors fd id
  · have hid := (hdescriptors s.socket.socket id).mpr ⟨s, hs, rfl⟩
    rw [heq] at hid
    exact Option.some_ne_none id (hid.symm.trans h.reserved)
  · obtain ⟨n, hn⟩ := h.opened (show fd ∈ w.table.subscribed from hfd)
    obtain ⟨d, hd, -⟩ := Option.map_eq_some_iff.mp hn
    rw [Table.contains_eq, hd]
    rfl

theorem World.Consistent.unused {w : World υ} (h : w.Consistent r) {k' : Kernel} {fd : FileDescriptor}
    (hopened : Kernel.Opened w.kernel k' fd) : k'.descriptors.contains fd = true ∧
      k'.interestList[fd]? = none ∧ w.fileDescriptorsToSockets[fd]? = none := by
  have hnot : ¬ w.kernel.interestList.contains fd = true := by
    intro hsub
    have hcontains := h.opened _ hsub
    rw [Table.contains_eq, hopened.free] at hcontains
    exact Bool.false_ne_true hcontains
  refine ⟨?_, ?_, ?_⟩
  · rw [Table.contains_eq, hopened.descriptors, Table.lookup_insert, if_pos rfl]
    rfl
  · rw [Table.contains_eq] at hnot
    rw [hopened.interestList]
    simpa using hnot
  · refine Option.eq_none_iff_forall_ne_some.mpr fun id hid => hnot ?_
    exact (h.subscribed _).mpr (.inr ⟨id, (h.descriptors _ id).mp hid⟩)

/-- A socket on a new descriptor that cannot be inserted leaves nothing. -/
theorem World.Consistent.insertSocket_error {w : World υ} (h : w.Consistent r) {k' : Kernel} {socket : Socket υ}
    (hopened : Kernel.Opened w.kernel k' socket.socket.socket) {events : UInt32} {e : Exception} {w' : World υ}
    (herror : SocketContainer.insertSocket events socket { w with kernel := k' } = .error e w') :
    w'.sockets = w.sockets ∧ w'.fileDescriptorsToSockets = w.fileDescriptorsToSockets ∧
      w'.kernel.interestList = w.kernel.interestList := by
  obtain ⟨hopen, hsub, hmap⟩ := h.unused hopened
  rcases SocketContainer.insertSocket_cases (w := { w with kernel := k' }) events hopen hsub hmap with ⟨script, -, hok⟩ | ⟨e', w'', herror', hdiscarded⟩
  · rw [hok] at herror
    cases herror
  · rw [herror'] at herror
    cases herror
    exact ⟨hdiscarded.sockets, hdiscarded.fileDescriptorsToSockets,
      hdiscarded.interestList.trans hopened.interestList⟩

theorem EventLoop.Reachable.consistent [Ballotin] {registry : ProtocolRegistry} {l : EventLoop υ}
    (h : l.Reachable registry) : l.world.Consistent l.eventFileDescriptor := .of_valid h.sound.valid

/-- In every state of every run the container is consistent, and wherever it is consistent a
failing `insertSocket` leaves both maps and the subscriptions as they were. -/
theorem socketContainer_consistent [Ballotin] (registry : ProtocolRegistry) :
    (∀ l : EventLoop υ, l.Reachable registry → l.world.Consistent l.eventFileDescriptor) ∧
      ∀ (eventFileDescriptor : FileDescriptor) (w : World υ), w.Consistent eventFileDescriptor →
        ∀ (k' : Kernel) (socket : Socket υ) (events : UInt32) (e : Exception) (w' : World υ),
          Kernel.Opened w.kernel k' socket.socket.socket →
          SocketContainer.insertSocket events socket { w with kernel := k' } = .error e w' →
          w'.sockets = w.sockets ∧ w'.fileDescriptorsToSockets = w.fileDescriptorsToSockets ∧
            w'.kernel.interestList = w.kernel.interestList :=
  ⟨fun _ h => EventLoop.Reachable.consistent h, fun _ _ h _ _ _ _ _ hopened herror => h.insertSocket_error hopened herror⟩

def silent : ConnectionCallback Unit := fun _ _ => pure ()

def emptyRegistry : ProtocolRegistry := { protocolDescriptors := ∅ }

def connectingLoop : EventLoop Unit :=
  (EventLoop.new 3 4 ()).performed emptyRegistry [.connect 1 "127.0.0.1" 8080 silent] []

theorem connectingLoop_run [Ballotin] {R : EventLoop Unit → EventLoop Unit → Prop}
    (hR : ∀ l l', EventLoop.Step emptyRegistry l l' →
      (∀ task, l.Executes task → task = .connect 1 "127.0.0.1" 8080 silent) → R l l') : connectingLoop.Run R := by
  have hreports : (EventLoop.new 3 4 ()).Reports [{ fileDescriptor := 4, events := EPOLLIN }] :=
    ⟨by decide, by decide, fun e he => by rw [List.mem_singleton.mp he]; decide⟩
  have hgiven := EventLoop.given_run (fun l l' hstep hidle => hR l l' hstep fun task h => absurd h (hidle task))
    (.initial (EventLoop.new_initial 3 4 ())) rfl rfl (.connect 1 "127.0.0.1" 8080 silent) [] hreports
  have hexecuted := hgiven.step (hR _ _ (.executeTask _ _ [] [] rfl) fun task ⟨_, _, h⟩ => by cases h; rfl)
  exact hexecuted.step (hR _ _ (.tasksDone _ [] rfl) fun task ⟨_, _, h⟩ => by cases h)

theorem connectingLoop_reachable [Ballotin] : connectingLoop.Reachable emptyRegistry :=
  connectingLoop_run fun _ _ hstep _ => hstep

/-- A listening socket that was created under the identifier of the connecting one. -/
def secondSocket : Socket Unit :=
  SocketContainer.newSocket 1 invalidSocketIdentifier
    { outgoingBuffer := [], ipAddress := "127.0.0.1", port := 8080, socket := 9, socketType := .listening } silent

theorem connectingLoop_consistent : connectingLoop.world.Consistent 4 ∧
    ∃ e w', SocketContainer.insertSocket (EPOLLIN ||| EPOLLET) secondSocket
        { connectingLoop.world with kernel := connectingLoop.world.kernel.openDescriptor 9 } = .error e w' ∧
      w'.sockets = connectingLoop.world.sockets ∧
      w'.fileDescriptorsToSockets = connectingLoop.world.fileDescriptorsToSockets ∧
      w'.kernel.interestList = connectingLoop.world.kernel.interestList := by
  obtain ⟨hreachable, hinsert⟩ := @socketContainer_consistent Unit referenceBallotin emptyRegistry
  have hconsistent : connectingLoop.world.Consistent 4 :=
    hreachable connectingLoop (@connectingLoop_reachable referenceBallotin)
  have hopened : Kernel.Opened connectingLoop.world.kernel (connectingLoop.world.kernel.openDescriptor 9) 9 :=
    ⟨rfl, rfl, rfl, rfl⟩
  refine ⟨hconsistent, _, _, rfl, ?_⟩
  exact hinsert 4 connectingLoop.world hconsistent _ secondSocket (EPOLLIN ||| EPOLLET) _ _ hopened rfl

end Farseer.Linux
