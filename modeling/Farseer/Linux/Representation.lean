import Farseer.Linux.DescriptorTable
import Farseer.Linux.OutgoingBuffer
import Farseer.Linux.Rules

/-! The container refines the descriptor table: whatever it is asked to do, and however that ends,
its maps and the interest list of the kernel move by steps of the table. -/

namespace Farseer.Linux

variable {υ : Type}

def Socket.key (s : Socket υ) : SocketIdentifier × FileDescriptor := (s.socketIdentifier, s.socket.socket)

/-- What a socket is apart from its reader, its callback and the bytes it buffers for them. -/
def Socket.station (s : Socket υ) : SocketIdentifier × LinuxSocket := (s.socketIdentifier, s.socket)

def World.table (w : World υ) : DescriptorTable where
  sockets id := w.sockets[id]?.map Socket.key
  byDescriptor fd := w.fileDescriptorsToSockets[fd]?
  subscribed := {fd | w.kernel.interestList.contains fd = true}
  openedAt fd := w.kernel.descriptors[fd]?.map Descriptor.openedAt
  clock := w.kernel.clock

namespace Kernel

/-- The same descriptors are open and subscribed. -/
structure Alike (k k' : Kernel) : Prop where
  interestList : ∀ fd : FileDescriptor, k'.interestList.contains fd = k.interestList.contains fd
  openedAt : ∀ fd : FileDescriptor,
    k'.descriptors[fd]?.map Descriptor.openedAt = k.descriptors[fd]?.map Descriptor.openedAt
  clock : k'.clock = k.clock

instance : IsPreorder Kernel Alike where
  refl _ := ⟨fun _ => rfl, fun _ => rfl, rfl⟩
  trans _ _ _ h h' := ⟨fun fd => (h'.interestList fd).trans (h.interestList fd),
    fun fd => (h'.openedAt fd).trans (h.openedAt fd), h'.clock.trans h.clock⟩

theorem Idle.alike {k k' : Kernel} (h : Idle k k') : Alike k k' :=
  ⟨fun _ => by rw [h.interestList], fun _ => by rw [h.descriptors], h.clock⟩

theorem Took.alike {k k' : Kernel} {fd : FileDescriptor} {bytes : List UInt8} (h : k.Took k' fd bytes) :
    Alike k k' := by
  refine ⟨fun _ => by rw [h.interestList], fun fd' => ?_, h.clock⟩
  rw [h.descriptors, transmit, Table.lookup_modify]
  split_ifs with heq
  · rw [heq]
    cases k.descriptors[fd']? <;> rfl
  · rfl

end Kernel

open Kernel

theorem setEvents_alike (fd : FileDescriptor) (events : UInt32) (k : Kernel) :
    Program.Within Alike (EventPoll.setEvents fd events) k := by
  obtain ⟨script, ⟨hsub, hok⟩ | ⟨e, herror, -⟩⟩ := setEvents_cases fd events k
  · refine .of_ok hok ⟨fun fd' => ?_, fun _ => rfl, rfl⟩
    rw [Table.contains_eq, Table.lookup_insert, Table.contains_eq]
    split_ifs with heq
    · rw [← heq, ← Table.contains_eq, hsub]
      rfl
    · rfl
  · exact .of_error herror ⟨fun _ => rfl, fun _ => rfl, rfl⟩

def Keeps (w w' : World υ) : Prop := w'.table = w.table

instance : IsPreorder (World υ) Keeps where
  refl _ := rfl
  trans _ _ _ h h' := Eq.trans h' h

theorem Keeps.of {w w' : World υ}
    (hsockets : ∀ id : SocketIdentifier, w'.sockets[id]?.map Socket.key = w.sockets[id]?.map Socket.key)
    (hmap : w'.fileDescriptorsToSockets = w.fileDescriptorsToSockets) (hkernel : Alike w.kernel w'.kernel) :
    Keeps w w' := by
  unfold Keeps World.table
  rw [DescriptorTable.mk.injEq]
  refine ⟨funext hsockets, by rw [hmap], ?_, funext hkernel.openedAt, hkernel.clock⟩
  ext fd
  rw [Set.mem_ofPred_eq, Set.mem_ofPred_eq, hkernel.interestList]

theorem Keeps.of_sockets {w w' : World υ} (hsockets : w'.sockets = w.sockets)
    (hmap : w'.fileDescriptorsToSockets = w.fileDescriptorsToSockets) (hkernel : Alike w.kernel w'.kernel) :
    Keeps w w' := .of (fun _ => by rw [hsockets]) hmap hkernel

/-- The same sockets with the same `LinuxSocket`s, and nothing of the kernel but the script went on. -/
structure Unmoved (w w' : World υ) : Prop where
  sockets : ∀ id : SocketIdentifier, w'.sockets[id]?.map Socket.station = w.sockets[id]?.map Socket.station
  fileDescriptorsToSockets : w'.fileDescriptorsToSockets = w.fileDescriptorsToSockets
  kernel : Idle w.kernel w'.kernel

instance : IsPreorder (World υ) Unmoved where
  refl _ := ⟨fun _ => rfl, rfl, refl_of Idle _⟩
  trans _ _ _ h h' := ⟨fun id => (h'.sockets id).trans (h.sockets id),
    h'.fileDescriptorsToSockets.trans h.fileDescriptorsToSockets, trans_of Idle h.kernel h'.kernel⟩

theorem Unmoved.of_sockets {w w' : World υ} (hsockets : w'.sockets = w.sockets)
    (hmap : w'.fileDescriptorsToSockets = w.fileDescriptorsToSockets) (hkernel : Idle w.kernel w'.kernel) :
    Unmoved w w' := ⟨fun _ => by rw [hsockets], hmap, hkernel⟩

theorem Unmoved.keeps {w w' : World υ} (h : Unmoved w w') : Keeps w w' := by
  have hkey : Socket.key (υ := υ) = (fun station => (station.1, station.2.socket)) ∘ Socket.station := rfl
  refine .of (fun id => ?_) h.fileDescriptorsToSockets h.kernel.alike
  rw [hkey, ← Option.map_map, h.sockets, Option.map_map]

theorem Unmoved.updateSocket {f : Socket υ → Socket υ} (id : SocketIdentifier) (w : World υ)
    (hf : ∀ s, (f s).station = s.station) : Unmoved w (w.updateSocket id f) := by
  refine ⟨fun id' => ?_, rfl, refl_of Idle _⟩
  rw [World.updateSocket, Table.lookup_modify]
  split_ifs with heq
  · rw [← heq, Option.map_map]
    exact congrArg (Option.map · w.sockets[id]?) (funext hf)
  · rfl

theorem Keeps.updateSocket {f : Socket υ → Socket υ} (id : SocketIdentifier) (w : World υ)
    (hf : ∀ s, w.sockets[id]? = some s → (f s).key = s.key) :
    Keeps w (w.updateSocket id f) := by
  refine .of (fun id' => ?_) rfl (refl_of Alike _)
  rw [World.updateSocket, Table.lookup_modify]
  split_ifs with heq
  · rw [← heq]
    cases hs : w.sockets[id]? with
    | none => rfl
    | some s => rw [Option.map_some, Option.map_some, Option.map_some, hf s hs]
  · rfl

namespace SocketContainer

variable {w : World υ}

theorem onKernel_keeps {α : Type} {x : KernelM α} (h : Program.Within Alike x w.kernel) :
    Program.Within Keeps (onKernel x) w := by
  unfold onKernel Program.Within Program.zoom
  cases hx : x w.kernel with
  | ok a k => exact .of_sockets rfl rfl (h.ok hx)
  | error e k => exact .of_sockets rfl rfl (h.error hx)

theorem onKernel_unmoved {α : Type} {x : KernelM α} (h : Program.Within Idle x w.kernel) :
    Program.Within Unmoved (onKernel x) w := by
  unfold onKernel Program.Within Program.zoom
  cases hx : x w.kernel with
  | ok a k => exact .of_sockets rfl rfl (h.ok hx)
  | error e k => exact .of_sockets rfl rfl (h.error hx)

theorem onUser_unmoved {α : Type} (x : EStateM Exception υ α) : Program.Within Unmoved (onUser x) w := by
  unfold onUser Program.Within Program.zoom
  cases x w.user <;> exact .of_sockets rfl rfl (refl_of Idle _)

theorem record_unmoved (event : ContainerEvent υ) : Unmoved w (w.record event) :=
  .of_sockets rfl rfl (refl_of Idle _)

theorem notify_unmoved (s : Socket υ) (event : SocketEvent) (id : SocketIdentifier) :
    Program.Within Unmoved (notify s event id) w :=
  .bind (.modify (record_unmoved _)) fun _ _ _ => onUser_unmoved _

theorem onProtocolReader_unmoved (id : SocketIdentifier) (x : EStateM Exception (ProtocolReader υ) Unit) :
    Program.Within Unmoved (onProtocolReader id x) w := by
  rw [Program.Within, onProtocolReader]
  cases hs : w.sockets[id]? with
  | none => exact refl_of Unmoved w
  | some s =>
    dsimp only
    cases x s.protocolReader <;> exact .updateSocket _ _ fun _ => rfl

/-- What `sendBytes` does to the socket and the kernel, kept as a change of the world. -/
theorem onLinuxSocket_sendBytes_keeps (id : SocketIdentifier) (bytes : List UInt8) :
    Program.Within Keeps (onLinuxSocket id (LinuxSocket.sendBytes bytes)) w := by
  rw [Program.Within, onLinuxSocket]
  cases hs : w.sockets[id]? with
  | none => exact refl_of Keeps w
  | some s =>
    dsimp only
    have hkeeps : ∀ (l : LinuxSocket) (k : Kernel), l.socket = s.socket.socket → Alike w.kernel k →
        Keeps w { w.updateSocket id (fun s => { s with socket := l }) with kernel := k } := by
      intro l k hl hk
      have hupdate : Keeps w (w.updateSocket id fun s => { s with socket := l }) :=
        .updateSocket id w fun s' hs' => by
          rw [hs] at hs'
          cases hs'
          exact Prod.ext rfl hl
      refine trans_of Keeps hupdate ?_
      exact .of_sockets rfl rfl hk
    cases hestablished : s.socket.isEstablished with
    | false =>
      rw [LinuxSocket.sendBytes_refused hestablished]
      exact hkeeps _ _ rfl (refl_of Alike _)
    | true =>
      obtain ⟨m, k', htook, -, hok | ⟨-, -, e, -, herror⟩⟩ :=
        LinuxSocket.sendBytes_established hestablished bytes w.kernel
      · rw [hok]
        exact hkeeps _ _ rfl htook.alike
      · rw [herror]
        exact hkeeps _ _ rfl htook.alike

theorem sendBytesTo_keeps (id : SocketIdentifier) (bytes : List UInt8) :
    Program.Within Keeps (sendBytesTo id bytes) w := by
  refine .bind (onLinuxSocket_sendBytes_keeps id bytes) fun exhausted t _ => ?_
  exact .bind (dereference_within id) fun s u _ => onKernel_keeps (setEvents_alike _ _ _)

theorem readInboundBytes_unmoved [Ballotin] (registry : ProtocolRegistry) (reader socket : SocketIdentifier) :
    Program.Within Unmoved (readInboundBytes registry reader socket) w := by
  have hafter : ∀ (id : SocketIdentifier) (r : Reading υ), Unmoved w (afterReading reader socket id r w) := by
    intro id r
    let read := w.updateSocket reader fun s => { s with protocolReader := r.reader }
    have hreader : Unmoved w read := .updateSocket _ _ fun _ => rfl
    have hbuffers : Unmoved read (read.updateSocket socket fun s =>
        { s with inboundBytes := r.inboundBytes, outboundBytes := r.outboundBytes }) :=
      .updateSocket _ _ fun _ => rfl
    refine trans_of Unmoved (trans_of Unmoved hreader hbuffers) ?_
    exact .of_sockets rfl rfl (refl_of Idle _)
  rw [Program.Within, readInboundBytes]
  split
  · dsimp only
    split
    · exact hafter _ _
    · exact hafter _ _
  · exact refl_of Unmoved w

end SocketContainer

def Evolves (r : FileDescriptor) (w w' : World υ) : Prop :=
  w.table.Valid r → Relation.ReflTransGen DescriptorTable.Step w.table w'.table

instance (r : FileDescriptor) : IsPreorder (World υ) (Evolves r) where
  refl _ _ := .refl
  trans _ _ _ h h' hvalid := (h hvalid).trans (h' (hvalid.steps (h hvalid)))

variable {r : FileDescriptor}

theorem Evolves.of_table {w w' : World υ} (h : w.table.Valid r → DescriptorTable.Step w.table w'.table) :
    Evolves r w w' := fun hvalid => .single (h hvalid)

theorem Keeps.evolves {w w' : World υ} (h : Keeps w w') : Evolves r w w' := fun _ => by rw [show w'.table = w.table from h]

theorem within_evolves {α : Type} {x : WorldM υ α} {w : World υ} (h : Program.Within Keeps x w) :
    Program.Within (Evolves r) x w := Keeps.evolves h

theorem Unmoved.evolves {w w' : World υ} (h : Unmoved w w') : Evolves r w w' := h.keeps.evolves

theorem unmoved_evolves {α : Type} {x : WorldM υ α} {w : World υ} (h : Program.Within Unmoved x w) :
    Program.Within (Evolves r) x w := Unmoved.evolves h

theorem table_sockets (w : World υ) (id : SocketIdentifier) :
    w.table.sockets id = w.sockets[id]?.map Socket.key := rfl

theorem table_openedAt (w : World υ) (fd : FileDescriptor) :
    w.table.openedAt fd = w.kernel.descriptors[fd]?.map Descriptor.openedAt := rfl

theorem table_openedAt_none {w : World υ} {fd : FileDescriptor} (h : w.kernel.descriptors[fd]? = none) :
    w.table.openedAt fd = none := by
  rw [table_openedAt, h]
  rfl

theorem unused_lookup {w : World υ} (hvalid : w.table.Valid r) {fd : FileDescriptor}
    (h : w.kernel.descriptors[fd]? = none) :
    w.kernel.interestList[fd]? = none ∧ w.fileDescriptorsToSockets[fd]? = none := by
  obtain ⟨hsub, hmap⟩ := hvalid.unused (table_openedAt_none h)
  refine ⟨?_, hmap⟩
  have hnot : ¬ w.kernel.interestList.contains fd = true := hsub
  rw [Table.contains_eq] at hnot
  simpa using hnot

namespace SocketContainer

variable {w : World υ}

theorem closed_evolves {k' : Kernel} {fd : FileDescriptor} (h : Closed w.kernel k' fd) :
    Evolves r w { w with kernel := k' } := by
  refine .of_table fun hvalid => ?_
  have hsub := (unused_lookup hvalid h.free).1
  have htable : ({ w with kernel := k' } : World υ).table = w.table.tick := by
    unfold World.table DescriptorTable.tick
    rw [h.descriptors, h.interestList, Table.erase_of_absent hsub, h.clock]
  rw [htable]
  exact .tick

theorem leftNothing_evolves {k' : Kernel} (h : LinuxSocket.LeftNothing w.kernel k') :
    Evolves r w { w with kernel := k' } := by
  rcases h with hidle | ⟨fd, hclosed⟩
  · exact Keeps.evolves (.of_sockets rfl rfl hidle.alike)
  · exact closed_evolves hclosed

/-- A socket on a new descriptor is inserted, or it is gone again. -/
theorem insertSocket_evolves {k' : Kernel} {socket : Socket υ} (hopened : Opened w.kernel k' socket.socket.socket)
    (events : UInt32) :
    Evolves r w (Program.final (insertSocket events socket { w with kernel := k' })) := by
  intro hvalid
  obtain ⟨hsub, hmap⟩ := unused_lookup hvalid hopened.free
  have hopen : k'.descriptors.contains socket.socket.socket = true := by
    rw [Table.contains_eq, hopened.descriptors, Table.lookup_insert, if_pos rfl]
    rfl
  have hopenedAt := table_openedAt_none hopened.free
  rcases insertSocket_cases (w := { w with kernel := k' }) events hopen (by rw [← hsub, hopened.interestList]) hmap
    with ⟨script, hfree, hok⟩ | ⟨e, w', herror, hdiscarded⟩
  · rw [hok]
    have hid : w.table.sockets socket.socketIdentifier = none := by
      rw [table_sockets, show w.sockets[socket.socketIdentifier]? = none from hfree]
      rfl
    have htable : (inserted events socket script { w with kernel := k' }).table =
        w.table.insert socket.socketIdentifier socket.socket.socket := by
      unfold World.table inserted DescriptorTable.insert
      rw [DescriptorTable.mk.injEq]
      refine ⟨Table.map_lookup_insert_eq _, Table.lookup_insert_eq, ?_, ?_, hopened.clock⟩
      · ext fd
        dsimp only
        rw [Set.mem_ofPred_eq, Set.mem_insert_iff, Set.mem_ofPred_eq, Table.contains_insert_iff,
          hopened.interestList]
      · dsimp only
        rw [hopened.descriptors, Table.map_lookup_insert_eq]
    rw [Program.final, htable]
    exact .single (.insert hid hopenedAt)
  · rw [herror]
    have htable : w'.table = w.table.tick := by
      unfold World.table DescriptorTable.tick
      rw [hdiscarded.sockets, hdiscarded.fileDescriptorsToSockets, hdiscarded.interestList, hdiscarded.descriptors,
        hdiscarded.clock, hopened.descriptors, Table.erase_insert hopened.free, hopened.interestList, hopened.clock]
    rw [Program.final, htable]
    exact .single .tick

theorem removeSocket_evolves (socketIdentifier : SocketIdentifier) :
    Evolves r w (removeSocket socketIdentifier w) := by
  cases hs : w.sockets[socketIdentifier]? with
  | none =>
    rw [removeSocket, hs]
    exact refl_of (Evolves r) w
  | some s =>
    obtain ⟨script, hremoved⟩ := removeSocket_eq hs
    have htable : (removeSocket socketIdentifier w).table = w.table.erase socketIdentifier s.socket.socket := by
      rw [hremoved]
      unfold World.table removed DescriptorTable.erase
      rw [DescriptorTable.mk.injEq]
      refine ⟨Table.map_lookup_erase_eq _, Table.lookup_erase_eq, ?_, Table.map_lookup_erase_eq _, rfl⟩
      ext fd
      dsimp only
      rw [Set.mem_ofPred_eq, Set.mem_sdiff, Set.mem_singleton_iff, Set.mem_ofPred_eq, Table.contains_erase_iff,
        and_comm]
    refine .of_table fun _ => ?_
    rw [htable]
    have hkey : w.table.sockets socketIdentifier = some (s.socketIdentifier, s.socket.socket) := by
      rw [table_sockets, hs]
      rfl
    exact .erase hkey

/-- A descriptor without a socket is not subscribed, so there is nothing to unsubscribe. -/
theorem unsubscribe_unmoved (hvalid : w.table.Valid r) {fd : FileDescriptor} (hfd : fd ≠ r)
    (hmap : w.fileDescriptorsToSockets[fd]? = none) :
    Program.Within Unmoved (onKernel (EventPoll.unsubscribe fd)) w := by
  have hsub : w.kernel.interestList[fd]? = none := by
    have hnot : ¬ w.kernel.interestList.contains fd = true := by
      intro hmem
      rcases hvalid.subscribed.mp hmem with heq | ⟨id, hid⟩
      · exact hfd heq
      · rw [show w.table.byDescriptor fd = none from hmap] at hid
        cases hid
    rw [Table.contains_eq] at hnot
    simpa using hnot
  refine onKernel_unmoved ?_
  obtain ⟨script, hunsubscribe | hunsubscribe⟩ := unsubscribe_cases fd w.kernel
  · refine .of_ok hunsubscribe ?_
    rw [Table.erase_of_absent hsub]
    exact ⟨rfl, rfl, rfl⟩
  · exact .of_ok hunsubscribe ⟨rfl, rfl, rfl⟩

theorem evolves_lifecycle : Lifecycle (Evolves (υ := υ) r) where
  kernel _ _ hnothing := leftNothing_evolves hnothing
  user _ _ := Unmoved.evolves (.of_sockets rfl rfl (refl_of Idle _))
  notified _ _ _ _ := Unmoved.evolves (record_unmoved _)
  numbered _ _ := Unmoved.evolves (.of_sockets rfl rfl (refl_of Idle _))
  inserted _ _ _ _ _ _ events hopened _ := insertSocket_evolves hopened events
  removed _ id := removeSocket_evolves id

theorem handleConnectingSocketEvents_keeps (socket : SocketIdentifier) :
    Program.Within Keeps (handleConnectingSocketEvents socket) w := by
  refine .bind (dereference_within socket) fun s t _ => ?_
  refine .bind (onKernel_keeps (setEvents_alike _ _ _)) fun _ u _ => ?_
  refine .bind (.modify (.updateSocket _ _ fun _ _ => rfl)) fun _ v _ => ?_
  exact Unmoved.keeps (notify_unmoved _ _ _)

section Reading

variable [Ballotin] (registry : ProtocolRegistry)

theorem readWithItsReader_unmoved (socket : SocketIdentifier) :
    Program.Within Unmoved (readWithItsReader registry socket) w := by
  refine .bind (dereference_within socket) fun s t _ => ?_
  split_ifs
  · exact .bind (getSocketOrThrow_within _) fun id u _ => readInboundBytes_unmoved registry id socket
  · exact readInboundBytes_unmoved registry socket socket

theorem evolves_handling (socket : SocketIdentifier) : Handling registry socket (Evolves (υ := υ) r) where
  toHousekeeping := evolves_lifecycle.housekeeping
  received _ _ := Unmoved.evolves (.updateSocket _ _ fun _ => rfl)
  read _ := unmoved_evolves (readWithItsReader_unmoved registry socket)
  sent _ bytes := within_evolves (sendBytesTo_keeps socket bytes)
  answered _ := Unmoved.evolves (.updateSocket _ _ fun _ => rfl)
  connecting _ _ _ _ := within_evolves (handleConnectingSocketEvents_keeps socket)

/-- Only the descriptor of the task queue must not be passed to `handleSocketEvents`. -/
theorem handleSocketEvents_evolves {fd : FileDescriptor} (hfd : fd ≠ r) (events : UInt32) :
    Program.Within (Evolves r) (handleSocketEvents registry fd events) w := by
  refine .get_bind ?_
  cases hmap : w.fileDescriptorsToSockets[fd]? with
  | some socket =>
    refine .bind (dereference_within socket) fun s t _ => ?_
    exact .tryCatchAll ((evolves_handling registry socket).handleSocketEventsWork events)
      fun _ u _ => evolves_lifecycle.eraseSocket _
  | none => exact fun hvalid => Unmoved.evolves (unsubscribe_unmoved hvalid hfd hmap) hvalid

end Reading

end SocketContainer

end Farseer.Linux
