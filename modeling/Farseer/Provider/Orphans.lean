import Farseer.Provider.Startup

/-! What an accepted socket refers to. Its listening socket may leave before it does, and then has told
its own user so; the next receive of the accepted socket finds no reader, and it leaves as well. -/

namespace Farseer

variable {υ : Type}

/-- The listening socket of a client was inserted to listen. If it is gone, its user knows. -/
theorem Roster.Told.listener {m : Roster υ} (h : m.Told) (hdistinct : DistinctIdentifiers m.history)
    {id listener : SocketIdentifier} (hrole : m.role id = some (.accepted listener)) :
    m.role listener = some .listening ∧ .socketInserted listener .listen ∈ m.history ∧ m.Answered listener := by
  obtain ⟨hlistening, -⟩ := h.accepted id listener hrole
  obtain ⟨origin, hmem, hallows⟩ := roleOf_inserted (show roleOf listener m.history = some .listening from hlistening)
  rw [show origin = .listen from hallows] at hmem
  exact ⟨hlistening, hmem, h.answered hdistinct (.inl hmem)⟩

namespace Linux

/-- A socket whose listening socket is gone; nothing has happened since `w₀`. -/
structure Orphaned (id listener : SocketIdentifier) (w₀ w : World υ) : Prop where
  socket : ∃ s, w.sockets[id]? = some s ∧ s.listeningSocketIdentifier = listener
  gone : w.sockets[listener]? = none
  history : w.history = w₀.history
  user : w.user = w₀.user

/-- A socket has left; no frame was read, and nobody was called. -/
structure Dismissed (id : SocketIdentifier) (w₀ w : World υ) : Prop where
  absent : w.sockets[id]? = none
  history : w.history = w₀.history
  user : w.user = w₀.user

open SocketContainer

variable {w w₀ : World υ} {id listener : SocketIdentifier}

theorem Orphaned.kernel (h : Orphaned id listener w₀ w) (kernel : Kernel) :
    Orphaned id listener w₀ { w with kernel } := ⟨h.socket, h.gone, h.history, h.user⟩

theorem Orphaned.updateSocket (h : Orphaned id listener w₀ w) {f : Socket υ → Socket υ}
    (hf : ∀ s, (f s).listeningSocketIdentifier = s.listeningSocketIdentifier) :
    Orphaned id listener w₀ (w.updateSocket id f) := by
  obtain ⟨⟨s, hs, hlistener⟩, hgone, hhistory, huser⟩ := h
  have hne : id ≠ listener := by
    rintro rfl
    rw [hs] at hgone
    cases hgone
  refine ⟨⟨f s, ?_, (hf s).trans hlistener⟩, ?_, hhistory, huser⟩
  · change (w.sockets.modify id f)[id]? = _
    rw [Table.lookup_modify, if_pos rfl, hs]
    rfl
  · change (w.sockets.modify id f)[listener]? = _
    rw [Table.lookup_modify, if_neg hne]
    exact hgone

theorem Orphaned.erase (h : Orphaned id listener w₀ w) (hvalid : listener ≠ invalidSocketIdentifier) :
    Program.Ends (fun _ t => Dismissed id w₀ t) (fun _ => False) (eraseSocket id) w := by
  obtain ⟨⟨s, hs, rfl⟩, hgone, hhistory, huser⟩ := h
  have hnotify : notifyClosed id s w = .ok () w := by
    rw [notifyClosed, if_pos hvalid, Program.bind_ok Program.get_apply, hgone]
    rfl
  obtain ⟨script, hremoved⟩ := removeSocket_eq hs
  refine .of_ok (eraseSocket_some hs) ?_
  rw [hnotify, Program.final, hremoved]
  refine ⟨?_, hhistory, huser⟩
  change (w.sockets.erase id)[id]? = none
  rw [Table.lookup_erase, if_pos rfl]

variable [Ballotin] (registry : ProtocolRegistry)

/-- There is no reader for the bytes that were received. -/
theorem Orphaned.read (h : Orphaned id listener w₀ w) (hvalid : listener ≠ invalidSocketIdentifier) :
    Program.Ends (fun _ _ => False) (Orphaned id listener w₀) (readWithItsReader registry id) w := by
  obtain ⟨s, hs, rfl⟩ := h.socket
  refine .bind_ok (dereference_some hs) ?_
  rw [if_pos hvalid]
  rcases getSocketOrThrow_cases s.listeningSocketIdentifier w with ⟨hcontains, -⟩ | ⟨e, -, herror⟩
  · rw [Table.contains_eq, h.gone] at hcontains
    cases hcontains
  · exact .bind_error herror h

theorem Orphaned.readable (h : Orphaned id listener w₀ w) (hvalid : listener ≠ invalidSocketIdentifier) :
    Program.Ends (fun _ _ => False) (Orphaned id listener w₀) (handleReadable registry id) w := by
  obtain ⟨s, hs, -⟩ := h.socket
  refine .bind_ok (dereference_some hs) ?_
  cases hreceive : s.socket.receiveBytes w.kernel with
  | error e kernel => exact .bind_error (onKernel_error hreceive) (h.kernel kernel)
  | ok received kernel =>
    refine .bind_ok (onKernel_ok hreceive) (.bind_ok (Program.modify_apply _) ?_)
    have hread := ((h.kernel kernel).updateSocket (f := fun s => { s with inboundBytes := s.inboundBytes ++ received.1 })
      fun _ => rfl).read registry hvalid
    exact .bind hread fun _ _ _ hfalse => hfalse.elim

/-- The next bytes that are received on an accepted socket whose listening socket is gone are its last. -/
theorem handleSocketEvents_orphan {r : FileDescriptor} (hconsistent : w.Consistent r) {s : Socket υ}
    (hs : w.sockets[id]? = some s) (htype : s.socket.socketType = .accepted)
    (hvalid : s.listeningSocketIdentifier ≠ invalidSocketIdentifier)
    (hgone : w.sockets[s.listeningSocketIdentifier]? = none) {events : UInt32}
    (hevents : hasEvent events EPOLLIN = true) :
    Dismissed id w (Program.final (handleSocketEvents registry s.socket.socket events w)) := by
  have horphan : Orphaned id s.listeningSocketIdentifier w w := ⟨⟨s, hs, rfl⟩, hgone, rfl, rfl⟩
  have hmapped : w.fileDescriptorsToSockets[s.socket.socket]? = some id :=
    (hconsistent.descriptors _ id).mpr ⟨s, hs, rfl⟩
  rw [handleSocketEvents, Program.bind_ok Program.get_apply, hmapped]
  change Dismissed id w (Program.final ((dereference id >>= _) w))
  rw [Program.bind_ok (dereference_some hs), hconsistent.identifiers id s hs]
  refine Program.Ends.tryCatchAll (E := Orphaned id s.listeningSocketIdentifier w) ?_ fun t ht => ?_
  · refine .bind_ok (dereference_some hs) ?_
    rw [hconsistent.identifiers id s hs]
    split_ifs
    · exact (horphan.erase hvalid).mono (fun _ _ h => h) fun _ hfalse => hfalse.elim
    · exact (horphan.erase hvalid).mono (fun _ _ h => h) fun _ hfalse => hfalse.elim
    · rw [htype]
      unfold handleSocketEventsOf handleConnectedSocketEvents
      rw [if_pos hevents]
      exact .bind (horphan.readable registry hvalid) fun _ _ _ hfalse => hfalse.elim
  · have herased := ht.erase hvalid
    unfold Program.Ends at herased
    cases hrun : eraseSocket id t with
    | ok _ u =>
      rw [hrun] at herased
      exact herased
    | error e u =>
      rw [hrun] at herased
      exact herased.elim

end Linux

namespace Windows

open SocketContainer

structure Orphaned (id listener : SocketIdentifier) (w₀ w : World υ) : Prop where
  socket : ∃ s, w.sockets[id]? = some s ∧ s.listeningSocketIdentifier = listener ∧ s.pendingAccept = false
  gone : w.sockets[listener]? = none
  history : w.history = w₀.history
  user : w.user = w₀.user

structure Dismissed (id : SocketIdentifier) (w₀ w : World υ) : Prop where
  absent : w.sockets[id]? = none
  history : w.history = w₀.history
  user : w.user = w₀.user

variable {w w₀ : World υ} {id listener : SocketIdentifier}

theorem Orphaned.updateSocket (h : Orphaned id listener w₀ w) {f : Socket υ → Socket υ}
    (hf : ∀ s, (f s).listeningSocketIdentifier = s.listeningSocketIdentifier ∧ (f s).pendingAccept = s.pendingAccept) :
    Orphaned id listener w₀ (w.updateSocket id f) := by
  obtain ⟨⟨s, hs, hlistener, haccepted⟩, hgone, hhistory, huser⟩ := h
  have hne : id ≠ listener := by
    rintro rfl
    rw [hs] at hgone
    cases hgone
  refine ⟨⟨f s, ?_, (hf s).1.trans hlistener, (hf s).2.trans haccepted⟩, ?_, hhistory, huser⟩
  · change (w.sockets.modify id f)[id]? = _
    rw [Table.lookup_modify, if_pos rfl, hs]
    rfl
  · change (w.sockets.modify id f)[listener]? = _
    rw [Table.lookup_modify, if_neg hne]
    exact hgone

theorem Orphaned.erase (h : Orphaned id listener w₀ w) (hvalid : listener ≠ invalidSocketIdentifier) :
    Dismissed id w₀ (erased id w) := by
  obtain ⟨⟨s, hs, rfl, haccepted⟩, hgone, hhistory, huser⟩ := h
  have hnot : ¬ w.sockets.contains s.listeningSocketIdentifier = true := by
    rw [Table.contains_eq, hgone]
    exact Bool.false_ne_true
  have hnotify : notifyClosed id s w = .ok () w := by
    rw [notifyClosed, haccepted, if_neg Bool.false_ne_true, if_pos hvalid, Program.bind_ok Program.get_apply,
      if_neg hnot]
    rfl
  rw [erased, eraseSocket_some hs, hnotify]
  refine ⟨?_, hhistory, huser⟩
  change (w.sockets.erase id)[id]? = none
  rw [Table.lookup_erase, if_pos rfl]

variable [Ballotin] (registry : ProtocolRegistry)

theorem Orphaned.execute (h : Orphaned id listener w₀ w) (hvalid : listener ≠ invalidSocketIdentifier)
    (bytes : List UInt8) :
    Program.Ends (fun operation t => operation = none ∧ Dismissed id w₀ t) (Orphaned id listener w₀)
      (ReceiveSystemOperation.execute registry id bytes) w := by
  unfold ReceiveSystemOperation.execute
  split_ifs
  · exact .bind_ok (eraseSocket_ok id w) (.of_ok rfl ⟨rfl, h.erase hvalid⟩)
  · exact .of_error rfl h
  · obtain ⟨s, hs, hlistener, -⟩ := h.socket
    have hget : getSocketOrThrow id w = .ok id w := by
      rcases getSocketOrThrow_cases id w with ⟨-, -, hok⟩ | ⟨e, hnone, -⟩
      · exact hok
      · rw [hs] at hnone
        cases hnone
    have hreceived := h.updateSocket (f := fun s => { s with inboundBytes := s.inboundBytes ++ bytes })
      fun _ => ⟨rfl, rfl⟩
    refine .bind_ok hget (.bind_ok (dereference_some hs) (.bind_ok (Program.modify_apply _) ?_))
    -- there is no reader for the bytes
    rw [hlistener, readWithItsReader, if_pos hvalid]
    rcases getSocketOrThrow_cases listener (w.updateSocket id fun s => { s with inboundBytes := s.inboundBytes ++ bytes })
      with ⟨t, ht, -⟩ | ⟨e, -, herror⟩
    · rw [hreceived.gone] at ht
      cases ht
    · exact .bind_error (Program.bind_error herror) hreceived

/-- However the next receive of an accepted socket completes whose listening socket is gone, it is its last. -/
theorem consumeOperation_orphan {s : Socket υ} (hs : w.sockets[id]? = some s) (haccepted : s.pendingAccept = false)
    (hvalid : s.listeningSocketIdentifier ≠ invalidSocketIdentifier)
    (hgone : w.sockets[s.listeningSocketIdentifier]? = none) (completion : Completion)
    (before after : List (Operation υ)) :
    Dismissed id w (OperationScheduler.consumeOperation registry (.receive id) completion
      (OperationScheduler.dequeued before after w)) := by
  have horphan : Orphaned id s.listeningSocketIdentifier w (OperationScheduler.dequeued before after w) :=
    ⟨⟨s, hs, rfl, haccepted⟩, hgone, rfl, rfl⟩
  cases completion with
  | failed errorCode => exact horphan.erase hvalid
  | succeeded transferred =>
    have hexecuted := horphan.execute registry hvalid transferred
    unfold OperationScheduler.consumeOperation OperationScheduler.handleSuccessfulOperation
    dsimp only
    change Program.Ends _ _ (Operation.execute registry transferred (.receive id)) _ at hexecuted
    cases hrun : Operation.execute registry transferred (.receive id) (OperationScheduler.dequeued before after w) with
    | ok operation t =>
      obtain ⟨rfl, hdismissed⟩ := hexecuted.ok hrun
      exact hdismissed
    | error e t => exact (hexecuted.error hrun).erase hvalid

end Windows

/-- Between any two steps of any run in which identifiers do not repeat (on Windows, until the
scheduler drains): an accepted socket refers to a socket that was inserted to listen. That is still
there and listens, or it has left and its user was told once that it closed; then the next receive of
the accepted socket reads no frame and calls nobody, and the accepted socket leaves. -/
theorem acceptedSockets_refer [Ballotin] (registry : ProtocolRegistry) (id : SocketIdentifier) :
    (∀ l : Linux.EventLoop υ, l.Reachable registry → DistinctIdentifiers l.world.history →
      ∀ s : Linux.Socket υ, l.world.sockets[id]? = some s →
        s.listeningSocketIdentifier ≠ invalidSocketIdentifier →
        .socketInserted s.listeningSocketIdentifier .listen ∈ l.world.history ∧
        ((∃ p, l.world.sockets[s.listeningSocketIdentifier]? = some p ∧ p.socket.socketType = .listening) ∨
          l.world.sockets[s.listeningSocketIdentifier]? = none ∧
          (l.world.roster.word s.listeningSocketIdentifier).count (.serverClosed, s.listeningSocketIdentifier) = 1 ∧
          ∀ events, Linux.hasEvent events Linux.EPOLLIN = true → Linux.Dismissed id l.world
            (Program.final (Linux.SocketContainer.handleSocketEvents registry s.socket.socket events l.world)))) ∧
    ∀ l : Windows.OperationScheduler υ, l.Reachable registry → l.draining = false →
      DistinctIdentifiers l.world.history →
      ∀ s : Windows.Socket υ, l.world.sockets[id]? = some s →
        s.listeningSocketIdentifier ≠ invalidSocketIdentifier → s.pendingAccept = false →
        .socketInserted s.listeningSocketIdentifier .listen ∈ l.world.history ∧
        ((∃ p, l.world.sockets[s.listeningSocketIdentifier]? = some p ∧ p.socket.acceptFunction = true) ∨
          l.world.sockets[s.listeningSocketIdentifier]? = none ∧
          (l.world.roster.word s.listeningSocketIdentifier).count (.serverClosed, s.listeningSocketIdentifier) = 1 ∧
          ∀ (before after : List (Windows.Operation υ)) (completion : Windows.Completion),
            Windows.Dismissed id l.world (l.consumed registry before after (.receive id) completion).world) := by
  constructor
  · intro l hl hdistinct s hs hvalid
    obtain ⟨hcast, -⟩ := hl.follows hdistinct
    obtain ⟨-, hplays⟩ := hcast id s hs
    have haccepted : s.socket.socketType = .accepted ∧
        l.world.roster.role id = some (.accepted s.listeningSocketIdentifier) := by
      unfold Linux.Socket.Plays at hplays
      cases htype : s.socket.socketType with
      | unbound => simp [htype] at hplays
      | accepted =>
        rw [htype] at hplays
        exact ⟨rfl, hplays.1⟩
      | listening | connecting | connected =>
        rw [htype] at hplays
        exact absurd hplays.2 hvalid
    obtain ⟨hlistening, hinserted, hanswered⟩ := (hl.told hdistinct).listener hdistinct haccepted.2
    refine ⟨hinserted, ?_⟩
    cases hp : l.world.sockets[s.listeningSocketIdentifier]? with
    | some p =>
      obtain ⟨-, hplays'⟩ := hcast _ p hp
      rw [show roleOf s.listeningSocketIdentifier l.world.history = some .listening from hlistening] at hplays'
      refine .inl ⟨p, rfl, ?_⟩
      unfold Linux.Socket.Plays at hplays'
      split at hplays' <;> simp_all
    | none =>
      have hconsistent := Linux.EventLoop.Reachable.consistent hl
      refine .inr ⟨rfl, hanswered.resolve_left (by simp [Linux.SocketContainer.roster_absent hp]), fun events hevents => ?_⟩
      exact Linux.handleSocketEvents_orphan registry hconsistent hs haccepted.1 hvalid hp hevents
  · intro l hl hdraining hdistinct s hs hvalid hpending
    have haccounts := hl.accounts hdraining hdistinct
    obtain ⟨role, hrole, ⟨hkind, -⟩, -⟩ := haccounts.cast id s hs
    have haccepted : role = .accepted s.listeningSocketIdentifier := by
      simp only [Windows.Socket.kind] at hkind
      cases role with
      | accepted listener =>
        simp only [Windows.kindOf, Prod.mk.injEq] at hkind
        rw [hkind.2.1]
      | pending => simp [Windows.kindOf, hpending] at hkind
      | opening | listening | connecting | connected => exact absurd (congrArg (·.2.1) hkind) hvalid
    rw [haccepted] at hrole
    obtain ⟨hlistening, hinserted, hanswered⟩ := (haccounts.steps.told hdistinct).listener hdistinct hrole
    refine ⟨hinserted, ?_⟩
    cases hp : l.world.sockets[s.listeningSocketIdentifier]? with
    | some p =>
      obtain ⟨role', hrole', ⟨hkind', -⟩, -⟩ := haccounts.cast _ p hp
      rw [show roleOf s.listeningSocketIdentifier l.world.history = some .listening from hlistening] at hrole'
      cases hrole'
      exact .inl ⟨p, rfl, congrArg (·.2.2) hkind'⟩
    | none =>
      refine .inr ⟨rfl, hanswered.resolve_left (by simp [Windows.roster_absent hp]), fun before after completion => ?_⟩
      exact Windows.consumeOperation_orphan registry hs hpending hvalid hp completion before after

/-- A Linux provider whose listening socket is about to accept the client 2. -/
def listeningLoop : Linux.EventLoop Unit :=
  ((Linux.EventLoop.new 3 4 ()).withScript
    { identifiersTaken := [1], accepts := [.accepted 9 (.address "127.0.0.1" 50000)] }).performed Linux.emptyRegistry
      [.listen 1 "127.0.0.1" 8080 Linux.silent] []

def acceptEvent : Linux.EpollEvent := { fileDescriptor := 8, events := Linux.EPOLLIN }

def orphanLoop : Linux.EventLoop Unit :=
  let _ := referenceBallotin
  let l := ({ listeningLoop with control := .waiting }.waited [acceptEvent]).handled Linux.emptyRegistry acceptEvent []
  { l with control := .waiting }.performed Linux.emptyRegistry [.close 1] []

theorem orphanLoop_reachable :
    @Linux.EventLoop.Reachable Unit referenceBallotin Linux.emptyRegistry orphanLoop := by
  let _ := referenceBallotin
  have hstart := (Linux.EventLoop.Run.initial (R := Linux.EventLoop.Step Linux.emptyRegistry)
    (Linux.EventLoop.new_initial 3 4 ())).step
      (.outcomes _ { identifiersTaken := [1], accepts := [.accepted 9 (.address "127.0.0.1" 50000)] })
  have hlistening : listeningLoop.Reachable Linux.emptyRegistry :=
    Linux.EventLoop.performed_reachable hstart rfl rfl _ []
      ⟨by decide, by decide, fun e he => by rw [List.mem_singleton.mp he]; decide⟩
  have hwaiting := hlistening.step (.batchDone _ rfl)
  have hwaited := hwaiting.step (.wait _ [acceptEvent] rfl
    ⟨by decide, by decide, fun e he => by rw [List.mem_singleton.mp he]; decide⟩)
  have haccepted := (hwaited.step (.socketEvents _ acceptEvent [] rfl (by decide))).step (.batchDone _ rfl)
  exact Linux.EventLoop.performed_reachable haccepted rfl rfl _ []
    ⟨by decide, by decide, fun e he => by rw [List.mem_singleton.mp he]; decide⟩

/-- A Windows provider has accepted the client 2 and closed its listening socket 1. -/
def orphanScheduler : Windows.OperationScheduler Unit :=
  let _ := referenceBallotin
  ((((Windows.OperationScheduler.new ()).withScript { identifiersTaken := [1] }).scheduled
    (.listen 1 "127.0.0.1" 8080 Linux.silent)).consumed Linux.emptyRegistry [] []
      (.listen 1 "127.0.0.1" 8080 Linux.silent) (.succeeded [])).consumed Linux.emptyRegistry [] []
        (.accept 1 2) (.succeeded []) |>.scheduled (.close 1) |>.consumed Linux.emptyRegistry
          [.accept 1 3, .receive 2] [] (.close 1) (.succeeded [])

theorem orphanScheduler_reachable :
    @Windows.OperationScheduler.Reachable Unit referenceBallotin Linux.emptyRegistry orphanScheduler := by
  let _ := referenceBallotin
  have hlistening := ((Windows.OperationScheduler.Run.initial
    (R := Windows.OperationScheduler.Step Linux.emptyRegistry) ()).step
      (.outcomes _ { identifiersTaken := [1] })).step
        (.schedule _ (.listen 1 "127.0.0.1" 8080 Linux.silent) rfl rfl)
  have hopened := hlistening.step (.consume _ [] [] _ (.succeeded []) rfl rfl fun _ => rfl)
  have haccepted := hopened.step (.consume _ [] [] (.accept 1 2) (.succeeded []) rfl rfl fun _ => rfl)
  have hclosing := haccepted.step (.schedule _ (.close 1) rfl rfl)
  exact hclosing.step (.consume _ [.accept 1 3, .receive 2] [] (.close 1) (.succeeded []) rfl rfl fun _ => rfl)

/-- Neither container erases the accepted sockets of a listening socket with it. -/
theorem orphans_outlive :
    (¬ ∀ (registry : ProtocolRegistry) (l : Linux.EventLoop Unit),
      @Linux.EventLoop.Reachable Unit referenceBallotin registry l → DistinctIdentifiers l.world.history →
      ∀ (id : SocketIdentifier) (s : Linux.Socket Unit), l.world.sockets[id]? = some s →
        s.listeningSocketIdentifier ≠ invalidSocketIdentifier →
        l.world.sockets.contains s.listeningSocketIdentifier = true) ∧
    ¬ ∀ (registry : ProtocolRegistry) (l : Windows.OperationScheduler Unit),
      @Windows.OperationScheduler.Reachable Unit referenceBallotin registry l → l.draining = false →
      DistinctIdentifiers l.world.history →
      ∀ (id : SocketIdentifier) (s : Windows.Socket Unit), l.world.sockets[id]? = some s →
        s.listeningSocketIdentifier ≠ invalidSocketIdentifier → s.pendingAccept = false →
        l.world.sockets.contains s.listeningSocketIdentifier = true := by
  constructor
  · intro hclaim
    have hcontains := hclaim Linux.emptyRegistry orphanLoop orphanLoop_reachable (by decide) 2
      (orphanLoop.world.sockets[2]?.get (by decide)) (Option.some_get _).symm (by decide)
    exact absurd hcontains (by decide)
  · intro hclaim
    have hcontains := hclaim Linux.emptyRegistry orphanScheduler orphanScheduler_reachable rfl (by decide) 2
      (orphanScheduler.world.sockets[2]?.get (by decide)) (Option.some_get _).symm (by decide) (by decide)
    exact absurd hcontains (by decide)

theorem orphans_refer :
    let _ := referenceBallotin
    Linux.Dismissed 2 orphanLoop.world (Program.final
      (Linux.SocketContainer.handleSocketEvents Linux.emptyRegistry 9 Linux.EPOLLIN orphanLoop.world)) ∧
    Windows.Dismissed 2 orphanScheduler.world (orphanScheduler.consumed Linux.emptyRegistry [.accept 1 3] []
      (.receive 2) (.succeeded [1, 2, 3])).world := by
  let _ := referenceBallotin
  obtain ⟨hlinux, hwindows⟩ := acceptedSockets_refer (υ := Unit) Linux.emptyRegistry 2
  constructor
  · obtain ⟨-, ⟨p, hp, -⟩ | ⟨-, -, hdismissed⟩⟩ := hlinux orphanLoop orphanLoop_reachable (by decide)
      (orphanLoop.world.sockets[2]?.get (by decide)) (Option.some_get _).symm (by decide)
    · exact absurd (Option.isSome_iff_exists.mpr ⟨p, hp⟩) (by decide)
    · exact hdismissed Linux.EPOLLIN (by decide)
  · obtain ⟨-, ⟨p, hp, -⟩ | ⟨-, -, hdismissed⟩⟩ := hwindows orphanScheduler orphanScheduler_reachable rfl (by decide)
      (orphanScheduler.world.sockets[2]?.get (by decide)) (Option.some_get _).symm (by decide) (by decide)
    · exact absurd (Option.isSome_iff_exists.mpr ⟨p, hp⟩) (by decide)
    · exact hdismissed [.accept 1 3] [] (.succeeded [1, 2, 3])

end Farseer
