import Farseer.Linux.Consistency

/-! One readiness event of a listening socket. The accept loop takes clients until `::accept4` would block. Whatever
fails on the way is caught where the failures of every other event are, and there the listening socket is erased. -/

namespace Farseer.Linux

variable {υ : Type} {r : FileDescriptor}

theorem subscribe_run {k : Kernel} {fd : FileDescriptor} (hopen : k.descriptors.contains fd = true)
    (hsub : k.interestList[fd]? = none) (events : UInt32) :
    ((∀ e, k.script.controls.head? ≠ some (.failure e)) ∧ EventPoll.subscribe fd events k =
        .ok () { k with
          interestList := k.interestList.insert fd events
          script := { k.script with controls := k.script.controls.tail } }) ∨
      ¬ (∀ e, k.script.controls.head? ≠ some (.failure e)) ∧ ∃ e k', EventPoll.subscribe fd events k = .error e k' := by
  have hfree : k.interestList.contains fd = false := by rw [Table.contains_eq, hsub]; rfl
  have hstep : EventPoll.subscribe fd events k = _ :=
    (Program.bind_ok (drawControl_eq k)).trans (Program.bind_ok Program.get_apply)
  rw [hstep]
  cases hcontrols : k.script.controls with
  | nil =>
    refine .inl ⟨by simp, ?_⟩
    simp only [List.headD_nil, hopen, hfree]
    rfl
  | cons outcome rest =>
    cases outcome with
    | success =>
      refine .inl ⟨by simp, ?_⟩
      simp only [List.headD_cons, hopen, hfree]
      rfl
    | failure e => exact .inr ⟨fun h => h e rfl, _, _, rfl⟩

namespace SocketContainer

variable {w : World υ}

/-- A socket on a new descriptor is inserted exactly if its identifier is free and it can be subscribed. -/
theorem insertSocket_run (socket : Socket υ) (events : UInt32)
    (hopen : w.kernel.descriptors.contains socket.socket.socket = true)
    (hsub : w.kernel.interestList[socket.socket.socket]? = none)
    (hmap : w.fileDescriptorsToSockets[socket.socket.socket]? = none) :
    ((w.sockets.contains socket.socketIdentifier = false ∧ ∀ e, w.kernel.script.controls.head? ≠ some (.failure e)) ∧
        insertSocket events socket w = .ok socket.socketIdentifier (inserted events socket
          { w.kernel.script with controls := w.kernel.script.controls.tail } w)) ∨
      ¬ (w.sockets.contains socket.socketIdentifier = false ∧ ∀ e, w.kernel.script.controls.head? ≠ some (.failure e)) ∧
        ∃ e w', insertSocket events socket w = .error e w' := by
  have hunmapped : ¬ w.fileDescriptorsToSockets.contains socket.socket.socket = true := by
    rw [Table.contains_eq, hmap]
    exact Bool.false_ne_true
  rw [insertSocket, Program.bind_ok Program.get_apply]
  cases hid : w.sockets.contains socket.socketIdentifier with
  | true => exact .inr ⟨fun h => (by cases h.1), _, _, rfl⟩
  | false =>
    rw [if_neg Bool.false_ne_true, Program.bind_ok (Program.set_apply _), Program.scopeFailure, insertDescriptor,
      Program.bind_ok Program.get_apply]
    dsimp only
    rw [if_neg hunmapped, Program.bind_ok (Program.set_apply _), Program.scopeFailure, subscribeSocket]
    rcases subscribe_run hopen hsub events with ⟨hcontrols, hok⟩ | ⟨hcontrols, e, k', herror⟩
    · refine .inl ⟨⟨rfl, hcontrols⟩, ?_⟩
      rw [Program.bind_ok (by rw [onKernel, Program.zoom, hok]), Program.bind_ok (Program.modify_apply _)]
      rfl
    · rw [Program.bind_error (by rw [onKernel, Program.zoom, herror])]
      exact .inr ⟨fun h => hcontrols h.2, _, _, rfl⟩

end SocketContainer

def RemoteAddress.isReadable : RemoteAddress → Bool
  | .address .. => true
  | .tooLong | .unreadable _ => false

/-- What the turns of the accept loop draw on. -/
structure Accepting (υ : Type) where
  controls : List Outcome
  identifiersTaken : List ℕ
  nextSocketIdentifier : SocketIdentifier
  present : SocketIdentifier → Bool
  user : υ

namespace Accepting

def identifier (a : Accepting υ) : SocketIdentifier :=
  (a.nextSocketIdentifier + a.identifiersTaken.headD 0) % 2 ^ 64

def after (a : Accepting υ) (user : υ) : Accepting υ where
  controls := a.controls.tail
  identifiersTaken := a.identifiersTaken.tail
  nextSocketIdentifier := (a.identifier + 1) % 2 ^ 64
  present := fun id => id == a.identifier || a.present id
  user := user

/-- The identifier of the client is free, its descriptor can be subscribed, and the callback does not throw when it is
told. -/
def Joins (a : Accepting υ) (callback : ConnectionCallback υ) (user : υ) : Prop :=
  a.present a.identifier = false ∧ (∀ e, a.controls.head? ≠ some (.failure e)) ∧
    callback .clientOpen a.identifier a.user = .ok () user

/-- Nothing fails before `::accept4` would block: every outcome is a client whose address can be read and who joins. -/
def AllAccepted (callback : ConnectionCallback υ) : List AcceptOutcome → Accepting υ → Prop
  | [], _ => True
  | .wouldBlock :: _, _ => True
  | .failure _ :: _, _ => False
  | .accepted _ remoteAddress :: outcomes, a =>
    remoteAddress.isReadable = true ∧ ∃ user, a.Joins callback user ∧ AllAccepted callback outcomes (a.after user)

end Accepting

def World.accepting (w : World υ) : Accepting υ where
  controls := w.kernel.script.controls
  identifiersTaken := w.kernel.script.identifiersTaken
  nextSocketIdentifier := w.nextSocketIdentifier
  present := fun id => w.sockets.contains id
  user := w.user

/-- All sockets and all subscriptions are still there, and so is every client that was inserted. -/
structure Joined (w w' : World υ) : Prop where
  sockets : ∀ (id : SocketIdentifier) (s : Socket υ), w.sockets[id]? = some s → w'.sockets[id]? = some s
  subscribed : ∀ fd : FileDescriptor, w.kernel.interestList.contains fd = true → w'.kernel.interestList.contains fd = true
  clients : ∃ events, w'.history = w.history ++ events ∧ ∀ (id : SocketIdentifier) (origin : SocketOrigin),
    ContainerEvent.socketInserted id origin ∈ events → w'.sockets.contains id = true

theorem Joined.of_same {w w' : World υ} (hsockets : w'.sockets = w.sockets)
    (hsubscribed : w'.kernel.interestList = w.kernel.interestList) (hhistory : w'.history = w.history) : Joined w w' where
  sockets _ _ hs := by rw [hsockets, hs]
  subscribed _ hfd := by rw [hsubscribed, hfd]
  clients := ⟨[], by rw [hhistory, List.append_nil], fun _ _ h => absurd h List.not_mem_nil⟩

theorem Joined.contains {w w' : World υ} (h : Joined w w') {id : SocketIdentifier}
    (hid : w.sockets.contains id = true) : w'.sockets.contains id = true := by
  rw [Table.contains_eq] at hid ⊢
  obtain ⟨s, hs⟩ := Option.isSome_iff_exists.mp hid
  rw [h.sockets id s hs]
  rfl

theorem Joined.trans {w w' w'' : World υ} (h : Joined w w') (h' : Joined w' w'') : Joined w w'' := by
  obtain ⟨events, hevents, hclients⟩ := h.clients
  obtain ⟨events', hevents', hclients'⟩ := h'.clients
  refine ⟨fun id s hs => h'.sockets id s (h.sockets id s hs), fun fd hfd => h'.subscribed fd (h.subscribed fd hfd),
    events ++ events', by rw [hevents', hevents, List.append_assoc], fun id origin hmem => ?_⟩
  rcases List.mem_append.mp hmem with hbefore | hafter
  · exact h'.contains (hclients id origin hbefore)
  · exact hclients' id origin hafter

namespace SocketContainer

variable {w : World υ} {socket : SocketIdentifier} {s : Socket υ}

theorem accept_listening {l : LinuxSocket} (hl : l.socketType = .listening) (k : Kernel) :
    l.accept k = LinuxSocket.acceptOutcome (k.script.accepts.headD .wouldBlock)
      { k with script := { k.script with accepts := k.script.accepts.tail } } := by
  have hdraw := draw_eq Script.accepts (fun accepts script => { script with accepts }) .wouldBlock (k := k)
    fun h => by rw [← h]
  rw [LinuxSocket.accept, if_neg (not_not.mpr hl), Program.bind_ok hdraw]

theorem generateSocketIdentifier_run (w : World υ) :
    generateSocketIdentifier w = .ok w.accepting.identifier { w with
      kernel := { w.kernel with script := { w.kernel.script with
        identifiersTaken := w.kernel.script.identifiersTaken.tail } }
      nextSocketIdentifier := (w.accepting.identifier + 1) % 2 ^ 64 } := by
  have hdraw := draw_eq Script.identifiersTaken (fun identifiersTaken script => { script with identifiersTaken }) 0
    (k := w.kernel) fun h => by rw [← h]
  rw [generateSocketIdentifier, Program.bind_ok (onKernel_ok hdraw)]
  rfl

theorem insertAccepted_run (hconsistent : w.Consistent r) (hs : w.sockets[socket]? = some s) {k' : Kernel}
    {candidate : LinuxSocket} (hnew : LinuxSocket.New .accepted w.kernel k' candidate) :
    (∃ user w', ({ w with kernel := k' } : World υ).accepting.Joins s.connectionCallback user ∧
        insertAccepted socket candidate { w with kernel := k' } = .ok () w' ∧ Joined w w' ∧
        w'.kernel.script.accepts = k'.script.accepts ∧
        w'.accepting = ({ w with kernel := k' } : World υ).accepting.after user) ∨
      (¬ ∃ user, ({ w with kernel := k' } : World υ).accepting.Joins s.connectionCallback user) ∧
        ∃ e w', insertAccepted socket candidate { w with kernel := k' } = .error e w' := by
  obtain ⟨hopen, hsub, hmap⟩ := hconsistent.unused hnew.opened
  set t : World υ := { w with kernel := k' }
  set numbered : World υ := { t with
    kernel := { k' with script := { k'.script with identifiersTaken := k'.script.identifiersTaken.tail } }
    nextSocketIdentifier := (t.accepting.identifier + 1) % 2 ^ 64 }
  have hnumbered : insertAccepted socket candidate t = _ := (Program.bind_ok (generateSocketIdentifier_run t)).trans
    (Program.bind_ok (dereference_some (w := numbered) hs))
  rw [hnumbered]
  rcases insertSocket_run (w := numbered) (newSocket t.accepting.identifier s.socketIdentifier candidate noCallback)
      (EPOLLIN ||| EPOLLET) hopen hsub hmap with ⟨⟨hfree, hcontrols⟩, hinserted⟩ | ⟨hrefused, e, w', herror⟩
  · have hne : t.accepting.identifier ≠ socket := by
      intro heq
      have hthere : w.sockets.contains socket = true := by rw [Table.contains_eq, hs]; rfl
      have hfree' : w.sockets.contains t.accepting.identifier = false := hfree
      rw [heq, hthere] at hfree'
      cases hfree'
    set joined : World υ := inserted (EPOLLIN ||| EPOLLET)
      (newSocket t.accepting.identifier s.socketIdentifier candidate noCallback)
      { numbered.kernel.script with controls := numbered.kernel.script.controls.tail } numbered
    have hlistener : joined.sockets[socket]? = some s := by
      change (w.sockets.insert t.accepting.identifier _)[socket]? = some s
      rw [Table.lookup_insert, if_neg hne, hs]
    rw [Program.bind_ok hinserted, Program.bind_ok (dereference_some hlistener), notify,
      Program.bind_ok (Program.modify_apply _)]
    rw [onUser, Program.zoom, show (joined.record _).user = w.user from rfl]
    cases hcallback : s.connectionCallback .clientOpen t.accepting.identifier w.user with
    | ok _ user =>
      refine .inl ⟨user, _, ⟨hfree, hcontrols, hcallback⟩, rfl, ⟨fun id s' hs' => ?_, fun fd hfd => ?_, ?_⟩, rfl, ?_⟩
      · have hother : t.accepting.identifier ≠ id := by
          rintro rfl
          have hfree' : w.sockets.contains t.accepting.identifier = false := hfree
          rw [Table.contains_eq, hs'] at hfree'
          cases hfree'
        change (w.sockets.insert t.accepting.identifier _)[id]? = some s'
        rw [Table.lookup_insert, if_neg hother, hs']
      · refine Table.contains_insert_iff.mpr (.inr ?_)
        change k'.interestList.contains fd = true
        rw [hnew.opened.interestList, hfd]
      · refine ⟨[_, _], (List.append_assoc ..), fun id origin hmem => Table.contains_insert_iff.mpr (.inl ?_)⟩
        rcases List.mem_pair.mp hmem with hinsertion | hnotice
        · cases hinsertion
          rfl
        · cases hnotice
      · have hpresent : (fun id => (w.sockets.insert t.accepting.identifier (newSocket t.accepting.identifier
            s.socketIdentifier candidate noCallback)).contains id) =
            fun id => id == t.accepting.identifier || w.sockets.contains id := by
          funext id
          rw [Bool.eq_iff_iff, Table.contains_insert_iff]
          simp
        exact congrArg (fun present => (⟨_, _, _, present, _⟩ : Accepting υ)) hpresent
    | error e user =>
      refine .inr ⟨fun hjoins => ?_, e, _, rfl⟩
      obtain ⟨user', -, -, hjoins⟩ := hjoins
      rw [show t.accepting.user = w.user from rfl, hcallback] at hjoins
      cases hjoins
  · rw [Program.bind_error herror]
    refine .inr ⟨fun hjoins => ?_, e, w', rfl⟩
    obtain ⟨user, hfree, hcontrols, -⟩ := hjoins
    exact hrefused ⟨hfree, hcontrols⟩

def taken (accepts : List AcceptOutcome) (k : Kernel) : Kernel := { k with script := { k.script with accepts } }

theorem acceptOutcome_run (candidate : FileDescriptor) (remoteAddress : RemoteAddress) (k : Kernel) :
    (remoteAddress.isReadable = true ∧ ∃ l k', LinuxSocket.acceptOutcome (.accepted candidate remoteAddress) k =
        .ok (some l) k' ∧ LinuxSocket.New .accepted k k' l ∧ k'.script = k.script) ∨
      ¬ remoteAddress.isReadable = true ∧
        ∃ e k', LinuxSocket.acceptOutcome (.accepted candidate remoteAddress) k = .error e k' := by
  cases remoteAddress with
  | address ipAddress port =>
    exact .inl ⟨rfl, _, _, rfl, ⟨⟨k.freshDescriptor_free candidate, rfl, rfl, rfl⟩, rfl, rfl⟩, rfl⟩
  | tooLong | unreadable => exact .inr ⟨Bool.false_ne_true, _, _, rfl⟩

/-- The loop comes to its end exactly if nothing fails on the way. -/
theorem acceptLoop_run (hvalid : w.table.Valid r) (hs : w.sockets[socket]? = some s)
    (hlistening : s.socket.socketType = .listening) (outcomes : List AcceptOutcome)
    (houtcomes : w.kernel.script.accepts = outcomes) {fuel : ℕ} (hfuel : outcomes.length < fuel) :
    (Accepting.AllAccepted s.connectionCallback outcomes w.accepting ∧
        ∃ w', acceptLoop socket fuel w = .ok () w' ∧ Joined w w') ∨
      ¬ Accepting.AllAccepted s.connectionCallback outcomes w.accepting ∧
        ∃ e w', acceptLoop socket fuel w = .error e w' := by
  induction outcomes generalizing w fuel with
  | nil =>
    obtain ⟨fuel, rfl⟩ := Nat.exists_eq_add_one.mpr hfuel
    have haccept := accept_listening hlistening w.kernel
    rw [houtcomes] at haccept
    refine .inl ⟨trivial, _, (Program.bind_ok (dereference_some hs)).trans (Program.bind_ok (onKernel_ok haccept)), ?_⟩
    exact .of_same rfl rfl rfl
  | cons outcome outcomes ih =>
    obtain ⟨fuel, rfl⟩ := Nat.exists_eq_add_one.mpr (Nat.zero_lt_of_lt hfuel)
    have haccept := accept_listening hlistening w.kernel
    rw [houtcomes, List.headD_cons, List.tail_cons] at haccept
    have hstep : acceptLoop socket (fuel + 1) w = _ := Program.bind_ok (dereference_some hs)
    rw [hstep]
    cases outcome with
    | wouldBlock => exact .inl ⟨trivial, _, Program.bind_ok (onKernel_ok haccept), .of_same rfl rfl rfl⟩
    | failure error => exact .inr ⟨id, _, _, Program.bind_error (onKernel_error haccept)⟩
    | accepted candidate remoteAddress =>
      rcases acceptOutcome_run candidate remoteAddress (taken outcomes w.kernel) with
        ⟨hreadable, l, k', hok, hnew, hscript⟩ | ⟨hunreadable, e, k', herror⟩
      · have hnew' : LinuxSocket.New .accepted w.kernel k' l :=
          ⟨⟨hnew.opened.free, hnew.opened.descriptors, hnew.opened.interestList, hnew.opened.clock⟩,
            hnew.socketType, hnew.outgoingBuffer⟩
        have hsame : ({ w with kernel := k' } : World υ).accepting = w.accepting := by
          unfold World.accepting
          rw [hscript]
          rfl
        rw [Program.bind_ok (onKernel_ok (haccept.trans hok))]
        have hinserted := insertAccepted_run (.of_valid hvalid) hs hnew'
        rw [hsame] at hinserted
        have hevolves := (evolves_lifecycle (r := r)).insertAccepted hs hnew'
        rcases hinserted with ⟨user, t, hjoins, hok', hjoined, haccepts, hafter⟩ | ⟨hrefused, e, t, herror⟩
        · rw [hok'] at hevolves
          have hvalid' : t.table.Valid r := hvalid.steps (hevolves hvalid)
          rw [hscript] at haccepts
          have hrest := ih hvalid' (hjoined.sockets _ _ hs) haccepts (Nat.lt_of_succ_lt_succ hfuel)
          rw [hafter] at hrest
          have hgoes : (insertAccepted socket l >>= fun _ => acceptLoop socket fuel) { w with kernel := k' } = _ :=
            Program.bind_ok hok'
          rcases hrest with ⟨hall, w', hloop, hjoined'⟩ | ⟨hnot, e, w', hloop⟩
          · exact .inl ⟨⟨hreadable, user, hjoins, hall⟩, w', hgoes.trans hloop, hjoined.trans hjoined'⟩
          · refine .inr ⟨fun ⟨_, user', hjoins', hall⟩ => hnot ?_, e, w', hgoes.trans hloop⟩
            obtain rfl : user' = user := by
              have hboth := hjoins.2.2.symm.trans hjoins'.2.2
              cases hboth
              rfl
            exact hall
        · exact .inr ⟨fun ⟨_, user, hjoins, _⟩ => hrefused ⟨user, hjoins⟩, e, t, Program.bind_error herror⟩
      · exact .inr ⟨fun h => hunreadable h.1, e, _, Program.bind_error (onKernel_error (haccept.trans herror))⟩

end SocketContainer

/-- After a readiness event all sockets are still there and subscribed, and so is every client that was inserted, but for
those whose callback throws. -/
structure ClientsDroppedOnly (callback : ConnectionCallback υ) (w w' : World υ) : Prop where
  sockets : ∀ (id : SocketIdentifier) (s : Socket υ), w.sockets[id]? = some s →
    w'.sockets[id]? = some s ∧ w'.kernel.interestList.contains s.socket.socket = true
  clients : ∃ events, w'.history = w.history ++ events ∧ ∀ (id : SocketIdentifier) (origin : SocketOrigin),
    ContainerEvent.socketInserted id origin ∈ events →
    w'.sockets.contains id = true ∨ ∃ user e user', callback .clientOpen id user = .error e user'

theorem Joined.droppedOnly {w w' : World υ} (hconsistent : w.Consistent r) (h : Joined w w')
    (callback : ConnectionCallback υ) : ClientsDroppedOnly callback w w' where
  sockets id s hs := ⟨h.sockets id s hs, h.subscribed _ ((hconsistent.subscribed _).mpr (.inr ⟨id, s, hs, rfl⟩))⟩
  clients := by
    obtain ⟨events, hevents, hclients⟩ := h.clients
    exact ⟨events, hevents, fun id origin hmem => .inl (hclients id origin hmem)⟩

namespace SocketContainer

variable {w : World υ} {socket : SocketIdentifier} {s : Socket υ}

/-- A readiness event of a listening socket: its clients have joined, or the listening socket is gone. -/
theorem handleSocketEvents_listening [Ballotin] (registry : ProtocolRegistry) (hvalid : w.table.Valid r)
    (hs : w.sockets[socket]? = some s) (hlistening : s.socket.socketType = .listening) {events : UInt32}
    (hhangup : hasEvent events EPOLLRDHUP = false) (hnoerror : hasEvent events EPOLLERR = false) :
    (Accepting.AllAccepted s.connectionCallback w.kernel.script.accepts w.accepting ∧
        ∃ w', handleSocketEvents registry s.socket.socket events w = .ok () w' ∧ Joined w w') ∨
      ¬ Accepting.AllAccepted s.connectionCallback w.kernel.script.accepts w.accepting ∧
        ∃ w', handleSocketEvents registry s.socket.socket events w = .ok () w' ∧ w'.sockets[socket]? = none := by
  have hconsistent := World.Consistent.of_valid hvalid
  have hid := (hconsistent.descriptors _ _).mpr ⟨s, hs, rfl⟩
  have hwork : handleSocketEventsWork registry socket events w =
      acceptLoop socket (w.kernel.script.accepts.length + 1) w := by
    rw [handleSocketEventsWork, Program.bind_ok (dereference_some hs), hhangup, hnoerror]
    simp only [Bool.false_eq_true, if_false, hlistening]
    rw [handleSocketEventsOf, handleListeningSocketEvents, Program.bind_ok Program.get_apply]
  rw [handleSocketEvents, Program.bind_ok Program.get_apply, hid]
  dsimp only
  rw [Program.bind_ok (dereference_some hs), Program.tryCatchAll, hwork, hconsistent.identifiers _ _ hs]
  rcases acceptLoop_run hvalid hs hlistening _ rfl (Nat.lt_succ_self _) with ⟨hall, w', hok, hjoined⟩ | ⟨hnot, e, t, herror⟩
  · rw [hok]
    exact .inl ⟨hall, w', rfl, hjoined⟩
  · rw [herror]
    refine .inr ⟨hnot, ?_⟩
    cases ht : t.sockets[socket]? with
    | none => exact ⟨t, eraseSocket_none ht, ht⟩
    | some s' => exact ⟨_, eraseSocket_some ht, removeSocket_absent socket _⟩

/-- After a readiness event of a listening socket only clients are dropped exactly if there was nothing to drop: the
first failure is answered by erasing the listening socket. -/
theorem handleSocketEvents_listening_iff [Ballotin] {registry : ProtocolRegistry} {l : EventLoop υ}
    (hreachable : l.Reachable registry) (hs : l.world.sockets[socket]? = some s)
    (hlistening : s.socket.socketType = .listening) (events : UInt32)
    (hhangup : hasEvent events EPOLLRDHUP = false) (hnoerror : hasEvent events EPOLLERR = false) :
    ∃ w', handleSocketEvents registry s.socket.socket events l.world = .ok () w' ∧
      (ClientsDroppedOnly s.connectionCallback l.world w' ↔ Accepting.AllAccepted s.connectionCallback
        l.world.kernel.script.accepts l.world.accepting) := by
  rcases handleSocketEvents_listening registry hreachable.sound.valid hs hlistening hhangup hnoerror with
    ⟨hall, w', hok, hjoined⟩ | ⟨hnot, w', hok, habsent⟩
  · exact ⟨w', hok, iff_of_true (hjoined.droppedOnly hreachable.consistent _) hall⟩
  · refine ⟨w', hok, iff_of_false (fun h => ?_) hnot⟩
    have hthere := (h.sockets socket s hs).1
    rw [habsent] at hthere
    cases hthere

end SocketContainer

/-- A provider that listens on descriptor 8, with what `::accept4` will return. -/
def listeningLoop (accepts : List AcceptOutcome) : EventLoop Unit :=
  ((EventLoop.new 3 4 ()).performed emptyRegistry [.listen 1 "127.0.0.1" 8080 silent] []).withScript
    { identifiersTaken := [1], accepts }

theorem listeningLoop_reachable [Ballotin] (accepts : List AcceptOutcome) :
    (listeningLoop accepts).Reachable emptyRegistry := by
  have hreports : (EventLoop.new 3 4 ()).Reports [{ fileDescriptor := 4, events := EPOLLIN }] :=
    ⟨by decide, by decide, fun e he => by rw [List.mem_singleton.mp he]; decide⟩
  have hstart : (EventLoop.new 3 4 ()).Reachable emptyRegistry := .initial (EventLoop.new_initial 3 4 ())
  have hperformed := EventLoop.performed_reachable hstart rfl rfl (.listen 1 "127.0.0.1" 8080 silent) [] hreports
  exact hperformed.step (.outcomes _ { identifiersTaken := [1], accepts })

def listeningSocket : Socket Unit :=
  SocketContainer.newSocket 1 invalidSocketIdentifier
    { outgoingBuffer := [], ipAddress := "127.0.0.1", port := 8080, socket := 8, socketType := .listening } silent

theorem listeningLoop_stays : ∃ w', @SocketContainer.handleSocketEvents Unit referenceBallotin emptyRegistry 8 EPOLLIN
      (listeningLoop [.accepted 9 (.address "127.0.0.1" 50000), .wouldBlock]).world = .ok () w' ∧
    ClientsDroppedOnly silent (listeningLoop [.accepted 9 (.address "127.0.0.1" 50000), .wouldBlock]).world w' := by
  let _ := referenceBallotin
  have hs : (listeningLoop [.accepted 9 (.address "127.0.0.1" 50000), .wouldBlock]).world.sockets[1]? =
      some listeningSocket := rfl
  obtain ⟨w', hok, hiff⟩ := SocketContainer.handleSocketEvents_listening_iff
    (listeningLoop_reachable [.accepted 9 (.address "127.0.0.1" 50000), .wouldBlock]) hs rfl EPOLLIN
    (by decide) (by decide)
  have hjoins : (listeningLoop [.accepted 9 (.address "127.0.0.1" 50000), .wouldBlock]).world.accepting.Joins silent () :=
    ⟨rfl, fun e h => (by cases h), rfl⟩
  exact ⟨w', hok, hiff.mpr ⟨rfl, (), hjoins, trivial⟩⟩

/-- A client is accepted, and the next one is gone before it is: the listening socket is erased. -/
theorem listeningLoop_lost : ¬ ∀ (registry : ProtocolRegistry) (l : EventLoop Unit),
    @EventLoop.Reachable Unit referenceBallotin registry l → ∀ (socket : SocketIdentifier) (s : Socket Unit),
    l.world.sockets[socket]? = some s → s.socket.socketType = .listening → ∀ events : UInt32,
    hasEvent events EPOLLRDHUP = false → hasEvent events EPOLLERR = false →
    ∀ w', @SocketContainer.handleSocketEvents Unit referenceBallotin registry s.socket.socket events l.world = .ok () w' →
      ClientsDroppedOnly s.connectionCallback l.world w' := by
  intro h
  let _ := referenceBallotin
  have hreachable := listeningLoop_reachable [.accepted 9 (.address "127.0.0.1" 50000),
    .failure "Software caused connection abort"]
  have hs : (listeningLoop [.accepted 9 (.address "127.0.0.1" 50000),
    .failure "Software caused connection abort"]).world.sockets[1]? = some listeningSocket := rfl
  rcases SocketContainer.handleSocketEvents_listening emptyRegistry (EventLoop.Reachable.sound hreachable).valid hs rfl
      (show hasEvent EPOLLIN EPOLLRDHUP = false by decide) (by decide) with ⟨hall, -⟩ | ⟨-, w', hok, habsent⟩
  · exact hall.2.elim fun _ hjoins => hjoins.2
  · have hthere := ((h emptyRegistry _ hreachable 1 listeningSocket hs rfl EPOLLIN (by decide) (by decide) w' hok).sockets 1
      listeningSocket hs).1
    rw [habsent] at hthere
    cases hthere

end Farseer.Linux
