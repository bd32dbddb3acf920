import Farseer.Linux.Consistency

/-! Whether the bytes that wait in a socket will ever be sent. They are tried again when the event
poll reports the socket writable, so while bytes wait the socket must ask for `EPOLLOUT`. -/

namespace Farseer.Linux

variable {υ : Type} {r : FileDescriptor} {P : SocketIdentifier → Prop}

def LinuxSocket.AsksForOutput (interestList : Std.ExtTreeMap FileDescriptor UInt32) (s : LinuxSocket) : Prop :=
  ∃ events, interestList[s.socket]? = some events ∧ hasEvent events EPOLLOUT = true

/-- Nothing waits in the buffer, or the socket is established and told when it can be written to. -/
def LinuxSocket.Watched (interestList : Std.ExtTreeMap FileDescriptor UInt32) (s : LinuxSocket) : Prop :=
  s.outgoingBuffer = [] ∨ (s.isEstablished = true ∧ s.AsksForOutput interestList)

/-- The descriptor table is valid and the sockets of the given identifiers are watched. -/
structure Guarded (r : FileDescriptor) (P : SocketIdentifier → Prop) (w : World υ) : Prop where
  valid : w.table.Valid r
  watched : ∀ (id : SocketIdentifier) (s : Socket υ), P id → w.sockets[id]? = some s →
    s.socket.Watched w.kernel.interestList

theorem Guarded.mono {Q : SocketIdentifier → Prop} {w : World υ} (h : Guarded r P w) (hPQ : ∀ id, Q id → P id) :
    Guarded r Q w := ⟨h.valid, fun id s hid => h.watched id s (hPQ id hid)⟩

/-- Watched sockets stay watched. -/
def Spares (r : FileDescriptor) (P : SocketIdentifier → Prop) (w w' : World υ) : Prop :=
  Guarded r P w → Guarded r P w'

instance : IsPreorder (World υ) (Spares r P) where
  refl _ h := h
  trans _ _ _ h h' hw := h' (h hw)

theorem Unmoved.spares {w w' : World υ} (h : Unmoved w w') : Spares r P w w' := by
  refine fun hw => ⟨hw.valid.steps (h.evolves hw.valid), fun id s' hid hs' => ?_⟩
  obtain ⟨s, hs, hstation⟩ : ∃ s, w.sockets[id]? = some s ∧ s.station = s'.station := by
    have hsame := h.sockets id
    rw [hs', Option.map_some] at hsame
    exact Option.map_eq_some_iff.mp hsame.symm
  rw [h.kernel.interestList, ← show s.socket = s'.socket from congrArg Prod.snd hstation]
  exact hw.watched id s hid hs

theorem Guarded.distinct {w : World υ} (h : Guarded r P w) {id id' : SocketIdentifier} {s s' : Socket υ}
    (hs : w.sockets[id]? = some s) (hs' : w.sockets[id']? = some s') (hne : id ≠ id') :
    s.socket.socket ≠ s'.socket.socket := fun heq =>
  hne ((World.Consistent.of_valid h.valid).distinct id id' s s' hs hs' heq)

/-- Events of another descriptor do not matter. -/
theorem LinuxSocket.Watched.of_lookup {m m' : Std.ExtTreeMap FileDescriptor UInt32} {s : LinuxSocket}
    (h : s.Watched m) (hlookup : m'[s.socket]? = m[s.socket]?) : s.Watched m' := by
  unfold LinuxSocket.Watched LinuxSocket.AsksForOutput
  rw [hlookup]
  exact h

namespace SocketContainer

variable {w : World υ}

theorem insertSocket_spares {k' : Kernel} {socket : Socket υ} (hopened : Kernel.Opened w.kernel k' socket.socket.socket)
    (hbuffer : socket.socket.outgoingBuffer = []) (events : UInt32) :
    Spares r P w (Program.final (insertSocket events socket { w with kernel := k' })) := by
  intro hw
  refine ⟨hw.valid.steps (insertSocket_evolves hopened events hw.valid), fun id s hid hs => ?_⟩
  obtain ⟨hsub, hmap⟩ := unused_lookup hw.valid hopened.free
  have hopen : k'.descriptors.contains socket.socket.socket = true := by
    rw [Table.contains_eq, hopened.descriptors, Table.lookup_insert, if_pos rfl]
    rfl
  rcases insertSocket_cases (w := { w with kernel := k' }) events hopen (by rw [← hsub, hopened.interestList]) hmap
    with ⟨script, -, hok⟩ | ⟨e, w', herror, hdiscarded⟩
  · rw [hok] at hs ⊢
    rcases Table.lookup_insert_some hs with ⟨-, rfl⟩ | ⟨-, hs⟩
    · exact .inl hbuffer
    · -- a socket that was there has another descriptor than the new one
      have hne : socket.socket.socket ≠ s.socket.socket := by
        intro heq
        have hfound := ((World.Consistent.of_valid hw.valid).descriptors s.socket.socket id).mpr ⟨s, hs, rfl⟩
        rw [← heq, hmap] at hfound
        cases hfound
      refine (hw.watched id s hid hs).of_lookup ?_
      change (k'.interestList.insert socket.socket.socket events)[s.socket.socket]? = _
      rw [Table.lookup_insert, if_neg hne, hopened.interestList]
  · rw [herror] at hs ⊢
    change s.socket.Watched w'.kernel.interestList
    rw [hdiscarded.interestList, hopened.interestList]
    refine hw.watched id s hid ?_
    rw [← show w'.sockets = w.sockets from hdiscarded.sockets]
    exact hs

theorem removeSocket_spares (id : SocketIdentifier) : Spares r P w (removeSocket id w) := by
  refine fun hw => ⟨hw.valid.steps (removeSocket_evolves id hw.valid), fun id' s' hid' hs' => ?_⟩
  cases hs : w.sockets[id]? with
  | none =>
    rw [removeSocket, hs] at hs' ⊢
    exact hw.watched id' s' hid' hs'
  | some s =>
    obtain ⟨script, hremoved⟩ := removeSocket_eq hs
    rw [hremoved] at hs' ⊢
    obtain ⟨hne, hs'⟩ := Table.lookup_erase_some hs'
    refine (hw.watched id' s' hid' hs').of_lookup ?_
    change (w.kernel.interestList.erase s.socket.socket)[s'.socket.socket]? = _
    rw [Table.lookup_erase, if_neg (hw.distinct hs hs' hne.symm)]

theorem spares_lifecycle : Lifecycle (Spares (υ := υ) r P) where
  kernel w k' hnothing := by
    rcases hnothing with hidle | ⟨fd, hclosed⟩
    · exact Unmoved.spares (.of_sockets rfl rfl hidle)
    · refine fun hw => ⟨hw.valid.steps (closed_evolves hclosed hw.valid), fun id s hid hs => ?_⟩
      rw [show ({ w with kernel := k' } : World υ).kernel.interestList = w.kernel.interestList by
        rw [hclosed.interestList, Table.erase_of_absent (unused_lookup hw.valid hclosed.free).1]]
      exact hw.watched id s hid hs
  user _ _ := Unmoved.spares (.of_sockets rfl rfl (refl_of Kernel.Idle _))
  notified _ _ _ _ := Unmoved.spares (record_unmoved _)
  numbered _ _ := Unmoved.spares (.of_sockets rfl rfl (refl_of Kernel.Idle _))
  inserted _ _ _ _ _ _ events hopened hbuffer := insertSocket_spares hopened hbuffer events
  removed _ id := removeSocket_spares id

def called (id : SocketIdentifier) (l : LinuxSocket) (k' : Kernel) (w : World υ) : World υ :=
  { w.updateSocket id (fun s => { s with socket := l }) with kernel := k' }

theorem called_self {id : SocketIdentifier} {s : Socket υ} (hs : w.sockets[id]? = some s) (l : LinuxSocket)
    (k' : Kernel) : (called id l k' w).sockets[id]? = some { s with socket := l } := by
  change (w.sockets.modify id _)[id]? = _
  rw [Table.lookup_modify, if_pos rfl, hs]
  rfl

theorem called_other {id id' : SocketIdentifier} (hne : id' ≠ id) (l : LinuxSocket) (k' : Kernel) :
    (called id l k' w).sockets[id']? = w.sockets[id']? := by
  change (w.sockets.modify id _)[id']? = _
  rw [Table.lookup_modify, if_neg hne.symm]

/-- The next call that fails is one that sends bytes or one that sets events. -/
def FailsToSend (script : Script) : Prop :=
  (∃ e, script.sends.head? = some (.failure e)) ∨ ∃ e, script.controls.head? = some (.failure e)

/-- How `sendBytes` ends on a socket of the container. -/
theorem sendBytesTo_cases (hvalid : w.table.Valid r) {id : SocketIdentifier} {s : Socket υ}
    (hs : w.sockets[id]? = some s) (bytes : List UInt8) : ∃ l k', l.socket = s.socket.socket ∧
      l.isEstablished = s.socket.isEstablished ∧
      ((∃ events, sendBytesTo id bytes w = .ok () (called id l k' w) ∧
          k'.interestList = w.kernel.interestList.insert s.socket.socket events ∧
          (l.outgoingBuffer = [] ∨ (s.socket.isEstablished = true ∧ hasEvent events EPOLLOUT = true))) ∨
        ∃ e, sendBytesTo id bytes w = .error e (called id l k' w) ∧ k'.interestList = w.kernel.interestList ∧
          (l = s.socket ∨ (s.socket.isEstablished = true ∧
            l.outgoingBuffer = w.kernel.script.remaining (s.socket.outgoingBuffer ++ bytes) ∧
            FailsToSend w.kernel.script))) := by
  cases hestablished : s.socket.isEstablished with
  | false =>
    obtain ⟨e, hrefused⟩ : ∃ e, onLinuxSocket id (LinuxSocket.sendBytes bytes) w =
        .error e (called id s.socket w.kernel w) := by
      rw [onLinuxSocket, hs]
      dsimp only
      rw [LinuxSocket.sendBytes_refused hestablished]
      exact ⟨_, rfl⟩
    exact ⟨s.socket, w.kernel, rfl, hestablished, .inr ⟨_, Program.bind_error hrefused, rfl, .inl rfl⟩⟩
  | true =>
    obtain ⟨m, k', htook, hremaining, hsent | ⟨rfl, -, e, he, herror⟩⟩ :=
      LinuxSocket.sendBytes_established hestablished bytes w.kernel
    · -- some bytes were sent, and the events are set by what is left
      set l : LinuxSocket := { s.socket with outgoingBuffer := (s.socket.outgoingBuffer ++ bytes).drop m }
      have hcalled : onLinuxSocket id (LinuxSocket.sendBytes bytes) w =
          .ok l.outgoingBuffer.isEmpty (called id l k' w) := by
        rw [onLinuxSocket, hs]
        dsimp only
        rw [hsent]
        rfl
      have hstep := (Program.bind_ok (f := fun exhausted => do
        let s ← dereference id
        onKernel (EventPoll.setEvents s.socket.socket (eventsAfterSending exhausted))) hcalled).trans
        (Program.bind_ok (dereference_some (called_self hs l k')))
      obtain ⟨script, ⟨-, hset⟩ | ⟨e, hset, hfails⟩⟩ :=
        setEvents_cases l.socket (eventsAfterSending l.outgoingBuffer.isEmpty) k'
      · refine ⟨l, _, rfl, hestablished, .inl
          ⟨eventsAfterSending l.outgoingBuffer.isEmpty, hstep.trans (onKernel_ok hset), ?_, ?_⟩⟩
        · rw [htook.interestList]
        · cases hempty : l.outgoingBuffer.isEmpty with
          | true => exact .inl (List.isEmpty_iff.mp hempty)
          | false => exact .inr ⟨rfl, by decide⟩
      · have hsubscribed : k'.interestList.contains l.socket = true := by
          rw [htook.interestList]
          refine hvalid.subscribed.mpr (.inr ⟨id, hvalid.descriptors.mpr ⟨s.socketIdentifier, ?_⟩⟩)
          rw [table_sockets, hs]
          rfl
        refine ⟨l, _, rfl, hestablished,
          .inr ⟨_, hstep.trans (onKernel_error hset), htook.interestList, .inr ?_⟩⟩
        exact ⟨rfl, hremaining, .inr (htook.controls ▸ hfails hsubscribed)⟩
    · set l : LinuxSocket := { s.socket with outgoingBuffer := s.socket.outgoingBuffer ++ bytes }
      have hcalled : onLinuxSocket id (LinuxSocket.sendBytes bytes) w =
          .error (.internalSocketError ("Error sending bytes to socket: " ++ e)) (called id l k' w) := by
        rw [onLinuxSocket, hs]
        dsimp only
        rw [herror]
        rfl
      refine ⟨l, k', rfl, hestablished, .inr ⟨_, Program.bind_error hcalled, htook.interestList, .inr ?_⟩⟩
      exact ⟨rfl, hremaining, .inl ⟨e, he⟩⟩

theorem called_guarded {id : SocketIdentifier} {s : Socket υ} (hw : Guarded r (fun id' => id' ≠ id) w)
    (hs : w.sockets[id]? = some s) {l : LinuxSocket} {k' : Kernel} (hvalid : (called id l k' w).table.Valid r)
    (hothers : ∀ fd : FileDescriptor, fd ≠ s.socket.socket → k'.interestList[fd]? = w.kernel.interestList[fd]?)
    (hown : P id → l.Watched k'.interestList) : Guarded r P (called id l k' w) := by
  refine ⟨hvalid, fun id' s' hid' hs' => ?_⟩
  by_cases hne : id' = id
  · subst hne
    rw [called_self hs] at hs'
    cases hs'
    exact hown hid'
  · rw [called_other hne] at hs'
    exact (hw.watched id' s' hne hs').of_lookup (hothers _ (hw.distinct hs' hs hne))

theorem sendBytesTo_none {id : SocketIdentifier} (hs : w.sockets[id]? = none) (bytes : List UInt8) :
    sendBytesTo id bytes w = .error .danglingReference w := by
  have hnone : onLinuxSocket id (LinuxSocket.sendBytes bytes) w = .error .danglingReference w := by
    rw [onLinuxSocket, hs]
  exact Program.bind_error hnone

theorem sendBytesTo_valid (id : SocketIdentifier) (bytes : List UInt8) (hvalid : w.table.Valid r) :
    (Program.final (sendBytesTo id bytes w)).table.Valid r :=
  hvalid.steps (within_evolves (sendBytesTo_keeps id bytes) hvalid)

/-- A call that returns leaves its socket watched, whatever the socket was like. -/
theorem sendBytesTo_ends {id : SocketIdentifier} (hw : Guarded r (fun id' => id' ≠ id) w) (bytes : List UInt8) :
    Program.Ends (fun _ => Guarded r fun _ => True) (Guarded r fun id' => id' ≠ id) (sendBytesTo id bytes) w := by
  have hvalid := sendBytesTo_valid id bytes hw.valid
  cases hs : w.sockets[id]? with
  | none => exact .of_error (sendBytesTo_none hs bytes) hw
  | some s =>
    obtain ⟨l, k', hsocket, hestablished, ⟨events, hok, hevents, hown⟩ | ⟨e, herror, hevents, -⟩⟩ :=
      sendBytesTo_cases hw.valid hs bytes
    · rw [hok] at hvalid
      refine .of_ok hok (called_guarded hw hs hvalid (fun fd hfd => ?_) fun _ => ?_)
      · rw [hevents, Table.lookup_insert, if_neg hfd.symm]
      · rcases hown with hempty | ⟨hs, hout⟩
        · exact .inl hempty
        · refine .inr ⟨hestablished.trans hs, events, ?_, hout⟩
          rw [hsocket, hevents, Table.lookup_insert, if_pos rfl]
    · rw [herror] at hvalid
      exact .of_error herror (called_guarded hw hs hvalid (fun fd _ => by rw [hevents]) fun h => absurd rfl h)

/-- Bytes will be left in the buffer of an established socket that does not ask for `EPOLLOUT`, and
a call fails before it does. -/
def Stalls (w : World υ) (id : SocketIdentifier) (bytes : List UInt8) : Prop :=
  ∃ s, w.sockets[id]? = some s ∧ s.socket.isEstablished = true ∧
    ¬ s.socket.AsksForOutput w.kernel.interestList ∧
    w.kernel.script.remaining (s.socket.outgoingBuffer ++ bytes) ≠ [] ∧ FailsToSend w.kernel.script

/-- Without a handler that erases the socket, all depends on the calls. -/
theorem sendBytesTo_guarded {id : SocketIdentifier} {bytes : List UInt8} (hw : Guarded r (fun _ => True) w)
    (hstalls : ¬ Stalls w id bytes) : Guarded r (fun _ => True) (Program.final (sendBytesTo id bytes w)) := by
  have hothers := hw.mono (Q := fun id' => id' ≠ id) fun _ _ => trivial
  have hvalid := sendBytesTo_valid id bytes hw.valid
  cases hs : w.sockets[id]? with
  | none =>
    rw [sendBytesTo_none hs]
    exact hw
  | some s =>
    obtain ⟨l, k', hsocket, hestablished, ⟨events, hok, -, -⟩ | ⟨e, herror, hevents, hown⟩⟩ :=
      sendBytesTo_cases hw.valid hs bytes
    · have hends := (sendBytesTo_ends hothers bytes).ok hok
      rw [hok]
      exact hends
    · rw [herror] at hvalid ⊢
      refine called_guarded hothers hs hvalid (fun fd _ => by rw [hevents]) fun _ => ?_
      rw [hevents]
      rcases hown with rfl | ⟨hs', hremaining, hfails⟩
      · exact hw.watched id s trivial hs
      · by_cases hleft : l.outgoingBuffer = []
        · exact .inl hleft
        · by_cases hasks : s.socket.AsksForOutput w.kernel.interestList
          · refine .inr ⟨hestablished.trans hs', ?_⟩
            rwa [LinuxSocket.AsksForOutput, hsocket]
          · exact absurd ⟨s, hs, hs', hasks, hremaining ▸ hleft, hfails⟩ hstalls

/-- A socket whose events are set to others keeps its guard if nothing waits in its buffer. -/
theorem setEvents_guarded {id : SocketIdentifier} {s : Socket υ} (hw : Guarded r P w)
    (hs : w.sockets[id]? = some s) (hbuffer : P id → s.socket.outgoingBuffer = []) (events : UInt32) :
    Guarded r P (Program.final (onKernel (EventPoll.setEvents s.socket.socket events) w)) := by
  have hkeeps := onKernel_keeps (w := w) (setEvents_alike s.socket.socket events w.kernel)
  have hvalid := hw.valid.steps (within_evolves hkeeps hw.valid)
  obtain ⟨script, ⟨-, hok⟩ | ⟨e, herror, -⟩⟩ := setEvents_cases s.socket.socket events w.kernel
  · rw [onKernel_ok hok] at hvalid ⊢
    refine ⟨hvalid, fun id' s' hid' hs' => ?_⟩
    by_cases hne : id' = id
    · subst hne
      cases hs.symm.trans hs'
      exact .inl (hbuffer hid')
    · refine (hw.watched id' s' hid' hs').of_lookup ?_
      change (w.kernel.interestList.insert s.socket.socket events)[s'.socket.socket]? = _
      rw [Table.lookup_insert, if_neg (hw.distinct hs hs' (Ne.symm hne))]
  · rw [onKernel_error herror] at hvalid ⊢
    exact ⟨hvalid, hw.watched⟩

theorem handleConnectingSocketEvents_guarded {id : SocketIdentifier} (hw : Guarded r P w)
    (hbuffer : ∀ s, P id → w.sockets[id]? = some s → s.socket.outgoingBuffer = []) :
    Guarded r P (Program.final (handleConnectingSocketEvents id w)) := by
  rw [handleConnectingSocketEvents]
  rcases dereference_cases id w with ⟨s, hs, hfound⟩ | ⟨-, herror⟩
  · rw [Program.bind_ok hfound]
    have hset := setEvents_guarded hw hs (fun hid => hbuffer s hid hs) (EPOLLIN ||| EPOLLET)
    obtain ⟨script, ⟨-, hok⟩ | ⟨e, herror, -⟩⟩ := setEvents_cases s.socket.socket (EPOLLIN ||| EPOLLET) w.kernel
    · rw [onKernel_ok hok] at hset
      rw [Program.bind_ok (onKernel_ok hok), Program.bind_ok (Program.modify_apply _)]
      refine Unmoved.spares (notify_unmoved _ _ _) ⟨?_, fun id' s' hid' hs' => ?_⟩
      · exact hset.valid.steps (Keeps.evolves (.updateSocket _ _ fun _ _ => rfl) hset.valid)
      · rcases Table.lookup_modify_some hs' with ⟨rfl, s, hs, rfl⟩ | ⟨-, hs'⟩
        · exact .inl (hbuffer s hid' hs)
        · exact hset.watched id' s' hid' hs'
    · rw [onKernel_error herror] at hset
      rw [Program.bind_error (onKernel_error herror)]
      exact hset
  · rw [Program.bind_error herror]
    exact hw

/-- All sockets are watched, or the run throws and all others are. -/
abbrev Covered {α : Type} (r : FileDescriptor) (socket : SocketIdentifier) (x : WorldM υ α) (w : World υ) : Prop :=
  Program.Ends (fun _ => Guarded r fun _ => True) (Guarded r fun id => id ≠ socket) x w

theorem covered_of_spares {α : Type} {x : WorldM υ α} {socket : SocketIdentifier}
    (hx : Program.Within (Spares r fun _ => True) x w) (hw : Guarded r (fun _ => True) w) :
    Covered r socket x w :=
  .of_within hx (fun _ _ h => h hw) fun _ h => (h hw).mono fun _ _ => trivial

theorem sendBytesTo_covered {socket : SocketIdentifier} (hw : Guarded r (fun _ => True) w) (bytes : List UInt8) :
    Covered r socket (sendBytesTo socket bytes) w :=
  sendBytesTo_ends (hw.mono fun _ _ => trivial) bytes

theorem sendOutboundBytes_covered {socket : SocketIdentifier} (hw : Guarded r (fun _ => True) w) :
    Covered r socket (sendOutboundBytes socket) w := by
  refine .bind (covered_of_spares (dereference_within socket) hw) fun s t _ ht => ?_
  split_ifs
  · exact covered_of_spares (.pure _) ht
  · refine .bind (sendBytesTo_covered ht _) fun _ u _ hu => ?_
    exact covered_of_spares (.modify (Unmoved.spares (.updateSocket _ _ fun _ => rfl))) hu

theorem Guarded.of_absent {id : SocketIdentifier} (hw : Guarded r (fun id' => id' ≠ id) w)
    (hs : w.sockets[id]? = none) : Guarded r (fun _ => True) w := by
  refine ⟨hw.valid, fun id' s' _ hs' => hw.watched id' s' ?_ hs'⟩
  rintro rfl
  cases hs.symm.trans hs'

/-- An erased socket needs no guard. -/
theorem eraseSocket_guarded {id : SocketIdentifier} (hw : Guarded r (fun id' => id' ≠ id) w) :
    Guarded r (fun _ => True) (Program.final (eraseSocket id w)) := by
  have herased := spares_lifecycle.eraseSocket id hw
  refine Guarded.of_absent herased ?_
  cases hs : w.sockets[id]? with
  | none =>
    rw [eraseSocket_none hs]
    exact hs
  | some s =>
    rw [eraseSocket_some hs]
    exact removeSocket_absent id _

theorem handleWritable_covered {socket : SocketIdentifier} (hw : Guarded r (fun _ => True) w) (events : UInt32) :
    Covered r socket (handleWritable socket events) w := by
  unfold handleWritable
  split_ifs
  · exact sendBytesTo_covered hw []
  · exact covered_of_spares (.pure _) hw

section Reading

variable [Ballotin] {registry : ProtocolRegistry}

theorem handleReadable_covered {socket : SocketIdentifier} (hw : Guarded r (fun _ => True) w) :
    Covered r socket (handleReadable registry socket) w := by
  refine .bind (covered_of_spares (dereference_within socket) hw) fun s t _ ht => ?_
  refine .bind (covered_of_spares (onKernel_within (receiveBytes_idle s.socket t.kernel) (spares_lifecycle.kernel t)) ht)
    fun received u _ hu => ?_
  refine .bind (covered_of_spares (.modify (Unmoved.spares (.updateSocket _ _ fun _ => rfl))) hu) fun _ v _ hv => ?_
  refine .bind (covered_of_spares (Unmoved.spares (readWithItsReader_unmoved registry socket)) hv)
    fun _ x _ hx => ?_
  refine .bind (sendOutboundBytes_covered hx) fun _ y _ hy => ?_
  split_ifs
  · refine .bind (covered_of_spares (spares_lifecycle.eraseSocket _) hy) fun _ z _ hz => ?_
    exact covered_of_spares (.pure _) hz
  · exact covered_of_spares (.pure _) hy

theorem handleConnectedSocketEvents_covered {socket : SocketIdentifier} (hw : Guarded r (fun _ => True) w)
    (events : UInt32) : Covered r socket (handleConnectedSocketEvents registry socket events) w := by
  unfold handleConnectedSocketEvents
  split_ifs
  · refine .bind (handleReadable_covered hw) fun erased t _ ht => ?_
    split_ifs
    · exact covered_of_spares (.pure _) ht
    · exact handleWritable_covered ht events
  · exact handleWritable_covered hw events

theorem handleSocketEventsWork_covered {socket : SocketIdentifier} (hw : Guarded r (fun _ => True) w)
    (events : UInt32) : Covered r socket (handleSocketEventsWork registry socket events) w := by
  refine .bind (covered_of_spares (dereference_within socket) hw) fun s t hrun ht => ?_
  obtain ⟨hs, rfl⟩ := dereference_ok hrun
  split_ifs
  · exact covered_of_spares (spares_lifecycle.eraseSocket _) ht
  · exact covered_of_spares (spares_lifecycle.eraseSocket _) ht
  · cases htype : s.socket.socketType with
    | accepted | connected => exact handleConnectedSocketEvents_covered ht events
    | listening => exact .get_bind (covered_of_spares (spares_lifecycle.housekeeping.acceptLoop socket _) ht)
    | connecting =>
      -- a connecting socket has sent nothing, so nothing waits in its buffer
      refine covered_of_spares (fun hw => handleConnectingSocketEvents_guarded hw fun s' _ hs' => ?_) ht
      cases hs.symm.trans hs'
      rcases ht.watched socket s trivial hs with hempty | ⟨hestablished, -⟩
      · exact hempty
      · rw [LinuxSocket.isEstablished, htype] at hestablished
        cases hestablished
    | unbound => exact covered_of_spares (.throw _) ht

variable (registry) in
/-- An exception leaves at most the socket itself without a guard, and its handler erases it. -/
theorem handleSocketEvents_guarded {fd : FileDescriptor} (hfd : fd ≠ r) (events : UInt32)
    (hw : Guarded r (fun _ => True) w) :
    Guarded r (fun _ => True) (Program.final (handleSocketEvents registry fd events w)) := by
  rw [handleSocketEvents, Program.bind_ok Program.get_apply]
  cases hmap : w.fileDescriptorsToSockets[fd]? with
  | none => exact Unmoved.spares (unsubscribe_unmoved hw.valid hfd hmap) hw
  | some socket =>
    obtain ⟨s, hs, -⟩ := ((World.Consistent.of_valid hw.valid).descriptors fd socket).mp hmap
    dsimp only
    rw [Program.bind_ok (dereference_some hs), (World.Consistent.of_valid hw.valid).identifiers socket s hs]
    exact (handleSocketEventsWork_covered hw events).tryCatchAll fun t ht => eraseSocket_guarded ht

end Reading

end SocketContainer

theorem SocketContainer.Stalls.of_unmoved {w w' : World υ} (hunmoved : Unmoved w w') (hkernel : w'.kernel = w.kernel)
    {id : SocketIdentifier} {bytes : List UInt8} (h : SocketContainer.Stalls w' id bytes) :
    SocketContainer.Stalls w id bytes := by
  obtain ⟨s', hs', hstalls⟩ := h
  have hsame := hunmoved.sockets id
  rw [hs', Option.map_some] at hsame
  obtain ⟨s, hs, hstation⟩ := Option.map_eq_some_iff.mp hsame.symm
  rw [hkernel, ← show s.socket = s'.socket from congrArg Prod.snd hstation] at hstalls
  exact ⟨s, hs, hstalls⟩

namespace Task

/-- The task leaves bytes in a buffer that nothing will empty. -/
def Stalls (w : World υ) : Task υ → Prop
  | sendBytes id bytes => SocketContainer.Stalls w id bytes
  | sendRequest id n bytes _ => SocketContainer.Stalls w id bytes ∧
      ∀ s, w.sockets[id]? = some s → s.protocolReader.inboundOneShotResponseConsumers.contains n = false
  | _ => False

variable {w : World υ}

theorem sendBytes_guarded {id : SocketIdentifier} {bytes : List UInt8} (hw : Guarded r (fun _ => True) w)
    (hstalls : ¬ SocketContainer.Stalls w id bytes) :
    Guarded r (fun _ => True) (Program.final (SocketContainer.sendBytes id bytes w)) := by
  rw [SocketContainer.sendBytes]
  rcases SocketContainer.getSocketOrThrow_cases id w with ⟨-, hok⟩ | ⟨e, -, herror⟩
  · rw [Program.bind_ok hok]
    exact SocketContainer.sendBytesTo_guarded hw hstalls
  · rw [Program.bind_error herror]
    exact hw

theorem sendRequest_guarded {id : SocketIdentifier} {n : ProtocolSequenceNumber} {bytes : List UInt8}
    {consumer : Consumer υ} (hw : Guarded r (fun _ => True) w) (hstalls : ¬ Stalls w (.sendRequest id n bytes consumer)) :
    Guarded r (fun _ => True) (Program.final (SocketContainer.sendRequest id n bytes consumer w)) := by
  rw [SocketContainer.sendRequest]
  rcases SocketContainer.getSocketOrThrow_cases id w with ⟨hfound, hok⟩ | ⟨e, -, herror⟩
  · rw [Program.bind_ok hok]
    rw [Table.contains_eq] at hfound
    obtain ⟨s, hs⟩ := Option.isSome_iff_exists.mp hfound
    rcases s.protocolReader.registerInboundOneShotResponseConsumer_cases n consumer with ⟨hfree, hregister⟩ |
      ⟨e, hregister⟩
    · have hreader := SocketContainer.onProtocolReader_ok hs hregister
      rw [Program.bind_ok hreader, Program.bind_ok (Program.modify_apply _)]
      have hunmoved : ∀ protocolReader : ProtocolReader υ,
          Unmoved w ((w.updateSocket id fun s => { s with protocolReader }).record
            (.responseConsumerRegistered id n consumer)) := by
        refine fun _ => trans_of Unmoved ?_ (SocketContainer.record_unmoved _)
        exact .updateSocket id w fun _ => rfl
      refine SocketContainer.sendBytesTo_guarded ((hunmoved _).spares hw) fun h =>
        hstalls ⟨h.of_unmoved (hunmoved _) rfl, ?_⟩
      intro s' hs'
      cases hs.symm.trans hs'
      exact hfree
    · rw [Program.bind_error (SocketContainer.onProtocolReader_error hs hregister)]
      exact Unmoved.spares (.updateSocket id w fun _ => rfl) hw
  · rw [Program.bind_error herror]
    exact hw

theorem execute_guarded (registry : ProtocolRegistry) {task : Task υ} (hw : Guarded r (fun _ => True) w)
    (hstalls : ¬ task.Stalls w) : Guarded r (fun _ => True) (Program.final (task.execute registry w)) := by
  cases task with
  | close id => exact SocketContainer.spares_lifecycle.eraseSocket id hw
  | connect id ipAddress port callback => exact SocketContainer.spares_lifecycle.connect id ipAddress port callback hw
  | listen id ipAddress port callback => exact SocketContainer.spares_lifecycle.listen id ipAddress port callback hw
  | registerMessageConsumer id p consumer =>
    exact Unmoved.spares (registerMessageConsumer_unmoved registry id p consumer) hw
  | registerRequestCallback id p consumer =>
    exact Unmoved.spares (registerRequestCallback_unmoved registry id p consumer) hw
  | sendBytes id bytes => exact sendBytes_guarded hw hstalls
  | sendRequest id n bytes consumer => exact sendRequest_guarded hw hstalls

end Task

/-- Bytes that wait in an established socket wait for `EPOLLOUT`. -/
def World.NoStalledOutput (w : World υ) : Prop :=
  ∀ (id : SocketIdentifier) (s : Socket υ), w.sockets[id]? = some s → s.socket.isEstablished = true →
    s.socket.outgoingBuffer ≠ [] → s.socket.AsksForOutput w.kernel.interestList

namespace EventLoop

/-- A step that does not execute a task that stalls. -/
def FlowingStep [Ballotin] (registry : ProtocolRegistry) (l l' : EventLoop υ) : Prop :=
  Step registry l l' ∧ ∀ task tasksBuffer events, l.control = .tasks (some task :: tasksBuffer) events →
    l' = l.executed registry task tasksBuffer events → ¬ task.Stalls l.world

theorem Initial.guarded {l : EventLoop υ} (h : l.Initial) :
    Guarded l.eventFileDescriptor (fun _ => True) l.world := by
  refine ⟨h.sound.valid, fun id s _ hs => ?_⟩
  rw [h.sockets, Std.ExtTreeMap.getElem?_empty] at hs
  cases hs

theorem FlowingStep.guarded [Ballotin] {registry : ProtocolRegistry} {l l' : EventLoop υ}
    (h : Guarded l.eventFileDescriptor (fun _ => True) l.world) (hstep : FlowingStep registry l l') :
    Guarded l'.eventFileDescriptor (fun _ => True) l'.world := by
  obtain ⟨hstep, hflows⟩ := hstep
  cases hstep with
  | insertTask | wait | waitFailed | batchDone | abort | tasksDone => exact h
  | outcomes script =>
    have hunmoved : Unmoved l.world (l.withScript script).world := .of_sockets rfl rfl ⟨rfl, rfl, rfl⟩
    exact hunmoved.spares h
  | socketEvents event events hcontrol hfd =>
    have hguarded := SocketContainer.handleSocketEvents_guarded registry hfd event.events h
    unfold handled
    cases hrun : SocketContainer.handleSocketEvents registry event.fileDescriptor event.events l.world with
    | ok _ world => rwa [hrun] at hguarded
    | error e world => rwa [hrun] at hguarded
  | transfer event events outcome hcontrol hfd =>
    unfold transferred
    cases TaskQueue.transfer outcome l.taskQueue <;> exact h
  | executeTask task tasksBuffer events hcontrol =>
    exact Task.execute_guarded registry h (hflows task tasksBuffer events hcontrol rfl)

/-- In a run without tasks that stall no output stalls, whatever else fails. -/
theorem noStalledOutput [Ballotin] {registry : ProtocolRegistry} {l : EventLoop υ}
    (h : l.Run (FlowingStep registry)) : l.world.NoStalledOutput := by
  have hguarded : Guarded l.eventFileDescriptor (fun _ => True) l.world :=
    Run.invariant (fun _ => Initial.guarded) (fun _ _ => FlowingStep.guarded) h
  intro id s hs _ hbuffer
  rcases hguarded.watched id s trivial hs with hempty | ⟨-, hasks⟩
  · exact absurd hempty hbuffer
  · exact hasks

def connectedLoop : EventLoop Unit :=
  let event : EpollEvent := { fileDescriptor := 8, events := EPOLLOUT }
  { @handled Unit referenceBallotin emptyRegistry
      (({ connectingLoop with control := .waiting } : EventLoop Unit).waited [event]) event [] with
    control := .waiting }

theorem connectedLoop_run {R : EventLoop Unit → EventLoop Unit → Prop}
    (hR : ∀ l l', @Step Unit referenceBallotin emptyRegistry l l' →
      (∀ task, l.Executes task → task = .connect 1 "127.0.0.1" 8080 silent) → R l l') : connectedLoop.Run R := by
  let _ := referenceBallotin
  have hconnecting := connectingLoop_run hR
  have hwaiting := hconnecting.step (hR _ _ (.batchDone _ rfl) fun task ⟨_, _, h⟩ => by cases h)
  have hreports : ({ connectingLoop with control := .waiting } : EventLoop Unit).Reports
      [{ fileDescriptor := 8, events := EPOLLOUT }] :=
    ⟨by decide, by decide, fun e he => by rw [List.mem_singleton.mp he]; decide⟩
  have hwaited := hwaiting.step (hR _ _ (.wait _ _ rfl hreports) fun task ⟨_, _, h⟩ => by cases h)
  have hhandled := hwaited.step (hR _ _ (.socketEvents _ _ [] rfl (by decide)) fun task ⟨_, _, h⟩ => by cases h)
  exact hhandled.step (hR _ _ (.batchDone _ rfl) fun task ⟨_, _, h⟩ => by cases h)

def sendingLoop (sends : List SendOutcome) : EventLoop Unit :=
  (connectedLoop.withScript { sends }).given [.sendBytes 1 [1, 2, 3]] []

theorem sendingLoop_run {R : EventLoop Unit → EventLoop Unit → Prop} (sends : List SendOutcome)
    (hR : ∀ l l', @Step Unit referenceBallotin emptyRegistry l l' →
      (∀ task, l.Executes task → task = .connect 1 "127.0.0.1" 8080 silent) → R l l') :
    (sendingLoop sends).Run R := by
  let _ := referenceBallotin
  have hscript := (connectedLoop_run hR).step (hR _ _ (.outcomes _ { sends }) fun task ⟨_, _, h⟩ => by cases h)
  have hreports : connectedLoop.Reports [{ fileDescriptor := 4, events := EPOLLIN }] :=
    ⟨by decide, by decide, fun e he => by rw [List.mem_singleton.mp he]; decide⟩
  exact given_run (fun l l' hstep hidle => hR l l' hstep fun task h => absurd h (hidle task)) hscript rfl rfl
    (.sendBytes 1 [1, 2, 3]) [] ⟨hreports.size, hreports.distinct, hreports.subscribed⟩

def sentLoop (sends : List SendOutcome) : EventLoop Unit :=
  (sendingLoop sends).executed emptyRegistry (.sendBytes 1 [1, 2, 3]) [] []

/-- One byte is sent, and the socket asks for `EPOLLOUT` for the other two. -/
theorem sentLoop_flows : (sentLoop [.sent 1]).world.NoStalledOutput ∧
    ∃ s, (sentLoop [.sent 1]).world.sockets[1]? = some s ∧ s.socket.outgoingBuffer = [2, 3] := by
  let _ := referenceBallotin
  have hsending : (sendingLoop [.sent 1]).Run (FlowingStep emptyRegistry) := by
    refine sendingLoop_run [.sent 1] fun l l' hstep hconnects => ⟨hstep, fun task _ _ hcontrol _ => ?_⟩
    rw [hconnects task ⟨_, _, hcontrol⟩]
    exact id
  refine ⟨@noStalledOutput Unit referenceBallotin emptyRegistry _ ?_, _, rfl, rfl⟩
  refine hsending.step ⟨.executeTask _ _ [] [] rfl, fun task tasksBuffer events hcontrol _ hstalls => ?_⟩
  cases hcontrol
  obtain ⟨s, hs, hestablished, hasks, hleft, hfails⟩ := hstalls
  rcases hfails with ⟨e, he⟩ | ⟨e, he⟩
  · cases he
  · cases he

/-- The first call fails, and no event will ever make the loop try again. -/
theorem sentLoop_stalls :
    @Reachable Unit referenceBallotin emptyRegistry (sentLoop [.failure "No buffer space available"]) ∧
      ¬ (sentLoop [.failure "No buffer space available"]).world.NoStalledOutput := by
  let _ := referenceBallotin
  have hsending := sendingLoop_run [.failure "No buffer space available"]
    (R := Step emptyRegistry) fun _ _ hstep _ => hstep
  refine ⟨hsending.step (.executeTask _ _ [] [] rfl), fun h => ?_⟩
  obtain ⟨events, hevents, hout⟩ := h 1 _ rfl rfl (by decide)
  obtain rfl : EPOLLIN ||| EPOLLET = events := Option.some_inj.mp hevents
  revert hout
  decide

end EventLoop

end Farseer.Linux
