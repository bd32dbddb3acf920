import Farseer.Lib.Table
import Farseer.Linux.SocketContainer

/-! How sockets come and go: what creating, inserting and removing a socket leaves of the kernel
and of the maps, on every path. -/

namespace Farseer.Linux

namespace Kernel

/-- Only the script went on. -/
structure Idle (k k' : Kernel) : Prop where
  descriptors : k'.descriptors = k.descriptors
  interestList : k'.interestList = k.interestList
  clock : k'.clock = k.clock

instance : IsPreorder Kernel Idle where
  refl _ := ⟨rfl, rfl, rfl⟩
  trans _ _ _ h h' :=
    ⟨h'.descriptors.trans h.descriptors, h'.interestList.trans h.interestList, h'.clock.trans h.clock⟩

structure Opened (k k' : Kernel) (fd : FileDescriptor) : Prop where
  free : k.descriptors[fd]? = none
  descriptors : k'.descriptors = k.descriptors.insert fd { openedAt := k.clock, transmitted := [] }
  interestList : k'.interestList = k.interestList
  clock : k'.clock = k.clock + 1

structure Closed (k k' : Kernel) (fd : FileDescriptor) : Prop where
  free : k.descriptors[fd]? = none
  descriptors : k'.descriptors = k.descriptors
  interestList : k'.interestList = k.interestList.erase fd
  clock : k'.clock = k.clock + 1

theorem Idle.opened {k k' k'' : Kernel} {fd : FileDescriptor} (h : Idle k k') (h' : Opened k' k'' fd) :
    Opened k k'' fd :=
  ⟨h.descriptors ▸ h'.free, by rw [h'.descriptors, h.descriptors, h.clock],
    h'.interestList.trans h.interestList, by rw [h'.clock, h.clock]⟩

theorem Opened.idle {k k' k'' : Kernel} {fd : FileDescriptor} (h : Opened k k' fd) (h' : Idle k' k'') :
    Opened k k'' fd :=
  ⟨h.free, h'.descriptors.trans h.descriptors, h'.interestList.trans h.interestList, h'.clock.trans h.clock⟩

theorem Opened.close {k k' : Kernel} {fd : FileDescriptor} (h : Opened k k' fd) :
    Closed k (k'.closeSocketOrLog fd) fd := by
  refine ⟨h.free, ?_, ?_, h.clock⟩
  · rw [closeSocketOrLog, h.descriptors, Table.erase_insert h.free]
  · rw [closeSocketOrLog, h.interestList]

end Kernel

open Kernel

theorem draw_eq {α : Type} (outcomes : Script → List α) (update : List α → Script → Script) (otherwise : α) {k : Kernel}
    (hnil : outcomes k.script = [] → update [] k.script = k.script) :
    draw outcomes update otherwise k =
      .ok ((outcomes k.script).headD otherwise) { k with script := update (outcomes k.script).tail k.script } := by
  unfold draw
  cases h : outcomes k.script with
  | nil => rw [List.headD_nil, List.tail_nil, hnil h]
  | cons outcome rest => rfl

theorem drawControl_eq (k : Kernel) : EventPoll.drawControl k = .ok (k.script.controls.headD .success)
    { k with script := { k.script with controls := k.script.controls.tail } } :=
  draw_eq Script.controls (fun controls script => { script with controls }) .success fun h => by rw [← h]

theorem draw_idle {α : Type} (outcomes : Script → List α) (update : List α → Script → Script) (otherwise : α)
    (k : Kernel) : ∃ outcome k', draw outcomes update otherwise k = .ok outcome k' ∧ Idle k k' := by
  unfold draw
  cases outcomes k.script with
  | nil => exact ⟨otherwise, k, rfl, rfl, rfl, rfl⟩
  | cons outcome rest => exact ⟨outcome, _, rfl, rfl, rfl, rfl⟩

theorem within_draw {α β : Type} {outcomes : Script → List α} {update : List α → Script → Script} {otherwise : α}
    {f : α → KernelM β} (hf : ∀ outcome k, Program.Within Idle (f outcome) k) (k : Kernel) :
    Program.Within Idle (draw outcomes update otherwise >>= f) k := by
  obtain ⟨outcome, k', hdraw, hidle⟩ := draw_idle outcomes update otherwise k
  exact .bind (.of_ok hdraw hidle) fun a t _ => hf a t

theorem newDescriptor_opened (candidate : FileDescriptor) (k : Kernel) :
    ∃ fd k', newDescriptor candidate k = .ok fd k' ∧ Opened k k' fd :=
  ⟨k.freshDescriptor candidate, _, rfl, k.freshDescriptor_free candidate, rfl, rfl, rfl⟩

namespace LinuxSocket

/-- A failed call changed nothing, or closed what it had opened. -/
def LeftNothing (k k' : Kernel) : Prop := Idle k k' ∨ ∃ fd, Closed k k' fd

/-- A new socket of the given kind. -/
structure New (type : SocketType) (k k' : Kernel) (s : LinuxSocket) : Prop where
  opened : Opened k k' s.socket
  socketType : s.socketType = type
  outgoingBuffer : s.outgoingBuffer = []

/-- The program makes a socket of the given kind, or it throws and leaves nothing behind. -/
def Creates (type : SocketType) (x : KernelM LinuxSocket) : Prop :=
  ∀ k, (∃ s k', x k = .ok s k' ∧ New type k k' s) ∨ ∃ e k', x k = .error e k' ∧ LeftNothing k k'

/-- The program makes a socket of a descriptor, or throws, and does nothing else. -/
def Fills (type : SocketType) (fd : FileDescriptor) (x : KernelM LinuxSocket) : Prop :=
  ∀ k, Program.Within Idle x k ∧
    ∀ s k', x k = .ok s k' → s.socket = fd ∧ s.socketType = type ∧ s.outgoingBuffer = []

variable {type : SocketType} {fd : FileDescriptor}

theorem Fills.bind {α : Type} {x : KernelM α} {f : α → KernelM LinuxSocket}
    (hx : ∀ k, Program.Within Idle x k) (hf : ∀ a, Fills type fd (f a)) : Fills type fd (x >>= f) := by
  intro k
  refine ⟨.bind (hx k) fun a t _ => (hf a t).1, fun s k' h => ?_⟩
  obtain ⟨a, t, -, hs⟩ := Program.bind_eq_ok h
  exact (hf a t).2 s k' hs

/-- The guard closes the new descriptor when the rest throws. -/
theorem guarded_cases (rest : FileDescriptor → KernelM LinuxSocket) {k k' : Kernel} (hopened : Opened k k' fd)
    (hrest : Fills type fd (rest fd)) :
    (∃ s k'', Program.scopeFailure (closeSocketOrLog fd) (rest fd) k' = .ok s k'' ∧ New type k k'' s) ∨
      ∃ e k'', Program.scopeFailure (closeSocketOrLog fd) (rest fd) k' = .error e k'' ∧ LeftNothing k k'' := by
  obtain ⟨hidle, hfills⟩ := hrest k'
  unfold Program.scopeFailure
  cases h : rest fd k' with
  | ok s k'' =>
    obtain ⟨rfl, htype, hbuffer⟩ := hfills s k'' h
    exact .inl ⟨s, k'', rfl, hopened.idle (hidle.ok h), htype, hbuffer⟩
  | error e k'' => exact .inr ⟨e, _, rfl, .inr ⟨fd, (hopened.idle (hidle.error h)).close⟩⟩

theorem createSocket_cases (k : Kernel) :
    (∃ fd k', createSocket k = .ok fd k' ∧ Opened k k' fd) ∨
      ∃ e k', createSocket k = .error e k' ∧ Idle k k' := by
  obtain ⟨outcome, k', hdraw, hidle⟩ :=
    draw_idle Script.sockets (fun sockets script => { script with sockets }) (.created 3) k
  unfold createSocket
  rw [Program.bind_ok hdraw]
  cases outcome with
  | created candidate =>
    obtain ⟨fd, k'', hnew, hopened⟩ := newDescriptor_opened candidate k'
    exact .inl ⟨fd, k'', hnew, hidle.opened hopened⟩
  | failure error => exact .inr ⟨_, k', rfl, hidle⟩

theorem creates_of_fills {rest : FileDescriptor → KernelM LinuxSocket} (hrest : ∀ fd, Fills type fd (rest fd)) :
    Creates type (createSocket >>= fun fd => Program.scopeFailure (closeSocketOrLog fd) (rest fd)) := by
  intro k
  rcases createSocket_cases k with ⟨fd, k', hcreate, hopened⟩ | ⟨e, k', hcreate, hidle⟩
  · rw [Program.bind_ok hcreate]
    exact guarded_cases rest hopened (hrest fd)
  · exact .inr ⟨e, k', Program.bind_error hcreate, .inl hidle⟩

theorem convertAddress_idle (ipAddress : String) (k : Kernel) : Program.Within Idle (convertAddress ipAddress) k := by
  refine within_draw (fun outcome k => ?_) k
  cases outcome with
  | converted => exact .pure _
  | invalid | failure => exact .throw _

theorem bindAddress_idle (k : Kernel) : Program.Within Idle bindAddress k := by
  refine within_draw (fun outcome k => ?_) k
  cases outcome with
  | success => exact .pure _
  | failure => exact .throw _

theorem startListening_idle (k : Kernel) : Program.Within Idle startListening k := by
  refine within_draw (fun outcome k => ?_) k
  cases outcome with
  | success => exact .pure _
  | failure => exact .throw _

theorem startConnecting_idle (k : Kernel) : Program.Within Idle startConnecting k := by
  refine within_draw (fun outcome k => ?_) k
  cases outcome with
  | connected | inProgress => exact .pure _
  | failure => exact .throw _

theorem fills_pure (ipAddress : String) (port : ℕ) (fd : FileDescriptor) (type : SocketType) :
    Fills type fd (pure { outgoingBuffer := [], ipAddress, port, socket := fd, socketType := type }) := by
  refine fun k => ⟨.pure _, fun s k' h => ?_⟩
  cases h
  exact ⟨rfl, rfl, rfl⟩

theorem listen_creates (ipAddress : String) (port : ℕ) : Creates .listening (listen ipAddress port) := by
  refine creates_of_fills fun fd => ?_
  refine .bind (convertAddress_idle ipAddress) fun _ => ?_
  exact .bind bindAddress_idle fun _ => .bind startListening_idle fun _ => fills_pure ipAddress port fd .listening

theorem connect_creates (ipAddress : String) (port : ℕ) : Creates .connecting (connect ipAddress port) := by
  refine creates_of_fills fun fd => ?_
  refine .bind (convertAddress_idle ipAddress) fun _ => ?_
  exact .bind startConnecting_idle fun _ => fills_pure ipAddress port fd .connecting

theorem acceptFrom_fills (fd : FileDescriptor) (remoteAddress : RemoteAddress) :
    Fills .accepted fd (acceptFrom fd remoteAddress) := by
  cases remoteAddress with
  | address ipAddress port => exact fills_pure ipAddress port fd .accepted
  | tooLong | unreadable => exact fun k => ⟨.throw _, fun s k' h => by cases h⟩

theorem accept_cases (listener : LinuxSocket) (k : Kernel) :
    (∃ k', listener.accept k = .ok none k' ∧ Idle k k') ∨
      (∃ s k', listener.socketType = .listening ∧ listener.accept k = .ok (some s) k' ∧ New .accepted k k' s) ∨
      ∃ e k', listener.accept k = .error e k' ∧ LeftNothing k k' := by
  unfold accept
  split_ifs with hlistening
  · exact .inr (.inr ⟨_, k, rfl, .inl (refl_of Idle k)⟩)
  · obtain ⟨outcome, k', hdraw, hidle⟩ :=
      draw_idle Script.accepts (fun accepts script => { script with accepts }) .wouldBlock k
    rw [Program.bind_ok hdraw]
    cases outcome with
    | wouldBlock => exact .inl ⟨k', rfl, hidle⟩
    | failure error => exact .inr (.inr ⟨_, k', rfl, .inl hidle⟩)
    | accepted candidate remoteAddress =>
      obtain ⟨fd, k'', hnew, hopened⟩ := newDescriptor_opened candidate k'
      rw [acceptOutcome, Program.bind_ok hnew]
      have hguarded := guarded_cases (fun fd => acceptFrom fd remoteAddress) (hidle.opened hopened)
        (acceptFrom_fills fd remoteAddress)
      rcases hguarded with ⟨s, k₃, hok, hnew⟩ | ⟨e, k₃, herror, hnothing⟩
      · exact .inr (.inl ⟨s, k₃, not_not.mp hlistening, Program.bind_ok hok, hnew⟩)
      · exact .inr (.inr ⟨e, k₃, Program.bind_error herror, hnothing⟩)

end LinuxSocket

theorem drawControl_cases (k : Kernel) :
    ∃ outcome script, EventPoll.drawControl k = .ok outcome { k with script } ∧
      ∀ e, outcome = .failure e → k.script.controls.head? = some (.failure e) := by
  unfold EventPoll.drawControl draw
  cases k.script.controls with
  | nil => exact ⟨.success, k.script, rfl, fun e h => by cases h⟩
  | cons outcome rest => exact ⟨outcome, _, rfl, fun e h => by rw [h]; rfl⟩

/-- A new descriptor is subscribed, unless the kernel is short of something. -/
theorem subscribe_cases {k : Kernel} {fd : FileDescriptor} (hopen : k.descriptors.contains fd = true)
    (hsub : k.interestList[fd]? = none) (events : UInt32) : ∃ script,
    EventPoll.subscribe fd events k =
        .ok () { k with interestList := k.interestList.insert fd events, script } ∨
      ∃ e, EventPoll.subscribe fd events k = .error e { k with script } := by
  obtain ⟨outcome, script, hdraw, -⟩ := drawControl_cases k
  refine ⟨script, ?_⟩
  have hnot : k.interestList.contains fd = false := by rw [Table.contains_eq, hsub]; rfl
  rw [EventPoll.subscribe, Program.bind_ok hdraw, Program.bind_ok Program.get_apply]
  cases outcome with
  | success =>
    simp only [hopen, hnot, Bool.not_false, Bool.and_self, if_true]
    exact .inl rfl
  | failure error => exact .inr ⟨_, rfl⟩

/-- The events of a subscribed descriptor are set, unless the kernel is short of something. -/
theorem setEvents_cases (fd : FileDescriptor) (events : UInt32) (k : Kernel) : ∃ script,
    (k.interestList.contains fd = true ∧
        EventPoll.setEvents fd events k =
          .ok () { k with interestList := k.interestList.insert fd events, script }) ∨
      ∃ e, EventPoll.setEvents fd events k = .error e { k with script } ∧
        (k.interestList.contains fd = true → ∃ e', k.script.controls.head? = some (.failure e')) := by
  obtain ⟨outcome, script, hdraw, hfailure⟩ := drawControl_cases k
  refine ⟨script, ?_⟩
  rw [EventPoll.setEvents, Program.bind_ok hdraw, Program.bind_ok Program.get_apply]
  cases outcome with
  | success =>
    dsimp only
    split_ifs with hsub
    · exact .inl ⟨hsub, rfl⟩
    · exact .inr ⟨_, rfl, fun h => absurd h hsub⟩
  | failure error => exact .inr ⟨_, rfl, fun _ => ⟨error, hfailure error rfl⟩⟩

namespace SocketContainer

variable {υ : Type}

def inserted (events : UInt32) (socket : Socket υ) (script : Script) (w : World υ) : World υ :=
  { w with
    sockets := w.sockets.insert socket.socketIdentifier socket
    fileDescriptorsToSockets := w.fileDescriptorsToSockets.insert socket.socket.socket socket.socketIdentifier
    kernel := { w.kernel with interestList := w.kernel.interestList.insert socket.socket.socket events, script }
    history := w.history ++ [.socketInserted socket.socketIdentifier socket.origin] }

/-- A socket that could not be inserted is gone, and all else is as before. -/
structure Discarded (fd : FileDescriptor) (w w' : World υ) : Prop where
  sockets : w'.sockets = w.sockets
  fileDescriptorsToSockets : w'.fileDescriptorsToSockets = w.fileDescriptorsToSockets
  interestList : w'.kernel.interestList = w.kernel.interestList
  descriptors : w'.kernel.descriptors = w.kernel.descriptors.erase fd
  clock : w'.kernel.clock = w.kernel.clock
  history : w'.history = w.history

theorem insertSocket_cases {w : World υ} {socket : Socket υ} (events : UInt32)
    (hopen : w.kernel.descriptors.contains socket.socket.socket = true)
    (hsub : w.kernel.interestList[socket.socket.socket]? = none)
    (hmap : w.fileDescriptorsToSockets[socket.socket.socket]? = none) :
    (∃ script, w.sockets[socket.socketIdentifier]? = none ∧
        insertSocket events socket w = .ok socket.socketIdentifier (inserted events socket script w)) ∨
      ∃ e w', insertSocket events socket w = .error e w' ∧ Discarded socket.socket.socket w w' := by
  have herase := Table.erase_of_absent hsub
  rw [insertSocket, Program.bind_ok Program.get_apply]
  cases hid : w.sockets[socket.socketIdentifier]? with
  | some other =>
    rw [if_pos (by rw [Table.contains_eq, hid]; rfl)]
    exact .inr ⟨_, _, rfl, rfl, rfl, herase, rfl, rfl, rfl⟩
  | none =>
    have hfree : ¬ w.sockets.contains socket.socketIdentifier = true := by
      rw [Table.contains_eq, hid]
      exact Bool.false_ne_true
    have hunmapped : ¬ w.fileDescriptorsToSockets.contains socket.socket.socket = true := by
      rw [Table.contains_eq, hmap]
      exact Bool.false_ne_true
    rw [if_neg hfree, Program.bind_ok (Program.set_apply _), Program.scopeFailure, insertDescriptor,
      Program.bind_ok Program.get_apply]
    dsimp only
    rw [if_neg hunmapped, Program.bind_ok (Program.set_apply _), Program.scopeFailure, subscribeSocket]
    obtain ⟨script, hok | ⟨e, herror⟩⟩ := subscribe_cases hopen hsub events
    · refine .inl ⟨script, rfl, ?_⟩
      rw [Program.bind_ok (by rw [onKernel, Program.zoom, hok]), Program.bind_ok (Program.modify_apply _)]
      rfl
    · rw [Program.bind_error (by rw [onKernel, Program.zoom, herror])]
      refine .inr ⟨e, _, rfl, ?_⟩
      have hfound : (w.sockets.insert socket.socketIdentifier socket)[socket.socketIdentifier]? = some socket := by
        rw [Table.lookup_insert, if_pos rfl]
      simp only [World.destroySocket, hfound]
      exact ⟨Table.erase_insert hid, Table.erase_insert hmap, herase, rfl, rfl, rfl⟩

def removed (socketIdentifier : SocketIdentifier) (fd : FileDescriptor) (script : Script) (w : World υ) : World υ :=
  { w with
    sockets := w.sockets.erase socketIdentifier
    fileDescriptorsToSockets := w.fileDescriptorsToSockets.erase fd
    kernel := { w.kernel with
      descriptors := w.kernel.descriptors.erase fd, interestList := w.kernel.interestList.erase fd, script } }

theorem unsubscribe_cases (fd : FileDescriptor) (k : Kernel) : ∃ script,
    EventPoll.unsubscribe fd k = .ok () { k with interestList := k.interestList.erase fd, script } ∨
      EventPoll.unsubscribe fd k = .ok () { k with script } := by
  obtain ⟨outcome, script, hdraw, -⟩ := drawControl_cases k
  refine ⟨script, ?_⟩
  rw [EventPoll.unsubscribe, Program.bind_ok hdraw, Program.bind_ok Program.get_apply]
  cases outcome with
  | success => exact .inl rfl
  | failure error => exact .inr rfl

theorem removeSocket_eq {w : World υ} {socketIdentifier : SocketIdentifier} {s : Socket υ}
    (hs : w.sockets[socketIdentifier]? = some s) :
    ∃ script, removeSocket socketIdentifier w = removed socketIdentifier s.socket.socket script w := by
  have hagain : ∀ m : Std.ExtTreeMap FileDescriptor UInt32,
      (m.erase s.socket.socket).erase s.socket.socket = m.erase s.socket.socket := fun m =>
    Table.erase_of_absent (by rw [Table.lookup_erase, if_pos rfl])
  obtain ⟨script, hunsubscribe | hunsubscribe⟩ := unsubscribe_cases s.socket.socket w.kernel
  · refine ⟨script, ?_⟩
    simp only [removeSocket, hs, onKernel, Program.zoom, hunsubscribe, Program.final, World.destroySocket,
      Kernel.closeSocketOrLog, hagain, removed]
  · refine ⟨script, ?_⟩
    simp only [removeSocket, hs, onKernel, Program.zoom, hunsubscribe, Program.final, World.destroySocket,
      Kernel.closeSocketOrLog, removed]

theorem removeSocket_absent (socketIdentifier : SocketIdentifier) (w : World υ) :
    (removeSocket socketIdentifier w).sockets[socketIdentifier]? = none := by
  cases hs : w.sockets[socketIdentifier]? with
  | none =>
    rw [removeSocket, hs]
    exact hs
  | some s =>
    obtain ⟨script, hremoved⟩ := removeSocket_eq hs
    rw [hremoved]
    change (w.sockets.erase socketIdentifier)[socketIdentifier]? = none
    rw [Table.lookup_erase, if_pos rfl]

/-- `eraseSocket` does not throw: it tells the user, and then the socket is gone. -/
theorem eraseSocket_some {w : World υ} {socketIdentifier : SocketIdentifier} {s : Socket υ}
    (hs : w.sockets[socketIdentifier]? = some s) :
    eraseSocket socketIdentifier w =
      .ok () (removeSocket socketIdentifier (Program.final (notifyClosed socketIdentifier s w))) := by
  rw [eraseSocket, Program.bind_ok Program.get_apply]
  simp only [hs]
  rfl

theorem eraseSocket_none {w : World υ} {socketIdentifier : SocketIdentifier}
    (hs : w.sockets[socketIdentifier]? = none) : eraseSocket socketIdentifier w = .ok () w := by
  rw [eraseSocket, Program.bind_ok Program.get_apply]
  simp only [hs]
  rfl

end SocketContainer

end Farseer.Linux
