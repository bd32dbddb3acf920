import Farseer.Container.Identifiers
import Farseer.Linux.AcceptLoop
import Farseer.Linux.Receiving
import Farseer.Linux.Startup
import Farseer.Linux.TaskDelivery

/-! The identifiers that the Linux provider generates: for every call of `listen` and `connect` and for every client
that is accepted. They are counted over a run, those that other threads get with those of the event thread. -/

namespace Farseer.Linux

open Numbering

variable {υ : Type}

def World.sequenced (w : World υ) : Sequenced υ := ⟨w.nextSocketIdentifier, w.history⟩

/-- The event thread generated identifiers, with so many taken by other threads before each of them. -/
def Hands (taken : List ℕ) (w w' : World υ) : Prop := Handed (2 ^ 64) taken w.sequenced w'.sequenced

/-- No identifier was generated, and no socket inserted. -/
structure Still (w w' : World υ) : Prop where
  next : w'.nextSocketIdentifier = w.nextSocketIdentifier
  inserted : insertedIdentifiers w'.history = insertedIdentifiers w.history

instance : IsPreorder (World υ) Still where
  refl _ := ⟨rfl, rfl⟩
  trans _ _ _ h h' := ⟨h'.next.trans h.next, h'.inserted.trans h.inserted⟩

theorem Still.hands {w w' : World υ} (h : Still w w') : Hands [] w w' := .of_same h.next h.inserted

theorem Hands.still {taken : List ℕ} {w w' w'' : World υ} (h : Hands taken w w') (h' : Still w' w'') :
    Hands taken w w'' := by
  have happend : Handed (2 ^ 64) (taken ++ []) w.sequenced w''.sequenced := Handed.append h h'.hands
  rwa [List.append_nil] at happend

def World.takenByOthers (w : World υ) : ℕ := w.kernel.script.identifiersTaken.headD 0

namespace SocketContainer

variable {w : World υ} {taken : List ℕ}

theorem onKernel_still {α : Type} (x : KernelM α) : Program.Within Still (onKernel x) w := by
  unfold onKernel Program.Within Program.zoom
  cases x w.kernel <;> exact ⟨rfl, rfl⟩

theorem notify_still (s : Socket υ) (event : SocketEvent) (argument : SocketIdentifier) :
    Program.Within Still (notify s event argument) w := by
  refine .bind (.modify (⟨rfl, ?_⟩)) fun _ t _ => ?_
  · change insertedIdentifiers (w.history ++ [_]) = _
    rw [insertedIdentifiers_append]
    exact List.append_nil _
  · unfold onUser Program.Within Program.zoom
    cases s.connectionCallback event argument t.user <;> exact ⟨rfl, rfl⟩

theorem notifyClosed_still (id : SocketIdentifier) (s : Socket υ) :
    Program.Within Still (notifyClosed id s) w := by
  unfold notifyClosed
  split_ifs
  · refine .get_bind ?_
    split
    · exact notify_still _ _ _
    · exact .pure _
  · exact notify_still _ _ _

theorem eraseSocket_still (id : SocketIdentifier) : Program.Within Still (eraseSocket id) w := by
  cases hs : w.sockets[id]? with
  | none => exact .of_ok (eraseSocket_none hs) (refl_of Still w)
  | some s =>
    refine .of_ok (eraseSocket_some hs) (trans_of Still (notifyClosed_still id s) ?_)
    set t := Program.final (notifyClosed id s w)
    cases ht : t.sockets[id]? with
    | none =>
      rw [removeSocket, ht]
      exact refl_of Still t
    | some s' =>
      obtain ⟨script, hremoved⟩ := removeSocket_eq ht
      rw [hremoved]
      exact ⟨rfl, rfl⟩

theorem onProtocolReader_still (id : SocketIdentifier) (x : EStateM Exception (ProtocolReader υ) Unit) :
    Program.Within Still (onProtocolReader id x) w := by
  unfold Program.Within onProtocolReader
  cases w.sockets[id]? with
  | none => exact refl_of Still w
  | some s =>
    dsimp only
    cases x s.protocolReader <;> exact ⟨rfl, rfl⟩

theorem sendBytesTo_still (id : SocketIdentifier) (bytes : List UInt8) :
    Program.Within Still (sendBytesTo id bytes) w := by
  refine .bind ?_ fun exhausted t _ => .bind (dereference_within id) fun s u _ => onKernel_still _
  unfold Program.Within onLinuxSocket
  cases w.sockets[id]? with
  | none => exact refl_of Still w
  | some s =>
    dsimp only
    cases LinuxSocket.sendBytes bytes (s.socket, w.kernel) <;> exact ⟨rfl, rfl⟩

section Reading

variable [Ballotin] (registry : ProtocolRegistry)

theorem readInboundBytes_still (reader socket : SocketIdentifier) :
    Program.Within Still (readInboundBytes registry reader socket) w := by
  have hafter : ∀ (id : SocketIdentifier) (r : Reading υ), Still w (afterReading reader socket id r w) := by
    intro id r
    refine ⟨rfl, ?_⟩
    change insertedIdentifiers (w.history ++ _) = _
    simp [insertedIdentifiers, insertedIdentifier]
  unfold Program.Within readInboundBytes
  split
  · dsimp only
    split
    · exact hafter _ _
    · exact hafter _ _
  · exact refl_of Still w

theorem still_serving (socket : SocketIdentifier) : Serving registry socket (Still (υ := υ)) where
  kernel _ _ _ := ⟨rfl, rfl⟩
  erased _ id := eraseSocket_still id
  received _ _ := ⟨rfl, rfl⟩
  read w := by
    rw [readWithItsReader_eq]
    refine .bind ?_ fun reader t _ => readInboundBytes_still registry reader socket
    refine .bind (dereference_within socket) fun s t _ => ?_
    split_ifs
    · exact getSocketOrThrow_within _
    · exact .pure _
  sent _ bytes := sendBytesTo_still socket bytes
  answered _ := ⟨rfl, rfl⟩

end Reading

theorem handleConnectingSocketEvents_still (socket : SocketIdentifier) :
    Program.Within Still (handleConnectingSocketEvents socket) w := by
  refine .bind (dereference_within socket) fun s t _ => .bind (onKernel_still _) fun _ u _ => ?_
  exact .bind (.modify (⟨rfl, rfl⟩)) fun _ v _ => notify_still _ _ _

/-- The sequencer is as before, and a socket was inserted under the identifier or not. -/
structure MayInsert (id : SocketIdentifier) (w w' : World υ) : Prop where
  next : w'.nextSocketIdentifier = w.nextSocketIdentifier
  inserted : insertedIdentifiers w'.history = insertedIdentifiers w.history ∨
    insertedIdentifiers w'.history = insertedIdentifiers w.history ++ [id]

theorem MayInsert.of_still {id : SocketIdentifier} {w w' : World υ} (h : Still w w') : MayInsert id w w' :=
  ⟨h.next, .inl h.inserted⟩

theorem MayInsert.still {id : SocketIdentifier} {w w' w'' : World υ} (h : MayInsert id w w') (h' : Still w' w'') :
    MayInsert id w w'' := by
  refine ⟨h'.next.trans h.next, ?_⟩
  rw [h'.inserted]
  exact h.inserted

theorem destroySocket_next (id : SocketIdentifier) (w : World υ) :
    (w.destroySocket id).nextSocketIdentifier = w.nextSocketIdentifier := by
  unfold World.destroySocket
  split <;> rfl

theorem insertSocket_next (events : UInt32) (socket : Socket υ) (w : World υ) :
    (Program.final (insertSocket events socket w)).nextSocketIdentifier = w.nextSocketIdentifier := by
  rw [insertSocket, Program.bind_ok Program.get_apply]
  split_ifs
  · rfl
  rw [Program.bind_ok (Program.set_apply _), Program.scopeFailure, insertDescriptor,
    Program.bind_ok Program.get_apply]
  dsimp only
  split_ifs
  · exact destroySocket_next _ _
  rw [Program.bind_ok (Program.set_apply _), Program.scopeFailure, subscribeSocket]
  cases hsubscribe : EventPoll.subscribe socket.socket.socket events w.kernel with
  | ok _ k =>
    rw [Program.bind_ok (by rw [onKernel, Program.zoom, hsubscribe]), Program.bind_ok (Program.modify_apply _)]
    rfl
  | error e k =>
    rw [Program.bind_error (by rw [onKernel, Program.zoom, hsubscribe])]
    exact destroySocket_next _ _

theorem insertSocket_mayInsert (events : UInt32) (socket : Socket υ) (w : World υ) :
    MayInsert socket.socketIdentifier w (Program.final (insertSocket events socket w)) := by
  refine ⟨insertSocket_next events socket w, ?_⟩
  rcases insertSocket_outcome events socket w with ⟨t, hok, -, -, hhistory⟩ | ⟨e, t, herror, -, hhistory⟩
  · rw [hok]
    refine .inr ?_
    rw [Program.final, hhistory, insertedIdentifiers_append]
    rfl
  · rw [herror]
    exact .inl (congrArg insertedIdentifiers hhistory)

theorem createAndInsert_mayInsert {α : Type} (x : KernelM LinuxSocket) (events : UInt32)
    (id listener : SocketIdentifier) (callback : ConnectionCallback υ) {f : SocketIdentifier → WorldM υ α}
    (hf : ∀ id t, Program.Within Still (f id) t) :
    MayInsert id w (Program.final ((onKernel x >>= fun s =>
      insertSocket events (newSocket id listener s callback) >>= f) w)) := by
  have hcreate : Program.Within Still (onKernel x) w := onKernel_still x
  cases hx : onKernel x w with
  | error e t =>
    rw [Program.bind_error hx]
    exact .of_still (hcreate.error hx)
  | ok s t =>
    have hstill := hcreate.ok hx
    have hinsert := insertSocket_mayInsert events (newSocket id listener s callback) t
    have hfirst : MayInsert id w (Program.final (insertSocket events (newSocket id listener s callback) t)) := by
      refine ⟨hinsert.next.trans hstill.next, ?_⟩
      rw [← hstill.inserted]
      exact hinsert.inserted
    rw [Program.bind_ok hx]
    cases hrun : insertSocket events (newSocket id listener s callback) t with
    | error e u =>
      rw [hrun] at hfirst
      rw [Program.bind_error hrun]
      exact hfirst
    | ok id' u =>
      rw [hrun] at hfirst
      rw [Program.bind_ok hrun]
      exact hfirst.still (hf id' u)

def acceptCalls (socket : SocketIdentifier) : ℕ → World υ → List (World υ)
  | 0, _ => []
  | fuel + 1, w =>
    match w.sockets[socket]? with
    | none => []
    | some s =>
      match s.socket.accept w.kernel with
      | .ok (some candidate) kernel =>
        { w with kernel } ::
          match insertAccepted socket candidate { w with kernel } with
          | .ok _ w' => acceptCalls socket fuel w'
          | .error _ _ => []
      | _ => []

/-- A turn of the loop: the identifier is generated after those that other threads take, and may be inserted. -/
theorem insertAccepted_hands (socket : SocketIdentifier) (candidate : LinuxSocket) (w : World υ) :
    Hands [w.takenByOthers] w (Program.final (insertAccepted socket candidate w)) := by
  set id := w.accepting.identifier with hid
  have hgenerate := generateSocketIdentifier_run w
  set t : World υ := { w with
    kernel := { w.kernel with script := { w.kernel.script with
      identifiersTaken := w.kernel.script.identifiersTaken.tail } }
    nextSocketIdentifier := (w.accepting.identifier + 1) % 2 ^ 64 } with ht
  have hhands : ∀ u : World υ, MayInsert id t u → Hands [w.takenByOthers] w u := fun u hu =>
    Handed.of_generated hu.next hu.inserted
  refine Program.after_ok hgenerate ?_
  rcases dereference_cases socket t with ⟨s, -, hok⟩ | ⟨-, herror⟩
  · refine Program.after_ok hok ?_
    have hinsert := insertSocket_mayInsert (EPOLLIN ||| EPOLLET) (newSocket id s.socketIdentifier candidate noCallback) t
    cases hrun : insertSocket (EPOLLIN ||| EPOLLET) (newSocket id s.socketIdentifier candidate noCallback) t with
    | error e u =>
      rw [hrun] at hinsert
      exact Program.after_error hrun (hhands u hinsert)
    | ok id' u =>
      rw [hrun] at hinsert
      refine Program.after_ok hrun (hhands _ (hinsert.still ?_))
      exact Program.Within.bind (dereference_within socket) fun _ _ _ => notify_still _ _ _
  · exact Program.after_error herror (hhands t (.of_still (refl_of Still t)))

/-- The loop generates its identifiers one after the other. -/
theorem acceptLoop_hands (socket : SocketIdentifier) (fuel : ℕ) (w : World υ) :
    Hands ((acceptCalls socket fuel w).map World.takenByOthers) w (Program.final (acceptLoop socket fuel w)) := by
  induction fuel generalizing w with
  | zero => exact (refl_of Still w).hands
  | succ fuel ih =>
    rw [acceptCalls]
    rcases dereference_cases socket w with ⟨s, hs, hok⟩ | ⟨hnone, herror⟩
    · refine Program.after_ok hok ?_
      rw [hs]
      dsimp only
      cases haccept : s.socket.accept w.kernel with
      | error e k => exact Program.after_error (onKernel_error haccept) (Still.hands ⟨rfl, rfl⟩)
      | ok candidate k =>
        refine Program.after_ok (onKernel_ok haccept) ?_
        cases candidate with
        | none => exact Still.hands ⟨rfl, rfl⟩
        | some candidate =>
          dsimp only
          set t : World υ := { w with kernel := k }
          have hturn : Hands [t.takenByOthers] w _ := insertAccepted_hands socket candidate t
          cases hrun : insertAccepted socket candidate t with
          | error e u =>
            rw [hrun] at hturn
            exact Program.after_error hrun hturn
          | ok _ u =>
            rw [hrun] at hturn
            exact Program.after_ok hrun (Handed.append hturn (ih u))
    · rw [hnone]
      exact Program.after_error herror (refl_of Still w).hands

end SocketContainer

theorem World.Cast.inserted {w : World υ} (h : w.Cast) {id : SocketIdentifier}
    (hid : w.sockets.contains id = true) : id ∈ insertedIdentifiers w.history := by
  rw [Table.contains_eq] at hid
  obtain ⟨s, hs⟩ := Option.isSome_iff_exists.mp hid
  by_contra habsent
  have hplays := (h id s hs).2
  rw [roleOf_eq_none habsent] at hplays
  unfold Socket.Plays at hplays
  cases htype : s.socket.socketType <;> simp [htype] at hplays

namespace SocketContainer

/-- The container is about to insert a socket under an identifier that it generates, which is valid and not used. -/
def InsertsFresh (w : World υ) : Prop :=
  w.accepting.identifier ≠ invalidSocketIdentifier ∧ w.sockets.contains w.accepting.identifier = false

/-- As long as not all identifiers were generated, each turn of the loop gets a new one. -/
theorem acceptCalls_fresh (socket : SocketIdentifier) (fuel : ℕ) {w : World υ} {total : ℕ}
    {pending : List SocketIdentifier} (hcast : w.Cast) (haccounted : Accounted (2 ^ 64) total pending w.sequenced)
    (htotal : after total ((acceptCalls socket fuel w).map World.takenByOthers) < 2 ^ 64) :
    ∀ u ∈ acceptCalls socket fuel w, InsertsFresh u := by
  induction fuel generalizing w total pending with
  | zero =>
    intro u hu
    cases hu
  | succ fuel ih =>
    rw [acceptCalls] at htotal ⊢
    cases hs : w.sockets[socket]? with
    | none =>
      intro u hu
      cases hu
    | some s =>
      rw [hs] at htotal
      dsimp only at htotal ⊢
      rcases LinuxSocket.accept_cases s.socket w.kernel with ⟨k, haccept, -⟩ | ⟨candidate, k, hlistening, haccept, hnew⟩ |
        ⟨e, k, haccept, -⟩
      · rw [haccept]
        intro u hu
        cases hu
      · rw [haccept] at htotal ⊢
        dsimp only at htotal ⊢
        set t : World υ := { w with kernel := k } with ht
        rw [List.map_cons, after] at htotal
        have hlt : total + t.takenByOthers + 1 < 2 ^ 64 := lt_of_le_of_lt (le_after _ _) htotal
        have hfresh : InsertsFresh t := by
          have hnumber : t.accepting.identifier = number (2 ^ 64) (total + t.takenByOthers) := by
            rw [← number_add, ← haccounted.next]
            rfl
          obtain ⟨hvalid, habsent, -⟩ := haccounted.fresh (Nat.le_add_right total t.takenByOthers) hlt
          rw [← hnumber] at hvalid habsent
          exact ⟨hvalid, Bool.eq_false_iff.mpr fun hcontains => habsent (hcast.inserted hcontains)⟩
        rintro u (_ | ⟨_, hu⟩)
        · exact hfresh
        · have hturn : Hands [t.takenByOthers] w _ := insertAccepted_hands socket candidate t
          have hfollows := insertAccepted_follows hs hlistening hnew
          cases hrun : insertAccepted socket candidate t with
          | error e v =>
            rw [hrun] at hu
            cases hu
          | ok _ v =>
            rw [hrun] at hturn hfollows hu htotal
            have haccounted' := haccounted.hand hturn
            have hcast' := (hfollows.steps (haccounted'.distinctIdentifiers hlt) hcast).1
            exact ih hcast' haccounted' htotal u hu
      · rw [haccept]
        intro u hu
        cases hu

def eventCalls (socketFileDescriptor : FileDescriptor) (socketEvents : UInt32) (w : World υ) : List (World υ) :=
  match w.fileDescriptorsToSockets[socketFileDescriptor]? with
  | none => []
  | some socket =>
    match w.sockets[socket]? with
    | none => []
    | some s =>
      if hasEvent socketEvents EPOLLRDHUP || hasEvent socketEvents EPOLLERR then []
      else if s.socket.socketType = .listening then acceptCalls socket (w.kernel.script.accepts.length + 1) w
      else []

theorem eventCalls_fresh (fd : FileDescriptor) (events : UInt32) {w : World υ} {total : ℕ}
    {pending : List SocketIdentifier} (hcast : w.Cast) (haccounted : Accounted (2 ^ 64) total pending w.sequenced)
    (htotal : after total ((eventCalls fd events w).map World.takenByOthers) < 2 ^ 64) :
    ∀ u ∈ eventCalls fd events w, InsertsFresh u := by
  have hnone : ∀ u ∈ ([] : List (World υ)), InsertsFresh u := fun u hu => by cases hu
  unfold eventCalls at htotal ⊢
  cases hfd : w.fileDescriptorsToSockets[fd]? with
  | none => exact hnone
  | some socket =>
    rw [hfd] at htotal
    dsimp only at htotal ⊢
    cases hs : w.sockets[socket]? with
    | none => exact hnone
    | some s =>
      rw [hs] at htotal
      dsimp only at htotal ⊢
      split_ifs at htotal ⊢
      · exact hnone
      · exact acceptCalls_fresh socket _ hcast haccounted htotal
      · exact hnone

section Handling

variable [Ballotin] (registry : ProtocolRegistry) {w : World υ}

theorem handleSocketEventsWork_hands {socket : SocketIdentifier} {s : Socket υ} (hs : w.sockets[socket]? = some s)
    {fd : FileDescriptor} (hfd : w.fileDescriptorsToSockets[fd]? = some socket) (events : UInt32) :
    Hands ((eventCalls fd events w).map World.takenByOthers) w
      (Program.final (handleSocketEventsWork registry socket events w)) := by
  have hserving := still_serving (υ := υ) registry socket
  refine Program.after_ok (dereference_some hs) ?_
  rw [eventCalls, hfd]
  dsimp only
  rw [hs]
  dsimp only
  by_cases hclosed : hasEvent events EPOLLRDHUP = true
  · rw [if_pos hclosed, if_pos (by rw [hclosed, Bool.true_or])]
    exact (eraseSocket_still _).hands
  by_cases haborted : hasEvent events EPOLLERR = true
  · rw [if_neg hclosed, if_pos haborted, if_pos (by rw [haborted, Bool.or_true])]
    exact (eraseSocket_still _).hands
  rw [if_neg hclosed, if_neg haborted, if_neg (by simp [hclosed, haborted])]
  cases htype : s.socket.socketType with
  | accepted | connected => exact (hserving.handleConnectedSocketEvents events).hands
  | connecting => exact (handleConnectingSocketEvents_still socket).hands
  | unbound => exact (Program.Within.throw _ : Program.Within Still _ w).hands
  | listening => exact acceptLoop_hands socket _ w

/-- The handling of an event generates its identifiers one after the other. -/
theorem handleSocketEvents_hands (fd : FileDescriptor) (events : UInt32) :
    Hands ((eventCalls fd events w).map World.takenByOthers) w
      (Program.final (handleSocketEvents registry fd events w)) := by
  cases hfd : w.fileDescriptorsToSockets[fd]? with
  | none =>
    rw [eventCalls, handleSocketEvents, Program.bind_ok Program.get_apply]
    simp only [hfd]
    exact (onKernel_still _).hands
  | some socket =>
    cases hs : w.sockets[socket]? with
    | none =>
      rw [eventCalls, handleSocketEvents, Program.bind_ok Program.get_apply]
      simp only [hfd, hs]
      rcases dereference_cases socket w with ⟨s, hs', -⟩ | ⟨-, herror⟩
      · rw [hs] at hs'
        cases hs'
      · exact Program.after_error herror (refl_of Still w).hands
    | some s =>
      rw [handleSocketEvents_work registry hfd hs, Program.tryCatchAll]
      have hwork := handleSocketEventsWork_hands registry hs hfd events
      cases hrun : handleSocketEventsWork registry socket events w with
      | ok _ t =>
        rw [hrun] at hwork
        exact hwork
      | error e t =>
        rw [hrun] at hwork
        exact hwork.still (eraseSocket_still _)

end Handling

end SocketContainer

open SocketContainer

/-- A task inserts at most the socket that it announces. -/
theorem Task.execute_inserts (registry : ProtocolRegistry) (task : Task υ) (w : World υ) :
    (task.announced = none ∧ Program.Within Still (task.execute registry) w) ∨
      ∃ id, task.announced = some id ∧ MayInsert id w (Program.final (task.execute registry w)) := by
  cases task with
  | connect id ipAddress port callback =>
    exact .inr ⟨id, rfl, createAndInsert_mayInsert _ _ _ _ _ fun _ _ => .pure _⟩
  | listen id ipAddress port callback =>
    refine .inr ⟨id, rfl, createAndInsert_mayInsert _ _ _ _ _ fun _ _ => ?_⟩
    exact .bind (dereference_within _) fun _ _ _ => notify_still _ _ _
  | close id => exact .inl ⟨rfl, eraseSocket_still id⟩
  | registerMessageConsumer id p consumer =>
    refine .inl ⟨rfl, .bind (getSocketOrThrow_within id) fun _ t _ => ?_⟩
    exact .bind (onProtocolReader_still _ _) fun _ u _ => .modify ⟨rfl, by simp [World.record, insertedIdentifiers, insertedIdentifier]⟩
  | registerRequestCallback id p consumer =>
    exact .inl ⟨rfl, .bind (getSocketOrThrow_within id) fun _ _ _ => onProtocolReader_still _ _⟩
  | sendBytes id bytes => exact .inl ⟨rfl, .bind (getSocketOrThrow_within id) fun _ _ _ => sendBytesTo_still _ _⟩
  | sendRequest id n bytes consumer =>
    refine .inl ⟨rfl, .bind (getSocketOrThrow_within id) fun _ t _ => .bind (onProtocolReader_still _ _) fun _ u _ => ?_⟩
    refine .bind (.modify ⟨rfl, ?_⟩) fun _ _ _ => sendBytesTo_still _ _
    simp [World.record, insertedIdentifiers, insertedIdentifier]

namespace EventLoop

def calls (l : EventLoop υ) : List (World υ) :=
  match l.control with
  | .batch (event :: _) =>
    if event.fileDescriptor = l.eventFileDescriptor then [] else eventCalls event.fileDescriptor event.events l.world
  | _ => []

def tasksBuffer (l : EventLoop υ) : List (Option (Task υ)) :=
  match l.control with
  | .tasks tasksBuffer _ => tasksBuffer
  | _ => []

def announcedIn (tasks : List (Option (Task υ))) : List SocketIdentifier :=
  tasks.filterMap fun task => task.bind Task.announced

def announced (l : EventLoop υ) : List SocketIdentifier :=
  announcedIn l.taskQueue.tasks ++ announcedIn l.tasksBuffer

variable [Ballotin] {registry : ProtocolRegistry} {l l' : EventLoop υ} {total : ℕ} {inFlight : List SocketIdentifier}

omit [Ballotin] in
/-- No identifier is generated, and those that tasks have are used or lost. -/
theorem accounted_without (haccounted : Accounted (2 ^ 64) total (inFlight ++ l.announced) l.world.sequenced)
    (hcalls : l.calls = []) (hnext : l'.world.nextSocketIdentifier = l.world.nextSocketIdentifier)
    (hused : (insertedIdentifiers l'.world.history ++ l'.announced).Subperm
      (insertedIdentifiers l.world.history ++ l.announced)) :
    Accounted (2 ^ 64) (after total (l.calls.map World.takenByOthers))
      (inFlight ++ givenIdentifiers (2 ^ 64) total (l.calls.map World.takenByOthers) ++ l'.announced)
      l'.world.sequenced := by
  rw [hcalls]
  refine haccounted.mono hnext ?_
  change (insertedIdentifiers l'.world.history ++ (inFlight ++ [] ++ l'.announced)).Subperm
    (insertedIdentifiers l.world.history ++ (inFlight ++ l.announced))
  have hreorder : ∀ m : EventLoop υ, (insertedIdentifiers m.world.history ++ (inFlight ++ m.announced)).Perm
      (inFlight ++ (insertedIdentifiers m.world.history ++ m.announced)) := fun m => List.perm_append_comm_assoc ..
  rw [List.append_nil, (hreorder l').subperm_right, (hreorder l).subperm_left]
  exact (List.subperm_append_left inFlight).mpr hused

/-- A step of the event thread: what it generates and what it uses. -/
theorem Step.accounted (h : Step registry l l') (hcontrol : l'.control ≠ l.control)
    (haccounted : Accounted (2 ^ 64) total (inFlight ++ l.announced) l.world.sequenced) :
    Accounted (2 ^ 64) (after total (l.calls.map World.takenByOthers))
      (inFlight ++ givenIdentifiers (2 ^ 64) total (l.calls.map World.takenByOthers) ++ l'.announced)
      l'.world.sequenced := by
  have hquiet : ∀ l' : EventLoop υ, l.calls = [] → l'.world = l.world → l'.announced.Subperm l.announced →
      Accounted (2 ^ 64) (after total (l.calls.map World.takenByOthers))
        (inFlight ++ givenIdentifiers (2 ^ 64) total (l.calls.map World.takenByOthers) ++ l'.announced)
        l'.world.sequenced := by
    intro l' hcalls hworld hannounced
    refine accounted_without haccounted hcalls (by rw [hworld]) ?_
    rw [hworld]
    exact (List.subperm_append_left _).mpr hannounced
  cases h with
  | insertTask task outcome => exact absurd rfl hcontrol
  | outcomes script => exact absurd rfl hcontrol
  | wait events hwaiting hevents =>
    exact hquiet _ (by simp [calls, hwaiting]) rfl (by simp [announced, tasksBuffer, waited, hwaiting, List.Subperm.refl])
  | waitFailed hwaiting =>
    exact hquiet _ (by simp [calls, hwaiting]) rfl (by simp [announced, tasksBuffer, hwaiting, List.Subperm.refl])
  | batchDone hbatch =>
    exact hquiet _ (by simp [calls, hbatch]) rfl (by simp [announced, tasksBuffer, hbatch, List.Subperm.refl])
  | tasksDone events htasks =>
    exact hquiet _ (by simp [calls, htasks]) rfl (by simp [announced, tasksBuffer, htasks, List.Subperm.refl])
  | abort buffer events htasks =>
    refine hquiet _ (by simp [calls, htasks]) rfl ?_
    refine (List.subperm_append_left _).mpr ?_
    exact (List.nil_sublist _).subperm
  | transfer event events outcome hbatch hfd =>
    have hcalls : l.calls = [] := by simp [calls, hbatch, hfd]
    have hannounced : l.announced = announcedIn l.taskQueue.tasks := by simp [announced, tasksBuffer, hbatch, announcedIn]
    unfold transferred
    rcases TaskQueue.transfer_cases l.taskQueue outcome with ⟨-, hok⟩ | ⟨e, herror, -⟩
    · rw [hok]
      refine hquiet _ hcalls rfl ?_
      rw [hannounced]
      exact List.Subperm.refl _
    · rw [herror]
      refine hquiet _ hcalls rfl ?_
      rw [hannounced]
      exact (List.append_nil (announcedIn l.taskQueue.tasks)) ▸ List.Subperm.refl _
  | socketEvents event events hbatch hfd =>
    have hhands := handleSocketEvents_hands registry (w := l.world) event.fileDescriptor event.events
    have hcalls : l.calls = eventCalls event.fileDescriptor event.events l.world := by simp [calls, hbatch, hfd]
    rw [← hcalls] at hhands
    have hannounced : l.announced = announcedIn l.taskQueue.tasks := by simp [announced, tasksBuffer, hbatch, announcedIn]
    have hreorder : ∀ given : List SocketIdentifier, (inFlight ++ given ++ announcedIn l.taskQueue.tasks).Perm
        (inFlight ++ announcedIn l.taskQueue.tasks ++ given) := by
      intro given
      rw [List.append_assoc, List.append_assoc]
      exact .append_left _ List.perm_append_comm
    rw [hannounced] at haccounted
    have hafter := haccounted.hand hhands
    have hlast : ∀ l' : EventLoop υ,
        l'.world = Program.final (handleSocketEvents registry event.fileDescriptor event.events l.world) →
        l'.announced = announcedIn l.taskQueue.tasks → Accounted (2 ^ 64) (after total (l.calls.map World.takenByOthers))
          (inFlight ++ givenIdentifiers (2 ^ 64) total (l.calls.map World.takenByOthers) ++ l'.announced)
          l'.world.sequenced := by
      intro l' hworld hannounced'
      rw [hworld, hannounced']
      exact hafter.mono rfl ((List.subperm_append_left _).mpr (hreorder _).subperm)
    unfold handled
    cases hrun : handleSocketEvents registry event.fileDescriptor event.events l.world with
    | ok _ world => exact hlast _ (by rw [hrun]; rfl) (List.append_nil _)
    | error e world => exact hlast _ (by rw [hrun]; rfl) (List.append_nil _)
  | executeTask task buffer events htasks =>
    have hcalls : l.calls = [] := by simp [calls, htasks]
    have hannounced : l.announced = announcedIn l.taskQueue.tasks ++ announcedIn (some task :: buffer) := by
      simp [announced, tasksBuffer, htasks]
    rcases task.execute_inserts registry l.world with ⟨hnone, hstill⟩ | ⟨id, hid, hinserts⟩
    · refine accounted_without haccounted hcalls hstill.next ?_
      rw [hannounced, show announcedIn (some task :: buffer) = announcedIn buffer by simp [announcedIn, hnone]]
      change (insertedIdentifiers (Program.final (task.execute registry l.world)).history ++ _).Subperm _
      rw [hstill.inserted]
      exact List.Subperm.refl _
    · refine accounted_without haccounted hcalls hinserts.next ?_
      rw [hannounced, show announcedIn (some task :: buffer) = id :: announcedIn buffer by simp [announcedIn, hid]]
      change (insertedIdentifiers (Program.final (task.execute registry l.world)).history ++
        (announcedIn l.taskQueue.tasks ++ announcedIn buffer)).Subperm _
      rcases hinserts.inserted with hsame | hmore
      · rw [hsame]
        refine (List.subperm_append_left _).mpr ((List.subperm_append_left _).mpr ?_)
        exact (List.sublist_cons_self _ _).subperm
      · rw [hmore, List.append_assoc, List.singleton_append]
        refine (List.subperm_append_left _).mpr ?_
        exact List.perm_middle.symm.subperm

end EventLoop

/-- A provider, how many identifiers were generated for it, those that other threads got and have not yet passed on in a
task, and the states in which the event thread generated one in the last step. -/
structure Ledger (υ : Type) where
  loop : EventLoop υ
  total : ℕ
  inFlight : List SocketIdentifier
  calls : List (World υ)

namespace Ledger

def Initial (a : Ledger υ) : Prop := a.loop.Initial ∧ a.total = 0 ∧ a.inFlight = [] ∧ a.calls = []

def pending (a : Ledger υ) : List SocketIdentifier := a.inFlight ++ a.loop.announced

def generated (l : EventLoop υ) : EventLoop υ :=
  { l with world := { l.world with nextSocketIdentifier := (l.world.nextSocketIdentifier + 1) % 2 ^ 64 } }

inductive Step [Ballotin] (registry : ProtocolRegistry) : Ledger υ → Ledger υ → Prop
  /-- `listen` and `connect` generate an identifier, on any thread -/
  | generate (a : Ledger υ) : Step registry a
      { loop := generated a.loop
        total := a.total + 1
        inFlight := a.inFlight ++ [a.loop.world.nextSocketIdentifier]
        calls := [] }
  /-- and pass it on in a task; the identifier is lost if the insertion throws -/
  | insertTask (a : Ledger υ) (task : Option (Task υ)) (outcome : Outcome) (inFlight : List SocketIdentifier)
      (h : a.inFlight.Perm (EventLoop.announcedIn [task] ++ inFlight)) : Step registry a
      { loop := { a.loop with taskQueue := Program.final (a.loop.taskQueue |> TaskQueue.insert task outcome) }
        total := a.total
        inFlight
        calls := [] }
  | outcomes (a : Ledger υ) (script : Script) : Step registry a { a with loop := a.loop.withScript script, calls := [] }
  /-- a step of the event thread; what other threads take meanwhile is in flight -/
  | turn (a : Ledger υ) (loop : EventLoop υ) (h : EventLoop.Step registry a.loop loop)
      (hcontrol : loop.control ≠ a.loop.control) : Step registry a
      { loop
        total := after a.total (a.loop.calls.map World.takenByOthers)
        inFlight := a.inFlight ++ givenIdentifiers (2 ^ 64) a.total (a.loop.calls.map World.takenByOthers)
        calls := a.loop.calls }

/-- The identifiers that are generated in a step are valid, different and not those of sockets that are there or
pending; no socket is inserted under an identifier that is used, and every accepted socket has a listening socket. -/
structure Fresh (a b : Ledger υ) : Prop where
  valid : invalidSocketIdentifier ∉ handed (2 ^ 64) a.total b.total
  distinct : (handed (2 ^ 64) a.total b.total).Nodup
  unused : ∀ id ∈ handed (2 ^ 64) a.total b.total, a.loop.world.sockets.contains id = false ∧ id ∉ a.pending
  accepting : ∀ w ∈ b.calls, SocketContainer.InsertsFresh w
  executing : ∀ (task : Task υ) (id : SocketIdentifier), a.loop.Executes task → task.announced = some id →
    a.loop.world.sockets.contains id = false
  accepted : ∀ (id : SocketIdentifier) (s : Socket υ), b.loop.world.sockets[id]? = some s →
    s.socket.socketType = .accepted → s.listeningSocketIdentifier ≠ invalidSocketIdentifier

variable [Ballotin] {registry : ProtocolRegistry} {a b : Ledger υ}

def Kept (a : Ledger υ) : Prop := Accounted (2 ^ 64) a.total a.pending a.loop.world.sequenced

omit [Ballotin] in
theorem Initial.kept (h : a.Initial) : a.Kept := by
  obtain ⟨hloop, htotal, hinFlight, -⟩ := h
  have hsequenced : a.loop.world.sequenced = { next := invalidSocketIdentifier + 1, history := [] } := by
    rw [World.sequenced, hloop.nextSocketIdentifier, hloop.history]
  have hpending : a.pending = [] := by
    simp [pending, hinFlight, EventLoop.announced, EventLoop.announcedIn, EventLoop.tasksBuffer, hloop.taskQueue,
      hloop.control]
  rw [Kept, hsequenced, hpending, htotal]
  exact .new (by norm_num)

theorem Step.kept (h : Step registry a b) (ha : a.Kept) : b.Kept := by
  cases h with
  | generate =>
    have hgenerated : Accounted (2 ^ 64) (a.total + 1) (a.pending ++ [a.loop.world.nextSocketIdentifier])
        (generated a.loop).world.sequenced := ha.generate rfl rfl
    refine hgenerated.mono rfl ((List.subperm_append_left _).mpr ?_)
    change (a.inFlight ++ [a.loop.world.nextSocketIdentifier] ++ a.loop.announced).Subperm
      (a.inFlight ++ a.loop.announced ++ [a.loop.world.nextSocketIdentifier])
    rw [List.append_assoc, List.append_assoc]
    exact (List.perm_append_comm.append_left _).subperm
  | insertTask task outcome inFlight hperm =>
    refine ha.mono rfl ((List.subperm_append_left _).mpr ?_)
    have hqueue : (EventLoop.announcedIn (Program.final (a.loop.taskQueue |> TaskQueue.insert task outcome)).tasks).Subperm
        (EventLoop.announcedIn [task] ++ EventLoop.announcedIn a.loop.taskQueue.tasks) := by
      cases outcome with
      | success =>
        rw [TaskQueue.insert_success, Program.final, EventLoop.announcedIn, List.filterMap_append]
        exact List.perm_append_comm.subperm
      | failure error =>
        rw [TaskQueue.insert_failure, Program.final]
        exact (List.sublist_append_right _ _).subperm
    change (inFlight ++ (EventLoop.announcedIn _ ++ EventLoop.announcedIn a.loop.tasksBuffer)).Subperm
      (a.inFlight ++ (EventLoop.announcedIn a.loop.taskQueue.tasks ++ EventLoop.announcedIn a.loop.tasksBuffer))
    rw [← List.append_assoc, ← List.append_assoc]
    refine (List.subperm_append_right _).mpr ?_
    rw [(hperm.append_right _).subperm_left, (List.perm_append_comm.append_right _).subperm_left, List.append_assoc]
    exact (List.subperm_append_left _).mpr hqueue
  | outcomes script => exact ha
  | turn loop hstep hcontrol => exact hstep.accounted hcontrol ha

theorem Step.follows (h : Step registry a b) : Follows a.loop.world b.loop.world := by
  cases h with
  | generate => exact Quiet.follows (.of_sockets rfl rfl)
  | insertTask => exact refl_of Follows _
  | outcomes => exact Quiet.follows (.of_sockets rfl rfl)
  | turn loop hstep hcontrol => exact hstep.follows

theorem Step.total_le (h : Step registry a b) : a.total ≤ b.total := by
  cases h with
  | generate => exact Nat.le_succ _
  | insertTask | outcomes => exact le_refl _
  | turn => exact le_after _ _

/-- Where fewer than all identifiers were generated, every socket has been reported for what it is. -/
def Told (a : Ledger υ) : Prop := DistinctIdentifiers a.loop.world.history → a.loop.world.Cast

theorem Step.told (h : Step registry a b) (ha : a.Told) : b.Told := fun hdistinct =>
  (h.follows.steps hdistinct (ha (hdistinct.mono h.follows.grows))).1

theorem Step.fresh (h : Step registry a b) (ha : a.Kept) (htold : a.Told) (htotal : b.total < 2 ^ 64) : a.Fresh b := by
  have hlt : a.total < 2 ^ 64 := lt_of_le_of_lt h.total_le htotal
  have hcast : a.loop.world.Cast := htold (ha.distinctIdentifiers hlt)
  have hfree : ∀ id, id ∉ insertedIdentifiers a.loop.world.history → a.loop.world.sockets.contains id = false :=
    fun id habsent => Bool.eq_false_iff.mpr fun hcontains => habsent (hcast.inserted hcontains)
  obtain ⟨hvalid, hdistinct, hunused⟩ := ha.handed_fresh htotal
  refine ⟨hvalid, hdistinct, fun id hid => ?_, ?_, ?_, ?_⟩
  · obtain ⟨habsent, hpending⟩ := hunused id hid
    exact ⟨hfree id habsent, hpending⟩
  · cases h with
    | generate | insertTask | outcomes =>
      intro w hw
      cases hw
    | turn loop hstep hcontrol =>
      change ∀ w ∈ a.loop.calls, SocketContainer.InsertsFresh w
      change after a.total (a.loop.calls.map World.takenByOthers) < 2 ^ 64 at htotal
      unfold EventLoop.calls at htotal ⊢
      split at htotal
      · split_ifs at htotal ⊢
        · intro w hw
          cases hw
        · exact SocketContainer.eventCalls_fresh _ _ hcast ha htotal
      · intro w hw
        cases hw
  · intro task id hexecutes hid
    refine hfree id (ha.pending_absent hlt ?_)
    obtain ⟨buffer, events, hcontrol⟩ := hexecutes
    have hmem : id ∈ EventLoop.announcedIn a.loop.tasksBuffer := by
      simp [EventLoop.announcedIn, EventLoop.tasksBuffer, hcontrol, hid]
    exact List.mem_append_right _ (List.mem_append_right _ hmem)
  · intro id s hs haccepted
    have hplays := ((h.told htold) ((h.kept ha).distinctIdentifiers htotal) id s hs).2
    rw [Socket.Plays, haccepted] at hplays
    exact hplays.2

omit [Ballotin] in
theorem Initial.told (h : a.Initial) : a.Told := by
  intro _ id s hs
  rw [h.1.sockets, Std.ExtTreeMap.getElem?_empty] at hs
  cases hs

theorem run_kept {start : Ledger υ} (hstart : start.Initial)
    (hrun : Relation.ReflTransGen (Step registry) start a) : a.Kept ∧ a.Told := by
  induction hrun with
  | refl => exact ⟨hstart.kept, hstart.told⟩
  | tail _ hlast ih => exact ⟨hlast.kept ih.1, hlast.told ih.2⟩

theorem total_le_of_run (hrun : Relation.ReflTransGen (Step registry) a b) : a.total ≤ b.total := by
  induction hrun with
  | refl => exact le_refl _
  | tail _ hlast ih => exact ih.trans hlast.total_le

/-- The identifiers of a run are all fresh exactly if there are fewer than `2 ^ 64`. -/
theorem fresh_run_iff {start : Ledger υ} (hstart : start.Initial)
    (hrun : Relation.ReflTransGen (Step registry) start b) :
    (∀ a a', Relation.ReflTransGen (Step registry) start a → Step registry a a' →
      Relation.ReflTransGen (Step registry) a' b → a.Fresh a') ↔ b.total < 2 ^ 64 := by
  constructor
  · intro hfresh
    refine lt_of_run (by rw [hstart.2.1]; norm_num) hrun fun a a' hbefore hstep hafter => ?_
    exact (hfresh a a' hbefore hstep hafter).valid
  · intro htotal a a' hbefore hstep hafter
    obtain ⟨hkept, htold⟩ := run_kept hstart hbefore
    exact hstep.fresh hkept htold (lt_of_le_of_lt (total_le_of_run hafter) htotal)

end Ledger

end Farseer.Linux
