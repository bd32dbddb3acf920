import Farseer.Container.Startup
import Farseer.Linux.Roster

/-! Which outcomes let `listen` and `connect` start. Everything that they call before the socket is
subscribed must succeed: what fails there throws a socket away that nobody was told of. -/

namespace Farseer.Linux

variable {υ : Type}

/-- The calls that `SocketContainer::listen` is about to make succeed. -/
structure Script.Listens (script : Script) : Prop where
  created : ∀ error, script.sockets.headD (.created 3) ≠ .failure error
  converted : script.conversions.headD .converted = .converted
  bound : script.binds.headD .success = .success
  listening : script.listens.headD .success = .success
  subscribed : script.controls.headD .success = .success

/-- The calls that `SocketContainer::connect` is about to make succeed. -/
structure Script.Connects (script : Script) : Prop where
  created : ∀ error, script.sockets.headD (.created 3) ≠ .failure error
  converted : script.conversions.headD .converted = .converted
  connecting : ∀ error, script.connects.headD .inProgress ≠ .failure error
  subscribed : script.controls.headD .success = .success

/-- A call that succeeds with some of the outcomes, and throws with the others. -/
theorem drawn_ends {α β : Type} {outcomes : Script → List α} {update : List α → Script → Script} {otherwise : α}
    {f : α → KernelM β} {P : α → Prop} {k : Kernel}
    (hnil : outcomes k.script = [] → update [] k.script = k.script)
    (hf : ∀ outcome k', Program.Ends (fun _ k'' => P outcome ∧ k''.script = k'.script) (fun _ => ¬ P outcome)
      (f outcome) k') :
    Program.Ends
      (fun _ k' => P ((outcomes k.script).headD otherwise) ∧ k'.script = update (outcomes k.script).tail k.script)
      (fun _ => ¬ P ((outcomes k.script).headD otherwise)) (draw outcomes update otherwise >>= f) k :=
  .bind_ok (draw_eq _ _ _ hnil) (hf _ _)

namespace LinuxSocket

theorem createSocket_ends (k : Kernel) :
    Program.Ends
      (fun _ k' => (∀ error, k.script.sockets.headD (.created 3) ≠ .failure error) ∧
        k'.script = { k.script with sockets := k.script.sockets.tail })
      (fun _ => ¬ ∀ error, k.script.sockets.headD (.created 3) ≠ .failure error) createSocket k := by
  refine drawn_ends (P := fun outcome => ∀ error, outcome ≠ SocketOutcome.failure error) (fun h => by rw [← h]) ?_
  intro outcome k'
  cases outcome with
  | created candidate => exact .of_ok rfl ⟨nofun, rfl⟩
  | failure error => exact .of_error rfl fun h => h error rfl

theorem convertAddress_ends (ipAddress : String) (k : Kernel) :
    Program.Ends
      (fun _ k' => k.script.conversions.headD .converted = .converted ∧
        k'.script = { k.script with conversions := k.script.conversions.tail })
      (fun _ => k.script.conversions.headD .converted ≠ .converted) (convertAddress ipAddress) k := by
  refine drawn_ends (P := (· = ConversionOutcome.converted)) (fun h => by rw [← h]) fun outcome k' => ?_
  cases outcome with
  | converted => exact .of_ok rfl ⟨rfl, rfl⟩
  | invalid | failure => exact .of_error rfl fun h => by cases h

theorem bindAddress_ends (k : Kernel) :
    Program.Ends
      (fun _ k' => k.script.binds.headD .success = .success ∧
        k'.script = { k.script with binds := k.script.binds.tail })
      (fun _ => k.script.binds.headD .success ≠ .success) bindAddress k := by
  refine drawn_ends (P := (· = Outcome.success)) (fun h => by rw [← h]) fun outcome k' => ?_
  cases outcome with
  | success => exact .of_ok rfl ⟨rfl, rfl⟩
  | failure => exact .of_error rfl fun h => by cases h

theorem startListening_ends (k : Kernel) :
    Program.Ends
      (fun _ k' => k.script.listens.headD .success = .success ∧
        k'.script = { k.script with listens := k.script.listens.tail })
      (fun _ => k.script.listens.headD .success ≠ .success) startListening k := by
  refine drawn_ends (P := (· = Outcome.success)) (fun h => by rw [← h]) fun outcome k' => ?_
  cases outcome with
  | success => exact .of_ok rfl ⟨rfl, rfl⟩
  | failure => exact .of_error rfl fun h => by cases h

theorem startConnecting_ends (k : Kernel) :
    Program.Ends
      (fun _ k' => (∀ error, k.script.connects.headD .inProgress ≠ .failure error) ∧
        k'.script = { k.script with connects := k.script.connects.tail })
      (fun _ => ¬ ∀ error, k.script.connects.headD .inProgress ≠ .failure error) startConnecting k := by
  refine drawn_ends (P := fun outcome => ∀ error, outcome ≠ ConnectOutcome.failure error) (fun h => by rw [← h]) ?_
  intro outcome k'
  cases outcome with
  | connected | inProgress => exact .of_ok rfl ⟨nofun, rfl⟩
  | failure error => exact .of_error rfl fun h => h error rfl

/-- `LinuxSocket::listen` returns if its calls succeed; the subscription is still to come. -/
theorem listen_ends (ipAddress : String) (port : ℕ) (k : Kernel) :
    Program.Ends
      (fun _ k' => (k.script.controls.headD .success = .success → k.script.Listens) ∧
        k'.script.controls = k.script.controls)
      (fun _ => ¬ k.script.Listens) (listen ipAddress port) k := by
  refine .bind ((createSocket_ends k).mono (fun _ _ h => h) fun _ h h' => h h'.created) ?_
  intro fd t _ ⟨hcreated, ht⟩
  refine .scopeFailure ?_ fun _ (h : ¬ k.script.Listens) => h
  refine .bind ((convertAddress_ends ipAddress t).mono (fun _ _ h => h) fun _ h h' => h ?_) ?_
  · rw [ht]
    exact h'.converted
  intro _ u _ ⟨hconverted, hu⟩
  refine .bind ((bindAddress_ends u).mono (fun _ _ h => h) fun _ h h' => h ?_) ?_
  · rw [hu, ht]
    exact h'.bound
  intro _ v _ ⟨hbound, hv⟩
  refine .bind ((startListening_ends v).mono (fun _ _ h => h) fun _ h h' => h ?_) ?_
  · rw [hv, hu, ht]
    exact h'.listening
  intro _ x _ ⟨hlistening, hx⟩
  rw [ht] at hconverted
  rw [hu, ht] at hbound
  rw [hv, hu, ht] at hlistening
  exact .of_ok rfl ⟨fun hcontrols => ⟨hcreated, hconverted, hbound, hlistening, hcontrols⟩, by rw [hx, hv, hu, ht]⟩

/-- The same of `LinuxSocket::connect`. -/
theorem connect_ends (ipAddress : String) (port : ℕ) (k : Kernel) :
    Program.Ends
      (fun _ k' => (k.script.controls.headD .success = .success → k.script.Connects) ∧
        k'.script.controls = k.script.controls)
      (fun _ => ¬ k.script.Connects) (connect ipAddress port) k := by
  refine .bind ((createSocket_ends k).mono (fun _ _ h => h) fun _ h h' => h h'.created) ?_
  intro fd t _ ⟨hcreated, ht⟩
  refine .scopeFailure ?_ fun _ (h : ¬ k.script.Connects) => h
  refine .bind ((convertAddress_ends ipAddress t).mono (fun _ _ h => h) fun _ h h' => h ?_) ?_
  · rw [ht]
    exact h'.converted
  intro _ u _ ⟨hconverted, hu⟩
  refine .bind ((startConnecting_ends u).mono (fun _ _ h => h) fun _ h h' => h ?_) ?_
  · rw [hu, ht]
    exact h'.connecting
  intro _ v _ ⟨hconnecting, hv⟩
  rw [ht] at hconverted
  rw [hu, ht] at hconnecting
  exact .of_ok rfl ⟨fun hcontrols => ⟨hcreated, hconverted, hconnecting, hcontrols⟩, by rw [hv, hu, ht]⟩

end LinuxSocket

theorem subscribe_ends {k : Kernel} {fd : FileDescriptor} (hopen : k.descriptors.contains fd = true)
    (hsub : k.interestList[fd]? = none) (events : UInt32) :
    Program.Ends (fun _ _ => k.script.controls.headD .success = .success)
      (fun _ => k.script.controls.headD .success ≠ .success) (EventPoll.subscribe fd events) k := by
  have hnot : k.interestList.contains fd = false := by rw [Table.contains_eq, hsub]; rfl
  refine .bind_ok (drawControl_eq k) (.get_bind ?_)
  cases hnext : k.script.controls.headD .success with
  | success =>
    dsimp only
    rw [if_pos (by rw [hopen, hnot]; rfl)]
    exact .of_ok rfl rfl
  | failure error => exact .of_error rfl fun h => by cases h

namespace SocketContainer

variable {w : World υ} {r : FileDescriptor}

theorem insertSocket_ends {k' : Kernel} (socket : Socket υ) (hconsistent : w.Consistent r)
    (hopened : Kernel.Opened w.kernel k' socket.socket.socket)
    (habsent : w.sockets[socket.socketIdentifier]? = none) (events : UInt32) :
    Program.Ends (fun _ _ => k'.script.controls.headD .success = .success)
      (fun _ => k'.script.controls.headD .success ≠ .success)
      (insertSocket events socket) { w with kernel := k' } := by
  obtain ⟨hopen, hsub, hmap⟩ := hconsistent.unused hopened
  have hfree : ¬ w.sockets.contains socket.socketIdentifier = true := by
    rw [Table.contains_eq, habsent]
    exact Bool.false_ne_true
  have hunmapped : ¬ w.fileDescriptorsToSockets.contains socket.socket.socket = true := by
    rw [Table.contains_eq, hmap]
    exact Bool.false_ne_true
  refine .get_bind ?_
  rw [if_neg hfree]
  refine .bind_ok (Program.set_apply _) (.scopeFailure (.get_bind ?_) fun _ h => h)
  rw [if_neg hunmapped]
  refine .bind_ok (Program.set_apply _) (.scopeFailure ?_ fun _ h => h)
  have hsubscribe := subscribe_ends hopen hsub events
  cases hrun : EventPoll.subscribe socket.socket.socket events k' with
  | ok _ k =>
    refine .bind_ok (by rw [onKernel, Program.zoom, hrun]) (.bind_ok (Program.modify_apply _) (.of_ok rfl ?_))
    exact hsubscribe.ok hrun
  | error e k => exact .bind_error (by rw [onKernel, Program.zoom, hrun]) (hsubscribe.error hrun)

/-- A socket is created and then inserted for its user. -/
theorem createAndInsert_starts {α : Type} {type : SocketType} (htype : type = .listening ∨ type = .connecting)
    {x : KernelM LinuxSocket} (hx : LinuxSocket.Creates type x) {succeeds : Prop}
    (hends : Program.Ends
      (fun _ k' => (w.kernel.script.controls.headD .success = .success → succeeds) ∧
        k'.script.controls = w.kernel.script.controls) (fun _ => ¬ succeeds) x w.kernel)
    (hsubscribed : succeeds → w.kernel.script.controls.headD .success = .success)
    (hconsistent : w.Consistent r) {id : SocketIdentifier} (habsent : w.sockets[id]? = none) (events : UInt32)
    (callback : ConnectionCallback υ) {f : SocketIdentifier → WorldM υ α}
    (hf : ∀ id t, t.history <+: (Program.final (f id t)).history) :
    Roster.Starts id succeeds w.roster (Program.final ((onKernel x >>= fun s =>
      insertSocket events (newSocket id invalidSocketIdentifier s callback) >>= f) w)).roster := by
  rcases hx w.kernel with ⟨s, k', hok, hnew⟩ | ⟨e, k', herror, -⟩
  · obtain ⟨hsucceeds, hcontrols⟩ := hends.ok hok
    have hinserted := insertSocket_ends (newSocket id invalidSocketIdentifier s callback) hconsistent
      hnew.opened habsent events
    rw [hcontrols] at hinserted
    rw [Program.bind_ok (onKernel_ok hok)]
    rcases insertSocket_outcome events (newSocket id invalidSocketIdentifier s callback) { w with kernel := k' } with
      ⟨t, hinsert, -, -, hhistory⟩ | ⟨e, t, herror, hsockets, hhistory⟩
    · have hmem : .socketInserted id (newSocket id invalidSocketIdentifier s callback).origin ∈ t.history := by
        rw [hhistory]
        exact List.mem_append_right _ (List.mem_singleton_self _)
      rw [Program.bind_ok hinsert]
      refine .inl ⟨hsucceeds (hinserted.ok hinsert), Roster.Opened.mono (m := t.roster) ?_ (hf _ t)⟩
      rcases htype with rfl | rfl
      · exact .inl (by simpa [World.roster, Socket.origin, newSocket, hnew.socketType] using hmem)
      · exact .inr (by simpa [World.roster, Socket.origin, newSocket, hnew.socketType] using hmem)
    · rw [Program.bind_error herror]
      refine .inr ⟨fun h => hinserted.error herror (hsubscribed h), ?_⟩
      rw [Program.final, World.roster, hsockets, hhistory]
      rfl
  · rw [Program.bind_error (onKernel_error herror)]
    exact .inr ⟨hends.error herror, rfl⟩

/-- `listen` inserts its socket, whatever the callback then does, or leaves the roster as it was. -/
theorem listen_starts (hconsistent : w.Consistent r) {id : SocketIdentifier} (habsent : w.sockets[id]? = none)
    (ipAddress : String) (port : ℕ) (callback : ConnectionCallback υ) :
    Roster.Starts id w.kernel.script.Listens w.roster
      (Program.final (listen id ipAddress port callback w)).roster := by
  refine createAndInsert_starts (.inl rfl) (LinuxSocket.listen_creates ipAddress port)
    (LinuxSocket.listen_ends ipAddress port w.kernel) Script.Listens.subscribed hconsistent habsent _ callback ?_
  intro socket t
  rcases dereference_cases socket t with ⟨s, -, hok⟩ | ⟨-, herror⟩
  · rw [Program.bind_ok hok, (notify_final s .serverOpen s.socketIdentifier t).2]
    exact List.prefix_append _ _
  · rw [Program.bind_error herror, Program.final]

theorem connect_starts (hconsistent : w.Consistent r) {id : SocketIdentifier} (habsent : w.sockets[id]? = none)
    (ipAddress : String) (port : ℕ) (callback : ConnectionCallback υ) :
    Roster.Starts id w.kernel.script.Connects w.roster
      (Program.final (connect id ipAddress port callback w)).roster :=
  createAndInsert_starts (.inr rfl) (LinuxSocket.connect_creates ipAddress port)
    (LinuxSocket.connect_ends ipAddress port w.kernel) Script.Connects.subscribed hconsistent habsent _ callback
    fun _ _ => List.prefix_rfl

end SocketContainer

namespace Task

def announced : Task υ → Option SocketIdentifier
  | connect socketIdentifier .. | listen socketIdentifier .. => some socketIdentifier
  | _ => none

/-- The calls that a task is about to make for its new socket succeed. -/
def Starts (script : Script) : Task υ → Prop
  | listen .. => script.Listens
  | connect .. => script.Connects
  | _ => False

theorem execute_starts (registry : ProtocolRegistry) {task : Task υ} {id : SocketIdentifier}
    (hid : task.announced = some id) {w : World υ} {r : FileDescriptor} (hconsistent : w.Consistent r)
    (habsent : w.sockets[id]? = none) :
    Roster.Starts id (task.Starts w.kernel.script) w.roster
      (Program.final (task.execute registry w)).roster := by
  cases task with
  | listen id' ipAddress port callback =>
    cases hid
    exact SocketContainer.listen_starts hconsistent habsent ipAddress port callback
  | connect id' ipAddress port callback =>
    cases hid
    exact SocketContainer.connect_starts hconsistent habsent ipAddress port callback
  | _ => cases hid

end Task

end Farseer.Linux
