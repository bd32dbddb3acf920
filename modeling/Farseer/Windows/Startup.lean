import Farseer.Container.Startup
import Farseer.Windows.Attended
import Farseer.Windows.Handling

/-! Which outcomes let `listen` and `connect` start. What fails after the socket is inserted is told to
the user by the guard that erases it; what fails before throws a socket away that nobody was told of. -/

namespace Farseer.Windows

variable {υ : Type}

def Grows (w w' : World υ) : Prop := w.history <+: w'.history

instance : IsPreorder (World υ) Grows where
  refl _ := List.prefix_rfl
  trans _ _ _ h h' := List.IsPrefix.trans h h'

variable {w w' : World υ}

open SocketContainer

theorem grows_lifecycle : Lifecycle (Grows (υ := υ)) where
  silent _ _ _ _ := List.prefix_rfl
  updated _ _ _ := List.prefix_rfl
  recorded _ _ _ := List.prefix_append _ _
  removed _ _ := List.prefix_rfl
  posted _ _ _ := List.prefix_rfl
  numbered _ _ := List.prefix_rfl
  inserted _ _ _ _ := List.prefix_append _ _

namespace OperationScheduler

variable [Ballotin] {registry : ProtocolRegistry} {l l' : OperationScheduler υ}

theorem Step.grows (h : Step registry l l') : Grows l.world l'.world := by
  cases h with
  | consume before after operation completion hnot houtstanding hcompletes =>
    exact grows_lifecycle.consumeOperation registry operation completion (w := dequeued before after l.world)
  | schedule | outcomes | startDraining | drain => exact refl_of Grows l.world

theorem later_grows (h : Relation.ReflTransGen (Step registry) l l') : Grows l.world l'.world := by
  induction h with
  | refl => exact refl_of Grows l.world
  | tail _ hstep ih => exact trans_of Grows ih hstep.grows

end OperationScheduler

/-- The calls that `ListenUserOperation` is about to make before it inserts its socket succeed. -/
structure Script.Listens (script : Script) : Prop where
  created : script.sockets.headD .success = .success
  associated : script.associations.headD .success = .success
  converted : script.conversions.headD .converted = .converted
  bound : script.binds.headD .success = .success
  listening : script.listens.headD .success = .success
  extended : script.extensions.headD .success = .success

/-- The same for `ConnectUserOperation`, which connects after that. -/
structure Script.Connects (script : Script) : Prop where
  created : script.sockets.headD .success = .success
  associated : script.associations.headD .success = .success

theorem draw_eq {α : Type} {outcomes : Script → List α} {update : List α → Script → Script} {otherwise : α}
    {script : Script} (hnil : outcomes script = [] → update [] script = script) :
    draw outcomes update otherwise script =
      .ok ((outcomes script).headD otherwise) (update (outcomes script).tail script) := by
  unfold draw
  cases h : outcomes script with
  | nil => rw [List.headD_nil, List.tail_nil, hnil h]
  | cons outcome rest => rfl

theorem check_ends {outcomes : Script → List Outcome} {update : List Outcome → Script → Script} {script : Script}
    (hnil : outcomes script = [] → update [] script = script) (message : String) :
    Program.Ends
      (fun _ script' => (outcomes script).headD .success = .success ∧ script' = update (outcomes script).tail script)
      (fun _ => (outcomes script).headD .success ≠ .success) (check message (draw outcomes update .success)) script := by
  refine .bind_ok (draw_eq hnil) ?_
  cases (outcomes script).headD .success with
  | success => exact .of_ok rfl ⟨rfl, rfl⟩
  | failure error => exact .of_error rfl nofun

namespace WindowsSocket

theorem convertAddress_ends (ipAddress : String) (script : Script) :
    Program.Ends
      (fun _ script' => script.conversions.headD .converted = .converted ∧
        script' = { script with conversions := script.conversions.tail })
      (fun _ => script.conversions.headD .converted ≠ .converted) (convertAddress ipAddress) script := by
  refine .bind_ok (draw_eq fun h => by rw [← h]) ?_
  cases script.conversions.headD .converted with
  | converted => exact .of_ok rfl ⟨rfl, rfl⟩
  | invalid | failure => exact .of_error rfl nofun

theorem create_ends (script : Script) :
    Program.Ends
      (fun _ script' => script.Connects ∧ script' =
        { script with sockets := script.sockets.tail, associations := script.associations.tail })
      (fun _ => ¬ script.Connects) create script := by
  refine .bind ((check_ends (fun h => by rw [← h]) _).mono (fun _ _ h => h) fun _ h h' => h h'.created) ?_
  intro _ t _ ⟨hcreated, ht⟩
  subst ht
  refine .bind ((check_ends (fun h => by rw [← h]) _).mono (fun _ _ h => h) fun _ h h' => h h'.associated) ?_
  intro _ u _ ⟨hassociated, hu⟩
  exact .of_ok rfl ⟨⟨hcreated, hassociated⟩, hu⟩

/-- A part of a member function that only makes a call. -/
theorem onScript_ends {α : Type} {x : ScriptM α} {Q : Script → Prop} {E : Prop} {s : WindowsSocket × Script}
    (h : Program.Ends (fun _ => Q) (fun _ => E) x s.2) :
    Program.Ends (fun _ t => Q t.2) (fun _ => E) (onScript x) s := by
  unfold Program.Ends onScript Program.zoom
  cases hrun : x s.2 with
  | ok a t => exact h.ok hrun
  | error e t => exact h.error hrun

/-- A new socket starts to listen if its calls succeed. -/
theorem listen_ends (ipAddress : String) (port : ℕ) (script : Script) :
    Program.Ends
      (fun _ _ => script.conversions.headD .converted = .converted ∧ script.binds.headD .success = .success ∧
        script.listens.headD .success = .success ∧ script.extensions.headD .success = .success)
      (fun _ => ¬ (script.conversions.headD .converted = .converted ∧ script.binds.headD .success = .success ∧
        script.listens.headD .success = .success ∧ script.extensions.headD .success = .success))
      (listen ipAddress port) ({ empty with hasHandle := true }, script) := by
  refine .get_bind (.bind ((onScript_ends (convertAddress_ends ipAddress script)).mono (fun _ _ h => h)
    fun _ h h' => h h'.1) ?_)
  rintro _ ⟨s, t⟩ _ ⟨hconverted, rfl⟩
  refine .bind ((onScript_ends (check_ends (fun h => by rw [← h]) _)).mono (fun _ _ h => h) fun _ h h' => h h'.2.1) ?_
  rintro _ ⟨s, t⟩ _ ⟨hbound, rfl⟩
  refine .bind ((onScript_ends (check_ends (fun h => by rw [← h]) _)).mono (fun _ _ h => h) fun _ h h' => h h'.2.2.1) ?_
  rintro _ ⟨s, t⟩ _ ⟨hlistening, rfl⟩
  refine .bind_ok (Program.modify_apply _) (.bind ((onScript_ends (check_ends (fun h => by rw [← h]) _)).mono
    (fun _ _ h => h) fun _ h h' => h h'.2.2.2) ?_)
  rintro _ ⟨s, t⟩ _ ⟨hextended, rfl⟩
  exact .of_ok rfl ⟨hconverted, hbound, hlistening, hextended⟩

end WindowsSocket

theorem createListeningSocket_ends (ipAddress : String) (port : ℕ) (script : Script) :
    Program.Ends (fun _ _ => script.Listens) (fun _ => ¬ script.Listens)
      (ListenUserOperation.createListeningSocket ipAddress port) script := by
  refine .bind ((WindowsSocket.create_ends script).mono (fun _ _ h => h)
    fun _ h h' => h ⟨h'.created, h'.associated⟩) ?_
  intro s t hcreate ⟨hconnects, ht⟩
  have hlisten := WindowsSocket.listen_ends ipAddress port t
  rw [WindowsSocket.create_ok hcreate]
  cases hrun : WindowsSocket.listen ipAddress port ({ WindowsSocket.empty with hasHandle := true }, t) with
  | ok _ u =>
    obtain ⟨hconverted, hbound, hlistening, hextended⟩ := hlisten.ok hrun
    rw [ht] at hconverted hbound hlistening hextended
    refine .of_ok (by rw [hrun]) ?_
    exact ⟨hconnects.created, hconnects.associated, hconverted, hbound, hlistening, hextended⟩
  | error e u =>
    refine .of_error (by rw [hrun]) fun h => hlisten.error hrun ?_
    rw [ht]
    exact ⟨h.converted, h.bound, h.listening, h.extended⟩

theorem insertSocket_arrived {id : SocketIdentifier} (habsent : w.sockets[id]? = none) (s : Socket υ) :
    ∃ w', insertSocket id s w = .ok id w' ∧ Arrived id s w w' := by
  have hfree : ¬ w.sockets.contains id = true := by
    rw [Table.contains_eq, habsent]
    exact Bool.false_ne_true
  rw [insertSocket, Program.bind_ok Program.get_apply, if_neg hfree]
  exact ⟨_, rfl, habsent, rfl, rfl, rfl, rfl⟩

/-- A socket is created and then inserted for its user; whatever follows, that is on record. -/
theorem createAndInsert_cases {α : Type} {x : ScriptM WindowsSocket} {succeeds : Prop}
    (hends : Program.Ends (fun _ _ => succeeds) (fun _ => ¬ succeeds) x w.script) {id : SocketIdentifier}
    {callback : ConnectionCallback υ} (habsent : w.sockets[id]? = none)
    (horigin : ∀ s script, x w.script = .ok s script →
      (newSocket s invalidSocketIdentifier callback false).origin = .listen ∨
        (newSocket s invalidSocketIdentifier callback false).origin = .connect)
    {f : SocketIdentifier → WorldM υ α} (hf : ∀ id t, Program.Within Grows (f id) t) :
    (succeeds ∧ (Program.final ((onScript x >>= fun s =>
        insertSocket id (newSocket s invalidSocketIdentifier callback false) >>= f) w)).roster.Opened id) ∨
      (¬ succeeds ∧ ∃ e script, (onScript x >>= fun s =>
        insertSocket id (newSocket s invalidSocketIdentifier callback false) >>= f) w =
          .error e { w with script }) := by
  cases hcreate : x w.script with
  | error e script => exact .inr ⟨hends.error hcreate, e, script, Program.bind_error (onScript_error hcreate)⟩
  | ok s script =>
    obtain ⟨t, hinsert, harrived⟩ := insertSocket_arrived (w := { w with script }) habsent
      (newSocket s invalidSocketIdentifier callback false)
    rw [Program.bind_ok (onScript_ok hcreate), Program.bind_ok hinsert]
    refine .inl ⟨hends.ok hcreate, Roster.Opened.mono (m := t.roster) ?_ (hf id t)⟩
    have hmem : .socketInserted id (newSocket s invalidSocketIdentifier callback false).origin ∈ t.roster.history := by
      rw [show t.roster.history = t.history from rfl, harrived.history]
      exact List.mem_append_right _ (List.mem_singleton_self _)
    rcases horigin s script hcreate with h | h
    · exact .inl (h ▸ hmem)
    · exact .inr (h ▸ hmem)

namespace Operation

/-- The calls that an operation is about to make before it inserts its socket succeed. -/
def Starts (script : Script) : Operation υ → Prop
  | listen .. => script.Listens
  | connect _ _ _ _ false => script.Connects
  | _ => False

variable [Ballotin] (registry : ProtocolRegistry)

theorem execute_starts {operation : Operation υ} {id : SocketIdentifier} (hid : operation.announced = some id)
    (habsent : w.sockets[id]? = none) (transferred : List UInt8) :
    (operation.Starts w.script ∧ (Program.final (operation.execute registry transferred w)).roster.Opened id) ∨
      (¬ operation.Starts w.script ∧
        ∃ e script, operation.execute registry transferred w = .error e { w with script }) := by
  cases operation with
  | listen id' ipAddress port callback =>
    cases hid
    refine createAndInsert_cases (createListeningSocket_ends ipAddress port w.script) habsent (fun s t hs => .inl ?_) ?_
    · simp [Socket.origin, newSocket, createListeningSocket_ok hs]
    · refine fun _ t => .bind ?_ fun _ _ _ => .pure _
      exact .scopeFailure (grows_lifecycle.housekeeping.opened _) fun _ => grows_lifecycle.toChores.erased _
  | connect id' ipAddress port callback pending =>
    cases pending with
    | true => cases hid
    | false =>
      cases hid
      refine createAndInsert_cases ((WindowsSocket.create_ends w.script).mono (fun _ _ h => h.1) fun _ h => h) habsent
        (fun s t hs => .inr ?_) ?_
      · rw [WindowsSocket.create_ok hs]
        rfl
      · refine fun _ t => .bind ?_ fun _ _ _ => .pure _
        exact .scopeFailure (grows_lifecycle.toChores.onWindowsSocket _ _) fun _ => grows_lifecycle.toChores.erased _
  | _ => cases hid

omit [Ballotin] in
theorem onFailure_announced {operation : Operation υ} {id : SocketIdentifier} (hid : operation.announced = some id)
    (errorCode : Option ℕ) : operation.onFailure errorCode = eraseSocket id := by
  cases operation with
  | listen => cases hid; rfl
  | connect id' ipAddress port callback pending =>
    cases pending with
    | true => cases hid
    | false => cases hid; rfl
  | _ => cases hid

/-- The failure hook finds no socket to erase if none was inserted. -/
theorem consume_starts {operation : Operation υ} {id : SocketIdentifier} (hid : operation.announced = some id)
    (habsent : w.sockets[id]? = none) (transferred : List UInt8) :
    Roster.Starts id (operation.Starts w.script) w.roster
      (OperationScheduler.consumeOperation registry operation (.succeeded transferred) w).roster := by
  have hexecuted := execute_starts registry hid habsent transferred
  unfold OperationScheduler.consumeOperation OperationScheduler.handleSuccessfulOperation
  dsimp only
  cases hrun : operation.execute registry transferred w with
  | ok result t =>
    rw [hrun] at hexecuted
    rcases hexecuted with ⟨hstarts, hopened⟩ | ⟨-, e, script, herror⟩
    · refine .inl ⟨hstarts, ?_⟩
      cases result <;> exact hopened
    · cases herror
  | error e t =>
    rw [hrun] at hexecuted
    rcases hexecuted with ⟨hstarts, hopened⟩ | ⟨hfails, e', script, herror⟩
    · exact .inl ⟨hstarts, hopened.mono (grows_lifecycle.housekeeping.handleFailedOperation operation _)⟩
    · cases herror
      refine .inr ⟨hfails, ?_⟩
      change (Program.final (operation.onFailure _ { w with script })).roster = w.roster
      rw [onFailure_announced hid, eraseSocket_none (w := { w with script }) habsent]
      rfl

end Operation

end Farseer.Windows
