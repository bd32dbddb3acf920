import Farseer.Container.Roster
import Farseer.Linux.Consistency

/-! The Linux container takes steps of the roster: each of its operations, however it ends, is some
steps of the sockets that it holds and of its history. -/

namespace Farseer.Linux

variable {υ : Type}

def World.roster (w : World υ) : Roster υ where
  sockets := fun id => w.sockets[id]?.map Socket.protocolReader
  history := w.history

def Socket.Plays (s : Socket υ) (role : Option Role) : Prop :=
  match s.socket.socketType with
  | .unbound => False
  | .listening => role = some .listening ∧ s.listeningSocketIdentifier = invalidSocketIdentifier
  | .connecting => role = some .connecting ∧ s.listeningSocketIdentifier = invalidSocketIdentifier
  | .connected => role = some .connected ∧ s.listeningSocketIdentifier = invalidSocketIdentifier
  | .accepted => role = some (.accepted s.listeningSocketIdentifier) ∧
      s.listeningSocketIdentifier ≠ invalidSocketIdentifier

/-- Between two operations every socket has been reported for what it is. -/
def World.Cast (w : World υ) : Prop :=
  ∀ (id : SocketIdentifier) (s : Socket υ), w.sockets[id]? = some s →
    s.socketIdentifier = id ∧ s.Plays (roleOf id w.history)

/-- What happened was told, and the container took steps of the roster. -/
structure Follows (w w' : World υ) : Prop where
  grows : w.history <+: w'.history
  steps : DistinctIdentifiers w'.history → w.Cast → w'.Cast ∧ w.roster.Steps w'.roster

instance : IsPreorder (World υ) Follows where
  refl _ := ⟨List.prefix_rfl, fun _ h => ⟨h, .refl⟩⟩
  trans w w' w'' h h' := by
    refine ⟨h.grows.trans h'.grows, fun hdistinct hcast => ?_⟩
    obtain ⟨hcast', hsteps⟩ := h.steps (hdistinct.mono h'.grows) hcast
    obtain ⟨hcast'', hsteps'⟩ := h'.steps hdistinct hcast'
    exact ⟨hcast'', hsteps.trans hsteps'⟩

/-- What a socket is and its handlers, without the bytes that wait in it. -/
def Socket.part (s : Socket υ) : SocketIdentifier × SocketIdentifier × SocketType × ProtocolReader υ :=
  (s.socketIdentifier, s.listeningSocketIdentifier, s.socket.socketType, s.protocolReader)

structure Quiet (w w' : World υ) : Prop where
  sockets : ∀ id : SocketIdentifier, w'.sockets[id]?.map Socket.part = w.sockets[id]?.map Socket.part
  history : w'.history = w.history

instance : IsPreorder (World υ) Quiet where
  refl _ := ⟨fun _ => rfl, rfl⟩
  trans _ _ _ h h' := ⟨fun id => (h'.sockets id).trans (h.sockets id), h'.history.trans h.history⟩

theorem Socket.Plays.of_part {s s' : Socket υ} (hpart : s'.part = s.part) {role : Option Role} (h : s.Plays role) :
    s'.Plays role := by
  obtain ⟨-, hlistener, htype, -⟩ : s'.socketIdentifier = s.socketIdentifier ∧
      s'.listeningSocketIdentifier = s.listeningSocketIdentifier ∧
      s'.socket.socketType = s.socket.socketType ∧ s'.protocolReader = s.protocolReader := by
    simpa [Socket.part] using hpart
  rwa [Socket.Plays, htype, hlistener]

/-- A call of another callback does not change what a socket has been reported for. -/
theorem Socket.Plays.afterCall {s : Socket υ} {role : Option Role} (h : s.Plays role)
    {id receiver argument : SocketIdentifier} {event : SocketEvent}
    (hreceiver : receiver ≠ id ∨ s.socket.socketType = .listening) :
    s.Plays (roleAfter (υ := υ) id role (.notified receiver event argument)) := by
  unfold Socket.Plays at *
  cases htype : s.socket.socketType with
  | unbound => simp [htype] at h
  | listening | connected | accepted =>
    rw [htype] at h
    obtain ⟨rfl, hlistener⟩ := h
    cases event <;> exact ⟨rfl, hlistener⟩
  | connecting =>
    rw [htype] at h
    obtain ⟨rfl, hlistener⟩ := h
    have hne : receiver ≠ id := by simpa [htype] using hreceiver
    cases event <;> simp [roleAfter, Role.afterCall, hlistener, hne]

theorem Quiet.follows {w w' : World υ} (h : Quiet w w') : Follows w w' := by
  have hroster : w'.roster = w.roster := by
    have hreader : Socket.protocolReader (υ := υ) = (fun part => part.2.2.2) ∘ Socket.part := rfl
    unfold World.roster
    congr 1
    · funext id
      rw [hreader, ← Option.map_map, h.sockets, Option.map_map]
    · exact h.history
  refine ⟨by rw [h.history], fun _ hcast => ⟨fun id s' hs' => ?_, by rw [hroster]⟩⟩
  have hpart := h.sockets id
  rw [hs'] at hpart
  obtain ⟨s, hs, heq⟩ := Option.map_eq_some_iff.mp hpart.symm
  obtain ⟨hid, hplays⟩ := hcast id s hs
  rw [h.history]
  exact ⟨(congrArg Prod.fst heq).symm.trans hid, hplays.of_part heq.symm⟩

theorem Quiet.of_sockets {w w' : World υ} (hsockets : w'.sockets = w.sockets) (hhistory : w'.history = w.history) :
    Quiet w w' := ⟨fun _ => by rw [hsockets], hhistory⟩

theorem Quiet.updateSocket {f : Socket υ → Socket υ} (id : SocketIdentifier) (w : World υ)
    (hf : ∀ s, w.sockets[id]? = some s → (f s).part = s.part) : Quiet w (w.updateSocket id f) := by
  refine ⟨fun id' => ?_, rfl⟩
  rw [World.updateSocket, Table.lookup_modify]
  split_ifs with heq
  · rw [← heq]
    cases hs : w.sockets[id]? with
    | none => rfl
    | some s => rw [Option.map_some, Option.map_some, Option.map_some, hf s hs]
  · rfl

namespace SocketContainer

variable {w : World υ}

theorem onKernel_quiet {α : Type} (x : KernelM α) : Program.Within Quiet (onKernel x) w := by
  unfold onKernel Program.Within Program.zoom
  cases x w.kernel <;> exact .of_sockets rfl rfl

theorem sendBytesTo_quiet (id : SocketIdentifier) (bytes : List UInt8) :
    Program.Within Quiet (sendBytesTo id bytes) w := by
  refine .bind ?_ fun exhausted t _ => .bind (dereference_within id) fun s u _ => onKernel_quiet _
  rw [Program.Within, onLinuxSocket]
  cases hs : w.sockets[id]? with
  | none => exact refl_of Quiet w
  | some s =>
    dsimp only
    have hquiet : ∀ (l : LinuxSocket) (k : Kernel), l.socketType = s.socket.socketType →
        Quiet w { w.updateSocket id (fun s => { s with socket := l }) with kernel := k } := by
      intro l k hl
      have hupdate : Quiet w (w.updateSocket id fun s => { s with socket := l }) := .updateSocket id w fun s' hs' => by
        rw [hs] at hs'
        cases hs'
        simp [Socket.part, hl]
      refine trans_of Quiet hupdate ?_
      exact .of_sockets rfl rfl
    cases hestablished : s.socket.isEstablished with
    | false =>
      rw [LinuxSocket.sendBytes_refused hestablished]
      exact hquiet _ _ rfl
    | true =>
      obtain ⟨m, k', -, -, hok | ⟨-, -, e, -, herror⟩⟩ :=
        LinuxSocket.sendBytes_established hestablished bytes w.kernel
      · rw [hok]
        exact hquiet _ _ rfl
      · rw [herror]
        exact hquiet _ _ rfl

/-- However `insertSocket` ends, the maps and the history are in step: a socket is inserted under a
free identifier and recorded, or nothing is. -/
theorem insertSocket_outcome (events : UInt32) (socket : Socket υ) (w : World υ) :
    (∃ w', insertSocket events socket w = .ok socket.socketIdentifier w' ∧
        w.sockets[socket.socketIdentifier]? = none ∧
        w'.sockets = w.sockets.insert socket.socketIdentifier socket ∧
        w'.history = w.history ++ [.socketInserted socket.socketIdentifier socket.origin]) ∨
      ∃ e w', insertSocket events socket w = .error e w' ∧ w'.sockets = w.sockets ∧ w'.history = w.history := by
  rw [insertSocket, Program.bind_ok Program.get_apply]
  cases hid : w.sockets[socket.socketIdentifier]? with
  | some other =>
    rw [if_pos (by rw [Table.contains_eq, hid]; rfl)]
    exact .inr ⟨_, _, rfl, rfl, rfl⟩
  | none =>
    have hfree : ¬ w.sockets.contains socket.socketIdentifier = true := by
      rw [Table.contains_eq, hid]
      exact Bool.false_ne_true
    have hfound : (w.sockets.insert socket.socketIdentifier socket)[socket.socketIdentifier]? = some socket := by
      rw [Table.lookup_insert, if_pos rfl]
    rw [if_neg hfree, Program.bind_ok (Program.set_apply _), Program.scopeFailure, insertDescriptor,
      Program.bind_ok Program.get_apply]
    dsimp only
    split_ifs with hmapped
    · refine .inr ⟨_, _, rfl, ?_, ?_⟩
      · simp only [World.destroySocket, hfound]
        exact Table.erase_insert hid
      · simp only [World.destroySocket, hfound]
    · rw [Program.bind_ok (Program.set_apply _), Program.scopeFailure, subscribeSocket]
      cases hsubscribe : EventPoll.subscribe socket.socket.socket events w.kernel with
      | ok _ k =>
        rw [Program.bind_ok (by rw [onKernel, Program.zoom, hsubscribe]), Program.bind_ok (Program.modify_apply _)]
        exact .inl ⟨_, rfl, rfl, rfl, rfl⟩
      | error e k =>
        rw [Program.bind_error (by rw [onKernel, Program.zoom, hsubscribe])]
        refine .inr ⟨e, _, rfl, ?_, ?_⟩
        · simp only [World.destroySocket, hfound]
          exact Table.erase_insert hid
        · simp only [World.destroySocket, hfound]

theorem notify_final (s : Socket υ) (event : SocketEvent) (argument : SocketIdentifier) (w : World υ) :
    (Program.final (notify s event argument w)).sockets = w.sockets ∧
      (Program.final (notify s event argument w)).history =
        w.history ++ [.notified s.socketIdentifier event argument] := by
  rw [notify, Program.bind_ok (Program.modify_apply _), onUser, Program.zoom]
  cases s.connectionCallback event argument (w.record (.notified s.socketIdentifier event argument)).user with
  | ok _ user => exact ⟨rfl, rfl⟩
  | error e user => exact ⟨rfl, rfl⟩

theorem roster_notify {w w' : World υ} {receiver argument : SocketIdentifier} {event : SocketEvent}
    (hsockets : w'.sockets = w.sockets) (hhistory : w'.history = w.history ++ [.notified receiver event argument]) :
    w'.roster = w.roster.notify receiver event argument := by
  unfold World.roster
  rw [hsockets, hhistory]
  rfl

theorem roster_insert {w w' : World υ} {socket : Socket υ} (hreader : socket.protocolReader = ProtocolReader.new)
    (hsockets : w'.sockets = w.sockets.insert socket.socketIdentifier socket)
    (hhistory : w'.history = w.history ++ [.socketInserted socket.socketIdentifier socket.origin]) :
    w'.roster = w.roster.insert socket.socketIdentifier socket.origin := by
  unfold World.roster
  rw [hsockets, hhistory, Table.map_lookup_insert_eq, hreader]
  rfl

theorem roster_absent {w : World υ} {id : SocketIdentifier} (h : w.sockets[id]? = none) :
    w.roster.sockets id = none := by
  simp [World.roster, h]

theorem roster_present {w : World υ} {id : SocketIdentifier} {s : Socket υ} (h : w.sockets[id]? = some s) :
    w.roster.sockets id = some s.protocolReader := by
  simp [World.roster, h]

/-- `eraseSocket` as one change: a call of the callback, or none, and then the socket is gone. -/
theorem eraseSocket_final {id : SocketIdentifier} {s : Socket υ} (hs : w.sockets[id]? = some s) :
    (Program.final (eraseSocket id w)).sockets = w.sockets.erase id ∧
      (Program.final (eraseSocket id w)).history = w.history ++
        (if s.listeningSocketIdentifier ≠ invalidSocketIdentifier then
          (w.sockets[s.listeningSocketIdentifier]?.map fun listener =>
            .notified listener.socketIdentifier .clientClosed id).toList
        else [.notified s.socketIdentifier .serverClosed id]) := by
  have hremoved : ∀ w' : World υ, w'.sockets = w.sockets →
      (removeSocket id w').sockets = w.sockets.erase id ∧ (removeSocket id w').history = w'.history := by
    intro w' hsockets
    obtain ⟨script, hremove⟩ := removeSocket_eq (w := w') (by rw [hsockets]; exact hs)
    rw [hremove]
    exact ⟨by rw [← hsockets]; rfl, rfl⟩
  rw [eraseSocket_some hs, Program.final]
  unfold notifyClosed
  split_ifs with hlistener
  · rw [Program.bind_ok Program.get_apply]
    cases hl : w.sockets[s.listeningSocketIdentifier]? with
    | none =>
      obtain ⟨hsockets, hhistory⟩ := hremoved w rfl
      exact ⟨hsockets, hhistory.trans (List.append_nil _).symm⟩
    | some listener =>
      obtain ⟨hsame, hcalled⟩ := notify_final listener .clientClosed id w
      obtain ⟨hsockets, hhistory⟩ := hremoved _ hsame
      exact ⟨hsockets, hhistory.trans hcalled⟩
  · obtain ⟨hsame, hcalled⟩ := notify_final s .serverClosed id w
    obtain ⟨hsockets, hhistory⟩ := hremoved _ hsame
    exact ⟨hsockets, hhistory.trans hcalled⟩

theorem eraseSocket_follows (id : SocketIdentifier) : Program.Within Follows (eraseSocket id) w := by
  cases hs : w.sockets[id]? with
  | none => exact .of_ok (eraseSocket_none hs) (refl_of Follows w)
  | some s =>
    obtain ⟨hsockets, hhistory⟩ := eraseSocket_final hs
    refine ⟨by rw [hhistory]; exact List.prefix_append _ _, fun _ hcast => ?_⟩
    obtain ⟨hid, hplays⟩ := hcast id s hs
    have hroster : (Program.final (eraseSocket id w)).roster = w.roster.erase id := by
      have hrole : w.roster.role id = roleOf id w.history := rfl
      have hmissing : ∀ listener : SocketIdentifier,
          (w.roster.sockets listener).isSome = w.sockets[listener]?.isSome := by
        intro listener
        simp [World.roster]
      have hleft : (Program.final (eraseSocket id w)).roster =
          { sockets := Function.update w.roster.sockets id none
            history := (Program.final (eraseSocket id w)).history } := by
        rw [World.roster, hsockets, Table.map_lookup_erase_eq]
        rfl
      rw [hleft, hhistory, Roster.erase]
      unfold Socket.Plays at hplays
      cases htype : s.socket.socketType with
      | unbound => simp [htype] at hplays
      | listening | connecting | connected =>
        rw [htype] at hplays
        rw [hrole, hplays.1, if_neg (not_not.mpr hplays.2), hid]
        rfl
      | accepted =>
        rw [htype] at hplays
        rw [hrole, hplays.1, if_pos hplays.2]
        dsimp only
        rw [hmissing]
        cases hl : w.sockets[s.listeningSocketIdentifier]? with
        | none => simp [Roster.remove, World.roster]
        | some listener =>
          rw [if_pos (by simp), Option.map_some, (hcast _ listener hl).1]
          rfl
    refine ⟨fun id' s' hs' => ?_, ?_⟩
    · rw [hsockets] at hs'
      obtain ⟨-, hs'⟩ := Table.lookup_erase_some hs'
      refine ⟨(hcast id' s' hs').1, ?_⟩
      have hrole : roleOf id' (Program.final (eraseSocket id w)).history = roleOf id' w.history := by
        rcases Roster.erase_role id w.roster id' with hsame
        rw [← hroster] at hsame
        exact hsame
      rw [hrole]
      exact (hcast id' s' hs').2
    · rw [hroster]
      exact .single (.erased _ _ (by rw [roster_present hs]; simp))

theorem Cast.insert {w w' : World υ} (hcast : w.Cast) {socket : Socket υ}
    (hsockets : w'.sockets = w.sockets.insert socket.socketIdentifier socket)
    (hothers : ∀ (id : SocketIdentifier) (s : Socket υ), id ≠ socket.socketIdentifier → w.sockets[id]? = some s →
      s.Plays (roleOf id w.history) → s.Plays (roleOf id w'.history))
    (hplays : socket.Plays (roleOf socket.socketIdentifier w'.history)) : w'.Cast := by
  intro id s hs
  rw [hsockets] at hs
  rcases Table.lookup_insert_some hs with ⟨rfl, rfl⟩ | ⟨hne, hs⟩
  · exact ⟨rfl, hplays⟩
  · obtain ⟨hkey, hold⟩ := hcast id s hs
    exact ⟨hkey, hothers id s hne hs hold⟩

theorem insertedRole_other {id id' : SocketIdentifier} (h : id' ≠ id) (origin : SocketOrigin)
    (history : List (ContainerEvent υ)) :
    roleOf id' (history ++ [.socketInserted id origin]) = roleOf id' history := by
  rw [roleOf_concat]
  simp [roleAfter, Ne.symm h]

theorem follows_listen {w t w' : World υ} {socket : Socket υ} (htype : socket.socket.socketType = .listening)
    (hlistener : socket.listeningSocketIdentifier = invalidSocketIdentifier)
    (hreader : socket.protocolReader = ProtocolReader.new) (habsent : w.sockets[socket.socketIdentifier]? = none)
    (hsockets : t.sockets = w.sockets.insert socket.socketIdentifier socket)
    (hhistory : t.history = w.history ++ [.socketInserted socket.socketIdentifier socket.origin])
    (hsame : w'.sockets = t.sockets) (hcalled : w'.history =
      t.history ++ [.notified socket.socketIdentifier .serverOpen socket.socketIdentifier]) : Follows w w' := by
  have horigin : socket.origin = .listen := by simp [Socket.origin, hlistener, htype]
  have hopening : roleOf socket.socketIdentifier t.history = some .opening := by
    rw [hhistory, roleOf_concat, horigin]
    simp [roleAfter, SocketOrigin.role]
  refine ⟨?_, fun _ hcast => ⟨?_, ?_⟩⟩
  · rw [hcalled, hhistory, List.append_assoc]
    exact List.prefix_append _ _
  · refine Cast.insert hcast (hsame.trans hsockets) (fun id s hne _ hold => ?_) ?_
    · rw [hcalled, roleOf_concat, hhistory, insertedRole_other hne]
      exact hold.afterCall (.inl hne.symm)
    · rw [hcalled, roleOf_concat, hopening]
      simp [Socket.Plays, htype, hlistener, roleAfter, Role.afterCall]
  · rw [roster_notify hsame hcalled]
    refine .tail (.single ?_) (.serverOpened _ _ ?_ hopening)
    · rw [roster_insert hreader hsockets hhistory]
      exact .inserted _ _ _ (roster_absent habsent) fun listener h => by
        rw [horigin] at h
        cases h
    · rw [roster_present (s := socket) (by rw [hsockets, Table.lookup_insert, if_pos rfl])]
      simp

theorem follows_connect {w w' : World υ} {socket : Socket υ} (htype : socket.socket.socketType = .connecting)
    (hlistener : socket.listeningSocketIdentifier = invalidSocketIdentifier)
    (hreader : socket.protocolReader = ProtocolReader.new) (habsent : w.sockets[socket.socketIdentifier]? = none)
    (hsockets : w'.sockets = w.sockets.insert socket.socketIdentifier socket)
    (hhistory : w'.history = w.history ++ [.socketInserted socket.socketIdentifier socket.origin]) :
    Follows w w' := by
  have horigin : socket.origin = .connect := by simp [Socket.origin, hlistener, htype]
  refine ⟨?_, fun _ hcast => ⟨?_, ?_⟩⟩
  · rw [hhistory]
    exact List.prefix_append _ _
  · refine Cast.insert hcast hsockets (fun id s hne _ hold => ?_) ?_
    · rwa [hhistory, insertedRole_other hne]
    · rw [hhistory, roleOf_concat, horigin]
      simp [Socket.Plays, htype, hlistener, roleAfter, SocketOrigin.role]
  · rw [roster_insert hreader hsockets hhistory]
    exact .single (.inserted _ _ _ (roster_absent habsent) fun listener h => by
      rw [horigin] at h
      cases h)

theorem follows_accept {w t w' : World υ} {listener : SocketIdentifier} {l socket : Socket υ}
    (hl : w.sockets[listener]? = some l) (hlistening : l.socket.socketType = .listening)
    (htype : socket.socket.socketType = .accepted) (hlistener : socket.listeningSocketIdentifier = l.socketIdentifier)
    (hreader : socket.protocolReader = ProtocolReader.new) (habsent : w.sockets[socket.socketIdentifier]? = none)
    (hsockets : t.sockets = w.sockets.insert socket.socketIdentifier socket)
    (hhistory : t.history = w.history ++ [.socketInserted socket.socketIdentifier socket.origin])
    (hsame : w'.sockets = t.sockets) (hcalled : w'.history =
      t.history ++ [.notified l.socketIdentifier .clientOpen socket.socketIdentifier]) : Follows w w' := by
  have hgrows : w.history <+: w'.history := by
    rw [hcalled, hhistory, List.append_assoc]
    exact List.prefix_append _ _
  refine ⟨hgrows, fun hdistinct hcast => ?_⟩
  obtain ⟨hkey, hplays⟩ := hcast listener l hl
  rw [hkey] at hlistener hcalled
  have hrole : roleOf listener w.history = some .listening := by
    rw [Socket.Plays, hlistening] at hplays
    exact hplays.1
  have hne : socket.socketIdentifier ≠ listener := by
    rintro heq
    rw [heq, hl] at habsent
    cases habsent
  -- a listening socket has an identifier, and so its clients know that they were accepted
  have hvalid : listener ≠ invalidSocketIdentifier := by
    have hknown : listener ∈ insertedIdentifiers w.history := by
      by_contra hunknown
      rw [roleOf_eq_none hunknown] at hrole
      cases hrole
    rintro rfl
    exact (List.nodup_cons.mp (hdistinct.mono hgrows)).1 hknown
  have horigin : socket.origin = .accept listener := by simp [Socket.origin, hlistener, hvalid]
  have hpending : roleOf socket.socketIdentifier t.history = some (.pending listener) := by
    rw [hhistory, roleOf_concat, horigin]
    simp [roleAfter, SocketOrigin.role]
  have hrole' : roleOf listener t.history = some .listening := by
    rw [hhistory, insertedRole_other hne.symm, hrole]
  refine ⟨?_, ?_⟩
  · refine Cast.insert hcast (hsame.trans hsockets) (fun id s hid hs hold => ?_) ?_
    · rw [hcalled, roleOf_concat, hhistory, insertedRole_other hid]
      refine hold.afterCall ?_
      by_cases heq : listener = id
      · subst heq
        rw [hl] at hs
        cases hs
        exact .inr hlistening
      · exact .inl heq
    · rw [hcalled, roleOf_concat, hpending]
      simp [Socket.Plays, htype, hlistener, roleAfter, Role.afterCall, hvalid]
  · rw [roster_notify hsame hcalled]
    refine .tail (.single ?_) (.accepted _ _ _ ?_ hpending ?_ hrole')
    · rw [roster_insert hreader hsockets hhistory]
      exact .inserted _ _ _ (roster_absent habsent) fun listener' h => by
        rw [horigin] at h
        cases h
        exact .inr hrole
    · rw [roster_present (s := socket) (by rw [hsockets, Table.lookup_insert, if_pos rfl])]
      simp
    · rw [roster_present (s := l) (by rw [hsockets, Table.lookup_insert, if_neg hne, hl])]
      simp

theorem listen_follows (id : SocketIdentifier) (ipAddress : String) (port : ℕ) (callback : ConnectionCallback υ) :
    Program.Within Follows (listen id ipAddress port callback) w := by
  unfold Program.Within
  rcases LinuxSocket.listen_creates ipAddress port w.kernel with ⟨s, k', hok, hnew⟩ | ⟨e, k', herror, -⟩
  · refine Program.after_ok (onKernel_ok hok) ?_
    rcases insertSocket_outcome (EPOLLIN ||| EPOLLET) (newSocket id invalidSocketIdentifier s callback)
      { w with kernel := k' } with ⟨t, hinsert, habsent, hsockets, hhistory⟩ | ⟨e, t, herror, hsockets, hhistory⟩
    · have hfound : t.sockets[id]? = some (newSocket id invalidSocketIdentifier s callback) := by
        rw [hsockets, Table.lookup_insert]
        exact if_pos rfl
      refine Program.after_ok hinsert (Program.after_ok (dereference_some hfound) ?_)
      obtain ⟨hsame, hcalled⟩ := notify_final (newSocket id invalidSocketIdentifier s callback) .serverOpen id t
      exact follows_listen hnew.socketType rfl rfl habsent hsockets hhistory hsame hcalled
    · exact Program.after_error herror (Quiet.follows (.of_sockets hsockets hhistory))
  · exact Program.after_error (onKernel_error herror) (Quiet.follows (.of_sockets rfl rfl))

theorem connect_follows (id : SocketIdentifier) (ipAddress : String) (port : ℕ) (callback : ConnectionCallback υ) :
    Program.Within Follows (connect id ipAddress port callback) w := by
  unfold Program.Within
  rcases LinuxSocket.connect_creates ipAddress port w.kernel with ⟨s, k', hok, hnew⟩ | ⟨e, k', herror, -⟩
  · refine Program.after_ok (onKernel_ok hok) ?_
    rcases insertSocket_outcome (EPOLLOUT ||| EPOLLET) (newSocket id invalidSocketIdentifier s callback)
      { w with kernel := k' } with ⟨t, hinsert, habsent, hsockets, hhistory⟩ | ⟨e, t, herror, hsockets, hhistory⟩
    · exact Program.after_ok hinsert (follows_connect hnew.socketType rfl rfl habsent hsockets hhistory)
    · exact Program.after_error herror (Quiet.follows (.of_sockets hsockets hhistory))
  · exact Program.after_error (onKernel_error herror) (Quiet.follows (.of_sockets rfl rfl))

theorem insertAccepted_follows {listener : SocketIdentifier} {l : Socket υ} (hl : w.sockets[listener]? = some l)
    (hlistening : l.socket.socketType = .listening) {k' : Kernel} {candidate : LinuxSocket}
    (hnew : LinuxSocket.New .accepted w.kernel k' candidate) :
    Follows w (Program.final (insertAccepted listener candidate { w with kernel := k' })) := by
  obtain ⟨id, k'', next, hgenerate, -⟩ := generateSocketIdentifier_ok w k'
  refine Program.after_ok hgenerate (Program.after_ok (dereference_some hl) ?_)
  rcases insertSocket_outcome (EPOLLIN ||| EPOLLET) (newSocket id l.socketIdentifier candidate noCallback)
    { w with kernel := k'', nextSocketIdentifier := next } with
    ⟨t, hinsert, habsent, hsockets, hhistory⟩ | ⟨e, t, herror, hsockets, hhistory⟩
  · have hne : id ≠ listener := by
      rintro rfl
      change w.sockets[id]? = none at habsent
      rw [hl] at habsent
      cases habsent
    have hfound : t.sockets[listener]? = some l := by
      rw [hsockets, Table.lookup_insert, ← hl]
      exact if_neg hne
    refine Program.after_ok hinsert (Program.after_ok (dereference_some hfound) ?_)
    obtain ⟨hsame, hcalled⟩ := notify_final l .clientOpen id t
    exact follows_accept hl hlistening hnew.socketType rfl rfl habsent hsockets hhistory hsame hcalled
  · exact Program.after_error herror (Quiet.follows (.of_sockets hsockets hhistory))

theorem handleConnectingSocketEvents_follows {id : SocketIdentifier} {s : Socket υ} (hs : w.sockets[id]? = some s)
    (hconnecting : s.socket.socketType = .connecting) :
    Program.Within Follows (handleConnectingSocketEvents id) w := by
  unfold Program.Within
  refine Program.after_ok (dereference_some hs) ?_
  cases hevents : EventPoll.setEvents s.socket.socket (EPOLLIN ||| EPOLLET) w.kernel with
  | error e k => exact Program.after_error (onKernel_error hevents) (Quiet.follows (.of_sockets rfl rfl))
  | ok _ k =>
    refine Program.after_ok (onKernel_ok hevents) (Program.after_ok (Program.modify_apply _) ?_)
    set t : World υ := World.updateSocket id (fun s => { s with socket := s.socket.connected })
      { w with kernel := k } with ht
    obtain ⟨hsame, hcalled⟩ := notify_final s .clientOpen invalidSocketIdentifier t
    have hsockets : ∀ id' : SocketIdentifier, t.sockets[id']? =
        if id = id' then some { s with socket := s.socket.connected } else w.sockets[id']? := by
      intro id'
      change (w.sockets.modify id _)[id']? = _
      rw [Table.lookup_modify, hs]
      rfl
    refine ⟨by rw [hcalled]; exact List.prefix_append _ _, fun _ hcast => ?_⟩
    obtain ⟨hkey, hplays⟩ := hcast id s hs
    rw [Socket.Plays, hconnecting] at hplays
    rw [hkey] at hcalled
    refine ⟨fun id' s' hs' => ?_, ?_⟩
    · rw [hsame, hsockets] at hs'
      rw [hcalled, roleOf_concat, show t.history = w.history from rfl]
      split_ifs at hs' with heq
      · cases hs'
        subst heq
        refine ⟨hkey, ?_⟩
        simp [Socket.Plays, LinuxSocket.connected, hplays, roleAfter, Role.afterCall]
      · obtain ⟨hkey', hold⟩ := hcast id' s' hs'
        exact ⟨hkey', hold.afterCall (.inl heq)⟩
    · rw [roster_notify hsame hcalled]
      have hroster : t.roster = w.roster := by
        unfold World.roster
        congr 1
        funext id'
        rw [hsockets]
        split_ifs with heq
        · rw [← heq, hs]
          rfl
        · rfl
      rw [hroster]
      exact .single (.connected _ _ _ (by rw [roster_present hs]; simp) hplays.1 (.inr rfl))

theorem follows_housekeeping : Housekeeping (Follows (υ := υ)) where
  kernel _ _ _ := Quiet.follows (.of_sockets rfl rfl)
  erased _ id := eraseSocket_follows id
  accepted _ _ _ _ _ hl hlistening hnew := insertAccepted_follows hl hlistening hnew

theorem roster_setReader {w' : World υ} {id : SocketIdentifier} {s : Socket υ} (hs : w.sockets[id]? = some s)
    (reader : ProtocolReader υ) (hsockets : w'.sockets = w.sockets.modify id fun s => { s with protocolReader := reader })
    (hhistory : w'.history = w.history) : w'.roster = w.roster.setReader id reader := by
  unfold World.roster Roster.setReader
  congr 1
  funext id'
  rw [hsockets, Table.lookup_modify]
  by_cases heq : id = id'
  · subst heq
    simp [hs]
  · simp [heq, Ne.symm heq]

theorem onProtocolReader_final {id : SocketIdentifier} {s : Socket υ} (hs : w.sockets[id]? = some s)
    (x : EStateM Exception (ProtocolReader υ) Unit) :
    Program.final (onProtocolReader id x w) =
      w.updateSocket id fun s' => { s' with protocolReader := Program.final (x s.protocolReader) } := by
  unfold onProtocolReader
  rw [hs]
  dsimp only
  cases x s.protocolReader <;> rfl

section Reading

variable [Ballotin] (registry : ProtocolRegistry)

/-- The frames of a socket are read with the reader that the roster reads them with. -/
theorem readInboundBytes_follows {reader socket : SocketIdentifier} {s : Socket υ}
    (hs : w.sockets[socket]? = some s)
    (hreader : reader = if s.listeningSocketIdentifier ≠ invalidSocketIdentifier then s.listeningSocketIdentifier
      else socket) : Program.Within Follows (readInboundBytes registry reader socket) w := by
  unfold Program.Within readInboundBytes
  rw [hs]
  cases hr : w.sockets[reader]? with
  | none => exact refl_of Follows w
  | some readerSocket =>
    dsimp only
    set start : Reading υ :=
      { reader := readerSocket.protocolReader, inboundBytes := s.inboundBytes, inboundBitsOffset := 0,
        outboundBytes := s.outboundBytes, user := w.user, arrivals := [] }
    have hserves := Reading.readInboundBytes_serves registry start
    have hfollows : ∀ r : Reading υ, Reading.Serves start r →
        Follows w (afterReading reader socket s.socketIdentifier r w) := by
      rintro r ⟨new, hnew, hreads⟩
      have hhistory : (afterReading reader socket s.socketIdentifier r w).history =
          w.history ++ new.map (.frameRead s.socketIdentifier) := by
        rw [show new = r.arrivals from hnew.symm]
        rfl
      have hsockets : ∀ id : SocketIdentifier, (afterReading reader socket s.socketIdentifier r w).sockets[id]? =
          ((w.sockets.modify reader fun s => { s with protocolReader := r.reader }).modify socket fun s =>
            { s with inboundBytes := r.inboundBytes, outboundBytes := r.outboundBytes })[id]? := fun _ => rfl
      have hroles : ∀ id, roleOf id (afterReading reader socket s.socketIdentifier r w).history =
          roleOf id w.history := by
        intro id
        rw [hhistory]
        exact Roster.frames_role s.socketIdentifier new w.history id
      refine ⟨by rw [hhistory]; exact List.prefix_append _ _, fun _ hcast => ⟨fun id s' hs' => ?_, ?_⟩⟩
      · rw [hroles]
        rw [hsockets] at hs'
        rcases Table.lookup_modify_some hs' with ⟨rfl, t, ht, rfl⟩ | ⟨-, ht⟩
        · rcases Table.lookup_modify_some ht with ⟨rfl, u, hu, rfl⟩ | ⟨-, hu⟩
          · exact hcast _ u hu
          · exact hcast _ t hu
        · rcases Table.lookup_modify_some ht with ⟨rfl, u, hu, rfl⟩ | ⟨-, hu⟩
          · exact hcast _ u hu
          · exact hcast _ s' hu
      · obtain ⟨hkey, hplays⟩ := hcast socket s hs
        have hreaderOf : w.roster.readerOf socket = reader := by
          rw [Roster.readerOf, show w.roster.role socket = roleOf socket w.history from rfl, hreader]
          unfold Socket.Plays at hplays
          cases htype : s.socket.socketType with
          | unbound => simp [htype] at hplays
          | listening | connecting | connected | accepted =>
            rw [htype] at hplays
            simp [hplays.1, hplays.2]
        have hroster : (afterReading reader socket s.socketIdentifier r w).roster = w.roster.read socket r.reader new := by
          unfold Roster.read Roster.setReader
          rw [hreaderOf, World.roster, hhistory, hkey]
          congr 1
          funext id
          have hid := hsockets id
          rw [hkey] at hid
          rw [hid, Table.lookup_modify, Table.lookup_modify, Table.lookup_modify]
          clear hid
          by_cases hid : reader = id
          · subst hid
            by_cases hboth : socket = reader
            · subst hboth
              simp [hr]
            · simp [hr, hboth]
          · by_cases hsame : socket = id
            · subst hsame
              simp [hid, Ne.symm hid, hs, World.roster]
            · simp [hid, Ne.symm hid, hsame, World.roster]
        rw [hroster]
        refine .single (.read _ socket (by rw [roster_present hs]; simp) readerSocket.protocolReader r.reader ?_
          w.user r.user new hreads)
        rw [hreaderOf]
        exact roster_present hr
    cases hrun : Reading.readInboundBytes registry start with
    | ok _ r => exact hfollows r (hserves.ok hrun)
    | error e r => exact hfollows r (hserves.error hrun)

theorem readWithItsReader_follows (socket : SocketIdentifier) :
    Program.Within Follows (readWithItsReader registry socket) w := by
  refine .bind (dereference_within socket) fun s t hrun => ?_
  obtain ⟨hs, rfl⟩ := dereference_ok hrun
  split_ifs with hlistener
  · refine .bind (getSocketOrThrow_within _) fun id u hget => ?_
    obtain ⟨rfl, rfl⟩ := getSocketOrThrow_ok hget
    exact readInboundBytes_follows registry hs (if_pos hlistener).symm
  · exact readInboundBytes_follows registry hs (if_neg hlistener).symm

theorem follows_handling (socket : SocketIdentifier) : Handling registry socket (Follows (υ := υ)) where
  toHousekeeping := follows_housekeeping
  received w _ := Quiet.follows (.updateSocket _ w fun _ _ => rfl)
  read _ := readWithItsReader_follows registry socket
  sent _ bytes := Quiet.follows (sendBytesTo_quiet socket bytes)
  answered w := Quiet.follows (.updateSocket _ w fun _ _ => rfl)
  connecting _ _ hs hconnecting := handleConnectingSocketEvents_follows hs hconnecting

theorem handleSocketEvents_follows (fd : FileDescriptor) (events : UInt32) :
    Program.Within Follows (handleSocketEvents registry fd events) w := by
  refine .get_bind ?_
  cases w.fileDescriptorsToSockets[fd]? with
  | none => exact Quiet.follows (onKernel_quiet _)
  | some socket =>
    refine .bind (dereference_within socket) fun s t _ => ?_
    exact .tryCatchAll ((follows_handling registry socket).handleSocketEventsWork events)
      fun _ u _ => eraseSocket_follows _

omit [Ballotin] in
theorem follows_registered {id : SocketIdentifier} {s : Socket υ} (hs : w.sockets[id]? = some s)
    {reader : ProtocolReader υ} {event : ContainerEvent υ} (hevent : ∀ id role, roleAfter id role event = role)
    (hstep : Roster.Step w.roster ((w.roster.setReader id reader).record event)) :
    Follows w ((w.updateSocket id fun s => { s with protocolReader := reader }).record event) := by
  refine ⟨List.prefix_append _ _, fun _ hcast => ⟨?_, ?_⟩⟩
  · intro id' s' hs'
    rw [World.record, roleOf_concat, hevent]
    rcases Table.lookup_modify_some hs' with ⟨rfl, t, ht, rfl⟩ | ⟨-, ht⟩
    · exact hcast _ t ht
    · exact hcast _ s' ht
  · have hroster : (w.updateSocket id fun s => { s with protocolReader := reader }).roster =
        w.roster.setReader id reader := roster_setReader hs reader rfl rfl
    have hrecord : ∀ t : World υ, (t.record event).roster = t.roster.record event := fun _ => rfl
    rw [hrecord, hroster]
    exact .single hstep

omit [Ballotin] in
theorem registerMessageConsumer_follows (id : SocketIdentifier) (p : ProtocolIdentifier) (consumer : Consumer υ) :
    Program.Within Follows (registerMessageConsumer registry id p consumer) w := by
  unfold Program.Within registerMessageConsumer
  rcases getSocketOrThrow_cases id w with ⟨hcontains, hget⟩ | ⟨e, -, herror⟩
  · rw [Table.contains_eq, Option.isSome_iff_exists] at hcontains
    obtain ⟨s, hs⟩ := hcontains
    refine Program.after_ok hget ?_
    rcases s.protocolReader.registerInboundMessageConsumer_cases registry p consumer with
      ⟨hfree, hok⟩ | ⟨e, herror⟩
    · refine Program.after_ok (onProtocolReader_ok hs hok) ?_
      exact follows_registered hs (fun _ _ => rfl)
        (.messageConsumerRegistered _ id s.protocolReader (roster_present hs) p consumer hfree)
    · refine Program.after_error (onProtocolReader_error hs herror) (Quiet.follows (.updateSocket _ w fun s' hs' => ?_))
      rw [hs] at hs'
      cases hs'
      rfl
  · exact Program.after_error herror (refl_of Follows w)

omit [Ballotin] in
theorem registerRequestCallback_follows (id : SocketIdentifier) (p : ProtocolIdentifier)
    (consumer : RequestConsumer υ) :
    Program.Within Follows (registerRequestCallback registry id p consumer) w := by
  refine .bind (getSocketOrThrow_within id) fun id' t hget => ?_
  obtain ⟨rfl, rfl⟩ := getSocketOrThrow_ok hget
  cases hs : t.sockets[id']? with
  | none =>
    unfold Program.Within onProtocolReader
    rw [hs]
    exact refl_of Follows t
  | some s =>
    obtain ⟨table, hfinal⟩ := ProtocolReader.registerInboundRequestConsumer_final registry p consumer s.protocolReader
    rw [Program.Within, onProtocolReader_final hs, hfinal]
    refine ⟨List.prefix_rfl, fun _ hcast => ⟨fun id s' hs' => ?_, ?_⟩⟩
    · rcases Table.lookup_modify_some hs' with ⟨rfl, u, hu, rfl⟩ | ⟨-, hu⟩
      · exact hcast _ u hu
      · exact hcast _ s' hu
    · have hroster : (t.updateSocket id' fun s' => { s' with protocolReader :=
          { s.protocolReader with inboundRequestConsumers := table } }).roster =
            t.roster.setReader id' { s.protocolReader with inboundRequestConsumers := table } :=
        roster_setReader hs _ rfl rfl
      rw [hroster]
      exact .single (.requestConsumerRegistered _ id' s.protocolReader (roster_present hs) table)

omit [Ballotin] in
theorem sendRequest_follows (id : SocketIdentifier) (n : ProtocolSequenceNumber) (bytes : List UInt8)
    (consumer : Consumer υ) : Program.Within Follows (sendRequest id n bytes consumer) w := by
  refine .bind (getSocketOrThrow_within id) fun id' t hget => ?_
  obtain ⟨rfl, rfl⟩ := getSocketOrThrow_ok hget
  unfold Program.Within
  cases hs : t.sockets[id']? with
  | none =>
    have hnone : onProtocolReader id' (ProtocolReader.registerInboundOneShotResponseConsumer n consumer) t =
        .error .danglingReference t := by rw [onProtocolReader, hs]
    exact Program.after_error hnone (refl_of Follows t)
  | some s =>
    rcases s.protocolReader.registerInboundOneShotResponseConsumer_cases n consumer with
      ⟨hfree, hok⟩ | ⟨e, herror⟩
    · refine Program.after_ok (onProtocolReader_ok hs hok) (Program.after_ok (Program.modify_apply _) ?_)
      refine trans_of Follows (follows_registered hs (fun _ _ => rfl)
        (.responseConsumerRegistered _ id' s.protocolReader (roster_present hs) n consumer hfree)) ?_
      exact Quiet.follows (sendBytesTo_quiet id' bytes)
    · refine Program.after_error (onProtocolReader_error hs herror) (Quiet.follows (.updateSocket _ t fun s' hs' => ?_))
      rw [hs] at hs'
      cases hs'
      rfl

end Reading

end SocketContainer

theorem Task.execute_follows [Ballotin] (registry : ProtocolRegistry) (task : Task υ) {w : World υ} :
    Program.Within Follows (task.execute registry) w := by
  cases task with
  | close id => exact SocketContainer.eraseSocket_follows id
  | connect id ipAddress port callback => exact SocketContainer.connect_follows id ipAddress port callback
  | listen id ipAddress port callback => exact SocketContainer.listen_follows id ipAddress port callback
  | registerMessageConsumer id p consumer => exact SocketContainer.registerMessageConsumer_follows registry id p consumer
  | registerRequestCallback id p consumer => exact SocketContainer.registerRequestCallback_follows registry id p consumer
  | sendBytes id bytes =>
    refine .bind (SocketContainer.getSocketOrThrow_within id) fun _ t _ => ?_
    exact Quiet.follows (SocketContainer.sendBytesTo_quiet _ _)
  | sendRequest id n bytes consumer => exact SocketContainer.sendRequest_follows id n bytes consumer

namespace EventLoop

theorem Step.follows [Ballotin] {registry : ProtocolRegistry} {l l' : EventLoop υ} (h : Step registry l l') :
    Follows l.world l'.world := by
  cases h with
  | insertTask | wait | waitFailed | batchDone | abort | tasksDone => exact refl_of Follows _
  | outcomes script => exact Quiet.follows (.of_sockets rfl rfl)
  | socketEvents event events hcontrol hfd =>
    have hfollows := SocketContainer.handleSocketEvents_follows registry (w := l.world) event.fileDescriptor
      event.events
    unfold handled
    cases hrun : SocketContainer.handleSocketEvents registry event.fileDescriptor event.events l.world with
    | ok _ world => exact hfollows.ok hrun
    | error e world => exact hfollows.error hrun
  | transfer event events outcome hcontrol hfd =>
    unfold transferred
    cases TaskQueue.transfer outcome l.taskQueue <;> exact refl_of Follows _
  | executeTask task tasksBuffer events hcontrol => exact Task.execute_follows registry task

/-- While identifiers do not repeat, the container has taken steps of the roster. -/
def Follows (l : EventLoop υ) : Prop :=
  DistinctIdentifiers l.world.history → l.world.Cast ∧ Roster.new.Steps l.world.roster

theorem Initial.follows {l : EventLoop υ} (h : l.Initial) : l.Follows := by
  have hroster : l.world.roster = Roster.new := by
    unfold World.roster Roster.new
    rw [h.sockets, h.history]
    simp
  refine fun _ => ⟨fun id s hs => ?_, by rw [hroster]⟩
  rw [h.sockets, Std.ExtTreeMap.getElem?_empty] at hs
  cases hs

theorem Reachable.follows [Ballotin] {registry : ProtocolRegistry} {l : EventLoop υ} (h : l.Reachable registry) :
    l.Follows := by
  refine Run.invariant (fun _ => Initial.follows) (fun l l' ih hstep hdistinct => ?_) h
  obtain ⟨hcast, hsteps⟩ := ih (hdistinct.mono hstep.follows.grows)
  obtain ⟨hcast', hsteps'⟩ := hstep.follows.steps hdistinct hcast
  exact ⟨hcast', hsteps.trans hsteps'⟩

end EventLoop

end Farseer.Linux
