import Farseer.Windows.Duties

/-! What the operations of the consumer thread are made of, one lemma for each part: how it ends,
and what is then owed to whom. -/

namespace Farseer.Windows

variable {υ : Type}

namespace WindowsSocket

theorem create_ok {script script' : Script} {s : WindowsSocket} (h : create script = .ok s script') :
    s = { empty with hasHandle := true } := by
  obtain ⟨_, t, -, h⟩ := Program.bind_eq_ok h
  obtain ⟨_, u, -, h⟩ := Program.bind_eq_ok h
  cases h
  rfl

/-- The socket still has the function pointer of a listening socket if it had it, and only then. -/
def SameAcceptFunction (s t : WindowsSocket × Script) : Prop := t.1.acceptFunction = s.1.acceptFunction

instance : IsPreorder (WindowsSocket × Script) SameAcceptFunction where
  refl _ := rfl
  trans _ _ _ h h' := h'.trans h

theorem onScript_same {α : Type} (x : ScriptM α) (s : WindowsSocket × Script) :
    Program.Within SameAcceptFunction (onScript x) s := by
  unfold onScript Program.Within Program.zoom
  cases x s.2 <;> rfl

theorem postConnect_same (ipAddress : String) (port : ℕ) (s : WindowsSocket × Script) :
    Program.Within SameAcceptFunction (postConnect ipAddress port) s := by
  obtain ⟨s, script⟩ := s
  refine .get_bind ?_
  dsimp only
  split_ifs
  · exact .throw _
  · exact .throw _
  · exact .throw _
  · refine .bind (onScript_same _ _) fun _ t _ => .bind (onScript_same _ _) fun _ t _ => ?_
    refine .bind (.modify rfl) fun _ t _ => .bind (onScript_same _ _) fun _ t _ => ?_
    exact .bind (.modify rfl) fun _ t _ => onScript_same _ _

theorem accept_same (l : WindowsSocket) (s : WindowsSocket × Script) :
    Program.Within SameAcceptFunction (accept l) s := by
  obtain ⟨s, script⟩ := s
  refine .get_bind ?_
  dsimp only
  split_ifs
  · exact .throw _
  · exact .throw _
  · exact .throw _
  · exact .throw _
  · exact .bind (onScript_same _ _) fun _ t _ => .bind (onScript_same _ _) fun _ t _ => .modify rfl

theorem postAccept_ok {l s : WindowsSocket} {size : ℕ} {script script' : Script}
    (h : l.postAccept size script = .ok s script') : s = { empty with hasHandle := true } := by
  unfold postAccept at h
  split_ifs at h
  · cases h
  · cases h
  · cases h
  · cases h
  · obtain ⟨s', t, hcreate, h⟩ := Program.bind_eq_ok h
    obtain ⟨_, u, -, h⟩ := Program.bind_eq_ok h
    cases h
    exact create_ok hcreate

end WindowsSocket

open WindowsSocket (SameAcceptFunction)

theorem createListeningSocket_ok {ipAddress : String} {port : ℕ} {script script' : Script} {s : WindowsSocket}
    (h : ListenUserOperation.createListeningSocket ipAddress port script = .ok s script') :
    s.acceptFunction = true := by
  obtain ⟨tempSocket, t, hcreate, h⟩ := Program.bind_eq_ok h
  rw [WindowsSocket.create_ok hcreate] at h
  cases hlisten : WindowsSocket.listen ipAddress port ({ WindowsSocket.empty with hasHandle := true }, t) with
  | error e u =>
    rw [hlisten] at h
    cases h
  | ok _ u =>
    rw [hlisten] at h
    cases h
    rw [WindowsSocket.listen, Program.bind_ok Program.get_apply] at hlisten
    obtain ⟨_, u₁, -, hlisten⟩ := Program.bind_eq_ok hlisten
    obtain ⟨_, u₂, -, hlisten⟩ := Program.bind_eq_ok hlisten
    obtain ⟨_, u₃, -, hlisten⟩ := Program.bind_eq_ok hlisten
    obtain ⟨_, u₄, -, hlisten⟩ := Program.bind_eq_ok hlisten
    obtain ⟨_, u₅, -, hlisten⟩ := Program.bind_eq_ok hlisten
    cases hlisten
    rfl

namespace SocketContainer

variable {w : World υ}

theorem onScript_quiet {α : Type} (x : ScriptM α) : Program.Within Quiet (onScript x) w := by
  unfold onScript Program.Within Program.zoom
  cases x w.script <;> exact .of_sockets rfl rfl rfl rfl

theorem onScript_ok {α : Type} {x : ScriptM α} {a : α} {script : Script} (h : x w.script = .ok a script) :
    onScript x w = .ok a { w with script } := by
  rw [onScript, Program.zoom, h]

theorem onScript_error {α : Type} {x : ScriptM α} {e : Exception} {script : Script}
    (h : x w.script = .error e script) : onScript x w = .error e { w with script } := by
  rw [onScript, Program.zoom, h]

theorem dereference_cases (id : SocketIdentifier) (w : World υ) :
    (∃ s, w.sockets[id]? = some s ∧ dereference id w = .ok s w) ∨
      (w.sockets[id]? = none ∧ dereference id w = .error .danglingReference w) := by
  rw [dereference, Program.bind_ok Program.get_apply]
  cases hs : w.sockets[id]? with
  | none => exact .inr ⟨rfl, rfl⟩
  | some s => exact .inl ⟨s, rfl, rfl⟩

theorem dereference_some {id : SocketIdentifier} {s : Socket υ} (hs : w.sockets[id]? = some s) :
    dereference id w = .ok s w := by
  rcases dereference_cases id w with ⟨s', hs', hok⟩ | ⟨hnone, -⟩
  · rw [hs] at hs'
    cases hs'
    exact hok
  · rw [hs] at hnone
    cases hnone

theorem dereference_ok {id : SocketIdentifier} {s : Socket υ} {w' : World υ} (h : dereference id w = .ok s w') :
    w.sockets[id]? = some s ∧ w' = w := by
  rcases dereference_cases id w with ⟨s', hs, hok⟩ | ⟨-, herror⟩
  · rw [hok] at h
    cases h
    exact ⟨hs, rfl⟩
  · rw [herror] at h
    cases h

theorem dereference_quiet (id : SocketIdentifier) : Program.Within Quiet (dereference id) w := by
  rcases dereference_cases id w with ⟨s, -, hok⟩ | ⟨-, herror⟩
  · exact .of_ok hok (refl_of Quiet w)
  · exact .of_error herror (refl_of Quiet w)

theorem getSocketOrThrow_cases (id : SocketIdentifier) (w : World υ) :
    (∃ s, w.sockets[id]? = some s ∧ getSocketOrThrow id w = .ok id w) ∨
      ∃ e, w.sockets[id]? = none ∧ getSocketOrThrow id w = .error e w := by
  rw [getSocketOrThrow, Program.bind_ok Program.get_apply, Table.contains_eq]
  cases hs : w.sockets[id]? with
  | none => exact .inr ⟨_, rfl, rfl⟩
  | some s => exact .inl ⟨s, rfl, rfl⟩

theorem onWindowsSocket_quiet (id : SocketIdentifier) {x : SocketM Unit}
    (h : ∀ s, Program.Within SameAcceptFunction x s) : Program.Within Quiet (onWindowsSocket id x) w := by
  unfold Program.Within onWindowsSocket
  cases hs : w.sockets[id]? with
  | none => exact refl_of Quiet w
  | some s =>
    have hquiet : ∀ (windowsSocket : WindowsSocket) (script : Script),
        windowsSocket.acceptFunction = s.socket.acceptFunction →
        Quiet w { w.updateSocket id (fun s => { s with socket := windowsSocket }) with script } := by
      intro windowsSocket script hsame
      have hupdate : Quiet w (w.updateSocket id fun s => { s with socket := windowsSocket }) :=
        .updateSocket id w fun s' hs' => by
          rw [hs] at hs'
          cases hs'
          simp [Socket.part, Socket.kind, hsame]
      refine trans_of Quiet hupdate ?_
      exact .of_sockets rfl rfl rfl rfl
    have hsame := h (s.socket, w.script)
    dsimp only
    cases hx : x (s.socket, w.script) with
    | ok _ t => exact hquiet _ _ (hsame.ok hx)
    | error e t => exact hquiet _ _ (hsame.error hx)

end SocketContainer

open SocketContainer

theorem generateSocketIdentifier_quiet {w : World υ} : Program.Within Quiet generateSocketIdentifier w := by
  refine .bind (onScript_quiet _) fun _ t _ => .get_bind (.bind ?_ fun _ t _ => .pure _)
  exact .of_sockets rfl rfl rfl rfl

theorem postReceive_quiet {w : World υ} (id : SocketIdentifier) : Program.Within Quiet (postReceive id) w :=
  .bind (dereference_quiet id) fun _ _ _ => onScript_quiet _

theorem postSend_quiet {w : World υ} (id : SocketIdentifier) : Program.Within Quiet (postSend id) w :=
  .bind (dereference_quiet id) fun _ _ _ => onScript_quiet _

namespace SocketContainer

variable {w : World υ} {debt : Debt} {rescheduled : Bool}

/-- Whether the callback throws or not, the call is recorded. -/
structure Called (receiver : SocketIdentifier) (event : SocketEvent) (argument : SocketIdentifier)
    (w w' : World υ) : Prop where
  sockets : w'.sockets = w.sockets
  outstanding : w'.outstanding = w.outstanding
  acceptRescheduled : w'.acceptRescheduled = w.acceptRescheduled
  history : w'.history = w.history ++ [.notified receiver event argument]

theorem notify_called {id : SocketIdentifier} {s : Socket υ} (hs : w.sockets[id]? = some s) (event : SocketEvent)
    (argument : SocketIdentifier) : Called id event argument w (Program.final (notify id event argument w)) := by
  rw [notify, Program.bind_ok (dereference_some hs), Program.bind_ok (Program.modify_apply _), onUser, Program.zoom]
  cases s.connectionCallback event argument (w.record (.notified id event argument)).user <;>
    exact ⟨rfl, rfl, rfl, rfl⟩

theorem eraseSocket_some {id : SocketIdentifier} {s : Socket υ} (hs : w.sockets[id]? = some s) :
    eraseSocket id w = .ok () (removeSocket id (Program.final (notifyClosed id s w))) := by
  rw [eraseSocket, Program.bind_ok Program.get_apply]
  simp only [hs]
  rfl

theorem eraseSocket_none {id : SocketIdentifier} (hs : w.sockets[id]? = none) : eraseSocket id w = .ok () w := by
  rw [eraseSocket, Program.bind_ok Program.get_apply]
  simp only [hs]
  rfl

theorem eraseSocket_ok (id : SocketIdentifier) (w : World υ) : eraseSocket id w = .ok () (erased id w) := by
  unfold erased
  cases hs : w.sockets[id]? with
  | none => rw [eraseSocket_none hs, Program.final]
  | some s => rw [eraseSocket_some hs, Program.final]

def closing (id : SocketIdentifier) (s : Socket υ) (w : World υ) : List (ContainerEvent υ) :=
  if s.pendingAccept then []
  else if s.listeningSocketIdentifier ≠ invalidSocketIdentifier then
    if w.sockets.contains s.listeningSocketIdentifier then
      [.notified s.listeningSocketIdentifier .clientClosed id]
    else []
  else [.notified id .serverClosed id]

structure Left (id : SocketIdentifier) (w w' : World υ) : Prop where
  sockets : w'.sockets = w.sockets.erase id
  outstanding : w'.outstanding = w.outstanding
  acceptRescheduled : w'.acceptRescheduled = w.acceptRescheduled
  absent : w.sockets[id]? = none → w' = w
  history : ∀ s, w.sockets[id]? = some s → w'.history = w.history ++ closing id s w

theorem erased_left (id : SocketIdentifier) (w : World υ) : Left id w (erased id w) := by
  unfold erased
  cases hs : w.sockets[id]? with
  | none =>
    rw [eraseSocket_none hs]
    refine ⟨(Table.erase_of_absent hs).symm, rfl, rfl, fun _ => rfl, fun s hs' => ?_⟩
    rw [hs] at hs'
    cases hs'
  | some s =>
    rw [eraseSocket_some hs]
    have hremoved : ∀ w' : World υ, w'.sockets = w.sockets → w'.outstanding = w.outstanding →
        w'.acceptRescheduled = w.acceptRescheduled → w'.history = w.history ++ closing id s w →
        Left id w (removeSocket id w') := by
      intro w' hsockets houtstanding hflag hhistory
      refine ⟨congrArg (·.erase id) hsockets, houtstanding, hflag, fun hnone => ?_, fun s' hs' => ?_⟩
      · rw [hs] at hnone
        cases hnone
      · rw [hs] at hs'
        cases hs'
        exact hhistory
    rw [Program.final, notifyClosed]
    unfold closing at hremoved
    split_ifs at hremoved ⊢ with hpending hlistener hcontains
    · exact hremoved w rfl rfl rfl (List.append_nil _).symm
    · rw [Program.bind_ok Program.get_apply, if_pos hcontains]
      obtain ⟨l, hl⟩ := Option.isSome_iff_exists.mp (Table.contains_eq.symm.trans hcontains)
      obtain ⟨hsockets, houtstanding, hflag, hhistory⟩ := notify_called hl .clientClosed id
      exact hremoved _ hsockets houtstanding hflag hhistory
    · rw [Program.bind_ok Program.get_apply, if_neg hcontains]
      exact hremoved w rfl rfl rfl (List.append_nil _).symm
    · obtain ⟨hsockets, houtstanding, hflag, hhistory⟩ := notify_called hs .serverClosed id
      exact hremoved _ hsockets houtstanding hflag hhistory

theorem erased_absent (id : SocketIdentifier) (w : World υ) : (erased id w).sockets[id]? = none := by
  rw [(erased_left id w).sockets, Table.lookup_erase, if_pos rfl]

/-- A socket that is erased is reported as the roster says; nothing is owed to it any more. -/
theorem erased_sound (h : Sound rescheduled debt w) (id : SocketIdentifier) :
    Sound rescheduled debt (erased id w) := by
  obtain ⟨hsockets, houtstanding, hflag, habsent, hhistory⟩ := erased_left id w
  cases hs : w.sockets[id]? with
  | none =>
    rw [habsent hs]
    exact h
  | some s =>
    have hhistory := hhistory s hs
    refine h.change hflag (by rw [hhistory]; exact List.prefix_append _ _) fun _ haccounts => ?_
    obtain ⟨role, hrole, hplays, -⟩ := haccounts.cast id s hs
    have hmissing : ∀ listener : SocketIdentifier,
        (w.roster.sockets listener).isSome = w.sockets.contains listener := by
      intro listener
      simp [World.roster]
    have hroster : (erased id w).roster = w.roster.erase id := by
      have hleft : (erased id w).roster =
          { sockets := Function.update w.roster.sockets id none
            history := w.history ++ closing id s w } := by
        rw [World.roster, hsockets, Table.map_lookup_erase_eq, hhistory]
        rfl
      obtain ⟨hkind, hgenuine⟩ := hplays
      rw [hleft, Roster.erase, show w.roster.role id = roleOf id w.history from rfl, hrole]
      cases role with
      | opening | listening | connecting | connected =>
        simp only [Socket.kind, kindOf, Prod.mk.injEq] at hkind
        simp only [closing, hkind]
        rfl
      | pending listener =>
        simp only [Socket.kind, kindOf, Prod.mk.injEq] at hkind
        simp only [closing, hkind]
        simp [Roster.remove, World.roster]
      | accepted listener =>
        simp only [Socket.kind, kindOf, Prod.mk.injEq] at hkind
        have hvalid : listener ≠ invalidSocketIdentifier := hgenuine
        simp only [closing, hkind, hmissing]
        simp only [Bool.false_eq_true, if_false, ne_eq, hvalid, not_false_eq_true, if_true]
        split_ifs
        · rfl
        · simp [Roster.remove, World.roster]
    have hroles : ∀ id', roleOf id' (erased id w).history = roleOf id' w.history := by
      intro id'
      have hsame := Roster.erase_role id w.roster id'
      rwa [← hroster] at hsame
    have hinserted : insertedIdentifiers (erased id w).history = insertedIdentifiers w.history := by
      rw [hhistory, insertedIdentifiers_append]
      unfold closing
      split_ifs <;> simp [insertedIdentifiers, insertedIdentifier]
    have hduties := duties_of_outstanding houtstanding
    refine ⟨fun id' s' hs' => ?_, fun id' hid' => ?_, ?_⟩
    · rw [hsockets] at hs'
      rw [hroles, hduties]
      exact haccounts.cast id' s' (Table.lookup_erase_some hs').2
    · rw [hinserted] at hid'
      rw [hduties]
      exact haccounts.idle id' hid'
    · rw [hroster]
      exact haccounts.steps.tail (.erased _ _ (by rw [roster_present hs]; simp))

structure Arrived (id : SocketIdentifier) (s : Socket υ) (w w' : World υ) : Prop where
  absent : w.sockets[id]? = none
  sockets : w'.sockets = w.sockets.insert id s
  outstanding : w'.outstanding = w.outstanding
  acceptRescheduled : w'.acceptRescheduled = w.acceptRescheduled
  history : w'.history = w.history ++ [.socketInserted id s.origin]

theorem insertSocket_cases (id : SocketIdentifier) (s : Socket υ) (w : World υ) :
    (∃ w', insertSocket id s w = .ok id w' ∧ Arrived id s w w') ∨ ∃ e, insertSocket id s w = .error e w := by
  rw [insertSocket, Program.bind_ok Program.get_apply]
  split_ifs with hcontains
  · exact .inr ⟨_, rfl⟩
  · refine .inl ⟨_, rfl, ⟨?_, rfl, rfl, rfl, rfl⟩⟩
    rw [Table.contains_eq] at hcontains
    simpa using hcontains

end SocketContainer

variable {w : World υ} {debt : Debt} {rescheduled : Bool}

/-- A part that is not seen, between others. -/
theorem Sound.ends {α : Type} {x : WorldM υ α} (h : Sound rescheduled debt w) (hquiet : Program.Within Quiet x w)
    {E : World υ → Prop} (hE : ∀ t, Sound rescheduled debt t → E t) :
    Program.Ends (fun _ t => Sound rescheduled debt t ∧ Keeps w t) E x w :=
  .of_within hquiet (fun _ _ hq => ⟨h.quiet hq, hq.keeps⟩) fun _ hq => hE _ (h.quiet hq)

theorem postAccept_quiet {listener id : SocketIdentifier} {s : Socket υ} (hs : w.sockets[id]? = some s)
    (haccept : s.socket.acceptFunction = false) :
    Program.Within Quiet (AcceptSystemOperation.postAccept listener id) w := by
  refine .bind (dereference_quiet listener) fun l t hl => ?_
  obtain ⟨-, rfl⟩ := dereference_ok hl
  cases hpost : l.socket.postAccept maximumReceiveBufferSize t.script with
  | error e script =>
    exact .of_error (Program.bind_error (onScript_error hpost)) (.of_sockets rfl rfl rfl rfl)
  | ok windowsSocket script =>
    refine Program.after_ok (onScript_ok hpost) ?_
    have hupdate : Quiet t (t.updateSocket id fun s => { s with socket := windowsSocket }) :=
      .updateSocket id t fun s' hs' => by
        rw [hs] at hs'
        cases hs'
        simp [Socket.part, Socket.kind, haccept, WindowsSocket.postAccept_ok hpost, WindowsSocket.empty]
    refine trans_of Quiet hupdate ?_
    exact .of_sockets rfl rfl rfl rfl

/-- The accept that is owed to a listening socket is posted. -/
theorem scheduleAcceptSystemOperation_sound {listener : SocketIdentifier}
    (h : Sound rescheduled (debt + owing listener {.accepting}) w) :
    Program.Ends (fun _ t => Sound rescheduled debt t ∧ Keeps w t ∧ Duty.accepting ∈ t.duties listener)
      (Sound rescheduled (debt + owing listener {.accepting})) (scheduleAcceptSystemOperation listener) w := by
  refine .bind (h.ends generateSocketIdentifier_quiet fun _ ht => ht) fun id t _ ⟨ht, hkeeps⟩ => ?_
  have hscheduled : Program.Ends
      (fun _ u => Sound rescheduled (debt + (Operation.accept (υ := υ) listener id).duties) u ∧ Keeps t u)
      (Sound rescheduled (debt + owing listener {.accepting})) (AcceptSystemOperation.schedule listener id) t := by
    rcases getSocketOrThrow_cases listener t with ⟨l, hl, hget⟩ | ⟨e, -, hget⟩
    · refine .bind_ok hget ?_
      rcases insertSocket_cases id (newSocket .empty listener noCallback true) t with
        ⟨u, hinsert, harrived⟩ | ⟨e, hinsert⟩
      · have hvalid : DistinctIdentifiers t.history → Accounts (debt + owing listener {.accepting}) t →
            listener ≠ invalidSocketIdentifier := by
          intro hdistinct haccounts
          obtain ⟨role, hrole, -⟩ := haccounts.cast listener l hl
          rintro rfl
          have hknown : invalidSocketIdentifier ∈ insertedIdentifiers t.history := by
            by_contra hunknown
            rw [roleOf_eq_none hunknown] at hrole
            cases hrole
          exact (List.nodup_cons.mp hdistinct).1 hknown
        have hu : Sound rescheduled
            (debt + owing listener {.accepting} + owing id (dutiesOf (.pending listener))) u := by
          refine ht.insert rfl harrived.absent (fun hdistinct haccounts => ?_) (fun listener' horigin haccounts => ?_)
            harrived.sockets harrived.outstanding harrived.acceptRescheduled harrived.history
          · have hne := hvalid hdistinct haccounts
            exact ⟨by simp [Socket.origin, newSocket, hne, SocketOrigin.role], rfl⟩
          · have heq : listener' = listener := by
              unfold Socket.origin at horigin
              split_ifs at horigin
              cases horigin
              rfl
            rw [heq]
            exact haccounts.accepting hl
        have hid : u.sockets[id]? = some (newSocket .empty listener noCallback true) := by
          rw [harrived.sockets, Table.lookup_insert, if_pos rfl]
        refine .bind_ok hinsert (.scopeFailure ((hu.ends (postAccept_quiet hid rfl) fun _ hv => hv).mono ?_ fun _ hv => hv) ?_)
        · intro _ v ⟨hv, hkeeps'⟩
          refine ⟨?_, trans_of Keeps (.insert harrived.absent harrived.sockets) hkeeps'⟩
          rwa [add_assoc] at hv
        · intro v hv
          refine (erased_sound hv id).forgive (erased_absent id v) (fun id' hne => ?_) fun howed => ?_
          · rw [Pi.add_apply _ (owing id _), owing_other hne, add_zero]
          · rw [Pi.add_apply _ (owing id _)] at howed
            exact (add_eq_zero.mp howed).1
      · exact .bind_error hinsert ht
    · exact .bind_error hget ht
  refine .bind hscheduled fun _ u _ ⟨hu, hkeeps'⟩ => ?_
  refine .of_ok (Program.modify_apply _) ⟨hu.post, trans_of Keeps hkeeps hkeeps', ?_⟩
  rw [duties_post, Operation.duties, Pi.add_apply, Pi.add_apply, owing_self]
  exact Multiset.mem_add.mpr (.inr (Multiset.mem_add.mpr (.inl (Multiset.mem_singleton_self _))))

theorem scheduleReceiveSystemOperation_outcome (id : SocketIdentifier) (w : World υ) :
    (∃ t, Quiet w t ∧ scheduleReceiveSystemOperation id w = .ok () (t.post (.receive id))) ∨
      ∃ e t, Quiet w t ∧ scheduleReceiveSystemOperation id w = .error e t := by
  rcases getSocketOrThrow_cases id w with ⟨s, -, hget⟩ | ⟨e, -, hget⟩
  · rw [scheduleReceiveSystemOperation, Program.bind_ok hget]
    have hquiet := postReceive_quiet (w := w) id
    cases hpost : postReceive id w with
    | ok _ t =>
      rw [Program.bind_ok hpost]
      exact .inl ⟨t, hquiet.ok hpost, rfl⟩
    | error e t =>
      rw [Program.bind_error hpost]
      exact .inr ⟨e, t, hquiet.error hpost, rfl⟩
  · exact .inr ⟨e, w, refl_of Quiet w, Program.bind_error hget⟩

end Farseer.Windows
