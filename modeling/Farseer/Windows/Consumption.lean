import Farseer.Windows.Rules

/-! Every operation that is consumed leaves nothing owed: what it did for its sockets is posted again,
or the sockets are gone. This holds for each of its executions and for its failure hook. -/

namespace Farseer.Windows

variable {υ : Type} {w w' : World υ} {debt : Debt} {rescheduled : Bool}

open SocketContainer

def owed (operation : Option (Operation υ)) : Debt := operation.elim 0 Operation.duties

/-- Something is owed to one socket at most. -/
def Owes (id : SocketIdentifier) (w : World υ) : Prop := ∃ duties, Sound false (owing id duties) w

theorem Sound.owes {id : SocketIdentifier} {duties : Multiset Duty} (h : Sound false (owing id duties) w) :
    Owes id w := ⟨duties, h⟩

theorem Sound.settled {id : SocketIdentifier} (h : Sound false 0 w) : Owes id w :=
  ⟨0, by rwa [owing, Pi.single_zero]⟩

theorem erased_settles {id : SocketIdentifier} {duties : Multiset Duty}
    (h : Sound rescheduled (debt + owing id duties) w) : Sound rescheduled debt (erased id w) := by
  refine (erased_sound h id).forgive (erased_absent id w) (fun id' hne => ?_) fun howed => ?_
  · rw [Pi.add_apply, owing_other hne, add_zero]
  · rw [Pi.add_apply] at howed
    exact (add_eq_zero.mp howed).1

theorem Owes.erased {id : SocketIdentifier} (h : Owes id w) : Sound false 0 (erased id w) := by
  obtain ⟨duties, h⟩ := h
  rw [← zero_add (owing id duties)] at h
  exact erased_settles h

/-- One of the duties of a socket settles its role. -/
theorem Accounts.role {id : SocketIdentifier} {s : Socket υ} {duty : Duty}
    (h : Accounts (debt + owing id {duty}) w) (hs : w.sockets[id]? = some s) :
    ∃ role, roleOf id w.history = some role ∧ s.Plays role ∧ duty ∈ dutiesOf role := by
  obtain ⟨role, hrole, hplays, hduties⟩ := h.cast id s hs
  refine ⟨role, hrole, hplays, ?_⟩
  rw [← hduties, Pi.add_apply, owing_self, ← add_assoc]
  exact Multiset.mem_add.mpr (.inr (Multiset.mem_singleton_self _))

theorem Sound.opened (h : Sound rescheduled debt w) {id : SocketIdentifier} {s : Socket υ} {event : SocketEvent}
    {old role : Role} (hs : w.sockets[id]? = some s) (hcalled : Called id event id w w')
    (hrole : Accounts debt w → roleOf id w.history = some old) (hnew : old.afterCall id id event id = role)
    (hgenuine : Genuine role) (hkind : kindOf old = kindOf role) {debt' : Debt}
    (hothers : ∀ id', id' ≠ id → debt' id' = debt id')
    (hdone : ∀ done, done + debt id = dutiesOf old → done + debt' id = dutiesOf role)
    (hstep : Accounts debt w → Roster.Step w.roster (w.roster.notify id event id)) :
    Sound rescheduled debt' w' := by
  have hduties := duties_of_outstanding hcalled.outstanding
  refine h.notified hs s hrole (fun _ => .inl rfl) hnew (fun _ => hgenuine) (fun hold => hold.trans hkind) rfl
    (fun id' => ?_) (fun id' hne => ?_) (fun howed => ?_) hcalled.acceptRescheduled hcalled.history hstep
  · rw [hcalled.sockets]
    split_ifs with heq
    · rw [heq, hs]
    · rfl
  · rw [hduties, hothers id' hne]
  · rw [hduties]
    exact hdone _ howed

theorem present_roster {id : SocketIdentifier} {s : Socket υ} (hs : w.sockets[id]? = some s) :
    w.roster.sockets id ≠ none := by
  rw [roster_present hs]
  exact Option.some_ne_none _

namespace ConnectUserOperation

theorem execute_sound (h : Sound false 0 w) (id : SocketIdentifier) (ipAddress : String) (port : ℕ)
    (callback : ConnectionCallback υ) :
    Program.Ends (fun operation t => Sound false (owed operation) t) (Owes id)
      (execute id ipAddress port callback) w := by
  cases hcreate : WindowsSocket.create w.script with
  | error e script =>
    refine .bind_error (onScript_error hcreate) (Sound.settled ?_)
    exact h.quiet (.of_sockets rfl rfl rfl rfl)
  | ok s script =>
    have ht : Sound false 0 { w with script } := h.quiet (.of_sockets rfl rfl rfl rfl)
    refine .bind_ok (onScript_ok hcreate) ?_
    rcases insertSocket_cases id (newSocket s invalidSocketIdentifier callback false) { w with script } with
      ⟨u, hinsert, harrived⟩ | ⟨e, hinsert⟩
    · have hu : Sound false (0 + owing id (dutiesOf .connecting)) u := by
        refine ht.insert rfl harrived.absent (fun _ _ => ?_) (fun listener horigin _ => ?_)
          harrived.sockets harrived.outstanding harrived.acceptRescheduled harrived.history
        · rw [WindowsSocket.create_ok hcreate]
          exact ⟨rfl, rfl⟩
        · rw [WindowsSocket.create_ok hcreate] at horigin
          cases horigin
      rw [zero_add] at hu
      refine .bind_ok hinsert (.bind (.scopeFailure
        (hu.ends (onWindowsSocket_quiet id (WindowsSocket.postConnect_same ipAddress port)) fun _ hv => hv)
          fun v hv => ?_)
        fun _ v _ ⟨hv, _⟩ => .of_ok rfl hv)
      exact Sound.owes (erased_sound hv id)
    · exact .bind_error hinsert ht.settled

theorem connecting_role {id : SocketIdentifier} {s : Socket υ} (hs : w.sockets[id]? = some s)
    (haccounts : Accounts (owing id {.connecting}) w) : roleOf id w.history = some .connecting := by
  rw [← zero_add (owing id _)] at haccounts
  obtain ⟨role, hrole, -, hduty⟩ := haccounts.role hs
  cases role with
  | connecting => exact hrole
  | _ => simp [dutiesOf] at hduty

/-- The socket was connecting, and is connected once its callback is called. -/
theorem called_sound {id : SocketIdentifier} (h : Sound false (owing id {.connecting}) w) {s : Socket υ}
    (hs : w.sockets[id]? = some s) (hcalled : Called id .clientOpen id w w') :
    Sound false (owing id {.receiving}) w' := by
  refine h.opened hs hcalled (connecting_role hs)
    (show Role.connecting.afterCall id id .clientOpen id = .connected by simp [Role.afterCall]) trivial rfl
    (fun id' hne => ?_) (fun done hdone => ?_) fun haccounts => ?_
  · rw [owing_other hne, owing_other hne]
  · rw [owing_self] at hdone ⊢
    have hnothing : done = 0 := by simpa [dutiesOf] using hdone
    simp [hnothing, dutiesOf]
  · exact .connected _ _ _ (present_roster hs) (connecting_role hs haccounts) (.inl rfl)

theorem executePending_sound {id : SocketIdentifier} (h : Sound false (owing id {.connecting}) w) :
    Program.Ends (fun operation t => Sound false (owed operation) t) (Owes id) (executePending id) w := by
  rcases getSocketOrThrow_cases id w with ⟨s, hs, hget⟩ | ⟨e, -, hget⟩
  · refine .bind_ok hget (.bind_ok (dereference_some hs)
      (.bind (h.ends (onScript_quiet _) fun _ => Sound.owes) fun _ t _ ⟨ht, hkeeps⟩ => ?_))
    obtain ⟨s', hs', -⟩ := hkeeps id s hs
    have hcalled := notify_called hs' .clientOpen id
    cases hnotify : notify id .clientOpen id t with
    | error e u =>
      rw [hnotify] at hcalled
      exact .bind_error hnotify (called_sound ht hs' hcalled).owes
    | ok _ u =>
      rw [hnotify] at hcalled
      have hu := called_sound ht hs' hcalled
      refine .bind_ok hnotify ?_
      rcases scheduleReceiveSystemOperation_outcome id u with ⟨v, hquiet, hok⟩ | ⟨e, v, hquiet, herror⟩
      · refine .bind_ok hok (.of_ok rfl (Sound.post ?_))
        rw [owed, Option.elim_none, zero_add]
        exact hu.quiet hquiet
      · exact .bind_error herror (hu.quiet hquiet).owes
  · exact .bind_error hget h.owes

end ConnectUserOperation

namespace ListenUserOperation

theorem opening_role {id : SocketIdentifier} {s : Socket υ} (hs : w.sockets[id]? = some s)
    (haccounts : Accounts (owing id {.reporting}) w) : roleOf id w.history = some .opening := by
  rw [← zero_add (owing id _)] at haccounts
  obtain ⟨role, hrole, -, hduty⟩ := haccounts.role hs
  cases role with
  | opening => exact hrole
  | _ => simp [dutiesOf] at hduty

theorem called_sound {id : SocketIdentifier} (h : Sound false (owing id {.reporting}) w) {s : Socket υ}
    (hs : w.sockets[id]? = some s) (hcalled : Called id .serverOpen id w w') : Sound false 0 w' := by
  refine h.opened hs hcalled (opening_role hs)
    (show Role.opening.afterCall id id .serverOpen id = .listening by simp [Role.afterCall]) trivial rfl
    (fun id' hne => ?_) (fun done hdone => ?_) fun haccounts => ?_
  · rw [owing_other hne, Pi.zero_apply]
  · rw [owing_self] at hdone
    rw [Pi.zero_apply, add_zero]
    exact add_right_cancel (b := {Duty.reporting}) hdone
  · exact .serverOpened _ _ (present_roster hs) (opening_role hs haccounts)

theorem opened_sound {id : SocketIdentifier} {s : Socket υ} (hs : w.sockets[id]? = some s)
    (h : Sound false (owing id {.reporting} + owing id {.accepting}) w) :
    Program.Ends (fun _ t => Sound false 0 t) (Owes id) (opened id) w := by
  have hboth : owing id {.reporting} + owing id {.accepting} = owing id {.reporting, .accepting} := by
    rw [owing, owing, ← Pi.single_add]
    rfl
  have hscheduled := scheduleAcceptSystemOperation_sound h
  rw [hboth] at hscheduled
  refine .bind (hscheduled.mono (fun _ _ ht => ht) fun _ ht => ht.owes) fun _ t _ hafter => ?_
  obtain ⟨ht, hkeeps, -⟩ := hafter
  obtain ⟨s', hs', -⟩ := hkeeps id s hs
  have hcalled := notify_called hs' .serverOpen id
  cases hnotify : notify id .serverOpen id t with
  | error e u =>
    rw [hnotify] at hcalled
    exact .of_error hnotify (called_sound ht hs' hcalled).settled
  | ok _ u =>
    rw [hnotify] at hcalled
    exact .of_ok hnotify (called_sound ht hs' hcalled)

theorem execute_sound (h : Sound false 0 w) (id : SocketIdentifier) (ipAddress : String) (port : ℕ)
    (callback : ConnectionCallback υ) :
    Program.Ends (fun operation t => Sound false (owed operation) t) (Owes id)
      (execute id ipAddress port callback) w := by
  cases hcreate : createListeningSocket ipAddress port w.script with
  | error e script =>
    refine .bind_error (onScript_error hcreate) (Sound.settled ?_)
    exact h.quiet (.of_sockets rfl rfl rfl rfl)
  | ok s script =>
    have ht : Sound false 0 { w with script } := h.quiet (.of_sockets rfl rfl rfl rfl)
    have hlistening : s.acceptFunction = true := createListeningSocket_ok hcreate
    have horigin : (newSocket s invalidSocketIdentifier callback false).origin = .listen := by
      simp [Socket.origin, newSocket, hlistening]
    refine .bind_ok (onScript_ok hcreate) ?_
    rcases insertSocket_cases id (newSocket s invalidSocketIdentifier callback false) { w with script } with
      ⟨u, hinsert, harrived⟩ | ⟨e, hinsert⟩
    · have hu : Sound false (0 + owing id (dutiesOf .opening)) u := by
        refine ht.insert rfl harrived.absent (fun _ _ => ?_) (fun listener hlistener _ => ?_)
          harrived.sockets harrived.outstanding harrived.acceptRescheduled harrived.history
        · rw [horigin]
          exact ⟨rfl, by simp [Socket.kind, newSocket, kindOf, hlistening]⟩
        · rw [horigin] at hlistener
          cases hlistener
      have hsplit : owing id (dutiesOf .opening) = owing id {.reporting} + owing id {.accepting} := by
        rw [add_comm, owing, owing, owing, ← Pi.single_add]
        rfl
      rw [zero_add, hsplit] at hu
      have hid : u.sockets[id]? = some (newSocket s invalidSocketIdentifier callback false) := by
        rw [harrived.sockets, Table.lookup_insert, if_pos rfl]
      refine .bind_ok hinsert (.bind (.scopeFailure (opened_sound hid hu) fun v hv => ?_)
        fun _ v _ hv => .of_ok rfl hv)
      exact hv.erased.settled
    · exact .bind_error hinsert ht.settled

end ListenUserOperation

namespace AcceptSystemOperation

/-- What an accept that failed owes to its pending socket, and, if it has not posted another accept,
to its listening socket. -/
def Failed (listener id : SocketIdentifier) (w : World υ) : Prop :=
  (∃ duties, Sound false (owing listener {.accepting} + owing id duties) w) ∨ ∃ duties, Sound true (owing id duties) w

/-- A socket on which an accept is posted listens. -/
theorem listening_role {listener id : SocketIdentifier} {l : Socket υ} (hl : w.sockets[listener]? = some l)
    (haccepting : Duty.accepting ∈ w.duties listener)
    (haccounts : Accounts (owing id {.beingAccepted listener}) w) :
    roleOf listener w.history = some .listening := by
  obtain ⟨role, hrole, -, hduties⟩ := haccounts.cast listener l hl
  have hmem : Duty.accepting ∈ dutiesOf role := by
    rw [← hduties]
    exact Multiset.mem_add.mpr (.inl haccepting)
  cases role with
  | listening => exact hrole
  | opening =>
    have hreporting : Duty.reporting ∈ w.duties listener + owing id {.beingAccepted listener} listener := by
      rw [hduties]
      simp [dutiesOf]
    rcases Multiset.mem_add.mp hreporting with h | h
    · exact absurd h (reporting_not_mem w listener)
    · unfold owing at h
      rw [Pi.single_apply] at h
      split_ifs at h <;> simp at h
  | _ => simp [dutiesOf] at hmem

/-- The socket was pending, and is accepted once the callback of its listening socket is called. -/
theorem called_sound {listener id : SocketIdentifier} {l s : Socket υ}
    (h : Sound true (owing id {.beingAccepted listener}) w) (hs : w.sockets[id]? = some s)
    (hl : w.sockets[listener]? = some l) (haccepting : Duty.accepting ∈ w.duties listener)
    (hcalled : Called listener .clientOpen id
      ((w.post (.receive id)).updateSocket id fun s => { s with pendingAccept := false }) w') :
    Sound true 0 w' := by
  have hpending : Accounts (owing id {.beingAccepted listener}) w →
      roleOf id w.history = some (.pending listener) := by
    intro haccounts
    rw [← zero_add (owing id _)] at haccounts
    obtain ⟨role, hrole, -, hduty⟩ := haccounts.role hs
    cases role with
    | pending listener' =>
      obtain rfl : listener = listener' := by simpa [dutiesOf] using hduty
      exact hrole
    | _ => simp [dutiesOf] at hduty
  have hduties : w'.duties = w.duties + owing id {.receiving} := by
    rw [duties_of_outstanding hcalled.outstanding]
    exact duties_post w (.receive id)
  refine h.notified hs { s with pendingAccept := false } hpending
    (fun haccounts => .inr (listening_role hl haccepting haccounts))
    (show (Role.pending listener).afterCall id listener .clientOpen id = .accepted listener by simp [Role.afterCall])
    (fun hgenuine => hgenuine) (fun hkind => ?_) rfl
    (fun id' => ?_) (fun id' hne => ?_) (fun howed => ?_) hcalled.acceptRescheduled hcalled.history fun haccounts => ?_
  · simp only [Socket.kind, kindOf, Prod.mk.injEq] at hkind ⊢
    exact ⟨trivial, hkind.2⟩
  · rw [hcalled.sockets]
    change (w.sockets.modify id _)[id']? = _
    rw [Table.lookup_modify, hs]
    by_cases heq : id = id'
    · simp [heq]
    · simp [heq, Ne.symm heq]
  · rw [hduties, Pi.add_apply, owing_other hne, owing_other hne, Pi.zero_apply, add_zero]
  · rw [hduties, Pi.add_apply, owing_self, Pi.zero_apply, add_zero]
    rw [owing_self] at howed
    have hnothing : w.duties id = 0 := by simpa [dutiesOf] using howed
    simp [hnothing, dutiesOf]
  · exact .accepted _ _ _ (present_roster hs) (hpending haccounts) (present_roster hl)
      (listening_role hl haccepting haccounts)

theorem rescheduled_sound (h : Sound rescheduled debt w) (flag : Bool) :
    Sound flag debt { w with acceptRescheduled := flag } := ⟨rfl, fun hdistinct => ⟨(h.accounts hdistinct).cast,
      (h.accounts hdistinct).idle, (h.accounts hdistinct).steps⟩⟩

theorem accepted_sound {listener id : SocketIdentifier} {l s : Socket υ}
    (h : Sound false (owing id {.beingAccepted listener}) w) (hs : w.sockets[id]? = some s)
    (hl : w.sockets[listener]? = some l) (haccepting : Duty.accepting ∈ w.duties listener) :
    Program.Ends (fun operation t => ∃ flag, Sound flag (owed operation) t) (Failed listener id)
      (accepted listener id) w := by
  refine .bind_ok (Program.modify_apply _) ?_
  have ht := rescheduled_sound h true
  rcases scheduleReceiveSystemOperation_outcome id { w with acceptRescheduled := true } with
    ⟨v, hquiet, hok⟩ | ⟨e, v, hquiet, herror⟩
  · refine .bind_ok hok (.bind_ok (Program.modify_apply _) ?_)
    obtain ⟨s', hs', -⟩ := hquiet.keeps id s hs
    obtain ⟨l', hl', -⟩ := hquiet.keeps listener l hl
    set u := (v.post (.receive id)).updateSocket id fun s => { s with pendingAccept := false } with hu
    obtain ⟨l'', hl''⟩ : ∃ l'', u.sockets[listener]? = some l'' := by
      change ∃ l'', (v.sockets.modify id _)[listener]? = some l''
      rw [Table.lookup_modify, hs', hl']
      split_ifs <;> exact ⟨_, rfl⟩
    have haccepting' : Duty.accepting ∈ v.duties listener := by
      rw [hquiet.duties]
      exact haccepting
    have hsound := called_sound (ht.quiet hquiet) hs' hl' haccepting' (notify_called hl'' .clientOpen id)
    cases hnotify : notify listener .clientOpen id u with
    | ok _ u' =>
      rw [hnotify] at hsound
      exact .bind_ok hnotify (.of_ok rfl ⟨true, hsound⟩)
    | error e u' =>
      rw [hnotify] at hsound
      exact .bind_error hnotify (.inr ⟨0, by rwa [owing, Pi.single_zero]⟩)
  · exact .bind_error herror (.inr ⟨_, ht.quiet hquiet⟩)

theorem execute_sound {listener id : SocketIdentifier}
    (h : Sound false (Operation.accept (υ := υ) listener id).duties w) :
    Program.Ends (fun operation t => ∃ flag, Sound flag (owed operation) t) (Failed listener id)
      (execute listener id) w := by
  have hfailed : ∀ t : World υ, Sound false (Operation.accept (υ := υ) listener id).duties t → Failed listener id t :=
    fun t ht => .inl ⟨_, ht⟩
  rcases getSocketOrThrow_cases id w with ⟨s, hs, hget⟩ | ⟨e, -, hget⟩
  · rcases getSocketOrThrow_cases listener w with ⟨l, hl, hget'⟩ | ⟨e, -, hget'⟩
    · refine .bind_ok hget (.bind_ok hget' (.bind_ok (dereference_some hl) ?_))
      refine .bind (h.ends (onWindowsSocket_quiet id (WindowsSocket.accept_same l.socket)) hfailed)
        fun _ t _ hafter => ?_
      obtain ⟨ht, hkeeps⟩ := hafter
      refine .bind_ok (Program.modify_apply _) ?_
      set u := t.updateSocket listener fun s => { s with consecutiveAcceptFailures := 0 } with hu
      have hquiet : Quiet t u := .updateSocket listener t fun _ _ => rfl
      have hsound := ht.quiet hquiet
      rw [Operation.duties, add_comm] at hsound
      refine .bind ((scheduleAcceptSystemOperation_sound hsound).mono (fun _ _ hv => hv) fun v hv => ?_)
        fun _ v _ hscheduled => ?_
      · rw [add_comm] at hv
        exact .inl ⟨_, hv⟩
      · obtain ⟨hv, hkeeps', haccepting⟩ := hscheduled
        obtain ⟨s', hs', -⟩ := trans_of Keeps hkeeps (trans_of Keeps hquiet.keeps hkeeps') id s hs
        obtain ⟨l', hl', -⟩ := trans_of Keeps hkeeps (trans_of Keeps hquiet.keeps hkeeps') listener l hl
        exact accepted_sound hv hs' hl' haccepting
    · exact .bind_ok hget (.bind_error hget' (hfailed w h))
  · exact .bind_error hget (hfailed w h)

theorem reschedule_sound {listener : SocketIdentifier} (h : Sound false (owing listener {.accepting}) w) :
    Sound false 0 (Program.final (reschedule listener w)) := by
  rw [← zero_add (owing listener _)] at h
  have hscheduled := scheduleAcceptSystemOperation_sound h
  rw [reschedule, Program.scopeFailure]
  cases hrun : scheduleAcceptSystemOperation listener w with
  | ok _ t => exact (hscheduled.ok hrun).1
  | error e t => exact erased_settles (hscheduled.error hrun)

theorem countFailure_sound {listener : SocketIdentifier} (h : Sound false (owing listener {.accepting}) w)
    {l : Socket υ} (hl : w.sockets[listener]? = some l) :
    Sound false 0 (Program.final (countFailure listener w)) := by
  have hget : getSocketOrThrow listener w = .ok listener w := by
    rcases getSocketOrThrow_cases listener w with ⟨-, -, hok⟩ | ⟨e, hnone, -⟩
    · exact hok
    · rw [hl] at hnone
      cases hnone
  rw [countFailure, Program.bind_ok hget, Program.bind_ok (Program.modify_apply _)]
  set t := w.updateSocket listener fun s =>
    { s with consecutiveAcceptFailures := s.consecutiveAcceptFailures + 1 } with ht
  have hquiet : Quiet w t := .updateSocket listener w fun _ _ => rfl
  have hsound := h.quiet hquiet
  obtain ⟨l', hl', -⟩ := hquiet.keeps listener l hl
  rw [Program.bind_ok (dereference_some hl')]
  split_ifs
  · exact hsound.owes.erased
  · exact reschedule_sound hsound

theorem onFailure_sound {listener id : SocketIdentifier} (h : Failed listener id w) (errorCode : Option ℕ) :
    ∃ flag, Sound flag 0 (Program.final (onFailure listener id errorCode w)) := by
  rw [onFailure, Program.bind_ok (eraseSocket_ok id w), Program.bind_ok Program.get_apply]
  rcases h with ⟨duties, h⟩ | ⟨duties, h⟩
  · have herased := erased_settles h
    rw [herased.flag, Bool.false_or]
    cases hl : (erased id w).sockets[listener]? with
    | none =>
      rw [if_pos (by simp [Table.contains_eq, hl])]
      refine ⟨false, herased.forgive hl (fun id' hne => ?_) fun _ => rfl⟩
      rw [owing_other hne, Pi.zero_apply]
    | some l =>
      rw [if_neg (by simp [Table.contains_eq, hl])]
      split_ifs
      · exact ⟨false, reschedule_sound herased⟩
      · exact ⟨false, countFailure_sound herased hl⟩
  · rw [← zero_add (owing id duties)] at h
    have herased := erased_settles h
    rw [herased.flag, Bool.true_or, if_pos rfl]
    exact ⟨true, herased⟩

end AcceptSystemOperation

end Farseer.Windows
