import Farseer.Container.Roster
import Farseer.Windows.OperationScheduler

/-! What each socket of the container waits for, and which operations it waits with. The debt of a
state is what an operation that is being consumed did for its sockets and has not posted again. -/

namespace Farseer.Windows

variable {υ : Type}

def World.roster (w : World υ) : Roster υ where
  sockets := fun id => w.sockets[id]?.map Socket.protocolReader
  history := w.history

/-- What the container itself knows of the kind of a socket: whether it is pending, whose client it
is, and whether it listens. -/
def Socket.kind (s : Socket υ) : Bool × SocketIdentifier × Bool :=
  (s.pendingAccept, s.listeningSocketIdentifier, s.socket.acceptFunction)

def kindOf : Role → Bool × SocketIdentifier × Bool
  | .opening | .listening => (false, invalidSocketIdentifier, true)
  | .connecting | .connected => (false, invalidSocketIdentifier, false)
  | .pending listener => (true, listener, false)
  | .accepted listener => (false, listener, false)

/-- A client is one of a socket that has an identifier. -/
def Genuine : Role → Prop
  | .pending listener | .accepted listener => listener ≠ invalidSocketIdentifier
  | _ => True

structure Socket.Plays (s : Socket υ) (role : Role) : Prop where
  kind : s.kind = kindOf role
  genuine : Genuine role

/-- What is done for a socket. -/
inductive Duty
  /-- an accept is posted on it -/
  | accepting
  /-- it waits to be accepted -/
  | beingAccepted (listeningSocketIdentifier : SocketIdentifier)
  | connecting
  | receiving
  /-- its callback is about to be told that it is open -/
  | reporting
deriving DecidableEq

def dutiesOf : Role → Multiset Duty
  | .opening => {.accepting, .reporting}
  | .listening => {.accepting}
  | .connecting => {.connecting}
  | .pending listener => {.beingAccepted listener}
  | .connected | .accepted _ => {.receiving}

/-- What each socket is to have done for it. -/
abbrev Debt := SocketIdentifier → Multiset Duty

def owing (id : SocketIdentifier) (duties : Multiset Duty) : Debt := Pi.single id duties

@[simp] theorem owing_self (id : SocketIdentifier) (duties : Multiset Duty) : owing id duties id = duties := by
  simp [owing]

theorem owing_other {id id' : SocketIdentifier} (h : id' ≠ id) (duties : Multiset Duty) : owing id duties id' = 0 := by
  simp [owing, h]

def Operation.duties : Operation υ → Debt
  | .connect socketIdentifier _ _ _ true => owing socketIdentifier {.connecting}
  | .accept listeningSocketIdentifier pendingAcceptSocketIdentifier =>
    owing listeningSocketIdentifier {.accepting} +
      owing pendingAcceptSocketIdentifier {.beingAccepted listeningSocketIdentifier}
  | .receive socketIdentifier => owing socketIdentifier {.receiving}
  | _ => 0

def World.duties (w : World υ) : Debt := (w.outstanding.map Operation.duties).sum

@[simp] theorem duties_post (w : World υ) (operation : Operation υ) :
    (w.post operation).duties = w.duties + operation.duties := by
  simp [World.duties, World.post]

theorem duties_dequeued {w : World υ} {before after : List (Operation υ)} {operation : Operation υ}
    (h : w.outstanding = before ++ operation :: after) :
    (OperationScheduler.dequeued before after w).duties + operation.duties = w.duties := by
  simp only [World.duties, OperationScheduler.dequeued, h, List.map_append, List.sum_append, List.map_cons,
    List.sum_cons]
  abel

theorem duties_apply (w : World υ) (id : SocketIdentifier) :
    w.duties id = (w.outstanding.map fun operation => operation.duties id).sum := by
  unfold World.duties
  induction w.outstanding with
  | nil => rfl
  | cons operation operations ih => simp [ih]

theorem Operation.reporting_not_mem (operation : Operation υ) (id : SocketIdentifier) :
    Duty.reporting ∉ operation.duties id := by
  unfold Operation.duties
  split
  · simp only [owing, Pi.single_apply]
    split_ifs <;> simp
  · simp only [owing, Pi.add_apply, Pi.single_apply, Multiset.mem_add, not_or]
    split_ifs <;> simp
  · simp only [owing, Pi.single_apply]
    split_ifs <;> simp
  · simp

/-- A socket is reported by the execution that opens it, and by no operation that waits. -/
theorem reporting_not_mem (w : World υ) (id : SocketIdentifier) : Duty.reporting ∉ w.duties id := by
  rw [duties_apply]
  induction w.outstanding with
  | nil => simp
  | cons operation operations ih => simp [ih, operation.reporting_not_mem]

/-- Every socket has been reported for what it is, and what is to be done for it is done or owed. -/
structure Accounts (debt : Debt) (w : World υ) : Prop where
  cast : ∀ (id : SocketIdentifier) (s : Socket υ), w.sockets[id]? = some s →
    ∃ role, roleOf id w.history = some role ∧ s.Plays role ∧ w.duties id + debt id = dutiesOf role
  idle : ∀ id, id ∉ insertedIdentifiers w.history → w.duties id + debt id = 0
  steps : Roster.new.Steps w.roster

/-- The same, while identifiers do not repeat; and the flag of the operation being consumed. -/
structure Sound (rescheduled : Bool) (debt : Debt) (w : World υ) : Prop where
  flag : w.acceptRescheduled = rescheduled
  accounts : DistinctIdentifiers w.history → Accounts debt w

variable {w w' : World υ} {debt debt' : Debt} {rescheduled : Bool}

theorem Sound.change (h : Sound rescheduled debt w) (hflag : w'.acceptRescheduled = w.acceptRescheduled)
    (hgrows : w.history <+: w'.history)
    (haccounts : DistinctIdentifiers w'.history → Accounts debt w → Accounts debt' w') :
    Sound rescheduled debt' w' :=
  ⟨hflag.trans h.flag, fun hdistinct => haccounts hdistinct (h.accounts (hdistinct.mono hgrows))⟩

/-- What a socket is and its handlers, without the bytes that wait in it. -/
def Socket.part (s : Socket υ) : (Bool × SocketIdentifier × Bool) × ProtocolReader υ := (s.kind, s.protocolReader)

structure Quiet (w w' : World υ) : Prop where
  sockets : ∀ id : SocketIdentifier, w'.sockets[id]?.map Socket.part = w.sockets[id]?.map Socket.part
  outstanding : w'.outstanding = w.outstanding
  acceptRescheduled : w'.acceptRescheduled = w.acceptRescheduled
  history : w'.history = w.history

instance : IsPreorder (World υ) Quiet where
  refl _ := ⟨fun _ => rfl, rfl, rfl, rfl⟩
  trans _ _ _ h h' := ⟨fun id => (h'.sockets id).trans (h.sockets id), h'.outstanding.trans h.outstanding,
    h'.acceptRescheduled.trans h.acceptRescheduled, h'.history.trans h.history⟩

theorem Quiet.of_sockets (hsockets : w'.sockets = w.sockets) (houtstanding : w'.outstanding = w.outstanding)
    (hflag : w'.acceptRescheduled = w.acceptRescheduled) (hhistory : w'.history = w.history) : Quiet w w' :=
  ⟨fun _ => by rw [hsockets], houtstanding, hflag, hhistory⟩

theorem Quiet.updateSocket {f : Socket υ → Socket υ} (id : SocketIdentifier) (w : World υ)
    (hf : ∀ s, w.sockets[id]? = some s → (f s).part = s.part) : Quiet w (w.updateSocket id f) := by
  refine ⟨fun id' => ?_, rfl, rfl, rfl⟩
  rw [World.updateSocket, Table.lookup_modify]
  split_ifs with heq
  · rw [← heq]
    cases hs : w.sockets[id]? with
    | none => rfl
    | some s => rw [Option.map_some, Option.map_some, Option.map_some, hf s hs]
  · rfl

theorem Quiet.roster (h : Quiet w w') : w'.roster = w.roster := by
  have hreader : Socket.protocolReader (υ := υ) = Prod.snd ∘ Socket.part := rfl
  unfold World.roster
  congr 1
  · funext id
    rw [hreader, ← Option.map_map, h.sockets, Option.map_map]
  · exact h.history

theorem Quiet.lookup (h : Quiet w w') {id : SocketIdentifier} {s' : Socket υ} (hs' : w'.sockets[id]? = some s') :
    ∃ s, w.sockets[id]? = some s ∧ s.part = s'.part := by
  have hpart := h.sockets id
  rw [hs'] at hpart
  exact Option.map_eq_some_iff.mp hpart.symm

theorem Quiet.contains (h : Quiet w w') (id : SocketIdentifier) : w'.sockets[id]?.isSome = w.sockets[id]?.isSome := by
  rw [← Option.isSome_map (f := Socket.part), h.sockets, Option.isSome_map]

/-- The sockets that are there stay, and are of their kind. -/
def Keeps (w w' : World υ) : Prop :=
  ∀ (id : SocketIdentifier) (s : Socket υ), w.sockets[id]? = some s → ∃ s', w'.sockets[id]? = some s' ∧ s'.kind = s.kind

instance : IsPreorder (World υ) Keeps where
  refl _ _ s hs := ⟨s, hs, rfl⟩
  trans _ _ _ h h' id s hs := by
    obtain ⟨s', hs', hkind⟩ := h id s hs
    obtain ⟨s'', hs'', hkind'⟩ := h' id s' hs'
    exact ⟨s'', hs'', hkind'.trans hkind⟩

theorem Quiet.keeps (h : Quiet w w') : Keeps w w' := by
  intro id s hs
  have hpart := h.sockets id
  rw [hs] at hpart
  obtain ⟨s', hs', heq⟩ := Option.map_eq_some_iff.mp hpart
  exact ⟨s', hs', congrArg Prod.fst heq⟩

theorem Keeps.insert {id : SocketIdentifier} {s : Socket υ} (habsent : w.sockets[id]? = none)
    (hsockets : w'.sockets = w.sockets.insert id s) : Keeps w w' := by
  intro id' s' hs'
  have hne : id ≠ id' := by
    rintro rfl
    rw [habsent] at hs'
    cases hs'
  exact ⟨s', by rw [hsockets, Table.lookup_insert, if_neg hne, hs'], rfl⟩

theorem Quiet.duties (h : Quiet w w') : w'.duties = w.duties := by
  unfold World.duties
  rw [h.outstanding]

theorem Quiet.accounts (hquiet : Quiet w w') (h : Accounts debt w) : Accounts debt w' := by
  refine ⟨fun id s' hs' => ?_, fun id hid => ?_, by rw [hquiet.roster]; exact h.steps⟩
  · obtain ⟨s, hs, hpart⟩ := hquiet.lookup hs'
    obtain ⟨role, hrole, hplays, hduties⟩ := h.cast id s hs
    rw [hquiet.history, hquiet.duties]
    exact ⟨role, hrole, ⟨(congrArg Prod.fst hpart).symm.trans hplays.kind, hplays.genuine⟩, hduties⟩
  · rw [hquiet.history] at hid
    rw [hquiet.duties]
    exact h.idle id hid

theorem Sound.quiet (h : Sound rescheduled debt w) (hquiet : Quiet w w') : Sound rescheduled debt w' :=
  h.change hquiet.acceptRescheduled (by rw [hquiet.history]) fun _ haccounts => hquiet.accounts haccounts

theorem roster_absent {id : SocketIdentifier} (h : w.sockets[id]? = none) : w.roster.sockets id = none := by
  simp [World.roster, h]

theorem roster_present {id : SocketIdentifier} {s : Socket υ} (h : w.sockets[id]? = some s) :
    w.roster.sockets id = some s.protocolReader := by
  simp [World.roster, h]

theorem duties_of_outstanding (h : w'.outstanding = w.outstanding) : w'.duties = w.duties := by
  unfold World.duties
  rw [h]

/-- An operation that is posted does what was owed. -/
theorem Sound.post {operation : Operation υ} (h : Sound rescheduled (debt + operation.duties) w) :
    Sound rescheduled debt (w.post operation) := by
  refine h.change rfl List.prefix_rfl fun _ haccounts => ⟨fun id s hs => ?_, fun id hid => ?_, haccounts.steps⟩
  · obtain ⟨role, hrole, hplays, hduties⟩ := haccounts.cast id s hs
    refine ⟨role, hrole, hplays, ?_⟩
    rw [duties_post, ← hduties, Pi.add_apply, Pi.add_apply, add_assoc, add_comm (operation.duties id)]
  · rw [duties_post, Pi.add_apply, add_assoc, add_comm (operation.duties id)]
    exact haccounts.idle id hid

/-- An operation that is dequeued owes what it did. -/
theorem Sound.dequeued {before after : List (Operation υ)} {operation : Operation υ}
    (h : Sound rescheduled 0 w) (houtstanding : w.outstanding = before ++ operation :: after) :
    Sound false operation.duties (OperationScheduler.dequeued before after w) := by
  refine ⟨rfl, fun hdistinct => ?_⟩
  obtain ⟨hcast, hidle, hsteps⟩ := h.accounts hdistinct
  have hduties := duties_dequeued houtstanding
  refine ⟨fun id s hs => ?_, fun id hid => ?_, hsteps⟩
  · rw [← Pi.add_apply, hduties]
    have hold := hcast id s hs
    simp only [Pi.zero_apply, add_zero] at hold
    exact hold
  · rw [← Pi.add_apply, hduties]
    simpa using hidle id hid

/-- What is owed to a socket that is not there need not be done. -/
theorem Sound.forgive (h : Sound rescheduled debt w) {id : SocketIdentifier} (habsent : w.sockets[id]? = none)
    (hdebt : ∀ id', id' ≠ id → debt' id' = debt id') (hless : debt id = 0 → debt' id = 0) :
    Sound rescheduled debt' w := by
  refine h.change rfl List.prefix_rfl fun _ haccounts => ⟨fun id' s hs => ?_, fun id' hid' => ?_, haccounts.steps⟩
  · have hne : id' ≠ id := by
      rintro rfl
      rw [habsent] at hs
      cases hs
    rw [hdebt id' hne]
    exact haccounts.cast id' s hs
  · have hnothing := haccounts.idle id' hid'
    obtain ⟨hduties, howed⟩ := add_eq_zero.mp hnothing
    by_cases hid : id' = id
    · subst hid
      rw [hduties, hless howed, add_zero]
    · rwa [hdebt id' hid]

theorem origin_genuine (s : Socket υ) : Genuine s.origin.role := by
  unfold Socket.origin
  split_ifs with hlistener hlistening
  · exact hlistener
  · trivial
  · trivial

/-- A socket is inserted under an identifier that is new; what is to be done for it is owed. -/
theorem Sound.insert (h : Sound rescheduled debt w) {id : SocketIdentifier} {s : Socket υ} {role : Role}
    (hreader : s.protocolReader = ProtocolReader.new) (habsent : w.sockets[id]? = none)
    (hnew : DistinctIdentifiers w.history → Accounts debt w → s.origin.role = role ∧ s.kind = kindOf role)
    (horigin : ∀ listener, s.origin = .accept listener → Accounts debt w →
      roleOf listener w.history = some .opening ∨ roleOf listener w.history = some .listening)
    (hsockets : w'.sockets = w.sockets.insert id s) (houtstanding : w'.outstanding = w.outstanding)
    (hflag : w'.acceptRescheduled = w.acceptRescheduled)
    (hhistory : w'.history = w.history ++ [.socketInserted id s.origin]) :
    Sound rescheduled (debt + owing id (dutiesOf role)) w' := by
  refine h.change hflag (by rw [hhistory]; exact List.prefix_append _ _) fun hdistinct haccounts => ?_
  rw [hhistory] at hdistinct
  obtain ⟨hrole, hkind⟩ := hnew (hdistinct.mono (List.prefix_append _ _)) haccounts
  have hgenuine : Genuine role := hrole ▸ origin_genuine s
  have hduties := duties_of_outstanding houtstanding
  refine ⟨fun id' s' hs' => ?_, fun id' hid' => ?_, ?_⟩
  · rw [hsockets] at hs'
    rw [hduties, hhistory, roleOf_concat, Pi.add_apply, ← add_assoc]
    rcases Table.lookup_insert_some hs' with ⟨rfl, rfl⟩ | ⟨hne, hs'⟩
    · rw [haccounts.idle _ hdistinct.fresh.2, zero_add, owing_self]
      exact ⟨role, by simp [roleAfter, hrole], ⟨hkind, hgenuine⟩, rfl⟩
    · rw [owing_other hne, add_zero]
      simpa [roleAfter, Ne.symm hne] using haccounts.cast id' s' hs'
  · rw [hhistory, insertedIdentifiers_append, List.mem_append, not_or] at hid'
    have hne : id' ≠ id := by
      rintro rfl
      exact hid'.2 List.mem_cons_self
    rw [hduties, Pi.add_apply, owing_other hne, add_zero]
    exact haccounts.idle id' hid'.1
  · have hroster : w'.roster = w.roster.insert id s.origin := by
      unfold World.roster
      rw [hsockets, hhistory, Table.map_lookup_insert_eq, hreader]
      rfl
    rw [hroster]
    exact haccounts.steps.tail (.inserted _ _ _ (roster_absent habsent) fun listener heq =>
      horigin listener heq haccounts)

/-- A socket that is to accept listens. -/
theorem Accounts.accepting {id : SocketIdentifier} {s : Socket υ} (h : Accounts (debt + owing id {.accepting}) w)
    (hs : w.sockets[id]? = some s) :
    roleOf id w.history = some .opening ∨ roleOf id w.history = some .listening := by
  obtain ⟨role, hrole, -, hduties⟩ := h.cast id s hs
  have hmem : Duty.accepting ∈ dutiesOf role := by
    rw [← hduties, Pi.add_apply, owing_self, ← add_assoc]
    exact Multiset.mem_add.mpr (.inr (Multiset.mem_singleton_self _))
  cases role with
  | opening => exact .inl hrole
  | listening => exact .inr hrole
  | _ => simp [dutiesOf] at hmem

theorem afterCall_other {id receiver argument : SocketIdentifier} (hreceiver : id ≠ receiver)
    (hargument : id ≠ argument) (role : Role) (event : SocketEvent) :
    role.afterCall id receiver event argument = role := by
  cases role <;> cases event <;> simp [Role.afterCall, hreceiver.symm, hargument.symm]

theorem Sound.notified (h : Sound rescheduled debt w) {id receiver : SocketIdentifier} {event : SocketEvent}
    {s : Socket υ} {old role : Role} (hs : w.sockets[id]? = some s) (s' : Socket υ)
    (hrole : Accounts debt w → roleOf id w.history = some old)
    (hreceiver : Accounts debt w → receiver = id ∨ roleOf receiver w.history = some .listening)
    (hnew : old.afterCall id receiver event id = role) (hgenuine : Genuine old → Genuine role)
    (hkind : s.kind = kindOf old → s'.kind = kindOf role) (hreader : s'.protocolReader = s.protocolReader)
    (hsockets : ∀ id' : SocketIdentifier, w'.sockets[id']? = if id' = id then some s' else w.sockets[id']?)
    (hothers : ∀ id', id' ≠ id → w'.duties id' + debt' id' = w.duties id' + debt id')
    (hdone : w.duties id + debt id = dutiesOf old → w'.duties id + debt' id = dutiesOf role)
    (hflag : w'.acceptRescheduled = w.acceptRescheduled)
    (hhistory : w'.history = w.history ++ [.notified receiver event id])
    (hstep : Accounts debt w → Roster.Step w.roster (w.roster.notify receiver event id)) :
    Sound rescheduled debt' w' := by
  refine h.change hflag (by rw [hhistory]; exact List.prefix_append _ _) fun hdistinct haccounts => ?_
  have hold := hrole haccounts
  obtain ⟨role', hrole', hplays, howed⟩ := haccounts.cast id s hs
  obtain rfl : role' = old := Option.some.inj (hrole'.symm.trans hold)
  refine ⟨fun id' t ht => ?_, fun id' hid' => ?_, ?_⟩
  · rw [hsockets] at ht
    rw [hhistory, roleOf_concat]
    by_cases heq : id' = id
    · subst heq
      rw [if_pos rfl] at ht
      cases ht
      rw [hold]
      exact ⟨role, congrArg some hnew, ⟨hkind hplays.kind, hgenuine hplays.genuine⟩, hdone howed⟩
    · rw [if_neg heq] at ht
      obtain ⟨other, hother, hplays', howed'⟩ := haccounts.cast id' t ht
      have hsame : other.afterCall id' receiver event id = other := by
        by_cases hcalled : id' = receiver
        · subst hcalled
          rcases hreceiver haccounts with hself | hlistening
          · exact absurd hself heq
          · cases hother.symm.trans hlistening
            cases event <;> rfl
        · exact afterCall_other hcalled heq other event
      rw [hother, hothers id' heq]
      exact ⟨other, congrArg some hsame, hplays', howed'⟩
  · rw [hhistory, insertedIdentifiers_append] at hid'
    have hunknown : id' ∉ insertedIdentifiers w.history := fun hmem => hid' (List.mem_append_left _ hmem)
    have hne : id' ≠ id := by
      rintro rfl
      rw [roleOf_eq_none hunknown] at hold
      cases hold
    rw [hothers id' hne]
    exact haccounts.idle id' hunknown
  · have hroster : w'.roster = w.roster.notify receiver event id := by
      unfold World.roster Roster.notify Roster.record
      rw [hhistory]
      congr 1
      funext id'
      rw [hsockets]
      dsimp only
      split_ifs with heq
      · rw [heq, hs, Option.map_some, Option.map_some, hreader]
      · rfl
    rw [hroster]
    exact haccounts.steps.tail (hstep haccounts)

end Farseer.Windows
