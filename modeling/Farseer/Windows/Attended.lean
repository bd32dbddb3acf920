import Farseer.Container.CallbackGrammar
import Farseer.Windows.Roster

/-! No socket goes deaf: whatever completes, fails or is thrown, every socket has the one operation
outstanding that will notice what happens to it. -/

namespace Farseer.Windows

variable {υ : Type}

namespace Operation

def acceptsOn (id : SocketIdentifier) : Operation υ → Bool
  | .accept listeningSocketIdentifier _ => listeningSocketIdentifier == id
  | _ => false

def receivesOn (id : SocketIdentifier) : Operation υ → Bool
  | .receive socketIdentifier => socketIdentifier == id
  | _ => false

def connects (id : SocketIdentifier) : Operation υ → Bool
  | .connect socketIdentifier .. => socketIdentifier == id
  | _ => false

def announced : Operation υ → Option SocketIdentifier
  | .connect socketIdentifier _ _ _ false | .listen socketIdentifier .. => some socketIdentifier
  | _ => none

end Operation

/-- The identifiers of the sockets that were inserted and of those that are going to be do not repeat. -/
def World.IdentifiersDistinct (w : World υ) : Prop :=
  (invalidSocketIdentifier :: (insertedIdentifiers w.history ++ w.outstanding.filterMap Operation.announced)).Nodup

instance (w : World υ) : Decidable w.IdentifiersDistinct := inferInstanceAs (Decidable (List.Nodup _))

variable {w : World υ} {id : SocketIdentifier}

theorem World.IdentifiersDistinct.history (h : w.IdentifiersDistinct) : DistinctIdentifiers w.history := by
  rw [World.IdentifiersDistinct, ← List.cons_append] at h
  exact h.of_append_left

theorem World.IdentifiersDistinct.announced (h : w.IdentifiersDistinct) (hid : id ∈ insertedIdentifiers w.history)
    {operation : Operation υ} (hmem : operation ∈ w.outstanding) : operation.announced ≠ some id := by
  intro hannounced
  rw [World.IdentifiersDistinct, List.nodup_cons, List.nodup_append] at h
  exact h.2.2.2 id hid id (List.mem_filterMap.mpr ⟨operation, hmem, hannounced⟩) rfl

/-- How often something is done for a socket is how many operations do it. -/
theorem count_duties (duty : Duty) (p : Operation υ → Bool)
    (hp : ∀ operation ∈ w.outstanding, (operation.duties id).count duty = if p operation then 1 else 0) :
    (w.duties id).count duty = w.outstanding.countP p := by
  rw [duties_apply]
  revert hp
  induction w.outstanding with
  | nil => intro _; simp
  | cons operation operations ih =>
    intro hp
    have hrest := ih fun operation' hmem => hp operation' (List.mem_cons_of_mem _ hmem)
    rw [List.map_cons, List.sum_cons, Multiset.count_add, hp operation List.mem_cons_self, hrest, List.countP_cons]
    omega

theorem count_owing (id' : SocketIdentifier) (duty duty' : Duty) :
    (owing id' {duty'} id).count duty = if id' = id ∧ duty' = duty then 1 else 0 := by
  by_cases hid : id = id'
  · subst hid
    rw [owing_self, Multiset.count_singleton]
    simp [eq_comm]
  · rw [owing_other hid]
    simp [Ne.symm hid]

theorem count_accepting (w : World υ) (id : SocketIdentifier) :
    (w.duties id).count .accepting = w.outstanding.countP (·.acceptsOn id) := by
  refine count_duties _ _ fun operation _ => ?_
  unfold Operation.duties
  split <;> simp [Operation.acceptsOn, count_owing]

theorem count_receiving (w : World υ) (id : SocketIdentifier) :
    (w.duties id).count .receiving = w.outstanding.countP (·.receivesOn id) := by
  refine count_duties _ _ fun operation _ => ?_
  unfold Operation.duties
  split <;> simp [Operation.receivesOn, count_owing]

theorem count_connecting (w : World υ) (id : SocketIdentifier)
    (h : ∀ operation ∈ w.outstanding, operation.announced ≠ some id) :
    (w.duties id).count .connecting = w.outstanding.countP (·.connects id) := by
  refine count_duties _ _ fun operation hmem => ?_
  have hnot := h operation hmem
  cases operation with
  | connect id' ipAddress port callback pending =>
    cases pending with
    | false =>
      have hne : id' ≠ id := by simpa [Operation.announced] using hnot
      simp [Operation.duties, Operation.connects, hne]
    | true => simp [Operation.duties, Operation.connects, count_owing]
  | accept listener id' => simp [Operation.duties, Operation.connects, count_owing]
  | receive id' => simp [Operation.duties, Operation.connects, count_owing]
  | _ => simp [Operation.duties, Operation.connects]

/-- A socket that `connect` has created. -/
def Socket.IsConnection (s : Socket υ) : Prop :=
  s.listeningSocketIdentifier = invalidSocketIdentifier ∧ s.socket.acceptFunction = false

/-- The operations that a socket needs. A connection waits to be connected until its callback has
been called. -/
structure Attended (w : World υ) (id : SocketIdentifier) (s : Socket υ) : Prop where
  listening : s.socket.acceptFunction = true → w.outstanding.countP (·.acceptsOn id) = 1
  accepted : s.listeningSocketIdentifier ≠ invalidSocketIdentifier → s.pendingAccept = false →
    w.outstanding.countP (·.receivesOn id) = 1
  connecting : s.IsConnection → w.roster.word id = [] →
    w.outstanding.countP (·.connects id) = 1 ∧ w.outstanding.countP (·.receivesOn id) = 0
  connected : s.IsConnection → w.roster.word id ≠ [] →
    w.outstanding.countP (·.receivesOn id) = 1 ∧ w.outstanding.countP (·.connects id) = 0

theorem Accounts.attended (h : Accounts 0 w) (hdistinct : w.IdentifiersDistinct) {s : Socket υ}
    (hs : w.sockets[id]? = some s) : Attended w id s := by
  obtain ⟨role, hrole, ⟨hkind, hgenuine⟩, hduties⟩ := h.cast id s hs
  rw [Pi.zero_apply, add_zero] at hduties
  have hinserted : id ∈ insertedIdentifiers w.history := by
    by_contra hunknown
    rw [roleOf_eq_none hunknown] at hrole
    cases hrole
  have hsaid := (h.steps.told hdistinct.history).said id
  rw [show w.roster.role id = some role from hrole, show w.roster.present id = true by
    simp [Roster.present, roster_present hs]] at hsaid
  have haccepts := count_accepting w id
  have hreceives := count_receiving w id
  have hconnects := count_connecting w id fun operation hmem => hdistinct.announced hinserted hmem
  rw [hduties] at haccepts hreceives hconnects
  simp only [Socket.kind] at hkind
  constructor
  · intro hlistening
    rw [← haccepts]
    cases role <;> simp_all [kindOf, dutiesOf]
  · intro hlistener hpending
    rw [← hreceives]
    cases role <;> simp_all [kindOf, dutiesOf]
  · rintro ⟨hlistener, hnot⟩ hword
    rw [← hconnects, ← hreceives]
    cases role with
    | connecting => simp [dutiesOf]
    | connected =>
      obtain ⟨argument, -, hcalled⟩ := hsaid
      rw [show w.roster.word id = _ from hcalled] at hword
      cases hword
    | opening | listening => simp [kindOf, hnot] at hkind
    | pending listener | accepted listener =>
      simp only [kindOf, Prod.mk.injEq] at hkind
      exact absurd (hkind.2.1.symm.trans hlistener) hgenuine
  · rintro ⟨hlistener, hnot⟩ hword
    rw [← hconnects, ← hreceives]
    cases role with
    | connected => simp [dutiesOf]
    | connecting => exact absurd hsaid hword
    | opening | listening => simp [kindOf, hnot] at hkind
    | pending listener | accepted listener =>
      simp only [kindOf, Prod.mk.injEq] at hkind
      exact absurd (hkind.2.1.symm.trans hlistener) hgenuine

/-- In every run, until the scheduler drains and while identifiers do not repeat, between any two
operations: every socket has its operation outstanding, once. A listening socket that could not post
another accept is not there any more, and its callback has been told so. -/
theorem noSocketGoesDeaf [Ballotin] (registry : ProtocolRegistry) (l : OperationScheduler υ)
    (h : l.Reachable registry) (hdraining : l.draining = false) (hdistinct : l.world.IdentifiersDistinct) :
    (∀ (id : SocketIdentifier) (s : Socket υ), l.world.sockets[id]? = some s → Attended l.world id s) ∧
      ∀ id, .socketInserted id .listen ∈ l.world.history → l.world.sockets[id]? = none →
        (.serverClosed, id) ∈ l.world.roster.word id := by
  have haccounts := h.accounts hdraining hdistinct.history
  refine ⟨fun id s hs => haccounts.attended hdistinct hs, fun id hinserted habsent => ?_⟩
  obtain ⟨role, hrole, hallows⟩ := hdistinct.history.role hinserted
  have hsaid := (haccounts.steps.told hdistinct.history).said id
  rw [show l.world.roster.role id = some role from hrole, show l.world.roster.present id = false by
    simp [Roster.present, roster_absent habsent]] at hsaid
  cases role with
  | opening =>
    rw [show l.world.roster.word id = [(.serverClosed, id)] from hsaid]
    exact List.mem_singleton_self _
  | listening =>
    obtain ⟨clients, -, hword⟩ := hsaid
    rw [show l.world.roster.word id = _ from hword]
    simp
  | connecting | connected | pending | accepted => cases hallows

/-- A socket listens, its first accept has failed, and another socket is connecting. -/
def busyScheduler : OperationScheduler Unit :=
  let _ := referenceBallotin
  let registry : ProtocolRegistry := { protocolDescriptors := ∅ }
  let listen : Operation Unit := .listen 1 "127.0.0.1" 8080 fun _ _ => pure ()
  let connect : Operation Unit := .connect 2 "127.0.0.1" 8080 (fun _ _ => pure ()) false
  (((((OperationScheduler.new ()).withScript { identifiersTaken := [2] }).scheduled listen).scheduled connect).consumed
    registry [] [connect] listen (.succeeded [])).consumed registry [] [.accept 1 3] connect (.succeeded [])
      |>.consumed registry [] [connectPending] (.accept 1 3) (.failed 5)
where
  connectPending : Operation Unit := .connect 2 "127.0.0.1" 8080 (fun _ _ => pure ()) true

theorem busyScheduler_attended :
    (∀ (id : SocketIdentifier) (s : Socket Unit), busyScheduler.world.sockets[id]? = some s →
      Attended busyScheduler.world id s) ∧
    busyScheduler.world.sockets.keys = [1, 2, 4] ∧ busyScheduler.world.outstanding.length = 2 := by
  let _ := referenceBallotin
  let registry : ProtocolRegistry := { protocolDescriptors := ∅ }
  have hscheduled := (((OperationScheduler.Run.initial (R := OperationScheduler.Step registry) ()).step
    (.outcomes _ { identifiersTaken := [2] })).step
      (.schedule _ (.listen 1 "127.0.0.1" 8080 fun _ _ => pure ()) rfl rfl)).step
        (.schedule _ (.connect 2 "127.0.0.1" 8080 (fun _ _ => pure ()) false) rfl rfl)
  have hlistening := hscheduled.step (.consume _ [] [_] _ (.succeeded []) rfl rfl fun _ => rfl)
  have hconnecting := hlistening.step (.consume _ [] [.accept 1 3] _ (.succeeded []) rfl rfl fun _ => rfl)
  have hbusy : busyScheduler.Reachable registry := hconnecting.step
    (.consume _ [] [busyScheduler.connectPending] (.accept 1 3) (.failed 5) rfl rfl fun h => by cases h)
  exact ⟨(noSocketGoesDeaf registry busyScheduler hbusy rfl (by decide)).1, by decide, by decide⟩

end Farseer.Windows
