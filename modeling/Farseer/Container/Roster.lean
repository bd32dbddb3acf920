import Farseer.Container.History
import Farseer.Reader.Arrivals

/-! What a socket container is for: sockets that come and go, a reader with handlers for each, and
connection callbacks that are told of it. The Linux and the Windows container both take steps of
this roster; what holds of every roster therefore holds of both. -/

namespace Farseer

variable {υ : Type}

/-- What a socket is to its user. A listening socket is opening until its callback has been called,
and an accepted socket is pending until the callback of its listening socket has been called. -/
inductive Role
  | opening
  | listening
  | connecting
  | connected
  | pending (listeningSocketIdentifier : SocketIdentifier)
  | accepted (listeningSocketIdentifier : SocketIdentifier)
deriving DecidableEq

def SocketOrigin.role : SocketOrigin → Role
  | .listen => .opening
  | .connect => .connecting
  | .accept listeningSocketIdentifier => .pending listeningSocketIdentifier

def Role.afterCall (id : SocketIdentifier) (role : Role) (receiver : SocketIdentifier) (event : SocketEvent)
    (argument : SocketIdentifier) : Role :=
  match role, event with
  | .opening, .serverOpen => if receiver = id then .listening else role
  | .connecting, .clientOpen => if receiver = id then .connected else role
  | .pending listener, .clientOpen => if receiver = listener ∧ argument = id then .accepted listener else role
  | _, _ => role

def roleAfter (id : SocketIdentifier) (role : Option Role) : ContainerEvent υ → Option Role
  | .socketInserted socketIdentifier origin => if socketIdentifier = id then some origin.role else role
  | .notified receiver event argument => role.map fun role => role.afterCall id receiver event argument
  | _ => role

/-- The role of the last socket that had the identifier. -/
def roleOf (id : SocketIdentifier) (history : List (ContainerEvent υ)) : Option Role :=
  history.foldl (roleAfter id) none

@[simp] theorem roleOf_concat (id : SocketIdentifier) (history : List (ContainerEvent υ))
    (event : ContainerEvent υ) : roleOf id (history ++ [event]) = roleAfter id (roleOf id history) event := by
  unfold roleOf
  rw [List.foldl_concat]

def insertedIdentifier : ContainerEvent υ → Option SocketIdentifier
  | .socketInserted socketIdentifier _ => some socketIdentifier
  | _ => none

def insertedIdentifiers (history : List (ContainerEvent υ)) : List SocketIdentifier :=
  history.filterMap insertedIdentifier

/-- Identifiers do not repeat; the sequencer starts after the invalid one. -/
def DistinctIdentifiers (history : List (ContainerEvent υ)) : Prop :=
  (invalidSocketIdentifier :: insertedIdentifiers history).Nodup

instance (history : List (ContainerEvent υ)) : Decidable (DistinctIdentifiers history) :=
  inferInstanceAs (Decidable (List.Nodup _))

theorem insertedIdentifiers_append (history more : List (ContainerEvent υ)) :
    insertedIdentifiers (history ++ more) = insertedIdentifiers history ++ insertedIdentifiers more :=
  List.filterMap_append ..

theorem DistinctIdentifiers.mono {history history' : List (ContainerEvent υ)}
    (h : DistinctIdentifiers history') (hgrows : history <+: history') : DistinctIdentifiers history := by
  obtain ⟨more, rfl⟩ := hgrows
  rw [DistinctIdentifiers, insertedIdentifiers_append, ← List.cons_append] at h
  exact h.of_append_left

theorem DistinctIdentifiers.fresh {history : List (ContainerEvent υ)} {id : SocketIdentifier} {origin : SocketOrigin}
    (h : DistinctIdentifiers (history ++ [.socketInserted id origin])) :
    id ≠ invalidSocketIdentifier ∧ id ∉ insertedIdentifiers history := by
  rw [DistinctIdentifiers, insertedIdentifiers_append, ← List.cons_append, List.nodup_append] at h
  have hdisjoint := h.2.2
  refine ⟨fun heq => ?_, fun hmem => ?_⟩
  · exact hdisjoint _ List.mem_cons_self _ List.mem_cons_self heq.symm
  · exact hdisjoint _ (List.mem_cons_of_mem _ hmem) _ List.mem_cons_self rfl

/-- The roles of the sockets that are inserted for one thing. -/
def SocketOrigin.Allows (origin : SocketOrigin) : Role → Prop
  | .opening | .listening => origin = .listen
  | .connecting | .connected => origin = .connect
  | .pending listener | .accepted listener => origin = .accept listener

theorem SocketOrigin.Allows.afterCall {origin : SocketOrigin} {role : Role} (h : origin.Allows role)
    (id receiver : SocketIdentifier) (event : SocketEvent) (argument : SocketIdentifier) :
    origin.Allows (role.afterCall id receiver event argument) := by
  unfold Role.afterCall
  split <;> try exact h
  all_goals split_ifs <;> exact h

theorem mem_insertedIdentifiers {history : List (ContainerEvent υ)} {id : SocketIdentifier} {origin : SocketOrigin}
    (h : .socketInserted id origin ∈ history) : id ∈ insertedIdentifiers history :=
  List.mem_filterMap.mpr ⟨_, h, rfl⟩

/-- While identifiers do not repeat, a socket remains what it was inserted for. -/
theorem DistinctIdentifiers.role {history : List (ContainerEvent υ)} (h : DistinctIdentifiers history)
    {id : SocketIdentifier} {origin : SocketOrigin} (hmem : .socketInserted id origin ∈ history) :
    ∃ role, roleOf id history = some role ∧ origin.Allows role := by
  induction history using List.reverseRecOn with
  | nil => cases hmem
  | append_singleton history event ih =>
    rw [roleOf_concat]
    rcases List.mem_append.mp hmem with hbefore | hlast
    · obtain ⟨role, hrole, hallows⟩ := ih (h.mono (List.prefix_append _ _)) hbefore
      rw [hrole]
      cases event with
      | socketInserted id' origin' =>
        have hne : id' ≠ id := by
          rintro rfl
          exact h.fresh.2 (mem_insertedIdentifiers hbefore)
        exact ⟨role, by simp [roleAfter, hne], hallows⟩
      | notified receiver event argument => exact ⟨_, rfl, hallows.afterCall _ _ _ _⟩
      | _ => exact ⟨role, rfl, hallows⟩
    · rw [← List.mem_singleton.mp hlast]
      refine ⟨origin.role, by simp [roleAfter], ?_⟩
      cases origin <;> rfl

theorem roleOf_eq_none {id : SocketIdentifier} {history : List (ContainerEvent υ)}
    (h : id ∉ insertedIdentifiers history) : roleOf id history = none := by
  induction history using List.reverseRecOn with
  | nil => rfl
  | append_singleton history event ih =>
    rw [insertedIdentifiers_append, List.mem_append, not_or] at h
    rw [roleOf_concat, ih h.1]
    cases event with
    | socketInserted id' origin =>
      have hne : id' ≠ id := by
        rintro rfl
        exact h.2 List.mem_cons_self
      simp [roleAfter, hne]
    | _ => rfl

theorem roleOf_inserted {id : SocketIdentifier} {history : List (ContainerEvent υ)} {role : Role}
    (h : roleOf id history = some role) : ∃ origin, .socketInserted id origin ∈ history ∧ origin.Allows role := by
  induction history using List.reverseRecOn generalizing role with
  | nil => cases h
  | append_singleton history event ih =>
    have hgrows : history ⊆ history ++ [event] := List.subset_append_left _ _
    rw [roleOf_concat] at h
    cases event with
    | socketInserted id' origin =>
      simp only [roleAfter] at h
      split_ifs at h with hid
      · cases h
        subst hid
        exact ⟨origin, List.mem_append_right _ (List.mem_singleton_self _), by cases origin <;> rfl⟩
      · obtain ⟨origin, hmem, hallows⟩ := ih h
        exact ⟨origin, hgrows hmem, hallows⟩
    | notified receiver event argument =>
      obtain ⟨old, hold, rfl⟩ := Option.map_eq_some_iff.mp h
      obtain ⟨origin, hmem, hallows⟩ := ih hold
      exact ⟨origin, hgrows hmem, hallows.afterCall _ _ _ _⟩
    | messageConsumerRegistered | responseConsumerRegistered | frameRead =>
      obtain ⟨origin, hmem, hallows⟩ := ih h
      exact ⟨origin, hgrows hmem, hallows⟩

structure Roster (υ : Type) where
  sockets : SocketIdentifier → Option (ProtocolReader υ)
  history : List (ContainerEvent υ)

namespace Roster

def role (m : Roster υ) (id : SocketIdentifier) : Option Role := roleOf id m.history

def record (event : ContainerEvent υ) (m : Roster υ) : Roster υ := { m with history := m.history ++ [event] }

def notify (receiver : SocketIdentifier) (event : SocketEvent) (argument : SocketIdentifier) (m : Roster υ) :
    Roster υ := m.record (.notified receiver event argument)

def setReader (id : SocketIdentifier) (reader : ProtocolReader υ) (m : Roster υ) : Roster υ :=
  { m with sockets := Function.update m.sockets id (some reader) }

def insert (id : SocketIdentifier) (origin : SocketOrigin) (m : Roster υ) : Roster υ :=
  (m.setReader id ProtocolReader.new).record (.socketInserted id origin)

def remove (id : SocketIdentifier) (m : Roster υ) : Roster υ :=
  { m with sockets := Function.update m.sockets id none }

/-- A pending socket was never reported. The listening socket of an accepted one is told that it
closed, if it is still there; every other socket is told itself. -/
def erase (id : SocketIdentifier) (m : Roster υ) : Roster υ :=
  match m.role id with
  | some (.pending _) => m.remove id
  | some (.accepted listener) =>
    if (m.sockets listener).isSome then (m.notify listener .clientClosed id).remove id else m.remove id
  | _ => (m.notify id .serverClosed id).remove id

def readerOf (m : Roster υ) (id : SocketIdentifier) : SocketIdentifier :=
  match m.role id with
  | some (.accepted listener) => listener
  | _ => id

def read (id : SocketIdentifier) (reader : ProtocolReader υ) (arrivals : List (Arrival υ)) (m : Roster υ) :
    Roster υ :=
  { m.setReader (m.readerOf id) reader with history := m.history ++ arrivals.map (.frameRead id) }

inductive Step : Roster υ → Roster υ → Prop
  | inserted (m : Roster υ) (id : SocketIdentifier) (origin : SocketOrigin) (h : m.sockets id = none)
      (horigin : ∀ listener, origin = .accept listener →
        m.role listener = some .opening ∨ m.role listener = some .listening) : Step m (m.insert id origin)
  | serverOpened (m : Roster υ) (id : SocketIdentifier) (h : m.sockets id ≠ none)
      (hrole : m.role id = some .opening) : Step m (m.notify id .serverOpen id)
  | connected (m : Roster υ) (id argument : SocketIdentifier) (h : m.sockets id ≠ none)
      (hrole : m.role id = some .connecting) (hargument : argument = id ∨ argument = invalidSocketIdentifier) :
    Step m (m.notify id .clientOpen argument)
  | accepted (m : Roster υ) (id listener : SocketIdentifier) (h : m.sockets id ≠ none)
      (hrole : m.role id = some (.pending listener)) (hlistener : m.sockets listener ≠ none)
      (hlistening : m.role listener = some .listening) : Step m (m.notify listener .clientOpen id)
  | erased (m : Roster υ) (id : SocketIdentifier) (h : m.sockets id ≠ none) : Step m (m.erase id)
  | messageConsumerRegistered (m : Roster υ) (id : SocketIdentifier) (reader : ProtocolReader υ)
      (h : m.sockets id = some reader) (p : ProtocolIdentifier) (consumer : Consumer υ)
      (hfree : reader.inboundMessageConsumers.contains p = false) :
    Step m ((m.setReader id { reader with
      inboundMessageConsumers := reader.inboundMessageConsumers.insert p consumer }).record
        (.messageConsumerRegistered id p consumer))
  | requestConsumerRegistered (m : Roster υ) (id : SocketIdentifier) (reader : ProtocolReader υ)
      (h : m.sockets id = some reader)
      (inboundRequestConsumers : Std.ExtTreeMap ProtocolIdentifier (RequestConsumer υ)) :
    Step m (m.setReader id { reader with inboundRequestConsumers })
  | responseConsumerRegistered (m : Roster υ) (id : SocketIdentifier) (reader : ProtocolReader υ)
      (h : m.sockets id = some reader) (n : ProtocolSequenceNumber) (consumer : Consumer υ)
      (hfree : reader.inboundOneShotResponseConsumers.contains n = false) :
    Step m ((m.setReader id { reader with
      inboundOneShotResponseConsumers := reader.inboundOneShotResponseConsumers.insert n consumer }).record
        (.responseConsumerRegistered id n consumer))
  | read (m : Roster υ) (id : SocketIdentifier) (h : m.sockets id ≠ none) (reader reader' : ProtocolReader υ)
      (hreader : m.sockets (m.readerOf id) = some reader) (user user' : υ) (arrivals : List (Arrival υ))
      (hreads : reader.Reads user arrivals reader' user') : Step m (m.read id reader' arrivals)

abbrev Steps : Roster υ → Roster υ → Prop := Relation.ReflTransGen Step

def new : Roster υ := { sockets := fun _ => none, history := [] }

theorem erase_history (id : SocketIdentifier) (m : Roster υ) :
    (m.erase id).history = m.history ∨
      ∃ receiver event, (m.erase id).history = m.history ++ [.notified receiver event id] := by
  unfold erase
  split
  · exact .inl rfl
  · split_ifs
    · exact .inr ⟨_, _, rfl⟩
    · exact .inl rfl
  · exact .inr ⟨_, _, rfl⟩

theorem erase_role (id : SocketIdentifier) (m : Roster υ) (id' : SocketIdentifier) :
    (m.erase id).role id' = m.role id' := by
  have hnotified : ∀ receiver event, (event = .clientClosed ∨ event = .serverClosed) →
      (m.notify receiver event id).role id' = m.role id' := by
    intro receiver event hevent
    simp only [role, notify, record, roleOf_concat, roleAfter]
    cases roleOf id' m.history with
    | none => rfl
    | some role => rcases hevent with rfl | rfl <;> cases role <;> rfl
  unfold erase
  split
  · rfl
  · split_ifs
    · exact hnotified _ _ (.inl rfl)
    · rfl
  · exact hnotified _ _ (.inr rfl)

theorem frames_role (id : SocketIdentifier) (arrivals : List (Arrival υ)) (history : List (ContainerEvent υ))
    (id' : SocketIdentifier) : roleOf id' (history ++ arrivals.map (.frameRead id)) = roleOf id' history := by
  induction arrivals using List.reverseRecOn with
  | nil => simp
  | append_singleton arrivals arrival ih =>
    rw [List.map_append, List.map_singleton, ← List.append_assoc, roleOf_concat, ih]
    rfl

theorem Step.grows {m m' : Roster υ} (h : Step m m') : m.history <+: m'.history := by
  cases h with
  | inserted | serverOpened | connected | accepted | messageConsumerRegistered | responseConsumerRegistered
  | read => exact List.prefix_append _ _
  | requestConsumerRegistered => exact List.prefix_rfl
  | erased id =>
    rcases erase_history id m with h | ⟨receiver, event, h⟩
    · rw [h]
    · rw [h]
      exact List.prefix_append _ _

/-- What one step preserves while identifiers do not repeat holds in every run in which they do not. -/
theorem Steps.invariant {Inv : Roster υ → Prop}
    (hstep : ∀ m m' : Roster υ, Step m m' → DistinctIdentifiers m'.history → Inv m → Inv m') {m m' : Roster υ}
    (h : Steps m m') (hdistinct : DistinctIdentifiers m'.history) (hm : Inv m) : Inv m' := by
  induction h with
  | refl => exact hm
  | tail _ hlast ih => exact hstep _ _ hlast hdistinct (ih (hdistinct.mono hlast.grows))

end Roster

end Farseer
