import Farseer.Container.CallbackGrammar
import Farseer.Container.HandlerTable

/-! How often the handlers of a socket are called. A socket that `connect` has created is not shared;
the consumer of a response is called with the first response of its number and with no other, and the
consumer of a message with every message. -/

namespace Farseer

variable {υ : Type} {id : SocketIdentifier}

def responseRead (id : SocketIdentifier) (n : ProtocolSequenceNumber) :
    ContainerEvent υ → Option (Any × Option (Consumer υ))
  | .frameRead socketIdentifier (.response _ sequenceNumber response consumer) =>
    if socketIdentifier = id ∧ sequenceNumber = n then some (response, consumer) else none
  | _ => none

def responsesRead (id : SocketIdentifier) (n : ProtocolSequenceNumber) (history : List (ContainerEvent υ)) :
    List (Any × Option (Consumer υ)) := history.filterMap (responseRead id n)

def messageRead (id : SocketIdentifier) (p : ProtocolIdentifier) :
    ContainerEvent υ → Option (Any × Option (Consumer υ))
  | .frameRead socketIdentifier (.message identifier message consumer) =>
    if socketIdentifier = id ∧ identifier = p then some (message, consumer) else none
  | _ => none

/-- The messages of a protocol that were read from the bytes of a socket, and who was called with each. -/
def messagesRead (id : SocketIdentifier) (p : ProtocolIdentifier) (history : List (ContainerEvent υ)) :
    List (Any × Option (Consumer υ)) := history.filterMap (messageRead id p)

/-- The consumer of a request that was sent on the socket is called with the first response that has
its number, and with no later one; a consumer of messages that was registered on the socket is
called with all of them. -/
structure HandlersInvoked (id : SocketIdentifier) (history : List (ContainerEvent υ)) : Prop where
  response : ∀ (before between rest : List (ContainerEvent υ)) (n : ProtocolSequenceNumber) (consumer : Consumer υ),
    history = before ++ .responseConsumerRegistered id n consumer :: between ++ rest →
    (∀ other, .responseConsumerRegistered id n other ∉ between) →
    responsesRead id n between = [] ∨ ∃ response others,
      responsesRead id n between = (response, some consumer) :: others ∧ ∀ r ∈ others, r.2 = none
  message : ∀ (before after : List (ContainerEvent υ)) (p : ProtocolIdentifier) (consumer : Consumer υ),
    history = before ++ .messageConsumerRegistered id p consumer :: after →
    ∀ r ∈ messagesRead id p after, r.2 = some consumer

theorem responsesRead_concat (n : ProtocolSequenceNumber) (history : List (ContainerEvent υ))
    (event : ContainerEvent υ) :
    responsesRead id n (history ++ [event]) = responsesRead id n history ++ (responseRead id n event).toList := by
  unfold responsesRead
  rw [List.filterMap_append]
  cases h : responseRead id n event <;> simp [h]

theorem messagesRead_concat (p : ProtocolIdentifier) (history : List (ContainerEvent υ)) (event : ContainerEvent υ) :
    messagesRead id p (history ++ [event]) = messagesRead id p history ++ (messageRead id p event).toList := by
  unfold messagesRead
  rw [List.filterMap_append]
  cases h : messageRead id p event <;> simp [h]

/-- A handler was registered on the socket while the socket was there, in a place that was free. -/
def FirstHandler (id : SocketIdentifier) (before : List (ContainerEvent υ)) : ContainerEvent υ → Prop
  | .responseConsumerRegistered socketIdentifier n _ =>
    socketIdentifier = id → id ∈ insertedIdentifiers before ∧ pendingConsumer id n before = none
  | .messageConsumerRegistered socketIdentifier p _ =>
    socketIdentifier = id → id ∈ insertedIdentifiers before ∧ registeredConsumer id p before = none
  | _ => True

def FirstHandlers (id : SocketIdentifier) (history : List (ContainerEvent υ)) : Prop :=
  ∀ before event after, history = before ++ event :: after → FirstHandler id before event

theorem FirstHandlers.concat {history : List (ContainerEvent υ)} (h : FirstHandlers id history)
    {event : ContainerEvent υ} (hevent : FirstHandler id history event) : FirstHandlers id (history ++ [event]) := by
  intro before event' after heq
  rcases List.eq_nil_or_concat' after with rfl | ⟨after, last, rfl⟩
  · obtain ⟨rfl, hlast⟩ := List.append_inj' heq rfl
    rwa [← List.singleton_inj.mp hlast]
  · rw [← List.cons_append, ← List.append_assoc] at heq
    obtain ⟨rfl, -⟩ := List.append_inj' heq rfl
    exact h before event' after rfl

theorem FirstHandlers.frames {history : List (ContainerEvent υ)} (h : FirstHandlers id history)
    (id' : SocketIdentifier) (arrivals : List (Arrival υ)) :
    FirstHandlers id (history ++ arrivals.map (.frameRead id')) := by
  induction arrivals using List.reverseRecOn with
  | nil => simpa using h
  | append_singleton arrivals arrival ih =>
    rw [List.map_append, List.map_singleton, ← List.append_assoc]
    exact ih.concat trivial

namespace Roster

variable {m m' : Roster υ}

theorem Step.firstHandlers (h : Step m m') (hknown : m.Told) (hserving : Serving id m)
    (hm : FirstHandlers id m.history) : FirstHandlers id m'.history := by
  have hinserted : ∀ {id' : SocketIdentifier} {reader : ProtocolReader υ}, m.sockets id' = some reader →
      id' ∈ insertedIdentifiers m.history := by
    intro id' reader hid
    by_contra hunknown
    exact hknown.known id' (by simp [present, hid]) (roleOf_eq_none hunknown)
  cases h with
  | inserted | serverOpened | connected | accepted => exact hm.concat trivial
  | erased id' =>
    rcases erase_history id' m with h | ⟨receiver, event, h⟩
    · rwa [h]
    · rw [h]
      exact hm.concat trivial
  | messageConsumerRegistered id' reader hid p consumer hfree =>
    refine hm.concat fun heq => ?_
    subst heq
    refine ⟨hinserted hid, ?_⟩
    rw [← (hserving.mirrors reader hid).messages]
    exact Table.lookup_free hfree
  | requestConsumerRegistered => exact hm
  | responseConsumerRegistered id' reader hid n consumer hfree =>
    refine hm.concat fun heq => ?_
    subst heq
    refine ⟨hinserted hid, ?_⟩
    rw [← (hserving.mirrors reader hid).responses]
    exact Table.lookup_free hfree
  | read id' hid reader reader' hreader user user' arrivals hreads => exact hm.frames id' arrivals

theorem Steps.firstHandlers (h : Steps new m) (hdistinct : DistinctIdentifiers m.history)
    (hshared : NotShared id m.history) : FirstHandlers id m.history := by
  induction h with
  | refl => intro before event after h; cases before <;> cases h
  | tail hprev hlast ih =>
    have hdistinct' := hdistinct.mono hlast.grows
    have hshared' := hshared.mono hlast.grows
    exact hlast.firstHandlers (Steps.told hprev hdistinct') (Steps.serving hprev hshared') (ih hdistinct' hshared')

/-- Clients are those of sockets that listen. -/
theorem Steps.listeners (h : Steps new m) : ∀ client listener,
    .socketInserted client (.accept listener) ∈ m.history → .socketInserted listener .listen ∈ m.history := by
  induction h with
  | refl => intro client listener hmem; cases hmem
  | @tail m m' _ hlast ih =>
    intro client listener hmem
    have hgrows := hlast.grows.subset
    by_cases hold : .socketInserted client (.accept listener) ∈ m.history
    · exact hgrows (ih client listener hold)
    · cases hlast with
      | inserted id origin habsent horigin =>
        rcases List.mem_append.mp hmem with hmem | hmem
        · exact absurd hmem hold
        · obtain ⟨rfl, rfl⟩ : client = id ∧ .accept listener = origin := by simpa using hmem
          rcases horigin listener rfl with hrole | hrole
          · obtain ⟨origin, hinserted, hallows⟩ := roleOf_inserted hrole
            rw [show origin = .listen from hallows] at hinserted
            exact hgrows hinserted
          · obtain ⟨origin, hinserted, hallows⟩ := roleOf_inserted hrole
            rw [show origin = .listen from hallows] at hinserted
            exact hgrows hinserted
      | erased id hid =>
        rcases erase_history id m with h | ⟨receiver, event, h⟩
        · rw [h] at hmem
          exact absurd hmem hold
        · rw [h] at hmem
          simp [hold] at hmem
      | requestConsumerRegistered => exact absurd hmem hold
      | serverOpened | connected | accepted | messageConsumerRegistered | responseConsumerRegistered | read =>
        simp [notify, record, read, setReader, hold] at hmem

/-- A socket that `connect` has created was not accepted, and accepts no others. -/
theorem Steps.notShared (h : Steps new m) (hdistinct : DistinctIdentifiers m.history)
    (hconnect : .socketInserted id .connect ∈ m.history) : NotShared id m.history := by
  obtain ⟨role, hrole, hallows⟩ := hdistinct.role hconnect
  constructor
  · intro listener hmem
    obtain ⟨role', hrole', hallows'⟩ := hdistinct.role hmem
    obtain rfl : role = role' := Option.some.inj (hrole.symm.trans hrole')
    cases role <;> cases hallows <;> cases hallows'
  · intro client hmem
    obtain ⟨role', hrole', hallows'⟩ := hdistinct.role (h.listeners client id hmem)
    obtain rfl : role = role' := Option.some.inj (hrole.symm.trans hrole')
    cases role <;> cases hallows <;> cases hallows'

end Roster

theorem DistinctIdentifiers.insertedOnce {before between rest : List (ContainerEvent υ)} {event : ContainerEvent υ}
    (h : DistinctIdentifiers (before ++ event :: between ++ rest)) (hmem : id ∈ insertedIdentifiers before)
    (origin : SocketOrigin) : .socketInserted id origin ∉ between := by
  intro hagain
  rw [DistinctIdentifiers, List.append_assoc, insertedIdentifiers_append, List.nodup_cons, List.nodup_append] at h
  have hlater : id ∈ insertedIdentifiers (event :: between ++ rest) :=
    mem_insertedIdentifiers (List.mem_append_left _ (List.mem_cons_of_mem _ hagain))
  exact h.2.2.2 id hmem id hlater rfl

section Calls

variable {before : List (ContainerEvent υ)} {n : ProtocolSequenceNumber} {p : ProtocolIdentifier}
  {consumer : Consumer υ}

/-- The consumer of a response waits until it has been called, and is called once. -/
theorem response_called (between : List (ContainerEvent υ))
    (hconsulted : HandlersConsulted id (before ++ .responseConsumerRegistered id n consumer :: between))
    (hinserted : ∀ origin, .socketInserted id origin ∉ between)
    (hregistered : ∀ other, .responseConsumerRegistered id n other ∉ between) :
    (responsesRead id n between = [] ∧
      pendingConsumer id n (before ++ .responseConsumerRegistered id n consumer :: between) = some consumer) ∨
    ((∃ response others, responsesRead id n between = (response, some consumer) :: others ∧ ∀ r ∈ others, r.2 = none) ∧
      pendingConsumer id n (before ++ .responseConsumerRegistered id n consumer :: between) = none) := by
  induction between using List.reverseRecOn with
  | nil =>
    rw [pendingConsumer_concat]
    exact .inl ⟨rfl, by simp [pendingAfter]⟩
  | append_singleton between event ih =>
    rw [← List.cons_append, ← List.append_assoc] at hconsulted ⊢
    have hsofar := ih (fun b a r h => hconsulted b a (r ++ [event]) (by rw [h]; simp))
      (fun origin hmem => hinserted origin (List.mem_append_left _ hmem))
      fun other hmem => hregistered other (List.mem_append_left _ hmem)
    rw [responsesRead_concat, pendingConsumer_concat]
    cases event with
    | socketInserted id' origin =>
      have hne : id' ≠ id := by
        rintro rfl
        exact hinserted origin (List.mem_append_right _ (List.mem_singleton_self _))
      simpa [responseRead, pendingAfter, hne] using hsofar
    | responseConsumerRegistered id' n' other =>
      have hne : ¬ (id' = id ∧ n' = n) := by
        rintro ⟨rfl, rfl⟩
        exact hregistered other (List.mem_append_right _ (List.mem_singleton_self _))
      simpa [responseRead, pendingAfter, hne] using hsofar
    | messageConsumerRegistered | notified => simpa [responseRead, pendingAfter] using hsofar
    | frameRead id' arrival =>
      cases arrival with
      | message | request => simpa [responseRead, pendingAfter] using hsofar
      | response p' n' response found =>
        by_cases hsame : id' = id ∧ n' = n
        · obtain ⟨rfl, rfl⟩ := hsame
          have hfound : found = pendingConsumer id' n' (before ++ .responseConsumerRegistered id' n' consumer :: between) :=
            hconsulted _ _ [] rfl
          refine .inr ⟨?_, by simp [pendingAfter]⟩
          rcases hsofar with ⟨hnone, hpending⟩ | ⟨⟨first, others, hread, hothers⟩, hpending⟩
          · rw [hnone, hfound, hpending]
            exact ⟨response, [], by simp [responseRead], by simp⟩
          · rw [hread, hfound, hpending]
            refine ⟨first, others ++ [(response, none)], by simp [responseRead], fun r hr => ?_⟩
            rcases List.mem_append.mp hr with hr | hr
            · exact hothers r hr
            · rw [List.mem_singleton.mp hr]
        · simpa [responseRead, pendingAfter, hsame] using hsofar

theorem message_called (after : List (ContainerEvent υ))
    (hconsulted : HandlersConsulted id (before ++ .messageConsumerRegistered id p consumer :: after))
    (hfirst : FirstHandlers id (before ++ .messageConsumerRegistered id p consumer :: after))
    (hinserted : ∀ origin, .socketInserted id origin ∉ after) :
    (∀ r ∈ messagesRead id p after, r.2 = some consumer) ∧
      registeredConsumer id p (before ++ .messageConsumerRegistered id p consumer :: after) = some consumer := by
  induction after using List.reverseRecOn with
  | nil =>
    rw [registeredConsumer_concat]
    refine ⟨fun r hr => ?_, by simp [registeredAfter]⟩
    cases hr
  | append_singleton after event ih =>
    rw [← List.cons_append, ← List.append_assoc] at hconsulted hfirst ⊢
    obtain ⟨hcalled, hregistered⟩ := ih (fun b a r h => hconsulted b a (r ++ [event]) (by rw [h]; simp))
      (fun b e r h => hfirst b e (r ++ [event]) (by rw [h]; simp))
      fun origin hmem => hinserted origin (List.mem_append_left _ hmem)
    rw [messagesRead_concat, registeredConsumer_concat]
    cases event with
    | socketInserted id' origin =>
      have hne : id' ≠ id := by
        rintro rfl
        exact hinserted origin (List.mem_append_right _ (List.mem_singleton_self _))
      simpa [messageRead, registeredAfter, hne] using And.intro hcalled hregistered
    | messageConsumerRegistered id' p' other =>
      -- a second registration would have been refused
      have hne : ¬ (id' = id ∧ p' = p) := by
        rintro ⟨rfl, rfl⟩
        obtain ⟨-, hnone⟩ := hfirst _ _ [] rfl rfl
        rw [hregistered] at hnone
        cases hnone
      simpa [messageRead, registeredAfter, hne] using And.intro hcalled hregistered
    | responseConsumerRegistered | notified =>
      simpa [messageRead, registeredAfter] using And.intro hcalled hregistered
    | frameRead id' arrival =>
      cases arrival with
      | response | request => simpa [messageRead, registeredAfter] using And.intro hcalled hregistered
      | message p' message found =>
        by_cases hsame : id' = id ∧ p' = p
        · obtain ⟨rfl, rfl⟩ := hsame
          have hfound : found = registeredConsumer id' p' (before ++ .messageConsumerRegistered id' p' consumer :: after) :=
            hconsulted _ _ [] rfl
          refine ⟨fun r hr => ?_, by simpa [registeredAfter] using hregistered⟩
          rcases List.mem_append.mp hr with hr | hr
          · exact hcalled r hr
          · rw [hregistered] at hfound
            rw [hfound] at hr
            simp only [messageRead, and_self, if_true, Option.toList_some, List.mem_singleton] at hr
            rw [hr]
        · simpa [messageRead, registeredAfter, hsame] using And.intro hcalled hregistered

end Calls

namespace Roster

/-- In every run the handlers of a socket that `connect` has created are called for its frames. -/
theorem Steps.invoked {m : Roster υ} (h : Steps new m) (hdistinct : DistinctIdentifiers m.history)
    (hconnect : .socketInserted id .connect ∈ m.history) : HandlersInvoked id m.history := by
  have hshared := h.notShared hdistinct hconnect
  have hconsulted := (h.serving hshared).consulted
  have hfirst := h.firstHandlers hdistinct hshared
  constructor
  · intro before between rest n consumer heq hregistered
    obtain ⟨hmem, -⟩ := hfirst before (.responseConsumerRegistered id n consumer) (between ++ rest)
      (by rw [heq]; simp) rfl
    rw [heq] at hdistinct
    have hpart : HandlersConsulted id (before ++ .responseConsumerRegistered id n consumer :: between) :=
      fun b a r h => hconsulted b a (r ++ rest) (by rw [heq, h]; simp)
    exact (response_called between hpart (hdistinct.insertedOnce hmem) hregistered).imp And.left And.left
  · intro before after p consumer heq
    obtain ⟨hmem, -⟩ := hfirst before (.messageConsumerRegistered id p consumer) after heq rfl
    have honce : ∀ origin, .socketInserted id origin ∉ after := by
      rw [heq, ← List.append_nil after, ← List.cons_append, ← List.append_assoc] at hdistinct
      exact hdistinct.insertedOnce hmem
    rw [heq] at hconsulted hfirst
    exact (message_called after hconsulted hfirst honce).1

end Roster

end Farseer
