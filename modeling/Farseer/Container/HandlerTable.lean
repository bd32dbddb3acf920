import Farseer.Container.Roster

/-! Which handlers the frames of a socket go to. A socket that was not accepted, and under which no
other was, reads its own frames with its own reader, and that reader holds the handlers that were
registered on the socket. -/

namespace Farseer

variable {υ : Type} {id : SocketIdentifier}

/-- The socket was not accepted, and no socket was accepted under it. -/
def NotShared (id : SocketIdentifier) (history : List (ContainerEvent υ)) : Prop :=
  (∀ listener, .socketInserted id (.accept listener) ∉ history) ∧
    ∀ client, .socketInserted client (.accept id) ∉ history

theorem NotShared.mono {history history' : List (ContainerEvent υ)} (h : NotShared id history')
    (hgrows : history <+: history') : NotShared id history :=
  ⟨fun listener hmem => h.1 listener (hgrows.subset hmem), fun client hmem => h.2 client (hgrows.subset hmem)⟩

theorem roleOf_accepted {history : List (ContainerEvent υ)} {listener : SocketIdentifier}
    (h : roleOf id history = some (.accepted listener)) : .socketInserted id (.accept listener) ∈ history := by
  obtain ⟨origin, hmem, hallows⟩ := roleOf_inserted h
  rwa [show origin = .accept listener from hallows] at hmem

namespace ProtocolReader

/-- The tables of a reader are the handlers that were registered on a socket. -/
structure Mirrors (reader : ProtocolReader υ) (id : SocketIdentifier) (history : List (ContainerEvent υ)) : Prop where
  messages : ∀ p : ProtocolIdentifier, reader.inboundMessageConsumers[p]? = registeredConsumer id p history
  responses : ∀ n : ProtocolSequenceNumber,
    reader.inboundOneShotResponseConsumers[n]? = pendingConsumer id n history

variable {reader reader' : ProtocolReader υ} {history : List (ContainerEvent υ)}

theorem Mirrors.frame (h : reader.Mirrors id history) {arrival : Arrival υ} (hserves : reader.Serves arrival) :
    (reader.afterArrival arrival).Mirrors id (history ++ [.frameRead id arrival]) ∧ Consults history id arrival := by
  cases arrival with
  | message p value found =>
    refine ⟨⟨fun p' => ?_, fun n => ?_⟩, hserves.trans (h.messages p)⟩
    · rw [registeredConsumer_concat, ← h.messages]
      rfl
    · rw [pendingConsumer_concat, ← h.responses]
      rfl
  | request p n value found =>
    refine ⟨⟨fun p' => ?_, fun n => ?_⟩, trivial⟩
    · rw [registeredConsumer_concat, ← h.messages]
      rfl
    · rw [pendingConsumer_concat, ← h.responses]
      rfl
  | response p n value found =>
    refine ⟨⟨fun p' => ?_, fun n' => ?_⟩, hserves.trans (h.responses n)⟩
    · rw [registeredConsumer_concat, ← h.messages]
      rfl
    · rw [pendingConsumer_concat, ← h.responses]
      change (reader.inboundOneShotResponseConsumers.erase n)[n']? = _
      rw [Table.lookup_erase]
      simp [pendingAfter]

theorem Mirrors.reads (h : reader.Mirrors id history) (hconsulted : HandlersConsulted id history) {user user' : υ}
    {arrivals : List (Arrival υ)} (hreads : reader.Reads user arrivals reader' user') :
    reader'.Mirrors id (history ++ arrivals.map (.frameRead id)) ∧
      HandlersConsulted id (history ++ arrivals.map (.frameRead id)) := by
  induction hreads with
  | nil =>
    rw [List.map_nil, List.append_nil]
    exact ⟨h, hconsulted⟩
  | concat _ hserves ih =>
    rw [List.map_append, List.map_singleton, ← List.append_assoc]
    obtain ⟨hmirrors, hconsults⟩ := ih.1.frame hserves
    refine ⟨hmirrors, ih.2.concat fun arrival heq => ?_⟩
    cases heq
    exact hconsults

theorem Mirrors.elsewhere (h : reader.Mirrors id history) {event : ContainerEvent υ}
    (hmessages : ∀ p registered, registeredAfter id p registered event = registered)
    (hresponses : ∀ n pending, pendingAfter id n pending event = pending) : reader.Mirrors id (history ++ [event]) := by
  refine ⟨fun p => ?_, fun n => ?_⟩
  · rw [registeredConsumer_concat, hmessages, h.messages]
  · rw [pendingConsumer_concat, hresponses, h.responses]

end ProtocolReader

namespace Roster

variable {m m' : Roster υ}

/-- The reader of a socket holds the handlers registered on it, and its frames went to them. -/
structure Serving (id : SocketIdentifier) (m : Roster υ) : Prop where
  mirrors : ∀ reader, m.sockets id = some reader → reader.Mirrors id m.history
  consulted : HandlersConsulted id m.history

theorem setReader_cases {id' : SocketIdentifier} {new reader : ProtocolReader υ}
    (h : (m.setReader id' new).sockets id = some reader) :
    (id' = id ∧ reader = new) ∨ (id' ≠ id ∧ m.sockets id = some reader) := by
  by_cases hid : id' = id
  · subst hid
    exact .inl ⟨rfl, by simpa [setReader, eq_comm] using h⟩
  · exact .inr ⟨hid, by simpa [setReader, Ne.symm hid] using h⟩

theorem Serving.record (h : Serving id m) {event : ContainerEvent υ}
    (hmessages : ∀ p registered, registeredAfter id p registered event = registered)
    (hresponses : ∀ n pending, pendingAfter id n pending event = pending)
    (hframe : ∀ arrival, event ≠ .frameRead id arrival) : Serving id (m.record event) :=
  ⟨fun reader hreader => (h.mirrors reader hreader).elsewhere hmessages hresponses,
    h.consulted.concat fun arrival heq => absurd heq (hframe arrival)⟩

theorem Serving.notify (h : Serving id m) (receiver : SocketIdentifier) (event : SocketEvent)
    (argument : SocketIdentifier) : Serving id (m.notify receiver event argument) :=
  h.record (fun _ _ => rfl) (fun _ _ => rfl) fun _ heq => by cases heq

theorem Serving.remove (h : Serving id m) (id' : SocketIdentifier) : Serving id (m.remove id') := by
  refine ⟨fun reader hreader => h.mirrors reader ?_, h.consulted⟩
  by_cases hid : id = id'
  · subst hid
    simp [Roster.remove] at hreader
  · simpa [Roster.remove, hid] using hreader

theorem Serving.erase (h : Serving id m) (id' : SocketIdentifier) : Serving id (m.erase id') := by
  unfold Roster.erase
  split
  · exact h.remove id'
  · split_ifs
    · exact (h.notify _ _ _).remove id'
    · exact h.remove id'
  · exact (h.notify _ _ _).remove id'

theorem Serving.inserted (h : Serving id m) (id' : SocketIdentifier) (origin : SocketOrigin) :
    Serving id (m.insert id' origin) := by
  refine ⟨fun reader hreader => ?_, h.consulted.concat fun _ heq => by cases heq⟩
  rcases setReader_cases hreader with ⟨rfl, rfl⟩ | ⟨hid, hold⟩
  · refine ⟨fun p => ?_, fun n => ?_⟩
    · change (∅ : Std.ExtTreeMap ProtocolIdentifier (Consumer υ))[p]? =
        registeredConsumer id' p (m.history ++ [.socketInserted id' origin])
      rw [registeredConsumer_concat, Std.ExtTreeMap.getElem?_empty]
      simp [registeredAfter]
    · change (∅ : Std.ExtTreeMap ProtocolSequenceNumber (Consumer υ))[n]? =
        pendingConsumer id' n (m.history ++ [.socketInserted id' origin])
      rw [pendingConsumer_concat, Std.ExtTreeMap.getElem?_empty]
      simp [pendingAfter]
  · exact (h.mirrors reader hold).elsewhere (fun _ _ => by simp [registeredAfter, hid])
      fun _ _ => by simp [pendingAfter, hid]

theorem Serving.messageConsumerRegistered (h : Serving id m) {id' : SocketIdentifier} {old : ProtocolReader υ}
    (hold : m.sockets id' = some old) (p : ProtocolIdentifier) (consumer : Consumer υ) :
    Serving id ((m.setReader id' { old with
      inboundMessageConsumers := old.inboundMessageConsumers.insert p consumer }).record
        (.messageConsumerRegistered id' p consumer)) := by
  refine ⟨fun reader hreader => ?_, h.consulted.concat fun _ heq => by cases heq⟩
  rcases setReader_cases hreader with ⟨rfl, rfl⟩ | ⟨hid, hsame⟩
  · have hmirrors := h.mirrors old hold
    refine ⟨fun p' => ?_, fun n => ?_⟩
    · change (old.inboundMessageConsumers.insert p consumer)[p']? =
        registeredConsumer id' p' (m.history ++ [.messageConsumerRegistered id' p consumer])
      rw [registeredConsumer_concat, ← hmirrors.messages, Table.lookup_insert]
      simp [registeredAfter]
    · change old.inboundOneShotResponseConsumers[n]? =
        pendingConsumer id' n (m.history ++ [.messageConsumerRegistered id' p consumer])
      rw [pendingConsumer_concat, ← hmirrors.responses]
      rfl
  · exact (h.mirrors reader hsame).elsewhere (fun _ _ => by simp [registeredAfter, hid]) fun _ _ => rfl

theorem Serving.responseConsumerRegistered (h : Serving id m) {id' : SocketIdentifier} {old : ProtocolReader υ}
    (hold : m.sockets id' = some old) (n : ProtocolSequenceNumber) (consumer : Consumer υ) :
    Serving id ((m.setReader id' { old with
      inboundOneShotResponseConsumers := old.inboundOneShotResponseConsumers.insert n consumer }).record
        (.responseConsumerRegistered id' n consumer)) := by
  refine ⟨fun reader hreader => ?_, h.consulted.concat fun _ heq => by cases heq⟩
  rcases setReader_cases hreader with ⟨rfl, rfl⟩ | ⟨hid, hsame⟩
  · have hmirrors := h.mirrors old hold
    refine ⟨fun p => ?_, fun n' => ?_⟩
    · change old.inboundMessageConsumers[p]? =
        registeredConsumer id' p (m.history ++ [.responseConsumerRegistered id' n consumer])
      rw [registeredConsumer_concat, ← hmirrors.messages]
      rfl
    · change (old.inboundOneShotResponseConsumers.insert n consumer)[n']? =
        pendingConsumer id' n' (m.history ++ [.responseConsumerRegistered id' n consumer])
      rw [pendingConsumer_concat, ← hmirrors.responses, Table.lookup_insert]
      simp [pendingAfter]
  · exact (h.mirrors reader hsame).elsewhere (fun _ _ => rfl) fun _ _ => by simp [pendingAfter, hid]

/-- The frames of the socket are read with its own reader, and those of the others are not. -/
theorem Serving.read (h : Serving id m) (hshared : NotShared id m.history) {id' : SocketIdentifier}
    {old new : ProtocolReader υ} (hold : m.sockets (m.readerOf id') = some old) {user user' : υ}
    {arrivals : List (Arrival υ)} (hreads : old.Reads user arrivals new user') :
    Serving id (m.read id' new arrivals) := by
  have hreader : m.readerOf id' = id ↔ id' = id := by
    unfold readerOf
    split
    · rename_i listener hrole
      have hinserted := roleOf_accepted hrole
      constructor
      · rintro rfl
        exact absurd hinserted (hshared.2 id')
      · rintro rfl
        exact absurd hinserted (hshared.1 listener)
    · exact Iff.rfl
  by_cases hid : id' = id
  · subst hid
    rw [hreader.mpr rfl] at hold
    obtain ⟨hmirrors, hconsulted⟩ := (h.mirrors old hold).reads h.consulted hreads
    refine ⟨fun reader hsome => ?_, hconsulted⟩
    rcases setReader_cases hsome with ⟨-, rfl⟩ | ⟨hne, -⟩
    · exact hmirrors
    · exact absurd (hreader.mpr rfl) hne
  · clear hreads
    induction arrivals using List.reverseRecOn with
    | nil =>
      refine ⟨fun reader hsome => ?_, ?_⟩
      · rcases setReader_cases hsome with ⟨heq, -⟩ | ⟨-, hsame⟩
        · exact absurd (hreader.mp heq) hid
        · simpa [Roster.read] using h.mirrors reader hsame
      · simpa [Roster.read] using h.consulted
    | append_singleton arrivals arrival ih =>
      have hstep := @Serving.record _ _ _ ih (.frameRead id' arrival) (fun _ _ => rfl)
        (fun _ _ => by cases arrival <;> simp [pendingAfter, hid]) fun _ heq => by
          cases heq
          exact hid rfl
      simpa [Roster.read, Roster.record] using hstep

theorem Step.serving (h : Step m m') (hshared : NotShared id m'.history) (hm : Serving id m) : Serving id m' := by
  cases h with
  | inserted id' origin => exact hm.inserted id' origin
  | serverOpened | connected | accepted => exact hm.notify _ _ _
  | erased id' => exact hm.erase id'
  | messageConsumerRegistered id' reader hreader p consumer =>
    exact hm.messageConsumerRegistered hreader p consumer
  | requestConsumerRegistered id' reader hreader table =>
    refine ⟨fun reader' hreader' => ?_, hm.consulted⟩
    rcases setReader_cases hreader' with ⟨rfl, rfl⟩ | ⟨-, hsame⟩
    · exact ⟨(hm.mirrors reader hreader).messages, (hm.mirrors reader hreader).responses⟩
    · exact hm.mirrors reader' hsame
  | responseConsumerRegistered id' reader hreader n consumer =>
    exact hm.responseConsumerRegistered hreader n consumer
  | read id' hid' reader reader' hreader user user' arrivals hreads =>
    exact hm.read (hshared.mono (List.prefix_append _ _)) hreader hreads

/-- In every run the frames of a socket that is not shared go to its own handlers. -/
theorem Steps.serving (h : Steps new m) (hshared : NotShared id m.history) : Serving id m := by
  induction h with
  | refl => exact ⟨fun reader hreader => (by cases hreader), .nil id⟩
  | tail _ hlast ih => exact hlast.serving hshared (ih (hshared.mono hlast.grows))

end Roster

end Farseer
