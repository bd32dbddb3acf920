import Farseer.Windows.Consumption

/-! The consumer thread keeps its accounts: in every run, what is to be done for a socket is done by
the operations that are outstanding, and the container takes steps of the roster. -/

namespace Farseer.Windows

variable {υ : Type} {w w' : World υ} {debt : Debt} {rescheduled : Bool}

open SocketContainer

theorem roster_setReader {id : SocketIdentifier} {s : Socket υ} (hs : w.sockets[id]? = some s)
    (reader : ProtocolReader υ) : (w.updateSocket id fun s => { s with protocolReader := reader }).roster =
      w.roster.setReader id reader := by
  unfold World.roster Roster.setReader
  congr 1
  funext id'
  change Option.map Socket.protocolReader (w.sockets.modify id _)[id']? = _
  rw [Table.lookup_modify]
  by_cases heq : id = id'
  · subst heq
    simp [hs]
  · simp [heq, Ne.symm heq]

theorem Sound.handlers (h : Sound rescheduled debt w) {id : SocketIdentifier} {s : Socket υ}
    (hs : w.sockets[id]? = some s) (reader : ProtocolReader υ) (events : List (ContainerEvent υ))
    (hroles : ∀ id', roleOf id' (w.history ++ events) = roleOf id' w.history)
    (hinserted : insertedIdentifiers (w.history ++ events) = insertedIdentifiers w.history)
    (hstep : Roster.Step w.roster
      { w.roster.setReader id reader with history := w.history ++ events }) :
    Sound rescheduled debt
      { w.updateSocket id (fun s => { s with protocolReader := reader }) with history := w.history ++ events } := by
  refine h.change rfl (List.prefix_append _ _) fun _ haccounts => ⟨fun id' s' hs' => ?_, fun id' hid' => ?_, ?_⟩
  · dsimp only
    rw [hroles]
    rcases Table.lookup_modify_some hs' with ⟨rfl, t, ht, rfl⟩ | ⟨-, ht⟩
    · obtain ⟨role, hrole, hplays, hduties⟩ := haccounts.cast _ t ht
      exact ⟨role, hrole, ⟨hplays.kind, hplays.genuine⟩, hduties⟩
    · exact haccounts.cast _ s' ht
  · dsimp only at hid'
    rw [hinserted] at hid'
    exact haccounts.idle id' hid'
  · have hroster := roster_setReader hs reader
    refine haccounts.steps.tail ?_
    have heq : World.roster { w.updateSocket id (fun s => { s with protocolReader := reader }) with
        history := w.history ++ events } = { w.roster.setReader id reader with history := w.history ++ events } := by
      rw [← hroster]
      rfl
    rw [heq]
    exact hstep

theorem onProtocolReader_ok {id : SocketIdentifier} {s : Socket υ} (hs : w.sockets[id]? = some s)
    {x : EStateM Exception (ProtocolReader υ) Unit} {protocolReader : ProtocolReader υ}
    (h : x s.protocolReader = .ok () protocolReader) :
    onProtocolReader id x w = .ok () (w.updateSocket id fun s => { s with protocolReader }) := by
  rw [onProtocolReader, hs]
  dsimp only
  rw [h]

theorem onProtocolReader_refused {id : SocketIdentifier} {s : Socket υ} (hs : w.sockets[id]? = some s)
    {x : EStateM Exception (ProtocolReader υ) Unit} {e : Exception} (h : x s.protocolReader = .error e s.protocolReader) :
    ∃ t, onProtocolReader id x w = .error e t ∧ Quiet w t := by
  refine ⟨w.updateSocket id fun s' => { s' with protocolReader := s.protocolReader }, ?_, ?_⟩
  · rw [onProtocolReader, hs]
    dsimp only
    rw [h]
  · refine .updateSocket id w fun s' hs' => ?_
    rw [hs] at hs'
    cases hs'
    rfl

theorem registerMessageConsumer_sound (registry : ProtocolRegistry) (h : Sound false 0 w) (id : SocketIdentifier)
    (p : ProtocolIdentifier) (consumer : Consumer υ) :
    Program.Ends (fun operation t => Sound false (owed operation) t) (Owes id)
      (RegisterMessageConsumerUserOperation.execute registry id p consumer) w := by
  rcases getSocketOrThrow_cases id w with ⟨s, hs, hget⟩ | ⟨e, -, hget⟩
  · refine .bind_ok hget ?_
    rcases s.protocolReader.registerInboundMessageConsumer_cases registry p consumer with ⟨hfree, hok⟩ | ⟨e, herror⟩
    · refine .bind_ok (onProtocolReader_ok hs hok) (.bind_ok (Program.modify_apply _) (.of_ok rfl ?_))
      refine h.handlers hs _ [.messageConsumerRegistered id p consumer] (fun _ => ?_) ?_ ?_
      · rw [roleOf_concat]
        rfl
      · simp [insertedIdentifiers, insertedIdentifier]
      · exact .messageConsumerRegistered _ id s.protocolReader (roster_present hs) p consumer hfree
    · obtain ⟨t, herror, hquiet⟩ := onProtocolReader_refused hs herror
      exact .bind_error herror (h.quiet hquiet).settled
  · exact .bind_error hget h.settled

theorem registerRequestCallback_sound (registry : ProtocolRegistry) (h : Sound false 0 w) (id : SocketIdentifier)
    (p : ProtocolIdentifier) (consumer : RequestConsumer υ) :
    Program.Ends (fun operation t => Sound false (owed operation) t) (Owes id)
      (RegisterRequestCallbackUserOperation.execute registry id p consumer) w := by
  rcases getSocketOrThrow_cases id w with ⟨s, hs, hget⟩ | ⟨e, -, hget⟩
  · refine .bind_ok hget ?_
    obtain ⟨table, hfinal⟩ := ProtocolReader.registerInboundRequestConsumer_final registry p consumer s.protocolReader
    have hsound := h.handlers hs { s.protocolReader with inboundRequestConsumers := table } []
      (fun _ => by rw [List.append_nil]) (by rw [List.append_nil]) (by
        rw [List.append_nil]
        exact .requestConsumerRegistered _ id s.protocolReader (roster_present hs) table)
    rw [List.append_nil] at hsound
    have hregistered : Program.Ends (fun _ t => Sound false 0 t) (Sound false 0)
        (onProtocolReader id (ProtocolReader.registerInboundRequestConsumer registry p consumer)) w := by
      unfold Program.Ends onProtocolReader
      rw [hs]
      dsimp only
      cases hrun : ProtocolReader.registerInboundRequestConsumer registry p consumer s.protocolReader with
      | ok _ reader =>
        rw [hrun] at hfinal
        subst hfinal
        exact hsound
      | error e reader =>
        rw [hrun] at hfinal
        subst hfinal
        exact hsound
    exact .bind (hregistered.mono (fun _ _ ht => ht) fun _ ht => ht.settled) fun _ t _ ht => .of_ok rfl ht
  · exact .bind_error hget h.settled

theorem sendRequest_sound (h : Sound false 0 w) (id : SocketIdentifier) (n : ProtocolSequenceNumber)
    (bytes : List UInt8) (consumer : Consumer υ) :
    Program.Ends (fun operation t => Sound false (owed operation) t) (Owes id)
      (SendRequestUserOperation.execute id n bytes consumer) w := by
  rcases getSocketOrThrow_cases id w with ⟨s, hs, hget⟩ | ⟨e, -, hget⟩
  · refine .bind_ok hget ?_
    rcases s.protocolReader.registerInboundOneShotResponseConsumer_cases n consumer with ⟨hfree, hok⟩ | ⟨e, herror⟩
    · refine .bind_ok (onProtocolReader_ok hs hok) (.bind_ok (Program.modify_apply _) ?_)
      have hsound := h.handlers hs
        { s.protocolReader with
          inboundOneShotResponseConsumers := s.protocolReader.inboundOneShotResponseConsumers.insert n consumer }
        [.responseConsumerRegistered id n consumer]
        (fun _ => by rw [roleOf_concat]; rfl) (by simp [insertedIdentifiers, insertedIdentifier])
        (.responseConsumerRegistered _ id s.protocolReader (roster_present hs) n consumer hfree)
      exact .bind (hsound.ends (postSend_quiet id) fun _ => Sound.settled) fun _ t _ ht => .of_ok rfl ht.1
    · obtain ⟨t, herror, hquiet⟩ := onProtocolReader_refused hs herror
      exact .bind_error herror (h.quiet hquiet).settled
  · exact .bind_error hget h.settled

theorem sendBytes_sound (h : Sound false 0 w) (id : SocketIdentifier) (bytes : List UInt8) :
    Program.Ends (fun operation t => Sound false (owed operation) t) (Owes id)
      (SendBytesUserOperation.execute id bytes) w := by
  rcases getSocketOrThrow_cases id w with ⟨s, hs, hget⟩ | ⟨e, -, hget⟩
  · exact .bind_ok hget (.bind (h.ends (postSend_quiet id) fun _ => Sound.settled) fun _ t _ ⟨ht, _⟩ => .of_ok rfl ht)
  · exact .bind_error hget h.settled

theorem bytesSent_sound (h : Sound false 0 w) (id : SocketIdentifier) (number : ℕ) (bytes : List UInt8) :
    Program.Ends (fun operation t => Sound false (owed operation) t) (Owes id) (bytesSent number bytes) w := by
  unfold bytesSent
  split_ifs
  · exact .of_ok rfl h
  · exact .of_error rfl h.settled

/-- Only a socket that is open waits for bytes. -/
theorem Accounts.receiving {id : SocketIdentifier} {s : Socket υ} (h : Accounts (owing id {.receiving}) w)
    (hs : w.sockets[id]? = some s) : w.roster.readerOf id =
      if s.listeningSocketIdentifier ≠ invalidSocketIdentifier then s.listeningSocketIdentifier else id := by
  rw [← zero_add (owing id _)] at h
  obtain ⟨role, hrole, ⟨hkind, hgenuine⟩, hduty⟩ := h.role hs
  rw [Roster.readerOf, show w.roster.role id = roleOf id w.history from rfl, hrole]
  cases role with
  | connected =>
    simp only [Socket.kind, kindOf, Prod.mk.injEq] at hkind
    simp [hkind]
  | accepted listener =>
    simp only [Socket.kind, kindOf, Prod.mk.injEq] at hkind
    have hvalid : listener ≠ invalidSocketIdentifier := hgenuine
    simp [hkind, hvalid]
  | _ => simp [dutiesOf] at hduty

section Reading

variable [Ballotin] (registry : ProtocolRegistry)

omit [Ballotin] in
/-- What a call of `readInboundBytes` leaves, however it ends. -/
theorem afterReading_sound {reader id : SocketIdentifier} {s t : Socket υ} {start r : Reading υ}
    (h : Sound false (owing id {.receiving}) w) (hs : w.sockets[id]? = some s) (ht : w.sockets[reader]? = some t)
    (hreader : reader = if s.listeningSocketIdentifier ≠ invalidSocketIdentifier then s.listeningSocketIdentifier
      else id) (hstart : start.reader = t.protocolReader) (hnone : start.arrivals = [])
    (hserves : Reading.Serves start r) : Sound false (owing id {.receiving}) (afterReading reader id r w) := by
  obtain ⟨new, hnew, hreads⟩ := hserves
  rw [hnone, List.nil_append] at hnew
  have hsockets : ∀ id' : SocketIdentifier, (afterReading reader id r w).sockets[id']? =
      ((w.sockets.modify reader fun s => { s with protocolReader := r.reader }).modify id fun s =>
        { s with inboundBytes := r.inboundBytes, outboundBytes := r.outboundBytes })[id']? := fun _ => rfl
  have hhistory : (afterReading reader id r w).history = w.history ++ new.map (.frameRead id) := by
    rw [← hnew]
    rfl
  have hroles : ∀ id', roleOf id' (afterReading reader id r w).history = roleOf id' w.history := by
    intro id'
    rw [hhistory]
    exact Roster.frames_role id new w.history id'
  refine h.change rfl (by rw [hhistory]; exact List.prefix_append _ _) fun _ haccounts => ⟨?_, ?_, ?_⟩
  · intro id' s' hs'
    rw [hroles]
    have hfound : ∃ u, w.sockets[id']? = some u ∧ s'.kind = u.kind := by
      rw [hsockets] at hs'
      rcases Table.lookup_modify_some hs' with ⟨rfl, u, hu, rfl⟩ | ⟨-, hu⟩
      · rcases Table.lookup_modify_some hu with ⟨rfl, v, hv, rfl⟩ | ⟨-, hv⟩
        · exact ⟨v, hv, rfl⟩
        · exact ⟨u, hv, rfl⟩
      · rcases Table.lookup_modify_some hu with ⟨rfl, v, hv, rfl⟩ | ⟨-, hv⟩
        · exact ⟨v, hv, rfl⟩
        · exact ⟨s', hv, rfl⟩
    obtain ⟨u, hu, hkind⟩ := hfound
    obtain ⟨role, hrole, hplays, hduties⟩ := haccounts.cast id' u hu
    exact ⟨role, hrole, ⟨hkind.trans hplays.kind, hplays.genuine⟩, hduties⟩
  · intro id' hid'
    rw [hhistory, insertedIdentifiers_append] at hid'
    exact haccounts.idle id' fun hmem => hid' (List.mem_append_left _ hmem)
  · have hreaderOf : w.roster.readerOf id = reader := by rw [haccounts.receiving hs, hreader]
    have hroster : (afterReading reader id r w).roster = w.roster.read id r.reader new := by
      unfold Roster.read Roster.setReader
      rw [hreaderOf, World.roster, hhistory]
      congr 1
      funext id'
      rw [hsockets, Table.lookup_modify, Table.lookup_modify, Table.lookup_modify]
      by_cases hid : reader = id'
      · subst hid
        by_cases hboth : id = reader
        · subst hboth
          simp [ht]
        · simp [ht, hboth]
      · by_cases hsame : id = id'
        · subst hsame
          simp [hid, Ne.symm hid, hs, World.roster]
        · simp [hid, Ne.symm hid, hsame, World.roster]
    rw [hroster]
    refine haccounts.steps.tail (.read _ id (present_roster hs) t.protocolReader r.reader ?_ start.user r.user new ?_)
    · rw [hreaderOf]
      exact roster_present ht
    · rwa [← hstart]

theorem readInboundBytes_sound {reader id : SocketIdentifier} {s : Socket υ}
    (h : Sound false (owing id {.receiving}) w) (hs : w.sockets[id]? = some s)
    (hreader : reader = if s.listeningSocketIdentifier ≠ invalidSocketIdentifier then s.listeningSocketIdentifier
      else id) :
    Program.Ends (fun _ t => Sound false (owing id {.receiving}) t) (Owes id)
      (readInboundBytes registry reader id) w := by
  unfold Program.Ends readInboundBytes
  rw [hs]
  cases ht : w.sockets[reader]? with
  | none => exact h.owes
  | some t =>
    dsimp only
    set start : Reading υ :=
      { reader := t.protocolReader, inboundBytes := s.inboundBytes, inboundBitsOffset := 0,
        outboundBytes := s.outboundBytes, user := w.user, arrivals := [] }
    have hserves := Reading.readInboundBytes_serves registry start
    have hsound : ∀ r : Reading υ, Reading.Serves start r →
        Sound false (owing id {.receiving}) (afterReading reader id r w) :=
      fun r hr => afterReading_sound h hs ht hreader rfl rfl hr
    cases hrun : Reading.readInboundBytes registry start with
    | ok _ r => exact hsound r (hserves.ok hrun)
    | error e r => exact (hsound r (hserves.error hrun)).owes

theorem readWithItsReader_sound {id listener : SocketIdentifier} {s : Socket υ}
    (h : Sound false (owing id {.receiving}) w) (hs : w.sockets[id]? = some s)
    (hsame : s.listeningSocketIdentifier = listener) :
    Program.Ends (fun _ t => Sound false (owing id {.receiving}) t) (Owes id)
      (readWithItsReader registry id listener) w := by
  subst hsame
  unfold readWithItsReader
  split_ifs with hlistener
  · rcases getSocketOrThrow_cases s.listeningSocketIdentifier w with ⟨l, -, hget⟩ | ⟨e, -, hget⟩
    · exact .bind_ok hget (readInboundBytes_sound registry h hs (if_pos hlistener).symm)
    · exact .bind_error hget h.owes
  · exact readInboundBytes_sound registry h hs (if_neg hlistener).symm

namespace ReceiveSystemOperation

omit [Ballotin] in
theorem scheduleOutboundBytes_sound {id : SocketIdentifier} (h : Sound false (owing id {.receiving}) w) :
    Program.Ends (fun _ t => Sound false (owing id {.receiving}) t) (Owes id) (scheduleOutboundBytes id) w := by
  rcases dereference_cases id w with ⟨s, -, hok⟩ | ⟨-, herror⟩
  · refine .bind_ok hok ?_
    split_ifs
    · exact .of_ok rfl h
    · refine .bind_ok (Program.modify_apply _) ?_
      have ht := h.quiet (.updateSocket id w fun s hs => rfl : Quiet w
        (w.updateSocket id fun s => { s with outboundBytes := [] }))
      set t := w.updateSocket id fun s => { s with outboundBytes := [] }
      rcases getSocketOrThrow_cases id t with ⟨s', -, hget⟩ | ⟨e, -, hget⟩
      · refine .bind_ok hget (.bind (ht.ends (postSend_quiet id) fun _ => Sound.owes) fun _ u _ ⟨hu, _⟩ => ?_)
        refine .of_ok (Program.modify_apply _) (Sound.post ?_)
        have hduties : (Operation.sendOutboundBytes (υ := υ) id s.outboundBytes).duties = 0 := rfl
        rwa [hduties, add_zero]
      · exact .bind_error hget ht.owes
  · exact .bind_error herror h.owes

theorem received_sound {id : SocketIdentifier} (h : Sound false (owing id {.receiving}) w) (bytes : List UInt8) :
    Program.Ends (fun operation t => Sound false (owed operation) t) (Owes id) (received registry id bytes) w := by
  rcases getSocketOrThrow_cases id w with ⟨s, hs, hget⟩ | ⟨e, -, hget⟩
  · refine .bind_ok hget (.bind_ok (dereference_some hs) (.bind_ok (Program.modify_apply _) ?_))
    have ht := h.quiet (.updateSocket id w fun s hs => rfl : Quiet w
      (w.updateSocket id fun s => { s with inboundBytes := s.inboundBytes ++ bytes }))
    have hs' : (w.updateSocket id fun s => { s with inboundBytes := s.inboundBytes ++ bytes }).sockets[id]? =
        some { s with inboundBytes := s.inboundBytes ++ bytes } := by
      change (w.sockets.modify id _)[id]? = _
      rw [Table.lookup_modify, if_pos rfl, hs]
      rfl
    refine .bind (readWithItsReader_sound registry ht hs' rfl) fun _ u _ hu => ?_
    refine .bind (scheduleOutboundBytes_sound hu) fun _ v _ hv => ?_
    exact .bind (hv.ends (postReceive_quiet id) fun _ => Sound.owes) fun _ x _ ⟨hx, _⟩ => .of_ok rfl hx
  · exact .bind_error hget h.owes

theorem execute_sound {id : SocketIdentifier} (h : Sound false (owing id {.receiving}) w) (bytes : List UInt8) :
    Program.Ends (fun operation t => Sound false (owed operation) t) (Owes id) (execute registry id bytes) w := by
  unfold execute
  split_ifs
  · exact .bind_ok (eraseSocket_ok id w) (.of_ok rfl h.owes.erased)
  · exact .of_error rfl h.owes
  · exact received_sound registry h bytes

end ReceiveSystemOperation

end Reading

/-- What an execution that failed leaves owed. -/
def Operation.Failed : Operation υ → World υ → Prop
  | .accept listener id, w => AcceptSystemOperation.Failed listener id w
  | operation, w => Owes operation.getSocketIdentifier w

theorem Operation.execute_sound [Ballotin] (registry : ProtocolRegistry) (operation : Operation υ)
    (transferred : List UInt8) (h : Sound false operation.duties w) :
    Program.Ends (fun operation t => ∃ flag, Sound flag (owed operation) t) operation.Failed
      (operation.execute registry transferred) w := by
  have hplain : ∀ {x : WorldM υ (Option (Operation υ))} {id : SocketIdentifier},
      Program.Ends (fun operation t => Sound false (owed operation) t) (Owes id) x w →
        Program.Ends (fun operation t => ∃ flag, Sound flag (owed operation) t) (Owes id) x w :=
    fun hx => hx.mono (fun _ _ ht => ⟨false, ht⟩) fun _ ht => ht
  cases operation with
  | close id => exact .bind_ok (eraseSocket_ok id w) (.of_ok rfl ⟨false, Owes.erased (Sound.settled h)⟩)
  | connect id ipAddress port callback pending =>
    cases pending with
    | false => exact hplain (ConnectUserOperation.execute_sound h id ipAddress port callback)
    | true => exact hplain (ConnectUserOperation.executePending_sound h)
  | listen id ipAddress port callback => exact hplain (ListenUserOperation.execute_sound h id ipAddress port callback)
  | registerMessageConsumer id p consumer => exact hplain (registerMessageConsumer_sound registry h id p consumer)
  | registerRequestCallback id p consumer => exact hplain (registerRequestCallback_sound registry h id p consumer)
  | sendBytes id bytes pending =>
    cases pending with
    | false => exact hplain (sendBytes_sound h id bytes)
    | true => exact hplain (bytesSent_sound h id _ bytes)
  | sendRequest id n bytes consumer pending =>
    cases pending with
    | false => exact hplain (sendRequest_sound h id n bytes consumer)
    | true => exact .of_ok rfl ⟨false, h⟩
  | accept listener id => exact AcceptSystemOperation.execute_sound h
  | receive id => exact hplain (ReceiveSystemOperation.execute_sound registry h transferred)
  | sendOutboundBytes id bytes => exact hplain (bytesSent_sound h id _ bytes)

/-- The duties of an operation are owed to the socket of the operation, those of an accept to two. -/
theorem Operation.duties_failed (operation : Operation υ) (h : Sound false operation.duties w) : operation.Failed w := by
  cases operation with
  | connect id ipAddress port callback pending =>
    cases pending with
    | false => exact Sound.settled h
    | true => exact Sound.owes h
  | accept listener id => exact .inl ⟨_, h⟩
  | receive id => exact Sound.owes h
  | _ => exact Sound.settled h

namespace OperationScheduler

theorem handleFailedOperation_sound (operation : Operation υ) (errorCode : Option ℕ) (h : operation.Failed w) :
    ∃ flag, Sound flag 0 (handleFailedOperation operation errorCode w) := by
  cases operation with
  | accept listener id => exact AcceptSystemOperation.onFailure_sound h errorCode
  | _ => exact ⟨false, Owes.erased h⟩

theorem consumeOperation_sound [Ballotin] (registry : ProtocolRegistry) (operation : Operation υ)
    (completion : Completion) (h : Sound false operation.duties w) :
    ∃ flag, Sound flag 0 (consumeOperation registry operation completion w) := by
  cases completion with
  | failed errorCode => exact handleFailedOperation_sound operation _ (operation.duties_failed h)
  | succeeded transferred =>
    have hexecuted := operation.execute_sound registry transferred h
    unfold consumeOperation handleSuccessfulOperation
    dsimp only
    cases hrun : operation.execute registry transferred w with
    | error e t => exact handleFailedOperation_sound operation _ (hexecuted.error hrun)
    | ok result t =>
      obtain ⟨flag, ht⟩ := hexecuted.ok hrun
      cases result with
      | none => exact ⟨flag, ht⟩
      | some operation' => exact ⟨flag, Sound.post (by rw [zero_add]; exact ht)⟩

def Kept (l : OperationScheduler υ) : Prop := l.draining = false → ∃ flag, Sound flag 0 l.world

theorem new_kept (user : υ) : (new user).Kept := by
  refine fun _ => ⟨false, rfl, fun _ => ⟨fun id s hs => ?_, fun id _ => rfl, ?_⟩⟩
  · change (∅ : Std.ExtTreeMap SocketIdentifier (Socket υ))[id]? = some s at hs
    rw [Std.ExtTreeMap.getElem?_empty] at hs
    cases hs
  · have hroster : (new user).world.roster = Roster.new := by simp [World.roster, new, Roster.new]
    rw [hroster]

theorem Step.kept [Ballotin] {registry : ProtocolRegistry} {l l' : OperationScheduler υ} (h : Step registry l l')
    (hl : l.Kept) : l'.Kept := by
  intro hdraining
  cases h with
  | schedule operation hnot hfresh =>
    obtain ⟨flag, hsound⟩ := hl hnot
    have hduties : operation.duties = 0 := by
      unfold Operation.duties
      split <;> simp_all [Operation.isPending]
    exact ⟨flag, Sound.post (by rwa [hduties, add_zero])⟩
  | outcomes script =>
    obtain ⟨flag, hsound⟩ := hl hdraining
    exact ⟨flag, hsound.quiet (.of_sockets rfl rfl rfl rfl)⟩
  | consume before after operation completion hnot houtstanding hcompletes =>
    obtain ⟨flag, hsound⟩ := hl hnot
    exact consumeOperation_sound registry operation completion (hsound.dequeued houtstanding)
  | startDraining => cases hdraining
  | drain before after operation hdrain houtstanding =>
    cases hdrain.symm.trans hdraining

theorem Reachable.kept [Ballotin] {registry : ProtocolRegistry} {l : OperationScheduler υ}
    (h : l.Reachable registry) : l.Kept :=
  Run.invariant new_kept (fun _ _ hl hstep => hstep.kept hl) h

theorem Reachable.accounts [Ballotin] {registry : ProtocolRegistry} {l : OperationScheduler υ}
    (h : l.Reachable registry) (hdraining : l.draining = false) (hdistinct : DistinctIdentifiers l.world.history) :
    Accounts 0 l.world := by
  obtain ⟨flag, hsound⟩ := h.kept hdraining
  exact hsound.accounts hdistinct

end OperationScheduler

end Farseer.Windows
