import Farseer.Reader.Arrivals
import Farseer.Reader.Segmentation

/-! Accepted sockets share the `ProtocolReader` of their listening socket. What is read from one of them does
not depend on the others: two runs of `readInboundBytes` that differ in the user state and in the consumers of
responses end alike, so a socket can be followed through any interleaving and compared with a run of its own. -/

namespace Farseer

variable {υ : Type}

/-- The identifier and the value of a message or a request that was handed to a consumer. -/
def Arrival.delivered : Arrival υ → Option (ProtocolIdentifier × Any)
  | .message identifier value (some _) => some (identifier, value)
  | .request identifier _ value (some _) => some (identifier, value)
  | _ => none

/-- The answer to a request, or that there is none, is a function of the request. -/
def ProtocolReader.Answers (reader : ProtocolReader υ) : Prop :=
  ∀ (identifier : ProtocolIdentifier) (consumer : RequestConsumer υ),
    reader.inboundRequestConsumers[identifier]? = some consumer →
      ∀ request user user', Program.Alike (fun _ _ => True) (consumer request) (consumer request) user user'

/-- Two readings that stand at the same place of the same stream, with the same consumers of messages and
requests. The states of the user and the consumers of responses may differ. -/
structure SameStream (s t : Reading υ) : Prop where
  inboundBytes : s.inboundBytes = t.inboundBytes
  inboundBitsOffset : s.inboundBitsOffset = t.inboundBitsOffset
  outboundBytes : s.outboundBytes = t.outboundBytes
  messageConsumers : s.reader.inboundMessageConsumers = t.reader.inboundMessageConsumers
  requestConsumers : s.reader.inboundRequestConsumers = t.reader.inboundRequestConsumers
  answers : s.reader.Answers
  delivered : s.arrivals.filterMap Arrival.delivered = t.arrivals.filterMap Arrival.delivered

section Alike

variable {α β : Type} {s t : Reading υ}

theorem SameStream.record (h : SameStream s t) (a : Arrival υ) :
    SameStream { s with arrivals := s.arrivals ++ [a] } { t with arrivals := t.arrivals ++ [a] } :=
  { h with delivered := by simp only [List.filterMap_append, h.delivered] }

theorem SameStream.user (h : SameStream s t) (user user' : υ) :
    SameStream { s with user } { t with user := user' } := { h with }

theorem SameStream.bind {x y : EStateM Exception (Reading υ) α} {f g : α → EStateM Exception (Reading υ) β}
    (h : Program.Alike SameStream x y s t)
    (hrest : ∀ a s' t', SameStream s' t' → Program.Alike SameStream (f a) (g a) s' t') :
    Program.Alike SameStream (x >>= f) (y >>= g) s t := h.bind hrest fun _ _ => id

theorem onUser_alike {x y : EStateM Exception υ α} (h : SameStream s t)
    (hxy : Program.Alike (fun _ _ => True) x y s.user t.user) :
    Program.Alike SameStream (Reading.onUser x) (Reading.onUser y) s t := by
  rcases hxy.cases with ⟨a, user, user', hx, hy, -⟩ | ⟨e, e', user, user', hx, hy, -⟩
  · exact .of_ok (by rw [Reading.onUser, Program.zoom, hx]) (by rw [Reading.onUser, Program.zoom, hy])
      (h.user user user')
  · exact .of_error (by rw [Reading.onUser, Program.zoom, hx]) (by rw [Reading.onUser, Program.zoom, hy])
      (h.user user user')

theorem onOutboundBytes_alike (x : EStateM Exception (List UInt8) α) (h : SameStream s t) :
    Program.Alike SameStream (Reading.onOutboundBytes x) (Reading.onOutboundBytes x) s t := by
  have hbytes : ∀ outboundBytes, SameStream { s with outboundBytes } { t with outboundBytes } := fun _ => { h with outboundBytes := rfl }
  unfold Program.Alike Reading.onOutboundBytes Program.zoom
  rw [h.outboundBytes]
  cases x t.outboundBytes with
  | ok a outboundBytes => exact ⟨rfl, hbytes outboundBytes⟩
  | error e outboundBytes => exact hbytes outboundBytes

theorem deserialize_alike (d : List UInt8 → EStateM Exception ℕ α) (k : ℕ) (h : SameStream s t) :
    Program.Alike SameStream (Reading.deserialize d k) (Reading.deserialize d k) s t := by
  unfold Program.Alike Reading.deserialize
  rw [h.inboundBytes]
  cases d t.inboundBytes k with
  | ok a k' => exact ⟨rfl, h⟩
  | error e k' => exact h

theorem callPointer_alike (pointer : Option α) (h : SameStream s t) :
    Program.Alike SameStream (Reading.callPointer pointer) (Reading.callPointer pointer) s t := by
  cases pointer with
  | some f => exact .pure f h
  | none => exact Program.Alike.throw Exception.danglingReference h

theorem record_alike (a : Arrival υ) (h : SameStream s t) :
    Program.Alike SameStream (Reading.record a) (Reading.record a) s t := .modify (h.record a)

theorem wrapInTryCatchAndInvoke_final (consumer : Consumer υ) (value : Any) (s : Reading υ) :
    ∃ user, Reading.wrapInTryCatchAndInvoke consumer value s = .ok () { s with user } := by
  unfold Reading.wrapInTryCatchAndInvoke Program.catchAll Reading.onUser Program.zoom
  cases consumer value s.user with
  | ok _ user => exact ⟨user, rfl⟩
  | error _ user => exact ⟨user, rfl⟩

theorem consumeMessage_alike (identifier : ProtocolIdentifier) (message : Any) (h : SameStream s t) :
    Program.Alike SameStream (Reading.consumeMessage identifier message) (Reading.consumeMessage identifier message)
      s t := by
  refine Program.Alike.get_bind ?_
  rw [h.messageConsumers]
  cases t.reader.inboundMessageConsumers[identifier]? with
  | none => exact record_alike _ h
  | some consumer =>
    refine SameStream.bind (record_alike _ h) fun _ s' t' h' => ?_
    obtain ⟨user, hs⟩ := wrapInTryCatchAndInvoke_final consumer message s'
    obtain ⟨user', ht⟩ := wrapInTryCatchAndInvoke_final consumer message t'
    exact .of_ok hs ht (h'.user user user')

theorem consumeRequest_alike (identifier : ProtocolIdentifier) (descriptor : ProtocolDescriptor)
    (n : ProtocolSequenceNumber) (request : Any) (h : SameStream s t) :
    Program.Alike SameStream (Reading.consumeRequest identifier descriptor n request)
      (Reading.consumeRequest identifier descriptor n request) s t := by
  refine Program.Alike.get_bind ?_
  rw [h.requestConsumers]
  cases hconsumer : t.reader.inboundRequestConsumers[identifier]? with
  | none => exact record_alike _ h
  | some consumer =>
    rw [← h.requestConsumers] at hconsumer
    refine SameStream.bind (record_alike _ h) fun _ s' t' h' => ?_
    -- recording leaves the tables alone, so the answer is still that of the consumer
    refine SameStream.bind (onUser_alike h' (h.answers identifier consumer hconsumer request _ _)) ?_
    intro response s'' t'' h''
    exact SameStream.bind (callPointer_alike _ h'') fun serializer _ _ => onOutboundBytes_alike _

/-- A response changes nothing that the other sockets can tell, whether it is expected or not. -/
theorem consumeResponse_cases (identifier : ProtocolIdentifier) (n : ProtocolSequenceNumber) (response : Any)
    (s : Reading υ) : ∃ user inboundOneShotResponseConsumers found,
    Reading.consumeResponse identifier n response s = .ok () { s with
      reader := { s.reader with inboundOneShotResponseConsumers }
      user, arrivals := s.arrivals ++ [.response identifier n response found] } := by
  rw [Reading.consumeResponse, Program.bind_ok Program.get_apply]
  cases s.reader.inboundOneShotResponseConsumers[n]? with
  | none => exact ⟨s.user, s.reader.inboundOneShotResponseConsumers, none, rfl⟩
  | some consumer =>
    obtain ⟨user, hs⟩ := wrapInTryCatchAndInvoke_final consumer response
      { s with arrivals := s.arrivals ++ [.response identifier n response (some consumer)] }
    exact ⟨user, _, some consumer, (Program.bind_ok rfl).trans (Program.scopeExit_ok hs)⟩

theorem consumeResponse_alike (identifier : ProtocolIdentifier) (n : ProtocolSequenceNumber) (response : Any)
    (h : SameStream s t) :
    Program.Alike SameStream (Reading.consumeResponse identifier n response)
      (Reading.consumeResponse identifier n response) s t := by
  obtain ⟨user, oneShots, found, hs⟩ := consumeResponse_cases identifier n response s
  obtain ⟨user', oneShots', found', ht⟩ := consumeResponse_cases identifier n response t
  refine .of_ok hs ht { h with delivered := ?_ }
  -- a response is not among what is delivered
  have hnone : ∀ found : Option (Consumer υ),
      [Arrival.response identifier n response found].filterMap Arrival.delivered = [] := fun found => rfl
  simp only [List.filterMap_append, hnone, h.delivered]

theorem readInbound_alike (identifier : ProtocolIdentifier) (descriptor : ProtocolDescriptor) (k : ℕ)
    (h : SameStream s t) :
    Program.Alike SameStream (Reading.readInbound identifier descriptor k) (Reading.readInbound identifier descriptor k)
      s t := by
  unfold Reading.readInbound
  cases descriptor.protocolType with
  | message =>
    refine SameStream.bind (callPointer_alike _ h) fun d _ _ h => ?_
    refine SameStream.bind (deserialize_alike d k h) ?_
    rintro ⟨message, k'⟩ s t h
    cases message with
    | none => exact .pure none h
    | some message =>
      exact SameStream.bind (consumeMessage_alike identifier message h) fun _ _ _ => .pure (some k')
  | request =>
    refine SameStream.bind (callPointer_alike _ h) fun d _ _ h => ?_
    refine SameStream.bind (deserialize_alike d k h) ?_
    rintro ⟨read, k'⟩ s t h
    cases read with
    | none => exact .pure none h
    | some read =>
      exact SameStream.bind (consumeRequest_alike identifier descriptor read.1 read.2 h) fun _ _ _ => .pure (some k')
  | response =>
    refine SameStream.bind (callPointer_alike _ h) fun d _ _ h => ?_
    refine SameStream.bind (deserialize_alike d k h) ?_
    rintro ⟨read, k'⟩ s t h
    cases read with
    | none => exact .pure none h
    | some read =>
      exact SameStream.bind (consumeResponse_alike identifier read.1 read.2 h) fun _ _ _ => .pure (some k')

end Alike

section Sharing

variable [Ballotin] (registry : ProtocolRegistry)

theorem readLoop_alike (fuel : ℕ) {s t : Reading υ} (h : SameStream s t) :
    Program.Alike SameStream (Reading.readLoop registry fuel) (Reading.readLoop registry fuel) s t := by
  induction fuel generalizing s t with
  | zero => exact Program.Alike.throw Exception.outOfFuel h
  | succ fuel ih =>
    refine Program.Alike.get_bind ?_
    rw [h.inboundBytes, h.inboundBitsOffset]
    split_ifs
    · refine SameStream.bind (deserialize_alike _ _ h) ?_
      rintro ⟨identifier, k⟩ s t h
      refine SameStream.bind (.lift _ h) fun descriptor s t h => ?_
      refine SameStream.bind (readInbound_alike identifier descriptor k h) ?_
      rintro (_ | k') s t h
      · exact .pure () h
      · exact SameStream.bind (.modify { h with inboundBitsOffset := rfl }) fun _ _ _ => ih
    · exact .pure () h

theorem readInboundBytes_alike {s t : Reading υ} (h : SameStream s t) :
    Program.Alike SameStream (Reading.readInboundBytes registry) (Reading.readInboundBytes registry) s t := by
  refine SameStream.bind (.modify { h with inboundBitsOffset := rfl }) fun _ s t h => ?_
  refine Program.Alike.get_bind ?_
  rw [h.inboundBytes]
  refine (readLoop_alike registry _ h).scopeExit fun s t h => { h with inboundBytes := ?_, inboundBitsOffset := rfl }
  rw [Reading.eraseInboundBytes, Reading.eraseInboundBytes, h.inboundBytes, h.inboundBitsOffset]

end Sharing

theorem ProtocolReader.afterArrival_consumers (reader : ProtocolReader υ) (arrival : Arrival υ) :
    (reader.afterArrival arrival).inboundMessageConsumers = reader.inboundMessageConsumers ∧
      (reader.afterArrival arrival).inboundRequestConsumers = reader.inboundRequestConsumers := by
  cases arrival <;> exact ⟨rfl, rfl⟩

theorem ProtocolReader.Reads.consumers {reader reader' : ProtocolReader υ} {user user' : υ}
    {arrivals : List (Arrival υ)} (h : Reads reader user arrivals reader' user') :
    reader'.inboundMessageConsumers = reader.inboundMessageConsumers ∧
      reader'.inboundRequestConsumers = reader.inboundRequestConsumers := by
  induction h with
  | nil => exact ⟨rfl, rfl⟩
  | concat _ _ ih =>
    obtain ⟨hmessages, hrequests⟩ := ProtocolReader.afterArrival_consumers _ _
    exact ⟨hmessages.trans ih.1, hrequests.trans ih.2⟩

/-- What one socket has and what was done for it. The bytes that its listening socket appended to its
`outboundBytes` are in `sentBytes` once they are handed to the connection. -/
structure Stream where
  inboundBytes : List UInt8
  outboundBytes : List UInt8
  sentBytes : List UInt8
  delivered : List (ProtocolIdentifier × Any)
  threw : Bool

structure Sharing (ι υ : Type) where
  reader : ProtocolReader υ
  user : υ
  streams : ι → Stream

/-- Bytes arrive on a socket, or its outbound bytes are sent. In between, the user does what he wants to his state,
and requests may be sent. -/
inductive SharingEvent (ι υ : Type)
  | chunk (i : ι) (bytes : List UInt8)
  | sent (i : ι)
  | interlude (user : υ) (inboundOneShotResponseConsumers : Std.ExtTreeMap ProtocolSequenceNumber (Consumer υ))

section Sockets

variable {ι : Type} [DecidableEq ι] [Ballotin] (registry : ProtocolRegistry)

def SharingEvent.concerns (i : ι) : SharingEvent ι υ → Bool
  | .chunk j _ => j = i
  | .sent j => j = i
  | .interlude .. => false

def Stream.reading (stream : Stream) (reader : ProtocolReader υ) (user : υ) (bytes : List UInt8) : Reading υ where
  reader := reader
  inboundBytes := stream.inboundBytes ++ bytes
  inboundBitsOffset := 0
  outboundBytes := stream.outboundBytes
  user := user
  arrivals := []

def Stream.afterReading (stream : Stream) : EStateM.Result Exception (Reading υ) Unit → Stream
  | .ok _ r => { stream with
      inboundBytes := r.inboundBytes, outboundBytes := r.outboundBytes
      delivered := stream.delivered ++ r.arrivals.filterMap Arrival.delivered }
  | .error _ r => { stream with
      inboundBytes := r.inboundBytes, outboundBytes := r.outboundBytes
      delivered := stream.delivered ++ r.arrivals.filterMap Arrival.delivered, threw := true }

namespace Sharing

/-- A socket whose reading threw is dropped, and nothing more is read from it. -/
def chunk (i : ι) (bytes : List UInt8) (s : Sharing ι υ) : Sharing ι υ :=
  if (s.streams i).threw then s
  else
    let result := Reading.readInboundBytes registry ((s.streams i).reading s.reader s.user bytes)
    { reader := (Program.final result).reader
      user := (Program.final result).user
      streams := Function.update s.streams i ((s.streams i).afterReading result) }

def step (s : Sharing ι υ) : SharingEvent ι υ → Sharing ι υ
  | .chunk i bytes => s.chunk registry i bytes
  | .sent i => { s with streams := Function.update s.streams i { s.streams i with
      outboundBytes := [], sentBytes := (s.streams i).sentBytes ++ (s.streams i).outboundBytes } }
  | .interlude user inboundOneShotResponseConsumers =>
    { s with user, reader := { s.reader with inboundOneShotResponseConsumers } }

def run (s : Sharing ι υ) (events : List (SharingEvent ι υ)) : Sharing ι υ :=
  events.foldl (step registry) s

/-- Two systems that a socket cannot tell apart. -/
structure Alike (i : ι) (s t : Sharing ι υ) : Prop where
  streams : s.streams i = t.streams i
  messageConsumers : s.reader.inboundMessageConsumers = t.reader.inboundMessageConsumers
  requestConsumers : s.reader.inboundRequestConsumers = t.reader.inboundRequestConsumers
  answers : s.reader.Answers

variable {registry} {i j : ι} {s t : Sharing ι υ}

omit [DecidableEq ι] [Ballotin] in
theorem Alike.refl (h : s.reader.Answers) : Alike i s s := ⟨rfl, rfl, rfl, h⟩

omit [DecidableEq ι] [Ballotin] in
theorem Alike.reading (h : Alike i s t) (bytes : List UInt8) :
    SameStream ((s.streams i).reading s.reader s.user bytes) ((t.streams i).reading t.reader t.user bytes) := by
  rw [h.streams]
  exact ⟨rfl, rfl, rfl, h.messageConsumers, h.requestConsumers, h.answers, rfl⟩

/-- A chunk of the socket itself is read alike. -/
theorem Alike.chunk (h : Alike i s t) (bytes : List UInt8) :
    Alike i (s.chunk registry i bytes) (t.chunk registry i bytes) := by
  have hstream := h.streams
  unfold Sharing.chunk
  rw [hstream]
  split_ifs with hthrew
  · exact h
  · have hread := readInboundBytes_alike registry (h.reading bytes)
    rw [hstream] at hread
    have hfinal := hread.final
    refine ⟨?_, hfinal.messageConsumers, hfinal.requestConsumers, hfinal.answers⟩
    simp only [Function.update_self]
    rcases hread.cases with ⟨_, r, r', hs, ht, hr⟩ | ⟨e, e', r, r', hs, ht, hr⟩
    · simp only [hs, ht, Stream.afterReading, hr.inboundBytes, hr.outboundBytes, hr.delivered]
    · simp only [hs, ht, Stream.afterReading, hr.inboundBytes, hr.outboundBytes, hr.delivered]

variable (registry) in
/-- Reading from another socket leaves the consumers that are shared. -/
theorem chunk_consumers (s : Sharing ι υ) (j : ι) (bytes : List UInt8) :
    (s.chunk registry j bytes).reader.inboundMessageConsumers = s.reader.inboundMessageConsumers ∧
      (s.chunk registry j bytes).reader.inboundRequestConsumers = s.reader.inboundRequestConsumers := by
  unfold Sharing.chunk
  split_ifs
  · exact ⟨rfl, rfl⟩
  · obtain ⟨new, -, hreads⟩ := Reading.readInboundBytes_serves registry ((s.streams j).reading s.reader s.user bytes)
    exact hreads.consumers

theorem chunk_streams (s : Sharing ι υ) (hj : j ≠ i) (bytes : List UInt8) :
    (s.chunk registry j bytes).streams i = s.streams i := by
  unfold Sharing.chunk
  split_ifs
  · rfl
  · exact Function.update_of_ne hj.symm _ _

/-- An event of the socket keeps the two systems alike. -/
theorem Alike.step (h : Alike i s t) {event : SharingEvent ι υ} (hevent : event.concerns i = true) :
    Alike i (s.step registry event) (t.step registry event) := by
  cases event with
  | chunk j bytes =>
    obtain rfl : j = i := by simpa [SharingEvent.concerns] using hevent
    exact h.chunk bytes
  | sent j =>
    obtain rfl : j = i := by simpa [SharingEvent.concerns] using hevent
    exact { h with streams := by simp only [Sharing.step, Function.update_self, h.streams] }
  | interlude user oneShots => simp [SharingEvent.concerns] at hevent

/-- Any other event need not happen in both. -/
theorem Alike.step_left (h : Alike i s t) {event : SharingEvent ι υ} (hevent : event.concerns i = false) :
    Alike i (s.step registry event) t := by
  cases event with
  | chunk j bytes =>
    have hj : j ≠ i := by simpa [SharingEvent.concerns] using hevent
    obtain ⟨hmessages, hrequests⟩ := s.chunk_consumers registry j bytes
    refine ⟨(chunk_streams s hj bytes).trans h.streams, hmessages.trans h.messageConsumers,
      hrequests.trans h.requestConsumers, fun identifier consumer hconsumer => ?_⟩
    exact h.answers identifier consumer (hrequests ▸ hconsumer)
  | sent j =>
    have hj : j ≠ i := by simpa [SharingEvent.concerns] using hevent
    exact { h with streams := (Function.update_of_ne hj.symm _ _).trans h.streams }
  | interlude user oneShots => exact { h with }

theorem Alike.run (h : Alike i s t) (events : List (SharingEvent ι υ)) :
    Alike i (s.run registry events) (t.run registry (events.filter (SharingEvent.concerns i))) := by
  induction events generalizing s t with
  | nil => exact h
  | cons event events ih =>
    cases hevent : event.concerns i with
    | true =>
      rw [List.filter_cons_of_pos hevent]
      exact ih (h.step hevent)
    | false =>
      rw [List.filter_cons_of_neg (by simp [hevent])]
      exact ih (h.step_left hevent)

/-- In any interleaving, what is delivered from a socket, what is appended to its outbound bytes, the bytes that
remain and whether its reading threw are what they are when only its own chunks arrive. -/
theorem run_alone (s : Sharing ι υ) (h : s.reader.Answers) (events : List (SharingEvent ι υ)) (i : ι) :
    (s.run registry events).streams i = (s.run registry (events.filter (SharingEvent.concerns i))).streams i :=
  ((Alike.refl h).run events).streams

end Sharing

end Sockets

/-! A ping in two chunks, and between them bytes of another socket that cannot be read. -/

def pingSharing : Sharing ℕ ℕ where
  reader := pingReading.reader
  user := 0
  streams := fun _ => { inboundBytes := [], outboundBytes := [], sentBytes := [], delivered := [], threw := false }

def pingChunks : List (SharingEvent ℕ ℕ) :=
  [.chunk 0 [0, 0, 0, 3, 0, 0, 0, 0], .chunk 1 [0, 0, 0, 9], .chunk 0 [0, 0, 0, 5, 0, 0, 0, 7]]

theorem pingSharing_answers : pingSharing.reader.Answers := by
  intro identifier consumer hconsumer request user user'
  have hlookup : pingSharing.reader.inboundRequestConsumers =
      Std.ExtTreeMap.insert ∅ pingProtocol.metadata.protocolIdentifier pingConsumer := rfl
  rw [hlookup, Table.lookup_insert] at hconsumer
  split_ifs at hconsumer
  · obtain rfl := Option.some_inj.mp hconsumer
    exact ⟨rfl, trivial⟩
  · simp at hconsumer

theorem pings_alone :
    (@Sharing.run ℕ ℕ _ referenceBallotin pingRegistry pingSharing pingChunks).streams 0 =
      (@Sharing.run ℕ ℕ _ referenceBallotin pingRegistry pingSharing
        [.chunk 0 [0, 0, 0, 3, 0, 0, 0, 0], .chunk 0 [0, 0, 0, 5, 0, 0, 0, 7]]).streams 0 ∧
    ((@Sharing.run ℕ ℕ _ referenceBallotin pingRegistry pingSharing pingChunks).streams 0).delivered =
      [(3, .of pingProtocol.metadata.type (7, ()))] ∧
    ((@Sharing.run ℕ ℕ _ referenceBallotin pingRegistry pingSharing pingChunks).streams 1).threw = true :=
  ⟨@Sharing.run_alone ℕ ℕ _ referenceBallotin pingRegistry pingSharing pingSharing_answers pingChunks 0, rfl, rfl⟩

end Farseer
