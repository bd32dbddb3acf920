import Farseer.Reader.Answering

/-! Requests over any number of connections to one listening socket. The bytes of every connection arrive in order in
both directions, in pieces of any size, and anything else may happen in between. -/

namespace Farseer

variable {p : RequestProtocol} {ι π υ : Type}

/-- One end of a connection, with the bytes that are on their way to it. -/
structure Endpoint where
  arrivingBytes : List UInt8
  inboundBytes : List UInt8
  outboundBytes : List UInt8

namespace Endpoint

def new : Endpoint := { arrivingBytes := [], inboundBytes := [], outboundBytes := [] }

/-- What `readInboundBytes` is called with when so many bytes have arrived. -/
def reading (e : Endpoint) (reader : ProtocolReader υ) (user : υ) (size : ℕ) : Reading υ where
  reader := reader
  inboundBytes := e.inboundBytes ++ e.arrivingBytes.take size
  inboundBitsOffset := 0
  outboundBytes := e.outboundBytes
  user := user
  arrivals := []

def afterReading (e : Endpoint) (size : ℕ) (r : Reading υ) : Endpoint where
  arrivingBytes := e.arrivingBytes.drop size
  inboundBytes := r.inboundBytes
  outboundBytes := r.outboundBytes

/-- So many bytes leave one end for the other. -/
def sent (e : Endpoint) (size : ℕ) : Endpoint := { e with outboundBytes := e.outboundBytes.drop size }

def receiving (e sender : Endpoint) (size : ℕ) : Endpoint :=
  { e with arrivingBytes := e.arrivingBytes ++ sender.outboundBytes.take size }

end Endpoint

/-- A socket that `connect` has created and the socket that was accepted for it, with what was done over them. -/
structure Connection (p : RequestProtocol) (υ : Type) where
  /-- the reader of the client; the accepted socket has that of its listening socket -/
  protocolReader : ProtocolReader υ
  client : Endpoint
  server : Endpoint
  /-- the tasks of `sendRequest` that were not executed yet, with the bytes they send -/
  tasks : List (IssuedRequest p υ × List UInt8)
  /-- an exception was thrown while bytes were read, and nothing more is read -/
  threw : Bool
  /-- the requests for which `sendRequest` has returned -/
  issued : List (IssuedRequest p υ)
  /-- those that were sent, in this order -/
  requests : List (IssuedRequest p υ)
  /-- those that were not, because a request with the same sequence number is still pending -/
  refused : List (IssuedRequest p υ)
  /-- the calls of the callback for requests from this connection -/
  calls : List (RequestCall p)
  /-- the frames that the client has read, with the consumers that were called -/
  arrivals : List (Arrival υ)

def Connection.new (protocolReader : ProtocolReader υ) : Connection p υ where
  protocolReader := protocolReader
  client := .new
  server := .new
  tasks := []
  threw := false
  issued := []
  requests := []
  refused := []
  calls := []
  arrivals := []

/-- All of the connections, the reader of the listening socket and the sequencers of the providers. -/
structure Rpc (p : RequestProtocol) (ι π υ : Type) where
  user : υ
  listener : ProtocolReader υ
  protocolSequencers : π → ℕ
  connections : ι → Connection p υ

inductive RpcEvent (p : RequestProtocol) (ι π υ : Type)
  /-- the user calls `sendRequest` -/
  | sendRequest (i : ι) (request : p.metadata.type.Value)
      (responseConsumer : p.responseType.Value → EStateM Exception υ Unit)
  /-- a provider draws a sequence number for something else -/
  | generateSequenceNumber (provider : π)
  /-- one of the tasks that wait is executed -/
  | execute (i : ι) (index : ℕ)
  | clientSent (i : ι) (size : ℕ)
  | serverRead (i : ι) (size : ℕ)
  | serverSent (i : ι) (size : ℕ)
  | clientRead (i : ι) (size : ℕ)
  /-- the user does what he wants to his state -/
  | interlude (user : υ)

namespace Connection

section Steps

variable [Ballotin]

/-- `SocketProvider::sendRequest`, with the number that was drawn. An exception of `serializeWithHeader` is the user's. -/
def sendRequest (c : Connection p υ) (r : IssuedRequest p υ) : Connection p υ :=
  match p.serializeWithHeader r.request r.sequenceNumber [] with
  | .ok _ bytes => { c with issued := c.issued ++ [r], tasks := c.tasks ++ [(r, bytes)] }
  | .error _ _ => c

/-- `SocketContainer::sendRequest`. An exception is logged. -/
def execute (c : Connection p υ) (index : ℕ) : Connection p υ :=
  match c.tasks[index]? with
  | none => c
  | some (r, bytes) =>
    match ProtocolReader.registerInboundOneShotResponseConsumer r.sequenceNumber (p.expecting r.responseConsumer)
      c.protocolReader with
    | .ok _ protocolReader => { c with
        protocolReader
        client := { c.client with outboundBytes := c.client.outboundBytes ++ bytes }
        tasks := c.tasks.eraseIdx index
        requests := c.requests ++ [r] }
    | .error _ protocolReader => { c with
        protocolReader
        tasks := c.tasks.eraseIdx index
        refused := c.refused ++ [r] }

def threwIn {α : Type} : EStateM.Result Exception (Reading υ) α → Bool
  | .ok .. => false
  | .error .. => true

end Steps

end Connection

namespace Rpc

variable [DecidableEq ι] [DecidableEq π] [Ballotin] (registry : ProtocolRegistry) (provider : ι → π)
  (callback : p.Callback υ)

def update (s : Rpc p ι π υ) (i : ι) (c : Connection p υ) : Rpc p ι π υ :=
  { s with connections := Function.update s.connections i c }

def generateSequenceNumber (s : Rpc p ι π υ) (a : π) : Rpc p ι π υ :=
  { s with protocolSequencers := Function.update s.protocolSequencers a (s.protocolSequencers a + 1) }

def serverRead (s : Rpc p ι π υ) (i : ι) (size : ℕ) : Rpc p ι π υ :=
  let c := s.connections i
  if c.threw then s
  else
    let result := Reading.readInboundBytes registry (c.server.reading s.listener s.user size)
    let r := Program.final result
    { s with
      user := r.user
      listener := r.reader
      connections := Function.update s.connections i { c with
        server := c.server.afterReading size r
        threw := Connection.threwIn result
        calls := c.calls ++ callsOf callback s.user r.arrivals } }

def clientRead (s : Rpc p ι π υ) (i : ι) (size : ℕ) : Rpc p ι π υ :=
  let c := s.connections i
  if c.threw then s
  else
    let result := Reading.readInboundBytes registry (c.client.reading c.protocolReader s.user size)
    let r := Program.final result
    { s with
      user := r.user
      connections := Function.update s.connections i { c with
        protocolReader := r.reader
        client := c.client.afterReading size r
        threw := Connection.threwIn result
        arrivals := c.arrivals ++ r.arrivals } }

def step (s : Rpc p ι π υ) : RpcEvent p ι π υ → Rpc p ι π υ
  | .sendRequest i request responseConsumer =>
    (s.generateSequenceNumber (provider i)).update i ((s.connections i).sendRequest
      { number := s.protocolSequencers (provider i), request, responseConsumer })
  | .generateSequenceNumber a => s.generateSequenceNumber a
  | .execute i index => s.update i ((s.connections i).execute index)
  | .clientSent i size =>
    let c := s.connections i
    s.update i { c with client := c.client.sent size, server := c.server.receiving c.client size }
  | .serverRead i size => s.serverRead registry callback i size
  | .serverSent i size =>
    let c := s.connections i
    s.update i { c with server := c.server.sent size, client := c.client.receiving c.server size }
  | .clientRead i size => s.clientRead registry i size
  | .interlude user => { s with user }

def run (s : Rpc p ι π υ) (events : List (RpcEvent p ι π υ)) : Rpc p ι π υ :=
  events.foldl (step registry provider callback) s

/-- Every client is connected, and nothing was sent yet. -/
def initial (listener : ProtocolReader υ) (readers : ι → ProtocolReader υ) (user : υ) : Rpc p ι π υ where
  user := user
  listener := listener
  protocolSequencers _ := 0
  connections i := .new (readers i)

end Rpc

section Reading

variable [Ballotin] [LawfulBallotin] {registry : ProtocolRegistry}

/-- However many bytes have arrived, the whole frames at the front are delivered. -/
theorem Endpoint.reading_delivers {reader : ProtocolReader υ} {frames : List Frame}
    (hframes : ∀ f ∈ frames, Deliverable registry reader.inboundRequestConsumers f) {e : Endpoint} {more : List UInt8}
    (hbytes : e.inboundBytes ++ (e.arrivingBytes ++ more) = frames.flatMap Frame.bytes) (user : υ) (size : ℕ) :
    ∃ done todo rest, frames = done ++ todo ∧
      Reading.readInboundBytes registry (e.reading reader user size) =
        .ok () ((done.foldl deliver (e.reading reader user size)).inbound rest 0) ∧
      rest ++ (e.arrivingBytes.drop size ++ more) = todo.flatMap Frame.bytes ∧
      Framing.Waiting Frame.bytes rest [] todo := by
  have harrived : e.inboundBytes ++ e.arrivingBytes.take size ++ (e.arrivingBytes.drop size ++ more) =
      frames.flatMap Frame.bytes := by
    rw [← hbytes, List.append_assoc, ← List.append_assoc (e.arrivingBytes.take size), List.take_append_drop]
  obtain ⟨done, todo, rest, rfl, hfront, hwaiting⟩ := Framing.split_front frames []
    (e.inboundBytes ++ e.arrivingBytes.take size) ⟨_, by rw [harrived, List.append_nil]⟩
  refine ⟨done, todo, rest, rfl, ?_, ?_, hwaiting⟩
  · have hcall := readInboundBytes_delivers (e.reading reader user size) done rest rfl
      (fun f hf => hframes f (List.mem_append_left _ hf))
      (hwaiting.unfinished (fun f hf => (hframes f (List.mem_append_right _ hf)).1) (.inl rfl))
    rw [← hfront] at hcall
    exact hcall
  · rw [hfront, List.append_assoc, List.flatMap_append] at harrived
    exact List.append_cancel_left harrived

end Reading

/-- Over a connection, some requests were answered, some responses are under way, and some requests wait for the server.
The bytes in both directions are theirs, as are the response consumers that the client still has. -/
structure Connection.Carries (c : Connection p υ) (callback : p.Callback υ)
    (answered pending : List (IssuedRequest p υ × RequestCall p)) (waiting : List (IssuedRequest p υ)) : Prop where
  requests : c.requests = (answered ++ pending).map Prod.fst ++ waiting
  calls : c.calls = (answered ++ pending).map Prod.snd
  own : ∀ e ∈ answered ++ pending, e.2.sequenceNumber = e.1.sequenceNumber ∧ e.2.request = e.1.request
  made : ∀ call ∈ c.calls, ∃ user, call = RequestCall.made callback user call.sequenceNumber call.request
  arrivals : c.arrivals = answered.map fun e => e.1.answer e.2.outcome
  toServer : c.server.inboundBytes ++ (c.server.arrivingBytes ++ c.client.outboundBytes) =
    (waiting.map IssuedRequest.frame).flatMap Frame.bytes
  serverWaits : Framing.Waiting Frame.bytes c.server.inboundBytes [] (waiting.map IssuedRequest.frame)
  toClient : c.client.inboundBytes ++ (c.client.arrivingBytes ++ c.server.outboundBytes) =
    (pending.map fun e => e.2.responseFrame).flatMap Frame.bytes
  clientWaits : Framing.Waiting Frame.bytes c.client.inboundBytes [] (pending.map fun e => e.2.responseFrame)
  awaits : c.protocolReader.Awaits (pending.map Prod.fst ++ waiting)
  distinct : ((pending.map Prod.fst ++ waiting).map IssuedRequest.sequenceNumber).Nodup
  threw : c.threw = false

/-- A request whose frame was serialised. -/
def IssuedRequest.Fits (r : IssuedRequest p υ) : Prop :=
  ContentFits p.metadata.type.codec p.metadata.staticSize.isSome r.request

/-- Every response of the callback to the request fits its frame. -/
def RequestProtocol.ResponsesFit (callback : p.Callback υ) (request : p.metadata.type.Value) : Prop :=
  ∀ user n, ContentFits p.responseType.codec false (RequestCall.made callback user n request).outcome

/-- Every request that was issued was sent, is still to be sent, or was refused for another one with its number. -/
structure Connection.Accounts (c : Connection p υ) (next : ℕ) : Prop where
  issued : c.issued.Perm (c.requests ++ c.tasks.map Prod.fst ++ c.refused)
  numbers : (c.issued.map IssuedRequest.number).Nodup
  drawn : ∀ r ∈ c.issued, r.number < next
  fits : ∀ r ∈ c.issued, r.Fits
  bytes : ∀ t ∈ c.tasks, t.2 = t.1.frame.bytes
  refused : ∀ r ∈ c.refused, ∃ other ∈ c.issued, other.number ≠ r.number ∧ other.sequenceNumber = r.sequenceNumber

theorem waiting_frames {buffer : List UInt8} {fs more : List Frame} (h : Framing.Waiting Frame.bytes buffer [] fs) :
    Framing.Waiting Frame.bytes buffer [] (fs ++ more) :=
  h.append fun _ f _ => lt_of_lt_of_le (by decide) f.length_bytes

namespace Connection

variable {callback : p.Callback υ} {c : Connection p υ} {answered pending : List (IssuedRequest p υ × RequestCall p)}
  {waiting : List (IssuedRequest p υ)} {next : ℕ}

theorem new_carries {protocolReader : ProtocolReader υ} (h : protocolReader.inboundOneShotResponseConsumers = ∅) :
    (Connection.new (p := p) protocolReader).Carries callback [] [] [] where
  requests := rfl
  calls := rfl
  own := by simp
  made := by simp [Connection.new]
  arrivals := rfl
  toServer := rfl
  serverWaits := List.nil_prefix
  toClient := rfl
  clientWaits := List.nil_prefix
  awaits n := by simp [Connection.new, h]
  distinct := List.nodup_nil
  threw := rfl

theorem new_accounts (protocolReader : ProtocolReader υ) (next : ℕ) :
    (Connection.new (p := p) protocolReader).Accounts next where
  issued := .nil
  numbers := List.nodup_nil
  drawn := by simp [Connection.new]
  fits := by simp [Connection.new]
  bytes := by simp [Connection.new]
  refused := by simp [Connection.new]

theorem Accounts.mono (h : c.Accounts next) {next' : ℕ} (hnext : next ≤ next') : c.Accounts next' :=
  { h with drawn := fun r hr => Nat.lt_of_lt_of_le (h.drawn r hr) hnext }

theorem Carries.clientSent (h : c.Carries callback answered pending waiting) (size : ℕ) :
    Carries { c with client := c.client.sent size, server := c.server.receiving c.client size }
      callback answered pending waiting :=
  { h with
    toServer := by
      rw [← h.toServer]
      simp [Endpoint.sent, Endpoint.receiving]
    toClient := h.toClient
    serverWaits := h.serverWaits
    clientWaits := h.clientWaits }

theorem Carries.serverSent (h : c.Carries callback answered pending waiting) (size : ℕ) :
    Carries { c with server := c.server.sent size, client := c.client.receiving c.server size }
      callback answered pending waiting :=
  { h with
    toClient := by
      rw [← h.toClient]
      simp [Endpoint.sent, Endpoint.receiving]
    toServer := h.toServer
    serverWaits := h.serverWaits
    clientWaits := h.clientWaits }

section Tasks

variable [Ballotin] [LawfulBallotin]

/-- A call of `sendRequest` that returned has left a task with the bytes of the request. -/
theorem sendRequest_cases (c : Connection p υ) (r : IssuedRequest p υ) :
    c.sendRequest r = c ∨ (r.Fits ∧
      c.sendRequest r = { c with issued := c.issued ++ [r], tasks := c.tasks ++ [(r, r.frame.bytes)] }) := by
  rw [sendRequest]
  cases hserialized : p.serializeWithHeader r.request r.sequenceNumber [] with
  | error e bytes => exact .inl rfl
  | ok u bytes =>
    have hframe : r.frame.serializeWithHeader [] = .ok () bytes := hserialized
    obtain ⟨hbytes, -⟩ := Frame.serialized hframe
    rw [r.frame.serializeWithHeader_eq] at hframe
    refine .inr ⟨contentFits_of_ok r.frame.protocol.type.implements hframe, ?_⟩
    rw [hbytes, List.nil_append]

theorem Accounts.sendRequest (h : c.Accounts next) {r : IssuedRequest p υ} (hr : r.number = next) :
    (c.sendRequest r).Accounts (next + 1) := by
  rcases sendRequest_cases c r with heq | ⟨hfits, heq⟩
  · rw [heq]
    exact h.mono (Nat.le_succ _)
  · rw [heq]
    refine ⟨?_, ?_, ?_, ?_, ?_, ?_⟩
    · have hnew := h.issued.append_right [r]
      refine hnew.trans ?_
      rw [List.map_append, List.append_assoc, List.append_assoc, List.append_assoc, List.append_assoc]
      exact ((List.perm_append_comm).append_left _).append_left _
    · rw [List.map_append, List.nodup_append]
      refine ⟨h.numbers, List.nodup_singleton _, fun n hn m hm => ?_⟩
      obtain ⟨other, hother, rfl⟩ := List.mem_map.mp hn
      rw [List.mem_singleton.mp hm, hr]
      exact (h.drawn other hother).ne
    · intro other hother
      rcases List.mem_append.mp hother with hother | hother
      · exact Nat.lt_succ_of_lt (h.drawn other hother)
      · rw [List.mem_singleton.mp hother, hr]
        exact Nat.lt_succ_self _
    · intro other hother
      rcases List.mem_append.mp hother with hother | hother
      · exact h.fits other hother
      · rwa [List.mem_singleton.mp hother]
    · intro t ht
      rcases List.mem_append.mp ht with ht | ht
      · exact h.bytes t ht
      · rw [List.mem_singleton.mp ht]
    · intro other hother
      obtain ⟨found, hfound, hsame⟩ := h.refused other hother
      exact ⟨found, List.mem_append_left _ hfound, hsame⟩

theorem Carries.sendRequest (h : c.Carries callback answered pending waiting) (r : IssuedRequest p υ) :
    (c.sendRequest r).Carries callback answered pending waiting := by
  rcases sendRequest_cases c r with heq | ⟨-, heq⟩
  · rwa [heq]
  · rw [heq]
    exact { h with }

end Tasks

theorem execute_cases (c : Connection p υ) (index : ℕ) :
    c.execute index = c ∨ ∃ (r : IssuedRequest p υ) (bytes : List UInt8), c.tasks[index]? = some (r, bytes) ∧
      ((c.protocolReader.inboundOneShotResponseConsumers.contains r.sequenceNumber = false ∧
          c.execute index = { c with
            protocolReader := { c.protocolReader with
              inboundOneShotResponseConsumers := c.protocolReader.inboundOneShotResponseConsumers.insert r.sequenceNumber
                (p.expecting r.responseConsumer) }
            client := { c.client with outboundBytes := c.client.outboundBytes ++ bytes }
            tasks := c.tasks.eraseIdx index
            requests := c.requests ++ [r] }) ∨
        (c.protocolReader.inboundOneShotResponseConsumers.contains r.sequenceNumber = true ∧
          c.execute index = { c with tasks := c.tasks.eraseIdx index, refused := c.refused ++ [r] })) := by
  rw [execute]
  cases htask : c.tasks[index]? with
  | none => exact .inl rfl
  | some task =>
    obtain ⟨r, bytes⟩ := task
    refine .inr ⟨r, bytes, rfl, ?_⟩
    dsimp only
    rw [ProtocolReader.registerInboundOneShotResponseConsumer, Program.bind_ok Program.get_apply]
    cases hpending : c.protocolReader.inboundOneShotResponseConsumers.contains r.sequenceNumber with
    | false => exact .inl ⟨rfl, rfl⟩
    | true => exact .inr ⟨rfl, rfl⟩

theorem tasks_perm {index : ℕ} {t : IssuedRequest p υ × List UInt8} (h : c.tasks[index]? = some t) :
    (c.tasks.map Prod.fst).Perm (t.1 :: (c.tasks.eraseIdx index).map Prod.fst) := by
  obtain ⟨hlt, rfl⟩ := List.getElem?_eq_some_iff.mp h
  exact (List.getElem_cons_eraseIdx_perm hlt).symm.map Prod.fst

theorem Accounts.execute (h : c.Accounts next) (hawaits : c.protocolReader.Awaits (pending.map Prod.fst ++ waiting))
    (hsent : ∀ r ∈ pending.map Prod.fst ++ waiting, r ∈ c.requests) (index : ℕ) : (c.execute index).Accounts next := by
  rcases execute_cases c index with heq | ⟨r, bytes, htask, hcase⟩
  · rwa [heq]
  · have hperm := tasks_perm htask
    have hbytes : ∀ t ∈ c.tasks.eraseIdx index, t.2 = t.1.frame.bytes :=
      fun t ht => h.bytes t (List.mem_of_mem_eraseIdx ht)
    have hissued : c.issued.Perm (c.requests ++ (r :: (c.tasks.eraseIdx index).map Prod.fst) ++ c.refused) :=
      h.issued.trans ((hperm.append_left _).append_right _)
    rcases hcase with ⟨hfree, heq⟩ | ⟨hpending, heq⟩
    · rw [heq]
      refine ⟨?_, h.numbers, h.drawn, h.fits, hbytes, h.refused⟩
      simpa using hissued
    · rw [heq]
      refine ⟨?_, h.numbers, h.drawn, h.fits, hbytes, fun other hother => ?_⟩
      · refine hissued.trans ?_
        rw [List.append_assoc, List.append_assoc]
        refine List.Perm.append_left _ ?_
        rw [← List.append_assoc _ c.refused]
        exact (List.perm_append_singleton r _).symm
      · rcases List.mem_append.mp hother with hother | hother
        · exact h.refused other hother
        · obtain rfl := List.mem_singleton.mp hother
          -- the entry with the number belongs to a request that was sent
          rw [Table.contains_eq, hawaits, Option.isSome_map, List.find?_isSome] at hpending
          obtain ⟨found, hfound, hsame⟩ := hpending
          have hnodup := (hissued.map IssuedRequest.number).nodup_iff.mp h.numbers
          rw [List.map_append, List.map_append, List.append_assoc, List.nodup_append] at hnodup
          refine ⟨found, hissued.mem_iff.mpr (List.mem_append_left _ (List.mem_append_left _ (hsent found hfound))), ?_,
            by simpa using hsame⟩
          exact hnodup.2.2 _ (List.mem_map_of_mem (hsent found hfound)) _ (by simp)

theorem Carries.sent (h : c.Carries callback answered pending waiting) :
    ∀ r ∈ pending.map Prod.fst ++ waiting, r ∈ c.requests := by
  intro r hr
  rw [h.requests, List.map_append, List.append_assoc]
  exact List.mem_append_right _ hr

theorem Carries.execute (h : c.Carries callback answered pending waiting) (haccounts : c.Accounts next) (index : ℕ) :
    ∃ waiting', (c.execute index).Carries callback answered pending waiting' := by
  rcases execute_cases c index with heq | ⟨r, bytes, htask, ⟨hfree, heq⟩ | ⟨-, heq⟩⟩
  · exact ⟨waiting, by rwa [heq]⟩
  · obtain ⟨hnew, hawaits⟩ := h.awaits.insert hfree
    have hbytes : bytes = r.frame.bytes := haccounts.bytes _ (List.mem_of_getElem? htask)
    refine ⟨waiting ++ [r], ?_⟩
    rw [heq]
    rw [List.append_assoc] at hawaits
    exact { h with
      requests := by rw [h.requests, List.append_assoc]
      toServer := by
        rw [List.map_append, List.flatMap_append, ← h.toServer, hbytes]
        simp
      serverWaits := by
        rw [List.map_append]
        exact waiting_frames h.serverWaits
      awaits := hawaits
      distinct := by
        rw [← List.append_assoc, List.map_append, List.nodup_append]
        refine ⟨h.distinct, List.nodup_singleton _, fun n hn m hm => ?_⟩
        obtain ⟨other, hother, rfl⟩ := List.mem_map.mp hn
        rw [List.mem_singleton.mp hm]
        exact hnew other hother
      toClient := h.toClient
      clientWaits := h.clientWaits }
  · refine ⟨waiting, ?_⟩
    rw [heq]
    exact { h with }

section Reads

variable [Ballotin] [LawfulBallotin] {registry : ProtocolRegistry}

theorem request_deliverable {r : IssuedRequest p υ} (hregistered : registry.Registered (.request p))
    (hstatic : (Protocol.request p).StaticSizeFits) (hfits : r.Fits) {listener : ProtocolReader υ}
    (hcalls : listener.Calls callback) (hresponses : RequestProtocol.ResponsesFit callback r.request) :
    Deliverable registry listener.inboundRequestConsumers r.frame := by
  refine ⟨⟨hregistered, hstatic, _, @Frame.serializeWithHeader_ok _ _ r.frame hfits []⟩, fun consumer hconsumer user => ?_⟩
  obtain rfl : p.invokeCallback callback = consumer := Option.some.inj (hcalls.symm.trans hconsumer)
  exact ⟨_, _, invokeCallback_made callback user r.sequenceNumber r.request, hresponses user _⟩

theorem response_deliverable {call : RequestCall p} (hregistered : registry.Registered (.response p))
    (hfits : ContentFits p.responseType.codec false call.outcome)
    (consumers : Std.ExtTreeMap ProtocolIdentifier (RequestConsumer υ)) :
    Deliverable registry consumers call.responseFrame :=
  ⟨⟨hregistered, trivial, _, @Frame.serializeWithHeader_ok _ _ call.responseFrame hfits []⟩, trivial⟩

omit [Ballotin] [LawfulBallotin] in
theorem zip_calls {served : List (IssuedRequest p υ)} {calls : List (RequestCall p)}
    (h : calls.map (fun call => (call.sequenceNumber, call.request)) = served.map fun r => (r.sequenceNumber, r.request)) :
    (served.zip calls).map Prod.fst = served ∧ (served.zip calls).map Prod.snd = calls ∧
      ∀ e ∈ served.zip calls, e.2.sequenceNumber = e.1.sequenceNumber ∧ e.2.request = e.1.request := by
  induction served generalizing calls with
  | nil =>
    obtain rfl := List.map_eq_nil_iff.mp h
    exact ⟨rfl, rfl, by simp⟩
  | cons r served ih =>
    obtain ⟨call, calls, rfl, hcall, hcalls⟩ := List.map_eq_cons_iff.mp h
    obtain ⟨hserved, hmade, hown⟩ := ih hcalls
    refine ⟨by simp [hserved], by simp [hmade], ?_⟩
    rintro e (_ | ⟨_, he⟩)
    · exact Prod.mk.inj hcall
    · exact hown e he

/-- The server reads: the requests whose bytes have all arrived are answered. -/
theorem Carries.serverRead (h : c.Carries callback answered pending waiting) (hregistered : registry.Registered (.request p))
    (hstatic : (Protocol.request p).StaticSizeFits) {listener : ProtocolReader υ} (hcalls : listener.Calls callback)
    (hfits : ∀ r ∈ waiting, r.Fits) (hresponses : ∀ r ∈ waiting, RequestProtocol.ResponsesFit callback r.request) (user : υ) (size : ℕ) :
    ∃ (r : Reading υ) (pending' : List (IssuedRequest p υ × RequestCall p)) (waiting' : List (IssuedRequest p υ)),
      Reading.readInboundBytes registry (c.server.reading listener user size) = .ok () r ∧ r.reader = listener ∧
      Carries { c with
        server := c.server.afterReading size r, threw := false, calls := c.calls ++ callsOf callback user r.arrivals }
        callback answered pending' waiting' := by
  have hframes : ∀ f ∈ waiting.map IssuedRequest.frame, Deliverable registry listener.inboundRequestConsumers f := by
    intro f hf
    obtain ⟨r, hr, rfl⟩ := List.mem_map.mp hf
    exact request_deliverable hregistered hstatic (hfits r hr) hcalls (hresponses r hr)
  obtain ⟨done, todo, rest, hsplit, hread, hrest, hwaiting⟩ := Endpoint.reading_delivers hframes h.toServer user size
  obtain ⟨served, waiting', rfl, rfl, rfl⟩ := List.map_eq_append_iff.mp hsplit
  obtain ⟨user', new, hdeliver, hnew, hcalled⟩ := foldl_deliver_requests (s := c.server.reading listener user size)
    (served.map fun r => (r.sequenceNumber, r.request)) hcalls
  rw [List.map_map] at hdeliver
  have hserve : (served.map IssuedRequest.frame).foldl deliver (c.server.reading listener user size) = _ := hdeliver
  rw [hserve] at hread
  have hkeys : (callsOf callback user new).map (fun call => (call.sequenceNumber, call.request)) = _ := hnew
  obtain ⟨hserved, hmade, hown⟩ := zip_calls hkeys
  have hpending : (pending ++ served.zip (callsOf callback user new)).map Prod.fst ++ waiting' =
      pending.map Prod.fst ++ (served ++ waiting') := by
    rw [List.map_append, hserved, List.append_assoc]
  refine ⟨_, pending ++ served.zip (callsOf callback user new), waiting', hread, rfl, ?_⟩
  exact {
    requests := by
      rw [h.requests]
      simp [hserved]
    calls := by
      have hcalls : c.calls ++ callsOf callback user new = _ := congrArg (· ++ callsOf callback user new) h.calls
      refine hcalls.trans ?_
      simp [hmade]
    own := by
      intro e he
      rw [← List.append_assoc] at he
      exact (List.mem_append.mp he).elim (h.own e) (hown e)
    made := by
      rintro call hcall
      exact (List.mem_append.mp hcall).elim (h.made call) (hcalled call)
    arrivals := h.arrivals
    toServer := hrest
    serverWaits := hwaiting
    toClient := by
      have hframes : (served.zip (callsOf callback user new)).map (fun e => e.2.responseFrame) =
          (callsOf callback user new).map RequestCall.responseFrame := by
        rw [← hmade, List.map_map, hmade]
        rfl
      rw [List.map_append, List.flatMap_append, ← h.toClient, hframes, List.flatMap_map]
      simp [Endpoint.afterReading, Reading.inbound, Endpoint.reading]
    clientWaits := by
      rw [List.map_append]
      exact waiting_frames h.clientWaits
    awaits := by rw [hpending]; exact h.awaits
    distinct := by rw [hpending]; exact h.distinct
    threw := rfl }

/-- The client reads: the consumers of the responses whose bytes have all arrived are called. -/
theorem Carries.clientRead (h : c.Carries callback answered pending waiting)
    (hregistered : registry.Registered (.response p))
    (hresponses : ∀ r ∈ c.requests, RequestProtocol.ResponsesFit callback r.request) (user : υ) (size : ℕ) :
    ∃ (r : Reading υ) (answered' pending' : List (IssuedRequest p υ × RequestCall p)),
      Reading.readInboundBytes registry (c.client.reading c.protocolReader user size) = .ok () r ∧
      Carries { c with
        protocolReader := r.reader, client := c.client.afterReading size r, threw := false
        arrivals := c.arrivals ++ r.arrivals } callback answered' pending' waiting := by
  have hfits : ∀ e ∈ pending, ContentFits p.responseType.codec false e.2.outcome := by
    intro e he
    have hcall : e.2 ∈ c.calls := by
      rw [h.calls]
      exact List.mem_map_of_mem (List.mem_append_right _ he)
    obtain ⟨user', hmade⟩ := h.made e.2 hcall
    have hown := (h.own e (List.mem_append_right _ he))
    rw [hmade, hown.2]
    exact hresponses e.1 (h.sent e.1 (List.mem_append_left _ (List.mem_map_of_mem he))) user' _
  have hframes : ∀ f ∈ pending.map fun e => e.2.responseFrame,
      Deliverable registry c.protocolReader.inboundRequestConsumers f := by
    intro f hf
    obtain ⟨e, he, rfl⟩ := List.mem_map.mp hf
    exact response_deliverable hregistered (hfits e he) _
  obtain ⟨done, todo, rest, hsplit, hread, hrest, hwaiting⟩ := Endpoint.reading_delivers hframes h.toClient user size
  obtain ⟨received, pending', rfl, rfl, rfl⟩ := List.map_eq_append_iff.mp hsplit
  have hsplit' : (received ++ pending').map Prod.fst ++ waiting = received.map Prod.fst ++ (pending'.map Prod.fst ++ waiting) := by
    rw [List.map_append, List.append_assoc]
  have hawaits := h.awaits
  have hdistinct := h.distinct
  rw [hsplit'] at hawaits hdistinct
  obtain ⟨user', reader, hdeliver, hreader⟩ := foldl_deliver_responses (s := c.client.reading c.protocolReader user size)
    received (fun e he => (h.own e (List.mem_append_right _ (List.mem_append_left _ he))).1)
    (pending'.map Prod.fst ++ waiting) hawaits hdistinct
  rw [hdeliver] at hread
  refine ⟨_, answered ++ received, pending', hread, ?_⟩
  exact {
    requests := by rw [h.requests, List.append_assoc]
    calls := by
      refine h.calls.trans ?_
      rw [List.append_assoc]
    own := by rw [List.append_assoc]; exact h.own
    made := h.made
    arrivals := by
      have harrivals : c.arrivals ++ received.map (fun e => e.1.answer e.2.outcome) = _ := congrArg
        (· ++ received.map fun e => e.1.answer e.2.outcome) h.arrivals
      refine harrivals.trans ?_
      rw [List.map_append]
    toServer := h.toServer
    serverWaits := h.serverWaits
    toClient := hrest
    clientWaits := hwaiting
    awaits := hreader
    distinct := by
      rw [List.map_append, List.nodup_append] at hdistinct
      exact hdistinct.2.1
    threw := rfl }

end Reads

end Connection

structure Connection.Delivered (c : Connection p υ) : Prop where
  fromClient : c.client.outboundBytes = []
  toServer : c.server.arrivingBytes = []
  fromServer : c.server.outboundBytes = []
  toClient : c.client.arrivingBytes = []

/-- Each request over the connection is answered with the outcome of a call of the callback that was made for it. -/
structure Connection.Answers (c : Connection p υ) (callback : p.Callback υ) : Prop where
  threw : c.threw = false
  /-- the callback is called at most once for each request, in their order -/
  called : c.calls.map (fun call => (call.sequenceNumber, call.request)) <+:
    c.requests.map fun r => (r.sequenceNumber, r.request)
  made : ∀ call ∈ c.calls, ∃ user, call = RequestCall.made callback user call.sequenceNumber call.request
  /-- each consumer is called at most once, and with the outcome of the call for its own request -/
  answered : c.arrivals <+: (c.requests.zip c.calls).map fun e => e.1.answer e.2.outcome
  complete : c.Delivered → c.calls.length = c.requests.length ∧ c.arrivals.length = c.requests.length

theorem waiting_complete {buffer : List UInt8} {frames : List Frame} (h : Framing.Waiting Frame.bytes buffer [] frames)
    (hbuffer : buffer = frames.flatMap Frame.bytes) : frames = [] := by
  cases frames with
  | nil => rfl
  | cons f frames =>
    have hlt := h.2
    rw [hbuffer, List.flatMap_cons, List.length_append] at hlt
    omega

theorem Connection.Carries.answers {c : Connection p υ} {callback : p.Callback υ}
    {answered pending : List (IssuedRequest p υ × RequestCall p)} {waiting : List (IssuedRequest p υ)}
    (h : c.Carries callback answered pending waiting) : c.Answers callback := by
  have hkeys : c.calls.map (fun call => (call.sequenceNumber, call.request)) =
      ((answered ++ pending).map Prod.fst).map fun r => (r.sequenceNumber, r.request) := by
    rw [h.calls, List.map_map, List.map_map]
    refine List.map_congr_left fun e he => ?_
    exact Prod.ext (h.own e he).1 (h.own e he).2
  have hzip : c.requests.zip c.calls = answered ++ pending := by
    have hsplit : c.calls = (answered ++ pending).map Prod.snd ++ [] := by rw [h.calls, List.append_nil]
    rw [hsplit, h.requests, List.zip_append (by simp), List.zip_nil_right, List.append_nil]
    exact (List.zip_of_prod rfl rfl).symm
  refine ⟨h.threw, ?_, h.made, ?_, fun hdelivered => ?_⟩
  · rw [hkeys, h.requests]
    exact (List.prefix_append _ _).map _
  · rw [hzip, h.arrivals, List.map_append]
    exact List.prefix_append _ _
  · have htoServer := h.toServer
    have htoClient := h.toClient
    rw [hdelivered.toServer, hdelivered.fromClient, List.append_nil, List.append_nil] at htoServer
    rw [hdelivered.toClient, hdelivered.fromServer, List.append_nil, List.append_nil] at htoClient
    obtain rfl := List.map_eq_nil_iff.mp (waiting_complete h.serverWaits htoServer)
    obtain rfl := List.map_eq_nil_iff.mp (waiting_complete h.clientWaits htoClient)
    rw [h.calls, h.requests, h.arrivals]
    simp

/-- A request is refused only after the numbers have come round. -/
theorem Connection.Accounts.refused_nil {c : Connection p υ} {next : ℕ} (h : c.Accounts next) (hnext : next ≤ 2 ^ 64) :
    c.refused = [] := by
  refine List.eq_nil_iff_forall_not_mem.mpr fun r hr => ?_
  obtain ⟨other, hother, hne, hsame⟩ := h.refused r hr
  have hmem : r ∈ c.issued := h.issued.mem_iff.mpr (List.mem_append_right _ hr)
  have hnat := congrArg UInt64.toNat hsame
  rw [IssuedRequest.sequenceNumber, IssuedRequest.sequenceNumber, UInt64.toNat_ofNat', UInt64.toNat_ofNat',
    Nat.mod_eq_of_lt ((h.drawn other hother).trans_le hnext), Nat.mod_eq_of_lt ((h.drawn r hmem).trans_le hnext)] at hnat
  exact hne hnat

/-- The responses of the callback to the requests of a run fit their frames. -/
def RpcEvent.ResponsesFit (callback : p.Callback υ) : RpcEvent p ι π υ → Prop
  | .sendRequest _ request _ => RequestProtocol.ResponsesFit callback request
  | _ => True

namespace Rpc

section Runs

variable [DecidableEq ι] [DecidableEq π] {provider : ι → π} {callback : p.Callback υ}

structure Sound (callback : p.Callback υ) (c : Connection p υ) (next : ℕ) : Prop where
  carries : ∃ answered pending waiting, c.Carries callback answered pending waiting
  accounts : c.Accounts next
  responses : ∀ r ∈ c.issued, RequestProtocol.ResponsesFit callback r.request

structure Inv (provider : ι → π) (callback : p.Callback υ) (s : Rpc p ι π υ) : Prop where
  calls : s.listener.Calls callback
  connections : ∀ i, Sound callback (s.connections i) (s.protocolSequencers (provider i))

theorem Sound.mem_issued {c : Connection p υ} {next : ℕ} (h : Sound callback c next) {r : IssuedRequest p υ}
    (hr : r ∈ c.requests) : r ∈ c.issued :=
  h.accounts.issued.mem_iff.mpr (List.mem_append_left _ (List.mem_append_left _ hr))

omit [DecidableEq π] in
theorem Inv.update {s : Rpc p ι π υ} (h : s.Inv provider callback) {i : ι} {c : Connection p υ}
    (hc : Sound callback c (s.protocolSequencers (provider i))) : (s.update i c).Inv provider callback := by
  refine ⟨h.calls, fun j => ?_⟩
  by_cases hj : j = i
  · subst hj
    simpa [Rpc.update] using hc
  · simpa [Rpc.update, hj] using h.connections j

omit [DecidableEq ι] in
theorem Inv.generateSequenceNumber {s : Rpc p ι π υ} (h : s.Inv provider callback) (a : π) :
    (s.generateSequenceNumber a).Inv provider callback := by
  refine ⟨h.calls, fun i => ?_⟩
  have hi := h.connections i
  refine ⟨hi.carries, hi.accounts.mono ?_, hi.responses⟩
  simp only [Rpc.generateSequenceNumber, Function.update_apply]
  split_ifs with ha
  · rw [ha]
    exact Nat.le_succ _
  · exact le_rfl

variable [Ballotin] [LawfulBallotin] {registry : ProtocolRegistry}

theorem Sound.sendRequest {c : Connection p υ} {next : ℕ} (h : Sound callback c next) {r : IssuedRequest p υ}
    (hr : r.number = next) (hresponses : RequestProtocol.ResponsesFit callback r.request) :
    Sound callback (c.sendRequest r) (next + 1) := by
  obtain ⟨answered, pending, waiting, hcarries⟩ := h.carries
  refine ⟨⟨answered, pending, waiting, hcarries.sendRequest r⟩, h.accounts.sendRequest hr, ?_⟩
  rcases c.sendRequest_cases r with heq | ⟨-, heq⟩
  · rw [heq]
    exact h.responses
  · rw [heq]
    intro other hother
    rcases List.mem_append.mp hother with hother | hother
    · exact h.responses other hother
    · rwa [List.mem_singleton.mp hother]

omit [Ballotin] [LawfulBallotin] in
theorem Sound.execute {c : Connection p υ} {next : ℕ} (h : Sound callback c next) (index : ℕ) :
    Sound callback (c.execute index) next := by
  obtain ⟨answered, pending, waiting, hcarries⟩ := h.carries
  obtain ⟨waiting', hcarries'⟩ := hcarries.execute h.accounts index
  refine ⟨⟨answered, pending, waiting', hcarries'⟩, h.accounts.execute hcarries.awaits hcarries.sent index, ?_⟩
  rcases c.execute_cases index with heq | ⟨r, bytes, -, ⟨-, heq⟩ | ⟨-, heq⟩⟩ <;> rw [heq] <;> exact h.responses

omit [DecidableEq π] in
theorem Inv.serverRead {s : Rpc p ι π υ} (h : s.Inv provider callback) (hrequest : registry.Registered (.request p))
    (hstatic : (Protocol.request p).StaticSizeFits) (i : ι) (size : ℕ) :
    (s.serverRead registry callback i size).Inv provider callback := by
  have hi := h.connections i
  obtain ⟨answered, pending, waiting, hcarries⟩ := hi.carries
  have hwaiting : ∀ r ∈ waiting, r ∈ (s.connections i).issued := fun r hr =>
    hi.mem_issued (hcarries.sent r (List.mem_append_right _ hr))
  obtain ⟨r, pending', waiting', hread, hreader, hcarries'⟩ := hcarries.serverRead hrequest hstatic h.calls
    (fun r hr => hi.accounts.fits r (hwaiting r hr)) (fun r hr => hi.responses r (hwaiting r hr)) s.user size
  have hlistener : ({ s with user := r.user, listener := r.reader } : Rpc p ι π υ).Inv provider callback :=
    ⟨by rw [hreader]; exact h.calls, h.connections⟩
  rw [Rpc.serverRead]
  simp only [hcarries.threw, Bool.false_eq_true, if_false, hread]
  exact hlistener.update ⟨⟨answered, pending', waiting', hcarries'⟩, { hi.accounts with }, hi.responses⟩

omit [DecidableEq π] in
theorem Inv.clientRead {s : Rpc p ι π υ} (h : s.Inv provider callback) (hresponse : registry.Registered (.response p))
    (i : ι) (size : ℕ) : (s.clientRead registry i size).Inv provider callback := by
  have hi := h.connections i
  obtain ⟨answered, pending, waiting, hcarries⟩ := hi.carries
  obtain ⟨r, answered', pending', hread, hcarries'⟩ := hcarries.clientRead hresponse
    (fun r hr => hi.responses r (hi.mem_issued hr)) s.user size
  have huser : ({ s with user := r.user } : Rpc p ι π υ).Inv provider callback := ⟨h.calls, h.connections⟩
  rw [Rpc.clientRead]
  simp only [hcarries.threw, Bool.false_eq_true, if_false, hread]
  exact huser.update ⟨⟨answered', pending', waiting, hcarries'⟩, { hi.accounts with }, hi.responses⟩

theorem Inv.step {s : Rpc p ι π υ} (h : s.Inv provider callback) (hrequest : registry.Registered (.request p))
    (hresponse : registry.Registered (.response p)) (hstatic : (Protocol.request p).StaticSizeFits)
    {event : RpcEvent p ι π υ} (hevent : event.ResponsesFit callback) :
    (s.step registry provider callback event).Inv provider callback := by
  cases event with
  | sendRequest i request responseConsumer =>
    refine (h.generateSequenceNumber (provider i)).update ?_
    have hnext : (s.generateSequenceNumber (provider i)).protocolSequencers (provider i) =
        s.protocolSequencers (provider i) + 1 := Function.update_self ..
    rw [hnext]
    exact (h.connections i).sendRequest rfl hevent
  | generateSequenceNumber a => exact h.generateSequenceNumber a
  | execute i index => exact h.update ((h.connections i).execute index)
  | clientSent i size =>
    have hi := h.connections i
    obtain ⟨answered, pending, waiting, hcarries⟩ := hi.carries
    exact h.update ⟨⟨answered, pending, waiting, hcarries.clientSent size⟩, { hi.accounts with }, hi.responses⟩
  | serverRead i size => exact h.serverRead hrequest hstatic i size
  | serverSent i size =>
    have hi := h.connections i
    obtain ⟨answered, pending, waiting, hcarries⟩ := hi.carries
    exact h.update ⟨⟨answered, pending, waiting, hcarries.serverSent size⟩, { hi.accounts with }, hi.responses⟩
  | clientRead i size => exact h.clientRead hresponse i size
  | interlude user => exact ⟨h.calls, h.connections⟩

theorem Inv.run {s : Rpc p ι π υ} (h : s.Inv provider callback) (hrequest : registry.Registered (.request p))
    (hresponse : registry.Registered (.response p)) (hstatic : (Protocol.request p).StaticSizeFits)
    (events : List (RpcEvent p ι π υ)) (hevents : ∀ event ∈ events, event.ResponsesFit callback) :
    (s.run registry provider callback events).Inv provider callback := by
  induction events generalizing s with
  | nil => exact h
  | cons event events ih =>
    exact ih (h.step hrequest hresponse hstatic (hevents event List.mem_cons_self))
      fun event' hevent' => hevents event' (List.mem_cons_of_mem _ hevent')

/-- In any interleaving and segmentation, each request is answered at most once, over its own connection and with the
outcome of its own call; once all bytes have arrived, all that were sent are answered. A request is not sent only if
the sequence numbers of its provider have come round. -/
theorem run_answers (hrequest : registry.Registered (.request p)) (hresponse : registry.Registered (.response p))
    (hstatic : (Protocol.request p).StaticSizeFits) {listener : ProtocolReader υ} (hlistener : listener.Calls callback)
    {readers : ι → ProtocolReader υ} (hreaders : ∀ i, (readers i).inboundOneShotResponseConsumers = ∅) (user : υ)
    {events : List (RpcEvent p ι π υ)} (hevents : ∀ event ∈ events, event.ResponsesFit callback) (i : ι) :
    let s := (initial listener readers user).run registry provider callback events
    let c := s.connections i
    c.Answers callback ∧ c.issued.Perm (c.requests ++ c.tasks.map Prod.fst ++ c.refused) ∧
      (s.protocolSequencers (provider i) ≤ 2 ^ 64 → c.refused = []) := by
  have hinitial : (initial listener readers user : Rpc p ι π υ).Inv provider callback :=
    ⟨hlistener, fun j => ⟨⟨[], [], [], Connection.new_carries (hreaders j)⟩, Connection.new_accounts _ _,
      by simp [initial, Connection.new]⟩⟩
  have hi := (hinitial.run hrequest hresponse hstatic events hevents).connections i
  obtain ⟨answered, pending, waiting, hcarries⟩ := hi.carries
  exact ⟨hcarries.answers, hi.accounts.issued, hi.accounts.refused_nil⟩

end Runs

end Rpc

/-! Two clients of two providers send a ping each, both with the sequence number zero. The callback counts the ping with
a seven and rejects the other one. -/

def sevenCallback : pingProtocol.Callback ℕ := fun request calls =>
  if request.1 = (7 : UInt32) then .ok (true, ()) (calls + 1)
  else .error (.requestProtocolError 3 [110, 111]) calls

def countOutcome : pingProtocol.responseType.Value → EStateM Exception ℕ Unit
  | .fromSuccess _, calls => .ok () (calls + 10)
  | .fromFailure _ _, calls => .ok () (calls + 100)

def sevenListener : ProtocolReader ℕ :=
  { ProtocolReader.new with
    inboundRequestConsumers :=
      Std.ExtTreeMap.insert ∅ pingProtocol.metadata.protocolIdentifier (pingProtocol.invokeCallback sevenCallback) }

def pingsSent : List (RpcEvent pingProtocol Bool Bool ℕ) :=
  [.sendRequest true (7, ()) countOutcome, .sendRequest false (8, ()) countOutcome, .execute false 0, .execute true 0,
    .clientSent true 3, .clientSent false 16, .serverRead true 3, .serverRead false 16, .clientSent true 13,
    .serverRead true 13, .serverSent false 9, .clientRead false 9, .serverSent true 17, .serverSent false 29,
    .clientRead true 17, .clientRead false 29]

def pingsRun : Rpc pingProtocol Bool Bool ℕ :=
  @Rpc.run pingProtocol Bool Bool ℕ _ _ referenceBallotin pingRegistry id sevenCallback
    (Rpc.initial sevenListener (fun _ => ProtocolReader.new) 0) pingsSent

theorem seven_fits (n : UInt32) : RequestProtocol.ResponsesFit sevenCallback (n, ()) := by
  intro user number
  by_cases hn : n = 7
  · have houtcome : (RequestCall.made sevenCallback user number (n, ())).outcome = .fromSuccess (true, ()) := by
      rw [hn]
      rfl
    rw [houtcome]
    exact ⟨rfl, fun _ => by decide⟩
  · have houtcome : (RequestCall.made sevenCallback user number (n, ())).outcome = .fromFailure 3 [110, 111] := by
      simp only [RequestCall.outcome, RequestCall.made, sevenCallback, hn, if_false]
      rfl
    rw [houtcome]
    exact ⟨rfl, fun _ => by decide⟩

theorem pingsRun_end : pingsRun.user = 111 ∧ ∀ i, pingsRun.protocolSequencers i ≤ 2 ^ 64 := by
  decide +kernel

theorem pings_answered : (∀ i, (pingsRun.connections i).Answers sevenCallback ∧ (pingsRun.connections i).refused = []) ∧
    pingsRun.user = 111 := by
  have hevents : ∀ event ∈ pingsSent, event.ResponsesFit sevenCallback := by
    intro event hevent
    cases event with
    | sendRequest i request responseConsumer => exact seven_fits request.1
    | _ => trivial
  refine ⟨fun i => ?_, pingsRun_end.1⟩
  have hanswers := @Rpc.run_answers pingProtocol Bool Bool ℕ _ _ id sevenCallback referenceBallotin
    referenceBallotin_lawful pingRegistry rfl rfl (fun _ => by decide) sevenListener rfl (fun _ => ProtocolReader.new)
    (fun _ => rfl) 0 pingsSent hevents i
  have hend := pingsRun_end.2 (id i)
  unfold pingsRun at hend ⊢
  exact ⟨hanswers.1, hanswers.2.2 hend⟩

end Farseer
