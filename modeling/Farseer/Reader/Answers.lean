import Farseer.Reader.Stream

/-! What a call of `readInboundBytes` writes: for each request that has a consumer the frame of one response, with the
number of the request, in the order of the requests, and nothing else. -/

namespace Farseer

open BitString Framing

variable {υ : Type}

theorem Frame.bytes_identifier {f g : Frame} (h : f.bytes = g.bytes) : f.protocol.identifier = g.protocol.identifier := by
  have hf := bytesToBits_frame f [] []
  have hg := bytesToBits_frame g [] []
  rw [h, hg, bytesToBits_nil, List.nil_append, List.nil_append] at hf
  have hbits := List.append_inj_left hf (by rw [toBits_length, toBits_length])
  exact (UInt32.toNat_inj.mp (toBits_inj (UInt32.toNat_lt _) (UInt32.toNat_lt _) hbits)).symm

/-- An empty error fits every response. -/
theorem RequestProtocol.failure_fits (p : RequestProtocol) :
    ContentFits p.responseType.codec false (.fromFailure 0 [] : Expected p.response.fields.Value) := by
  have hencode : p.responseType.codec.encode (.fromFailure 0 [] : Expected p.response.fields.Value) =
      false :: (uint32Codec.pair stringCodec).encode (0, []) := rfl
  exact ⟨rfl, fun _ => by rw [hencode]; decide⟩

section Paired

variable [Ballotin] [LawfulBallotin]

/-- What a serialiser of responses writes tells for which protocol it is. -/
theorem RequestProtocol.response_of_serializer {p q : RequestProtocol}
    (h : p.serializeResponseWithHeader = q.serializeResponseWithHeader) :
    p.response.protocolIdentifier = q.response.protocolIdentifier ∧ p.responseType = q.responseType := by
  let failure : p.responseType.Value := (.fromFailure 0 [] : Expected p.response.fields.Value)
  have hp := Frame.serializeWithHeader_ok (f := ⟨.response p, 0, failure⟩) p.failure_fits []
  have hq : q.serializeResponseWithHeader (.of p.responseType failure) 0 [] =
      .ok () ([] ++ Frame.bytes ⟨.response p, 0, failure⟩) := by
    rw [← h]
    exact hp
  rw [RequestProtocol.serializeResponseWithHeader] at hq
  by_cases htype : p.responseType = q.responseType
  · have hcast : anyCast q.responseType (.of p.responseType failure) = .ok (htype ▸ failure) := dif_pos htype
    set casted : q.responseType.Value := htype ▸ failure
    rw [hcast, Program.bind_ok (Program.lift_ok _)] at hq
    have hfits := contentFits_of_ok q.responseType.implements hq
    have hq' := Frame.serializeWithHeader_ok (f := ⟨.response q, 0, casted⟩) hfits []
    rw [Frame.serializeWithHeader_eq] at hq'
    have hsame := Eq.trans hq.symm hq'
    rw [EStateM.Result.ok.injEq, List.nil_append, List.nil_append] at hsame
    exact ⟨Frame.bytes_identifier hsame.2, htype⟩
  · have hcast : anyCast q.responseType (.of p.responseType failure) = .error .badAnyCast := dif_neg htype
    rw [hcast] at hq
    cases hq

theorem RequestProtocol.responseDescriptor_eq {p q : RequestProtocol}
    (h : ProtocolRegistry.requestDescriptor p = ProtocolRegistry.requestDescriptor q) :
    p.response.protocolIdentifier = q.response.protocolIdentifier ∧
      ProtocolRegistry.responseDescriptor p = ProtocolRegistry.responseDescriptor q := by
  have hserializer := Option.some_inj.mp (congrArg ProtocolDescriptor.responseWithHeaderSerializer h)
  obtain ⟨hid, htype⟩ := response_of_serializer hserializer
  have hdeserializer : p.tryDeserializeResponseWithHeader = q.tryDeserializeResponseWithHeader := by
    funext bytes
    exact congrArg (fun T : CppType => do
      let result ← tryDeserializeWithHeaderTemplate true none T.serializer bytes
      return result.map fun read : ProtocolSequenceNumber × T.Value => (read.1, Any.of T read.2)) htype
  exact ⟨hid, by rw [ProtocolRegistry.responseDescriptor, ProtocolRegistry.responseDescriptor, hdeserializer]⟩

def ProtocolRegistry.Paired (registry : ProtocolRegistry) : Prop :=
  ∀ p : RequestProtocol, registry.Registered (.request p) → registry.Registered (.response p)

namespace ProtocolRegistry

variable {registry : ProtocolRegistry}

omit [LawfulBallotin] in
theorem Registered.insert {identifier : ProtocolIdentifier} (hfree : registry.protocolDescriptors[identifier]? = none)
    (descriptor : ProtocolDescriptor) {p : Protocol} (hp : registry.Registered p) :
    ProtocolRegistry.Registered ⟨registry.protocolDescriptors.insert identifier descriptor⟩ p := by
  unfold Registered at *
  rw [Std.ExtTreeMap.getElem?_insert, if_neg, hp]
  intro heq
  obtain rfl := Std.LawfulEqCmp.eq_of_compare heq
  rw [hfree] at hp
  cases hp

omit [LawfulBallotin] in
/-- What is registered after an insertion was before, or is what was inserted. -/
theorem Registered.of_insert {identifier : ProtocolIdentifier} {descriptor : ProtocolDescriptor} {p : Protocol}
    (hp : ProtocolRegistry.Registered ⟨registry.protocolDescriptors.insert identifier descriptor⟩ p) :
    registry.Registered p ∨ p.identifier = identifier ∧ p.descriptor = descriptor := by
  unfold Registered at *
  rw [Std.ExtTreeMap.getElem?_insert] at hp
  split_ifs at hp with heq
  · exact .inr ⟨(Std.LawfulEqCmp.eq_of_compare heq).symm, (Option.some_inj.mp hp).symm⟩
  · exact .inl hp

theorem Reachable.paired (h : registry.Reachable) : registry.Paired := by
  induction h with
  | new => intro p hp; cases hp
  | message registry m _ ih =>
    intro p hp
    rcases insertDescriptor_run m.metadata.protocolIdentifier (messageDescriptor m) registry with
      ⟨e, herror⟩ | ⟨hfree, hok⟩
    · rw [registerMessageProtocol, herror] at hp ⊢
      exact ih p hp
    · rw [registerMessageProtocol, hok] at hp ⊢
      rcases hp.of_insert with hbefore | ⟨-, hdescriptor⟩
      · exact (ih p hbefore).insert hfree _
      · cases congrArg ProtocolDescriptor.protocolType hdescriptor
  | request registry q _ ih =>
    intro p hp
    rcases insertDescriptor_run q.metadata.protocolIdentifier (requestDescriptor q) registry with
      ⟨e, herror⟩ | ⟨hfree, hok⟩
    · rw [registerRequestProtocol, Program.bind_error herror] at hp ⊢
      exact ih p hp
    · rw [registerRequestProtocol, Program.bind_ok hok, Program.scopeFailure] at hp ⊢
      rcases insertDescriptor_run q.response.protocolIdentifier (responseDescriptor q)
        ⟨registry.protocolDescriptors.insert q.metadata.protocolIdentifier (requestDescriptor q)⟩ with
        ⟨e, herror⟩ | ⟨hfree', hok'⟩
      · -- the request is taken back
        rw [herror] at hp ⊢
        change ProtocolRegistry.Registered
          ⟨(registry.protocolDescriptors.insert q.metadata.protocolIdentifier (requestDescriptor q)).erase
            q.metadata.protocolIdentifier⟩ _ at hp
        change ProtocolRegistry.Registered
          ⟨(registry.protocolDescriptors.insert q.metadata.protocolIdentifier (requestDescriptor q)).erase
            q.metadata.protocolIdentifier⟩ _
        rw [erase_insert hfree] at hp ⊢
        exact ih p hp
      · rw [hok'] at hp ⊢
        rcases hp.of_insert with hp | ⟨-, hdescriptor⟩
        · rcases hp.of_insert with hbefore | ⟨-, hdescriptor⟩
          · exact ((ih p hbefore).insert hfree _).insert hfree' _
          · obtain ⟨hid, hresponse⟩ := RequestProtocol.responseDescriptor_eq hdescriptor
            unfold Registered
            change (Std.ExtTreeMap.insert _ _ _)[p.response.protocolIdentifier]? = some (responseDescriptor p)
            rw [hid, hresponse, Std.ExtTreeMap.getElem?_insert_self]
        · cases congrArg ProtocolDescriptor.protocolType hdescriptor

end ProtocolRegistry

end Paired

/-- The frame is a response to the other one, which is a request. -/
def Frame.IsAnswer (request response : Frame) : Prop :=
  ∃ (p : RequestProtocol) (n : ProtocolSequenceNumber) (value : (Protocol.request p).type.Value)
    (outcome : (Protocol.response p).type.Value), request = ⟨.request p, n, value⟩ ∧ response = ⟨.response p, n, outcome⟩

def ProtocolReader.isServed (reader : ProtocolReader υ) (f : Frame) : Bool :=
  match f.protocol with
  | .request p => reader.inboundRequestConsumers.contains p.metadata.protocolIdentifier
  | .message _ | .response _ => false

/-- Responses were written behind the bytes, for the requests among the frames that have a consumer. -/
def Answered [Ballotin] (registry : ProtocolRegistry) (reader : ProtocolReader υ) (frames : List Frame)
    (bytes bytes' : List UInt8) : Prop :=
  ∃ answers : List Frame, bytes' = bytes ++ answers.flatMap Frame.bytes ∧
    List.Forall₂ Frame.IsAnswer (frames.filter reader.isServed) answers ∧ ∀ f ∈ answers, f.Produced registry

theorem ProtocolReader.isServed_request (reader : ProtocolReader υ) (p : RequestProtocol) (n : ProtocolSequenceNumber)
    (value : (Protocol.request p).type.Value) : reader.isServed ⟨.request p, n, value⟩ =
      reader.inboundRequestConsumers[p.metadata.protocolIdentifier]?.isSome :=
  Std.ExtTreeMap.contains_eq_isSome_getElem?

theorem ProtocolReader.isServed_after (reader : ProtocolReader υ) (f : Frame) :
    (reader.after f).isServed = reader.isServed := by
  funext g
  unfold isServed after
  cases f.protocol <;> rfl

section Answering

variable [Ballotin] {registry : ProtocolRegistry} {reader : ProtocolReader υ} {f : Frame} {frames : List Frame}
  {bytes bytes' bytes'' : List UInt8}

theorem Answered.nil (bytes : List UInt8) : Answered registry reader [] bytes bytes :=
  ⟨[], (List.append_nil _).symm, .nil, List.forall_mem_nil _⟩

theorem Answered.unserved (h : reader.isServed f = false) (bytes : List UInt8) :
    Answered registry reader [f] bytes bytes := by
  refine ⟨[], (List.append_nil _).symm, ?_, List.forall_mem_nil _⟩
  rw [List.filter_singleton, h]
  exact .nil

theorem Answered.append (h : Answered registry reader [f] bytes bytes')
    (h' : Answered registry (reader.after f) frames bytes' bytes'') :
    Answered registry reader (f :: frames) bytes bytes'' := by
  obtain ⟨answers, rfl, hanswers, hproduced⟩ := h
  obtain ⟨answers', rfl, hanswers', hproduced'⟩ := h'
  rw [reader.isServed_after] at hanswers'
  refine ⟨answers ++ answers', by rw [List.flatMap_append, List.append_assoc], ?_, fun g hg => ?_⟩
  · rw [← List.singleton_append, List.filter_append]
    exact List.rel_append hanswers hanswers'
  · exact (List.mem_append.mp hg).elim (hproduced g) (hproduced' g)

variable [LawfulBallotin]

/-- What a serialiser of responses has written is a frame. -/
theorem RequestProtocol.serializeResponseWithHeader_ok {p : RequestProtocol} {response : Any}
    {n : ProtocolSequenceNumber} (h : p.serializeResponseWithHeader response n bytes = .ok () bytes') :
    ∃ outcome : (Protocol.response p).type.Value, bytes' = bytes ++ Frame.bytes ⟨.response p, n, outcome⟩ ∧
      ∃ out, Frame.serializeWithHeader ⟨.response p, n, outcome⟩ [] = .ok () out := by
  obtain ⟨casted, u, hcast, htemplate⟩ := Program.bind_eq_ok h
  cases hresponse : anyCast p.responseType response with
  | error e =>
    rw [hresponse] at hcast
    cases hcast
  | ok value =>
    rw [hresponse] at hcast
    cases hcast
    have hfits := contentFits_of_ok p.responseType.implements htemplate
    let answer : Frame := ⟨.response p, n, casted⟩
    have hwritten := answer.serializeWithHeader_ok hfits bytes
    rw [answer.serializeWithHeader_eq] at hwritten
    have hsame := Eq.trans hwritten.symm htemplate
    rw [EStateM.Result.ok.injEq] at hsame
    exact ⟨casted, hsame.2.symm, _, answer.serializeWithHeader_ok hfits []⟩

/-- A request whose consumer returned is answered with what it returned. -/
theorem consumeRequest_answered (hpaired : registry.Paired) {p : RequestProtocol} (hp : registry.Registered (.request p))
    {n : ProtocolSequenceNumber} {value : (Protocol.request p).type.Value} {s t : Reading υ}
    (hok : Frame.consume ⟨.request p, n, value⟩ s = .ok () t) :
    Answered registry s.reader [⟨.request p, n, value⟩] s.outboundBytes t.outboundBytes := by
  have hserved := s.reader.isServed_request p n value
  obtain ⟨u, v, hget, hrest⟩ := Program.bind_eq_ok hok
  cases hget
  cases hconsumer : s.reader.inboundRequestConsumers[p.metadata.protocolIdentifier]? with
  | none =>
    rw [hconsumer] at hrest hserved
    cases hrest
    exact .unserved hserved _
  | some consumer =>
    rw [hconsumer] at hrest hserved
    dsimp only at hrest
    rw [Program.bind_ok (record_apply _ s)] at hrest
    obtain ⟨response, w, huser, hrest⟩ := Program.bind_eq_ok hrest
    have hw : w.outboundBytes = s.outboundBytes := by
      rcases onUser_cases (consumer (.of p.metadata.type value)) _ with ⟨a, user, hrun⟩ | ⟨e, user, hrun⟩
      · cases hrun.symm.trans huser
        rfl
      · cases hrun.symm.trans huser
    have hwritten : p.serializeResponseWithHeader response n w.outboundBytes = .ok () t.outboundBytes := by
      change Reading.onOutboundBytes (p.serializeResponseWithHeader response n) w = .ok () t at hrest
      rw [Reading.onOutboundBytes, Program.zoom] at hrest
      cases hrun : p.serializeResponseWithHeader response n w.outboundBytes with
      | ok _ out =>
        rw [hrun] at hrest
        cases hrest
        rfl
      | error e out =>
        rw [hrun] at hrest
        cases hrest
    obtain ⟨outcome, hbytes, hserialized⟩ := RequestProtocol.serializeResponseWithHeader_ok hwritten
    refine ⟨[⟨.response p, n, outcome⟩], by rw [hbytes, hw, List.flatMap_singleton], ?_, ?_⟩
    · rw [List.filter_singleton, hserved]
      exact .cons ⟨p, n, value, outcome, rfl, rfl⟩ .nil
    · exact List.forall_mem_singleton.mpr ⟨hpaired p hp, trivial, hserialized⟩

theorem Frame.consume_answered (hpaired : registry.Paired) (hf : registry.Registered f.protocol) {s t : Reading υ}
    (hok : f.consume s = .ok () t) : Answered registry s.reader [f] s.outboundBytes t.outboundBytes := by
  obtain ⟨protocol, n, value⟩ := f
  have hunserved : (∀ p, protocol ≠ .request p) → t.outboundBytes = s.outboundBytes →
      Answered registry s.reader [⟨protocol, n, value⟩] s.outboundBytes t.outboundBytes := by
    intro hrequest hsame
    rw [hsame]
    refine .unserved ?_ _
    cases protocol with
    | request p => exact absurd rfl (hrequest p)
    | message p => rfl
    | response p => rfl
  cases protocol with
  | message p =>
    refine hunserved (by simp) ?_
    cases (consumeMessage_deliver p n value s).symm.trans hok
    simp only [deliver]
    cases s.reader.inboundMessageConsumers[p.metadata.protocolIdentifier]? <;> rfl
  | request p => exact consumeRequest_answered hpaired hf hok
  | response p =>
    refine hunserved (by simp) ?_
    cases (consumeResponse_deliver p n value s).symm.trans hok
    simp only [deliver]
    cases s.reader.inboundOneShotResponseConsumers[n]? <;> rfl

omit [LawfulBallotin] in
theorem FramesRead.registered {bytes rest : List UInt8} {frames : List (Frame × ℕ)}
    (h : FramesRead registry bytes frames rest) : ∀ f ∈ frames.map Prod.fst, registry.Registered f.protocol := by
  induction h with
  | nil bytes => exact List.forall_mem_nil _
  | cons hfront _ ih => exact List.forall_mem_cons.mpr ⟨hfront.1.1, ih⟩

/-- A loop that returned has handed over the frames at the front of the bytes and has answered them. -/
theorem readLoop_answered (hregistry : registry.Reachable) (fuel : ℕ) {s t : Reading υ} {j : ℕ}
    (hj : j ≤ s.inboundBytes.length) (hoffset : s.inboundBitsOffset = 8 * j)
    (hok : Reading.readLoop registry fuel s = .ok () t) :
    ∃ frames rest, FramesRead registry (s.inboundBytes.drop j) frames rest ∧ Waits registry rest ∧
      t.arrivals = s.arrivals ++ arrivalsOf s.reader (frames.map Prod.fst) ∧
      Answered registry s.reader (frames.map Prod.fst) s.outboundBytes t.outboundBytes := by
  induction fuel generalizing s j with
  | zero => cases hok
  | succ fuel ih =>
    rcases readLoop_cases hregistry.generated hj hoffset with hwaits | ⟨e, herror⟩ | ⟨f, n, hfront⟩
    · rw [readLoop_waits hwaits hj hoffset] at hok
      cases hok
      exact ⟨[], _, .nil _, hwaits, (List.append_nil _).symm, .nil _⟩
    · rw [herror] at hok
      cases hok
    · have hn := hfront.length_le
      rw [List.length_drop] at hn
      rw [readLoop_front hfront hj hoffset] at hok
      obtain ⟨u, v, hrun, hrest⟩ := Program.bind_eq_ok hok
      have hconsumes := (f.consume_consumes s).ok hrun
      have hanswered := f.consume_answered hregistry.paired hfront.1.1 hrun
      rw [Program.bind_ok (Program.modify_apply _)] at hrest
      obtain ⟨frames, rest, hframes, hwaits, harrivals, hanswers⟩ :=
        ih (s := { v with inboundBitsOffset := 8 * (j + n) }) (j := j + n) (by rw [hconsumes.inboundBytes]; omega) rfl hrest
      have hbytes : ({ v with inboundBitsOffset := 8 * (j + n) } : Reading υ).inboundBytes = s.inboundBytes :=
        hconsumes.inboundBytes
      rw [hbytes] at hframes
      refine ⟨(f, n) :: frames, rest, .cons hfront (by rwa [List.drop_drop]), hwaits, ?_, hanswered.append ?_⟩
      · rw [harrivals]
        change v.arrivals ++ arrivalsOf v.reader _ = _
        rw [hconsumes.arrivals, hconsumes.reader, List.append_assoc]
        rfl
      · rw [← hconsumes.reader]
        exact hanswers

omit [LawfulBallotin] in
/-- A call that returned has run the loop, and has then erased what was read. -/
theorem readInboundBytes_loop {s t : Reading υ} (hok : Reading.readInboundBytes registry s = .ok () t) : ∃ u,
    Reading.readLoop registry (s.inboundBytes.length + 1) { s with inboundBitsOffset := 0 } = .ok () u ∧
      t = Reading.eraseInboundBytes u := by
  have hcall : Reading.readInboundBytes registry s = Program.scopeExit Reading.eraseInboundBytes
      (Reading.readLoop registry (s.inboundBytes.length + 1)) { s with inboundBitsOffset := 0 } := by
    rw [Reading.readInboundBytes, Program.bind_ok (Program.modify_apply _), Program.bind_ok Program.get_apply]
  rw [hcall] at hok
  cases hloop : Reading.readLoop registry (s.inboundBytes.length + 1) { s with inboundBitsOffset := 0 } with
  | error e u =>
    rw [Program.scopeExit_error hloop] at hok
    cases hok
  | ok _ u =>
    rw [Program.scopeExit_ok hloop] at hok
    cases hok
    exact ⟨u, rfl, rfl⟩

/-- A call on any bytes that returns hands over the frames at their front. Each request among them that has a consumer
is answered with one response of its protocol, which has its number; the responses are the frames behind the bytes that
were there, in the order of the requests, and nothing else is written. -/
theorem readInboundBytes_answered (hregistry : registry.Reachable) {s t : Reading υ}
    (hok : Reading.readInboundBytes registry s = .ok () t) :
    ∃ frames, FramesRead registry s.inboundBytes frames t.inboundBytes ∧ Waits registry t.inboundBytes ∧
      t.arrivals = s.arrivals ++ arrivalsOf s.reader (frames.map Prod.fst) ∧
      Answered registry s.reader (frames.map Prod.fst) s.outboundBytes t.outboundBytes := by
  obtain ⟨frames', thrown, hframes', -, -, -, -, -, hreturned⟩ := readInboundBytes_frames hregistry s
  rw [hok] at hframes' hreturned
  obtain ⟨-, hwaits'⟩ := hreturned rfl
  obtain ⟨u, hloop, rfl⟩ := readInboundBytes_loop hok
  obtain ⟨frames, rest, hframes, hwaits, harrivals, hanswers⟩ := readLoop_answered (j := 0) hregistry
    (s.inboundBytes.length + 1) (Nat.zero_le _) rfl hloop
  -- there is one way to read the frames, and so the rest is what was kept
  obtain ⟨-, rfl⟩ := hframes.unique hframes' hwaits hwaits'
  exact ⟨frames, hframes, hwaits, harrivals, hanswers⟩

end Answering

def Arrival.served : Arrival υ → Option Delivery
  | .request identifier sequenceNumber value (some _) => some (.request, identifier, sequenceNumber, value)
  | _ => none

theorem Arrival.delivery_of_served {arrival : Arrival υ} {delivery : Delivery} (h : arrival.served = some delivery) :
    arrival.delivery = delivery := by
  cases arrival with
  | request identifier sequenceNumber value found =>
    cases found with
    | none => cases h
    | some consumer => exact Option.some_inj.mp h
  | _ => cases h

theorem Frame.arrival_served (f : Frame) (reader : ProtocolReader υ) :
    (f.arrival reader).served = if reader.isServed f then some f.delivery else none := by
  obtain ⟨protocol, n, value⟩ := f
  cases protocol with
  | request p =>
    rw [reader.isServed_request]
    change Arrival.served (.request _ _ _ reader.inboundRequestConsumers[p.metadata.protocolIdentifier]?) = _
    cases reader.inboundRequestConsumers[p.metadata.protocolIdentifier]? <;> rfl
  | message p => rfl
  | response p => rfl

theorem arrivalsOf_served (reader : ProtocolReader υ) (frames : List Frame) :
    (arrivalsOf reader frames).filterMap Arrival.served = (frames.filter reader.isServed).map Frame.delivery := by
  induction frames generalizing reader with
  | nil => rfl
  | cons f frames ih =>
    rw [arrivalsOf, List.filterMap_cons, f.arrival_served, ih, reader.isServed_after, List.filter_cons]
    split_ifs <;> rfl

def Frame.isResponse (f : Frame) : Bool :=
  match f.protocol with
  | .response _ => true
  | .message _ | .request _ => false

/-- The frame is the response of a registered protocol, whose request was handed over. -/
def Delivery.IsAnswered [Ballotin] (registry : ProtocolRegistry) (request : Delivery) (response : Frame) : Prop :=
  ∃ f : Frame, registry.Registered f.protocol ∧ f.delivery = request ∧ f.IsAnswer response

theorem Frame.IsAnswer.isResponse {request response : Frame} (h : request.IsAnswer response) :
    response.isResponse = true := by
  obtain ⟨p, n, value, outcome, -, rfl⟩ := h
  rfl

theorem Frame.filter_answers {requests answers : List Frame} (h : List.Forall₂ Frame.IsAnswer requests answers) :
    answers.filter Frame.isResponse = answers := by
  induction h with
  | nil => rfl
  | cons hanswer _ ih => rw [List.filter_cons_of_pos hanswer.isResponse, ih]

/-- The bytes are frames, and the responses among them answer what was served, in its order. -/
def Replied [Ballotin] (registry : ProtocolRegistry) (served : List Delivery) (bytes : List UInt8) : Prop :=
  ∃ frames : List Frame, bytes = frames.flatMap Frame.bytes ∧ (∀ f ∈ frames, f.Produced registry) ∧
    List.Forall₂ (Delivery.IsAnswered registry) served (frames.filter Frame.isResponse)

section Replied

variable [Ballotin] {registry : ProtocolRegistry} {served served' : List Delivery} {bytes bytes' : List UInt8}

theorem Replied.nil : Replied registry [] [] := ⟨[], rfl, List.forall_mem_nil _, .nil⟩

theorem Replied.append (h : Replied registry served bytes) (h' : Replied registry served' bytes') :
    Replied registry (served ++ served') (bytes ++ bytes') := by
  obtain ⟨frames, rfl, hframes, hreplies⟩ := h
  obtain ⟨frames', rfl, hframes', hreplies'⟩ := h'
  refine ⟨frames ++ frames', List.flatMap_append.symm, fun f hf => ?_, ?_⟩
  · exact (List.mem_append.mp hf).elim (hframes f) (hframes' f)
  · rw [List.filter_append]
    exact List.rel_append hreplies hreplies'

theorem Replied.call {f : Frame} (hf : f.Produced registry) (hcall : f.isResponse = false) :
    Replied registry [] f.bytes := by
  refine ⟨[f], (List.flatMap_singleton ..).symm, List.forall_mem_singleton.mpr hf, ?_⟩
  rw [List.filter_singleton, hcall]
  exact .nil

/-- What was written for frames are replies to those of them that were served. -/
theorem Answered.replied {reader : ProtocolReader υ} {frames : List Frame}
    (hregistered : ∀ f ∈ frames, registry.Registered f.protocol) (h : Answered registry reader frames [] bytes) :
    Replied registry ((arrivalsOf reader frames).filterMap Arrival.served) bytes := by
  obtain ⟨answers, rfl, hanswers, hproduced⟩ := h
  refine ⟨answers, List.nil_append _, hproduced, ?_⟩
  rw [arrivalsOf_served, Frame.filter_answers hanswers, List.forall₂_map_left_iff]
  have hserved : ∀ f ∈ frames.filter reader.isServed, registry.Registered f.protocol := fun f hf =>
    hregistered f (List.mem_filter.mp hf).1
  exact ((List.forall₂_and_left _ _).mpr ⟨hserved, hanswers⟩).imp fun f g ⟨hf, hanswer⟩ => ⟨f, hf, rfl, hanswer⟩

end Replied

def Reading.returned : EStateM.Result Exception (Reading υ) Unit → Bool
  | .ok .. => true
  | .error .. => false

theorem Reading.eq_ok_of_returned {result : EStateM.Result Exception (Reading υ) Unit} (h : returned result = true) :
    result = .ok () (Program.final result) := by
  cases result with
  | ok => rfl
  | error => cases h

/-- A text, a request and the start of another text. -/
def textAndPing : Reading ℕ :=
  { pingReading with
    inboundBytes := [0, 0, 0, 7, 0, 0, 0, 40, 0, 0, 0, 1, 97, 0, 0, 0, 3, 0, 0, 0, 0, 0, 0, 0, 5, 0, 0, 0, 7, 0, 0] }

theorem textAndPing_answered : ∃ t frames, @Reading.readInboundBytes ℕ referenceBallotin pingRegistry textAndPing = .ok () t ∧
    @Answered ℕ referenceBallotin pingRegistry textAndPing.reader frames [] t.outboundBytes ∧
    t.inboundBytes = [0, 0] ∧ t.outboundBytes = [0, 0, 0, 4, 0, 0, 0, 0, 0, 0, 0, 5, 0, 0, 0, 2, 192] := by
  let _ := referenceBallotin
  have _ := referenceBallotin_lawful
  have hok : Reading.readInboundBytes pingRegistry textAndPing = .ok () _ :=
    Reading.eq_ok_of_returned (by decide +kernel)
  obtain ⟨frames, -, -, -, hanswers⟩ := readInboundBytes_answered pingRegistry_reachable hok
  exact ⟨_, _, hok, hanswers, by decide +kernel, by decide +kernel⟩

end Farseer
