import Farseer.Lib.Framing
import Farseer.Reader.ProtocolReader

/-! What `readInboundBytes` does to a stream of frames. A call delivers the frames that are
complete and keeps the start of the next one, so that it does not matter how the stream was
cut on its way. -/

namespace Farseer

open BitString

/-- A message, a request or a response with the values that go into its frame. The sequence
number of a message is not written. -/
structure Frame where
  protocol : Protocol
  sequenceNumber : ProtocolSequenceNumber
  value : protocol.type.Value

def Protocol.descriptor [Ballotin] : Protocol → ProtocolDescriptor
  | .message p => ProtocolRegistry.messageDescriptor p
  | .request p => ProtocolRegistry.requestDescriptor p
  | .response p => ProtocolRegistry.responseDescriptor p

def ProtocolRegistry.Registered [Ballotin] (registry : ProtocolRegistry) (p : Protocol) : Prop :=
  registry.protocolDescriptors[p.identifier]? = some p.descriptor

def Protocol.StaticSizeFits : Protocol → Prop
  | .message p => p.metadata.hasStaticSize = true → p.metadata.fields.staticBits < 2 ^ 32
  | .request p => p.metadata.hasStaticSize = true → p.metadata.fields.staticBits < 2 ^ 32
  | .response _ => True

section Registration

variable {registry registry' : ProtocolRegistry}

theorem insertDescriptor_ok {identifier : ProtocolIdentifier} {descriptor : ProtocolDescriptor}
    (h : ProtocolRegistry.insertDescriptor identifier descriptor registry = .ok () registry') :
    registry'.protocolDescriptors[identifier]? = some descriptor ∧
      ∀ (other : ProtocolIdentifier) d, registry.protocolDescriptors[other]? = some d →
        registry'.protocolDescriptors[other]? = some d := by
  rw [ProtocolRegistry.insertDescriptor, Program.bind_ok Program.get_apply] at h
  split_ifs at h with hfree
  · cases h
  · cases h
    refine ⟨Std.ExtTreeMap.getElem?_insert_self, fun other d hd => ?_⟩
    rw [Std.ExtTreeMap.getElem?_insert, if_neg, hd]
    intro heq
    obtain rfl := Std.LawfulEqCmp.eq_of_compare heq
    rw [Std.ExtTreeMap.contains_eq_isSome_getElem?, hd] at hfree
    exact hfree rfl

variable [Ballotin]

theorem registerMessageProtocol_ok {p : MessageProtocol}
    (h : ProtocolRegistry.registerMessageProtocol p registry = .ok () registry') :
    registry'.Registered (.message p) ∧ ∀ q, registry.Registered q → registry'.Registered q := by
  obtain ⟨hp, hothers⟩ := insertDescriptor_ok h
  exact ⟨hp, fun q hq => hothers _ _ hq⟩

theorem registerRequestProtocol_ok {p : RequestProtocol}
    (h : ProtocolRegistry.registerRequestProtocol p registry = .ok () registry') :
    registry'.Registered (.request p) ∧ registry'.Registered (.response p) ∧
      ∀ q, registry.Registered q → registry'.Registered q := by
  obtain ⟨u, middle, hrequest, hresponse⟩ := Program.bind_eq_ok h
  obtain ⟨hp, hothers⟩ := insertDescriptor_ok hrequest
  cases hinsert : ProtocolRegistry.insertDescriptor p.response.protocolIdentifier
      (ProtocolRegistry.responseDescriptor p) middle with
  | error e r =>
    rw [Program.scopeFailure, hinsert] at hresponse
    cases hresponse
  | ok u r =>
    rw [Program.scopeFailure, hinsert] at hresponse
    cases hresponse
    obtain ⟨hp', hothers'⟩ := insertDescriptor_ok hinsert
    exact ⟨hothers' _ _ hp, hp', fun q hq => hothers' _ _ (hothers _ _ hq)⟩

end Registration

namespace Frame

def serializeWithHeader [Ballotin] : Frame → EStateM Exception (List UInt8) Unit
  | ⟨.message p, _, message⟩ => p.serializeWithHeader message
  | ⟨.request p, sequenceNumber, request⟩ => p.serializeWithHeader request sequenceNumber
  | ⟨.response p, sequenceNumber, response⟩ =>
    p.serializeResponseWithHeader (.of p.responseType response) sequenceNumber

def number (f : Frame) : Option ProtocolSequenceNumber :=
  if f.protocol.isSequenced then some f.sequenceNumber else none

def any (f : Frame) : Any := .of f.protocol.type f.value

def content (f : Frame) : List Bool := f.protocol.type.codec.encode f.value

def bits (f : Frame) : List Bool :=
  frameBits f.protocol.identifier f.number f.protocol.staticSize.isSome f.content

def bytes (f : Frame) : List UInt8 := packBits f.bits

/-- A frame that `serializeWithHeader` produces, of a protocol that is registered. -/
structure Produced [Ballotin] (registry : ProtocolRegistry) (f : Frame) : Prop where
  registered : registry.Registered f.protocol
  static : f.protocol.StaticSizeFits
  serialized : ∃ out, f.serializeWithHeader [] = .ok () out

theorem number_isSome (f : Frame) : f.number.isSome = f.protocol.isSequenced := by
  unfold number
  cases f.protocol.isSequenced <;> rfl

theorem length_bits (f : Frame) : 32 ≤ f.bits.length := by
  unfold bits frameBits
  rw [List.length_append, toBits_length]
  omega

theorem length_bytes (f : Frame) : 4 ≤ f.bytes.length := by
  have hbits := f.length_bits
  rw [bytes, packBits_length]
  unfold byteCount
  omega

end Frame

theorem Metadata.staticSize_isSome (m : Metadata) : m.staticSize.isSome = m.hasStaticSize := by
  unfold Metadata.staticSize
  cases m.hasStaticSize <;> rfl

theorem Metadata.contentSized (m : Metadata) (hstatic : m.hasStaticSize = true → m.fields.staticBits < 2 ^ 32)
    {v : m.type.Value} (hv : ContentFits m.type.codec m.hasStaticSize v) :
    ContentSized m.type.codec m.staticSize v := by
  unfold ContentSized Metadata.staticSize
  cases hsize : m.hasStaticSize with
  | false => exact hv.2 hsize
  | true =>
    have his : m.fields.isStatic = true := by rw [← m.sizes.static, hsize]
    have hlen := (m.fields.fixed his).length v
    rw [if_pos rfl]
    change (m.type.codec.encode v).length = m.staticNumberOfBits.toNat
    rw [m.sizes.bits his, Nat.mod_eq_of_lt (hstatic hsize)]
    exact hlen

section Produced

variable [Ballotin]

theorem serializeResponseWithHeader_of (p : RequestProtocol) (response : p.responseType.Value)
    (sequenceNumber : ProtocolSequenceNumber) (bytes : List UInt8) :
    p.serializeResponseWithHeader (.of p.responseType response) sequenceNumber bytes =
      serializeWithHeaderTemplate p.response.protocolIdentifier (some sequenceNumber) false
        p.responseType.serializer response bytes := by
  rw [RequestProtocol.serializeResponseWithHeader, anyCast_of, Program.bind_ok (Program.lift_ok _)]

theorem Frame.serializeWithHeader_eq (f : Frame) (bytes : List UInt8) :
    f.serializeWithHeader bytes =
      serializeWithHeaderTemplate f.protocol.identifier f.number f.protocol.staticSize.isSome
        f.protocol.type.serializer f.value bytes := by
  obtain ⟨protocol, sequenceNumber, value⟩ := f
  cases protocol with
  | message p =>
    change serializeWithHeaderTemplate p.metadata.protocolIdentifier none p.metadata.hasStaticSize
      p.metadata.type.serializer value bytes = _
    rw [← p.metadata.staticSize_isSome]
    rfl
  | request p =>
    change serializeWithHeaderTemplate p.metadata.protocolIdentifier (some sequenceNumber)
      p.metadata.hasStaticSize p.metadata.type.serializer value bytes = _
    rw [← p.metadata.staticSize_isSome]
    rfl
  | response p => exact serializeResponseWithHeader_of p value sequenceNumber bytes

variable [LawfulBallotin] {registry : ProtocolRegistry} {f : Frame}

/-- A template that returned had content that fits. -/
theorem contentFits_of_ok {T : Type} {identifier : ProtocolIdentifier} {number : Option ProtocolSequenceNumber}
    {hasStaticSize : Bool} {s : BinarySerializer T} {c : Codec T} (h : Implements s c) {v : T}
    {bytes out : List UInt8}
    (hok : serializeWithHeaderTemplate identifier number hasStaticSize s v bytes = .ok () out) :
    ContentFits c hasStaticSize v := by
  by_contra hfits
  obtain ⟨e, b, herror⟩ := serializeWithHeaderTemplate_error identifier number hasStaticSize h hfits bytes
  rw [herror] at hok
  cases hok

theorem Frame.Produced.contentFits (h : f.Produced registry) :
    ContentFits f.protocol.type.codec f.protocol.staticSize.isSome f.value := by
  obtain ⟨out, hout⟩ := h.serialized
  rw [f.serializeWithHeader_eq] at hout
  exact contentFits_of_ok f.protocol.type.implements hout

/-- The bytes of a frame are what `serializeWithHeader` appends. -/
theorem Frame.serializeWithHeader_ok (hfits : ContentFits f.protocol.type.codec f.protocol.staticSize.isSome f.value)
    (bytes : List UInt8) : f.serializeWithHeader bytes = .ok () (bytes ++ f.bytes) := by
  rw [f.serializeWithHeader_eq]
  exact serializeWithHeaderTemplate_ok _ _ _ f.protocol.type.implements hfits bytes

theorem Frame.Produced.contentSized (h : f.Produced registry) :
    ContentSized f.protocol.type.codec f.protocol.staticSize f.value := by
  have hfits := h.contentFits
  have hstatic := h.static
  obtain ⟨protocol, sequenceNumber, value⟩ := f
  cases protocol with
  | message p =>
    exact p.metadata.contentSized hstatic (by rw [← p.metadata.staticSize_isSome]; exact hfits)
  | request p =>
    exact p.metadata.contentSized hstatic (by rw [← p.metadata.staticSize_isSome]; exact hfits)
  | response p => exact hfits.2 rfl

def Frame.tailBits (f : Frame) : List Bool :=
  sequenceNumberField f.number ++ (sizeField f.protocol.staticSize.isSome f.content ++ f.content)

omit [Ballotin] [LawfulBallotin] in
theorem Frame.bits_eq (f : Frame) : f.bits = toBits 32 f.protocol.identifier.toNat ++ f.tailBits := rfl

omit [Ballotin] [LawfulBallotin] in
theorem Frame.result_eq (f : Frame) : f.protocol.result (f.number.getD 0, f.value) = (f.number.getD 0, f.any) := by
  unfold Protocol.result Frame.number
  cases f.protocol.isSequenced <;> rfl

theorem Frame.Produced.read (h : f.Produced registry) {bytes : List UInt8} {k : ℕ} {rest : List Bool}
    (hk : k ≤ 8 * bytes.length) (hbits : (bytesToBits bytes).drop k = f.tailBits ++ rest) :
    f.protocol.tryDeserializeWithHeader bytes k =
      .ok (some (f.number.getD 0, f.any)) (k + f.tailBits.length) := by
  have hcomplete := frameDecoder_complete f.number h.contentFits.1 h.contentSized rest
  rw [f.number_isSome] at hcomplete
  have hdecoder : f.protocol.decoder ((bytesToBits bytes).drop k) =
      some (some (f.number.getD 0, f.any), rest) := by
    rw [hbits, Frame.tailBits, List.append_assoc, List.append_assoc, ← f.result_eq]
    exact Decoder.map_some hcomplete
  obtain ⟨k', hk', hrest, hok⟩ := f.protocol.reads.some hk hdecoder
  have hlen := congrArg List.length hbits
  have hlen' := congrArg List.length hrest
  rw [List.length_drop, bytesToBits_length] at hlen hlen'
  rw [List.length_append] at hlen
  rw [hok, show k' = k + f.tailBits.length by omega]

/-- A frame of which some bits are missing is not read. -/
theorem Frame.Produced.wait (h : f.Produced registry) {bytes : List UInt8} {k : ℕ} (hk : k ≤ 8 * bytes.length)
    (hbits : (bytesToBits bytes).drop k <+: f.tailBits)
    (hshort : ((bytesToBits bytes).drop k).length < f.tailBits.length) :
    ∃ k', f.protocol.tryDeserializeWithHeader bytes k = .ok none k' := by
  obtain ⟨l, hincomplete⟩ := frameDecoder_incomplete f.number h.contentSized hbits hshort
  rw [f.number_isSome] at hincomplete
  have hdecoder : f.protocol.decoder ((bytesToBits bytes).drop k) = some (none, l) :=
    Decoder.map_some hincomplete
  obtain ⟨k', -, -, hok⟩ := f.protocol.reads.some hk hdecoder
  exact ⟨k', hok⟩

end Produced

section Delivery

variable {υ : Type}

def responseBytes (p : RequestProtocol) (sequenceNumber : ProtocolSequenceNumber) (response : Any) : List UInt8 :=
  match anyCast p.responseType response with
  | .ok value => Frame.bytes ⟨.response p, sequenceNumber, value⟩
  | .error _ => []

/-- What a frame should do: arrive once, and call its consumer once with its value, if there is
one. The response that a request consumer returns is appended to the outbound bytes, and a
response consumer is gone after its response. -/
def deliver (s : Reading υ) (f : Frame) : Reading υ :=
  match f.protocol with
  | .message p =>
    match s.reader.inboundMessageConsumers[p.metadata.protocolIdentifier]? with
    | some consumer => { s with
        user := Program.final (consumer f.any s.user)
        arrivals := s.arrivals ++ [.message p.metadata.protocolIdentifier f.any (some consumer)] }
    | none => { s with arrivals := s.arrivals ++ [.message p.metadata.protocolIdentifier f.any none] }
  | .request p =>
    match s.reader.inboundRequestConsumers[p.metadata.protocolIdentifier]? with
    | some consumer =>
      match consumer f.any s.user with
      | .ok response user => { s with
          user
          outboundBytes := s.outboundBytes ++ responseBytes p f.sequenceNumber response
          arrivals := s.arrivals ++
            [.request p.metadata.protocolIdentifier f.sequenceNumber f.any (some consumer)] }
      | .error _ _ => s
    | none => { s with
        arrivals := s.arrivals ++ [.request p.metadata.protocolIdentifier f.sequenceNumber f.any none] }
  | .response p =>
    match s.reader.inboundOneShotResponseConsumers[f.sequenceNumber]? with
    | some consumer => Reading.eraseOneShot f.sequenceNumber { s with
        user := Program.final (consumer f.any s.user)
        arrivals := s.arrivals ++
          [.response p.response.protocolIdentifier f.sequenceNumber f.any (some consumer)] }
    | none => { s with
        arrivals := s.arrivals ++ [.response p.response.protocolIdentifier f.sequenceNumber f.any none] }

/-- The consumer of a request returns an expected response that fits its frame. -/
def Responds (consumers : Std.ExtTreeMap ProtocolIdentifier (RequestConsumer υ)) (f : Frame) : Prop :=
  match f.protocol with
  | .request p =>
    ∀ consumer, consumers[p.metadata.protocolIdentifier]? = some consumer → ∀ user : υ,
      ∃ (response : p.responseType.Value) (user' : υ),
        consumer f.any user = .ok (.of p.responseType response) user' ∧
        ContentFits p.responseType.codec false response
  | .message _ | .response _ => True

theorem deserialize_ok {α : Type} {d : List UInt8 → EStateM Exception ℕ α} {k k' : ℕ} {a : α} {s : Reading υ}
    (h : d s.inboundBytes k = .ok a k') : Reading.deserialize d k s = .ok (a, k') s := by
  rw [Reading.deserialize, h]

theorem wrapInTryCatchAndInvoke_apply (consumer : Consumer υ) (protocol : Any) (s : Reading υ) :
    Reading.wrapInTryCatchAndInvoke consumer protocol s =
      .ok () { s with user := Program.final (consumer protocol s.user) } := by
  unfold Reading.wrapInTryCatchAndInvoke
  rw [Program.catchAll, Reading.onUser, Program.zoom]
  cases consumer protocol s.user <;> rfl

theorem record_apply (arrival : Arrival υ) (s : Reading υ) :
    Reading.record arrival s = .ok () { s with arrivals := s.arrivals ++ [arrival] } := rfl

theorem onUser_ok {α : Type} {x : EStateM Exception υ α} {s : Reading υ} {a : α} {user : υ}
    (h : x s.user = .ok a user) : Reading.onUser x s = .ok a { s with user } := by
  rw [Reading.onUser, Program.zoom, h]

theorem onOutboundBytes_ok {α : Type} {x : EStateM Exception (List UInt8) α} {s : Reading υ} {a : α}
    {outboundBytes : List UInt8} (h : x s.outboundBytes = .ok a outboundBytes) :
    Reading.onOutboundBytes x s = .ok a { s with outboundBytes } := by
  rw [Reading.onOutboundBytes, Program.zoom, h]

theorem consumeMessage_deliver (p : MessageProtocol) (n : ProtocolSequenceNumber)
    (value : (Protocol.message p).type.Value) (s : Reading υ) :
    Reading.consumeMessage p.metadata.protocolIdentifier (.of p.metadata.type value) s =
      .ok () (deliver s ⟨.message p, n, value⟩) := by
  rw [Reading.consumeMessage, Program.bind_ok Program.get_apply]
  simp only [deliver]
  cases s.reader.inboundMessageConsumers[p.metadata.protocolIdentifier]? with
  | none => rfl
  | some consumer => exact (Program.bind_ok (record_apply _ s)).trans (wrapInTryCatchAndInvoke_apply consumer _ _)

theorem consumeResponse_deliver (p : RequestProtocol) (n : ProtocolSequenceNumber)
    (value : (Protocol.response p).type.Value) (s : Reading υ) :
    Reading.consumeResponse p.response.protocolIdentifier n (.of p.responseType value) s =
      .ok () (deliver s ⟨.response p, n, value⟩) := by
  rw [Reading.consumeResponse, Program.bind_ok Program.get_apply]
  simp only [deliver]
  cases s.reader.inboundOneShotResponseConsumers[n]? with
  | none => rfl
  | some consumer =>
    refine (Program.bind_ok (record_apply _ s)).trans ?_
    rw [Program.scopeExit, wrapInTryCatchAndInvoke_apply]
    rfl

variable [Ballotin]

theorem message_read {p : MessageProtocol} {bytes : List UInt8} {k k' : ℕ}
    {r : Option (ProtocolSequenceNumber × Any)}
    (h : Protocol.tryDeserializeWithHeader (.message p) bytes k = .ok r k') :
    p.tryDeserializeWithHeader bytes k = .ok (r.map Prod.snd) k' := by
  obtain ⟨message, k'', hmessage, hpure⟩ := Program.bind_eq_ok h
  cases hpure
  rw [hmessage, Option.map_map]
  cases message <;> rfl

/-- An incomplete frame changes nothing. -/
theorem readInbound_none {p : Protocol} {s : Reading υ} {k k' : ℕ}
    (h : p.tryDeserializeWithHeader s.inboundBytes k = .ok none k') :
    Reading.readInbound p.identifier p.descriptor k s = .ok none s := by
  cases p with
  | message p => exact (Program.bind_ok rfl).trans (Program.bind_ok (deserialize_ok (message_read h)))
  | request p => exact (Program.bind_ok rfl).trans (Program.bind_ok (deserialize_ok h))
  | response p => exact (Program.bind_ok rfl).trans (Program.bind_ok (deserialize_ok h))

theorem consumeRequest_deliver [LawfulBallotin] {p : RequestProtocol} {s : Reading υ}
    {n : ProtocolSequenceNumber} {value : (Protocol.request p).type.Value}
    (hresponds : Responds s.reader.inboundRequestConsumers ⟨.request p, n, value⟩) :
    Reading.consumeRequest p.metadata.protocolIdentifier (ProtocolRegistry.requestDescriptor p) n
      (.of p.metadata.type value) s = .ok () (deliver s ⟨.request p, n, value⟩) := by
  rw [Reading.consumeRequest, Program.bind_ok Program.get_apply]
  simp only [deliver]
  cases hconsumer : s.reader.inboundRequestConsumers[p.metadata.protocolIdentifier]? with
  | none => rfl
  | some consumer =>
    obtain ⟨response, user', hreturn, hfits⟩ := hresponds consumer hconsumer s.user
    have hanswer := Frame.serializeWithHeader_ok (f := ⟨.response p, n, response⟩) hfits s.outboundBytes
    have hany : Frame.any ⟨.request p, n, value⟩ = .of p.metadata.type value := rfl
    dsimp only
    rw [hreturn, Program.bind_ok (record_apply _ s)]
    let called : Reading υ := { s with
      arrivals := s.arrivals ++
        [.request p.metadata.protocolIdentifier n (.of p.metadata.type value) (some consumer)] }
    have huser : Reading.onUser (consumer (.of p.metadata.type value)) called =
        .ok (.of p.responseType response) { called with user := user' } := onUser_ok hreturn
    refine (Program.bind_ok huser).trans ((Program.bind_ok rfl).trans ?_)
    have hbytes : responseBytes p n (.of p.responseType response) = Frame.bytes ⟨.response p, n, response⟩ := by
      rw [responseBytes, anyCast_of]
    dsimp only
    rw [hbytes]
    exact onOutboundBytes_ok hanswer

/-- A complete frame is delivered. -/
theorem readInbound_frame [LawfulBallotin] {f : Frame} {s : Reading υ}
    (hresponds : Responds s.reader.inboundRequestConsumers f) {k k' : ℕ}
    (h : f.protocol.tryDeserializeWithHeader s.inboundBytes k = .ok (some (f.number.getD 0, f.any)) k') :
    Reading.readInbound f.protocol.identifier f.protocol.descriptor k s = .ok (some k') (deliver s f) := by
  obtain ⟨protocol, sequenceNumber, value⟩ := f
  cases protocol with
  | message p =>
    refine (Program.bind_ok rfl).trans ((Program.bind_ok (deserialize_ok (message_read h))).trans ?_)
    exact Program.bind_ok (consumeMessage_deliver p sequenceNumber value s)
  | request p =>
    refine (Program.bind_ok rfl).trans ((Program.bind_ok (deserialize_ok h)).trans ?_)
    exact Program.bind_ok (consumeRequest_deliver hresponds)
  | response p =>
    refine (Program.bind_ok rfl).trans ((Program.bind_ok (deserialize_ok h)).trans ?_)
    exact Program.bind_ok (consumeResponse_deliver p sequenceNumber value s)

end Delivery

end Farseer
