import Farseer.Reader.Segmentation
import Farseer.Reader.Registry

/-! One turn of the loop of `readInboundBytes` on any bytes. It stops at a frame that is not complete,
throws at one that cannot be read, or hands the frame to its consumer and goes on behind it. -/

namespace Farseer

open BitString

variable {υ : Type}

/-- A registry into which generated protocols were registered, with or without success. -/
inductive ProtocolRegistry.Reachable [Ballotin] : ProtocolRegistry → Prop
  | new : Reachable ⟨∅⟩
  | message (registry : ProtocolRegistry) (p : MessageProtocol) (h : Reachable registry) :
    Reachable (Program.final (ProtocolRegistry.registerMessageProtocol p registry))
  | request (registry : ProtocolRegistry) (p : RequestProtocol) (h : Reachable registry) :
    Reachable (Program.final (ProtocolRegistry.registerRequestProtocol p registry))

section Registries

def ProtocolRegistry.Generated [Ballotin] (registry : ProtocolRegistry) : Prop :=
  ∀ (identifier : ProtocolIdentifier) (descriptor : ProtocolDescriptor),
    registry.protocolDescriptors[identifier]? = some descriptor →
      ∃ p : Protocol, p.identifier = identifier ∧ descriptor = p.descriptor

variable [Ballotin] {registry : ProtocolRegistry}

theorem ProtocolRegistry.Generated.insert (h : registry.Generated) (p : Protocol) :
    ProtocolRegistry.Generated ⟨registry.protocolDescriptors.insert p.identifier p.descriptor⟩ := by
  intro identifier descriptor hlookup
  rw [Std.ExtTreeMap.getElem?_insert] at hlookup
  split_ifs at hlookup with heq
  · exact ⟨p, Std.LawfulEqCmp.eq_of_compare heq, (Option.some.inj hlookup).symm⟩
  · exact h identifier descriptor hlookup

theorem ProtocolRegistry.Generated.erase (h : registry.Generated) (identifier : ProtocolIdentifier) :
    ProtocolRegistry.Generated ⟨registry.protocolDescriptors.erase identifier⟩ := by
  intro other descriptor hlookup
  rw [Std.ExtTreeMap.getElem?_erase] at hlookup
  split_ifs at hlookup
  exact h other descriptor hlookup

theorem ProtocolRegistry.Generated.insertDescriptor (h : registry.Generated) (p : Protocol) :
    ProtocolRegistry.Generated
      (Program.final (ProtocolRegistry.insertDescriptor p.identifier p.descriptor registry)) := by
  rcases ProtocolRegistry.insertDescriptor_run p.identifier p.descriptor registry with ⟨e, herror⟩ | ⟨-, hok⟩
  · rw [herror]
    exact h
  · rw [hok]
    exact h.insert p

theorem ProtocolRegistry.Reachable.generated (h : registry.Reachable) : registry.Generated := by
  induction h with
  | new => intro identifier descriptor hlookup; simp at hlookup
  | message registry p _ ih => exact ih.insertDescriptor (.message p)
  | request registry p _ ih =>
    rw [ProtocolRegistry.registerRequestProtocol]
    rcases ProtocolRegistry.insertDescriptor_run p.metadata.protocolIdentifier (ProtocolRegistry.requestDescriptor p)
      registry with ⟨e, herror⟩ | ⟨-, hok⟩
    · rw [Program.bind_error herror]
      exact ih
    · have hrequest := ih.insert (.request p)
      rw [Program.bind_ok hok, Program.scopeFailure]
      rcases ProtocolRegistry.insertDescriptor_run p.response.protocolIdentifier (ProtocolRegistry.responseDescriptor p)
        ⟨registry.protocolDescriptors.insert p.metadata.protocolIdentifier (ProtocolRegistry.requestDescriptor p)⟩ with
        ⟨e, herror⟩ | ⟨-, hok'⟩
      · -- the request is registered without its response, and taken back
        rw [herror]
        exact hrequest.erase _
      · rw [hok']
        exact hrequest.insert (.response p)

/-- What is registered under an identifier is a protocol with that identifier. -/
theorem ProtocolRegistry.Generated.registered (h : registry.Generated) {identifier : ProtocolIdentifier}
    {descriptor : ProtocolDescriptor} (hlookup : registry.protocolDescriptors[identifier]? = some descriptor) :
    ∃ p, p.identifier = identifier ∧ registry.Registered p := by
  obtain ⟨p, rfl, rfl⟩ := h identifier descriptor hlookup
  exact ⟨p, rfl, hlookup⟩

end Registries

/-- However it ends, the buffer only grows. -/
def Appends (s : EStateM Exception Buffer Unit) : Prop :=
  ∀ l, ∃ more, Program.final (s (.of l)) = .of (l ++ more)

theorem Writes.appends {s : EStateM Exception Buffer Unit} {bits : List Bool} (h : Writes s bits) : Appends s :=
  fun l => ⟨bits, by rw [h l]; rfl⟩

theorem Appends.bind {s t : EStateM Exception Buffer Unit} (hs : Appends s) (ht : Appends t) :
    Appends (s >>= fun _ => t) := by
  intro l
  obtain ⟨more, hmore⟩ := hs l
  cases h : s (.of l) with
  | ok u buffer =>
    rw [h] at hmore
    obtain ⟨more', hmore'⟩ := ht (l ++ more)
    refine ⟨more ++ more', ?_⟩
    rw [Program.bind_ok h, show buffer = .of (l ++ more) from hmore, hmore', List.append_assoc]
  | error e buffer =>
    rw [h] at hmore
    exact ⟨more, by rw [Program.bind_error h]; exact hmore⟩

theorem appends_lift {α : Type} (r : Except Exception α) {t : α → EStateM Exception Buffer Unit}
    (h : ∀ a, Appends (t a)) : Appends (Program.lift r >>= t) := by
  cases r with
  | ok a => exact h a
  | error e => exact fun l => ⟨[], by rw [List.append_nil]; rfl⟩

theorem appendTo_grows {s : EStateM Exception Buffer Unit} (h : Appends s) (bytes : List UInt8) :
    bytes <+: Program.final (appendTo s bytes) := by
  have hbuffer : ({ bytes, bitsOffset := bitsPerByte * bytes.length } : Buffer) = .of (bytesToBits bytes) := by
    rw [Buffer.of, packBits_bytesToBits, bytesToBits_length, bitsPerByte]
  obtain ⟨more, hmore⟩ := h (bytesToBits bytes)
  have hbytes : Program.final (appendTo s bytes) = bytes ++ packBits more := by
    rw [appendTo, hbuffer, ← packBits_append_bytes]
    cases hrun : s (.of (bytesToBits bytes)) with
    | ok u buffer =>
      rw [hrun] at hmore
      exact congrArg Buffer.bytes hmore
    | error e buffer =>
      rw [hrun] at hmore
      exact congrArg Buffer.bytes hmore
  rw [hbytes]
  exact List.prefix_append _ _

section Serialisers

variable [Ballotin] [LawfulBallotin]

theorem serializeDynamic_appends {T : Type} (s : BinarySerializer T) (value : T) : Appends (serializeDynamic s value) :=
  appends_lift _ fun dynamic => appends_lift _ fun dynamicNumberOfBits =>
    (writes_pushBits dynamicNumberOfBits.toNat 32).appends.bind (writes_bytes dynamic.bytes).appends

/-- A response that cannot be written leaves what was in the buffer before it. -/
theorem serializeResponseWithHeader_grows (p : RequestProtocol) (response : Any)
    (sequenceNumber : ProtocolSequenceNumber) (bytes : List UInt8) :
    bytes <+: Program.final (p.serializeResponseWithHeader response sequenceNumber bytes) := by
  rw [RequestProtocol.serializeResponseWithHeader]
  cases anyCast p.responseType response with
  | error e => exact List.prefix_refl bytes
  | ok casted =>
    rw [Program.bind_ok (Program.lift_ok _)]
    exact appendTo_grows ((writes_pushBits p.response.protocolIdentifier.toNat 32).appends.bind
      ((writes_sequenceNumber _).appends.bind (serializeDynamic_appends _ _))) bytes

end Serialisers

/-- What the functions `readInbound...` do with a frame that they have read. -/
def Frame.consume [Ballotin] : Frame → EStateM Exception (Reading υ) Unit
  | ⟨.message p, _, message⟩ => Reading.consumeMessage p.metadata.protocolIdentifier (.of p.metadata.type message)
  | ⟨.request p, sequenceNumber, request⟩ =>
    Reading.consumeRequest p.metadata.protocolIdentifier (ProtocolRegistry.requestDescriptor p) sequenceNumber
      (.of p.metadata.type request)
  | ⟨.response p, sequenceNumber, response⟩ =>
    Reading.consumeResponse p.response.protocolIdentifier sequenceNumber (.of p.responseType response)

/-- What consuming a frame can do, whether or not it throws. -/
structure Consumes (f : Frame) (s t : Reading υ) : Prop where
  inboundBytes : t.inboundBytes = s.inboundBytes
  inboundBitsOffset : t.inboundBitsOffset = s.inboundBitsOffset
  outboundBytes : s.outboundBytes <+: t.outboundBytes
  arrivals : t.arrivals = s.arrivals ++ [f.arrival s.reader]
  reader : t.reader = s.reader.after f

section Consume

theorem onUser_cases {α : Type} (x : EStateM Exception υ α) (s : Reading υ) :
    (∃ a user, Reading.onUser x s = .ok a { s with user }) ∨ ∃ e user, Reading.onUser x s = .error e { s with user } := by
  rw [Reading.onUser, Program.zoom]
  cases x s.user with
  | ok a user => exact .inl ⟨a, user, rfl⟩
  | error e user => exact .inr ⟨e, user, rfl⟩

theorem onOutboundBytes_final (x : EStateM Exception (List UInt8) Unit) (s : Reading υ) :
    Program.final (Reading.onOutboundBytes x s) = { s with outboundBytes := Program.final (x s.outboundBytes) } := by
  rw [Reading.onOutboundBytes, Program.zoom]
  cases x s.outboundBytes <;> rfl

variable [Ballotin]

theorem consumeMessage_consumes (p : MessageProtocol) (n : ProtocolSequenceNumber)
    (value : (Protocol.message p).type.Value) (s : Reading υ) :
    ∃ t, Frame.consume ⟨.message p, n, value⟩ s = .ok () t ∧ Consumes ⟨.message p, n, value⟩ s t := by
  refine ⟨_, consumeMessage_deliver p n value s, ?_⟩
  have htrace := @deliver_trace υ ⟨.message p, n, value⟩ s trivial
  refine ⟨?_, ?_, ?_, htrace.1, htrace.2⟩
  all_goals
    simp only [deliver]
    cases s.reader.inboundMessageConsumers[p.metadata.protocolIdentifier]? <;> rfl

theorem consumeResponse_consumes (p : RequestProtocol) (n : ProtocolSequenceNumber)
    (value : (Protocol.response p).type.Value) (s : Reading υ) :
    ∃ t, Frame.consume ⟨.response p, n, value⟩ s = .ok () t ∧ Consumes ⟨.response p, n, value⟩ s t := by
  refine ⟨_, consumeResponse_deliver p n value s, ?_⟩
  have htrace := @deliver_trace υ ⟨.response p, n, value⟩ s trivial
  refine ⟨?_, ?_, ?_, htrace.1, htrace.2⟩
  all_goals
    simp only [deliver]
    cases s.reader.inboundOneShotResponseConsumers[n]? <;> rfl

variable [LawfulBallotin]

theorem consumeRequest_consumes (p : RequestProtocol) (n : ProtocolSequenceNumber)
    (value : (Protocol.request p).type.Value) (s : Reading υ) :
    Program.Within (Consumes ⟨.request p, n, value⟩) (Frame.consume ⟨.request p, n, value⟩) s := by
  refine Program.Within.get_bind ?_
  have harrival : Frame.arrival ⟨.request p, n, value⟩ s.reader = .request p.metadata.protocolIdentifier n
    (.of p.metadata.type value) s.reader.inboundRequestConsumers[p.metadata.protocolIdentifier]? := rfl
  cases hconsumer : s.reader.inboundRequestConsumers[p.metadata.protocolIdentifier]? with
  | none =>
    rw [hconsumer] at harrival
    exact .of_ok (record_apply _ s) ⟨rfl, rfl, List.prefix_refl _, by rw [harrival], rfl⟩
  | some consumer =>
    rw [hconsumer] at harrival
    have harrivals : ∀ user outboundBytes, s.outboundBytes <+: outboundBytes →
        Consumes ⟨.request p, n, value⟩ s { s with
          arrivals := s.arrivals ++ [.request p.metadata.protocolIdentifier n (.of p.metadata.type value) (some consumer)]
          user, outboundBytes } :=
      fun user outboundBytes hgrows => ⟨rfl, rfl, hgrows, by rw [harrival], rfl⟩
    dsimp only
    rw [Program.Within, Program.bind_ok (record_apply _ s)]
    rcases onUser_cases (consumer (.of p.metadata.type value)) { s with
        arrivals := s.arrivals ++
          [.request p.metadata.protocolIdentifier n (.of p.metadata.type value) (some consumer)] } with
      ⟨response, user, hok⟩ | ⟨e, user, herror⟩
    · rw [Program.bind_ok hok]
      have hgrows := serializeResponseWithHeader_grows p response n s.outboundBytes
      refine (congrArg (Consumes _ s) ?_).mpr (harrivals user _ hgrows)
      exact (congrArg Program.final (Program.bind_ok rfl)).trans (onOutboundBytes_final _ _)
    · rw [Program.bind_error herror]
      exact harrivals user _ (List.prefix_refl _)

theorem Frame.consume_consumes (f : Frame) (s : Reading υ) : Program.Within (Consumes f) f.consume s := by
  obtain ⟨protocol, n, value⟩ := f
  cases protocol with
  | message p =>
    obtain ⟨t, hok, h⟩ := consumeMessage_consumes p n value s
    exact .of_ok hok h
  | request p => exact consumeRequest_consumes p n value s
  | response p =>
    obtain ⟨t, hok, h⟩ := consumeResponse_consumes p n value s
    exact .of_ok hok h

omit [LawfulBallotin] in
theorem Frame.consume_error {f : Frame} {s t : Reading υ} {e : Exception} (h : f.consume s = .error e t) :
    ∃ p, f.protocol = .request p := by
  obtain ⟨protocol, n, value⟩ := f
  cases protocol with
  | message p =>
    obtain ⟨u, hok, -⟩ := consumeMessage_consumes p n value s
    rw [hok] at h
    cases h
  | request p => exact ⟨p, rfl⟩
  | response p =>
    obtain ⟨u, hok, -⟩ := consumeResponse_consumes p n value s
    rw [hok] at h
    cases h

end Consume

section Try

theorem frameDecoder_shrinks {T : Type} (isSequenced : Bool) (staticNumberOfBits : Option ProtocolSize) (c : Codec T) :
    Shrinks (frameDecoder isSequenced staticNumberOfBits c) := by
  have hnumber : Shrinks (sequenceNumberDecoder isSequenced) := by
    cases isSequenced with
    | false => exact (local_pure 0).shrinks
    | true => exact uint64Codec.isLocal.shrinks
  have hnone : Shrinks (return none : Decoder (Option (ProtocolSequenceNumber × T))) := (local_pure none).shrinks
  have hsome : ∀ sequenceNumber, Shrinks (do
      let value ← c.decoder
      return some (sequenceNumber, value) : Decoder (Option (ProtocolSequenceNumber × T))) := fun sequenceNumber =>
    c.isLocal.shrinks.bind fun value => (local_pure _).shrinks
  cases staticNumberOfBits with
  | some n => exact (hnumber.bind hsome).ifAvailable hnone _
  | none =>
    exact (hnumber.bind fun sequenceNumber => (local_field 32).shrinks.bind fun dynamicNumberOfBits =>
      (hsome sequenceNumber).ifAvailable hnone _).ifAvailable hnone _

theorem Protocol.decoder_shrinks (p : Protocol) : Shrinks p.decoder := (frameDecoder_shrinks _ _ _).map _

theorem Protocol.decoder_frame {p : Protocol} {l rest : List Bool} {read : ProtocolSequenceNumber × Any}
    (h : p.decoder l = some (some read, rest)) :
    ∃ f : Frame, f.protocol = p ∧ read = (f.number.getD 0, f.any) := by
  obtain ⟨result, -, hresult⟩ := Decoder.map_eq_some h
  obtain ⟨⟨n, value⟩, -, rfl⟩ := Option.map_eq_some_iff.mp hresult
  refine ⟨⟨p, n, value⟩, rfl, ?_⟩
  rw [Protocol.result, Frame.number]
  cases p.isSequenced <;> rfl

variable [Ballotin]

theorem readInbound_error {p : Protocol} {s : Reading υ} {k k' : ℕ} {e : Exception}
    (h : p.tryDeserializeWithHeader s.inboundBytes k = .error e k') :
    Reading.readInbound p.identifier p.descriptor k s = .error e s := by
  have hdeserialize : ∀ {α : Type} {d : List UInt8 → EStateM Exception ℕ α}, d s.inboundBytes k = .error e k' →
      Reading.deserialize d k s = .error e s := fun hd => by rw [Reading.deserialize, hd]
  cases p with
  | message p =>
    have hmessage : p.tryDeserializeWithHeader s.inboundBytes k = .error e k' := by
      rcases Program.bind_eq_error h with hthrow | ⟨a, u, -, hpure⟩
      · exact hthrow
      · cases hpure
    exact (Program.bind_ok rfl).trans (Program.bind_error (hdeserialize hmessage))
  | request p => exact (Program.bind_ok rfl).trans (Program.bind_error (hdeserialize h))
  | response p => exact (Program.bind_ok rfl).trans (Program.bind_error (hdeserialize h))

/-- A frame that was read is consumed. -/
theorem readInbound_read {f : Frame} {s : Reading υ} {k k' : ℕ}
    (h : f.protocol.tryDeserializeWithHeader s.inboundBytes k = .ok (some (f.number.getD 0, f.any)) k') :
    Reading.readInbound f.protocol.identifier f.protocol.descriptor k s =
      (f.consume >>= fun _ => pure (some k')) s := by
  obtain ⟨protocol, sequenceNumber, value⟩ := f
  cases protocol with
  | message p => exact (Program.bind_ok rfl).trans (Program.bind_ok (deserialize_ok (message_read h)))
  | request p => exact (Program.bind_ok rfl).trans (Program.bind_ok (deserialize_ok h))
  | response p => exact (Program.bind_ok rfl).trans (Program.bind_ok (deserialize_ok h))

end Try

section Turn

variable [Ballotin]

/-- The bytes start with the identifier of the protocol, which is registered. -/
def Starts (registry : ProtocolRegistry) (p : Protocol) (bytes : List UInt8) : Prop :=
  registry.Registered p ∧ ∃ rest, bytesToBits bytes = toBits 32 p.identifier.toNat ++ rest

/-- There is no whole frame at the front of the bytes. -/
def Waits (registry : ProtocolRegistry) (bytes : List UInt8) : Prop :=
  bytes.length < 4 ∨ ∃ p rest, Starts registry p bytes ∧ p.decoder ((bytesToBits bytes).drop 32) = some (none, rest)

/-- The frame at the front of the bytes, and the number of its bytes: its bits are rounded up. -/
def FrontFrame (registry : ProtocolRegistry) (bytes : List UInt8) (f : Frame) (n : ℕ) : Prop :=
  Starts registry f.protocol bytes ∧ ∃ front rest, bytesToBits bytes = front ++ rest ∧ 32 ≤ front.length ∧
    f.protocol.decoder (front.drop 32 ++ rest) = some (some (f.number.getD 0, f.any), rest) ∧
    n = byteCount front.length

theorem Starts.length_le {registry : ProtocolRegistry} {p : Protocol} {bytes : List UInt8}
    (h : Starts registry p bytes) : 4 ≤ bytes.length := by
  obtain ⟨-, rest, hrest⟩ := h
  have hlen := congrArg List.length hrest
  rw [bytesToBits_length, List.length_append, toBits_length] at hlen
  omega

theorem FrontFrame.length_le {registry : ProtocolRegistry} {bytes : List UInt8} {f : Frame} {n : ℕ}
    (h : FrontFrame registry bytes f n) : 4 ≤ n ∧ n ≤ bytes.length := by
  obtain ⟨-, front, rest, hbytes, hfour, -, rfl⟩ := h
  have hlen := congrArg List.length hbytes
  rw [bytesToBits_length, List.length_append] at hlen
  unfold byteCount
  omega

variable [LawfulBallotin] {registry : ProtocolRegistry}

/-- A turn that finds a registered identifier goes on with its protocol. -/
theorem readLoop_start {p : Protocol} {s : Reading υ} {j : ℕ} (hstarts : Starts registry p (s.inboundBytes.drop j))
    (hj : j ≤ s.inboundBytes.length) (hoffset : s.inboundBitsOffset = 8 * j) (fuel : ℕ) :
    Reading.readLoop registry (fuel + 1) s =
      (Reading.readInbound p.identifier p.descriptor (8 * j + 32) >>= fun consumed => match consumed with
        | some localInboundBitsOffset => do
          modify fun s => { s with
            inboundBitsOffset := bitsPerByte * Ballotin.numberOfBitsToNumberOfBytes localInboundBitsOffset }
          Reading.readLoop registry fuel
        | none => pure ()) s := by
  obtain ⟨hp, rest, hrest⟩ := hstarts
  have hbits : bytesToBits s.inboundBytes =
      bytesToBits (s.inboundBytes.take j) ++ (toBits 32 p.identifier.toNat ++ rest) := by
    rw [← hrest, ← bytesToBits_append, List.take_append_drop]
  have hidentifier := deserialize_identifier hbits
  rw [bytesToBits_length, List.length_take, Nat.min_eq_left hj] at hidentifier
  have hlen := congrArg List.length hrest
  rw [bytesToBits_length, List.length_drop, List.length_append, toBits_length] at hlen
  rw [Reading.readLoop, Program.bind_ok Program.get_apply, hoffset, if_pos (by unfold bitsPerByte; omega),
    Program.bind_ok hidentifier]
  exact Program.bind_ok (lift_descriptor hp s)

/-- The loop stops where it waits. -/
theorem readLoop_waits {s : Reading υ} {j : ℕ} (hwaits : Waits registry (s.inboundBytes.drop j))
    (hj : j ≤ s.inboundBytes.length) (hoffset : s.inboundBitsOffset = 8 * j) (fuel : ℕ) :
    Reading.readLoop registry (fuel + 1) s = .ok () s := by
  rcases hwaits with hshort | ⟨p, rest, hstarts, hdecoder⟩
  · rw [List.length_drop] at hshort
    rw [Reading.readLoop, Program.bind_ok Program.get_apply, hoffset]
    exact congrFun (if_neg (by unfold bitsPerByte; omega)) s
  · have hfour := hstarts.length_le
    rw [List.length_drop] at hfour
    rw [← bytesToBits_drop, List.drop_drop] at hdecoder
    obtain ⟨k', -, -, hnone⟩ := p.reads.some (by omega) hdecoder
    rw [readLoop_start hstarts hj hoffset]
    exact Program.bind_ok (readInbound_none hnone)

/-- The loop consumes the frame it finds, and goes on behind it. -/
theorem readLoop_front {s : Reading υ} {j n : ℕ} {f : Frame} (hfront : FrontFrame registry (s.inboundBytes.drop j) f n)
    (hj : j ≤ s.inboundBytes.length) (hoffset : s.inboundBitsOffset = 8 * j) (fuel : ℕ) :
    Reading.readLoop registry (fuel + 1) s =
      (f.consume >>= fun _ => do
        modify fun s => { s with inboundBitsOffset := 8 * (j + n) }
        Reading.readLoop registry fuel) s := by
  obtain ⟨hstarts, front, rest, hbytes, hfour, hdecoder, rfl⟩ := hfront
  have hlen := congrArg List.length hbytes
  rw [bytesToBits_length, List.length_drop, List.length_append] at hlen
  have hdrop : (bytesToBits s.inboundBytes).drop (8 * j + 32) = front.drop 32 ++ rest := by
    rw [← List.drop_drop, bytesToBits_drop, hbytes, List.drop_append_of_le_length hfour]
  rw [← hdrop] at hdecoder
  obtain ⟨k', hk', hrest, hok⟩ := f.protocol.reads.some (by omega) hdecoder
  have hleft := congrArg List.length hrest
  rw [List.length_drop, bytesToBits_length] at hleft
  have hround : bitsPerByte * Ballotin.numberOfBitsToNumberOfBytes k' = 8 * (j + byteCount front.length) := by
    rw [LawfulBallotin.numberOfBytes]
    unfold bitsPerByte byteCount
    omega
  rw [readLoop_start hstarts hj hoffset, Program.bind_eq_bind (readInbound_read hok), bind_assoc, ← hround]
  rfl

/-- A turn at a registered frame that cannot be read throws. -/
theorem readLoop_malformed {p : Protocol} {s : Reading υ} {j : ℕ} (hstarts : Starts registry p (s.inboundBytes.drop j))
    (hdecoder : p.decoder ((bytesToBits (s.inboundBytes.drop j)).drop 32) = none) (hj : j ≤ s.inboundBytes.length)
    (hoffset : s.inboundBitsOffset = 8 * j) : ∃ e, ∀ fuel, Reading.readLoop registry (fuel + 1) s = .error e s := by
  have hfour := hstarts.length_le
  rw [List.length_drop] at hfour
  rw [← bytesToBits_drop, List.drop_drop] at hdecoder
  obtain ⟨e, k', herror⟩ := p.reads.none (by omega) hdecoder
  refine ⟨e, fun fuel => ?_⟩
  rw [readLoop_start hstarts hj hoffset]
  exact Program.bind_error (readInbound_error herror)

/-- What a turn can do. -/
theorem readLoop_cases (hregistry : registry.Generated) {s : Reading υ} {j : ℕ} (hj : j ≤ s.inboundBytes.length)
    (hoffset : s.inboundBitsOffset = 8 * j) :
    Waits registry (s.inboundBytes.drop j) ∨
      (∃ e, ∀ fuel, Reading.readLoop registry (fuel + 1) s = .error e s) ∨
      ∃ f n, FrontFrame registry (s.inboundBytes.drop j) f n := by
  rcases Nat.lt_or_ge (s.inboundBytes.drop j).length 4 with hshort | hfour
  · exact .inl (.inl hshort)
  · have hlen : 4 ≤ s.inboundBytes.length - j := by rwa [List.length_drop] at hfour
    obtain ⟨identifier, rest, hrest⟩ : ∃ (identifier : ProtocolIdentifier) (rest : List Bool),
        bytesToBits (s.inboundBytes.drop j) = toBits 32 identifier.toNat ++ rest := by
      refine ⟨UInt32.ofNat (ofBits ((bytesToBits (s.inboundBytes.drop j)).take 32)),
        (bytesToBits (s.inboundBytes.drop j)).drop 32, ?_⟩
      have htake : ((bytesToBits (s.inboundBytes.drop j)).take 32).length = 32 := by
        rw [List.length_take, bytesToBits_length]
        omega
      have hlt := ofBits_lt ((bytesToBits (s.inboundBytes.drop j)).take 32)
      rw [htake] at hlt
      have hfront := toBits_ofBits ((bytesToBits (s.inboundBytes.drop j)).take 32)
      rw [htake] at hfront
      rw [UInt32.toNat_ofNat_of_lt' hlt, hfront, List.take_append_drop]
    cases hlookup : registry.protocolDescriptors[identifier]? with
    | none =>
      -- the identifier is unknown
      refine .inr (.inl ⟨.protocolNotRegisteredError
        ("No protocol descriptor is registered with identifier " ++ toString identifier), fun fuel => ?_⟩)
      have hbits : bytesToBits s.inboundBytes =
          bytesToBits (s.inboundBytes.take j) ++ (toBits 32 identifier.toNat ++ rest) := by
        rw [← hrest, ← bytesToBits_append, List.take_append_drop]
      have hidentifier := deserialize_identifier hbits
      rw [bytesToBits_length, List.length_take, Nat.min_eq_left hj] at hidentifier
      have hdescriptor : Program.lift (registry.getProtocolDescriptor identifier) s =
          .error (.protocolNotRegisteredError
            ("No protocol descriptor is registered with identifier " ++ toString identifier)) s := by
        rw [ProtocolRegistry.getProtocolDescriptor, hlookup]
        rfl
      rw [Reading.readLoop, Program.bind_ok Program.get_apply, hoffset, if_pos (by unfold bitsPerByte; omega),
        Program.bind_ok hidentifier]
      exact Program.bind_error hdescriptor
    | some descriptor =>
      obtain ⟨p, rfl, hp⟩ := hregistry.registered hlookup
      have hstarts : Starts registry p (s.inboundBytes.drop j) := ⟨hp, rest, hrest⟩
      cases hdecoder : p.decoder ((bytesToBits (s.inboundBytes.drop j)).drop 32) with
      | none => exact .inr (.inl (readLoop_malformed hstarts hdecoder hj hoffset))
      | some result =>
        obtain ⟨read, left⟩ := result
        cases read with
        | none => exact .inl (.inr ⟨p, left, hstarts, hdecoder⟩)
        | some read =>
          obtain ⟨f, rfl, rfl⟩ := Protocol.decoder_frame hdecoder
          obtain ⟨front, hfront⟩ := f.protocol.decoder_shrinks _ _ _ hdecoder
          refine .inr (.inr ⟨f, _, hstarts, toBits 32 f.protocol.identifier.toNat ++ front, left, ?_, ?_, ?_, rfl⟩)
          · rw [List.append_assoc, hfront, hrest, List.drop_left' (toBits_length _ _)]
          · rw [List.length_append, toBits_length]
            omega
          · rw [List.drop_left' (toBits_length _ _), hfront]
            exact hdecoder

end Turn

end Farseer
