import Farseer.Lib.Table
import Farseer.Reader.Delivery

/-! Exactly-once delivery in order, however TCP cuts the stream. The loop of `readInboundBytes`
delivers one complete frame a turn and stops at the first frame that is not complete; what it
leaves is the start of that frame. -/

namespace Farseer

open BitString Framing

variable {υ : Type}

theorem bytesToBits_frame (f : Frame) (pre rest : List UInt8) :
    bytesToBits (pre ++ (f.bytes ++ rest)) = bytesToBits pre ++ (toBits 32 f.protocol.identifier.toNat ++
      (f.tailBits ++ (List.replicate (padding f.bits.length) false ++ bytesToBits rest))) := by
  rw [bytesToBits_append, bytesToBits_append, Frame.bytes, bytesToBits_packBits]
  conv_lhs => rw [f.bits_eq]
  simp only [List.append_assoc]
  rfl

theorem Frame.length_tailBits (f : Frame) : f.bits.length = 32 + f.tailBits.length := by
  rw [f.bits_eq, List.length_append, toBits_length]

section Loop

variable [Ballotin] [LawfulBallotin] {registry : ProtocolRegistry}

theorem deserialize_identifier {s : Reading υ} {front rest : List Bool} {identifier : ProtocolIdentifier}
    (h : bytesToBits s.inboundBytes = front ++ (toBits 32 identifier.toNat ++ rest)) :
    Reading.deserialize BinarySerializer.protocolIdentifier.deserialize front.length s =
      .ok (identifier, front.length + 32) s := by
  have hread := implements_uint32.roundTrip (v := identifier) rfl h
  rw [fixed_uint32.length] at hread
  exact deserialize_ok hread

omit [LawfulBallotin] in
theorem lift_descriptor {p : Protocol} (h : registry.Registered p) (s : Reading υ) :
    Program.lift (registry.getProtocolDescriptor p.identifier) s = .ok p.descriptor s := by
  rw [ProtocolRegistry.getProtocolDescriptor, h]
  rfl

/-- A turn that finds an identifier goes to the functions of its protocol. -/
theorem readLoop_turn {p : Protocol} (hp : registry.Registered p) {s : Reading υ} {pre : List UInt8}
    {rest : List Bool} (hoffset : s.inboundBitsOffset = 8 * pre.length)
    (hbits : bytesToBits s.inboundBytes = bytesToBits pre ++ (toBits 32 p.identifier.toNat ++ rest))
    (fuel : ℕ) {consumed : Option ℕ} {t : Reading υ}
    (hinbound : Reading.readInbound p.identifier p.descriptor (8 * pre.length + 32) s = .ok consumed t) :
    Reading.readLoop registry (fuel + 1) s =
      consumed.elim (.ok () t) fun localInboundBitsOffset =>
        Reading.readLoop registry fuel { t with
          inboundBitsOffset := bitsPerByte * Ballotin.numberOfBitsToNumberOfBytes localInboundBitsOffset } := by
  have hidentifier := deserialize_identifier hbits
  rw [bytesToBits_length] at hidentifier
  have hlen := congrArg List.length hbits
  rw [List.length_append, List.length_append, toBits_length, bytesToBits_length, bytesToBits_length] at hlen
  rw [Reading.readLoop, Program.bind_ok Program.get_apply, hoffset, if_pos (by unfold bitsPerByte; omega),
    Program.bind_ok hidentifier]
  refine (Program.bind_ok (lift_descriptor hp s)).trans ((Program.bind_ok hinbound).trans ?_)
  cases consumed <;> rfl

/-- A turn at a complete frame delivers it and goes on behind it. -/
theorem readLoop_frame {f : Frame} (hf : f.Produced registry) {s : Reading υ}
    (hresponds : Responds s.reader.inboundRequestConsumers f) {pre rest : List UInt8}
    (hbytes : s.inboundBytes = pre ++ (f.bytes ++ rest)) (hoffset : s.inboundBitsOffset = 8 * pre.length)
    (fuel : ℕ) :
    Reading.readLoop registry (fuel + 1) s =
      Reading.readLoop registry fuel
        { deliver s f with inboundBitsOffset := 8 * (pre.length + f.bytes.length) } := by
  have hbits := bytesToBits_frame f pre rest
  rw [← hbytes] at hbits
  have hlen : s.inboundBytes.length = pre.length + (f.bytes.length + rest.length) := by
    rw [hbytes, List.length_append, List.length_append]
  have hfour := f.length_bytes
  have hdrop : (bytesToBits s.inboundBytes).drop (8 * pre.length + 32) =
      f.tailBits ++ (List.replicate (padding f.bits.length) false ++ bytesToBits rest) := by
    rw [hbits, ← List.append_assoc, List.drop_left']
    rw [List.length_append, bytesToBits_length, toBits_length]
  have hinbound := readInbound_frame hresponds (hf.read (by omega) hdrop)
  -- the reader rounds up to the padding that the writer added
  have hround : bitsPerByte * Ballotin.numberOfBitsToNumberOfBytes (8 * pre.length + 32 + f.tailBits.length) =
      8 * (pre.length + f.bytes.length) := by
    have hbits := f.length_tailBits
    rw [LawfulBallotin.numberOfBytes, Frame.bytes, packBits_length]
    unfold bitsPerByte byteCount
    omega
  have hturn := readLoop_turn hf.registered hoffset hbits fuel hinbound
  rw [Option.elim_some, hround] at hturn
  exact hturn

/-- A turn at the start of a frame that is not complete ends the loop and changes nothing. -/
theorem readLoop_unfinished {s : Reading υ} {pre tail : List UInt8}
    (hbytes : s.inboundBytes = pre ++ tail) (hoffset : s.inboundBitsOffset = 8 * pre.length)
    (htail : Unfinished (Frame.Produced registry) Frame.bytes tail) (fuel : ℕ) :
    Reading.readLoop registry (fuel + 1) s = .ok () s := by
  have hlen : s.inboundBytes.length = pre.length + tail.length := by rw [hbytes, List.length_append]
  rcases Nat.lt_or_ge tail.length 4 with hfour | hfour
  · rw [Reading.readLoop, Program.bind_ok Program.get_apply, hoffset]
    exact congrFun (if_neg (by unfold bitsPerByte; omega)) s
  · rcases htail with rfl | ⟨f, hf, hpart, hlt⟩
    · simp at hfour
    -- fewer bytes than the frame has means fewer bits, as the padding is shorter than a byte
    have hshort : (bytesToBits tail).length < f.bits.length := by
      rw [Frame.bytes, packBits_length] at hlt
      have hpad := byteCount_mul f.bits.length
      have hpadlt := padding_lt f.bits.length
      rw [bytesToBits_length]
      omega
    have hfront : bytesToBits tail <+: f.bits := by
      obtain ⟨more, hmore⟩ := hpart
      have hbits := congrArg bytesToBits hmore
      rw [bytesToBits_append, Frame.bytes, bytesToBits_packBits] at hbits
      exact List.prefix_of_prefix_length_le ⟨_, hbits⟩ (List.prefix_append _ _) (le_of_lt hshort)
    rw [f.bits_eq] at hfront
    obtain ⟨l, hl⟩ := List.prefix_of_prefix_length_le (List.prefix_append _ _) hfront
      (by rw [toBits_length, bytesToBits_length]; omega)
    rw [← hl, List.prefix_append_right_inj] at hfront
    rw [← hl, f.length_tailBits, List.length_append, toBits_length] at hshort
    have hbits : bytesToBits s.inboundBytes =
        bytesToBits pre ++ (toBits 32 f.protocol.identifier.toNat ++ l) := by
      rw [hbytes, bytesToBits_append, hl]
    have hdrop : (bytesToBits s.inboundBytes).drop (8 * pre.length + 32) = l := by
      rw [hbits, ← List.append_assoc, List.drop_left']
      rw [List.length_append, bytesToBits_length, toBits_length]
    have hk : 8 * pre.length + 32 ≤ 8 * s.inboundBytes.length := by omega
    obtain ⟨k', hwait⟩ := hf.wait hk (by rwa [hdrop]) (by rw [hdrop]; omega)
    exact readLoop_turn hf.registered hoffset hbits fuel (readInbound_none hwait)

end Loop

def Reading.inbound (s : Reading υ) (inboundBytes : List UInt8) (inboundBitsOffset : ℕ) : Reading υ :=
  { s with inboundBytes, inboundBitsOffset }

theorem deliver_inbound (s : Reading υ) (bytes : List UInt8) (k : ℕ) (f : Frame) :
    deliver (s.inbound bytes k) f = (deliver s f).inbound bytes k := by
  obtain ⟨protocol, sequenceNumber, value⟩ := f
  cases protocol with
  | message p =>
    simp only [deliver, Reading.inbound]
    cases s.reader.inboundMessageConsumers[p.metadata.protocolIdentifier]? <;> rfl
  | request p =>
    simp only [deliver, Reading.inbound]
    cases s.reader.inboundRequestConsumers[p.metadata.protocolIdentifier]? with
    | none => rfl
    | some consumer =>
      dsimp only
      cases consumer (Frame.any ⟨.request p, sequenceNumber, value⟩) s.user <;> rfl
  | response p =>
    simp only [deliver, Reading.inbound]
    cases s.reader.inboundOneShotResponseConsumers[sequenceNumber]? <;> rfl

theorem deliver_requestConsumers (s : Reading υ) (f : Frame) :
    (deliver s f).reader.inboundRequestConsumers = s.reader.inboundRequestConsumers := by
  obtain ⟨protocol, sequenceNumber, value⟩ := f
  cases protocol with
  | message p =>
    simp only [deliver]
    cases s.reader.inboundMessageConsumers[p.metadata.protocolIdentifier]? <;> rfl
  | request p =>
    simp only [deliver]
    cases s.reader.inboundRequestConsumers[p.metadata.protocolIdentifier]? with
    | none => rfl
    | some consumer =>
      dsimp only
      cases consumer (Frame.any ⟨.request p, sequenceNumber, value⟩) s.user <;> rfl
  | response p =>
    simp only [deliver]
    cases s.reader.inboundOneShotResponseConsumers[sequenceNumber]? <;> rfl

theorem length_flatMap_bytes (frames : List Frame) : frames.length ≤ (frames.flatMap Frame.bytes).length := by
  induction frames with
  | nil => exact le_rfl
  | cons f frames ih =>
    have hfour := f.length_bytes
    rw [List.flatMap_cons, List.length_append, List.length_cons]
    omega

section Run

variable [Ballotin] [LawfulBallotin] {registry : ProtocolRegistry}
  {consumers : Std.ExtTreeMap ProtocolIdentifier (RequestConsumer υ)}

/-- A frame that is produced, and answered if it is a request with a consumer. -/
def Deliverable (registry : ProtocolRegistry) (consumers : Std.ExtTreeMap ProtocolIdentifier (RequestConsumer υ))
    (f : Frame) : Prop :=
  f.Produced registry ∧ Responds consumers f

theorem readLoop_frames (frames : List Frame) (hframes : ∀ f ∈ frames, Deliverable registry consumers f)
    (s : Reading υ) (hs : s.reader.inboundRequestConsumers = consumers) {bytes tail : List UInt8}
    (pre : List UInt8) (hbytes : bytes = pre ++ (frames.flatMap Frame.bytes ++ tail))
    (htail : Unfinished (Frame.Produced registry) Frame.bytes tail) (fuel : ℕ) (hfuel : frames.length < fuel) :
    Reading.readLoop registry fuel (s.inbound bytes (8 * pre.length)) =
      .ok () ((frames.foldl deliver s).inbound bytes (8 * (pre ++ frames.flatMap Frame.bytes).length)) := by
  induction frames generalizing s pre fuel with
  | nil =>
    obtain ⟨fuel, rfl⟩ := Nat.exists_eq_succ_of_ne_zero (show fuel ≠ 0 by omega)
    have hunfinished := readLoop_unfinished (s := s.inbound bytes (8 * pre.length)) hbytes rfl htail fuel
    simpa using hunfinished
  | cons f frames ih =>
    obtain ⟨fuel, rfl⟩ := Nat.exists_eq_succ_of_ne_zero (show fuel ≠ 0 by omega)
    obtain ⟨hf, hresponds⟩ := hframes f (by simp)
    rw [List.flatMap_cons, List.append_assoc] at hbytes
    have hframe := readLoop_frame (s := s.inbound bytes (8 * pre.length)) hf (by rw [← hs] at hresponds; exact hresponds)
      hbytes rfl fuel
    rw [deliver_inbound] at hframe
    rw [hframe, List.foldl_cons, List.flatMap_cons, ← List.append_assoc]
    have hrun := ih (fun g hg => hframes g (by simp [hg])) (deliver s f)
      ((deliver_requestConsumers s f).trans hs) (pre ++ f.bytes) (by rw [hbytes, List.append_assoc]) fuel
      (by rw [List.length_cons] at hfuel; omega)
    rw [List.length_append] at hrun
    exact hrun

/-- One call of `readInboundBytes`, from one content of the inbound buffer to another. -/
def Call (registry : ProtocolRegistry) (s : Reading υ) (bytes : List UInt8) (s' : Reading υ)
    (bytes' : List UInt8) : Prop :=
  Reading.readInboundBytes registry (s.inbound bytes 0) = .ok () (s'.inbound bytes' 0)

/-- A call delivers the whole frames in the buffer. -/
theorem readInboundBytes_delivers : Delivers (Deliverable registry consumers) (Frame.Produced registry)
    Frame.bytes deliver (fun s : Reading υ => s.reader.inboundRequestConsumers = consumers) (Call registry) := by
  intro s frames tail hs hframes htail
  have hfuel : frames.length < (frames.flatMap Frame.bytes ++ tail).length + 1 := by
    have hlen := length_flatMap_bytes frames
    rw [List.length_append]
    omega
  have hloop := readLoop_frames frames hframes s hs [] rfl htail _ hfuel
  rw [List.nil_append, List.nil_append] at hloop
  unfold Call Reading.readInboundBytes
  refine (Program.bind_ok (Program.modify_apply _)).trans ((Program.bind_ok Program.get_apply).trans ?_)
  refine (Program.scopeExit_ok hloop).trans ?_
  have hdrop : (frames.flatMap Frame.bytes ++ tail).drop
      (8 * (frames.flatMap Frame.bytes).length / bitsPerByte) = tail := by
    unfold bitsPerByte
    rw [Nat.mul_div_cancel_left _ (by decide), List.drop_left]
  simp only [Reading.eraseInboundBytes, Reading.inbound]
  rw [hdrop]

omit [LawfulBallotin] in
/-- Chunks arrive one after the other, and each is read when it has arrived. -/
def receive (registry : ProtocolRegistry) : List (List UInt8) → EStateM Exception (Reading υ) Unit
  | [] => pure ()
  | chunk :: chunks => do
    modify fun s => { s with inboundBytes := s.inboundBytes ++ chunk }
    Reading.readInboundBytes registry
    receive registry chunks

omit [LawfulBallotin] in
theorem receive_of_fed {s s' : Reading υ} {bytes bytes' : List UInt8} {chunks : List (List UInt8)}
    (h : Fed (Call registry) s bytes chunks s' bytes') :
    receive registry chunks (s.inbound bytes 0) = .ok () (s'.inbound bytes' 0) := by
  induction h with
  | nil s bytes => rfl
  | cons hcall _ ih => exact (Program.bind_ok (Program.modify_apply _)).trans ((Program.bind_ok hcall).trans ih)

end Run

/-- The arrival of a frame, with the consumer that the reader has for it. -/
def Frame.arrival (f : Frame) (reader : ProtocolReader υ) : Arrival υ :=
  match f.protocol with
  | .message p => .message p.metadata.protocolIdentifier f.any
      reader.inboundMessageConsumers[p.metadata.protocolIdentifier]?
  | .request p => .request p.metadata.protocolIdentifier f.sequenceNumber f.any
      reader.inboundRequestConsumers[p.metadata.protocolIdentifier]?
  | .response p => .response p.response.protocolIdentifier f.sequenceNumber f.any
      reader.inboundOneShotResponseConsumers[f.sequenceNumber]?

/-- What the frame leaves of the consumers: a response consumer is called once. -/
def ProtocolReader.after (reader : ProtocolReader υ) (f : Frame) : ProtocolReader υ :=
  match f.protocol with
  | .response _ => { reader with
      inboundOneShotResponseConsumers := reader.inboundOneShotResponseConsumers.erase f.sequenceNumber }
  | .message _ | .request _ => reader

/-- How frames should arrive: each once and in order, with the consumer that is left for it. -/
def arrivalsOf : ProtocolReader υ → List Frame → List (Arrival υ)
  | _, [] => []
  | reader, f :: frames => f.arrival reader :: arrivalsOf (reader.after f) frames

theorem deliver_trace {f : Frame} {s : Reading υ} (h : Responds s.reader.inboundRequestConsumers f) :
    (deliver s f).arrivals = s.arrivals ++ [f.arrival s.reader] ∧ (deliver s f).reader = s.reader.after f := by
  obtain ⟨protocol, sequenceNumber, value⟩ := f
  cases protocol with
  | message p =>
    simp only [deliver, Frame.arrival, ProtocolReader.after]
    cases s.reader.inboundMessageConsumers[p.metadata.protocolIdentifier]? with
    | none => exact ⟨rfl, rfl⟩
    | some consumer => exact ⟨rfl, rfl⟩
  | request p =>
    simp only [deliver, Frame.arrival, ProtocolReader.after]
    cases hconsumer : s.reader.inboundRequestConsumers[p.metadata.protocolIdentifier]? with
    | none => exact ⟨rfl, rfl⟩
    | some consumer =>
      obtain ⟨response, user', hreturn, -⟩ := h consumer hconsumer s.user
      dsimp only
      rw [hreturn]
      exact ⟨rfl, rfl⟩
  | response p =>
    simp only [deliver, Frame.arrival, ProtocolReader.after]
    cases hconsumer : s.reader.inboundOneShotResponseConsumers[sequenceNumber]? with
    | none => exact ⟨rfl, by rw [Table.erase_of_absent hconsumer]⟩
    | some consumer => exact ⟨rfl, rfl⟩

theorem foldl_deliver_arrivals (frames : List Frame) (s : Reading υ)
    (h : ∀ f ∈ frames, Responds s.reader.inboundRequestConsumers f) :
    (frames.foldl deliver s).arrivals = s.arrivals ++ arrivalsOf s.reader frames := by
  induction frames generalizing s with
  | nil => exact (List.append_nil _).symm
  | cons f frames ih =>
    obtain ⟨harrivals, hreader⟩ := deliver_trace (h f (by simp))
    rw [List.foldl_cons, ih (deliver s f) fun g hg => by rw [deliver_requestConsumers]; exact h g (by simp [hg]),
      harrivals, hreader, arrivalsOf, List.append_assoc, List.singleton_append]

section Stream

variable [Ballotin]

def serializeFrames : List Frame → EStateM Exception (List UInt8) Unit
  | [] => pure ()
  | f :: frames => do
    f.serializeWithHeader
    serializeFrames frames

variable [LawfulBallotin]

/-- What a `serializeWithHeader` that returned has appended. -/
theorem Frame.serialized {f : Frame} {bytes out : List UInt8} (h : f.serializeWithHeader bytes = .ok () out) :
    out = bytes ++ f.bytes ∧ f.serializeWithHeader [] = .ok () f.bytes := by
  have hfits : ContentFits f.protocol.type.codec f.protocol.staticSize.isSome f.value := by
    rw [f.serializeWithHeader_eq] at h
    exact contentFits_of_ok f.protocol.type.implements h
  rw [Frame.serializeWithHeader_ok hfits] at h
  cases h
  exact ⟨rfl, Frame.serializeWithHeader_ok hfits []⟩

theorem serializeFrames_ok {frames : List Frame} {bytes out : List UInt8}
    (h : serializeFrames frames bytes = .ok () out) :
    out = bytes ++ frames.flatMap Frame.bytes ∧ ∀ f ∈ frames, f.serializeWithHeader [] = .ok () f.bytes := by
  induction frames generalizing bytes with
  | nil =>
    cases h
    exact ⟨(List.append_nil _).symm, fun f hf => by cases hf⟩
  | cons f frames ih =>
    obtain ⟨u, middle, hf, hrest⟩ := Program.bind_eq_ok h
    obtain ⟨rfl, hserialized⟩ := Frame.serialized hf
    obtain ⟨rfl, hall⟩ := ih hrest
    refine ⟨by rw [List.flatMap_cons, List.append_assoc], ?_⟩
    rintro g (_ | ⟨_, hg⟩)
    · exact hserialized
    · exact hall g hg

/-- Every frame of the stream is delivered exactly once and in order, and the start of one more
frame waits for its rest, wherever the stream is cut into chunks. No call throws. -/
theorem readInboundBytes_segmentation {registry : ProtocolRegistry} {frames : List Frame}
    {stream tail : List UInt8} {chunks : List (List UInt8)} {s : Reading υ}
    (hempty : s.inboundBytes = []) (hoffset : s.inboundBitsOffset = 0)
    (hregistered : ∀ f ∈ frames, registry.Registered f.protocol ∧ f.protocol.StaticSizeFits)
    (hresponds : ∀ f ∈ frames, Responds s.reader.inboundRequestConsumers f)
    (hstream : serializeFrames frames [] = .ok () stream)
    (htail : tail = [] ∨ ∃ (f : Frame) (whole : List UInt8), registry.Registered f.protocol ∧ f.protocol.StaticSizeFits ∧
      f.serializeWithHeader [] = .ok () whole ∧ tail <+: whole ∧ tail ≠ whole)
    (hchunks : chunks.flatten = stream ++ tail) :
    receive registry chunks s = .ok () ((frames.foldl deliver s).inbound tail 0) ∧
      (frames.foldl deliver s).arrivals = s.arrivals ++ arrivalsOf s.reader frames := by
  obtain ⟨rfl, hserialized⟩ := serializeFrames_ok hstream
  have hframes : ∀ f ∈ frames, Deliverable registry s.reader.inboundRequestConsumers f := fun f hf =>
    ⟨⟨(hregistered f hf).1, (hregistered f hf).2, _, hserialized f hf⟩, hresponds f hf⟩
  have hunfinished : Unfinished (Frame.Produced registry) Frame.bytes tail := by
    rcases htail with rfl | ⟨f, whole, hf, hstatic, hwhole, hpart, hne⟩
    · exact .inl rfl
    · obtain ⟨rfl, hproduced⟩ := Frame.serialized hwhole
      refine .inr ⟨f, ⟨hf, hstatic, _, hproduced⟩, hpart, ?_⟩
      exact lt_of_le_of_ne hpart.length_le fun hlen => hne (hpart.eq_of_length hlen)
  have hfed := readInboundBytes_delivers.fed (fun f hf => hf.1)
    (fun t f ht _ => (deliver_requestConsumers t f).trans ht) hunfinished chunks frames hframes s rfl []
    (by cases frames with
      | nil => exact List.nil_prefix
      | cons f frames => exact ⟨List.nil_prefix, lt_of_lt_of_le (by decide) f.length_bytes⟩)
    (by simpa using hchunks)
  have hstart : s.inbound [] 0 = s := by rw [← hempty, ← hoffset]; rfl
  have hreceive := receive_of_fed hfed
  rw [hstart] at hreceive
  exact ⟨hreceive, foldl_deliver_arrivals frames s hresponds⟩

end Stream

/-! A message and a request in three chunks that do not respect the frames, with the start of
one more message behind them. The callback of the request counts its calls. -/

theorem string_sizes : SizesAgree (WireFields.cons .string .nil).isStatic (WireFields.cons .string .nil).staticBits
    false 0 := ⟨rfl, fun h => by cases h⟩

theorem u32_sizes : SizesAgree (WireFields.cons .u32 .nil).isStatic (WireFields.cons .u32 .nil).staticBits true 32 :=
  ⟨rfl, fun _ => rfl⟩

theorem boolean_sizes : SizesAgree (WireFields.cons .boolean .nil).isStatic
    (WireFields.cons .boolean .nil).staticBits true 1 := ⟨rfl, fun _ => rfl⟩

def textProtocol : MessageProtocol where
  metadata :=
    { name := "sample::Text", fields := .cons .string .nil, protocolIdentifier := 7, hasStaticSize := false
      staticNumberOfBits := 0, sizes := string_sizes }

def pingProtocol : RequestProtocol where
  metadata :=
    { name := "sample::Ping", fields := .cons .u32 .nil, protocolIdentifier := 3, hasStaticSize := true
      staticNumberOfBits := 32, sizes := u32_sizes }
  response :=
    { name := "sample::Ping::Response", fields := .cons .boolean .nil, protocolIdentifier := 4
      hasStaticSize := true, staticNumberOfBits := 1, sizes := boolean_sizes }

def pingConsumer : RequestConsumer ℕ := fun _ calls =>
  .ok (.of pingProtocol.responseType (.fromSuccess (true, ()))) (calls + 1)

def pingRegistry : ProtocolRegistry :=
  Program.final ((do
    @ProtocolRegistry.registerMessageProtocol referenceBallotin textProtocol
    @ProtocolRegistry.registerRequestProtocol referenceBallotin pingProtocol) { protocolDescriptors := ∅ })

def pingReading : Reading ℕ where
  reader := { ProtocolReader.new with
    inboundRequestConsumers := Std.ExtTreeMap.insert ∅ pingProtocol.metadata.protocolIdentifier pingConsumer }
  inboundBytes := []
  inboundBitsOffset := 0
  outboundBytes := []
  user := 0
  arrivals := []

def pingFrames : List Frame := [⟨.message textProtocol, 0, ([97], ())⟩, ⟨.request pingProtocol, 5, (7, ())⟩]

set_option maxRecDepth 4000 in
/-- The message has no consumer and is skipped; the request behind it is answered. -/
theorem ping_delivered : ∃ s, @receive ℕ referenceBallotin pingRegistry
      [[0, 0, 0, 7, 0, 0, 0], [40, 0, 0, 0, 1, 97, 0, 0, 0, 3, 0, 0, 0, 0, 0],
        [0, 0, 5, 0, 0, 0, 7, 0, 0, 0, 7, 0]] pingReading = .ok () s ∧
    s.inboundBytes = [0, 0, 0, 7, 0] ∧ s.user = 1 ∧
    s.arrivals = [.message 7 (.of textProtocol.metadata.type ([97], ())) none,
      .request 3 5 (.of pingProtocol.metadata.type (7, ())) (some pingConsumer)] := by
  have htext : @ProtocolRegistry.Registered referenceBallotin pingRegistry (.message textProtocol) := rfl
  have hping : @ProtocolRegistry.Registered referenceBallotin pingRegistry (.request pingProtocol) := rfl
  have hregistered : ∀ f ∈ pingFrames, @ProtocolRegistry.Registered referenceBallotin pingRegistry f.protocol ∧
      f.protocol.StaticSizeFits := by
    intro f hf
    rcases List.mem_pair.mp hf with rfl | rfl
    · exact ⟨htext, fun h => by cases h⟩
    · exact ⟨hping, fun _ => by decide⟩
  have hresponds : ∀ f ∈ pingFrames, Responds pingReading.reader.inboundRequestConsumers f := by
    intro f hf
    rcases List.mem_pair.mp hf with rfl | rfl
    · trivial
    · intro consumer hconsumer user
      obtain rfl : pingConsumer = consumer := Option.some_inj.mp hconsumer
      exact ⟨.fromSuccess (true, ()), user + 1, rfl, rfl, fun _ => by decide⟩
  obtain ⟨hreceive, -⟩ := @readInboundBytes_segmentation ℕ referenceBallotin referenceBallotin_lawful
    pingRegistry pingFrames [0, 0, 0, 7, 0, 0, 0, 40, 0, 0, 0, 1, 97, 0, 0, 0, 3, 0, 0, 0, 0, 0, 0, 0, 5, 0, 0, 0, 7]
    [0, 0, 0, 7, 0] [[0, 0, 0, 7, 0, 0, 0], [40, 0, 0, 0, 1, 97, 0, 0, 0, 3, 0, 0, 0, 0, 0],
        [0, 0, 5, 0, 0, 0, 7, 0, 0, 0, 7, 0]] pingReading rfl rfl hregistered hresponds rfl
    (.inr ⟨⟨.message textProtocol, 0, ([97], ())⟩, _, htext, fun h => (by cases h), rfl, by decide, by decide⟩) rfl
  exact ⟨_, hreceive, rfl, rfl, rfl⟩

end Farseer
