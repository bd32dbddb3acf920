import Farseer.Reader.Pending

/-! The frames of a byte stream as such: which handler a frame went to is left out. Whatever the bytes, there is one
way to read frames off their front until no whole one is left, and it is the way they were written. -/

namespace Farseer

open BitString Framing

variable {υ : Type}

/-- What is handed to a handler: the kind of the protocol, its identifier, the sequence number (0 for a message) and
the value. -/
abbrev Delivery := ProtocolType × ProtocolIdentifier × ProtocolSequenceNumber × Any

def Protocol.protocolType : Protocol → ProtocolType
  | .message _ => .message
  | .request _ => .request
  | .response _ => .response

def Frame.delivery (f : Frame) : Delivery := (f.protocol.protocolType, f.protocol.identifier, f.number.getD 0, f.any)

def Arrival.delivery : Arrival υ → Delivery
  | .message identifier value _ => (.message, identifier, 0, value)
  | .request identifier sequenceNumber value _ => (.request, identifier, sequenceNumber, value)
  | .response identifier sequenceNumber value _ => (.response, identifier, sequenceNumber, value)

theorem Frame.arrival_delivery (f : Frame) (reader : ProtocolReader υ) : (f.arrival reader).delivery = f.delivery := by
  obtain ⟨protocol, n, value⟩ := f
  cases protocol <;> rfl

theorem arrivalsOf_delivery (reader : ProtocolReader υ) (frames : List Frame) :
    (arrivalsOf reader frames).map Arrival.delivery = frames.map Frame.delivery := by
  induction frames generalizing reader with
  | nil => rfl
  | cons f frames ih => rw [arrivalsOf, List.map_cons, List.map_cons, f.arrival_delivery, ih]

theorem Protocol.staticSize_of_type {p q : Protocol} (h : p.type = q.type) :
    p.staticSize.isSome = q.staticSize.isSome := by
  have hstatic : ∀ m m' : Metadata, m.type = m'.type → m.staticSize.isSome = m'.staticSize.isSome := by
    intro m m' h
    obtain ⟨-, hfields⟩ := CppType.struct.inj h
    rw [m.staticSize_isSome, m'.staticSize_isSome, m.sizes.static, m'.sizes.static, hfields]
  cases p <;> cases q
  case response.response => rfl
  case message.response | request.response | response.message | response.request => cases h
  all_goals exact hstatic _ _ h

/-- What is handed over tells the bytes of the frame. -/
theorem Frame.bytes_of_delivery {f g : Frame} (h : f.delivery = g.delivery) : f.bytes = g.bytes := by
  have hcontent : ∀ (T T' : CppType) (v : T.Value) (v' : T'.Value), Any.of T v = Any.of T' v' →
      T = T' ∧ T.codec.encode v = T'.codec.encode v' := by
    intro T T' v v' h
    cases Option.some_inj.mp h
    exact ⟨rfl, rfl⟩
  have hnumbers : f.number = g.number := by
    have hprotocol : f.protocol.protocolType = g.protocol.protocolType := congrArg Prod.fst h
    have hnumber : f.number.getD 0 = g.number.getD 0 := congrArg (fun d => d.2.2.1) h
    obtain ⟨p, n, v⟩ := f
    obtain ⟨q, m, w⟩ := g
    cases p <;> cases q <;> first | rfl | exact congrArg some hnumber | cases hprotocol
  obtain ⟨htype, hencode⟩ := hcontent _ _ f.value g.value (congrArg (fun d => d.2.2.2) h)
  have hid : f.protocol.identifier = g.protocol.identifier := congrArg (fun d => d.2.1) h
  rw [Frame.bytes, Frame.bytes, Frame.bits, Frame.bits, hid, hnumbers, Protocol.staticSize_of_type htype]
  exact congrArg (fun content => packBits (frameBits _ _ _ content)) hencode

section Unique

variable [Ballotin] {registry : ProtocolRegistry}

/-- Two protocols under one identifier of the registry read alike. -/
theorem ProtocolRegistry.Registered.alike {p q : Protocol} (hp : registry.Registered p) (hq : registry.Registered q)
    (hid : p.identifier = q.identifier) :
    p.protocolType = q.protocolType ∧ ∀ bytes, p.tryDeserializeWithHeader bytes = q.tryDeserializeWithHeader bytes := by
  unfold ProtocolRegistry.Registered at hp hq
  rw [hid, hq, Option.some_inj] at hp
  have htype := congrArg ProtocolDescriptor.protocolType hp
  have hmessage := congrArg ProtocolDescriptor.messageWithHeaderDeserializer hp
  have hsequenced := congrArg ProtocolDescriptor.sequencedProtocolWithHeaderDeserializer hp
  cases p with
  | message p =>
    cases q with
    | message q =>
      refine ⟨rfl, fun bytes => ?_⟩
      have hsame := congrFun (Option.some_inj.mp hmessage) bytes
      rw [Protocol.tryDeserializeWithHeader, Protocol.tryDeserializeWithHeader, hsame]
    | request q | response q => cases htype
  | request p =>
    cases q with
    | request q => exact ⟨rfl, fun bytes => (congrFun (Option.some_inj.mp hsequenced) bytes).symm⟩
    | message q | response q => cases htype
  | response p =>
    cases q with
    | response q => exact ⟨rfl, fun bytes => (congrFun (Option.some_inj.mp hsequenced) bytes).symm⟩
    | message q | request q => cases htype

theorem Starts.alike {p q : Protocol} {bytes : List UInt8} (hp : Starts registry p bytes)
    (hq : Starts registry q bytes) : p.identifier = q.identifier ∧ p.protocolType = q.protocolType ∧
      ∀ bytes, p.tryDeserializeWithHeader bytes = q.tryDeserializeWithHeader bytes := by
  obtain ⟨hp, rest, hrest⟩ := hp
  obtain ⟨hq, rest', hrest'⟩ := hq
  have hbits := List.append_inj_left (hrest.symm.trans hrest') (by rw [toBits_length, toBits_length])
  have hid : p.identifier = q.identifier :=
    UInt32.toNat_inj.mp (toBits_inj (UInt32.toNat_lt _) (UInt32.toNat_lt _) hbits)
  exact ⟨hid, hp.alike hq hid⟩

variable [LawfulBallotin]

/-- What the protocol of a front frame reads behind the identifier. -/
theorem FrontFrame.reads {bytes : List UInt8} {f : Frame} {n : ℕ} (h : FrontFrame registry bytes f n) : ∃ k,
    f.protocol.tryDeserializeWithHeader bytes 32 = .ok (some (f.number.getD 0, f.any)) k ∧ n = byteCount k := by
  obtain ⟨hstarts, front, rest, hbytes, hfour, hdecoder, rfl⟩ := h
  have hlen := congrArg List.length hbytes
  rw [bytesToBits_length, List.length_append] at hlen
  rw [← List.drop_append_of_le_length hfour, ← hbytes] at hdecoder
  obtain ⟨k, hk, hrest, hok⟩ := f.protocol.reads.some (by omega) hdecoder
  have hleft := congrArg List.length hrest
  rw [List.length_drop, bytesToBits_length] at hleft
  exact ⟨k, hok, by rw [show k = front.length by omega]⟩

/-- There is at most one frame at the front of the bytes. -/
theorem FrontFrame.unique {bytes : List UInt8} {f g : Frame} {n m : ℕ} (hf : FrontFrame registry bytes f n)
    (hg : FrontFrame registry bytes g m) : f.delivery = g.delivery ∧ n = m := by
  obtain ⟨hid, htype, hsame⟩ := hf.1.alike hg.1
  obtain ⟨k, hok, rfl⟩ := hf.reads
  obtain ⟨k', hok', rfl⟩ := hg.reads
  rw [hsame, hok', EStateM.Result.ok.injEq, Option.some_inj, Prod.mk.injEq] at hok
  obtain ⟨⟨hnumber, hany⟩, rfl⟩ := hok
  exact ⟨by rw [Frame.delivery, Frame.delivery, hid, htype, hnumber, hany], rfl⟩

/-- Bytes that wait have no frame at their front. -/
theorem Waits.no_front {bytes : List UInt8} {f : Frame} {n : ℕ} (hwaits : Waits registry bytes) :
    ¬ FrontFrame registry bytes f n := by
  intro hfront
  rcases hwaits with hshort | ⟨p, rest, hstarts, hdecoder⟩
  · have hfour := hfront.1.length_le
    omega
  · have hfour := hstarts.length_le
    obtain ⟨-, -, hsame⟩ := hfront.1.alike hstarts
    obtain ⟨k, hok, -⟩ := hfront.reads
    obtain ⟨k', -, -, hnone⟩ := p.reads.some (by omega) hdecoder
    rw [hsame, hnone] at hok
    cases hok

/-- There is one way to read frames off the front of the bytes until no whole one is left. -/
theorem FramesRead.unique {bytes rest rest' : List UInt8} {frames others : List (Frame × ℕ)}
    (h : FramesRead registry bytes frames rest) (h' : FramesRead registry bytes others rest')
    (hwaits : Waits registry rest) (hwaits' : Waits registry rest') :
    frames.map (fun f => f.1.delivery) = others.map (fun f => f.1.delivery) ∧ rest = rest' := by
  induction h generalizing others with
  | nil bytes =>
    cases h' with
    | nil => exact ⟨rfl, rfl⟩
    | cons hfront' hrest' => exact absurd hfront' hwaits.no_front
  | cons hfront _ ih =>
    cases h' with
    | nil => exact absurd hfront hwaits'.no_front
    | cons hfront' hrest' =>
      obtain ⟨hdelivery, rfl⟩ := hfront.unique hfront'
      obtain ⟨hframes, hrest⟩ := ih hrest' hwaits
      exact ⟨by rw [List.map_cons, List.map_cons, hdelivery, hframes], hrest⟩

/-- A frame that was produced is at the front of its bytes. -/
theorem Frame.Produced.front {f : Frame} (h : f.Produced registry) (rest : List UInt8) :
    FrontFrame registry (f.bytes ++ rest) f f.bytes.length := by
  have hbits := bytesToBits_frame f [] rest
  rw [List.nil_append, bytesToBits_nil, List.nil_append] at hbits
  refine ⟨⟨h.registered, _, hbits⟩, f.bits, List.replicate (padding f.bits.length) false ++ bytesToBits rest, ?_,
    f.length_bits, ?_, by rw [Frame.bytes, packBits_length]⟩
  · rw [hbits, f.bits_eq, List.append_assoc]
  · have hcomplete := frameDecoder_complete f.number h.contentFits.1 h.contentSized
      (List.replicate (padding f.bits.length) false ++ bytesToBits rest)
    rw [f.number_isSome] at hcomplete
    have hdecoder := Decoder.map_some (f := Option.map f.protocol.result) hcomplete
    rw [Option.map_some, f.result_eq] at hdecoder
    rw [f.bits_eq, List.drop_left' (toBits_length _ _), Frame.tailBits, List.append_assoc, List.append_assoc]
    exact hdecoder

theorem FramesRead.of_produced {frames : List Frame} (hframes : ∀ f ∈ frames, f.Produced registry)
    (tail : List UInt8) : FramesRead registry (frames.flatMap Frame.bytes ++ tail)
      (frames.map fun f => (f, f.bytes.length)) tail := by
  induction frames with
  | nil => exact .nil _
  | cons f frames ih =>
    rw [List.flatMap_cons, List.append_assoc, List.map_cons]
    refine .cons ((hframes f List.mem_cons_self).front _) ?_
    rw [List.drop_left]
    exact ih fun g hg => hframes g (List.mem_cons_of_mem _ hg)

/-- The start of a frame that is not all of it waits: a loop that would read on from there is already at its end. -/
theorem Unfinished.waits (hregistry : registry.Reachable) {tail : List UInt8}
    (htail : Unfinished (Frame.Produced registry) Frame.bytes tail) : Waits registry tail := by
  let s : Reading Unit :=
    { reader := ProtocolReader.new, inboundBytes := tail, inboundBitsOffset := 0, outboundBytes := [], user := ()
      arrivals := [] }
  have hok : Reading.readLoop registry (tail.length + 1) s = .ok () s :=
    readLoop_unfinished (List.nil_append tail).symm rfl htail tail.length
  have hran := readLoop_ran (s := s) (j := 0) hregistry.generated (tail.length + 1) (Nat.zero_le _) rfl
    (by rw [Nat.add_zero]; exact Nat.lt_succ_self _)
  obtain ⟨frames, hran, -, hwaits⟩ := hran.ok hok
  have hoffset := hran.inboundBitsOffset
  change 0 = 8 * (0 + (frames.map Prod.snd).sum) at hoffset
  rwa [show 0 + (frames.map Prod.snd).sum = 0 by omega] at hwaits

/-- There is one way to cut bytes into frames that were produced. -/
theorem Frame.Produced.unique (hregistry : registry.Reachable) {frames others : List Frame}
    (hframes : ∀ f ∈ frames, f.Produced registry) (hothers : ∀ f ∈ others, f.Produced registry)
    (h : frames.flatMap Frame.bytes = others.flatMap Frame.bytes) :
    frames.map Frame.delivery = others.map Frame.delivery := by
  have hwaits : Waits registry [] := Unfinished.waits hregistry (.inl rfl)
  have hread := FramesRead.of_produced hframes []
  rw [h] at hread
  have hsame := (hread.unique (.of_produced hothers []) hwaits hwaits).1
  rwa [List.map_map, List.map_map] at hsame

/-- Of a stream of frames of which only the front has arrived, the whole frames are read, each once and in the order
in which they were written, and what is left is the start of the next one. -/
theorem FramesRead.of_stream (hregistry : registry.Reachable) {frames : List Frame}
    (hframes : ∀ f ∈ frames, f.Produced registry) {bytes rest : List UInt8} {read : List (Frame × ℕ)}
    (hfront : bytes <+: frames.flatMap Frame.bytes) (h : FramesRead registry bytes read rest)
    (hwaits : Waits registry rest) :
    ∃ done todo, frames = done ++ todo ∧ read.map (fun f => f.1.delivery) = done.map Frame.delivery ∧
      bytes = done.flatMap Frame.bytes ++ rest ∧ Waiting Frame.bytes rest [] todo := by
  obtain ⟨done, todo, tail, rfl, rfl, hwaiting⟩ := split_front frames [] bytes (by rwa [List.append_nil])
  have hdone : ∀ f ∈ done, f.Produced registry := fun f hf => hframes f (List.mem_append_left _ hf)
  have hunfinished := hwaiting.unfinished (fun f hf => hframes f (List.mem_append_right _ hf)) (.inl rfl)
  obtain ⟨hread, rfl⟩ := h.unique (.of_produced hdone tail) hwaits (Unfinished.waits hregistry hunfinished)
  refine ⟨done, todo, rfl, ?_, rfl, hwaiting⟩
  rw [hread, List.map_map]
  rfl

/-- However the loop ends, what it has handed over are frames from the front of the bytes that it found. -/
theorem readLoop_reads (hregistry : registry.Generated) (fuel : ℕ) {s : Reading υ} {j : ℕ}
    (hj : j ≤ s.inboundBytes.length) (hoffset : s.inboundBitsOffset = 8 * j) :
    ∃ frames rest, FramesRead registry (s.inboundBytes.drop j) frames rest ∧
      (Program.final (Reading.readLoop registry fuel s)).arrivals =
        s.arrivals ++ arrivalsOf s.reader (frames.map Prod.fst) := by
  have hnone : ∀ t : Reading υ, t.arrivals = s.arrivals → ∃ frames rest,
      FramesRead registry (s.inboundBytes.drop j) frames rest ∧
        t.arrivals = s.arrivals ++ arrivalsOf s.reader (frames.map Prod.fst) := fun t ht =>
    ⟨[], _, .nil _, by rw [ht]; exact (List.append_nil _).symm⟩
  induction fuel generalizing s j with
  | zero => exact hnone s rfl
  | succ fuel ih =>
    rcases readLoop_cases hregistry hj hoffset with hwaits | ⟨e, herror⟩ | ⟨f, n, hfront⟩
    · rw [readLoop_waits hwaits hj hoffset]
      exact hnone s rfl
    · rw [herror]
      exact hnone s rfl
    · have hn := hfront.length_le
      rw [List.length_drop] at hn
      rw [readLoop_front hfront hj hoffset]
      have hconsume := f.consume_consumes s
      cases hrun : f.consume s with
      | error e t =>
        rw [Program.bind_error hrun]
        exact ⟨[(f, n)], _, .cons hfront (.nil _), (hconsume.error hrun).arrivals⟩
      | ok u t =>
        have hconsumes := hconsume.ok hrun
        rw [Program.bind_ok hrun, Program.bind_ok (Program.modify_apply _)]
        obtain ⟨frames, rest, hframes, harrivals⟩ := ih (s := { t with inboundBitsOffset := 8 * (j + n) }) (j := j + n)
          (by rw [hconsumes.inboundBytes]; omega) rfl fun v hv => ⟨[], _, .nil _, by rw [hv]; exact (List.append_nil _).symm⟩
        have hbytes : ({ t with inboundBitsOffset := 8 * (j + n) } : Reading υ).inboundBytes = s.inboundBytes :=
          hconsumes.inboundBytes
        rw [hbytes] at hframes
        refine ⟨(f, n) :: frames, rest, .cons hfront (by rwa [List.drop_drop]), ?_⟩
        rw [harrivals]
        change t.arrivals ++ arrivalsOf t.reader _ = _
        rw [hconsumes.arrivals, hconsumes.reader, List.append_assoc]
        rfl

omit [LawfulBallotin] in
/-- What was handed over are the frames at the front of the bytes, and behind them is the rest. -/
def Streamed (registry : ProtocolRegistry) (bytes : List UInt8) (delivered : List Delivery) (rest : List UInt8) :
    Prop :=
  ∃ frames, FramesRead registry bytes frames rest ∧ delivered = frames.map fun f => f.1.delivery

omit [LawfulBallotin] in
theorem Streamed.nil (bytes : List UInt8) : Streamed registry bytes [] bytes := ⟨[], .nil bytes, rfl⟩

omit [LawfulBallotin] in
theorem Streamed.append {bytes rest : List UInt8} {delivered : List Delivery}
    (h : Streamed registry bytes delivered rest) (more : List UInt8) :
    Streamed registry (bytes ++ more) delivered (rest ++ more) := by
  obtain ⟨frames, hframes, hdelivered⟩ := h
  exact ⟨frames, hframes.append more, hdelivered⟩

omit [LawfulBallotin] in
theorem Streamed.trans {bytes middle rest : List UInt8} {delivered others : List Delivery}
    (h : Streamed registry bytes delivered middle) (h' : Streamed registry middle others rest) :
    Streamed registry bytes (delivered ++ others) rest := by
  obtain ⟨frames, hframes, rfl⟩ := h
  obtain ⟨frames', hframes', rfl⟩ := h'
  exact ⟨frames ++ frames', hframes.trans hframes', List.map_append.symm⟩

omit [LawfulBallotin] in
theorem Streamed.of_empty {rest : List UInt8} {delivered : List Delivery} (h : Streamed registry [] delivered rest) :
    delivered = [] := by
  obtain ⟨frames, hframes, rfl⟩ := h
  cases hframes with
  | nil => rfl
  | cons hfront _ =>
    have hlen := hfront.length_le
    rw [List.length_nil] at hlen
    omega

/-- Of written frames of which not all bytes have arrived, some were handed over, and the rest is what waits and what is
still to come. -/
theorem Streamed.of_frames (hregistry : registry.Reachable) {frames : List Frame}
    (hframes : ∀ f ∈ frames, f.Produced registry) {received rest later : List UInt8} {delivered : List Delivery}
    (h : Streamed registry received delivered rest) (hwaits : Waits registry rest)
    (hall : received ++ later = frames.flatMap Frame.bytes) :
    ∃ done todo, frames = done ++ todo ∧ delivered = done.map Frame.delivery ∧
      rest ++ later = todo.flatMap Frame.bytes ∧ Waiting Frame.bytes rest [] todo := by
  obtain ⟨read, hread, hdelivered⟩ := h
  obtain ⟨done, todo, rfl, hdone, rfl, hwaiting⟩ := FramesRead.of_stream hregistry hframes ⟨_, hall⟩ hread hwaits
  refine ⟨done, todo, rfl, hdelivered.trans hdone, ?_, hwaiting⟩
  rw [List.flatMap_append, List.append_assoc] at hall
  exact List.append_cancel_left hall

/-- A call hands over frames from the front of the bytes. If it returns, they are all the whole frames and the rest is
kept. -/
theorem readInboundBytes_streamed (hregistry : registry.Reachable) {s : Reading υ} (hs : s.arrivals = []) :
    Program.Ends
      (fun _ t => Streamed registry s.inboundBytes (t.arrivals.map Arrival.delivery) t.inboundBytes ∧
        Waits registry t.inboundBytes)
      (fun t => ∃ rest, Streamed registry s.inboundBytes (t.arrivals.map Arrival.delivery) rest)
      (Reading.readInboundBytes registry) s := by
  have hcall : Reading.readInboundBytes registry s = Program.scopeExit Reading.eraseInboundBytes
      (Reading.readLoop registry (s.inboundBytes.length + 1)) { s with inboundBitsOffset := 0 } := by
    rw [Reading.readInboundBytes, Program.bind_ok (Program.modify_apply _), Program.bind_ok Program.get_apply]
  have harrived : ∀ (t : Reading υ) (frames : List (Frame × ℕ)),
      t.arrivals = s.arrivals ++ arrivalsOf s.reader (frames.map Prod.fst) →
        t.arrivals.map Arrival.delivery = frames.map fun f => f.1.delivery := by
    intro t frames ht
    rw [ht, hs, List.nil_append, arrivalsOf_delivery, List.map_map]
    rfl
  cases hrun : Reading.readInboundBytes registry s with
  | ok u t =>
    obtain ⟨frames, thrown, hframes, -, -, harrivals, -, -, hreturned⟩ := readInboundBytes_frames hregistry s
    rw [hrun] at hframes harrivals hreturned
    obtain ⟨rfl, hwaits⟩ := hreturned rfl
    rw [List.append_nil] at harrivals
    exact .of_ok hrun ⟨⟨frames, hframes, harrived _ frames harrivals⟩, hwaits⟩
  | error e t =>
    obtain ⟨frames, rest, hframes, harrivals⟩ := readLoop_reads (s := { s with inboundBitsOffset := 0 }) (j := 0)
      hregistry.generated (s.inboundBytes.length + 1) (Nat.zero_le _) rfl
    refine .of_error hrun ⟨rest, frames, hframes, harrived t frames ?_⟩
    rw [hcall] at hrun
    cases hloop : Reading.readLoop registry (s.inboundBytes.length + 1) { s with inboundBitsOffset := 0 } with
    | ok u v =>
      rw [Program.scopeExit_ok hloop] at hrun
      cases hrun
    | error e' v =>
      rw [Program.scopeExit_error hloop] at hrun
      cases hrun
      rw [hloop] at harrivals
      exact harrivals

end Unique

end Farseer
