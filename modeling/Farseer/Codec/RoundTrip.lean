import Farseer.Codec.Value
import Farseer.Schema.Accepted

/-! The round trip through `BinarySerializer`, for every type that a schema generates. -/

namespace Farseer

open BitString

def Expected.equiv (T : Type) : T ⊕ (UInt32 × List UInt8) ≃ Expected T where
  toFun
    | .inl value => .fromSuccess value
    | .inr error => .fromFailure error.1 error.2
  invFun
    | .fromSuccess value => .inl value
    | .fromFailure errorCode errorMessage => .inr (errorCode, errorMessage)
  left_inv x := by cases x <;> rfl
  right_inv x := by cases x <;> rfl

def expectedCodec {T : Type} (success : Codec T) : Codec (Expected T) :=
  (success.choice (uint32Codec.pair stringCodec)).iso (Expected.equiv T)

theorem implements_expected [Ballotin] [LawfulBallotin] {T : Type} {s : BinarySerializer T} {c : Codec T}
    (h : Implements s c) : Implements (.expected s) (expectedCodec c) where
  reads := by
    have hdecoder : (expectedCodec c).decoder = (do
        let isSuccess ← Codec.flag.decoder
        if isSuccess then do
          let value ← c.decoder
          return .fromSuccess value
        else do
          let errorCode ← uint32Codec.decoder
          let errorMessage ← stringCodec.decoder
          return .fromFailure errorCode errorMessage) := by
      simp only [expectedCodec, Codec.iso, Codec.choice, Codec.pair, map_bind]
      refine bind_congr fun isSuccess => ?_
      cases isSuccess <;> simp [Expected.equiv]
    rw [hdecoder]
    refine implements_bool.reads.bind fun isSuccess => Reads.ite ?_ ?_
    · exact h.reads.bind fun value => reads_pure _
    · exact implements_uint32.reads.bind fun errorCode =>
        implements_string.reads.bind fun errorMessage => reads_pure _
  writes v hv := by
    cases v with
    | fromSuccess value => exact (implements_bool.writes true rfl).bind (h.writes value hv)
    | fromFailure errorCode errorMessage =>
      exact (implements_bool.writes false rfl).bind
        (writes_pair implements_uint32 implements_string (errorCode, errorMessage) hv)
  rejects v hv := by
    cases v with
    | fromSuccess value => exact (implements_bool.writes true rfl).bind_rejects (h.rejects value hv)
    | fromFailure errorCode errorMessage =>
      exact (implements_bool.writes false rfl).bind_rejects
        (rejects_pair implements_uint32 implements_string (errorCode, errorMessage) hv)

/-- The C++ types that are serialised whole, by the qualified name of their struct. -/
inductive CppType
  | struct (name : String) (fields : WireFields)
  | expected (name : String) (fields : WireFields)
deriving DecidableEq

namespace CppType

@[reducible] def Value : CppType → Type
  | .struct _ fields => fields.Value
  | .expected _ fields => Expected fields.Value

def serializer [Ballotin] : (T : CppType) → BinarySerializer T.Value
  | .struct _ fields => fields.serializer
  | .expected _ fields => .expected fields.serializer

def codec : (T : CppType) → Codec T.Value
  | .struct _ fields => fields.codec
  | .expected _ fields => expectedCodec fields.codec

def sizesFit : (T : CppType) → T.Value → Bool
  | .struct _ fields, value => fields.sizesFit value
  | .expected _ fields, .fromSuccess value => fields.sizesFit value
  | .expected _ _, .fromFailure _ errorMessage => decide (errorMessage.length < 2 ^ 32)

theorem implements [Ballotin] [LawfulBallotin] : (T : CppType) → Implements T.serializer T.codec
  | .struct _ fields => fields.implements
  | .expected _ fields => implements_expected fields.implements

end CppType

theorem stringCodec_fits (bytes : List UInt8) : stringCodec.fits bytes = decide (bytes.length < 2 ^ 32) := by
  have hall : bytes.all uint8Codec.fits = true := List.all_eq_true.mpr fun _ _ => rfl
  simp only [stringCodec, Codec.counted, hall, Bool.and_true]

theorem KeyType.codec_fits (k : KeyType) (value : k.Value) : k.codec.fits value = k.sizesFit value := by
  cases k with
  | i32 | i64 | u32 | u64 => rfl
  | string => exact stringCodec_fits value

mutual

/-- A value has an encoding exactly if the sizes in it fit. -/
theorem WireType.codec_fits : (w : WireType) → (value : w.Value) → w.codec.fits value = w.sizesFit value
  | .i32, _ | .i64, _ | .u32, _ | .u64, _ | .boolean, _ => rfl
  | .string, bytes => stringCodec_fits bytes
  | .list element, elements => by
    have helement : element.codec.fits = element.sizesFit := funext element.codec_fits
    simp only [WireType.codec, Codec.counted, WireType.sizesFit, helement]
  | .map key value, entries => by
    have hkey : key.codec.fits = key.sizesFit := funext key.codec_fits
    have hvalue : value.codec.fits = value.sizesFit := funext value.codec_fits
    simp only [WireType.codec, Codec.treeMap, Codec.pair, WireType.sizesFit, hkey, hvalue]
  | .message fields, value => fields.codec_fits value

theorem WireFields.codec_fits :
    (fields : WireFields) → (value : fields.Value) → fields.codec.fits value = fields.sizesFit value
  | .nil, _ => rfl
  | .cons head tail, value => by
    have hhead := head.codec_fits value.1
    have htail := tail.codec_fits value.2
    simp only [WireFields.codec, Codec.pair, WireFields.sizesFit, hhead, htail]

end

theorem CppType.codec_fits : (T : CppType) → (value : T.Value) → T.codec.fits value = T.sizesFit value
  | .struct _ fields, value => fields.codec_fits value
  | .expected _ fields, .fromSuccess value => fields.codec_fits value
  | .expected _ _, .fromFailure errorCode errorMessage => by
    change (uint32Codec.fits errorCode && stringCodec.fits errorMessage) = _
    rw [stringCodec_fits]
    rfl

/-- The types of a schema that are serialised whole: its messages, its requests and their
expected responses. -/
def ProtocolLayout.cppTypes (layout : ProtocolLayout) (fileNamespace : String) : List CppType :=
  layout.messages.map (fun message => .struct (fileNamespace ++ "::" ++ message.1) message.2) ++
    layout.requests.flatMap fun request =>
      [.struct (fileNamespace ++ "::" ++ request.name) request.request,
        .expected (fileNamespace ++ "::" ++ request.name ++ "::Response") request.response]

def Buffer.contents (b : Buffer) : List Bool := (bytesToBits b.bytes).take b.bitsOffset

/-- The buffer has just the bytes that its offset needs, with zero bits behind the offset. -/
structure Buffer.WellFormed (b : Buffer) : Prop where
  length : b.bytes.length = byteCount b.bitsOffset
  zero : ∀ bit ∈ (bytesToBits b.bytes).drop b.bitsOffset, bit = false

theorem Buffer.of_contents (l : List Bool) : (Buffer.of l).contents = l := by
  rw [Buffer.contents, Buffer.of, bytesToBits_packBits, List.take_left]

theorem Buffer.of_wellFormed (l : List Bool) : (Buffer.of l).WellFormed := by
  refine ⟨packBits_length l, fun bit hbit => ?_⟩
  rw [Buffer.of, bytesToBits_packBits, List.drop_left] at hbit
  exact List.eq_of_mem_replicate hbit

theorem Buffer.WellFormed.length_contents {b : Buffer} (h : b.WellFormed) :
    b.contents.length = b.bitsOffset := by
  have hlen := h.length
  have hpad := byteCount_mul b.bitsOffset
  rw [Buffer.contents, List.length_take, bytesToBits_length]
  omega

/-- A well-formed buffer is the packing of its contents. -/
theorem Buffer.WellFormed.eq_of {b : Buffer} (h : b.WellFormed) : b = .of b.contents := by
  have hlen := h.length_contents
  have hbits : bytesToBits b.bytes = bytesToBits (packBits b.contents) := by
    have hzero : (bytesToBits b.bytes).drop b.bitsOffset = List.replicate (padding b.bitsOffset) false := by
      refine List.eq_replicate_iff.mpr ⟨?_, h.zero⟩
      rw [List.length_drop, bytesToBits_length, h.length, byteCount_mul, Nat.add_sub_cancel_left]
    rw [bytesToBits_packBits, hlen, ← hzero, Buffer.contents, List.take_append_drop]
  have hbytes : b.bytes = (Buffer.of b.contents).bytes := bytesToBits_injective hbits
  have hoffset : b.bitsOffset = (Buffer.of b.contents).bitsOffset := hlen.symm
  calc b = ⟨b.bytes, b.bitsOffset⟩ := rfl
    _ = .of b.contents := by rw [hbytes, hoffset]

theorem Implements.roundTrip {T : Type} {s : BinarySerializer T} {c : Codec T} (h : Implements s c) {v : T}
    (hv : c.fits v = true) {received : List UInt8} {front rest : List Bool}
    (hreceived : bytesToBits received = front ++ (c.encode v ++ rest)) :
    s.deserialize received front.length = .ok v (front.length + (c.encode v).length) := by
  have hlen : 8 * received.length = front.length + ((c.encode v).length + rest.length) := by
    rw [← bytesToBits_length, hreceived, List.length_append, List.length_append]
  have hdrop : (bytesToBits received).drop front.length = c.encode v ++ rest := by
    rw [hreceived, List.drop_left]
  have hfront : front.length ≤ 8 * received.length := by omega
  obtain ⟨k', hk', hrest, hok⟩ := h.reads.some hfront (by rw [hdrop]; exact c.inverts v hv rest)
  have hlenrest := congrArg List.length hrest
  rw [List.length_drop, bytesToBits_length] at hlenrest
  rw [hok, show k' = front.length + (c.encode v).length by omega]

/-- `serialize` appends bits that do not depend on the buffer, and `deserialize` started at the
old offset of any bytes that hold the new contents, whatever follows them, returns the value
and moves as far as `serialize` did. -/
def RoundTrips [Ballotin] (T : CppType) (v : T.Value) : Prop :=
  ∃ bits : List Bool, ∀ start : Buffer, start.WellFormed →
    ∃ out, T.serializer.serialize v start = .ok () out ∧ out.WellFormed ∧
      out.contents = start.contents ++ bits ∧ out.bitsOffset = start.bitsOffset + bits.length ∧
      ∀ received trailing, bytesToBits received = out.contents ++ trailing →
        T.serializer.deserialize received start.bitsOffset = .ok v out.bitsOffset

/-- The codec round trip, for every type of every accepted schema and from every bit offset. -/
theorem binarySerializer_roundTrip [Ballotin] [LawfulBallotin]
    {glyph : String → Except Exception (List Node)} {text : String}
    {protocol : ProtocolDefinition} (h : parseProtocolDefinition glyph text = .ok protocol) :
    ∃ layout, protocol.expand = some layout ∧
      ∀ T ∈ layout.cppTypes protocol.fileNamespace, ∀ v : T.Value, T.sizesFit v = true → RoundTrips T v := by
  obtain ⟨layout, hlayout⟩ := accepted_layout h
  refine ⟨layout, hlayout.expand, fun T _ v hv => ⟨T.codec.encode v, fun start hstart => ?_⟩⟩
  have hfits : T.codec.fits v = true := by rw [T.codec_fits, hv]
  have hlen := hstart.length_contents
  refine ⟨.of (start.contents ++ T.codec.encode v), ?_, Buffer.of_wellFormed _, Buffer.of_contents _, ?_, ?_⟩
  · conv_lhs => rw [hstart.eq_of]
    exact T.implements.writes v hfits start.contents
  · rw [Buffer.of, List.length_append, hlen]
  · intro received trailing hreceived
    rw [Buffer.of_contents, List.append_assoc] at hreceived
    have hdeserialize := T.implements.roundTrip hfits hreceived
    have hoffset : (Buffer.of (start.contents ++ T.codec.encode v)).bitsOffset =
        start.bitsOffset + (T.codec.encode v).length := by rw [Buffer.of, List.length_append, hlen]
    rw [hoffset, ← hlen]
    exact hdeserialize

def shapeWireFields : WireFields :=
  .cons (.list (.message (.cons .i32 (.cons .boolean .nil)))) (.cons (.map .string .u64) .nil)

def oneLabel (k : KeyType) (key : k.Value) (label : UInt64) : Std.ExtTreeMap k.Value UInt64 k.compare :=
  (∅ : Std.ExtTreeMap k.Value UInt64 k.compare).insert key label

/-- A point with a negative number, and a label of the bytes 0 and 255. -/
def shape : shapeWireFields.Value := ([((-5 : Int32), true, ())], oneLabel .string [0, 255] 7, ())

theorem shape_roundTrips :
    @RoundTrips referenceBallotin (.struct "dansandu.farseer.sample::Shape" shapeWireFields) shape := by
  obtain ⟨layout, hlayout, htypes⟩ := @binarySerializer_roundTrip referenceBallotin referenceBallotin_lawful
    (fun _ => .ok sampleNodes) sampleText _ sampleNodes_accepted
  obtain rfl := Option.some_inj.mp hlayout
  exact htypes (.struct "dansandu.farseer.sample::Shape" shapeWireFields) (by decide) shape (by decide +kernel)

end Farseer
