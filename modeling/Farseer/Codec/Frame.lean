import Farseer.Codec.Header

/-! Frames as bit strings. The serialisation templates append the bits of a frame, and the
deserialisation templates read as one decoder, which answers `none` while the frame is
incomplete. -/

namespace Farseer

open BitString

variable {T : Type}

theorem appendTo_writes {s : EStateM Exception Buffer Unit} {bits : List Bool} (h : Writes s bits)
    (bytes : List UInt8) : appendTo s bytes = .ok () (bytes ++ packBits bits) := by
  have hbuffer : ({ bytes, bitsOffset := bitsPerByte * bytes.length } : Buffer) = .of (bytesToBits bytes) := by
    rw [Buffer.of, packBits_bytesToBits, bytesToBits_length, bitsPerByte]
  rw [appendTo, hbuffer, h, Buffer.of, packBits_append_bytes]

theorem appendTo_rejects {s : EStateM Exception Buffer Unit} (h : Rejects s) (bytes : List UInt8) :
    ∃ e b, appendTo s bytes = .error e b := by
  have hbuffer : ({ bytes, bitsOffset := bitsPerByte * bytes.length } : Buffer) = .of (bytesToBits bytes) := by
    rw [Buffer.of, packBits_bytesToBits, bytesToBits_length, bitsPerByte]
  obtain ⟨e, b, hthrow⟩ := h (bytesToBits bytes)
  exact ⟨e, b.bytes, by rw [appendTo, hbuffer, hthrow]⟩

theorem serializeApart_fits {s : BinarySerializer T} {c : Codec T} (h : Implements s c) {v : T}
    (hv : c.fits v = true) : serializeApart s v = .ok (.of (c.encode v)) := by
  have hwrite := h.writes v hv []
  change s.serialize v { bytes := [], bitsOffset := 0 } = _ at hwrite
  rw [serializeApart, hwrite, List.nil_append]

theorem serializeApart_error {s : BinarySerializer T} {c : Codec T} (h : Implements s c) {v : T}
    (hv : c.fits v = false) : ∃ e, serializeApart s v = .error e := by
  obtain ⟨e, b, hthrow⟩ := h.rejects v hv []
  change s.serialize v { bytes := [], bitsOffset := 0 } = _ at hthrow
  exact ⟨e, by rw [serializeApart, hthrow]⟩

def sequenceNumberField : Option ProtocolSequenceNumber → List Bool
  | some sequenceNumber => toBits 64 sequenceNumber.toNat
  | none => []

def sizeField (hasStaticSize : Bool) (content : List Bool) : List Bool :=
  if hasStaticSize then [] else toBits 32 content.length

/-- The bits of a frame, the padding of the last byte left out. -/
def frameBits (identifier : ProtocolIdentifier) (sequenceNumber : Option ProtocolSequenceNumber)
    (hasStaticSize : Bool) (content : List Bool) : List Bool :=
  toBits 32 identifier.toNat ++
    (sequenceNumberField sequenceNumber ++ (sizeField hasStaticSize content ++ content))

def ContentFits (c : Codec T) (hasStaticSize : Bool) (v : T) : Prop :=
  c.fits v = true ∧ (hasStaticSize = false → (c.encode v).length < 2 ^ 32)

section Templates

variable [Ballotin] [LawfulBallotin]

theorem writes_bytes (bytes : List UInt8) :
    Writes (bytes.forM fun byte => BinarySerializer.pushBits byte.toNat bitsPerByte) (bytesToBits bytes) :=
  writes_forM fun byte _ => writes_pushBits byte.toNat bitsPerByte

theorem serializeDynamic_writes {s : BinarySerializer T} {c : Codec T} (h : Implements s c) {v : T}
    (hv : c.fits v = true) (hsize : (c.encode v).length < 2 ^ 32) :
    Writes (serializeDynamic s v) (toBits 32 (c.encode v).length ++ bytesToBits (packBits (c.encode v))) := by
  intro l
  rw [serializeDynamic, serializeApart_fits h hv, Program.bind_ok (Program.lift_ok _)]
  exact writes_size hsize (writes_bytes _) l

omit [LawfulBallotin] in
theorem serializeDynamic_rejects {s : BinarySerializer T} {c : Codec T} (h : Implements s c) {v : T}
    (hv : ¬ ContentFits c false v) : Rejects (serializeDynamic s v) := by
  intro l
  cases hfits : c.fits v with
  | false =>
    obtain ⟨e, he⟩ := serializeApart_error h hfits
    exact ⟨e, .of l, Program.bind_error (by rw [he]; rfl)⟩
  | true =>
    have hsize : ¬ (c.encode v).length < 2 ^ 32 := fun hlt => hv ⟨hfits, fun _ => hlt⟩
    rw [serializeDynamic, serializeApart_fits h hfits, Program.bind_ok (Program.lift_ok _)]
    exact rejects_size hsize l

theorem writes_sequenceNumber (sequenceNumber : Option ProtocolSequenceNumber) :
    Writes (serializeSequenceNumber sequenceNumber) (sequenceNumberField sequenceNumber) := by
  cases sequenceNumber with
  | none => exact writes_pure
  | some sequenceNumber => exact writes_pushBits sequenceNumber.toNat 64

/-- Serialising with a header appends the frame, in whole bytes. -/
theorem serializeWithHeaderTemplate_ok (identifier : ProtocolIdentifier)
    (sequenceNumber : Option ProtocolSequenceNumber) (hasStaticSize : Bool) {s : BinarySerializer T}
    {c : Codec T} (h : Implements s c) {v : T} (hv : ContentFits c hasStaticSize v) (bytes : List UInt8) :
    serializeWithHeaderTemplate identifier sequenceNumber hasStaticSize s v bytes =
      .ok () (bytes ++ packBits (frameBits identifier sequenceNumber hasStaticSize (c.encode v))) := by
  have hid : Writes (BinarySerializer.protocolIdentifier.serialize identifier) (toBits 32 identifier.toNat) :=
    writes_pushBits identifier.toNat 32
  have hseq := writes_sequenceNumber sequenceNumber
  unfold serializeWithHeaderTemplate frameBits sizeField
  cases hasStaticSize with
  | true => exact appendTo_writes (hid.bind (hseq.bind (h.writes v hv.1))) bytes
  | false =>
    have hdynamic := serializeDynamic_writes h hv.1 (hv.2 rfl)
    have hheader : 8 ∣ (toBits 32 identifier.toNat ++ (sequenceNumberField sequenceNumber ++
        toBits 32 (c.encode v).length)).length := by
      cases sequenceNumber <;> simp [sequenceNumberField]
    -- the content is pushed byte by byte, behind a header of whole bytes
    have hpack := packBits_append_packBits hheader (c.encode v)
    simp only [List.append_assoc] at hpack
    have hwrite := appendTo_writes (hid.bind (hseq.bind hdynamic)) bytes
    rw [hpack] at hwrite
    exact hwrite

theorem serializeWithHeaderTemplate_error (identifier : ProtocolIdentifier)
    (sequenceNumber : Option ProtocolSequenceNumber) (hasStaticSize : Bool) {s : BinarySerializer T}
    {c : Codec T} (h : Implements s c) {v : T} (hv : ¬ ContentFits c hasStaticSize v) (bytes : List UInt8) :
    ∃ e b, serializeWithHeaderTemplate identifier sequenceNumber hasStaticSize s v bytes = .error e b := by
  refine appendTo_rejects ((writes_pushBits identifier.toNat 32).bind_rejects
    ((writes_sequenceNumber sequenceNumber).bind_rejects ?_)) bytes
  cases hasStaticSize with
  | true =>
    have hfits : c.fits v = false := by
      rw [Bool.eq_false_iff]
      exact fun hfits => hv ⟨hfits, fun hstatic => by cases hstatic⟩
    exact h.rejects v hfits
  | false => exact serializeDynamic_rejects h hv

omit [Ballotin] [LawfulBallotin] in
theorem Reads.ifAvailable {d d' : List UInt8 → EStateM Exception ℕ T} {dec dec' : Decoder T}
    (h : Reads d dec) (h' : Reads d' dec') (n : ℕ) :
    Reads (fun bytes => do
      let bitsOffset ← get
      if bitsPerByte * bytes.length ≥ bitsOffset + n then d bytes else d' bytes)
      (BitString.ifAvailable n dec dec') := by
  intro bytes k hk
  have hlen : ((bytesToBits bytes).drop k).length = 8 * bytes.length - k := by simp
  simp only [Program.bind_ok Program.get_apply]
  by_cases hn : bitsPerByte * bytes.length ≥ k + n
  · rw [if_pos hn, ifAvailable_pos (by unfold bitsPerByte at hn; omega)]
    exact h bytes k hk
  · rw [if_neg hn, ifAvailable_neg (by unfold bitsPerByte at hn; omega)]
    exact h' bytes k hk

def sequenceNumberDecoder (isSequenced : Bool) : Decoder ProtocolSequenceNumber :=
  if isSequenced then uint64Codec.decoder else pure 0

/-- What the deserialisation templates read behind the identifier. -/
def frameDecoder (isSequenced : Bool) (staticNumberOfBits : Option ProtocolSize) (c : Codec T) :
    Decoder (Option (ProtocolSequenceNumber × T)) :=
  match staticNumberOfBits with
  | some staticNumberOfBits =>
    ifAvailable (sequenceNumberBits isSequenced + staticNumberOfBits.toNat)
      (do
        let sequenceNumber ← sequenceNumberDecoder isSequenced
        let value ← c.decoder
        return some (sequenceNumber, value))
      (return none)
  | none =>
    ifAvailable (sequenceNumberBits isSequenced + 32)
      (do
        let sequenceNumber ← sequenceNumberDecoder isSequenced
        let dynamicNumberOfBits ← field 32
        ifAvailable dynamicNumberOfBits
          (do
            let value ← c.decoder
            return some (sequenceNumber, value))
          (return none))
      (return none)

theorem reads_sequenceNumber (isSequenced : Bool) :
    Reads (deserializeSequenceNumber isSequenced) (sequenceNumberDecoder isSequenced) := by
  cases isSequenced with
  | false => exact reads_pure 0
  | true => exact implements_uint64.reads

theorem reads_template (isSequenced : Bool) (staticNumberOfBits : Option ProtocolSize)
    {s : BinarySerializer T} {c : Codec T} (h : Implements s c) :
    Reads (tryDeserializeWithHeaderTemplate isSequenced staticNumberOfBits s)
      (frameDecoder isSequenced staticNumberOfBits c) := by
  unfold tryDeserializeWithHeaderTemplate frameDecoder
  simp only [Nat.add_assoc]
  cases staticNumberOfBits with
  | some staticNumberOfBits =>
    refine Reads.ifAvailable ?_ (reads_pure none) _
    exact (reads_sequenceNumber isSequenced).bind fun sequenceNumber => h.reads.bind fun value => reads_pure _
  | none =>
    refine Reads.ifAvailable ?_ (reads_pure none) _
    refine (reads_sequenceNumber isSequenced).bind fun sequenceNumber => reads_counted fun size => ?_
    exact Reads.ifAvailable (h.reads.bind fun value => reads_pure _) (reads_pure none) _

end Templates

section FrameDecoder

variable {c : Codec T} {v : T} {staticNumberOfBits : Option ProtocolSize}
  {sequenceNumber : Option ProtocolSequenceNumber}

/-- The static size is the length of the content; without one, the length fits its field. -/
def ContentSized (c : Codec T) (staticNumberOfBits : Option ProtocolSize) (v : T) : Prop :=
  match staticNumberOfBits with
  | some n => (c.encode v).length = n.toNat
  | none => (c.encode v).length < 2 ^ 32

theorem sequenceNumberField_length (sequenceNumber : Option ProtocolSequenceNumber) :
    (sequenceNumberField sequenceNumber).length = sequenceNumberBits sequenceNumber.isSome := by
  cases sequenceNumber <;> simp [sequenceNumberField, sequenceNumberBits, bitsPerByte]

theorem sequenceNumberDecoder_field (rest : List Bool) :
    sequenceNumberDecoder sequenceNumber.isSome (sequenceNumberField sequenceNumber ++ rest) =
      some (sequenceNumber.getD 0, rest) := by
  cases sequenceNumber with
  | none => rfl
  | some sequenceNumber => exact uint64Codec.inverts sequenceNumber rfl rest

def frontSequenceNumber (isSequenced : Bool) (l : List Bool) : ProtocolSequenceNumber :=
  if isSequenced then UInt64.ofNat (ofBits (l.take 64)) else 0

theorem sequenceNumberDecoder_front {isSequenced : Bool} {l : List Bool}
    (hl : sequenceNumberBits isSequenced ≤ l.length) :
    sequenceNumberDecoder isSequenced l =
      some (frontSequenceNumber isSequenced l, l.drop (sequenceNumberBits isSequenced)) := by
  cases isSequenced with
  | false => rfl
  | true => exact Decoder.map_some (if_pos hl)

/-- A complete frame is read whatever follows it. -/
theorem frameDecoder_complete (sequenceNumber : Option ProtocolSequenceNumber) (hv : c.fits v = true)
    (hsize : ContentSized c staticNumberOfBits v) (rest : List Bool) :
    frameDecoder sequenceNumber.isSome staticNumberOfBits c
      (sequenceNumberField sequenceNumber ++
        (sizeField staticNumberOfBits.isSome (c.encode v) ++ (c.encode v ++ rest))) =
      some (some (sequenceNumber.getD 0, v), rest) := by
  have hlen := sequenceNumberField_length sequenceNumber
  cases staticNumberOfBits with
  | some n =>
    have hn : (c.encode v).length = n.toNat := hsize
    simp only [frameDecoder, sizeField, Option.isSome_some, if_true, List.nil_append]
    rw [ifAvailable_pos (by simp only [List.length_append]; omega),
      Decoder.bind_some (sequenceNumberDecoder_field _), Decoder.bind_some (c.inverts v hv rest)]
    rfl
  | none =>
    have hn : (c.encode v).length < 2 ^ 32 := hsize
    simp only [frameDecoder, sizeField, Option.isSome_none, Bool.false_eq_true, if_false]
    rw [ifAvailable_pos (by simp only [List.length_append, toBits_length]; omega),
      Decoder.bind_some (sequenceNumberDecoder_field _), Decoder.bind_some (field_toBits hn _),
      ifAvailable_pos (by simp only [List.length_append]; omega), Decoder.bind_some (c.inverts v hv rest)]
    rfl

/-- The start of a frame that is not all of it waits for the rest. -/
theorem frameDecoder_incomplete (sequenceNumber : Option ProtocolSequenceNumber)
    (hsize : ContentSized c staticNumberOfBits v) {l : List Bool}
    (hl : l <+: sequenceNumberField sequenceNumber ++
      (sizeField staticNumberOfBits.isSome (c.encode v) ++ c.encode v))
    (hshort : l.length < (sequenceNumberField sequenceNumber ++
      (sizeField staticNumberOfBits.isSome (c.encode v) ++ c.encode v)).length) :
    ∃ l', frameDecoder sequenceNumber.isSome staticNumberOfBits c l = some (none, l') := by
  have hlen := sequenceNumberField_length sequenceNumber
  cases staticNumberOfBits with
  | some n =>
    have hn : (c.encode v).length = n.toNat := hsize
    refine ⟨l, ?_⟩
    simp only [sizeField, Option.isSome_some, if_true, List.nil_append, List.length_append] at hshort
    rw [frameDecoder, ifAvailable_neg (by omega)]
    rfl
  | none =>
    have hn : (c.encode v).length < 2 ^ 32 := hsize
    simp only [sizeField, Option.isSome_none, Bool.false_eq_true, if_false] at hl hshort
    rw [← List.append_assoc] at hl
    simp only [List.length_append, toBits_length] at hshort
    rcases Nat.lt_or_ge l.length (sequenceNumberBits sequenceNumber.isSome + 32) with hhead | hhead
    · refine ⟨l, ?_⟩
      rw [frameDecoder, ifAvailable_neg hhead]
      rfl
    · -- the header is there, and says how much of the content is missing
      obtain ⟨t, rfl⟩ := List.prefix_of_prefix_length_le (List.prefix_append _ _) hl
        (by simp only [List.length_append, toBits_length]; omega)
      refine ⟨t, ?_⟩
      simp only [List.length_append, toBits_length] at hshort
      rw [frameDecoder, ifAvailable_pos hhead, List.append_assoc,
        Decoder.bind_some (sequenceNumberDecoder_field _), Decoder.bind_some (field_toBits hn _),
        ifAvailable_neg (by omega)]
      rfl

/-- Behind a whole header, a frame with a dynamic size waits for the bits that the header
declares and then decodes its content from all bits that have arrived. -/
theorem frameDecoder_dynamic {isSequenced : Bool} {l : List Bool}
    (hl : sequenceNumberBits isSequenced + 32 ≤ l.length) :
    frameDecoder isSequenced none c l =
      if ofBits ((l.drop (sequenceNumberBits isSequenced)).take 32) ≤
          (l.drop (sequenceNumberBits isSequenced + 32)).length then
        (c.decoder (l.drop (sequenceNumberBits isSequenced + 32))).map fun read =>
          (some (frontSequenceNumber isSequenced l, read.1), read.2)
      else some (none, l.drop (sequenceNumberBits isSequenced + 32)) := by
  have hfield : field 32 (l.drop (sequenceNumberBits isSequenced)) =
      some (ofBits ((l.drop (sequenceNumberBits isSequenced)).take 32),
        l.drop (sequenceNumberBits isSequenced + 32)) := by
    rw [field, if_pos (by rw [List.length_drop]; omega), List.drop_drop]
  rw [frameDecoder, ifAvailable_pos hl, Decoder.bind_some (sequenceNumberDecoder_front (by omega)),
    Decoder.bind_some hfield]
  split_ifs with hsize
  · rw [ifAvailable_pos hsize]
    cases hcontent : c.decoder (l.drop (sequenceNumberBits isSequenced + 32)) with
    | none => exact Decoder.bind_none hcontent
    | some read => exact Decoder.bind_some hcontent
  · rw [ifAvailable_neg (by omega)]
    rfl

end FrameDecoder

/-- What the `tryDeserializeWithHeader` of a protocol returns of what the template read. -/
def Protocol.result (p : Protocol) (read : ProtocolSequenceNumber × p.type.Value) :
    ProtocolSequenceNumber × Any :=
  (if p.isSequenced then read.1 else 0, .of p.type read.2)

def Protocol.decoder (p : Protocol) : Decoder (Option (ProtocolSequenceNumber × Any)) :=
  Option.map p.result <$> frameDecoder p.isSequenced p.staticSize p.type.codec

theorem Protocol.tryDeserializeWithHeader_eq [Ballotin] (p : Protocol) (bytes : List UInt8) :
    p.tryDeserializeWithHeader bytes =
      tryDeserializeWithHeaderTemplate p.isSequenced p.staticSize p.type.serializer bytes >>=
        fun read => pure (read.map p.result) := by
  cases p with
  | request p => rfl
  | response p => rfl
  | message p =>
    simp only [Protocol.tryDeserializeWithHeader, MessageProtocol.tryDeserializeWithHeader, bind_assoc,
      pure_bind, Option.map_map]
    rfl

theorem Protocol.reads [Ballotin] [LawfulBallotin] (p : Protocol) :
    Reads p.tryDeserializeWithHeader p.decoder := by
  have htemplate := (reads_template p.isSequenced p.staticSize p.type.implements).map (Option.map p.result)
  have heq : p.tryDeserializeWithHeader = fun bytes =>
      tryDeserializeWithHeaderTemplate p.isSequenced p.staticSize p.type.serializer bytes >>=
        fun read => pure (read.map p.result) := funext p.tryDeserializeWithHeader_eq
  rw [heq]
  exact htemplate

end Farseer
