import Farseer.Codec.Frame
import Farseer.Schema.Language

/-! Static sizes: which parts of a schema have one, that a part which has one is written and read in
exactly that many bits, and that its frames are accepted as soon as they are whole. -/

namespace Farseer

open BitString

def WireType.isDynamic : WireType → Bool
  | .string | .list _ | .map .. => true
  | _ => false

mutual

def WireType.types : WireType → List WireType
  | .list element => .list element :: element.types
  | .map key value => .map key value :: value.types
  | .message fields => .message fields :: fields.types
  | w => [w]

def WireFields.types : WireFields → List WireType
  | .nil => []
  | .cons head tail => head.types ++ tail.types

end

mutual

theorem WireType.isStatic_iff : (w : WireType) → (w.isStatic = true ↔ ∀ v ∈ w.types, v.isDynamic = false)
  | .i32 | .i64 | .u32 | .u64 | .boolean => by simp [WireType.isStatic, WireType.types, WireType.isDynamic]
  | .string | .list _ | .map .. => by simp [WireType.isStatic, WireType.types, WireType.isDynamic]
  | .message fields => by
    rw [WireType.isStatic, WireType.types, List.forall_mem_cons, fields.isStatic_iff]
    exact (and_iff_right rfl).symm

theorem WireFields.isStatic_iff : (fields : WireFields) →
    (fields.isStatic = true ↔ ∀ v ∈ fields.types, v.isDynamic = false)
  | .nil => by simp [WireFields.isStatic, WireFields.types]
  | .cons head tail => by
    rw [WireFields.isStatic, Bool.and_eq_true, head.isStatic_iff, tail.isStatic_iff, WireFields.types,
      List.forall_mem_append]

end

mutual

/-- A type without strings, lists and maps is read off as many bits as it is wide. -/
theorem WireType.takes : (w : WireType) → w.isStatic = true → Takes w.codec.decoder w.staticBits
  | .i32, _ => (takes_field 32).map _
  | .i64, _ => (takes_field 64).map _
  | .u32, _ => (takes_field 32).map _
  | .u64, _ => (takes_field 64).map _
  | .boolean, _ => (takes_field 1).map _
  | .message fields, h => fields.takes h

theorem WireFields.takes : (fields : WireFields) → fields.isStatic = true →
    Takes fields.codec.decoder fields.staticBits
  | .nil, _ => takes_pure ()
  | .cons head tail, h =>
    have hboth := Bool.and_eq_true_iff.mp h
    (head.takes hboth.1).bind fun first => (tail.takes hboth.2).bind fun rest => takes_pure (first, rest)

end

theorem Reads.takes {α : Type} {d : List UInt8 → EStateM Exception ℕ α} {dec : Decoder α} (h : Reads d dec) {n : ℕ}
    (hdec : Takes dec n) {bytes : List UInt8} {k : ℕ} (hk : k + n ≤ 8 * bytes.length) :
    ∃ a, d bytes k = .ok a (k + n) := by
  obtain ⟨a, ha⟩ := hdec ((bytesToBits bytes).drop k) (by rw [List.length_drop, bytesToBits_length]; omega)
  obtain ⟨k', hk', hrest, hok⟩ := h.some (by omega) ha
  have hlen := congrArg List.length hrest
  simp only [List.length_drop, bytesToBits_length] at hlen
  rw [hok, show k' = k + n by omega]
  exact ⟨a, rfl⟩

/-- A frame with a static size is read as soon as all of it is there. -/
theorem frameDecoder_static {T : Type} {c : Codec T} {n : ProtocolSize} (hc : Takes c.decoder n.toNat)
    (isSequenced : Bool) (l : List Bool) :
    (sequenceNumberBits isSequenced + n.toNat ≤ l.length → ∃ read,
      frameDecoder isSequenced (some n) c l = some (some read, l.drop (sequenceNumberBits isSequenced + n.toNat))) ∧
    (l.length < sequenceNumberBits isSequenced + n.toNat →
      frameDecoder isSequenced (some n) c l = some (none, l)) := by
  refine ⟨fun hl => ?_, fun hl => ?_⟩
  · have hnumber : Takes (sequenceNumberDecoder isSequenced) (sequenceNumberBits isSequenced) :=
      fun m hm => ⟨_, sequenceNumberDecoder_front hm⟩
    have hread := hnumber.bind fun sequenceNumber => hc.bind fun value => takes_pure (some (sequenceNumber, value))
    rw [Nat.add_zero] at hread
    obtain ⟨read, hread⟩ := hread l hl
    obtain ⟨number, m, -, hrest⟩ := Decoder.bind_eq_some hread
    obtain ⟨value, m', -, hpure⟩ := Decoder.bind_eq_some hrest
    obtain ⟨rfl, -⟩ : some (number, value) = read ∧ m' = l.drop (sequenceNumberBits isSequenced + n.toNat) := by
      simpa using hpure
    exact ⟨(number, value), by rw [frameDecoder, ifAvailable_pos hl, hread]⟩
  · rw [frameDecoder, ifAvailable_neg hl]
    rfl

/-- What the generator writes into the `Metadata` of a message or request with these fields. -/
structure Metadata.GeneratedFor (fields : List FieldDefinition) (w : WireFields) (m : Metadata) : Prop where
  expanded : m.fields = w
  hasStaticSize : m.hasStaticSize = fieldsHaveStaticSize fields
  staticNumberOfBits : m.staticNumberOfBits = fieldsStaticNumberOfBits fields

/-- The frames of a message or of a request, whose `Metadata` this is. -/
def Metadata.Frames (m : Metadata) (p : Protocol) : Prop := p = .message ⟨m⟩ ∨ ∃ response, p = .request ⟨m, response⟩

theorem Metadata.Frames.static {m : Metadata} {p : Protocol} (h : m.Frames p) (hstatic : m.hasStaticSize = true) :
    p.staticSize = some m.staticNumberOfBits ∧ p.type = m.type := by
  rcases h with rfl | ⟨response, rfl⟩
  · exact ⟨if_pos hstatic, rfl⟩
  · exact ⟨if_pos hstatic, rfl⟩

structure StaticSizeExact [Ballotin] (fields : List FieldDefinition) (w : WireFields) : Prop where
  static : fieldsHaveStaticSize fields = true ↔ ∀ v ∈ w.types, v.isDynamic = false
  /-- `serializeHeaderless` appends as many bits as the part is wide -/
  serialize : fieldsHaveStaticSize fields = true → ∀ (value : w.Value) (start : Buffer), start.WellFormed →
    ∃ out, w.serializer.serialize value start = .ok () out ∧ out.WellFormed ∧
      out.bitsOffset = start.bitsOffset + (fieldsStaticNumberOfBits fields).toNat ∧
      start.contents <+: out.contents
  /-- `deserializeHeaderless` consumes as many bits wherever they are left -/
  deserialize : fieldsHaveStaticSize fields = true → ∀ (bytes : List UInt8) (k : ℕ),
    k + (fieldsStaticNumberOfBits fields).toNat ≤ 8 * bytes.length →
      ∃ value, w.serializer.deserialize bytes k = .ok value (k + (fieldsStaticNumberOfBits fields).toNat)
  /-- behind the identifier, a frame is accepted exactly if the rest of it is in the buffer -/
  frames : fieldsHaveStaticSize fields = true → ∀ (m : Metadata), m.GeneratedFor fields w → ∀ p, m.Frames p →
    ∀ (bytes : List UInt8) (k : ℕ),
      (k + sequenceNumberBits p.isSequenced + (fieldsStaticNumberOfBits fields).toNat ≤ 8 * bytes.length →
        ∃ result, p.tryDeserializeWithHeader bytes k = .ok (some result)
          (k + sequenceNumberBits p.isSequenced + (fieldsStaticNumberOfBits fields).toNat)) ∧
      (8 * bytes.length < k + sequenceNumberBits p.isSequenced + (fieldsStaticNumberOfBits fields).toNat →
        p.tryDeserializeWithHeader bytes k = .ok none k)

section Parts

variable [Ballotin]

theorem tryDeserializeWithHeader_missing {p : Protocol} {n : ProtocolSize} (hstatic : p.staticSize = some n)
    {bytes : List UInt8} {k : ℕ} (hk : 8 * bytes.length < k + sequenceNumberBits p.isSequenced + n.toNat) :
    p.tryDeserializeWithHeader bytes k = .ok none k := by
  have htemplate : tryDeserializeWithHeaderTemplate p.isSequenced (some n) p.type.serializer bytes k = .ok none k := by
    unfold tryDeserializeWithHeaderTemplate
    rw [Program.bind_ok Program.get_apply]
    exact congrFun (if_neg (by unfold bitsPerByte; omega)) k
  rw [p.tryDeserializeWithHeader_eq, hstatic, Program.bind_ok htemplate]
  rfl

variable [LawfulBallotin]

theorem tryDeserializeWithHeader_whole {p : Protocol} {n : ProtocolSize} (hstatic : p.staticSize = some n)
    (htakes : Takes p.type.codec.decoder n.toNat) {bytes : List UInt8} {k : ℕ}
    (hk : k + sequenceNumberBits p.isSequenced + n.toNat ≤ 8 * bytes.length) :
    ∃ result, p.tryDeserializeWithHeader bytes k =
      .ok (some result) (k + sequenceNumberBits p.isSequenced + n.toNat) := by
  have hlen : sequenceNumberBits p.isSequenced + n.toNat ≤ ((bytesToBits bytes).drop k).length := by
    rw [List.length_drop, bytesToBits_length]
    omega
  obtain ⟨read, hread⟩ := (frameDecoder_static htakes p.isSequenced ((bytesToBits bytes).drop k)).1 hlen
  have hdecoder : p.decoder ((bytesToBits bytes).drop k) = some (some (p.result read),
      ((bytesToBits bytes).drop k).drop (sequenceNumberBits p.isSequenced + n.toNat)) := by
    rw [Protocol.decoder, hstatic]
    exact Decoder.map_some hread
  obtain ⟨k', hk', hrest, hok⟩ := p.reads.some (by omega) hdecoder
  have hrestLength := congrArg List.length hrest
  simp only [List.length_drop, bytesToBits_length] at hrestLength
  rw [hok, show k' = k + sequenceNumberBits p.isSequenced + n.toNat by omega]
  exact ⟨p.result read, rfl⟩

theorem SizesAgree.exact {fields : List FieldDefinition} {w : WireFields}
    (h : SizesAgree w.isStatic w.staticBits (fieldsHaveStaticSize fields) (fieldsStaticNumberOfBits fields))
    (hfits : w.staticBits < 2 ^ 32) : StaticSizeExact fields w := by
  have hbits : fieldsHaveStaticSize fields = true →
      w.isStatic = true ∧ (fieldsStaticNumberOfBits fields).toNat = w.staticBits := by
    intro hstatic
    rw [h.static] at hstatic
    exact ⟨hstatic, by rw [h.bits hstatic, Nat.mod_eq_of_lt hfits]⟩
  refine ⟨by rw [h.static, w.isStatic_iff], fun hstatic value start hstart => ?_, fun hstatic bytes k hk => ?_,
    fun hstatic m hm p hp bytes k => ?_⟩
  · obtain ⟨hw, heq⟩ := hbits hstatic
    have hfixed := w.fixed hw
    refine ⟨.of (start.contents ++ w.codec.encode value), ?_, Buffer.of_wellFormed _, ?_, ?_⟩
    · conv_lhs => rw [hstart.eq_of]
      exact w.implements.writes value (hfixed.fits value) start.contents
    · rw [Buffer.of, List.length_append, hstart.length_contents, hfixed.length, heq]
    · rw [Buffer.of_contents]
      exact List.prefix_append _ _
  · obtain ⟨hw, heq⟩ := hbits hstatic
    rw [heq] at hk ⊢
    exact w.implements.reads.takes (w.takes hw) hk
  · obtain ⟨hw, heq⟩ := hbits hstatic
    obtain ⟨hsize, htype⟩ := hp.static (hm.hasStaticSize.trans hstatic)
    rw [hm.staticNumberOfBits] at hsize
    refine ⟨fun hk => tryDeserializeWithHeader_whole hsize ?_ hk, fun hk => tryDeserializeWithHeader_missing hsize hk⟩
    rw [htype, heq]
    have htakes := w.takes hw
    rw [← hm.expanded] at htakes ⊢
    exact htakes

/-- The static size of every part of an accepted schema whose bits are fewer than `2 ^ 32` is exact. -/
theorem staticSize_exact {glyph : String → Except Exception (List Node)} {text : String}
    {protocol : ProtocolDefinition} (h : parseProtocolDefinition glyph text = .ok protocol) :
    ∃ layout, protocol.expand = some layout ∧ ∀ fields ∈ protocol.parts, ∃ w,
      expandFields layout.messages fields = some w ∧ (w.staticBits < 2 ^ 32 → StaticSizeExact fields w) := by
  obtain ⟨layout, hlayout⟩ := accepted_layout h
  refine ⟨layout, hlayout.expand, fun fields hfields => ?_⟩
  obtain ⟨w, hw, hsizes⟩ := accepted_parts h hlayout.expand hfields
  exact ⟨w, hw, hsizes.exact⟩

end Parts

/-- The static size of a request is exact: its field is a message of a number and a boolean. -/
theorem find_staticSize_exact :
    @StaticSizeExact referenceBallotin findFields (.cons (.message (.cons .i32 (.cons .boolean .nil))) .nil) := by
  obtain ⟨layout, hlayout, hparts⟩ := @staticSize_exact referenceBallotin referenceBallotin_lawful
    (fun _ => .ok sampleNodes) sampleText _ sampleNodes_accepted
  obtain ⟨w, hw, hexact⟩ := hparts findFields (by decide)
  obtain rfl := Option.some_inj.mp hlayout
  obtain rfl : WireFields.cons (.message (.cons .i32 (.cons .boolean .nil))) .nil = w := Option.some_inj.mp hw
  exact hexact (by decide)

end Farseer
