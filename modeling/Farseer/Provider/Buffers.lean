import Farseer.Linux.Stream
import Farseer.Windows.Stream

/-! How much a socket keeps, on Linux and on Windows. What waits in `inboundBytes` is less than one frame of a
registered protocol, and the header of a frame has only so many bits for the size, so no peer makes a socket keep more,
whatever it sends and in whatever pieces. -/

namespace Farseer

open BitString

variable {υ : Type}

/-- The most that the content of a frame takes, with the field of its size. -/
def mostContentBits (staticNumberOfBits : Option ProtocolSize) : ℕ :=
  match staticNumberOfBits with
  | some staticNumberOfBits => staticNumberOfBits.toNat
  | none => 32 + (2 ^ 32 - 1)

def Protocol.mostBits (p : Protocol) : ℕ :=
  32 + (sequenceNumberBits p.isSequenced + mostContentBits p.staticSize)

def Protocol.longestFrame (p : Protocol) : ℕ := byteCount p.mostBits

theorem Protocol.longestFrame_le (p : Protocol) : p.longestFrame ≤ 2 ^ 29 + 16 := by
  have hnumber : sequenceNumberBits p.isSequenced ≤ 64 := by
    cases p.isSequenced <;> simp [sequenceNumberBits, bitsPerByte]
  have hcontent : mostContentBits p.staticSize ≤ 32 + (2 ^ 32 - 1) := by
    cases p.staticSize with
    | none => exact le_rfl
    | some n =>
      have hn : n.toNat < 2 ^ 32 := n.toNat_lt
      change n.toNat ≤ _
      omega
  unfold longestFrame byteCount mostBits
  omega

section Produced

variable [Ballotin] [LawfulBallotin] {registry : ProtocolRegistry}

theorem Frame.Produced.length_le {f : Frame} (h : f.Produced registry) : f.bytes.length ≤ f.protocol.longestFrame := by
  have hsized := h.contentSized
  have hcontent : (sizeField f.protocol.staticSize.isSome f.content ++ f.content).length ≤
      mostContentBits f.protocol.staticSize := by
    rw [List.length_append]
    unfold ContentSized at hsized
    cases hstatic : f.protocol.staticSize with
    | some n =>
      rw [hstatic] at hsized
      exact le_of_eq ((Nat.zero_add _).trans hsized)
    | none =>
      rw [hstatic] at hsized
      have hsize : f.content.length < 2 ^ 32 := hsized
      simp only [sizeField, Option.isSome_none, Bool.false_eq_true, if_false, toBits_length, mostContentBits]
      omega
  have hbits : f.bits.length ≤ f.protocol.mostBits := by
    rw [f.bits_eq, Frame.tailBits, List.length_append, List.length_append, toBits_length, sequenceNumberField_length,
      f.number_isSome, Protocol.mostBits]
    omega
  rw [Frame.bytes, packBits_length, Protocol.longestFrame]
  unfold byteCount
  omega

end Produced

/-- Bits of which no frame is decoded are fewer than those of the longest one. -/
theorem frameDecoder_none {T : Type} {c : Codec T} {isSequenced : Bool} {staticNumberOfBits : Option ProtocolSize}
    {l rest : List Bool} (h : frameDecoder isSequenced staticNumberOfBits c l = some (none, rest)) :
    l.length < sequenceNumberBits isSequenced + mostContentBits staticNumberOfBits := by
  by_contra hlong
  rw [Nat.not_lt] at hlong
  cases staticNumberOfBits with
  | some n =>
    have hall : sequenceNumberBits isSequenced + n.toNat ≤ l.length := hlong
    rw [frameDecoder, ifAvailable_pos hall] at h
    obtain ⟨sequenceNumber, m, -, h⟩ := Decoder.bind_eq_some h
    obtain ⟨value, m', -, h⟩ := Decoder.bind_eq_some h
    cases h
  | none =>
    have hmost : mostContentBits none = 32 + (2 ^ 32 - 1) := rfl
    have hdeclared := ofBits_lt ((l.drop (sequenceNumberBits isSequenced)).take 32)
    have htaken : ((l.drop (sequenceNumberBits isSequenced)).take 32).length ≤ 32 := List.length_take_le _ _
    have hlt := hdeclared.trans_le (Nat.pow_le_pow_right (by decide : 0 < 2) htaken)
    rw [frameDecoder_dynamic (by omega), if_pos (by rw [List.length_drop]; omega)] at h
    obtain ⟨read, -, heq⟩ := Option.map_eq_some_iff.mp h
    cases heq

section Waits

variable [Ballotin] {registry : ProtocolRegistry} {bytes : List UInt8}

/-- Fewer bytes than an identifier has, or than the longest frame of a registered protocol. -/
def PartOfFrame (registry : ProtocolRegistry) (bytes : List UInt8) : Prop :=
  bytes.length < 4 ∨ ∃ p, registry.Registered p ∧ bytes.length < p.longestFrame

theorem PartOfFrame.length_lt (h : PartOfFrame registry bytes) : bytes.length < 2 ^ 29 + 16 := by
  rcases h with hshort | ⟨p, -, hlt⟩
  · omega
  · exact hlt.trans_le p.longestFrame_le

theorem Waits.partOfFrame (h : Waits registry bytes) : PartOfFrame registry bytes := by
  refine h.imp_right ?_
  rintro ⟨p, rest, hstarts, hdecoder⟩
  refine ⟨p, hstarts.1, ?_⟩
  obtain ⟨read, hframe, hnone⟩ := Decoder.map_eq_some hdecoder
  obtain rfl : read = none := Option.map_eq_none_iff.mp hnone
  have hbits := frameDecoder_none hframe
  rw [List.length_drop, bytesToBits_length] at hbits
  unfold Protocol.longestFrame byteCount Protocol.mostBits
  omega

end Waits

/-- In every run of either backend in which identifiers do not repeat: a socket keeps less than one frame of what it has
received, and none of the answers. -/
theorem sockets_bounded [Ballotin] [LawfulBallotin] {registry : ProtocolRegistry} (hregistry : registry.Reachable) :
    (∀ l : Linux.EventLoop υ, l.Reachable registry → DistinctIdentifiers l.world.history →
      ∀ (id : SocketIdentifier) (s : Linux.Socket υ), l.world.sockets[id]? = some s →
        PartOfFrame registry s.inboundBytes ∧ s.inboundBytes.length < 2 ^ 29 + 16 ∧ s.outboundBytes = []) ∧
    ∀ l : Windows.OperationScheduler υ, l.Reachable registry → DistinctIdentifiers l.world.history →
      ∀ (id : SocketIdentifier) (s : Windows.Socket υ), l.world.sockets[id]? = some s →
        PartOfFrame registry s.inboundBytes ∧ s.inboundBytes.length < 2 ^ 29 + 16 ∧ s.outboundBytes = [] := by
  have hbounded : ∀ {received : ByteMeter} {inboxes : Inboxes υ} {id : SocketIdentifier} {inbound outbound : List UInt8},
      Inward registry received (fun _ => True) inboxes → inboxes.buffers id = some (inbound, outbound) →
        PartOfFrame registry inbound ∧ inbound.length < 2 ^ 29 + 16 ∧ outbound = [] := fun h hbuffers => by
    obtain ⟨-, hwaits, houtbound⟩ := h.waiting _ _ _ trivial hbuffers
    exact ⟨hwaits.partOfFrame, hwaits.partOfFrame.length_lt, houtbound⟩
  refine ⟨fun l hl hdistinct id s hs => ?_, fun l hl hdistinct id s hs => ?_⟩
  · obtain ⟨received, hreceived⟩ := hl.metered Linux.receivedGauge (fun _ => [])
    exact hbounded (hreceived.inward hregistry hdistinct) (Linux.SocketContainer.inboxes_some hs)
  · obtain ⟨transferred, htransferred⟩ := hl.metered
    exact hbounded (htransferred.inward hregistry hdistinct) (Windows.SocketContainer.inboxes_some hs)

theorem textSockets_bounded :
    (∃ s : Linux.Socket Unit, Linux.EventLoop.textLoop.world.sockets[1]? = some s ∧
      s.inboundBytes = [0, 0, 0, 7, 0] ∧ @PartOfFrame referenceBallotin pingRegistry s.inboundBytes) ∧
    ∃ s : Windows.Socket Unit, Windows.OperationScheduler.textScheduler.world.sockets[1]? = some s ∧
      s.inboundBytes = [0, 0, 0, 7, 0] ∧ @PartOfFrame referenceBallotin pingRegistry s.inboundBytes := by
  let _ := referenceBallotin
  have _ := referenceBallotin_lawful
  have hbounded := sockets_bounded (υ := Unit) pingRegistry_reachable
  refine ⟨⟨_, rfl, rfl, ?_⟩, _, rfl, rfl, ?_⟩
  · have hreachable : Linux.EventLoop.textLoop.Reachable pingRegistry :=
      (Linux.EventLoop.readableLoop_reachable pingRegistry _).step (.socketEvents _ _ [] rfl (by decide))
    exact (hbounded.1 _ hreachable (by decide) 1 _ rfl).1
  · obtain ⟨_, htext, -⟩ := Windows.OperationScheduler.textScheduler_metered
    exact (hbounded.2 _ htext.reachable (by decide) 1 _ rfl).1

end Farseer
