import Farseer.Codec.Frame

/-! What the size declared in a frame's header decides. The templates use it only to wait for
the frame: the content is decoded from the bits that have arrived, and its own counts say where
it ends. -/

namespace Farseer

open BitString

/-- The bits between the identifier and the content of a frame with a dynamic size. -/
def Protocol.headerBits (p : Protocol) : ℕ := sequenceNumberBits p.isSequenced + 32

/-- `dynamicNumberOfBits` of the frame whose header starts at the offset. -/
def Protocol.declaredSize (p : Protocol) (bytes : List UInt8) (bitsOffset : ℕ) : ℕ :=
  ofBits (((bytesToBits bytes).drop (bitsOffset + sequenceNumberBits p.isSequenced)).take 32)

/-- The header and as many bits as it declares have arrived. -/
def Protocol.Arrived (p : Protocol) (bytes : List UInt8) (bitsOffset : ℕ) : Prop :=
  bitsOffset + p.headerBits + p.declaredSize bytes bitsOffset ≤ 8 * bytes.length

def SameBits (bytes received : List UInt8) (m n : ℕ) : Prop :=
  ∀ i, m ≤ i → i < n → (bytesToBits received)[i]? = (bytesToBits bytes)[i]?

theorem SameBits.drop {bytes received : List UInt8} {m : ℕ} {l rest : List Bool}
    (h : SameBits bytes received m (m + l.length)) (hl : (bytesToBits bytes).drop m = l ++ rest) :
    ∃ rest', (bytesToBits received).drop m = l ++ rest' := by
  have hstart : l <+: (bytesToBits received).drop m := by
    rw [List.prefix_iff_getElem?]
    intro i hi
    rw [List.getElem?_drop, h (m + i) (by omega) (by omega), ← List.getElem?_drop, hl,
      List.getElem?_append_left hi, List.getElem?_eq_getElem hi]
  obtain ⟨rest', hrest'⟩ := hstart
  exact ⟨rest', hrest'.symm⟩

theorem frontSequenceNumber_append {isSequenced : Bool} {l : List Bool}
    (h : sequenceNumberBits isSequenced ≤ l.length) (m : List Bool) :
    frontSequenceNumber isSequenced (l ++ m) = frontSequenceNumber isSequenced l := by
  cases isSequenced with
  | false => rfl
  | true =>
    have h64 : 64 ≤ l.length := h
    rw [frontSequenceNumber, frontSequenceNumber, List.take_append_of_le_length h64]

theorem decoder_dynamic {p : Protocol} {bytes : List UInt8} {k : ℕ} (hdynamic : p.staticSize = none)
    (hk : k + p.headerBits ≤ 8 * bytes.length) :
    p.decoder ((bytesToBits bytes).drop k) =
      if p.declaredSize bytes k ≤ 8 * bytes.length - (k + p.headerBits) then
        (p.type.codec.decoder ((bytesToBits bytes).drop (k + p.headerBits))).map fun read =>
          (some (p.result (frontSequenceNumber p.isSequenced ((bytesToBits bytes).drop k), read.1)), read.2)
      else some (none, (bytesToBits bytes).drop (k + p.headerBits)) := by
  have hlen : sequenceNumberBits p.isSequenced + 32 ≤ ((bytesToBits bytes).drop k).length := by
    unfold Protocol.headerBits at hk
    rw [List.length_drop, bytesToBits_length]
    omega
  rw [Protocol.decoder, hdynamic, Decoder.map_apply, frameDecoder_dynamic hlen, List.drop_drop, List.drop_drop,
    List.length_drop, bytesToBits_length]
  unfold Protocol.declaredSize Protocol.headerBits
  split_ifs
  · rw [Option.map_map]
    rfl
  · rfl

section Reading

variable [Ballotin] {p : Protocol} {bytes : List UInt8} {k : ℕ}

theorem tryDeserializeWithHeader_short (hdynamic : p.staticSize = none)
    (hk : 8 * bytes.length < k + p.headerBits) : p.tryDeserializeWithHeader bytes k = .ok none k := by
  have htemplate : tryDeserializeWithHeaderTemplate p.isSequenced none p.type.serializer bytes k = .ok none k := by
    unfold tryDeserializeWithHeaderTemplate
    rw [Program.bind_ok Program.get_apply]
    exact congrFun (if_neg (by unfold Protocol.headerBits at hk; unfold bitsPerByte; omega)) k
  rw [p.tryDeserializeWithHeader_eq, hdynamic, Program.bind_ok htemplate]
  rfl

variable [LawfulBallotin]

theorem tryDeserializeWithHeader_long (hdynamic : p.staticSize = none)
    (hk : k + p.headerBits ≤ 8 * bytes.length) :
    (¬ p.Arrived bytes k → ∃ k', p.tryDeserializeWithHeader bytes k = .ok none k') ∧
    (p.Arrived bytes k → p.type.codec.decoder ((bytesToBits bytes).drop (k + p.headerBits)) = none →
      ∃ e k', p.tryDeserializeWithHeader bytes k = .error e k') ∧
    (p.Arrived bytes k → ∀ v rest,
      p.type.codec.decoder ((bytesToBits bytes).drop (k + p.headerBits)) = some (v, rest) →
      p.tryDeserializeWithHeader bytes k =
        .ok (some (p.result (frontSequenceNumber p.isSequenced ((bytesToBits bytes).drop k), v)))
          (8 * bytes.length - rest.length)) := by
  have hdecoder := decoder_dynamic hdynamic hk
  have hkle : k ≤ 8 * bytes.length := by omega
  refine ⟨fun hwait => ?_, fun harrived hnone => ?_, fun harrived v rest hsome => ?_⟩
  · rw [if_neg (by unfold Protocol.Arrived at hwait; omega)] at hdecoder
    obtain ⟨k', -, -, hok⟩ := p.reads.some hkle hdecoder
    exact ⟨k', hok⟩
  · rw [if_pos (by unfold Protocol.Arrived at harrived; omega), hnone] at hdecoder
    exact p.reads.none hkle hdecoder
  · rw [if_pos (by unfold Protocol.Arrived at harrived; omega), hsome] at hdecoder
    obtain ⟨k', hk', hrest, hok⟩ := p.reads.some hkle hdecoder
    have hlen : 8 * bytes.length - k' = rest.length := by
      rw [← bytesToBits_length, ← List.length_drop, hrest]
    rw [hok, show 8 * bytes.length - rest.length = k' by omega]

end Reading

/-- What it means that a frame with a dynamic size was accepted: what the content calls for through its own counts was
decoded behind the header, and the rest of the bits starts at the new offset. -/
structure ContentRead [Ballotin] (p : Protocol) (bytes : List UInt8) (bitsOffset : ℕ)
    (result : ProtocolSequenceNumber × Any) (newBitsOffset : ℕ) : Prop where
  arrived : p.Arrived bytes bitsOffset
  content : ∃ v rest, p.type.codec.decoder ((bytesToBits bytes).drop (bitsOffset + p.headerBits)) = some (v, rest) ∧
    result = p.result (frontSequenceNumber p.isSequenced ((bytesToBits bytes).drop bitsOffset), v) ∧
    bitsOffset + p.headerBits ≤ newBitsOffset ∧ newBitsOffset + rest.length = 8 * bytes.length
  /-- the frame is read the same way in every buffer that has the same header and content, as
  soon as the bits that the header declares have arrived -/
  own_bits : ∀ received, SameBits bytes received bitsOffset newBitsOffset → p.Arrived received bitsOffset →
    p.tryDeserializeWithHeader received bitsOffset = .ok (some result) newBitsOffset

section Claim

variable [Ballotin] [LawfulBallotin] {p : Protocol} {bytes : List UInt8} {k : ℕ}

theorem contentRead_of_decoder (hdynamic : p.staticSize = none) (hk : k + p.headerBits ≤ 8 * bytes.length)
    (harrived : p.Arrived bytes k) {v : p.type.Value} {rest : List Bool}
    (hv : p.type.codec.decoder ((bytesToBits bytes).drop (k + p.headerBits)) = some (v, rest)) :
    ContentRead p bytes k (p.result (frontSequenceNumber p.isSequenced ((bytesToBits bytes).drop k), v))
      (8 * bytes.length - rest.length) := by
  obtain ⟨content, hcontent, hreread⟩ := p.type.codec.isLocal _ _ _ hv
  have hlen := congrArg List.length hcontent
  rw [List.length_drop, bytesToBits_length, List.length_append] at hlen
  refine ⟨harrived, ⟨v, rest, hv, rfl, by omega, by omega⟩, fun received hsame harrived' => ?_⟩
  -- header and content are the same, so both sides decode the same content
  have hheader : (((bytesToBits bytes).drop k).take p.headerBits).length = p.headerBits := by
    rw [List.length_take, List.length_drop, bytesToBits_length]
    omega
  generalize hh : ((bytesToBits bytes).drop k).take p.headerBits = header at hheader
  have hsplit : (bytesToBits bytes).drop k = header ++ content ++ rest := by
    rw [List.append_assoc, ← hcontent, ← hh, ← List.drop_drop, List.take_append_drop]
  obtain ⟨rest', hrest'⟩ := SameBits.drop (by
    rw [List.length_append, hheader]
    rwa [show k + (p.headerBits + content.length) = 8 * bytes.length - rest.length by omega]) hsplit
  have hlong : k + p.headerBits ≤ 8 * received.length := by
    unfold Protocol.Arrived at harrived'
    omega
  have hdrop : (bytesToBits received).drop (k + p.headerBits) = content ++ rest' := by
    rw [← List.drop_drop, hrest', List.append_assoc, List.drop_left' hheader]
  have hread := (tryDeserializeWithHeader_long hdynamic hlong).2.2 harrived' v rest' (by rw [hdrop, hreread])
  have hlen' : 8 * received.length - k = header.length + content.length + rest'.length := by
    rw [← bytesToBits_length, ← List.length_drop, hrest', List.length_append, List.length_append]
  have hfront : sequenceNumberBits p.isSequenced ≤ header.length := by
    rw [hheader]
    unfold Protocol.headerBits
    omega
  rw [hread, hsplit, hrest', List.append_assoc, List.append_assoc, frontSequenceNumber_append hfront,
    frontSequenceNumber_append hfront, show 8 * received.length - rest'.length = 8 * bytes.length - rest.length by omega]

theorem tryDeserializeWithHeader_written (hdynamic : p.staticSize = none) (hk : k + p.headerBits ≤ 8 * bytes.length)
    {v : p.type.Value} (hv : p.type.codec.fits v = true) {tail : List Bool}
    (hcontent : (bytesToBits bytes).drop (k + p.headerBits) = p.type.codec.encode v ++ tail)
    (hsize : p.declaredSize bytes k = (p.type.codec.encode v).length) :
    p.tryDeserializeWithHeader bytes k =
      .ok (some (p.result (frontSequenceNumber p.isSequenced ((bytesToBits bytes).drop k), v)))
        (k + p.headerBits + p.declaredSize bytes k) := by
  have hlen := congrArg List.length hcontent
  rw [List.length_drop, bytesToBits_length, List.length_append] at hlen
  have harrived : p.Arrived bytes k := by
    unfold Protocol.Arrived
    omega
  have hdecoder : p.type.codec.decoder ((bytesToBits bytes).drop (k + p.headerBits)) = some (v, tail) := by
    rw [hcontent]
    exact p.type.codec.inverts v hv tail
  rw [(tryDeserializeWithHeader_long hdynamic hk).2.2 harrived v tail hdecoder,
    show 8 * bytes.length - tail.length = k + p.headerBits + p.declaredSize bytes k by omega]

/-- A frame with a dynamic size, in any buffer and at any offset. It is accepted exactly if the bits it declares have
arrived and content can be decoded behind its header; then it reads its own header and content alone and ends where its
content ends, which is the declared end if the content is as long as declared. It is rejected by an exception exactly if
the bits it declares have arrived and no content can be decoded from the bits that have. -/
theorem tryDeserializeWithHeader_dynamic (p : Protocol) (hdynamic : p.staticSize = none) (bytes : List UInt8)
    (k : ℕ) :
    (∀ result k', p.tryDeserializeWithHeader bytes k = .ok (some result) k' ↔ ContentRead p bytes k result k') ∧
    (∀ (v : p.type.Value) (tail : List Bool), k + p.headerBits ≤ 8 * bytes.length → p.type.codec.fits v = true →
      (bytesToBits bytes).drop (k + p.headerBits) = p.type.codec.encode v ++ tail →
      p.declaredSize bytes k = (p.type.codec.encode v).length →
      p.tryDeserializeWithHeader bytes k =
        .ok (some (p.result (frontSequenceNumber p.isSequenced ((bytesToBits bytes).drop k), v)))
          (k + p.headerBits + p.declaredSize bytes k)) ∧
    ((∃ e k', p.tryDeserializeWithHeader bytes k = .error e k') ↔
      p.Arrived bytes k ∧ p.type.codec.decoder ((bytesToBits bytes).drop (k + p.headerBits)) = none) := by
  have hsame : ∀ result k', ContentRead p bytes k result k' → p.tryDeserializeWithHeader bytes k = .ok (some result) k' :=
    fun result k' h => h.own_bits bytes (fun _ _ _ => rfl) h.arrived
  refine ⟨fun result k' => ⟨fun h => ?_, hsame result k'⟩,
    fun v tail hk hv hcontent hsize => tryDeserializeWithHeader_written hdynamic hk hv hcontent hsize,
    fun ⟨e, k', h⟩ => ?_, fun ⟨harrived, hnone⟩ => ?_⟩
  · rcases Nat.lt_or_ge (8 * bytes.length) (k + p.headerBits) with hk | hk
    · cases (tryDeserializeWithHeader_short hdynamic hk).symm.trans h
    obtain ⟨hwait, hfail, hread⟩ := tryDeserializeWithHeader_long (p := p) hdynamic hk
    by_cases harrived : p.Arrived bytes k
    · cases hdec : p.type.codec.decoder ((bytesToBits bytes).drop (k + p.headerBits)) with
      | none =>
        obtain ⟨e, k'', herror⟩ := hfail harrived hdec
        cases herror.symm.trans h
      | some read =>
        obtain ⟨v, rest⟩ := read
        cases (hread harrived v rest hdec).symm.trans h
        exact contentRead_of_decoder hdynamic hk harrived hdec
    · obtain ⟨k'', hnone⟩ := hwait harrived
      cases hnone.symm.trans h
  · rcases Nat.lt_or_ge (8 * bytes.length) (k + p.headerBits) with hk | hk
    · cases (tryDeserializeWithHeader_short hdynamic hk).symm.trans h
    obtain ⟨hwait, -, hread⟩ := tryDeserializeWithHeader_long (p := p) hdynamic hk
    by_cases harrived : p.Arrived bytes k
    · refine ⟨harrived, Option.eq_none_iff_forall_not_mem.mpr fun ⟨v, rest⟩ hdec => ?_⟩
      cases (hread harrived v rest hdec).symm.trans h
    · obtain ⟨k'', hnone⟩ := hwait harrived
      cases hnone.symm.trans h
  · have hk : k + p.headerBits ≤ 8 * bytes.length := by
      unfold Protocol.Arrived at harrived
      omega
    exact (tryDeserializeWithHeader_long hdynamic hk).2.1 harrived hnone

end Claim

/-! A message of one string, in a frame that declares no bits for it. -/

def noteProtocol : MessageProtocol where
  metadata :=
    { name := "sample::Note", fields := .cons .string .nil, protocolIdentifier := 7, hasStaticSize := false
      staticNumberOfBits := 0, sizes := ⟨rfl, fun h => by cases h⟩ }

def noteBytes : List UInt8 := [0, 0, 0, 0, 0, 0, 0, 1, 97]

/-- The content is read past the declared end of its frame. -/
theorem note_exceeds_declaredSize :
    ¬ ∀ (p : Protocol) (bytes : List UInt8) (k k' : ℕ) (result : ProtocolSequenceNumber × Any),
      p.staticSize = none → 8 ∣ k →
      @Protocol.tryDeserializeWithHeader referenceBallotin p bytes k = .ok (some result) k' →
      k' = k + p.headerBits + p.declaredSize bytes k := by
  intro h
  have hread := h (.message noteProtocol) noteBytes 0 72 (0, .of noteProtocol.metadata.type ([97], ())) rfl
    (by decide) rfl
  revert hread
  decide

theorem note_contentRead : @ContentRead referenceBallotin (.message noteProtocol) noteBytes 0
    (0, .of noteProtocol.metadata.type ([97], ())) 72 :=
  ((@tryDeserializeWithHeader_dynamic referenceBallotin referenceBallotin_lawful (.message noteProtocol) rfl noteBytes
    0).1 (0, .of noteProtocol.metadata.type ([97], ())) 72).mp rfl

end Farseer
