import Farseer.Codec.DeclaredSize
import Farseer.Codec.StaticSize

/-! How large a decoded value can be. The counts of elements come from the peer, but every element takes bits of its own,
so no count can be larger than what was sent. The exception is a message without bits: any number of them fits into the
32 bits of their count. -/

namespace Farseer

open BitString

mutual

/-- No value of the type has any bits: it is a message of messages of no fields. -/
def WireType.isEmpty : WireType → Bool
  | .message fields => fields.isEmpty
  | _ => false

def WireFields.isEmpty : WireFields → Bool
  | .nil => true
  | .cons head tail => head.isEmpty && tail.isEmpty

end

def KeyType.elements : (k : KeyType) → k.Value → ℕ
  | .i32, _ | .i64, _ | .u32, _ | .u64, _ => 0
  | .string, (bytes : List UInt8) => bytes.length

section Elements

variable (counted : WireType → Bool)

mutual

/-- The elements of the lists, the entries of the maps and the characters of the strings in a value; of the lists only
those whose type of elements is counted. -/
def WireType.elements : (w : WireType) → w.Value → ℕ
  | .i32, _ | .i64, _ | .u32, _ | .u64, _ | .boolean, _ => 0
  | .string, (bytes : List UInt8) => bytes.length
  | .list element, (elements : List element.Value) =>
    (elements.map fun value => (counted element).toNat + element.elements value).sum
  | .map key value, (entries : Std.ExtTreeMap key.Value value.Value key.compare) =>
    (entries.toList.map fun entry => 1 + key.elements entry.1 + value.elements entry.2).sum
  | .message fields, value => fields.elements value

def WireFields.elements : (fields : WireFields) → fields.Value → ℕ
  | .nil, _ => 0
  | .cons head tail, value => head.elements value.1 + tail.elements value.2

end

def CppType.elements : (T : CppType) → T.Value → ℕ
  | .struct _ fields, value => fields.elements counted value
  | .expected _ fields, .fromSuccess value => fields.elements counted value
  | .expected _ _, .fromFailure _ errorMessage => errorMessage.length

end Elements

def WireType.takesBits (w : WireType) : Bool := !w.isEmpty

theorem paysFor_int32 : PaysFor int32Codec.decoder 0 fun _ => 32 := Codec.paysFor_word 32 _ _ _ _

theorem paysFor_int64 : PaysFor int64Codec.decoder 0 fun _ => 64 := Codec.paysFor_word 64 _ _ _ _

theorem paysFor_uint32 : PaysFor uint32Codec.decoder 0 fun _ => 32 := Codec.paysFor_word 32 _ _ _ _

theorem paysFor_uint64 : PaysFor uint64Codec.decoder 0 fun _ => 64 := Codec.paysFor_word 64 _ _ _ _

theorem paysFor_bool : PaysFor Codec.flag.decoder 0 fun _ => 1 := Codec.paysFor_word 1 _ _ _ _

theorem paysFor_string : PaysFor stringCodec.decoder 0 fun bytes => 32 + 8 * bytes.length := by
  have hbyte : PaysFor uint8Codec.decoder 0 fun _ => 8 := Codec.paysFor_word 8 _ _ _ _
  refine (Codec.paysFor_counted 32 hbyte).weaken fun bytes => ?_
  rw [List.map_const', List.sum_replicate_nat]
  omega

theorem KeyType.paysFor (k : KeyType) : PaysFor k.codec.decoder 0 fun value => 1 + k.elements value := by
  cases k with
  | i32 => exact paysFor_int32.weaken fun _ => by simp [KeyType.elements]
  | i64 => exact paysFor_int64.weaken fun _ => by simp [KeyType.elements]
  | u32 => exact paysFor_uint32.weaken fun _ => by simp [KeyType.elements]
  | u64 => exact paysFor_uint64.weaken fun _ => by simp [KeyType.elements]
  | string => exact paysFor_string.weaken fun bytes => by simp only [KeyType.elements]; omega

mutual

/-- A value pays for its elements, and, if its type takes bits at all, for being an element itself. -/
theorem WireType.paysFor : (w : WireType) →
    PaysFor w.codec.decoder 0 fun value => w.takesBits.toNat + w.elements WireType.takesBits value
  | .i32 => paysFor_int32.weaken fun _ => by simp [WireType.elements, WireType.takesBits, WireType.isEmpty]
  | .i64 => paysFor_int64.weaken fun _ => by simp [WireType.elements, WireType.takesBits, WireType.isEmpty]
  | .u32 => paysFor_uint32.weaken fun _ => by simp [WireType.elements, WireType.takesBits, WireType.isEmpty]
  | .u64 => paysFor_uint64.weaken fun _ => by simp [WireType.elements, WireType.takesBits, WireType.isEmpty]
  | .boolean => paysFor_bool.weaken fun _ => by simp [WireType.elements, WireType.takesBits, WireType.isEmpty]
  | .string => paysFor_string.weaken fun bytes => by
      simp only [WireType.elements, WireType.takesBits, WireType.isEmpty, Bool.not_false, Bool.toNat_true]
      omega
  | .list element => (Codec.paysFor_counted 32 element.paysFor).weaken fun elements => by
      simp only [WireType.elements, WireType.takesBits, WireType.isEmpty, Bool.not_false, Bool.toNat_true]
      omega
  | .map key value => by
    have hvalue : PaysFor value.codec.decoder 0 fun v => value.elements WireType.takesBits v :=
      value.paysFor.weaken fun v => by omega
    refine (Codec.paysFor_treeMap 32 (Codec.paysFor_pair key.paysFor hvalue)).weaken fun entries => ?_
    simp only [WireType.elements, WireType.takesBits, WireType.isEmpty, Bool.not_false, Bool.toNat_true]
    omega
  | .message fields => fields.paysFor

theorem WireFields.paysFor : (fields : WireFields) →
    PaysFor fields.codec.decoder 0 fun value => (!fields.isEmpty).toNat + fields.elements WireType.takesBits value
  | .nil => paysFor_pure le_rfl
  | .cons head tail => (Codec.paysFor_pair head.paysFor tail.paysFor).weaken fun value => by
      simp only [WireFields.elements, WireFields.isEmpty, WireType.takesBits]
      cases head.isEmpty <;> cases tail.isEmpty <;> simp <;> omega

end

theorem CppType.paysFor (T : CppType) : PaysFor T.codec.decoder 0 fun value => T.elements WireType.takesBits value := by
  cases T with
  | struct name fields => exact fields.paysFor.weaken fun value => by simp only [CppType.elements]; omega
  | expected name fields =>
    refine (Codec.paysFor_choice fields.paysFor (Codec.paysFor_pair paysFor_uint32 paysFor_string)).map fun x => ?_
    cases x with
    | inl value => exact Nat.le_add_left _ _
    | inr failure =>
      change failure.2.length ≤ 32 + (32 + 8 * failure.2.length)
      omega

mutual

theorem WireType.elements_eq : (w : WireType) → (∀ element, WireType.list element ∈ w.types → element.takesBits = true) →
    ∀ value : w.Value, w.elements (fun _ => true) value = w.elements WireType.takesBits value
  | .i32, _, _ | .i64, _, _ | .u32, _, _ | .u64, _, _ | .boolean, _, _ | .string, _, _ => rfl
  | .list element, h, elements => by
    obtain ⟨hself, hinside⟩ : element.takesBits = true ∧
        ∀ e, WireType.list e ∈ element.types → e.takesBits = true :=
      ⟨h element List.mem_cons_self, fun e he => h e (List.mem_cons_of_mem _ he)⟩
    simp only [WireType.elements, hself, element.elements_eq hinside]
  | .map key value, h, entries => by
    have hinside : ∀ e, WireType.list e ∈ value.types → e.takesBits = true :=
      fun e he => h e (List.mem_cons_of_mem _ he)
    simp only [WireType.elements, value.elements_eq hinside]
  | .message fields, h, value => fields.elements_eq (fun e he => h e (List.mem_cons_of_mem _ he)) value

theorem WireFields.elements_eq : (fields : WireFields) →
    (∀ element, WireType.list element ∈ fields.types → element.takesBits = true) →
    ∀ value : fields.Value, fields.elements (fun _ => true) value = fields.elements WireType.takesBits value
  | .nil, _, _ => rfl
  | .cons head tail, h, value => by
    have hhead := head.elements_eq (fun e he => h e (List.mem_append_left _ he)) value.1
    have htail := tail.elements_eq (fun e he => h e (List.mem_append_right _ he)) value.2
    simp only [WireFields.elements, hhead, htail]

end

/-- The types that occur in the content of a frame. -/
def CppType.types : CppType → List WireType
  | .struct _ fields | .expected _ fields => fields.types

theorem CppType.elements_eq {T : CppType} (h : ∀ element, WireType.list element ∈ T.types → element.takesBits = true)
    (value : T.Value) : T.elements (fun _ => true) value = T.elements WireType.takesBits value := by
  cases T with
  | struct name fields => exact fields.elements_eq h value
  | expected name fields =>
    cases value with
    | fromSuccess value => exact fields.elements_eq h value
    | fromFailure errorCode errorMessage => rfl

theorem paysFor_frame {T : Type} {c : Codec T} {size : T → ℕ} (hc : PaysFor c.decoder 0 size) (isSequenced : Bool)
    (staticNumberOfBits : Option ProtocolSize) :
    PaysFor (frameDecoder isSequenced staticNumberOfBits c) 0 fun read => read.elim 0 fun r => size r.2 := by
  have hnumber : PaysFor (sequenceNumberDecoder isSequenced) 0 fun _ => 0 := by
    cases isSequenced with
    | false => exact paysFor_pure le_rfl
    | true => exact paysFor_uint64.weaken fun _ => Nat.zero_le _
  have hnone : PaysFor (pure none : Decoder (Option (ProtocolSequenceNumber × T))) 0 fun read => read.elim 0 fun r => size r.2 :=
    paysFor_pure le_rfl
  have hvalue (n : ProtocolSequenceNumber) : PaysFor (c.decoder >>= fun value => pure (some (n, value))) 0
      fun read => read.elim 0 fun r => size r.2 := hc.bind fun value => paysFor_pure le_rfl
  cases staticNumberOfBits with
  | some staticNumberOfBits => exact .ifAvailable (hnumber.bind hvalue) hnone _
  | none =>
    have hsize : PaysFor (field 32) 0 fun _ => 0 := (paysFor_field 32).weaken fun _ => Nat.zero_le _
    exact .ifAvailable (hnumber.bind fun n => hsize.bind fun declared => .ifAvailable (hvalue n) hnone _) hnone _

section Claim

variable [Ballotin] [LawfulBallotin] {p : Protocol} {bytes : List UInt8} {k k' : ℕ}
  {result : ProtocolSequenceNumber × Any}

omit [LawfulBallotin] in
theorem tryDeserializeWithHeader_inside (h : p.tryDeserializeWithHeader bytes k = .ok (some result) k') :
    k ≤ 8 * bytes.length := by
  by_contra hk
  have hnone : p.tryDeserializeWithHeader bytes k = .ok none k := by
    cases hstatic : p.staticSize with
    | some n => exact tryDeserializeWithHeader_missing hstatic (by omega)
    | none => exact tryDeserializeWithHeader_short hstatic (by omega)
  rw [hnone] at h
  cases h

/-- The decoded value has no more list elements, map entries and string characters than bits were taken, if the
elements of a list count where their type takes bits; if all lists are of such types then all elements count. -/
theorem decodedSize_bounded (h : p.tryDeserializeWithHeader bytes k = .ok (some result) k') :
    ∃ value : p.type.Value, result.2 = .of p.type value ∧
      k + p.type.elements WireType.takesBits value ≤ k' ∧
      ((∀ element, WireType.list element ∈ p.type.types → element.takesBits = true) →
        k + p.type.elements (fun _ => true) value ≤ k') := by
  have hk := tryDeserializeWithHeader_inside h
  cases hdecoder : p.decoder ((bytesToBits bytes).drop k) with
  | none =>
    obtain ⟨e, k'', herror⟩ := p.reads.none hk hdecoder
    rw [herror] at h
    cases h
  | some taken =>
    obtain ⟨read, rest⟩ := taken
    obtain ⟨k'', hk'', hrest, hok⟩ := p.reads.some hk hdecoder
    rw [hok] at h
    cases h
    obtain ⟨a, ha, hresult⟩ := Decoder.map_eq_some hdecoder
    obtain ⟨r, rfl, rfl⟩ := Option.map_eq_some_iff.mp hresult
    have hpaid := paysFor_frame p.type.paysFor p.isSequenced p.staticSize _ _ _ ha
    rw [← hrest, List.length_drop, List.length_drop, bytesToBits_length] at hpaid
    have hbound : k + p.type.elements WireType.takesBits r.2 ≤ k' := by
      dsimp only [Option.elim] at hpaid
      omega
    exact ⟨r.2, rfl, hbound, fun hall => by rwa [CppType.elements_eq hall]⟩

end Claim

/-- One character is decoded from 72 bits. -/
theorem note_bounded : ∃ value : noteProtocol.metadata.type.Value,
    Any.of noteProtocol.metadata.type ([97], ()) = .of noteProtocol.metadata.type value ∧
      0 + noteProtocol.metadata.type.elements (fun _ => true) value ≤ 72 := by
  obtain ⟨value, hvalue, -, hbound⟩ := @decodedSize_bounded referenceBallotin referenceBallotin_lawful
    (.message noteProtocol) noteBytes 0 72 (0, .of noteProtocol.metadata.type ([97], ())) rfl
  exact ⟨value, hvalue, hbound fun element h => by
    have hstring : WireType.list element ∈ [WireType.string] := h
    cases List.mem_singleton.mp hstring⟩

/-! A schema with a list of messages without fields. -/

def holderText : String :=
  "namespace dansandu.farseer.sample; message Empty { } message Holder { list<Empty> items; }"

def holderNodes : List Node :=
  [.token ⟨.namespace, 0, 9⟩, .token ⟨.module, 10, 33⟩, .token ⟨.semicolon, 33, 34⟩, .rule 2, .rule 5,
    .token ⟨.message, 35, 42⟩, .token ⟨.name, 43, 48⟩, .token ⟨.bracesBegin, 49, 50⟩, .rule 10,
    .token ⟨.bracesEnd, 51, 52⟩, .rule 6, .rule 3, .token ⟨.message, 53, 60⟩, .token ⟨.name, 61, 67⟩,
    .token ⟨.bracesBegin, 68, 69⟩, .rule 10, .token ⟨.list, 70, 74⟩, .token ⟨.angleBracketBegin, 74, 75⟩,
    .token ⟨.name, 75, 80⟩, .rule 19, .token ⟨.angleBracketEnd, 80, 81⟩, .rule 17, .token ⟨.name, 82, 87⟩,
    .token ⟨.semicolon, 87, 88⟩, .rule 9, .token ⟨.bracesEnd, 89, 90⟩, .rule 6, .rule 3, .rule 1, .rule 0]

def holderItems : FieldDefinition := { typeDefinition := .list (.message "Empty" true 0), name := "items" }

def holderSchema : ProtocolDefinition where
  fileNamespace := "dansandu.farseer.sample"
  messages := [{ fileNamespace := "dansandu.farseer.sample", name := "Empty", fields := [] },
    { fileNamespace := "dansandu.farseer.sample", name := "Holder", fields := [holderItems] }]
  requests := []

theorem holderNodes_accepted : parseProtocolDefinition (fun _ => .ok holderNodes) holderText = .ok holderSchema := by
  decide +kernel

def holderMetadata : Metadata where
  name := "dansandu::farseer::sample::Holder"
  fields := .cons (.list (.message .nil)) .nil
  protocolIdentifier := 8
  hasStaticSize := false
  staticNumberOfBits := 0
  sizes := ⟨rfl, fun h => by cases h⟩

/-- The size of the content and the number of elements, and nothing else. -/
def holderBytes : List UInt8 := [0, 0, 0, 32, 0, 0, 0, 100]

/-- A hundred elements are decoded from 64 bits. -/
theorem holder_unbounded : ¬ ∀ (glyph : String → Except Exception (List Node)) (text : String)
    (protocol : ProtocolDefinition) (layout : ProtocolLayout), parseProtocolDefinition glyph text = .ok protocol →
    protocol.expand = some layout → ∀ fields ∈ protocol.parts, ∀ w, expandFields layout.messages fields = some w →
    ∀ m : Metadata, m.GeneratedFor fields w → ∀ p, m.Frames p → ∀ (bytes : List UInt8) (k k' : ℕ)
    (result : ProtocolSequenceNumber × Any) (value : p.type.Value),
    @Protocol.tryDeserializeWithHeader referenceBallotin p bytes k = .ok (some result) k' →
    result.2 = .of p.type value → k + p.type.elements (fun _ => true) value ≤ k' := by
  intro h
  obtain ⟨layout, hlayout⟩ := accepted_layout holderNodes_accepted
  have hexpand := hlayout.expand
  obtain rfl : layout = { messages := [("Empty", .nil), ("Holder", holderMetadata.fields)], requests := [] } :=
    Option.some_inj.mp (hexpand.symm.trans (by decide))
  have hbound := h _ _ _ _ holderNodes_accepted hexpand [holderItems] (by decide) holderMetadata.fields (by decide)
    holderMetadata ⟨rfl, rfl, rfl⟩ (.message ⟨holderMetadata⟩) (.inl rfl) holderBytes 0 64
    (0, .of holderMetadata.type (List.replicate 100 (), ())) (List.replicate 100 (), ()) rfl rfl
  revert hbound
  decide

end Farseer
