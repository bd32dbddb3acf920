import Farseer.Codec.DecodedSize
import Farseer.Lib.Recoding

/-! What `deserialize` accepts can be serialised again. The bits that are appended are no more than those that were
read, and the same ones where there are no maps: entries are written in the order of their keys, and of the entries of
one key only the first one is kept. -/

namespace Farseer

open BitString

section Types

variable {S : List Bool → List Bool → Prop} (hS : Congruent S)

include hS

theorem recodes_uint8 : uint8Codec.Recodes S := Codec.recodes_word hS fun _ hv => UInt8.toNat_ofNat_of_lt hv

theorem recodes_int32 : int32Codec.Recodes S := Codec.recodes_word hS fun _ hv => UInt32.toNat_ofNat_of_lt hv

theorem recodes_int64 : int64Codec.Recodes S := Codec.recodes_word hS fun _ hv => UInt64.toNat_ofNat_of_lt hv

theorem recodes_uint32 : uint32Codec.Recodes S := Codec.recodes_word hS fun _ hv => UInt32.toNat_ofNat_of_lt hv

theorem recodes_uint64 : uint64Codec.Recodes S := Codec.recodes_word hS fun _ hv => UInt64.toNat_ofNat_of_lt hv

theorem recodes_string : stringCodec.Recodes S := (recodes_uint8 hS).counted hS 32

theorem KeyType.recodes : (k : KeyType) → k.codec.Recodes S
  | .i32 => recodes_int32 hS
  | .i64 => recodes_int64 hS
  | .u32 => recodes_uint32 hS
  | .u64 => recodes_uint64 hS
  | .string => recodes_string hS

end Types

mutual

/-- A map needs a relation that holds of all shorter bits, and its values any other one. -/
theorem WireType.recodes : (w : WireType) → ∀ {S : List Bool → List Bool → Prop}, Congruent S →
    (∀ key value, WireType.map key value ∈ w.types → Subrelation Shorter S) → w.codec.Recodes S
  | .i32, _, hS, _ => recodes_int32 hS
  | .i64, _, hS, _ => recodes_int64 hS
  | .u32, _, hS, _ => recodes_uint32 hS
  | .u64, _, hS, _ => recodes_uint64 hS
  | .string, _, hS, _ => recodes_string hS
  | .boolean, _, hS, _ => Codec.recodes_flag hS
  | .list element, _, hS, hmap =>
    (element.recodes hS fun key value h => hmap key value (List.mem_cons_of_mem _ h)).counted hS 32
  | .map key value, _, _, hmap => by
    have hvalue : value.codec.Recodes Shorter := value.recodes congruent_shorter fun _ _ _ _ _ h => h
    exact ((key.recodes congruent_shorter).treeMap hvalue 32).mono (hmap key value List.mem_cons_self)
  | .message fields, _, hS, hmap => fields.recodes hS fun key value h => hmap key value (List.mem_cons_of_mem _ h)

theorem WireFields.recodes : (fields : WireFields) → ∀ {S : List Bool → List Bool → Prop}, Congruent S →
    (∀ key value, WireType.map key value ∈ fields.types → Subrelation Shorter S) → fields.codec.Recodes S
  | .nil, _, hS, _ => Codec.recodes_unit hS
  | .cons head tail, _, hS, hmap =>
    (head.recodes hS fun key value h => hmap key value (List.mem_append_left _ h)).pair hS
      (tail.recodes hS fun key value h => hmap key value (List.mem_append_right _ h))

end

theorem CppType.recodes (T : CppType) {S : List Bool → List Bool → Prop} (hS : Congruent S)
    (hmap : ∀ key value, WireType.map key value ∈ T.types → Subrelation Shorter S) : T.codec.Recodes S := by
  cases T with
  | struct name fields => exact fields.recodes hS hmap
  | expected name fields =>
    exact ((fields.recodes hS hmap).choice hS ((recodes_uint32 hS).pair hS (recodes_string hS))).iso _

section Serializers

variable [Ballotin] [LawfulBallotin] {T : CppType} {bytes : List UInt8} {k k' : ℕ} {v : T.Value}

theorem CppType.deserialize_decoded (hk : k ≤ 8 * bytes.length) (h : T.serializer.deserialize bytes k = .ok v k') :
    k' ≤ 8 * bytes.length ∧ T.codec.decoder ((bytesToBits bytes).drop k) = some (v, (bytesToBits bytes).drop k') := by
  cases hdecoder : T.codec.decoder ((bytesToBits bytes).drop k) with
  | none =>
    obtain ⟨e, k'', herror⟩ := T.implements.reads.none hk hdecoder
    rw [herror] at h
    cases h
  | some read =>
    obtain ⟨value, rest⟩ := read
    obtain ⟨k'', hk'', rfl, hok⟩ := T.implements.reads.some hk hdecoder
    rw [hok] at h
    cases h
    exact ⟨hk'', rfl⟩

/-- A value that was read from any bytes and at any offset has sizes that fit, and it can be serialised. This appends at
most as many bits as were read, and the very same ones if the type has no maps; wherever they stand, the same value is
read back from them. -/
theorem deserialized_serializes (hk : k ≤ 8 * bytes.length) (h : T.serializer.deserialize bytes k = .ok v k') :
    T.sizesFit v = true ∧ k' ≤ 8 * bytes.length ∧
      ∃ bits : List Bool, Writes (T.serializer.serialize v) bits ∧ k + bits.length ≤ k' ∧
        ((∀ key value, WireType.map key value ∉ T.types) → bits = ((bytesToBits bytes).drop k).take (k' - k)) ∧
        ∀ received front rest, bytesToBits received = front ++ (bits ++ rest) →
          T.serializer.deserialize received front.length = .ok v (front.length + bits.length) := by
  obtain ⟨hk', hdecoder⟩ := CppType.deserialize_decoded hk h
  obtain ⟨hfits, p, hp, hshorter⟩ := T.recodes congruent_shorter (fun _ _ _ _ _ h => h) _ _ _ hdecoder
  have hlen : 8 * bytes.length - k = p.length + (8 * bytes.length - k') := by
    simpa only [List.length_append, List.length_drop, bytesToBits_length] using congrArg List.length hp
  refine ⟨by rw [← T.codec_fits, hfits], hk', T.codec.encode v, T.implements.writes v hfits, ?_, fun hmap => ?_,
    fun received front rest hreceived => T.implements.roundTrip hfits hreceived⟩
  · have hle : (T.codec.encode v).length ≤ p.length := hshorter
    omega
  · obtain ⟨-, q, hq, hsame⟩ := T.recodes congruent_eq (fun key value h => absurd h (hmap key value)) _ _ _ hdecoder
    obtain rfl : q = p := List.append_cancel_right (hq.symm.trans hp)
    rw [hsame, hq, List.take_left' (by omega)]

end Serializers

/-! A map of which a peer sent two entries of one key. -/

def flagsType : CppType := .struct "sample::Flags" (.cons (.map .u32 .boolean) .nil)

def flagsBytes : List UInt8 := [0, 0, 0, 2, 0, 0, 0, 5, 128, 0, 0, 2, 128]

def oneEntry (k : KeyType) (key : k.Value) (flag : Bool) : Std.ExtTreeMap k.Value Bool k.compare :=
  (∅ : Std.ExtTreeMap k.Value Bool k.compare).insertIfNew key flag

def twoEntries (k : KeyType) (key : k.Value) (first second : Bool) : Std.ExtTreeMap k.Value Bool k.compare :=
  (oneEntry k key first).insertIfNew key second

theorem twoEntries_eq (k : KeyType) (key : k.Value) (first second : Bool) :
    twoEntries k key first second = oneEntry k key first := by
  refine Std.ExtTreeMap.ext_getElem? fun {key'} => ?_
  simp [twoEntries, oneEntry, Std.ExtTreeMap.getElem?_insertIfNew]

def flagsValue : flagsType.Value := (oneEntry .u32 (5 : UInt32) true, ())

/-- Of the two entries the first one is there, and it can be serialised. -/
theorem flags_serializes : flagsType.sizesFit flagsValue = true ∧ ∃ bits : List Bool,
    Writes ((@CppType.serializer referenceBallotin flagsType).serialize flagsValue) bits ∧ 0 + bits.length ≤ 98 ∧
      ∀ received front rest, bytesToBits received = front ++ (bits ++ rest) →
        (@CppType.serializer referenceBallotin flagsType).deserialize received front.length =
          .ok flagsValue (front.length + bits.length) := by
  let _ := referenceBallotin
  have _ := referenceBallotin_lawful
  have hboth : flagsType.serializer.deserialize flagsBytes 0 =
      .ok (twoEntries .u32 (5 : UInt32) true false, ()) 98 := rfl
  have hread : flagsType.serializer.deserialize flagsBytes 0 = .ok flagsValue 98 := by
    rw [hboth, twoEntries_eq]
    rfl
  obtain ⟨hfits, -, bits, hwrites, hlen, -, hreads⟩ := deserialized_serializes (by decide) hread
  exact ⟨hfits, bits, hwrites, hlen, hreads⟩

end Farseer
