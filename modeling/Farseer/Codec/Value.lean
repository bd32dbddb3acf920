import Farseer.Codec.Refinement
import Farseer.Schema.Layout

/-! The values of the generated C++ types and the `BinarySerializer` that the compiler picks
for each. A generated struct serialises its fields in order. -/

namespace Farseer

open BitString

@[reducible] def KeyType.Value : KeyType → Type
  | .i32 => Int32
  | .i64 => Int64
  | .u32 => UInt32
  | .u64 => UInt64
  | .string => List UInt8

/-- The order of the keys: a string compares byte by byte. -/
def KeyType.compare : (k : KeyType) → k.Value → k.Value → Ordering
  | .i32 => fun a b => Ord.compare a b
  | .i64 => fun a b => Ord.compare a b
  | .u32 => fun a b => Ord.compare a b
  | .u64 => fun a b => Ord.compare a b
  | .string => fun a b => Ord.compare a b

instance (k : KeyType) : Std.TransCmp k.compare := by
  cases k <;> unfold KeyType.compare <;> infer_instance

instance (k : KeyType) : Std.LawfulEqCmp k.compare := by
  cases k <;> unfold KeyType.compare <;> infer_instance

def KeyType.sizesFit : (k : KeyType) → k.Value → Bool
  | .i32, _ | .i64, _ | .u32, _ | .u64, _ => true
  | .string, (bytes : List UInt8) => decide (bytes.length < 2 ^ 32)

mutual

@[reducible] def WireType.Value : WireType → Type
  | .i32 => Int32
  | .i64 => Int64
  | .u32 => UInt32
  | .u64 => UInt64
  | .string => List UInt8
  | .boolean => Bool
  | .list element => List element.Value
  | .map key value => Std.ExtTreeMap key.Value value.Value key.compare
  | .message fields => fields.Value

@[reducible] def WireFields.Value : WireFields → Type
  | .nil => Unit
  | .cons head tail => head.Value × tail.Value

end

def KeyType.serializer [Ballotin] : (k : KeyType) → BinarySerializer k.Value
  | .i32 => .int32
  | .i64 => .int64
  | .u32 => .uint32
  | .u64 => .uint64
  | .string => .string

mutual

def WireType.serializer [Ballotin] : (w : WireType) → BinarySerializer w.Value
  | .i32 => .int32
  | .i64 => .int64
  | .u32 => .uint32
  | .u64 => .uint64
  | .string => .string
  | .boolean => .bool
  | .list element => .vector element.serializer
  | .map key value => .map key.serializer value.serializer
  | .message fields => fields.serializer

/-- `deserializeHeaderless` and `serializeHeaderless` of a struct with these fields. -/
def WireFields.serializer [Ballotin] : (fields : WireFields) → BinarySerializer fields.Value
  | .nil =>
    { deserialize := fun _ => pure ()
      serialize := fun _ => pure () }
  | .cons head tail =>
    { deserialize := fun bytes => do
        let first ← head.serializer.deserialize bytes
        let rest ← tail.serializer.deserialize bytes
        return (first, rest)
      serialize := fun value => do
        head.serializer.serialize value.1
        tail.serializer.serialize value.2 }

end

def KeyType.codec : (k : KeyType) → Codec k.Value
  | .i32 => int32Codec
  | .i64 => int64Codec
  | .u32 => uint32Codec
  | .u64 => uint64Codec
  | .string => stringCodec

mutual

def WireType.codec : (w : WireType) → Codec w.Value
  | .i32 => int32Codec
  | .i64 => int64Codec
  | .u32 => uint32Codec
  | .u64 => uint64Codec
  | .string => stringCodec
  | .boolean => .flag
  | .list element => .counted 32 element.codec
  | .map key value => .treeMap 32 key.codec value.codec
  | .message fields => fields.codec

def WireFields.codec : (fields : WireFields) → Codec fields.Value
  | .nil => .unit
  | .cons head tail => .pair head.codec tail.codec

end

theorem KeyType.implements [Ballotin] [LawfulBallotin] : (k : KeyType) → Implements k.serializer k.codec
  | .i32 => implements_int32
  | .i64 => implements_int64
  | .u32 => implements_uint32
  | .u64 => implements_uint64
  | .string => implements_string

mutual

/-- The serialiser of every type implements its codec, by induction on the type. -/
theorem WireType.implements [Ballotin] [LawfulBallotin] : (w : WireType) → Implements w.serializer w.codec
  | .i32 => implements_int32
  | .i64 => implements_int64
  | .u32 => implements_uint32
  | .u64 => implements_uint64
  | .string => implements_string
  | .boolean => implements_bool
  | .list element => implements_sequence element.implements
  | .map key value => implements_map key.implements value.implements
  | .message fields => fields.implements

theorem WireFields.implements [Ballotin] [LawfulBallotin] :
    (fields : WireFields) → Implements fields.serializer fields.codec
  | .nil =>
    { reads := reads_pure ()
      writes := fun _ _ => writes_pure
      rejects := fun _ h => by cases h }
  | .cons head tail =>
    { reads := head.implements.reads.bind fun first =>
        tail.implements.reads.bind fun rest => reads_pure (first, rest)
      writes := writes_pair head.implements tail.implements
      rejects := rejects_pair head.implements tail.implements }

end

mutual

theorem WireType.fixed : (w : WireType) → w.isStatic = true → w.codec.Fixed w.staticBits
  | .i32, _ => fixed_int32
  | .i64, _ => fixed_int64
  | .u32, _ => fixed_uint32
  | .u64, _ => fixed_uint64
  | .boolean, _ => fixed_bool
  | .message fields, h => fields.fixed h

theorem WireFields.fixed : (fields : WireFields) → fields.isStatic = true → fields.codec.Fixed fields.staticBits
  | .nil, _ => Codec.fixed_unit
  | .cons head tail, h =>
    have hboth := Bool.and_eq_true_iff.mp h
    (head.fixed hboth.1).pair (tail.fixed hboth.2)

end

mutual

/-- Every string, list and map in the value has a size that fits `ProtocolSize`. -/
def WireType.sizesFit : (w : WireType) → w.Value → Bool
  | .i32, _ | .i64, _ | .u32, _ | .u64, _ | .boolean, _ => true
  | .string, (bytes : List UInt8) => decide (bytes.length < 2 ^ 32)
  | .list element, (elements : List element.Value) =>
    decide (elements.length < 2 ^ 32) && elements.all element.sizesFit
  | .map key value, (entries : Std.ExtTreeMap key.Value value.Value key.compare) =>
    decide (entries.size < 2 ^ 32) && entries.toList.all fun entry =>
      key.sizesFit entry.1 && value.sizesFit entry.2
  | .message fields, value => fields.sizesFit value

def WireFields.sizesFit : (fields : WireFields) → fields.Value → Bool
  | .nil, _ => true
  | .cons head tail, value => head.sizesFit value.1 && tail.sizesFit value.2

end

end Farseer
