import Farseer.Codec.RoundTrip

/-! The templates of the generated code that write and read whole frames: an identifier, for
requests and responses a sequence number, for content without a static size the number of its
bits, and the content. -/

namespace Farseer

open BitString

/-- A `std::any`: empty, or a value with its type. -/
abbrev Any := Option ((T : CppType) × T.Value)

def Any.of (T : CppType) (value : T.Value) : Any := some ⟨T, value⟩

def anyCast (T : CppType) : Any → Except Exception T.Value
  | some ⟨S, value⟩ => if h : S = T then .ok (h ▸ value) else .error .badAnyCast
  | none => .error .badAnyCast

theorem anyCast_of (T : CppType) (value : T.Value) : anyCast T (.of T value) = .ok value := by
  rw [Any.of, anyCast, dif_pos rfl]

/-- What the generator writes into the `Metadata` of a struct. -/
structure Metadata where
  name : String
  fields : WireFields
  protocolIdentifier : ProtocolIdentifier
  hasStaticSize : Bool
  staticNumberOfBits : ProtocolSize
  sizes : SizesAgree fields.isStatic fields.staticBits hasStaticSize staticNumberOfBits

structure MessageProtocol where
  metadata : Metadata

structure RequestProtocol where
  metadata : Metadata
  response : Metadata

def Metadata.type (m : Metadata) : CppType := .struct m.name m.fields

def RequestProtocol.responseType (request : RequestProtocol) : CppType :=
  .expected request.response.name request.response.fields

section Templates

variable [Ballotin] {T : Type}

def appendTo (serialize : EStateM Exception Buffer Unit) : EStateM Exception (List UInt8) Unit := fun bytes =>
  match serialize { bytes, bitsOffset := bitsPerByte * bytes.length } with
  | .ok _ buffer => .ok () buffer.bytes
  | .error e buffer => .error e buffer.bytes

def serializeApart (s : BinarySerializer T) (value : T) : Except Exception Buffer :=
  match s.serialize value { bytes := [], bitsOffset := 0 } with
  | .ok _ buffer => .ok buffer
  | .error e _ => .error e

/-- The branch for content without a static size. -/
def serializeDynamic (s : BinarySerializer T) (value : T) : EStateM Exception Buffer Unit := do
  let dynamic ← Program.lift (serializeApart s value)
  let dynamicNumberOfBits ← Program.lift (ProtocolSize.fromSizeType dynamic.bitsOffset)
  BinarySerializer.protocolSize.serialize dynamicNumberOfBits
  dynamic.bytes.forM fun byte => BinarySerializer.pushBits byte.toNat bitsPerByte

/-- A message has no sequence number. -/
def serializeSequenceNumber : Option ProtocolSequenceNumber → EStateM Exception Buffer Unit
  | some sequenceNumber => BinarySerializer.protocolSequenceNumber.serialize sequenceNumber
  | none => pure ()

/-- The template that the `serializeWithHeader` of messages, requests and responses share. -/
def serializeWithHeaderTemplate (identifier : ProtocolIdentifier) (sequenceNumber : Option ProtocolSequenceNumber)
    (hasStaticSize : Bool) (s : BinarySerializer T) (value : T) : EStateM Exception (List UInt8) Unit :=
  appendTo do
    BinarySerializer.protocolIdentifier.serialize identifier
    serializeSequenceNumber sequenceNumber
    if hasStaticSize then s.serialize value else serializeDynamic s value

def MessageProtocol.serializeWithHeader (p : MessageProtocol) (message : p.metadata.type.Value) :
    EStateM Exception (List UInt8) Unit :=
  serializeWithHeaderTemplate p.metadata.protocolIdentifier none p.metadata.hasStaticSize
    p.metadata.type.serializer message

def RequestProtocol.serializeWithHeader (p : RequestProtocol) (request : p.metadata.type.Value)
    (sequenceNumber : ProtocolSequenceNumber) : EStateM Exception (List UInt8) Unit :=
  serializeWithHeaderTemplate p.metadata.protocolIdentifier (some sequenceNumber) p.metadata.hasStaticSize
    p.metadata.type.serializer request

/-- A response never has a static size. -/
def RequestProtocol.serializeResponseWithHeader (p : RequestProtocol) (response : Any)
    (sequenceNumber : ProtocolSequenceNumber) : EStateM Exception (List UInt8) Unit := do
  let casted ← Program.lift (anyCast p.responseType response)
  serializeWithHeaderTemplate p.response.protocolIdentifier (some sequenceNumber) false
    p.responseType.serializer casted

/-- A message has no sequence number; its frame is read as if the number were zero. -/
def deserializeSequenceNumber (isSequenced : Bool) (bytes : List UInt8) :
    EStateM Exception ℕ ProtocolSequenceNumber :=
  if isSequenced then BinarySerializer.protocolSequenceNumber.deserialize bytes else pure 0

def sequenceNumberBits (isSequenced : Bool) : ℕ := if isSequenced then bitsPerByte * 8 else 0

/-- The template that the `tryDeserializeWithHeader` of messages, requests and responses share,
with the static size or `none`. It starts behind the identifier and returns `none` for `false`. -/
def tryDeserializeWithHeaderTemplate (isSequenced : Bool) (staticNumberOfBits : Option ProtocolSize)
    (s : BinarySerializer T) (bytes : List UInt8) :
    EStateM Exception ℕ (Option (ProtocolSequenceNumber × T)) := do
  let bitsOffset ← get
  match staticNumberOfBits with
  | some staticNumberOfBits =>
    if bitsPerByte * bytes.length ≥ bitsOffset + sequenceNumberBits isSequenced + staticNumberOfBits.toNat then do
      let sequenceNumber ← deserializeSequenceNumber isSequenced bytes
      let value ← s.deserialize bytes
      return some (sequenceNumber, value)
    else return none
  | none =>
    if bitsPerByte * bytes.length ≥ bitsOffset + sequenceNumberBits isSequenced + bitsPerByte * 4 then do
      let sequenceNumber ← deserializeSequenceNumber isSequenced bytes
      let dynamicNumberOfBits ← BinarySerializer.protocolSize.deserialize bytes
      let bitsOffset ← get
      if bitsPerByte * bytes.length ≥ bitsOffset + dynamicNumberOfBits.toNat then do
        let value ← s.deserialize bytes
        return some (sequenceNumber, value)
      else return none
    else return none

def Metadata.staticSize (m : Metadata) : Option ProtocolSize :=
  if m.hasStaticSize then some m.staticNumberOfBits else none

def MessageProtocol.tryDeserializeWithHeader (p : MessageProtocol) (bytes : List UInt8) :
    EStateM Exception ℕ (Option Any) := do
  let result ← tryDeserializeWithHeaderTemplate false p.metadata.staticSize p.metadata.type.serializer bytes
  return result.map fun (_, message) => .of p.metadata.type message

def RequestProtocol.tryDeserializeWithHeader (p : RequestProtocol) (bytes : List UInt8) :
    EStateM Exception ℕ (Option (ProtocolSequenceNumber × Any)) := do
  let result ← tryDeserializeWithHeaderTemplate true p.metadata.staticSize p.metadata.type.serializer bytes
  return result.map fun (sequenceNumber, request) => (sequenceNumber, .of p.metadata.type request)

def RequestProtocol.tryDeserializeResponseWithHeader (p : RequestProtocol) (bytes : List UInt8) :
    EStateM Exception ℕ (Option (ProtocolSequenceNumber × Any)) := do
  let result ← tryDeserializeWithHeaderTemplate true none p.responseType.serializer bytes
  return result.map fun (sequenceNumber, response) => (sequenceNumber, .of p.responseType response)

end Templates

inductive Protocol
  | message (p : MessageProtocol)
  | request (p : RequestProtocol)
  | response (p : RequestProtocol)

namespace Protocol

def identifier : Protocol → ProtocolIdentifier
  | .message p => p.metadata.protocolIdentifier
  | .request p => p.metadata.protocolIdentifier
  | .response p => p.response.protocolIdentifier

def type : Protocol → CppType
  | .message p => p.metadata.type
  | .request p => p.metadata.type
  | .response p => p.responseType

def isSequenced : Protocol → Bool
  | .message _ => false
  | .request _ | .response _ => true

/-- The static size of its content; a response has none. -/
def staticSize : Protocol → Option ProtocolSize
  | .message p => p.metadata.staticSize
  | .request p => p.metadata.staticSize
  | .response _ => none

/-- The `tryDeserializeWithHeader` of the protocol. A message leaves the sequence number zero. -/
def tryDeserializeWithHeader [Ballotin] : Protocol → List UInt8 →
    EStateM Exception ℕ (Option (ProtocolSequenceNumber × Any))
  | .message p, bytes => do
    let message ← p.tryDeserializeWithHeader bytes
    return message.map fun message => (0, message)
  | .request p, bytes => p.tryDeserializeWithHeader bytes
  | .response p, bytes => p.tryDeserializeResponseWithHeader bytes

end Protocol

end Farseer
