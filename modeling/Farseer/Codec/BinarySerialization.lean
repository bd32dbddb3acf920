import Farseer.Common
import Farseer.Lib.Codec
import Farseer.Lib.Program

/-! `BinarySerializer`, one definition for each specialisation of the template. The bit
operations belong to ballotin: they are a parameter, with the laws the code relies on. -/

namespace Farseer

open BitString

/-- The bit operations of ballotin. Bits are numbers, most significant bit first. -/
class Ballotin where
  pushBitsMostSignificant (bytes : List UInt8) (bitsOffset bits numberOfBits : ℕ) : List UInt8 × ℕ
  getMostSignificantBits (bytes : List UInt8) (bitsOffset numberOfBits : ℕ) : Except Exception ℕ
  numberOfBitsToNumberOfBytes (numberOfBits : ℕ) : ℕ

/-- What the code relies on. A buffer that ends at its bit offset is the packing of a bit
string, and pushing continues that bit string. -/
class LawfulBallotin [Ballotin] : Prop where
  push : ∀ (l : List Bool) (v n : ℕ),
    Ballotin.pushBitsMostSignificant (packBits l) l.length v n = (packBits (l ++ toBits n v), l.length + n)
  get_ok : ∀ (bytes : List UInt8) (k n : ℕ), k + n ≤ 8 * bytes.length →
    Ballotin.getMostSignificantBits bytes k n = .ok (ofBits (((bytesToBits bytes).drop k).take n))
  get_error : ∀ (bytes : List UInt8) (k n : ℕ), 8 * bytes.length < k + n →
    ∃ e, Ballotin.getMostSignificantBits bytes k n = .error e
  numberOfBytes : ∀ n : ℕ, Ballotin.numberOfBitsToNumberOfBytes n = byteCount n

/-- Bit operations that satisfy the laws, for evaluating the code. -/
@[reducible] def referenceBallotin : Ballotin where
  pushBitsMostSignificant bytes bitsOffset bits numberOfBits :=
    (packBits ((bytesToBits bytes).take bitsOffset ++ toBits numberOfBits bits), bitsOffset + numberOfBits)
  getMostSignificantBits bytes bitsOffset numberOfBits :=
    if bitsOffset + numberOfBits ≤ 8 * bytes.length then
      .ok (ofBits (((bytesToBits bytes).drop bitsOffset).take numberOfBits))
    else .error (.standard [])
  numberOfBitsToNumberOfBytes := byteCount

theorem referenceBallotin_lawful : @LawfulBallotin referenceBallotin := by
  refine @LawfulBallotin.mk referenceBallotin ?_ ?_ ?_ fun n => rfl
  · intro l v n
    have htake : (bytesToBits (packBits l)).take l.length = l := by
      rw [bytesToBits_packBits, List.take_left]
    change (packBits (_ ++ toBits n v), _) = _
    rw [htake]
  · intro bytes k n h
    exact if_pos h
  · intro bytes k n h
    exact ⟨.standard [], if_neg (by omega)⟩

def bitsPerByte : ℕ := 8

/-- The two out parameters of `serialize`. -/
structure Buffer where
  bytes : List UInt8
  bitsOffset : ℕ
deriving DecidableEq

/-- A specialisation of `BinarySerializer`. `deserialize` advances a bit offset into bytes it
does not change. -/
structure BinarySerializer (T : Type) where
  deserialize : List UInt8 → EStateM Exception ℕ T
  serialize : T → EStateM Exception Buffer Unit

inductive Expected (T : Type)
  | fromSuccess (value : T)
  | fromFailure (errorCode : UInt32) (errorMessage : List UInt8)
deriving DecidableEq

namespace BinarySerializer

variable [Ballotin] {T K V : Type}

def getBits (bytes : List UInt8) (numberOfBits : ℕ) : EStateM Exception ℕ ℕ := do
  let bitsOffset ← get
  let bits ← Program.lift (Ballotin.getMostSignificantBits bytes bitsOffset numberOfBits)
  set (bitsOffset + numberOfBits)
  return bits

def pushBits (bits numberOfBits : ℕ) : EStateM Exception Buffer Unit :=
  modify fun buffer =>
    let (bytes, bitsOffset) := Ballotin.pushBitsMostSignificant buffer.bytes buffer.bitsOffset bits numberOfBits
    { bytes, bitsOffset }

/-- The specialisations for integers of `numberOfBits` bits, by way of the unsigned type. -/
def primitive (numberOfBits : ℕ) (toUnsigned : T → ℕ) (fromUnsigned : ℕ → T) : BinarySerializer T where
  deserialize bytes := do
    let bits ← getBits bytes numberOfBits
    return fromUnsigned bits
  serialize value := pushBits (toUnsigned value) numberOfBits

def uint8 : BinarySerializer UInt8 := primitive 8 UInt8.toNat UInt8.ofNat

def int32 : BinarySerializer Int32 := primitive 32 (·.toUInt32.toNat) fun bits => (UInt32.ofNat bits).toInt32

def int64 : BinarySerializer Int64 := primitive 64 (·.toUInt64.toNat) fun bits => (UInt64.ofNat bits).toInt64

def uint32 : BinarySerializer UInt32 := primitive 32 UInt32.toNat UInt32.ofNat

def uint64 : BinarySerializer UInt64 := primitive 64 UInt64.toNat UInt64.ofNat

def protocolIdentifier : BinarySerializer ProtocolIdentifier := uint32

def protocolSize : BinarySerializer ProtocolSize := uint32

def protocolSequenceNumber : BinarySerializer ProtocolSequenceNumber := uint64

def bool : BinarySerializer Bool := primitive 1 Bool.toNat (· != 0)

def deserializeElements (bytes : List UInt8) (element : BinarySerializer T) (numberOfElements : ProtocolSize) :
    EStateM Exception ℕ (List T) :=
  loopM (fun elements => do
    let value ← element.deserialize bytes
    return elements ++ [value]) numberOfElements.toNat []

/-- The specialisations for `std::string` and `std::vector`. -/
def sequence (element : BinarySerializer T) : BinarySerializer (List T) where
  deserialize bytes := do
    let numberOfElements ← protocolSize.deserialize bytes
    deserializeElements bytes element numberOfElements
  serialize elements := do
    let size ← Program.lift (ProtocolSize.fromSizeType elements.length)
    protocolSize.serialize size
    elements.forM element.serialize

def string : BinarySerializer (List UInt8) := sequence uint8

def vector (element : BinarySerializer T) : BinarySerializer (List T) := sequence element

def map {cmp : K → K → Ordering} [Std.TransCmp cmp] (key : BinarySerializer K) (value : BinarySerializer V) :
    BinarySerializer (Std.ExtTreeMap K V cmp) where
  deserialize bytes := do
    let numberOfElements ← protocolSize.deserialize bytes
    loopM (fun entries => do
      let k ← key.deserialize bytes
      let v ← value.deserialize bytes
      return entries.insertIfNew k v) numberOfElements.toNat ∅
  serialize entries := do
    let size ← Program.lift (ProtocolSize.fromSizeType entries.size)
    protocolSize.serialize size
    entries.toList.forM fun entry => do
      key.serialize entry.1
      value.serialize entry.2

def expected (success : BinarySerializer T) : BinarySerializer (Expected T) where
  deserialize bytes := do
    let isSuccess ← bool.deserialize bytes
    if isSuccess then do
      let value ← success.deserialize bytes
      return .fromSuccess value
    else do
      let errorCode ← uint32.deserialize bytes
      let errorMessage ← string.deserialize bytes
      return .fromFailure errorCode errorMessage
  serialize
    | .fromSuccess value => do
      bool.serialize true
      success.serialize value
    | .fromFailure errorCode errorMessage => do
      bool.serialize false
      uint32.serialize errorCode
      string.serialize errorMessage

end BinarySerializer

end Farseer
