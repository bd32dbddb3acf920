import Mathlib

/-! Names shared by the whole library: the exceptions the code throws, its
identifiers and the events it reports. A `WTHROW` carries a wide message, a
`THROW` a narrow one; user code may also throw anything else. -/

namespace Farseer

/-- What is in flight after a `throw`. -/
inductive Exception
  | logicError (message : String)
  | runtimeError (message : String)
  | reservedNameError (message : String)
  | duplicateProtocolNameError (message : String)
  | invalidMapKeyError (message : String)
  | messageNameNotDefinedError (message : String)
  | protocolFieldSelfReferenceError (message : String)
  | duplicateFieldNameError (message : String)
  | protocolIdentifierAlreadyRegisteredError (message : String)
  | protocolNotRegisteredError (message : String)
  | protocolConsumerAlreadyRegisteredError (message : String)
  | requestProtocolError (errorCode : UInt32) (errorMessage : List UInt8)
  /-- an `InternalSocketError`, a wide exception -/
  | internalSocketError (message : String)
  /-- an `InternalSocketErrorWithCode`, a wide exception -/
  | internalSocketErrorWithCode (errorCode : ℕ)
  /-- a `SocketNotFoundError`, a wide exception -/
  | socketNotFoundError (message : String)
  /-- `std::bad_any_cast` -/
  | badAnyCast
  /-- any other `std::exception`, with the bytes of its `what()` -/
  | standard (what : List UInt8)
  /-- a thrown object of any other type -/
  | unknown
  /-- a reference to an erased object was used -/
  | danglingReference
  /-- a loop of the model ran out of fuel -/
  | outOfFuel
deriving DecidableEq

abbrev ProtocolIdentifier := UInt32

/-- `ProtocolSize` is a `uint32_t`; its addition wraps. -/
abbrev ProtocolSize := UInt32

/-- `ProtocolSequenceNumber` is a `uint64_t`. -/
abbrev ProtocolSequenceNumber := UInt64

/-- `SocketIdentifier` is an `unsigned long`; only a `Sequencer` computes with it. -/
abbrev SocketIdentifier := ℕ

def invalidSocketIdentifier : SocketIdentifier := 0

/-- Number of bytes read from a socket in a single receive call. -/
def maximumReceiveBufferSize : ℕ := 16384

inductive ProtocolType
  | message | request | response
deriving DecidableEq

inductive SocketEvent
  | serverOpen | serverClosed | serverAborted
  | clientOpen | clientBytesReceived | clientBytesSent | clientClosed | clientAborted
deriving DecidableEq

/-- The conversion of a container size, which throws when it does not fit. -/
def ProtocolSize.fromSizeType (size : ℕ) : Except Exception ProtocolSize :=
  if size < 2 ^ 32 then .ok (UInt32.ofNat size)
  else .error (.standard [])

end Farseer
