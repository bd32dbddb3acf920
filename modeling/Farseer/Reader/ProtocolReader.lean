import Farseer.Codec.Frame

/-! `ProtocolRegistry` and `ProtocolReader`. User code runs in the state `υ`, of which nothing
is known; a consumer may do to it what it wants and may throw. -/

namespace Farseer

/-- The function pointers of a registered protocol; `none` is `nullptr`. -/
structure ProtocolDescriptor where
  protocolType : ProtocolType
  messageWithHeaderDeserializer : Option (List UInt8 → EStateM Exception ℕ (Option Any))
  sequencedProtocolWithHeaderDeserializer :
    Option (List UInt8 → EStateM Exception ℕ (Option (ProtocolSequenceNumber × Any)))
  responseWithHeaderSerializer : Option (Any → ProtocolSequenceNumber → EStateM Exception (List UInt8) Unit)

structure ProtocolRegistry where
  protocolDescriptors : Std.ExtTreeMap ProtocolIdentifier ProtocolDescriptor

namespace ProtocolRegistry

def isProtocolRegistered (registry : ProtocolRegistry) (identifier : ProtocolIdentifier) : Bool :=
  registry.protocolDescriptors.contains identifier

def getProtocolDescriptor (registry : ProtocolRegistry) (identifier : ProtocolIdentifier) :
    Except Exception ProtocolDescriptor :=
  match registry.protocolDescriptors[identifier]? with
  | some descriptor => .ok descriptor
  | none => .error (.protocolNotRegisteredError
      ("No protocol descriptor is registered with identifier " ++ toString identifier))

variable [Ballotin]

def messageDescriptor (p : MessageProtocol) : ProtocolDescriptor where
  protocolType := .message
  messageWithHeaderDeserializer := some p.tryDeserializeWithHeader
  sequencedProtocolWithHeaderDeserializer := none
  responseWithHeaderSerializer := none

def requestDescriptor (p : RequestProtocol) : ProtocolDescriptor where
  protocolType := .request
  messageWithHeaderDeserializer := none
  sequencedProtocolWithHeaderDeserializer := some p.tryDeserializeWithHeader
  responseWithHeaderSerializer := some p.serializeResponseWithHeader

def responseDescriptor (p : RequestProtocol) : ProtocolDescriptor where
  protocolType := .response
  messageWithHeaderDeserializer := none
  sequencedProtocolWithHeaderDeserializer := some p.tryDeserializeResponseWithHeader
  responseWithHeaderSerializer := none

/-- `std::map::insert` of a descriptor, which throws when the identifier is taken. -/
def insertDescriptor (identifier : ProtocolIdentifier) (descriptor : ProtocolDescriptor) :
    EStateM Exception ProtocolRegistry Unit := do
  let registry ← get
  if registry.protocolDescriptors.contains identifier then
    throw (.protocolIdentifierAlreadyRegisteredError
      ("A protocol is already registered with identifier " ++ toString identifier))
  else
    set { registry with protocolDescriptors := registry.protocolDescriptors.insert identifier descriptor }

def registerMessageProtocol (p : MessageProtocol) : EStateM Exception ProtocolRegistry Unit :=
  insertDescriptor p.metadata.protocolIdentifier (messageDescriptor p)

def registerRequestProtocol (p : RequestProtocol) : EStateM Exception ProtocolRegistry Unit := do
  insertDescriptor p.metadata.protocolIdentifier (requestDescriptor p)
  Program.scopeFailure
    (fun registry => { registry with
      protocolDescriptors := registry.protocolDescriptors.erase p.metadata.protocolIdentifier })
    (insertDescriptor p.response.protocolIdentifier (responseDescriptor p))

end ProtocolRegistry

/-- A `UniqueFunction<void(std::any&&)>`. -/
abbrev Consumer (υ : Type) := Any → EStateM Exception υ Unit

/-- A `UniqueFunction<std::any(std::any&&)>`. -/
abbrev RequestConsumer (υ : Type) := Any → EStateM Exception υ Any

structure ProtocolReader (υ : Type) where
  inboundMessageConsumers : Std.ExtTreeMap ProtocolIdentifier (Consumer υ)
  inboundRequestConsumers : Std.ExtTreeMap ProtocolIdentifier (RequestConsumer υ)
  inboundOneShotResponseConsumers : Std.ExtTreeMap ProtocolSequenceNumber (Consumer υ)

namespace ProtocolReader

variable {υ : Type}

def new : ProtocolReader υ where
  inboundMessageConsumers := ∅
  inboundRequestConsumers := ∅
  inboundOneShotResponseConsumers := ∅

def registerInboundMessageConsumer (registry : ProtocolRegistry) (messageIdentifier : ProtocolIdentifier)
    (messageConsumer : Consumer υ) : EStateM Exception (ProtocolReader υ) Unit := do
  let reader ← get
  if !registry.isProtocolRegistered messageIdentifier then
    throw (.protocolNotRegisteredError
      ("No message protocol is registered with identifier " ++ toString messageIdentifier))
  else if !reader.inboundMessageConsumers.contains messageIdentifier then
    set { reader with
      inboundMessageConsumers := reader.inboundMessageConsumers.insert messageIdentifier messageConsumer }
  else
    throw (.protocolConsumerAlreadyRegisteredError
      ("Another protocol consumer is already registered with identifier " ++ toString messageIdentifier))

def registerInboundRequestConsumer (registry : ProtocolRegistry) (requestIdentifier : ProtocolIdentifier)
    (requestConsumer : RequestConsumer υ) : EStateM Exception (ProtocolReader υ) Unit := do
  let reader ← get
  if !registry.isProtocolRegistered requestIdentifier then
    throw (.protocolNotRegisteredError
      ("No request protocol is registered with identifier " ++ toString requestIdentifier))
  else if !reader.inboundRequestConsumers.contains requestIdentifier then
    set { reader with
      inboundRequestConsumers := reader.inboundRequestConsumers.insert requestIdentifier requestConsumer }
  else
    throw (.protocolConsumerAlreadyRegisteredError
      ("Another protocol consumer is already registered with identifier " ++ toString requestIdentifier))

def registerInboundOneShotResponseConsumer (sequenceNumber : ProtocolSequenceNumber)
    (responseConsumer : Consumer υ) : EStateM Exception (ProtocolReader υ) Unit := do
  let reader ← get
  if !reader.inboundOneShotResponseConsumers.contains sequenceNumber then
    set { reader with
      inboundOneShotResponseConsumers :=
        reader.inboundOneShotResponseConsumers.insert sequenceNumber responseConsumer }
  else
    throw (.protocolConsumerAlreadyRegisteredError
      ("Another response consumer is already registered with sequence number " ++ toString sequenceNumber))

/-! A registration changes one table, or throws and changes nothing. -/

variable (reader : ProtocolReader υ)

theorem registerInboundMessageConsumer_cases (registry : ProtocolRegistry) (p : ProtocolIdentifier)
    (consumer : Consumer υ) :
    (reader.inboundMessageConsumers.contains p = false ∧
        registerInboundMessageConsumer registry p consumer reader =
          .ok () { reader with
            inboundMessageConsumers := reader.inboundMessageConsumers.insert p consumer }) ∨
      ∃ e, registerInboundMessageConsumer registry p consumer reader = .error e reader := by
  rw [registerInboundMessageConsumer, Program.bind_ok Program.get_apply]
  split_ifs with hregistered hfree
  · exact .inr ⟨_, rfl⟩
  · exact .inl ⟨by simpa using hfree, rfl⟩
  · exact .inr ⟨_, rfl⟩

theorem registerInboundRequestConsumer_final (registry : ProtocolRegistry) (p : ProtocolIdentifier)
    (consumer : RequestConsumer υ) (reader : ProtocolReader υ) : ∃ inboundRequestConsumers,
    Program.final (registerInboundRequestConsumer registry p consumer reader) =
      { reader with inboundRequestConsumers } := by
  rw [registerInboundRequestConsumer, Program.bind_ok Program.get_apply]
  split_ifs
  · exact ⟨reader.inboundRequestConsumers, rfl⟩
  · exact ⟨_, rfl⟩
  · exact ⟨reader.inboundRequestConsumers, rfl⟩

theorem registerInboundOneShotResponseConsumer_cases (n : ProtocolSequenceNumber) (consumer : Consumer υ) :
    (reader.inboundOneShotResponseConsumers.contains n = false ∧
        registerInboundOneShotResponseConsumer n consumer reader =
          .ok () { reader with
            inboundOneShotResponseConsumers := reader.inboundOneShotResponseConsumers.insert n consumer }) ∨
      ∃ e, registerInboundOneShotResponseConsumer n consumer reader = .error e reader := by
  rw [registerInboundOneShotResponseConsumer, Program.bind_ok Program.get_apply]
  split_ifs with hfree
  · exact .inl ⟨by simpa using hfree, rfl⟩
  · exact .inr ⟨_, rfl⟩

end ProtocolReader

/-- A frame that was read, with the consumer that was called with its value, if there was one. -/
inductive Arrival (υ : Type)
  | message (identifier : ProtocolIdentifier) (message : Any) (consumer : Option (Consumer υ))
  | request (identifier : ProtocolIdentifier) (sequenceNumber : ProtocolSequenceNumber) (request : Any)
      (consumer : Option (RequestConsumer υ))
  | response (identifier : ProtocolIdentifier) (sequenceNumber : ProtocolSequenceNumber) (response : Any)
      (consumer : Option (Consumer υ))

/-- All that `readInboundBytes` can change. The list of the frames it read is kept beside the
variables of the source. -/
structure Reading (υ : Type) where
  reader : ProtocolReader υ
  inboundBytes : List UInt8
  inboundBitsOffset : ℕ
  outboundBytes : List UInt8
  user : υ
  arrivals : List (Arrival υ)

namespace Reading

variable {υ : Type}

def onUser {α : Type} (x : EStateM Exception υ α) : EStateM Exception (Reading υ) α :=
  Program.zoom Reading.user (fun user s => { s with user }) x

def onOutboundBytes {α : Type} (x : EStateM Exception (List UInt8) α) : EStateM Exception (Reading υ) α :=
  Program.zoom Reading.outboundBytes (fun outboundBytes s => { s with outboundBytes }) x

/-- Call a deserialiser with a copy of the offset, and return the copy with the result. -/
def deserialize {α : Type} (deserializer : List UInt8 → EStateM Exception ℕ α) (bitsOffset : ℕ) :
    EStateM Exception (Reading υ) (α × ℕ) := fun s =>
  match deserializer s.inboundBytes bitsOffset with
  | .ok a bitsOffset => .ok (a, bitsOffset) s
  | .error e _ => .error e s

def callPointer {α : Type} (pointer : Option α) : EStateM Exception (Reading υ) α :=
  match pointer with
  | some f => pure f
  | none => throw .danglingReference

def record (arrival : Arrival υ) : EStateM Exception (Reading υ) Unit :=
  modify fun s => { s with arrivals := s.arrivals ++ [arrival] }

def wrapInTryCatchAndInvoke (consumer : Consumer υ) (protocol : Any) : EStateM Exception (Reading υ) Unit :=
  Program.catchAll (onUser (consumer protocol))

/-! The functions `readInbound...` first try to read a frame, and return the advanced offset for
`true`. What they do with a frame that was read are the functions `consume...`. -/

def consumeMessage (messageIdentifier : ProtocolIdentifier) (message : Any) :
    EStateM Exception (Reading υ) Unit := do
  let s ← get
  match s.reader.inboundMessageConsumers[messageIdentifier]? with
  | some consumer => do
    record (.message messageIdentifier message (some consumer))
    wrapInTryCatchAndInvoke consumer message
  | none => record (.message messageIdentifier message none)

def readInboundMessage (messageIdentifier : ProtocolIdentifier) (messageDescriptor : ProtocolDescriptor)
    (inboundBitsOffset : ℕ) : EStateM Exception (Reading υ) (Option ℕ) := do
  let deserializer ← callPointer messageDescriptor.messageWithHeaderDeserializer
  let (message, inboundBitsOffset) ← deserialize deserializer inboundBitsOffset
  match message with
  | some message => do
    consumeMessage messageIdentifier message
    return some inboundBitsOffset
  | none => return none

def consumeRequest (requestIdentifier : ProtocolIdentifier) (requestDescriptor : ProtocolDescriptor)
    (sequenceNumber : ProtocolSequenceNumber) (request : Any) : EStateM Exception (Reading υ) Unit := do
  let s ← get
  match s.reader.inboundRequestConsumers[requestIdentifier]? with
  | some consumer => do
    record (.request requestIdentifier sequenceNumber request (some consumer))
    let response ← onUser (consumer request)
    let serializer ← callPointer requestDescriptor.responseWithHeaderSerializer
    onOutboundBytes (serializer response sequenceNumber)
  | none => record (.request requestIdentifier sequenceNumber request none)

def readInboundRequest (requestIdentifier : ProtocolIdentifier) (requestDescriptor : ProtocolDescriptor)
    (inboundBitsOffset : ℕ) : EStateM Exception (Reading υ) (Option ℕ) := do
  let deserializer ← callPointer requestDescriptor.sequencedProtocolWithHeaderDeserializer
  let (read, inboundBitsOffset) ← deserialize deserializer inboundBitsOffset
  match read with
  | some (sequenceNumber, request) => do
    consumeRequest requestIdentifier requestDescriptor sequenceNumber request
    return some inboundBitsOffset
  | none => return none

def eraseOneShot (sequenceNumber : ProtocolSequenceNumber) (s : Reading υ) : Reading υ :=
  { s with reader := { s.reader with
      inboundOneShotResponseConsumers := s.reader.inboundOneShotResponseConsumers.erase sequenceNumber } }

def consumeResponse (responseIdentifier : ProtocolIdentifier) (sequenceNumber : ProtocolSequenceNumber)
    (response : Any) : EStateM Exception (Reading υ) Unit := do
  let s ← get
  match s.reader.inboundOneShotResponseConsumers[sequenceNumber]? with
  | some consumer => do
    record (.response responseIdentifier sequenceNumber response (some consumer))
    Program.scopeExit (eraseOneShot sequenceNumber) (wrapInTryCatchAndInvoke consumer response)
  | none => record (.response responseIdentifier sequenceNumber response none)

def readInboundResponse (responseIdentifier : ProtocolIdentifier) (responseDescriptor : ProtocolDescriptor)
    (inboundBitsOffset : ℕ) : EStateM Exception (Reading υ) (Option ℕ) := do
  let deserializer ← callPointer responseDescriptor.sequencedProtocolWithHeaderDeserializer
  let (read, inboundBitsOffset) ← deserialize deserializer inboundBitsOffset
  match read with
  | some (sequenceNumber, response) => do
    consumeResponse responseIdentifier sequenceNumber response
    return some inboundBitsOffset
  | none => return none

def readInbound (identifier : ProtocolIdentifier) (descriptor : ProtocolDescriptor) (inboundBitsOffset : ℕ) :
    EStateM Exception (Reading υ) (Option ℕ) :=
  match descriptor.protocolType with
  | .message => readInboundMessage identifier descriptor inboundBitsOffset
  | .request => readInboundRequest identifier descriptor inboundBitsOffset
  | .response => readInboundResponse identifier descriptor inboundBitsOffset

variable [Ballotin]

/-- The `while` loop of `readInboundBytes`. A turn that goes on moves at least over an
identifier, so the loop takes no more turns than there are bytes. -/
def readLoop (registry : ProtocolRegistry) : ℕ → EStateM Exception (Reading υ) Unit
  | 0 => throw .outOfFuel
  | fuel + 1 => do
    let s ← get
    if s.inboundBytes.length ≥ s.inboundBitsOffset / bitsPerByte + 4 then do
      let (identifier, localInboundBitsOffset) ←
        deserialize BinarySerializer.protocolIdentifier.deserialize s.inboundBitsOffset
      let descriptor ← Program.lift (registry.getProtocolDescriptor identifier)
      let consumed ← readInbound identifier descriptor localInboundBitsOffset
      match consumed with
      | some localInboundBitsOffset => do
        modify fun s => { s with
          inboundBitsOffset := bitsPerByte * Ballotin.numberOfBitsToNumberOfBytes localInboundBitsOffset }
        readLoop registry fuel
      | none => pure ()
    else pure ()

/-- The guard of `readInboundBytes`. The offset is a local variable, whose life ends here. -/
def eraseInboundBytes (s : Reading υ) : Reading υ :=
  { s with inboundBytes := s.inboundBytes.drop (s.inboundBitsOffset / bitsPerByte), inboundBitsOffset := 0 }

def readInboundBytes (registry : ProtocolRegistry) : EStateM Exception (Reading υ) Unit := do
  modify fun s => { s with inboundBitsOffset := 0 }
  let s ← get
  Program.scopeExit eraseInboundBytes (readLoop registry (s.inboundBytes.length + 1))

end Reading

end Farseer
