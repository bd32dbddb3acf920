import Farseer.Reader.ProtocolReader

/-! The calls that fill the registry. A call puts all its descriptors or none, and a descriptor has the functions that
its type needs and no others, so that a reader can read with the functions in place of the pointers. -/

namespace Farseer

abbrev MessageWithHeaderDeserializer := List UInt8 → EStateM Exception ℕ (Option Any)

abbrev SequencedProtocolWithHeaderDeserializer :=
  List UInt8 → EStateM Exception ℕ (Option (ProtocolSequenceNumber × Any))

abbrev ResponseWithHeaderSerializer := Any → ProtocolSequenceNumber → EStateM Exception (List UInt8) Unit

/-- A protocol with the functions that its type needs. -/
inductive RegisteredProtocol
  | message (deserializer : MessageWithHeaderDeserializer)
  | request (deserializer : SequencedProtocolWithHeaderDeserializer) (serializer : ResponseWithHeaderSerializer)
  | response (deserializer : SequencedProtocolWithHeaderDeserializer)

def RegisteredProtocol.descriptor : RegisteredProtocol → ProtocolDescriptor
  | .message deserializer =>
    { protocolType := .message
      messageWithHeaderDeserializer := some deserializer
      sequencedProtocolWithHeaderDeserializer := none
      responseWithHeaderSerializer := none }
  | .request deserializer serializer =>
    { protocolType := .request
      messageWithHeaderDeserializer := none
      sequencedProtocolWithHeaderDeserializer := some deserializer
      responseWithHeaderSerializer := some serializer }
  | .response deserializer =>
    { protocolType := .response
      messageWithHeaderDeserializer := none
      sequencedProtocolWithHeaderDeserializer := some deserializer
      responseWithHeaderSerializer := none }

/-- The two private functions of the registry. The public ones give them the static functions of a generated struct,
which are never null. -/
inductive RegistryCall
  | registerMessageProtocol (identifier : ProtocolIdentifier) (deserializer : MessageWithHeaderDeserializer)
  | registerRequestProtocol (requestIdentifier : ProtocolIdentifier)
      (requestDeserializer : SequencedProtocolWithHeaderDeserializer) (responseIdentifier : ProtocolIdentifier)
      (responseDeserializer : SequencedProtocolWithHeaderDeserializer)
      (responseSerializer : ResponseWithHeaderSerializer)

namespace RegistryCall

def execute : RegistryCall → EStateM Exception ProtocolRegistry Unit
  | .registerMessageProtocol identifier deserializer =>
    ProtocolRegistry.insertDescriptor identifier (RegisteredProtocol.message deserializer).descriptor
  | .registerRequestProtocol requestIdentifier requestDeserializer responseIdentifier responseDeserializer
      responseSerializer => do
    ProtocolRegistry.insertDescriptor requestIdentifier
      (RegisteredProtocol.request requestDeserializer responseSerializer).descriptor
    Program.scopeFailure
      (fun registry => { registry with protocolDescriptors := registry.protocolDescriptors.erase requestIdentifier })
      (ProtocolRegistry.insertDescriptor responseIdentifier
        (RegisteredProtocol.response responseDeserializer).descriptor)

def run (calls : List RegistryCall) : ProtocolRegistry :=
  calls.foldl (fun registry call => Program.final (call.execute registry)) ⟨∅⟩

section Generated

variable [Ballotin]

def ofMessage (p : MessageProtocol) : RegistryCall :=
  .registerMessageProtocol p.metadata.protocolIdentifier p.tryDeserializeWithHeader

def ofRequest (p : RequestProtocol) : RegistryCall :=
  .registerRequestProtocol p.metadata.protocolIdentifier p.tryDeserializeWithHeader p.response.protocolIdentifier
    p.tryDeserializeResponseWithHeader p.serializeResponseWithHeader

theorem execute_ofMessage (p : MessageProtocol) :
    (ofMessage p).execute = ProtocolRegistry.registerMessageProtocol p := rfl

theorem execute_ofRequest (p : RequestProtocol) :
    (ofRequest p).execute = ProtocolRegistry.registerRequestProtocol p := rfl

end Generated

end RegistryCall

namespace ProtocolRegistry

/-- Nothing was overwritten or removed, and what is new has the functions that its type needs. -/
structure Extends (registry registry' : ProtocolRegistry) : Prop where
  kept : ∀ (identifier : ProtocolIdentifier) (descriptor : ProtocolDescriptor),
    registry.protocolDescriptors[identifier]? = some descriptor →
      registry'.protocolDescriptors[identifier]? = some descriptor
  added : ∀ (identifier : ProtocolIdentifier) (descriptor : ProtocolDescriptor),
    registry'.protocolDescriptors[identifier]? = some descriptor →
      registry.protocolDescriptors[identifier]? = some descriptor ∨ ∃ p : RegisteredProtocol, descriptor = p.descriptor

theorem Extends.refl (registry : ProtocolRegistry) : registry.Extends registry where
  kept _ _ h := h
  added _ _ h := .inl h

theorem Extends.trans {registry registry' registry'' : ProtocolRegistry} (h : registry.Extends registry')
    (h' : registry'.Extends registry'') : registry.Extends registry'' where
  kept identifier descriptor hlookup := h'.kept identifier descriptor (h.kept identifier descriptor hlookup)
  added identifier descriptor hlookup :=
    (h'.added identifier descriptor hlookup).elim (h.added identifier descriptor) .inr

theorem Extends.insert {registry : ProtocolRegistry} {identifier : ProtocolIdentifier}
    (hfree : registry.protocolDescriptors[identifier]? = none) (p : RegisteredProtocol) :
    registry.Extends ⟨registry.protocolDescriptors.insert identifier p.descriptor⟩ where
  kept other descriptor hlookup := by
    rw [Std.ExtTreeMap.getElem?_insert]
    split_ifs with heq
    · rw [Std.LawfulEqCmp.eq_of_compare heq, hlookup] at hfree
      cases hfree
    · exact hlookup
  added other descriptor hlookup := by
    rw [Std.ExtTreeMap.getElem?_insert] at hlookup
    split_ifs at hlookup
    · exact .inr ⟨p, (Option.some.inj hlookup).symm⟩
    · exact .inl hlookup

theorem insertDescriptor_run (identifier : ProtocolIdentifier) (descriptor : ProtocolDescriptor)
    (registry : ProtocolRegistry) :
    (∃ e, insertDescriptor identifier descriptor registry = .error e registry) ∨
      registry.protocolDescriptors[identifier]? = none ∧ insertDescriptor identifier descriptor registry =
        .ok () ⟨registry.protocolDescriptors.insert identifier descriptor⟩ := by
  rw [insertDescriptor, Program.bind_ok Program.get_apply]
  split_ifs with htaken
  · exact .inl ⟨_, rfl⟩
  · exact .inr ⟨by simpa using htaken, rfl⟩

/-- What the guard takes back is what the call had put. -/
theorem erase_insert {registry : ProtocolRegistry} {identifier : ProtocolIdentifier}
    (hfree : registry.protocolDescriptors[identifier]? = none) (descriptor : ProtocolDescriptor) :
    (registry.protocolDescriptors.insert identifier descriptor).erase identifier = registry.protocolDescriptors := by
  refine Std.ExtTreeMap.ext_getElem? fun other => ?_
  rw [Std.ExtTreeMap.getElem?_erase, Std.ExtTreeMap.getElem?_insert]
  split_ifs with heq
  · rw [← Std.LawfulEqCmp.eq_of_compare heq, hfree]
  · rfl

end ProtocolRegistry

open ProtocolRegistry in
/-- A call throws and changes nothing, or returns and has put all its descriptors. -/
theorem RegistryCall.execute_cases (call : RegistryCall) (registry : ProtocolRegistry) :
    (∃ e, call.execute registry = .error e registry) ∨
      ∃ registry', call.execute registry = .ok () registry' ∧ registry.Extends registry' := by
  cases call with
  | registerMessageProtocol identifier deserializer =>
    rcases insertDescriptor_run identifier (RegisteredProtocol.message deserializer).descriptor registry with
      herror | ⟨hfree, hok⟩
    · exact .inl herror
    · exact .inr ⟨_, hok, .insert hfree _⟩
  | registerRequestProtocol requestIdentifier requestDeserializer responseIdentifier responseDeserializer
      responseSerializer =>
    rw [execute]
    rcases insertDescriptor_run requestIdentifier
      (RegisteredProtocol.request requestDeserializer responseSerializer).descriptor registry with
      ⟨e, herror⟩ | ⟨hfree, hok⟩
    · exact .inl ⟨e, Program.bind_error herror⟩
    · have hrequest := Extends.insert hfree (.request requestDeserializer responseSerializer)
      rw [Program.bind_ok hok, Program.scopeFailure]
      rcases insertDescriptor_run responseIdentifier (RegisteredProtocol.response responseDeserializer).descriptor
        ⟨registry.protocolDescriptors.insert requestIdentifier
          (RegisteredProtocol.request requestDeserializer responseSerializer).descriptor⟩ with
        ⟨e, herror⟩ | ⟨hfree', hok'⟩
      -- the response has an identifier that is taken, perhaps by the request itself
      · rw [herror]
        refine .inl ⟨e, ?_⟩
        simp only [erase_insert hfree]
      · rw [hok']
        exact .inr ⟨_, rfl, hrequest.trans (.insert hfree' _)⟩

theorem RegistryCall.extends_final (call : RegistryCall) (registry : ProtocolRegistry) :
    registry.Extends (Program.final (call.execute registry)) := by
  rcases call.execute_cases registry with ⟨e, herror⟩ | ⟨registry', hok, hextends⟩
  · rw [herror]
    exact .refl registry
  · rw [hok]
    exact hextends

/-- Every entry is the descriptor of a protocol with the functions that its type needs. -/
def ProtocolRegistry.Exact (registry : ProtocolRegistry) : Prop :=
  ∀ (identifier : ProtocolIdentifier) (descriptor : ProtocolDescriptor),
    registry.protocolDescriptors[identifier]? = some descriptor → ∃ p : RegisteredProtocol, descriptor = p.descriptor

theorem ProtocolRegistry.Exact.extends {registry registry' : ProtocolRegistry} (h : registry.Exact)
    (hextends : registry.Extends registry') : registry'.Exact := by
  intro identifier descriptor hlookup
  rcases hextends.added identifier descriptor hlookup with hold | hnew
  · exact h identifier descriptor hold
  · exact hnew

theorem RegistryCall.foldl_exact (calls : List RegistryCall) {registry : ProtocolRegistry} (h : registry.Exact) :
    (calls.foldl (fun registry call => Program.final (call.execute registry)) registry).Exact := by
  induction calls generalizing registry with
  | nil => exact h
  | cons call calls ih => exact ih (h.extends (call.extends_final registry))

theorem RegistryCall.run_exact (calls : List RegistryCall) : (run calls).Exact :=
  foldl_exact calls fun _ _ hlookup => by simp at hlookup

namespace RegisteredProtocol

variable {υ : Type}

/-! `ProtocolReader`'s functions for a protocol whose functions are there to be called. -/

def consumeRequest (requestIdentifier : ProtocolIdentifier) (serializer : ResponseWithHeaderSerializer)
    (sequenceNumber : ProtocolSequenceNumber) (request : Any) : EStateM Exception (Reading υ) Unit := do
  let s ← get
  match s.reader.inboundRequestConsumers[requestIdentifier]? with
  | some consumer => do
    Reading.record (.request requestIdentifier sequenceNumber request (some consumer))
    let response ← Reading.onUser (consumer request)
    Reading.onOutboundBytes (serializer response sequenceNumber)
  | none => Reading.record (.request requestIdentifier sequenceNumber request none)

/-- What is done with the frame that a deserializer gave, if it gave one. -/
def consume {α : Type} (consume : α → EStateM Exception (Reading υ) Unit) :
    Option α × ℕ → EStateM Exception (Reading υ) (Option ℕ)
  | (some value, inboundBitsOffset) => do
    consume value
    return some inboundBitsOffset
  | (none, _) => return none

def readInbound (identifier : ProtocolIdentifier) (inboundBitsOffset : ℕ) :
    RegisteredProtocol → EStateM Exception (Reading υ) (Option ℕ)
  | .message deserializer => do
    let read ← Reading.deserialize deserializer inboundBitsOffset
    consume (Reading.consumeMessage identifier) read
  | .request deserializer serializer => do
    let read ← Reading.deserialize deserializer inboundBitsOffset
    consume (fun frame => consumeRequest identifier serializer frame.1 frame.2) read
  | .response deserializer => do
    let read ← Reading.deserialize deserializer inboundBitsOffset
    consume (fun frame => Reading.consumeResponse identifier frame.1 frame.2) read

def getProtocol (registered : ProtocolIdentifier → Option RegisteredProtocol) (identifier : ProtocolIdentifier) :
    Except Exception RegisteredProtocol :=
  match registered identifier with
  | some p => .ok p
  | none => .error (.protocolNotRegisteredError
      ("No protocol descriptor is registered with identifier " ++ toString identifier))

variable [Ballotin]

def readLoop (registered : ProtocolIdentifier → Option RegisteredProtocol) : ℕ → EStateM Exception (Reading υ) Unit
  | 0 => throw .outOfFuel
  | fuel + 1 => do
    let s ← get
    if s.inboundBytes.length ≥ s.inboundBitsOffset / bitsPerByte + 4 then do
      let (identifier, localInboundBitsOffset) ←
        Reading.deserialize BinarySerializer.protocolIdentifier.deserialize s.inboundBitsOffset
      let p ← Program.lift (getProtocol registered identifier)
      let consumed ← p.readInbound identifier localInboundBitsOffset
      match consumed with
      | some localInboundBitsOffset => do
        modify fun s => { s with
          inboundBitsOffset := bitsPerByte * Ballotin.numberOfBitsToNumberOfBytes localInboundBitsOffset }
        readLoop registered fuel
      | none => pure ()
    else pure ()

def readInboundBytes (registered : ProtocolIdentifier → Option RegisteredProtocol) :
    EStateM Exception (Reading υ) Unit := do
  modify fun s => { s with inboundBitsOffset := 0 }
  let s ← get
  Program.scopeExit Reading.eraseInboundBytes (readLoop registered (s.inboundBytes.length + 1))

/-! The pointers of a descriptor are never null where they are called. -/

omit [Ballotin] in
theorem readInbound_descriptor (p : RegisteredProtocol) (identifier : ProtocolIdentifier) (inboundBitsOffset : ℕ) :
    Reading.readInbound (υ := υ) identifier p.descriptor inboundBitsOffset =
      p.readInbound identifier inboundBitsOffset := by
  cases p with
  | message deserializer =>
    change (Reading.deserialize deserializer inboundBitsOffset >>= _) =
      (Reading.deserialize deserializer inboundBitsOffset >>= _)
    refine bind_congr fun read => ?_
    obtain ⟨_ | message, inboundBitsOffset⟩ := read
    · rfl
    · rfl
  | request deserializer serializer =>
    change (Reading.deserialize deserializer inboundBitsOffset >>= _) =
      (Reading.deserialize deserializer inboundBitsOffset >>= _)
    refine bind_congr fun read => ?_
    obtain ⟨_ | frame, inboundBitsOffset⟩ := read
    · rfl
    · rfl
  | response deserializer =>
    change (Reading.deserialize deserializer inboundBitsOffset >>= _) =
      (Reading.deserialize deserializer inboundBitsOffset >>= _)
    refine bind_congr fun read => ?_
    obtain ⟨_ | frame, inboundBitsOffset⟩ := read
    · rfl
    · rfl

variable {registry : ProtocolRegistry} {registered : ProtocolIdentifier → Option RegisteredProtocol}

omit [Ballotin] in
theorem getProtocolDescriptor_eq
    (h : ∀ identifier : ProtocolIdentifier,
      registry.protocolDescriptors[identifier]? = (registered identifier).map RegisteredProtocol.descriptor)
    (identifier : ProtocolIdentifier) :
    registry.getProtocolDescriptor identifier = (getProtocol registered identifier).map RegisteredProtocol.descriptor := by
  rw [ProtocolRegistry.getProtocolDescriptor, getProtocol, h]
  cases registered identifier with
  | none => rfl
  | some p => rfl

theorem readLoop_registered
    (h : ∀ identifier : ProtocolIdentifier,
      registry.protocolDescriptors[identifier]? = (registered identifier).map RegisteredProtocol.descriptor)
    (fuel : ℕ) : Reading.readLoop (υ := υ) registry fuel = readLoop registered fuel := by
  induction fuel with
  | zero => rfl
  | succ fuel ih =>
    rw [Reading.readLoop, readLoop, ih]
    refine bind_congr fun s => ?_
    split_ifs
    · refine bind_congr fun read => ?_
      obtain ⟨identifier, inboundBitsOffset⟩ := read
      simp only [getProtocolDescriptor_eq h]
      cases getProtocol registered identifier with
      | error e => rfl
      | ok p =>
        have hread := readInbound_descriptor (υ := υ) p identifier inboundBitsOffset
        change (Reading.readInbound identifier p.descriptor inboundBitsOffset >>= _) =
          (p.readInbound identifier inboundBitsOffset >>= _)
        exact hread ▸ rfl
    · rfl

theorem readInboundBytes_registered
    (h : ∀ identifier : ProtocolIdentifier,
      registry.protocolDescriptors[identifier]? = (registered identifier).map RegisteredProtocol.descriptor) :
    Reading.readInboundBytes (υ := υ) registry = readInboundBytes registered := by
  rw [Reading.readInboundBytes, readInboundBytes]
  simp only [readLoop_registered h]

end RegisteredProtocol

/-- A call that throws leaves the registry as it was, no call changes an entry, and a reader that uses the registry
after any calls does what it would do with the functions in place of the pointers. -/
theorem ProtocolRegistry.calls_atomic [Ballotin] (calls : List RegistryCall) :
    (∀ call e registry', RegistryCall.execute call (RegistryCall.run calls) = .error e registry' →
        registry' = RegistryCall.run calls) ∧
      (∀ (call : RegistryCall) (identifier : ProtocolIdentifier) (descriptor : ProtocolDescriptor),
        (RegistryCall.run calls).protocolDescriptors[identifier]? = some descriptor →
          (RegistryCall.run (calls ++ [call])).protocolDescriptors[identifier]? = some descriptor) ∧
      ∃ registered : ProtocolIdentifier → Option RegisteredProtocol,
        (∀ identifier : ProtocolIdentifier, (RegistryCall.run calls).protocolDescriptors[identifier]? =
          (registered identifier).map RegisteredProtocol.descriptor) ∧
        ∀ υ : Type, Reading.readInboundBytes (υ := υ) (RegistryCall.run calls) =
          RegisteredProtocol.readInboundBytes registered := by
  refine ⟨fun call e registry' herror => ?_, fun call identifier descriptor hlookup => ?_, ?_⟩
  · rcases call.execute_cases (RegistryCall.run calls) with ⟨e', herror'⟩ | ⟨registry'', hok, -⟩
    · rw [herror'] at herror
      cases herror
      rfl
    · rw [hok] at herror
      cases herror
  · rw [RegistryCall.run, List.foldl_append]
    exact (call.extends_final (RegistryCall.run calls)).kept identifier descriptor hlookup
  · have hentries : ∀ identifier : ProtocolIdentifier, ∃ p : Option RegisteredProtocol,
        (RegistryCall.run calls).protocolDescriptors[identifier]? = p.map RegisteredProtocol.descriptor := by
      intro identifier
      cases hlookup : (RegistryCall.run calls).protocolDescriptors[identifier]? with
      | none => exact ⟨none, rfl⟩
      | some descriptor =>
        obtain ⟨p, rfl⟩ := RegistryCall.run_exact calls identifier descriptor hlookup
        exact ⟨some p, rfl⟩
    obtain ⟨registered, hregistered⟩ := Classical.skolem.mp hentries
    exact ⟨registered, hregistered, fun υ => RegisteredProtocol.readInboundBytes_registered hregistered⟩

end Farseer
