import Farseer.Codec.StaticSize
import Farseer.Generator.Meaning
import Farseer.Reader.Registry
import Farseer.Reader.Turn

/-! What the generated source does when the program starts: it registers every message and every request of the schema in
the global registry. A registration that throws ends the program, so the identifiers have to be distinct. -/

namespace Farseer

variable [Ballotin]

namespace CppClass

def qualifiedName (cppNamespace : List String) (c : CppClass) : String := "::".intercalate (cppNamespace ++ [c.name])

def staticSize (c : CppClass) : Option ProtocolSize := if c.hasStaticSize then some c.staticNumberOfBits else none

def tryDeserializeMessageWithHeader (cppNamespace : List String) (c : CppClass) : MessageWithHeaderDeserializer :=
  fun bytes => do
    let result ← tryDeserializeWithHeaderTemplate false c.staticSize c.serializer bytes
    return result.map fun (_, message) => .of (.struct (c.qualifiedName cppNamespace) c.fields) message

def tryDeserializeRequestWithHeader (cppNamespace : List String) (c : CppClass) :
    SequencedProtocolWithHeaderDeserializer := fun bytes => do
  let result ← tryDeserializeWithHeaderTemplate true c.staticSize c.serializer bytes
  return result.map fun (sequenceNumber, request) =>
    (sequenceNumber, .of (.struct (c.qualifiedName cppNamespace) c.fields) request)

def tryDeserializeResponseWithHeader (cppNamespace : List String) (c : CppClass) :
    SequencedProtocolWithHeaderDeserializer := fun bytes => do
  let result ← tryDeserializeWithHeaderTemplate true none (BinarySerializer.expected c.serializer) bytes
  return result.map fun (sequenceNumber, response) =>
    (sequenceNumber, .of (.expected (c.qualifiedName cppNamespace) c.fields) response)

def serializeResponseWithHeader (cppNamespace : List String) (c : CppClass) : ResponseWithHeaderSerializer :=
  fun response sequenceNumber => do
    let casted ← Program.lift (anyCast (.expected (c.qualifiedName cppNamespace) c.fields) response)
    serializeWithHeaderTemplate c.protocolIdentifier (some sequenceNumber) false
      (BinarySerializer.expected c.serializer) casted

end CppClass

def CppProgram.call (program : CppProgram) : CppRegistration → Option RegistryCall
  | .registerMessageProtocol cppNamespace name =>
    if cppNamespace = program.cppNamespace then
      (program.messages.find? (·.name = name)).map fun c =>
        .registerMessageProtocol c.protocolIdentifier (c.tryDeserializeMessageWithHeader cppNamespace)
    else none
  | .registerRequestProtocol cppNamespace name =>
    if cppNamespace = program.cppNamespace then
      (program.requests.find? (·.1.name = name)).map fun (request, response) =>
        .registerRequestProtocol request.protocolIdentifier (request.tryDeserializeRequestWithHeader cppNamespace)
          response.protocolIdentifier (response.tryDeserializeResponseWithHeader cppNamespace)
          (response.serializeResponseWithHeader cppNamespace)
    else none

def CppProgram.startup (program : CppProgram) (registrations : List CppRegistration) :
    Option (EStateM Exception ProtocolRegistry Unit) := do
  let calls ← registrations.mapM program.call
  return calls.forM RegistryCall.execute

namespace RegistryCall

omit [Ballotin]

def identifiers : RegistryCall → List ProtocolIdentifier
  | registerMessageProtocol identifier _ => [identifier]
  | registerRequestProtocol requestIdentifier _ responseIdentifier _ _ => [requestIdentifier, responseIdentifier]

def Free (registry : ProtocolRegistry) (identifiers : List ProtocolIdentifier) : Prop :=
  ∀ identifier ∈ identifiers, registry.protocolDescriptors[identifier]? = none

/-- The registry has taken these identifiers, and no others. -/
def Takes (identifiers : List ProtocolIdentifier) (registry registry' : ProtocolRegistry) : Prop :=
  ∀ identifier : ProtocolIdentifier, registry'.protocolDescriptors[identifier]? = none ↔
    registry.protocolDescriptors[identifier]? = none ∧ identifier ∉ identifiers

theorem insertDescriptor_free {registry : ProtocolRegistry} {identifier : ProtocolIdentifier}
    (h : registry.protocolDescriptors[identifier]? = none) (descriptor : ProtocolDescriptor) :
    ProtocolRegistry.insertDescriptor identifier descriptor registry =
      .ok () ⟨registry.protocolDescriptors.insert identifier descriptor⟩ := by
  rcases ProtocolRegistry.insertDescriptor_run identifier descriptor registry with ⟨e, herror⟩ | ⟨-, hok⟩
  · rw [ProtocolRegistry.insertDescriptor, Program.bind_ok Program.get_apply,
      Std.ExtTreeMap.contains_eq_isSome_getElem?, h] at herror
    cases herror
  · exact hok

theorem insertDescriptor_taken {registry : ProtocolRegistry} {identifier : ProtocolIdentifier}
    (h : registry.protocolDescriptors[identifier]? ≠ none) (descriptor : ProtocolDescriptor) :
    ∃ e, ProtocolRegistry.insertDescriptor identifier descriptor registry = .error e registry := by
  rcases ProtocolRegistry.insertDescriptor_run identifier descriptor registry with herror | ⟨hfree, -⟩
  · exact herror
  · exact absurd hfree h

theorem takes_insert (registry : ProtocolRegistry) (identifier : ProtocolIdentifier) (descriptor : ProtocolDescriptor) :
    Takes [identifier] registry ⟨registry.protocolDescriptors.insert identifier descriptor⟩ := by
  intro other
  rw [Std.ExtTreeMap.getElem?_insert]
  split_ifs with heq
  · obtain rfl := Std.LawfulEqCmp.eq_of_compare heq
    simp
  · refine ⟨fun h => ⟨h, fun hmem => heq ?_⟩, And.left⟩
    rw [List.mem_singleton.mp hmem]
    exact Std.ReflCmp.compare_self

theorem Takes.trans {identifiers identifiers' : List ProtocolIdentifier} {registry registry' registry'' : ProtocolRegistry}
    (h : Takes identifiers registry registry') (h' : Takes identifiers' registry' registry'') :
    Takes (identifiers ++ identifiers') registry registry'' := by
  intro identifier
  rw [h' identifier, h identifier, List.mem_append, not_or, and_assoc]

theorem Takes.free_iff {identifiers identifiers' : List ProtocolIdentifier} {registry registry' : ProtocolRegistry}
    (h : Takes identifiers registry registry') : Free registry' identifiers' ↔
      Free registry identifiers' ∧ ∀ identifier ∈ identifiers', identifier ∉ identifiers :=
  ⟨fun hfree => ⟨fun identifier hmem => ((h identifier).mp (hfree identifier hmem)).1,
    fun identifier hmem => ((h identifier).mp (hfree identifier hmem)).2⟩,
    fun hfree identifier hmem => (h identifier).mpr ⟨hfree.1 identifier hmem, hfree.2 identifier hmem⟩⟩

def Returns (result : EStateM.Result Exception ProtocolRegistry Unit) (condition : Prop) (Q : ProtocolRegistry → Prop) :
    Prop := ((∃ registry, result = .ok () registry) ↔ condition) ∧ ∀ registry, result = .ok () registry → Q registry

theorem Returns.of_ok {result : EStateM.Result Exception ProtocolRegistry Unit} {registry : ProtocolRegistry}
    {condition : Prop} {Q : ProtocolRegistry → Prop} (h : result = .ok () registry) (hcondition : condition)
    (hq : Q registry) : Returns result condition Q := by
  refine ⟨iff_of_true ⟨registry, h⟩ hcondition, fun registry' h' => ?_⟩
  cases h.symm.trans h'
  exact hq

theorem Returns.of_error {result : EStateM.Result Exception ProtocolRegistry Unit} {e : Exception}
    {registry : ProtocolRegistry} {condition : Prop} {Q : ProtocolRegistry → Prop} (h : result = .error e registry)
    (hcondition : ¬ condition) : Returns result condition Q := by
  refine ⟨iff_of_false ?_ hcondition, fun registry' h' => ?_⟩
  · rintro ⟨registry', h'⟩
    cases h.symm.trans h'
  · cases h.symm.trans h'

/-- The response of a request is put behind it, unless its identifier is taken or that of the request. -/
theorem response_returns (registry : ProtocolRegistry) (requestIdentifier : ProtocolIdentifier)
    (descriptor : ProtocolDescriptor) (responseIdentifier : ProtocolIdentifier)
    (responseDescriptor : ProtocolDescriptor) :
    Returns (Program.scopeFailure
        (fun registry => { registry with protocolDescriptors := registry.protocolDescriptors.erase requestIdentifier })
        (ProtocolRegistry.insertDescriptor responseIdentifier responseDescriptor)
        ⟨registry.protocolDescriptors.insert requestIdentifier descriptor⟩)
      ([requestIdentifier, responseIdentifier].Nodup ∧ registry.protocolDescriptors[responseIdentifier]? = none)
      (Takes [requestIdentifier, responseIdentifier] registry) := by
  have htakes := takes_insert registry requestIdentifier descriptor
  have hnodup : [requestIdentifier, responseIdentifier].Nodup ↔ requestIdentifier ≠ responseIdentifier := by simp
  rw [hnodup, Program.scopeFailure]
  by_cases hresponse : requestIdentifier ≠ responseIdentifier ∧ registry.protocolDescriptors[responseIdentifier]? = none
  · have hfree := (htakes responseIdentifier).mpr
      ⟨hresponse.2, fun hmem => hresponse.1 (List.mem_singleton.mp hmem).symm⟩
    rw [insertDescriptor_free hfree responseDescriptor]
    exact .of_ok rfl hresponse (htakes.trans (takes_insert _ responseIdentifier responseDescriptor))
  · have htaken : (ProtocolRegistry.mk (registry.protocolDescriptors.insert requestIdentifier descriptor)).protocolDescriptors[
        responseIdentifier]? ≠ none := fun hnone => by
      obtain ⟨hfree, hother⟩ := (htakes responseIdentifier).mp hnone
      exact hresponse ⟨fun heq => hother (List.mem_singleton.mpr heq.symm), hfree⟩
    obtain ⟨e, herror⟩ := insertDescriptor_taken htaken responseDescriptor
    rw [herror]
    exact .of_error rfl hresponse

/-- A call succeeds exactly if its identifiers are distinct and not taken; then it takes them. -/
theorem execute_returns (call : RegistryCall) (registry : ProtocolRegistry) :
    Returns (call.execute registry) (call.identifiers.Nodup ∧ Free registry call.identifiers)
      (Takes call.identifiers registry) := by
  cases call with
  | registerMessageProtocol identifier deserializer =>
    have hiff : Free registry [identifier] ↔ registry.protocolDescriptors[identifier]? = none :=
      List.forall_mem_singleton
    rw [identifiers, execute, hiff]
    by_cases hfree : registry.protocolDescriptors[identifier]? = none
    · exact .of_ok (insertDescriptor_free hfree _) ⟨List.nodup_singleton _, hfree⟩ (takes_insert registry identifier _)
    · obtain ⟨e, herror⟩ := insertDescriptor_taken hfree (RegisteredProtocol.message deserializer).descriptor
      exact .of_error herror fun h => hfree h.2
  | registerRequestProtocol requestIdentifier requestDeserializer responseIdentifier responseDeserializer
      responseSerializer =>
    have hiff : Free registry [requestIdentifier, responseIdentifier] ↔
        registry.protocolDescriptors[requestIdentifier]? = none ∧
          registry.protocolDescriptors[responseIdentifier]? = none := by
      simp [Free]
    rw [identifiers, execute, hiff]
    by_cases hrequest : registry.protocolDescriptors[requestIdentifier]? = none
    · rw [Program.bind_ok (insertDescriptor_free hrequest _), eq_true hrequest, true_and]
      exact response_returns registry requestIdentifier _ responseIdentifier _
    · obtain ⟨e, herror⟩ := insertDescriptor_taken hrequest
        (RegisteredProtocol.request requestDeserializer responseSerializer).descriptor
      exact .of_error (Program.bind_error herror) fun h => hrequest h.2.1

/-- Calls one after the other take their identifiers. -/
theorem forM_takes {calls : List RegistryCall} {registry registry' : ProtocolRegistry}
    (h : calls.forM execute registry = .ok () registry') : Takes (calls.flatMap identifiers) registry registry' := by
  induction calls generalizing registry with
  | nil =>
    cases h
    exact fun identifier => (and_iff_left List.not_mem_nil).symm
  | cons call calls ih =>
    obtain ⟨u, middle, hcall, hcalls⟩ := Program.bind_eq_ok h
    exact ((call.execute_returns registry).2 middle hcall).trans (ih hcalls)

/-- Calls one after the other succeed exactly if all their identifiers are distinct and not taken. -/
theorem forM_iff (calls : List RegistryCall) (registry : ProtocolRegistry) :
    (∃ registry', calls.forM execute registry = .ok () registry') ↔
      (calls.flatMap identifiers).Nodup ∧ Free registry (calls.flatMap identifiers) := by
  induction calls generalizing registry with
  | nil => exact iff_of_true ⟨registry, rfl⟩ ⟨List.nodup_nil, List.forall_mem_nil _⟩
  | cons call calls ih =>
    obtain ⟨hiff, htakes⟩ := call.execute_returns registry
    have happend : Free registry (call.identifiers ++ calls.flatMap identifiers) ↔
        Free registry call.identifiers ∧ Free registry (calls.flatMap identifiers) := List.forall_mem_append
    rw [List.flatMap_cons, List.nodup_append, happend]
    change (∃ registry', (call.execute >>= fun _ => calls.forM execute) registry = .ok () registry') ↔ _
    constructor
    · rintro ⟨registry'', h⟩
      obtain ⟨u, registry', hcall, hcalls⟩ := Program.bind_eq_ok h
      obtain ⟨hnodup, hfree⟩ := hiff.mp ⟨registry', hcall⟩
      obtain ⟨hnodups, hfrees⟩ := (ih registry').mp ⟨registry'', hcalls⟩
      obtain ⟨hfrees, hothers⟩ := (htakes registry' hcall).free_iff.mp hfrees
      exact ⟨⟨hnodup, hnodups, fun identifier hmem other hother heq => hothers other hother (heq ▸ hmem)⟩, hfree, hfrees⟩
    · rintro ⟨⟨hnodup, hnodups, hdisjoint⟩, hfree, hfrees⟩
      obtain ⟨registry', hcall⟩ := hiff.mpr ⟨hnodup, hfree⟩
      rw [Program.bind_ok hcall]
      refine (ih registry').mpr ⟨hnodups, (htakes registry' hcall).free_iff.mpr ⟨hfrees, fun identifier hmem hother => ?_⟩⟩
      exact hdisjoint identifier hother identifier hmem rfl

end RegistryCall

structure Metadata.Describes (cppNamespace : List String) (name : String) (protocolIdentifier : ProtocolIdentifier)
    (fields : List FieldDefinition) (w : WireFields) (m : Metadata) : Prop extends m.GeneratedFor fields w where
  name : m.name = "::".intercalate (cppNamespace ++ [name])
  protocolIdentifier : m.protocolIdentifier = protocolIdentifier

def Metadata.ofFields (cppNamespace : List String) (name : String) (protocolIdentifier : ProtocolIdentifier)
    (fields : List FieldDefinition) (w : WireFields)
    (sizes : SizesAgree w.isStatic w.staticBits (fieldsHaveStaticSize fields) (fieldsStaticNumberOfBits fields)) :
    Metadata where
  name := "::".intercalate (cppNamespace ++ [name])
  fields := w
  protocolIdentifier
  hasStaticSize := fieldsHaveStaticSize fields
  staticNumberOfBits := fieldsStaticNumberOfBits fields
  sizes

omit [Ballotin] in
theorem Metadata.ofFields_describes {cppNamespace : List String} {name : String} {protocolIdentifier : ProtocolIdentifier}
    {fields : List FieldDefinition} {w : WireFields}
    (sizes : SizesAgree w.isStatic w.staticBits (fieldsHaveStaticSize fields) (fieldsStaticNumberOfBits fields)) :
    (ofFields cppNamespace name protocolIdentifier fields w sizes).Describes cppNamespace name protocolIdentifier fields w :=
  ⟨⟨rfl, rfl, rfl⟩, rfl, rfl⟩

section Schema

variable [Hashing ProtocolIdentifier]

/-- The protocol of a message, with the fields of one of the layouts. -/
def MessageProtocolDefinition.Generates (layouts : MessageLayouts) (cppNamespace : List String)
    (message : MessageProtocolDefinition) (p : MessageProtocol) : Prop :=
  ∃ w, (message.name, w) ∈ layouts ∧ p.metadata.Describes cppNamespace message.name
    (message.getHashCode TypeDefinition.getHashCode) message.fields w

/-- The protocols of a request and of its response. -/
def RequestProtocolDefinition.Generates (layouts : MessageLayouts) (cppNamespace : List String)
    (request : RequestProtocolDefinition) (p : RequestProtocol) : Prop :=
  ∃ layout, expandRequest layouts request = some layout ∧
    p.metadata.Describes cppNamespace request.name (request.getRequestHashCode TypeDefinition.getHashCode)
      request.requestFields layout.request ∧
    p.response.Describes cppNamespace (responseName request.name)
      (request.getResponseHashCode TypeDefinition.getHashCode) request.responseFields layout.response

omit [Ballotin] [Hashing ProtocolIdentifier] in
theorem find_of_mem {α : Type} (name : α → String) {l : List α} (hdistinct : (l.map name).Nodup) {a : α} (ha : a ∈ l) :
    l.find? (fun b => name b = name a) = some a := by
  induction l with
  | nil => cases ha
  | cons b l ih =>
    rw [List.map_cons, List.nodup_cons] at hdistinct
    rcases List.mem_cons.mp ha with rfl | ha
    · exact List.find?_cons_of_pos (by simp)
    · have hne : name b ≠ name a := fun heq => hdistinct.1 (heq ▸ List.mem_map_of_mem ha)
      rw [List.find?_cons_of_neg (by simpa using hne)]
      exact ih hdistinct.2 ha

theorem messages_called {program : CppProgram} (hdistinct : (program.messages.map CppClass.name).Nodup)
    {messages : List MessageProtocolDefinition} {layouts all : MessageLayouts} (h : Declared messages layouts)
    (hall : layouts ⊆ all)
    (hclasses : List.zipWith (fun message layout => message.cppClass layout.2) messages layouts ⊆ program.messages) :
    ∃ protocols : List MessageProtocol,
      List.Forall₂ (MessageProtocolDefinition.Generates all program.cppNamespace) messages protocols ∧
      (messages.map fun message => CppRegistration.registerMessageProtocol program.cppNamespace message.name).mapM
        program.call = some (protocols.map RegistryCall.ofMessage) := by
  induction h with
  | nil => exact ⟨[], .nil, rfl⟩
  | @cons message layout messages layouts hfirst _ ih =>
    rw [List.zipWith_cons_cons] at hclasses
    obtain ⟨protocols, hprotocols, hcalls⟩ := ih (fun _ hl => hall (List.mem_cons_of_mem _ hl))
      fun _ hc => hclasses (List.mem_cons_of_mem _ hc)
    let p : MessageProtocol := ⟨.ofFields program.cppNamespace message.name
      (message.getHashCode TypeDefinition.getHashCode) message.fields layout.2 hfirst.2⟩
    have hfound : program.messages.find? (·.name = message.name) = some (message.cppClass layout.2) :=
      find_of_mem CppClass.name hdistinct (hclasses List.mem_cons_self)
    have hcall : program.call (.registerMessageProtocol program.cppNamespace message.name) = some (.ofMessage p) := by
      rw [CppProgram.call, if_pos rfl, hfound]
      rfl
    refine ⟨p :: protocols, .cons ⟨layout.2, ?_, Metadata.ofFields_describes hfirst.2⟩ hprotocols, ?_⟩
    · rw [hfirst.1]
      exact hall List.mem_cons_self
    · rw [List.map_cons, List.mapM_cons, hcall, hcalls]
      rfl

theorem requests_called {program : CppProgram} (hdistinct : (program.requests.map fun c => c.1.name).Nodup)
    {layouts : MessageLayouts} {requests : List RequestProtocolDefinition} {requestLayouts : List RequestLayout}
    (hsizes : List.Forall₂ RequestSizesAgree requests requestLayouts)
    (hexpand : requests.mapM (expandRequest layouts) = some requestLayouts)
    (hclasses : List.zipWith (fun request layout => (request.cppClass layout.request, request.responseCppClass layout.response))
      requests requestLayouts ⊆ program.requests) :
    ∃ protocols : List RequestProtocol,
      List.Forall₂ (RequestProtocolDefinition.Generates layouts program.cppNamespace) requests protocols ∧
      (requests.map fun request => CppRegistration.registerRequestProtocol program.cppNamespace request.name).mapM
        program.call = some (protocols.map RegistryCall.ofRequest) := by
  induction hsizes with
  | nil => exact ⟨[], .nil, rfl⟩
  | @cons request layout requests requestLayouts hfirst _ ih =>
    rw [List.mapM_cons] at hexpand
    obtain ⟨layout', hlayout, hexpand⟩ := Option.bind_eq_some_iff.mp hexpand
    obtain ⟨rest, hrest, heq⟩ := Option.bind_eq_some_iff.mp hexpand
    cases heq
    rw [List.zipWith_cons_cons] at hclasses
    obtain ⟨protocols, hprotocols, hcalls⟩ := ih hrest fun _ hc => hclasses (List.mem_cons_of_mem _ hc)
    let p : RequestProtocol :=
      ⟨.ofFields program.cppNamespace request.name (request.getRequestHashCode TypeDefinition.getHashCode)
          request.requestFields layout.request hfirst.request,
        .ofFields program.cppNamespace (responseName request.name)
          (request.getResponseHashCode TypeDefinition.getHashCode) request.responseFields layout.response hfirst.response⟩
    have hfound : program.requests.find? (fun c => c.1.name = request.name) =
        some (request.cppClass layout.request, request.responseCppClass layout.response) :=
      find_of_mem (fun c : CppClass × CppClass => c.1.name) hdistinct (hclasses List.mem_cons_self)
    have hcall : program.call (.registerRequestProtocol program.cppNamespace request.name) = some (.ofRequest p) := by
      rw [CppProgram.call, if_pos rfl, hfound]
      rfl
    refine ⟨p :: protocols, .cons ⟨layout, hlayout, Metadata.ofFields_describes hfirst.request,
      Metadata.ofFields_describes hfirst.response⟩ hprotocols, ?_⟩
    rw [List.map_cons, List.mapM_cons, hcall, hcalls]
    rfl

omit [Hashing ProtocolIdentifier] in
/-- Calls for protocols that succeed leave a registry in which all of them are registered. -/
theorem registered_of_forM {registry registry' : ProtocolRegistry} {messages : List MessageProtocol}
    {requests : List RequestProtocol} (hregistry : registry.Reachable)
    (h : (messages.map RegistryCall.ofMessage ++ requests.map RegistryCall.ofRequest).forM RegistryCall.execute registry =
      .ok () registry') :
    registry'.Reachable ∧ (∀ q, registry.Registered q → registry'.Registered q) ∧
      (∀ p ∈ messages, registry'.Registered (.message p)) ∧
      ∀ p ∈ requests, registry'.Registered (.request p) ∧ registry'.Registered (.response p) := by
  induction messages generalizing registry with
  | nil =>
    induction requests generalizing registry with
    | nil =>
      cases h
      exact ⟨hregistry, fun _ hq => hq, List.forall_mem_nil _, List.forall_mem_nil _⟩
    | cons p requests ih =>
      obtain ⟨u, middle, hcall, hcalls⟩ := Program.bind_eq_ok h
      rw [RegistryCall.execute_ofRequest] at hcall
      have hmiddle : middle.Reachable := by
        have hfinal := ProtocolRegistry.Reachable.request registry p hregistry
        rwa [hcall] at hfinal
      obtain ⟨hrequest, hresponse, hkept⟩ := registerRequestProtocol_ok hcall
      obtain ⟨hreachable, hkept', hmessages, hrequests⟩ := ih hmiddle hcalls
      exact ⟨hreachable, fun q hq => hkept' q (hkept q hq), hmessages,
        List.forall_mem_cons.mpr ⟨⟨hkept' _ hrequest, hkept' _ hresponse⟩, hrequests⟩⟩
  | cons p messages ih =>
    obtain ⟨u, middle, hcall, hcalls⟩ := Program.bind_eq_ok h
    rw [RegistryCall.execute_ofMessage] at hcall
    have hmiddle : middle.Reachable := by
      have hfinal := ProtocolRegistry.Reachable.message registry p hregistry
      rwa [hcall] at hfinal
    obtain ⟨hmessage, hkept⟩ := registerMessageProtocol_ok hcall
    obtain ⟨hreachable, hkept', hmessages, hrequests⟩ := ih hmiddle hcalls
    exact ⟨hreachable, fun q hq => hkept' q (hkept q hq), List.forall_mem_cons.mpr ⟨hkept' _ hmessage, hmessages⟩, hrequests⟩

theorem requestClasses_names {requests : List RequestProtocolDefinition} {layouts : List RequestLayout}
    (h : List.Forall₂ RequestSizesAgree requests layouts) :
    (List.zipWith (fun request layout => (request.cppClass layout.request, request.responseCppClass layout.response))
      requests layouts).map (fun c => c.1.name) = requests.map RequestProtocolDefinition.name := by
  induction h with
  | nil => rfl
  | cons _ _ ih =>
    rw [List.zipWith_cons_cons, List.map_cons, List.map_cons, ih]
    rfl

omit [Ballotin] in
theorem messages_identifiers {layouts : MessageLayouts} {cppNamespace : List String}
    {messages : List MessageProtocolDefinition} {protocols : List MessageProtocol}
    (h : List.Forall₂ (MessageProtocolDefinition.Generates layouts cppNamespace) messages protocols) :
    protocols.map (fun p => p.metadata.protocolIdentifier) =
      messages.map (MessageProtocolDefinition.getHashCode TypeDefinition.getHashCode) := by
  induction h with
  | nil => rfl
  | cons hfirst _ ih =>
    obtain ⟨w, -, hdescribes⟩ := hfirst
    rw [List.map_cons, List.map_cons, ih, hdescribes.protocolIdentifier]

omit [Ballotin] in
theorem requests_identifiers {layouts : MessageLayouts} {cppNamespace : List String}
    {requests : List RequestProtocolDefinition} {protocols : List RequestProtocol}
    (h : List.Forall₂ (RequestProtocolDefinition.Generates layouts cppNamespace) requests protocols) :
    (protocols.flatMap fun p => [p.metadata.protocolIdentifier, p.response.protocolIdentifier]).Perm
      (requests.map (RequestProtocolDefinition.getRequestHashCode TypeDefinition.getHashCode) ++
        requests.map (RequestProtocolDefinition.getResponseHashCode TypeDefinition.getHashCode)) := by
  induction h with
  | nil => exact .refl _
  | cons hfirst _ ih =>
    obtain ⟨layout, -, hrequest, hresponse⟩ := hfirst
    rw [List.flatMap_cons, List.map_cons, List.map_cons, hrequest.protocolIdentifier, hresponse.protocolIdentifier]
    refine List.Perm.cons _ ?_
    exact (ih.cons _).trans List.perm_middle.symm

theorem calls_identifiers {protocol : ProtocolDefinition} {layouts : MessageLayouts} {cppNamespace : List String}
    {messages : List MessageProtocol} {requests : List RequestProtocol}
    (hmessages : List.Forall₂ (MessageProtocolDefinition.Generates layouts cppNamespace) protocol.messages messages)
    (hrequests : List.Forall₂ (RequestProtocolDefinition.Generates layouts cppNamespace) protocol.requests requests) :
    ((messages.map RegistryCall.ofMessage ++ requests.map RegistryCall.ofRequest).flatMap RegistryCall.identifiers).Perm
      (protocol.protocols.map (SchemaProtocol.identifier TypeDefinition.getHashCode)) := by
  have hcalls : (messages.map RegistryCall.ofMessage ++ requests.map RegistryCall.ofRequest).flatMap
      RegistryCall.identifiers = messages.map (fun p => p.metadata.protocolIdentifier) ++
        requests.flatMap fun p => [p.metadata.protocolIdentifier, p.response.protocolIdentifier] := by
    rw [List.flatMap_append, List.flatMap_map, List.flatMap_map]
    exact congrArg (· ++ _) List.map_eq_flatMap.symm
  rw [hcalls, messages_identifiers hmessages, ProtocolDefinition.protocols, List.append_assoc, List.map_append,
    List.map_append, List.map_map, List.map_map, List.map_map]
  exact (requests_identifiers hrequests).append_left _

/-- The program of a schema starts with the calls for the protocols that its messages and requests mean. -/
theorem startup_calls {protocol : ProtocolDefinition} {layout : ProtocolLayout} (hlayout : LayoutAgrees protocol layout)
    (hwellFormed : protocol.WellFormed) :
    ∃ messages requests,
      List.Forall₂ (MessageProtocolDefinition.Generates layout.messages (protocol.cppProgram layout).cppNamespace)
        protocol.messages messages ∧
      List.Forall₂ (RequestProtocolDefinition.Generates layout.messages (protocol.cppProgram layout).cppNamespace)
        protocol.requests requests ∧
      (protocol.cppProgram layout).startup (generateProtocolCppSource protocol).registrations =
        some ((messages.map RegistryCall.ofMessage ++ requests.map RegistryCall.ofRequest).forM RegistryCall.execute) := by
  obtain ⟨layouts, hmessages, hexpand⟩ := Option.bind_eq_some_iff.mp hlayout.expand
  obtain ⟨requestLayouts, hrequests, heq⟩ := Option.bind_eq_some_iff.mp hexpand
  cases heq
  have hmessageNames : ((protocol.cppProgram ⟨layouts, requestLayouts⟩).messages.map CppClass.name).Nodup := by
    change (List.map CppClass.name (List.zipWith _ _ _)).Nodup
    rw [← names_of_entries (entries_of_declared hlayout.messages), hlayout.messages.names]
    exact hwellFormed.messageNames
  have hrequestNames : ((protocol.cppProgram ⟨layouts, requestLayouts⟩).requests.map fun c => c.1.name).Nodup := by
    rw [show (protocol.cppProgram ⟨layouts, requestLayouts⟩).requests.map (fun c => c.1.name) = _ from
      requestClasses_names hlayout.requests]
    exact hwellFormed.requestNames
  obtain ⟨messages, hmessagesGenerated, hmessageCalls⟩ := messages_called hmessageNames hlayout.messages
    (List.Subset.refl _) (List.Subset.refl _)
  obtain ⟨requests, hrequestsGenerated, hrequestCalls⟩ := requests_called hrequestNames hlayout.requests hrequests
    (List.Subset.refl _)
  have hcalls : (generateProtocolCppSource protocol).registrations.mapM
      (protocol.cppProgram ⟨layouts, requestLayouts⟩).call =
        some (messages.map RegistryCall.ofMessage ++ requests.map RegistryCall.ofRequest) := by
    rw [generateProtocolCppSource, List.mapM_append]
    exact Option.bind_eq_some_iff.mpr ⟨_, hmessageCalls, Option.bind_eq_some_iff.mpr ⟨_, hrequestCalls, rfl⟩⟩
  refine ⟨messages, requests, hmessagesGenerated, hrequestsGenerated, ?_⟩
  rw [CppProgram.startup, hcalls]
  rfl

def ProtocolDefinition.identifiers (protocol : ProtocolDefinition) : List ProtocolIdentifier :=
  protocol.protocols.map (SchemaProtocol.identifier TypeDefinition.getHashCode)

/-- The program that is generated for an accepted schema, if it can be compiled, starts exactly if the identifiers of the
messages, requests and responses are distinct. Then all of them are registered, with the structs that they mean, and
nothing else is. -/
theorem startup_succeeds_iff {glyph : String → Except Exception (List Node)} {text : String} {protocol : ProtocolDefinition}
    (h : parseProtocolDefinition glyph text = .ok protocol) {accepts : CppHeader → CppSource → Bool}
    (hcompiles : protocol.Compiles accepts) :
    ∃ layout program startup messages requests, protocol.expand = some layout ∧
      compile accepts (generateProtocolCppHeader protocol) (generateProtocolCppSource protocol) = some program ∧
      program.startup (generateProtocolCppSource protocol).registrations = some startup ∧
      List.Forall₂ (MessageProtocolDefinition.Generates layout.messages program.cppNamespace) protocol.messages messages ∧
      List.Forall₂ (RequestProtocolDefinition.Generates layout.messages program.cppNamespace) protocol.requests requests ∧
      ((∃ registry, startup ⟨∅⟩ = .ok () registry) ↔ protocol.identifiers.Nodup) ∧
      ∀ registry, startup ⟨∅⟩ = .ok () registry → registry.Reachable ∧
        (∀ p ∈ messages, registry.Registered (.message p)) ∧
        (∀ p ∈ requests, registry.Registered (.request p) ∧ registry.Registered (.response p)) ∧
        ∀ identifier : ProtocolIdentifier,
          registry.protocolDescriptors[identifier]? ≠ none ↔ identifier ∈ protocol.identifiers := by
  obtain ⟨layout, hlayout⟩ := accepted_layout h
  have hwellFormed := (validateProtocolDefinition_iff protocol).mp (accepted_valid h).2
  have hcompile := (compile_iff accepts hlayout hwellFormed).mpr hcompiles
  obtain ⟨messages, requests, hmessages, hrequests, hstartup⟩ := startup_calls hlayout hwellFormed
  have hperm := calls_identifiers hmessages hrequests
  refine ⟨layout, _, _, messages, requests, hlayout.expand, hcompile, hstartup, hmessages, hrequests, ?_, ?_⟩
  · rw [RegistryCall.forM_iff, hperm.nodup_iff]
    refine and_iff_left fun identifier _ => ?_
    exact Std.ExtTreeMap.getElem?_empty
  · intro registry hregistry
    obtain ⟨hreachable, -, hmessagesRegistered, hrequestsRegistered⟩ := registered_of_forM .new hregistry
    refine ⟨hreachable, hmessagesRegistered, hrequestsRegistered, fun identifier => ?_⟩
    rw [Ne, RegistryCall.forM_takes hregistry identifier, hperm.mem_iff, and_iff_right Std.ExtTreeMap.getElem?_empty, not_not]
    rfl

omit [Hashing ProtocolIdentifier] [Ballotin] in
/-- A request and its response have different identifiers, and they are all that is registered. -/
theorem pingRequest_started : ∃ (startup : EStateM Exception ProtocolRegistry Unit) (registry : ProtocolRegistry)
      (p : RequestProtocol), startup ⟨∅⟩ = .ok () registry ∧ @ProtocolRegistry.Reachable referenceBallotin registry ∧
    @ProtocolRegistry.Registered referenceBallotin registry (.request p) ∧
    @ProtocolRegistry.Registered referenceBallotin registry (.response p) ∧
    ∀ identifier : ProtocolIdentifier, registry.protocolDescriptors[identifier]? ≠ none ↔
      identifier ∈ @ProtocolDefinition.identifiers polynomialHashing pingRequestSchema := by
  let _ := referenceBallotin
  let _ := polynomialHashing
  have hcompiles : pingRequestSchema.Compiles fun _ _ => true := ⟨by decide, by decide +kernel, rfl⟩
  obtain ⟨layout, program, startup, messages, requests, -, -, -, -, hrequests, hstarts, hregistered⟩ :=
    startup_succeeds_iff pingRequest_accepted hcompiles
  obtain ⟨registry, hregistry⟩ := hstarts.mpr (by decide +kernel)
  obtain ⟨hreachable, -, hall, hidentifiers⟩ := hregistered registry hregistry
  obtain ⟨p, rest, -, -, rfl⟩ := List.forall₂_cons_left_iff.mp hrequests
  obtain ⟨hrequest, hresponse⟩ := hall p List.mem_cons_self
  exact ⟨startup, registry, p, hregistry, hreachable, hrequest, hresponse, hidentifiers⟩

end Schema

end Farseer
