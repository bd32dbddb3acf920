import Mathlib.Tactic.MkIffOfInductiveProp
import Farseer.Codec.Header
import Farseer.Generator.CppProtocol

/-! What the generated C++ means. A name is looked up where it stands: a member of a class hides what has its name
outside, and a struct that was declared in the namespace hides an integer type. A function makes its calls one after the
other. What the compiler rejects has no meaning. -/

namespace Farseer

variable [Ballotin]

/-- A struct that was compiled, with the functions and constants of its `Metadata`. -/
structure CppClass where
  name : String
  protocolIdentifier : ProtocolIdentifier
  hasStaticSize : Bool
  staticNumberOfBits : ProtocolSize
  fields : WireFields
  serializer : BinarySerializer fields.Value

/-- A type with the `BinarySerializer` that the compiler picks for it. -/
abbrev Serialized := (w : WireType) × BinarySerializer w.Value

def CppTypeName.names : CppTypeName → List String
  | .named name => [name]
  | .boolean | .string => []
  | .vector element => element.names
  | .map key value => key.names ++ value.names

def globalType : String → Option WireType
  | "int32_t" => some .i32
  | "int64_t" => some .i64
  | "uint32_t" => some .u32
  | "uint64_t" => some .u64
  | _ => none

/-- Where a name is looked up: the members of the classes around it, the structs that are declared in the namespace, and
those of them that are complete. -/
structure CppScope where
  members : List String
  declared : List String
  classes : List CppClass

def CppScope.find (scope : CppScope) (name : String) : Option Serialized :=
  if name ∈ scope.members then none
  else if name ∈ scope.declared then
    (scope.classes.find? (·.name = name)).map fun c => ⟨.message c.fields, c.serializer⟩
  else (globalType name).map fun w => ⟨w, w.serializer⟩

def WireType.toKey : WireType → Option KeyType
  | .i32 => some .i32
  | .i64 => some .i64
  | .u32 => some .u32
  | .u64 => some .u64
  | .string => some .string
  | _ => none

def CppScope.resolve (scope : CppScope) : CppTypeName → Option Serialized
  | .named name => scope.find name
  | .boolean => some ⟨.boolean, .bool⟩
  | .string => some ⟨.string, .string⟩
  | .vector element => do
    let ⟨w, s⟩ ← scope.resolve element
    return ⟨.list w, .vector s⟩
  | .map key value => do
    let ⟨k, _⟩ ← scope.resolve key
    let key ← k.toKey
    let ⟨w, s⟩ ← scope.resolve value
    return ⟨.map key w, .map key.serializer s⟩

mutual

/-- What a member is before it is assigned. -/
def WireType.initial : (w : WireType) → w.Value
  | .i32 => (0 : Int32)
  | .i64 => (0 : Int64)
  | .u32 => (0 : UInt32)
  | .u64 => (0 : UInt64)
  | .string => ([] : List UInt8)
  | .boolean => false
  | .list _ => []
  | .map _ _ => ∅
  | .message fields => fields.initial

def WireFields.initial : (fields : WireFields) → fields.Value
  | .nil => ()
  | .cons head tail => (head.initial, tail.initial)

end

def WireFields.getter : (fields : WireFields) → List String → String → Option ((w : WireType) × (fields.Value → w.Value))
  | .cons head tail, name :: names, member =>
    if name = member then some ⟨head, Prod.fst⟩
    else (tail.getter names member).map fun g => ⟨g.1, g.2 ∘ Prod.snd⟩
  | _, _, _ => none

def WireFields.setter : (fields : WireFields) → List String → String →
    Option ((w : WireType) × (w.Value → fields.Value → fields.Value))
  | .cons head tail, name :: names, member =>
    if name = member then some ⟨head, fun value fields => (value, fields.2)⟩
    else (tail.setter names member).map fun s => ⟨s.1, fun value fields => (fields.1, s.2 value fields.2)⟩
  | _, _, _ => none

def CppScope.declare (scope : CppScope) : List CppField → Option WireFields
  | [] => some .nil
  | field :: fields => do
    let ⟨head, _⟩ ← scope.resolve field.type
    let tail ← scope.declare fields
    if field.name ∈ fields.map CppField.name then none
    else return .cons head tail

section Bodies

variable {X : Type}

def CppScope.serializeBody (scope : CppScope) (get : String → Option ((w : WireType) × (X → w.Value))) :
    List CppCall → Option (X → EStateM Exception Buffer Unit)
  | [] => some fun _ => pure ()
  | call :: calls => do
    let ⟨w, s⟩ ← scope.resolve call.type
    let ⟨w', value⟩ ← get call.field
    let rest ← scope.serializeBody get calls
    if h : w' = w then
      return fun x => do
        s.serialize (h ▸ value x)
        rest x
    else none

def CppScope.deserializeBody (scope : CppScope) (set : String → Option ((w : WireType) × (w.Value → X → X))) :
    List CppCall → Option (List UInt8 → X → EStateM Exception ℕ X)
  | [] => some fun _ x => pure x
  | call :: calls => do
    let ⟨w, s⟩ ← scope.resolve call.type
    let ⟨w', assign⟩ ← set call.field
    let rest ← scope.deserializeBody set calls
    if h : w = w' then
      return fun bytes x => do
        let value ← s.deserialize bytes
        rest bytes (assign (h ▸ value) x)
    else none

end Bodies

/-- A struct of the header with its functions in the source, where all structs are declared. -/
def compileStruct (header source : CppScope) (struct : CppStruct) (definition : CppDefinition) : Option CppClass := do
  if definition.name ≠ struct.name then none
  else
    let fields ← header.declare struct.fields
    let names := struct.fields.map CppField.name
    let serializeHeaderless ← source.serializeBody (fields.getter names) definition.serializeHeaderless
    let deserializeHeaderless ← source.deserializeBody (fields.setter names) definition.deserializeHeaderless
    return {
      name := struct.name
      protocolIdentifier := definition.protocolIdentifier
      hasStaticSize := struct.hasStaticSize
      staticNumberOfBits := struct.staticNumberOfBits
      fields
      serializer := {
        deserialize := fun bytes => deserializeHeaderless bytes fields.initial
        serialize := serializeHeaderless } }

structure CppProgram where
  cppNamespace : List String
  messages : List CppClass
  requests : List (CppClass × CppClass)

/-- The messages one after the other: a struct is complete behind its declaration. -/
def compileMessages (names : List String) : List CppClass → List CppStruct → List CppDefinition →
    Option (List CppClass)
  | classes, [], [] => some classes
  | classes, struct :: structs, definition :: definitions => do
    let members := struct.fields.map CppField.name
    let c ← compileStruct { members, declared := classes.map CppClass.name ++ [struct.name], classes }
      { members, declared := names, classes } struct definition
    compileMessages names (classes ++ [c]) structs definitions
  | _, _, _ => none

/-- The requests behind the messages. What a request declares, with the struct of its response, hides names in both. -/
def compileRequests (names : List String) (classes : List CppClass) : List String → List (CppStruct × CppStruct) →
    List (CppDefinition × CppDefinition) → Option (List (CppClass × CppClass))
  | _, [], [] => some []
  | before, (request, response) :: structs, (requestDefinition, responseDefinition) :: definitions => do
    let declared := before ++ [request.name]
    let members := "Response" :: request.fields.map CppField.name
    let c ← compileStruct { members, declared, classes } { members, declared := names, classes } request
      requestDefinition
    let members := members ++ response.fields.map CppField.name
    let c' ← compileStruct { members, declared, classes } { members, declared := names, classes } response
      responseDefinition
    let rest ← compileRequests names classes declared structs definitions
    return (c, c') :: rest
  | _, _, _ => none

def CppStruct.members (struct : CppStruct) : List String := struct.fields.map CppField.name

namespace CppHeader

variable (header : CppHeader)

def names : List String :=
  header.messages.map CppStruct.name ++ header.requests.map fun request => request.1.name

def structs : List CppStruct := header.messages ++ header.requests.flatMap fun request => [request.1, request.2]

def members : List String := header.structs.flatMap CppStruct.members

def typeNames : List String := header.structs.flatMap fun struct => struct.fields.flatMap fun field => field.type.names

end CppHeader

def cppKeywords : List String :=
  ["alignas", "alignof", "and", "and_eq", "asm", "auto", "bitand", "bitor", "bool", "break", "case", "catch", "char",
    "char8_t", "char16_t", "char32_t", "class", "compl", "concept", "const", "consteval", "constexpr", "constinit",
    "const_cast", "continue", "co_await", "co_return", "co_yield", "decltype", "default", "delete", "do", "double",
    "dynamic_cast", "else", "enum", "explicit", "export", "extern", "false", "float", "for", "friend", "goto", "if",
    "inline", "int", "long", "mutable", "namespace", "new", "noexcept", "not", "not_eq", "nullptr", "operator", "or",
    "or_eq", "private", "protected", "public", "register", "reinterpret_cast", "requires", "return", "short", "signed",
    "sizeof", "static", "static_assert", "static_cast", "struct", "switch", "template", "this", "thread_local", "throw",
    "true", "try", "typedef", "typeid", "typename", "union", "unsigned", "using", "virtual", "void", "volatile", "wchar_t",
    "while", "xor", "xor_eq"]

/-- What the templates write where the name of a struct stands too: its nested struct with its functions and constants,
the types of their parameters, and in the bodies the parameters, the variables and what is brought in with `using`. -/
def templateNames : List String :=
  ["Metadata", "getProtocolIdentifier", "serializeHeaderless", "deserializeHeaderless", "serializeWithHeader",
    "tryDeserializeWithHeader", "hasStaticSize", "staticNumberOfBits", "std", "uint8_t", "size_t", "bytes", "bitsOffset",
    "dynamicBytes", "dynamicBitsOffset", "dynamicNumberOfBits", "bitsPerByte", "pushBitsMostSignificant",
    "BinarySerializer", "ProtocolIdentifier", "ProtocolSize"]

/-- The same of the templates for requests. -/
def requestTemplateNames : List String := ["Response", "invokeCallback", "sequenceNumber", "callback", "Expected"]

/-- What the templates for requests write without a namespace. All templates do so with `ProtocolSize`. -/
def libraryNames : List String :=
  ["ProtocolIdentifier", "ProtocolSequenceNumber", "UniqueFunction", "RequestProtocolError"]

/-- The templates can be filled in. No name is a keyword, and none hides or is hidden by what the templates write where
it stands: the name of a struct, that of a member from inside of its struct, and a part of the namespace from inside of
the namespace. What is written without a namespace is found in that of the library, which has to be around. -/
@[mk_iff]
structure CppHeader.FitsTemplates (header : CppHeader) : Prop where
  keywords : ∀ name ∈ header.cppNamespace ++ header.names ++ header.members, name ∉ cppKeywords
  structs : ∀ name ∈ header.names, name ∉ templateNames
  requests : ∀ request ∈ header.requests, request.1.name ∉ requestTemplateNames
  messageMembers : ∀ message ∈ header.messages, ∀ member ∈ message.members,
    member ∉ [message.name, "uint8_t", "size_t", "ProtocolSize"]
  requestMembers : ∀ request ∈ header.requests, ∀ member ∈ request.1.members,
    member ∉ [request.1.name, "Response", "uint8_t", "size_t", "ProtocolSize"] ++ libraryNames
  responseMembers : ∀ request ∈ header.requests, ∀ member ∈ request.2.members,
    member ∉ [request.1.name, "Response", "uint8_t", "size_t", "UniqueFunction", "RequestProtocolError"]
  library : header.names ≠ [] → ["dansandu", "farseer"] <+: header.cppNamespace ∧
    ∀ part ∈ header.cppNamespace, part ∉ ["std", "uint8_t", "size_t", "ProtocolSize"]
  requestLibrary : header.requests ≠ [] → ∀ name ∈ header.cppNamespace ++ header.names, name ∉ libraryNames
  integers : ∀ name ∈ header.typeNames, (globalType name).isSome → name ∉ header.cppNamespace

instance (header : CppHeader) : Decidable header.FitsTemplates :=
  decidable_of_iff _ header.fitsTemplates_iff.symm

/-- No name is declared twice, and every function is defined in the namespace in which it is declared. The files that are
included are not under consideration here, so `accepts` stands for what a compiler may find in them: names that are
macros, or that are taken in the same namespace. -/
def compile (accepts : CppHeader → CppSource → Bool) (header : CppHeader) (source : CppSource) : Option CppProgram := do
  if header.names.Nodup ∧ source.cppInclude = header.cppNamespace ∧ source.cppNamespace = header.cppNamespace ∧
      header.FitsTemplates ∧ accepts header source = true then
    let messages ← compileMessages header.names [] header.messages source.messages
    let requests ← compileRequests header.names messages (messages.map CppClass.name) header.requests source.requests
    return { cppNamespace := header.cppNamespace, messages, requests }
  else none

end Farseer
