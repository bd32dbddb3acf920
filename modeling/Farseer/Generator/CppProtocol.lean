import Farseer.Schema.Definition

/-! The C++ that is generated for a schema: the structs of the header, the functions of the source and the registrations.
The templates are the same for every schema, and what the functions in them do stands in `Codec/Header`; here are the
parts that depend on the schema. -/

namespace Farseer

inductive CppTypeName
  | named (name : String)
  | boolean
  | string
  | vector (element : CppTypeName)
  | map (key value : CppTypeName)
deriving DecidableEq

def TypeDefinition.getCppType : TypeDefinition → CppTypeName
  | .simple .i32 => .named "int32_t"
  | .simple .i64 => .named "int64_t"
  | .simple .u32 => .named "uint32_t"
  | .simple .u64 => .named "uint64_t"
  | .simple .string => .string
  | .simple .boolean => .boolean
  | .list subtype => .vector subtype.getCppType
  | .map key value => .map key.getCppType value.getCppType
  | .message name .. => .named name

structure CppField where
  type : CppTypeName
  name : String
deriving DecidableEq

/-- `BinarySerializer<type>` is called for a member: its value is serialized, or it is assigned what is deserialized. -/
structure CppCall where
  type : CppTypeName
  field : String
deriving DecidableEq

def FieldDefinition.cppField (field : FieldDefinition) : CppField where
  type := field.typeDefinition.getCppType
  name := field.name

def FieldDefinition.cppCall (field : FieldDefinition) : CppCall where
  type := field.typeDefinition.getCppType
  field := field.name

/-- `split(fileNamespace, ".")` -/
def splitNamespace (fileNamespace : String) : List String := (fileNamespace.toList.splitOn '.').map String.ofList

structure CppStruct where
  name : String
  hasStaticSize : Bool
  staticNumberOfBits : ProtocolSize
  fields : List CppField
deriving DecidableEq

/-- The struct of a response stands in that of the request, behind its members. -/
structure CppHeader where
  cppNamespace : List String
  messages : List CppStruct
  requests : List (CppStruct × CppStruct)
deriving DecidableEq

def responseName (requestName : String) : String := requestName ++ "::Response"

def generateMessages (messages : List MessageProtocolDefinition) : List CppStruct :=
  messages.map fun message =>
    { name := message.name
      hasStaticSize := message.hasStaticSize
      staticNumberOfBits := message.getStaticNumberOfBits
      fields := message.fields.map FieldDefinition.cppField }

def generateRequests (requests : List RequestProtocolDefinition) : List (CppStruct × CppStruct) :=
  requests.map fun request =>
    ({ name := request.name
       hasStaticSize := request.requestHasStaticSize
       staticNumberOfBits := request.getRequestStaticNumberOfBits
       fields := request.requestFields.map FieldDefinition.cppField },
     { name := responseName request.name
       hasStaticSize := request.responseHasStaticSize
       staticNumberOfBits := request.getResponseStaticNumberOfBits
       fields := request.responseFields.map FieldDefinition.cppField })

def generateProtocolCppHeader (protocol : ProtocolDefinition) : CppHeader where
  cppNamespace := splitNamespace protocol.fileNamespace
  messages := generateMessages protocol.messages
  requests := generateRequests protocol.requests

/-- What the functions of a `Metadata` are defined to do: `getProtocolIdentifier` returns a constant, and
`serializeHeaderless` and `deserializeHeaderless` make a call for one member after the other. -/
structure CppDefinition where
  name : String
  protocolIdentifier : ProtocolIdentifier
  serializeHeaderless : List CppCall
  deserializeHeaderless : List CppCall
deriving DecidableEq

/-- The calls to the global registry at the start of the program, with the name of the struct in its namespace. -/
inductive CppRegistration
  | registerMessageProtocol (cppNamespace : List String) (name : String)
  | registerRequestProtocol (cppNamespace : List String) (name : String)
deriving DecidableEq

structure CppSource where
  cppInclude : List String
  cppNamespace : List String
  messages : List CppDefinition
  requests : List (CppDefinition × CppDefinition)
  registrations : List CppRegistration
deriving DecidableEq

section Hashed

variable [Hashing ProtocolIdentifier]

def generateMessageMetadataDefinition (message : MessageProtocolDefinition) : CppDefinition where
  name := message.name
  protocolIdentifier := message.getHashCode TypeDefinition.getHashCode
  serializeHeaderless := message.fields.map FieldDefinition.cppCall
  deserializeHeaderless := message.fields.map FieldDefinition.cppCall

def generateRequestMetadataDefinition (request : RequestProtocolDefinition) : CppDefinition where
  name := request.name
  protocolIdentifier := request.getRequestHashCode TypeDefinition.getHashCode
  serializeHeaderless := request.requestFields.map FieldDefinition.cppCall
  deserializeHeaderless := request.requestFields.map FieldDefinition.cppCall

def generateResponseMetadataDefinition (request : RequestProtocolDefinition) : CppDefinition where
  name := responseName request.name
  protocolIdentifier := request.getResponseHashCode TypeDefinition.getHashCode
  serializeHeaderless := request.responseFields.map FieldDefinition.cppCall
  deserializeHeaderless := request.responseFields.map FieldDefinition.cppCall

def generateProtocolCppSource (protocol : ProtocolDefinition) : CppSource :=
  let cppNamespace := splitNamespace protocol.fileNamespace
  { cppInclude := splitNamespace protocol.fileNamespace
    cppNamespace
    messages := protocol.messages.map generateMessageMetadataDefinition
    requests := protocol.requests.map fun request =>
      (generateRequestMetadataDefinition request, generateResponseMetadataDefinition request)
    registrations :=
      protocol.messages.map (fun message => .registerMessageProtocol cppNamespace message.name) ++
        protocol.requests.map fun request => .registerRequestProtocol cppNamespace request.name }

end Hashed

end Farseer
