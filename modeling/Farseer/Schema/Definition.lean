import Farseer.Common

/-! The schema language after parsing: type trees, fields, messages and requests,
with the static sizes and hash codes computed from them. -/

namespace Farseer

inductive SchemaType
  | i32 | i64 | u32 | u64 | string | boolean | list | map | message
deriving DecidableEq

inductive SimpleType
  | i32 | i64 | u32 | u64 | string | boolean
deriving DecidableEq

def SimpleType.toType : SimpleType → SchemaType
  | .i32 => .i32
  | .i64 => .i64
  | .u32 => .u32
  | .u64 => .u64
  | .string => .string
  | .boolean => .boolean

def SchemaType.toString : SchemaType → String
  | .i32 => "i32"
  | .i64 => "i64"
  | .u32 => "u32"
  | .u64 => "u64"
  | .string => "string"
  | .boolean => "bool"
  | .list => "list"
  | .map => "map"
  | .message => "message"

def SchemaType.getStaticNumberOfBits : SchemaType → Except Exception ProtocolSize
  | .i32 => .ok 32
  | .i64 => .ok 64
  | .u32 => .ok 32
  | .u64 => .ok 64
  | .string => .error (.logicError "string is not a static type")
  | .boolean => .ok 1
  | .list => .error (.logicError "list is not a static type")
  | .map => .error (.logicError "map is not a static type")
  | .message => .error (.logicError "message is not a static type")

/-- `class TypeDefinition`: its constructor is private, so a value is what one of the
factories `fromSimple`, `fromMessage`, `fromList` and `fromMap` builds. A reference to a
message caches the static size that the message had when the reference was parsed. -/
inductive TypeDefinition
  | simple (type : SimpleType)
  | message (name : String) (hasStaticSize : Bool) (staticNumberOfBits : ProtocolSize)
  | list (subtype : TypeDefinition)
  | map (key value : TypeDefinition)
deriving DecidableEq

namespace TypeDefinition

def fromSimple : SchemaType → Except Exception TypeDefinition
  | .i32 => .ok (.simple .i32)
  | .i64 => .ok (.simple .i64)
  | .u32 => .ok (.simple .u32)
  | .u64 => .ok (.simple .u64)
  | .string => .ok (.simple .string)
  | .boolean => .ok (.simple .boolean)
  | .list | .map | .message =>
    .error (.logicError "this constructor cannot be used for list, map or message types")

def fromMessage (name : String) (hasStaticSize : Bool) (staticNumberOfBits : ProtocolSize) :
    TypeDefinition := .message name hasStaticSize staticNumberOfBits

def fromList (subtype : TypeDefinition) : TypeDefinition := .list subtype

def fromMap (key value : TypeDefinition) : TypeDefinition := .map key value

def getType : TypeDefinition → SchemaType
  | .simple type => type.toType
  | .message .. => .message
  | .list _ => .list
  | .map .. => .map

def getName : TypeDefinition → String
  | .message name .. => name
  | _ => ""

def getSubtypes : TypeDefinition → List TypeDefinition
  | .list subtype => [subtype]
  | .map key value => [key, value]
  | _ => []

def toString : TypeDefinition → String
  | .list subtype => "list<" ++ subtype.toString ++ ">"
  | .map key value => "map<" ++ key.toString ++ ", " ++ value.toString ++ ">"
  | .message name .. => name
  | .simple type => type.toType.toString

def hasStaticSize : TypeDefinition → Bool
  | .simple type => type != .string
  | .message _ hasStaticSize _ => hasStaticSize
  | .list _ | .map .. => false

def getStaticNumberOfBits : TypeDefinition → ProtocolSize
  | .simple .i32 => 32
  | .simple .i64 => 64
  | .simple .u32 => 32
  | .simple .u64 => 64
  | .simple .string => 0
  | .simple .boolean => 1
  | .message _ _ staticNumberOfBits => staticNumberOfBits
  | .list _ | .map .. => 0

theorem fromSimple_staticNumberOfBits {type : SchemaType} {t : TypeDefinition} (h : fromSimple type = .ok t)
    (hstatic : t.hasStaticSize = true) : type.getStaticNumberOfBits = .ok t.getStaticNumberOfBits := by
  cases type <;> cases h <;> first | rfl | cases hstatic

def canBeMapKey (type : TypeDefinition) : Bool :=
  match type.getType with
  | .i32 | .i64 | .u32 | .u64 | .string => true
  | _ => false

end TypeDefinition

structure FieldDefinition where
  typeDefinition : TypeDefinition
  name : String
deriving DecidableEq

def FieldDefinition.hasStaticSize (field : FieldDefinition) : Bool := field.typeDefinition.hasStaticSize

def FieldDefinition.getStaticNumberOfBits (field : FieldDefinition) : ProtocolSize :=
  field.typeDefinition.getStaticNumberOfBits

structure MessageProtocolDefinition where
  fileNamespace : String
  name : String
  fields : List FieldDefinition
deriving DecidableEq

structure RequestProtocolDefinition where
  fileNamespace : String
  name : String
  requestFields : List FieldDefinition
  responseFields : List FieldDefinition
deriving DecidableEq

structure ProtocolDefinition where
  fileNamespace : String
  messages : List MessageProtocolDefinition
  requests : List RequestProtocolDefinition
deriving DecidableEq

/-- `std::all_of` over the fields, which messages, requests and responses share. -/
def fieldsHaveStaticSize (fields : List FieldDefinition) : Bool :=
  fields.all FieldDefinition.hasStaticSize

/-- `std::accumulate` over the fields with the wrapping addition of `ProtocolSize`. -/
def fieldsStaticNumberOfBits (fields : List FieldDefinition) : ProtocolSize :=
  fields.foldl (fun total field => total + field.getStaticNumberOfBits) 0

def MessageProtocolDefinition.hasStaticSize (message : MessageProtocolDefinition) : Bool :=
  fieldsHaveStaticSize message.fields

def MessageProtocolDefinition.getStaticNumberOfBits (message : MessageProtocolDefinition) : ProtocolSize :=
  fieldsStaticNumberOfBits message.fields

def RequestProtocolDefinition.requestHasStaticSize (request : RequestProtocolDefinition) : Bool :=
  fieldsHaveStaticSize request.requestFields

def RequestProtocolDefinition.getRequestStaticNumberOfBits (request : RequestProtocolDefinition) :
    ProtocolSize := fieldsStaticNumberOfBits request.requestFields

def RequestProtocolDefinition.responseHasStaticSize (request : RequestProtocolDefinition) : Bool :=
  fieldsHaveStaticSize request.responseFields

def RequestProtocolDefinition.getResponseStaticNumberOfBits (request : RequestProtocolDefinition) :
    ProtocolSize := fieldsStaticNumberOfBits request.responseFields

/-- The hash functions of ballotin over the hash codes `H`; in the program `H` is `uint32_t`. -/
class Hashing (H : Type) where
  ofType : SchemaType → H
  ofString : String → H
  ofNumber : UInt32 → H
  hashCombine : H → H → H

open Hashing

variable {H : Type} [Hashing H]

/-- `TypeDefinition::getHashCode`. The results of `hashCombine(hashCode, ...)` for the name
and the subtypes are discarded, so the type tag alone is hashed. -/
def TypeDefinition.getHashCode (type : TypeDefinition) : H := ofType type.getType

def FieldDefinition.getHashCode (typeHash : TypeDefinition → H) (field : FieldDefinition) : H :=
  hashCombine (typeHash field.typeDefinition) (ofString field.name)

def MessageProtocolDefinition.getHashCode (typeHash : TypeDefinition → H)
    (message : MessageProtocolDefinition) : H :=
  message.fields.foldl (fun hashCode field => hashCombine hashCode (field.getHashCode typeHash))
    (hashCombine (ofString message.fileNamespace) (ofString message.name))

def RequestProtocolDefinition.getRequestHashCode (typeHash : TypeDefinition → H)
    (request : RequestProtocolDefinition) : H :=
  let hashCode := hashCombine (ofString request.fileNamespace) (ofString request.name)
  let hashCode := request.requestFields.foldl
    (fun hashCode field => hashCombine hashCode (field.getHashCode typeHash)) hashCode
  request.responseFields.foldl
    (fun hashCode field => hashCombine hashCode (field.getHashCode typeHash)) hashCode

def RequestProtocolDefinition.getResponseHashCode (typeHash : TypeDefinition → H)
    (request : RequestProtocolDefinition) : H :=
  hashCombine (request.getRequestHashCode typeHash) (ofNumber 0x496706CB)

end Farseer
