import Farseer.Schema.Definition

/-! The C++ types that the code generator emits, with every message reference replaced by
the fields of the message it names. A schema whose references cannot be resolved in order
of declaration has no layout: the generated header would not compile. -/

namespace Farseer

/-- The types that may key a `std::map`: those with `TypeDefinition::canBeMapKey`. -/
inductive KeyType
  | i32 | i64 | u32 | u64 | string
deriving DecidableEq

mutual

/-- A field type with its message references expanded. -/
inductive WireType
  | i32 | i64 | u32 | u64 | string | boolean
  | list (element : WireType)
  | map (key : KeyType) (value : WireType)
  | message (fields : WireFields)
deriving DecidableEq

inductive WireFields
  | nil
  | cons (head : WireType) (tail : WireFields)
deriving DecidableEq

end

mutual

/-- No string, list or map occurs in the type. -/
def WireType.isStatic : WireType → Bool
  | .i32 | .i64 | .u32 | .u64 | .boolean => true
  | .string | .list _ | .map .. => false
  | .message fields => fields.isStatic

def WireFields.isStatic : WireFields → Bool
  | .nil => true
  | .cons head tail => head.isStatic && tail.isStatic

end

mutual

/-- The sum of the bit widths in the type, strings, lists and maps not counted. -/
def WireType.staticBits : WireType → ℕ
  | .i32 | .u32 => 32
  | .i64 | .u64 => 64
  | .boolean => 1
  | .string | .list _ | .map .. => 0
  | .message fields => fields.staticBits

def WireFields.staticBits : WireFields → ℕ
  | .nil => 0
  | .cons head tail => head.staticBits + tail.staticBits

end

/-- The fields of the messages declared so far, by name. -/
abbrev MessageLayouts := List (String × WireFields)

def expandKey : TypeDefinition → Option KeyType
  | .simple .i32 => some .i32
  | .simple .i64 => some .i64
  | .simple .u32 => some .u32
  | .simple .u64 => some .u64
  | .simple .string => some .string
  | _ => none

def expandType (layouts : MessageLayouts) : TypeDefinition → Option WireType
  | .simple .i32 => some .i32
  | .simple .i64 => some .i64
  | .simple .u32 => some .u32
  | .simple .u64 => some .u64
  | .simple .string => some .string
  | .simple .boolean => some .boolean
  | .message name _ _ => (layouts.lookup name).map .message
  | .list subtype => (expandType layouts subtype).map .list
  | .map key value => do
    let key ← expandKey key
    let value ← expandType layouts value
    return .map key value

def expandFields (layouts : MessageLayouts) : List FieldDefinition → Option WireFields
  | [] => some .nil
  | field :: fields => do
    let head ← expandType layouts field.typeDefinition
    let tail ← expandFields layouts fields
    return .cons head tail

/-- Each message sees the messages declared before it. -/
def expandMessages : List MessageProtocolDefinition → MessageLayouts → Option MessageLayouts
  | [], layouts => some layouts
  | message :: messages, layouts => do
    let fields ← expandFields layouts message.fields
    expandMessages messages (layouts ++ [(message.name, fields)])

structure RequestLayout where
  name : String
  request : WireFields
  response : WireFields
deriving DecidableEq

def expandRequest (layouts : MessageLayouts) (request : RequestProtocolDefinition) :
    Option RequestLayout := do
  let requestFields ← expandFields layouts request.requestFields
  let responseFields ← expandFields layouts request.responseFields
  return { name := request.name, request := requestFields, response := responseFields }

/-- The expanded messages and requests of a schema, in order. -/
structure ProtocolLayout where
  messages : MessageLayouts
  requests : List RequestLayout
deriving DecidableEq

def ProtocolDefinition.expand (protocol : ProtocolDefinition) : Option ProtocolLayout := do
  let messages ← expandMessages protocol.messages []
  let requests ← protocol.requests.mapM (expandRequest messages)
  return { messages, requests }

end Farseer
