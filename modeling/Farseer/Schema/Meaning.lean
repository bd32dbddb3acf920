import Farseer.Schema.Grammar

/-! What a syntax means, and what is checked of it while it is parsed. -/

namespace Farseer

/-- The definition of a type after the given messages. A reference takes its sizes from the message it
names; where there is none, the text is not accepted, and the sizes do not matter. -/
def TypeSyntax.definition (messages : List MessageProtocolDefinition) : TypeSyntax → TypeDefinition
  | .simple type => .simple type
  | .list subtype => .list (subtype.definition messages)
  | .map key value => .map (key.definition messages) (value.definition messages)
  | .reference messageName =>
    match messages.find? (·.name = messageName) with
    | some message => .message messageName message.hasStaticSize message.getStaticNumberOfBits
    | none => .message messageName false 0

def FieldSyntax.definition (messages : List MessageProtocolDefinition) (field : FieldSyntax) : FieldDefinition where
  typeDefinition := field.type.definition messages
  name := field.name

def DefinitionSyntax.addTo (protocol : ProtocolDefinition) : DefinitionSyntax → ProtocolDefinition
  | .message name fields =>
    { protocol with messages := protocol.messages ++
        [{ fileNamespace := protocol.fileNamespace, name,
           fields := fields.map (FieldSyntax.definition protocol.messages) }] }
  | .request name requestFields responseFields =>
    { protocol with requests := protocol.requests ++
        [{ fileNamespace := protocol.fileNamespace, name,
           requestFields := requestFields.map (FieldSyntax.definition protocol.messages)
           responseFields := responseFields.map (FieldSyntax.definition protocol.messages) }] }

def ProtocolSyntax.definition (protocol : ProtocolSyntax) : ProtocolDefinition :=
  protocol.definitions.foldl DefinitionSyntax.addTo
    { fileNamespace := protocol.fileNamespace, messages := [], requests := [] }

/-- Every key of a map is an integer or a string. -/
def TypeSyntax.KeysAllowed : TypeSyntax → Prop
  | .simple _ | .reference _ => True
  | .list subtype => subtype.KeysAllowed
  | .map key value => (∃ type, key = .simple type ∧ type ≠ .boolean) ∧ value.KeysAllowed

/-- The messages that a type refers to, at any depth. -/
def TypeSyntax.references : TypeSyntax → List String
  | .simple _ => []
  | .list subtype => subtype.references
  | .map key value => key.references ++ value.references
  | .reference messageName => [messageName]

namespace DefinitionSyntax

def name : DefinitionSyntax → String
  | message name _ | request name _ _ => name

/-- The lists of fields: of a message, or of the request part and the response part. -/
def parts : DefinitionSyntax → List (List FieldSyntax)
  | message _ fields => [fields]
  | request _ requestFields responseFields => [requestFields, responseFields]

def types (definition : DefinitionSyntax) : List TypeSyntax := definition.parts.flatten.map FieldSyntax.type

def references (definition : DefinitionSyntax) : List String := definition.types.flatMap TypeSyntax.references

def messageNames : DefinitionSyntax → List String
  | message name _ => [name]
  | request .. => []

/-- Its names in the order in which the parser meets them. -/
def names (definition : DefinitionSyntax) : List String :=
  definition.name :: definition.parts.flatten.flatMap fun field => field.type.references ++ [field.name]

end DefinitionSyntax

/-- What is checked while a type is parsed. -/
structure TypeSyntax.Checked (messageNames : List String) (type : TypeSyntax) : Prop where
  names : ∀ name ∈ type.references, name ∉ reservedIdentifierNames
  keys : type.KeysAllowed
  references : ∀ name ∈ type.references, name ∈ messageNames

def FieldsChecked (messageNames : List String) (fields : List FieldSyntax) : Prop :=
  ∀ field ∈ fields, field.type.Checked messageNames ∧ field.name ∉ reservedIdentifierNames

structure DefinitionSyntax.Checked (messageNames : List String) (definition : DefinitionSyntax) : Prop where
  name : definition.name ∉ reservedIdentifierNames
  parts : ∀ fields ∈ definition.parts, FieldsChecked messageNames fields

/-- What is checked while definitions are parsed one after the other: each sees the messages before it. -/
def DefinitionsChecked : List String → List DefinitionSyntax → Prop
  | _, [] => True
  | messageNames, definition :: definitions =>
    definition.Checked messageNames ∧ DefinitionsChecked (messageNames ++ definition.messageNames) definitions

theorem definitionsChecked_concat {messageNames : List String} {definitions : List DefinitionSyntax}
    {definition : DefinitionSyntax} :
    DefinitionsChecked messageNames (definitions ++ [definition]) ↔ DefinitionsChecked messageNames definitions ∧
      definition.Checked (messageNames ++ definitions.flatMap DefinitionSyntax.messageNames) := by
  induction definitions generalizing messageNames with
  | nil => simp [DefinitionsChecked]
  | cons first definitions ih =>
    rw [List.cons_append, DefinitionsChecked, ih, DefinitionsChecked, and_assoc, List.flatMap_cons, List.append_assoc]

end Farseer
