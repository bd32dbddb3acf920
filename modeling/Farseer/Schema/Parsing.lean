import Farseer.Schema.Validation

/-! `parseProtocolDefinition`. The tokenizer and the LR parser belong to glyph: they are the
parameter `glyph`, which turns a text into the tokens and reductions it was parsed with. -/

namespace Farseer

/-- The terminal symbols of the protocol grammar. -/
inductive Symbol
  | semicolon | bracesBegin | bracesEnd | angleBracketBegin | angleBracketEnd | comma
  | module | namespace | message | request | response
  | i32 | i64 | u32 | u64 | string | bool | list | map | name
deriving DecidableEq

structure Token where
  symbol : Symbol
  beginIndex : ℕ
  endIndex : ℕ
deriving DecidableEq

/-- A node of a parse: a token that was shifted, or the index of a rule that was reduced. -/
inductive Node
  | token (token : Token)
  | rule (ruleIndex : ℕ)
deriving DecidableEq

def reservedIdentifierNames : List String :=
  ["Response", "static", "module", "namespace", "template", "typename", "if", "else",
    "switch", "while", "for", "class", "struct", "char", "short", "unsigned",
    "int", "long", "float", "double", "const", "constexpr", "consteval", "this",
    "decltype", "default", "delete", "Metadata", "auto", "std", "list", "map"]

/-- The variables of the loop over the nodes. The top of a stack is its head; `fields` and
`requestFields` are in order. -/
structure ParserState where
  tokens : List Token
  typeDefinitions : List TypeDefinition
  fields : List FieldDefinition
  requestFields : List FieldDefinition
  protocol : ProtocolDefinition

def ParserState.initial : ParserState :=
  { tokens := [], typeDefinitions := [], fields := [], requestFields := [],
    protocol := { fileNamespace := "", messages := [], requests := [] } }

def pop {α : Type} : List α → Except Exception (α × List α)
  | [] => throw (.logicError "cannot pop empty stack")
  | value :: stack => pure (value, stack)

def getTokenText (text : String) (token : Token) : String :=
  String.ofList ((text.toList.drop token.beginIndex).take (token.endIndex - token.beginIndex))

def parseToken (text : String) (token : Token) (state : ParserState) : Except Exception ParserState :=
  if token.symbol = .module ∨ token.symbol = .name then
    if token.symbol = .name ∧ getTokenText text token ∈ reservedIdentifierNames then
      throw (.reservedNameError ("the name '" ++ getTokenText text token ++ "' is a reserved"))
    else pure { state with tokens := token :: state.tokens }
  else pure state

def pushSimple (type : SchemaType) (state : ParserState) : Except Exception ParserState := do
  let typeDefinition ← TypeDefinition.fromSimple type
  return { state with typeDefinitions := typeDefinition :: state.typeDefinitions }

def parseRule (text : String) (state : ParserState) : ℕ → Except Exception ParserState
  | 2 => do
    let (token, tokens) ← pop state.tokens
    return { state with
      tokens, protocol := { state.protocol with fileNamespace := getTokenText text token } }
  | 6 => do
    let (token, tokens) ← pop state.tokens
    return { state with
      tokens, fields := [],
      protocol := { state.protocol with messages := state.protocol.messages ++
        [{ fileNamespace := state.protocol.fileNamespace, name := getTokenText text token,
           fields := state.fields }] } }
  | 7 => do
    let (token, tokens) ← pop state.tokens
    return { state with
      tokens, requestFields := [], fields := [],
      protocol := { state.protocol with requests := state.protocol.requests ++
        [{ fileNamespace := state.protocol.fileNamespace, name := getTokenText text token,
           requestFields := state.requestFields, responseFields := state.fields }] } }
  | 8 => pure { state with requestFields := state.fields, fields := [] }
  | 9 => do
    let (typeDefinition, typeDefinitions) ← pop state.typeDefinitions
    let (token, tokens) ← pop state.tokens
    return { state with
      typeDefinitions, tokens,
      fields := state.fields ++ [{ typeDefinition, name := getTokenText text token }] }
  | 11 => pushSimple .i32 state
  | 12 => pushSimple .i64 state
  | 13 => pushSimple .u32 state
  | 14 => pushSimple .u64 state
  | 15 => pushSimple .string state
  | 16 => pushSimple .boolean state
  | 17 => do
    let (subtype, typeDefinitions) ← pop state.typeDefinitions
    return { state with typeDefinitions := .fromList subtype :: typeDefinitions }
  | 18 => do
    let (value, typeDefinitions) ← pop state.typeDefinitions
    let (key, typeDefinitions) ← pop typeDefinitions
    if key.canBeMapKey then
      pure { state with typeDefinitions := .fromMap key value :: typeDefinitions }
    else
      throw (.invalidMapKeyError ("Type '" ++ key.toString ++ "' cannot be used as a map key"))
  | 19 => do
    let (token, tokens) ← pop state.tokens
    let referencedMessageName := getTokenText text token
    match state.protocol.messages.find? (·.name = referencedMessageName) with
    | none =>
      throw (.messageNameNotDefinedError ("message '" ++ referencedMessageName ++ "' was not defined"))
    | some referencedMessage =>
      return { state with
        tokens,
        typeDefinitions := .fromMessage referencedMessageName referencedMessage.hasStaticSize
          referencedMessage.getStaticNumberOfBits :: state.typeDefinitions }
  | 0 | 1 | 3 | 4 | 5 | 10 => pure state
  | ruleIndex =>
    throw (.logicError ("production rule " ++ ruleIndex.repr ++ " was not exhausted"))

def parseNode (text : String) (state : ParserState) : Node → Except Exception ParserState
  | .token token => parseToken text token state
  | .rule ruleIndex => parseRule text state ruleIndex

def parseProtocolDefinition (glyph : String → Except Exception (List Node)) (text : String) :
    Except Exception ProtocolDefinition := do
  let nodes ← glyph text
  let state ← nodes.foldlM (parseNode text) ParserState.initial
  validateProtocolDefinition state.protocol
  return state.protocol

end Farseer
