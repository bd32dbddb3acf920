import Farseer.Lib.BottomUp
import Farseer.Schema.Parsing

/-! `protocolGrammar`, and the syntax that its derivations read. -/

namespace Farseer

inductive Nonterminal
  | start | protocolDefinition | namespaceDefinition | protocols | messageDefinition | requestDefinition
  | requestFields | fields | type
deriving DecidableEq

open Nonterminal in
/-- The rules, under their indices. -/
def protocolGrammar : List (ContextFreeRule Symbol Nonterminal) :=
  [ /- 0 -/ ⟨start, [.nonterminal protocolDefinition]⟩,
   /- 1 -/ ⟨protocolDefinition, [.nonterminal namespaceDefinition, .nonterminal protocols]⟩,
   /- 2 -/ ⟨namespaceDefinition, [.terminal .namespace, .terminal .module, .terminal .semicolon]⟩,
   /- 3 -/ ⟨protocols, [.nonterminal protocols, .nonterminal messageDefinition]⟩,
   /- 4 -/ ⟨protocols, [.nonterminal protocols, .nonterminal requestDefinition]⟩,
   /- 5 -/ ⟨protocols, []⟩,
   /- 6 -/ ⟨messageDefinition, [.terminal .message, .terminal .name, .terminal .bracesBegin, .nonterminal fields,
      .terminal .bracesEnd]⟩,
   /- 7 -/ ⟨requestDefinition, [.terminal .request, .terminal .name, .terminal .bracesBegin,
      .nonterminal requestFields, .terminal .response, .terminal .bracesBegin, .nonterminal fields,
      .terminal .bracesEnd, .terminal .bracesEnd]⟩,
   /- 8 -/ ⟨requestFields, [.nonterminal fields]⟩,
   /- 9 -/ ⟨fields, [.nonterminal fields, .nonterminal type, .terminal .name, .terminal .semicolon]⟩,
   /- 10 -/ ⟨fields, []⟩,
   /- 11 -/ ⟨type, [.terminal .i32]⟩,
   /- 12 -/ ⟨type, [.terminal .i64]⟩,
   /- 13 -/ ⟨type, [.terminal .u32]⟩,
   /- 14 -/ ⟨type, [.terminal .u64]⟩,
   /- 15 -/ ⟨type, [.terminal .string]⟩,
   /- 16 -/ ⟨type, [.terminal .bool]⟩,
   /- 17 -/ ⟨type, [.terminal .list, .terminal .angleBracketBegin, .nonterminal type, .terminal .angleBracketEnd]⟩,
   /- 18 -/ ⟨type, [.terminal .map, .terminal .angleBracketBegin, .nonterminal type, .terminal .comma,
      .nonterminal type, .terminal .angleBracketEnd]⟩,
   /- 19 -/ ⟨type, [.terminal .name]⟩]

def Parses (n : Nonterminal) (nodes : List Node) : Prop :=
  BottomUp.Parses protocolGrammar Token.symbol Node.token Node.rule (.nonterminal n) nodes

inductive TypeSyntax
  | simple (type : SimpleType)
  | list (subtype : TypeSyntax)
  | map (key value : TypeSyntax)
  | reference (messageName : String)
deriving DecidableEq

structure FieldSyntax where
  type : TypeSyntax
  name : String
deriving DecidableEq

inductive DefinitionSyntax
  | message (name : String) (fields : List FieldSyntax)
  | request (name : String) (requestFields responseFields : List FieldSyntax)
deriving DecidableEq

structure ProtocolSyntax where
  fileNamespace : String
  definitions : List DefinitionSyntax
deriving DecidableEq

def SimpleType.symbol : SimpleType → Symbol
  | .i32 => .i32
  | .i64 => .i64
  | .u32 => .u32
  | .u64 => .u64
  | .string => .string
  | .boolean => .bool

def SimpleType.ruleIndex : SimpleType → ℕ
  | .i32 => 11
  | .i64 => 12
  | .u32 => 13
  | .u64 => 14
  | .string => 15
  | .boolean => 16

section Reads

variable (text : String)

inductive ReadsType : TypeSyntax → List Node → Prop
  | simple (type : SimpleType) (keyword : Token) (hkeyword : keyword.symbol = type.symbol) :
    ReadsType (.simple type) [.token keyword, .rule type.ruleIndex]
  | list (subtype : TypeSyntax) (nodes : List Node) (list opening closing : Token) (hlist : list.symbol = .list)
      (hopening : opening.symbol = .angleBracketBegin) (hclosing : closing.symbol = .angleBracketEnd)
      (h : ReadsType subtype nodes) :
    ReadsType (.list subtype) ([.token list, .token opening] ++ nodes ++ [.token closing, .rule 17])
  | map (key value : TypeSyntax) (keyNodes valueNodes : List Node) (map opening comma closing : Token)
      (hmap : map.symbol = .map) (hopening : opening.symbol = .angleBracketBegin) (hcomma : comma.symbol = .comma)
      (hclosing : closing.symbol = .angleBracketEnd) (hkey : ReadsType key keyNodes)
      (hvalue : ReadsType value valueNodes) :
    ReadsType (.map key value)
      ([.token map, .token opening] ++ keyNodes ++ [.token comma] ++ valueNodes ++ [.token closing, .rule 18])
  | reference (name : Token) (hname : name.symbol = .name) :
    ReadsType (.reference (getTokenText text name)) [.token name, .rule 19]

inductive ReadsFields : List FieldSyntax → List Node → Prop
  | nil : ReadsFields [] [.rule 10]
  | field (fields : List FieldSyntax) (type : TypeSyntax) (nodes typeNodes : List Node) (name semicolon : Token)
      (hname : name.symbol = .name) (hsemicolon : semicolon.symbol = .semicolon) (hfields : ReadsFields fields nodes)
      (htype : ReadsType text type typeNodes) :
    ReadsFields (fields ++ [{ type, name := getTokenText text name }])
      (nodes ++ typeNodes ++ [.token name, .token semicolon, .rule 9])

inductive ReadsDefinition : DefinitionSyntax → List Node → Prop
  | message (fields : List FieldSyntax) (nodes : List Node) (message name opening closing : Token)
      (hmessage : message.symbol = .message) (hname : name.symbol = .name)
      (hopening : opening.symbol = .bracesBegin) (hclosing : closing.symbol = .bracesEnd)
      (h : ReadsFields text fields nodes) :
    ReadsDefinition (.message (getTokenText text name) fields)
      ([.token message, .token name, .token opening] ++ nodes ++ [.token closing, .rule 6])
  | request (requestFields responseFields : List FieldSyntax) (requestNodes responseNodes : List Node)
      (request name opening response opening' closing' closing : Token) (hrequest : request.symbol = .request)
      (hname : name.symbol = .name) (hopening : opening.symbol = .bracesBegin)
      (hresponse : response.symbol = .response) (hopening' : opening'.symbol = .bracesBegin)
      (hclosing' : closing'.symbol = .bracesEnd) (hclosing : closing.symbol = .bracesEnd)
      (h : ReadsFields text requestFields requestNodes) (h' : ReadsFields text responseFields responseNodes) :
    ReadsDefinition (.request (getTokenText text name) requestFields responseFields)
      ([.token request, .token name, .token opening] ++ requestNodes ++
        [.rule 8, .token response, .token opening'] ++ responseNodes ++
        [.token closing', .token closing, .rule 7])

/-- The rule that adds a definition to those before it. -/
def DefinitionSyntax.ruleIndex : DefinitionSyntax → ℕ
  | .message .. => 3
  | .request .. => 4

inductive ReadsDefinitions : List DefinitionSyntax → List Node → Prop
  | nil : ReadsDefinitions [] [.rule 5]
  | definition (definitions : List DefinitionSyntax) (definition : DefinitionSyntax)
      (nodes definitionNodes : List Node) (h : ReadsDefinitions definitions nodes)
      (h' : ReadsDefinition text definition definitionNodes) :
    ReadsDefinitions (definitions ++ [definition]) (nodes ++ definitionNodes ++ [.rule definition.ruleIndex])

/-- The syntax that a derivation of a whole text reads. -/
inductive ReadsProtocol : ProtocolSyntax → List Node → Prop
  | protocol (definitions : List DefinitionSyntax) (nodes : List Node) (namespaceToken module semicolon : Token)
      (hnamespace : namespaceToken.symbol = .namespace) (hmodule : module.symbol = .module)
      (hsemicolon : semicolon.symbol = .semicolon) (h : ReadsDefinitions text definitions nodes) :
    ReadsProtocol { fileNamespace := getTokenText text module, definitions }
      ([.token namespaceToken, .token module, .token semicolon, .rule 2] ++ nodes ++ [.rule 1, .rule 0])

end Reads

section Inversion

open BottomUp

variable {text : String} {nodes : List Node}

theorem ruleIndex_lt {i : ℕ} {rule : ContextFreeRule Symbol Nonterminal}
    (h : protocolGrammar[i]? = some rule) : i < 20 := (List.getElem?_eq_some_iff.mp h).1

theorem parses_keyword {type : SimpleType} {nodes : List Node}
    (h : ParsesAll protocolGrammar Token.symbol Node.token Node.rule [.terminal type.symbol] nodes) :
    ReadsType text (.simple type) (nodes ++ [.rule type.ruleIndex]) := by
  obtain ⟨keyword, rest, hkeyword, rfl, hrest⟩ := parsesAll_terminal.mp h
  obtain rfl := parsesAll_nil.mp hrest
  exact .simple type keyword hkeyword

theorem Parses.type (n : ℕ) (h : Parses .type nodes) (hn : nodes.length ≤ n) : ∃ type, ReadsType text type nodes := by
  induction n generalizing nodes with
  | zero =>
    obtain ⟨i, rule, nodes, -, -, -, rfl⟩ := parses_nonterminal.mp h
    simp at hn
  | succ n ih =>
    obtain ⟨i, rule, nodes, hrule, hinput, houtput, rfl⟩ := parses_nonterminal.mp h
    have hi := ruleIndex_lt hrule
    interval_cases i <;> cases hrule <;> cases hinput
    · exact ⟨.simple .i32, parses_keyword houtput⟩
    · exact ⟨.simple .i64, parses_keyword houtput⟩
    · exact ⟨.simple .u32, parses_keyword houtput⟩
    · exact ⟨.simple .u64, parses_keyword houtput⟩
    · exact ⟨.simple .string, parses_keyword houtput⟩
    · exact ⟨.simple .boolean, parses_keyword houtput⟩
    · obtain ⟨list, rest, hlist, rfl, h1⟩ := parsesAll_terminal.mp houtput
      obtain ⟨opening, rest, hopening, rfl, h2⟩ := parsesAll_terminal.mp h1
      obtain ⟨subtypeNodes, rest, rfl, hsubtype, h3⟩ := parsesAll_cons.mp h2
      obtain ⟨closing, rest, hclosing, rfl, h4⟩ := parsesAll_terminal.mp h3
      obtain rfl := parsesAll_nil.mp h4
      obtain ⟨subtype, hreads⟩ := ih hsubtype (by simp at hn; omega)
      have hlisted := ReadsType.list subtype _ list opening closing hlist hopening hclosing hreads
      exact ⟨.list subtype, by simpa using hlisted⟩
    · obtain ⟨map, rest, hmap, rfl, h1⟩ := parsesAll_terminal.mp houtput
      obtain ⟨opening, rest, hopening, rfl, h2⟩ := parsesAll_terminal.mp h1
      obtain ⟨keyNodes, rest, rfl, hkey, h3⟩ := parsesAll_cons.mp h2
      obtain ⟨comma, rest, hcomma, rfl, h4⟩ := parsesAll_terminal.mp h3
      obtain ⟨valueNodes, rest, rfl, hvalue, h5⟩ := parsesAll_cons.mp h4
      obtain ⟨closing, rest, hclosing, rfl, h6⟩ := parsesAll_terminal.mp h5
      obtain rfl := parsesAll_nil.mp h6
      obtain ⟨key, hkey⟩ := ih hkey (by simp at hn; omega)
      obtain ⟨value, hvalue⟩ := ih hvalue (by simp at hn; omega)
      have hmapped := ReadsType.map key value _ _ map opening comma closing hmap hopening hcomma hclosing hkey hvalue
      exact ⟨.map key value, by simpa using hmapped⟩
    · obtain ⟨name, rest, hname, rfl, h1⟩ := parsesAll_terminal.mp houtput
      obtain rfl := parsesAll_nil.mp h1
      exact ⟨_, .reference name hname⟩

theorem Parses.fields (n : ℕ) (h : Parses .fields nodes) (hn : nodes.length ≤ n) :
    ∃ fields, ReadsFields text fields nodes := by
  induction n generalizing nodes with
  | zero =>
    obtain ⟨i, rule, nodes, -, -, -, rfl⟩ := parses_nonterminal.mp h
    simp at hn
  | succ n ih =>
    obtain ⟨i, rule, nodes, hrule, hinput, houtput, rfl⟩ := parses_nonterminal.mp h
    have hi := ruleIndex_lt hrule
    interval_cases i <;> cases hrule <;> cases hinput
    · obtain ⟨fieldsNodes, rest, rfl, hfields, h1⟩ := parsesAll_cons.mp houtput
      obtain ⟨typeNodes, rest, rfl, htype, h2⟩ := parsesAll_cons.mp h1
      obtain ⟨name, rest, hname, rfl, h3⟩ := parsesAll_terminal.mp h2
      obtain ⟨semicolon, rest, hsemicolon, rfl, h4⟩ := parsesAll_terminal.mp h3
      obtain rfl := parsesAll_nil.mp h4
      obtain ⟨fields, hfields⟩ := ih hfields (by simp at hn; omega)
      obtain ⟨type, htype⟩ := Parses.type _ htype le_rfl
      have hfield := ReadsFields.field fields type _ _ name semicolon hname hsemicolon hfields htype
      exact ⟨fields ++ [{ type, name := getTokenText text name }], by simpa using hfield⟩
    · obtain rfl := parsesAll_nil.mp houtput
      exact ⟨[], .nil⟩

theorem Parses.requestFields (h : Parses .requestFields nodes) :
    ∃ fields nodes', nodes = nodes' ++ [.rule 8] ∧ ReadsFields text fields nodes' := by
  obtain ⟨i, rule, nodes, hrule, hinput, houtput, rfl⟩ := parses_nonterminal.mp h
  have hi := ruleIndex_lt hrule
  interval_cases i <;> cases hrule <;> cases hinput
  obtain ⟨fieldsNodes, rest, rfl, hfields, h1⟩ := parsesAll_cons.mp houtput
  obtain rfl := parsesAll_nil.mp h1
  obtain ⟨fields, hfields⟩ := Parses.fields _ hfields le_rfl
  exact ⟨fields, fieldsNodes, by simp, hfields⟩

theorem Parses.messageDefinition (h : Parses .messageDefinition nodes) :
    ∃ name fields, ReadsDefinition text (.message name fields) nodes := by
  obtain ⟨i, rule, nodes, hrule, hinput, houtput, rfl⟩ := parses_nonterminal.mp h
  have hi := ruleIndex_lt hrule
  interval_cases i <;> cases hrule <;> cases hinput
  obtain ⟨message, rest, hmessage, rfl, h1⟩ := parsesAll_terminal.mp houtput
  obtain ⟨name, rest, hname, rfl, h2⟩ := parsesAll_terminal.mp h1
  obtain ⟨opening, rest, hopening, rfl, h3⟩ := parsesAll_terminal.mp h2
  obtain ⟨fieldsNodes, rest, rfl, hfields, h4⟩ := parsesAll_cons.mp h3
  obtain ⟨closing, rest, hclosing, rfl, h5⟩ := parsesAll_terminal.mp h4
  obtain rfl := parsesAll_nil.mp h5
  obtain ⟨fields, hfields⟩ := Parses.fields _ hfields le_rfl
  have hmessage := ReadsDefinition.message fields _ message name opening closing hmessage hname hopening hclosing hfields
  exact ⟨getTokenText text name, fields, by simpa using hmessage⟩

theorem Parses.requestDefinition (h : Parses .requestDefinition nodes) :
    ∃ name requestFields responseFields, ReadsDefinition text (.request name requestFields responseFields) nodes := by
  obtain ⟨i, rule, nodes, hrule, hinput, houtput, rfl⟩ := parses_nonterminal.mp h
  have hi := ruleIndex_lt hrule
  interval_cases i <;> cases hrule <;> cases hinput
  obtain ⟨request, rest, hrequest, rfl, h1⟩ := parsesAll_terminal.mp houtput
  obtain ⟨name, rest, hname, rfl, h2⟩ := parsesAll_terminal.mp h1
  obtain ⟨opening, rest, hopening, rfl, h3⟩ := parsesAll_terminal.mp h2
  obtain ⟨requestNodes, rest, rfl, hrequestFields, h4⟩ := parsesAll_cons.mp h3
  obtain ⟨response, rest, hresponse, rfl, h5⟩ := parsesAll_terminal.mp h4
  obtain ⟨opening', rest, hopening', rfl, h6⟩ := parsesAll_terminal.mp h5
  obtain ⟨responseNodes, rest, rfl, hresponseFields, h7⟩ := parsesAll_cons.mp h6
  obtain ⟨closing', rest, hclosing', rfl, h8⟩ := parsesAll_terminal.mp h7
  obtain ⟨closing, rest, hclosing, rfl, h9⟩ := parsesAll_terminal.mp h8
  obtain rfl := parsesAll_nil.mp h9
  obtain ⟨requestFields, _, rfl, hrequestFields⟩ := Parses.requestFields hrequestFields
  obtain ⟨responseFields, hresponseFields⟩ := Parses.fields _ hresponseFields le_rfl
  have hrequest := ReadsDefinition.request requestFields responseFields _ _ request name opening response opening'
    closing' closing hrequest hname hopening hresponse hopening' hclosing' hclosing hrequestFields hresponseFields
  exact ⟨getTokenText text name, requestFields, responseFields, by simpa using hrequest⟩

theorem Parses.protocols (n : ℕ) (h : Parses .protocols nodes) (hn : nodes.length ≤ n) :
    ∃ definitions, ReadsDefinitions text definitions nodes := by
  induction n generalizing nodes with
  | zero =>
    obtain ⟨i, rule, nodes, -, -, -, rfl⟩ := parses_nonterminal.mp h
    simp at hn
  | succ n ih =>
    obtain ⟨i, rule, nodes, hrule, hinput, houtput, rfl⟩ := parses_nonterminal.mp h
    have hi := ruleIndex_lt hrule
    interval_cases i <;> cases hrule <;> cases hinput
    · obtain ⟨protocolsNodes, rest, rfl, hprotocols, h1⟩ := parsesAll_cons.mp houtput
      obtain ⟨messageNodes, rest, rfl, hmessage, h2⟩ := parsesAll_cons.mp h1
      obtain rfl := parsesAll_nil.mp h2
      obtain ⟨definitions, hdefinitions⟩ := ih hprotocols (by simp at hn; omega)
      obtain ⟨name, fields, hmessage⟩ := Parses.messageDefinition hmessage
      have hdefined := ReadsDefinitions.definition definitions _ _ _ hdefinitions hmessage
      exact ⟨definitions ++ [.message name fields], by simpa [DefinitionSyntax.ruleIndex] using hdefined⟩
    · obtain ⟨protocolsNodes, rest, rfl, hprotocols, h1⟩ := parsesAll_cons.mp houtput
      obtain ⟨requestNodes, rest, rfl, hrequest, h2⟩ := parsesAll_cons.mp h1
      obtain rfl := parsesAll_nil.mp h2
      obtain ⟨definitions, hdefinitions⟩ := ih hprotocols (by simp at hn; omega)
      obtain ⟨name, requestFields, responseFields, hrequest⟩ := Parses.requestDefinition hrequest
      have hdefined := ReadsDefinitions.definition definitions _ _ _ hdefinitions hrequest
      exact ⟨definitions ++ [.request name requestFields responseFields],
        by simpa [DefinitionSyntax.ruleIndex] using hdefined⟩
    · obtain rfl := parsesAll_nil.mp houtput
      exact ⟨[], .nil⟩

/-- Every derivation of a text reads a syntax. -/
theorem Parses.start (h : Parses .start nodes) : ∃ protocol, ReadsProtocol text protocol nodes := by
  obtain ⟨i, rule, nodes, hrule, hinput, houtput, rfl⟩ := parses_nonterminal.mp h
  have hi := ruleIndex_lt hrule
  interval_cases i <;> cases hrule <;> cases hinput
  obtain ⟨definitionNodes, rest, rfl, hdefinition, h1⟩ := parsesAll_cons.mp houtput
  obtain rfl := parsesAll_nil.mp h1
  obtain ⟨i, rule, nodes, hrule, hinput, houtput, rfl⟩ := parses_nonterminal.mp hdefinition
  have hi := ruleIndex_lt hrule
  interval_cases i <;> cases hrule <;> cases hinput
  obtain ⟨namespaceNodes, rest, rfl, hnamespace, h1⟩ := parsesAll_cons.mp houtput
  obtain ⟨protocolsNodes, rest, rfl, hprotocols, h2⟩ := parsesAll_cons.mp h1
  obtain rfl := parsesAll_nil.mp h2
  obtain ⟨definitions, hdefinitions⟩ := Parses.protocols _ hprotocols le_rfl
  obtain ⟨i, rule, nodes, hrule, hinput, houtput, rfl⟩ := parses_nonterminal.mp hnamespace
  have hi := ruleIndex_lt hrule
  interval_cases i <;> cases hrule <;> cases hinput
  obtain ⟨namespaceToken, rest, hnamespaceToken, rfl, h1⟩ := parsesAll_terminal.mp houtput
  obtain ⟨module, rest, hmodule, rfl, h2⟩ := parsesAll_terminal.mp h1
  obtain ⟨semicolon, rest, hsemicolon, rfl, h3⟩ := parsesAll_terminal.mp h2
  obtain rfl := parsesAll_nil.mp h3
  have hprotocol := ReadsProtocol.protocol definitions _ namespaceToken module semicolon hnamespaceToken hmodule
    hsemicolon hdefinitions
  exact ⟨{ fileNamespace := getTokenText text module, definitions }, by simpa using hprotocol⟩

end Inversion

section Derivation

open BottomUp

variable {text : String} {nodes : List Node}

theorem Parses.rule (i : ℕ) (n : Nonterminal) {symbols} {nodes : List Node}
    (h : ParsesAll protocolGrammar Token.symbol Node.token Node.rule symbols nodes)
    (hrule : protocolGrammar[i]? = some ⟨n, symbols⟩) : Parses n (nodes ++ [.rule i]) :=
  .reduce i ⟨n, symbols⟩ nodes hrule h

theorem SimpleType.rule (type : SimpleType) :
    protocolGrammar[type.ruleIndex]? = some ⟨.type, [.terminal type.symbol]⟩ := by
  cases type <;> rfl

theorem ReadsType.parses {type : TypeSyntax} (h : ReadsType text type nodes) : Parses .type nodes := by
  induction h with
  | simple type keyword hkeyword => exact Parses.rule _ .type (.token hkeyword .nil) type.rule
  | list subtype nodes list opening closing hlist hopening hclosing _ ih =>
    have hparses := Parses.rule 17 .type
      (.token hlist (.token hopening (.cons _ _ _ _ ih (.token hclosing .nil)))) rfl
    simpa using hparses
  | map key value keyNodes valueNodes map opening comma closing hmap hopening hcomma hclosing _ _ ihkey ihvalue =>
    have hparses := Parses.rule 18 .type
      (.token hmap (.token hopening (.cons _ _ _ _ ihkey (.token hcomma (.cons _ _ _ _ ihvalue
        (.token hclosing .nil)))))) rfl
    simpa using hparses
  | reference name hname => exact Parses.rule 19 .type (.token hname .nil) rfl

theorem ReadsFields.parses {fields : List FieldSyntax} (h : ReadsFields text fields nodes) : Parses .fields nodes := by
  induction h with
  | nil => exact Parses.rule 10 .fields .nil rfl
  | field fields type nodes typeNodes name semicolon hname hsemicolon _ htype ih =>
    have hparses := Parses.rule 9 .fields
      (.cons _ _ _ _ ih (.cons _ _ _ _ htype.parses (.token hname (.token hsemicolon .nil)))) rfl
    simpa using hparses

theorem ReadsDefinition.parses {definition : DefinitionSyntax} (h : ReadsDefinition text definition nodes) :
    Parses (match definition with | .message .. => .messageDefinition | .request .. => .requestDefinition) nodes := by
  cases h with
  | message fields nodes message name opening closing hmessage hname hopening hclosing h =>
    have hparses := Parses.rule 6 .messageDefinition
      (.token hmessage (.token hname (.token hopening (.cons _ _ _ _ h.parses (.token hclosing .nil))))) rfl
    simpa using hparses
  | request requestFields responseFields requestNodes responseNodes request name opening response opening' closing'
      closing hrequest hname hopening hresponse hopening' hclosing' hclosing h h' =>
    have hrequestFields : Parses .requestFields (requestNodes ++ [.rule 8]) := by
      have hparses := Parses.rule 8 .requestFields (.cons _ _ _ _ h.parses .nil) rfl
      simpa using hparses
    have hparses := Parses.rule 7 .requestDefinition
      (.token hrequest (.token hname (.token hopening (.cons _ _ _ _ hrequestFields (.token hresponse
        (.token hopening' (.cons _ _ _ _ h'.parses (.token hclosing' (.token hclosing .nil))))))))) rfl
    simpa using hparses

theorem ReadsDefinitions.parses {definitions : List DefinitionSyntax} (h : ReadsDefinitions text definitions nodes) :
    Parses .protocols nodes := by
  induction h with
  | nil => exact Parses.rule 5 .protocols .nil rfl
  | definition definitions definition nodes definitionNodes _ hdefinition ih =>
    have hparsed := hdefinition.parses
    cases definition with
    | message =>
      have hparses := Parses.rule 3 .protocols (.cons _ _ _ _ ih (.cons _ _ _ _ hparsed .nil)) rfl
      simpa [DefinitionSyntax.ruleIndex] using hparses
    | request =>
      have hparses := Parses.rule 4 .protocols (.cons _ _ _ _ ih (.cons _ _ _ _ hparsed .nil)) rfl
      simpa [DefinitionSyntax.ruleIndex] using hparses

/-- Every syntax that is read off nodes has them as its derivation. -/
theorem ReadsProtocol.parses {protocol : ProtocolSyntax} (h : ReadsProtocol text protocol nodes) :
    Parses .start nodes := by
  cases h with
  | protocol definitions nodes namespaceToken module semicolon hnamespace hmodule hsemicolon h =>
    have hfileNamespace := Parses.rule 2 .namespaceDefinition
      (.token hnamespace (.token hmodule (.token hsemicolon .nil))) rfl
    have hprotocol := Parses.rule 1 .protocolDefinition
      (.cons _ _ _ _ hfileNamespace (.cons _ _ _ _ h.parses .nil)) rfl
    have hparses := Parses.rule 0 .start (.cons _ _ _ _ hprotocol .nil) rfl
    simpa using hparses

end Derivation

end Farseer
