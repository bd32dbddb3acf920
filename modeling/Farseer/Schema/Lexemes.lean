import Farseer.Schema.Tokenizer

/-! The lexemes of a syntax. A derivation reads a syntax exactly if its tokens are the lexemes of it, and no two syntaxes
have the same lexemes, so that the grammar is unambiguous. -/

namespace Farseer

def TypeSyntax.lexemes : TypeSyntax → List Lexeme
  | .simple type => [.keyword type.symbol]
  | .list subtype => [.keyword .list, .keyword .angleBracketBegin] ++ subtype.lexemes ++ [.keyword .angleBracketEnd]
  | .map key value => [.keyword .map, .keyword .angleBracketBegin] ++ key.lexemes ++ [.keyword .comma] ++
      value.lexemes ++ [.keyword .angleBracketEnd]
  | .reference messageName => [.name messageName]

def FieldSyntax.lexemes (field : FieldSyntax) : List Lexeme :=
  field.type.lexemes ++ [.name field.name, .keyword .semicolon]

def DefinitionSyntax.lexemes : DefinitionSyntax → List Lexeme
  | .message name fields => [.keyword .message, .name name, .keyword .bracesBegin] ++ fields.flatMap FieldSyntax.lexemes ++
      [.keyword .bracesEnd]
  | .request name requestFields responseFields => [.keyword .request, .name name, .keyword .bracesBegin] ++
      requestFields.flatMap FieldSyntax.lexemes ++ [.keyword .response, .keyword .bracesBegin] ++
      responseFields.flatMap FieldSyntax.lexemes ++ [.keyword .bracesEnd, .keyword .bracesEnd]

def ProtocolSyntax.lexemes (protocol : ProtocolSyntax) : List Lexeme :=
  [.keyword .namespace, .module protocol.fileNamespace, .keyword .semicolon] ++
    protocol.definitions.flatMap DefinitionSyntax.lexemes

def Node.shifted : Node → Option Token
  | .token t => some t
  | .rule _ => none

def tokensOf (nodes : List Node) : List Token := nodes.filterMap Node.shifted

section Nodes

variable {text : String} {token : Token}

@[simp] theorem tokensOf_nil : tokensOf [] = [] := rfl

@[simp] theorem tokensOf_token (token : Token) (nodes : List Node) :
    tokensOf (.token token :: nodes) = token :: tokensOf nodes := rfl

@[simp] theorem tokensOf_rule (i : ℕ) (nodes : List Node) : tokensOf (.rule i :: nodes) = tokensOf nodes := rfl

@[simp] theorem tokensOf_append (nodes nodes' : List Node) :
    tokensOf (nodes ++ nodes') = tokensOf nodes ++ tokensOf nodes' := List.filterMap_append

theorem lexeme_name {t : String} : token.lexeme text = .name t ↔ token.symbol = .name ∧ getTokenText text token = t := by
  unfold Token.lexeme
  cases token.symbol <;> simp [Lexeme.of]

theorem lexeme_module {t : String} : token.lexeme text = .module t ↔ token.symbol = .module ∧ getTokenText text token = t := by
  unfold Token.lexeme
  cases token.symbol <;> simp [Lexeme.of]

theorem lexeme_keyword {symbol : Symbol} (hname : symbol ≠ .name) (hmodule : symbol ≠ .module) :
    token.lexeme text = .keyword symbol ↔ token.symbol = symbol := by
  unfold Token.lexeme
  cases h : token.symbol with
  | name => simp [Lexeme.of, hname.symm]
  | module => simp [Lexeme.of, hmodule.symm]
  | _ => simp [Lexeme.of]

theorem SimpleType.symbol_ne (type : SimpleType) : type.symbol ≠ .name ∧ type.symbol ≠ .module := by
  cases type <;> decide

theorem ReadsType.lexemes {type : TypeSyntax} {nodes : List Node} (h : ReadsType text type nodes) :
    (tokensOf nodes).map (Token.lexeme text) = type.lexemes := by
  induction h with
  | simple type keyword hkeyword =>
    have hword : keyword.lexeme text = .keyword type.symbol :=
      (lexeme_keyword type.symbol_ne.1 type.symbol_ne.2).mpr hkeyword
    simp [TypeSyntax.lexemes, hword]
  | list subtype nodes list opening closing hlist hopening hclosing h ih =>
    simp [TypeSyntax.lexemes, Token.lexeme, hlist, hopening, hclosing, Lexeme.of, ← ih]
  | map key value keyNodes valueNodes map opening comma closing hmap hopening hcomma hclosing hkey hvalue ihkey ihvalue =>
    simp [TypeSyntax.lexemes, Token.lexeme, hmap, hopening, hcomma, hclosing, Lexeme.of, ← ihkey, ← ihvalue]
  | reference name hname => simp [TypeSyntax.lexemes, Token.lexeme, hname, Lexeme.of]

theorem ReadsFields.lexemes {fields : List FieldSyntax} {nodes : List Node} (h : ReadsFields text fields nodes) :
    (tokensOf nodes).map (Token.lexeme text) = fields.flatMap FieldSyntax.lexemes := by
  induction h with
  | nil => rfl
  | field fields type nodes typeNodes name semicolon hname hsemicolon hfields htype ih =>
    have htokens := htype.lexemes
    simp [FieldSyntax.lexemes, Token.lexeme, hname, hsemicolon, Lexeme.of, ← ih, ← htokens]

theorem ReadsDefinition.lexemes {definition : DefinitionSyntax} {nodes : List Node}
    (h : ReadsDefinition text definition nodes) :
    (tokensOf nodes).map (Token.lexeme text) = definition.lexemes := by
  cases h with
  | message fields nodes message name opening closing hmessage hname hopening hclosing h =>
    have hfields := h.lexemes
    simp [DefinitionSyntax.lexemes, Token.lexeme, hmessage, hname, hopening, hclosing, Lexeme.of, ← hfields]
  | request requestFields responseFields requestNodes responseNodes request name opening response opening' closing'
      closing hrequest hname hopening hresponse hopening' hclosing' hclosing h h' =>
    have hrequestFields := h.lexemes
    have hresponseFields := h'.lexemes
    simp [DefinitionSyntax.lexemes, Token.lexeme, hrequest, hname, hopening, hresponse, hopening', hclosing', hclosing,
      Lexeme.of, ← hrequestFields, ← hresponseFields]

theorem ReadsDefinitions.lexemes {definitions : List DefinitionSyntax} {nodes : List Node}
    (h : ReadsDefinitions text definitions nodes) :
    (tokensOf nodes).map (Token.lexeme text) = definitions.flatMap DefinitionSyntax.lexemes := by
  induction h with
  | nil => rfl
  | definition definitions definition nodes definitionNodes h h' ih =>
    have hdefinition := h'.lexemes
    simp [← ih, ← hdefinition]

/-- The tokens of a derivation are the lexemes of the syntax that it reads. -/
theorem ReadsProtocol.lexemes {protocol : ProtocolSyntax} {nodes : List Node} (h : ReadsProtocol text protocol nodes) :
    (tokensOf nodes).map (Token.lexeme text) = protocol.lexemes := by
  cases h with
  | protocol definitions nodes namespaceToken module semicolon hnamespace hmodule hsemicolon h =>
    have hdefinitions := h.lexemes
    simp [ProtocolSyntax.lexemes, Token.lexeme, hnamespace, hmodule, hsemicolon, Lexeme.of, ← hdefinitions]

theorem map_eq_pair {α β : Type} {f : α → β} {l : List α} {x y : β} (h : l.map f = [x, y]) :
    ∃ a b, l = [a, b] ∧ f a = x ∧ f b = y := by
  obtain ⟨a, l', rfl, ha, h⟩ := List.map_eq_cons_iff.mp h
  obtain ⟨b, rfl, hb⟩ := List.map_eq_singleton_iff.mp h
  exact ⟨a, b, rfl, ha, hb⟩

theorem map_eq_triple {α β : Type} {f : α → β} {l : List α} {x y z : β} (h : l.map f = [x, y, z]) :
    ∃ a b c, l = [a, b, c] ∧ f a = x ∧ f b = y ∧ f c = z := by
  obtain ⟨a, l', rfl, ha, h⟩ := List.map_eq_cons_iff.mp h
  obtain ⟨b, c, rfl, hb, hc⟩ := map_eq_pair h
  exact ⟨a, b, c, rfl, ha, hb, hc⟩

theorem symbol_of_lexeme {symbol : Symbol} (h : token.lexeme text = .keyword symbol) (hname : symbol ≠ .name := by decide)
    (hmodule : symbol ≠ .module := by decide) : token.symbol = symbol := (lexeme_keyword hname hmodule).mp h

theorem exists_readsType (type : TypeSyntax) {tokens : List Token} (h : tokens.map (Token.lexeme text) = type.lexemes) :
    ∃ nodes, ReadsType text type nodes ∧ tokensOf nodes = tokens := by
  induction type generalizing tokens with
  | simple type =>
    obtain ⟨keyword, rfl, hkeyword⟩ := List.map_eq_singleton_iff.mp h
    exact ⟨_, .simple type keyword (symbol_of_lexeme hkeyword type.symbol_ne.1 type.symbol_ne.2), rfl⟩
  | list subtype ih =>
    obtain ⟨front, back, rfl, hfront, hback⟩ := List.map_eq_append_iff.mp h
    obtain ⟨head, inside, rfl, hhead, hinside⟩ := List.map_eq_append_iff.mp hfront
    obtain ⟨list, opening, rfl, hlist, hopening⟩ := map_eq_pair hhead
    obtain ⟨closing, rfl, hclosing⟩ := List.map_eq_singleton_iff.mp hback
    obtain ⟨nodes, hreads, rfl⟩ := ih hinside
    exact ⟨_, .list subtype nodes list opening closing (symbol_of_lexeme hlist) (symbol_of_lexeme hopening)
      (symbol_of_lexeme hclosing) hreads, by simp⟩
  | map key value ihkey ihvalue =>
    obtain ⟨front, back, rfl, hfront, hback⟩ := List.map_eq_append_iff.mp h
    obtain ⟨front, valueTokens, rfl, hfront, hvalue⟩ := List.map_eq_append_iff.mp hfront
    obtain ⟨front, middle, rfl, hfront, hmiddle⟩ := List.map_eq_append_iff.mp hfront
    obtain ⟨head, keyTokens, rfl, hhead, hkey⟩ := List.map_eq_append_iff.mp hfront
    obtain ⟨map, opening, rfl, hmap, hopening⟩ := map_eq_pair hhead
    obtain ⟨comma, rfl, hcomma⟩ := List.map_eq_singleton_iff.mp hmiddle
    obtain ⟨closing, rfl, hclosing⟩ := List.map_eq_singleton_iff.mp hback
    obtain ⟨keyNodes, hreadsKey, rfl⟩ := ihkey hkey
    obtain ⟨valueNodes, hreadsValue, rfl⟩ := ihvalue hvalue
    exact ⟨_, .map key value keyNodes valueNodes map opening comma closing (symbol_of_lexeme hmap)
      (symbol_of_lexeme hopening) (symbol_of_lexeme hcomma) (symbol_of_lexeme hclosing) hreadsKey hreadsValue, by simp⟩
  | reference messageName =>
    obtain ⟨name, rfl, hname⟩ := List.map_eq_singleton_iff.mp h
    obtain ⟨hsymbol, rfl⟩ := lexeme_name.mp hname
    exact ⟨_, .reference name hsymbol, rfl⟩

theorem exists_readsFields (fields : List FieldSyntax) {tokens : List Token}
    (h : tokens.map (Token.lexeme text) = fields.flatMap FieldSyntax.lexemes) :
    ∃ nodes, ReadsFields text fields nodes ∧ tokensOf nodes = tokens := by
  induction fields using List.reverseRecOn generalizing tokens with
  | nil =>
    obtain rfl := List.map_eq_nil_iff.mp h
    exact ⟨_, .nil, rfl⟩
  | append_singleton fields field ih =>
    rw [List.flatMap_append, List.flatMap_singleton] at h
    obtain ⟨front, back, rfl, hfront, hback⟩ := List.map_eq_append_iff.mp h
    obtain ⟨typeTokens, back, rfl, htype, hback⟩ := List.map_eq_append_iff.mp hback
    obtain ⟨name, semicolon, rfl, hname, hsemicolon⟩ := map_eq_pair hback
    obtain ⟨nodes, hfields, rfl⟩ := ih hfront
    obtain ⟨typeNodes, hreads, rfl⟩ := exists_readsType field.type htype
    obtain ⟨hsymbol, htext⟩ := lexeme_name.mp hname
    have hfield := ReadsFields.field fields field.type nodes typeNodes name semicolon hsymbol
      (symbol_of_lexeme hsemicolon) hfields hreads
    rw [htext] at hfield
    exact ⟨_, hfield, by simp⟩

theorem exists_readsDefinition (definition : DefinitionSyntax) {tokens : List Token}
    (h : tokens.map (Token.lexeme text) = definition.lexemes) :
    ∃ nodes, ReadsDefinition text definition nodes ∧ tokensOf nodes = tokens := by
  cases definition with
  | message messageName fields =>
    obtain ⟨front, back, rfl, hfront, hback⟩ := List.map_eq_append_iff.mp h
    obtain ⟨head, inside, rfl, hhead, hinside⟩ := List.map_eq_append_iff.mp hfront
    obtain ⟨message, name, opening, rfl, hmessage, hname, hopening⟩ := map_eq_triple hhead
    obtain ⟨closing, rfl, hclosing⟩ := List.map_eq_singleton_iff.mp hback
    obtain ⟨nodes, hfields, rfl⟩ := exists_readsFields fields hinside
    obtain ⟨hsymbol, rfl⟩ := lexeme_name.mp hname
    exact ⟨_, .message fields nodes message name opening closing (symbol_of_lexeme hmessage) hsymbol
      (symbol_of_lexeme hopening) (symbol_of_lexeme hclosing) hfields, by simp⟩
  | request requestName requestFields responseFields =>
    obtain ⟨front, back, rfl, hfront, hback⟩ := List.map_eq_append_iff.mp h
    obtain ⟨front, responseTokens, rfl, hfront, hresponseTokens⟩ := List.map_eq_append_iff.mp hfront
    obtain ⟨front, middle, rfl, hfront, hmiddle⟩ := List.map_eq_append_iff.mp hfront
    obtain ⟨head, requestTokens, rfl, hhead, hrequestTokens⟩ := List.map_eq_append_iff.mp hfront
    obtain ⟨request, name, opening, rfl, hrequest, hname, hopening⟩ := map_eq_triple hhead
    obtain ⟨response, opening', rfl, hresponse, hopening'⟩ := map_eq_pair hmiddle
    obtain ⟨closing', closing, rfl, hclosing', hclosing⟩ := map_eq_pair hback
    obtain ⟨requestNodes, hrequestFields, rfl⟩ := exists_readsFields requestFields hrequestTokens
    obtain ⟨responseNodes, hresponseFields, rfl⟩ := exists_readsFields responseFields hresponseTokens
    obtain ⟨hsymbol, rfl⟩ := lexeme_name.mp hname
    exact ⟨_, .request requestFields responseFields requestNodes responseNodes request name opening response opening'
      closing' closing (symbol_of_lexeme hrequest) hsymbol (symbol_of_lexeme hopening) (symbol_of_lexeme hresponse)
      (symbol_of_lexeme hopening') (symbol_of_lexeme hclosing') (symbol_of_lexeme hclosing) hrequestFields
      hresponseFields, by simp⟩

theorem exists_readsDefinitions (definitions : List DefinitionSyntax) {tokens : List Token}
    (h : tokens.map (Token.lexeme text) = definitions.flatMap DefinitionSyntax.lexemes) :
    ∃ nodes, ReadsDefinitions text definitions nodes ∧ tokensOf nodes = tokens := by
  induction definitions using List.reverseRecOn generalizing tokens with
  | nil =>
    obtain rfl := List.map_eq_nil_iff.mp h
    exact ⟨_, .nil, rfl⟩
  | append_singleton definitions definition ih =>
    rw [List.flatMap_append, List.flatMap_singleton] at h
    obtain ⟨front, back, rfl, hfront, hback⟩ := List.map_eq_append_iff.mp h
    obtain ⟨nodes, hdefinitions, rfl⟩ := ih hfront
    obtain ⟨definitionNodes, hdefinition, rfl⟩ := exists_readsDefinition definition hback
    exact ⟨_, .definition definitions definition nodes definitionNodes hdefinitions hdefinition, by simp⟩

/-- Tokens with the lexemes of a syntax have a derivation that reads it. -/
theorem exists_readsProtocol (protocol : ProtocolSyntax) {tokens : List Token}
    (h : tokens.map (Token.lexeme text) = protocol.lexemes) :
    ∃ nodes, ReadsProtocol text protocol nodes ∧ tokensOf nodes = tokens := by
  obtain ⟨head, back, rfl, hhead, hback⟩ := List.map_eq_append_iff.mp h
  obtain ⟨namespaceToken, module, semicolon, rfl, hnamespace, hmodule, hsemicolon⟩ := map_eq_triple hhead
  obtain ⟨nodes, hdefinitions, rfl⟩ := exists_readsDefinitions protocol.definitions hback
  obtain ⟨hsymbol, htext⟩ := lexeme_module.mp hmodule
  have hprotocol := ReadsProtocol.protocol protocol.definitions nodes namespaceToken module semicolon
    (symbol_of_lexeme hnamespace) hsymbol (symbol_of_lexeme hsemicolon) hdefinitions
  rw [htext] at hprotocol
  exact ⟨_, hprotocol, by simp⟩

theorem SimpleType.symbol_inj {type type' : SimpleType} (h : type.symbol = type'.symbol) : type = type' := by
  cases type <;> cases type' <;> first | rfl | cases h

theorem SimpleType.symbol_simple (type : SimpleType) : type.symbol ≠ .list ∧ type.symbol ≠ .map := by
  cases type <;> decide

/-- A type ends where its lexemes end. -/
theorem TypeSyntax.lexemes_inj {type type' : TypeSyntax} {rest rest' : List Lexeme}
    (h : type.lexemes ++ rest = type'.lexemes ++ rest') : type = type' ∧ rest = rest' := by
  induction type generalizing type' rest rest' with
  | simple type =>
    have hne := type.symbol_simple
    cases type' with
    | simple type' =>
      simp only [lexemes, List.singleton_append, List.cons.injEq, Lexeme.keyword.injEq] at h
      exact ⟨congrArg _ (SimpleType.symbol_inj h.1), h.2⟩
    | list => simp [lexemes, hne.1] at h
    | map => simp [lexemes, hne.2] at h
    | reference => simp [lexemes] at h
  | list subtype ih =>
    cases type' with
    | simple type' => simp [lexemes, type'.symbol_simple.1.symm] at h
    | list subtype' =>
      simp only [lexemes, List.append_assoc, List.cons_append, List.nil_append, List.cons.injEq, true_and] at h
      obtain ⟨rfl, hrest⟩ := ih h
      exact ⟨rfl, (List.cons.inj hrest).2⟩
    | map => simp [lexemes] at h
    | reference => simp [lexemes] at h
  | map key value ihkey ihvalue =>
    cases type' with
    | simple type' => simp [lexemes, type'.symbol_simple.2.symm] at h
    | list => simp [lexemes] at h
    | map key' value' =>
      simp only [lexemes, List.append_assoc, List.cons_append, List.nil_append, List.cons.injEq, true_and] at h
      obtain ⟨rfl, hvalues⟩ := ihkey h
      obtain ⟨rfl, hrest⟩ := ihvalue (List.cons.inj hvalues).2
      exact ⟨rfl, (List.cons.inj hrest).2⟩
    | reference => simp [lexemes] at h
  | reference messageName =>
    cases type' with
    | simple => simp [lexemes] at h
    | list => simp [lexemes] at h
    | map => simp [lexemes] at h
    | reference messageName' =>
      simp only [lexemes, List.singleton_append, List.cons.injEq, Lexeme.name.injEq] at h
      exact ⟨congrArg _ h.1, h.2⟩

theorem TypeSyntax.lexemes_head (type : TypeSyntax) :
    ∃ l ls, type.lexemes = l :: ls ∧ l ≠ .keyword .bracesEnd ∧ l ≠ .keyword .response := by
  cases type with
  | simple type => exact ⟨_, _, rfl, by cases type <;> decide, by cases type <;> decide⟩
  | list | map | reference => exact ⟨_, _, rfl, by simp, by simp⟩

/-- What stands behind the fields of a part. -/
def EndsFields (rest : List Lexeme) : Prop :=
  ∃ l ls, rest = l :: ls ∧ (l = .keyword .bracesEnd ∨ l = .keyword .response)

theorem endsFields_ne {rest : List Lexeme} (h : EndsFields rest) (field : FieldSyntax) (ls : List Lexeme) :
    rest ≠ field.lexemes ++ ls := by
  obtain ⟨l, rest, rfl, hl⟩ := h
  obtain ⟨l', ls', heq, hbraces, hresponse⟩ := field.type.lexemes_head
  rw [FieldSyntax.lexemes, heq]
  rintro hcons
  obtain rfl := (List.cons.inj hcons).1
  exact hl.elim hbraces hresponse

theorem fields_lexemes_inj {fields fields' : List FieldSyntax} {rest rest' : List Lexeme} (hrest : EndsFields rest)
    (hrest' : EndsFields rest')
    (h : fields.flatMap FieldSyntax.lexemes ++ rest = fields'.flatMap FieldSyntax.lexemes ++ rest') :
    fields = fields' ∧ rest = rest' := by
  induction fields generalizing fields' with
  | nil =>
    cases fields' with
    | nil => exact ⟨rfl, h⟩
    | cons field fields' =>
      rw [List.flatMap_nil, List.nil_append, List.flatMap_cons, List.append_assoc] at h
      exact absurd h (endsFields_ne hrest _ _)
  | cons field fields ih =>
    cases fields' with
    | nil =>
      rw [List.flatMap_nil, List.nil_append, List.flatMap_cons, List.append_assoc] at h
      exact absurd h.symm (endsFields_ne hrest' _ _)
    | cons field' fields' =>
      simp only [List.flatMap_cons, FieldSyntax.lexemes, List.append_assoc, List.cons_append, List.nil_append] at h
      obtain ⟨htype, htail⟩ := TypeSyntax.lexemes_inj h
      simp only [List.cons.injEq, Lexeme.name.injEq, true_and] at htail
      obtain ⟨rfl, hrests⟩ := ih htail.2
      refine ⟨?_, hrests⟩
      cases field
      cases field'
      cases htype
      cases htail.1
      rfl

theorem DefinitionSyntax.lexemes_inj {definition definition' : DefinitionSyntax} {rest rest' : List Lexeme}
    (h : definition.lexemes ++ rest = definition'.lexemes ++ rest') : definition = definition' ∧ rest = rest' := by
  have hbraces (ls : List Lexeme) : EndsFields (.keyword .bracesEnd :: ls) := ⟨_, _, rfl, .inl rfl⟩
  have hresponse (ls : List Lexeme) : EndsFields (.keyword .response :: ls) := ⟨_, _, rfl, .inr rfl⟩
  cases definition with
  | message name fields =>
    cases definition' with
    | request => simp [lexemes] at h
    | message name' fields' =>
      simp only [lexemes, List.append_assoc, List.cons_append, List.nil_append, List.cons.injEq, true_and,
        Lexeme.name.injEq] at h
      obtain ⟨rfl, hfields⟩ := h
      obtain ⟨rfl, hrest⟩ := fields_lexemes_inj (hbraces _) (hbraces _) hfields
      exact ⟨rfl, (List.cons.inj hrest).2⟩
  | request name requestFields responseFields =>
    cases definition' with
    | message => simp [lexemes] at h
    | request name' requestFields' responseFields' =>
      simp only [lexemes, List.append_assoc, List.cons_append, List.nil_append, List.cons.injEq, true_and,
        Lexeme.name.injEq] at h
      obtain ⟨rfl, hfields⟩ := h
      obtain ⟨rfl, hmiddle⟩ := fields_lexemes_inj (hresponse _) (hresponse _) hfields
      simp only [List.cons.injEq, true_and] at hmiddle
      obtain ⟨rfl, hrest⟩ := fields_lexemes_inj (hbraces _) (hbraces _) hmiddle
      exact ⟨rfl, by simpa using hrest⟩

/-- The grammar is unambiguous. -/
theorem ProtocolSyntax.lexemes_inj {protocol protocol' : ProtocolSyntax} (h : protocol.lexemes = protocol'.lexemes) :
    protocol = protocol' := by
  have hall : ∀ definitions definitions' : List DefinitionSyntax, definitions.flatMap DefinitionSyntax.lexemes =
      definitions'.flatMap DefinitionSyntax.lexemes → definitions = definitions' := by
    have hne (definition : DefinitionSyntax) (ls : List Lexeme) : definition.lexemes ++ ls ≠ [] := by
      cases definition <;> simp [DefinitionSyntax.lexemes]
    intro definitions
    induction definitions with
    | nil =>
      intro definitions' h
      cases definitions' with
      | nil => rfl
      | cons definition' definitions' => exact absurd h.symm (hne _ _)
    | cons definition definitions ih =>
      intro definitions' h
      cases definitions' with
      | nil => exact absurd h (hne _ _)
      | cons definition' definitions' =>
        rw [List.flatMap_cons, List.flatMap_cons] at h
        obtain ⟨rfl, hrest⟩ := DefinitionSyntax.lexemes_inj h
        rw [ih definitions' hrest]
  simp only [lexemes, List.cons_append, List.nil_append, List.cons.injEq, Lexeme.module.injEq, true_and] at h
  cases protocol
  cases protocol'
  cases h.1
  cases hall _ _ h.2
  rfl

end Nodes

end Farseer
