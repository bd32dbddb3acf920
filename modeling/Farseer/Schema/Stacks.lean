import Farseer.Schema.Meaning

/-! What `parseProtocolDefinition` leaves on its stacks: the nodes of a derivation do to the variables of
the loop what their syntax means, and throw an error of the schema where a check fails. -/

namespace Farseer

/-- Returns the value if the condition holds, and else throws an error of the schema. -/
structure Decides {α : Type} (r : Except Exception α) (P : Prop) (a : α) : Prop where
  ok : P → r = .ok a
  error : ¬ P → ∃ e, r = .error e ∧ ∀ message, e ≠ .logicError message

namespace Decides

variable {α β : Type} {r : Except Exception α} {P Q : Prop} {a : α}

theorem pure (a : α) (h : P) : Decides (Pure.pure a) P a := ⟨fun _ => rfl, fun hnot => absurd h hnot⟩

theorem bind {f : α → Except Exception β} {b : β} (h : Decides r P a) (h' : P → Decides (f a) Q b) :
    Decides (r >>= f) (P ∧ Q) b := by
  by_cases hP : P
  · rw [h.ok hP]
    have hf := h' hP
    refine ⟨fun hboth => hf.ok hboth.2, fun hnot => hf.error fun hQ => hnot ⟨hP, hQ⟩⟩
  · obtain ⟨e, hr, he⟩ := h.error hP
    rw [hr]
    exact ⟨fun hboth => absurd hboth.1 hP, fun _ => ⟨e, rfl, he⟩⟩

theorem congr (h : Decides r P a) (hPQ : P ↔ Q) : Decides r Q a :=
  ⟨fun hQ => h.ok (hPQ.mpr hQ), fun hQ => h.error (hPQ.not.mpr hQ)⟩

end Decides

def runNodes (text : String) (nodes : List Node) (s : ParserState) : Except Exception ParserState :=
  nodes.foldlM (parseNode text) s

section Run

variable {text : String} {s : ParserState}

theorem runNodes_append (nodes nodes' : List Node) :
    runNodes text (nodes ++ nodes') s = runNodes text nodes s >>= runNodes text nodes' :=
  List.foldlM_append

theorem runNodes_cons (node : Node) (nodes : List Node) :
    runNodes text (node :: nodes) s = parseNode text s node >>= runNodes text nodes := List.foldlM_cons

/-- A token that has no text of its own is not kept. -/
theorem runNodes_symbol {token : Token} (hmodule : token.symbol ≠ .module) (hname : token.symbol ≠ .name)
    (nodes : List Node) : runNodes text (.token token :: nodes) s = runNodes text nodes s := by
  rw [runNodes_cons, parseNode, parseToken, if_neg (by simp [hmodule, hname])]
  rfl

theorem runNodes_rule {i : ℕ} {s' : ParserState} (h : parseRule text s i = .ok s') (nodes : List Node) :
    runNodes text (.rule i :: nodes) s = runNodes text nodes s' := by
  rw [runNodes_cons, parseNode, h]
  rfl

/-- A name is kept unless it is reserved. -/
theorem decides_name {name : Token} (hname : name.symbol = .name) :
    Decides (parseNode text s (.token name)) (getTokenText text name ∉ reservedIdentifierNames)
      { s with tokens := name :: s.tokens } := by
  rw [parseNode, parseToken, if_pos (.inr hname)]
  split_ifs with hreserved
  · exact ⟨fun h => absurd hreserved.2 h, fun _ => ⟨_, rfl, nofun⟩⟩
  · exact ⟨fun _ => rfl, fun h => absurd ⟨hname, not_not.mp h⟩ hreserved⟩

theorem SimpleType.symbol_kept (type : SimpleType) : type.symbol ≠ .module ∧ type.symbol ≠ .name := by
  cases type <;> decide

/-- A key is allowed if its definition can be a key. -/
theorem canBeMapKey_definition (messages : List MessageProtocolDefinition) (key : TypeSyntax) :
    (key.definition messages).canBeMapKey = true ↔ ∃ type, key = .simple type ∧ type ≠ .boolean := by
  cases key with
  | simple type => cases type <;> simp [TypeSyntax.definition, TypeDefinition.canBeMapKey, TypeDefinition.getType,
      SimpleType.toType]
  | list | map => simp [TypeSyntax.definition, TypeDefinition.canBeMapKey, TypeDefinition.getType]
  | reference messageName =>
    unfold TypeSyntax.definition
    split <;> simp [TypeDefinition.canBeMapKey, TypeDefinition.getType]

theorem decides_mapType (key value : TypeDefinition) (types : List TypeDefinition) (s : ParserState) :
    Decides (runNodes text [.rule 18] { s with typeDefinitions := value :: key :: types }) (key.canBeMapKey = true)
      { s with typeDefinitions := .map key value :: types } := by
  have hrule : parseRule text { s with typeDefinitions := value :: key :: types } 18 =
      if key.canBeMapKey then .ok { s with typeDefinitions := .map key value :: types }
      else .error (.invalidMapKeyError ("Type '" ++ key.toString ++ "' cannot be used as a map key")) := rfl
  rw [runNodes_cons, parseNode, hrule]
  split_ifs with hallowed
  · exact ⟨fun _ => rfl, fun h => absurd hallowed h⟩
  · exact ⟨fun h => absurd h hallowed, fun _ => ⟨_, rfl, nofun⟩⟩

theorem decides_reference (name : Token) (s : ParserState) :
    Decides (runNodes text [.rule 19] { s with tokens := name :: s.tokens })
      (getTokenText text name ∈ s.protocol.messages.map MessageProtocolDefinition.name)
      { s with typeDefinitions :=
          (TypeSyntax.reference (getTokenText text name)).definition s.protocol.messages :: s.typeDefinitions } := by
  have hdefined : getTokenText text name ∈ s.protocol.messages.map MessageProtocolDefinition.name ↔
      (s.protocol.messages.find? (·.name = getTokenText text name)).isSome = true := by
    simp [List.find?_isSome]
  rw [runNodes_cons, parseNode, hdefined, TypeSyntax.definition]
  cases hfind : s.protocol.messages.find? (·.name = getTokenText text name) with
  | none =>
    have hrule : parseRule text { s with tokens := name :: s.tokens } 19 = .error (.messageNameNotDefinedError
        ("message '" ++ getTokenText text name ++ "' was not defined")) := by
      simp only [parseRule, pop, pure, Except.pure, bind, Except.bind, hfind]
      rfl
    rw [hrule]
    exact ⟨fun h => absurd h (by simp), fun _ => ⟨_, rfl, nofun⟩⟩
  | some message =>
    have hrule : parseRule text { s with tokens := name :: s.tokens } 19 = .ok { s with
        typeDefinitions := TypeDefinition.message (getTokenText text name) message.hasStaticSize
          message.getStaticNumberOfBits :: s.typeDefinitions } := by
      simp only [parseRule, pop, pure, Except.pure, bind, Except.bind, hfind]
      rfl
    rw [hrule]
    exact ⟨fun _ => rfl, fun h => absurd rfl h⟩

/-- The nodes of a type push its definition. -/
theorem ReadsType.decides {type : TypeSyntax} {nodes : List Node} (h : ReadsType text type nodes) (s : ParserState) :
    Decides (runNodes text nodes s) (type.Checked (s.protocol.messages.map MessageProtocolDefinition.name))
      { s with typeDefinitions := type.definition s.protocol.messages :: s.typeDefinitions } := by
  induction h generalizing s with
  | simple type keyword hkeyword =>
    obtain ⟨hmodule, hname⟩ := type.symbol_kept
    have hrule : parseRule text s type.ruleIndex =
        .ok { s with typeDefinitions := .simple type :: s.typeDefinitions } := by cases type <;> rfl
    rw [runNodes_symbol (by rwa [hkeyword]) (by rwa [hkeyword]), runNodes_rule hrule]
    exact .pure _ ⟨nofun, trivial, nofun⟩
  | list subtype nodes list opening closing hlist hopening hclosing _ ih =>
    simp only [List.cons_append, List.nil_append]
    rw [runNodes_symbol (by simp [hlist]) (by simp [hlist]), runNodes_symbol (by simp [hopening]) (by simp [hopening]),
      runNodes_append]
    refine ((ih s).bind (Q := True) fun _ => ?_).congr ?_
    · rw [runNodes_symbol (by simp [hclosing]) (by simp [hclosing])]
      exact .pure _ trivial
    · rw [and_true]
      exact ⟨fun h => ⟨h.names, h.keys, h.references⟩, fun h => ⟨h.names, h.keys, h.references⟩⟩
  | map key value keyNodes valueNodes map opening comma closing hmap hopening hcomma hclosing _ _ ihkey ihvalue =>
    simp only [List.cons_append, List.nil_append, List.append_assoc]
    rw [runNodes_symbol (by simp [hmap]) (by simp [hmap]), runNodes_symbol (by simp [hopening]) (by simp [hopening]),
      runNodes_append]
    refine ((ihkey s).bind (Q := value.Checked (s.protocol.messages.map MessageProtocolDefinition.name) ∧
      (key.definition s.protocol.messages).canBeMapKey = true) fun _ => ?_).congr ?_
    · rw [runNodes_symbol (by simp [hcomma]) (by simp [hcomma]), runNodes_append]
      refine (ihvalue _).bind fun _ => ?_
      rw [runNodes_symbol (by simp [hclosing]) (by simp [hclosing])]
      exact decides_mapType _ _ _ s
    · rw [canBeMapKey_definition]
      constructor
      · rintro ⟨hkey, hvalue, hallowed⟩
        refine ⟨fun name hname => ?_, ⟨hallowed, hvalue.keys⟩, fun name hname => ?_⟩
        · exact (List.mem_append.mp hname).elim (hkey.names name) (hvalue.names name)
        · exact (List.mem_append.mp hname).elim (hkey.references name) (hvalue.references name)
      · rintro ⟨hnames, ⟨⟨type, rfl, hallowed⟩, hkeys⟩, hreferences⟩
        exact ⟨⟨nofun, trivial, nofun⟩, ⟨hnames, hkeys, hreferences⟩, type, rfl, hallowed⟩
  | reference name hname =>
    rw [runNodes_cons]
    refine ((decides_name hname).bind fun _ => decides_reference name s).congr ?_
    constructor
    · rintro ⟨hfree, hdefined⟩
      refine ⟨fun name' hname' => ?_, trivial, fun name' hname' => ?_⟩
      · rwa [List.mem_singleton.mp hname']
      · rwa [List.mem_singleton.mp hname']
    · exact fun h => ⟨h.names _ (List.mem_singleton_self _), h.references _ (List.mem_singleton_self _)⟩

/-- The nodes of fields append them to those that are there. -/
theorem ReadsFields.decides {fields : List FieldSyntax} {nodes : List Node} (h : ReadsFields text fields nodes)
    (s : ParserState) :
    Decides (runNodes text nodes s) (FieldsChecked (s.protocol.messages.map MessageProtocolDefinition.name) fields)
      { s with fields := s.fields ++ fields.map (FieldSyntax.definition s.protocol.messages) } := by
  induction h generalizing s with
  | nil =>
    rw [List.map_nil, List.append_nil]
    exact .pure _ nofun
  | field fields type nodes typeNodes name semicolon hname hsemicolon hfields htype ih =>
    rw [List.append_assoc, runNodes_append]
    refine ((ih s).bind (Q := type.Checked (s.protocol.messages.map MessageProtocolDefinition.name) ∧
      getTokenText text name ∉ reservedIdentifierNames ∧ True) fun _ => ?_).congr ?_
    · rw [runNodes_append]
      refine (htype.decides _).bind fun _ => ?_
      rw [runNodes_cons]
      refine (decides_name hname).bind fun _ => ?_
      rw [runNodes_symbol (by simp [hsemicolon]) (by simp [hsemicolon]), List.map_append, ← List.append_assoc]
      exact .pure _ trivial
    · simp only [and_true]
      constructor
      · rintro ⟨hchecked, htype, hfree⟩ field hfield
        rcases List.mem_append.mp hfield with hfield | hfield
        · exact hchecked field hfield
        · rw [List.mem_singleton.mp hfield]
          exact ⟨htype, hfree⟩
      · exact fun h => ⟨fun field hfield => h field (List.mem_append_left _ hfield),
          h _ (List.mem_append_right _ (List.mem_singleton_self _))⟩

/-- The nodes of a definition add it to the protocol, and leave the lists of fields empty. -/
theorem ReadsDefinition.decides {definition : DefinitionSyntax} {nodes : List Node}
    (h : ReadsDefinition text definition nodes) (s : ParserState) (hfields : s.fields = [])
    (hrequestFields : s.requestFields = []) :
    Decides (runNodes text nodes s) (definition.Checked (s.protocol.messages.map MessageProtocolDefinition.name))
      { s with protocol := definition.addTo s.protocol } := by
  obtain ⟨tokens, types, fields, requestFields, protocol⟩ := s
  dsimp only at hfields hrequestFields ⊢
  subst hfields hrequestFields
  cases h with
  | message fields nodes message name opening closing hmessage hname hopening hclosing h =>
    simp only [List.cons_append, List.nil_append]
    rw [runNodes_symbol (by simp [hmessage]) (by simp [hmessage]), runNodes_cons]
    refine ((decides_name hname).bind (Q := FieldsChecked (protocol.messages.map MessageProtocolDefinition.name) fields ∧
      True) fun _ => ?_).congr ?_
    · rw [runNodes_symbol (by simp [hopening]) (by simp [hopening]), runNodes_append]
      refine (h.decides _).bind fun _ => ?_
      rw [runNodes_symbol (by simp [hclosing]) (by simp [hclosing])]
      exact .pure _ trivial
    · rw [and_true]
      exact ⟨fun h => ⟨h.1, fun part hpart => by rw [List.mem_singleton.mp hpart]; exact h.2⟩,
        fun h => ⟨h.name, h.parts _ (List.mem_singleton_self _)⟩⟩
  | request requestFields responseFields requestNodes responseNodes request name opening response opening' closing'
      closing hrequest hname hopening hresponse hopening' hclosing' hclosing h h' =>
    simp only [List.cons_append, List.nil_append, List.append_assoc]
    rw [runNodes_symbol (by simp [hrequest]) (by simp [hrequest]), runNodes_cons]
    refine ((decides_name hname).bind
      (Q := FieldsChecked (protocol.messages.map MessageProtocolDefinition.name) requestFields ∧
        FieldsChecked (protocol.messages.map MessageProtocolDefinition.name) responseFields ∧ True) fun _ => ?_).congr ?_
    · rw [runNodes_symbol (by simp [hopening]) (by simp [hopening]), runNodes_append]
      refine (h.decides _).bind fun _ => ?_
      -- the fields of the request part move to a list of their own
      rw [runNodes_rule rfl, runNodes_symbol (by simp [hresponse]) (by simp [hresponse]),
        runNodes_symbol (by simp [hopening']) (by simp [hopening']), runNodes_append]
      refine (h'.decides _).bind fun _ => ?_
      rw [runNodes_symbol (by simp [hclosing']) (by simp [hclosing']),
        runNodes_symbol (by simp [hclosing]) (by simp [hclosing])]
      exact .pure _ trivial
    · rw [and_true]
      constructor
      · rintro ⟨hfree, hrequestChecked, hresponseChecked⟩
        refine ⟨hfree, fun part hpart => ?_⟩
        rcases List.mem_pair.mp hpart with rfl | rfl
        · exact hrequestChecked
        · exact hresponseChecked
      · exact fun h => ⟨h.name, h.parts _ (by simp [DefinitionSyntax.parts]), h.parts _ (by simp [DefinitionSyntax.parts])⟩

theorem addTo_messageNames (definition : DefinitionSyntax) (protocol : ProtocolDefinition) :
    (definition.addTo protocol).messages.map MessageProtocolDefinition.name =
      protocol.messages.map MessageProtocolDefinition.name ++ definition.messageNames := by
  cases definition <;> simp [DefinitionSyntax.addTo, DefinitionSyntax.messageNames]

theorem foldl_addTo_messageNames (definitions : List DefinitionSyntax) (protocol : ProtocolDefinition) :
    (definitions.foldl DefinitionSyntax.addTo protocol).messages.map MessageProtocolDefinition.name =
      protocol.messages.map MessageProtocolDefinition.name ++ definitions.flatMap DefinitionSyntax.messageNames := by
  induction definitions generalizing protocol with
  | nil => simp
  | cons definition definitions ih => rw [List.foldl_cons, ih, addTo_messageNames, List.flatMap_cons, List.append_assoc]

/-- The nodes of definitions add them one after the other. -/
theorem ReadsDefinitions.decides {definitions : List DefinitionSyntax} {nodes : List Node}
    (h : ReadsDefinitions text definitions nodes) (s : ParserState) (hfields : s.fields = [])
    (hrequestFields : s.requestFields = []) :
    Decides (runNodes text nodes s)
      (DefinitionsChecked (s.protocol.messages.map MessageProtocolDefinition.name) definitions)
      { s with protocol := definitions.foldl DefinitionSyntax.addTo s.protocol } := by
  induction h with
  | nil => exact .pure _ trivial
  | definition definitions definition nodes definitionNodes _ hdefinition ih =>
    rw [List.append_assoc, runNodes_append, definitionsChecked_concat, ← foldl_addTo_messageNames]
    refine ih.bind fun _ => ?_
    rw [runNodes_append]
    have hadded := hdefinition.decides { s with protocol := definitions.foldl DefinitionSyntax.addTo s.protocol } hfields
      hrequestFields
    refine (hadded.bind (Q := True) fun _ => ?_).congr (and_iff_left trivial)
    rw [List.foldl_concat]
    cases definition <;> exact .pure _ trivial

theorem runNodes_module {module : Token} (hmodule : module.symbol = .module) (nodes : List Node) :
    runNodes text (.token module :: nodes) s = runNodes text nodes { s with tokens := module :: s.tokens } := by
  rw [runNodes_cons, parseNode, parseToken, if_pos (.inl hmodule), if_neg (by simp [hmodule])]
  rfl

/-- The nodes of a text leave its definition. -/
theorem ReadsProtocol.decides {protocol : ProtocolSyntax} {nodes : List Node} (h : ReadsProtocol text protocol nodes) :
    Decides (runNodes text nodes .initial) (DefinitionsChecked [] protocol.definitions)
      { ParserState.initial with protocol := protocol.definition } := by
  cases h with
  | protocol definitions nodes namespaceToken module semicolon hnamespace hmodule hsemicolon h =>
    simp only [List.cons_append, List.nil_append]
    rw [runNodes_symbol (by simp [hnamespace]) (by simp [hnamespace]), runNodes_module hmodule,
      runNodes_symbol (by simp [hsemicolon]) (by simp [hsemicolon]), runNodes_rule rfl, runNodes_append]
    refine ((h.decides _ rfl rfl).bind (Q := True) fun _ => ?_).congr (and_iff_left trivial)
    exact .pure _ trivial

end Run

end Farseer
