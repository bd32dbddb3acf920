import Farseer.Schema.Accepted
import Farseer.Schema.Identifier
import Farseer.Schema.Stacks

/-! The language of `parseProtocolDefinition`: which texts it accepts, and what it makes of them. -/

namespace Farseer

def Schematic {α : Type} (r : Except Exception α) : Prop := ∀ e, r = .error e → ∀ message, e ≠ .logicError message

theorem validateProtocolDefinition_schematic (protocol : ProtocolDefinition) :
    Schematic (validateProtocolDefinition protocol) := by
  rintro e herror message rfl
  cases validateProtocolDefinition_refuses protocol _ herror

theorem messagesValid_iff {messages : List MessageProtocolDefinition} {names : Finset String} :
    MessagesValid messages names ↔ (messages.map MessageProtocolDefinition.name).Nodup ∧
      (∀ message ∈ messages, message.name ∉ names) ∧
      ∀ before message after, messages = before ++ message :: after →
        FieldsValid (insert message.name (names ∪ (before.map MessageProtocolDefinition.name).toFinset)) message.name
          message.fields := by
  induction messages generalizing names with
  | nil => simp [MessagesValid]
  | cons first messages ih =>
    rw [MessagesValid, ih]
    constructor
    · rintro ⟨hfirst, hvalid, hnodup, hnew, hrest⟩
      refine ⟨?_, ?_, ?_⟩
      · rw [List.map_cons, List.nodup_cons]
        refine ⟨fun hmem => ?_, hnodup⟩
        obtain ⟨message, hmessage, hname⟩ := List.mem_map.mp hmem
        exact hnew message hmessage (by rw [hname]; exact Finset.mem_insert_self _ _)
      · rintro message (_ | ⟨_, hmessage⟩)
        · exact hfirst
        · exact fun hmem => hnew message hmessage (Finset.mem_insert_of_mem hmem)
      · rintro (_ | ⟨head, before⟩) message after heq
        · cases heq
          simpa using hvalid
        · cases heq
          simpa [Finset.insert_union, Finset.union_insert] using hrest before message after rfl
    · rintro ⟨hnodup, hnew, hrest⟩
      rw [List.map_cons, List.nodup_cons] at hnodup
      refine ⟨hnew first (by simp), by simpa using hrest [] first messages rfl, hnodup.2, ?_, ?_⟩
      · intro message hmessage hmem
        rcases Finset.mem_insert.mp hmem with hname | hmem
        · exact hnodup.1 (List.mem_map.mpr ⟨message, hmessage, hname⟩)
        · exact hnew message (by simp [hmessage]) hmem
      · rintro before message after rfl
        simpa [Finset.insert_union, Finset.union_insert] using hrest (first :: before) message after rfl

theorem requestsValid_iff {requests : List RequestProtocolDefinition} {names seen : Finset String} :
    RequestsValid names requests seen ↔ (requests.map RequestProtocolDefinition.name).Nodup ∧
      ∀ request ∈ requests, request.name ∉ names ∧ request.name ∉ seen ∧
        FieldsValid names request.name request.requestFields ∧
        FieldsValid names request.name request.responseFields := by
  induction requests generalizing seen with
  | nil => simp [RequestsValid]
  | cons first requests ih =>
    rw [RequestsValid, ih, List.map_cons, List.nodup_cons]
    constructor
    · rintro ⟨hnames, hseen, hrequest, hresponse, hnodup, hrest⟩
      refine ⟨⟨fun hmem => ?_, hnodup⟩, ?_⟩
      · obtain ⟨request, hrequest, hname⟩ := List.mem_map.mp hmem
        exact (hrest request hrequest).2.1 (by rw [hname]; exact Finset.mem_insert_self _ _)
      · rintro request (_ | ⟨_, hmem⟩)
        · exact ⟨hnames, hseen, hrequest, hresponse⟩
        · obtain ⟨hnames, hseen, hvalid⟩ := hrest request hmem
          exact ⟨hnames, fun h => hseen (Finset.mem_insert_of_mem h), hvalid⟩
    · rintro ⟨⟨hfirst, hnodup⟩, hall⟩
      obtain ⟨hnames, hseen, hrequest, hresponse⟩ := hall first (by simp)
      refine ⟨hnames, hseen, hrequest, hresponse, hnodup, fun request hmem => ?_⟩
      obtain ⟨hnames, hseen, hvalid⟩ := hall request (by simp [hmem])
      refine ⟨hnames, fun h => ?_, hvalid⟩
      rcases Finset.mem_insert.mp h with hname | h
      · exact hfirst (List.mem_map.mpr ⟨request, hmem, hname⟩)
      · exact hseen h

/-- Every reference in the fields is to one of the messages. -/
def FieldsResolved (messageNames : List String) (fields : List FieldDefinition) : Prop :=
  ∀ field ∈ fields, ∀ name ∈ field.typeDefinition.references, name ∈ messageNames

/-- Messages refer to the messages before them, and requests to messages. -/
structure ProtocolDefinition.Resolved (protocol : ProtocolDefinition) : Prop where
  messages : ∀ before message after, protocol.messages = before ++ message :: after →
    FieldsResolved (before.map MessageProtocolDefinition.name) message.fields
  requests : ∀ request ∈ protocol.requests,
    FieldsResolved (protocol.messages.map MessageProtocolDefinition.name) request.requestFields ∧
      FieldsResolved (protocol.messages.map MessageProtocolDefinition.name) request.responseFields

def FieldsDistinct (fields : List FieldDefinition) : Prop := (fields.map FieldDefinition.name).Nodup

def ProtocolDefinition.names (protocol : ProtocolDefinition) : List String :=
  protocol.messages.map MessageProtocolDefinition.name ++ protocol.requests.map RequestProtocolDefinition.name

structure ProtocolDefinition.FieldsDistinct (protocol : ProtocolDefinition) : Prop where
  messages : ∀ message ∈ protocol.messages, Farseer.FieldsDistinct message.fields
  requests : ∀ request ∈ protocol.requests,
    Farseer.FieldsDistinct request.requestFields ∧ Farseer.FieldsDistinct request.responseFields

theorem FieldsResolved.mono {names names' : List String} (hnames : names ⊆ names') {fields : List FieldDefinition}
    (h : FieldsResolved names fields) : FieldsResolved names' fields :=
  fun field hfield name hname => hnames (h field hfield name hname)

theorem FieldsResolved.valid {messageNames : List String} {fields : List FieldDefinition}
    (h : FieldsResolved messageNames fields) (hdistinct : FieldsDistinct fields) {protocolName : String}
    (hother : protocolName ∉ messageNames) {names : Finset String} (hnames : ∀ name ∈ messageNames, name ∈ names) :
    FieldsValid names protocolName fields := by
  refine ⟨fun field hfield name hname => ⟨?_, hnames name (h field hfield name hname)⟩, hdistinct⟩
  rintro rfl
  exact hother (h field hfield _ hname)

/-- Where references are resolved, validation is about the names of protocols and of fields. -/
theorem validate_of_resolved {protocol : ProtocolDefinition} (h : protocol.Resolved) :
    validateProtocolDefinition protocol = .ok () ↔ protocol.names.Nodup ∧ protocol.FieldsDistinct := by
  rw [validateProtocolDefinition_ok_iff, messagesValid_iff, requestsValid_iff, ProtocolDefinition.names,
    List.nodup_append]
  constructor
  · rintro ⟨⟨hmessages, -, hmessagesValid⟩, hrequests, hrequestsValid⟩
    refine ⟨⟨hmessages, hrequests, ?_⟩, fun message hmessage => ?_, fun request hrequest => ?_⟩
    · rintro name hname _ hname' rfl
      obtain ⟨request, hrequest, rfl⟩ := List.mem_map.mp hname'
      exact (hrequestsValid request hrequest).1 (List.mem_toFinset.mpr hname)
    · obtain ⟨before, after, heq⟩ := List.append_of_mem hmessage
      exact (hmessagesValid before message after heq).distinct
    · obtain ⟨-, -, hrequestFields, hresponseFields⟩ := hrequestsValid request hrequest
      exact ⟨hrequestFields.distinct, hresponseFields.distinct⟩
  · rintro ⟨⟨hmessages, hrequests, hdisjoint⟩, hfields⟩
    refine ⟨⟨hmessages, by simp, fun before message after heq => ?_⟩, hrequests, fun request hrequest => ?_⟩
    · have hnot : message.name ∉ before.map MessageProtocolDefinition.name := by
        rw [heq, List.map_append, List.map_cons, List.nodup_append] at hmessages
        exact fun hmem => hmessages.2.2 _ hmem _ (List.mem_cons_self) rfl
      exact (h.messages before message after heq).valid (hfields.messages message (by rw [heq]; simp)) hnot
        fun name hname => by simp [List.mem_map.mp hname]
    · have hnot : request.name ∉ protocol.messages.map MessageProtocolDefinition.name :=
        fun hmem => hdisjoint _ hmem _ (List.mem_map_of_mem hrequest) rfl
      obtain ⟨hrequestFields, hresponseFields⟩ := h.requests request hrequest
      obtain ⟨hrequestDistinct, hresponseDistinct⟩ := hfields.requests request hrequest
      exact ⟨fun hmem => hnot (List.mem_toFinset.mp hmem), by simp,
        hrequestFields.valid hrequestDistinct hnot fun name hname => List.mem_toFinset.mpr hname,
        hresponseFields.valid hresponseDistinct hnot fun name hname => List.mem_toFinset.mpr hname⟩

theorem references_definition (messages : List MessageProtocolDefinition) (type : TypeSyntax) :
    (type.definition messages).references = type.references := by
  induction type with
  | simple type => rfl
  | list subtype ih => exact ih
  | map key value ihkey ihvalue =>
    rw [TypeSyntax.definition, TypeDefinition.references, ihkey, ihvalue, TypeSyntax.references]
  | reference messageName =>
    unfold TypeSyntax.definition
    split <;> rfl

theorem FieldsChecked.resolved {messageNames : List String} {fields : List FieldSyntax}
    (h : FieldsChecked messageNames fields) (messages : List MessageProtocolDefinition) :
    FieldsResolved messageNames (fields.map (FieldSyntax.definition messages)) := by
  intro field hfield name hname
  obtain ⟨written, hwritten, rfl⟩ := List.mem_map.mp hfield
  rw [FieldSyntax.definition, references_definition] at hname
  exact (h written hwritten).1.references name hname

theorem DefinitionSyntax.Checked.resolved {definition : DefinitionSyntax} {protocol : ProtocolDefinition}
    (h : definition.Checked (protocol.messages.map MessageProtocolDefinition.name)) (hprotocol : protocol.Resolved) :
    (definition.addTo protocol).Resolved := by
  cases definition with
  | message name fields =>
    have hfields := (h.parts fields (List.mem_singleton_self _)).resolved protocol.messages
    constructor
    · intro before message after heq
      rcases List.eq_nil_or_concat' after with rfl | ⟨after, last, rfl⟩
      · obtain ⟨rfl, hlast⟩ := List.append_inj' heq rfl
        rw [← List.singleton_inj.mp hlast]
        exact hfields
      · rw [← List.cons_append, ← List.append_assoc] at heq
        obtain ⟨hsame, -⟩ := List.append_inj' heq rfl
        exact hprotocol.messages before message after hsame
    · intro request hrequest
      rw [addTo_messageNames]
      obtain ⟨hrequestFields, hresponseFields⟩ := hprotocol.requests request hrequest
      exact ⟨hrequestFields.mono (List.subset_append_left _ _), hresponseFields.mono (List.subset_append_left _ _)⟩
  | request name requestFields responseFields =>
    have hrequestFields := (h.parts requestFields (by simp [DefinitionSyntax.parts])).resolved protocol.messages
    have hresponseFields := (h.parts responseFields (by simp [DefinitionSyntax.parts])).resolved protocol.messages
    refine ⟨hprotocol.messages, fun request hrequest => ?_⟩
    rcases List.mem_append.mp hrequest with hrequest | hrequest
    · exact hprotocol.requests request hrequest
    · rw [List.mem_singleton.mp hrequest]
      exact ⟨hrequestFields, hresponseFields⟩

/-- Checked definitions are resolved. -/
theorem DefinitionsChecked.resolved {definitions : List DefinitionSyntax} {protocol : ProtocolDefinition}
    (h : DefinitionsChecked (protocol.messages.map MessageProtocolDefinition.name) definitions)
    (hprotocol : protocol.Resolved) : (definitions.foldl DefinitionSyntax.addTo protocol).Resolved := by
  induction definitions generalizing protocol with
  | nil => exact hprotocol
  | cons definition definitions ih =>
    obtain ⟨hdefinition, hrest⟩ := h
    rw [← addTo_messageNames] at hrest
    exact ih hrest (hdefinition.resolved hprotocol)

theorem foldl_addTo_names (definitions : List DefinitionSyntax) (protocol : ProtocolDefinition) :
    (definitions.foldl DefinitionSyntax.addTo protocol).names.Perm
      (protocol.names ++ definitions.map DefinitionSyntax.name) := by
  induction definitions generalizing protocol with
  | nil => simp
  | cons definition definitions ih =>
    refine (ih (definition.addTo protocol)).trans ?_
    rw [List.map_cons, List.perm_iff_count]
    intro name
    cases definition with
    | message =>
      simp [ProtocolDefinition.names, DefinitionSyntax.addTo, DefinitionSyntax.name, List.count_cons]
      omega
    | request => simp [ProtocolDefinition.names, DefinitionSyntax.addTo, DefinitionSyntax.name]

theorem map_definition_name (messages : List MessageProtocolDefinition) (fields : List FieldSyntax) :
    (fields.map (FieldSyntax.definition messages)).map FieldDefinition.name = fields.map FieldSyntax.name := by
  rw [List.map_map]
  rfl

theorem addTo_fieldsDistinct (definition : DefinitionSyntax) (protocol : ProtocolDefinition) :
    (definition.addTo protocol).FieldsDistinct ↔
      protocol.FieldsDistinct ∧ ∀ fields ∈ definition.parts, (fields.map FieldSyntax.name).Nodup := by
  cases definition with
  | message name fields =>
    constructor
    · rintro ⟨hmessages, hrequests⟩
      have hnew := hmessages _ (List.mem_append_right _ (List.mem_singleton_self _))
      rw [Farseer.FieldsDistinct, map_definition_name] at hnew
      refine ⟨⟨fun message hmessage => hmessages message (List.mem_append_left _ hmessage), hrequests⟩,
        fun part hpart => ?_⟩
      rwa [List.mem_singleton.mp hpart]
    · rintro ⟨⟨hmessages, hrequests⟩, hparts⟩
      refine ⟨fun message hmessage => ?_, hrequests⟩
      rcases List.mem_append.mp hmessage with hmessage | hmessage
      · exact hmessages message hmessage
      · rw [List.mem_singleton.mp hmessage, Farseer.FieldsDistinct, map_definition_name]
        exact hparts fields (List.mem_singleton_self _)
  | request name requestFields responseFields =>
    constructor
    · rintro ⟨hmessages, hrequests⟩
      have hnew := hrequests _ (List.mem_append_right _ (List.mem_singleton_self _))
      rw [Farseer.FieldsDistinct, Farseer.FieldsDistinct, map_definition_name, map_definition_name] at hnew
      refine ⟨⟨hmessages, fun request hrequest => hrequests request (List.mem_append_left _ hrequest)⟩,
        fun part hpart => ?_⟩
      rcases List.mem_pair.mp hpart with rfl | rfl
      · exact hnew.1
      · exact hnew.2
    · rintro ⟨⟨hmessages, hrequests⟩, hparts⟩
      refine ⟨hmessages, fun request hrequest => ?_⟩
      rcases List.mem_append.mp hrequest with hrequest | hrequest
      · exact hrequests request hrequest
      · rw [List.mem_singleton.mp hrequest, Farseer.FieldsDistinct, Farseer.FieldsDistinct, map_definition_name,
          map_definition_name]
        exact ⟨hparts requestFields (by simp [DefinitionSyntax.parts]),
          hparts responseFields (by simp [DefinitionSyntax.parts])⟩

theorem foldl_addTo_fieldsDistinct (definitions : List DefinitionSyntax) (protocol : ProtocolDefinition) :
    (definitions.foldl DefinitionSyntax.addTo protocol).FieldsDistinct ↔ protocol.FieldsDistinct ∧
      ∀ definition ∈ definitions, ∀ fields ∈ definition.parts, (fields.map FieldSyntax.name).Nodup := by
  induction definitions generalizing protocol with
  | nil => simp
  | cons definition definitions ih =>
    rw [List.foldl_cons, ih, addTo_fieldsDistinct, List.forall_mem_cons, and_assoc]

section Names

variable {text : String}

def nameText (text : String) : Node → Option String
  | .token token => if token.symbol = .name then some (getTokenText text token) else none
  | .rule _ => none

@[simp] theorem nameText_rule (i : ℕ) : nameText text (.rule i) = none := rfl

theorem ReadsType.names {type : TypeSyntax} {nodes : List Node} (h : ReadsType text type nodes) :
    nodes.filterMap (nameText text) = type.references := by
  induction h with
  | simple type keyword hkeyword => simp [nameText, hkeyword, type.symbol_kept.2, TypeSyntax.references]
  | list subtype nodes list opening closing hlist hopening hclosing _ ih =>
    simp [nameText, hlist, hopening, hclosing, ih, TypeSyntax.references]
  | map key value keyNodes valueNodes map opening comma closing hmap hopening hcomma hclosing _ _ ihkey ihvalue =>
    simp [nameText, hmap, hopening, hcomma, hclosing, ihkey, ihvalue, TypeSyntax.references]
  | reference name hname => simp [nameText, hname, TypeSyntax.references]

theorem ReadsFields.names {fields : List FieldSyntax} {nodes : List Node} (h : ReadsFields text fields nodes) :
    nodes.filterMap (nameText text) = fields.flatMap fun field => field.type.references ++ [field.name] := by
  induction h with
  | nil => rfl
  | field fields type nodes typeNodes name semicolon hname hsemicolon hfields htype ih =>
    simp [nameText, hname, hsemicolon, ih, htype.names]

theorem ReadsDefinition.names {definition : DefinitionSyntax} {nodes : List Node}
    (h : ReadsDefinition text definition nodes) : nodes.filterMap (nameText text) = definition.names := by
  cases h with
  | message fields nodes message name opening closing hmessage hname hopening hclosing h =>
    simp [nameText, hmessage, hname, hopening, hclosing, h.names, DefinitionSyntax.names, DefinitionSyntax.name,
      DefinitionSyntax.parts]
  | request requestFields responseFields requestNodes responseNodes request name opening response opening' closing'
      closing hrequest hname hopening hresponse hopening' hclosing' hclosing h h' =>
    simp [List.filterMap_cons, nameText, hrequest, hname, hopening, hresponse, hopening', hclosing', hclosing, h.names, h'.names,
      DefinitionSyntax.names, DefinitionSyntax.name, DefinitionSyntax.parts]

theorem ReadsDefinitions.names {definitions : List DefinitionSyntax} {nodes : List Node}
    (h : ReadsDefinitions text definitions nodes) :
    nodes.filterMap (nameText text) = definitions.flatMap DefinitionSyntax.names := by
  induction h with
  | nil => rfl
  | definition definitions definition nodes definitionNodes _ hdefinition ih => simp [ih, hdefinition.names]

/-- The names of a text are those of its definitions, in the same order. -/
theorem ReadsProtocol.names {protocol : ProtocolSyntax} {nodes : List Node} (h : ReadsProtocol text protocol nodes) :
    nodes.filterMap (nameText text) = protocol.definitions.flatMap DefinitionSyntax.names := by
  cases h with
  | protocol definitions nodes namespaceToken module semicolon hnamespace hmodule hsemicolon h =>
    simp [List.filterMap_cons, nameText, hnamespace, hmodule, hsemicolon, h.names]

end Names

/-- When a text is accepted. -/
structure Acceptable (text : String) (nodes : List Node) (protocol : ProtocolSyntax) : Prop where
  names : ∀ token, .token token ∈ nodes → token.symbol = .name → getTokenText text token ∉ reservedIdentifierNames
  keys : ∀ definition ∈ protocol.definitions, ∀ type ∈ definition.types, type.KeysAllowed
  references : ∀ before definition after, protocol.definitions = before ++ definition :: after →
    ∀ name ∈ definition.references, ∃ fields, .message name fields ∈ before
  protocolNames : (protocol.definitions.map DefinitionSyntax.name).Nodup
  fieldNames : ∀ definition ∈ protocol.definitions, ∀ fields ∈ definition.parts, (fields.map FieldSyntax.name).Nodup

theorem definitionsChecked_iff {messageNames : List String} {definitions : List DefinitionSyntax} :
    DefinitionsChecked messageNames definitions ↔ ∀ before definition after,
      definitions = before ++ definition :: after →
        definition.Checked (messageNames ++ before.flatMap DefinitionSyntax.messageNames) := by
  induction definitions generalizing messageNames with
  | nil => simp [DefinitionsChecked]
  | cons first definitions ih =>
    rw [DefinitionsChecked, ih]
    constructor
    · rintro ⟨hfirst, hrest⟩ (_ | ⟨head, before⟩) definition after heq
      · cases heq
        simpa using hfirst
      · cases heq
        simpa using hrest before definition after rfl
    · intro h
      refine ⟨by simpa using h [] first definitions rfl, ?_⟩
      rintro before definition after rfl
      simpa using h (first :: before) definition after rfl

theorem mem_messageNames {name : String} {definitions : List DefinitionSyntax} :
    name ∈ definitions.flatMap DefinitionSyntax.messageNames ↔ ∃ fields, .message name fields ∈ definitions := by
  rw [List.mem_flatMap]
  constructor
  · rintro ⟨definition, hdefinition, hname⟩
    cases definition with
    | message name' fields =>
      rw [List.mem_singleton.mp hname]
      exact ⟨fields, hdefinition⟩
    | request => cases hname
  · rintro ⟨fields, hmem⟩
    exact ⟨_, hmem, List.mem_singleton_self _⟩

theorem ReadsProtocol.mem_names {text : String} {protocol : ProtocolSyntax} {nodes : List Node}
    (h : ReadsProtocol text protocol nodes) {name : String} :
    (∃ definition ∈ protocol.definitions, name ∈ definition.names) ↔
      ∃ token, .token token ∈ nodes ∧ token.symbol = .name ∧ getTokenText text token = name := by
  rw [← List.mem_flatMap, ← h.names, List.mem_filterMap]
  constructor
  · rintro ⟨node, hnode, hname⟩
    cases node with
    | rule => cases hname
    | token token =>
      rw [nameText] at hname
      split_ifs at hname with hsymbol
      exact ⟨token, hnode, hsymbol, Option.some.inj hname⟩
  · rintro ⟨token, htoken, hsymbol, rfl⟩
    exact ⟨.token token, htoken, if_pos hsymbol⟩

/-- What is checked of a definition, in the words of the language. -/
theorem DefinitionSyntax.checked_iff {messageNames : List String} {definition : DefinitionSyntax} :
    definition.Checked messageNames ↔ (∀ name ∈ definition.names, name ∉ reservedIdentifierNames) ∧
      (∀ type ∈ definition.types, type.KeysAllowed) ∧ ∀ name ∈ definition.references, name ∈ messageNames := by
  constructor
  · intro h
    have hfields : ∀ field ∈ definition.parts.flatten, field.type.Checked messageNames ∧
        field.name ∉ reservedIdentifierNames := by
      intro field hfield
      obtain ⟨part, hpart, hfield⟩ := List.mem_flatten.mp hfield
      exact h.parts part hpart field hfield
    refine ⟨fun name hname => ?_, fun type htype => ?_, fun name hname => ?_⟩
    · rcases List.mem_cons.mp hname with rfl | hname
      · exact h.name
      · obtain ⟨field, hfield, hname⟩ := List.mem_flatMap.mp hname
        rcases List.mem_append.mp hname with hname | hname
        · exact (hfields field hfield).1.names name hname
        · rw [List.mem_singleton.mp hname]
          exact (hfields field hfield).2
    · obtain ⟨field, hfield, rfl⟩ := List.mem_map.mp htype
      exact (hfields field hfield).1.keys
    · obtain ⟨type, htype, hname⟩ := List.mem_flatMap.mp hname
      obtain ⟨field, hfield, rfl⟩ := List.mem_map.mp htype
      exact (hfields field hfield).1.references name hname
  · rintro ⟨hnames, hkeys, hreferences⟩
    refine ⟨hnames _ List.mem_cons_self, fun part hpart field hfield => ?_⟩
    have hmem : field ∈ definition.parts.flatten := List.mem_flatten.mpr ⟨part, hpart, hfield⟩
    have htype : field.type ∈ definition.types := List.mem_map_of_mem hmem
    have hwritten : ∀ name ∈ field.type.references ++ [field.name], name ∉ reservedIdentifierNames :=
      fun name hname => hnames name (List.mem_cons_of_mem _ (List.mem_flatMap.mpr ⟨field, hmem, hname⟩))
    exact ⟨⟨fun name hname => hwritten name (List.mem_append_left _ hname), hkeys _ htype,
      fun name hname => hreferences name (List.mem_flatMap.mpr ⟨_, htype, hname⟩)⟩,
      hwritten _ (List.mem_append_right _ (List.mem_singleton_self _))⟩

theorem acceptable_iff {text : String} {nodes : List Node} {protocol : ProtocolSyntax}
    (h : ReadsProtocol text protocol nodes) :
    Acceptable text nodes protocol ↔ DefinitionsChecked [] protocol.definitions ∧
      (protocol.definitions.map DefinitionSyntax.name).Nodup ∧
        ∀ definition ∈ protocol.definitions, ∀ fields ∈ definition.parts, (fields.map FieldSyntax.name).Nodup := by
  rw [definitionsChecked_iff]
  constructor
  · intro hacceptable
    refine ⟨fun before definition after heq => ?_, hacceptable.protocolNames, hacceptable.fieldNames⟩
    have hmem : definition ∈ protocol.definitions := by rw [heq]; simp
    refine DefinitionSyntax.checked_iff.mpr ⟨fun name hname => ?_, hacceptable.keys definition hmem, fun name hname => ?_⟩
    · obtain ⟨token, htoken, hsymbol, rfl⟩ := h.mem_names.mp ⟨definition, hmem, hname⟩
      exact hacceptable.names token htoken hsymbol
    · rw [List.nil_append]
      exact mem_messageNames.mpr (hacceptable.references before definition after heq name hname)
  · rintro ⟨hchecked, hprotocolNames, hfieldNames⟩
    refine ⟨fun token htoken hsymbol => ?_, fun definition hmem => ?_, fun before definition after heq name hname => ?_,
      hprotocolNames, hfieldNames⟩
    · obtain ⟨definition, hmem, hname⟩ := h.mem_names.mpr ⟨token, htoken, hsymbol, rfl⟩
      obtain ⟨before, after, heq⟩ := List.append_of_mem hmem
      exact (DefinitionSyntax.checked_iff.mp (hchecked before definition after heq)).1 _ hname
    · obtain ⟨before, after, heq⟩ := List.append_of_mem hmem
      exact (DefinitionSyntax.checked_iff.mp (hchecked before definition after heq)).2.1
    · have hreferences := (DefinitionSyntax.checked_iff.mp (hchecked before definition after heq)).2.2 name hname
      rw [List.nil_append] at hreferences
      exact mem_messageNames.mp hreferences

/-- What is parsed is resolved, so its validation is about names only. -/
theorem ProtocolSyntax.validate_definition {protocol : ProtocolSyntax}
    (h : DefinitionsChecked [] protocol.definitions) :
    validateProtocolDefinition protocol.definition = .ok () ↔
      (protocol.definitions.map DefinitionSyntax.name).Nodup ∧
        ∀ definition ∈ protocol.definitions, ∀ fields ∈ definition.parts, (fields.map FieldSyntax.name).Nodup := by
  have hresolved : protocol.definition.Resolved :=
    @DefinitionsChecked.resolved _ { fileNamespace := protocol.fileNamespace, messages := [], requests := [] } h
      ⟨by simp, by simp⟩
  have hnames := foldl_addTo_names protocol.definitions
    { fileNamespace := protocol.fileNamespace, messages := [], requests := [] }
  rw [validate_of_resolved hresolved]
  refine and_congr hnames.nodup_iff ((foldl_addTo_fieldsDistinct _ _).trans (and_iff_right ⟨?_, ?_⟩))
  · exact fun _ hmem => absurd hmem List.not_mem_nil
  · exact fun _ hmem => absurd hmem List.not_mem_nil

theorem validate_decides (protocol : ProtocolDefinition) :
    Decides (validateProtocolDefinition protocol) (validateProtocolDefinition protocol = .ok ()) () := by
  refine ⟨id, fun hnot => ?_⟩
  have hschematic := validateProtocolDefinition_schematic protocol
  cases hvalidate : validateProtocolDefinition protocol with
  | ok => exact absurd hvalidate hnot
  | error e => exact ⟨e, rfl, hschematic e hvalidate⟩

/-- A text is parsed into what its syntax means, exactly if it is acceptable. -/
theorem parseProtocolDefinition_decides {glyph : String → Except Exception (List Node)} {text : String}
    {nodes : List Node} (hglyph : glyph text = .ok nodes) {protocol : ProtocolSyntax}
    (h : ReadsProtocol text protocol nodes) :
    Decides (parseProtocolDefinition glyph text) (Acceptable text nodes protocol) protocol.definition := by
  have hrun : parseProtocolDefinition glyph text = runNodes text nodes .initial >>= fun state =>
      validateProtocolDefinition state.protocol >>= fun _ => pure state.protocol := by
    rw [parseProtocolDefinition, hglyph]
    rfl
  rw [hrun]
  have hvalidate : Decides (validateProtocolDefinition protocol.definition >>= fun _ => pure protocol.definition)
      (validateProtocolDefinition protocol.definition = .ok () ∧ True) protocol.definition :=
    (validate_decides _).bind fun _ => .pure _ trivial
  refine (h.decides.bind fun _ => hvalidate).congr ?_
  rw [acceptable_iff h, and_true]
  exact and_congr_right fun hchecked => ProtocolSyntax.validate_definition hchecked

/-- Every derivation reads a syntax; the text is accepted exactly if the syntax is acceptable, its
definition is what the syntax means, and the loop never finds its stacks empty nor a rule unknown. -/
theorem parseProtocolDefinition_language (glyph : String → Except Exception (List Node)) (text : String)
    (nodes : List Node) (hglyph : glyph text = .ok nodes) (hparses : Parses .start nodes) :
    (∃ protocol, ReadsProtocol text protocol nodes) ∧ ∀ protocol, ReadsProtocol text protocol nodes →
      ((∃ definition, parseProtocolDefinition glyph text = .ok definition) ↔ Acceptable text nodes protocol) ∧
      (Acceptable text nodes protocol → parseProtocolDefinition glyph text = .ok protocol.definition) ∧
      ∀ message, parseProtocolDefinition glyph text ≠ .error (.logicError message) := by
  refine ⟨hparses.start, fun protocol hreads => ?_⟩
  have hdecides := parseProtocolDefinition_decides hglyph hreads
  refine ⟨⟨fun ⟨definition, hok⟩ => ?_, fun hacceptable => ⟨_, hdecides.ok hacceptable⟩⟩, hdecides.ok,
    fun message herror => ?_⟩
  · by_contra hnot
    obtain ⟨e, herror, -⟩ := hdecides.error hnot
    rw [hok] at herror
    cases herror
  · by_cases hacceptable : Acceptable text nodes protocol
    · rw [hdecides.ok hacceptable] at herror
      cases herror
    · obtain ⟨e, he, hschematic⟩ := hdecides.error hacceptable
      rw [he] at herror
      exact hschematic message (Except.error.inj herror)

def sampleSyntax : ProtocolSyntax where
  fileNamespace := getTokenText sampleText ⟨.module, 10, 33⟩
  definitions :=
    [.message (getTokenText sampleText ⟨.name, 43, 48⟩)
      [{ type := .simple .i32, name := getTokenText sampleText ⟨.name, 55, 56⟩ },
        { type := .simple .boolean, name := getTokenText sampleText ⟨.name, 63, 69⟩ }],
    .message (getTokenText sampleText ⟨.name, 81, 86⟩)
      [{ type := .list (.reference (getTokenText sampleText ⟨.name, 94, 99⟩))
         name := getTokenText sampleText ⟨.name, 101, 107⟩ },
        { type := .map (.simple .string) (.simple .u64), name := getTokenText sampleText ⟨.name, 126, 132⟩ }],
    .request (getTokenText sampleText ⟨.name, 144, 148⟩)
      [{ type := .reference (getTokenText sampleText ⟨.name, 151, 156⟩)
         name := getTokenText sampleText ⟨.name, 157, 163⟩ }]
      [{ type := .reference (getTokenText sampleText ⟨.name, 176, 181⟩)
         name := getTokenText sampleText ⟨.name, 182, 187⟩ }]]

theorem sampleNodes_read : ReadsProtocol sampleText sampleSyntax sampleNodes := by
  have hinteger : ReadsType sampleText (.simple .i32) _ := .simple .i32 ⟨.i32, 51, 54⟩ rfl
  have hboolean : ReadsType sampleText (.simple .boolean) _ := .simple .boolean ⟨.bool, 58, 62⟩ rfl
  have hpoint := ReadsDefinition.message _ _ ⟨.message, 35, 42⟩ ⟨.name, 43, 48⟩ ⟨.bracesBegin, 49, 50⟩
    ⟨.bracesEnd, 71, 72⟩ rfl rfl rfl rfl
    (.field _ _ _ _ ⟨.name, 63, 69⟩ ⟨.semicolon, 69, 70⟩ rfl rfl
      (.field _ _ _ _ ⟨.name, 55, 56⟩ ⟨.semicolon, 56, 57⟩ rfl rfl .nil hinteger) hboolean)
  have helement : ReadsType sampleText _ _ := .reference ⟨.name, 94, 99⟩ rfl
  have hpoints := ReadsType.list _ _ ⟨.list, 89, 93⟩ ⟨.angleBracketBegin, 93, 94⟩ ⟨.angleBracketEnd, 99, 100⟩ rfl rfl rfl
    helement
  have hkey : ReadsType sampleText (.simple .string) _ := .simple .string ⟨.string, 113, 119⟩ rfl
  have hvalue : ReadsType sampleText (.simple .u64) _ := .simple .u64 ⟨.u64, 121, 124⟩ rfl
  have hlabels := ReadsType.map _ _ _ _ ⟨.map, 109, 112⟩ ⟨.angleBracketBegin, 112, 113⟩ ⟨.comma, 119, 120⟩
    ⟨.angleBracketEnd, 124, 125⟩ rfl rfl rfl rfl hkey hvalue
  have hshape := ReadsDefinition.message _ _ ⟨.message, 73, 80⟩ ⟨.name, 81, 86⟩ ⟨.bracesBegin, 87, 88⟩
    ⟨.bracesEnd, 134, 135⟩ rfl rfl rfl rfl
    (.field _ _ _ _ ⟨.name, 126, 132⟩ ⟨.semicolon, 132, 133⟩ rfl rfl
      (.field _ _ _ _ ⟨.name, 101, 107⟩ ⟨.semicolon, 107, 108⟩ rfl rfl .nil hpoints) hlabels)
  have hcenter : ReadsType sampleText _ _ := .reference ⟨.name, 151, 156⟩ rfl
  have hfound : ReadsType sampleText _ _ := .reference ⟨.name, 176, 181⟩ rfl
  have hfind := ReadsDefinition.request _ _ _ _ ⟨.request, 136, 143⟩ ⟨.name, 144, 148⟩ ⟨.bracesBegin, 149, 150⟩
    ⟨.response, 165, 173⟩ ⟨.bracesBegin, 174, 175⟩ ⟨.bracesEnd, 189, 190⟩ ⟨.bracesEnd, 191, 192⟩ rfl rfl rfl rfl rfl rfl
    rfl (.field _ _ _ _ ⟨.name, 157, 163⟩ ⟨.semicolon, 163, 164⟩ rfl rfl .nil hcenter)
    (.field _ _ _ _ ⟨.name, 182, 187⟩ ⟨.semicolon, 187, 188⟩ rfl rfl .nil hfound)
  exact .protocol _ _ ⟨.namespace, 0, 9⟩ ⟨.module, 10, 33⟩ ⟨.semicolon, 33, 34⟩ rfl rfl rfl
    (.definition _ _ _ _ (.definition _ _ _ _ (.definition _ _ _ _ .nil hpoint) hshape) hfind)

/-- The text is acceptable, and parsed into the schema that it writes. -/
theorem sampleText_language :
    parseProtocolDefinition (fun _ => .ok sampleNodes) sampleText = .ok sampleSchema ∧
      Acceptable sampleText sampleNodes sampleSyntax := by
  obtain ⟨-, hall⟩ := parseProtocolDefinition_language (fun _ => .ok sampleNodes) sampleText sampleNodes rfl
    sampleNodes_read.parses
  exact ⟨sampleNodes_accepted, (hall sampleSyntax sampleNodes_read).1.mp ⟨sampleSchema, sampleNodes_accepted⟩⟩

end Farseer
