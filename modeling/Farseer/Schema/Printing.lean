import Farseer.Schema.Language
import Farseer.Schema.Lexemes

/-! `ProtocolDefinition::toString`, which prints the messages in front of the requests. What it prints of an accepted
text has the lexemes of the text with its definitions so regrouped, and is accepted as the same definition. -/

namespace Farseer

def FieldDefinition.print (indentation : String) (field : FieldDefinition) : String :=
  indentation ++ field.typeDefinition.toString ++ " " ++ field.name ++ ";\n"

def printFields (indentation : String) : List FieldDefinition → String
  | [] => ""
  | field :: fields => field.print indentation ++ printFields indentation fields

def MessageProtocolDefinition.print (message : MessageProtocolDefinition) : String :=
  "message " ++ message.name ++ "\n\x7b\n" ++ printFields "    " message.fields ++ "\x7d\n"

def RequestProtocolDefinition.print (request : RequestProtocolDefinition) : String :=
  "request " ++ request.name ++ "\n\x7b\n" ++ printFields "    " request.requestFields ++
    "\n    response\n    \x7b\n" ++ printFields "        " request.responseFields ++ "    \x7d\n\x7d\n"

/-- A line is left empty between two protocols. -/
def printProtocols {α : Type} (print : α → String) : List α → String
  | [] => ""
  | [protocol] => print protocol
  | protocol :: protocols => print protocol ++ "\n" ++ printProtocols print protocols

def ProtocolDefinition.toString (protocol : ProtocolDefinition) : String :=
  "namespace " ++ protocol.fileNamespace ++ ";\n\n" ++
    printProtocols MessageProtocolDefinition.print protocol.messages ++
    (if !protocol.messages.isEmpty && !protocol.requests.isEmpty then "\n" else "") ++
    printProtocols RequestProtocolDefinition.print protocol.requests

def TypeDefinition.toSyntax : TypeDefinition → TypeSyntax
  | .simple type => .simple type
  | .message name .. => .reference name
  | .list subtype => .list subtype.toSyntax
  | .map key value => .map key.toSyntax value.toSyntax

def FieldDefinition.toSyntax (field : FieldDefinition) : FieldSyntax where
  type := field.typeDefinition.toSyntax
  name := field.name

def MessageProtocolDefinition.toSyntax (message : MessageProtocolDefinition) : DefinitionSyntax :=
  .message message.name (message.fields.map FieldDefinition.toSyntax)

def RequestProtocolDefinition.toSyntax (request : RequestProtocolDefinition) : DefinitionSyntax :=
  .request request.name (request.requestFields.map FieldDefinition.toSyntax)
    (request.responseFields.map FieldDefinition.toSyntax)

def ProtocolDefinition.toSyntax (protocol : ProtocolDefinition) : ProtocolSyntax where
  fileNamespace := protocol.fileNamespace
  definitions := protocol.messages.map MessageProtocolDefinition.toSyntax ++
    protocol.requests.map RequestProtocolDefinition.toSyntax

theorem Symbol.isPunctuation_valid {symbol : Symbol} (h : symbol.isPunctuation = true) :
    (Lexeme.keyword symbol).Valid := by
  constructor
  · rintro rfl
    cases h
  · rintro rfl
    cases h

theorem LexesTo.mark {rest : List Char} {lexemes : List Lexeme} (h : LexesTo rest lexemes) (symbol : Symbol)
    (hsymbol : symbol.isPunctuation = true) : LexesTo (symbol.spelling.toList ++ rest) (.keyword symbol :: lexemes) :=
  .lexeme (Symbol.isPunctuation_valid hsymbol) h (.inl hsymbol)

theorem LexesTo.keyword {c : Char} {rest : List Char} {lexemes : List Lexeme} (h : LexesTo (c :: rest) lexemes)
    (hc : isWordCharacter c = false) (hdot : c ≠ '.') (symbol : Symbol) (hname : symbol ≠ .name)
    (hmodule : symbol ≠ .module) : LexesTo (symbol.spelling.toList ++ c :: rest) (.keyword symbol :: lexemes) :=
  @LexesTo.lexeme (.keyword symbol) ⟨hname, hmodule⟩ _ _ h (.inr (startsApart_cons hc hdot))

/-- A text that consists of the lexemes, whatever stands behind it. -/
def Closed (text : List Char) (lexemes : List Lexeme) : Prop :=
  ∀ rest lexemes', LexesTo rest lexemes' → LexesTo (text ++ rest) (lexemes ++ lexemes')

namespace Closed

variable {text text' : List Char} {lexemes lexemes' : List Lexeme}

theorem nil : Closed [] [] := fun _ _ h => h

theorem space (h : Closed text lexemes) {c : Char} (hc : isSpaceCharacter c = true) : Closed (c :: text) lexemes :=
  fun _ _ hrest => (h _ _ hrest).space hc

theorem spaces (h : Closed text lexemes) {s : List Char} (hs : s.all isSpaceCharacter = true) :
    Closed (s ++ text) lexemes := by
  intro rest lexemes' hrest
  rw [List.append_assoc]
  exact (h _ _ hrest).spaces (List.all_eq_true.mp hs)

theorem append (h : Closed text lexemes) (h' : Closed text' lexemes') :
    Closed (text ++ text') (lexemes ++ lexemes') := by
  intro rest lexemes'' hrest
  rw [List.append_assoc, List.append_assoc]
  exact h _ _ (h' _ _ hrest)

theorem mark (h : Closed text lexemes) (symbol : Symbol) (hsymbol : symbol.isPunctuation = true) :
    Closed (symbol.spelling.toList ++ text) (.keyword symbol :: lexemes) := by
  intro rest lexemes' hrest
  rw [List.append_assoc]
  exact (h _ _ hrest).mark symbol hsymbol

theorem word {c : Char} (h : Closed (c :: text) lexemes) (hc : isWordCharacter c = false) (hdot : c ≠ '.') {l : Lexeme}
    (hl : l.Valid) : Closed (l.text.toList ++ c :: text) (l :: lexemes) := by
  intro rest lexemes' hrest
  rw [List.append_assoc]
  exact .lexeme hl (h _ _ hrest) (.inr (startsApart_cons hc hdot))

theorem lexesTo (h : Closed text lexemes) : LexesTo text lexemes := by
  have hall := h [] [] .nil
  rwa [List.append_nil, List.append_nil] at hall

end Closed

theorem SimpleType.toString_eq (type : SimpleType) : type.toType.toString = type.symbol.spelling := by
  cases type <;> rfl

theorem TypeDefinition.lexesTo (type : TypeDefinition) (hvalid : ∀ l ∈ type.toSyntax.lexemes, l.Valid)
    {rest : List Char} {lexemes : List Lexeme} (h : LexesTo rest lexemes) (hrest : StartsApart rest) :
    LexesTo (type.toString.toList ++ rest) (type.toSyntax.lexemes ++ lexemes) := by
  induction type generalizing rest lexemes with
  | simple type =>
    rw [toString, type.toString_eq]
    exact .lexeme (hvalid _ (List.mem_singleton_self _)) h (.inr hrest)
  | message name hasStaticSize staticNumberOfBits =>
    exact .lexeme (hvalid _ (List.mem_singleton_self _)) h (.inr hrest)
  | list subtype ih =>
    have hclosing : LexesTo ('>' :: rest) _ := h.mark .angleBracketEnd rfl
    have hsubtype := ih (fun l hl => hvalid l (by simp [toSyntax, TypeSyntax.lexemes, hl])) hclosing
      (startsApart_cons (by decide) (by decide))
    have hopening : LexesTo ('<' :: _) _ := hsubtype.mark .angleBracketBegin rfl
    have hlist := hopening.keyword (by decide) (by decide) .list (by decide) (by decide)
    simpa [toString, toSyntax, TypeSyntax.lexemes, Symbol.spelling] using hlist
  | map key value ihkey ihvalue =>
    have hclosing : LexesTo ('>' :: rest) _ := h.mark .angleBracketEnd rfl
    have hvalue := ihvalue (fun l hl => hvalid l (by simp [toSyntax, TypeSyntax.lexemes, hl])) hclosing
      (startsApart_cons (by decide) (by decide))
    have hcomma : LexesTo (',' :: ' ' :: _) _ := (hvalue.space (by decide)).mark .comma rfl
    have hkey := ihkey (fun l hl => hvalid l (by simp [toSyntax, TypeSyntax.lexemes, hl])) hcomma
      (startsApart_cons (by decide) (by decide))
    have hopening : LexesTo ('<' :: _) _ := hkey.mark .angleBracketBegin rfl
    have hmap := hopening.keyword (by decide) (by decide) .map (by decide) (by decide)
    simpa [toString, toSyntax, TypeSyntax.lexemes, Symbol.spelling] using hmap

theorem FieldDefinition.closed (indentation : String) (hindentation : indentation.toList.all isSpaceCharacter = true)
    (field : FieldDefinition) (hvalid : ∀ l ∈ field.toSyntax.lexemes, l.Valid) :
    Closed (field.print indentation).toList field.toSyntax.lexemes := by
  have hsemicolon : Closed (';' :: ['\n']) _ := (Closed.nil.space (by decide)).mark .semicolon rfl
  have hname := hsemicolon.word (by decide) (by decide) (l := .name field.name)
    (hvalid _ (by simp [toSyntax, FieldSyntax.lexemes]))
  intro rest lexemes hrest
  have htype := field.typeDefinition.lexesTo (fun l hl => hvalid l (List.mem_append_left _ hl))
    ((hname _ _ hrest).space (show isSpaceCharacter ' ' = true by decide)) (startsApart_cons (by decide) (by decide))
  simpa [print, toSyntax, FieldSyntax.lexemes, Lexeme.text] using LexesTo.spaces (List.all_eq_true.mp hindentation) htype

theorem printFields_closed (indentation : String) (hindentation : indentation.toList.all isSpaceCharacter = true)
    (fields : List FieldDefinition) (hvalid : ∀ field ∈ fields, ∀ l ∈ field.toSyntax.lexemes, l.Valid) :
    Closed (printFields indentation fields).toList ((fields.map FieldDefinition.toSyntax).flatMap FieldSyntax.lexemes) := by
  induction fields with
  | nil => exact .nil
  | cons field fields ih =>
    rw [printFields, String.toList_append]
    exact (field.closed indentation hindentation (hvalid field List.mem_cons_self)).append
      (ih fun field' hfield' => hvalid field' (List.mem_cons_of_mem _ hfield'))

theorem MessageProtocolDefinition.closed (message : MessageProtocolDefinition)
    (hvalid : ∀ l ∈ message.toSyntax.lexemes, l.Valid) : Closed message.print.toList message.toSyntax.lexemes := by
  have hfields := printFields_closed "    " rfl message.fields fun field hfield l hl =>
    hvalid l (List.mem_append_left _ (List.mem_append_right _
      (List.mem_flatMap.mpr ⟨_, List.mem_map_of_mem hfield, hl⟩)))
  have hclosing : Closed ('\x7d' :: ['\n']) _ := (Closed.nil.space (by decide)).mark .bracesEnd rfl
  have hopening : Closed ('\n' :: '\x7b' :: '\n' :: _) _ :=
    (((hfields.append hclosing).space (by decide)).mark .bracesBegin rfl).space (by decide)
  have hname := hopening.word (by decide) (by decide) (l := .name message.name)
    (hvalid _ (by simp [toSyntax, DefinitionSyntax.lexemes]))
  have hmessage := (hname.space (show isSpaceCharacter ' ' = true by decide)).word (by decide) (by decide)
    (l := .keyword .message) ⟨by decide, by decide⟩
  simpa [print, toSyntax, DefinitionSyntax.lexemes, Lexeme.text, Symbol.spelling] using hmessage

theorem RequestProtocolDefinition.closed (request : RequestProtocolDefinition)
    (hvalid : ∀ l ∈ request.toSyntax.lexemes, l.Valid) : Closed request.print.toList request.toSyntax.lexemes := by
  have hrequestFields := printFields_closed "    " rfl request.requestFields fun field hfield l hl =>
    hvalid l (List.mem_append_left _ (List.mem_append_left _ (List.mem_append_left _ (List.mem_append_right _
      (List.mem_flatMap.mpr ⟨_, List.mem_map_of_mem hfield, hl⟩)))))
  have hresponseFields := printFields_closed "        " rfl request.responseFields fun field hfield l hl =>
    hvalid l (List.mem_append_left _ (List.mem_append_right _
      (List.mem_flatMap.mpr ⟨_, List.mem_map_of_mem hfield, hl⟩)))
  have hclosing : Closed ('\x7d' :: ['\n']) _ := (Closed.nil.space (by decide)).mark .bracesEnd rfl
  have hclosing' : Closed ([' ', ' ', ' ', ' '] ++ '\x7d' :: '\n' :: '\x7d' :: ['\n']) _ :=
    ((hclosing.space (by decide)).mark .bracesEnd rfl).spaces rfl
  have hopening' : Closed (['\n', ' ', ' ', ' ', ' '] ++ '\x7b' :: '\n' :: _) _ :=
    (((hresponseFields.append hclosing').space (by decide)).mark .bracesBegin rfl).spaces rfl
  have hresponse := (hopening'.word (by decide) (by decide) (l := .keyword .response) ⟨by decide, by decide⟩).spaces
    (s := ['\n', ' ', ' ', ' ', ' ']) rfl
  have hopening : Closed ('\n' :: '\x7b' :: '\n' :: _) _ :=
    (((hrequestFields.append hresponse).space (by decide)).mark .bracesBegin rfl).space (by decide)
  have hname := hopening.word (by decide) (by decide) (l := .name request.name)
    (hvalid _ (by simp [toSyntax, DefinitionSyntax.lexemes]))
  have hrequest := (hname.space (show isSpaceCharacter ' ' = true by decide)).word (by decide) (by decide)
    (l := .keyword .request) ⟨by decide, by decide⟩
  simpa [print, toSyntax, DefinitionSyntax.lexemes, Lexeme.text, Symbol.spelling] using hrequest

theorem printProtocols_closed {α : Type} (print : α → String) (toSyntax : α → DefinitionSyntax) (protocols : List α)
    (h : ∀ protocol ∈ protocols, Closed (print protocol).toList (toSyntax protocol).lexemes) :
    Closed (printProtocols print protocols).toList ((protocols.map toSyntax).flatMap DefinitionSyntax.lexemes) := by
  induction protocols with
  | nil => exact .nil
  | cons protocol protocols ih =>
    have hfirst := h protocol List.mem_cons_self
    have hrest := ih fun protocol' hprotocol' => h protocol' (List.mem_cons_of_mem _ hprotocol')
    cases protocols with
    | nil => simpa [printProtocols] using hfirst
    | cons next protocols =>
      have hline := hfirst.append (hrest.space (show isSpaceCharacter '\n' = true by decide))
      simpa [printProtocols] using hline

/-- What is printed consists of the lexemes of its syntax. -/
theorem ProtocolDefinition.lexesTo (protocol : ProtocolDefinition) (hvalid : ∀ l ∈ protocol.toSyntax.lexemes, l.Valid) :
    LexesTo protocol.toString.toList protocol.toSyntax.lexemes := by
  have hdefinition (definition : DefinitionSyntax) (hmem : definition ∈ protocol.toSyntax.definitions) :
      ∀ l ∈ definition.lexemes, l.Valid := fun l hl =>
    hvalid l (List.mem_append_right _ (List.mem_flatMap.mpr ⟨definition, hmem, hl⟩))
  have hmessages := printProtocols_closed MessageProtocolDefinition.print MessageProtocolDefinition.toSyntax
    protocol.messages fun message hmessage =>
      message.closed (hdefinition _ (List.mem_append_left _ (List.mem_map_of_mem hmessage)))
  have hrequests := printProtocols_closed RequestProtocolDefinition.print RequestProtocolDefinition.toSyntax
    protocol.requests fun request hrequest =>
      request.closed (hdefinition _ (List.mem_append_right _ (List.mem_map_of_mem hrequest)))
  have hline : Closed (if !protocol.messages.isEmpty && !protocol.requests.isEmpty then "\n" else "").toList [] := by
    split_ifs
    · exact Closed.nil.space (show isSpaceCharacter '\n' = true by decide)
    · exact .nil
  have hsemicolon : Closed (';' :: '\n' :: '\n' :: _) _ :=
    ((((hmessages.append hline).append hrequests).space (by decide)).space (by decide)).mark .semicolon rfl
  have hmodule := hsemicolon.word (by decide) (by decide) (l := .module protocol.fileNamespace)
    (hvalid _ (by simp [toSyntax, ProtocolSyntax.lexemes]))
  have hnamespace := (hmodule.space (show isSpaceCharacter ' ' = true by decide)).word (by decide) (by decide)
    (l := .keyword .namespace) ⟨by decide, by decide⟩
  simpa [toString, toSyntax, ProtocolSyntax.lexemes, Lexeme.text, Symbol.spelling] using hnamespace.lexesTo

def DefinitionSyntax.isMessage : DefinitionSyntax → Bool
  | message .. => true
  | request .. => false

@[simp] theorem DefinitionSyntax.isMessage_message (name : String) (fields : List FieldSyntax) :
    (message name fields).isMessage = true := rfl

@[simp] theorem DefinitionSyntax.isMessage_request (name : String) (requestFields responseFields : List FieldSyntax) :
    (request name requestFields responseFields).isMessage = false := rfl

/-- The messages in front of the requests. -/
def regrouped (definitions : List DefinitionSyntax) : List DefinitionSyntax :=
  definitions.filter DefinitionSyntax.isMessage ++ definitions.filter fun definition => !definition.isMessage

theorem regrouped_perm (definitions : List DefinitionSyntax) : (regrouped definitions).Perm definitions :=
  List.filter_append_perm _ _

theorem toSyntax_definition (messages : List MessageProtocolDefinition) (type : TypeSyntax) :
    (type.definition messages).toSyntax = type := by
  induction type with
  | simple type => rfl
  | list subtype ih => rw [TypeSyntax.definition, TypeDefinition.toSyntax, ih]
  | map key value ihkey ihvalue => rw [TypeSyntax.definition, TypeDefinition.toSyntax, ihkey, ihvalue]
  | reference messageName =>
    unfold TypeSyntax.definition
    split <;> rfl

theorem map_toSyntax_definition (messages : List MessageProtocolDefinition) (fields : List FieldSyntax) :
    fields.map (FieldDefinition.toSyntax ∘ FieldSyntax.definition messages) = fields := by
  refine (List.map_congr_left fun field _ => ?_).trans (List.map_id fields)
  rw [Function.comp_apply, FieldSyntax.definition, FieldDefinition.toSyntax, toSyntax_definition]
  rfl

theorem foldl_addTo_toSyntax (definitions : List DefinitionSyntax) (protocol : ProtocolDefinition) :
    (definitions.foldl DefinitionSyntax.addTo protocol).toSyntax =
      { fileNamespace := protocol.fileNamespace
        definitions := protocol.messages.map MessageProtocolDefinition.toSyntax ++
          definitions.filter DefinitionSyntax.isMessage ++
          (protocol.requests.map RequestProtocolDefinition.toSyntax ++
            definitions.filter fun definition => !definition.isMessage) } := by
  induction definitions generalizing protocol with
  | nil => simp [ProtocolDefinition.toSyntax]
  | cons definition definitions ih =>
    rw [List.foldl_cons, ih]
    cases definition with
    | message name fields =>
      simp [DefinitionSyntax.addTo, MessageProtocolDefinition.toSyntax, List.filter_cons,
        map_toSyntax_definition]
    | request name requestFields responseFields =>
      simp [DefinitionSyntax.addTo, RequestProtocolDefinition.toSyntax,
        map_toSyntax_definition]

theorem ProtocolSyntax.toSyntax_definition (protocol : ProtocolSyntax) :
    protocol.definition.toSyntax = { protocol with definitions := regrouped protocol.definitions } := by
  rw [definition, foldl_addTo_toSyntax]
  rfl

theorem definition_append {messages more : List MessageProtocolDefinition} {type : TypeSyntax}
    (h : ∀ name ∈ type.references, name ∈ messages.map MessageProtocolDefinition.name) :
    type.definition (messages ++ more) = type.definition messages := by
  induction type with
  | simple type => rfl
  | list subtype ih => rw [TypeSyntax.definition, ih h, TypeSyntax.definition]
  | map key value ihkey ihvalue =>
    rw [TypeSyntax.definition, ihkey fun name hname => h name (List.mem_append_left _ hname),
      ihvalue fun name hname => h name (List.mem_append_right _ hname), TypeSyntax.definition]
  | reference messageName =>
    obtain ⟨message, hmessage, hname⟩ := List.mem_map.mp (h messageName (List.mem_singleton_self _))
    cases hfind : messages.find? (·.name = messageName) with
    | none => exact absurd hname (by simpa using List.find?_eq_none.mp hfind message hmessage)
    | some found => simp [TypeSyntax.definition, List.find?_append, hfind]

theorem FieldsChecked.definition_append {messages : List MessageProtocolDefinition} {fields : List FieldSyntax}
    (h : FieldsChecked (messages.map MessageProtocolDefinition.name) fields) (more : List MessageProtocolDefinition) :
    fields.map (FieldSyntax.definition (messages ++ more)) = fields.map (FieldSyntax.definition messages) := by
  refine List.map_congr_left fun field hfield => ?_
  rw [FieldSyntax.definition, Farseer.definition_append (h field hfield).1.references]
  rfl

/-- A request means the same behind messages that come later. -/
theorem DefinitionSyntax.Checked.addTo_comm {protocol : ProtocolDefinition} {request message : DefinitionSyntax}
    (h : request.Checked (protocol.messages.map MessageProtocolDefinition.name)) (hrequest : request.isMessage = false)
    (hmessage : message.isMessage = true) :
    message.addTo (request.addTo protocol) = request.addTo (message.addTo protocol) := by
  cases request with
  | message => cases hrequest
  | request name requestFields responseFields =>
    cases message with
    | request => cases hmessage
    | message name' fields =>
      have hrequestFields := (h.parts requestFields List.mem_cons_self).definition_append
      have hresponseFields := (h.parts responseFields (List.mem_cons_of_mem _ List.mem_cons_self)).definition_append
      simp only [addTo, hrequestFields, hresponseFields]

theorem FieldsChecked.mono {names names' : List String} (hnames : names ⊆ names') {fields : List FieldSyntax}
    (h : FieldsChecked names fields) : FieldsChecked names' fields := fun field hfield =>
  have hfield := h field hfield
  ⟨⟨hfield.1.names, hfield.1.keys, fun name hname => hnames (hfield.1.references name hname)⟩, hfield.2⟩

theorem DefinitionSyntax.Checked.mono {names names' : List String} (hnames : names ⊆ names')
    {definition : DefinitionSyntax} (h : definition.Checked names) : definition.Checked names' :=
  ⟨h.name, fun fields hfields => (h.parts fields hfields).mono hnames⟩

theorem foldl_messages_addTo {messages : List DefinitionSyntax} (hall : ∀ message ∈ messages, message.isMessage = true)
    {protocol : ProtocolDefinition} {request : DefinitionSyntax} (hrequest : request.isMessage = false)
    (h : request.Checked (protocol.messages.map MessageProtocolDefinition.name)) :
    messages.foldl DefinitionSyntax.addTo (request.addTo protocol) =
      request.addTo (messages.foldl DefinitionSyntax.addTo protocol) := by
  induction messages generalizing protocol with
  | nil => rfl
  | cons message messages ih =>
    rw [List.foldl_cons, h.addTo_comm hrequest (hall message List.mem_cons_self), List.foldl_cons]
    refine ih (fun message' hmessage' => hall message' (List.mem_cons_of_mem _ hmessage')) (h.mono ?_)
    rw [addTo_messageNames]
    exact List.subset_append_left _ _

theorem foldl_addTo_regrouped {definitions : List DefinitionSyntax} {protocol : ProtocolDefinition}
    (h : DefinitionsChecked (protocol.messages.map MessageProtocolDefinition.name) definitions) :
    (regrouped definitions).foldl DefinitionSyntax.addTo protocol = definitions.foldl DefinitionSyntax.addTo protocol := by
  induction definitions generalizing protocol with
  | nil => rfl
  | cons definition definitions ih =>
    obtain ⟨hdefinition, hrest⟩ := h
    rw [← addTo_messageNames] at hrest
    rw [List.foldl_cons, ← ih hrest]
    cases hkind : definition.isMessage with
    | true => simp [regrouped, hkind]
    | false =>
      simp only [regrouped, List.filter_cons, hkind, Bool.not_false, List.foldl_append, List.foldl_cons, if_true]
      rw [foldl_messages_addTo (fun message hmessage => (List.mem_filter.mp hmessage).2) hkind hdefinition]
      rfl

theorem DefinitionsChecked.append {names : List String} {definitions definitions' : List DefinitionSyntax}
    (h : DefinitionsChecked names definitions)
    (h' : DefinitionsChecked (names ++ definitions.flatMap DefinitionSyntax.messageNames) definitions') :
    DefinitionsChecked names (definitions ++ definitions') := by
  induction definitions generalizing names with
  | nil => simpa using h'
  | cons definition definitions ih => exact ⟨h.1, ih h.2 (by simpa using h')⟩

theorem definitionsChecked_of_all {names : List String} {definitions : List DefinitionSyntax}
    (h : ∀ definition ∈ definitions, definition.Checked names) : DefinitionsChecked names definitions := by
  induction definitions generalizing names with
  | nil => trivial
  | cons definition definitions ih =>
    exact ⟨h definition List.mem_cons_self, ih fun definition' hmem =>
      (h definition' (List.mem_cons_of_mem _ hmem)).mono (List.subset_append_left _ _)⟩

theorem DefinitionsChecked.messages {names : List String} {definitions : List DefinitionSyntax}
    (h : DefinitionsChecked names definitions) :
    DefinitionsChecked names (definitions.filter DefinitionSyntax.isMessage) := by
  induction definitions generalizing names with
  | nil => trivial
  | cons definition definitions ih =>
    cases definition with
    | message name fields => exact ⟨h.1, ih h.2⟩
    | request name requestFields responseFields =>
      have hrest := ih h.2
      rwa [DefinitionSyntax.messageNames, List.append_nil] at hrest

theorem filter_messageNames (definitions : List DefinitionSyntax) :
    (definitions.filter DefinitionSyntax.isMessage).flatMap DefinitionSyntax.messageNames =
      definitions.flatMap DefinitionSyntax.messageNames := by
  induction definitions with
  | nil => rfl
  | cons definition definitions ih =>
    cases definition with
    | message => simp [List.filter_cons, ih]
    | request => simp [ih, DefinitionSyntax.messageNames]

theorem DefinitionsChecked.regrouped {names : List String} {definitions : List DefinitionSyntax}
    (h : DefinitionsChecked names definitions) : DefinitionsChecked names (Farseer.regrouped definitions) := by
  refine h.messages.append (definitionsChecked_of_all fun request hrequest => ?_)
  obtain ⟨before, after, heq⟩ := List.append_of_mem (List.mem_filter.mp hrequest).1
  refine (definitionsChecked_iff.mp h before request after heq).mono ?_
  rw [filter_messageNames, heq, List.flatMap_append, ← List.append_assoc]
  exact List.subset_append_left _ _

/-- Glyph finds the tokens of the text, and a derivation of them if there is one. -/
structure GlyphReads (glyph : String → Except Exception (List Node)) (text : String) : Prop where
  derivation : ∀ nodes, glyph text = .ok nodes → tokenize text = some (tokensOf nodes) ∧ Parses .start nodes
  found : ∀ nodes, tokenize text = some (tokensOf nodes) → Parses .start nodes → ∃ nodes', glyph text = .ok nodes'

section RoundTrip

variable {glyph : String → Except Exception (List Node)} {text : String}

/-- An accepted text has a syntax with valid lexemes, which is acceptable. -/
theorem GlyphReads.definition_of_ok (hglyph : GlyphReads glyph text) {definition : ProtocolDefinition}
    (h : parseProtocolDefinition glyph text = .ok definition) :
    ∃ protocol : ProtocolSyntax, definition = protocol.definition ∧ (∀ l ∈ protocol.lexemes, l.Valid) ∧
      DefinitionsChecked [] protocol.definitions ∧ (protocol.definitions.map DefinitionSyntax.name).Nodup ∧
      ∀ definition ∈ protocol.definitions, ∀ fields ∈ definition.parts, (fields.map FieldSyntax.name).Nodup := by
  cases hnodes : glyph text with
  | error e =>
    rw [parseProtocolDefinition, hnodes] at h
    cases h
  | ok nodes =>
    obtain ⟨htokens, hparses⟩ := hglyph.derivation nodes hnodes
    obtain ⟨protocol, hreads⟩ := hparses.start
    have hdecides := parseProtocolDefinition_decides hnodes hreads
    have hacceptable : Acceptable text nodes protocol := by
      by_contra hnot
      obtain ⟨e, herror, -⟩ := hdecides.error hnot
      rw [h] at herror
      cases herror
    refine ⟨protocol, ?_, fun l hl => ?_, (acceptable_iff hreads).mp hacceptable⟩
    · rw [hdecides.ok hacceptable] at h
      exact (Except.ok.inj h).symm
    · rw [← hreads.lexemes] at hl
      obtain ⟨token, htoken, rfl⟩ := List.mem_map.mp hl
      exact valid_of_tokenize htokens token htoken

/-- A text with the lexemes of an acceptable syntax is parsed into its definition. -/
theorem GlyphReads.parse_of_lexesTo (hglyph : GlyphReads glyph text) {protocol : ProtocolSyntax}
    (hlexes : LexesTo text.toList protocol.lexemes) (hvalid : ∀ l ∈ protocol.lexemes, l.Valid)
    (hchecked : DefinitionsChecked [] protocol.definitions)
    (hnames : (protocol.definitions.map DefinitionSyntax.name).Nodup)
    (hfields : ∀ definition ∈ protocol.definitions, ∀ fields ∈ definition.parts,
      (fields.map FieldSyntax.name).Nodup) :
    parseProtocolDefinition glyph text = .ok protocol.definition := by
  obtain ⟨tokens, htokens, hlexemes⟩ := hlexes.tokenize hvalid
  obtain ⟨nodes, hreads, rfl⟩ := exists_readsProtocol protocol hlexemes
  obtain ⟨nodes', hnodes'⟩ := hglyph.found nodes htokens hreads.parses
  obtain ⟨htokens', hparses'⟩ := hglyph.derivation nodes' hnodes'
  obtain ⟨protocol', hreads'⟩ := hparses'.start
  have hsame : tokensOf nodes = tokensOf nodes' := Option.some.inj (htokens.symm.trans htokens')
  -- both derivations read the same syntax, since their tokens are the same
  obtain rfl : protocol' = protocol := ProtocolSyntax.lexemes_inj (by rw [← hreads'.lexemes, ← hsame, hlexemes])
  exact (parseProtocolDefinition_decides hnodes' hreads').ok ((acceptable_iff hreads').mpr ⟨hchecked, hnames, hfields⟩)

/-- What is printed of an accepted text is accepted as the same definition. -/
theorem parseProtocolDefinition_toString (hglyph : GlyphReads glyph text) {definition : ProtocolDefinition}
    (h : parseProtocolDefinition glyph text = .ok definition) (hprinted : GlyphReads glyph definition.toString) :
    parseProtocolDefinition glyph definition.toString = .ok definition := by
  obtain ⟨protocol, rfl, hvalid, hchecked, hnames, hfields⟩ := hglyph.definition_of_ok h
  have hperm := regrouped_perm protocol.definitions
  have hvalid' : ∀ l ∈ protocol.definition.toSyntax.lexemes, l.Valid := by
    intro l hl
    rw [ProtocolSyntax.toSyntax_definition] at hl
    refine hvalid l ?_
    rcases List.mem_append.mp hl with hl | hl
    · exact List.mem_append_left _ hl
    · exact List.mem_append_right _ ((hperm.flatMap_right _).subset hl)
  have hlexes := protocol.definition.lexesTo hvalid'
  rw [ProtocolSyntax.toSyntax_definition] at hlexes hvalid'
  refine (hprinted.parse_of_lexesTo hlexes hvalid' hchecked.regrouped ((hperm.map _).nodup_iff.mpr hnames)
    fun definition hmem => hfields definition (hperm.subset hmem)).trans (congrArg _ ?_)
  exact foldl_addTo_regrouped hchecked

end RoundTrip

/-! A text with a request in front of a message, and what is printed of it. -/

def askText : String := "namespace a.b; request Ask \x7b response \x7b \x7d \x7d message Ping \x7b u32 value; \x7d"

def askPrintedText : String :=
  "namespace a.b;\n\nmessage Ping\n\x7b\n    u32 value;\n\x7d\n\nrequest Ask\n\x7b\n\n    response\n    \x7b\n    \x7d\n\x7d\n"

def askNodes : List Node :=
  [.token ⟨.namespace, 0, 9⟩, .token ⟨.module, 10, 13⟩, .token ⟨.semicolon, 13, 14⟩, .rule 2, .rule 5,
    .token ⟨.request, 15, 22⟩, .token ⟨.name, 23, 26⟩, .token ⟨.bracesBegin, 27, 28⟩, .rule 10, .rule 8,
    .token ⟨.response, 29, 37⟩, .token ⟨.bracesBegin, 38, 39⟩, .rule 10, .token ⟨.bracesEnd, 40, 41⟩,
    .token ⟨.bracesEnd, 42, 43⟩, .rule 7, .rule 4, .token ⟨.message, 44, 51⟩, .token ⟨.name, 52, 56⟩,
    .token ⟨.bracesBegin, 57, 58⟩, .rule 10, .token ⟨.u32, 59, 62⟩, .rule 13, .token ⟨.name, 63, 68⟩,
    .token ⟨.semicolon, 68, 69⟩, .rule 9, .token ⟨.bracesEnd, 70, 71⟩, .rule 6, .rule 3, .rule 1, .rule 0]

def askPrintedNodes : List Node :=
  [.token ⟨.namespace, 0, 9⟩, .token ⟨.module, 10, 13⟩, .token ⟨.semicolon, 13, 14⟩, .rule 2, .rule 5,
    .token ⟨.message, 16, 23⟩, .token ⟨.name, 24, 28⟩, .token ⟨.bracesBegin, 29, 30⟩, .rule 10,
    .token ⟨.u32, 35, 38⟩, .rule 13, .token ⟨.name, 39, 44⟩, .token ⟨.semicolon, 44, 45⟩, .rule 9,
    .token ⟨.bracesEnd, 46, 47⟩, .rule 6, .rule 3, .token ⟨.request, 49, 56⟩, .token ⟨.name, 57, 60⟩,
    .token ⟨.bracesBegin, 61, 62⟩, .rule 10, .rule 8, .token ⟨.response, 68, 76⟩, .token ⟨.bracesBegin, 81, 82⟩,
    .rule 10, .token ⟨.bracesEnd, 87, 88⟩, .token ⟨.bracesEnd, 89, 90⟩, .rule 7, .rule 4, .rule 1, .rule 0]

def askDefinition : ProtocolDefinition where
  fileNamespace := "a.b"
  messages := [{ fileNamespace := "a.b", name := "Ping", fields := [{ typeDefinition := .simple .u32, name := "value" }] }]
  requests := [{ fileNamespace := "a.b", name := "Ask", requestFields := [], responseFields := [] }]

def askGlyph (text : String) : Except Exception (List Node) :=
  if text = askText then .ok askNodes
  else if text = askPrintedText then .ok askPrintedNodes
  else .error (.runtimeError "text is not matched")

theorem askDefinition_toString : askDefinition.toString = askPrintedText := by decide +kernel

theorem askNodes_parses : Parses .start askNodes := by
  have hrequest := ReadsDefinition.request [] [] _ _ ⟨.request, 15, 22⟩ ⟨.name, 23, 26⟩ ⟨.bracesBegin, 27, 28⟩
    ⟨.response, 29, 37⟩ ⟨.bracesBegin, 38, 39⟩ ⟨.bracesEnd, 40, 41⟩ ⟨.bracesEnd, 42, 43⟩ rfl rfl rfl rfl rfl rfl rfl
    (.nil : ReadsFields askText [] _) .nil
  have htype : ReadsType askText (.simple .u32) _ := .simple .u32 ⟨.u32, 59, 62⟩ rfl
  have hmessage := ReadsDefinition.message _ _ ⟨.message, 44, 51⟩ ⟨.name, 52, 56⟩ ⟨.bracesBegin, 57, 58⟩
    ⟨.bracesEnd, 70, 71⟩ rfl rfl rfl rfl (.field _ _ _ _ ⟨.name, 63, 68⟩ ⟨.semicolon, 68, 69⟩ rfl rfl .nil htype)
  have hdefinitions := ReadsDefinitions.definition _ _ _ _ (.definition _ _ _ _ .nil hrequest) hmessage
  exact ReadsProtocol.parses (.protocol _ _ ⟨.namespace, 0, 9⟩ ⟨.module, 10, 13⟩ ⟨.semicolon, 13, 14⟩ rfl rfl rfl
    hdefinitions)

theorem askPrintedNodes_parses : Parses .start askPrintedNodes := by
  have htype : ReadsType askPrintedText (.simple .u32) _ := .simple .u32 ⟨.u32, 35, 38⟩ rfl
  have hmessage := ReadsDefinition.message _ _ ⟨.message, 16, 23⟩ ⟨.name, 24, 28⟩ ⟨.bracesBegin, 29, 30⟩
    ⟨.bracesEnd, 46, 47⟩ rfl rfl rfl rfl (.field _ _ _ _ ⟨.name, 39, 44⟩ ⟨.semicolon, 44, 45⟩ rfl rfl .nil htype)
  have hrequest := ReadsDefinition.request [] [] _ _ ⟨.request, 49, 56⟩ ⟨.name, 57, 60⟩ ⟨.bracesBegin, 61, 62⟩
    ⟨.response, 68, 76⟩ ⟨.bracesBegin, 81, 82⟩ ⟨.bracesEnd, 87, 88⟩ ⟨.bracesEnd, 89, 90⟩ rfl rfl rfl rfl rfl rfl rfl
    (.nil : ReadsFields askPrintedText [] _) .nil
  have hdefinitions := ReadsDefinitions.definition _ _ _ _ (.definition _ _ _ _ .nil hmessage) hrequest
  exact ReadsProtocol.parses (.protocol _ _ ⟨.namespace, 0, 9⟩ ⟨.module, 10, 13⟩ ⟨.semicolon, 13, 14⟩ rfl rfl rfl
    hdefinitions)

theorem askGlyph_reads : GlyphReads askGlyph askText ∧ GlyphReads askGlyph askDefinition.toString := by
  have hprinted : askGlyph askPrintedText = .ok askPrintedNodes := by decide +kernel
  rw [askDefinition_toString]
  refine ⟨⟨fun nodes h => ?_, fun _ _ _ => ⟨askNodes, if_pos rfl⟩⟩, ⟨fun nodes h => ?_, fun _ _ _ => ⟨_, hprinted⟩⟩⟩
  · obtain rfl : askNodes = nodes := Except.ok.inj ((if_pos rfl).symm.trans h)
    exact ⟨by decide +kernel, askNodes_parses⟩
  · obtain rfl : askPrintedNodes = nodes := Except.ok.inj (hprinted.symm.trans h)
    exact ⟨by decide +kernel, askPrintedNodes_parses⟩

theorem askText_printed : parseProtocolDefinition askGlyph askText = .ok askDefinition ∧
    parseProtocolDefinition askGlyph askDefinition.toString = .ok askDefinition := by
  have haccepted : parseProtocolDefinition askGlyph askText = .ok askDefinition := by decide +kernel
  exact ⟨haccepted, parseProtocolDefinition_toString askGlyph_reads.1 haccepted askGlyph_reads.2⟩

end Farseer
