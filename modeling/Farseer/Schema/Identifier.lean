import Farseer.Schema.Accepted

/-! What a protocol identifier pins down. With hash functions that never collide, equal
identifiers mean equal names and the same fields one after the other, but the identifier has no
mark for the kind of protocol, none for where the request part ends, and it takes a referenced
message by its name only. -/

namespace Farseer

open Hashing

/-- The hash functions of ballotin are free constructors. -/
class CollisionFree (H : Type) [Hashing H] : Prop where
  ofString_inj : ∀ {s t : String}, (ofString s : H) = ofString t → s = t
  hashCombine_inj : ∀ {a b c d : H}, hashCombine a b = hashCombine c d → a = c ∧ b = d
  ofString_ne_hashCombine : ∀ (s : String) (a b : H), ofString s ≠ hashCombine a b
  ofNumber_ne_hashCombine : ∀ (n : UInt32) (a b : H), ofNumber n ≠ hashCombine a b
  ofString_ne_ofNumber : ∀ (s : String) (n : UInt32), (ofString s : H) ≠ ofNumber n

open CollisionFree

/-- The type as the schema text writes it, without the sizes that its references cached. -/
def TypeDefinition.written : TypeDefinition → TypeDefinition
  | .simple type => .simple type
  | .message name _ _ => .message name false 0
  | .list subtype => .list subtype.written
  | .map key value => .map key.written value.written

/-- What an identifier is computed for. -/
inductive SchemaProtocol
  | message (definition : MessageProtocolDefinition)
  | request (definition : RequestProtocolDefinition)
  | response (definition : RequestProtocolDefinition)

namespace SchemaProtocol

def kind : SchemaProtocol → ProtocolType
  | message _ => .message
  | request _ => .request
  | response _ => .response

def fileNamespace : SchemaProtocol → String
  | message definition => definition.fileNamespace
  | request definition | response definition => definition.fileNamespace

def name : SchemaProtocol → String
  | message definition => definition.name
  | request definition | response definition => definition.name

/-- The fields of a message count as its request part. -/
def requestPart : SchemaProtocol → List FieldDefinition
  | message definition => definition.fields
  | request definition | response definition => definition.requestFields

def responsePart : SchemaProtocol → List FieldDefinition
  | message _ => []
  | request definition | response definition => definition.responseFields

def fields (p : SchemaProtocol) : List FieldDefinition := p.requestPart ++ p.responsePart

def identifier {H : Type} [Hashing H] (typeHash : TypeDefinition → H) : SchemaProtocol → H
  | message definition => definition.getHashCode typeHash
  | request definition => definition.getRequestHashCode typeHash
  | response definition => definition.getResponseHashCode typeHash

/-- The expanded request part and the expanded response part. -/
def layout (layouts : MessageLayouts) (p : SchemaProtocol) : Option (WireFields × WireFields) := do
  let request ← expandFields layouts p.requestPart
  let response ← expandFields layouts p.responsePart
  return (request, response)

end SchemaProtocol

def ProtocolDefinition.protocols (definition : ProtocolDefinition) : List SchemaProtocol :=
  definition.messages.map .message ++ definition.requests.map .request ++ definition.requests.map .response

section Hash

variable {H : Type} [Hashing H]

/-- The hash codes of the fields folded into that of the namespace and the name. -/
def foldFields (typeHash : TypeDefinition → H) (fileNamespace name : String)
    (fields : List FieldDefinition) : H :=
  fields.foldl (fun hashCode field => hashCombine hashCode (field.getHashCode typeHash))
    (hashCombine (ofString fileNamespace) (ofString name))

theorem foldFields_concat (typeHash : TypeDefinition → H) (fileNamespace name : String)
    (fields : List FieldDefinition) (field : FieldDefinition) :
    foldFields typeHash fileNamespace name (fields ++ [field]) =
      hashCombine (foldFields typeHash fileNamespace name fields) (field.getHashCode typeHash) := by
  unfold foldFields
  rw [List.foldl_concat]

/-- The identifier of a message or request is its fold, that of a response the salted fold. -/
theorem identifier_eq_foldFields (typeHash : TypeDefinition → H) (p : SchemaProtocol) :
    p.identifier typeHash =
      if p.kind = .response then
        hashCombine (foldFields typeHash p.fileNamespace p.name p.fields) (ofNumber 0x496706CB)
      else foldFields typeHash p.fileNamespace p.name p.fields := by
  have hrequest : ∀ r : RequestProtocolDefinition, r.getRequestHashCode typeHash =
      foldFields typeHash r.fileNamespace r.name (r.requestFields ++ r.responseFields) := by
    intro r
    unfold foldFields RequestProtocolDefinition.getRequestHashCode
    rw [List.foldl_append]
  rcases p with m | r | r
  · rw [if_neg (by simp [SchemaProtocol.kind]), SchemaProtocol.fields, SchemaProtocol.responsePart,
      List.append_nil]
    rfl
  · rw [if_neg (by simp [SchemaProtocol.kind])]
    exact hrequest r
  · rw [if_pos (by simp [SchemaProtocol.kind])]
    exact congrArg (hashCombine · (ofNumber 0x496706CB)) (hrequest r)

variable [CollisionFree H] {typeHash : TypeDefinition → H}

def FieldDefinition.written (field : FieldDefinition) : TypeDefinition × String :=
  (field.typeDefinition.written, field.name)

theorem fieldHash_inj (hdistinct : ∀ t u, typeHash t = typeHash u → t.written = u.written)
    {f g : FieldDefinition} (h : f.getHashCode typeHash = g.getHashCode typeHash) :
    f.written = g.written := by
  obtain ⟨htype, hname⟩ := hashCombine_inj h
  exact Prod.ext (hdistinct _ _ htype) (ofString_inj hname)

/-- The combined hash of a name is not that of a field, so the fold shows where it started. -/
theorem foldFields_inj (hdistinct : ∀ t u, typeHash t = typeHash u → t.written = u.written)
    {ns ns' name name' : String} {fs gs : List FieldDefinition}
    (h : foldFields typeHash ns name fs = foldFields typeHash ns' name' gs) :
    ns = ns' ∧ name = name' ∧ fs.map FieldDefinition.written = gs.map FieldDefinition.written := by
  induction fs using List.reverseRecOn generalizing gs with
  | nil =>
    rcases List.eq_nil_or_concat' gs with rfl | ⟨gs, g, rfl⟩
    · obtain ⟨hns, hname⟩ := hashCombine_inj h
      exact ⟨ofString_inj hns, ofString_inj hname, rfl⟩
    · rw [foldFields_concat] at h
      exact absurd (hashCombine_inj h).2 (ofString_ne_hashCombine _ _ _)
  | append_singleton fs f ih =>
    rw [foldFields_concat] at h
    rcases List.eq_nil_or_concat' gs with rfl | ⟨gs, g, rfl⟩
    · exact absurd (hashCombine_inj h).2.symm (ofString_ne_hashCombine _ _ _)
    · rw [foldFields_concat] at h
      obtain ⟨hfold, hfield⟩ := hashCombine_inj h
      obtain ⟨hns, hname, hfields⟩ := ih hfold
      refine ⟨hns, hname, ?_⟩
      rw [List.map_append, List.map_append, hfields, List.map_singleton, List.map_singleton,
        fieldHash_inj hdistinct hfield]

/-- No fold ends with the salt of a response. -/
theorem foldFields_ne_salted (ns ns' name name' : String) (fs gs : List FieldDefinition) (salt : UInt32) :
    foldFields typeHash ns name fs ≠ hashCombine (foldFields typeHash ns' name' gs) (ofNumber salt) := by
  intro h
  rcases List.eq_nil_or_concat' fs with rfl | ⟨fs, f, rfl⟩
  · exact ofString_ne_ofNumber _ _ (hashCombine_inj h).2
  · rw [foldFields_concat] at h
    exact ofNumber_ne_hashCombine _ _ _ (hashCombine_inj h).2.symm

theorem identifier_inj (hdistinct : ∀ t u, typeHash t = typeHash u → t.written = u.written)
    {p q : SchemaProtocol} (h : p.identifier typeHash = q.identifier typeHash) :
    (p.kind = .response ↔ q.kind = .response) ∧ p.fileNamespace = q.fileNamespace ∧ p.name = q.name ∧
      p.fields.map FieldDefinition.written = q.fields.map FieldDefinition.written := by
  rw [identifier_eq_foldFields, identifier_eq_foldFields] at h
  by_cases hp : p.kind = .response
  · by_cases hq : q.kind = .response
    · rw [if_pos hp, if_pos hq] at h
      exact ⟨iff_of_true hp hq, foldFields_inj hdistinct (hashCombine_inj h).1⟩
    · rw [if_pos hp, if_neg hq] at h
      exact absurd h.symm (foldFields_ne_salted _ _ _ _ _ _ _)
  · by_cases hq : q.kind = .response
    · rw [if_neg hp, if_pos hq] at h
      exact absurd h (foldFields_ne_salted _ _ _ _ _ _ _)
    · rw [if_neg hp, if_neg hq] at h
      exact ⟨iff_of_false hp hq, foldFields_inj hdistinct h⟩

end Hash

def WireFields.length : WireFields → ℕ
  | .nil => 0
  | .cons _ tail => tail.length + 1

theorem length_of_expandFields {layouts : MessageLayouts} {fields : List FieldDefinition} {w : WireFields}
    (h : expandFields layouts fields = some w) : w.length = fields.length := by
  induction fields generalizing w with
  | nil => cases h; rfl
  | cons f fields ih =>
    simp only [expandFields, Option.bind_eq_bind, Option.bind_eq_some_iff] at h
    obtain ⟨head, -, tail, htail, h⟩ := h
    cases h
    rw [WireFields.length, ih htail, List.length_cons]

/-- The names mean the same messages, once expanded, in both schemas. -/
def SameMessages (layouts layouts' : MessageLayouts) (names : List String) : Prop :=
  ∀ n ∈ names, layouts.lookup n = layouts'.lookup n

theorem expandKey_written (t : TypeDefinition) : expandKey t.written = expandKey t := by
  cases t <;> rfl

theorem references_of_expandKey {t : TypeDefinition} {k : KeyType} (h : expandKey t = some k) :
    t.references = [] := by
  cases t with
  | simple type => rfl
  | message | list | map => cases h

theorem expandType_eq_iff {layouts layouts' : MessageLayouts} {t u : TypeDefinition} {w w' : WireType}
    (hwritten : t.written = u.written) (ht : expandType layouts t = some w)
    (hu : expandType layouts' u = some w') : w = w' ↔ SameMessages layouts layouts' t.references := by
  induction t generalizing u w w' with
  | simple type =>
    cases u with
    | simple type' =>
      cases hwritten
      have heq : w = w' := by cases type <;> cases ht <;> cases hu <;> rfl
      exact iff_of_true heq fun n hn => by cases hn
    | message | list | map => cases hwritten
  | message name _ _ =>
    cases u with
    | message name' _ _ =>
      cases hwritten
      obtain ⟨fields, hfields, rfl⟩ := Option.map_eq_some_iff.mp ht
      obtain ⟨fields', hfields', rfl⟩ := Option.map_eq_some_iff.mp hu
      simp [SameMessages, TypeDefinition.references, hfields, hfields']
    | simple | list | map => cases hwritten
  | list subtype ih =>
    cases u with
    | list subtype' =>
      obtain ⟨v, hv, rfl⟩ := Option.map_eq_some_iff.mp ht
      obtain ⟨v', hv', rfl⟩ := Option.map_eq_some_iff.mp hu
      rw [WireType.list.injEq]
      exact ih (TypeDefinition.list.inj hwritten) hv hv'
    | simple | message | map => cases hwritten
  | map key value _ ih =>
    cases u with
    | map key' value' =>
      obtain ⟨hkey, hvalue⟩ := TypeDefinition.map.inj hwritten
      simp only [expandType, Option.bind_eq_bind, Option.bind_eq_some_iff] at ht hu
      obtain ⟨k, hk, v, hv, ht⟩ := ht
      obtain ⟨k', hk', v', hv', hu⟩ := hu
      have hnone := references_of_expandKey hk
      cases ht
      cases hu
      -- keys refer to no message
      rw [← expandKey_written, hkey, expandKey_written] at hk
      obtain rfl : k = k' := Option.some_inj.mp (hk.symm.trans hk')
      rw [WireType.map.injEq, TypeDefinition.references, hnone]
      simpa using ih hvalue hv hv'
    | simple | message | list => cases hwritten

theorem expandFields_eq_iff {layouts layouts' : MessageLayouts} {fs gs : List FieldDefinition}
    {w w' : WireFields} (hwritten : fs.map FieldDefinition.written = gs.map FieldDefinition.written)
    (hfs : expandFields layouts fs = some w) (hgs : expandFields layouts' gs = some w') :
    w = w' ↔ SameMessages layouts layouts' (fs.flatMap fun f => f.typeDefinition.references) := by
  induction fs generalizing gs w w' with
  | nil =>
    obtain rfl := List.map_eq_nil_iff.mp hwritten.symm
    cases hfs
    cases hgs
    exact iff_of_true rfl fun n hn => by cases hn
  | cons f fs ih =>
    cases gs with
    | nil => cases hwritten
    | cons g gs =>
      obtain ⟨hfield, hfields⟩ := List.cons.inj hwritten
      simp only [expandFields, Option.bind_eq_bind, Option.bind_eq_some_iff] at hfs hgs
      obtain ⟨head, hhead, tail, htail, hfs⟩ := hfs
      obtain ⟨head', hhead', tail', htail', hgs⟩ := hgs
      cases hfs
      cases hgs
      rw [WireFields.cons.injEq, expandType_eq_iff (congrArg Prod.fst hfield) hhead hhead', ih hfields htail htail']
      simp only [SameMessages, List.flatMap_cons, List.mem_append, or_imp, forall_and]

theorem layout_eq_some_iff {layouts : MessageLayouts} {p : SchemaProtocol} {parts : WireFields × WireFields} :
    p.layout layouts = some parts ↔
      expandFields layouts p.requestPart = some parts.1 ∧ expandFields layouts p.responsePart = some parts.2 := by
  rcases parts with ⟨request, response⟩
  cases hrequest : expandFields layouts p.requestPart <;>
    cases hresponse : expandFields layouts p.responsePart <;>
    simp [SchemaProtocol.layout, hrequest, hresponse]

/-- Both parts are laid out alike exactly when the request part ends at the same field and the
messages referred to are alike. -/
theorem layout_eq_iff {layouts layouts' : MessageLayouts} {p q : SchemaProtocol}
    {parts parts' : WireFields × WireFields}
    (hwritten : p.fields.map FieldDefinition.written = q.fields.map FieldDefinition.written)
    (hp : p.layout layouts = some parts) (hq : q.layout layouts' = some parts') :
    parts = parts' ↔ p.requestPart.length = q.requestPart.length ∧
      SameMessages layouts layouts' (p.fields.flatMap fun f => f.typeDefinition.references) := by
  obtain ⟨hp1, hp2⟩ := layout_eq_some_iff.mp hp
  obtain ⟨hq1, hq2⟩ := layout_eq_some_iff.mp hq
  by_cases hlen : p.requestPart.length = q.requestPart.length
  · unfold SchemaProtocol.fields at hwritten
    rw [List.map_append, List.map_append] at hwritten
    obtain ⟨hrequest, hresponse⟩ := List.append_inj hwritten (by simpa using hlen)
    rw [Prod.ext_iff, expandFields_eq_iff hrequest hp1 hq1, expandFields_eq_iff hresponse hp2 hq2]
    simp [hlen, SchemaProtocol.fields, SameMessages, or_imp, forall_and]
  · refine iff_of_false (fun heq => hlen ?_) fun h => hlen h.1
    rw [← length_of_expandFields hp1, ← length_of_expandFields hq1, heq]

theorem accepted_protocol {glyph : String → Except Exception (List Node)} {text : String}
    {definition : ProtocolDefinition} (h : parseProtocolDefinition glyph text = .ok definition)
    {layout : ProtocolLayout} (hlayout : definition.expand = some layout) {p : SchemaProtocol}
    (hp : p ∈ definition.protocols) : ∃ parts, p.layout layout.messages = some parts := by
  obtain ⟨hmessages, hrequests⟩ := accepted_fields h hlayout
  rcases List.mem_append.mp hp with hp | hp
  · rcases List.mem_append.mp hp with hp | hp
    · obtain ⟨m, hm, rfl⟩ := List.mem_map.mp hp
      obtain ⟨w, hw⟩ := hmessages m hm
      exact ⟨(w, .nil), layout_eq_some_iff.mpr ⟨hw, rfl⟩⟩
    · obtain ⟨r, hr, rfl⟩ := List.mem_map.mp hp
      obtain ⟨⟨w, hw⟩, ⟨v, hv⟩⟩ := hrequests r hr
      exact ⟨(w, v), layout_eq_some_iff.mpr ⟨hw, hv⟩⟩
  · obtain ⟨r, hr, rfl⟩ := List.mem_map.mp hp
    obtain ⟨⟨w, hw⟩, ⟨v, hv⟩⟩ := hrequests r hr
    exact ⟨(w, v), layout_eq_some_iff.mpr ⟨hw, hv⟩⟩

/-- What equal identifiers of two accepted schemas say about the formats behind them. -/
structure SameIdentifier (layouts layouts' : MessageLayouts) (p q : SchemaProtocol) : Prop where
  response : p.kind = .response ↔ q.kind = .response
  fileNamespace : p.fileNamespace = q.fileNamespace
  name : p.name = q.name
  fields : p.fields.map FieldDefinition.written = q.fields.map FieldDefinition.written
  layout : ∃ parts parts', p.layout layouts = some parts ∧ q.layout layouts' = some parts' ∧
    (parts = parts' ↔ p.requestPart.length = q.requestPart.length ∧
      SameMessages layouts layouts' (p.fields.flatMap fun f => f.typeDefinition.references))

/-- Equal identifiers mean the same names and the same fields in a row; the layouts agree exactly
when the request parts have the same length and the referenced messages agree. -/
theorem identifier_determines_fields {H : Type} [Hashing H] [CollisionFree H] {typeHash : TypeDefinition → H}
    (hdistinct : ∀ t u, typeHash t = typeHash u → t.written = u.written)
    {glyph glyph' : String → Except Exception (List Node)} {text text' : String}
    {definition definition' : ProtocolDefinition}
    (h : parseProtocolDefinition glyph text = .ok definition)
    (h' : parseProtocolDefinition glyph' text' = .ok definition')
    {p q : SchemaProtocol} (hp : p ∈ definition.protocols) (hq : q ∈ definition'.protocols)
    (hidentifier : p.identifier typeHash = q.identifier typeHash) :
    ∃ layout layout', definition.expand = some layout ∧ definition'.expand = some layout' ∧
      SameIdentifier layout.messages layout'.messages p q := by
  obtain ⟨layout, hlayout⟩ := accepted_layout h
  obtain ⟨layout', hlayout'⟩ := accepted_layout h'
  obtain ⟨hresponse, hnamespace, hname, hfields⟩ := identifier_inj hdistinct hidentifier
  obtain ⟨parts, hparts⟩ := accepted_protocol h hlayout.expand hp
  obtain ⟨parts', hparts'⟩ := accepted_protocol h' hlayout'.expand hq
  exact ⟨layout, layout', hlayout.expand, hlayout'.expand, hresponse, hnamespace, hname, hfields,
    parts, parts', hparts, hparts', layout_eq_iff hfields hparts hparts'⟩

/-! Symbolic hash codes, and three schemas with one field each: as the field of a message, in
the request part of a request and in its response part. -/

/-- A hash code is the expression that computes it. -/
inductive SymbolicHash
  | ofType (type : SchemaType)
  | ofTypeDefinition (type : TypeDefinition)
  | ofString (text : String)
  | ofNumber (number : UInt32)
  | hashCombine (first second : SymbolicHash)
deriving DecidableEq

instance : Hashing SymbolicHash where
  ofType := .ofType
  ofString := .ofString
  ofNumber := .ofNumber
  hashCombine := .hashCombine

instance : CollisionFree SymbolicHash where
  ofString_inj h := SymbolicHash.ofString.inj h
  hashCombine_inj h := SymbolicHash.hashCombine.inj h
  ofString_ne_hashCombine _ _ _ h := SymbolicHash.noConfusion h
  ofNumber_ne_hashCombine _ _ _ h := SymbolicHash.noConfusion h
  ofString_ne_ofNumber _ _ h := SymbolicHash.noConfusion h

def pingValue : FieldDefinition := { typeDefinition := .simple .u32, name := "value" }

def pingMessage : MessageProtocolDefinition :=
  { fileNamespace := "dansandu.farseer.sample", name := "Ping", fields := [pingValue] }

def pingRequest : RequestProtocolDefinition :=
  { fileNamespace := "dansandu.farseer.sample", name := "Ping", requestFields := [pingValue], responseFields := [] }

def pongRequest : RequestProtocolDefinition :=
  { fileNamespace := "dansandu.farseer.sample", name := "Ping", requestFields := [], responseFields := [pingValue] }

def pingMessageSchema : ProtocolDefinition :=
  { fileNamespace := "dansandu.farseer.sample", messages := [pingMessage], requests := [] }

def pingRequestSchema : ProtocolDefinition :=
  { fileNamespace := "dansandu.farseer.sample", messages := [], requests := [pingRequest] }

def pongRequestSchema : ProtocolDefinition :=
  { fileNamespace := "dansandu.farseer.sample", messages := [], requests := [pongRequest] }

def pingMessageText : String := "namespace dansandu.farseer.sample; message Ping { u32 value; }"

def pingMessageNodes : List Node :=
  [.token ⟨.namespace, 0, 9⟩, .token ⟨.module, 10, 33⟩, .token ⟨.semicolon, 33, 34⟩, .rule 2, .rule 5,
    .token ⟨.message, 35, 42⟩, .token ⟨.name, 43, 47⟩, .token ⟨.bracesBegin, 48, 49⟩, .rule 10,
    .token ⟨.u32, 50, 53⟩, .rule 13, .token ⟨.name, 54, 59⟩, .token ⟨.semicolon, 59, 60⟩, .rule 9,
    .token ⟨.bracesEnd, 61, 62⟩, .rule 6, .rule 3, .rule 1, .rule 0]

def pingRequestText : String := "namespace dansandu.farseer.sample; request Ping { u32 value; response { } }"

def pingRequestNodes : List Node :=
  [.token ⟨.namespace, 0, 9⟩, .token ⟨.module, 10, 33⟩, .token ⟨.semicolon, 33, 34⟩, .rule 2, .rule 5,
    .token ⟨.request, 35, 42⟩, .token ⟨.name, 43, 47⟩, .token ⟨.bracesBegin, 48, 49⟩, .rule 10,
    .token ⟨.u32, 50, 53⟩, .rule 13, .token ⟨.name, 54, 59⟩, .token ⟨.semicolon, 59, 60⟩, .rule 9, .rule 8,
    .token ⟨.response, 61, 69⟩, .token ⟨.bracesBegin, 70, 71⟩, .rule 10, .token ⟨.bracesEnd, 72, 73⟩,
    .token ⟨.bracesEnd, 74, 75⟩, .rule 7, .rule 4, .rule 1, .rule 0]

def pongRequestText : String := "namespace dansandu.farseer.sample; request Ping { response { u32 value; } }"

def pongRequestNodes : List Node :=
  [.token ⟨.namespace, 0, 9⟩, .token ⟨.module, 10, 33⟩, .token ⟨.semicolon, 33, 34⟩, .rule 2, .rule 5,
    .token ⟨.request, 35, 42⟩, .token ⟨.name, 43, 47⟩, .token ⟨.bracesBegin, 48, 49⟩, .rule 10, .rule 8,
    .token ⟨.response, 50, 58⟩, .token ⟨.bracesBegin, 59, 60⟩, .rule 10, .token ⟨.u32, 61, 64⟩, .rule 13,
    .token ⟨.name, 65, 70⟩, .token ⟨.semicolon, 70, 71⟩, .rule 9, .token ⟨.bracesEnd, 72, 73⟩,
    .token ⟨.bracesEnd, 74, 75⟩, .rule 7, .rule 4, .rule 1, .rule 0]

theorem pingMessage_accepted :
    parseProtocolDefinition (fun _ => .ok pingMessageNodes) pingMessageText = .ok pingMessageSchema := rfl

theorem pingRequest_accepted :
    parseProtocolDefinition (fun _ => .ok pingRequestNodes) pingRequestText = .ok pingRequestSchema := rfl

/-- A message and a request share an identifier, and so do a request and another with its field
moved to the response, although type definitions are told apart and no hash codes collide. -/
theorem ping_identifiers_collide :
    Function.Injective SymbolicHash.ofTypeDefinition ∧
    parseProtocolDefinition (fun _ => .ok pingMessageNodes) pingMessageText = .ok pingMessageSchema ∧
    parseProtocolDefinition (fun _ => .ok pingRequestNodes) pingRequestText = .ok pingRequestSchema ∧
    parseProtocolDefinition (fun _ => .ok pongRequestNodes) pongRequestText = .ok pongRequestSchema ∧
    SchemaProtocol.message pingMessage ∈ pingMessageSchema.protocols ∧
    SchemaProtocol.request pingRequest ∈ pingRequestSchema.protocols ∧
    SchemaProtocol.request pongRequest ∈ pongRequestSchema.protocols ∧
    (SchemaProtocol.message pingMessage).identifier SymbolicHash.ofTypeDefinition =
      (SchemaProtocol.request pingRequest).identifier SymbolicHash.ofTypeDefinition ∧
    (SchemaProtocol.message pingMessage).kind ≠ (SchemaProtocol.request pingRequest).kind ∧
    (SchemaProtocol.request pingRequest).identifier SymbolicHash.ofTypeDefinition =
      (SchemaProtocol.request pongRequest).identifier SymbolicHash.ofTypeDefinition ∧
    (SchemaProtocol.request pingRequest).layout [] ≠ (SchemaProtocol.request pongRequest).layout [] := by
  refine ⟨fun t u h => SymbolicHash.ofTypeDefinition.inj h, pingMessage_accepted, pingRequest_accepted, rfl,
    List.mem_singleton.mpr rfl, List.mem_cons_self .., List.mem_cons_self .., rfl, by decide, rfl, by decide⟩

/-- The message and the request with the same identifier have the same name and field. -/
theorem ping_fields_agree :
    ∃ layout layout', pingMessageSchema.expand = some layout ∧ pingRequestSchema.expand = some layout' ∧
      SameIdentifier layout.messages layout'.messages (.message pingMessage) (.request pingRequest) := by
  have hdistinct : ∀ t u, SymbolicHash.ofTypeDefinition t = SymbolicHash.ofTypeDefinition u →
      t.written = u.written := fun t u h => by rw [SymbolicHash.ofTypeDefinition.inj h]
  exact identifier_determines_fields hdistinct pingMessage_accepted pingRequest_accepted
    (List.mem_singleton.mpr rfl) (List.mem_cons_self ..) rfl

end Farseer
