import Farseer.Schema.Layout
import Farseer.Schema.Parsing

/-! What acceptance by `parseProtocolDefinition` means for the result. Whatever nodes glyph
returns, an accepted definition has a layout, and the static sizes that its message
references cached while parsing are those of the expanded types. -/

namespace Farseer

/-- Every map key in the type is allowed, and every message reference caches the static size
of a message of the list. -/
def TypeDefinition.Scoped (messages : List MessageProtocolDefinition) : TypeDefinition → Prop
  | .simple _ => True
  | .message name hasStaticSize staticNumberOfBits => ∃ m ∈ messages, m.name = name ∧
      m.hasStaticSize = hasStaticSize ∧ m.getStaticNumberOfBits = staticNumberOfBits
  | .list subtype => subtype.Scoped messages
  | .map key value => key.canBeMapKey = true ∧ value.Scoped messages

def FieldsScoped (messages : List MessageProtocolDefinition) (fields : List FieldDefinition) : Prop :=
  ∀ f ∈ fields, f.typeDefinition.Scoped messages

theorem TypeDefinition.Scoped.mono {ms ms' : List MessageProtocolDefinition} (hms : ms ⊆ ms')
    {t : TypeDefinition} (h : t.Scoped ms) : t.Scoped ms' := by
  induction t with
  | simple type => trivial
  | message name hasStaticSize staticNumberOfBits =>
    obtain ⟨m, hm, hrest⟩ := h
    exact ⟨m, hms hm, hrest⟩
  | list subtype ih => exact ih h
  | map key value _ ih => exact ⟨h.1, ih h.2⟩

theorem FieldsScoped.mono {ms ms' : List MessageProtocolDefinition} (hms : ms ⊆ ms')
    {fields : List FieldDefinition} (h : FieldsScoped ms fields) : FieldsScoped ms' fields :=
  fun f hf => (h f hf).mono hms

theorem fromSimple_scoped {type : SchemaType} {t : TypeDefinition}
    (h : TypeDefinition.fromSimple type = .ok t) (ms : List MessageProtocolDefinition) : t.Scoped ms := by
  cases type <;> cases h <;> trivial

structure DefinitionScoped (protocol : ProtocolDefinition) : Prop where
  messages : ∀ m ∈ protocol.messages, FieldsScoped protocol.messages m.fields
  requests : ∀ r ∈ protocol.requests,
    FieldsScoped protocol.messages r.requestFields ∧ FieldsScoped protocol.messages r.responseFields

structure ParserState.Scoped (s : ParserState) : Prop where
  types : ∀ t ∈ s.typeDefinitions, t.Scoped s.protocol.messages
  fields : FieldsScoped s.protocol.messages s.fields
  requestFields : FieldsScoped s.protocol.messages s.requestFields
  protocol : DefinitionScoped s.protocol

theorem bind_ok_iff {ε α β : Type} {x : Except ε α} {f : α → Except ε β} {b : β} :
    (x >>= f) = .ok b ↔ ∃ a, x = .ok a ∧ f a = .ok b := by
  cases x <;> simp [bind, Except.bind]

theorem pop_ok {α : Type} {l rest : List α} {a : α} (h : pop l = .ok (a, rest)) : l = a :: rest := by
  cases l with
  | nil => cases h
  | cons b l => cases h; rfl

theorem scoped_initial : ParserState.initial.Scoped := by
  refine ⟨?_, ?_, ?_, ?_, ?_⟩ <;> intro x hx <;> cases hx

theorem scoped_pushSimple {type : SchemaType} {s s' : ParserState} (hs : s.Scoped)
    (h : pushSimple type s = .ok s') : s'.Scoped := by
  obtain ⟨t, ht, h⟩ := bind_ok_iff.mp h
  cases h
  refine ⟨?_, hs.fields, hs.requestFields, hs.protocol⟩
  rintro u (_ | ⟨_, hu⟩)
  · exact fromSimple_scoped ht _
  · exact hs.types u hu

/-- A new message sees the messages before it, and so do all types parsed so far. -/
theorem scoped_message {s : ParserState} (hs : s.Scoped) (tokens : List Token) (name : String) :
    ParserState.Scoped { s with
      tokens, fields := [],
      protocol := { s.protocol with messages := s.protocol.messages ++
        [{ fileNamespace := s.protocol.fileNamespace, name, fields := s.fields }] } } := by
  have hsub := List.subset_append_left s.protocol.messages
    [{ fileNamespace := s.protocol.fileNamespace, name, fields := s.fields : MessageProtocolDefinition }]
  refine ⟨fun t ht => (hs.types t ht).mono hsub, fun f hf => (by cases hf),
    hs.requestFields.mono hsub, ?_, fun r hr => ⟨(hs.protocol.requests r hr).1.mono hsub, (hs.protocol.requests r hr).2.mono hsub⟩⟩
  intro m hm
  rcases List.mem_append.mp hm with hm | hm
  · exact (hs.protocol.messages m hm).mono hsub
  · rw [List.mem_singleton.mp hm]
    exact hs.fields.mono hsub

theorem scoped_request {s : ParserState} (hs : s.Scoped) (tokens : List Token) (name : String) :
    ParserState.Scoped { s with
      tokens, requestFields := [], fields := [],
      protocol := { s.protocol with requests := s.protocol.requests ++
        [{ fileNamespace := s.protocol.fileNamespace, name, requestFields := s.requestFields,
           responseFields := s.fields }] } } := by
  refine ⟨hs.types, fun f hf => (by cases hf), fun f hf => (by cases hf), hs.protocol.messages, ?_⟩
  intro r hr
  rcases List.mem_append.mp hr with hr | hr
  · exact hs.protocol.requests r hr
  · rw [List.mem_singleton.mp hr]
    exact ⟨hs.requestFields, hs.fields⟩

theorem scoped_parseRule {text : String} {s s' : ParserState} {n : ℕ} (hs : s.Scoped)
    (h : parseRule text s n = .ok s') : s'.Scoped := by
  unfold parseRule at h
  split at h
  · obtain ⟨⟨token, tokens⟩, -, h⟩ := bind_ok_iff.mp h
    cases h
    exact ⟨hs.types, hs.fields, hs.requestFields, hs.protocol.messages, hs.protocol.requests⟩
  · obtain ⟨⟨token, tokens⟩, -, h⟩ := bind_ok_iff.mp h
    cases h
    exact scoped_message hs tokens _
  · obtain ⟨⟨token, tokens⟩, -, h⟩ := bind_ok_iff.mp h
    cases h
    exact scoped_request hs tokens _
  · cases h
    exact ⟨hs.types, fun f hf => (by cases hf), hs.fields, hs.protocol⟩
  · obtain ⟨⟨t, types⟩, ht, h⟩ := bind_ok_iff.mp h
    obtain ⟨⟨token, tokens⟩, -, h⟩ := bind_ok_iff.mp h
    cases h
    have htypes := hs.types
    rw [pop_ok ht] at htypes
    refine ⟨fun u hu => htypes u (by simp [hu]), ?_, hs.requestFields, hs.protocol⟩
    intro f hf
    rcases List.mem_append.mp hf with hf | hf
    · exact hs.fields f hf
    · rw [List.mem_singleton.mp hf]
      exact htypes t (by simp)
  · exact scoped_pushSimple hs h
  · exact scoped_pushSimple hs h
  · exact scoped_pushSimple hs h
  · exact scoped_pushSimple hs h
  · exact scoped_pushSimple hs h
  · exact scoped_pushSimple hs h
  · obtain ⟨⟨t, types⟩, ht, h⟩ := bind_ok_iff.mp h
    cases h
    have htypes := hs.types
    rw [pop_ok ht] at htypes
    refine ⟨?_, hs.fields, hs.requestFields, hs.protocol⟩
    rintro u (_ | ⟨_, hu⟩)
    · exact htypes t (by simp)
    · exact htypes u (List.mem_cons_of_mem _ hu)
  · obtain ⟨⟨value, types⟩, hvalue, h⟩ := bind_ok_iff.mp h
    obtain ⟨⟨key, types'⟩, hkey, h⟩ := bind_ok_iff.mp h
    have htypes := hs.types
    rw [pop_ok hvalue, pop_ok hkey] at htypes
    -- an accepted map has an allowed key
    dsimp only at h
    split at h
    · rename_i hallowed
      cases h
      refine ⟨?_, hs.fields, hs.requestFields, hs.protocol⟩
      rintro u (_ | ⟨_, hu⟩)
      · exact ⟨hallowed, htypes value (by simp)⟩
      · exact htypes u (List.mem_cons_of_mem _ (List.mem_cons_of_mem _ hu))
    · cases h
  · obtain ⟨⟨token, tokens⟩, -, h⟩ := bind_ok_iff.mp h
    -- the reference copies the sizes of the first message with that name
    dsimp only at h
    split at h
    · cases h
    · rename_i m hfind
      cases h
      refine ⟨?_, hs.fields, hs.requestFields, hs.protocol⟩
      rintro u (_ | ⟨_, hu⟩)
      · exact ⟨m, List.mem_of_find?_eq_some hfind, by simpa using List.find?_some hfind, rfl, rfl⟩
      · exact hs.types u hu
  all_goals cases h
  all_goals exact hs

theorem scoped_parseNode {text : String} {s s' : ParserState} {node : Node} (hs : s.Scoped)
    (h : parseNode text s node = .ok s') : s'.Scoped := by
  cases node with
  | rule ruleIndex => exact scoped_parseRule hs h
  | token token =>
    simp only [parseNode, parseToken] at h
    split_ifs at h <;> cases h
    · exact ⟨hs.types, hs.fields, hs.requestFields, hs.protocol⟩
    · exact hs

theorem scoped_nodes {text : String} (nodes : List Node) {s s' : ParserState} (hs : s.Scoped)
    (h : nodes.foldlM (parseNode text) s = .ok s') : s'.Scoped := by
  induction nodes generalizing s with
  | nil => cases h; exact hs
  | cons node nodes ih =>
    rw [List.foldlM_cons] at h
    obtain ⟨t, ht, h⟩ := bind_ok_iff.mp h
    exact ih (scoped_parseNode hs ht) h

/-- An accepted definition passed validation and has scoped types, whatever glyph did. -/
theorem accepted_valid {glyph : String → Except Exception (List Node)} {text : String}
    {protocol : ProtocolDefinition} (h : parseProtocolDefinition glyph text = .ok protocol) :
    DefinitionScoped protocol ∧ validateProtocolDefinition protocol = .ok () := by
  obtain ⟨nodes, -, h⟩ := bind_ok_iff.mp h
  obtain ⟨s, hs, h⟩ := bind_ok_iff.mp h
  obtain ⟨u, hu, h⟩ := bind_ok_iff.mp h
  cases h
  exact ⟨(scoped_nodes nodes scoped_initial hs).protocol, hu⟩

/-- The cached static size is that of the expanded type, up to the wrapping of `ProtocolSize`. -/
structure SizesAgree (isStatic : Bool) (staticBits : ℕ) (hasStaticSize : Bool)
    (staticNumberOfBits : ProtocolSize) : Prop where
  static : hasStaticSize = isStatic
  bits : isStatic = true → staticNumberOfBits.toNat = staticBits % 2 ^ 32

/-- The references in a type are declared, with the sizes they cached. -/
def TypeDefinition.Resolved (layouts : MessageLayouts) : TypeDefinition → Prop
  | .simple _ => True
  | .message name hasStaticSize staticNumberOfBits => ∃ fields, layouts.lookup name = some fields ∧
      SizesAgree fields.isStatic fields.staticBits hasStaticSize staticNumberOfBits
  | .list subtype => subtype.Resolved layouts
  | .map key value => key.canBeMapKey = true ∧ value.Resolved layouts

theorem expandKey_of_canBeMapKey {t : TypeDefinition} (h : t.canBeMapKey = true) :
    ∃ k, expandKey t = some k := by
  cases t with
  | simple type => cases type <;> first | exact ⟨_, rfl⟩ | cases h
  | message | list | map => cases h

theorem expandType_of_resolved {layouts : MessageLayouts} {t : TypeDefinition} (h : t.Resolved layouts) :
    ∃ w, expandType layouts t = some w ∧
      SizesAgree w.isStatic w.staticBits t.hasStaticSize t.getStaticNumberOfBits := by
  induction t with
  | simple type => cases type <;> exact ⟨_, rfl, rfl, fun _ => rfl⟩
  | message name hasStaticSize staticNumberOfBits =>
    obtain ⟨fields, hfields, hsizes⟩ := h
    exact ⟨.message fields, by simp [expandType, hfields], hsizes.static, hsizes.bits⟩
  | list subtype ih =>
    obtain ⟨w, hw, -⟩ := ih h
    exact ⟨.list w, by simp [expandType, hw], rfl, fun h => by cases h⟩
  | map key value _ ih =>
    obtain ⟨k, hk⟩ := expandKey_of_canBeMapKey h.1
    obtain ⟨w, hw, -⟩ := ih h.2
    exact ⟨.map k w, by simp [expandType, hk, hw], rfl, fun h => by cases h⟩

theorem staticBits_foldl (fields : List FieldDefinition) (total : ProtocolSize) :
    (fields.foldl (fun total field => total + field.getStaticNumberOfBits) total).toNat =
      (total.toNat + (fields.map fun field => field.getStaticNumberOfBits.toNat).sum) % 2 ^ 32 := by
  induction fields generalizing total with
  | nil => simp [Nat.mod_eq_of_lt total.toNat_lt]
  | cons field fields ih =>
    rw [List.foldl_cons, ih, UInt32.toNat_add, Nat.mod_add_mod, List.map_cons, List.sum_cons, Nat.add_assoc]

theorem expandFields_of_resolved {layouts : MessageLayouts} {fields : List FieldDefinition}
    (h : ∀ f ∈ fields, f.typeDefinition.Resolved layouts) :
    ∃ w, expandFields layouts fields = some w ∧
      SizesAgree w.isStatic w.staticBits (fieldsHaveStaticSize fields) (fieldsStaticNumberOfBits fields) := by
  suffices hsum : ∃ w, expandFields layouts fields = some w ∧ fieldsHaveStaticSize fields = w.isStatic ∧
      (w.isStatic = true → (fields.map fun field => field.getStaticNumberOfBits.toNat).sum % 2 ^ 32 =
        w.staticBits % 2 ^ 32) by
    obtain ⟨w, hw, hstatic, hbits⟩ := hsum
    refine ⟨w, hw, hstatic, fun hs => ?_⟩
    rw [fieldsStaticNumberOfBits, staticBits_foldl, ← hbits hs]
    simp
  induction fields with
  | nil => exact ⟨.nil, rfl, rfl, fun _ => rfl⟩
  | cons f fields ih =>
    obtain ⟨head, hhead, hsizes⟩ := expandType_of_resolved (h f (by simp))
    obtain ⟨tail, htail, hstatic, hbits⟩ := ih fun g hg => h g (by simp [hg])
    refine ⟨.cons head tail, by simp [expandFields, hhead, htail], ?_, fun hs => ?_⟩
    · simp only [fieldsHaveStaticSize, List.all_cons] at hstatic ⊢
      rw [hstatic, WireFields.isStatic, ← hsizes.static]
      rfl
    · rw [WireFields.isStatic, Bool.and_eq_true] at hs
      have hhead := hsizes.bits hs.1
      rw [List.map_cons, List.sum_cons, WireFields.staticBits, Nat.add_mod, hbits hs.2,
        FieldDefinition.getStaticNumberOfBits, hhead, Nat.mod_mod, ← Nat.add_mod]

/-- The layouts of the messages declared so far, with their sizes. -/
def Declared (messages : List MessageProtocolDefinition) (layouts : MessageLayouts) : Prop :=
  List.Forall₂ (fun m l => m.name = l.1 ∧
    SizesAgree l.2.isStatic l.2.staticBits m.hasStaticSize m.getStaticNumberOfBits) messages layouts

theorem Declared.lookup {messages : List MessageProtocolDefinition} {layouts : MessageLayouts}
    (h : Declared messages layouts) {m : MessageProtocolDefinition} (hm : m ∈ messages)
    (hnodup : (messages.map MessageProtocolDefinition.name).Nodup) :
    ∃ fields, layouts.lookup m.name = some fields ∧
      SizesAgree fields.isStatic fields.staticBits m.hasStaticSize m.getStaticNumberOfBits := by
  induction h with
  | nil => cases hm
  | @cons a l messages layouts hhead _ ih =>
    rw [List.map_cons, List.nodup_cons] at hnodup
    rcases List.mem_cons.mp hm with rfl | hm
    · exact ⟨l.2, by rw [List.lookup_cons, hhead.1, beq_self_eq_true], hhead.2⟩
    · obtain ⟨fields, hfields, hsizes⟩ := ih hm hnodup.2
      refine ⟨fields, ?_, hsizes⟩
      have hne : m.name ≠ l.1 := fun heq =>
        hnodup.1 (List.mem_map.mpr ⟨m, hm, heq.trans hhead.1.symm⟩)
      rw [List.lookup_cons, beq_false_of_ne hne, hfields]

theorem TypeDefinition.Scoped.resolved {all messages : List MessageProtocolDefinition}
    {layouts : MessageLayouts} (hdecl : Declared messages layouts) (hsub : messages ⊆ all)
    (hnodup : (all.map MessageProtocolDefinition.name).Nodup)
    (hmessages : (messages.map MessageProtocolDefinition.name).Nodup) {t : TypeDefinition}
    (ht : t.Scoped all) (hnames : ∀ n ∈ t.references, n ∈ messages.map MessageProtocolDefinition.name) :
    t.Resolved layouts := by
  induction t with
  | simple type => trivial
  | message name hasStaticSize staticNumberOfBits =>
    obtain ⟨m, hm, rfl, rfl, rfl⟩ := ht
    obtain ⟨m', hm', hname⟩ := List.mem_map.mp (hnames m.name (by simp [TypeDefinition.references]))
    -- names are unique, so the message found is the one that the reference was parsed against
    obtain rfl : m' = m := List.inj_on_of_nodup_map hnodup (hsub hm') hm hname
    exact hdecl.lookup hm' hmessages
  | list subtype ih => exact ih ht hnames
  | map key value _ ih =>
    exact ⟨ht.1, ih ht.2 fun n hn => hnames n (List.mem_append_right _ hn)⟩

theorem FieldsScoped.resolved {all messages : List MessageProtocolDefinition}
    {layouts : MessageLayouts} (hdecl : Declared messages layouts) (hsub : messages ⊆ all)
    (hnodup : (all.map MessageProtocolDefinition.name).Nodup)
    (hmessages : (messages.map MessageProtocolDefinition.name).Nodup) {fields : List FieldDefinition}
    (hfields : FieldsScoped all fields) {names : Finset String} {p : String}
    (hvalid : FieldsValid names p fields)
    (hnames : ∀ n ∈ names, n ≠ p → n ∈ messages.map MessageProtocolDefinition.name) :
    ∀ f ∈ fields, f.typeDefinition.Resolved layouts := by
  intro f hf
  refine (hfields f hf).resolved hdecl hsub hnodup hmessages fun n hn => ?_
  obtain ⟨hself, hmem⟩ := hvalid.references f hf n hn
  exact hnames n hmem (Ne.symm hself)

theorem MessagesValid.nodup {messages : List MessageProtocolDefinition} {names : Finset String}
    (h : MessagesValid messages names) :
    (messages.map MessageProtocolDefinition.name).Nodup ∧ ∀ m ∈ messages, m.name ∉ names := by
  induction messages generalizing names with
  | nil => exact ⟨List.nodup_nil, fun m hm => by cases hm⟩
  | cons m messages ih =>
    obtain ⟨hnew, -, hrest⟩ := h
    obtain ⟨hnodup, hfresh⟩ := ih hrest
    refine ⟨List.nodup_cons.mpr ⟨fun hmem => ?_, hnodup⟩, ?_⟩
    · obtain ⟨m', hm', heq⟩ := List.mem_map.mp hmem
      exact hfresh m' hm' (by rw [heq]; exact Finset.mem_insert_self _ _)
    · rintro m' (_ | ⟨_, hm'⟩)
      · exact hnew
      · exact fun hin => hfresh m' hm' (Finset.mem_insert_of_mem hin)

/-- Messages expand one after the other; the induction carries the messages already declared. -/
theorem expandMessages_of_valid {all messages : List MessageProtocolDefinition}
    (done : List MessageProtocolDefinition) {layouts : MessageLayouts} (hall : all = done ++ messages) (hdecl : Declared done layouts)
    (hnodup : (all.map MessageProtocolDefinition.name).Nodup)
    (hscoped : ∀ m ∈ all, FieldsScoped all m.fields)
    (hvalid : MessagesValid messages (done.map MessageProtocolDefinition.name).toFinset) :
    ∃ out, expandMessages messages layouts = some out ∧ Declared all out := by
  induction messages generalizing done layouts with
  | nil => exact ⟨layouts, rfl, by simpa [hall] using hdecl⟩
  | cons m messages ih =>
    obtain ⟨-, hfields, hrest⟩ := hvalid
    have hsub : done ⊆ all := hall ▸ List.subset_append_left _ _
    have hm : m ∈ all := hall ▸ List.mem_append_right _ (List.mem_cons_self ..)
    have hdone : (done.map MessageProtocolDefinition.name).Nodup := by
      rw [hall, List.map_append] at hnodup
      exact hnodup.of_append_left
    obtain ⟨w, hw, hsizes⟩ := expandFields_of_resolved <|
      (hscoped m hm).resolved hdecl hsub hnodup hdone hfields fun n hn hne => by
        rcases Finset.mem_insert.mp hn with rfl | hn
        · exact absurd rfl hne
        · exact List.mem_toFinset.mp hn
    have hdeclared : Declared (done ++ [m]) (layouts ++ [(m.name, w)]) :=
      List.rel_append hdecl (.cons ⟨rfl, hsizes⟩ .nil)
    obtain ⟨out, hout, hdecl'⟩ := ih (done ++ [m]) (by simp [hall]) hdeclared
      (by
        have heq : ((done ++ [m]).map MessageProtocolDefinition.name).toFinset =
            insert m.name (done.map MessageProtocolDefinition.name).toFinset := by
          ext n
          simp
        rwa [heq])
    exact ⟨out, by simpa [expandMessages, hw] using hout, hdecl'⟩

/-- The sizes of a request and of its response are those of their layouts. -/
structure RequestSizesAgree (definition : RequestProtocolDefinition) (layout : RequestLayout) : Prop where
  request : SizesAgree layout.request.isStatic layout.request.staticBits
    definition.requestHasStaticSize definition.getRequestStaticNumberOfBits
  response : SizesAgree layout.response.isStatic layout.response.staticBits
    definition.responseHasStaticSize definition.getResponseStaticNumberOfBits

theorem expandRequests_of_valid {messages : List MessageProtocolDefinition} {layouts : MessageLayouts}
    (hdecl : Declared messages layouts) (hnodup : (messages.map MessageProtocolDefinition.name).Nodup)
    {requests : List RequestProtocolDefinition} {seen : Finset String}
    (hscoped : ∀ r ∈ requests, FieldsScoped messages r.requestFields ∧ FieldsScoped messages r.responseFields)
    (hvalid : RequestsValid (messages.map MessageProtocolDefinition.name).toFinset requests seen) :
    ∃ out, requests.mapM (expandRequest layouts) = some out ∧
      List.Forall₂ RequestSizesAgree requests out := by
  induction requests generalizing seen with
  | nil => exact ⟨[], rfl, .nil⟩
  | cons r requests ih =>
    obtain ⟨-, -, hrequest, hresponse, hrest⟩ := hvalid
    obtain ⟨hsreq, hsresp⟩ := hscoped r (by simp)
    have hnames : ∀ n ∈ (messages.map MessageProtocolDefinition.name).toFinset, n ≠ r.name →
        n ∈ messages.map MessageProtocolDefinition.name := fun n hn _ => List.mem_toFinset.mp hn
    have hsub : messages ⊆ messages := List.Subset.refl _
    obtain ⟨w, hw, hwsizes⟩ := expandFields_of_resolved
      (hsreq.resolved hdecl hsub hnodup hnodup hrequest hnames)
    obtain ⟨v, hv, hvsizes⟩ := expandFields_of_resolved
      (hsresp.resolved hdecl hsub hnodup hnodup hresponse hnames)
    obtain ⟨out, hout, hagree⟩ := ih (fun r' hr' => hscoped r' (by simp [hr'])) hrest
    exact ⟨⟨r.name, w, v⟩ :: out, by simp [expandRequest, hw, hv, hout], .cons ⟨hwsizes, hvsizes⟩ hagree⟩

/-- The expansion of a definition, with the sizes computed from the definition. -/
structure LayoutAgrees (protocol : ProtocolDefinition) (layout : ProtocolLayout) : Prop where
  expand : protocol.expand = some layout
  messages : Declared protocol.messages layout.messages
  requests : List.Forall₂ RequestSizesAgree protocol.requests layout.requests

/-- Every accepted definition has a layout, and its static sizes are those of the layout. -/
theorem accepted_layout {glyph : String → Except Exception (List Node)} {text : String}
    {protocol : ProtocolDefinition} (h : parseProtocolDefinition glyph text = .ok protocol) :
    ∃ layout, LayoutAgrees protocol layout := by
  obtain ⟨hscoped, hvalid⟩ := accepted_valid h
  obtain ⟨hmessages, hrequests⟩ := (validateProtocolDefinition_ok_iff protocol).mp hvalid
  have hnodup := hmessages.nodup.1
  obtain ⟨layouts, hlayouts, hdecl⟩ := expandMessages_of_valid [] rfl .nil hnodup
    hscoped.messages hmessages
  obtain ⟨requests, hexpand, hagree⟩ := expandRequests_of_valid hdecl hnodup hscoped.requests hrequests
  exact ⟨⟨layouts, requests⟩, by simp [ProtocolDefinition.expand, hlayouts, hexpand], hdecl, hagree⟩

theorem MessagesValid.fieldsValid {messages : List MessageProtocolDefinition} {names : Finset String}
    (h : MessagesValid messages names) {m : MessageProtocolDefinition} (hm : m ∈ messages) :
    ∃ known ⊆ names ∪ (messages.map MessageProtocolDefinition.name).toFinset, FieldsValid known m.name m.fields := by
  induction messages generalizing names with
  | nil => cases hm
  | cons a messages ih =>
    obtain ⟨-, hfields, hrest⟩ := h
    have hstep : insert a.name names ∪ (messages.map MessageProtocolDefinition.name).toFinset =
        names ∪ ((a :: messages).map MessageProtocolDefinition.name).toFinset := by
      rw [List.map_cons, List.toFinset_cons, Finset.insert_union, Finset.union_insert]
    rw [← hstep]
    rcases List.mem_cons.mp hm with rfl | hm
    · exact ⟨_, Finset.subset_union_left, hfields⟩
    · exact ih hrest hm

theorem RequestsValid.fieldsValid {names : Finset String} {requests : List RequestProtocolDefinition}
    {seen : Finset String} (h : RequestsValid names requests seen) {r : RequestProtocolDefinition}
    (hr : r ∈ requests) :
    FieldsValid names r.name r.requestFields ∧ FieldsValid names r.name r.responseFields := by
  induction requests generalizing seen with
  | nil => cases hr
  | cons a requests ih =>
    obtain ⟨-, -, hrequest, hresponse, hrest⟩ := h
    rcases List.mem_cons.mp hr with rfl | hr
    · exact ⟨hrequest, hresponse⟩
    · exact ih hrest hr

/-- The lists of fields that make up a schema: of its messages, and of both parts of its requests. -/
def ProtocolDefinition.parts (protocol : ProtocolDefinition) : List (List FieldDefinition) :=
  protocol.messages.map MessageProtocolDefinition.fields ++
    protocol.requests.flatMap fun r => [r.requestFields, r.responseFields]

theorem mem_parts {protocol : ProtocolDefinition} {fields : List FieldDefinition} :
    fields ∈ protocol.parts ↔ (∃ m ∈ protocol.messages, m.fields = fields) ∨
      ∃ r ∈ protocol.requests, fields = r.requestFields ∨ fields = r.responseFields := by
  simp [ProtocolDefinition.parts]

/-- The references in an accepted definition are declared, with the sizes they cached. -/
theorem accepted_resolved {glyph : String → Except Exception (List Node)} {text : String}
    {protocol : ProtocolDefinition} (h : parseProtocolDefinition glyph text = .ok protocol)
    {layout : ProtocolLayout} (hlayout : protocol.expand = some layout) {fields : List FieldDefinition}
    (hfields : fields ∈ protocol.parts) : ∀ f ∈ fields, f.typeDefinition.Resolved layout.messages := by
  obtain ⟨layout', hagrees⟩ := accepted_layout h
  obtain rfl : layout' = layout := Option.some_inj.mp (hagrees.expand.symm.trans hlayout)
  obtain ⟨hscoped, hvalid⟩ := accepted_valid h
  obtain ⟨hmessages, hrequests⟩ := (validateProtocolDefinition_ok_iff protocol).mp hvalid
  have hnodup := hmessages.nodup.1
  have hdecl := hagrees.messages
  have hsub : protocol.messages ⊆ protocol.messages := List.Subset.refl _
  rcases mem_parts.mp hfields with ⟨m, hm, rfl⟩ | ⟨r, hr, hpart⟩
  · obtain ⟨known, hknown, hvalid⟩ := hmessages.fieldsValid hm
    exact (hscoped.messages m hm).resolved hdecl hsub hnodup hnodup hvalid fun n hn _ => by simpa using hknown hn
  · obtain ⟨hrequest, hresponse⟩ := hrequests.fieldsValid hr
    have hnames : ∀ n ∈ (protocol.messages.map MessageProtocolDefinition.name).toFinset, n ≠ r.name →
        n ∈ protocol.messages.map MessageProtocolDefinition.name := fun n hn _ => List.mem_toFinset.mp hn
    rcases hpart with rfl | rfl
    · exact (hscoped.requests r hr).1.resolved hdecl hsub hnodup hnodup hrequest hnames
    · exact (hscoped.requests r hr).2.resolved hdecl hsub hnodup hnodup hresponse hnames

/-- Every part of an accepted definition expands in the layouts of its messages, and its sizes are those
of the expansion. -/
theorem accepted_parts {glyph : String → Except Exception (List Node)} {text : String}
    {protocol : ProtocolDefinition} (h : parseProtocolDefinition glyph text = .ok protocol)
    {layout : ProtocolLayout} (hlayout : protocol.expand = some layout) {fields : List FieldDefinition}
    (hfields : fields ∈ protocol.parts) :
    ∃ w, expandFields layout.messages fields = some w ∧
      SizesAgree w.isStatic w.staticBits (fieldsHaveStaticSize fields) (fieldsStaticNumberOfBits fields) :=
  expandFields_of_resolved (accepted_resolved h hlayout hfields)

theorem accepted_fields {glyph : String → Except Exception (List Node)} {text : String}
    {protocol : ProtocolDefinition} (h : parseProtocolDefinition glyph text = .ok protocol)
    {layout : ProtocolLayout} (hlayout : protocol.expand = some layout) :
    (∀ m ∈ protocol.messages, ∃ w, expandFields layout.messages m.fields = some w) ∧
    (∀ r ∈ protocol.requests, (∃ w, expandFields layout.messages r.requestFields = some w) ∧
      ∃ w, expandFields layout.messages r.responseFields = some w) := by
  have hparts : ∀ fields ∈ protocol.parts, ∃ w, expandFields layout.messages fields = some w := by
    intro fields hfields
    obtain ⟨w, hw, -⟩ := accepted_parts h hlayout hfields
    exact ⟨w, hw⟩
  refine ⟨fun m hm => hparts _ (mem_parts.mpr (.inl ⟨m, hm, rfl⟩)), fun r hr => ⟨?_, ?_⟩⟩
  · exact hparts _ (mem_parts.mpr (.inr ⟨r, hr, .inl rfl⟩))
  · exact hparts _ (mem_parts.mpr (.inr ⟨r, hr, .inr rfl⟩))

/-! Two messages, of which the second one refers to the first, and a request that refers to both. -/

def sampleText : String :=
  "namespace dansandu.farseer.sample; message Point { i32 x; bool marked; } " ++
    "message Shape { list<Point> points; map<string, u64> labels; } " ++
    "request Find { Point center; response { Shape shape; } }"

def sampleNodes : List Node :=
  [.token ⟨.namespace, 0, 9⟩, .token ⟨.module, 10, 33⟩, .token ⟨.semicolon, 33, 34⟩, .rule 2, .rule 5,
    .token ⟨.message, 35, 42⟩, .token ⟨.name, 43, 48⟩, .token ⟨.bracesBegin, 49, 50⟩, .rule 10,
    .token ⟨.i32, 51, 54⟩, .rule 11, .token ⟨.name, 55, 56⟩, .token ⟨.semicolon, 56, 57⟩, .rule 9,
    .token ⟨.bool, 58, 62⟩, .rule 16, .token ⟨.name, 63, 69⟩, .token ⟨.semicolon, 69, 70⟩, .rule 9,
    .token ⟨.bracesEnd, 71, 72⟩, .rule 6, .rule 3, .token ⟨.message, 73, 80⟩, .token ⟨.name, 81, 86⟩,
    .token ⟨.bracesBegin, 87, 88⟩, .rule 10, .token ⟨.list, 89, 93⟩, .token ⟨.angleBracketBegin, 93, 94⟩,
    .token ⟨.name, 94, 99⟩, .rule 19, .token ⟨.angleBracketEnd, 99, 100⟩, .rule 17, .token ⟨.name, 101, 107⟩,
    .token ⟨.semicolon, 107, 108⟩, .rule 9, .token ⟨.map, 109, 112⟩, .token ⟨.angleBracketBegin, 112, 113⟩,
    .token ⟨.string, 113, 119⟩, .rule 15, .token ⟨.comma, 119, 120⟩, .token ⟨.u64, 121, 124⟩, .rule 14,
    .token ⟨.angleBracketEnd, 124, 125⟩, .rule 18, .token ⟨.name, 126, 132⟩, .token ⟨.semicolon, 132, 133⟩,
    .rule 9, .token ⟨.bracesEnd, 134, 135⟩, .rule 6, .rule 3, .token ⟨.request, 136, 143⟩,
    .token ⟨.name, 144, 148⟩, .token ⟨.bracesBegin, 149, 150⟩, .rule 10, .token ⟨.name, 151, 156⟩, .rule 19,
    .token ⟨.name, 157, 163⟩, .token ⟨.semicolon, 163, 164⟩, .rule 9, .rule 8, .token ⟨.response, 165, 173⟩,
    .token ⟨.bracesBegin, 174, 175⟩, .rule 10, .token ⟨.name, 176, 181⟩, .rule 19, .token ⟨.name, 182, 187⟩,
    .token ⟨.semicolon, 187, 188⟩, .rule 9, .token ⟨.bracesEnd, 189, 190⟩, .token ⟨.bracesEnd, 191, 192⟩, .rule 7,
    .rule 4, .rule 1, .rule 0]

def pointFields : List FieldDefinition :=
  [{ typeDefinition := .simple .i32, name := "x" }, { typeDefinition := .simple .boolean, name := "marked" }]

def shapeFields : List FieldDefinition :=
  [{ typeDefinition := .list (.message "Point" true 33), name := "points" },
    { typeDefinition := .map (.simple .string) (.simple .u64), name := "labels" }]

def findFields : List FieldDefinition := [{ typeDefinition := .message "Point" true 33, name := "center" }]

def foundFields : List FieldDefinition := [{ typeDefinition := .message "Shape" false 0, name := "shape" }]

def sampleSchema : ProtocolDefinition :=
  let fileNamespace := "dansandu.farseer.sample"
  { fileNamespace
    messages := [{ fileNamespace, name := "Point", fields := pointFields },
      { fileNamespace, name := "Shape", fields := shapeFields }]
    requests := [{ fileNamespace, name := "Find", requestFields := findFields, responseFields := foundFields }] }

theorem sampleNodes_accepted :
    parseProtocolDefinition (fun _ => .ok sampleNodes) sampleText = .ok sampleSchema := by
  decide +kernel

end Farseer
