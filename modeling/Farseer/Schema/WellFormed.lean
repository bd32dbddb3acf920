import Farseer.Schema.Language

/-! What validation accepts, said without its loops: names do not repeat, and a reference is to a message that was
declared before. A definition that is accepted has no cycle of references, and its header can be compiled from the
top down. -/

namespace Farseer

/-- Every message that occurs in the type of a field, at any depth, is one of the given messages, and it is not the
protocol that the field belongs to. -/
def RefersTo (messageNames : List String) (protocolName : String) (fields : List FieldDefinition) : Prop :=
  ∀ field ∈ fields, ∀ name ∈ field.typeDefinition.references, name ∈ messageNames ∧ name ≠ protocolName

def ProtocolDefinition.messageNames (protocol : ProtocolDefinition) : List String :=
  protocol.messages.map MessageProtocolDefinition.name

structure ProtocolDefinition.WellFormed (protocol : ProtocolDefinition) : Prop where
  messageNames : protocol.messageNames.Nodup
  requestNames : (protocol.requests.map RequestProtocolDefinition.name).Nodup
  disjoint : ∀ request ∈ protocol.requests, request.name ∉ protocol.messageNames
  fields : protocol.FieldsDistinct
  /-- a message refers to the messages that precede it -/
  messages : ∀ before message after, protocol.messages = before ++ message :: after →
    RefersTo (before.map MessageProtocolDefinition.name) message.name message.fields
  /-- a request refers to any messages -/
  requests : ∀ request ∈ protocol.requests,
    RefersTo protocol.messageNames request.name request.requestFields ∧
      RefersTo protocol.messageNames request.name request.responseFields

theorem RefersTo.resolved {messageNames : List String} {protocolName : String} {fields : List FieldDefinition}
    (h : RefersTo messageNames protocolName fields) : FieldsResolved messageNames fields :=
  fun field hfield name hname => (h field hfield name hname).1

theorem ProtocolDefinition.WellFormed.resolved {protocol : ProtocolDefinition} (h : protocol.WellFormed) :
    protocol.Resolved where
  messages before message after heq := (h.messages before message after heq).resolved
  requests request hrequest := ⟨(h.requests request hrequest).1.resolved, (h.requests request hrequest).2.resolved⟩

theorem ProtocolDefinition.names_nodup_iff {protocol : ProtocolDefinition} :
    protocol.names.Nodup ↔ protocol.messageNames.Nodup ∧ (protocol.requests.map RequestProtocolDefinition.name).Nodup ∧
      ∀ request ∈ protocol.requests, request.name ∉ protocol.messageNames := by
  rw [ProtocolDefinition.names, List.nodup_append]
  refine and_congr_right fun _ => and_congr_right fun _ => ?_
  constructor
  · intro h request hrequest hname
    exact h _ hname _ (List.mem_map_of_mem hrequest) rfl
  · rintro h name hname _ hname' rfl
    obtain ⟨request, hrequest, rfl⟩ := List.mem_map.mp hname'
    exact h request hrequest hname

/-- The names that a field may refer to are those of before and, while a message is checked, its own; but that one
is refused as a self reference. -/
theorem FieldsValid.refersTo {names : Finset String} {protocolName : String} {fields : List FieldDefinition}
    (h : FieldsValid names protocolName fields) {messageNames : List String}
    (hnames : ∀ name ∈ names, name = protocolName ∨ name ∈ messageNames) :
    RefersTo messageNames protocolName fields := by
  intro field hfield name hname
  obtain ⟨hother, hknown⟩ := h.references field hfield name hname
  exact ⟨(hnames name hknown).resolve_left hother.symm, hother.symm⟩

/-- Validation returns exactly for the well-formed definitions. -/
theorem validateProtocolDefinition_iff (protocol : ProtocolDefinition) :
    validateProtocolDefinition protocol = .ok () ↔ protocol.WellFormed := by
  constructor
  · intro hvalid
    obtain ⟨hmessages, hrequests⟩ := (validateProtocolDefinition_ok_iff protocol).mp hvalid
    obtain ⟨-, -, hmessagesValid⟩ := messagesValid_iff.mp hmessages
    obtain ⟨-, hrequestsValid⟩ := requestsValid_iff.mp hrequests
    have hresolved : ∀ before message after, protocol.messages = before ++ message :: after →
        RefersTo (before.map MessageProtocolDefinition.name) message.name message.fields := by
      intro before message after heq
      refine (hmessagesValid before message after heq).refersTo fun name hname => ?_
      simpa using hname
    have hanswered : ∀ request ∈ protocol.requests,
        RefersTo protocol.messageNames request.name request.requestFields ∧
          RefersTo protocol.messageNames request.name request.responseFields := by
      intro request hrequest
      obtain ⟨-, -, hrequestFields, hresponseFields⟩ := hrequestsValid request hrequest
      exact ⟨hrequestFields.refersTo fun name hname => .inr (List.mem_toFinset.mp hname),
        hresponseFields.refersTo fun name hname => .inr (List.mem_toFinset.mp hname)⟩
    have hprotocol : protocol.Resolved :=
      ⟨fun before message after heq => (hresolved before message after heq).resolved,
        fun request hrequest => ⟨(hanswered request hrequest).1.resolved, (hanswered request hrequest).2.resolved⟩⟩
    obtain ⟨hnames, hfields⟩ := (validate_of_resolved hprotocol).mp hvalid
    obtain ⟨hmessageNames, hrequestNames, hdisjoint⟩ := ProtocolDefinition.names_nodup_iff.mp hnames
    exact ⟨hmessageNames, hrequestNames, hdisjoint, hfields, hresolved, hanswered⟩
  · intro h
    refine (validate_of_resolved h.resolved).mpr ⟨?_, h.fields⟩
    exact ProtocolDefinition.names_nodup_iff.mpr ⟨h.messageNames, h.requestNames, h.disjoint⟩

/-- A struct of the header: a request's holds the struct of its response, whose fields come after its own. -/
structure StructDeclaration where
  name : String
  fieldTypes : List TypeDefinition

def messageStructs (messages : List MessageProtocolDefinition) : List StructDeclaration :=
  messages.map fun message => ⟨message.name, message.fields.map FieldDefinition.typeDefinition⟩

def requestStructs (requests : List RequestProtocolDefinition) : List StructDeclaration :=
  requests.map fun request =>
    ⟨request.name, (request.requestFields ++ request.responseFields).map FieldDefinition.typeDefinition⟩

/-- The structs of `generateProtocolCppHeader`, in the order of `generateMessages` and `generateRequests`. -/
def ProtocolDefinition.structs (protocol : ProtocolDefinition) : List StructDeclaration :=
  messageStructs protocol.messages ++ requestStructs protocol.requests

def StructDeclaration.Uses (struct : StructDeclaration) (name : String) : Prop :=
  ∃ type ∈ struct.fieldTypes, name ∈ type.references

/-- No struct is declared twice, and what the fields of a struct name has been declared above it. -/
structure DeclaredBeforeUse (structs : List StructDeclaration) : Prop where
  distinct : (structs.map StructDeclaration.name).Nodup
  above : ∀ before struct after, structs = before ++ struct :: after →
    ∀ name, struct.Uses name → name ∈ before.map StructDeclaration.name

def ProtocolDefinition.RefersTo (protocol : ProtocolDefinition) (name referred : String) : Prop :=
  ∃ struct ∈ protocol.structs, struct.name = name ∧ struct.Uses referred

@[simp] theorem messageStructs_names (messages : List MessageProtocolDefinition) :
    (messageStructs messages).map StructDeclaration.name = messages.map MessageProtocolDefinition.name := by
  simp [messageStructs, Function.comp_def]

theorem ProtocolDefinition.structs_names (protocol : ProtocolDefinition) :
    protocol.structs.map StructDeclaration.name = protocol.names := by
  simp [ProtocolDefinition.structs, requestStructs, ProtocolDefinition.names, Function.comp_def]

theorem RefersTo.of_uses {messageNames : List String} {protocolName : String} {fields : List FieldDefinition}
    (h : Farseer.RefersTo messageNames protocolName fields) {struct name : String}
    (huses : StructDeclaration.Uses ⟨struct, fields.map FieldDefinition.typeDefinition⟩ name) :
    name ∈ messageNames := by
  obtain ⟨type, htype, hname⟩ := huses
  obtain ⟨field, hfield, rfl⟩ := List.mem_map.mp htype
  exact (h field hfield name hname).1

theorem RefersTo.append {messageNames : List String} {protocolName : String} {fields fields' : List FieldDefinition}
    (h : Farseer.RefersTo messageNames protocolName fields) (h' : Farseer.RefersTo messageNames protocolName fields') :
    Farseer.RefersTo messageNames protocolName (fields ++ fields') := by
  intro field hfield
  rcases List.mem_append.mp hfield with hfield | hfield
  · exact h field hfield
  · exact h' field hfield

/-- The header of a well-formed definition can be compiled from the top down. -/
theorem ProtocolDefinition.WellFormed.declaredBeforeUse {protocol : ProtocolDefinition} (h : protocol.WellFormed) :
    DeclaredBeforeUse protocol.structs where
  distinct := by
    rw [ProtocolDefinition.structs_names]
    exact ProtocolDefinition.names_nodup_iff.mpr ⟨h.messageNames, h.requestNames, h.disjoint⟩
  above := by
    intro before struct after heq name huses
    rcases List.append_eq_append_iff.mp heq with ⟨requests, rfl, hrequests⟩ | ⟨messages, hmessages, hrest⟩
    -- a request: all the messages are above it
    · have hstruct : struct ∈ requestStructs protocol.requests := by simp [hrequests]
      obtain ⟨request, hrequest, rfl⟩ := List.mem_map.mp hstruct
      obtain ⟨hrequestFields, hresponseFields⟩ := h.requests request hrequest
      have hname := (hrequestFields.append hresponseFields).of_uses huses
      rw [List.map_append, messageStructs_names]
      exact List.mem_append_left _ hname
    · cases messages with
      | nil =>
        have hstruct : struct ∈ requestStructs protocol.requests := by
          rw [List.nil_append] at hrest
          simp [← hrest]
        obtain ⟨request, hrequest, rfl⟩ := List.mem_map.mp hstruct
        obtain ⟨hrequestFields, hresponseFields⟩ := h.requests request hrequest
        have hname := (hrequestFields.append hresponseFields).of_uses huses
        rw [List.append_nil] at hmessages
        rwa [← hmessages, messageStructs_names]
      -- a message: those before it in the list are above it
      | cons first messages =>
        obtain ⟨rfl, -⟩ := List.cons.inj hrest
        obtain ⟨above, rest, hsplit, habove, hrest⟩ := List.map_eq_append_iff.mp hmessages
        obtain ⟨message, below, rfl, rfl, -⟩ := List.map_eq_cons_iff.mp hrest
        have hname := (h.messages above message below hsplit).of_uses huses
        rw [← habove]
        simpa [Function.comp_def] using hname

/-- Along a reference the position of the declaration goes down. -/
theorem DeclaredBeforeUse.position_lt {structs : List StructDeclaration} (h : DeclaredBeforeUse structs)
    {struct : StructDeclaration} (hstruct : struct ∈ structs) {name : String} (huses : struct.Uses name) :
    (structs.map StructDeclaration.name).idxOf name < (structs.map StructDeclaration.name).idxOf struct.name := by
  obtain ⟨before, after, rfl⟩ := List.append_of_mem hstruct
  have habove := h.above before struct after rfl name huses
  have hnot : struct.name ∉ before.map StructDeclaration.name := by
    intro hmem
    have hdistinct := h.distinct
    rw [List.map_append, List.map_cons, List.nodup_append] at hdistinct
    exact hdistinct.2.2 _ hmem _ List.mem_cons_self rfl
  rw [List.map_append, List.idxOf_append_of_mem habove, List.map_cons, List.idxOf_append_of_notMem hnot]
  exact Nat.lt_add_right _ (List.idxOf_lt_length_of_mem habove)

/-- A well-formed definition has no cycle of references, and no chain of them goes on for ever. -/
theorem ProtocolDefinition.WellFormed.wellFounded {protocol : ProtocolDefinition} (h : protocol.WellFormed) :
    WellFounded fun referred name => protocol.RefersTo name referred := by
  refine Subrelation.wf ?_ (measure fun name => protocol.names.idxOf name).wf
  rintro referred name ⟨struct, hstruct, rfl, huses⟩
  rw [← ProtocolDefinition.structs_names]
  exact h.declaredBeforeUse.position_lt hstruct huses

theorem ProtocolDefinition.WellFormed.acyclic {protocol : ProtocolDefinition} (h : protocol.WellFormed)
    (name : String) : ¬ Relation.TransGen protocol.RefersTo name name := by
  intro hcycle
  have hback := Relation.transGen_swap.mpr hcycle
  exact (h.wellFounded.transGen).irrefl.irrefl name hback

/-- Validation returns exactly for the well-formed definitions, and otherwise throws one of the exceptions of an
ill-formed one. What it accepts has no cycle of references, and its header declares each struct before its use. -/
theorem validateProtocolDefinition_wellFormed (protocol : ProtocolDefinition) :
    (validateProtocolDefinition protocol = .ok () ↔ protocol.WellFormed) ∧
      (∀ e, validateProtocolDefinition protocol = .error e → e.isInvalidDefinition = true) ∧
      (validateProtocolDefinition protocol = .ok () →
        (∀ name, ¬ Relation.TransGen protocol.RefersTo name name) ∧
          DeclaredBeforeUse protocol.structs) := by
  refine ⟨validateProtocolDefinition_iff protocol, validateProtocolDefinition_refuses protocol, fun hvalid => ?_⟩
  have h := (validateProtocolDefinition_iff protocol).mp hvalid
  exact ⟨h.acyclic, h.declaredBeforeUse⟩

end Farseer
