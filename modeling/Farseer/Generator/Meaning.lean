import Farseer.Codec.DecodedSize
import Farseer.Generator.Compilation
import Farseer.Schema.WellFormed

/-! The generated program means what the schema means: its structs have the expanded fields, and their functions read
and write them in order. The condition is that the names in it are not hidden, which validation does not check. -/

namespace Farseer

def TypeDefinition.integerNames : TypeDefinition → List String
  | .simple type => (TypeDefinition.simple type).getCppType.names
  | .message .. => []
  | .list subtype => subtype.integerNames
  | .map key value => key.integerNames ++ value.integerNames

/-- No name in the type is that of a member of the classes around it, and no struct has the name of an integer type. -/
structure TypeDefinition.NamesClear (members declared : List String) (t : TypeDefinition) : Prop where
  members : ∀ name ∈ t.getCppType.names, name ∉ members
  declared : ∀ name ∈ t.integerNames, name ∉ declared

def FieldsClear (members declared : List String) (fields : List FieldDefinition) : Prop :=
  ∀ field ∈ fields, field.typeDefinition.NamesClear members declared

def memberNames (fields : List FieldDefinition) : List String := fields.map FieldDefinition.name

def RequestProtocolDefinition.requestMembers (request : RequestProtocolDefinition) : List String :=
  "Response" :: memberNames request.requestFields

structure ProtocolDefinition.NamesClear (protocol : ProtocolDefinition) : Prop where
  messages : ∀ message ∈ protocol.messages, FieldsClear (memberNames message.fields) protocol.names message.fields
  requests : ∀ request ∈ protocol.requests,
    FieldsClear request.requestMembers protocol.names request.requestFields ∧
      FieldsClear (request.requestMembers ++ memberNames request.responseFields) protocol.names request.responseFields

instance (members declared : List String) (t : TypeDefinition) : Decidable (t.NamesClear members declared) :=
  decidable_of_iff ((∀ name ∈ t.getCppType.names, name ∉ members) ∧ ∀ name ∈ t.integerNames, name ∉ declared)
    ⟨fun h => ⟨h.1, h.2⟩, fun h => ⟨h.members, h.declared⟩⟩

instance (members declared : List String) (fields : List FieldDefinition) :
    Decidable (FieldsClear members declared fields) :=
  inferInstanceAs (Decidable (∀ field ∈ fields, field.typeDefinition.NamesClear members declared))

instance (protocol : ProtocolDefinition) : Decidable protocol.NamesClear :=
  decidable_of_iff ((∀ message ∈ protocol.messages,
      FieldsClear (memberNames message.fields) protocol.names message.fields) ∧
    ∀ request ∈ protocol.requests, FieldsClear request.requestMembers protocol.names request.requestFields ∧
      FieldsClear (request.requestMembers ++ memberNames request.responseFields) protocol.names request.responseFields)
    ⟨fun h => ⟨h.1, h.2⟩, fun h => ⟨h.messages, h.requests⟩⟩

theorem TypeDefinition.NamesClear.mono {members declared declared' : List String} {t : TypeDefinition}
    (h : t.NamesClear members declared) (hdeclared : declared' ⊆ declared) : t.NamesClear members declared' :=
  ⟨h.members, fun name hname hmem => h.declared name hname (hdeclared hmem)⟩

theorem TypeDefinition.namesClear_map {members declared : List String} {key value : TypeDefinition} :
    (TypeDefinition.map key value).NamesClear members declared ↔
      key.NamesClear members declared ∧ value.NamesClear members declared := by
  constructor
  · intro h
    exact ⟨⟨fun name hname => h.members name (List.mem_append_left _ hname),
        fun name hname => h.declared name (List.mem_append_left _ hname)⟩,
      ⟨fun name hname => h.members name (List.mem_append_right _ hname),
        fun name hname => h.declared name (List.mem_append_right _ hname)⟩⟩
  · rintro ⟨hkey, hvalue⟩
    exact ⟨fun name hname => (List.mem_append.mp hname).elim (hkey.members name) (hvalue.members name),
      fun name hname => (List.mem_append.mp hname).elim (hkey.declared name) (hvalue.declared name)⟩

def CppClass.entry (c : CppClass) : String × Serialized := (c.name, ⟨.message c.fields, c.serializer⟩)

theorem find_entry (classes : List CppClass) (name : String) :
    (classes.find? (·.name = name)).map (fun c => (⟨.message c.fields, c.serializer⟩ : Serialized)) =
      (classes.map CppClass.entry).lookup name := by
  induction classes with
  | nil => rfl
  | cons c classes ih =>
    rw [List.find?_cons, List.map_cons, CppClass.entry, List.lookup_cons]
    by_cases hname : c.name = name
    · simp [hname]
    · rw [beq_false_of_ne (Ne.symm hname)]
      simpa [hname] using ih

theorem mem_of_lookup {layouts : MessageLayouts} {name : String} {fields : WireFields}
    (h : layouts.lookup name = some fields) : name ∈ layouts.map Prod.fst := by
  induction layouts with
  | nil => cases h
  | cons layout layouts ih =>
    rw [List.lookup_cons] at h
    split at h
    · rename_i heq
      rw [List.map_cons, eq_of_beq heq]
      exact List.mem_cons_self
    · exact List.mem_cons_of_mem _ (ih h)

/-- The type of a key is also a type, and it is known from it. -/
theorem expandType_of_key (layouts : MessageLayouts) {t : TypeDefinition} {k : KeyType} (h : expandKey t = some k) :
    ∃ w, expandType layouts t = some w ∧ w.toKey = some k := by
  cases t with
  | simple type =>
    cases type with
    | boolean => cases h
    | i32 | i64 | u32 | u64 | string =>
      cases h
      exact ⟨_, rfl, rfl⟩
  | message | list | map => cases h

theorem WireType.toKey_inj {w w' : WireType} {k : KeyType} (h : w.toKey = some k) (h' : w'.toKey = some k) : w = w' := by
  cases w with
  | boolean | list | map | message => cases h
  | i32 | i64 | u32 | u64 | string =>
    cases h
    cases w' with
    | boolean | list | map | message => cases h'
    | i32 | i64 | u32 | u64 | string => first | rfl | cases h'

variable [Ballotin]

def layoutEntry (layout : String × WireFields) : String × Serialized :=
  (layout.1, ⟨.message layout.2, layout.2.serializer⟩)

/-- The complete structs of the scope are those of the layouts, and they are declared. -/
structure CppScope.Agrees (scope : CppScope) (layouts : MessageLayouts) : Prop where
  classes : scope.classes.map CppClass.entry = layouts.map layoutEntry
  declared : layouts.map Prod.fst ⊆ scope.declared

theorem lookup_layoutEntry (layouts : MessageLayouts) (name : String) :
    (layouts.map layoutEntry).lookup name =
      (layouts.lookup name).map fun fields => (⟨.message fields, fields.serializer⟩ : Serialized) := by
  induction layouts with
  | nil => rfl
  | cons layout layouts ih =>
    rw [List.map_cons, layoutEntry, List.lookup_cons, List.lookup_cons, ih]
    cases name == layout.1 <;> rfl

variable {scope : CppScope} {layouts : MessageLayouts}

/-- A name that is not that of a member is looked up in the namespace. -/
theorem CppScope.Agrees.find (h : scope.Agrees layouts) {name : String} (hmembers : name ∉ scope.members) :
    scope.find name = if name ∈ scope.declared then
        (layouts.lookup name).map fun fields => (⟨.message fields, fields.serializer⟩ : Serialized)
      else (globalType name).map fun w => ⟨w, w.serializer⟩ := by
  rw [CppScope.find, if_neg hmembers, find_entry, h.classes, lookup_layoutEntry]

theorem CppScope.find_members {name : String} (h : name ∈ scope.members) : scope.find name = none := if_pos h

theorem CppScope.resolve_integer (h : scope.Agrees layouts) {name : String} {w : WireType} (hglobal : globalType name = some w)
    (hmembers : name ∉ scope.members) (hdeclared : name ∉ scope.declared) :
    scope.resolve (.named name) = some ⟨w, w.serializer⟩ := by
  rw [resolve, h.find hmembers, if_neg hdeclared, hglobal]
  rfl

/-- Where its names are not hidden, a type is what it expands to. -/
theorem CppScope.Agrees.resolve (h : scope.Agrees layouts) {t : TypeDefinition} {w : WireType}
    (hw : expandType layouts t = some w) (hclear : t.NamesClear scope.members scope.declared) :
    scope.resolve t.getCppType = some ⟨w, w.serializer⟩ := by
  induction t generalizing w with
  | simple type =>
    cases type with
    | string | boolean =>
      cases hw
      rfl
    | i32 | i64 | u32 | u64 =>
      cases hw
      exact scope.resolve_integer h rfl (hclear.members _ (List.mem_singleton_self _))
        (hclear.declared _ (List.mem_singleton_self _))
  | message name =>
    obtain ⟨fields, hfields, rfl⟩ := Option.map_eq_some_iff.mp hw
    rw [TypeDefinition.getCppType, CppScope.resolve, h.find (hclear.members _ (List.mem_singleton_self _)),
      if_pos (h.declared (mem_of_lookup hfields)), hfields]
    rfl
  | list subtype ih =>
    obtain ⟨element, helement, rfl⟩ := Option.map_eq_some_iff.mp hw
    rw [TypeDefinition.getCppType, CppScope.resolve, ih helement ⟨hclear.members, hclear.declared⟩]
    rfl
  | map key value ihkey ihvalue =>
    obtain ⟨k, hk, hw⟩ := Option.bind_eq_some_iff.mp hw
    obtain ⟨v, hv, hw⟩ := Option.bind_eq_some_iff.mp hw
    cases hw
    obtain ⟨wkey, hwkey, htoKey⟩ := expandType_of_key layouts hk
    obtain ⟨hkey, hvalue⟩ := TypeDefinition.namesClear_map.mp hclear
    rw [TypeDefinition.getCppType, CppScope.resolve, ihkey hwkey hkey, ihvalue hv hvalue]
    simp only [Option.bind_eq_bind, Option.bind_some, htoKey]
    rfl

theorem CppScope.Agrees.clear_integer (h : scope.Agrees layouts) {name : String} {w : WireType} {s : BinarySerializer w.Value}
    (hw : ∀ fields, w ≠ .message fields) (hresolve : scope.resolve (.named name) = some ⟨w, s⟩) :
    name ∉ scope.members ∧ name ∉ scope.declared := by
  have hmembers : name ∉ scope.members := fun hmem => by
    rw [CppScope.resolve, find_members hmem] at hresolve
    cases hresolve
  refine ⟨hmembers, fun hdeclared => ?_⟩
  rw [CppScope.resolve, h.find hmembers, if_pos hdeclared] at hresolve
  obtain ⟨fields, -, heq⟩ := Option.map_eq_some_iff.mp hresolve
  exact hw fields (congrArg Sigma.fst heq).symm

/-- A type that is found to be what it expands to has no hidden names. -/
theorem CppScope.Agrees.clear (h : scope.Agrees layouts) {t : TypeDefinition} {w : WireType} {s : BinarySerializer w.Value}
    (hw : expandType layouts t = some w) (hresolve : scope.resolve t.getCppType = some ⟨w, s⟩) :
    t.NamesClear scope.members scope.declared := by
  induction t generalizing w with
  | simple type =>
    cases type with
    | string | boolean => exact ⟨List.forall_mem_nil _, List.forall_mem_nil _⟩
    | i32 | i64 | u32 | u64 =>
      cases hw
      obtain ⟨hmembers, hdeclared⟩ := h.clear_integer (fun fields heq => by cases heq) hresolve
      exact ⟨List.forall_mem_singleton.mpr hmembers, List.forall_mem_singleton.mpr hdeclared⟩
  | message name =>
    refine ⟨List.forall_mem_singleton.mpr fun hmem => ?_, List.forall_mem_nil _⟩
    rw [TypeDefinition.getCppType, CppScope.resolve, find_members hmem] at hresolve
    cases hresolve
  | list subtype ih =>
    obtain ⟨element, helement, rfl⟩ := Option.map_eq_some_iff.mp hw
    obtain ⟨⟨w, s'⟩, hsubtype, heq⟩ := Option.bind_eq_some_iff.mp hresolve
    cases heq
    obtain ⟨hmembers, hdeclared⟩ := ih helement hsubtype
    exact ⟨hmembers, hdeclared⟩
  | map key value ihkey ihvalue =>
    obtain ⟨k, hk, hw⟩ := Option.bind_eq_some_iff.mp hw
    obtain ⟨v, hv, hw⟩ := Option.bind_eq_some_iff.mp hw
    cases hw
    obtain ⟨⟨wkey, skey⟩, hkey, hresolve⟩ := Option.bind_eq_some_iff.mp hresolve
    obtain ⟨k', htoKey', hresolve⟩ := Option.bind_eq_some_iff.mp hresolve
    obtain ⟨⟨wvalue, svalue⟩, hvalue, heq⟩ := Option.bind_eq_some_iff.mp hresolve
    cases heq
    obtain ⟨wkey', hwkey', htoKey⟩ := expandType_of_key layouts hk
    obtain rfl := WireType.toKey_inj htoKey' htoKey
    exact TypeDefinition.namesClear_map.mpr ⟨ihkey hwkey' hkey, ihvalue hv hvalue⟩

omit [Ballotin] in
theorem expandFields_cons {layouts : MessageLayouts} {field : FieldDefinition} {fields : List FieldDefinition} {w : WireFields} :
    expandFields layouts (field :: fields) = some w ↔ ∃ head tail, expandType layouts field.typeDefinition = some head ∧
      expandFields layouts fields = some tail ∧ w = .cons head tail := by
  constructor
  · intro hw
    obtain ⟨head, hhead, hw⟩ := Option.bind_eq_some_iff.mp hw
    obtain ⟨tail, htail, hw⟩ := Option.bind_eq_some_iff.mp hw
    exact ⟨head, tail, hhead, htail, (Option.some_inj.mp hw).symm⟩
  · rintro ⟨head, tail, hhead, htail, rfl⟩
    rw [expandFields, hhead, htail]
    rfl

omit [Ballotin] in
theorem memberNames_cppField (fields : List FieldDefinition) :
    (fields.map FieldDefinition.cppField).map CppField.name = memberNames fields := by
  rw [List.map_map]
  rfl

/-- Distinct members whose types have no hidden names are declared as they expand. -/
theorem CppScope.Agrees.declare (h : scope.Agrees layouts) {fields : List FieldDefinition} {w : WireFields}
    (hw : expandFields layouts fields = some w) (hdistinct : FieldsDistinct fields)
    (hclear : FieldsClear scope.members scope.declared fields) :
    scope.declare (fields.map FieldDefinition.cppField) = some w := by
  induction fields generalizing w with
  | nil =>
    cases hw
    rfl
  | cons field fields ih =>
    obtain ⟨head, tail, hhead, htail, rfl⟩ := expandFields_cons.mp hw
    obtain ⟨hnew, hrest⟩ := List.nodup_cons.mp hdistinct
    have hresolve : scope.resolve field.cppField.type = some ⟨head, head.serializer⟩ :=
      h.resolve hhead (hclear field List.mem_cons_self)
    have hdeclare := ih htail hrest fun f hf => hclear f (List.mem_cons_of_mem _ hf)
    rw [List.map_cons, CppScope.declare, hresolve, Option.bind_eq_bind, Option.bind_some, hdeclare]
    rw [← memberNames, ← memberNames_cppField] at hnew
    simp only [Option.bind_eq_bind, Option.bind_some]
    exact if_neg hnew

omit [Ballotin] in
theorem getter_mem {w : WireFields} {names : List String} {member : String} {g : (u : WireType) × (w.Value → u.Value)}
    (h : w.getter names member = some g) : member ∈ names := by
  induction names generalizing w with
  | nil => cases w <;> cases h
  | cons name names ih =>
    cases w with
    | nil => cases h
    | cons head tail =>
      rw [WireFields.getter] at h
      split_ifs at h with hname
      · rw [hname]
        exact List.mem_cons_self
      · obtain ⟨g', hg', -⟩ := Option.map_eq_some_iff.mp h
        exact List.mem_cons_of_mem _ (ih hg')

omit [Ballotin] in
theorem setter_mem {w : WireFields} {names : List String} {member : String}
    {s : (u : WireType) × (u.Value → w.Value → w.Value)} (h : w.setter names member = some s) : member ∈ names := by
  induction names generalizing w with
  | nil => cases w <;> cases h
  | cons name names ih =>
    cases w with
    | nil => cases h
    | cons head tail =>
      rw [WireFields.setter] at h
      split_ifs at h with hname
      · rw [hname]
        exact List.mem_cons_self
      · obtain ⟨s', hs', -⟩ := Option.map_eq_some_iff.mp h
        exact List.mem_cons_of_mem _ (ih hs')

omit [Ballotin] in
theorem getter_type {layouts : MessageLayouts} {fields : List FieldDefinition} {w : WireFields} (hw : expandFields layouts fields = some w)
    (hdistinct : FieldsDistinct fields) {field : FieldDefinition} (hfield : field ∈ fields)
    {g : (u : WireType) × (w.Value → u.Value)} (hg : w.getter (memberNames fields) field.name = some g) :
    expandType layouts field.typeDefinition = some g.1 := by
  induction fields generalizing w with
  | nil => cases hfield
  | cons first fields ih =>
    obtain ⟨head, tail, hhead, htail, rfl⟩ := expandFields_cons.mp hw
    obtain ⟨hnew, hrest⟩ := List.nodup_cons.mp hdistinct
    rw [memberNames, List.map_cons, WireFields.getter] at hg
    rcases List.mem_cons.mp hfield with rfl | hfield
    · rw [if_pos rfl] at hg
      cases hg
      exact hhead
    · rw [if_neg fun heq : first.name = field.name => hnew (heq ▸ List.mem_map_of_mem hfield)] at hg
      obtain ⟨g', hg', rfl⟩ := Option.map_eq_some_iff.mp hg
      exact ih htail hrest hfield hg'

section Bodies

variable {X : Type}

/-- Every call in a function that was compiled is for a member, and of the type of this member. -/
theorem serializeBody_calls {get : String → Option ((w : WireType) × (X → w.Value))} {calls : List CppCall}
    {body : X → EStateM Exception Buffer Unit} (h : scope.serializeBody get calls = some body) {call : CppCall}
    (hcall : call ∈ calls) : ∃ (w : WireType) (s : BinarySerializer w.Value) (value : X → w.Value),
      scope.resolve call.type = some ⟨w, s⟩ ∧ get call.field = some ⟨w, value⟩ := by
  induction calls generalizing body with
  | nil => cases hcall
  | cons first calls ih =>
    obtain ⟨⟨w, s⟩, hresolve, hafter⟩ := Option.bind_eq_some_iff.mp h
    obtain ⟨⟨w', value⟩, hget, hafter'⟩ := Option.bind_eq_some_iff.mp hafter
    obtain ⟨rest, hrest, hbody⟩ := Option.bind_eq_some_iff.mp hafter'
    rcases List.mem_cons.mp hcall with rfl | hcall
    · split_ifs at hbody with heq
      subst heq
      exact ⟨_, s, value, hresolve, hget⟩
    · exact ih hrest hcall

/-- The calls for the members of a struct serialize the struct. The induction is on the members that are left, and `view`
is what they are of the struct. -/
theorem CppScope.Agrees.serializeBody (h : scope.Agrees layouts) {fields : List FieldDefinition} {w : WireFields}
    (hw : expandFields layouts fields = some w) (hdistinct : FieldsDistinct fields)
    (hclear : FieldsClear scope.members scope.declared fields) (view : X → w.Value)
    {get : String → Option ((u : WireType) × (X → u.Value))}
    (hget : ∀ member g, w.getter (memberNames fields) member = some g → get member = some ⟨g.1, g.2 ∘ view⟩) :
    scope.serializeBody get (fields.map FieldDefinition.cppCall) = some fun x => w.serializer.serialize (view x) := by
  induction fields generalizing w with
  | nil =>
    cases hw
    rfl
  | cons field fields ih =>
    obtain ⟨head, tail, hhead, htail, rfl⟩ := expandFields_cons.mp hw
    obtain ⟨hnew, hrest⟩ := List.nodup_cons.mp hdistinct
    have hresolve : scope.resolve field.cppCall.type = some ⟨head, head.serializer⟩ :=
      h.resolve hhead (hclear field List.mem_cons_self)
    have hfirst : get field.cppCall.field = some ⟨head, fun x => (view x).1⟩ := hget field.name ⟨head, Prod.fst⟩ (if_pos rfl)
    have hothers := ih htail hrest (fun f hf => hclear f (List.mem_cons_of_mem _ hf)) (fun x => (view x).2) fun member g hg => by
      have hmember : field.name ≠ member := fun heq => hnew (heq ▸ getter_mem hg)
      refine hget member ⟨g.1, g.2 ∘ Prod.snd⟩ ?_
      rw [memberNames, List.map_cons, WireFields.getter, if_neg hmember]
      exact congrArg (Option.map _) hg
    rw [List.map_cons, CppScope.serializeBody, hresolve, hfirst, hothers]
    simp only [Option.bind_eq_bind, Option.bind_some, dite_true]
    rfl

/-- The calls for the members of a struct deserialize the struct, whatever the members were before. Here `update` changes the
members that are left. -/
theorem CppScope.Agrees.deserializeBody (h : scope.Agrees layouts) {fields : List FieldDefinition} {w : WireFields}
    (hw : expandFields layouts fields = some w) (hdistinct : FieldsDistinct fields)
    (hclear : FieldsClear scope.members scope.declared fields) (update : (w.Value → w.Value) → X → X)
    (hid : ∀ x, update (fun value => value) x = x)
    (hover : ∀ f g x, update f (update g x) = update (fun value => f (g value)) x)
    {set : String → Option ((u : WireType) × (u.Value → X → X))}
    (hset : ∀ member s, w.setter (memberNames fields) member = some s →
      set member = some ⟨s.1, fun value => update (s.2 value)⟩) :
    scope.deserializeBody set (fields.map FieldDefinition.cppCall) = some fun bytes x => do
      let value ← w.serializer.deserialize bytes
      return update (fun _ => value) x := by
  induction fields generalizing w with
  | nil =>
    cases hw
    refine congrArg some (funext fun bytes => funext fun x => ?_)
    exact congrArg pure (hid x).symm
  | cons field fields ih =>
    obtain ⟨head, tail, hhead, htail, rfl⟩ := expandFields_cons.mp hw
    obtain ⟨hnew, hrest⟩ := List.nodup_cons.mp hdistinct
    have hresolve : scope.resolve field.cppCall.type = some ⟨head, head.serializer⟩ :=
      h.resolve hhead (hclear field List.mem_cons_self)
    have hfirst : set field.cppCall.field = some ⟨head, fun value => update fun members => (value, members.2)⟩ :=
      hset field.name ⟨head, fun value members => (value, members.2)⟩ (if_pos rfl)
    have hothers := ih htail hrest (fun f hf => hclear f (List.mem_cons_of_mem _ hf))
      (fun f => update fun members => (members.1, f members.2)) (fun x => hid x) (fun f g x => hover _ _ x) fun member s hs => by
        have hmember : field.name ≠ member := fun heq => hnew (heq ▸ setter_mem hs)
        refine hset member ⟨s.1, fun value members => (members.1, s.2 value members.2)⟩ ?_
        rw [memberNames, List.map_cons, WireFields.setter, if_neg hmember]
        exact congrArg (Option.map _) hs
    rw [List.map_cons, CppScope.deserializeBody, hresolve, hfirst, hothers]
    simp only [Option.bind_eq_bind, Option.bind_some, dite_true]
    refine congrArg some (funext fun bytes => funext fun x => ?_)
    rw [WireFields.serializer]
    simp only [bind_assoc, pure_bind]
    refine bind_congr fun first => bind_congr fun rest => ?_
    exact congrArg pure (hover _ _ x)

end Bodies

def CppClass.ofFields (name : String) (protocolIdentifier : ProtocolIdentifier) (fields : List FieldDefinition)
    (w : WireFields) : CppClass where
  name
  protocolIdentifier
  hasStaticSize := fieldsHaveStaticSize fields
  staticNumberOfBits := fieldsStaticNumberOfBits fields
  fields := w
  serializer := w.serializer

/-- A struct is compiled to what its fields mean exactly if their types have no hidden names. -/
theorem compileStruct_iff {header source : CppScope} (hheader : header.Agrees layouts) (hsource : source.Agrees layouts)
    (hmembers : header.members = source.members) (hdeclared : header.declared ⊆ source.declared)
    {fields : List FieldDefinition} {w : WireFields} (hw : expandFields layouts fields = some w)
    (hdistinct : FieldsDistinct fields) (name : String) (protocolIdentifier : ProtocolIdentifier) :
    compileStruct header source
        { name, hasStaticSize := fieldsHaveStaticSize fields, staticNumberOfBits := fieldsStaticNumberOfBits fields
          fields := fields.map FieldDefinition.cppField }
        { name, protocolIdentifier, serializeHeaderless := fields.map FieldDefinition.cppCall
          deserializeHeaderless := fields.map FieldDefinition.cppCall } =
      some (.ofFields name protocolIdentifier fields w) ↔ FieldsClear source.members source.declared fields := by
  rw [compileStruct, if_neg fun hne => hne rfl, memberNames_cppField]
  constructor
  · intro h
    obtain ⟨w', -, hbodies⟩ := Option.bind_eq_some_iff.mp h
    obtain ⟨body, hbody, hrest⟩ := Option.bind_eq_some_iff.mp hbodies
    obtain ⟨_, -, hclass⟩ := Option.bind_eq_some_iff.mp hrest
    obtain rfl : w' = w := congrArg CppClass.fields (Option.some_inj.mp hclass)
    intro field hfield
    obtain ⟨u, s, value, hresolve, hget⟩ := serializeBody_calls hbody (List.mem_map_of_mem hfield)
    exact hsource.clear (getter_type hw hdistinct hfield hget) hresolve
  · intro hclear
    have hclear' : FieldsClear header.members header.declared fields := by
      rw [hmembers]
      exact fun field hfield => (hclear field hfield).mono hdeclared
    rw [hheader.declare hw hdistinct hclear']
    have hserialize := hsource.serializeBody hw hdistinct hclear (fun value => value) fun member g hg => hg
    have hdeserialize := hsource.deserializeBody hw hdistinct hclear (fun f value => f value) (fun _ => rfl)
      (fun _ _ _ => rfl) fun member s hs => hs
    simp only [Option.bind_eq_bind, Option.bind_some]
    rw [hserialize, hdeserialize]
    simp only [Option.bind_some, bind_pure]
    rfl

section Programs

@[reducible] def polynomialHashing : Hashing ProtocolIdentifier where
  ofType
    | .i32 => 1
    | .i64 => 2
    | .u32 => 3
    | .u64 => 4
    | .string => 5
    | .boolean => 6
    | .list => 7
    | .map => 8
    | .message => 9
  ofString text := text.toList.foldl (fun hashCode c => 31 * hashCode + c.val) 7
  ofNumber number := number
  hashCombine hashCode hashCode' := 31 * hashCode + hashCode'

variable [Hashing ProtocolIdentifier]

def MessageProtocolDefinition.cppClass (message : MessageProtocolDefinition) (w : WireFields) : CppClass :=
  .ofFields message.name (message.getHashCode TypeDefinition.getHashCode) message.fields w

def RequestProtocolDefinition.cppClass (request : RequestProtocolDefinition) (w : WireFields) : CppClass :=
  .ofFields request.name (request.getRequestHashCode TypeDefinition.getHashCode) request.requestFields w

def RequestProtocolDefinition.responseCppClass (request : RequestProtocolDefinition) (w : WireFields) : CppClass :=
  .ofFields (responseName request.name) (request.getResponseHashCode TypeDefinition.getHashCode) request.responseFields w

/-- What a schema means: one struct for each message, and two for each request. -/
def ProtocolDefinition.cppProgram (protocol : ProtocolDefinition) (layout : ProtocolLayout) : CppProgram where
  cppNamespace := splitNamespace protocol.fileNamespace
  messages := List.zipWith (fun message layout => message.cppClass layout.2) protocol.messages layout.messages
  requests := List.zipWith (fun request layout => (request.cppClass layout.request, request.responseCppClass layout.response))
    protocol.requests layout.requests

omit [Ballotin] [Hashing ProtocolIdentifier] in
theorem expandMessages_append {messages : List MessageProtocolDefinition} {layouts out : MessageLayouts}
    (h : expandMessages messages layouts = some out) : ∃ rest, out = layouts ++ rest := by
  induction messages generalizing layouts with
  | nil =>
    cases h
    exact ⟨[], (List.append_nil _).symm⟩
  | cons message messages ih =>
    obtain ⟨w, -, h⟩ := Option.bind_eq_some_iff.mp h
    obtain ⟨rest, rfl⟩ := ih h
    exact ⟨(message.name, w) :: rest, by rw [List.append_assoc]; rfl⟩

omit [Hashing ProtocolIdentifier] in
theorem compileMessages_append {names : List String} {classes out : List CppClass} {structs : List CppStruct}
    {definitions : List CppDefinition} (h : compileMessages names classes structs definitions = some out) :
    ∃ rest, out = classes ++ rest := by
  induction structs generalizing classes definitions with
  | nil =>
    cases definitions with
    | nil =>
      cases h
      exact ⟨[], (List.append_nil _).symm⟩
    | cons definition definitions => cases h
  | cons struct structs ih =>
    cases definitions with
    | nil => cases h
    | cons definition definitions =>
      obtain ⟨c, -, h⟩ := Option.bind_eq_some_iff.mp h
      obtain ⟨rest, rfl⟩ := ih h
      exact ⟨c :: rest, by rw [List.append_assoc]; rfl⟩

omit [Hashing ProtocolIdentifier] in
theorem names_of_entries {classes : List CppClass} (h : classes.map CppClass.entry = layouts.map layoutEntry) :
    layouts.map Prod.fst = classes.map CppClass.name := by
  have hnames := congrArg (List.map Prod.fst) h
  rw [List.map_map, List.map_map] at hnames
  exact hnames.symm

/-- The messages are compiled to what they mean exactly if their types have no hidden names. -/
theorem compileMessages_iff {messages : List MessageProtocolDefinition} {names : List String} {classes : List CppClass}
    {rest : MessageLayouts} (hclasses : classes.map CppClass.entry = layouts.map layoutEntry)
    (hexpand : expandMessages messages layouts = some (layouts ++ rest))
    (hnames : classes.map CppClass.name ++ messages.map MessageProtocolDefinition.name ⊆ names)
    (hdistinct : ∀ message ∈ messages, FieldsDistinct message.fields) :
    compileMessages names classes (generateMessages messages) (messages.map generateMessageMetadataDefinition) =
        some (classes ++ List.zipWith (fun message layout => message.cppClass layout.2) messages rest) ↔
      ∀ message ∈ messages, FieldsClear (memberNames message.fields) names message.fields := by
  induction messages generalizing classes layouts rest with
  | nil => exact iff_of_true (congrArg some (List.append_nil _).symm) (List.forall_mem_nil _)
  | cons message messages ih =>
    obtain ⟨w, hw, hexpand⟩ := Option.bind_eq_some_iff.mp hexpand
    obtain ⟨rest', hrest'⟩ := expandMessages_append hexpand
    rw [List.append_assoc] at hrest'
    obtain rfl := List.append_cancel_left hrest'
    rw [← List.append_assoc] at hexpand
    have hdeclared : classes.map CppClass.name ++ [message.name] ⊆ names := fun name hname =>
      hnames (by simp only [List.map_cons, List.mem_append, List.mem_cons] at hname ⊢; tauto)
    have hsub := names_of_entries hclasses
    have hheader : (⟨memberNames message.fields, classes.map CppClass.name ++ [message.name], classes⟩ : CppScope).Agrees
        layouts := ⟨hclasses, hsub ▸ List.subset_append_left _ _⟩
    have hsource : (⟨memberNames message.fields, names, classes⟩ : CppScope).Agrees layouts :=
      ⟨hclasses, hsub ▸ fun _ hname => hdeclared (List.mem_append_left _ hname)⟩
    have hstruct := compileStruct_iff hheader hsource rfl hdeclared hw (hdistinct message List.mem_cons_self)
      message.name (message.getHashCode TypeDefinition.getHashCode)
    have hclasses' : (classes ++ [message.cppClass w]).map CppClass.entry = (layouts ++ [(message.name, w)]).map layoutEntry := by
      rw [List.map_append, List.map_append, hclasses]
      rfl
    have hmessages := ih hclasses' hexpand
      (fun name hname => hnames (by simpa [MessageProtocolDefinition.cppClass, CppClass.ofFields] using hname))
      fun m hm => hdistinct m (List.mem_cons_of_mem _ hm)
    rw [List.append_assoc] at hmessages
    rw [List.forall_mem_cons, ← hstruct, ← hmessages]
    change Option.bind (compileStruct _ _ _ _) _ = _ ↔ _
    rw [memberNames_cppField, Option.bind_eq_some_iff]
    constructor
    · rintro ⟨c, hc, hcompile⟩
      obtain ⟨rest', hrest'⟩ := compileMessages_append hcompile
      rw [List.append_assoc] at hrest'
      obtain rfl : message.cppClass w = c := (List.cons.inj (List.append_cancel_left hrest')).1
      exact ⟨hc, hcompile⟩
    · rintro ⟨hc, hcompile⟩
      exact ⟨_, hc, hcompile⟩

/-- The requests are compiled to what they mean exactly if their types have no hidden names. -/
theorem compileRequests_iff {requests : List RequestProtocolDefinition} {names before : List String}
    {classes : List CppClass} (hclasses : classes.map CppClass.entry = layouts.map layoutEntry)
    {requestLayouts : List RequestLayout} (hexpand : requests.mapM (expandRequest layouts) = some requestLayouts)
    (hbefore : classes.map CppClass.name ⊆ before)
    (hnames : before ++ requests.map RequestProtocolDefinition.name ⊆ names)
    (hdistinct : ∀ request ∈ requests, FieldsDistinct request.requestFields ∧ FieldsDistinct request.responseFields) :
    compileRequests names classes before (generateRequests requests)
        (requests.map fun request => (generateRequestMetadataDefinition request, generateResponseMetadataDefinition request)) =
        some (List.zipWith (fun request layout =>
          (request.cppClass layout.request, request.responseCppClass layout.response)) requests requestLayouts) ↔
      ∀ request ∈ requests, FieldsClear request.requestMembers names request.requestFields ∧
        FieldsClear (request.requestMembers ++ memberNames request.responseFields) names request.responseFields := by
  induction requests generalizing before requestLayouts with
  | nil =>
    cases hexpand
    exact iff_of_true rfl (List.forall_mem_nil _)
  | cons request requests ih =>
    rw [List.mapM_cons] at hexpand
    obtain ⟨layout, hlayout, hexpand⟩ := Option.bind_eq_some_iff.mp hexpand
    obtain ⟨rest, hrest, hlayouts⟩ := Option.bind_eq_some_iff.mp hexpand
    cases hlayouts
    obtain ⟨w, hw, hlayout⟩ := Option.bind_eq_some_iff.mp hlayout
    obtain ⟨w', hw', hlayout⟩ := Option.bind_eq_some_iff.mp hlayout
    cases hlayout
    obtain ⟨hrequestDistinct, hresponseDistinct⟩ := hdistinct request List.mem_cons_self
    have hdeclared : before ++ [request.name] ⊆ names := fun name hname =>
      hnames (by simp only [List.map_cons, List.mem_append, List.mem_cons] at hname ⊢; tauto)
    have hsub : layouts.map Prod.fst ⊆ before ++ [request.name] := by
      rw [names_of_entries hclasses]
      exact fun name hname => List.mem_append_left _ (hbefore hname)
    have hagrees : ∀ members declared, before ++ [request.name] ⊆ declared →
        (⟨members, declared, classes⟩ : CppScope).Agrees layouts :=
      fun _ _ hall => ⟨hclasses, fun _ hname => hall (hsub hname)⟩
    have hrequest := compileStruct_iff (hagrees request.requestMembers _ (List.Subset.refl _))
      (hagrees _ _ hdeclared) rfl hdeclared hw hrequestDistinct request.name
      (request.getRequestHashCode TypeDefinition.getHashCode)
    have hresponse := compileStruct_iff
      (hagrees (request.requestMembers ++ memberNames request.responseFields) _ (List.Subset.refl _))
      (hagrees _ _ hdeclared) rfl hdeclared hw' hresponseDistinct (responseName request.name)
      (request.getResponseHashCode TypeDefinition.getHashCode)
    have hbefore' : classes.map CppClass.name ⊆ before ++ [request.name] := fun _ hname =>
      List.mem_append_left _ (hbefore hname)
    have hrequests := ih hrest hbefore' (fun name hname => hnames (by simpa using hname)) fun r hr => hdistinct r (List.mem_cons_of_mem _ hr)
    rw [List.forall_mem_cons, ← hrequest, ← hresponse, ← hrequests]
    change Option.bind (compileStruct _ _ _ _) _ = _ ↔ _
    rw [memberNames_cppField, Option.bind_eq_some_iff]
    constructor
    · rintro ⟨c, hc, hcompile⟩
      obtain ⟨c', hc', hcompile⟩ := Option.bind_eq_some_iff.mp hcompile
      obtain ⟨classes', hclasses', heq⟩ := Option.bind_eq_some_iff.mp hcompile
      cases heq
      rw [memberNames_cppField] at hc'
      exact ⟨⟨hc, hc'⟩, hclasses'⟩
    · rintro ⟨⟨hc, hc'⟩, hrequests⟩
      refine ⟨_, hc, Option.bind_eq_some_iff.mpr ⟨_, ?_, Option.bind_eq_some_iff.mpr ⟨_, hrequests, rfl⟩⟩⟩
      rw [memberNames_cppField]
      exact hc'

omit [Ballotin] [Hashing ProtocolIdentifier] in
theorem header_names (protocol : ProtocolDefinition) : (generateProtocolCppHeader protocol).names = protocol.names := by
  simp [CppHeader.names, generateProtocolCppHeader, generateMessages, generateRequests, ProtocolDefinition.names,
    Function.comp_def]

theorem entries_of_declared {messages : List MessageProtocolDefinition} (h : Declared messages layouts) :
    (List.zipWith (fun message layout => message.cppClass layout.2) messages layouts).map CppClass.entry =
      layouts.map layoutEntry := by
  induction h with
  | nil => rfl
  | cons hfirst _ ih =>
    rw [List.zipWith_cons_cons, List.map_cons, List.map_cons, ih, layoutEntry, ← hfirst.1]
    rfl

omit [Ballotin] [Hashing ProtocolIdentifier] in
theorem Declared.names {layouts : MessageLayouts} {messages : List MessageProtocolDefinition}
    (h : Declared messages layouts) : layouts.map Prod.fst = messages.map MessageProtocolDefinition.name := by
  induction h with
  | nil => rfl
  | cons hfirst _ ih => rw [List.map_cons, List.map_cons, ih, hfirst.1]

/-- What the generator writes can be compiled: the names in its types are not hidden, the templates can be filled in, and
nothing in the included files is in the way. -/
structure ProtocolDefinition.Compiles (accepts : CppHeader → CppSource → Bool) (protocol : ProtocolDefinition) : Prop where
  names : protocol.NamesClear
  templates : (generateProtocolCppHeader protocol).FitsTemplates
  rest : accepts (generateProtocolCppHeader protocol) (generateProtocolCppSource protocol) = true

/-- The program of a well-formed schema is what it means exactly if it can be compiled. -/
theorem compile_iff (accepts : CppHeader → CppSource → Bool) {protocol : ProtocolDefinition} {layout : ProtocolLayout}
    (hlayout : LayoutAgrees protocol layout) (hwellFormed : protocol.WellFormed) :
    compile accepts (generateProtocolCppHeader protocol) (generateProtocolCppSource protocol) =
      some (protocol.cppProgram layout) ↔ protocol.Compiles accepts := by
  obtain ⟨messages, hmessages, hexpand⟩ := Option.bind_eq_some_iff.mp hlayout.expand
  obtain ⟨requests, hrequests, heq⟩ := Option.bind_eq_some_iff.mp hexpand
  cases heq
  have hnames : (generateProtocolCppHeader protocol).names.Nodup := by
    rw [header_names]
    exact ProtocolDefinition.names_nodup_iff.mpr ⟨hwellFormed.messageNames, hwellFormed.requestNames, hwellFormed.disjoint⟩
  have hdeclared := hlayout.messages
  have hnone : ([] : List CppClass).map CppClass.entry = ([] : MessageLayouts).map layoutEntry := rfl
  have hmessageNames : ([] : List CppClass).map CppClass.name ++ protocol.messages.map MessageProtocolDefinition.name ⊆
      protocol.names := fun name hname => List.mem_append_left _ hname
  have hmessagesIff := compileMessages_iff hnone hmessages hmessageNames hwellFormed.fields.messages
  have hentries := entries_of_declared hdeclared
  have hclassNames := names_of_entries hentries
  rw [hdeclared.names] at hclassNames
  have hallNames : (List.zipWith (fun message layout => message.cppClass layout.2) protocol.messages messages).map
      CppClass.name ++ protocol.requests.map RequestProtocolDefinition.name ⊆ protocol.names := by
    rw [← hclassNames]
    exact List.Subset.refl _
  have hrequestsIff := compileRequests_iff hentries hrequests (List.Subset.refl _) hallNames hwellFormed.fields.requests
  rw [compile]
  constructor
  · intro hcompiled
    split_ifs at hcompiled with hchecked
    obtain ⟨-, -, -, htemplates, hrest⟩ := hchecked
    rw [header_names] at hcompiled
    obtain ⟨classes, hclasses, hcompile⟩ := Option.bind_eq_some_iff.mp hcompiled
    obtain ⟨requestClasses, hrequestClasses, heq⟩ := Option.bind_eq_some_iff.mp hcompile
    cases heq
    exact ⟨⟨hmessagesIff.mp hclasses, hrequestsIff.mp hrequestClasses⟩, htemplates, hrest⟩
  · rintro ⟨hclear, htemplates, hrest⟩
    rw [if_pos ⟨hnames, rfl, rfl, htemplates, hrest⟩, header_names]
    exact Option.bind_eq_some_iff.mpr ⟨_, hmessagesIff.mpr hclear.messages,
      Option.bind_eq_some_iff.mpr ⟨_, hrequestsIff.mpr hclear.requests, rfl⟩⟩

end Programs

end Farseer
