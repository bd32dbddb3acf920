import Farseer.Schema.Definition

/-! `validateProtocolDefinition`, with its queue over the nodes of a type tree. -/

namespace Farseer

/-- The number of nodes of a type tree. -/
def TypeDefinition.size : TypeDefinition → ℕ
  | .simple _ | .message .. => 1
  | .list subtype => subtype.size + 1
  | .map key value => key.size + value.size + 1

/-- The check made at one entry of the queue. -/
def validateReference (messageNames : Finset String) (protocolName : String)
    (type : TypeDefinition) : Except Exception Unit :=
  if type.getType = .message then
    if protocolName = type.getName then
      throw (.protocolFieldSelfReferenceError
        ("protocol " ++ protocolName ++ " field cannot reference itself"))
    else if type.getName ∉ messageNames then
      throw (.messageNameNotDefinedError ("the name " ++ type.getName ++ " was not defined"))
    else pure ()
  else pure ()

/-- The loop over the queue, from its current index on. An entry appends its subtypes, so the
loop takes as many turns as the queued trees have nodes, which is the fuel it is given. -/
def validateQueue (messageNames : Finset String) (protocolName : String) :
    ℕ → List TypeDefinition → Except Exception Unit
  | _, [] => pure ()
  | 0, _ :: _ => throw .outOfFuel
  | fuel + 1, type :: queue => do
    validateReference messageNames protocolName type
    validateQueue messageNames protocolName fuel (queue ++ type.getSubtypes)

def validateTypeDefinition (messageNames : Finset String) (protocolName : String)
    (type : TypeDefinition) : Except Exception Unit :=
  validateQueue messageNames protocolName type.size [type]

/-- The loop of `validateFieldDefinitions`, with the field names met so far. -/
def validateFieldDefinitionsFrom (messageNames : Finset String) (protocolName : String) :
    List FieldDefinition → Finset String → Except Exception Unit
  | [], _ => pure ()
  | field :: fields, fieldNames => do
    validateTypeDefinition messageNames protocolName field.typeDefinition
    if field.name ∈ fieldNames then
      throw (.duplicateFieldNameError
        ("the field name " ++ field.name ++ " is already used by another field"))
    else
      validateFieldDefinitionsFrom messageNames protocolName fields (insert field.name fieldNames)

def validateFieldDefinitions (fields : List FieldDefinition) (messageNames : Finset String)
    (protocolName : String) : Except Exception Unit :=
  validateFieldDefinitionsFrom messageNames protocolName fields ∅

/-- Returns the names that `validateMessageDefinitions` leaves in its out parameter. -/
def validateMessageDefinitions : List MessageProtocolDefinition → Finset String →
    Except Exception (Finset String)
  | [], messageNames => pure messageNames
  | message :: messages, messageNames =>
    if message.name ∈ messageNames then
      throw (.duplicateProtocolNameError
        ("the protocol name " ++ message.name ++ " is already used by another protocol"))
    else do
      let messageNames := insert message.name messageNames
      validateFieldDefinitions message.fields messageNames message.name
      validateMessageDefinitions messages messageNames

/-- The loop of `validateRequestDefinitions`, with the request names met so far. -/
def validateRequestDefinitionsFrom (messageNames : Finset String) :
    List RequestProtocolDefinition → Finset String → Except Exception Unit
  | [], _ => pure ()
  | request :: requests, requestNames =>
    if request.name ∈ messageNames ∨ request.name ∈ requestNames then
      throw (.duplicateProtocolNameError
        ("the protocol name " ++ request.name ++ " is already used by another protocol"))
    else do
      validateFieldDefinitions request.requestFields messageNames request.name
      validateFieldDefinitions request.responseFields messageNames request.name
      validateRequestDefinitionsFrom messageNames requests (insert request.name requestNames)

def validateRequestDefinitions (requests : List RequestProtocolDefinition)
    (messageNames : Finset String) : Except Exception Unit :=
  validateRequestDefinitionsFrom messageNames requests ∅

def validateProtocolDefinition (protocol : ProtocolDefinition) : Except Exception Unit := do
  let messageNames ← validateMessageDefinitions protocol.messages ∅
  validateRequestDefinitions protocol.requests messageNames

def TypeDefinition.references : TypeDefinition → List String
  | .simple _ => []
  | .message name .. => [name]
  | .list subtype => subtype.references
  | .map key value => key.references ++ value.references

theorem validateReference_ok_iff (names : Finset String) (p : String) (t : TypeDefinition) :
    validateReference names p t = .ok () ↔
      (t.getType = .message → p ≠ t.getName ∧ t.getName ∈ names) := by
  unfold validateReference
  split_ifs with h1 h2 h3 <;> simp_all [pure, Except.pure]

theorem references_eq (t : TypeDefinition) :
    t.references = (if t.getType = .message then [t.getName] else []) ++
      t.getSubtypes.flatMap TypeDefinition.references := by
  cases t with
  | simple type => cases type <;> rfl
  | message => rfl
  | list => simp [TypeDefinition.references, TypeDefinition.getType, TypeDefinition.getSubtypes]
  | map => simp [TypeDefinition.references, TypeDefinition.getType, TypeDefinition.getSubtypes]

theorem size_eq (t : TypeDefinition) : t.size = 1 + (t.getSubtypes.map TypeDefinition.size).sum := by
  cases t <;> simp [TypeDefinition.size, TypeDefinition.getSubtypes] <;> omega

theorem bind_unit_ok_iff {ε : Type} {x : Except ε Unit} {f : Unit → Except ε Unit} :
    (x >>= f) = .ok () ↔ x = .ok () ∧ f () = .ok () := by
  cases x <;> simp [bind, Except.bind]

/-- Given the fuel of its trees, the queue visits every node. -/
theorem validateQueue_ok_iff (names : Finset String) (p : String) (fuel : ℕ)
    (queue : List TypeDefinition) (hfuel : (queue.map TypeDefinition.size).sum ≤ fuel) :
    validateQueue names p fuel queue = .ok () ↔
      ∀ t ∈ queue, ∀ n ∈ t.references, p ≠ n ∧ n ∈ names := by
  induction fuel generalizing queue with
  | zero =>
    cases queue with
    | nil => simp [validateQueue, pure, Except.pure]
    | cons t queue =>
      rw [List.map_cons, List.sum_cons, size_eq] at hfuel
      omega
  | succ fuel ih =>
    cases queue with
    | nil => simp [validateQueue, pure, Except.pure]
    | cons t queue =>
      have hrest : ((queue ++ t.getSubtypes).map TypeDefinition.size).sum ≤ fuel := by
        rw [List.map_cons, List.sum_cons, size_eq] at hfuel
        rw [List.map_append, List.sum_append]
        omega
      rw [validateQueue, bind_unit_ok_iff, validateReference_ok_iff, ih _ hrest]
      constructor
      · rintro ⟨hnode, hqueue⟩ u hu n hn
        rcases List.mem_cons.mp hu with rfl | hu
        · rw [references_eq, List.mem_append] at hn
          rcases hn with hn | hn
          · split_ifs at hn with hm
            · rw [List.mem_singleton.mp hn]
              exact hnode hm
            · simp at hn
          · obtain ⟨s, hs, hn⟩ := List.mem_flatMap.mp hn
            exact hqueue s (List.mem_append_right _ hs) n hn
        · exact hqueue u (List.mem_append_left _ hu) n hn
      · intro h
        refine ⟨fun hm => h t (by simp) _ (by rw [references_eq, if_pos hm]; simp), fun u hu n hn => ?_⟩
        rcases List.mem_append.mp hu with hu | hu
        · exact h u (by simp [hu]) n hn
        · refine h t (by simp) n ?_
          rw [references_eq]
          exact List.mem_append_right _ (List.mem_flatMap.mpr ⟨u, hu, hn⟩)

/-- What validation asks of the type of a field: every name in it is known and is not the
name of the enclosing protocol. -/
def ReferencesValid (names : Finset String) (p : String) (t : TypeDefinition) : Prop :=
  ∀ n ∈ t.references, p ≠ n ∧ n ∈ names

theorem validateTypeDefinition_ok_iff (names : Finset String) (p : String) (t : TypeDefinition) :
    validateTypeDefinition names p t = .ok () ↔ ReferencesValid names p t := by
  rw [validateTypeDefinition, validateQueue_ok_iff _ _ _ _ (by simp)]
  simp [ReferencesValid]

structure FieldsValid (names : Finset String) (p : String) (fields : List FieldDefinition) : Prop where
  references : ∀ f ∈ fields, ReferencesValid names p f.typeDefinition
  distinct : (fields.map FieldDefinition.name).Nodup

theorem guard_ok_iff {ε : Type} {c : Prop} [Decidable c] {e : ε} {x : Except ε Unit} :
    (if c then throw e else x) = .ok () ↔ ¬ c ∧ x = .ok () := by
  split_ifs with h
  · simp [h]
  · simp [h]

theorem validateFieldDefinitionsFrom_ok_iff (names : Finset String) (p : String)
    (fields : List FieldDefinition) (seen : Finset String) :
    validateFieldDefinitionsFrom names p fields seen = .ok () ↔
      FieldsValid names p fields ∧ ∀ f ∈ fields, f.name ∉ seen := by
  induction fields generalizing seen with
  | nil => simp [validateFieldDefinitionsFrom, pure, Except.pure, FieldsValid.mk]
  | cons f fields ih =>
    rw [validateFieldDefinitionsFrom, bind_unit_ok_iff, validateTypeDefinition_ok_iff]
    constructor
    · rintro ⟨href, h⟩
      obtain ⟨hnew, h⟩ := guard_ok_iff.mp h
      obtain ⟨⟨hrefs, hnodup⟩, hseen⟩ := (ih _).mp h
      refine ⟨⟨?_, ?_⟩, ?_⟩
      · rintro g (_ | ⟨_, hg⟩)
        · exact href
        · exact hrefs g hg
      · refine List.nodup_cons.mpr ⟨fun hmem => ?_, hnodup⟩
        obtain ⟨g, hg, heq⟩ := List.mem_map.mp hmem
        exact hseen g hg (by rw [heq]; exact Finset.mem_insert_self _ _)
      · rintro g (_ | ⟨_, hg⟩)
        · exact hnew
        · exact fun hs => hseen g hg (Finset.mem_insert_of_mem hs)
    · rintro ⟨⟨hrefs, hnodup⟩, hseen⟩
      rw [List.map_cons, List.nodup_cons] at hnodup
      refine ⟨hrefs f (by simp), guard_ok_iff.mpr ⟨hseen f (by simp), (ih _).mpr ⟨⟨?_, hnodup.2⟩, ?_⟩⟩⟩
      · exact fun g hg => hrefs g (by simp [hg])
      · intro g hg hs
        rcases Finset.mem_insert.mp hs with heq | hs
        · exact hnodup.1 (List.mem_map.mpr ⟨g, hg, heq⟩)
        · exact hseen g (by simp [hg]) hs

theorem validateFieldDefinitions_ok_iff (names : Finset String) (p : String)
    (fields : List FieldDefinition) :
    validateFieldDefinitions fields names p = .ok () ↔ FieldsValid names p fields := by
  rw [validateFieldDefinitions, validateFieldDefinitionsFrom_ok_iff]
  simp

/-- The messages are valid one after the other, each with the names declared before it. -/
def MessagesValid : List MessageProtocolDefinition → Finset String → Prop
  | [], _ => True
  | message :: messages, names =>
    message.name ∉ names ∧ FieldsValid (insert message.name names) message.name message.fields ∧
      MessagesValid messages (insert message.name names)

theorem validateMessageDefinitions_ok_iff (messages : List MessageProtocolDefinition)
    (names out : Finset String) :
    validateMessageDefinitions messages names = .ok out ↔
      MessagesValid messages names ∧ out = names ∪ (messages.map MessageProtocolDefinition.name).toFinset := by
  induction messages generalizing names with
  | nil => simp [validateMessageDefinitions, MessagesValid, pure, Except.pure, eq_comm]
  | cons m messages ih =>
    have hout : insert m.name names ∪ (messages.map MessageProtocolDefinition.name).toFinset =
        names ∪ ((m :: messages).map MessageProtocolDefinition.name).toFinset := by
      rw [List.map_cons, List.toFinset_cons, Finset.insert_union, Finset.union_insert]
    rw [validateMessageDefinitions, MessagesValid, ← hout]
    by_cases hm : m.name ∈ names
    · simp [hm, throw, throwThe, MonadExceptOf.throw]
    · have hfields := validateFieldDefinitions_ok_iff (insert m.name names) m.name m.fields
      cases hv : validateFieldDefinitions m.fields (insert m.name names) m.name with
      | error e =>
        have hnot : ¬ FieldsValid (insert m.name names) m.name m.fields := by
          rw [← hfields, hv]
          simp
        simp [hm, hv, hnot, bind, Except.bind]
      | ok u =>
        have hyes := hfields.mp hv
        simp [hm, hv, hyes, bind, Except.bind, ih]

/-- The requests are valid one after the other, each with the request names before it. -/
def RequestsValid (names : Finset String) : List RequestProtocolDefinition → Finset String → Prop
  | [], _ => True
  | request :: requests, requestNames =>
    request.name ∉ names ∧ request.name ∉ requestNames ∧
      FieldsValid names request.name request.requestFields ∧
      FieldsValid names request.name request.responseFields ∧
      RequestsValid names requests (insert request.name requestNames)

theorem validateRequestDefinitionsFrom_ok_iff (names : Finset String)
    (requests : List RequestProtocolDefinition) (seen : Finset String) :
    validateRequestDefinitionsFrom names requests seen = .ok () ↔ RequestsValid names requests seen := by
  induction requests generalizing seen with
  | nil => simp [validateRequestDefinitionsFrom, RequestsValid, pure, Except.pure]
  | cons r requests ih =>
    rw [validateRequestDefinitionsFrom, guard_ok_iff, bind_unit_ok_iff, bind_unit_ok_iff,
      validateFieldDefinitions_ok_iff, validateFieldDefinitions_ok_iff, ih, RequestsValid, not_or, and_assoc]

theorem validateProtocolDefinition_ok_iff (protocol : ProtocolDefinition) :
    validateProtocolDefinition protocol = .ok () ↔
      MessagesValid protocol.messages ∅ ∧
        RequestsValid (protocol.messages.map MessageProtocolDefinition.name).toFinset protocol.requests ∅ := by
  rw [validateProtocolDefinition]
  cases hm : validateMessageDefinitions protocol.messages ∅ with
  | error e =>
    have hnot : ¬ MessagesValid protocol.messages ∅ := fun h => by
      rw [(validateMessageDefinitions_ok_iff _ _ _).mpr ⟨h, rfl⟩] at hm
      cases hm
    simp [bind, Except.bind, hnot]
  | ok out =>
    obtain ⟨hvalid, rfl⟩ := (validateMessageDefinitions_ok_iff _ _ _).mp hm
    simp [bind, Except.bind, hvalid, validateRequestDefinitions, validateRequestDefinitionsFrom_ok_iff]

/-- The exceptions that are about the definition. -/
def Exception.isInvalidDefinition : Exception → Bool
  | .duplicateProtocolNameError _ | .duplicateFieldNameError _ | .protocolFieldSelfReferenceError _
  | .messageNameNotDefinedError _ => true
  | _ => false

/-- What is thrown is about the definition; in particular no loop runs out of fuel. -/
def Refuses {α : Type} (r : Except Exception α) : Prop := ∀ e, r = .error e → e.isInvalidDefinition = true

namespace Refuses

variable {α β : Type}

theorem pure (a : α) : Refuses (Pure.pure a) := nofun

theorem throw {e : Exception} (h : e.isInvalidDefinition = true) :
    Refuses (MonadExcept.throw e : Except Exception α) := by
  rintro e' ⟨⟩
  exact h

theorem bind {r : Except Exception α} {f : α → Except Exception β} (h : Refuses r) (h' : ∀ a, Refuses (f a)) :
    Refuses (r >>= f) := by
  cases r with
  | ok a => exact h' a
  | error e =>
    rintro e' ⟨⟩
    exact h e rfl

end Refuses

theorem validateReference_refuses (messageNames : Finset String) (protocolName : String) (type : TypeDefinition) :
    Refuses (validateReference messageNames protocolName type) := by
  unfold validateReference
  split_ifs
  · exact .throw rfl
  · exact .pure _
  · exact .throw rfl
  · exact .pure _

theorem validateQueue_refuses (messageNames : Finset String) (protocolName : String) (fuel : ℕ)
    (queue : List TypeDefinition) (hfuel : (queue.map TypeDefinition.size).sum ≤ fuel) :
    Refuses (validateQueue messageNames protocolName fuel queue) := by
  induction fuel generalizing queue with
  | zero =>
    cases queue with
    | nil => exact .pure _
    | cons type queue =>
      rw [List.map_cons, List.sum_cons, size_eq] at hfuel
      omega
  | succ fuel ih =>
    cases queue with
    | nil => exact .pure _
    | cons type queue =>
      refine (validateReference_refuses _ _ _).bind fun _ => ih _ ?_
      rw [List.map_cons, List.sum_cons, size_eq] at hfuel
      rw [List.map_append, List.sum_append]
      omega

theorem validateFieldDefinitionsFrom_refuses (messageNames : Finset String) (protocolName : String)
    (fields : List FieldDefinition) (fieldNames : Finset String) :
    Refuses (validateFieldDefinitionsFrom messageNames protocolName fields fieldNames) := by
  induction fields generalizing fieldNames with
  | nil => exact .pure _
  | cons field fields ih =>
    refine (validateQueue_refuses _ _ _ _ (by simp)).bind fun _ => ?_
    split_ifs
    · exact .throw rfl
    · exact ih _

theorem validateMessageDefinitions_refuses (messages : List MessageProtocolDefinition) (messageNames : Finset String) :
    Refuses (validateMessageDefinitions messages messageNames) := by
  induction messages generalizing messageNames with
  | nil => exact .pure _
  | cons message messages ih =>
    unfold validateMessageDefinitions
    split_ifs
    · exact .throw rfl
    · exact (validateFieldDefinitionsFrom_refuses _ _ _ _).bind fun _ => ih _

theorem validateRequestDefinitionsFrom_refuses (messageNames : Finset String)
    (requests : List RequestProtocolDefinition) (requestNames : Finset String) :
    Refuses (validateRequestDefinitionsFrom messageNames requests requestNames) := by
  induction requests generalizing requestNames with
  | nil => exact .pure _
  | cons request requests ih =>
    unfold validateRequestDefinitionsFrom
    split_ifs
    · exact .throw rfl
    · refine (validateFieldDefinitionsFrom_refuses _ _ _ _).bind fun _ => ?_
      exact (validateFieldDefinitionsFrom_refuses _ _ _ _).bind fun _ => ih _

theorem validateProtocolDefinition_refuses (protocol : ProtocolDefinition) :
    Refuses (validateProtocolDefinition protocol) :=
  (validateMessageDefinitions_refuses _ _).bind fun _ => validateRequestDefinitionsFrom_refuses _ _ _

end Farseer
