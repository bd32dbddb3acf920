import Farseer.Schema.Identifier

/-! How much of a type its hash code shows: the tag, and neither the name of a referenced message nor
the subtypes, since their hash codes are combined into a result that is discarded. -/

namespace Farseer

open Hashing CollisionFree

/-- The same tag, the same message name and equal subtypes. -/
structure SameType (s t : TypeDefinition) : Prop where
  type : s.getType = t.getType
  name : s.getName = t.getName
  subtypes : s.getSubtypes.map TypeDefinition.written = t.getSubtypes.map TypeDefinition.written

/-- Not two references to different messages, nor two lists of different types, nor two maps with
different keys or values. -/
def ToldApart : TypeDefinition → TypeDefinition → Prop
  | .message name .., .message name' .. => name = name'
  | .list subtype, .list subtype' => subtype.written = subtype'.written
  | .map key value, .map key' value' => key.written = key'.written ∧ value.written = value'.written
  | _, _ => True

theorem SimpleType.toType_inj {s t : SimpleType} (h : s.toType = t.toType) : s = t := by
  cases s <;> cases t <;> first | rfl | cases h

/-- Types with the same tag are the same exactly where they are told apart. -/
theorem sameType_iff {s t : TypeDefinition} (h : s.getType = t.getType) : SameType s t ↔ ToldApart s t := by
  cases s with
  | simple s =>
    cases t with
    | simple t =>
      obtain rfl := SimpleType.toType_inj h
      exact iff_of_true ⟨rfl, rfl, rfl⟩ trivial
    | message | list | map => cases s <;> cases h
  | message name =>
    cases t with
    | message name' => exact ⟨fun hsame => hsame.name, fun hname => ⟨rfl, hname, rfl⟩⟩
    | simple t => cases t <;> cases h
    | list | map => cases h
  | list subtype =>
    cases t with
    | list subtype' =>
      refine ⟨fun hsame => ?_, fun heq => ⟨rfl, rfl, congrArg (fun type => [type]) heq⟩⟩
      exact List.singleton_inj.mp hsame.subtypes
    | simple t => cases t <;> cases h
    | message | map => cases h
  | map key value =>
    cases t with
    | map key' value' =>
      constructor
      · intro hsame
        obtain ⟨hkey, hvalue⟩ := List.cons_eq_cons.mp hsame.subtypes
        exact ⟨hkey, List.singleton_inj.mp hvalue⟩
      · rintro ⟨hkey, hvalue⟩
        refine ⟨rfl, rfl, ?_⟩
        simp [TypeDefinition.getSubtypes, hkey, hvalue]
    | simple t => cases t <;> cases h
    | message | list => cases h

theorem toldApart_of_ne {s t : TypeDefinition} (h : s.getType ≠ t.getType) : ToldApart s t := by
  cases s <;> cases t <;> trivial

section Identifiers

variable {H : Type} [Hashing H] [CollisionFree H] {typeHash : TypeDefinition → H}

/-- Between the same fields, a field changes the fold exactly if its hash code changes. -/
theorem foldFields_replace {fileNamespace name : String} {before after : List FieldDefinition}
    {f g : FieldDefinition} :
    foldFields typeHash fileNamespace name (before ++ f :: after) =
      foldFields typeHash fileNamespace name (before ++ g :: after) ↔
      f.getHashCode typeHash = g.getHashCode typeHash := by
  induction after using List.reverseRecOn with
  | nil =>
    rw [foldFields_concat, foldFields_concat]
    exact ⟨fun h => (hashCombine_inj h).2, fun h => by rw [h]⟩
  | append_singleton after last ih =>
    rw [← List.cons_append, ← List.cons_append, ← List.append_assoc, ← List.append_assoc, foldFields_concat,
      foldFields_concat, ← ih]
    exact ⟨fun h => (hashCombine_inj h).1, fun h => by rw [h]⟩

theorem fieldHash_replace {s t : TypeDefinition} {name : String} :
    ({ typeDefinition := s, name := name } : FieldDefinition).getHashCode typeHash =
      ({ typeDefinition := t, name := name } : FieldDefinition).getHashCode typeHash ↔ typeHash s = typeHash t :=
  ⟨fun h => (hashCombine_inj h).1, fun h => congrArg (hashCombine · (ofString name)) h⟩

end Identifiers

/-- The hash code of a type is that of its tag. -/
theorem typeHash_eq_iff {H : Type} [Hashing H] (hofType : Function.Injective (ofType : SchemaType → H))
    {s t : TypeDefinition} : (s.getHashCode : H) = t.getHashCode ↔ s.getType = t.getType :=
  hofType.eq_iff

/-- Equal hash codes mean the same type, and so do equal identifiers of messages that differ in the type
of one field, exactly if the types are told apart by their tags. -/
theorem typeHash_sameType_iff {H : Type} [Hashing H] [CollisionFree H]
    (hofType : Function.Injective (ofType : SchemaType → H)) (s t : TypeDefinition) :
    (((s.getHashCode : H) = t.getHashCode → SameType s t) ↔ ToldApart s t) ∧
    ∀ (fileNamespace name fieldName : String) (before after : List FieldDefinition),
      ((({ fileNamespace, name, fields := before ++ { typeDefinition := s, name := fieldName } :: after } :
            MessageProtocolDefinition).getHashCode TypeDefinition.getHashCode : H) =
          ({ fileNamespace, name, fields := before ++ { typeDefinition := t, name := fieldName } :: after } :
            MessageProtocolDefinition).getHashCode TypeDefinition.getHashCode → SameType s t) ↔ ToldApart s t := by
  have hhash : (((s.getHashCode : H) = t.getHashCode → SameType s t) ↔ ToldApart s t) := by
    rw [typeHash_eq_iff hofType]
    by_cases htype : s.getType = t.getType
    · rw [← sameType_iff htype]
      exact ⟨fun h => h htype, fun h _ => h⟩
    · exact iff_of_true (fun h => absurd h htype) (toldApart_of_ne htype)
  refine ⟨hhash, fun fileNamespace name fieldName before after => ?_⟩
  rw [← hhash]
  exact imp_congr_left (foldFields_replace.trans fieldHash_replace)

/-- A list of numbers and a list of strings share their hash code. -/
theorem typeHash_collides :
    Function.Injective (ofType : SchemaType → SymbolicHash) ∧
    ¬ ∀ s t : TypeDefinition, (s.getHashCode : SymbolicHash) = t.getHashCode → SameType s t := by
  refine ⟨fun _ _ h => SymbolicHash.ofType.inj h, fun h => ?_⟩
  have hsame := h (.fromList (.simple .i32)) (.fromList (.simple .string)) rfl
  exact absurd hsame.subtypes (by decide)

/-- Two references to the same message are told apart, whatever sizes they cached. -/
theorem typeHash_reference :
    ((TypeDefinition.fromMessage "Ping" true 32).getHashCode : SymbolicHash) =
        (TypeDefinition.fromMessage "Ping" true 64).getHashCode ∧
      SameType (.fromMessage "Ping" true 32) (.fromMessage "Ping" true 64) := by
  have hofType : Function.Injective (ofType : SchemaType → SymbolicHash) := fun _ _ h => SymbolicHash.ofType.inj h
  have htold := (typeHash_sameType_iff hofType (.fromMessage "Ping" true 32) (.fromMessage "Ping" true 64)).1
  exact ⟨rfl, htold.mpr rfl rfl⟩

end Farseer
