import Farseer.Schema.Language

/-! The additions of `ProtocolSize` that compute a static size. They are exact while the bits of the
expanded part are fewer than `2 ^ 32`, and a chain of messages, each with two fields of the one before,
reaches that number with 26 declarations. -/

namespace Farseer

/-- The bits of a part fit, no addition that counts them wraps, and the constant in the generated header
is their number. -/
structure StaticBitsFit (fields : List FieldDefinition) (w : WireFields) : Prop where
  bound : w.staticBits ≤ 2 ^ 32 - 1
  additions : ∀ before field after, fields = before ++ field :: after →
    (fieldsStaticNumberOfBits before).toNat + field.getStaticNumberOfBits.toNat < 2 ^ 32
  constant : (fieldsStaticNumberOfBits fields).toNat = w.staticBits

theorem fieldsStaticNumberOfBits_toNat (fields : List FieldDefinition) :
    (fieldsStaticNumberOfBits fields).toNat =
      (fields.map fun field => field.getStaticNumberOfBits.toNat).sum % 2 ^ 32 := by
  rw [fieldsStaticNumberOfBits, staticBits_foldl]
  simp

/-- The cached sizes count no more bits than the expansion has. -/
theorem sum_le_staticBits {layouts : MessageLayouts} {fields : List FieldDefinition} {w : WireFields}
    (h : ∀ f ∈ fields, f.typeDefinition.Resolved layouts) (hw : expandFields layouts fields = some w)
    (hstatic : w.isStatic = true) :
    (fields.map fun field => field.getStaticNumberOfBits.toNat).sum ≤ w.staticBits := by
  induction fields generalizing w with
  | nil =>
    cases hw
    exact le_rfl
  | cons f fields ih =>
    simp only [expandFields, Option.bind_eq_bind, Option.bind_eq_some_iff] at hw
    obtain ⟨head, hhead, tail, htail, hw⟩ := hw
    cases hw
    obtain ⟨head', hhead', hsizes⟩ := expandType_of_resolved (h f List.mem_cons_self)
    obtain rfl := Option.some_inj.mp (hhead'.symm.trans hhead)
    rw [WireFields.isStatic, Bool.and_eq_true] at hstatic
    have hfirst : f.getStaticNumberOfBits.toNat ≤ head'.staticBits :=
      (hsizes.bits hstatic.1).trans_le (Nat.mod_le _ _)
    have hrest := ih (fun g hg => h g (List.mem_cons_of_mem _ hg)) htail hstatic.2
    rw [List.map_cons, List.sum_cons, WireFields.staticBits]
    exact Nat.add_le_add hfirst hrest

/-- Where the bits fit, every addition is exact. -/
theorem staticBitsFit_of_lt {layouts : MessageLayouts} {fields : List FieldDefinition} {w : WireFields}
    (h : ∀ f ∈ fields, f.typeDefinition.Resolved layouts) (hw : expandFields layouts fields = some w)
    (hsizes : SizesAgree w.isStatic w.staticBits (fieldsHaveStaticSize fields) (fieldsStaticNumberOfBits fields))
    (hstatic : w.isStatic = true) (hlt : w.staticBits < 2 ^ 32) : StaticBitsFit fields w := by
  have hsum := sum_le_staticBits h hw hstatic
  refine ⟨by omega, ?_, by rw [hsizes.bits hstatic, Nat.mod_eq_of_lt hlt]⟩
  rintro before field after rfl
  rw [List.map_append, List.map_cons, List.sum_append, List.sum_cons] at hsum
  rw [fieldsStaticNumberOfBits_toNat, Nat.mod_eq_of_lt (by omega)]
  omega

/-- In an accepted schema, the static size of a part is computed without wrapping exactly if the expanded
part has fewer than `2 ^ 32` bits. -/
theorem staticBitsFit_iff {glyph : String → Except Exception (List Node)} {text : String}
    {protocol : ProtocolDefinition} (h : parseProtocolDefinition glyph text = .ok protocol) :
    ∃ layout, protocol.expand = some layout ∧ ∀ fields ∈ protocol.parts, fieldsHaveStaticSize fields = true →
      ∃ w, expandFields layout.messages fields = some w ∧ (StaticBitsFit fields w ↔ w.staticBits < 2 ^ 32) := by
  obtain ⟨layout, hlayout⟩ := accepted_layout h
  refine ⟨layout, hlayout.expand, fun fields hfields hstatic => ?_⟩
  have hresolved := accepted_resolved h hlayout.expand hfields
  obtain ⟨w, hw, hsizes⟩ := accepted_parts h hlayout.expand hfields
  refine ⟨w, hw, fun hfit => ?_, fun hlt => ?_⟩
  · have hbound := hfit.bound
    omega
  · exact staticBitsFit_of_lt hresolved hw hsizes (hsizes.static.symm.trans hstatic) hlt

/-! A chain of messages. The first has two numbers of 64 bits, each other one two fields of the one
before it, and the last one `2 ^ 32` bits. -/

def doublingName (i : ℕ) : List Char := ['M', 's', Char.ofNat (65 + i)]

def doublingType (i : ℕ) : List Char := if i = 0 then ['u', '6', '4'] else doublingName (i - 1)

def doublingMessage (i : ℕ) : List Char :=
  "message ".toList ++ doublingName i ++ ['{'] ++ doublingType i ++ [' ', 'a', ';'] ++ doublingType i ++
    [' ', 'b', ';', '}']

def doublingChars : List Char := "namespace a.b;".toList ++ (List.range 26).flatMap doublingMessage

def doublingText : String := String.ofList doublingChars

/-- The nodes of a type and a name that start at an index of the text, in a message of the chain. -/
def doublingTypeNodes (i index : ℕ) : List Node :=
  if i = 0 then [.token ⟨.u64, index, index + 3⟩, .rule 14] else [.token ⟨.name, index, index + 3⟩, .rule 19]

def doublingNameNodes (index : ℕ) : List Node :=
  [.token ⟨.name, index, index + 1⟩, .token ⟨.semicolon, index + 1, index + 2⟩, .rule 9]

def doublingFieldsNodes (i index : ℕ) : List Node :=
  [.rule 10] ++ doublingTypeNodes i index ++ doublingNameNodes (index + 4) ++ doublingTypeNodes i (index + 6) ++
    doublingNameNodes (index + 10)

def doublingOpeningNodes (index : ℕ) : List Node :=
  [.token ⟨.message, index, index + 7⟩, .token ⟨.name, index + 8, index + 11⟩,
    .token ⟨.bracesBegin, index + 11, index + 12⟩]

def doublingClosingNodes (index : ℕ) : List Node := [.token ⟨.bracesEnd, index, index + 1⟩, .rule 6]

def doublingMessagesNodes : ℕ → List Node
  | 0 => [.rule 5]
  | i + 1 => doublingMessagesNodes i ++
    (doublingOpeningNodes (14 + 25 * i) ++ doublingFieldsNodes i (14 + 25 * i + 12) ++
      doublingClosingNodes (14 + 25 * i + 24)) ++ [.rule 3]

def doublingNamespaceNodes : List Node :=
  [.token ⟨.namespace, 0, 9⟩, .token ⟨.module, 10, 13⟩, .token ⟨.semicolon, 13, 14⟩, .rule 2]

def doublingNodes : List Node := doublingNamespaceNodes ++ doublingMessagesNodes 26 ++ [.rule 1, .rule 0]

def doublingTypeSyntax (i : ℕ) : TypeSyntax :=
  if i = 0 then .simple .u64 else .reference (String.ofList (doublingName (i - 1)))

def doublingFields (i : ℕ) : List FieldSyntax :=
  [{ type := doublingTypeSyntax i, name := "a" }, { type := doublingTypeSyntax i, name := "b" }]

def doublingSyntax (i : ℕ) : DefinitionSyntax := .message (String.ofList (doublingName i)) (doublingFields i)

def doublingProtocol : ProtocolSyntax where
  fileNamespace := "a.b"
  definitions := (List.range 26).map doublingSyntax

def doubledFields : List FieldDefinition :=
  [{ typeDefinition := .message "MsY" true (2 ^ 31), name := "a" },
    { typeDefinition := .message "MsY" true (2 ^ 31), name := "b" }]

theorem doubling_parts : doubledFields ∈ doublingProtocol.definition.parts := by
  decide +kernel

theorem doublingToken (symbol : Symbol) (index n : ℕ) :
    getTokenText doublingText ⟨symbol, index, index + n⟩ = String.ofList ((doublingChars.drop index).take n) := by
  rw [getTokenText, doublingText, String.toList_ofList, Nat.add_sub_cancel_left]

/-- What is written in a message of the chain. -/
theorem doublingChars_message : ∀ i < 26,
    (doublingChars.drop (14 + 25 * i + 8)).take 3 = doublingName i ∧
    (doublingChars.drop (14 + 25 * i + 12)).take 3 = doublingType i ∧
    (doublingChars.drop (14 + 25 * i + 16)).take 1 = ['a'] ∧
    (doublingChars.drop (14 + 25 * i + 18)).take 3 = doublingType i ∧
    (doublingChars.drop (14 + 25 * i + 22)).take 1 = ['b'] := by
  decide +kernel

theorem doublingType_read {i index : ℕ} (htype : (doublingChars.drop index).take 3 = doublingType i) :
    ReadsType doublingText (doublingTypeSyntax i) (doublingTypeNodes i index) := by
  unfold doublingTypeSyntax doublingTypeNodes
  split_ifs with hi
  · exact .simple .u64 _ rfl
  · rw [doublingType, if_neg hi] at htype
    rw [← htype, ← doublingToken .name]
    exact .reference _ rfl

theorem doublingMessage_read {i : ℕ} (hi : i < 26) :
    ReadsDefinition doublingText (doublingSyntax i) (doublingOpeningNodes (14 + 25 * i) ++
      doublingFieldsNodes i (14 + 25 * i + 12) ++ doublingClosingNodes (14 + 25 * i + 24)) := by
  obtain ⟨hname, htype, ha, htype', hb⟩ := doublingChars_message i hi
  have hfirst := ReadsFields.field _ _ _ _ ⟨.name, 14 + 25 * i + 16, 14 + 25 * i + 16 + 1⟩
    ⟨.semicolon, 14 + 25 * i + 17, 14 + 25 * i + 18⟩ rfl rfl .nil (doublingType_read htype)
  have hboth := hfirst.field _ _ _ _ ⟨.name, 14 + 25 * i + 22, 14 + 25 * i + 22 + 1⟩
    ⟨.semicolon, 14 + 25 * i + 23, 14 + 25 * i + 24⟩ rfl rfl (doublingType_read htype')
  have hmessage := ReadsDefinition.message _ _ ⟨.message, 14 + 25 * i, 14 + 25 * i + 7⟩
    ⟨.name, 14 + 25 * i + 8, 14 + 25 * i + 8 + 3⟩ ⟨.bracesBegin, 14 + 25 * i + 11, 14 + 25 * i + 12⟩
    ⟨.bracesEnd, 14 + 25 * i + 24, 14 + 25 * i + 25⟩ rfl rfl rfl rfl hboth
  rw [doublingToken, doublingToken, doublingToken, hname, ha, hb] at hmessage
  exact hmessage

theorem doublingMessages_read {n : ℕ} (hn : n ≤ 26) :
    ReadsDefinitions doublingText ((List.range n).map doublingSyntax) (doublingMessagesNodes n) := by
  induction n with
  | zero => exact .nil
  | succ n ih =>
    rw [List.range_succ, List.map_append]
    exact .definition _ _ _ _ (ih (by omega)) (doublingMessage_read (by omega))

theorem doublingNodes_read : ReadsProtocol doublingText doublingProtocol doublingNodes := by
  have hmodule : (doublingChars.drop 10).take 3 = ['a', '.', 'b'] := by decide +kernel
  have hprotocol := ReadsProtocol.protocol _ _ ⟨.namespace, 0, 9⟩ ⟨.module, 10, 10 + 3⟩ ⟨.semicolon, 13, 14⟩ rfl rfl
    rfl (doublingMessages_read le_rfl)
  rw [doublingToken, hmodule] at hprotocol
  exact hprotocol

/-- Every message of the chain refers to the one before it. -/
theorem doublingMessages_checked {n : ℕ} (hn : n ≤ 26) :
    DefinitionsChecked [] ((List.range n).map doublingSyntax) := by
  have hnames : ∀ i < 26, String.ofList (doublingName i) ∉ reservedIdentifierNames := by decide +kernel
  induction n with
  | zero => trivial
  | succ n ih =>
    rw [List.range_succ, List.map_append, List.map_singleton, definitionsChecked_concat]
    refine ⟨ih (by omega), hnames n (by omega), fun part hpart => ?_⟩
    obtain rfl := List.mem_singleton.mp hpart
    have htype : (doublingTypeSyntax n).Checked
        ([] ++ ((List.range n).map doublingSyntax).flatMap DefinitionSyntax.messageNames) := by
      unfold doublingTypeSyntax
      split_ifs with hzero
      · exact ⟨nofun, trivial, nofun⟩
      · refine ⟨fun name hname => ?_, trivial, fun name hname => ?_⟩
        · rw [List.mem_singleton.mp hname]
          exact hnames (n - 1) (by omega)
        · rw [List.mem_singleton.mp hname, List.nil_append]
          refine mem_messageNames.mpr ⟨doublingFields (n - 1), List.mem_map.mpr ⟨n - 1, ?_, rfl⟩⟩
          exact List.mem_range.mpr (by omega)
    rintro field (_ | ⟨_, _ | ⟨_, hfield⟩⟩)
    · exact ⟨htype, (by decide : "a" ∉ reservedIdentifierNames)⟩
    · exact ⟨htype, (by decide : "b" ∉ reservedIdentifierNames)⟩
    · cases hfield

theorem doubling_accepted :
    parseProtocolDefinition (fun _ => .ok doublingNodes) doublingText = .ok doublingProtocol.definition := by
  refine (parseProtocolDefinition_decides rfl doublingNodes_read).ok ((acceptable_iff doublingNodes_read).mpr
    ⟨doublingMessages_checked le_rfl, ?_, fun definition hdefinition part hpart => ?_⟩)
  · decide +kernel
  · obtain ⟨i, -, rfl⟩ := List.mem_map.mp hdefinition
    obtain rfl := List.mem_singleton.mp hpart
    exact (by decide : ["a", "b"].Nodup)

/-- The bits of an accepted schema can be too many for `ProtocolSize`. -/
theorem staticBits_overflow :
    ¬ ∀ (glyph : String → Except Exception (List Node)) (text : String) (protocol : ProtocolDefinition)
      (layout : ProtocolLayout) (fields : List FieldDefinition) (w : WireFields),
      parseProtocolDefinition glyph text = .ok protocol → protocol.expand = some layout → fields ∈ protocol.parts →
      fieldsHaveStaticSize fields = true → expandFields layout.messages fields = some w → StaticBitsFit fields w := by
  intro h
  obtain ⟨layout, hlayout⟩ := accepted_layout doubling_accepted
  obtain ⟨w, hw, hsizes⟩ := accepted_parts doubling_accepted hlayout.expand doubling_parts
  have hfit := h _ _ _ layout doubledFields w doubling_accepted hlayout.expand doubling_parts rfl hw
  have hsum := sum_le_staticBits (accepted_resolved doubling_accepted hlayout.expand doubling_parts) hw
    (hsizes.static.symm.trans rfl)
  -- both fields together have at least `2 ^ 32` bits
  have hbound := hfit.bound
  have htotal : (doubledFields.map fun field => field.getStaticNumberOfBits.toNat).sum = 2 ^ 32 := rfl
  omega

/-- The number and the boolean of a message in a request are counted without wrapping. -/
theorem find_staticBitsFit : StaticBitsFit findFields (.cons (.message (.cons .i32 (.cons .boolean .nil))) .nil) := by
  obtain ⟨layout, hlayout, hparts⟩ := staticBitsFit_iff sampleNodes_accepted
  obtain ⟨w, hw, hfit⟩ := hparts findFields (by decide) rfl
  obtain rfl := Option.some_inj.mp hlayout
  obtain rfl : WireFields.cons (.message (.cons .i32 (.cons .boolean .nil))) .nil = w := Option.some_inj.mp hw
  exact hfit.mpr (by decide)

end Farseer
