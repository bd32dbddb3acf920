import Farseer.Codec.BinarySerialization

/-! The specialisations of `BinarySerializer` implement codecs. `Reads` relates a
`deserialize`, which moves an offset through a byte buffer, to a decoder of the bits from
that offset on; `Writes` and `Rejects` say what a `serialize` does to the bit string that
its buffer holds, whatever that bit string is. -/

namespace Farseer

open BitString

variable {α β T K V : Type}

/-- The buffer that holds a bit string. -/
def Buffer.of (l : List Bool) : Buffer := { bytes := packBits l, bitsOffset := l.length }

/-- From any offset on, the program takes what the decoder takes, and throws where it fails. -/
def Reads (d : List UInt8 → EStateM Exception ℕ α) (dec : Decoder α) : Prop :=
  ∀ bytes k, k ≤ 8 * bytes.length →
    match dec ((bytesToBits bytes).drop k) with
    | some (a, rest) =>
      ∃ k', k' ≤ 8 * bytes.length ∧ (bytesToBits bytes).drop k' = rest ∧ d bytes k = .ok a k'
    | none => ∃ e k', d bytes k = .error e k'

/-- The program appends the bits to any bit string. -/
def Writes (s : EStateM Exception Buffer Unit) (bits : List Bool) : Prop :=
  ∀ l, s (.of l) = .ok () (.of (l ++ bits))

def Rejects (s : EStateM Exception Buffer Unit) : Prop := ∀ l, ∃ e b, s (.of l) = .error e b

/-- A specialisation of `BinarySerializer` implements a codec. -/
structure Implements (s : BinarySerializer T) (c : Codec T) : Prop where
  reads : Reads s.deserialize c.decoder
  writes : ∀ v, c.fits v = true → Writes (s.serialize v) (c.encode v)
  rejects : ∀ v, c.fits v = false → Rejects (s.serialize v)

theorem Reads.some {d : List UInt8 → EStateM Exception ℕ α} {dec : Decoder α} (h : Reads d dec)
    {bytes : List UInt8} {k : ℕ} (hk : k ≤ 8 * bytes.length) {a : α} {rest : List Bool}
    (hdec : dec ((bytesToBits bytes).drop k) = some (a, rest)) :
    ∃ k', k' ≤ 8 * bytes.length ∧ (bytesToBits bytes).drop k' = rest ∧ d bytes k = .ok a k' := by
  have hread := h bytes k hk
  rwa [hdec] at hread

theorem Reads.none {d : List UInt8 → EStateM Exception ℕ α} {dec : Decoder α} (h : Reads d dec)
    {bytes : List UInt8} {k : ℕ} (hk : k ≤ 8 * bytes.length)
    (hdec : dec ((bytesToBits bytes).drop k) = none) : ∃ e k', d bytes k = .error e k' := by
  have hread := h bytes k hk
  rwa [hdec] at hread

theorem reads_pure (a : α) : Reads (fun _ => pure a) (pure a) :=
  fun _ k hk => ⟨k, hk, rfl, rfl⟩

theorem Reads.bind {d : List UInt8 → EStateM Exception ℕ α} {f : α → List UInt8 → EStateM Exception ℕ β}
    {dec : Decoder α} {g : α → Decoder β} (hd : Reads d dec) (hf : ∀ a, Reads (f a) (g a)) :
    Reads (fun bytes => d bytes >>= fun a => f a bytes) (dec >>= g) := by
  intro bytes k hk
  cases hdec : dec ((bytesToBits bytes).drop k) with
  | none =>
    obtain ⟨e, k', hthrow⟩ := hd.none hk hdec
    rw [Decoder.bind_none hdec]
    exact ⟨e, k', Program.bind_error hthrow⟩
  | some p =>
    obtain ⟨a, rest⟩ := p
    obtain ⟨k', hk', rfl, hok⟩ := hd.some hk hdec
    beta_reduce
    rw [Decoder.bind_some hdec, Program.bind_ok hok]
    exact hf a bytes k' hk'

theorem Reads.map {d : List UInt8 → EStateM Exception ℕ α} {dec : Decoder α} (hd : Reads d dec) (f : α → β) :
    Reads (fun bytes => d bytes >>= fun a => pure (f a)) (f <$> dec) := by
  rw [map_eq_pure_bind]
  exact hd.bind fun a => reads_pure (f a)

theorem Reads.ite {c : Prop} [Decidable c] {d d' : List UInt8 → EStateM Exception ℕ α} {dec dec' : Decoder α}
    (h : Reads d dec) (h' : Reads d' dec') :
    Reads (fun bytes => if c then d bytes else d' bytes) (if c then dec else dec') := by
  split_ifs
  · exact h
  · exact h'

theorem Reads.loopM {body : β → List UInt8 → EStateM Exception ℕ β} {dec : β → Decoder β}
    (h : ∀ b, Reads (body b) (dec b)) (n : ℕ) (b : β) :
    Reads (fun bytes => BitString.loopM (fun b => body b bytes) n b) (BitString.loopM dec n b) := by
  induction n generalizing b with
  | zero => exact reads_pure b
  | succ n ih => exact (h b).bind ih

theorem writes_pure : Writes (pure ()) [] := by
  intro l
  rw [List.append_nil]
  rfl

theorem Writes.bind {s t : EStateM Exception Buffer Unit} {bits bits' : List Bool} (hs : Writes s bits)
    (ht : Writes t bits') : Writes (s >>= fun _ => t) (bits ++ bits') := by
  intro l
  rw [Program.bind_ok (hs l), ht, List.append_assoc]

theorem Rejects.bind {s t : EStateM Exception Buffer Unit} (hs : Rejects s) : Rejects (s >>= fun _ => t) := by
  intro l
  obtain ⟨e, b, hthrow⟩ := hs l
  exact ⟨e, b, Program.bind_error hthrow⟩

theorem Writes.bind_rejects {s t : EStateM Exception Buffer Unit} {bits : List Bool} (hs : Writes s bits)
    (ht : Rejects t) : Rejects (s >>= fun _ => t) := by
  intro l
  rw [Program.bind_ok (hs l)]
  exact ht _

theorem writes_forM {f : α → EStateM Exception Buffer Unit} {encode : α → List Bool} {l : List α}
    (h : ∀ a ∈ l, Writes (f a) (encode a)) : Writes (l.forM f) (l.flatMap encode) := by
  induction l with
  | nil => exact writes_pure
  | cons a l ih =>
    rw [List.flatMap_cons]
    exact (h a (by simp)).bind (ih fun b hb => h b (by simp [hb]))

theorem rejects_forM {f : α → EStateM Exception Buffer Unit} {fits : α → Bool} {encode : α → List Bool}
    {l : List α} (hw : ∀ a, fits a = true → Writes (f a) (encode a))
    (hr : ∀ a, fits a = false → Rejects (f a)) (hl : l.all fits = false) : Rejects (l.forM f) := by
  induction l with
  | nil => cases hl
  | cons a l ih =>
    cases ha : fits a with
    | false => exact (hr a ha).bind
    | true =>
      rw [List.all_cons, ha, Bool.true_and] at hl
      exact (hw a ha).bind_rejects (ih hl)

def uint8Codec : Codec UInt8 := .word 8 UInt8.toNat UInt8.ofNat UInt8.toNat_lt (by simp)

def int32Codec : Codec Int32 :=
  .word 32 (·.toUInt32.toNat) (fun bits => (UInt32.ofNat bits).toInt32) (fun a => a.toUInt32.toNat_lt) (by simp)

def int64Codec : Codec Int64 :=
  .word 64 (·.toUInt64.toNat) (fun bits => (UInt64.ofNat bits).toInt64) (fun a => a.toUInt64.toNat_lt) (by simp)

def uint32Codec : Codec UInt32 := .word 32 UInt32.toNat UInt32.ofNat UInt32.toNat_lt (by simp)

def uint64Codec : Codec UInt64 := .word 64 UInt64.toNat UInt64.ofNat UInt64.toNat_lt (by simp)

def stringCodec : Codec (List UInt8) := .counted 32 uint8Codec

section Specialisations

variable [Ballotin] [LawfulBallotin]

omit [LawfulBallotin] in
theorem getBits_apply (bytes : List UInt8) (n k : ℕ) :
    BinarySerializer.getBits bytes n k =
      match Ballotin.getMostSignificantBits bytes k n with
      | .ok bits => .ok bits (k + n)
      | .error e => .error e k := by
  unfold BinarySerializer.getBits
  rw [Program.bind_ok Program.get_apply]
  cases h : Ballotin.getMostSignificantBits bytes k n with
  | ok bits => rfl
  | error e => rfl

theorem reads_getBits (n : ℕ) : Reads (fun bytes => BinarySerializer.getBits bytes n) (field n) := by
  intro bytes k hk
  have hlen : ((bytesToBits bytes).drop k).length = 8 * bytes.length - k := by simp
  simp only [getBits_apply]
  rcases Nat.lt_or_ge (8 * bytes.length) (k + n) with hn | hn
  · obtain ⟨e, he⟩ := LawfulBallotin.get_error bytes k n hn
    rw [field_eq_none (by omega), he]
    exact ⟨e, k, rfl⟩
  · rw [field, if_pos (by omega), List.drop_drop, LawfulBallotin.get_ok bytes k n hn]
    exact ⟨k + n, hn, rfl, rfl⟩

theorem writes_pushBits (v n : ℕ) : Writes (BinarySerializer.pushBits v n) (toBits n v) := by
  intro l
  rw [BinarySerializer.pushBits, Program.modify_apply]
  simp only [Buffer.of, LawfulBallotin.push, List.length_append, toBits_length]

theorem implements_primitive (n : ℕ) (toNat : T → ℕ) (ofNat : ℕ → T) (hlt : ∀ a, toNat a < 2 ^ n)
    (hinv : ∀ a, ofNat (toNat a) = a) :
    Implements (.primitive n toNat ofNat) (Codec.word n toNat ofNat hlt hinv) where
  reads := (reads_getBits n).map ofNat
  writes v _ := writes_pushBits (toNat v) n
  rejects v hv := by cases hv

omit [Ballotin] [LawfulBallotin] in
theorem reads_deserializeElements {s : BinarySerializer T} {c : Codec T} (h : Implements s c)
    (numberOfElements : ProtocolSize) :
    Reads (fun bytes => BinarySerializer.deserializeElements bytes s numberOfElements)
      (loopM (pushBack c.decoder) numberOfElements.toNat []) :=
  Reads.loopM (fun elements => h.reads.bind fun value => reads_pure (elements ++ [value])) _ _

section Pair

variable {s : BinarySerializer K} {c : Codec K} {t : BinarySerializer V} {d : Codec V}

omit [Ballotin] [LawfulBallotin] in
theorem writes_pair (hs : Implements s c) (ht : Implements t d) (p : K × V)
    (hp : (Codec.pair c d).fits p = true) :
    Writes (s.serialize p.1 >>= fun _ => t.serialize p.2) ((Codec.pair c d).encode p) := by
  rw [Codec.pair, Bool.and_eq_true] at hp
  exact (hs.writes p.1 hp.1).bind (ht.writes p.2 hp.2)

omit [Ballotin] [LawfulBallotin] in
theorem rejects_pair (hs : Implements s c) (ht : Implements t d) (p : K × V)
    (hp : (Codec.pair c d).fits p = false) : Rejects (s.serialize p.1 >>= fun _ => t.serialize p.2) := by
  rw [Codec.pair, Bool.and_eq_false_iff] at hp
  cases hfirst : c.fits p.1 with
  | false => exact (hs.rejects p.1 hfirst).bind
  | true =>
    have hsecond : d.fits p.2 = false := by simpa [hfirst] using hp
    exact (hs.writes p.1 hfirst).bind_rejects (ht.rejects p.2 hsecond)

end Pair

/-- A container size is written as a `ProtocolSize`, unless it does not fit. -/
theorem writes_size {t : EStateM Exception Buffer Unit} {bits : List Bool} {n : ℕ} (hn : n < 2 ^ 32)
    (ht : Writes t bits) :
    Writes (do
      let size ← Program.lift (ProtocolSize.fromSizeType n)
      BinarySerializer.protocolSize.serialize size
      t) (toBits 32 n ++ bits) := by
  intro l
  have hsize : ProtocolSize.fromSizeType n = .ok (UInt32.ofNat n) := by
    rw [ProtocolSize.fromSizeType, if_pos hn]
  rw [Program.bind_ok (by rw [hsize]; rfl)]
  have hwrite : Writes (BinarySerializer.protocolSize.serialize (UInt32.ofNat n)) (toBits 32 n) := by
    change Writes (BinarySerializer.pushBits (UInt32.ofNat n).toNat 32) _
    rw [UInt32.toNat_ofNat_of_lt' hn]
    exact writes_pushBits n 32
  exact hwrite.bind ht l

omit [LawfulBallotin] in
theorem rejects_size {t : EStateM Exception Buffer Unit} {n : ℕ} (hn : ¬ n < 2 ^ 32) :
    Rejects (do
      let size ← Program.lift (ProtocolSize.fromSizeType n)
      BinarySerializer.protocolSize.serialize size
      t) := by
  intro l
  refine ⟨.standard [], .of l, Program.bind_error ?_⟩
  rw [ProtocolSize.fromSizeType, if_neg hn]
  rfl

theorem rejects_after_size {t : EStateM Exception Buffer Unit} {n : ℕ} (ht : Rejects t) :
    Rejects (do
      let size ← Program.lift (ProtocolSize.fromSizeType n)
      BinarySerializer.protocolSize.serialize size
      t) := by
  by_cases hn : n < 2 ^ 32
  · intro l
    have hsize : ProtocolSize.fromSizeType n = .ok (UInt32.ofNat n) := by
      rw [ProtocolSize.fromSizeType, if_pos hn]
    rw [Program.bind_ok (by rw [hsize]; rfl)]
    exact (writes_pushBits (UInt32.ofNat n).toNat 32).bind_rejects ht l
  · exact rejects_size hn

theorem reads_protocolSize :
    Reads BinarySerializer.protocolSize.deserialize (UInt32.ofNat <$> field 32) :=
  (reads_getBits 32).map UInt32.ofNat

/-- The decoded number of elements is below `2 ^ 32`, so that its conversion loses nothing. -/
theorem reads_counted {f : ProtocolSize → List UInt8 → EStateM Exception ℕ α} {g : ℕ → Decoder α}
    (h : ∀ n : ProtocolSize, Reads (f n) (g n.toNat)) :
    Reads (fun bytes => BinarySerializer.protocolSize.deserialize bytes >>= fun n => f n bytes)
      (field 32 >>= g) := by
  have hread := reads_protocolSize.bind h
  suffices heq : ((UInt32.ofNat <$> field 32) >>= fun n => g n.toNat) = field 32 >>= g by rwa [heq] at hread
  funext l
  rw [map_eq_pure_bind, bind_assoc, Decoder.bind_apply, Decoder.bind_apply]
  cases hfield : field 32 l with
  | none => rfl
  | some p =>
    have hlt : p.1 < 2 ^ 32 := by
      unfold field at hfield
      split_ifs at hfield with hl
      obtain rfl := Option.some_inj.mp hfield
      have hbits := ofBits_lt (l.take 32)
      rwa [List.length_take, Nat.min_eq_left hl] at hbits
    rw [Option.bind_some, Option.bind_some, pure_bind, UInt32.toNat_ofNat_of_lt' hlt]

theorem implements_sequence {s : BinarySerializer T} {c : Codec T} (h : Implements s c) :
    Implements (.sequence s) (Codec.counted 32 c) where
  reads := reads_counted fun n => reads_deserializeElements h n
  writes l hl := by
    rw [Codec.counted, Bool.and_eq_true, decide_eq_true_iff, List.all_eq_true] at hl
    exact writes_size hl.1 (writes_forM fun a ha => h.writes a (hl.2 a ha))
  rejects l hl := by
    rw [Codec.counted, Bool.and_eq_false_iff, decide_eq_false_iff_not] at hl
    rcases hl with hl | hl
    · exact rejects_size hl
    · exact rejects_after_size (rejects_forM h.writes h.rejects hl)

theorem implements_map {cmp : K → K → Ordering} [Std.TransCmp cmp] [Std.LawfulEqCmp cmp]
    {s : BinarySerializer K} {c : Codec K} {t : BinarySerializer V} {d : Codec V} (hk : Implements s c)
    (hv : Implements t d) :
    Implements (.map s t : BinarySerializer (Std.ExtTreeMap K V cmp)) (Codec.treeMap 32 c d) where
  reads := reads_counted fun n => Reads.loopM (fun (entries : Std.ExtTreeMap K V cmp) =>
    hk.reads.bind fun k => hv.reads.bind fun v => reads_pure (entries.insertIfNew k v)) _ _
  writes m hm := by
    rw [Codec.treeMap, Bool.and_eq_true, decide_eq_true_iff, List.all_eq_true] at hm
    exact writes_size hm.1 (writes_forM fun p hp => writes_pair hk hv p (hm.2 p hp))
  rejects m hm := by
    rw [Codec.treeMap, Bool.and_eq_false_iff, decide_eq_false_iff_not] at hm
    rcases hm with hm | hm
    · exact rejects_size hm
    · exact rejects_after_size (rejects_forM (writes_pair hk hv) (rejects_pair hk hv) hm)

theorem implements_uint8 : Implements .uint8 uint8Codec := implements_primitive ..

theorem implements_int32 : Implements .int32 int32Codec := implements_primitive ..

theorem implements_int64 : Implements .int64 int64Codec := implements_primitive ..

theorem implements_uint32 : Implements .uint32 uint32Codec := implements_primitive ..

theorem implements_uint64 : Implements .uint64 uint64Codec := implements_primitive ..

theorem implements_bool : Implements .bool Codec.flag := implements_primitive ..

theorem implements_string : Implements .string stringCodec := implements_sequence implements_uint8

end Specialisations

theorem fixed_int32 : int32Codec.Fixed 32 := Codec.fixed_word ..

theorem fixed_int64 : int64Codec.Fixed 64 := Codec.fixed_word ..

theorem fixed_uint32 : uint32Codec.Fixed 32 := Codec.fixed_word ..

theorem fixed_uint64 : uint64Codec.Fixed 64 := Codec.fixed_word ..

theorem fixed_bool : Codec.flag.Fixed 1 := Codec.fixed_word ..

end Farseer
