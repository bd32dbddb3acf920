import Mathlib

/-! Bit strings, most significant bit first, and their packing into whole bytes.
Nothing here depends on a program: `toBits` and `ofBits` move between numbers and
bit strings of a fixed width, `bytesToBits` and `packBits` between byte lists and
bit strings of any length. -/

namespace BitString

/-- The `n` low bits of `v`, most significant first. -/
def toBits : ℕ → ℕ → List Bool
  | 0, _ => []
  | n + 1, v => v.testBit n :: toBits n v

/-- The number written by `l`, most significant bit first. -/
def ofBits (l : List Bool) : ℕ := l.foldl (fun acc b => 2 * acc + b.toNat) 0

@[simp] theorem toBits_length (n v : ℕ) : (toBits n v).length = n := by
  induction n with
  | zero => rfl
  | succ n ih => simp [toBits, ih]

theorem ofBits_acc (l : List Bool) (acc : ℕ) :
    l.foldl (fun acc b => 2 * acc + b.toNat) acc = acc * 2 ^ l.length + ofBits l := by
  induction l generalizing acc with
  | nil => simp [ofBits]
  | cons b l ih =>
    simp only [List.foldl_cons, List.length_cons, ofBits]
    rw [ih (2 * acc + b.toNat), ih (2 * 0 + b.toNat)]
    ring

@[simp] theorem ofBits_nil : ofBits [] = 0 := rfl

theorem ofBits_cons (b : Bool) (l : List Bool) :
    ofBits (b :: l) = b.toNat * 2 ^ l.length + ofBits l := by
  rw [ofBits, List.foldl_cons, ofBits_acc]
  simp

theorem ofBits_lt (l : List Bool) : ofBits l < 2 ^ l.length := by
  induction l with
  | nil => simp
  | cons b l ih =>
    rw [ofBits_cons, List.length_cons, pow_succ]
    have hb : b.toNat ≤ 1 := Bool.toNat_le b
    nlinarith [Nat.one_le_two_pow (n := l.length)]

theorem ofBits_toBits (n v : ℕ) : ofBits (toBits n v) = v % 2 ^ n := by
  induction n with
  | zero => simp [toBits, Nat.mod_one]
  | succ n ih => rw [toBits, ofBits_cons, ih, toBits_length, Nat.toNat_testBit, Nat.mod_pow_succ]; ring

theorem ofBits_toBits_of_lt {n v : ℕ} (h : v < 2 ^ n) : ofBits (toBits n v) = v := by
  rw [ofBits_toBits, Nat.mod_eq_of_lt h]

theorem toBits_mul_add {n k w : ℕ} (v : ℕ) (hw : w < 2 ^ k) (h : n ≤ k) :
    toBits n (2 ^ k * v + w) = toBits n w := by
  induction n with
  | zero => rfl
  | succ n ih =>
    rw [toBits, toBits, ih (by omega), Nat.testBit_two_pow_mul_add v hw, if_pos (by omega)]

theorem toBits_ofBits (l : List Bool) : toBits l.length (ofBits l) = l := by
  induction l with
  | nil => rfl
  | cons b l ih =>
    have hlt := ofBits_lt l
    rw [ofBits_cons, List.length_cons, toBits, mul_comm, toBits_mul_add _ hlt le_rfl, ih,
      Nat.testBit_two_pow_mul_add _ hlt]
    cases b <;> simp

theorem toBits_inj {n v w : ℕ} (hv : v < 2 ^ n) (hw : w < 2 ^ n) (h : toBits n v = toBits n w) :
    v = w := by
  rw [← ofBits_toBits_of_lt hv, h, ofBits_toBits_of_lt hw]

/-- The bits of a byte list, each byte most significant bit first. -/
def bytesToBits (bytes : List UInt8) : List Bool := bytes.flatMap fun b => toBits 8 b.toNat

/-- The zero bits that complete `n` bits to whole bytes. -/
def padding (n : ℕ) : ℕ := (8 - n % 8) % 8

/-- The number of bytes that hold `n` bits. -/
def byteCount (n : ℕ) : ℕ := (n + 7) / 8

/-- A bit string in whole bytes, the last one completed with zero bits. -/
def packBits : List Bool → List UInt8
  | a :: b :: c :: d :: e :: f :: g :: h :: l =>
    UInt8.ofNat (ofBits [a, b, c, d, e, f, g, h]) :: packBits l
  | [] => []
  | l => [UInt8.ofNat (ofBits (l ++ List.replicate (8 - l.length) false))]

theorem padding_lt (n : ℕ) : padding n < 8 := Nat.mod_lt _ (by decide)

theorem byteCount_mul (n : ℕ) : 8 * byteCount n = n + padding n := by
  unfold byteCount padding
  omega

@[simp] theorem bytesToBits_nil : bytesToBits [] = [] := rfl

theorem bytesToBits_cons (b : UInt8) (bytes : List UInt8) :
    bytesToBits (b :: bytes) = toBits 8 b.toNat ++ bytesToBits bytes := by
  simp [bytesToBits]

@[simp] theorem bytesToBits_append (xs ys : List UInt8) :
    bytesToBits (xs ++ ys) = bytesToBits xs ++ bytesToBits ys := by
  simp [bytesToBits]

@[simp] theorem bytesToBits_length (bytes : List UInt8) :
    (bytesToBits bytes).length = 8 * bytes.length := by
  induction bytes with
  | nil => rfl
  | cons b bytes ih => rw [bytesToBits_cons, List.length_append, ih, toBits_length, List.length_cons]; ring

theorem bytesToBits_drop (bytes : List UInt8) (n : ℕ) :
    (bytesToBits bytes).drop (8 * n) = bytesToBits (bytes.drop n) := by
  rcases le_or_gt n bytes.length with hn | hn
  · conv_lhs => rw [← List.take_append_drop n bytes, bytesToBits_append]
    rw [List.drop_append_of_le_length (by simp [hn]), List.drop_of_length_le (by simp), List.nil_append]
  · rw [List.drop_of_length_le (by simp; omega), List.drop_of_length_le (by omega), bytesToBits_nil]

theorem toBits_byte (l : List Bool) (h : l.length = 8) :
    toBits 8 (UInt8.ofNat (ofBits l)).toNat = l := by
  have hlt := ofBits_lt l
  rw [h] at hlt
  rw [UInt8.toNat_ofNat_of_lt' hlt, ← h]
  exact toBits_ofBits l

theorem length_lt_eight {l : List Bool}
    (hshort : ∀ a b c d e f g h t, l = a :: b :: c :: d :: e :: f :: g :: h :: t → False) :
    l.length < 8 := by
  by_contra hlen
  obtain ⟨a, b, c, d, e, f, g, h, t, rfl⟩ :
      ∃ a b c d e f g h t, l = a :: b :: c :: d :: e :: f :: g :: h :: t := by
    rcases l with _ | ⟨a, _ | ⟨b, _ | ⟨c, _ | ⟨d, _ | ⟨e, _ | ⟨f, _ | ⟨g, _ | ⟨h, t⟩⟩⟩⟩⟩⟩⟩⟩ <;>
      simp at hlen ⊢
  exact hshort a b c d e f g h t rfl

theorem bytesToBits_packBits (l : List Bool) :
    bytesToBits (packBits l) = l ++ List.replicate (padding l.length) false := by
  fun_induction packBits l with
  | case1 a b c d e f g h l ih =>
    rw [bytesToBits_cons, ih, toBits_byte _ rfl]
    simp [padding, show (l.length + 1 + 1 + 1 + 1 + 1 + 1 + 1 + 1) % 8 = l.length % 8 by omega]
  | case2 => rfl
  | case3 l hshort hne =>
    have hlen := length_lt_eight hshort
    have hpos : 0 < l.length := List.length_pos_iff.mpr hne
    rw [bytesToBits_cons, bytesToBits_nil, List.append_nil, toBits_byte _ (by simp; omega), padding,
      Nat.mod_eq_of_lt hlen, Nat.mod_eq_of_lt (by omega)]

@[simp] theorem packBits_length (l : List Bool) : (packBits l).length = byteCount l.length := by
  have h := congrArg List.length (bytesToBits_packBits l)
  have h' := byteCount_mul l.length
  simp only [bytesToBits_length, List.length_append, List.length_replicate] at h
  omega

theorem bytesToBits_injective : Function.Injective bytesToBits := by
  intro xs
  induction xs with
  | nil =>
    intro ys h
    have := congrArg List.length h
    simp only [bytesToBits_length, List.length_nil] at this
    exact (List.length_eq_zero_iff.mp (by omega)).symm
  | cons x xs ih =>
    intro ys h
    cases ys with
    | nil => simpa using congrArg List.length h
    | cons y ys =>
      rw [bytesToBits_cons, bytesToBits_cons] at h
      obtain ⟨hxy, hrest⟩ := List.append_inj h (by simp)
      rw [ih hrest, UInt8.toNat_inj.mp (toBits_inj x.toNat_lt y.toNat_lt hxy)]

theorem packBits_bytesToBits (bytes : List UInt8) : packBits (bytesToBits bytes) = bytes := by
  apply bytesToBits_injective
  rw [bytesToBits_packBits, bytesToBits_length, padding, Nat.mul_mod_right]
  simp

/-- Packing after a whole number of bytes continues with the next byte. -/
theorem packBits_append_bytes (bytes : List UInt8) (l : List Bool) :
    packBits (bytesToBits bytes ++ l) = bytes ++ packBits l := by
  apply bytesToBits_injective
  rw [bytesToBits_append, bytesToBits_packBits, bytesToBits_packBits, List.length_append,
    bytesToBits_length, padding, padding, Nat.mul_add_mod, List.append_assoc]

/-- Whole bytes are the packing of their bits. -/
theorem bytesToBits_packBits_of_dvd {l : List Bool} (h : 8 ∣ l.length) : bytesToBits (packBits l) = l := by
  have hpad : padding l.length = 0 := by
    unfold padding
    omega
  rw [bytesToBits_packBits, hpad, List.replicate_zero, List.append_nil]

/-- Behind whole bytes, packing the packing changes nothing. -/
theorem packBits_append_packBits {l : List Bool} (h : 8 ∣ l.length) (m : List Bool) :
    packBits (l ++ bytesToBits (packBits m)) = packBits (l ++ m) := by
  rw [← bytesToBits_packBits_of_dvd h, packBits_append_bytes, packBits_append_bytes, packBits_bytesToBits]

end BitString
