import Farseer.Lib.Bits

/-! Decoders of bit strings. A decoder takes a value off the front of a bit string
and returns the rest. `Local` says that it looks at nothing but the bits it takes,
`Inverts` that it undoes an encoding whatever follows, and both are closed under
sequencing and loops, so that a decoder built from fields inherits them. -/

namespace BitString

/-- A decoder takes a value off the front of a bit string, or fails. -/
abbrev Decoder (α : Type) := StateT (List Bool) Option α

/-- The loop `for (index = 0; index < n; ++index)` over an accumulator. -/
def loopM {m : Type → Type} [Monad m] {β : Type} (body : β → m β) : ℕ → β → m β
  | 0, b => pure b
  | n + 1, b => body b >>= loopM body n

def field (n : ℕ) : Decoder ℕ := fun l =>
  if n ≤ l.length then some (ofBits (l.take n), l.drop n) else none

/-- Look at how much there is before deciding what to decode. Not a local decoder. -/
def ifAvailable {α : Type} (n : ℕ) (d e : Decoder α) : Decoder α := fun l =>
  if n ≤ l.length then d l else e l

def pushBack {α : Type} (d : Decoder α) (xs : List α) : Decoder (List α) := do
  let x ← d
  return xs ++ [x]

/-- A successful decoding is a function of the bits it takes: it ends the same way
with anything else behind them. -/
def Local {α : Type} (d : Decoder α) : Prop :=
  ∀ l a r, d l = some (a, r) → ∃ p, l = p ++ r ∧ ∀ m, d (p ++ m) = some (a, m)

/-- The decoder undoes the encoding on the values that satisfy `P`. -/
def Inverts {α : Type} (d : Decoder α) (encode : α → List Bool) (P : α → Prop) : Prop :=
  ∀ a, P a → ∀ rest, d (encode a ++ rest) = some (a, rest)

variable {α β : Type}

@[simp] theorem Decoder.pure_apply (a : α) (l : List Bool) : (pure a : Decoder α) l = some (a, l) := rfl

theorem Decoder.bind_apply (d : Decoder α) (f : α → Decoder β) (l : List Bool) :
    (d >>= f) l = (d l).bind fun x => f x.1 x.2 := rfl

theorem Decoder.bind_some {d : Decoder α} {f : α → Decoder β} {l r : List Bool} {a : α}
    (h : d l = some (a, r)) : (d >>= f) l = f a r := by
  rw [Decoder.bind_apply, h, Option.bind_some]

theorem Decoder.bind_none {d : Decoder α} {f : α → Decoder β} {l : List Bool} (h : d l = none) :
    (d >>= f) l = none := by
  rw [Decoder.bind_apply, h, Option.bind_none]

theorem Decoder.bind_eq_some {d : Decoder α} {f : α → Decoder β} {l r : List Bool} {b : β}
    (h : (d >>= f) l = some (b, r)) : ∃ a m, d l = some (a, m) ∧ f a m = some (b, r) := by
  rw [Decoder.bind_apply] at h
  obtain ⟨⟨a, m⟩, hd, hf⟩ := Option.bind_eq_some_iff.mp h
  exact ⟨a, m, hd, hf⟩

theorem Decoder.map_apply (d : Decoder α) (f : α → β) (l : List Bool) :
    (f <$> d) l = (d l).map fun x => (f x.1, x.2) := by
  rw [map_eq_pure_bind, Decoder.bind_apply]
  cases d l <;> rfl

theorem Decoder.map_some {d : Decoder α} {f : α → β} {l r : List Bool} {a : α} (h : d l = some (a, r)) :
    (f <$> d) l = some (f a, r) := by
  rw [map_eq_pure_bind, Decoder.bind_some h, Decoder.pure_apply]

theorem Decoder.map_eq_some {d : Decoder α} {f : α → β} {l r : List Bool} {b : β}
    (h : (f <$> d) l = some (b, r)) : ∃ a, d l = some (a, r) ∧ f a = b := by
  rw [map_eq_pure_bind] at h
  obtain ⟨a, m, hd, hf⟩ := Decoder.bind_eq_some h
  obtain ⟨rfl, rfl⟩ : f a = b ∧ m = r := by simpa using hf
  exact ⟨a, hd, rfl⟩

theorem loopM_zero {m : Type → Type} [Monad m] (body : β → m β) (b : β) :
    loopM body 0 b = pure b := rfl

theorem loopM_succ {m : Type → Type} [Monad m] (body : β → m β) (n : ℕ) (b : β) :
    loopM body (n + 1) b = body b >>= loopM body n := rfl

theorem local_pure (a : α) : Local (pure a : Decoder α) := by
  intro l b r h
  obtain ⟨rfl, rfl⟩ : a = b ∧ l = r := by simpa using h
  exact ⟨[], rfl, fun m => rfl⟩

theorem local_field (n : ℕ) : Local (field n) := by
  intro l a r h
  unfold field at h
  split_ifs at h with hn
  obtain ⟨rfl, rfl⟩ : ofBits (l.take n) = a ∧ l.drop n = r := by simpa using h
  refine ⟨l.take n, (List.take_append_drop n l).symm, fun m => ?_⟩
  have hlen : (l.take n).length = n := by simp [hn]
  rw [field, if_pos (by simp [hlen]), List.take_left' hlen, List.drop_left' hlen]

theorem Local.bind {d : Decoder α} {f : α → Decoder β} (hd : Local d) (hf : ∀ a, Local (f a)) :
    Local (d >>= f) := by
  intro l b r h
  obtain ⟨a, m, h1, h2⟩ := Decoder.bind_eq_some h
  obtain ⟨p, rfl, hp⟩ := hd l a m h1
  obtain ⟨q, rfl, hq⟩ := hf a m b r h2
  refine ⟨p ++ q, by simp, fun s => ?_⟩
  rw [List.append_assoc, Decoder.bind_some (hp (q ++ s)), hq s]

theorem Local.map {d : Decoder α} (hd : Local d) (f : α → β) : Local (f <$> d) := by
  rw [map_eq_pure_bind]
  exact hd.bind fun a => local_pure (f a)

theorem Local.loopM {body : β → Decoder β} (hbody : ∀ b, Local (body b)) (n : ℕ) (b : β) :
    Local (BitString.loopM body n b) := by
  induction n generalizing b with
  | zero => exact local_pure b
  | succ n ih => exact (hbody b).bind ih

/-- The bits that are left are the end of the input. -/
def Shrinks (d : Decoder α) : Prop := ∀ l a r, d l = some (a, r) → r <:+ l

theorem Local.shrinks {d : Decoder α} (hd : Local d) : Shrinks d := by
  intro l a r h
  obtain ⟨p, rfl, -⟩ := hd l a r h
  exact List.suffix_append p r

theorem Shrinks.bind {d : Decoder α} {f : α → Decoder β} (hd : Shrinks d) (hf : ∀ a, Shrinks (f a)) :
    Shrinks (d >>= f) := by
  intro l b r h
  obtain ⟨a, m, h1, h2⟩ := Decoder.bind_eq_some h
  exact (hf a m b r h2).trans (hd l a m h1)

theorem Shrinks.map {d : Decoder α} (hd : Shrinks d) (f : α → β) : Shrinks (f <$> d) := by
  rw [map_eq_pure_bind]
  exact hd.bind fun a => (local_pure (f a)).shrinks

theorem Shrinks.ifAvailable {d e : Decoder α} (hd : Shrinks d) (he : Shrinks e) (n : ℕ) :
    Shrinks (ifAvailable n d e) := by
  intro l a r h
  unfold BitString.ifAvailable at h
  split_ifs at h
  · exact hd l a r h
  · exact he l a r h

/-- Bits appended behind the input of a successful local decoding are left over. -/
theorem Local.append {d : Decoder α} (hd : Local d) {l r : List Bool} {a : α}
    (h : d l = some (a, r)) (m : List Bool) : d (l ++ m) = some (a, r ++ m) := by
  obtain ⟨p, rfl, hp⟩ := hd l a r h
  rw [List.append_assoc, hp]

/-- A decoder that read something reads the same when more bits have arrived. -/
def Stable (d : Decoder (Option α)) : Prop :=
  ∀ l a r m, d l = some (some a, r) → d (l ++ m) = some (some a, r ++ m)

theorem Local.stable {d : Decoder (Option α)} (h : Local d) : Stable d := fun _ _ _ m hd => h.append hd m

theorem Stable.bind {d : Decoder β} {f : β → Decoder (Option α)} (hd : Local d)
    (hf : ∀ b, Stable (f b)) :
    Stable (d >>= f) := by
  intro l a r m h
  obtain ⟨b, rest, h1, h2⟩ := Decoder.bind_eq_some h
  rw [Decoder.bind_some (hd.append h1 m)]
  exact hf b rest a r m h2

theorem Stable.ifAvailable {d : Decoder (Option α)} (hd : Stable d) (n : ℕ) :
    Stable (ifAvailable n d (return none)) := by
  intro l a r m h
  unfold BitString.ifAvailable at h ⊢
  split_ifs at h with hn
  · rw [if_pos (by rw [List.length_append]; omega)]
    exact hd l a r m h
  · simp at h

/-- The decoder takes `n` bits of whatever has them. -/
def Takes (d : Decoder α) (n : ℕ) : Prop := ∀ l, n ≤ l.length → ∃ a, d l = some (a, l.drop n)

theorem takes_pure (a : α) : Takes (pure a : Decoder α) 0 := fun _ _ => ⟨a, rfl⟩

theorem takes_field (n : ℕ) : Takes (field n) n := fun _ hl => ⟨_, if_pos hl⟩

theorem Takes.map {d : Decoder α} {n : ℕ} (h : Takes d n) (f : α → β) : Takes (f <$> d) n := by
  intro l hl
  obtain ⟨a, ha⟩ := h l hl
  exact ⟨f a, Decoder.map_some ha⟩

theorem Takes.bind {d : Decoder α} {f : α → Decoder β} {m n : ℕ} (hd : Takes d m) (hf : ∀ a, Takes (f a) n) :
    Takes (d >>= f) (m + n) := by
  intro l hl
  obtain ⟨a, ha⟩ := hd l (by omega)
  obtain ⟨b, hb⟩ := hf a (l.drop m) (by rw [List.length_drop]; omega)
  exact ⟨b, by rw [Decoder.bind_some ha, hb, List.drop_drop]⟩

theorem ifAvailable_pos {n : ℕ} {d e : Decoder α} {l : List Bool} (h : n ≤ l.length) :
    ifAvailable n d e l = d l := if_pos h

theorem ifAvailable_neg {n : ℕ} {d e : Decoder α} {l : List Bool} (h : l.length < n) :
    ifAvailable n d e l = e l := if_neg (by omega)

theorem field_toBits {n v : ℕ} (hv : v < 2 ^ n) (rest : List Bool) :
    field n (toBits n v ++ rest) = some (v, rest) := by
  rw [field, if_pos (by simp), List.take_left' (toBits_length n v), List.drop_left' (toBits_length n v),
    ofBits_toBits_of_lt hv]

theorem field_eq_some {n v : ℕ} {l r : List Bool} (h : field n l = some (v, r)) :
    ∃ p, l = p ++ r ∧ p.length = n ∧ v = ofBits p := by
  unfold field at h
  split_ifs at h with hn
  obtain ⟨rfl, rfl⟩ : ofBits (l.take n) = v ∧ l.drop n = r := by simpa using h
  exact ⟨l.take n, (List.take_append_drop n l).symm, by simp [hn], rfl⟩

theorem field_eq_none {n : ℕ} {l : List Bool} (h : l.length < n) : field n l = none := by
  rw [field, if_neg (by omega)]

theorem local_pushBack {d : Decoder α} (hd : Local d) (xs : List α) : Local (pushBack d xs) :=
  hd.bind fun x => local_pure (xs ++ [x])

/-- A loop that appends what its body decodes reads a list back. -/
theorem loopM_pushBack {d : Decoder α} {encode : α → List Bool} {P : α → Prop}
    (hd : Inverts d encode P) (xs acc : List α) (hxs : ∀ a ∈ xs, P a) (rest : List Bool) :
    loopM (pushBack d) xs.length acc (xs.flatMap encode ++ rest) = some (acc ++ xs, rest) := by
  induction xs generalizing acc with
  | nil => simp [loopM_zero]
  | cons x xs ih =>
    have hx : pushBack d acc (encode x ++ (xs.flatMap encode ++ rest)) =
        some (acc ++ [x], xs.flatMap encode ++ rest) := by
      rw [pushBack, Decoder.bind_some (hd x (hxs x (by simp)) _)]
      rfl
    rw [List.length_cons, loopM_succ, List.flatMap_cons, List.append_assoc, Decoder.bind_some hx,
      ih (acc ++ [x]) fun a ha => hxs a (by simp [ha]), List.append_assoc, List.singleton_append]

/-- What is decoded is not larger than what has been paid for it: `paid` before, and one for each bit taken. -/
def PaysFor (d : Decoder α) (paid : ℕ) (size : α → ℕ) : Prop :=
  ∀ l a r, d l = some (a, r) → size a + r.length ≤ paid + l.length

theorem paysFor_pure {a : α} {paid : ℕ} {size : α → ℕ} (h : size a ≤ paid) : PaysFor (pure a) paid size := by
  intro l b r hd
  obtain ⟨rfl, rfl⟩ : a = b ∧ l = r := by simpa using hd
  exact Nat.add_le_add_right h _

theorem paysFor_field (n : ℕ) : PaysFor (field n) 0 fun _ => n := by
  intro l a r h
  obtain ⟨p, rfl, hp, -⟩ := field_eq_some h
  rw [List.length_append, hp, Nat.zero_add]

theorem PaysFor.weaken {d : Decoder α} {paid paid' : ℕ} {size size' : α → ℕ} (hd : PaysFor d paid size)
    (h : ∀ a, size' a + paid ≤ paid' + size a) : PaysFor d paid' size' := by
  intro l a r hrun
  have hpaid := hd l a r hrun
  have hsize := h a
  omega

theorem PaysFor.bind {d : Decoder α} {f : α → Decoder β} {paid : ℕ} {size : α → ℕ} {size' : β → ℕ}
    (hd : PaysFor d paid size) (hf : ∀ a, PaysFor (f a) (size a) size') : PaysFor (d >>= f) paid size' := by
  intro l b r h
  obtain ⟨a, m, h1, h2⟩ := Decoder.bind_eq_some h
  have hfirst := hd l a m h1
  have hsecond := hf a m b r h2
  omega

theorem PaysFor.map {d : Decoder α} {paid : ℕ} {size : α → ℕ} {size' : β → ℕ} (hd : PaysFor d paid size) {f : α → β}
    (h : ∀ a, size' (f a) ≤ size a) : PaysFor (f <$> d) paid size' := by
  rw [map_eq_pure_bind]
  exact hd.bind fun a => paysFor_pure (h a)

theorem PaysFor.loopM {body : β → Decoder β} {size : β → ℕ} (hbody : ∀ b, PaysFor (body b) (size b) size) (n : ℕ) (b : β) :
    PaysFor (BitString.loopM body n b) (size b) size := by
  induction n generalizing b with
  | zero => exact paysFor_pure le_rfl
  | succ n ih => exact (hbody b).bind ih

theorem PaysFor.ifAvailable {d e : Decoder α} {paid : ℕ} {size : α → ℕ} (hd : PaysFor d paid size)
    (he : PaysFor e paid size) (n : ℕ) : PaysFor (ifAvailable n d e) paid size := by
  intro l a r h
  unfold BitString.ifAvailable at h
  split_ifs at h
  · exact hd l a r h
  · exact he l a r h

theorem paysFor_pushBack {d : Decoder α} {size : α → ℕ} (hd : PaysFor d 0 size) (xs : List α) :
    PaysFor (pushBack d xs) (xs.map size).sum fun xs => (xs.map size).sum := by
  have hx : PaysFor d (xs.map size).sum fun x => (xs.map size).sum + size x := hd.weaken fun x => by omega
  refine hx.bind fun x => paysFor_pure ?_
  rw [List.map_append, List.sum_append, List.map_singleton, List.sum_singleton]

end BitString
