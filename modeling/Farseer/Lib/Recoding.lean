import Farseer.Lib.Codec

/-! Decoding and encoding again. What a decoder accepts has an encoding, and the new bits are compared with the old ones
by any relation that concatenation respects: with equality, the codec has one encoding for each value; with lengths, the
new bits are no more than the old ones, as the entries of a map are sorted and the repeated ones are gone. -/

namespace BitString

variable {α β : Type}

/-- A relation between bit strings that concatenation respects. -/
structure Congruent (S : List Bool → List Bool → Prop) : Prop where
  refl : ∀ p, S p p
  append : ∀ {p q p' q'}, S p q → S p' q' → S (p ++ p') (q ++ q')

def Shorter (p q : List Bool) : Prop := p.length ≤ q.length

theorem congruent_eq : Congruent Eq := ⟨fun _ => rfl, fun h h' => by rw [h, h']⟩

theorem congruent_shorter : Congruent Shorter := by
  refine ⟨fun p => le_rfl, fun {p q p' q'} h h' => ?_⟩
  rw [Shorter, List.length_append, List.length_append]
  exact Nat.add_le_add h h'

namespace Codec

variable {S : List Bool → List Bool → Prop}

/-- What is decoded has an encoding, which is related to the bits that were taken. -/
def Recodes (S : List Bool → List Bool → Prop) (c : Codec α) : Prop :=
  ∀ l a r, c.decoder l = some (a, r) → c.fits a = true ∧ ∃ p, l = p ++ r ∧ S (c.encode a) p

theorem Recodes.mono {S' : List Bool → List Bool → Prop} {c : Codec α} (h : c.Recodes S) (hS : Subrelation S S') :
    c.Recodes S' := by
  intro l a r hd
  obtain ⟨hfits, p, hp, hrelated⟩ := h l a r hd
  exact ⟨hfits, p, hp, hS hrelated⟩

section Combinators

variable (hS : Congruent S)

include hS

theorem recodes_word {n : ℕ} {toNat : α → ℕ} {ofNat : ℕ → α} {hlt : ∀ a, toNat a < 2 ^ n}
    {hinv : ∀ a, ofNat (toNat a) = a} (hsurj : ∀ v, v < 2 ^ n → toNat (ofNat v) = v) :
    (word n toNat ofNat hlt hinv).Recodes S := by
  intro l a r h
  obtain ⟨v, hfield, rfl⟩ := Decoder.map_eq_some h
  obtain ⟨p, rfl, rfl, rfl⟩ := field_eq_some hfield
  refine ⟨rfl, p, rfl, ?_⟩
  change S (toBits p.length (toNat (ofNat (ofBits p)))) p
  rw [hsurj _ (ofBits_lt p), toBits_ofBits]
  exact hS.refl p

theorem recodes_flag : flag.Recodes S := recodes_word hS (by decide)

theorem recodes_unit : unit.Recodes S := by
  intro l a r h
  cases h
  exact ⟨rfl, [], rfl, hS.refl []⟩

theorem Recodes.pair {c : Codec α} {d : Codec β} (hc : c.Recodes S) (hd : d.Recodes S) : (Codec.pair c d).Recodes S := by
  rintro l ⟨a, b⟩ r h
  obtain ⟨a', m, ha, h⟩ := Decoder.bind_eq_some h
  obtain ⟨b', r', hb, h⟩ := Decoder.bind_eq_some h
  cases h
  obtain ⟨hfits, p, rfl, hp⟩ := hc _ _ _ ha
  obtain ⟨hfits', q, rfl, hq⟩ := hd _ _ _ hb
  exact ⟨Bool.and_eq_true_iff.mpr ⟨hfits, hfits'⟩, p ++ q, (List.append_assoc ..).symm, hS.append hp hq⟩

/-- The elements that the loop appends. -/
theorem Recodes.loopM {c : Codec α} (hc : c.Recodes S) (n : ℕ) (acc : List α) {l r : List Bool} {xs : List α}
    (h : loopM (pushBack c.decoder) n acc l = some (xs, r)) :
    ∃ ys p, xs = acc ++ ys ∧ ys.length = n ∧ (∀ a ∈ ys, c.fits a = true) ∧ l = p ++ r ∧ S (ys.flatMap c.encode) p := by
  induction n generalizing acc l with
  | zero =>
    cases h
    exact ⟨[], [], (List.append_nil _).symm, rfl, List.forall_mem_nil _, rfl, hS.refl []⟩
  | succ n ih =>
    obtain ⟨acc', m, hfirst, hrest⟩ := Decoder.bind_eq_some h
    obtain ⟨a, m', ha, hpure⟩ := Decoder.bind_eq_some hfirst
    cases hpure
    obtain ⟨hfits, p, rfl, hp⟩ := hc _ _ _ ha
    obtain ⟨ys, q, rfl, hlen, hall, rfl, hq⟩ := ih _ hrest
    refine ⟨a :: ys, p ++ q, by rw [List.append_assoc, List.singleton_append], by rw [List.length_cons, hlen],
      List.forall_mem_cons.mpr ⟨hfits, hall⟩, (List.append_assoc ..).symm, ?_⟩
    rw [List.flatMap_cons]
    exact hS.append hp hq

theorem Recodes.counted {c : Codec α} (hc : c.Recodes S) (n : ℕ) : (Codec.counted n c).Recodes S := by
  intro l xs r h
  obtain ⟨count, m, hfield, hloop⟩ := Decoder.bind_eq_some h
  obtain ⟨q, rfl, rfl, rfl⟩ := field_eq_some hfield
  obtain ⟨_, p, rfl, hlen, hall, rfl, hp⟩ := hc.loopM hS _ _ hloop
  have hlt : xs.length < 2 ^ q.length := hlen ▸ ofBits_lt q
  have hcount : toBits q.length xs.length = q := by rw [hlen, toBits_ofBits]
  refine ⟨Bool.and_eq_true_iff.mpr ⟨decide_eq_true hlt, List.all_eq_true.mpr hall⟩, q ++ p,
    (List.append_assoc ..).symm, ?_⟩
  change S (toBits q.length xs.length ++ xs.flatMap c.encode) (q ++ p)
  rw [hcount]
  exact hS.append (hS.refl q) hp

theorem Recodes.choice {c : Codec α} {d : Codec β} (hc : c.Recodes S) (hd : d.Recodes S) : (Codec.choice c d).Recodes S := by
  intro l x r h
  obtain ⟨isLeft, m, hflag, h⟩ := Decoder.bind_eq_some h
  obtain ⟨-, p, rfl, hp⟩ := recodes_flag hS _ _ _ hflag
  cases isLeft with
  | true =>
    obtain ⟨a, m', ha, h⟩ := Decoder.bind_eq_some h
    cases h
    obtain ⟨hfits, q, rfl, hq⟩ := hc _ _ _ ha
    exact ⟨hfits, p ++ q, (List.append_assoc ..).symm, hS.append hp hq⟩
  | false =>
    obtain ⟨b, m', hb, h⟩ := Decoder.bind_eq_some h
    cases h
    obtain ⟨hfits, q, rfl, hq⟩ := hd _ _ _ hb
    exact ⟨hfits, p ++ q, (List.append_assoc ..).symm, hS.append hp hq⟩

end Combinators

theorem Recodes.iso {c : Codec α} (hc : c.Recodes S) (e : α ≃ β) : (c.iso e).Recodes S := by
  intro l b r h
  obtain ⟨a, ha, rfl⟩ := Decoder.map_eq_some h
  have hrecodes := hc l a r ha
  rwa [← e.symm_apply_apply a] at hrecodes

theorem Recodes.paysFor {c : Codec α} (hc : c.Recodes Shorter) : PaysFor c.decoder 0 fun a => (c.encode a).length := by
  intro l a r h
  obtain ⟨-, p, rfl, hp⟩ := hc l a r h
  rw [List.length_append, Nat.zero_add]
  exact Nat.add_le_add_right hp _

section TreeMap

variable {κ ν : Type} {cmp : κ → κ → Ordering} [Std.TransCmp cmp] [Std.LawfulEqCmp cmp]

/-- The loop adds at most as many entries as it has turns. -/
theorem Recodes.loopM_emplace {ck : Codec κ} {cv : Codec ν} (hk : ck.Recodes S) (hv : cv.Recodes S) (n : ℕ)
    (m : Std.ExtTreeMap κ ν cmp) (hm : ∀ p ∈ m.toList, (Codec.pair ck cv).fits p = true) {l r : List Bool}
    {m' : Std.ExtTreeMap κ ν cmp} (h : BitString.loopM (emplace ck.decoder cv.decoder) n m l = some (m', r)) :
    m'.size ≤ m.size + n ∧ ∀ p ∈ m'.toList, (Codec.pair ck cv).fits p = true := by
  induction n generalizing m l with
  | zero =>
    cases h
    exact ⟨le_rfl, hm⟩
  | succ n ih =>
    obtain ⟨middle, l', hfirst, hrest⟩ := Decoder.bind_eq_some h
    obtain ⟨k, l'', hkey, hfirst⟩ := Decoder.bind_eq_some hfirst
    obtain ⟨v, l''', hvalue, hpure⟩ := Decoder.bind_eq_some hfirst
    cases hpure
    have hfits : (Codec.pair ck cv).fits (k, v) = true :=
      Bool.and_eq_true_iff.mpr ⟨(hk _ _ _ hkey).1, (hv _ _ _ hvalue).1⟩
    have hentries : ∀ p ∈ (m.insertIfNew k v).toList, (Codec.pair ck cv).fits p = true := fun p hp => by
      rcases List.mem_cons.mp (toList_insertIfNew_subset m k v hp) with rfl | hold
      · exact hfits
      · exact hm p hold
    obtain ⟨hsize, hall⟩ := ih (m.insertIfNew k v) hentries hrest
    have hinsert : (m.insertIfNew k v).size ≤ m.size + 1 := Std.ExtTreeMap.size_insertIfNew_le
    exact ⟨by omega, hall⟩

theorem Recodes.treeMap {ck : Codec κ} {cv : Codec ν} (hk : ck.Recodes Shorter) (hv : cv.Recodes Shorter) (n : ℕ) :
    (Codec.treeMap n ck cv : Codec (Std.ExtTreeMap κ ν cmp)).Recodes Shorter := by
  intro l m r h
  have hpaid := paysFor_treeMap n (hk.pair congruent_shorter hv).paysFor l m r h
  obtain ⟨p, rfl, -⟩ := (Codec.treeMap n ck cv : Codec (Std.ExtTreeMap κ ν cmp)).isLocal l m r h
  obtain ⟨count, l', hfield, hloop⟩ := Decoder.bind_eq_some h
  obtain ⟨q, -, rfl, rfl⟩ := field_eq_some hfield
  obtain ⟨hsize, hall⟩ := hk.loopM_emplace hv _ ∅ (by simp) hloop
  have hlt : m.size < 2 ^ q.length := by
    rw [Std.ExtTreeMap.size_empty, Nat.zero_add] at hsize
    exact hsize.trans_lt (ofBits_lt q)
  refine ⟨Bool.and_eq_true_iff.mpr ⟨decide_eq_true hlt, List.all_eq_true.mpr hall⟩, p, rfl, ?_⟩
  change (toBits q.length m.size ++ m.toList.flatMap (Codec.pair ck cv).encode).length ≤ p.length
  rw [List.length_append, toBits_length, List.length_flatMap]
  rw [List.length_append] at hpaid
  dsimp only at hpaid
  omega

end TreeMap

end Codec

end BitString
