import Farseer.Lib.Decoder

/-! Codecs of bit strings: an encoding and the decoder that undoes it, packed with the
proofs that it does. A codec of a structured type is built from the codecs of its parts,
and what holds of the parts is never proved again. -/

namespace BitString

/-- An encoding into bits with its decoder. Only the values that `fits` accepts have an
encoding, as a count is written in a field of a fixed width. -/
structure Codec (α : Type) where
  encode : α → List Bool
  fits : α → Bool
  decoder : Decoder α
  isLocal : Local decoder
  inverts : Inverts decoder encode fun a => fits a = true

namespace Codec

variable {α β : Type}

/-- A number in a field of `n` bits. -/
def word (n : ℕ) (toNat : α → ℕ) (ofNat : ℕ → α) (hlt : ∀ a, toNat a < 2 ^ n)
    (hinv : ∀ a, ofNat (toNat a) = a) : Codec α where
  encode a := toBits n (toNat a)
  fits _ := true
  decoder := ofNat <$> field n
  isLocal := (local_field n).map ofNat
  inverts a _ rest := by
    rw [map_eq_pure_bind, Decoder.bind_some (field_toBits (hlt a) rest), hinv]
    rfl

def unit : Codec Unit where
  encode _ := []
  fits _ := true
  decoder := pure ()
  isLocal := local_pure ()
  inverts _ _ _ := rfl

def pair (c : Codec α) (d : Codec β) : Codec (α × β) where
  encode p := c.encode p.1 ++ d.encode p.2
  fits p := c.fits p.1 && d.fits p.2
  decoder := do
    let a ← c.decoder
    let b ← d.decoder
    return (a, b)
  isLocal := c.isLocal.bind fun a => d.isLocal.bind fun b => local_pure (a, b)
  inverts p hp rest := by
    dsimp only at hp ⊢
    rw [Bool.and_eq_true] at hp
    rw [List.append_assoc, Decoder.bind_some (c.inverts p.1 hp.1 _),
      Decoder.bind_some (d.inverts p.2 hp.2 rest)]
    rfl

/-- A list behind its length, a field of `n` bits. -/
def counted (n : ℕ) (c : Codec α) : Codec (List α) where
  encode l := toBits n l.length ++ l.flatMap c.encode
  fits l := decide (l.length < 2 ^ n) && l.all c.fits
  decoder := do
    let count ← field n
    loopM (pushBack c.decoder) count []
  isLocal := (local_field n).bind fun count => Local.loopM (local_pushBack c.isLocal) count []
  inverts l hl rest := by
    dsimp only at hl ⊢
    rw [Bool.and_eq_true, decide_eq_true_iff, List.all_eq_true] at hl
    rw [List.append_assoc, Decoder.bind_some (field_toBits hl.1 _), loopM_pushBack c.inverts l [] hl.2,
      List.nil_append]

def flag : Codec Bool := word 1 Bool.toNat (· != 0) (by decide) (by decide)

/-- A value of one of two types behind the bit that tells which. -/
def choice (c : Codec α) (d : Codec β) : Codec (α ⊕ β) where
  encode
    | .inl a => flag.encode true ++ c.encode a
    | .inr b => flag.encode false ++ d.encode b
  fits
    | .inl a => c.fits a
    | .inr b => d.fits b
  decoder := do
    let isLeft ← flag.decoder
    if isLeft then do
      let a ← c.decoder
      return .inl a
    else do
      let b ← d.decoder
      return .inr b
  isLocal := by
    refine flag.isLocal.bind fun isLeft => ?_
    split_ifs
    · exact c.isLocal.bind fun a => local_pure (Sum.inl a)
    · exact d.isLocal.bind fun b => local_pure (Sum.inr b)
  inverts x hx rest := by
    cases x with
    | inl a =>
      rw [List.append_assoc, Decoder.bind_some (flag.inverts true rfl _), if_pos rfl,
        Decoder.bind_some (c.inverts a hx rest)]
      rfl
    | inr b =>
      rw [List.append_assoc, Decoder.bind_some (flag.inverts false rfl _), if_neg (by decide),
        Decoder.bind_some (d.inverts b hx rest)]
      rfl

/-- The same bits for a type in bijection. -/
def iso (c : Codec α) (e : α ≃ β) : Codec β where
  encode b := c.encode (e.symm b)
  fits b := c.fits (e.symm b)
  decoder := e <$> c.decoder
  isLocal := c.isLocal.map e
  inverts b hb rest := by
    rw [map_eq_pure_bind, Decoder.bind_some (c.inverts _ hb rest), e.apply_symm_apply]
    rfl

section TreeMap

variable {κ ν : Type} {cmp : κ → κ → Ordering} [Std.TransCmp cmp]

/-- Decode one more entry, which a key already present keeps out. -/
def emplace (key : Decoder κ) (value : Decoder ν) (m : Std.ExtTreeMap κ ν cmp) :
    Decoder (Std.ExtTreeMap κ ν cmp) := do
  let k ← key
  let v ← value
  return m.insertIfNew k v

theorem local_emplace {key : Decoder κ} {value : Decoder ν} (hk : Local key) (hv : Local value)
    (m : Std.ExtTreeMap κ ν cmp) : Local (emplace key value m) :=
  hk.bind fun k => hv.bind fun v => local_pure (m.insertIfNew k v)

theorem loopM_emplace (ck : Codec κ) (cv : Codec ν) (l : List (κ × ν)) (acc : Std.ExtTreeMap κ ν cmp)
    (hl : ∀ p ∈ l, (pair ck cv).fits p = true) (rest : List Bool) :
    loopM (emplace ck.decoder cv.decoder) l.length acc (l.flatMap (pair ck cv).encode ++ rest) =
      some (l.foldl (fun m p => m.insertIfNew p.1 p.2) acc, rest) := by
  induction l generalizing acc with
  | nil => rfl
  | cons p l ih =>
    have hp := hl p (by simp)
    simp only [pair, Bool.and_eq_true] at hp
    have hfirst : emplace ck.decoder cv.decoder acc
        ((pair ck cv).encode p ++ (l.flatMap (pair ck cv).encode ++ rest)) =
        some (acc.insertIfNew p.1 p.2, l.flatMap (pair ck cv).encode ++ rest) := by
      simp only [pair, List.append_assoc]
      rw [emplace, Decoder.bind_some (ck.inverts p.1 hp.1 _), Decoder.bind_some (cv.inverts p.2 hp.2 _)]
      rfl
    rw [List.length_cons, loopM_succ, List.flatMap_cons, List.append_assoc, Decoder.bind_some hfirst,
      ih _ fun q hq => hl q (by simp [hq]), List.foldl_cons]

variable [Std.LawfulEqCmp cmp]

theorem getElem?_foldl_insertIfNew (l : List (κ × ν)) (acc : Std.ExtTreeMap κ ν cmp)
    (hdistinct : l.Pairwise fun a b => ¬ cmp a.1 b.1 = .eq) (hnew : ∀ p ∈ l, p.1 ∉ acc) (k : κ) (v : ν) :
    (l.foldl (fun m p => m.insertIfNew p.1 p.2) acc)[k]? = some v ↔ acc[k]? = some v ∨ (k, v) ∈ l := by
  induction l generalizing acc with
  | nil => simp
  | cons p l ih =>
    rw [List.pairwise_cons] at hdistinct
    have hp : p.1 ∉ acc := hnew p (by simp)
    rw [List.foldl_cons, ih _ hdistinct.2]
    · rw [Std.ExtTreeMap.getElem?_insertIfNew, List.mem_cons]
      by_cases hk : p.1 = k
      · obtain rfl := hk
        have hself : cmp p.1 p.1 = .eq := Std.ReflCmp.compare_self
        simp [hp, hself, Prod.ext_iff, eq_comm (a := v)]
      · have hne : ¬ k = p.1 := fun h => hk h.symm
        simp [hk, hne, Prod.ext_iff]
    · intro q hq hmem
      rw [Std.ExtTreeMap.mem_insertIfNew] at hmem
      rcases hmem with hmem | hmem
      · exact hdistinct.1 q hq hmem
      · exact hnew q (by simp [hq]) hmem

/-- Emplacing the entries of a map one after the other gives the map back. -/
theorem foldl_insertIfNew_toList (m : Std.ExtTreeMap κ ν cmp) :
    m.toList.foldl (fun acc p => acc.insertIfNew p.1 p.2) (∅ : Std.ExtTreeMap κ ν cmp) = m := by
  refine Std.ExtTreeMap.ext_getElem? fun {k} => Option.ext fun v => ?_
  rw [getElem?_foldl_insertIfNew _ _ Std.ExtTreeMap.distinct_keys_toList (by simp)]
  simp

/-- The entries of a map in key order behind their number, a field of `n` bits. -/
def treeMap (n : ℕ) (ck : Codec κ) (cv : Codec ν) : Codec (Std.ExtTreeMap κ ν cmp) where
  encode m := toBits n m.size ++ m.toList.flatMap (pair ck cv).encode
  fits m := decide (m.size < 2 ^ n) && m.toList.all (pair ck cv).fits
  decoder := do
    let count ← field n
    loopM (emplace ck.decoder cv.decoder) count ∅
  isLocal := (local_field n).bind fun count => Local.loopM (local_emplace ck.isLocal cv.isLocal) count ∅
  inverts m hm rest := by
    dsimp only at hm ⊢
    rw [Bool.and_eq_true, decide_eq_true_iff, List.all_eq_true] at hm
    rw [List.append_assoc, Decoder.bind_some (field_toBits hm.1 _), ← Std.ExtTreeMap.length_toList,
      loopM_emplace ck cv _ _ hm.2, foldl_insertIfNew_toList]

end TreeMap

/-- Every value has an encoding, and all encodings have the same length. -/
structure Fixed (c : Codec α) (n : ℕ) : Prop where
  fits : ∀ a, c.fits a = true
  length : ∀ a, (c.encode a).length = n

theorem fixed_word (n : ℕ) (toNat : α → ℕ) (ofNat : ℕ → α) (hlt : ∀ a, toNat a < 2 ^ n)
    (hinv : ∀ a, ofNat (toNat a) = a) : (word n toNat ofNat hlt hinv).Fixed n :=
  ⟨fun _ => rfl, fun _ => toBits_length n _⟩

theorem fixed_unit : unit.Fixed 0 := ⟨fun _ => rfl, fun _ => rfl⟩

theorem Fixed.pair {c : Codec α} {d : Codec β} {m n : ℕ} (hc : c.Fixed m) (hd : d.Fixed n) :
    (pair c d).Fixed (m + n) := by
  refine ⟨fun p => ?_, fun p => ?_⟩
  · exact Bool.and_eq_true_iff.mpr ⟨hc.fits p.1, hd.fits p.2⟩
  · rw [Codec.pair, List.length_append, hc.length, hd.length]

theorem paysFor_word (n : ℕ) (toNat : α → ℕ) (ofNat : ℕ → α) (hlt : ∀ a, toNat a < 2 ^ n)
    (hinv : ∀ a, ofNat (toNat a) = a) : PaysFor (word n toNat ofNat hlt hinv).decoder 0 fun _ => n :=
  (paysFor_field n).map fun _ => le_rfl

theorem paysFor_pair {c : Codec α} {d : Codec β} {size : α → ℕ} {size' : β → ℕ} (hc : PaysFor c.decoder 0 size)
    (hd : PaysFor d.decoder 0 size') : PaysFor (pair c d).decoder 0 fun p => size p.1 + size' p.2 := by
  refine hc.bind fun a => ?_
  have hb : PaysFor d.decoder (size a) fun b => size a + size' b := hd.weaken fun b => by omega
  exact hb.bind fun b => paysFor_pure le_rfl

theorem paysFor_counted (n : ℕ) {c : Codec α} {size : α → ℕ} (hc : PaysFor c.decoder 0 size) :
    PaysFor (counted n c).decoder 0 fun l => n + (l.map size).sum := by
  refine (paysFor_field n).bind fun count => ?_
  exact (PaysFor.loopM (paysFor_pushBack hc) count []).weaken fun l => by simp

theorem paysFor_choice {c : Codec α} {d : Codec β} {size : α → ℕ} {size' : β → ℕ} (hc : PaysFor c.decoder 0 size)
    (hd : PaysFor d.decoder 0 size') : PaysFor (choice c d).decoder 0 (Sum.elim size size') := by
  have hflag : PaysFor flag.decoder 0 fun _ => 1 := paysFor_word 1 _ _ _ _
  refine hflag.bind fun isLeft => ?_
  split_ifs
  · have hleft : PaysFor (c.decoder >>= fun a => pure (.inl a)) 0 (Sum.elim size size') :=
      hc.bind fun a => paysFor_pure le_rfl
    exact hleft.weaken fun x => by omega
  · have hright : PaysFor (d.decoder >>= fun b => pure (.inr b)) 0 (Sum.elim size size') :=
      hd.bind fun b => paysFor_pure le_rfl
    exact hright.weaken fun x => by omega

section TreeMap

variable {κ ν : Type} {cmp : κ → κ → Ordering} [Std.TransCmp cmp]

theorem toList_insertIfNew_subset [Std.LawfulEqCmp cmp] (m : Std.ExtTreeMap κ ν cmp) (k : κ) (v : ν) :
    (m.insertIfNew k v).toList ⊆ (k, v) :: m.toList := by
  rintro ⟨k', v'⟩ hmem
  rw [Std.ExtTreeMap.mem_toList_iff_getElem?_eq_some, Std.ExtTreeMap.getElem?_insertIfNew] at hmem
  split_ifs at hmem with hnew
  · rw [Std.LawfulEqCmp.eq_of_compare hnew.1, Option.some_inj.mp hmem]
    exact List.mem_cons_self
  · exact List.mem_cons_of_mem _ (Std.ExtTreeMap.mem_toList_iff_getElem?_eq_some.mpr hmem)

/-- A sum over the entries of a map; another entry adds at most its own size. -/
theorem sum_insertIfNew_le [Std.LawfulEqCmp cmp] (size : κ × ν → ℕ) (m : Std.ExtTreeMap κ ν cmp) (k : κ) (v : ν) :
    ((m.insertIfNew k v).toList.map size).sum ≤ (m.toList.map size).sum + size (k, v) := by
  have hnodup : (m.insertIfNew k v).toList.Nodup := by
    refine Std.ExtTreeMap.distinct_keys_toList.imp fun {p q} hne heq => hne ?_
    rw [heq]
    exact Std.ReflCmp.compare_self
  obtain ⟨l, hperm, hsublist⟩ := hnodup.subperm (toList_insertIfNew_subset m k v)
  calc ((m.insertIfNew k v).toList.map size).sum = (l.map size).sum := ((hperm.map size).sum_eq).symm
    _ ≤ (((k, v) :: m.toList).map size).sum := (hsublist.map size).sum_le_sum fun _ _ => Nat.zero_le _
    _ = (m.toList.map size).sum + size (k, v) := by rw [List.map_cons, List.sum_cons, Nat.add_comm]

theorem paysFor_treeMap [Std.LawfulEqCmp cmp] (n : ℕ) {ck : Codec κ} {cv : Codec ν} {size : κ × ν → ℕ}
    (h : PaysFor (pair ck cv).decoder 0 size) :
    PaysFor (treeMap n ck cv : Codec (Std.ExtTreeMap κ ν cmp)).decoder 0 fun m => n + (m.toList.map size).sum := by
  have hemplace : ∀ m : Std.ExtTreeMap κ ν cmp, PaysFor (emplace ck.decoder cv.decoder m) (m.toList.map size).sum
      fun m => (m.toList.map size).sum := by
    intro m
    have hentry : emplace ck.decoder cv.decoder m =
        (pair ck cv).decoder >>= fun p => pure (m.insertIfNew p.1 p.2) := by
      simp only [pair, emplace, bind_assoc, pure_bind]
    have hpair : PaysFor (pair ck cv).decoder (m.toList.map size).sum fun p => (m.toList.map size).sum + size p :=
      h.weaken fun p => by omega
    rw [hentry]
    exact hpair.bind fun p => paysFor_pure (sum_insertIfNew_le size m p.1 p.2)
  have hempty : (∅ : Std.ExtTreeMap κ ν cmp).toList = [] := Std.ExtTreeMap.toList_eq_nil_iff.mpr rfl
  refine (paysFor_field n).bind fun count => ?_
  exact (PaysFor.loopM hemplace count ∅).weaken fun m => by simp [hempty]

end TreeMap

end Codec

end BitString
