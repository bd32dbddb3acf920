import Mathlib

/-! Finite maps whose keys are equal when they compare equal: what a lookup finds after a
change of the map. -/

namespace Table

variable {κ ν : Type} {cmp : κ → κ → Ordering} [Std.TransCmp cmp] [Std.LawfulEqCmp cmp] [DecidableEq κ]
  {m : Std.ExtTreeMap κ ν cmp} {k a : κ} {v w : ν} {f : ν → ν}

theorem lookup_insert : (m.insert k v)[a]? = if k = a then some v else m[a]? := by
  rw [Std.ExtTreeMap.getElem?_insert]
  simp only [Std.LawfulEqCmp.compare_eq_iff_eq]

theorem lookup_erase : (m.erase k)[a]? = if k = a then none else m[a]? := by
  rw [Std.ExtTreeMap.getElem?_erase]
  simp only [Std.LawfulEqCmp.compare_eq_iff_eq]

theorem lookup_modify : (m.modify k f)[a]? = if k = a then m[k]?.map f else m[a]? := by
  rw [Std.ExtTreeMap.getElem?_modify]
  simp only [Std.LawfulEqCmp.compare_eq_iff_eq]

omit [Std.LawfulEqCmp cmp] [DecidableEq κ] in
theorem contains_eq : m.contains k = m[k]?.isSome := Std.ExtTreeMap.contains_eq_isSome_getElem?

omit [Std.LawfulEqCmp cmp] [DecidableEq κ] in
theorem lookup_free (h : m.contains k = false) : m[k]? = none := by
  rw [contains_eq] at h
  exact Option.not_isSome_iff_eq_none.mp (by rw [h]; exact Bool.false_ne_true)

theorem erase_of_absent (h : m[k]? = none) : m.erase k = m := by
  refine Std.ExtTreeMap.ext_getElem? fun a => ?_
  rw [lookup_erase]
  split_ifs with heq
  · rw [← heq, h]
  · rfl

/-- Taking back an insertion of a new key. -/
theorem erase_insert (h : m[k]? = none) : (m.insert k v).erase k = m := by
  refine Std.ExtTreeMap.ext_getElem? fun a => ?_
  rw [lookup_erase, lookup_insert]
  split_ifs with heq
  · rw [← heq, h]
  · rfl

theorem lookup_insert_some (h : (m.insert k v)[a]? = some w) : (a = k ∧ w = v) ∨ (a ≠ k ∧ m[a]? = some w) := by
  rw [lookup_insert] at h
  split_ifs at h with heq
  · exact .inl ⟨heq.symm, (Option.some_inj.mp h).symm⟩
  · exact .inr ⟨fun h => heq h.symm, h⟩

theorem lookup_erase_some (h : (m.erase k)[a]? = some w) : a ≠ k ∧ m[a]? = some w := by
  rw [lookup_erase] at h
  split_ifs at h with heq
  exact ⟨fun h => heq h.symm, h⟩

theorem lookup_modify_some (h : (m.modify k f)[a]? = some w) :
    (a = k ∧ ∃ u, m[k]? = some u ∧ w = f u) ∨ (a ≠ k ∧ m[a]? = some w) := by
  rw [lookup_modify] at h
  split_ifs at h with heq
  · obtain ⟨u, hu, rfl⟩ := Option.map_eq_some_iff.mp h
    exact .inl ⟨heq.symm, u, hu, rfl⟩
  · exact .inr ⟨fun h => heq h.symm, h⟩

theorem lookup_insert_eq : (fun a => (m.insert k v)[a]?) = Function.update (fun a => m[a]?) k (some v) := by
  funext a
  rw [lookup_insert, Function.update_apply]
  simp only [eq_comm]

theorem lookup_erase_eq : (fun a => (m.erase k)[a]?) = Function.update (fun a => m[a]?) k none := by
  funext a
  rw [lookup_erase, Function.update_apply]
  simp only [eq_comm]

theorem map_lookup_insert_eq {μ : Type} (g : ν → μ) :
    (fun a => (m.insert k v)[a]?.map g) = Function.update (fun a => m[a]?.map g) k (some (g v)) := by
  funext a
  rw [lookup_insert, Function.update_apply]
  split_ifs with heq heq' heq'
  · rfl
  · exact absurd heq.symm heq'
  · exact absurd heq'.symm heq
  · rfl

theorem map_lookup_erase_eq {μ : Type} (g : ν → μ) :
    (fun a => (m.erase k)[a]?.map g) = Function.update (fun a => m[a]?.map g) k none := by
  funext a
  rw [lookup_erase, Function.update_apply]
  split_ifs with heq heq' heq'
  · rfl
  · exact absurd heq.symm heq'
  · exact absurd heq'.symm heq
  · rfl

theorem contains_insert_iff : (m.insert k v).contains a = true ↔ a = k ∨ m.contains a = true := by
  rw [contains_eq, lookup_insert, contains_eq]
  split_ifs with heq
  · exact iff_of_true rfl (.inl heq.symm)
  · exact (or_iff_right (Ne.symm heq)).symm

theorem contains_erase_iff : (m.erase k).contains a = true ↔ a ≠ k ∧ m.contains a = true := by
  rw [contains_eq, lookup_erase, contains_eq]
  split_ifs with heq
  · exact iff_of_false Bool.false_ne_true fun h => h.1 heq.symm
  · exact (and_iff_right (Ne.symm heq)).symm

end Table
