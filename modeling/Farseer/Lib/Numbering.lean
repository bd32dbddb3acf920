import Mathlib

/-! Numbers that a counter hands out. It counts modulo `M`, from 1 on, and several parties take numbers from it. What
one of them sees is how many the others took before each of its own. As long as fewer than `M` numbers were handed
out they are positive and different; the one after those is 0. -/

namespace Numbering

variable {M : ℕ}

/-- The number that is handed out after `n` others. -/
def number (M n : ℕ) : ℕ := (1 + n) % M

/-- The numbers that are handed out until there are `m`, when there were `n`. -/
def handed (M n m : ℕ) : List ℕ := (List.range' n (m - n)).map (number M)

/-- How many numbers are handed out in the end, when there were `n` and the others take so many before each of
one's own. -/
def after (n : ℕ) : List ℕ → ℕ
  | [] => n
  | t :: taken => after (n + t + 1) taken

/-- The places of one's own numbers. -/
def own (n : ℕ) : List ℕ → List ℕ
  | [] => []
  | t :: taken => (n + t) :: own (n + t + 1) taken

/-- The places of the numbers of the others. -/
def others (n : ℕ) : List ℕ → List ℕ
  | [] => []
  | t :: taken => List.range' n t ++ others (n + t + 1) taken

theorem le_after (n : ℕ) (taken : List ℕ) : n ≤ after n taken := by
  induction taken generalizing n with
  | nil => exact le_refl n
  | cons t taken ih =>
    have hrest := ih (n + t + 1)
    exact (show n ≤ n + t + 1 by omega).trans hrest

theorem after_append (n : ℕ) (taken taken' : List ℕ) : after n (taken ++ taken') = after (after n taken) taken' := by
  induction taken generalizing n with
  | nil => rfl
  | cons t taken ih => exact ih (n + t + 1)

theorem own_append (n : ℕ) (taken taken' : List ℕ) :
    own n (taken ++ taken') = own n taken ++ own (after n taken) taken' := by
  induction taken generalizing n with
  | nil => rfl
  | cons t taken ih => exact congrArg ((n + t) :: ·) (ih (n + t + 1))

theorem own_others (n : ℕ) (taken : List ℕ) :
    (own n taken ++ others n taken).Perm (List.range' n (after n taken - n)) := by
  induction taken generalizing n with
  | nil => simp [own, others, after]
  | cons t taken ih =>
    have hle := le_after (n + t + 1) taken
    have hsplit : List.range' n (after n (t :: taken) - n) =
        List.range' n t ++ (n + t) :: List.range' (n + t + 1) (after (n + t + 1) taken - (n + t + 1)) := by
      rw [show after n (t :: taken) - n = t + (after (n + t + 1) taken - (n + t + 1) + 1) by rw [after]; omega,
        ← List.range'_append_1, List.range'_succ]
    rw [hsplit]
    have hrest : (own (n + t + 1) taken ++ (List.range' n t ++ others (n + t + 1) taken)).Perm
        (List.range' n t ++ List.range' (n + t + 1) (after (n + t + 1) taken - (n + t + 1))) :=
      (List.perm_append_comm_assoc ..).trans (.append_left _ (ih _))
    exact (List.Perm.cons (n + t) hrest).trans List.perm_middle.symm

theorem number_add (n t : ℕ) : (number M n + t) % M = number M (n + t) := by
  rw [number, number, Nat.mod_add_mod, Nat.add_assoc]

theorem number_of_lt {n : ℕ} (h : n + 1 < M) : number M n = n + 1 := by
  rw [number, Nat.add_comm, Nat.mod_eq_of_lt h]

/-- Once the counter has gone round it hands out 0. -/
theorem zero_mem_handed {n m : ℕ} (hn : n < M) (hm : M ≤ m) : 0 ∈ handed M n m := by
  refine List.mem_map.mpr ⟨M - 1, List.mem_range'_1.mpr ⟨by omega, by omega⟩, ?_⟩
  rw [number, show 1 + (M - 1) = M by omega, Nat.mod_self]

/-- The numbers in use are some of the first `n`, and none is in use more often than it was handed out. -/
def Held (M n : ℕ) (held : Multiset ℕ) : Prop := held ≤ (Multiset.range n).map (number M)

namespace Held

variable {n : ℕ} {held : Multiset ℕ}

theorem mono {held' : Multiset ℕ} (h : Held M n held) (hle : held' ≤ held) : Held M n held' := le_trans hle h

/-- All that is handed out may come into use. -/
theorem hand (h : Held M n held) {m : ℕ} (hnm : n ≤ m) : Held M m (held + (handed M n m : Multiset ℕ)) := by
  have hrange : Multiset.range m = Multiset.range n + (List.range' n (m - n) : Multiset ℕ) := by
    rw [Multiset.range, Multiset.range, Multiset.coe_add, List.range'_eq_map_range, ← List.range_add,
      Nat.add_sub_cancel' hnm]
  rw [Held, hrange, Multiset.map_add, handed, ← Multiset.map_coe]
  exact add_le_add_left h _

theorem nodup (h : Held M n held) (hn : n < M) : held.Nodup := by
  refine Multiset.nodup_of_le h (Multiset.Nodup.map_on (fun j hj k hk heq => ?_) (Multiset.nodup_range n))
  rw [Multiset.mem_range] at hj hk
  rw [number_of_lt (by omega), number_of_lt (by omega)] at heq
  omega

/-- A number that is handed out later is positive and not in use. -/
theorem fresh (h : Held M n held) {k : ℕ} (hk : n ≤ k) (hlt : k + 1 < M) :
    number M k ≠ 0 ∧ number M k ∉ held := by
  rw [number_of_lt hlt]
  refine ⟨Nat.succ_ne_zero k, fun hmem => ?_⟩
  obtain ⟨j, hj, heq⟩ := Multiset.mem_map.mp (Multiset.mem_of_le h hmem)
  rw [Multiset.mem_range] at hj
  rw [number_of_lt (by omega)] at heq
  omega

theorem positive (h : Held M n held) (hn : n < M) : 0 ∉ held := by
  intro hmem
  obtain ⟨j, hj, heq⟩ := Multiset.mem_map.mp (Multiset.mem_of_le h hmem)
  rw [Multiset.mem_range] at hj
  rw [number_of_lt (by omega)] at heq
  omega

end Held

theorem mem_handed {n m x : ℕ} (h : x ∈ handed M n m) : ∃ k, n ≤ k ∧ k < m ∧ x = number M k := by
  obtain ⟨k, hk, rfl⟩ := List.mem_map.mp h
  obtain ⟨hle, hlt⟩ := List.mem_range'_1.mp hk
  exact ⟨k, hle, by omega, rfl⟩

theorem handed_nodup {n m : ℕ} (hm : m < M) : (handed M n m).Nodup := by
  refine List.Nodup.map_on (fun j hj k hk heq => ?_) List.nodup_range'
  rw [List.mem_range'_1] at hj hk
  rw [number_of_lt (by omega), number_of_lt (by omega)] at heq
  omega

/-- In a run in which no step hands out 0, the counter does not go round. -/
theorem lt_of_run {σ : Type} {Step : σ → σ → Prop} {total : σ → ℕ} {start b : σ} (hstart : total start < M)
    (hrun : Relation.ReflTransGen Step start b)
    (hpositive : ∀ a a', Relation.ReflTransGen Step start a → Step a a' → Relation.ReflTransGen Step a' b →
      0 ∉ handed M (total a) (total a')) : total b < M := by
  induction hrun with
  | refl => exact hstart
  | tail hrun hlast ih =>
    have hlt := ih fun a a' hbefore hstep hafter => hpositive a a' hbefore hstep (hafter.tail hlast)
    by_contra hge
    exact hpositive _ _ hrun hlast .refl (zero_mem_handed hlt (not_lt.mp hge))

end Numbering
