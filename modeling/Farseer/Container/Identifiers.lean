import Farseer.Container.Roster
import Farseer.Lib.Numbering

/-! The account of the identifiers that a `Sequencer<SocketIdentifier>` has generated, modulo `M`: those under which
sockets were inserted, and those that wait to be used. -/

namespace Farseer

open Numbering

variable {υ : Type} {M : ℕ}

def givenIdentifiers (M n : ℕ) (taken : List ℕ) : List SocketIdentifier := (others n taken).map (number M)

/-- The sequencer of a container, and its history. -/
structure Sequenced (υ : Type) where
  next : SocketIdentifier
  history : List (ContainerEvent υ)

/-- The container generated identifiers, other threads took so many before each of them, and it inserted sockets under
some of those that it got itself. -/
def Handed (M : ℕ) (taken : List ℕ) (c c' : Sequenced υ) : Prop :=
  ∀ n, c.next = number M n → c'.next = number M (after n taken) ∧
    (insertedIdentifiers c'.history : Multiset SocketIdentifier) ≤
      insertedIdentifiers c.history + ((own n taken).map (number M) : Multiset SocketIdentifier)

namespace Handed

variable {c c' c'' : Sequenced υ} {taken taken' : List ℕ}

theorem of_same (hnext : c'.next = c.next)
    (hinserted : insertedIdentifiers c'.history = insertedIdentifiers c.history) : Handed M [] c c' := by
  intro n hn
  rw [hnext, hinserted]
  exact ⟨hn, Multiset.le_add_right _ _⟩

theorem of_generated {t : ℕ} (hnext : c'.next = ((c.next + t) % M + 1) % M)
    (hinserted : insertedIdentifiers c'.history = insertedIdentifiers c.history ∨
      insertedIdentifiers c'.history = insertedIdentifiers c.history ++ [(c.next + t) % M]) : Handed M [t] c c' := by
  intro n hn
  rw [hn, number_add] at hnext hinserted
  rw [number_add] at hnext
  refine ⟨hnext, ?_⟩
  change (insertedIdentifiers c'.history : Multiset SocketIdentifier) ≤
    insertedIdentifiers c.history + ({number M (n + t)} : Multiset SocketIdentifier)
  rcases hinserted with hsame | hmore
  · rw [hsame]
    exact Multiset.le_add_right _ _
  · rw [hmore, ← Multiset.coe_add]
    exact le_refl _

theorem append (h : Handed M taken c c') (h' : Handed M taken' c' c'') : Handed M (taken ++ taken') c c'' := by
  intro n hn
  obtain ⟨hnext, hinserted⟩ := h n hn
  obtain ⟨hnext', hinserted'⟩ := h' _ hnext
  rw [after_append, own_append, List.map_append, ← Multiset.coe_add, ← add_assoc]
  exact ⟨hnext', le_trans hinserted' (add_le_add_left hinserted _)⟩

end Handed

instance : IsPreorder (Sequenced υ) (Handed M []) where
  refl _ := .of_same rfl rfl
  trans _ _ _ h h' := h.append h'

/-- The sequencer has generated `total` identifiers, and those in use are some of them, each used once. -/
structure Accounted (M total : ℕ) (pending : List SocketIdentifier) (c : Sequenced υ) : Prop where
  next : c.next = number M total
  held : Held M total (insertedIdentifiers c.history ++ pending : List SocketIdentifier)

namespace Accounted

variable {c c' : Sequenced υ} {total : ℕ} {pending : List SocketIdentifier}

theorem new (hM : 1 < M) : Accounted M 0 [] ({ next := invalidSocketIdentifier + 1, history := [] } : Sequenced υ) :=
  ⟨(number_of_lt hM).symm, Multiset.zero_le _⟩

theorem mono (h : Accounted M total pending c) {pending' : List SocketIdentifier} (hnext : c'.next = c.next)
    (hle : (insertedIdentifiers c'.history ++ pending').Subperm (insertedIdentifiers c.history ++ pending)) :
    Accounted M total pending' c' :=
  ⟨hnext.trans h.next, h.held.mono (Multiset.coe_le.mpr hle)⟩

theorem generate (h : Accounted M total pending c) (hnext : c'.next = (c.next + 1) % M)
    (hhistory : c'.history = c.history) : Accounted M (total + 1) (pending ++ [c.next]) c' := by
  refine ⟨by rw [hnext, h.next, number_add], ?_⟩
  have hhanded : handed M total (total + 1) = [c.next] := by simp [handed, h.next]
  have hheld := h.held.hand (Nat.le_succ total)
  rw [hhanded, Multiset.coe_add, List.append_assoc] at hheld
  rw [hhistory]
  exact hheld

theorem hand (h : Accounted M total pending c) {taken : List ℕ} (hhanded : Handed M taken c c') :
    Accounted M (after total taken) (pending ++ givenIdentifiers M total taken) c' := by
  obtain ⟨hnext, hinserted⟩ := hhanded total h.next
  refine ⟨hnext, (h.held.hand (le_after total taken)).mono ?_⟩
  have hplaces : (handed M total (after total taken) : Multiset SocketIdentifier) =
      (own total taken).map (number M) + givenIdentifiers M total taken := by
    rw [givenIdentifiers, Multiset.coe_add, ← List.map_append]
    exact Multiset.coe_eq_coe.mpr ((own_others total taken).map (number M)).symm
  rw [hplaces]
  calc ((insertedIdentifiers c'.history ++ (pending ++ givenIdentifiers M total taken) :
          List SocketIdentifier) : Multiset SocketIdentifier)
      _ = (insertedIdentifiers c'.history : Multiset SocketIdentifier) + (pending + givenIdentifiers M total taken) := by
        rw [Multiset.coe_add, Multiset.coe_add]
      _ ≤ (insertedIdentifiers c.history + (own total taken).map (number M)) +
          (pending + givenIdentifiers M total taken) := add_le_add_left hinserted _
      _ = _ := by
        rw [← Multiset.coe_add]
        abel

theorem distinct (h : Accounted M total pending c) (htotal : total < M) :
    (invalidSocketIdentifier :: (insertedIdentifiers c.history ++ pending)).Nodup := by
  refine List.nodup_cons.mpr ⟨h.held.positive htotal, ?_⟩
  exact Multiset.coe_nodup.mp (h.held.nodup htotal)

theorem distinctIdentifiers (h : Accounted M total pending c) (htotal : total < M) : DistinctIdentifiers c.history := by
  have hdistinct := h.distinct htotal
  rw [← List.cons_append] at hdistinct
  exact hdistinct.of_append_left

theorem pending_absent (h : Accounted M total pending c) (htotal : total < M) {id : SocketIdentifier}
    (hid : id ∈ pending) : id ∉ insertedIdentifiers c.history := by
  have hdistinct := h.distinct htotal
  rw [List.nodup_cons, List.nodup_append] at hdistinct
  exact fun hmem => hdistinct.2.2.2 id hmem id hid rfl

/-- An identifier that is generated later is valid and not in use. -/
theorem fresh (h : Accounted M total pending c) {k : ℕ} (hk : total ≤ k) (hlt : k + 1 < M) :
    number M k ≠ invalidSocketIdentifier ∧ number M k ∉ insertedIdentifiers c.history ∧ number M k ∉ pending := by
  obtain ⟨hvalid, habsent⟩ := h.held.fresh hk hlt
  rw [Multiset.mem_coe, List.mem_append, not_or] at habsent
  exact ⟨hvalid, habsent⟩

theorem handed_fresh (h : Accounted M total pending c) {total' : ℕ} (htotal : total' < M) :
    invalidSocketIdentifier ∉ handed M total total' ∧ (handed M total total').Nodup ∧
      ∀ id ∈ handed M total total', id ∉ insertedIdentifiers c.history ∧ id ∉ pending := by
  have hfresh : ∀ id ∈ handed M total total',
      id ≠ invalidSocketIdentifier ∧ id ∉ insertedIdentifiers c.history ∧ id ∉ pending := by
    intro id hid
    obtain ⟨k, hk, hlt, rfl⟩ := mem_handed hid
    exact h.fresh hk (lt_of_le_of_lt hlt htotal)
  exact ⟨fun hinvalid => (hfresh _ hinvalid).1 rfl, handed_nodup htotal, fun id hid => (hfresh id hid).2⟩

end Accounted

end Farseer
