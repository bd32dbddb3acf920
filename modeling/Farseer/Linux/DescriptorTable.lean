import Farseer.Linux.Kernel

/-! What the maps of the socket container are for: to tell, for every descriptor that the event
poll may report, the socket that owns it. Here the maps are functions and a socket is the
identifier and the descriptor it holds. -/

namespace Farseer.Linux

structure DescriptorTable where
  sockets : SocketIdentifier → Option (SocketIdentifier × FileDescriptor)
  byDescriptor : FileDescriptor → Option SocketIdentifier
  subscribed : Set FileDescriptor
  openedAt : FileDescriptor → Option ℕ
  clock : ℕ

namespace DescriptorTable

def insert (t : DescriptorTable) (id : SocketIdentifier) (fd : FileDescriptor) : DescriptorTable where
  sockets := Function.update t.sockets id (some (id, fd))
  byDescriptor := Function.update t.byDescriptor fd (some id)
  subscribed := Insert.insert fd t.subscribed
  openedAt := Function.update t.openedAt fd (some t.clock)
  clock := t.clock + 1

def erase (t : DescriptorTable) (id : SocketIdentifier) (fd : FileDescriptor) : DescriptorTable where
  sockets := Function.update t.sockets id none
  byDescriptor := Function.update t.byDescriptor fd none
  subscribed := t.subscribed \ {fd}
  openedAt := Function.update t.openedAt fd none
  clock := t.clock

def tick (t : DescriptorTable) : DescriptorTable := { t with clock := t.clock + 1 }

inductive Step : DescriptorTable → DescriptorTable → Prop
  | insert {t : DescriptorTable} {id : SocketIdentifier} {fd : FileDescriptor} (hid : t.sockets id = none)
      (hfd : t.openedAt fd = none) : Step t (t.insert id fd)
  | erase {t : DescriptorTable} {id key : SocketIdentifier} {fd : FileDescriptor}
      (h : t.sockets id = some (key, fd)) : Step t (t.erase id fd)
  | tick {t : DescriptorTable} : Step t t.tick

/-- The two maps and the subscriptions are in step. The reserved descriptor is that of the task
queue, which is subscribed and belongs to no socket. -/
structure Valid (reserved : FileDescriptor) (t : DescriptorTable) : Prop where
  identifiers : ∀ {id key fd}, t.sockets id = some (key, fd) → key = id
  descriptors : ∀ {fd id}, t.byDescriptor fd = some id ↔ ∃ key, t.sockets id = some (key, fd)
  subscribed : ∀ {fd}, fd ∈ t.subscribed ↔ fd = reserved ∨ ∃ id, t.byDescriptor fd = some id
  opened : ∀ {fd}, fd ∈ t.subscribed → ∃ n, t.openedAt fd = some n
  past : ∀ {fd n}, t.openedAt fd = some n → n < t.clock
  reserved : t.byDescriptor reserved = none

variable {r : FileDescriptor} {t u : DescriptorTable}

theorem Valid.unused (h : t.Valid r) {fd : FileDescriptor} (hfd : t.openedAt fd = none) :
    fd ∉ t.subscribed ∧ t.byDescriptor fd = none := by
  have hsub : fd ∉ t.subscribed := by
    intro hmem
    obtain ⟨n, hn⟩ := h.opened hmem
    rw [hfd] at hn
    cases hn
  refine ⟨hsub, Option.eq_none_iff_forall_ne_some.mpr fun id hid => ?_⟩
  exact hsub (h.subscribed.mpr (.inr ⟨id, hid⟩))

theorem Valid.insert (h : t.Valid r) {id : SocketIdentifier} {fd : FileDescriptor}
    (hid : t.sockets id = none) (hfd : t.openedAt fd = none) : (t.insert id fd).Valid r := by
  obtain ⟨hsub, hmap⟩ := h.unused hfd
  have hreserved : r ≠ fd := by
    rintro rfl
    exact hsub (h.subscribed.mpr (.inl rfl))
  refine ⟨?_, ?_, ?_, ?_, ?_, ?_⟩
  · intro id' key fd' hs
    by_cases heq : id' = id
    · subst heq
      simp only [DescriptorTable.insert, Function.update_self, Option.some.injEq, Prod.mk.injEq] at hs
      exact hs.1.symm
    · simp only [DescriptorTable.insert, Function.update_of_ne heq] at hs
      exact h.identifiers hs
  · intro fd' id'
    simp only [DescriptorTable.insert]
    by_cases hfd' : fd' = fd
    · subst hfd'
      rw [Function.update_self, Option.some.injEq]
      constructor
      · rintro rfl
        exact ⟨id, by rw [Function.update_self]⟩
      · rintro ⟨key, hs⟩
        by_contra hne
        rw [Function.update_of_ne (Ne.symm hne)] at hs
        rw [h.descriptors.mpr ⟨key, hs⟩] at hmap
        cases hmap
    · rw [Function.update_of_ne hfd', h.descriptors]
      by_cases hid' : id' = id
      · subst hid'
        rw [hid, Function.update_self]
        refine iff_of_false (fun ⟨key, hs⟩ => by cases hs) fun ⟨key, hs⟩ => ?_
        obtain ⟨-, rfl⟩ := Prod.mk.inj (Option.some_inj.mp hs)
        exact hfd' rfl
      · rw [Function.update_of_ne hid']
  · intro fd'
    simp only [DescriptorTable.insert, Set.mem_insert_iff]
    by_cases hfd' : fd' = fd
    · subst hfd'
      exact iff_of_true (.inl rfl) (.inr ⟨id, by rw [Function.update_self]⟩)
    · rw [Function.update_of_ne hfd', ← h.subscribed]
      exact or_iff_right hfd'
  · rintro fd' (rfl | hmem)
    · exact ⟨t.clock, by simp only [DescriptorTable.insert, Function.update_self]⟩
    · have hne : fd' ≠ fd := fun heq => hsub (heq ▸ hmem)
      simp only [DescriptorTable.insert, Function.update_of_ne hne]
      exact h.opened hmem
  · intro fd' n hn
    simp only [DescriptorTable.insert] at hn ⊢
    by_cases hfd' : fd' = fd
    · rw [hfd', Function.update_self, Option.some.injEq] at hn
      omega
    · rw [Function.update_of_ne hfd'] at hn
      have hpast := h.past hn
      omega
  · simp only [DescriptorTable.insert, Function.update_of_ne hreserved]
    exact h.reserved

theorem Valid.erase (h : t.Valid r) {id key : SocketIdentifier} {fd : FileDescriptor}
    (hs : t.sockets id = some (key, fd)) : (t.erase id fd).Valid r := by
  have hmap : t.byDescriptor fd = some id := h.descriptors.mpr ⟨key, hs⟩
  have hreserved : r ≠ fd := by
    rintro rfl
    rw [h.reserved] at hmap
    cases hmap
  -- no other socket has the descriptor
  have hother : ∀ {id' key'}, t.sockets id' = some (key', fd) → id' = id := by
    intro id' key' hs'
    exact Option.some_inj.mp ((h.descriptors.mpr ⟨key', hs'⟩).symm.trans hmap)
  refine ⟨?_, ?_, ?_, ?_, ?_, ?_⟩
  · intro id' key' fd' hs'
    by_cases heq : id' = id
    · simp only [DescriptorTable.erase, heq, Function.update_self] at hs'
      cases hs'
    · simp only [DescriptorTable.erase, Function.update_of_ne heq] at hs'
      exact h.identifiers hs'
  · intro fd' id'
    simp only [DescriptorTable.erase]
    by_cases hfd' : fd' = fd
    · subst hfd'
      rw [Function.update_self]
      refine iff_of_false (fun h => by cases h) fun ⟨key', hs'⟩ => ?_
      by_cases hid' : id' = id
      · rw [hid', Function.update_self] at hs'
        cases hs'
      · rw [Function.update_of_ne hid'] at hs'
        exact hid' (hother hs')
    · rw [Function.update_of_ne hfd', h.descriptors]
      by_cases hid' : id' = id
      · subst hid'
        rw [hs, Function.update_self]
        refine iff_of_false (fun ⟨key', hs'⟩ => hfd' ?_) fun ⟨key', hs'⟩ => by cases hs'
        exact (Prod.mk.inj (Option.some_inj.mp hs')).2.symm
      · rw [Function.update_of_ne hid']
  · intro fd'
    simp only [DescriptorTable.erase, Set.mem_sdiff, Set.mem_singleton_iff]
    by_cases hfd' : fd' = fd
    · subst hfd'
      refine iff_of_false (fun h => h.2 rfl) ?_
      rintro (heq | ⟨id', hid'⟩)
      · exact hreserved heq.symm
      · rw [Function.update_self] at hid'
        cases hid'
    · rw [Function.update_of_ne hfd', ← h.subscribed]
      exact and_iff_left hfd'
  · rintro fd' ⟨hmem, hne⟩
    simp only [DescriptorTable.erase, Function.update_of_ne hne]
    exact h.opened hmem
  · intro fd' n hn
    simp only [DescriptorTable.erase] at hn ⊢
    by_cases hfd' : fd' = fd
    · rw [hfd', Function.update_self] at hn
      cases hn
    · rw [Function.update_of_ne hfd'] at hn
      exact h.past hn
  · simp only [DescriptorTable.erase, Function.update_of_ne hreserved]
    exact h.reserved

theorem Valid.step (h : t.Valid r) (hstep : Step t u) : u.Valid r := by
  cases hstep with
  | insert hid hfd => exact h.insert hid hfd
  | erase hs => exact h.erase hs
  | tick => exact ⟨h.identifiers, h.descriptors, h.subscribed, h.opened, fun hn => Nat.lt_succ_of_lt (h.past hn), h.reserved⟩

theorem Valid.steps (h : t.Valid r) (hsteps : Relation.ReflTransGen Step t u) : u.Valid r := by
  induction hsteps with
  | refl => exact h
  | tail _ hstep ih => exact ih.step hstep

/-- Sockets on a descriptor that was opened before a point in time were registered under it then. -/
def Settled (registered : FileDescriptor → Option SocketIdentifier) (time : ℕ) (t : DescriptorTable) : Prop :=
  time ≤ t.clock ∧ ∀ {fd id n}, t.byDescriptor fd = some id → t.openedAt fd = some n → n < time →
    registered fd = some id

theorem settled_now (t : DescriptorTable) : Settled t.byDescriptor t.clock t :=
  ⟨le_refl _, fun hid _ _ => hid⟩

theorem Settled.step {registered : FileDescriptor → Option SocketIdentifier} {time : ℕ}
    (h : Settled registered time t) (hstep : Step t u) : Settled registered time u := by
  obtain ⟨htime, hold⟩ := h
  cases hstep with
  | @insert id fd hid hfd =>
    refine ⟨Nat.le_succ_of_le htime, fun {fd' id' n} hmap hn hlt => ?_⟩
    simp only [DescriptorTable.insert] at hmap hn
    by_cases hfd' : fd' = fd
    · -- the descriptor is new
      rw [hfd', Function.update_self, Option.some.injEq] at hn
      omega
    · rw [Function.update_of_ne hfd'] at hmap hn
      exact hold hmap hn hlt
  | @erase id key fd hs =>
    refine ⟨htime, fun {fd' id' n} hmap hn hlt => ?_⟩
    simp only [DescriptorTable.erase] at hmap hn
    by_cases hfd' : fd' = fd
    · rw [hfd', Function.update_self] at hn
      cases hn
    · rw [Function.update_of_ne hfd'] at hmap hn
      exact hold hmap hn hlt
  | tick => exact ⟨Nat.le_succ_of_le htime, hold⟩

theorem Settled.steps {registered : FileDescriptor → Option SocketIdentifier} {time : ℕ}
    (h : Settled registered time t) (hsteps : Relation.ReflTransGen Step t u) : Settled registered time u := by
  induction hsteps with
  | refl => exact h
  | tail _ hstep ih => exact ih.step hstep

end DescriptorTable

end Farseer.Linux
