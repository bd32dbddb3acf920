import Farseer.Provider.Orphans

/-! Both containers refine the roster. The event loop and the operation scheduler have little in common, but what their
users are told and which readers there are is on both what some run of the roster gives; what holds of every run of the
roster holds of the two of them. -/

namespace Farseer

open Relation

variable {υ : Type}

/-- Between two states of a run the container takes steps of the roster. -/
theorem Linux.EventLoop.steps_roster [Ballotin] {registry : ProtocolRegistry} {l l' : EventLoop υ}
    (hl : l.Reachable registry) (h : ReflTransGen (Step registry) l l') (hdistinct : DistinctIdentifiers l'.world.history) :
    l.world.roster.Steps l'.world.roster := by
  induction h with
  | refl => exact .refl
  | tail hbefore hstep ih =>
    have hmiddle := hdistinct.mono hstep.follows.grows
    have hreachable : Reachable registry _ := hl.later hbefore
    obtain ⟨hcast, -⟩ := hreachable.follows hmiddle
    exact (ih hmiddle).trans (hstep.follows.steps hdistinct hcast).2

/-- In every run of either backend in which identifiers do not repeat, the readers and the history are those of a run of
the roster: on Linux from each state of the run to each later one, on Windows as long as the provider is alive. -/
theorem containers_refine_roster [Ballotin] (registry : ProtocolRegistry) :
    (∀ l l' : Linux.EventLoop υ, l.Reachable registry → ReflTransGen (Linux.EventLoop.Step registry) l l' →
      DistinctIdentifiers l'.world.history →
        Roster.new.Steps l.world.roster ∧ l.world.roster.Steps l'.world.roster) ∧
    ∀ l : Windows.OperationScheduler υ, l.Reachable registry → l.draining = false →
      DistinctIdentifiers l.world.history → Roster.new.Steps l.world.roster := by
  refine ⟨fun l l' hl hrun hdistinct => ?_, fun l hl hdraining hdistinct => (hl.accounts hdraining hdistinct).steps⟩
  have hbefore := hdistinct.mono (Linux.EventLoop.later_grows hrun)
  exact ⟨(hl.follows hbefore).2, Linux.EventLoop.steps_roster hl hrun hdistinct⟩

/-- On both a client was accepted, and the listening socket has left. -/
theorem orphans_refine_roster :
    (Roster.new.Steps orphanLoop.world.roster ∧ orphanLoop.world.roster.role 2 = some (.accepted 1) ∧
      orphanLoop.world.roster.sockets 1 = none) ∧
    Roster.new.Steps orphanScheduler.world.roster ∧ orphanScheduler.world.roster.role 2 = some (.accepted 1) ∧
      orphanScheduler.world.roster.sockets 1 = none := by
  let _ := referenceBallotin
  obtain ⟨hlinux, hwindows⟩ := containers_refine_roster (υ := Unit) Linux.emptyRegistry
  have hloop := (hlinux orphanLoop orphanLoop orphanLoop_reachable .refl (by decide)).1
  have hscheduler := hwindows orphanScheduler orphanScheduler_reachable rfl (by decide)
  exact ⟨⟨hloop, rfl, rfl⟩, hscheduler, rfl, rfl⟩

end Farseer
