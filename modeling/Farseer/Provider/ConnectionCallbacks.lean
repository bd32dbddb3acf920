import Farseer.Container.CallbackGrammar
import Farseer.Linux.Roster
import Farseer.Windows.Roster

/-! What the connection callbacks of a provider are called with, on Linux and on Windows. -/

namespace Farseer

variable {υ : Type}

namespace Windows

/-- A socket that waits for its client has not been reported, and is not while it waits. -/
theorem Accounts.pending {w : World υ} (h : Accounts 0 w) {id : SocketIdentifier} {s : Socket υ}
    (hs : w.sockets[id]? = some s) (hpending : s.pendingAccept = true) :
    ∃ listener, w.roster.role id = some (.pending listener) := by
  obtain ⟨role, hrole, ⟨hkind, -⟩, -⟩ := h.cast id s hs
  simp only [Socket.kind] at hkind
  cases role with
  | pending listener => exact ⟨listener, hrole⟩
  | _ => simp [kindOf, hpending] at hkind

end Windows

/-- Over every run in which identifiers do not repeat, whatever fails and whatever the callbacks
throw, every connection callback is called with a word of its grammar. On Windows this is so until
the scheduler drains, and the sockets that wait for a client are reported to nobody. -/
theorem connectionCallbacks_grammatical [Ballotin] (registry : ProtocolRegistry) :
    (∀ l : Linux.EventLoop υ, l.Reachable registry → DistinctIdentifiers l.world.history →
      l.world.roster.Grammatical) ∧
    ∀ l : Windows.OperationScheduler υ, l.Reachable registry → l.draining = false →
      DistinctIdentifiers l.world.history → l.world.roster.Grammatical ∧
        ∀ (id : SocketIdentifier) (s : Windows.Socket υ), l.world.sockets[id]? = some s → s.pendingAccept = true →
          ∀ receiver event, .notified receiver event id ∉ l.world.history := by
  constructor
  · intro l hl hdistinct
    obtain ⟨-, hsteps⟩ := hl.follows hdistinct
    exact (hsteps.told hdistinct).grammatical hdistinct
  · intro l hl hdraining hdistinct
    have haccounts := hl.accounts hdraining hdistinct
    have hgrammatical := (haccounts.steps.told hdistinct).grammatical hdistinct
    refine ⟨hgrammatical, fun id s hs hpending => ?_⟩
    obtain ⟨listener, hrole⟩ := haccounts.pending hs hpending
    exact hgrammatical.pending id listener hrole

/-- A socket listens, its first client connects and leaves, and the second is waited for. -/
def servedScheduler : Windows.OperationScheduler Unit :=
  let _ := referenceBallotin
  ((((Windows.OperationScheduler.new ()).withScript { identifiersTaken := [1] }).scheduled
    (.listen 1 "127.0.0.1" 8080 Linux.silent)).consumed Linux.emptyRegistry [] []
      (.listen 1 "127.0.0.1" 8080 Linux.silent) (.succeeded [])).consumed Linux.emptyRegistry [] []
        (.accept 1 2) (.succeeded []) |>.consumed Linux.emptyRegistry [.accept 1 3] [] (.receive 2) (.succeeded [])

theorem servedScheduler_grammatical : servedScheduler.world.roster.Grammatical ∧
    servedScheduler.world.roster.word 1 = [(.serverOpen, 1), (.clientOpen, 2), (.clientClosed, 2)] := by
  let _ := referenceBallotin
  have hlistening := ((Windows.OperationScheduler.Run.initial
    (R := Windows.OperationScheduler.Step Linux.emptyRegistry) ()).step
      (.outcomes _ { identifiersTaken := [1] })).step
        (.schedule _ (.listen 1 "127.0.0.1" 8080 Linux.silent) rfl rfl)
  have hopened := hlistening.step (.consume _ [] [] _ (.succeeded []) rfl rfl fun _ => rfl)
  have haccepted := hopened.step (.consume _ [] [] (.accept 1 2) (.succeeded []) rfl rfl fun _ => rfl)
  have hserved : servedScheduler.Reachable Linux.emptyRegistry :=
    haccepted.step (.consume _ [.accept 1 3] [] (.receive 2) (.succeeded []) rfl rfl fun _ => rfl)
  exact ⟨((connectionCallbacks_grammatical Linux.emptyRegistry).2 servedScheduler hserved rfl (by decide)).1, by decide⟩

end Farseer
