import Farseer.Linux.Startup
import Farseer.Windows.Startup

/-! When the user of `listen` and `connect` can learn what became of the socket, on Linux and on
Windows: when the socket was inserted. A failure before that is only logged. -/

namespace Farseer

variable {υ : Type}

namespace Linux

theorem World.Cast.absent {w : World υ} (h : w.Cast) {id : SocketIdentifier}
    (hunknown : id ∉ insertedIdentifiers w.history) : w.sockets[id]? = none := by
  refine Option.eq_none_iff_forall_ne_some.mpr fun s hs => ?_
  obtain ⟨-, hplays⟩ := h id s hs
  rw [roleOf_eq_none hunknown] at hplays
  unfold Socket.Plays at hplays
  split at hplays <;> simp at hplays

namespace EventLoop

variable [Ballotin] {registry : ProtocolRegistry} {l l' : EventLoop υ}

theorem later_grows (h : Relation.ReflTransGen (Step registry) l l') : l.world.history <+: l'.world.history := by
  induction h with
  | refl => exact List.prefix_rfl
  | tail _ hstep ih => exact ih.trans hstep.follows.grows

theorem Reachable.told (h : l.Reachable registry) (hdistinct : DistinctIdentifiers l.world.history) :
    l.world.roster.Told := (h.follows hdistinct).2.told hdistinct

end EventLoop

end Linux

/-- Whenever a `listen` or a `connect` is executed under an identifier that is new, its user can learn
of the socket in every later state, in which identifiers do not repeat and the provider is alive, if
and only if every call succeeds that is made before the socket is in the container. -/
theorem startup_answered_iff [Ballotin] (registry : ProtocolRegistry) (id : SocketIdentifier) :
    (∀ (l : Linux.EventLoop υ) (task : Linux.Task υ) (tasksBuffer : List (Option (Linux.Task υ)))
      (events : List Linux.EpollEvent), l.Reachable registry → l.control = .tasks (some task :: tasksBuffer) events →
      task.announced = some id → DistinctIdentifiers l.world.history → id ∉ insertedIdentifiers l.world.history →
      ((∀ l' : Linux.EventLoop υ, Relation.ReflTransGen (Linux.EventLoop.Step registry)
          (l.executed registry task tasksBuffer events) l' → DistinctIdentifiers l'.world.history →
          l'.world.roster.Answered id) ↔
        task.Starts l.world.kernel.script)) ∧
    ∀ (l : Windows.OperationScheduler υ) (before after : List (Windows.Operation υ)) (operation : Windows.Operation υ),
      l.Reachable registry → l.draining = false → l.world.outstanding = before ++ operation :: after →
      operation.announced = some id → DistinctIdentifiers l.world.history →
      id ∉ insertedIdentifiers l.world.history →
      ((∀ l' : Windows.OperationScheduler υ, Relation.ReflTransGen (Windows.OperationScheduler.Step registry)
          (l.consumed registry before after operation (.succeeded [])) l' ∧ l'.draining = false →
          DistinctIdentifiers l'.world.history → l'.world.roster.Answered id) ↔
        operation.Starts l.world.script) := by
  constructor
  · intro l task tasksBuffer events hl hcontrol hid hdistinct hunknown
    have hexecuted := hl.step (.executeTask l task tasksBuffer events hcontrol)
    obtain ⟨hcast, -⟩ := hl.follows hdistinct
    have hconsistent := Linux.EventLoop.Reachable.consistent hl
    have hstarts := Linux.Task.execute_starts registry hid hconsistent (hcast.absent hunknown)
    refine hstarts.answered_iff (fun l' : Linux.EventLoop υ => l'.world.roster)
      (l.executed registry task tasksBuffer events) (hl.told hdistinct) hdistinct hunknown .refl ?_
    intro l' hrun hdistinct'
    have hl' : l'.Reachable registry := hexecuted.later hrun
    exact ⟨Linux.EventLoop.later_grows hrun, hl'.told hdistinct'⟩
  · intro l before after operation hl hdraining houtstanding hid hdistinct hunknown
    have hcompletes : operation.Completes (.succeeded []) := fun _ => rfl
    have hconsumed := hl.step (.consume l before after operation _ hdraining houtstanding hcompletes)
    have haccounts := hl.accounts hdraining hdistinct
    have habsent : l.world.sockets[id]? = none := by
      refine Option.eq_none_iff_forall_ne_some.mpr fun s hs => ?_
      obtain ⟨role, hrole, -⟩ := haccounts.cast id s hs
      rw [roleOf_eq_none hunknown] at hrole
      cases hrole
    have hstarts := Windows.Operation.consume_starts registry hid
      (w := Windows.OperationScheduler.dequeued before after l.world) habsent []
    refine hstarts.answered_iff (fun l' : Windows.OperationScheduler υ => l'.world.roster)
      (l.consumed registry before after operation (.succeeded [])) (haccounts.steps.told hdistinct) hdistinct
      hunknown ⟨.refl, hdraining⟩ ?_
    rintro l' ⟨hrun, hdraining'⟩ hdistinct'
    have hl' : l'.Reachable registry := hconsumed.later hrun
    exact ⟨Windows.OperationScheduler.later_grows hrun, (hl'.accounts hdraining' hdistinct').steps.told hdistinct'⟩

/-- A provider that is about to listen under a port that another process uses. -/
def occupiedLoop : Linux.EventLoop Unit :=
  ((Linux.EventLoop.new 3 4 ()).withScript { binds := [.failure "Address already in use"] }).given
    [.listen 1 "127.0.0.1" 8080 Linux.silent] []

theorem occupiedLoop_reachable [Ballotin] : occupiedLoop.Reachable Linux.emptyRegistry := by
  have hstart := (Linux.EventLoop.Run.initial (R := Linux.EventLoop.Step Linux.emptyRegistry)
    (Linux.EventLoop.new_initial 3 4 ())).step (.outcomes _ { binds := [.failure "Address already in use"] })
  have hreports : ((Linux.EventLoop.new 3 4 ()).withScript { binds := [.failure "Address already in use"] }).Reports
      [{ fileDescriptor := 4, events := Linux.EPOLLIN }] :=
    ⟨by decide, by decide, fun e he => by rw [List.mem_singleton.mp he]; decide⟩
  exact Linux.EventLoop.given_run (fun _ _ hstep _ => hstep) hstart rfl rfl
    (.listen 1 "127.0.0.1" 8080 Linux.silent) [] hreports

/-- The `bind` of a `listen` fails: there is no socket, and the callback is not called. -/
theorem occupiedLoop_silent : ¬ ∀ (registry : ProtocolRegistry) (id : SocketIdentifier) (l : Linux.EventLoop Unit)
    (task : Linux.Task Unit) (tasksBuffer : List (Option (Linux.Task Unit))) (events : List Linux.EpollEvent),
    @Linux.EventLoop.Reachable Unit referenceBallotin registry l →
    l.control = .tasks (some task :: tasksBuffer) events → task.announced = some id →
    DistinctIdentifiers l.world.history → id ∉ insertedIdentifiers l.world.history →
      (l.executed registry task tasksBuffer events).world.roster.Answered id := by
  intro hclaim
  have hanswered := hclaim Linux.emptyRegistry 1 occupiedLoop _ [] [] (@occupiedLoop_reachable referenceBallotin) rfl rfl
    (by decide) (by decide)
  rcases hanswered with hsocket | hcount
  · exact hsocket (by decide)
  · exact absurd hcount (by decide)

def exhaustedScheduler : Windows.OperationScheduler Unit :=
  ((Windows.OperationScheduler.new ()).withScript { sockets := [.failure "10055"] }).scheduled
    (.connect 1 "127.0.0.1" 8080 Linux.silent false)

theorem startup_answered_examples :
    let _ := referenceBallotin
    (∀ l' : Linux.EventLoop Unit, Relation.ReflTransGen (Linux.EventLoop.Step Linux.emptyRegistry)
        (((Linux.EventLoop.new 3 4 ()).given [.listen 1 "127.0.0.1" 8080 Linux.silent] []).executed Linux.emptyRegistry
          (.listen 1 "127.0.0.1" 8080 Linux.silent) [] []) l' →
      DistinctIdentifiers l'.world.history → l'.world.roster.Answered 1) ∧
    ¬ ∀ l' : Windows.OperationScheduler Unit, Relation.ReflTransGen (Windows.OperationScheduler.Step Linux.emptyRegistry)
        (exhaustedScheduler.consumed Linux.emptyRegistry [] [] (.connect 1 "127.0.0.1" 8080 Linux.silent false)
          (.succeeded [])) l' ∧ l'.draining = false →
      DistinctIdentifiers l'.world.history → l'.world.roster.Answered 1 := by
  let _ := referenceBallotin
  obtain ⟨hlinux, hwindows⟩ := startup_answered_iff (υ := Unit) Linux.emptyRegistry 1
  constructor
  · have hreports : (Linux.EventLoop.new 3 4 ()).Reports [{ fileDescriptor := 4, events := Linux.EPOLLIN }] :=
      ⟨by decide, by decide, fun e he => by rw [List.mem_singleton.mp he]; decide⟩
    have hgiven := Linux.EventLoop.given_run (fun _ _ hstep _ => hstep)
      (.initial (R := Linux.EventLoop.Step Linux.emptyRegistry) (Linux.EventLoop.new_initial 3 4 ())) rfl rfl
      (.listen 1 "127.0.0.1" 8080 Linux.silent) [] hreports
    exact (hlinux _ _ [] [] hgiven rfl rfl (by decide) (by decide)).mpr ⟨nofun, rfl, rfl, rfl, rfl⟩
  · have hscheduled := ((Windows.OperationScheduler.Run.initial
      (R := Windows.OperationScheduler.Step Linux.emptyRegistry) ()).step
        (.outcomes _ { sockets := [.failure "10055"] })).step
          (.schedule _ (.connect 1 "127.0.0.1" 8080 Linux.silent false) rfl rfl)
    intro hanswered
    have hstarts := (hwindows _ [] [] _ hscheduled rfl rfl rfl (by decide) (by decide)).mp hanswered
    cases hstarts.created

end Farseer
