import Farseer.Container.Stream
import Farseer.Linux.Roster

/-! A meter beside a run of the provider. It may move when the events of a socket are handled and when a task is
executed, and tells what went in and out until now; the program does not have it. -/

namespace Farseer.Linux

variable {υ μ : Type}

/-- How a meter moves, from the world before. -/
structure Gauge (μ υ : Type) where
  handled : FileDescriptor → UInt32 → World υ → μ → μ
  executed : Task υ → World υ → μ → μ

/-- Bytes for the socket of a descriptor, if there is one. -/
def World.addFor (w : World υ) (fd : FileDescriptor) (bytes : SocketIdentifier → Socket υ → List UInt8)
    (meter : ByteMeter) : ByteMeter :=
  match w.fileDescriptorsToSockets[fd]? with
  | some id =>
    match w.sockets[id]? with
    | some s => meter.add id (bytes id s)
    | none => meter
  | none => meter

section AddFor

variable {w : World υ} {fd : FileDescriptor} {id : SocketIdentifier}

theorem World.addFor_none (h : w.fileDescriptorsToSockets[fd]? = none)
    (bytes : SocketIdentifier → Socket υ → List UInt8) (meter : ByteMeter) : w.addFor fd bytes meter = meter := by
  rw [addFor, h]

theorem World.addFor_some {s : Socket υ} (h : w.fileDescriptorsToSockets[fd]? = some id) (hs : w.sockets[id]? = some s)
    (bytes : SocketIdentifier → Socket υ → List UInt8) (meter : ByteMeter) :
    w.addFor fd bytes meter = meter.add id (bytes id s) := by
  rw [addFor, h]
  dsimp only
  rw [hs]

end AddFor

namespace EventLoop

def Works (l : EventLoop υ) : Prop :=
  match l.control with
  | .batch (event :: _) => event.fileDescriptor ≠ l.eventFileDescriptor
  | .tasks (some _ :: _) _ => True
  | _ => False

/-- A run of the provider and the meter at its end. -/
inductive Metered [Ballotin] (registry : ProtocolRegistry) (gauge : Gauge μ υ) (start : μ) : EventLoop υ → μ → Prop
  | initial (l : EventLoop υ) (h : l.Initial) : Metered registry gauge start l start
  | socketEvents {l : EventLoop υ} {meter : μ} (h : Metered registry gauge start l meter) (event : EpollEvent)
      (events : List EpollEvent) (hcontrol : l.control = .batch (event :: events))
      (hfd : event.fileDescriptor ≠ l.eventFileDescriptor) :
    Metered registry gauge start (l.handled registry event events)
      (gauge.handled event.fileDescriptor event.events l.world meter)
  | executeTask {l : EventLoop υ} {meter : μ} (h : Metered registry gauge start l meter) (task : Task υ)
      (tasksBuffer : List (Option (Task υ))) (events : List EpollEvent)
      (hcontrol : l.control = .tasks (some task :: tasksBuffer) events) :
    Metered registry gauge start (l.executed registry task tasksBuffer events) (gauge.executed task l.world meter)
  | other {l l' : EventLoop υ} {meter : μ} (h : Metered registry gauge start l meter) (hstep : Step registry l l')
      (hother : l.Works → l'.control = l.control) : Metered registry gauge start l' meter

variable [Ballotin] {registry : ProtocolRegistry} {gauge : Gauge μ υ} {start meter : μ} {l l' : EventLoop υ}

theorem Metered.reachable (h : Metered registry gauge start l meter) : l.Reachable registry := by
  induction h with
  | initial l h => exact .initial h
  | socketEvents _ event events hcontrol hfd ih => exact ih.step (.socketEvents _ event events hcontrol hfd)
  | executeTask _ task tasksBuffer events hcontrol ih =>
    exact ih.step (.executeTask _ task tasksBuffer events hcontrol)
  | other _ hstep _ ih => exact ih.step hstep

/-- A step moves the meter once at most. -/
theorem Metered.step (h : Metered registry gauge start l meter) (hstep : Step registry l l') :
    ∃ meter', Metered registry gauge start l' meter' ∧ (meter' = meter ∨
      (∃ fd events, meter' = gauge.handled fd events l.world meter) ∨
        ∃ task, l.Executes task ∧ meter' = gauge.executed task l.world meter) := by
  have hidle : ¬ l.Works → Metered registry gauge start l' meter := fun hworks => h.other hstep fun hl => absurd hl hworks
  cases hstep with
  | insertTask task outcome => exact ⟨meter, h.other (.insertTask l task outcome) fun _ => rfl, .inl rfl⟩
  | outcomes script => exact ⟨meter, h.other (.outcomes l script) fun _ => rfl, .inl rfl⟩
  | wait events hcontrol hevents => exact ⟨meter, hidle fun h => by rwa [Works, hcontrol] at h, .inl rfl⟩
  | waitFailed hcontrol => exact ⟨meter, hidle fun h => by rwa [Works, hcontrol] at h, .inl rfl⟩
  | batchDone hcontrol => exact ⟨meter, hidle fun h => by rwa [Works, hcontrol] at h, .inl rfl⟩
  | socketEvents event events hcontrol hfd =>
    exact ⟨_, h.socketEvents event events hcontrol hfd, .inr (.inl ⟨_, _, rfl⟩)⟩
  | transfer event events outcome hcontrol hfd =>
    refine ⟨meter, hidle fun h => ?_, .inl rfl⟩
    rw [Works, hcontrol] at h
    exact h hfd
  | executeTask task tasksBuffer events hcontrol =>
    exact ⟨_, h.executeTask task tasksBuffer events hcontrol, .inr (.inr ⟨task, ⟨_, _, hcontrol⟩, rfl⟩)⟩
  | abort tasksBuffer events hcontrol => exact ⟨meter, hidle fun h => by rwa [Works, hcontrol] at h, .inl rfl⟩
  | tasksDone events hcontrol => exact ⟨meter, hidle fun h => by rwa [Works, hcontrol] at h, .inl rfl⟩

/-- Every run can be metered, and what holds of the meter at the start and is kept when it moves holds at the end. -/
theorem Run.metered {P : Task υ → Prop} {Q : μ → Prop}
    (h : l.Run fun l l' => Step registry l l' ∧ ∀ task, l.Executes task → P task) (hstart : Q start)
    (hhandled : ∀ fd events (w : World υ) meter, Q meter → Q (gauge.handled fd events w meter))
    (hexecuted : ∀ task (w : World υ) meter, P task → Q meter → Q (gauge.executed task w meter)) :
    ∃ meter, Metered registry gauge start l meter ∧ Q meter := by
  have hinitial : ∀ l : EventLoop υ, l.Initial → ∃ meter, Metered registry gauge start l meter ∧ Q meter :=
    fun l hl => ⟨start, .initial l hl, hstart⟩
  refine Run.invariant hinitial ?_ h
  rintro l l' ⟨meter, hmeter, hq⟩ ⟨hstep, htasks⟩
  obtain ⟨meter', hmeter', rfl | ⟨fd, events, rfl⟩ | ⟨task, htask, rfl⟩⟩ := hmeter.step hstep
  · exact ⟨meter', hmeter', hq⟩
  · exact ⟨_, hmeter', hhandled fd events l.world meter hq⟩
  · exact ⟨_, hmeter', hexecuted task l.world meter (htasks task htask) hq⟩

/-- Every run can be metered. -/
theorem Reachable.metered (gauge : Gauge μ υ) (start : μ) (h : l.Reachable registry) :
    ∃ meter, Metered registry gauge start l meter := by
  have hinitial : ∀ l : EventLoop υ, l.Initial → ∃ meter, Metered registry gauge start l meter :=
    fun l hl => ⟨start, .initial l hl⟩
  refine Run.invariant hinitial ?_ h
  rintro l l' ⟨meter, hmeter⟩ hstep
  obtain ⟨meter', hmeter', -⟩ := hmeter.step hstep
  exact ⟨meter', hmeter'⟩

/-- Of the world, a step that does no work changes nothing but the outcomes to come. -/
theorem Step.idle (h : Step registry l l') (hother : l.Works → l'.control = l.control) :
    ∃ script, l'.world = { l.world with kernel := { l.world.kernel with script } } := by
  cases h with
  | insertTask | wait | waitFailed | batchDone | abort | tasksDone => exact ⟨l.world.kernel.script, rfl⟩
  | outcomes script => exact ⟨script, rfl⟩
  | socketEvents event events hcontrol hfd =>
    -- handling an event takes it off the batch
    have hsame := hother (by rwa [Works, hcontrol])
    rw [hcontrol, handled] at hsame
    split at hsame
    · rw [Control.batch.injEq] at hsame
      exact absurd hsame (List.cons_ne_self event events).symm
    · cases hsame
  | transfer event events outcome hcontrol hfd =>
    refine ⟨l.world.kernel.script, ?_⟩
    unfold transferred
    cases TaskQueue.transfer outcome l.taskQueue <;> rfl
  | executeTask task tasksBuffer events hcontrol =>
    have hsame := hother (by rw [Works, hcontrol]; trivial)
    rw [hcontrol, executed, Control.tasks.injEq] at hsame
    exact absurd hsame.1 (List.cons_ne_self (some task) tasksBuffer).symm

theorem handled_world (registry : ProtocolRegistry) (l : EventLoop υ) (event : EpollEvent) (events : List EpollEvent) :
    (l.handled registry event events).world =
      Program.final (SocketContainer.handleSocketEvents registry event.fileDescriptor event.events l.world) := by
  unfold handled
  cases SocketContainer.handleSocketEvents registry event.fileDescriptor event.events l.world <;> rfl

/-- What holds at the start and is kept by all that moves the meter, under the identifiers of the history. -/
theorem Metered.invariant {I : World υ → μ → Prop} (h : Metered registry gauge start l meter)
    (hdistinct : DistinctIdentifiers l.world.history) (hinitial : ∀ l : EventLoop υ, l.Initial → I l.world start)
    (hscript : ∀ (w : World υ) (m : μ) (script : Script), I w m →
      I { w with kernel := { w.kernel with script } } m)
    (hhandled : ∀ (l : EventLoop υ) (m : μ) (fd : FileDescriptor) (events : UInt32), l.Reachable registry →
      fd ≠ l.eventFileDescriptor → I l.world m → DistinctIdentifiers
        (Program.final (SocketContainer.handleSocketEvents registry fd events l.world)).history →
      I (Program.final (SocketContainer.handleSocketEvents registry fd events l.world))
        (gauge.handled fd events l.world m))
    (hexecuted : ∀ (l : EventLoop υ) (m : μ) (task : Task υ), l.Reachable registry → I l.world m →
      DistinctIdentifiers (Program.final (task.execute registry l.world)).history →
      I (Program.final (task.execute registry l.world)) (gauge.executed task l.world m)) :
    I l.world meter := by
  induction h with
  | initial l h => exact hinitial l h
  | @socketEvents l meter h event events hcontrol hfd ih =>
    have hstep : Step registry l _ := .socketEvents l event events hcontrol hfd
    have hbefore := ih (hdistinct.mono hstep.follows.grows)
    rw [handled_world] at hdistinct ⊢
    exact hhandled l meter _ _ h.reachable hfd hbefore hdistinct
  | @executeTask l meter h task tasksBuffer events hcontrol ih =>
    have hstep : Step registry l _ := .executeTask l task tasksBuffer events hcontrol
    exact hexecuted l meter task h.reachable (ih (hdistinct.mono hstep.follows.grows)) hdistinct
  | other _ hstep hother ih =>
    have hbefore := ih (hdistinct.mono hstep.follows.grows)
    obtain ⟨script, hworld⟩ := hstep.idle hother
    rw [hworld]
    exact hscript _ _ script hbefore

end EventLoop

end Farseer.Linux
