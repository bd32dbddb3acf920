import Farseer.Linux.Consistency
import Farseer.Linux.TaskDelivery

/-! How the event thread ends. An exception of a task or of the handlers of a socket is caught, and
the event descriptor is read only after `epoll_wait` has reported it; the one call that can end the
thread while the provider is in use is `epoll_wait`. -/

namespace Farseer.Linux

variable {υ : Type}

namespace SocketContainer

variable {w : World υ}

theorem eraseSocket_returns (id : SocketIdentifier) (w : World υ) : ∃ w', eraseSocket id w = .ok () w' := by
  cases hs : w.sockets[id]? with
  | none => exact ⟨_, eraseSocket_none hs⟩
  | some s => exact ⟨_, eraseSocket_some hs⟩

/-- A descriptor that is mapped to a socket has one, and what its handler throws is caught. -/
theorem handleSocketEvents_returns [Ballotin] (registry : ProtocolRegistry) {r : FileDescriptor}
    (hvalid : w.table.Valid r) (fd : FileDescriptor) (events : UInt32) :
    ∃ w', handleSocketEvents registry fd events w = .ok () w' := by
  rw [handleSocketEvents, Program.bind_ok Program.get_apply]
  cases hid : w.fileDescriptorsToSockets[fd]? with
  | none =>
    dsimp only
    obtain ⟨script, hunsubscribe | hunsubscribe⟩ := unsubscribe_cases fd w.kernel
    · exact ⟨_, onKernel_ok hunsubscribe⟩
    · exact ⟨_, onKernel_ok hunsubscribe⟩
  | some id =>
    obtain ⟨s, hs, -⟩ := (World.Consistent.of_valid hvalid).descriptors fd id |>.mp hid
    dsimp only
    rcases dereference_cases id w with ⟨s', -, hok⟩ | ⟨hnone, -⟩
    · rw [Program.bind_ok hok]
      unfold Program.tryCatchAll
      cases handleSocketEventsWork registry id events w with
      | ok _ w' => exact ⟨w', rfl⟩
      | error e w' => exact eraseSocket_returns s'.socketIdentifier w'
    · rw [hs] at hnone
      cases hnone

end SocketContainer

theorem EventLoop.Reachable.attended [Ballotin] {registry : ProtocolRegistry} {l : EventLoop υ}
    (h : l.Reachable registry) (hcontrol : l.control = .waiting) {event : EpollEvent} (hreports : l.Reports [event])
    (hfd : event.fileDescriptor ≠ l.eventFileDescriptor) :
    EventLoop.Reachable registry { (l.waited [event]).handled registry event [] with control := .waiting } := by
  have hwaited : (l.waited [event]).Reachable registry := h.step (.wait l [event] hcontrol hreports)
  have hhandled := hwaited.step (.socketEvents _ event [] rfl hfd)
  obtain ⟨world, hok⟩ := SocketContainer.handleSocketEvents_returns registry
    (Reachable.sound hwaited).valid event.fileDescriptor event.events
  refine hhandled.step (.batchDone _ ?_)
  rw [handled, hok]

namespace EventLoop

/-- A run: the states it has passed, and the one it has come to. -/
inductive Trace (R : EventLoop υ → EventLoop υ → Prop) : List (EventLoop υ) → EventLoop υ → Prop
  | initial {l : EventLoop υ} (h : l.Initial) : Trace R [] l
  | step {passed : List (EventLoop υ)} {l l' : EventLoop υ} (h : Trace R passed l) (hstep : R l l') :
    Trace R (passed ++ [l]) l'

def Reported (l : EventLoop υ) (events : List EpollEvent) : Prop :=
  ∃ event ∈ events, event.fileDescriptor = l.eventFileDescriptor

/-- `epoll_wait` reports an event descriptor that has nothing to read. -/
def ReportsUnreadable (l l' : EventLoop υ) : Prop :=
  l.taskQueue.eventCounter = 0 ∧
    ∃ events, l.control = .waiting ∧ l'.control = .batch events ∧ l.Reported events

/-- `read` fails on an event descriptor whose counter is positive. -/
def FailsToRead (l l' : EventLoop υ) : Prop :=
  0 < l.taskQueue.eventCounter ∧ ∃ event events error, l.control = .batch (event :: events) ∧
    event.fileDescriptor = l.eventFileDescriptor ∧ l' = l.transferred (.failure error) events

/-- `epoll_wait` fails, for instance because a signal interrupted it. -/
def Interrupted (l l' : EventLoop υ) : Prop := l.control = .waiting ∧ l'.control = .exited

/-- A step in which the kernel does with the event descriptor what it documents: a descriptor that
is reported can be read, and one that can be read is read. -/
def ThreadStep [Ballotin] (registry : ProtocolRegistry) (l l' : EventLoop υ) : Prop :=
  Step registry l l' ∧ ¬ ReportsUnreadable l l' ∧ ¬ FailsToRead l l'

/-- The null task has been in the queue, and the thread has taken it from its buffer. -/
structure Dismissed (passed : List (EventLoop υ)) : Prop where
  inserted : ∃ l ∈ passed, none ∈ l.taskQueue.tasks
  dequeued : ∃ l ∈ passed, ∃ tasksBuffer events, l.control = .tasks (none :: tasksBuffer) events

theorem Dismissed.concat {passed : List (EventLoop υ)} (h : Dismissed passed) (l : EventLoop υ) :
    Dismissed (passed ++ [l]) := by
  obtain ⟨⟨a, ha, hinserted⟩, b, hb, hdequeued⟩ := h
  exact ⟨⟨a, List.mem_append_left _ ha, hinserted⟩, b, List.mem_append_left _ hb, hdequeued⟩

/-- What the thread relies on where it is: in a batch that reports the event descriptor this can be
read, in the rest of a batch it is not reported again, and a null task in the buffer was inserted. -/
def Attends (passed : List (EventLoop υ)) (l : EventLoop υ) : Control υ → Prop
  | .waiting => True
  | .batch events =>
    (events.map EpollEvent.fileDescriptor).Nodup ∧ (l.Reported events → 0 < l.taskQueue.eventCounter)
  | .tasks tasksBuffer events =>
    (events.map EpollEvent.fileDescriptor).Nodup ∧ ¬ l.Reported events ∧
      (none ∈ tasksBuffer → ∃ b ∈ passed, none ∈ b.taskQueue.tasks)
  | .exited => Dismissed passed

/-- The same place after a step that leaves the thread there and does not empty the counter. -/
theorem Attends.stay {passed : List (EventLoop υ)} {l : EventLoop υ} {control : Control υ}
    (h : l.Attends passed control) {l' : EventLoop υ} (hfd : l'.eventFileDescriptor = l.eventFileDescriptor)
    (hcounter : l.taskQueue.eventCounter ≤ l'.taskQueue.eventCounter) : l'.Attends (passed ++ [l]) control := by
  have hreported : ∀ events, l'.Reported events ↔ l.Reported events := by
    intro events
    unfold Reported
    rw [hfd]
  cases control with
  | waiting => trivial
  | batch events =>
    obtain ⟨hnodup, hreadable⟩ := h
    refine ⟨hnodup, fun hevents => ?_⟩
    have := hreadable ((hreported events).mp hevents)
    omega
  | tasks tasksBuffer events =>
    obtain ⟨hnodup, hnot, hinserted⟩ := h
    refine ⟨hnodup, fun hevents => hnot ((hreported events).mp hevents), fun hnone => ?_⟩
    obtain ⟨b, hb, hb'⟩ := hinserted hnone
    exact ⟨b, List.mem_append_left _ hb, hb'⟩
  | exited => exact Dismissed.concat h l

theorem reported_tail {l : EventLoop υ} {event : EpollEvent} {events : List EpollEvent}
    (h : l.Reported events) : l.Reported (event :: events) := by
  obtain ⟨e, he, hfd⟩ := h
  exact ⟨e, List.mem_cons_of_mem _ he, hfd⟩

theorem insert_eventCounter (queue : TaskQueue υ) (task : Option (Task υ)) (outcome : Outcome) :
    queue.eventCounter ≤ (Program.final (TaskQueue.insert task outcome queue)).eventCounter := by
  cases outcome with
  | success => exact Nat.le_succ _
  | failure error =>
    rw [TaskQueue.insert_failure]
    exact le_rfl

variable [Ballotin] {registry : ProtocolRegistry}

theorem ThreadStep.attends {passed : List (EventLoop υ)} {l l' : EventLoop υ} (hsound : l.Sound)
    (h : l.Attends passed l.control) (hstep : ThreadStep registry l l') (hinterrupted : ¬ Interrupted l l') :
    l'.Attends (passed ++ [l]) l'.control := by
  obtain ⟨hstep, hreadable, hread⟩ := hstep
  cases hstep with
  | insertTask task outcome => exact h.stay rfl (insert_eventCounter _ _ _)
  | outcomes script => exact h.stay rfl le_rfl
  | wait events hcontrol hevents =>
    refine ⟨hevents.distinct, fun hreported => ?_⟩
    by_contra hzero
    exact hreadable ⟨Nat.eq_zero_of_not_pos hzero, events, hcontrol, rfl, hreported⟩
  | waitFailed hcontrol => exact absurd ⟨hcontrol, rfl⟩ hinterrupted
  | batchDone hcontrol => trivial
  | socketEvents event events hcontrol hfd =>
    rw [hcontrol] at h
    obtain ⟨hnodup, hcounter⟩ := h
    obtain ⟨world, hok⟩ := SocketContainer.handleSocketEvents_returns registry hsound.valid event.fileDescriptor
      event.events
    rw [handled, hok]
    exact ⟨(List.nodup_cons.mp hnodup).2, fun hreported => hcounter (reported_tail hreported)⟩
  | transfer event events outcome hcontrol hfd =>
    rw [hcontrol] at h
    obtain ⟨hnodup, hcounter⟩ := h
    have hpositive : 0 < l.taskQueue.eventCounter := hcounter ⟨event, List.mem_cons_self, hfd⟩
    rcases TaskQueue.transfer_cases l.taskQueue outcome with ⟨-, hok⟩ | ⟨e, herror, hsuccess⟩
    · rw [transferred, hok]
      rw [List.map_cons, List.nodup_cons] at hnodup
      refine ⟨hnodup.2, fun hlater => hnodup.1 ?_, fun hnone => ⟨l, by simp, hnone⟩⟩
      obtain ⟨e, he, hsame⟩ := hlater
      rw [hfd]
      exact List.mem_map.mpr ⟨e, he, hsame⟩
    · cases outcome with
      | success =>
        have := hsuccess rfl
        omega
      | failure error => exact absurd ⟨hpositive, event, events, error, hcontrol, hfd, rfl⟩ hread
  | executeTask task tasksBuffer events hcontrol =>
    have hstay : (l.executed registry task tasksBuffer events).Attends (passed ++ [l]) l.control :=
      h.stay rfl le_rfl
    rw [hcontrol] at hstay
    obtain ⟨hnodup, hnot, hinserted⟩ := hstay
    exact ⟨hnodup, hnot, fun hnone => hinserted (List.mem_cons_of_mem _ hnone)⟩
  | abort tasksBuffer events hcontrol =>
    rw [hcontrol] at h
    obtain ⟨-, -, hinserted⟩ := h
    obtain ⟨b, hb, hnone⟩ := hinserted List.mem_cons_self
    refine ⟨⟨b, List.mem_append_left _ hb, hnone⟩, l, by simp, tasksBuffer, events, hcontrol⟩
  | tasksDone events hcontrol =>
    rw [hcontrol] at h
    obtain ⟨hnodup, hnot, -⟩ := h
    exact ⟨hnodup, fun hreported => absurd hreported hnot⟩

/-- In a run in which no `epoll_wait` fails the thread ends only after it has dequeued the null task
that was inserted. -/
theorem eventThread_survives {passed : List (EventLoop υ)} {l : EventLoop υ}
    (h : Trace (fun l l' => ThreadStep registry l l' ∧ ¬ Interrupted l l') passed l)
    (hexited : l.control = .exited) : Dismissed passed := by
  have hattends : l.Sound ∧ l.Attends passed l.control := by
    clear hexited
    induction h with
    | initial h => exact ⟨h.sound, by rw [h.control]; trivial⟩
    | step _ hstep ih => exact ⟨hstep.1.1.sound ih.1, hstep.1.attends ih.1 ih.2 hstep.2⟩
  have hcontrol := hattends.2
  rwa [hexited] at hcontrol

end EventLoop

/-- The event thread of a new provider is interrupted while it waits. -/
theorem interrupted_thread_exits : ¬ ∀ (registry : ProtocolRegistry) (passed : List (EventLoop Unit))
    (l : EventLoop Unit), EventLoop.Trace (@EventLoop.ThreadStep Unit referenceBallotin registry) passed l →
      l.control = .exited → EventLoop.Dismissed passed := by
  intro hclaim
  let _ := referenceBallotin
  have hstep : EventLoop.ThreadStep emptyRegistry (EventLoop.new 3 4 ())
      { EventLoop.new 3 4 () with control := .exited } := by
    refine ⟨.waitFailed _ rfl, ?_, ?_⟩
    · rintro ⟨-, events, -, hcontrol, -⟩
      cases hcontrol
    · rintro ⟨-, event, events, error, hcontrol, -⟩
      cases hcontrol
  obtain ⟨⟨l, hl, hnone⟩, -⟩ := hclaim emptyRegistry _ _ ((EventLoop.Trace.initial (EventLoop.new_initial 3 4 ())).step
    hstep) rfl
  rw [List.nil_append, List.mem_singleton] at hl
  rw [hl] at hnone
  cases hnone

def stoppingLoop : EventLoop Unit :=
  { EventLoop.new 3 4 () with taskQueue := { tasks := [none], eventCounter := 1 } }

def stoppingEvents : List EpollEvent := [{ fileDescriptor := 4, events := EPOLLIN }]

theorem stoppingLoop_dismissed : EventLoop.Dismissed [EventLoop.new 3 4 (), stoppingLoop,
    stoppingLoop.waited stoppingEvents, (stoppingLoop.waited stoppingEvents).transferred .success []] := by
  let _ := referenceBallotin
  let R : EventLoop Unit → EventLoop Unit → Prop := fun l l' =>
    EventLoop.ThreadStep emptyRegistry l l' ∧ ¬ EventLoop.Interrupted l l'
  have hinsert : R (EventLoop.new 3 4 ()) stoppingLoop := by
    refine ⟨⟨.insertTask _ none .success, ?_, ?_⟩, ?_⟩
    · exact fun ⟨_, _, _, h, _⟩ => by cases h
    · exact fun ⟨_, _, _, _, h, _⟩ => by cases h
    · exact fun ⟨_, h⟩ => by cases h
  have hwait : R stoppingLoop (stoppingLoop.waited stoppingEvents) := by
    refine ⟨⟨.wait _ stoppingEvents rfl ⟨by decide, by decide, ?_⟩, ?_, ?_⟩, ?_⟩
    · intro e he
      rw [List.mem_singleton.mp he]
      decide
    · exact fun ⟨h, _⟩ => by cases h
    · exact fun ⟨_, _, _, _, h, _⟩ => by cases h
    · exact fun ⟨_, h⟩ => by cases h
  have htransfer : R (stoppingLoop.waited stoppingEvents)
      ((stoppingLoop.waited stoppingEvents).transferred .success []) := by
    refine ⟨⟨.transfer _ _ [] .success rfl rfl, ?_, ?_⟩, ?_⟩
    · exact fun ⟨_, _, h, _⟩ => by cases h
    · exact fun ⟨_, _, _, _, _, _, h⟩ => by cases congrArg EventLoop.control h
    · exact fun ⟨h, _⟩ => by cases h
  have habort : R ((stoppingLoop.waited stoppingEvents).transferred .success [])
      { (stoppingLoop.waited stoppingEvents).transferred .success [] with control := .exited } := by
    refine ⟨⟨.abort _ [] [] rfl, ?_, ?_⟩, ?_⟩
    · exact fun ⟨_, _, h, _⟩ => by cases h
    · exact fun ⟨_, _, _, _, h, _⟩ => by cases h
    · exact fun ⟨h, _⟩ => by cases h
  have hrun := (((EventLoop.Trace.initial (EventLoop.new_initial 3 4 ())).step hinsert).step hwait).step htransfer
  exact @EventLoop.eventThread_survives Unit referenceBallotin emptyRegistry _ _ (hrun.step habort) rfl

end Farseer.Linux
