import Farseer.Linux.EventLoop

/-! Every task that was put in the queue leaves it once and in order, and a queue with tasks in it
is signalled. An insertion and a transfer hold the mutex, so each is one step; the insertions are
those of any number of threads. -/

namespace Farseer.Linux

variable {υ : Type}

namespace TaskQueue

variable {queue queue' : TaskQueue υ} {task : Option (Task υ)} {e : Exception}

theorem insert_success (queue : TaskQueue υ) (task : Option (Task υ)) :
    insert task .success queue =
      .ok () { tasks := queue.tasks ++ [task], eventCounter := queue.eventCounter + 1 } := rfl

theorem insert_failure (queue : TaskQueue υ) (task : Option (Task υ)) (error : String) :
    insert task (.failure error) queue =
      .error (.internalSocketError ("Error writing to event file descriptor: " ++ error)) queue := by
  have hinsert : insert task (.failure error) queue =
      .error (.internalSocketError ("Error writing to event file descriptor: " ++ error))
        { tasks := (queue.tasks ++ [task]).dropLast, eventCounter := queue.eventCounter } := rfl
  rw [hinsert, List.dropLast_concat]

theorem transfer_cases (queue : TaskQueue υ) (outcome : Outcome) :
    (queue.eventCounter ≠ 0 ∧
        transfer outcome queue = .ok queue.tasks { tasks := [], eventCounter := 0 }) ∨
      ∃ e, transfer outcome queue = .error e queue ∧ (outcome = .success → queue.eventCounter = 0) := by
  cases outcome with
  | success =>
    by_cases h : queue.eventCounter = 0
    · have hread : readEvent .success queue = .error (.internalSocketError "Error reading event: ") queue := by
        rw [readEvent, Program.bind_ok Program.get_apply]
        dsimp only
        rw [if_pos h, Program.throw_apply]
      exact .inr ⟨_, Program.bind_error hread, fun _ => h⟩
    · exact .inl ⟨h, transfer_success queue.tasks h⟩
  | failure error => exact .inr ⟨_, rfl, fun h => by cases h⟩

theorem insert_error {outcome : Outcome} (h : insert task outcome queue = .error e queue') : queue' = queue := by
  cases outcome with
  | success => cases h
  | failure error =>
    rw [insert_failure] at h
    cases h
    rfl

theorem transfer_error {outcome : Outcome} (h : transfer outcome queue = .error e queue') : queue' = queue := by
  rcases transfer_cases queue outcome with ⟨-, hok⟩ | ⟨e', herror, -⟩
  · rw [hok] at h
    cases h
  · rw [herror] at h
    cases h
    rfl

end TaskQueue

/-- The queue, the tasks that were put in it in the order of the lock, and the batches that left
it. A wake-up of the event thread is pending from the write to the event descriptor until
`epoll_wait` returns with it, and is then being handled until a transfer has read the descriptor. -/
structure Delivery (υ : Type) where
  queue : TaskQueue υ
  inserted : List (Option (Task υ))
  batches : List (List (Option (Task υ)))
  pending : Bool
  handling : Bool

namespace Delivery

def new : Delivery υ where
  queue := { tasks := [], eventCounter := 0 }
  inserted := []
  batches := []
  pending := false
  handling := false

def insert (task : Option (Task υ)) (outcome : Outcome) (d : Delivery υ) : Delivery υ :=
  match TaskQueue.insert task outcome d.queue with
  | .ok () queue => { d with queue, inserted := d.inserted ++ [task], pending := true }
  | .error _ queue => { d with queue }

/-- `epoll_wait` takes the wake-up, and returns with it if the descriptor can still be read. -/
def wait (d : Delivery υ) : Delivery υ :=
  { d with pending := false, handling := d.handling || decide (0 < d.queue.eventCounter) }

def transfer (outcome : Outcome) (d : Delivery υ) : Delivery υ :=
  match TaskQueue.transfer outcome d.queue with
  | .ok batch queue => { d with queue, batches := d.batches ++ [batch], handling := false }
  | .error _ queue => { d with queue }

inductive Step : Delivery υ → Delivery υ → Prop
  /-- by any thread -/
  | insert (d : Delivery υ) (task : Option (Task υ)) (outcome : Outcome) : Step d (d.insert task outcome)
  | wait (d : Delivery υ) (h : d.pending = true) : Step d d.wait
  /-- by the event thread -/
  | transfer (d : Delivery υ) (outcome : Outcome) : Step d (d.transfer outcome)

def Reachable (d : Delivery υ) : Prop := Relation.ReflTransGen Step new d

/-- No task is lost, doubled or out of order, and none waits unsignalled. -/
structure Intact (d : Delivery υ) : Prop where
  inOrder : d.batches.flatten ++ d.queue.tasks = d.inserted
  signalled : d.queue.tasks ≠ [] → 0 < d.queue.eventCounter
  woken : d.queue.tasks ≠ [] → d.pending = true ∨ d.handling = true

theorem Intact.insert {d : Delivery υ} (h : d.Intact) (task : Option (Task υ)) (outcome : Outcome) :
    (d.insert task outcome).Intact := by
  cases outcome with
  | success =>
    refine ⟨?_, fun _ => Nat.succ_pos _, fun _ => .inl rfl⟩
    calc d.batches.flatten ++ (d.queue.tasks ++ [task])
        = (d.batches.flatten ++ d.queue.tasks) ++ [task] := (List.append_assoc ..).symm
      _ = d.inserted ++ [task] := by rw [h.inOrder]
  | failure error =>
    rw [Delivery.insert, TaskQueue.insert_failure]
    exact h

theorem Intact.transfer {d : Delivery υ} (h : d.Intact) (outcome : Outcome) : (d.transfer outcome).Intact := by
  rcases TaskQueue.transfer_cases d.queue outcome with ⟨-, hok⟩ | ⟨e, herror, -⟩
  · rw [Delivery.transfer, hok]
    refine ⟨?_, fun hne => absurd rfl hne, fun hne => absurd rfl hne⟩
    calc (d.batches ++ [d.queue.tasks]).flatten ++ []
        = d.batches.flatten ++ d.queue.tasks := by rw [List.flatten_concat, List.append_nil]
      _ = d.inserted := h.inOrder
  · rw [Delivery.transfer, herror]
    exact h

theorem Step.intact {d d' : Delivery υ} (h : d.Intact) (hstep : Step d d') : d'.Intact := by
  cases hstep with
  | insert task outcome => exact h.insert task outcome
  | wait hpending =>
    refine ⟨h.inOrder, h.signalled, fun hne => .inr ?_⟩
    simp [Delivery.wait, h.signalled hne]
  | transfer outcome => exact h.transfer outcome

theorem Reachable.intact {d : Delivery υ} (h : d.Reachable) : d.Intact := by
  induction h with
  | refl => exact ⟨rfl, fun hne => absurd rfl hne, fun hne => absurd rfl hne⟩
  | tail _ hlast ih => exact hlast.intact ih

end Delivery

namespace EventLoop

/-- The queue of the event loop is in a state that a run of the queue reaches. -/
def Delivers (l : EventLoop υ) : Prop := ∃ d : Delivery υ, d.Reachable ∧ d.queue = l.taskQueue

theorem Initial.delivers {l : EventLoop υ} (h : l.Initial) : l.Delivers :=
  ⟨Delivery.new, .refl, h.taskQueue.symm⟩

variable [Ballotin] {registry : ProtocolRegistry} {l l' : EventLoop υ}

/-- A step of the event loop is at most one step of its queue. -/
theorem Step.delivers (h : l.Delivers) (hstep : Step registry l l') : l'.Delivers := by
  obtain ⟨d, hd, hqueue⟩ := h
  cases hstep with
  | insertTask task outcome =>
    refine ⟨d.insert task outcome, hd.tail (.insert d task outcome), ?_⟩
    rw [← hqueue, Delivery.insert]
    cases TaskQueue.insert task outcome d.queue <;> rfl
  | transfer event events outcome hcontrol hfd =>
    refine ⟨d.transfer outcome, hd.tail (.transfer d outcome), ?_⟩
    rw [transferred, ← hqueue, Delivery.transfer]
    cases TaskQueue.transfer outcome d.queue <;> rfl
  | socketEvents event events hcontrol hfd =>
    refine ⟨d, hd, hqueue.trans ?_⟩
    unfold handled
    cases SocketContainer.handleSocketEvents registry event.fileDescriptor event.events l.world <;> rfl
  | outcomes | wait | waitFailed | batchDone | executeTask | abort | tasksDone => exact ⟨d, hd, hqueue⟩

theorem Reachable.delivers (h : l.Reachable registry) : l.Delivers :=
  Run.invariant (fun _ => Initial.delivers) (fun _ _ => Step.delivers) h

end EventLoop

/-- Over every interleaving of insertions, wake-ups and transfers the batches and the queue hold the
inserted tasks in order, a queue with tasks is signalled and its wake-up is pending or being
handled, and what fails changes nothing. The queue of the event loop is always in such a state. -/
theorem taskQueue_delivers [Ballotin] (registry : ProtocolRegistry) :
    (∀ d : Delivery υ, d.Reachable → d.Intact) ∧
      (∀ (queue queue' : TaskQueue υ) (task : Option (Task υ)) (outcome : Outcome) (e : Exception),
        TaskQueue.insert task outcome queue = .error e queue' → queue'.tasks = queue.tasks) ∧
      (∀ (queue queue' : TaskQueue υ) (outcome : Outcome) (e : Exception),
        TaskQueue.transfer outcome queue = .error e queue' → queue'.tasks = queue.tasks) ∧
      ∀ l : EventLoop υ, l.Reachable registry → l.Delivers := by
  refine ⟨fun d hd => hd.intact, ?_, ?_, fun l hl => hl.delivers⟩
  · intro queue queue' task outcome e h
    rw [TaskQueue.insert_error h]
  · intro queue queue' outcome e h
    rw [TaskQueue.transfer_error h]

def closingDelivery : Delivery Unit :=
  ((Delivery.new.insert (some (.close 1)) .success).wait.transfer .success).insert none .success

theorem closingDelivery_intact : closingDelivery.Intact ∧
    (∀ e queue', TaskQueue.insert (some (.close 1)) (.failure "") closingDelivery.queue = .error e queue' →
      queue'.tasks = [none]) ∧
    (∀ e queue', TaskQueue.transfer .success (Delivery.new : Delivery Unit).queue = .error e queue' →
      queue'.tasks = []) ∧
    (EventLoop.new 3 4 ()).Delivers := by
  let _ := referenceBallotin
  obtain ⟨hintact, hinsert, htransfer, hloop⟩ := @taskQueue_delivers Unit _ { protocolDescriptors := ∅ }
  refine ⟨hintact closingDelivery ?_, ?_, ?_, hloop _ (.initial (EventLoop.new_initial 3 4 ()))⟩
  · exact .tail (.tail (.tail (.tail .refl (.insert _ _ _)) (.wait _ rfl)) (.transfer _ _)) (.insert _ _ _)
  · exact fun e queue' herror => hinsert _ _ _ _ e herror
  · exact fun e queue' herror => htransfer _ _ _ e herror

end Farseer.Linux
