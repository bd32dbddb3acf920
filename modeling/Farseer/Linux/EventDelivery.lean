import Farseer.Linux.Consistency

/-! Whose events a batch carries. An entry names its socket by a descriptor only, so it is for the
socket that had the descriptor when `epoll_wait` returned; by the time the entry is handled the
descriptor may have been closed, and handed out again. -/

namespace Farseer.Linux

namespace EventLoop

variable {υ : Type}

/-- The next entry of the batch finds no socket, or the one that had its descriptor when
`epoll_wait` returned. -/
def FindsItsSocket (l : EventLoop υ) : Prop :=
  ∀ (event : EpollEvent) (events : List EpollEvent), l.control = .batch (event :: events) →
    l.world.fileDescriptorsToSockets[event.fileDescriptor]? = none ∨
      l.world.fileDescriptorsToSockets[event.fileDescriptor]? = l.registered[event.fileDescriptor]?

/-- The descriptor of the next entry was not handed out after `epoll_wait` returned. -/
def NotReopened (l : EventLoop υ) : Prop :=
  ∀ (event : EpollEvent) (events : List EpollEvent), l.control = .batch (event :: events) →
    ∀ d : Descriptor, l.world.kernel.descriptors[event.fileDescriptor]? = some d → d.openedAt < l.waitedAt

/-- A socket whose descriptor is older than the batch had it when `epoll_wait` returned. -/
theorem Sound.registered_of_old {l : EventLoop υ} (h : l.Sound) {fd : FileDescriptor} {id : SocketIdentifier}
    (hmap : l.world.fileDescriptorsToSockets[fd]? = some id)
    (hold : ∀ d : Descriptor, l.world.kernel.descriptors[fd]? = some d → d.openedAt < l.waitedAt) :
    l.registered[fd]? = some id := by
  obtain ⟨n, hn⟩ := h.valid.opened (h.valid.subscribed.mpr (.inr ⟨id, hmap⟩))
  obtain ⟨d, hd, rfl⟩ := Option.map_eq_some_iff.mp hn
  exact h.settled.2 hmap hn (hold d hd)

/-- Over a whole run, whatever is closed, connected and accepted while a batch is handled: an entry
finds its own socket unless its descriptor was handed out again. -/
theorem findsItsSocket_of_notReopened [Ballotin] {registry : ProtocolRegistry} {l : EventLoop υ}
    (h : l.Reachable registry) (hfresh : l.NotReopened) : l.FindsItsSocket := by
  intro event events hcontrol
  cases hmap : l.world.fileDescriptorsToSockets[event.fileDescriptor]? with
  | none => exact .inl rfl
  | some id => exact .inr ((Reachable.sound h).registered_of_old hmap (hfresh event events hcontrol)).symm

/-- The first socket is connecting on descriptor 8. The next batch has the event of the task queue
first, which connects a second socket, and an event for descriptor 8 after it. -/
def connectingTwiceLoop : EventLoop Unit :=
  ({ connectingLoop with control := .waiting }).performed emptyRegistry [.connect 2 "127.0.0.1" 8080 silent]
    [{ fileDescriptor := 8, events := EPOLLOUT }]

/-- The same, but the first socket is closed before the second is connected. -/
def reconnectingLoop : EventLoop Unit :=
  ({ connectingLoop with control := .waiting }).performed emptyRegistry
    [.close 1, .connect 2 "127.0.0.1" 8080 silent] [{ fileDescriptor := 8, events := EPOLLOUT }]

theorem connectingLoop_performed [Ballotin] (task : Task Unit) (tasks : List (Task Unit)) :
    (({ connectingLoop with control := .waiting }).performed emptyRegistry (task :: tasks)
      [{ fileDescriptor := 8, events := EPOLLOUT }]).Reachable emptyRegistry := by
  have hwaiting : ({ connectingLoop with control := .waiting } : EventLoop Unit).Reachable emptyRegistry :=
    connectingLoop_reachable.step (.batchDone connectingLoop rfl)
  refine performed_reachable hwaiting rfl rfl _ _ ⟨by decide, by decide, fun e he => ?_⟩
  rcases List.mem_pair.mp he with rfl | rfl <;> decide

theorem connectingTwiceLoop_findsItsSocket : connectingTwiceLoop.FindsItsSocket := by
  refine @findsItsSocket_of_notReopened Unit referenceBallotin emptyRegistry connectingTwiceLoop
    (@connectingLoop_performed referenceBallotin _ _) ?_
  intro event events hcontrol d hd
  cases hcontrol
  obtain rfl : ({ openedAt := 2, transmitted := [] } : Descriptor) = d := Option.some_inj.mp hd
  decide

/-- The event of the first socket goes to the second. -/
theorem reconnectingLoop_misdelivers : @Reachable Unit referenceBallotin emptyRegistry reconnectingLoop ∧
    ¬ reconnectingLoop.FindsItsSocket := by
  refine ⟨@connectingLoop_performed referenceBallotin _ _, fun h => ?_⟩
  rcases h _ _ rfl with hnone | hsame
  · cases hnone
  · cases hsame

end EventLoop

end Farseer.Linux
