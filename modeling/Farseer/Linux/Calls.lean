import Farseer.Linux.Conversation

/-! Remote calls between two Linux providers. What a socket sends are the frames of the tasks and, among them, one
response for each request that was served on it, in the order of the requests. With a network that carries bytes in
order, a response that arrives answers a request of this side. -/

namespace Farseer.Linux

open SocketContainer

variable {υ υ' : Type} {r : FileDescriptor}

def Reads (r : FileDescriptor) (id : SocketIdentifier) (w w' : World υ) : Prop :=
  w.table.Valid r → Served id w w' ∧
    ∃ arrivals : List (Arrival υ), w'.history = w.history ++ arrivals.map (.frameRead id)

section Reads

variable {id : SocketIdentifier} {w : World υ}

instance : IsPreorder (World υ) (Reads r id) where
  refl w hvalid := ⟨refl_of (Serves r id) w hvalid, [], (List.append_nil _).symm⟩
  trans w w' w'' h h' hvalid := by
    obtain ⟨hfirst, arrivals, hhistory⟩ := h hvalid
    obtain ⟨hlast, arrivals', hhistory'⟩ := h' (hfirst.table ▸ hvalid)
    refine ⟨trans_of (Serves r id) (fun _ => hfirst) (fun _ => hlast) hvalid, arrivals ++ arrivals', ?_⟩
    rw [hhistory', hhistory, List.append_assoc, List.map_append]

theorem Served.present {w' : World υ} (h : Served id w w') (id' : SocketIdentifier)
    (hid : w'.inboxes.buffers id' ≠ none) : w.inboxes.buffers id' ≠ none := by
  have hkey : w'.sockets[id']?.map Socket.key = w.sockets[id']?.map Socket.key :=
    congrFun (congrArg DescriptorTable.sockets h.table) id'
  rw [World.inboxes, Ne, Option.map_eq_none_iff, ← Option.map_eq_none_iff (f := Socket.key), hkey,
    Option.map_eq_none_iff] at hid
  rwa [World.inboxes, Ne, Option.map_eq_none_iff]

theorem Reads.of_quiet {α : Type} {x : WorldM υ α} (h : Program.Within (Serves r id) x w)
    (hquiet : Program.Within Quiet x w) : Program.Within (Reads r id) x w := fun hvalid =>
  ⟨h hvalid, [], hquiet.history.trans (List.append_nil _).symm⟩

namespace SocketContainer

theorem sendOutboundBytes_quiet : Program.Within Quiet (sendOutboundBytes id) w := by
  refine .bind (dereference_within id) fun s t _ => ?_
  split_ifs
  · exact .pure _
  · exact .bind (sendBytesTo_quiet id _) fun _ u _ => .modify (.updateSocket id u fun _ _ => rfl)

theorem handleWritable_quiet (events : UInt32) : Program.Within Quiet (handleWritable id events) w := by
  unfold handleWritable
  split_ifs
  · exact sendBytesTo_quiet id []
  · exact .pure _

variable [Ballotin] (registry : ProtocolRegistry)

theorem readInboundBytes_reads (reader : SocketIdentifier) :
    Program.Within (Reads r id) (readInboundBytes registry reader id) w := by
  intro hvalid
  have hserves : Program.Within (Serves r id) (readInboundBytes registry reader id) w :=
    readInboundBytes_serves registry reader
  refine ⟨hserves hvalid, ?_⟩
  rw [readInboundBytes]
  split
  next readerSocket s _ hs =>
    have hid := (World.Registered.of_valid hvalid hs).1
    have hafter : ∀ reading : Reading υ,
        (afterReading reader id s.socketIdentifier reading w).history =
          w.history ++ reading.arrivals.map (.frameRead id) := fun reading => by
      rw [hid]
      rfl
    dsimp only
    split
    · exact ⟨_, hafter _⟩
    · exact ⟨_, hafter _⟩
  next => exact ⟨[], (List.append_nil _).symm⟩

theorem untilRemoval_reads (events : UInt32) : Program.Within (Reads r id) (untilRemoval registry id events) w := by
  have hwritable : ∀ t : World υ, Program.Within (Reads r id) (handleWritable id events) t := fun t =>
    .of_quiet (handleWritable_serves events) (handleWritable_quiet events)
  unfold untilRemoval
  split_ifs
  · exact .pure _
  · exact .pure _
  · refine .bind (.of_quiet receiveInbound_serves (receiveInbound_quiet id)) fun received t _ => ?_
    refine .bind (readInboundBytes_reads registry received.1) fun _ u _ => ?_
    refine .bind (.of_quiet sendOutboundBytes_serves sendOutboundBytes_quiet) fun _ v _ => ?_
    split_ifs
    · exact .pure _
    · exact .bind (hwritable v) fun _ _ _ => .pure _
  · exact .bind (hwritable w) fun _ _ _ => .pure _

variable {registry} [LawfulBallotin]

/-- A turn that returned has passed on a response for each request that was served in it. -/
theorem untilRemoval_replied (hregistry : registry.Reachable) {s : Socket υ} (hs : w.sockets[id]? = some s)
    (hid : s.socketIdentifier = id) (houtbound : s.outboundBytes = []) (hestablished : s.socket.isEstablished = true)
    {events : UInt32} {removed : Bool} {t : World υ} (hok : untilRemoval registry id events w = .ok removed t) :
    ∃ arrivals : List (Arrival υ), t.history = w.history ++ arrivals.map (.frameRead id) ∧
      Replied registry (arrivals.filterMap Arrival.served) (bytesAnswered registry id s events w) := by
  by_cases hreceives : Receives s events
  · have ⟨_, hclosed, haborted, hin⟩ := hreceives
    rw [untilRemoval, hclosed, haborted, hin] at hok
    simp only [Bool.false_eq_true, if_false, if_true] at hok
    obtain ⟨received, u, hreceived, hok⟩ := Program.bind_eq_ok hok
    obtain ⟨_, v, hread, hok⟩ := Program.bind_eq_ok hok
    obtain ⟨_, x, hsent, hok⟩ := Program.bind_eq_ok hok
    have hx : x.history = v.history := (sendOutboundBytes_quiet.ok hsent : Quiet v x).history
    have ht : t.history = x.history := by
      split_ifs at hok
      · cases hok
        rfl
      · obtain ⟨_, y, hwritten, hok⟩ := Program.bind_eq_ok hok
        cases hok
        exact ((handleWritable_quiet events).ok hwritten : Quiet x _).history
    have hboth : (receiveInbound id >>= fun received => readInboundBytes registry received.1 id) w = .ok () v := by
      rw [Program.bind_ok hreceived, hread]
    obtain ⟨reader, frames, outbound, hhistory, hbuffer, hregistered, hanswered⟩ :=
      receiveAndRead_answered hregistry hs hid hestablished hboth
    refine ⟨arrivalsOf reader frames, by rw [ht, hx, hhistory], ?_⟩
    rw [bytesAnswered, if_pos hreceives, hboth]
    dsimp only
    rw [hbuffer, Option.getD_some]
    rw [houtbound] at hanswered
    exact hanswered.replied hregistered
  · refine ⟨[], ?_, ?_⟩
    · have hreads : Program.Within Quiet (untilRemoval registry id events) w := by
        unfold untilRemoval
        split_ifs with hclosed haborted hin
        · exact .pure _
        · exact .pure _
        · exact absurd ⟨hestablished, by simpa using hclosed, by simpa using haborted, hin⟩ hreceives
        · exact .bind (handleWritable_quiet events) fun _ _ _ => .pure _
      exact (hreads.ok hok).history.trans (List.append_nil _).symm
    · rw [bytesAnswered, if_neg hreceives]
      exact .nil

end SocketContainer

end Reads

section Replies

variable [Ballotin] {registry : ProtocolRegistry} {submitted : ByteMeter} {P : SocketIdentifier → Prop}
  {m m' : Inboxes υ}

/-- What was submitted on the sockets that are there and of which `P` holds are frames, and the responses among them
answer what was served on the same socket. -/
structure Replies (registry : ProtocolRegistry) (submitted : ByteMeter) (P : SocketIdentifier → Prop)
    (m : Inboxes υ) : Prop where
  replied : ∀ id, P id → m.buffers id ≠ none → Replied registry (servedOn id m.history) (submitted id)
  unknown : ∀ id, id ∉ insertedIdentifiers m.history → servedOn id m.history = [] ∧ submitted id = []
  known : ∀ id, m.buffers id ≠ none → id ∈ insertedIdentifiers m.history

namespace Replies

theorem initial : Replies registry (fun _ => []) P ({ buffers := fun _ => none, history := [] } : Inboxes υ) :=
  ⟨fun _ _ h => absurd rfl h, fun _ _ => ⟨rfl, rfl⟩, fun _ h => absurd rfl h⟩

theorem of_absent {id : SocketIdentifier} (h : Replies registry submitted (fun id' => id' ≠ id) m)
    (hid : m.buffers id = none) : Replies registry submitted (fun _ => True) m := by
  refine ⟨fun id' _ hsome => h.replied id' ?_ hsome, h.unknown, h.known⟩
  rintro rfl
  exact hsome hid

theorem unread (h : Replies registry submitted P m) (hunread : Unread m m')
    (hdistinct : DistinctIdentifiers m'.history) : Replies registry submitted P m' := by
  have hknown := hunread.known h.known
  obtain ⟨more, hmore, hnone, hbuffers⟩ := hunread.grows
  have hserved : ∀ id, servedOn id m'.history = servedOn id m.history := fun id => by
    have hnothing : servedOn id more = [] := List.sublist_nil.mp (hnone id ▸ servedOn_sublist id more)
    rw [hmore, servedOn_append, hnothing, List.append_nil]
  have hgrows : m.history <+: m'.history := ⟨more, hmore.symm⟩
  refine ⟨fun id hP hid => ?_, fun id hid => ?_, hknown⟩
  · rw [hserved]
    obtain ⟨buffers, hsome⟩ := Option.ne_none_iff_exists'.mp hid
    rcases hbuffers id buffers hsome with hold | ⟨-, hnew⟩
    · exact h.replied id hP (by rw [hold]; simp)
    · rw [hmore] at hdistinct
      obtain ⟨hserved', hsubmitted⟩ := h.unknown id (hdistinct.new hnew)
      rw [hserved', hsubmitted]
      exact .nil
  · rw [hserved]
    exact h.unknown id fun hold => hid (insertedIdentifiers_mono hgrows hold)

theorem call (h : Replies registry submitted P m) {id : SocketIdentifier} (hid : id ∈ insertedIdentifiers m.history)
    {f : Frame} (hf : f.Produced registry) (hcall : f.isResponse = false) :
    Replies registry (submitted.add id f.bytes) P m := by
  refine ⟨fun id' hP hsome => ?_, fun id' hunknown => ?_, h.known⟩
  · by_cases heq : id' = id
    · subst heq
      rw [submitted.add_self, ← List.append_nil (servedOn id' m.history)]
      exact (h.replied id' hP hsome).append (.call hf hcall)
    · rw [submitted.add_of_ne heq]
      exact h.replied id' hP hsome
  · have hne : id' ≠ id := by
      rintro rfl
      exact hunknown hid
    rw [submitted.add_of_ne hne]
    exact h.unknown id' hunknown

theorem reading (h : Replies registry submitted (fun _ => True) m) {id : SocketIdentifier}
    (hid : m.buffers id ≠ none) {arrivals : List (Arrival υ)} (bytes : List UInt8)
    (hhistory : m'.history = m.history ++ arrivals.map (.frameRead id))
    (hbuffers : ∀ id', m'.buffers id' ≠ none → m.buffers id' ≠ none)
    (hreplied : P id → Replied registry (arrivals.filterMap Arrival.served) bytes) :
    Replies registry (submitted.add id bytes) P m' := by
  have hself : servedOn id m'.history = servedOn id m.history ++ arrivals.filterMap Arrival.served := by
    rw [hhistory, servedOn_append, servedOn_frames, if_pos rfl]
  have hother : ∀ id', id' ≠ id → servedOn id' m'.history = servedOn id' m.history := fun id' hne => by
    rw [hhistory, servedOn_append, servedOn_frames, if_neg hne.symm, List.append_nil]
  have hinserted : insertedIdentifiers m'.history = insertedIdentifiers m.history := by
    rw [hhistory, insertedIdentifiers_append, insertedIdentifiers_frames, List.append_nil]
  refine ⟨fun id' hP hsome => ?_, fun id' hunknown => ?_, fun id' hsome => ?_⟩
  · by_cases heq : id' = id
    · subst heq
      rw [hself, submitted.add_self]
      exact (h.replied id' trivial hid).append (hreplied hP)
    · rw [hother id' heq, submitted.add_of_ne heq]
      exact h.replied id' trivial (hbuffers id' hsome)
  · rw [hinserted] at hunknown
    have hne : id' ≠ id := by
      rintro rfl
      exact hunknown (h.known id' hid)
    rw [hother id' hne, submitted.add_of_ne hne]
    exact h.unknown id' hunknown
  · rw [hinserted]
    exact h.known id' (hbuffers id' hsome)

end Replies

/-- What the functions of the provider that send give to the thread: one frame, of a message or of a request. -/
def Task.Calls (registry : ProtocolRegistry) : Task υ → Prop
  | .sendBytes _ bytes | .sendRequest _ _ bytes _ =>
    ∃ f : Frame, f.Produced registry ∧ f.isResponse = false ∧ bytes = f.bytes
  | _ => True

section Steps

variable {w : World υ}

theorem Task.submit_replies (h : Replies registry submitted P w.inboxes) {task : Task υ} (htask : task.Calls registry) :
    Replies registry (task.submit w submitted) P w.inboxes := by
  have hknown : ∀ (id : SocketIdentifier) (p : Socket υ → Bool), w.sockets[id]?.any p = true →
      id ∈ insertedIdentifiers w.inboxes.history := fun id p hany => by
    cases hs : w.sockets[id]? with
    | none =>
      rw [hs] at hany
      cases hany
    | some s => exact h.known id (by rw [inboxes_some hs]; simp)
  cases task with
  | sendBytes id bytes =>
    obtain ⟨f, hf, hcall, rfl⟩ := htask
    rw [Task.submit]
    split_ifs with hany
    · exact h.call (hknown id _ hany) hf hcall
    · exact h
  | sendRequest id n bytes consumer =>
    obtain ⟨f, hf, hcall, rfl⟩ := htask
    rw [Task.submit]
    split_ifs with hany
    · exact h.call (hknown id _ hany) hf hcall
    · exact h
  | _ => exact h

theorem eraseSocket_replies {id : SocketIdentifier} (h : Replies registry submitted (fun id' => id' ≠ id) w.inboxes)
    (hdistinct : DistinctIdentifiers (Program.final (eraseSocket id w)).history) :
    Replies registry submitted (fun _ => True) (Program.final (eraseSocket id w)).inboxes := by
  have hunread : LeavesUnread w (Program.final (eraseSocket id w)) := unread_lifecycle.eraseSocket id
  exact (h.unread hunread hdistinct).of_absent (eraseSocket_absent id)

theorem Task.execute_replies (h : Replies registry submitted P w.inboxes) {task : Task υ} (htask : task.Calls registry)
    (hdistinct : DistinctIdentifiers (Program.final (task.execute registry w)).history) :
    Replies registry (task.submit w submitted) P (Program.final (task.execute registry w)).inboxes :=
  (Task.submit_replies h htask).unread (Task.execute_unread registry task) hdistinct

variable [LawfulBallotin]

theorem handleSocketEvents_replies (hregistry : registry.Reachable) (hvalid : w.table.Valid r)
    (h : Replies registry submitted (fun _ => True) w.inboxes)
    (houtbound : ∀ (id : SocketIdentifier) (s : Socket υ), w.sockets[id]? = some s → s.outboundBytes = [])
    (fd : FileDescriptor) (events : UInt32)
    (hdistinct : DistinctIdentifiers (Program.final (handleSocketEvents registry fd events w)).history) :
    Replies registry (w.addFor fd (fun id s => bytesAnswered registry id s events w) submitted) (fun _ => True)
      (Program.final (handleSocketEvents registry fd events w)).inboxes := by
  rcases handleSocketEvents_parts registry hvalid fd events with
    ⟨hnothing, hunread⟩ | ⟨id, s, hfd, hs, hid, hestablished, hturn⟩
  · have hnone : ∀ (id : SocketIdentifier) (s : Socket υ), s.socket.isEstablished = false →
        bytesAnswered registry id s events w = [] := fun id s hestablished =>
      if_neg fun hreceives => by cases hestablished.symm.trans hreceives.1
    rw [hnothing hnone]
    exact h.unread hunread hdistinct
  · rw [World.addFor_some hfd hs]
    rw [hturn, thenErase] at hdistinct ⊢
    have hsome : w.inboxes.buffers id ≠ none := by rw [inboxes_some hs]; simp
    have hreads : Program.Within (Reads r id) (untilRemoval registry id events) w := untilRemoval_reads registry events
    cases hrun : untilRemoval registry id events w with
    | error e t =>
      rw [hrun] at hdistinct
      obtain ⟨hserved, arrivals, hhistory⟩ := hreads.error hrun hvalid
      exact eraseSocket_replies (h.reading hsome _ hhistory hserved.present fun hne => absurd rfl hne) hdistinct
    | ok removed t =>
      rw [hrun] at hdistinct
      obtain ⟨hserved, -⟩ := hreads.ok hrun hvalid
      obtain ⟨arrivals, hhistory, hreplied⟩ :=
        untilRemoval_replied hregistry hs hid (houtbound id s hs) hestablished hrun
      cases removed with
      | false => exact h.reading hsome _ hhistory hserved.present fun _ => hreplied
      | true => exact eraseSocket_replies (h.reading hsome _ hhistory hserved.present fun _ => hreplied) hdistinct

end Steps

end Replies

namespace EventLoop

section Runs

variable [Ballotin] [LawfulBallotin] {registry : ProtocolRegistry} {l : EventLoop υ} {l' : EventLoop υ'}
  {submissions : Submissions υ}

/-- If the tasks send messages and requests, each socket that is there has replied to what was served on it. -/
theorem Metered.replies (hregistry : registry.Reachable)
    (h : Metered registry (submissionGauge registry) ⟨fun _ => [], []⟩ l submissions)
    (hdistinct : DistinctIdentifiers l.world.history) (htasks : ∀ task ∈ submissions.tasks, task.Calls registry) :
    Replies registry submissions.submitted (fun _ => True) l.world.inboxes := by
  refine h.invariant (I := fun w (submissions : Submissions υ) => (∀ task ∈ submissions.tasks, task.Calls registry) →
      Replies registry submissions.submitted (fun _ => True) w.inboxes)
    hdistinct (fun l hl _ => ?_) (fun _ _ _ hw => hw) (fun l submissions fd events hl _ hw hafter htasks => ?_)
    (fun l submissions task _ hw hafter htasks => ?_) htasks
  · rw [hl.inboxes]
    exact .initial
  · have hgrows := (SocketContainer.handleSocketEvents_follows (w := l.world) registry fd events).grows
    obtain ⟨received, hreceived⟩ := hl.metered receivedGauge (fun _ => [])
    have hinward := hreceived.inward hregistry (hafter.mono hgrows)
    exact handleSocketEvents_replies hregistry hl.sound.valid (hw htasks) (fun id s hs =>
      (hinward.waiting id s.inboundBytes s.outboundBytes trivial (inboxes_some hs)).2.2) fd events hafter
  · have hbefore : ∀ t ∈ submissions.tasks, t.Calls registry := fun t ht => htasks t (List.mem_append_left _ ht)
    exact Task.execute_replies (hw hbefore) (htasks task (List.mem_append_right _ (List.mem_singleton_self _))) hafter

/-- Of the frames some were handed over, and the bytes of the others are in between. -/
def Conveyed (frames : List Frame) (deliveries : List Farseer.Delivery) (between : List UInt8) : Prop :=
  ∃ done todo : List Frame, frames = done ++ todo ∧ deliveries = done.map Frame.delivery ∧
    between = todo.flatMap Frame.bytes

/-- Two providers, and a socket of each, with a network that carries bytes in order both ways. The frames of each side
reach the other side in their order and each once. The responses that the second side sends answer, one each and in
their order, the requests of the first side that were served; so a response that arrives at the first side answers a
request that it has sent. -/
theorem calls_answered {submissions' : Submissions υ'} {received received' : ByteMeter}
    (hregistry : registry.Reachable)
    (hsubmissions : Metered registry (submissionGauge registry) ⟨fun _ => [], []⟩ l submissions)
    (hsubmissions' : Metered registry (submissionGauge registry) ⟨fun _ => [], []⟩ l' submissions')
    (hreceived : Metered registry receivedGauge (fun _ => []) l received)
    (hreceived' : Metered registry receivedGauge (fun _ => []) l' received')
    (hdistinct : DistinctIdentifiers l.world.history) (hdistinct' : DistinctIdentifiers l'.world.history)
    (htasks : ∀ task ∈ submissions.tasks, task.Calls registry)
    (htasks' : ∀ task ∈ submissions'.tasks, task.Calls registry) {id id' : SocketIdentifier} {s : Socket υ}
    {s' : Socket υ'} {d d' : Descriptor} (hs : l.world.sockets[id]? = some s) (hs' : l'.world.sockets[id']? = some s')
    (hd : l.world.kernel.descriptors[s.socket.socket]? = some d)
    (hd' : l'.world.kernel.descriptors[s'.socket.socket]? = some d') {onTheWay onTheWay' : List UInt8}
    (hnetwork : received' id' ++ onTheWay = d.transmitted) (hnetwork' : received id ++ onTheWay' = d'.transmitted) :
    ∃ frames frames' : List Frame,
      (∀ f ∈ frames, f.Produced registry) ∧ submissions.submitted id = frames.flatMap Frame.bytes ∧
      (∀ f ∈ frames', f.Produced registry) ∧ submissions'.submitted id' = frames'.flatMap Frame.bytes ∧
      Conveyed frames (deliveriesOn id' l'.world.history) (s'.inboundBytes ++ onTheWay ++ s.socket.outgoingBuffer) ∧
      Conveyed frames' (deliveriesOn id l.world.history) (s.inboundBytes ++ onTheWay' ++ s'.socket.outgoingBuffer) ∧
      (servedOn id' l'.world.history).Sublist (deliveriesOn id' l'.world.history) ∧
      List.Forall₂ (Farseer.Delivery.IsAnswered registry) (servedOn id' l'.world.history)
        (frames'.filter Frame.isResponse) := by
  have hreplies := hsubmissions.replies hregistry hdistinct htasks
  have hreplies' := hsubmissions'.replies hregistry hdistinct' htasks'
  obtain ⟨frames, hframes, hproduced, -⟩ := hreplies.replied id trivial (by rw [inboxes_some hs]; simp)
  obtain ⟨frames', hframes', hproduced', hanswers⟩ := hreplies'.replied id' trivial (by rw [inboxes_some hs']; simp)
  obtain ⟨done, todo, hsplit, hdone, hbytes, -⟩ :=
    hsubmissions.delivered hregistry hreceived' hdistinct hdistinct' hs hs' hd hnetwork hproduced hframes
  obtain ⟨done', todo', hsplit', hdone', hbytes', -⟩ :=
    hsubmissions'.delivered hregistry hreceived hdistinct' hdistinct hs' hs hd' hnetwork' hproduced' hframes'
  exact ⟨frames, frames', hproduced, hframes, hproduced', hframes', ⟨done, todo, hsplit, hdone, hbytes⟩,
    ⟨done', todo', hsplit', hdone', hbytes'⟩, servedOn_sublist id' _, hanswers⟩

end Runs

def request : List UInt8 := [0, 0, 0, 3, 0, 0, 0, 0, 0, 0, 0, 5, 0, 0, 0, 7]

def requestFrame : Frame := ⟨.request pingProtocol, 5, (7, ())⟩

theorem requestFrame_produced : @Frame.Produced referenceBallotin pingRegistry requestFrame :=
  @Frame.Produced.mk referenceBallotin _ _ rfl (fun _ => by decide)
    ⟨_, @Frame.serializeWithHeader_ok referenceBallotin referenceBallotin_lawful requestFrame ⟨by decide, by decide⟩ []⟩

def ignore : Consumer Unit := fun _ => pure ()

def agree : RequestConsumer Unit := fun _ => pure (.of pingProtocol.responseType (.fromSuccess (true, ())))

def sendRequest : Task Unit := .sendRequest 1 5 request ignore

def registerCallback : Task Unit := .registerRequestCallback 1 3 agree

def callingLoop : EventLoop Unit :=
  ((connectedLoop.withScript { sends := [.sent 16] }).given [sendRequest] []).executed pingRegistry sendRequest [] []

def calledLoop : EventLoop Unit :=
  let event : EpollEvent := { fileDescriptor := 8, events := EPOLLIN }
  { (((connectedLoop.withScript { receives := [.received request], sends := [.sent 17] }).given [registerCallback]
      [event]).executed pingRegistry registerCallback [] [event]) with control := .batch [event] }

def servedLoop : EventLoop Unit :=
  @handled Unit referenceBallotin pingRegistry calledLoop { fileDescriptor := 8, events := EPOLLIN } []

def CallingStep [Ballotin] (registry : ProtocolRegistry) (l l' : EventLoop Unit) : Prop :=
  Step registry l l' ∧ ∀ task, l.Executes task → task.Calls registry

theorem CallingStep.metered [Ballotin] {l : EventLoop Unit} (h : l.Run (CallingStep pingRegistry)) :
    ∃ submissions : Submissions Unit,
      Metered pingRegistry (submissionGauge pingRegistry) ⟨fun _ => [], []⟩ l submissions ∧
      ∀ task ∈ submissions.tasks, task.Calls pingRegistry := by
  refine h.metered (List.forall_mem_nil _) (fun _ _ _ _ h => h) fun task _ submissions htask h => ?_
  exact List.forall_mem_append.mpr ⟨h, List.forall_mem_singleton.mpr htask⟩

theorem connectedLoop_given (script : Script) (task : Task Unit) {events : List EpollEvent}
    (htask : @Task.Calls Unit referenceBallotin pingRegistry task)
    (hreports : connectedLoop.Reports ({ fileDescriptor := 4, events := EPOLLIN } :: events)) :
    (((connectedLoop.withScript script).given [task] events).executed pingRegistry task [] events).Run
      (@CallingStep referenceBallotin pingRegistry) := by
  let _ := referenceBallotin
  have hconnected : connectedLoop.Run (CallingStep pingRegistry) := connectedLoop_runs pingRegistry
    fun l l' hstep hconnects => ⟨hstep, fun task htask => by rw [hconnects task htask]; trivial⟩
  have hscript := hconnected.step ⟨.outcomes _ script, fun task ⟨_, _, h⟩ => by cases h⟩
  have hgiven := given_run (fun l l' hstep hidle => ⟨hstep, fun task h => absurd h (hidle task)⟩) hscript rfl rfl
    task [] ⟨hreports.size, hreports.distinct, hreports.subscribed⟩
  exact hgiven.step ⟨.executeTask _ _ [] events rfl, fun task ⟨_, _, h⟩ => by
    cases h
    exact htask⟩

theorem callingLoop_run : callingLoop.Run (@CallingStep referenceBallotin pingRegistry) :=
  connectedLoop_given _ sendRequest ⟨requestFrame, requestFrame_produced, rfl, rfl⟩
    ⟨by decide, by decide, fun e he => by rw [List.mem_singleton.mp he]; decide⟩

theorem calledLoop_run : calledLoop.Run (@CallingStep referenceBallotin pingRegistry) := by
  let _ := referenceBallotin
  have hreports : connectedLoop.Reports
      [{ fileDescriptor := 4, events := EPOLLIN }, { fileDescriptor := 8, events := EPOLLIN }] :=
    ⟨by decide, by decide, fun e he => by rcases List.mem_pair.mp he with rfl | rfl <;> decide⟩
  have hgiven := connectedLoop_given { receives := [.received request], sends := [.sent 17] } registerCallback trivial
    hreports
  exact hgiven.step ⟨.tasksDone _ _ rfl, fun task ⟨_, _, h⟩ => by cases h⟩

theorem servedLoop_run : servedLoop.Run (@CallingStep referenceBallotin pingRegistry) := by
  let _ := referenceBallotin
  refine calledLoop_run.step ⟨?_, fun task ⟨_, _, h⟩ => by cases h⟩
  exact .socketEvents calledLoop { fileDescriptor := 8, events := EPOLLIN } [] rfl (by decide)

def reply : List UInt8 := [0, 0, 0, 4, 0, 0, 0, 0, 0, 0, 0, 5, 0, 0, 0, 2, 192]

theorem servedLoop_received : ∃ received : ByteMeter,
    @Metered Unit ByteMeter referenceBallotin pingRegistry receivedGauge (fun _ => []) servedLoop received ∧
    received 1 ++ [] = request := by
  let _ := referenceBallotin
  have _ := referenceBallotin_lawful
  obtain ⟨_, hcalled, -⟩ := CallingStep.metered calledLoop_run
  obtain ⟨received, hreceived⟩ := hcalled.reachable.metered receivedGauge (fun _ => [])
  have hnothing : received 1 = [] := hreceived.received_nothing pingRegistry_reachable (by decide) rfl rfl rfl
  refine ⟨_, hreceived.socketEvents { fileDescriptor := 8, events := EPOLLIN } [] rfl (by decide), ?_⟩
  change received 1 ++ _ ++ [] = _
  rw [hnothing]
  rfl

def responseFrame : Frame := ⟨.response pingProtocol, 5, .fromSuccess (true, ())⟩

/-- What was sent has arrived, and the response is on the way. -/
theorem servedLoop_answered : ∃ submissions submissions' : Submissions Unit,
    @Metered Unit (Submissions Unit) referenceBallotin pingRegistry (@submissionGauge Unit referenceBallotin pingRegistry)
      ⟨fun _ => [], []⟩ callingLoop submissions ∧
    @Metered Unit (Submissions Unit) referenceBallotin pingRegistry (@submissionGauge Unit referenceBallotin pingRegistry)
      ⟨fun _ => [], []⟩ servedLoop submissions' ∧
    submissions.submitted 1 = [requestFrame].flatMap Frame.bytes ∧
    submissions'.submitted 1 = [responseFrame].flatMap Frame.bytes ∧
    Conveyed [requestFrame] (deliveriesOn 1 servedLoop.world.history) [] ∧
    Conveyed [responseFrame] (deliveriesOn 1 callingLoop.world.history) reply ∧
    servedOn 1 servedLoop.world.history = [requestFrame.delivery] ∧
    List.Forall₂ (@Farseer.Delivery.IsAnswered referenceBallotin pingRegistry) [requestFrame.delivery]
      ([responseFrame].filter Frame.isResponse) := by
  let _ := referenceBallotin
  have _ := referenceBallotin_lawful
  obtain ⟨submissions, hsubmissions, htasks⟩ := CallingStep.metered callingLoop_run
  obtain ⟨submissions', hsubmissions', htasks'⟩ := CallingStep.metered servedLoop_run
  obtain ⟨received, hreceived⟩ := hsubmissions.reachable.metered receivedGauge (fun _ => [])
  obtain ⟨received', hreceived', hnetwork⟩ := servedLoop_received
  obtain ⟨s, hs, hfd, hinbound, houtgoing⟩ : ∃ s, callingLoop.world.sockets[1]? = some s ∧ s.socket.socket = 8 ∧
      s.inboundBytes = [] ∧ s.socket.outgoingBuffer = [] := ⟨_, rfl, rfl, rfl, rfl⟩
  obtain ⟨s', hs', hfd', hinbound', houtgoing'⟩ : ∃ s, servedLoop.world.sockets[1]? = some s ∧ s.socket.socket = 8 ∧
      s.inboundBytes = [] ∧ s.socket.outgoingBuffer = [] := ⟨_, rfl, rfl, rfl, rfl⟩
  have hd : callingLoop.world.kernel.descriptors[s.socket.socket]? = some ⟨2, request⟩ := by
    rw [hfd]
    rfl
  have hd' : servedLoop.world.kernel.descriptors[s'.socket.socket]? = some ⟨2, reply⟩ := by
    rw [hfd']
    decide +kernel
  have hnetwork' : received 1 ++ reply = reply := by
    rw [hreceived.received_nothing pingRegistry_reachable (by decide) hs hinbound rfl, List.nil_append]
  obtain ⟨frames, frames', -, hframes, -, hframes', hconveyed, hconveyed', -, hanswers⟩ :=
    calls_answered pingRegistry_reachable hsubmissions hsubmissions' hreceived hreceived' (by decide) (by decide) htasks
      htasks' hs hs' hd hd' hnetwork hnetwork'
  rw [hinbound', houtgoing] at hconveyed
  rw [hinbound, houtgoing', List.append_nil] at hconveyed'
  obtain ⟨done, todo, rfl, hdone, htodo⟩ := hconveyed
  obtain ⟨done', todo', rfl, hdone', htodo'⟩ := hconveyed'
  have hserved : servedOn 1 servedLoop.world.history = [requestFrame.delivery] := rfl
  -- the request was handed over, and no response was
  have hrequest : [requestFrame].map Frame.delivery = done.map Frame.delivery := hdone
  obtain ⟨f, rfl, hf⟩ := List.map_eq_singleton_iff.mp hrequest.symm
  obtain rfl : done' = [] := List.map_eq_nil_iff.mp hdone'.symm
  have hreply : reply = [responseFrame].flatMap Frame.bytes := by decide
  have hall : todo.flatMap Frame.bytes = [] := htodo.symm
  have hwaiting : todo'.flatMap Frame.bytes = reply := htodo'.symm
  refine ⟨submissions, submissions', hsubmissions, hsubmissions', ?_, ?_,
    ⟨[requestFrame], [], rfl, hdone.trans hrequest.symm, rfl⟩, ⟨[], [responseFrame], rfl, hdone', hreply⟩, hserved, ?_⟩
  · rw [hframes, List.flatMap_append, hall, List.append_nil, List.flatMap_singleton, List.flatMap_singleton,
      Frame.bytes_of_delivery hf]
  · rw [hframes', List.nil_append, hwaiting, hreply]
  · exact .cons ⟨requestFrame, requestFrame_produced.registered, rfl, pingProtocol, 5, (7, ()),
      .fromSuccess (true, ()), rfl, rfl⟩ .nil

end EventLoop

end Farseer.Linux
