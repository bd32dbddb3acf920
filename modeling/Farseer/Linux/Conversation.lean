import Farseer.Linux.Transmission
import Farseer.Reader.Answers

/-! Two Linux providers with a connection between them. What one of them submits are frames, and the other one hands
over these frames. Of the network it is only used that the bytes that were received are the first of those that were
sent. -/

namespace Farseer.Linux

open SocketContainer

variable {υ υ' : Type}

theorem receiveInbound_quiet (id : SocketIdentifier) {w : World υ} : Program.Within Quiet (receiveInbound id) w := by
  refine .bind (dereference_within id) fun s t _ => .bind (onKernel_quiet _) fun received u _ => ?_
  refine .bind (.modify (.updateSocket id u fun _ _ => rfl)) fun _ v _ => ?_
  refine .bind (.bind (dereference_within id) fun s x _ => ?_) fun reader x _ => .pure _
  split_ifs
  · exact getSocketOrThrow_within _
  · exact .pure _

/-- The bytes are frames of protocols that are registered. -/
def Framed [Ballotin] (registry : ProtocolRegistry) (bytes : List UInt8) : Prop :=
  ∃ frames : List Frame, (∀ f ∈ frames, f.Produced registry) ∧ bytes = frames.flatMap Frame.bytes

def Task.SendsFrame [Ballotin] (registry : ProtocolRegistry) : Task υ → Prop
  | .sendBytes _ bytes | .sendRequest _ _ bytes _ => ∃ f : Frame, f.Produced registry ∧ bytes = f.bytes
  | _ => True

section Framed

variable [Ballotin] {registry : ProtocolRegistry} {bytes bytes' : List UInt8}

theorem Framed.nil : Framed registry [] := ⟨[], List.forall_mem_nil _, rfl⟩

theorem Framed.append (h : Framed registry bytes) (h' : Framed registry bytes') : Framed registry (bytes ++ bytes') := by
  obtain ⟨frames, hframes, rfl⟩ := h
  obtain ⟨frames', hframes', rfl⟩ := h'
  exact ⟨frames ++ frames', fun f hf => (List.mem_append.mp hf).elim (hframes f) (hframes' f),
    List.flatMap_append.symm⟩

theorem Framed.single {f : Frame} (h : f.Produced registry) : Framed registry f.bytes :=
  ⟨[f], List.forall_mem_singleton.mpr h, (List.flatMap_singleton ..).symm⟩

theorem Framed.add {submitted : ByteMeter} (h : ∀ id, Framed registry (submitted id)) (id : SocketIdentifier)
    (hbytes : Framed registry bytes) (id' : SocketIdentifier) : Framed registry (submitted.add id bytes id') := by
  by_cases heq : id' = id
  · subst heq
    rw [submitted.add_self]
    exact (h id').append hbytes
  · rw [submitted.add_of_ne heq]
    exact h id'

theorem Task.submit_framed {submitted : ByteMeter} (h : ∀ id, Framed registry (submitted id)) (w : World υ)
    {task : Task υ} (htask : task.SendsFrame registry) (id : SocketIdentifier) :
    Framed registry (task.submit w submitted id) := by
  cases task with
  | sendBytes id' bytes =>
    obtain ⟨f, hf, rfl⟩ := htask
    rw [Task.submit]
    split_ifs
    · exact Framed.add h id' (.single hf) id
    · exact h id
  | sendRequest id' n bytes consumer =>
    obtain ⟨f, hf, rfl⟩ := htask
    rw [Task.submit]
    split_ifs
    · exact Framed.add h id' (.single hf) id
    · exact h id
  | _ => exact h id

variable [LawfulBallotin]

/-- What is received and read is recorded, and its answers are behind the bytes that waited to be sent. -/
theorem receiveAndRead_answered (hregistry : registry.Reachable) {id : SocketIdentifier} {s : Socket υ} {w t : World υ}
    (hs : w.sockets[id]? = some s) (hid : s.socketIdentifier = id) (hestablished : s.socket.isEstablished = true)
    (hok : (receiveInbound id >>= fun received => readInboundBytes registry received.1 id) w = .ok () t) :
    ∃ (reader : ProtocolReader υ) (frames : List Frame) (outbound : List UInt8),
      t.history = w.history ++ (arrivalsOf reader frames).map (.frameRead id) ∧
      t.sockets[id]?.map Socket.outboundBytes = some outbound ∧
      (∀ f ∈ frames, registry.Registered f.protocol) ∧ Answered registry reader frames s.outboundBytes outbound := by
  have hquiet : Program.Within Quiet (receiveInbound id) w := receiveInbound_quiet id
  rcases receiveInbound_run hs hestablished with ⟨-, reader, closed, u, hreceived, -, hu⟩ | ⟨-, e, u, herror⟩
  · rw [Program.bind_ok hreceived, readInboundBytes, hu] at hok
    cases hreader : u.sockets[reader]? with
    | none =>
      rw [hreader] at hok
      cases hok
    | some readerSocket =>
      rw [hreader] at hok
      dsimp only at hok
      set start : Reading υ :=
        { reader := readerSocket.protocolReader
          inboundBytes := s.inboundBytes ++ receivedBytes w.kernel.script.receives, inboundBitsOffset := 0
          outboundBytes := s.outboundBytes, user := u.user, arrivals := [] } with hstart
      cases hrun : Reading.readInboundBytes registry start with
      | error e r =>
        rw [hrun] at hok
        cases hok
      | ok _ r =>
        rw [hrun] at hok
        cases hok
        obtain ⟨v, hloop, hr⟩ := readInboundBytes_loop hrun
        obtain ⟨frames, rest, hframes, -, harrivals, hanswered⟩ := readLoop_answered (j := 0) hregistry
          (start.inboundBytes.length + 1) (Nat.zero_le _) rfl hloop
        refine ⟨readerSocket.protocolReader, frames.map Prod.fst, r.outboundBytes, ?_, ?_, hframes.registered,
          by rw [hr]; exact hanswered⟩
        · change u.history ++ r.arrivals.map (.frameRead s.socketIdentifier) = _
          rw [(hquiet.ok hreceived).history, hid, hr]
          change w.history ++ v.arrivals.map _ = _
          rw [harrivals, hstart, List.nil_append]
        · change (((u.sockets.modify reader _).modify id _)[id]?).map _ = _
          rw [Table.lookup_modify, if_pos rfl, Table.lookup_modify]
          split_ifs <;> simp [*]
  · rw [Program.bind_error herror] at hok
    cases hok

/-- The answers of a socket that had passed on the ones before are frames. -/
theorem bytesAnswered_framed (hregistry : registry.Reachable) {id : SocketIdentifier} {s : Socket υ} {w : World υ}
    (hs : w.sockets[id]? = some s) (hid : s.socketIdentifier = id) (houtbound : s.outboundBytes = []) (events : UInt32) :
    Framed registry (bytesAnswered registry id s events w) := by
  rw [bytesAnswered]
  split_ifs with hreceives
  · split
    next t hok =>
      obtain ⟨reader, frames, outbound, -, hbuffer, -, answers, hbytes, -, hproduced⟩ :=
        receiveAndRead_answered hregistry hs hid hreceives.1 hok
      rw [hbuffer, Option.getD_some, hbytes, houtbound]
      exact ⟨answers, hproduced, List.nil_append _⟩
    next => exact .nil
  · exact .nil

end Framed

namespace EventLoop

section Runs

variable [Ballotin] [LawfulBallotin] {registry : ProtocolRegistry} {l : EventLoop υ} {l' : EventLoop υ'}
  {submissions : Submissions υ} {received : ByteMeter}

/-- If the tasks send frames, all that is submitted are frames. -/
theorem Metered.framed (hregistry : registry.Reachable)
    (h : Metered registry (submissionGauge registry) ⟨fun _ => [], []⟩ l submissions)
    (hdistinct : DistinctIdentifiers l.world.history) (htasks : ∀ task ∈ submissions.tasks, task.SendsFrame registry)
    (id : SocketIdentifier) : Framed registry (submissions.submitted id) := by
  refine h.invariant (I := fun _ (submissions : Submissions υ) =>
      (∀ task ∈ submissions.tasks, task.SendsFrame registry) → ∀ id, Framed registry (submissions.submitted id))
    hdistinct (fun _ _ _ _ => .nil) (fun _ _ _ hw => hw) (fun l submissions fd events hl _ hw hafter htasks id => ?_)
    (fun l submissions task _ hw _ htasks id => ?_) htasks id
  · have hgrows := (SocketContainer.handleSocketEvents_follows (w := l.world) registry fd events).grows
    obtain ⟨received, hreceived⟩ := hl.metered receivedGauge (fun _ => [])
    have hinward := hreceived.inward hregistry (hafter.mono hgrows)
    change Framed registry (l.world.addFor fd _ submissions.submitted id)
    cases hfd : l.world.fileDescriptorsToSockets[fd]? with
    | none =>
      rw [World.addFor_none hfd]
      exact hw htasks id
    | some id' =>
      obtain ⟨s, hs, -⟩ := ((World.Consistent.of_valid hl.sound.valid).descriptors fd id').mp hfd
      rw [World.addFor_some hfd hs]
      have houtbound := (hinward.waiting id' s.inboundBytes s.outboundBytes trivial (inboxes_some hs)).2.2
      have hid := (World.Registered.of_valid hl.sound.valid hs).1
      exact Framed.add (hw htasks) id' (bytesAnswered_framed hregistry hs hid houtbound events) id
  · have hbefore : ∀ t ∈ submissions.tasks, t.SendsFrame registry := fun t ht =>
      htasks t (List.mem_append_left _ ht)
    exact Task.submit_framed (hw hbefore) l.world (htasks task (List.mem_append_right _ (List.mem_singleton_self _))) id

/-- Of frames that were submitted some were handed over, and the bytes of the others are in between. -/
theorem Metered.delivered (hregistry : registry.Reachable)
    (hsender : Metered registry (submissionGauge registry) ⟨fun _ => [], []⟩ l submissions)
    (hreceiver : Metered registry receivedGauge (fun _ => []) l' received)
    (hdistinct : DistinctIdentifiers l.world.history) (hdistinct' : DistinctIdentifiers l'.world.history)
    {id id' : SocketIdentifier} {s : Socket υ} {s' : Socket υ'} {d : Descriptor} (hs : l.world.sockets[id]? = some s)
    (hs' : l'.world.sockets[id']? = some s') (hd : l.world.kernel.descriptors[s.socket.socket]? = some d)
    {onTheWay : List UInt8} (hnetwork : received id' ++ onTheWay = d.transmitted) {frames : List Frame}
    (hproduced : ∀ f ∈ frames, f.Produced registry) (hframes : submissions.submitted id = frames.flatMap Frame.bytes) :
    ∃ done todo : List Frame, frames = done ++ todo ∧ deliveriesOn id' l'.world.history = done.map Frame.delivery ∧
      s'.inboundBytes ++ onTheWay ++ s.socket.outgoingBuffer = todo.flatMap Frame.bytes ∧
      Framing.Waiting Frame.bytes s'.inboundBytes [] todo := by
  have hsent : d.transmitted ++ s.socket.outgoingBuffer = submissions.submitted id := by
    refine (hsender.outward hdistinct).streams id _ ?_
    rw [World.streams_some hs, LinuxSocket.stream, hd, Option.map_some]
  obtain ⟨hstreamed, hwaits, -⟩ := (hreceiver.inward hregistry hdistinct').waiting id' s'.inboundBytes
    s'.outboundBytes trivial (SocketContainer.inboxes_some hs')
  have hall : received id' ++ (onTheWay ++ s.socket.outgoingBuffer) = frames.flatMap Frame.bytes := by
    rw [← List.append_assoc, hnetwork, hsent, hframes]
  obtain ⟨done, todo, hsplit, hdone, hbytes, hwaiting⟩ := hstreamed.of_frames hregistry hproduced hwaits hall
  exact ⟨done, todo, hsplit, hdone, by rw [List.append_assoc, hbytes], hwaiting⟩

/-- Two providers, and a socket of each. If the bytes that the one received are the first of those that the kernel took
from the other, then the frames that were submitted on the one side are handed over on the other side, in their order and
each once, as far as they are there. The frames that are not, are in the buffer of the socket that receives, on the way,
or in the buffer of the socket that sends. -/
theorem submitted_delivered (hregistry : registry.Reachable)
    (hsender : Metered registry (submissionGauge registry) ⟨fun _ => [], []⟩ l submissions)
    (hreceiver : Metered registry receivedGauge (fun _ => []) l' received)
    (hdistinct : DistinctIdentifiers l.world.history) (hdistinct' : DistinctIdentifiers l'.world.history)
    (htasks : ∀ task ∈ submissions.tasks, task.SendsFrame registry) {id id' : SocketIdentifier} {s : Socket υ}
    {s' : Socket υ'} {d : Descriptor} (hs : l.world.sockets[id]? = some s) (hs' : l'.world.sockets[id']? = some s')
    (hd : l.world.kernel.descriptors[s.socket.socket]? = some d) {onTheWay : List UInt8}
    (hnetwork : received id' ++ onTheWay = d.transmitted) :
    ∃ done todo : List Frame, (∀ f ∈ done ++ todo, f.Produced registry) ∧
      submissions.submitted id = (done ++ todo).flatMap Frame.bytes ∧
      deliveriesOn id' l'.world.history = done.map Frame.delivery ∧
      s'.inboundBytes ++ onTheWay ++ s.socket.outgoingBuffer = todo.flatMap Frame.bytes ∧
      Framing.Waiting Frame.bytes s'.inboundBytes [] todo := by
  obtain ⟨frames, hproduced, hframes⟩ := hsender.framed hregistry hdistinct htasks id
  obtain ⟨done, todo, rfl, hdone, hbytes, hwaiting⟩ :=
    hsender.delivered hregistry hreceiver hdistinct hdistinct' hs hs' hd hnetwork hproduced hframes
  exact ⟨done, todo, hproduced, hframes, hdone, hbytes, hwaiting⟩

end Runs

def text : List UInt8 := [0, 0, 0, 7, 0, 0, 0, 40, 0, 0, 0, 1, 97]

def textFrame : Frame := ⟨.message textProtocol, 0, ([97], ())⟩

theorem textFrame_produced : @Frame.Produced referenceBallotin pingRegistry textFrame :=
  @Frame.Produced.mk referenceBallotin _ _ rfl (fun h => by cases h)
    ⟨_, @Frame.serializeWithHeader_ok referenceBallotin referenceBallotin_lawful textFrame ⟨by decide, by decide⟩ []⟩

theorem text_sendsFrame : @Task.SendsFrame Unit referenceBallotin pingRegistry (.sendBytes 1 text) :=
  ⟨textFrame, textFrame_produced, rfl⟩

/-- The kernel took the first text and the start of the second one. -/
def textsLoop : EventLoop Unit :=
  let _ := referenceBallotin
  (((connectedLoop.withScript { sends := [.sent 13, .sent 5] }).given [.sendBytes 1 text, .sendBytes 1 text] []).executed
    pingRegistry (.sendBytes 1 text) [some (.sendBytes 1 text)] []).executed pingRegistry (.sendBytes 1 text) [] []

theorem textsLoop_metered : ∃ submissions : Submissions Unit,
    @Metered Unit (Submissions Unit) referenceBallotin pingRegistry (@submissionGauge Unit referenceBallotin pingRegistry)
      ⟨fun _ => [], []⟩ textsLoop submissions ∧
    ∀ task ∈ submissions.tasks, @Task.SendsFrame Unit referenceBallotin pingRegistry task := by
  let _ := referenceBallotin
  let R : EventLoop Unit → EventLoop Unit → Prop := fun l l' =>
    Step pingRegistry l l' ∧ ∀ task, l.Executes task → task.SendsFrame pingRegistry
  have hconnected : connectedLoop.Run R := connectedLoop_runs pingRegistry fun l l' hstep hconnects =>
    ⟨hstep, fun task htask => by rw [hconnects task htask]; trivial⟩
  have hscript : (connectedLoop.withScript { sends := [.sent 13, .sent 5] }).Run R :=
    hconnected.step ⟨.outcomes _ _, fun task ⟨_, _, h⟩ => by cases h⟩
  have hreports : connectedLoop.Reports [{ fileDescriptor := 4, events := EPOLLIN }] :=
    ⟨by decide, by decide, fun e he => by rw [List.mem_singleton.mp he]; decide⟩
  have hgiven := given_run (fun l l' hstep hidle => ⟨hstep, fun task h => absurd h (hidle task)⟩) hscript rfl rfl
    (.sendBytes 1 text) [.sendBytes 1 text] ⟨hreports.size, hreports.distinct, hreports.subscribed⟩
  have hfirst := hgiven.step ⟨.executeTask _ _ [some (.sendBytes 1 text)] [] rfl, fun task ⟨_, _, h⟩ => by
    cases h
    exact text_sendsFrame⟩
  have hsecond : textsLoop.Run R := hfirst.step ⟨.executeTask _ _ [] [] rfl, fun task ⟨_, _, h⟩ => by
    cases h
    exact text_sendsFrame⟩
  refine hsecond.metered (List.forall_mem_nil _) (fun _ _ _ _ h => h) fun task _ submissions htask h => ?_
  exact List.forall_mem_append.mpr ⟨h, List.forall_mem_singleton.mpr htask⟩

theorem textLoop_received : ∃ received : ByteMeter,
    @Metered Unit ByteMeter referenceBallotin pingRegistry receivedGauge (fun _ => []) textLoop received ∧
    received 1 ++ [] = text ++ [0, 0, 0, 7, 0] := by
  let _ := referenceBallotin
  obtain ⟨received, hreceived⟩ := (readableLoop_reachable pingRegistry
    [0, 0, 0, 7, 0, 0, 0, 40, 0, 0, 0, 1, 97, 0, 0, 0, 7, 0]).metered receivedGauge (fun _ => [])
  refine ⟨_, hreceived.socketEvents { fileDescriptor := 8, events := EPOLLIN } [] rfl (by decide), ?_⟩
  have _ := referenceBallotin_lawful
  have hnothing : received 1 = [] := hreceived.received_nothing pingRegistry_reachable (by decide) rfl rfl rfl
  change received 1 ++ _ ++ [] = _
  rw [hnothing]
  rfl

/-- The first text was handed over, and the second one is in three parts. -/
theorem textsLoop_delivered : ∃ submissions : Submissions Unit,
    @Metered Unit (Submissions Unit) referenceBallotin pingRegistry (@submissionGauge Unit referenceBallotin pingRegistry)
      ⟨fun _ => [], []⟩ textsLoop submissions ∧
    submissions.submitted 1 = ([textFrame] ++ [textFrame]).flatMap Frame.bytes ∧
    deliveriesOn 1 textLoop.world.history = [textFrame].map Frame.delivery ∧
    [0, 0, 0, 7, 0] ++ [] ++ [0, 0, 40, 0, 0, 0, 1, 97] = [textFrame].flatMap Frame.bytes ∧
    Framing.Waiting Frame.bytes [0, 0, 0, 7, 0] [] [textFrame] := by
  let _ := referenceBallotin
  have _ := referenceBallotin_lawful
  obtain ⟨submissions, hsender, htasks⟩ := textsLoop_metered
  obtain ⟨received, hreceiver, hnetwork⟩ := textLoop_received
  obtain ⟨s, hs, hfd, hbuffer⟩ : ∃ s, textsLoop.world.sockets[1]? = some s ∧ s.socket.socket = 8 ∧
      s.socket.outgoingBuffer = [0, 0, 40, 0, 0, 0, 1, 97] := ⟨_, rfl, rfl, rfl⟩
  obtain ⟨s', hs', hinbound⟩ : ∃ s', textLoop.world.sockets[1]? = some s' ∧ s'.inboundBytes = [0, 0, 0, 7, 0] :=
    ⟨_, rfl, rfl⟩
  have hd : textsLoop.world.kernel.descriptors[s.socket.socket]? = some ⟨2, text ++ [0, 0, 0, 7, 0]⟩ := by
    rw [hfd]
    rfl
  obtain ⟨done, todo, hproduced, hsubmitted, hdelivered, hbytes, hwaiting⟩ := submitted_delivered pingRegistry_reachable
    hsender hreceiver (by decide) (by decide) htasks hs hs' hd hnetwork
  rw [hinbound, hbuffer] at hbytes
  rw [hinbound] at hwaiting
  have htext : [0, 0, 0, 7, 0] ++ [] ++ [0, 0, 40, 0, 0, 0, 1, 97] = [textFrame].flatMap Frame.bytes := by decide
  -- what was handed over, and what the bytes in between are, name the two frames
  have hdone : [textFrame].map Frame.delivery = done.map Frame.delivery := hdelivered
  have htodo := Frame.Produced.unique pingRegistry_reachable
    (List.forall_mem_singleton.mpr textFrame_produced) (fun f hf => hproduced f (List.mem_append_right _ hf))
    (htext.symm.trans hbytes)
  obtain ⟨f, rfl, hf⟩ := List.map_eq_singleton_iff.mp hdone.symm
  obtain ⟨g, rfl, hg⟩ := List.map_eq_singleton_iff.mp htodo.symm
  have hfirst := Frame.bytes_of_delivery hf
  have hsecond := Frame.bytes_of_delivery hg
  refine ⟨submissions, hsender, ?_, hdelivered.trans hdone.symm, htext, ?_⟩
  · rw [hsubmitted, List.singleton_append, List.singleton_append, List.flatMap_cons, List.flatMap_cons,
      List.flatMap_cons, List.flatMap_cons, hfirst, hsecond]
  · rwa [Framing.Waiting, hsecond] at hwaiting

end EventLoop

end Farseer.Linux
