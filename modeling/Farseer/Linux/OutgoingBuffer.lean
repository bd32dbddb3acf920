import Farseer.Lib.Table
import Farseer.Linux.LinuxSocket

/-! The outgoing byte stream of a socket. What the kernel has taken and what waits in the buffer
are together what was ever passed to `sendBytes`, after every call and however `::send` ended. -/

namespace Farseer.Linux

namespace Kernel

theorem transmit_nil (k : Kernel) (fd : FileDescriptor) : (k.transmit fd []).descriptors = k.descriptors := by
  refine Std.ExtTreeMap.ext_getElem? fun a => ?_
  rw [transmit, Table.lookup_modify]
  split_ifs with heq
  · rw [heq]
    cases k.descriptors[a]? with
    | none => rfl
    | some d => rw [Option.map_some, List.append_nil]
  · rfl

/-- The kernel took bytes from one descriptor, and nothing else happened but for the script. -/
structure Took (k k' : Kernel) (fd : FileDescriptor) (bytes : List UInt8) : Prop where
  descriptors : k'.descriptors = (k.transmit fd bytes).descriptors
  interestList : k'.interestList = k.interestList
  clock : k'.clock = k.clock
  controls : k'.script.controls = k.script.controls

theorem Took.nothing {k : Kernel} {fd : FileDescriptor} {script : Script}
    (h : script.controls = k.script.controls) : k.Took { k with script } fd [] :=
  ⟨(k.transmit_nil fd).symm, rfl, rfl, h⟩

theorem Took.lookup {k k' : Kernel} {fd : FileDescriptor} {bytes : List UInt8} (h : k.Took k' fd bytes)
    {d : Descriptor} (hd : k.descriptors[fd]? = some d) :
    k'.descriptors[fd]? = some { d with transmitted := d.transmitted ++ bytes } := by
  rw [h.descriptors, transmit, Table.lookup_modify, if_pos rfl, hd]
  rfl

end Kernel

/-- What the next call of `::send` leaves of the bytes it is offered. -/
def Script.remaining (script : Script) (bytes : List UInt8) : List UInt8 :=
  match script.sends with
  | .sent n :: _ => bytes.drop n
  | _ => bytes

theorem send_cases (fd : FileDescriptor) (bytes : List UInt8) (k : Kernel) :
    ∃ k' n, k.Took k' fd (bytes.take n) ∧ bytes.drop n = k.script.remaining bytes ∧
      ((send fd bytes k = .ok (.sent n) k' ∧ n ≤ bytes.length) ∨
        (n = 0 ∧ send fd bytes k = .ok .wouldBlock k') ∨
        (n = 0 ∧ ∃ e, k.script.sends.head? = some (.failure e) ∧ send fd bytes k = .ok (.failure e) k')) := by
  unfold Script.remaining
  cases hsends : k.script.sends with
  | nil =>
    refine ⟨k, 0, ⟨(k.transmit_nil fd).symm, rfl, rfl, rfl⟩, rfl, .inr (.inl ⟨rfl, ?_⟩)⟩
    rw [send, Program.bind_ok (a := .wouldBlock) (t := k) (by rw [draw, hsends])]
    rfl
  | cons outcome rest =>
    have hdraw : draw Script.sends (fun sends script => { script with sends }) .wouldBlock k =
        .ok outcome { k with script := { k.script with sends := rest } } := by rw [draw, hsends]
    have hsend : send fd bytes k = _ := Program.bind_ok hdraw
    cases outcome with
    | sent n =>
      refine ⟨_, min n bytes.length, ?_, ?_, .inl ⟨hsend, Nat.min_le_right _ _⟩⟩
      · rw [← List.take_eq_take_min]
        exact ⟨rfl, rfl, rfl, rfl⟩
      · rw [← List.drop_eq_drop_min]
    | wouldBlock =>
      refine ⟨_, 0, ?_, rfl, .inr (.inl ⟨rfl, hsend⟩)⟩
      exact .nothing rfl
    | failure e =>
      refine ⟨_, 0, ?_, rfl, .inr (.inr ⟨rfl, e, rfl, hsend⟩)⟩
      exact .nothing rfl

namespace LinuxSocket

variable {s s' : LinuxSocket} {k k' : Kernel} {bytes : List UInt8}

/-- How `sendBytes` ends on an established socket: the kernel took the front of the buffer and
the rest stays, or it took nothing and the call throws. -/
theorem sendBytes_established (hs : s.isEstablished = true) (bytes : List UInt8) (k : Kernel) :
    ∃ m k', k.Took k' s.socket ((s.outgoingBuffer ++ bytes).take m) ∧
      (s.outgoingBuffer ++ bytes).drop m = k.script.remaining (s.outgoingBuffer ++ bytes) ∧
      (sendBytes bytes (s, k) = .ok ((s.outgoingBuffer ++ bytes).drop m).isEmpty
          ({ s with outgoingBuffer := (s.outgoingBuffer ++ bytes).drop m }, k') ∨
        m = 0 ∧ s.outgoingBuffer ++ bytes ≠ [] ∧ ∃ e, k.script.sends.head? = some (.failure e) ∧
          sendBytes bytes (s, k) = .error (.internalSocketError ("Error sending bytes to socket: " ++ e))
            ({ s with outgoingBuffer := s.outgoingBuffer ++ bytes }, k')) := by
  set buffer := s.outgoingBuffer ++ bytes with hbuffer
  have hstart : sendBytes bytes (s, k) = flush ({ s with outgoingBuffer := buffer }, k) := by
    rw [sendBytes, Program.bind_ok Program.get_apply]
    simp only [hs, Bool.not_true, Bool.false_eq_true, if_false]
    rfl
  rw [hstart, flush, Program.bind_ok Program.get_apply]
  by_cases hempty : buffer = []
  · refine ⟨0, k, ⟨(k.transmit_nil _).symm, rfl, rfl, rfl⟩, ?_, .inl ?_⟩
    · unfold Script.remaining
      split <;> simp only [hempty, List.drop_nil]
    · simp only [hempty, List.isEmpty_nil, if_true, List.drop_nil]
      rfl
  · have hnot : buffer.isEmpty = false := by rwa [List.isEmpty_eq_false_iff]
    simp only [hnot, Bool.false_eq_true, if_false]
    have hzoom : ∀ {outcome k'}, send s.socket buffer k = .ok outcome k' →
        Program.zoom Prod.snd (fun kernel (sk : LinuxSocket × Kernel) => (sk.1, kernel))
          (send s.socket buffer) ({ s with outgoingBuffer := buffer }, k) =
          .ok outcome ({ s with outgoingBuffer := buffer }, k') := by
      intro outcome k' hsend
      rw [Program.zoom, hsend]
    obtain ⟨k', n, htook, hremaining, ⟨hsend, hn⟩ | ⟨rfl, hsend⟩ | ⟨rfl, e, he, hsend⟩⟩ :=
      send_cases s.socket buffer k
    · refine ⟨n, k', htook, hremaining, .inl ?_⟩
      have hexhausted : (buffer.drop n).isEmpty = (n == buffer.length) := by
        rw [Bool.eq_iff_iff, List.isEmpty_iff, List.drop_eq_nil_iff, beq_iff_eq]
        omega
      rw [Program.bind_ok (hzoom hsend), hexhausted]
      rfl
    · refine ⟨0, k', htook, hremaining, .inl ?_⟩
      rw [Program.bind_ok (hzoom hsend), List.drop_zero, hnot]
      rfl
    · refine ⟨0, k', htook, hremaining, .inr ⟨rfl, hempty, e, he, ?_⟩⟩
      rw [Program.bind_ok (hzoom hsend)]
      rfl

/-- On any other socket a call throws and changes nothing. -/
theorem sendBytes_refused (hs : s.isEstablished = false) (bytes : List UInt8) (k : Kernel) :
    sendBytes bytes (s, k) =
      .error (.internalSocketError "Can only send bytes to an accepted or connected socket") (s, k) := by
  rw [sendBytes, Program.bind_ok Program.get_apply]
  simp only [hs, Bool.not_false, if_true]
  rfl

end LinuxSocket

/-- Calls of `sendBytes` on one socket, with all the bytes they were passed. Between calls the
rest of the program may call the kernel too, and any outcomes may be on their way. -/
inductive SendRun (s : LinuxSocket) (k : Kernel) : List UInt8 → LinuxSocket → Kernel → Prop
  | nil : SendRun s k [] s k
  | call {passed : List UInt8} {t : LinuxSocket} {l : Kernel} (h : SendRun s k passed t l)
      (bytes : List UInt8) {u : LinuxSocket} {m : Kernel}
      (hcall : Program.final (LinuxSocket.sendBytes bytes (t, l)) = (u, m)) : SendRun s k (passed ++ bytes) u m
  | elsewhere {passed : List UInt8} {t : LinuxSocket} {l : Kernel} (h : SendRun s k passed t l) {m : Kernel}
      (hkept : m.descriptors[t.socket]? = l.descriptors[t.socket]?) : SendRun s k passed t m

/-- The socket is the same but for its buffer, and the kernel and the buffer hold the stream. -/
structure Streams (s : LinuxSocket) (stream : List UInt8) (t : LinuxSocket) (l : Kernel) : Prop where
  established : t.isEstablished = true
  socket : t.socket = s.socket
  stream : ∃ d, l.descriptors[t.socket]? = some d ∧ d.transmitted ++ t.outgoingBuffer = stream

theorem Streams.call {s t : LinuxSocket} {l : Kernel} {stream : List UInt8} (h : Streams s stream t l)
    (bytes : List UInt8) {u : LinuxSocket} {m : Kernel}
    (hcall : Program.final (LinuxSocket.sendBytes bytes (t, l)) = (u, m)) : Streams s (stream ++ bytes) u m := by
  obtain ⟨d, hd, hstream⟩ := h.stream
  obtain ⟨n, m', htook, -, hok | ⟨rfl, -, e, -, herror⟩⟩ := LinuxSocket.sendBytes_established h.established bytes l
  · rw [hok] at hcall
    obtain ⟨rfl, rfl⟩ := Prod.mk.inj hcall
    refine ⟨h.established, h.socket, _, htook.lookup hd, ?_⟩
    rw [List.append_assoc, List.take_append_drop, ← List.append_assoc, hstream]
  · rw [herror] at hcall
    obtain ⟨rfl, rfl⟩ := Prod.mk.inj hcall
    refine ⟨h.established, h.socket, _, htook.lookup hd, ?_⟩
    rw [List.take_zero, List.append_nil, ← List.append_assoc, hstream]

theorem SendRun.streams {s t : LinuxSocket} {k l : Kernel} {passed : List UInt8} {d : Descriptor}
    (hs : s.isEstablished = true) (hd : k.descriptors[s.socket]? = some d) (h : SendRun s k passed t l) :
    Streams s (d.transmitted ++ s.outgoingBuffer ++ passed) t l := by
  induction h with
  | nil => exact ⟨hs, rfl, d, hd, (List.append_nil _).symm⟩
  | call h bytes hcall ih =>
    rw [← List.append_assoc]
    exact ih.call bytes hcall
  | elsewhere h hkept ih => exact ⟨ih.established, ih.socket, hkept ▸ ih.stream⟩

/-- What is promised of the outgoing bytes of a socket, whatever was sent before. -/
structure OutgoingStream (s : LinuxSocket) (d : Descriptor) (passed : List UInt8) (t : LinuxSocket)
    (l : Kernel) : Prop where
  /-- nothing is lost, duplicated or reordered -/
  streams : Streams s (d.transmitted ++ s.outgoingBuffer ++ passed) t l
  /-- the next call says whether it left nothing behind -/
  exhausted : ∀ {bytes : List UInt8} {exhausted : Bool} {u : LinuxSocket} {m : Kernel},
    LinuxSocket.sendBytes bytes (t, l) = .ok exhausted (u, m) → (exhausted = true ↔ u.outgoingBuffer = [])

/-- The outgoing stream of a socket is intact after every run of calls; a socket that is not
established sends nothing. -/
theorem sendBytes_stream {s : LinuxSocket} {k : Kernel} :
    (∀ {d passed t l}, s.isEstablished = true → k.descriptors[s.socket]? = some d → SendRun s k passed t l →
      OutgoingStream s d passed t l) ∧
    (s.isEstablished = false → ∀ bytes, ∃ e, LinuxSocket.sendBytes bytes (s, k) = .error e (s, k)) := by
  refine ⟨fun {d passed t l} hs hd hrun => ?_, fun hs bytes => ⟨_, LinuxSocket.sendBytes_refused hs bytes k⟩⟩
  have hstreams := hrun.streams hs hd
  refine ⟨hstreams, fun {bytes exhausted u m} hcall => ?_⟩
  obtain ⟨n, m', -, -, hok | ⟨-, -, e, -, herror⟩⟩ := LinuxSocket.sendBytes_established hstreams.established bytes l
  · rw [hok] at hcall
    cases hcall
    exact List.isEmpty_iff
  · rw [herror] at hcall
    cases hcall

/-! A socket of which the kernel takes two bytes, then none, and then fails. -/

def partialSocket : LinuxSocket :=
  { outgoingBuffer := [], ipAddress := "10.0.0.1", port := 80, socket := 5, socketType := .accepted }

def partialKernel : Kernel where
  descriptors := Std.ExtTreeMap.insert ∅ 5 { openedAt := 0, transmitted := [] }
  interestList := ∅
  clock := 1
  script := { sends := [.sent 2, .wouldBlock, .failure "Connection reset by peer"] }

def partialSends : LinuxSocket × Kernel :=
  [[1, 2, 3], [4], []].foldl (fun state bytes => Program.final (LinuxSocket.sendBytes bytes state))
    (partialSocket, partialKernel)

theorem partialSends_stream :
    OutgoingStream partialSocket { openedAt := 0, transmitted := [] } [1, 2, 3, 4] partialSends.1 partialSends.2 ∧
      partialSends.2.descriptors[5]? = some { openedAt := 0, transmitted := [1, 2] } ∧
      partialSends.1.outgoingBuffer = [3, 4] := by
  have hrun : SendRun partialSocket partialKernel ((([] ++ [1, 2, 3]) ++ [4]) ++ []) partialSends.1 partialSends.2 :=
    ((SendRun.nil.call [1, 2, 3] rfl).call [4] rfl).call [] rfl
  exact ⟨(sendBytes_stream (k := partialKernel)).1 rfl rfl hrun, rfl, rfl⟩

end Farseer.Linux
