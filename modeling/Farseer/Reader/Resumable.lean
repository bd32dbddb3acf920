import Farseer.Reader.Turn

/-! `readInboundBytes` on any bytes. Whether it returns or throws, it erases the frames that it consumed and
nothing else, and what it leaves can be read again: while no bytes arrive, another call does nothing. -/

namespace Farseer

open BitString

variable {υ : Type}

/-- Frames that are read one after the other from the front of some bytes, with the numbers of their bytes,
and the bytes behind them. -/
inductive FramesRead [Ballotin] (registry : ProtocolRegistry) : List UInt8 → List (Frame × ℕ) → List UInt8 → Prop
  | nil (bytes : List UInt8) : FramesRead registry bytes [] bytes
  | cons {bytes rest : List UInt8} {f : Frame} {n : ℕ} {frames : List (Frame × ℕ)}
      (hfront : FrontFrame registry bytes f n) (h : FramesRead registry (bytes.drop n) frames rest) :
      FramesRead registry bytes ((f, n) :: frames) rest

section Runs

variable [Ballotin] {registry : ProtocolRegistry}

theorem FramesRead.rest {bytes rest : List UInt8} {frames : List (Frame × ℕ)}
    (h : FramesRead registry bytes frames rest) :
    (frames.map Prod.snd).sum ≤ bytes.length ∧ rest = bytes.drop (frames.map Prod.snd).sum := by
  induction h with
  | nil bytes => exact ⟨Nat.zero_le _, rfl⟩
  | cons hfront _ ih =>
    obtain ⟨hle, rfl⟩ := ih
    have hn := hfront.length_le
    rw [List.length_drop] at hle
    rw [List.map_cons, List.sum_cons, List.drop_drop]
    exact ⟨by omega, rfl⟩

/-- What the loop did on its way to a state: it read frames from a byte position on. -/
structure Ran (registry : ProtocolRegistry) (s : Reading υ) (j : ℕ) (frames : List (Frame × ℕ)) (t : Reading υ) :
    Prop where
  inboundBytes : t.inboundBytes = s.inboundBytes
  inboundBitsOffset : t.inboundBitsOffset = 8 * (j + (frames.map Prod.snd).sum)
  read : FramesRead registry (s.inboundBytes.drop j) frames (s.inboundBytes.drop (j + (frames.map Prod.snd).sum))
  outboundBytes : s.outboundBytes <+: t.outboundBytes

/-- A loop that returned handed over the frames that it read, and waits for the next one. -/
structure RanToEnd (registry : ProtocolRegistry) (s : Reading υ) (j : ℕ) (frames : List (Frame × ℕ)) (t : Reading υ) :
    Prop extends Ran registry s j frames t where
  arrivals : t.arrivals = s.arrivals ++ arrivalsOf s.reader (frames.map Prod.fst)
  waits : Waits registry (s.inboundBytes.drop (j + (frames.map Prod.snd).sum))

/-- A loop that threw may have handed over one more frame, whose consumer threw. -/
structure RanToError (registry : ProtocolRegistry) (s : Reading υ) (j : ℕ) (frames : List (Frame × ℕ))
    (t : Reading υ) : Prop extends Ran registry s j frames t where
  arrivals : ∃ thrown : List Frame, thrown.length ≤ 1 ∧ (∀ f ∈ thrown, ∃ p, f.protocol = .request p) ∧
    t.arrivals = s.arrivals ++ arrivalsOf s.reader (frames.map Prod.fst ++ thrown)

theorem Ran.cons {s t u : Reading υ} {j n : ℕ} {f : Frame} {frames : List (Frame × ℕ)}
    (hfront : FrontFrame registry (s.inboundBytes.drop j) f n) (hconsumes : Consumes f s t)
    (h : Ran registry { t with inboundBitsOffset := 8 * (j + n) } (j + n) frames u) :
    Ran registry s j ((f, n) :: frames) u := by
  have hbytes : ({ t with inboundBitsOffset := 8 * (j + n) } : Reading υ).inboundBytes = s.inboundBytes :=
    hconsumes.inboundBytes
  obtain ⟨hinbound, hoffset, hframes, houtbound⟩ := h
  rw [hbytes] at hinbound hframes
  have hsum : j + ((((f, n) :: frames).map Prod.snd).sum) = j + n + (frames.map Prod.snd).sum := by
    rw [List.map_cons, List.sum_cons, Nat.add_assoc]
  refine ⟨hinbound, by rw [hoffset, hsum], ?_, hconsumes.outboundBytes.trans houtbound⟩
  rw [hsum]
  exact .cons hfront (by rwa [List.drop_drop])

variable [LawfulBallotin]

/-- The loop, from any byte position of any bytes. -/
theorem readLoop_ran (hregistry : registry.Generated) (fuel : ℕ) {s : Reading υ} {j : ℕ}
    (hj : j ≤ s.inboundBytes.length) (hoffset : s.inboundBitsOffset = 8 * j)
    (hfuel : s.inboundBytes.length < fuel + j) :
    Program.Ends (fun _ t => ∃ frames, RanToEnd registry s j frames t) (fun t => ∃ frames, RanToError registry s j frames t)
      (Reading.readLoop registry fuel) s := by
  induction fuel generalizing s j with
  | zero => omega
  | succ fuel ih =>
    have hnone : Ran registry s j [] s := ⟨rfl, hoffset, .nil _, List.prefix_refl _⟩
    rcases readLoop_cases hregistry hj hoffset with hwaits | ⟨e, herror⟩ | ⟨f, n, hfront⟩
    · exact .of_ok (readLoop_waits hwaits hj hoffset fuel) ⟨[], hnone, (List.append_nil _).symm, hwaits⟩
    · exact .of_error (herror fuel) ⟨[], hnone, [], Nat.zero_le 1, List.forall_mem_nil _, (List.append_nil _).symm⟩
    · have hn := hfront.length_le
      rw [List.length_drop] at hn
      rw [Program.Ends, readLoop_front hfront hj hoffset]
      have hconsume := f.consume_consumes s
      cases hrun : f.consume s with
      | error e t =>
        have hconsumes := hconsume.error hrun
        rw [Program.bind_error hrun]
        refine ⟨[], ⟨hconsumes.inboundBytes, ?_, .nil _, hconsumes.outboundBytes⟩, [f], le_rfl,
          List.forall_mem_singleton.mpr (f.consume_error hrun), hconsumes.arrivals⟩
        rw [hconsumes.inboundBitsOffset, hoffset]
        rfl
      | ok u t =>
        have hconsumes := hconsume.ok hrun
        rw [Program.bind_ok hrun, Program.bind_ok (Program.modify_apply _)]
        have hrest := ih (s := { t with inboundBitsOffset := 8 * (j + n) }) (j := j + n)
          (by rw [hconsumes.inboundBytes]; omega) rfl (by rw [hconsumes.inboundBytes]; omega)
        have harrivals : ∀ frames : List Frame, t.arrivals ++ arrivalsOf t.reader frames =
            s.arrivals ++ arrivalsOf s.reader (f :: frames) := fun frames => by
          rw [hconsumes.arrivals, hconsumes.reader, List.append_assoc]
          rfl
        refine hrest.mono (fun _ v hv => ?_) fun v hv => ?_
        · obtain ⟨frames, hran, harrived, hwaits⟩ := hv
          refine ⟨(f, n) :: frames, .cons hfront hconsumes hran, harrived.trans (harrivals _), ?_⟩
          rw [List.map_cons, List.sum_cons, ← Nat.add_assoc, ← hconsumes.inboundBytes]
          exact hwaits
        · obtain ⟨frames, hran, thrown, hthrown, hrequest, harrived⟩ := hv
          exact ⟨(f, n) :: frames, .cons hfront hconsumes hran, thrown, hthrown, hrequest, harrived.trans (harrivals _)⟩

/-- The turns that the loop is given are more than it takes. -/
theorem readLoop_fuel (hregistry : registry.Generated) (fuel : ℕ) {s : Reading υ} {j : ℕ}
    (hj : j ≤ s.inboundBytes.length) (hoffset : s.inboundBitsOffset = 8 * j)
    (hfuel : s.inboundBytes.length < fuel + j) :
    Reading.readLoop registry (fuel + 1) s = Reading.readLoop registry fuel s := by
  induction fuel generalizing s j with
  | zero => omega
  | succ fuel ih =>
    rcases readLoop_cases hregistry hj hoffset with hwaits | ⟨e, herror⟩ | ⟨f, n, hfront⟩
    · rw [readLoop_waits hwaits hj hoffset, readLoop_waits hwaits hj hoffset]
    · rw [herror, herror]
    · have hn := hfront.length_le
      rw [List.length_drop] at hn
      rw [readLoop_front hfront hj hoffset, readLoop_front hfront hj hoffset]
      have hconsume := f.consume_consumes s
      cases hrun : f.consume s with
      | error e t => rw [Program.bind_error hrun, Program.bind_error hrun]
      | ok u t =>
        have hbytes := (hconsume.ok hrun).inboundBytes
        rw [Program.bind_ok hrun, Program.bind_ok hrun, Program.bind_ok (Program.modify_apply _),
          Program.bind_ok (Program.modify_apply _)]
        exact ih (j := j + n) (by rw [hbytes]; omega) rfl (by rw [hbytes]; omega)

omit [LawfulBallotin] in
theorem Ran.erased {s t : Reading υ} {frames : List (Frame × ℕ)} (h : Ran registry s 0 frames t) :
    (Reading.eraseInboundBytes t).inboundBytes = s.inboundBytes.drop (frames.map Prod.snd).sum := by
  rw [Reading.eraseInboundBytes, h.inboundBytes, h.inboundBitsOffset, Nat.zero_add, bitsPerByte,
    Nat.mul_div_cancel_left _ (by decide)]

/-- What a call reads. A request whose consumer threw is handed over, but not consumed. -/
theorem readInboundBytes_frames (hregistry : registry.Reachable) (s : Reading υ) :
    let t := Program.final (Reading.readInboundBytes registry s)
    ∃ (frames : List (Frame × ℕ)) (thrown : List Frame), FramesRead registry s.inboundBytes frames t.inboundBytes ∧
      thrown.length ≤ 1 ∧ (∀ f ∈ thrown, ∃ p, f.protocol = .request p) ∧
      t.arrivals = s.arrivals ++ arrivalsOf s.reader (frames.map Prod.fst ++ thrown) ∧
      s.outboundBytes <+: t.outboundBytes ∧ t.inboundBitsOffset = 0 ∧
      (Reading.readInboundBytes registry s = .ok () t → thrown = [] ∧ Waits registry t.inboundBytes) := by
  have hloop := readLoop_ran (s := { s with inboundBitsOffset := 0 }) (j := 0) hregistry.generated
    (s.inboundBytes.length + 1) (Nat.zero_le _) rfl (by rw [Nat.add_zero]; exact Nat.lt_succ_self _)
  have hcall : Reading.readInboundBytes registry s = Program.scopeExit Reading.eraseInboundBytes
      (Reading.readLoop registry (s.inboundBytes.length + 1)) { s with inboundBitsOffset := 0 } := by
    rw [Reading.readInboundBytes, Program.bind_ok (Program.modify_apply _), Program.bind_ok Program.get_apply]
  rw [hcall]
  cases hrun : Reading.readLoop registry (s.inboundBytes.length + 1) { s with inboundBitsOffset := 0 } with
  | ok u t =>
    obtain ⟨frames, hran, harrivals, hwaits⟩ := hloop.ok hrun
    have hframes := hran.read
    have herased := hran.erased
    rw [Nat.zero_add] at hwaits hframes
    rw [← herased] at hwaits hframes
    rw [Program.scopeExit_ok hrun]
    exact ⟨frames, [], hframes, Nat.zero_le 1, List.forall_mem_nil _, by rw [List.append_nil]; exact harrivals,
      hran.outboundBytes, rfl, fun _ => ⟨rfl, hwaits⟩⟩
  | error e t =>
    obtain ⟨frames, hran, thrown, hthrown, hrequest, harrivals⟩ := hloop.error hrun
    have hframes := hran.read
    rw [Nat.zero_add, ← hran.erased] at hframes
    rw [Program.scopeExit_error hrun]
    exact ⟨frames, thrown, hframes, hthrown, hrequest, harrivals, hran.outboundBytes, rfl, fun h => by cases h⟩

end Runs

theorem pingRegistry_reachable : @ProtocolRegistry.Reachable referenceBallotin pingRegistry :=
  @ProtocolRegistry.Reachable.request referenceBallotin _ pingProtocol
    (@ProtocolRegistry.Reachable.message referenceBallotin _ textProtocol (@ProtocolRegistry.Reachable.new referenceBallotin))

end Farseer
