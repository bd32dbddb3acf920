import Farseer.Reader.Arrivals
import Farseer.Reader.Resumable

/-! The consumers of responses that `sendRequest` leaves with a reader. Over any bytes, the consumer of the user is
called at most once. Its entry is found by the sequence number alone, and whoever finds it removes it. -/

namespace Farseer

open BitString

variable {υ : Type}

/-- What `sendRequest` makes of the consumer of the user. -/
def RequestProtocol.expecting (p : RequestProtocol)
    (responseConsumer : p.responseType.Value → EStateM Exception υ Unit) : Consumer υ := fun response => do
  let response ← Program.lift (anyCast p.responseType response)
  responseConsumer response

section Stable

theorem frameDecoder_stable {T : Type} (isSequenced : Bool) (staticNumberOfBits : Option ProtocolSize) (c : Codec T) :
    Stable (frameDecoder isSequenced staticNumberOfBits c) := by
  have hnumber : Local (sequenceNumberDecoder isSequenced) := by
    cases isSequenced with
    | false => exact local_pure 0
    | true => exact uint64Codec.isLocal
  have hsome : ∀ sequenceNumber, Stable (do
      let value ← c.decoder
      return some (sequenceNumber, value) : Decoder (Option (ProtocolSequenceNumber × T))) := fun sequenceNumber =>
    (c.isLocal.bind fun value => local_pure _).stable
  cases staticNumberOfBits with
  | some n => exact (Stable.bind hnumber hsome).ifAvailable _
  | none =>
    exact (Stable.bind hnumber fun sequenceNumber => Stable.bind (local_field 32) fun dynamicNumberOfBits =>
      (hsome sequenceNumber).ifAvailable _).ifAvailable _

theorem Protocol.decoder_stable (p : Protocol) : Stable p.decoder := by
  intro l a r m h
  obtain ⟨result, hdecoder, hresult⟩ := Decoder.map_eq_some h
  obtain ⟨⟨n, value⟩, rfl, rfl⟩ := Option.map_eq_some_iff.mp hresult
  exact Decoder.map_some (frameDecoder_stable _ _ _ l _ r m hdecoder)

variable [Ballotin] {registry : ProtocolRegistry}

theorem FrontFrame.append {bytes : List UInt8} {f : Frame} {n : ℕ} (h : FrontFrame registry bytes f n)
    (more : List UInt8) : FrontFrame registry (bytes ++ more) f n := by
  obtain ⟨⟨hregistered, tail, htail⟩, front, rest, hbytes, hfour, hdecoder, hn⟩ := h
  refine ⟨⟨hregistered, tail ++ bytesToBits more, ?_⟩, front, rest ++ bytesToBits more, ?_, hfour, ?_, hn⟩
  · rw [bytesToBits_append, htail, List.append_assoc]
  · rw [bytesToBits_append, hbytes, List.append_assoc]
  · rw [← List.append_assoc]
    exact f.protocol.decoder_stable _ _ _ _ hdecoder

theorem FramesRead.append {bytes rest : List UInt8} {frames : List (Frame × ℕ)}
    (h : FramesRead registry bytes frames rest) (more : List UInt8) :
    FramesRead registry (bytes ++ more) frames (rest ++ more) := by
  induction h with
  | nil bytes => exact .nil _
  | cons hfront _ ih =>
    refine .cons (hfront.append more) ?_
    rwa [List.drop_append_of_le_length hfront.length_le.2]

theorem FramesRead.trans {bytes middle rest : List UInt8} {frames others : List (Frame × ℕ)}
    (h : FramesRead registry bytes frames middle) (h' : FramesRead registry middle others rest) :
    FramesRead registry bytes (frames ++ others) rest := by
  induction h with
  | nil bytes => exact h'
  | cons hfront _ ih => exact .cons hfront (ih h')

end Stable

/-- The identifier of the protocol if the frame is a response with the number. -/
def Frame.answers (n : ProtocolSequenceNumber) (f : Frame) : Option ProtocolIdentifier :=
  match f.protocol with
  | .response p => if f.sequenceNumber = n then some p.response.protocolIdentifier else none
  | .message _ | .request _ => none

def Arrival.answers (n : ProtocolSequenceNumber) : Arrival υ → Option ProtocolIdentifier
  | .response identifier sequenceNumber _ _ => if sequenceNumber = n then some identifier else none
  | _ => none

theorem Frame.arrival_answers (n : ProtocolSequenceNumber) (f : Frame) (reader : ProtocolReader υ) :
    (f.arrival reader).answers n = f.answers n := by
  obtain ⟨protocol, m, value⟩ := f
  cases protocol <;> rfl

theorem arrivalsOf_answers (n : ProtocolSequenceNumber) (reader : ProtocolReader υ) (frames : List Frame) :
    (arrivalsOf reader frames).filterMap (Arrival.answers n) = frames.filterMap (Frame.answers n) := by
  induction frames generalizing reader with
  | nil => rfl
  | cons f frames ih => rw [arrivalsOf, List.filterMap_cons, List.filterMap_cons, f.arrival_answers, ih]

theorem Frame.answers_request (n : ProtocolSequenceNumber) {f : Frame} (h : ∃ p, f.protocol = .request p) :
    f.answers n = none := by
  obtain ⟨p, hp⟩ := h
  rw [Frame.answers, hp]

namespace ProtocolReader

def afterArrivals (reader : ProtocolReader υ) (arrivals : List (Arrival υ)) : ProtocolReader υ :=
  arrivals.foldl afterArrival reader

theorem afterArrival_oneShot (reader : ProtocolReader υ) (a : Arrival υ) (n : ProtocolSequenceNumber) :
    (reader.afterArrival a).inboundOneShotResponseConsumers[n]? =
      if (a.answers n).isSome then none else reader.inboundOneShotResponseConsumers[n]? := by
  cases a with
  | message identifier value found => rfl
  | request identifier m value found => rfl
  | response identifier m value found =>
    rw [afterArrival, Table.lookup_erase, Arrival.answers]
    by_cases h : m = n <;> simp [h]

/-- An entry stays until a response with its number arrives. -/
theorem afterArrivals_oneShot (reader : ProtocolReader υ) (arrivals : List (Arrival υ)) (n : ProtocolSequenceNumber) :
    (reader.afterArrivals arrivals).inboundOneShotResponseConsumers[n]? =
      if arrivals.filterMap (Arrival.answers n) = [] then reader.inboundOneShotResponseConsumers[n]? else none := by
  induction arrivals generalizing reader with
  | nil => rfl
  | cons a arrivals ih =>
    change ((reader.afterArrival a).afterArrivals arrivals).inboundOneShotResponseConsumers[n]? = _
    rw [ih, afterArrival_oneShot]
    cases h : a.answers n with
    | none => simp [h]
    | some identifier => simp [h]

theorem Reads.afterArrivals {reader reader' : ProtocolReader υ} {user user' : υ} {arrivals : List (Arrival υ)}
    (h : Reads reader user arrivals reader' user') : reader' = reader.afterArrivals arrivals := by
  induction h with
  | nil => rfl
  | concat _ _ ih => rw [ProtocolReader.afterArrivals, List.foldl_concat, ← ProtocolReader.afterArrivals, ← ih]

end ProtocolReader

/-- The value with which the arrival calls the consumer of the user, who expects a response of a type. -/
def RequestProtocol.completion (p : RequestProtocol) (n : ProtocolSequenceNumber) :
    Arrival υ → Option p.responseType.Value
  | .response _ sequenceNumber response (some _) =>
    if sequenceNumber = n then (anyCast p.responseType response).toOption else none
  | _ => none

/-- What the arrival does to the user is to call his consumer with that value, or nothing. -/
theorem RequestProtocol.invoke_expecting (p : RequestProtocol) (n : ProtocolSequenceNumber)
    (responseConsumer : p.responseType.Value → EStateM Exception υ Unit) (identifier : ProtocolIdentifier)
    (response : Any) (user : υ) :
    (Arrival.response identifier n response (some (p.expecting responseConsumer))).invoke user =
      match p.completion n (.response identifier n response (some (p.expecting responseConsumer))) with
      | some value => Program.final (responseConsumer value user)
      | none => user := by
  rw [Arrival.invoke, RequestProtocol.completion, if_pos rfl, RequestProtocol.expecting]
  cases anyCast p.responseType response with
  | ok value => rfl
  | error e => rfl

/-- In every state, an entry is removed only by a response of the protocol with the number. -/
def RemovedOnlyByOwn (p : RequestProtocol) (n : ProtocolSequenceNumber) (reader : ProtocolReader υ)
    (arrivals : List (Arrival υ)) : Prop :=
  ∀ before a after, arrivals = before ++ a :: after →
    (reader.afterArrivals before).inboundOneShotResponseConsumers.contains n = true →
    ((reader.afterArrivals before).afterArrival a).inboundOneShotResponseConsumers.contains n = false →
      a.answers n = some p.response.protocolIdentifier

section Completion

variable {n : ProtocolSequenceNumber} {reader : ProtocolReader υ}

theorem removedOnlyByOwn_iff (p : RequestProtocol) (hpending : reader.inboundOneShotResponseConsumers.contains n = true)
    (arrivals : List (Arrival υ)) :
    RemovedOnlyByOwn p n reader arrivals ↔ ∀ identifier, (arrivals.filterMap (Arrival.answers n)).head? = some identifier →
      identifier = p.response.protocolIdentifier := by
  have hcontains : ∀ before, (reader.afterArrivals before).inboundOneShotResponseConsumers.contains n =
      decide (before.filterMap (Arrival.answers n) = []) := by
    intro before
    rw [Table.contains_eq] at hpending ⊢
    rw [ProtocolReader.afterArrivals_oneShot]
    split_ifs with h <;> simp [h, hpending]
  have hremoved : ∀ before a, ((reader.afterArrivals before).afterArrival a).inboundOneShotResponseConsumers.contains n =
      (decide (before.filterMap (Arrival.answers n) = []) && (a.answers n).isNone) := by
    intro before a
    have h := hcontains (before ++ [a])
    rw [ProtocolReader.afterArrivals, List.foldl_concat, ← ProtocolReader.afterArrivals] at h
    rw [h, List.filterMap_append]
    cases ha : a.answers n <;> simp [ha]
  constructor
  · intro h identifier hhead
    obtain ⟨before, a, after, rfl, hbefore, ha⟩ : ∃ before a after, arrivals = before ++ a :: after ∧
        before.filterMap (Arrival.answers n) = [] ∧ a.answers n = some identifier := by
      rw [List.head?_filterMap] at hhead
      obtain ⟨before, a, after, hsplit, ha, hbefore⟩ := List.findSome?_eq_some_iff.mp hhead
      exact ⟨before, a, after, hsplit, List.filterMap_eq_nil_iff.mpr hbefore, ha⟩
    have hown := h before a after rfl (by simp [hcontains, hbefore]) (by simp [hremoved, ha])
    exact Option.some_inj.mp (ha.symm.trans hown)
  · intro h before a after hsplit hbefore hafter
    have hnone : before.filterMap (Arrival.answers n) = [] := by simpa [hcontains] using hbefore
    rw [hremoved, hnone] at hafter
    obtain ⟨identifier, ha⟩ : ∃ identifier, a.answers n = some identifier := by
      simpa [← Option.isSome_iff_exists] using hafter
    have hhead : (arrivals.filterMap (Arrival.answers n)).head? = some identifier := by
      rw [hsplit, List.filterMap_append, hnone, List.nil_append, List.filterMap_cons_some ha, List.head?_cons]
    rw [ha, h identifier hhead]

variable {reader' : ProtocolReader υ} {user user' : υ} {arrivals : List (Arrival υ)}

/-- Who is called with a response is the consumer that was pending from the start. -/
theorem ProtocolReader.Reads.found {w : Consumer υ} (h : Reads reader user arrivals reader' user')
    (hpending : reader.inboundOneShotResponseConsumers[n]? = some w) {identifier : ProtocolIdentifier} {value : Any}
    {found : Consumer υ} (hmem : Arrival.response identifier n value (some found) ∈ arrivals) : found = w := by
  induction h with
  | nil => simp at hmem
  | concat hreads hserves ih =>
    rcases List.mem_append.mp hmem with hmem | hmem
    · exact ih hmem
    · rw [← List.mem_singleton.mp hmem, ProtocolReader.Serves, hreads.afterArrivals,
        ProtocolReader.afterArrivals_oneShot, hpending] at hserves
      split_ifs at hserves
      exact Option.some_inj.mp hserves

/-- The consumer of the user is called at most once, and not before a response with its number arrives. -/
theorem ProtocolReader.Reads.completions (h : Reads reader user arrivals reader' user') (p : RequestProtocol) :
    (arrivals.filterMap (p.completion n)).length ≤ 1 ∧
      (arrivals.filterMap (Arrival.answers n) = [] → arrivals.filterMap (p.completion n) = []) := by
  have hanswers : ∀ a : Arrival υ, a.answers n = none → p.completion n a = none := by
    intro a ha
    cases a with
    | message identifier value found => rfl
    | request identifier m value found => rfl
    | response identifier m value found =>
      have hm : m ≠ n := by simpa [Arrival.answers] using ha
      cases found <;> simp [RequestProtocol.completion, hm]
  have hnone : ∀ arrivals : List (Arrival υ), arrivals.filterMap (Arrival.answers n) = [] →
      arrivals.filterMap (p.completion n) = [] := fun arrivals hempty =>
    List.filterMap_eq_nil_iff.mpr fun a ha => hanswers a (List.filterMap_eq_nil_iff.mp hempty a ha)
  refine ⟨?_, hnone arrivals⟩
  induction h with
  | nil => exact Nat.zero_le 1
  | @concat reader' user user' arrivals hreads a hserves ih =>
    rw [List.filterMap_append, List.length_append]
    by_cases hempty : arrivals.filterMap (Arrival.answers n) = []
    · rw [hnone arrivals hempty, List.length_nil, Nat.zero_add]
      exact List.length_filterMap_le _ [a]
    · -- the entry is gone, so the arrival finds nobody
      have hcompletion : p.completion n a = none := by
        cases a with
        | message identifier value found => rfl
        | request identifier m value found => rfl
        | response identifier m value found =>
          by_cases hm : m = n
          · subst hm
            rw [ProtocolReader.Serves, hreads.afterArrivals, ProtocolReader.afterArrivals_oneShot, if_neg hempty] at hserves
            rw [hserves, RequestProtocol.completion]
            simp
          · exact hanswers _ (if_neg hm)
      rw [List.filterMap_cons_none hcompletion]
      exact ih

end Completion

section Runs

variable [Ballotin] (registry : ProtocolRegistry)

def readChunk (s : Reading υ) (chunk : List UInt8) : Reading υ :=
  Program.final (Reading.readInboundBytes registry { s with inboundBytes := s.inboundBytes ++ chunk })

def readChunks (chunks : List (List UInt8)) (s : Reading υ) : Reading υ := chunks.foldl (readChunk registry) s

variable {registry} [LawfulBallotin]

/-- The frames of a stream that were consumed, and what arrived while it was read. -/
theorem readChunks_frames (hregistry : registry.Reachable) (chunks : List (List UInt8)) (s : Reading υ) :
    ∃ (frames : List (Frame × ℕ)) (new : List (Arrival υ)),
      FramesRead registry (s.inboundBytes ++ chunks.flatten) frames (readChunks registry chunks s).inboundBytes ∧
      (readChunks registry chunks s).arrivals = s.arrivals ++ new ∧
      ProtocolReader.Reads s.reader s.user new (readChunks registry chunks s).reader (readChunks registry chunks s).user ∧
      ∀ n, new.filterMap (Arrival.answers n) = (frames.map Prod.fst).filterMap (Frame.answers n) := by
  induction chunks generalizing s with
  | nil => exact ⟨[], [], by rw [List.flatten_nil, List.append_nil]; exact .nil _, (List.append_nil _).symm, .nil _ _,
      fun _ => rfl⟩
  | cons chunk chunks ih =>
    obtain ⟨frames, thrown, hframes, -, hrequests, harrivals, -⟩ :=
      readInboundBytes_frames hregistry { s with inboundBytes := s.inboundBytes ++ chunk }
    obtain ⟨new, hnew, hreads⟩ :=
      Reading.readInboundBytes_serves registry { s with inboundBytes := s.inboundBytes ++ chunk }
    obtain ⟨frames', new', hframes', hnew', hreads', hanswers'⟩ := ih (readChunk registry s chunk)
    obtain rfl : new = arrivalsOf s.reader (frames.map Prod.fst ++ thrown) :=
      List.append_cancel_left (hnew.symm.trans harrivals)
    have hthrown : ∀ n, thrown.filterMap (Frame.answers n) = [] := fun n =>
      List.filterMap_eq_nil_iff.mpr fun f hf => f.answers_request n (hrequests f hf)
    refine ⟨frames ++ frames', _, ?_, ?_, hreads.trans hreads', fun n => ?_⟩
    · rw [List.flatten_cons, ← List.append_assoc]
      exact (hframes.append chunks.flatten).trans hframes'
    · exact hnew'.trans (by rw [readChunk, hnew, List.append_assoc])
    · rw [List.filterMap_append, arrivalsOf_answers, hanswers', List.map_append, List.filterMap_append,
        List.filterMap_append, hthrown, List.append_nil]

/-- A consumer that waits for the response of a request, over any stream. It is called at most once. Its entry is
removed only by a response of its own protocol if and only if the first response with its number is one. -/
theorem pending_removedOnlyByOwn_iff (hregistry : registry.Reachable) (p : RequestProtocol) (n : ProtocolSequenceNumber)
    (responseConsumer : p.responseType.Value → EStateM Exception υ Unit) (s : Reading υ)
    (hpending : s.reader.inboundOneShotResponseConsumers[n]? = some (p.expecting responseConsumer))
    (chunks : List (List UInt8)) :
    ∃ (frames : List (Frame × ℕ)) (new : List (Arrival υ)),
      FramesRead registry (s.inboundBytes ++ chunks.flatten) frames (readChunks registry chunks s).inboundBytes ∧
      (readChunks registry chunks s).arrivals = s.arrivals ++ new ∧
      ProtocolReader.Reads s.reader s.user new (readChunks registry chunks s).reader (readChunks registry chunks s).user ∧
      (∀ identifier value found, Arrival.response identifier n value (some found) ∈ new →
        found = p.expecting responseConsumer) ∧
      (new.filterMap (p.completion n)).length ≤ 1 ∧
      (RemovedOnlyByOwn p n s.reader new ↔
        ∀ identifier, ((frames.map Prod.fst).filterMap (Frame.answers n)).head? = some identifier →
          identifier = p.response.protocolIdentifier) := by
  obtain ⟨frames, new, hframes, hnew, hreads, hanswers⟩ := readChunks_frames hregistry chunks s
  refine ⟨frames, new, hframes, hnew, hreads, fun _ _ _ => hreads.found hpending, (hreads.completions p).1, ?_⟩
  rw [← hanswers]
  exact removedOnlyByOwn_iff p (by rw [Table.contains_eq, hpending]; rfl) new

end Runs

/-! A client waits for the response to a ping with the number 5, and the server answers an echo with that number
first. -/

def echoProtocol : RequestProtocol where
  metadata :=
    { name := "sample::Echo", fields := .cons .u32 .nil, protocolIdentifier := 5, hasStaticSize := true
      staticNumberOfBits := 32, sizes := u32_sizes }
  response :=
    { name := "sample::Echo::Response", fields := .cons .boolean .nil, protocolIdentifier := 6
      hasStaticSize := true, staticNumberOfBits := 1, sizes := boolean_sizes }

def echoRegistry : ProtocolRegistry :=
  Program.final (@ProtocolRegistry.registerRequestProtocol referenceBallotin echoProtocol pingRegistry)

theorem echoRegistry_reachable : @ProtocolRegistry.Reachable referenceBallotin echoRegistry :=
  @ProtocolRegistry.Reachable.request referenceBallotin _ echoProtocol pingRegistry_reachable

def countPong (_ : pingProtocol.responseType.Value) (calls : ℕ) : EStateM.Result Exception ℕ Unit := .ok () (calls + 1)

def waitingReading : Reading ℕ :=
  { pingReading with reader := { ProtocolReader.new with
      inboundOneShotResponseConsumers := Std.ExtTreeMap.insert ∅ 5 (pingProtocol.expecting countPong) } }

/-- The responses of an echo and of a ping, both with the number 5. -/
def echoThenPong : List UInt8 :=
  [0, 0, 0, 6, 0, 0, 0, 0, 0, 0, 0, 5, 0, 0, 0, 2, 192, 0, 0, 0, 4, 0, 0, 0, 0, 0, 0, 0, 5, 0, 0, 0, 2, 192]

/-- A pong with the number 5 in two chunks. -/
theorem pong_removedOnlyByOwn : ∃ (frames : List (Frame × ℕ)) (new : List (Arrival ℕ)),
    @FramesRead referenceBallotin pingRegistry
      [0, 0, 0, 4, 0, 0, 0, 0, 0, 0, 0, 5, 0, 0, 0, 2, 192] frames [] ∧
    (new.filterMap (pingProtocol.completion 5)).length ≤ 1 ∧
    RemovedOnlyByOwn pingProtocol 5 waitingReading.reader new ∧
    (∀ identifier, ((frames.map Prod.fst).filterMap (Frame.answers 5)).head? = some identifier → identifier = 4) ∧
    (@readChunks ℕ referenceBallotin pingRegistry [[0, 0, 0, 4, 0, 0, 0, 0, 0], [0, 0, 5, 0, 0, 0, 2, 192]]
      waitingReading).user = 1 := by
  obtain ⟨frames, new, hframes, hnew, -, -, hcompletions, hiff⟩ := @pending_removedOnlyByOwn_iff ℕ referenceBallotin
    pingRegistry referenceBallotin_lawful pingRegistry_reachable pingProtocol 5 countPong waitingReading
    Std.ExtTreeMap.getElem?_insert_self [[0, 0, 0, 4, 0, 0, 0, 0, 0], [0, 0, 5, 0, 0, 0, 2, 192]]
  have hown : RemovedOnlyByOwn pingProtocol 5 waitingReading.reader new := by
    have hanswered : new.filterMap (Arrival.answers 5) = [4] :=
      (congrArg (List.filterMap (Arrival.answers 5)) hnew).symm.trans rfl
    rw [removedOnlyByOwn_iff _ Std.ExtTreeMap.contains_insert_self, hanswered]
    exact fun identifier h => (Option.some_inj.mp h).symm
  exact ⟨frames, new, hframes, hcompletions, hown, hiff.mp hown, rfl⟩

/-- The response of the echo takes the entry of the ping, whose own response then finds nobody. -/
theorem echo_removes_ping :
    @ProtocolRegistry.Reachable referenceBallotin echoRegistry ∧
    ¬ RemovedOnlyByOwn pingProtocol 5 waitingReading.reader
      (@readChunks ℕ referenceBallotin echoRegistry [echoThenPong] waitingReading).arrivals ∧
    (@readChunks ℕ referenceBallotin echoRegistry [echoThenPong] waitingReading).inboundBytes = [] ∧
    (@readChunks ℕ referenceBallotin echoRegistry [echoThenPong] waitingReading).user = 0 := by
  refine ⟨echoRegistry_reachable, fun h => ?_, rfl, rfl⟩
  rw [removedOnlyByOwn_iff _ Std.ExtTreeMap.contains_insert_self] at h
  exact absurd (h 6 rfl) (by decide)

end Farseer
